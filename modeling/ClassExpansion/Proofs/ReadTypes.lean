import ClassExpansion.Proofs.KeptAttributes
import ClassExpansion.Proofs.LegibleItems
import ClassExpansion.Proofs.LexedTokens
import ClassExpansion.Proofs.MarkerTypes

set_option autoImplicit false

/- The types that come to a class: those that are read of tokens that a text can hold. Whatever is
read, a text can hold the tokens of the type again. -/
namespace ClassExpansion

open ClassExpansion.Parser
open ClassTable (mem_declarations)
open Token (Legible)

/-- The struct is the item, or is among the items of a module. -/
inductive Item.Holds (s : StructItem) : Item → Prop
  | struct : Holds s (.struct s)
  | module (head : ModuleHead) (items : List Item) (item : Item) (member : item ∈ items)
      (holds : Holds s item) : Holds s (.module head (some items))

/-- The type is read of legible tokens, with as many levels of the grammar as it may need: by
itself, as the type of a field, or inside of such a type. -/
inductive Ty.IsRead : Ty → Prop
  | type (depth : Nat) (plus groupArguments : Bool) (s t : ParseState) (ty : Ty)
      (legible : Legible s.rest)
      (reads : Reads ((Grammar.ofDepth depth).type plus groupArguments) s ty t) : IsRead ty
  | field (tokens : Tokens) (item : Item) (s : StructItem) (f : StructField)
      (legible : Legible tokens) (read : readItemOf tokens = .ok item) (holds : item.Holds s)
      (member : f ∈ s.namedFields) : IsRead f.ty
  | part (inner whole : Ty) (isPart : inner.IsPart whole) (read : IsRead whole) : IsRead inner

theorem Item.holds_of_classStruct? {item : Item} {s : StructItem}
    (is : Expansion.classStruct? item = some s) : item.Holds s := by
  unfold Expansion.classStruct? at is
  split at is
  · split at is
    · cases is
      exact .struct
    · cases is
  · cases is

theorem Item.Holds.isLegible {item : Item} {s : StructItem} (holds : item.Holds s)
    (legible : item.IsLegible) : s.IsLegible := by
  induction holds with
  | struct => exact (Item.isLegible_struct_iff s).mp legible
  | module head items item member _ ih =>
    rw [Item.IsLegible, Item.areLegible_iff] at legible
    exact ih (legible.2 item member)

theorem Item.isLegible_of_readItemOf (tokens : Tokens) (legible : Legible tokens) (item : Item)
    (read : readItemOf tokens = .ok item) : item.IsLegible := by
  obtain ⟨t, reads, _⟩ := (runAll_eq_ok_iff _ _ _).mp read
  exact ((Grammar.isLegible_ofDepth _).item [] _ _ _ (stands_of_legible legible .firm) reads).2

theorem StructItem.IsLegible.field_ty {s : StructItem} (legible : s.IsLegible) (f : StructField)
    (member : f ∈ s.namedFields) : f.ty.IsLegible := by
  unfold StructItem.namedFields at member
  split at member
  · next fields named => exact legible.fields fields named f member
  · cases member

namespace Ty

/-- What stands in a legible type is a legible type. -/
theorem IsLegible.part {part whole : Ty} (legible : whole.IsLegible) (isPart : part.IsPart whole) :
    part.IsLegible := by
  cases isPart with
  | paren | group =>
    rw [IsLegible] at legible
    exact legible
  | argument qualified lead segments name turbofish arguments inner comma segment member =>
    rw [IsLegible, PathSegment.areLegible_iff] at legible
    have within := legible.2 _ segment
    rw [PathSegment.IsLegible, PathArguments.IsLegible,
      GenericArgument.areLegible_iff] at within
    have argument := within.2 _ member
    rw [GenericArgument.IsLegible] at argument
    exact argument

namespace IsRead

theorem isLegible {ty : Ty} (read : ty.IsRead) : ty.IsLegible := by
  induction read with
  | type depth plus groupArguments s t ty legible reads =>
    have sound := (Grammar.isLegible_ofDepth depth).type plus groupArguments []
    exact (sound s ty t (stands_of_legible legible .firm) reads).2
  | field tokens item s f legible read holds member =>
    have known := Item.isLegible_of_readItemOf tokens legible item read
    exact (holds.isLegible known).field_ty f member
  | part inner whole isPart _ ih => exact ih.part isPart

theorem legible {ty : Ty} (read : ty.IsRead) : Legible ty.tokens :=
  Ty.IsLegible.tokens ty read.isLegible

theorem properPart {inner whole : Ty} (read : whole.IsRead) (proper : inner.IsProperPart whole) :
    inner.IsRead := by
  induction proper using Relation.TransGen.head_induction_on with
  | single isPart => exact .part _ _ isPart read
  | head isPart _ ih => exact .part _ _ isPart ih

/-- The values of a marker type have the type that stands in it. -/
theorem valueType {ty value : Ty} (read : ty.IsRead) (holds : ty.valueType = .ok value) :
    value.IsRead := by
  rcases (ty.valueType_eq_ok_iff value).mp holds with ⟨_, inner⟩ | ⟨_, rfl⟩
  · exact read.properPart inner.isProperPart
  · exact read

end IsRead

theorem isRead_of_readTypeOf (tokens : Tokens) (legible : Legible tokens) (ty : Ty)
    (read : readTypeOf tokens = .ok ty) : ty.IsRead := by
  obtain ⟨t, reads, _⟩ := (runAll_eq_ok_iff _ _ _).mp read
  exact .type _ true true _ t ty legible reads

theorem isRead_of_text (text : String) (tokens : Tokens)
    (lexed : Lexer.tokens? text = some tokens) (ty : Ty) (read : readTypeOf tokens = .ok ty) :
    ty.IsRead :=
  isRead_of_readTypeOf tokens (Lexer.legible_tokens? text tokens lexed) ty read

end Ty

namespace Field

/-- The field is among those of a class of an item that is read of legible tokens: of a struct by
itself, or of a class of a module. -/
inductive IsCollected (field : Field) : Prop
  | ofStruct (tokens arguments : Tokens) (s : StructItem) (decl : ClassDecl) (fields : FieldList)
      (legible : Legible tokens) (read : readItemOf tokens = .ok (.struct s))
      (isClass : ClassDecl.ofStruct s (some arguments) = .ok decl)
      (collected : FieldList.collect [decl] decl = .ok fields) (member : field ∈ fields)
  | ofModule (tokens : Tokens) (head : ModuleHead) (items : List Item) (decl : ClassDecl)
      (fields : FieldList) (legible : Legible tokens)
      (read : readItemOf tokens = .ok (.module head (some items)))
      (isClass : decl ∈ Expansion.classes items)
      (collected : FieldList.collect (Expansion.classes items) decl = .ok fields)
      (member : field ∈ fields)

/-- A field has the type of its last declaration, in whichever struct along the line it stands. -/
theorem isRead_of_collect (tokens : Tokens) (legible : Legible tokens) (item : Item)
    (read : readItemOf tokens = .ok item) (table : ClassTable) (decl : ClassDecl)
    (declared : ∀ c ∈ decl :: table, ∃ s, item.Holds s ∧ s.Declares c) (fields : FieldList)
    (collected : FieldList.collect table decl = .ok fields) (field : Field)
    (member : field ∈ fields) : field.ty.IsRead ∧ field.valueTy.IsRead := by
  obtain ⟨line, _, ancestry, _⟩ := FieldList.exists_of_collect table decl fields collected
  obtain ⟨last, _, isLast, resolves⟩ :=
    FieldList.exists_declared_of_mem table decl fields collected line ancestry field member
  have inLine := (mem_declarations line last).mp (mem_of_lastNamed? _ _ _ _ isLast).1
  obtain ⟨s, holds, declares⟩ := declared _ (table.mem_of_ancestry decl line ancestry _ inLine.1)
  obtain ⟨source, inStruct, same⟩ :=
    exists_mem_of_forall₂ _ _ _ declares.fields last.field inLine.2
  have ty : last.field.ty.IsRead := by
    rw [same.ty]
    exact .field tokens item s source legible read holds inStruct
  refine ⟨?_, ty.valueType resolves.valueTy⟩
  rw [resolves.ty]
  exact ty

theorem IsCollected.isRead {field : Field} (collected : field.IsCollected) :
    field.ty.IsRead ∧ field.valueTy.IsRead := by
  cases collected with
  | ofStruct tokens arguments s decl fields legible read isClass collected member =>
    refine isRead_of_collect tokens legible _ read [decl] decl ?_ fields collected field member
    intro c inTable
    rw [List.mem_cons, List.mem_singleton, or_self] at inTable
    exact ⟨s, .struct, inTable ▸ ClassDecl.declares_of_ofStruct s _ decl isClass⟩
  | ofModule tokens head items decl fields legible read isClass collected member =>
    refine isRead_of_collect tokens legible _ read _ decl ?_ fields collected field member
    intro c inTable
    have known : c ∈ Expansion.classes items := by
      rcases List.mem_cons.mp inTable with same | above
      · exact same ▸ isClass
      · exact above
    obtain ⟨s, inStructs, declares⟩ := Expansion.exists_declares_of_mem items c known
    obtain ⟨item, inItems, isStruct⟩ := List.mem_filterMap.mp inStructs
    exact ⟨s, .module head items item inItems (Item.holds_of_classStruct? isStruct), declares⟩

end Field

end ClassExpansion
