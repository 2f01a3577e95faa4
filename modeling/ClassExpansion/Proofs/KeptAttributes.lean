import ClassExpansion.Proofs.LineReports
import ClassExpansion.Proofs.MemberNames

set_option autoImplicit false

/- What is kept of the structs that declare classes. What is said to the macro is consumed, and all
other attributes are written where they stand, whether a class is made or kept as it is. -/
namespace ClassExpansion

open ClassTable (Declared declarations)

/-- Attributes of two names are kept apart. -/
theorem Attribute.isNamed_unique (a : Attribute) (name other : String)
    (named : a.isNamed name = true) (differs : name ≠ other) : a.isNamed other = false := by
  unfold isNamed NamePath.isName at named ⊢
  rw [beq_iff_eq.mp named]
  exact beq_eq_false_iff_ne.mpr fun same => differs (Option.some.inj same)

namespace StructField

/-- The name without the mark of a raw one. -/
def unrawName (field : StructField) : String := Name.unraw field.name

/-- The field without what is said of it to the macro. -/
def cleaned (field : StructField) : StructField :=
  { field with attrs := field.attrs.filter fun a => !a.isNamed "field" }

end StructField

namespace StructItem

def namedFields (s : StructItem) : List StructField :=
  match s.fields with
  | .named fields => fields
  | _ => []

/-- The struct without what is said to the macro. -/
def cleaned (s : StructItem) : StructCode where
  attrs := s.attrs.filter fun a => !a.isNamed "inity"
  vis := s.vis
  name := s.name
  fields := s.namedFields.map StructField.cleaned

/-- The last field with the name along the structs. -/
def lastField? (structs : List StructItem) (name : String) : Option StructField :=
  lastNamed? StructField.unrawName (structs.flatMap namedFields) name

end StructItem

/-- The declared field is that of the struct. -/
structure StructField.Declares (source : StructField) (field : FieldDecl) : Prop where
  ident : field.ident = source.name
  ty : field.ty = source.ty
  vis : field.vis = source.vis
  attrs : field.attrs = source.cleaned.attrs

/-- The class is that of the struct, whatever is known of its methods. -/
structure StructItem.Declares (s : StructItem) (decl : ClassDecl) : Prop where
  ident : decl.ident = s.name
  vis : decl.vis = s.vis
  attrs : decl.attrs = s.cleaned.attrs
  fields : List.Forall₂ StructField.Declares s.namedFields decl.fields

theorem FieldDecl.declares_of_ofField (source : StructField) (field : FieldDecl)
    (read : ofField source = .ok field) : source.Declares field := by
  unfold ofField at read
  rw [Attempt.bind_eq_ok_iff] at read
  obtain ⟨spec?, _, made⟩ := read
  cases made
  exact ⟨rfl, rfl, rfl, rfl⟩

theorem ClassDecl.declares_of_ofStruct (s : StructItem) (arguments : Option Tokens)
    (decl : ClassDecl) (read : ofStruct s arguments = .ok decl) : s.Declares decl := by
  unfold ofStruct at read
  simp only [Attempt.bind_eq_ok_iff] at read
  obtain ⟨sources, named, options, _, rest⟩ := read
  have sourcesOfStruct : s.namedFields = sources := by
    unfold ClassDecl.namedFields at named
    unfold StructItem.namedFields
    cases is : s.fields with
    | named fields =>
      rw [is] at named
      exact Except.ok.inj named
    | unnamed =>
      rw [is] at named
      cases named
    | unit =>
      rw [is] at named
      cases named
  split at rest
  · simp only [Attempt.bind_eq_ok_iff] at rest
    obtain ⟨_, impossible, _⟩ := rest
    cases impossible
  · simp only [Attempt.bind_eq_ok_iff] at rest
    obtain ⟨_, _, _, _, fields, gathered, made⟩ := rest
    cases made
    refine ⟨rfl, rfl, rfl, ?_⟩
    rw [Attempt.gather_eq_ok_iff, map_eq_map_iff_forall₂] at gathered
    · rw [sourcesOfStruct]
      exact gathered.imp FieldDecl.declares_of_ofField
    · intro attempt member
      obtain ⟨source, _, rfl⟩ := List.mem_map.mp member
      exact (FieldDecl.failsBy_ofField source).explained

namespace StructItem.Declares

theorem seen {s : StructItem} {decl : ClassDecl} (declares : s.Declares decl)
    (items : List Item) : s.Declares (Expansion.seen items decl) :=
  ⟨declares.ident, declares.vis, declares.attrs, declares.fields⟩

/-- A class that is kept as it is declared is written as the struct is. -/
theorem declared_eq {s : StructItem} {decl : ClassDecl} (declares : s.Declares decl) :
    decl.declared = s.cleaned := by
  unfold ClassDecl.declared StructItem.cleaned
  rw [StructCode.mk.injEq]
  refine ⟨declares.attrs, declares.vis, declares.ident, ?_⟩
  symm
  rw [map_eq_map_iff_forall₂]
  refine declares.fields.imp fun source field same => ?_
  rw [same.attrs, same.vis, same.ident, same.ty]
  rfl

end StructItem.Declares

theorem forall₂_declarations (structs : List StructItem) (line : List ClassDecl)
    (declare : List.Forall₂ StructItem.Declares structs line) :
    List.Forall₂ (fun source declared => source.Declares declared.field)
      (structs.flatMap StructItem.namedFields) (declarations line) := by
  induction declare with
  | nil => exact .nil
  | @cons s decl structs line first rest ih =>
    rw [List.flatMap_cons, ClassTable.declarations_cons]
    have own : List.Forall₂ (fun source declared => source.Declares declared.field)
        s.namedFields (decl.fields.map fun field => (⟨decl, field⟩ : Declared)) :=
      List.forall₂_map_right_iff.mpr first.fields
    exact List.rel_append own ih

/-- The written field has type and visibility of the field that is declared last by the name, and
those of its attributes that are kept. -/
def StructField.Keeps (structs : List StructItem) (kept : Attribute → Bool) (field : Field)
    (made : StructField) : Prop :=
  made.ty = field.valueTy ∧ ∃ source, StructItem.lastField? structs field.name = some source ∧
    made.vis = source.vis ∧ made.attrs = source.attrs.filter kept

/-- Nothing that is said to the macro is left. -/
structure StructCode.Consumed (code : StructCode) : Prop where
  own : ∀ a ∈ code.attrs, a.isNamed "inity" = false
  fields : ∀ field ∈ code.fields, ∀ a ∈ field.attrs, a.isNamed "field" = false

theorem StructItem.consumed_cleaned (s : StructItem) : s.cleaned.Consumed where
  own a member := (Bool.not_eq_true' _).mp (List.mem_filter.mp member).2
  fields made member a inAttrs := by
    obtain ⟨source, _, rfl⟩ := List.mem_map.mp member
    exact (Bool.not_eq_true' _).mp (List.mem_filter.mp inAttrs).2

/-- The code of a class keeps what its struct and those of its bases say to others. -/
structure ClassCode.Keeps (s : StructItem) (structs : List StructItem) (fields : FieldList)
    (code : ClassCode) : Prop where
  consumed : code.layout.Consumed
  name : code.layout.name = s.name
  vis : code.layout.vis = s.vis
  attrs : code.layout.attrs = s.attrs.filter fun a => !a.isNamed "inity"
  stored : List.Forall₂ (fun field made => field.storage? = some made.name ∧
    made.Keeps structs (fun a => !a.isNamed "field") field) fields.stored code.layout.fields
  optional : code.options? = none ↔ fields.keyword = []
  documented : ∀ options, code.options? = some options →
    List.Forall₂ (fun field made => made.name = field.ident ∧
      made.Keeps structs (·.isNamed "doc") field) fields.keyword options.layout.fields

namespace ClassTable

variable (table : ClassTable) (decl : ClassDecl) (fields : FieldList)
variable (s : StructItem) (structs : List StructItem)

section Collected

variable (line : List ClassDecl) (ancestry : table.ancestry decl = .ok line)
variable (declare : List.Forall₂ StructItem.Declares structs line)
variable (collected : FieldList.collect table decl = .ok fields)

include ancestry declare collected

/-- A field of the class is declared last where the structs do so. -/
theorem exists_source_of_mem (field : Field) (member : field ∈ fields) :
    ∃ source, StructItem.lastField? structs field.name = some source ∧
      field.vis = source.vis ∧ field.attrs = source.cleaned.attrs := by
  obtain ⟨declared, _, last, resolves⟩ :=
    FieldList.exists_declared_of_mem table decl fields collected line ancestry field member
  have sameName : ∀ (source : StructField) (declared : Declared),
      source.Declares declared.field → declared.name = source.unrawName :=
    fun source declared same => congrArg Name.unraw same.ident
  obtain ⟨source, lastSource, same⟩ := exists_lastNamed?_of_forall₂ StructField.unrawName
    Declared.name _ sameName _ _ (forall₂_declarations structs line declare) _ declared last
  refine ⟨source, lastSource, ?_, ?_⟩
  · rw [resolves.vis, same.vis]
  · rw [resolves.attrs, same.attrs]

theorem keeps_stored (field : Field) (member : field ∈ fields) (name : String) :
    StructField.Keeps structs (fun a => !a.isNamed "field") field
      ⟨field.attrs, field.vis, name, field.valueTy⟩ := by
  obtain ⟨source, last, vis, attrs⟩ :=
    table.exists_source_of_mem decl fields structs line ancestry declare collected field member
  exact ⟨rfl, source, last, vis, attrs⟩

/-- What documents a field is not said to the macro. -/
theorem keeps_documented (field : Field) (member : field ∈ fields) (name : String) :
    StructField.Keeps structs (·.isNamed "doc") field
      ⟨field.attrs.filter (·.isNamed "doc"), field.vis, name, field.valueTy⟩ := by
  obtain ⟨source, last, vis, attrs⟩ :=
    table.exists_source_of_mem decl fields structs line ancestry declare collected field member
  refine ⟨rfl, source, last, vis, ?_⟩
  rw [attrs, StructField.cleaned, List.filter_filter]
  refine List.filter_congr fun a _ => ?_
  cases documents : a.isNamed "doc" with
  | false => rfl
  | true => rw [a.isNamed_unique "doc" "field" documents (by decide)]; rfl

theorem forall₂_keeps_stored :
    List.Forall₂ (fun field made => field.storage? = some made.name ∧
      made.Keeps structs (fun a => !a.isNamed "field") field)
      fields.stored (decl.layout fields).fields := by
  have inFields : ∀ field ∈ fields.stored, field ∈ fields :=
    fun field member => (List.mem_filter.mp member).1
  refine ((List.forall₂_and_left _ _).mpr ⟨inFields, fields.forall₂_stored _⟩).imp ?_
  rintro field made ⟨member, storage, stored, rfl⟩
  exact ⟨stored, table.keeps_stored decl fields structs line ancestry declare collected field
    member storage⟩

theorem forall₂_keeps_documented (options : KeywordOptions)
    (given : KeywordOptions.ofFields? decl fields = some options) :
    List.Forall₂ (fun field made => made.name = field.ident ∧
      made.Keeps structs (·.isNamed "doc") field) fields.keyword options.layout.fields := by
  unfold KeywordOptions.ofFields? at given
  split at given
  · cases given
  · cases given
    rw [List.forall₂_map_right_iff, List.forall₂_same]
    intro field member
    have inFields := (List.mem_filter.mp (List.mem_filter.mp member).1).1
    exact ⟨rfl, table.keeps_documented decl fields structs line ancestry declare collected field
      inFields field.ident⟩

theorem keeps_of_ofFields (declares : s.Declares decl) (code : ClassCode)
    (made : ClassCode.ofFields table decl fields = .ok code) : code.Keeps s structs fields := by
  have isMade := ClassCode.isMade_of_ofFields table decl fields code made
  have stored :=
    table.forall₂_keeps_stored decl fields structs line ancestry declare collected
  have consumed : (decl.layout fields).Consumed := by
    refine ⟨fun a member => ?_, fun made inLayout a member => ?_⟩
    · exact s.consumed_cleaned.own a (declares.attrs ▸ member)
    · obtain ⟨_, _, _, _, source, _, _, attrs⟩ := exists_mem_of_forall₂ _ _ _ stored made inLayout
      rw [attrs] at member
      exact (Bool.not_eq_true' _).mp (List.mem_filter.mp member).2
  rw [← isMade.layout] at stored consumed
  refine ⟨consumed, ?_, ?_, ?_, stored, ?_, fun options given => ?_⟩
  · rw [isMade.layout, ← declares.ident]
    rfl
  · rw [isMade.layout, ← declares.vis]
    rfl
  · rw [isMade.layout]
    exact declares.attrs
  · rw [isMade.options, KeywordOptions.ofFields?]
    split
    · next none => exact ⟨fun _ => List.isEmpty_iff.mp none, fun _ => rfl⟩
    · next some =>
      rw [List.isEmpty_iff] at some
      simp only [reduceCtorEq, some]
  · rw [isMade.options] at given
    exact table.forall₂_keeps_documented decl fields structs line ancestry declare collected
      options given

end Collected

end ClassTable

/-- A class is made in place of its struct, and keeps what is said to others in the struct and in
those of its bases. -/
inductive Replacement.Makes (table : ClassTable) (decl : ClassDecl) (s : StructItem)
    (structs : List StructItem) (part : Replacement) : Prop
  | mk (line : List ClassDecl) (above : List StructItem) (fields : FieldList) (code : ClassCode)
      (ancestry : table.ancestry decl = .ok line) (bases : above ⊆ structs)
      (declare : List.Forall₂ StructItem.Declares (s :: above) line)
      (collected : FieldList.collect table decl = .ok fields)
      (spelled : code.tokens = .ok part.tokens)
      (written : code.IsWrittenAs (.ofFields decl.ident fields) part.tokens)
      (keeps : code.Keeps s (s :: above) fields) :
      Makes table decl s structs part

namespace ClassTable

variable (table : ClassTable) (decl : ClassDecl) (s : StructItem) (structs : List StructItem)

theorem makes_of_generate (made : decl.hasOwnConstructor = false) (part : Replacement)
    (generated : table.generate decl = .ok part) (declares : s.Declares decl)
    (declared : ∀ c ∈ table, ∃ other ∈ structs, other.Declares c) :
    part.Makes table decl s structs := by
  obtain ⟨fields, collected, written⟩ :=
    table.exists_fields_of_generate decl made part generated
  obtain ⟨code, ofFields, tokens, _, shown⟩ :=
    table.exists_written_of_write decl fields part written
  obtain ⟨line, _, ancestry, _⟩ := FieldList.exists_of_collect table decl fields collected
  have climb := ((table.ancestry_eq_ok_iff decl line).mp ancestry).1
  -- Every class above stands in the table, and so has a struct.
  have partners : ∀ c ∈ line.tail, ∃ other, other ∈ structs ∧ other.Declares c :=
    fun c member => declared c (climb.mem_table c member)
  obtain ⟨above, each⟩ := (forall_exists_iff_forall₂ _ _).mp partners
  have declare : List.Forall₂ StructItem.Declares (s :: above) line := by
    rw [climb.eq_cons]
    exact .cons declares (each.imp fun _ _ both => both.2).flip
  have bases : above ⊆ structs := by
    intro other member
    obtain ⟨_, _, inStructs, _⟩ := exists_mem_of_forall₂ _ _ _ each other member
    exact inStructs
  exact ⟨line, above, fields, code, ancestry, bases, declare, collected, tokens, shown,
    table.keeps_of_ofFields decl fields s _ line ancestry declare collected declares code ofFields⟩

end ClassTable

namespace Expansion

variable (items : List Item)

theorem exists_declares_of_mem (decl : ClassDecl) (member : decl ∈ classes items) :
    ∃ s ∈ classStructs items, s.Declares decl := by
  obtain ⟨s, inStructs, read, isRead, rfl⟩ := (mem_classes_iff items decl).mp member
  exact ⟨s, inStructs, (ClassDecl.declares_of_ofStruct s none read isRead).seen items⟩

/-- A class with a constructor in the module is its struct and nothing more, and any other is
made. -/
structure KeepsAttributes (s : StructItem) (part : Replacement) : Prop where
  declared : HasConstructor items s → part = ⟨s.cleaned.tokens, none⟩ ∧
    s.cleaned.IsWrittenAs part.tokens ∧ s.cleaned.Consumed
  made : ¬ HasConstructor items s →
    ∃ decl ∈ classes items, part.Makes (classes items) decl s (classStructs items)

theorem keepsAttributes_of_replaces (item : Item) (part : Replacement) (s : StructItem)
    (isClass : classStruct? item = some s) (inStructs : s ∈ classStructs items)
    (replaces : Replaces items item part) : KeepsAttributes items s part := by
  cases replaces with
  | kept plain =>
    rw [isClass] at plain
    cases plain
  | generated other decl _ marked read visible generated =>
    obtain rfl : other = s := Option.some.inj (marked.symm.trans isClass)
    have declares := (ClassDecl.declares_of_ofStruct other none decl read).seen items
    have own := hasOwnConstructor_iff items other decl read
    constructor
    · intro has
      unfold ClassTable.generate at generated
      rw [if_pos (own.mpr has)] at generated
      rw [declares.declared_eq] at generated
      cases generated
      exact ⟨rfl, other.cleaned.isWrittenAs, other.consumed_cleaned⟩
    · intro without
      have made := Bool.eq_false_iff.mpr (mt own.mp without)
      have member := (mem_classes_iff items _).mpr ⟨other, inStructs, decl, read, rfl⟩
      exact ⟨_, member, ClassTable.makes_of_generate _ _ other _ made part generated declares
        (exists_declares_of_mem items)⟩

/-- What is said to the macro is consumed, and every other attribute is kept: for a struct by
itself, and for each class of a module, whether it is made or kept as it is declared. -/
theorem attributes_kept (item : StructItem) (arguments : Tokens) (head : ModuleHead)
    (expansion : Expansion) :
    (ofStruct item arguments = .ok expansion →
      ∃ (decl : ClassDecl) (part : Replacement),
        ClassDecl.ofStruct item (some arguments) = .ok decl ∧
        expansion = ⟨part.tokens, part.debug?.toList⟩ ∧
        part.Makes [decl] decl item [item]) ∧
    (ofModule head (some items) [] = .ok expansion →
      ∃ parts, expansion = assembled head parts ∧
        head.IsWrittenAs (parts.flatMap (·.tokens)) expansion.tokens ∧
        List.Forall₂ (fun item part => match classStruct? item with
          | some s => KeepsAttributes items s part
          | none => part = ⟨item.tokens, none⟩) items parts) := by
  constructor
  · intro expanded
    obtain ⟨decl, part, read, _, generated, same⟩ :=
      exists_class_of_ofStruct item arguments expansion expanded
    have declares := ClassDecl.declares_of_ofStruct item _ decl read
    have made := ClassDecl.hasOwnConstructor_of_ofStruct item _ decl read
    refine ⟨decl, part, read, same, ?_⟩
    refine ClassTable.makes_of_generate _ _ item _ made part generated declares ?_
    intro c member
    rw [List.mem_singleton.mp member]
    exact ⟨item, List.mem_singleton_self item, declares⟩
  · intro expanded
    rw [ofModule_eq, Attempt.map_eq_ok_iff] at expanded
    obtain ⟨parts, replaced, rfl⟩ := expanded
    refine ⟨parts, rfl, head.isWrittenAs _, ?_⟩
    have each := (ofItems_eq_ok_iff items parts).mp replaced
    have inItems : ∀ item ∈ items, item ∈ items := fun _ member => member
    refine ((List.forall₂_and_left _ _).mpr ⟨inItems, each⟩).imp ?_
    rintro item part ⟨member, replaces⟩
    cases isClass : classStruct? item with
    | some s =>
      have inStructs := List.mem_filterMap.mpr ⟨item, member, isClass⟩
      exact keepsAttributes_of_replaces items item part s isClass inStructs replaces
    | none =>
      cases replaces with
      | kept plain => rfl
      | generated _ _ _ marked =>
        rw [isClass] at marked
        cases marked

/-- An attribute that is but a name. -/
def bareAttribute (name : String) : Attribute := ⟨false, ⟨⟨false, [name]⟩, .bare⟩⟩

/-- A default in an attribute for the macro. -/
def defaultAttribute (literal : String) : Attribute :=
  ⟨false, ⟨⟨false, ["field"]⟩, .list .paren (textOption "default" literal)⟩⟩

def cupStruct : StructItem :=
  classStruct "Cup" [] (.named [⟨[bareAttribute "doc", defaultAttribute "1", bareAttribute "skip"],
    [.ident "pub"], "size", .named "u8"⟩])

def mugStruct : StructItem :=
  classStruct "Mug" (textOption "extends" "\"Cup\"")
    (.named [⟨[bareAttribute "rename"], [], "size", .named "u8"⟩])

def jugStruct : StructItem :=
  classStruct "Jug" [] (.named [⟨[defaultAttribute "2", bareAttribute "skip"], [], "size",
    .marked "ClassVar" (.named "u8")⟩])

/-- A cup, a mug that is a cup, and a jug with a constructor. -/
def shelfOfCups : List Item :=
  [.struct cupStruct, .struct mugStruct, .struct jugStruct,
    .impl ⟨[], false, .named "Jug", ["new"], []⟩]

def cupModule : ModuleHead := ⟨[], [.ident "mod", .ident "cups"], []⟩

/-- The mug has the size of the cup, without what is said of it to the macro. -/
theorem attributes_kept_shelfOfCups :
    (∃ (decl : ClassDecl) (part : Replacement),
      ofStruct cupStruct [] = .ok ⟨part.tokens, part.debug?.toList⟩ ∧
      part.Makes [decl] decl cupStruct [cupStruct]) ∧
    ∃ (cup mug : Replacement) (rest : List Replacement),
      ofModule cupModule (some shelfOfCups) [] =
        .ok (assembled cupModule (cup :: mug :: ⟨jugStruct.cleaned.tokens, none⟩ :: rest)) ∧
      (∃ decl, mug.Makes (classes shelfOfCups) decl mugStruct (classStructs shelfOfCups)) ∧
      jugStruct.cleaned.IsWrittenAs jugStruct.cleaned.tokens ∧
      (StructItem.lastField? [mugStruct, cupStruct] "size").map
        (fun source => source.cleaned.attrs.map (·.path.dotted)) = some ["doc", "skip"] := by
  constructor
  · obtain ⟨expansion, expanded⟩ := Attempt.exists_of_isOk (ofStruct cupStruct [])
      (by decide +kernel)
    have kept := attributes_kept shelfOfCups cupStruct [] cupModule expansion
    obtain ⟨decl, part, _, same, makes⟩ := kept.1 expanded
    exact ⟨decl, part, same ▸ expanded, makes⟩
  · obtain ⟨expansion, expanded⟩ := Attempt.exists_of_isOk
      (ofModule cupModule (some shelfOfCups) []) (by decide +kernel)
    have kept := attributes_kept shelfOfCups cupStruct [] cupModule expansion
    obtain ⟨parts, same, _, each⟩ := kept.2 expanded
    obtain _ | ⟨_, _ | ⟨isMug, _ | ⟨isJug, _⟩⟩⟩ := each
    have without : ¬ HasConstructor shelfOfCups mugStruct := by
      rintro ⟨method, member, _⟩
      cases member
    obtain ⟨decl, _, makes⟩ := isMug.made without
    obtain ⟨rfl, shown, _⟩ := isJug.declared ⟨"new", List.mem_singleton_self _, rfl⟩
    exact ⟨_, _, _, same ▸ expanded, ⟨decl, makes⟩, shown, by decide⟩

/-- A constructor that stands in an implementation for a path to the class. -/
def constructorByPath : List Item :=
  [.struct (classStruct "A" [] (.named [⟨[], [], "a", .named "i64"⟩])),
    .impl ⟨[], false, .path false [] [.mk "self" .none, .mk "A" .none], ["new"], []⟩]

/-- It is not taken for a constructor of the class, which does not stay as it is declared. -/
theorem ofItems_constructorByPath :
    (ofItems constructorByPath).isOk = true ∧
    ((ofItems constructorByPath).value?.map fun parts =>
      parts.map fun part => Token.text part.tokens) ≠
      some (constructorByPath.map fun item => match classStruct? item with
        | some s => Token.text s.cleaned.tokens
        | none => Token.text item.tokens) := by
  decide +kernel

end Expansion

end ClassExpansion
