import ClassExpansion.Proofs.LegibleReading
import ClassExpansion.Source.Grammar.Item

set_option autoImplicit false

/- Types, paths, attributes, expressions and items that are made of legible tokens, in all their
parts. Whatever is put together of them is legible too, so what is written of them is. -/
namespace ClassExpansion

open Token (Legible)

mutual

def Ty.IsLegible : Ty → Prop
  | .path _ lead segments => Legible lead ∧ PathSegment.AreLegible segments
  | .paren inner => inner.IsLegible
  | .group inner => inner.IsLegible
  | .bound _ tokens => Legible tokens
  | .other tokens => Legible tokens

def PathSegment.AreLegible : List PathSegment → Prop
  | [] => True
  | s :: rest => s.IsLegible ∧ PathSegment.AreLegible rest

def PathSegment.IsLegible : PathSegment → Prop
  | .mk name arguments => Name.isUsable name = true ∧ arguments.IsLegible

def PathArguments.IsLegible : PathArguments → Prop
  | .none => True
  | .angled _ arguments => GenericArgument.AreLegible arguments
  | .parenthesized tokens => Legible tokens

def GenericArgument.AreLegible : List GenericArgument → Prop
  | [] => True
  | a :: rest => a.IsLegible ∧ GenericArgument.AreLegible rest

def GenericArgument.IsLegible : GenericArgument → Prop
  | .lifetime tokens _ => Legible tokens
  | .type ty _ => ty.IsLegible
  | .other tokens _ => Legible tokens

end

section Arguments

theorem legible_ifElse {condition : Prop} [Decidable condition] {yes no : Tokens}
    (holds : Legible yes) (fails : Legible no) : Legible (if condition then yes else no) := by
  split
  · exact holds
  · exact fails

theorem legible_joinArguments (separated : Bool) (arguments : List (Tokens × Bool))
    (each : ∀ a ∈ arguments, Legible a.1) : Legible (joinArguments separated arguments) := by
  induction arguments generalizing separated with
  | nil => exact Token.legible_nil
  | cons a rest ih =>
    obtain ⟨tokens, comma⟩ := a
    rw [List.forall_mem_cons] at each
    have sign := Token.legible_op "," rfl
    rw [joinArguments]
    refine Legible.append (Legible.append (Legible.append ?_ each.1) ?_) (ih comma each.2)
    · exact legible_ifElse Token.legible_nil sign
    · exact legible_ifElse sign Token.legible_nil

theorem legible_lifetimesFirst (arguments : List (Bool × Tokens × Bool))
    (each : ∀ a ∈ arguments, Legible a.2.1) : Legible (lifetimesFirst arguments) := by
  refine legible_joinArguments _ _ ?_
  simp only [List.mem_append, List.mem_map, List.mem_filter]
  rintro _ (⟨a, ⟨member, _⟩, rfl⟩ | ⟨a, ⟨member, _⟩, rfl⟩)
  · exact each a member
  · exact each a member

end Arguments

mutual

theorem Ty.IsLegible.tokens : (ty : Ty) → ty.IsLegible → Legible ty.tokens
  | .path _ lead segments, legible => by
    rw [Ty.IsLegible] at legible
    rw [Ty.tokens]
    exact legible.1.append (legible_segmentsTokens segments legible.2)
  | .paren inner, legible => by
    rw [Ty.IsLegible] at legible
    rw [Ty.tokens]
    exact (Ty.IsLegible.tokens inner legible).group .paren
  | .group inner, legible => by
    rw [Ty.IsLegible] at legible
    rw [Ty.tokens]
    exact (Ty.IsLegible.tokens inner legible).group .invisible
  | .bound enclosed tokens, legible => by
    rw [Ty.IsLegible] at legible
    rw [Ty.tokens]
    exact legible_ifElse (legible.group .paren) legible
  | .other tokens, legible => by
    rw [Ty.IsLegible] at legible
    rw [Ty.tokens]
    exact legible

theorem legible_segmentsTokens : (segments : List PathSegment) →
    PathSegment.AreLegible segments → Legible (segmentsTokens segments)
  | [], _ => by
    rw [segmentsTokens]
    exact Token.legible_nil
  | s :: rest, legible => by
    rw [PathSegment.AreLegible] at legible
    rw [segmentsTokens]
    refine (Legible.append ?_ ?_).append (legible_segmentsTokens rest legible.2)
    · exact PathSegment.IsLegible.tokens s legible.1
    · exact legible_ifElse Token.legible_nil (Token.legible_op "::" rfl)

theorem PathSegment.IsLegible.tokens : (s : PathSegment) → s.IsLegible → Legible s.tokens
  | .mk name arguments, legible => by
    rw [PathSegment.IsLegible] at legible
    rw [PathSegment.tokens]
    exact (Token.legible_ident name legible.1).append
      (PathArguments.IsLegible.tokens arguments legible.2)

theorem PathArguments.IsLegible.tokens : (arguments : PathArguments) → arguments.IsLegible →
    Legible arguments.tokens
  | .none, _ => by
    rw [PathArguments.tokens]
    exact Token.legible_nil
  | .angled turbofish arguments, legible => by
    rw [PathArguments.IsLegible] at legible
    rw [PathArguments.tokens]
    have colons : Legible (if turbofish then Token.op "::" else []) :=
      legible_ifElse (Token.legible_op "::" rfl) Token.legible_nil
    have within := legible_lifetimesFirst _ (legible_argumentsTokens arguments legible)
    have opened := (colons.append (Token.legible_op "<" rfl)).append within
    exact opened.append (Token.legible_op ">" rfl)
  | .parenthesized tokens, legible => by
    rw [PathArguments.IsLegible] at legible
    rw [PathArguments.tokens]
    exact legible

theorem legible_argumentsTokens : (arguments : List GenericArgument) →
    GenericArgument.AreLegible arguments → ∀ a ∈ argumentsTokens arguments, Legible a.2.1
  | [], _ => by
    rw [argumentsTokens]
    exact List.forall_mem_nil _
  | a :: rest, legible => by
    rw [GenericArgument.AreLegible] at legible
    rw [argumentsTokens, List.forall_mem_cons]
    exact ⟨GenericArgument.IsLegible.tokens a legible.1, legible_argumentsTokens rest legible.2⟩

theorem GenericArgument.IsLegible.tokens : (a : GenericArgument) → a.IsLegible → Legible a.tokens
  | .lifetime tokens _, legible => by
    rw [GenericArgument.IsLegible] at legible
    rw [GenericArgument.tokens]
    exact legible
  | .type ty _, legible => by
    rw [GenericArgument.IsLegible] at legible
    rw [GenericArgument.tokens]
    exact Ty.IsLegible.tokens ty legible
  | .other tokens _, legible => by
    rw [GenericArgument.IsLegible] at legible
    rw [GenericArgument.tokens]
    exact legible

end

theorem Ty.isLegible_other {tokens : Tokens} (legible : Legible tokens) :
    (Ty.other tokens).IsLegible := by
  rw [Ty.IsLegible]
  exact legible

theorem GenericArgument.isLegible_lifetime {tokens : Tokens} (legible : Legible tokens)
    (comma : Bool) : (lifetime tokens comma).IsLegible := by
  rw [IsLegible]
  exact legible

theorem GenericArgument.isLegible_type {ty : Ty} (legible : ty.IsLegible) (comma : Bool) :
    (type ty comma).IsLegible := by
  rw [IsLegible]
  exact legible

theorem GenericArgument.isLegible_other {tokens : Tokens} (legible : Legible tokens)
    (comma : Bool) : (other tokens comma).IsLegible := by
  rw [IsLegible]
  exact legible

theorem legible_argumentName (ty : Ty) (legible : ty.IsLegible) :
    ∀ segment ∈ argumentName? ty, Legible segment.tokens := by
  unfold argumentName?
  split
  · next segment =>
    rw [Ty.IsLegible, PathSegment.AreLegible] at legible
    exact forall_mem_some (PathSegment.IsLegible.tokens segment legible.2.1)
  · exact nofun

theorem legible_parenthesizedBound (ty : Ty) (legible : ty.IsLegible) :
    ∀ bound ∈ parenthesizedBound? ty, Legible bound := by
  unfold parenthesizedBound?
  split
  · rw [Ty.IsLegible] at legible
    exact forall_mem_some ((legible.1.append (legible_segmentsTokens _ legible.2)).group .paren)
  · rw [Ty.IsLegible] at legible
    exact forall_mem_some (legible.group .paren)
  · exact nofun

/-- What parentheses hold is legible. -/
def Grammar.ParenContent.IsLegible : Grammar.ParenContent → Prop
  | tuple tokens => Legible tokens
  | bounds tokens => Legible tokens
  | modified tokens => Legible tokens
  | single ty => ty.IsLegible

theorem PathSegment.areLegible_iff (segments : List PathSegment) :
    PathSegment.AreLegible segments ↔ ∀ s ∈ segments, s.IsLegible := by
  induction segments with
  | nil => simp [AreLegible]
  | cons s rest ih => rw [AreLegible, ih, List.forall_mem_cons]

theorem PathSegment.AreLegible.concat {segments : List PathSegment}
    (legible : PathSegment.AreLegible segments) {s : PathSegment} (also : s.IsLegible) :
    PathSegment.AreLegible (segments ++ [s]) := by
  rw [PathSegment.areLegible_iff] at legible ⊢
  exact List.forall_mem_append.mpr ⟨legible, List.forall_mem_singleton.mpr also⟩

theorem GenericArgument.areLegible_iff (arguments : List GenericArgument) :
    GenericArgument.AreLegible arguments ↔ ∀ a ∈ arguments, a.IsLegible := by
  induction arguments with
  | nil => simp [AreLegible]
  | cons a rest ih => rw [AreLegible, ih, List.forall_mem_cons]

theorem GenericArgument.isLegible_withComma (a : GenericArgument) (legible : a.IsLegible) :
    a.withComma.IsLegible := by
  cases a with
  | lifetime | type | other =>
    rw [IsLegible] at legible
    rw [withComma, IsLegible]
    exact legible

namespace Path

structure IsLegible (path : Path) : Prop where
  lead : Legible path.lead
  segments : PathSegment.AreLegible path.segments

variable {path : Path}

theorem IsLegible.tokens (legible : path.IsLegible) : Legible path.tokens :=
  legible.lead.append (legible_segmentsTokens _ legible.segments)

theorem IsLegible.toTy (legible : path.IsLegible) : path.toTy.IsLegible := by
  rw [Path.toTy, Ty.IsLegible]
  exact ⟨legible.lead, legible.segments⟩

theorem IsLegible.addSegments (legible : path.IsLegible) (more : List PathSegment)
    (also : PathSegment.AreLegible more) : (path.addSegments more).IsLegible := by
  refine ⟨legible.lead, ?_⟩
  have own := legible.segments
  rw [PathSegment.areLegible_iff] at own also
  exact (PathSegment.areLegible_iff _).mpr (List.forall_mem_append.mpr ⟨own, also⟩)

theorem IsLegible.withLastArguments (legible : path.IsLegible) (arguments : PathArguments)
    (also : arguments.IsLegible) : (path.withLastArguments arguments).IsLegible := by
  have own := legible.segments
  rw [PathSegment.areLegible_iff] at own
  unfold Path.withLastArguments
  split
  · next name other last =>
    have usable := own _ (List.mem_of_getLast? last)
    rw [PathSegment.IsLegible] at usable
    refine ⟨legible.lead, (PathSegment.areLegible_iff _).mpr ?_⟩
    refine List.forall_mem_append.mpr ⟨fun s member => own s (List.dropLast_subset _ member), ?_⟩
    rw [List.forall_mem_singleton, PathSegment.IsLegible]
    exact ⟨usable.1, also⟩
  · exact legible

end Path

theorem legible_joinTokens (separator : Tokens) (parts : List Tokens) (sign : Legible separator)
    (each : ∀ part ∈ parts, Legible part) : Legible (joinTokens separator parts) := by
  fun_induction joinTokens separator parts with
  | case1 => exact Token.legible_nil
  | case2 only => exact each only List.mem_cons_self
  | case3 first rest _ ih =>
    rw [List.forall_mem_cons] at each
    exact (each.1.append sign).append (ih each.2)

theorem NamePath.legible_tokens (path : NamePath)
    (usable : ∀ name ∈ path.names, Name.isUsable name = true) : Legible path.tokens := by
  have colons := Token.legible_op "::" rfl
  refine (legible_ifElse colons Token.legible_nil).append (legible_joinTokens _ _ colons ?_)
  simp only [List.forall_mem_map]
  exact fun name member => Token.legible_ident name (usable name member)

/-- The attributes are made of legible tokens. -/
def Attribute.AreLegible (attributes : List Attribute) : Prop :=
  ∀ a ∈ attributes, Legible a.tokens

theorem Attribute.AreLegible.append {first second : List Attribute}
    (legible : Attribute.AreLegible first) (also : Attribute.AreLegible second) :
    Attribute.AreLegible (first ++ second) := List.forall_mem_append.mpr ⟨legible, also⟩

theorem Attribute.AreLegible.concat {read : List Attribute} (legible : Attribute.AreLegible read)
    {a : Attribute} (also : Legible a.tokens) : Attribute.AreLegible (read ++ [a]) :=
  legible.append (List.forall_mem_singleton.mpr also)

theorem Attribute.AreLegible.tokens {attributes : List Attribute}
    (legible : Attribute.AreLegible attributes) : Legible (attributeTokens attributes) :=
  Token.legible_flatMap _ _ legible

theorem Attribute.legible_tokens (inner : Bool) (item : MetaItem) (legible : Legible item.tokens) :
    Legible (Attribute.tokens ⟨inner, item⟩) := by
  have mark : Legible (if inner then Token.op "!" else []) :=
    legible_ifElse (Token.legible_op "!" rfl) Token.legible_nil
  exact ((Token.legible_op "#" rfl).append mark).append (legible.group .bracket)

namespace Expr

def IsLegible : Expr → Prop
  | lit attrs literal => Legible attrs ∧ Legible literal.tokens
  | path attrs named => Legible attrs ∧ named.IsLegible
  | call attrs function arguments =>
    Legible attrs ∧ Legible function.tokens ∧ Legible (argumentTokens arguments)
  | paren attrs inner => Legible attrs ∧ Legible inner.tokens
  | group attrs inner => Legible attrs ∧ Legible inner.tokens
  | negated attrs inner => Legible attrs ∧ Legible inner.tokens
  | other attrs _ body => Legible attrs ∧ Legible body

theorem IsLegible.tokens {e : Expr} (legible : e.IsLegible) : Legible e.tokens := by
  cases e with
  | lit attrs literal =>
    rw [Expr.tokens]
    exact legible.1.append legible.2
  | path attrs named =>
    rw [Expr.tokens]
    exact legible.1.append legible.2.tokens
  | call attrs function arguments =>
    rw [Expr.tokens]
    exact (legible.1.append legible.2.1).append (legible.2.2.group .paren)
  | paren attrs inner =>
    rw [Expr.tokens]
    exact legible.1.append (legible.2.group .paren)
  | group attrs inner =>
    rw [Expr.tokens]
    exact legible.1.append (legible.2.group .invisible)
  | negated attrs inner =>
    rw [Expr.tokens]
    exact (legible.1.append (Token.legible_op "-" rfl)).append legible.2
  | other attrs kind body =>
    rw [Expr.tokens]
    exact legible.1.append (legible_ifElse (legible.2.group .paren) legible.2)

theorem IsLegible.addAttrs {e : Expr} (legible : e.IsLegible) {more : Tokens}
    (also : Legible more) : (e.addAttrs more).IsLegible := by
  cases e with
  | other attrs kind body =>
    exact ⟨legible_ifElse legible.1 (also.append legible.1), legible.2⟩
  | lit | path | call | paren | group | negated => exact ⟨also.append legible.1, legible.2⟩

theorem isLegible_exprOf (kind : ExprKind) {body : Tokens} (legible : Legible body) :
    (exprOf kind body).IsLegible := ⟨Token.legible_nil, legible⟩

theorem legible_argumentTokens (arguments : List (Expr × Bool))
    (each : ∀ a ∈ arguments, a.1.IsLegible) : Legible (argumentTokens arguments) := by
  induction arguments with
  | nil =>
    rw [argumentTokens]
    exact Token.legible_nil
  | cons a rest ih =>
    obtain ⟨argument, comma⟩ := a
    rw [List.forall_mem_cons] at each
    rw [argumentTokens]
    refine (each.1.tokens.append ?_).append (ih each.2)
    exact legible_ifElse (Token.legible_op "," rfl) Token.legible_nil

end Expr

/-- The attributes at the start are cut off. -/
theorem spanAttributes_append (tokens : Tokens) :
    (spanAttributes tokens).1 ++ (spanAttributes tokens).2 = tokens := by
  fun_induction spanAttributes tokens with
  | case1 joint body rest attrs last spanned ih =>
    rw [spanned] at ih
    exact congrArg (_ :: _ :: ·) ih
  | case2 => rfl

theorem legible_optionalOperand (struct : Bool) (tokens : Tokens) (legible : Legible tokens) :
    Legible (optionalOperand struct tokens) := by
  have whole := spanAttributes_append tokens
  unfold optionalOperand
  split
  · next attrs body rest spanned =>
    rw [spanned] at whole
    split
    · exact legible
    · dsimp only at whole
      rw [← whole] at legible
      have before := ((Token.legibleBefore_append_iff _ _ _).mp legible).1.of_group
      have behind := legible.of_append_right
      have block : Legible [Token.paren [.group .brace body]] :=
        Legible.group (Legible.group behind.body .brace) .paren
      exact before.append (block.append behind.tail)
  · exact legible

theorem Pattern.legible_withAttrs {attrs : Tokens} {p : Pattern} (before : Legible attrs)
    (legible : Legible p.tokens) : Legible (p.withAttrs attrs) := by
  unfold Pattern.withAttrs
  refine legible_ifElse legible ?_
  split
  · exact before.append legible
  · exact before.append (legible.group .paren)
  · exact before.append (legible.group .paren)
  · exact legible

/-- A field with legible parts. -/
structure StructField.IsLegible (f : StructField) : Prop where
  attrs : Attribute.AreLegible f.attrs
  vis : Legible f.vis
  name : Name.isUsable f.name = true
  ty : f.ty.IsLegible

theorem StructField.IsLegible.tokens {f : StructField} (legible : f.IsLegible) :
    Legible (Grammar.fieldTokens f) := by
  have named := Token.legible_ident f.name legible.name
  exact (((legible.attrs.tokens.append legible.vis).append named).append
    (Token.legible_op ":" rfl)).append (Ty.IsLegible.tokens f.ty legible.ty)

theorem legible_namedFieldTokens (fields : List (StructField × Bool))
    (each : ∀ f ∈ fields, f.1.IsLegible) : Legible (Grammar.namedFieldTokens fields) :=
  Token.legible_flatMap _ _ fun f member =>
    (each f member).tokens.append (Parser.legible_commaAfter f.2)

structure StructItem.IsLegible (item : StructItem) : Prop where
  attrs : Attribute.AreLegible item.attrs
  body : Legible item.body
  fields : ∀ fields, item.fields = .named fields → ∀ f ∈ fields, f.ty.IsLegible

structure ImplItem.IsLegible (item : ImplItem) : Prop where
  attrs : Attribute.AreLegible item.attrs
  body : Legible item.body

structure ModuleHead.IsLegible (head : ModuleHead) : Prop where
  attrs : Attribute.AreLegible head.attrs
  opening : Legible head.opening
  innerAttrs : Legible head.innerAttrs

namespace Item

mutual

def IsLegible : Item → Prop
  | struct item => item.IsLegible
  | impl item => item.IsLegible
  | module head none => head.IsLegible
  | module head (some items) => head.IsLegible ∧ AreLegible items
  | other tokens => Legible tokens

def AreLegible : List Item → Prop
  | [] => True
  | item :: rest => item.IsLegible ∧ AreLegible rest

end

theorem isLegible_struct_iff (item : StructItem) : (struct item).IsLegible ↔ item.IsLegible := by
  rw [IsLegible]

theorem isLegible_impl_iff (item : ImplItem) : (impl item).IsLegible ↔ item.IsLegible := by
  rw [IsLegible]

theorem isLegible_other {tokens : Tokens} (legible : Legible tokens) :
    (Item.other tokens).IsLegible := by
  rw [IsLegible]
  exact legible

theorem areLegible_iff (items : List Item) : AreLegible items ↔ ∀ item ∈ items, item.IsLegible := by
  induction items with
  | nil => simp [AreLegible]
  | cons item rest ih => rw [AreLegible, ih, List.forall_mem_cons]

mutual

theorem IsLegible.tokens : (item : Item) → item.IsLegible → Legible item.tokens
  | struct item, legible => by
    rw [IsLegible] at legible
    rw [Item.tokens]
    exact legible.attrs.tokens.append legible.body
  | impl item, legible => by
    rw [IsLegible] at legible
    rw [Item.tokens]
    exact legible.attrs.tokens.append legible.body
  | module head none, legible => by
    rw [IsLegible] at legible
    rw [Item.tokens]
    exact (legible.attrs.tokens.append legible.opening).append (Token.legible_op ";" rfl)
  | module head (some items), legible => by
    rw [IsLegible] at legible
    rw [Item.tokens]
    have body := legible.1.innerAttrs.append (legible_itemsTokens items legible.2)
    exact (legible.1.attrs.tokens.append legible.1.opening).append (body.group .brace)
  | other tokens, legible => by
    rw [IsLegible] at legible
    rw [Item.tokens]
    exact legible

theorem legible_itemsTokens : (items : List Item) → AreLegible items →
    Legible (itemsTokens items)
  | [], _ => by
    rw [itemsTokens]
    exact Token.legible_nil
  | item :: rest, legible => by
    rw [AreLegible] at legible
    rw [itemsTokens]
    exact (IsLegible.tokens item legible.1).append (legible_itemsTokens rest legible.2)

end

theorem IsLegible.addAttrs {item : Item} (legible : item.IsLegible) {attrs : List Attribute}
    (also : Attribute.AreLegible attrs) : (item.addAttrs attrs).IsLegible := by
  cases item with
  | struct item =>
    rw [IsLegible] at legible
    rw [Item.addAttrs, IsLegible]
    exact { legible with attrs := also.append legible.attrs }
  | impl item =>
    rw [IsLegible] at legible
    rw [Item.addAttrs, IsLegible]
    exact { legible with attrs := also.append legible.attrs }
  | module head items =>
    cases items with
    | none =>
      rw [IsLegible] at legible
      rw [Item.addAttrs, IsLegible]
      exact { legible with attrs := also.append legible.attrs }
    | some items =>
      rw [IsLegible] at legible
      rw [Item.addAttrs, IsLegible]
      exact ⟨{ legible.1 with attrs := also.append legible.1.attrs }, legible.2⟩
  | other tokens =>
    rw [IsLegible] at legible
    rw [Item.addAttrs, IsLegible]
    exact also.tokens.append legible

end Item

end ClassExpansion
