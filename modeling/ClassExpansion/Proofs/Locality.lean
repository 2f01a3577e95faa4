import ClassExpansion.Code.Class
import ClassExpansion.Proofs.Resolution

set_option autoImplicit false

/- What is generated for a class depends on its line alone: on the names and the fields along it,
and on the hooks above the class where it needs one of its own. -/
namespace ClassExpansion

open ClassTable (Declared declarations ownAttribute?)

namespace ClassDecl

/-- The two have one name and declare the same fields. -/
structure SameFields (a b : ClassDecl) : Prop where
  ident : a.ident = b.ident
  fields : a.fields = b.fields

/-- The two have hooks of one name, and it is known of both or of neither that they exist. -/
structure SameHook (a b : ClassDecl) : Prop where
  known : a.hasHook = b.hasHook
  text : a.hookText = b.hookText

end ClassDecl

namespace ClassTable

/-- Each class of the line has what follows, itself included, as a line of its own. -/
def Lines (table : ClassTable) : List ClassDecl → Prop
  | [] => True
  | decl :: rest => table.ancestry decl = .ok (decl :: rest) ∧ Lines table rest

theorem lines_of_ancestry (table : ClassTable) (decl : ClassDecl) (line : List ClassDecl)
    (ancestry : table.ancestry decl = .ok line) : table.Lines line := by
  induction line generalizing decl with
  | nil => exact trivial
  | cons first rest ih =>
    have climb := ((table.ancestry_eq_ok_iff decl _).mp ancestry).1
    obtain rfl : first = decl := Option.some.inj climb.start
    refine ⟨ancestry, ?_⟩
    cases rest with
    | nil => exact trivial
    | cons base further => exact ih base (table.ancestry_drop first _ ancestry 1 (by simp))

section TwoTables

variable (table other : ClassTable)

theorem findSome?_ownAttribute? (line line' : List ClassDecl)
    (same : List.Forall₂ ClassDecl.SameFields line line') (name : String) :
    line.findSome? (ownAttribute? name) = line'.findSome? (ownAttribute? name) := by
  induction same with
  | nil => rfl
  | @cons a b rest rest' first _ ih =>
    have own : ownAttribute? name a = ownAttribute? name b := by
      unfold ownAttribute? ClassDecl.field?
      rw [first.fields]
    rw [List.findSome?_cons, List.findSome?_cons, own, ih]

theorem attribute?_congr (a b : ClassDecl) (line line' : List ClassDecl)
    (ancestry : table.ancestry a = .ok line) (ancestry' : other.ancestry b = .ok line')
    (same : List.Forall₂ ClassDecl.SameFields line line') (name : String) :
    table.attribute? a name = other.attribute? b name := by
  rw [(attribute?_eq_ok_iff table a name _).mpr ⟨line, ancestry, rfl⟩, eq_comm,
    attribute?_eq_ok_iff]
  exact ⟨line', ancestry', (findSome?_ownAttribute? line line' same name).symm⟩

theorem resolve_congr (settings : Settings) (a b : ClassDecl) (field : FieldDecl)
    (ident : a.ident = b.ident)
    (found : table.attribute? a field.name = other.attribute? b field.name) :
    Field.resolve table settings ⟨a, field⟩ = Field.resolve other settings ⟨b, field⟩ := by
  unfold Field.resolve
  simp only [found, ident]

/-- Class by class along the lines, every field resolves alike, since each class finds the defaults
of its fields in what follows. -/
theorem map_resolve_congr (settings : Settings) (line line' : List ClassDecl)
    (lines : table.Lines line) (lines' : other.Lines line')
    (same : List.Forall₂ ClassDecl.SameFields line line') :
    (declarations line).map (Field.resolve table settings) =
      (declarations line').map (Field.resolve other settings) := by
  induction same with
  | nil => rfl
  | @cons a b rest rest' first more ih =>
    obtain ⟨ancestry, onward⟩ := lines
    obtain ⟨ancestry', onward'⟩ := lines'
    -- The defaults of a class are searched from the class itself, not from where the line starts.
    have found := attribute?_congr table other a b _ _ ancestry ancestry' (.cons first more)
    rw [declarations_cons, declarations_cons, List.map_append, List.map_append, ih onward onward',
      List.map_map, List.map_map, first.fields]
    congr 1
    exact List.map_congr_left fun field _ =>
      resolve_congr table other settings a b field first.ident (found field.name)

variable (decl : ClassDecl) (line line' : List ClassDecl)
variable (ancestry : table.ancestry decl = .ok line) (ancestry' : other.ancestry decl = .ok line')

include ancestry ancestry'

theorem collect_congr (same : List.Forall₂ ClassDecl.SameFields line line') :
    FieldList.collect table decl = FieldList.collect other decl := by
  have resolved := map_resolve_congr table other decl.settings line line'
    (table.lines_of_ancestry decl line ancestry) (other.lines_of_ancestry decl line' ancestry') same
  unfold FieldList.collect
  rw [(table.lineage_eq_ok_iff decl line).mpr ancestry,
    (other.lineage_eq_ok_iff decl line').mpr ancestry']
  simp only [Attempt.ok_bind, resolved]

theorem write_congr (same : List.Forall₂ ClassDecl.SameFields line line') (fields : FieldList) :
    table.write decl fields = other.write decl fields := by
  have constant (field : Field) :
      ConstantCode.ofField? table decl field = ConstantCode.ofField? other decl field := by
    unfold ConstantCode.ofField?
    rw [attribute?_congr table other decl decl line line' ancestry ancestry' same]
  have constants : ConstantCode.ofFields table decl fields =
      ConstantCode.ofFields other decl fields := by
    unfold ConstantCode.ofFields
    rw [funext constant]
  unfold write ClassCode.ofFields
  rw [constants]

end TwoTables

end ClassTable

end ClassExpansion
