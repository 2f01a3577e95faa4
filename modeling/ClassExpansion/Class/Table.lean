import ClassExpansion.Class.Declaration

set_option autoImplicit false

/- The classes that can see each other, and the line of bases of each of them. -/
namespace ClassExpansion

abbrev ClassTable := List ClassDecl

namespace ClassTable

/-- The first class with the name. -/
def get? (table : ClassTable) (name : String) : Option ClassDecl :=
  table.find? fun decl => decl.ident == name

def names (line : List ClassDecl) : List String := line.map (·.ident)

/-- How many classes of the table have a name that is not among those `before`. -/
def unseen (table : ClassTable) (before : List String) : Nat :=
  table.countP fun decl => !before.contains decl.ident

theorem mem_of_get? (table : ClassTable) (name : String) (decl : ClassDecl)
    (found : table.get? name = some decl) : decl ∈ table :=
  List.mem_of_find?_eq_some found

/-- A new name of the table leaves fewer to be seen. -/
theorem unseen_lt (table : ClassTable) (before : List String) (next : ClassDecl)
    (member : next ∈ table) (fresh : ¬ before.contains next.ident) :
    table.unseen (next.ident :: before) < table.unseen before := by
  obtain ⟨front, back, rfl⟩ := List.append_of_mem member
  have weaken : ∀ part : ClassTable, part.countP (fun decl =>
      !(next.ident :: before).contains decl.ident) ≤ part.countP fun decl =>
        !before.contains decl.ident := by
    intro part
    apply List.countP_mono_left
    intro decl _ unseen
    simp only [List.contains_cons, Bool.not_eq_true', Bool.or_eq_false_iff] at unseen
    simp only [unseen.2, Bool.not_false]
  have inFront := weaken front
  have inBack := weaken back
  simp only [Bool.not_eq_true] at fresh
  simp only [unseen, List.countP_append, List.countP_cons, List.contains_cons, beq_self_eq_true,
    Bool.true_or, Bool.not_true, fresh, Bool.not_false, Bool.false_eq_true, ↓reduceIte]
  simp only [List.contains_cons] at inFront inBack
  omega

/-- The bases of `current`, nearest first, given the names before them. Each step adds a class of
the table whose name is not yet in the line, so the climb ends. -/
def basesFrom (table : ClassTable) (before : List String) (current : ClassDecl) :
    Except Fault (List ClassDecl) :=
  match current.base? with
  | none => .ok []
  | some base =>
    match _found : table.get? base with
    | none => .error (.unknownBase base)
    | some next =>
      if _seen : before.contains next.ident then .error (.cycle next.ident)
      else (basesFrom table (next.ident :: before) next).map (next :: ·)
termination_by table.unseen before
decreasing_by exact table.unseen_lt before next (table.mem_of_get? base next _found) _seen

/-- The class and its bases, nearest first. -/
def ancestry (table : ClassTable) (decl : ClassDecl) : Except Fault (List ClassDecl) :=
  (basesFrom table [decl.ident] decl).map (decl :: ·)

/-- The ancestry with its fault as a report. -/
def lineage (table : ClassTable) (decl : ClassDecl) : Attempt (List ClassDecl) :=
  Attempt.lift (table.ancestry decl)

/-- A declaration that says what the field is by default. -/
structure Attributed where
  field : FieldDecl
  spec : FieldSpec

/-- The first declaration of the name in the class, if it has a specification. -/
def ownAttribute? (name : String) (decl : ClassDecl) : Option Attributed :=
  match decl.field? name with
  | some field => field.spec?.map fun spec => ⟨field, spec⟩
  | none => none

/-- The attribute `name` as seen from a class: the nearest one in its line. -/
def attribute? (table : ClassTable) (decl : ClassDecl) (name : String) :
    Attempt (Option Attributed) := do
  return (← table.lineage decl).findSome? (ownAttribute? name)

/-- A field together with the class that declares it. -/
structure Declared where
  owner : ClassDecl
  field : FieldDecl

/-- All fields of a line, class by class. -/
def declarations (line : List ClassDecl) : List Declared :=
  line.flatMap fun owner => owner.fields.map fun field => ⟨owner, field⟩

end ClassTable

end ClassExpansion
