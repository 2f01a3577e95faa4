import ClassExpansion.Proofs.Faults
import ClassExpansion.Proofs.MarkerTypes

set_option autoImplicit false

/- Why the fields of a class cannot be collected: its line breaks, or a marker along it lacks its
argument. Each such marker is reported once, in the order of the line, also where a declaration
farther away takes its place. -/
namespace ClassExpansion

open ClassTable (Declared declarations)

/-- A marker of the role without exactly one type argument. -/
def Ty.LacksArgument (ty : Ty) (role : Role) : Prop :=
  ty.Marks role ∧ ∀ argument, ¬ ty.Holds argument

/-- What is reported of declarations: one report for each that lacks an argument, in their order,
and nothing of the others. -/
inductive Reported : List Declared → List Report → Prop
  | nil : Reported [] []
  | lacking (declared : Declared) (role : Role) (lacks : declared.field.ty.LacksArgument role)
      (rest : List Declared) (reports : List Report) (onward : Reported rest reports) :
      Reported (declared :: rest) (⟨.markerArgument role, none⟩ :: reports)
  | sound (declared : Declared) (sound : ∀ role, ¬ declared.field.ty.LacksArgument role)
      (rest : List Declared) (reports : List Report) (onward : Reported rest reports) :
      Reported (declared :: rest) reports

theorem Reported.ne_nil_iff {declared : List Declared} {reports : List Report}
    (reported : Reported declared reports) :
    reports ≠ [] ↔ ∃ d ∈ declared, ∃ role, d.field.ty.LacksArgument role := by
  induction reported with
  | nil => simp
  | lacking first role lacks => simpa using Or.inl ⟨role, lacks⟩
  | sound first sound _ _ _ ih => simpa [sound] using ih

namespace Ty

theorem valueType_of_lacksArgument (ty : Ty) (role : Role) (lacks : ty.LacksArgument role) :
    ty.valueType = .error (.markerArgument role) :=
  (ty.valueType_eq_error_iff _).mpr ⟨role, lacks.1, lacks.2, rfl⟩

theorem exists_valueType (ty : Ty) (sound : ∀ role, ¬ ty.LacksArgument role) :
    ∃ value, ty.valueType = .ok value := by
  cases failed : ty.valueType with
  | ok value => exact ⟨value, rfl⟩
  | error fault =>
    obtain ⟨role, marks, without, _⟩ := (ty.valueType_eq_error_iff fault).mp failed
    exact absurd ⟨marks, without⟩ (sound role)

end Ty

namespace ClassTable

variable (table : ClassTable)

/-- A class of the line has a line itself, so that no look-up from it fails. -/
theorem exists_attribute?_of_mem (decl : ClassDecl) (line : List ClassDecl)
    (ancestry : table.ancestry decl = .ok line) (declared : Declared)
    (member : declared ∈ declarations line) (name : String) :
    ∃ found, table.attribute? declared.owner name = .ok found := by
  obtain ⟨rest, onward⟩ := table.exists_ancestry_of_mem decl line ancestry declared.owner
    ((mem_declarations line declared).mp member).1
  exact ⟨_, (table.attribute?_eq_ok_iff declared.owner name _).mpr ⟨rest, onward, rfl⟩⟩

/-- Once its default is looked up and its stored name is one, only the type of a field matters. -/
theorem resolve_of_attribute? (settings : Settings) (declared : Declared)
    (found : Option Attributed)
    (searched : table.attribute? declared.owner declared.name = .ok found)
    (usable : Name.isUsable (settings.shadowText declared.name) = true) :
    (∀ role, declared.field.ty.LacksArgument role →
      Field.resolve table settings declared = Attempt.fail (.markerArgument role)) ∧
    ((∀ role, ¬ declared.field.ty.LacksArgument role) →
      ∃ field, Field.resolve table settings declared = .ok field) := by
  have shadow : settings.shadow declared.field.name = .ok (settings.shadowText declared.name) :=
    (Attempt.name_eq_ok_iff _ _).mpr ⟨usable, rfl⟩
  unfold Declared.name at searched
  unfold Field.resolve
  dsimp only
  rw [searched, Attempt.ok_bind]
  constructor
  · intro role lacks
    rw [declared.field.ty.valueType_of_lacksArgument role lacks]
    rfl
  · intro sound
    obtain ⟨value, success⟩ := declared.field.ty.exists_valueType sound
    rw [success, shadow]
    exact ⟨_, rfl⟩

end ClassTable

namespace FieldList

/-- Declarations of a line are resolved one by one: nothing aborts, and what is reported of them is
one report for each that lacks an argument. -/
theorem exists_reported (table : ClassTable) (settings : Settings) (all : List Declared)
    (searched : ∀ declared ∈ all, ∃ found,
      table.attribute? declared.owner declared.name = .ok found)
    (usable : ∀ declared ∈ all, Name.isUsable (settings.shadowText declared.name) = true) :
    ∃ reports, Reported all reports ∧
      (all.map (Field.resolve table settings)).findSome? Attempt.abort? = none ∧
      (all.map (Field.resolve table settings)).flatMap Attempt.reports = reports := by
  induction all with
  | nil => exact ⟨[], .nil, rfl, rfl⟩
  | cons declared rest ih =>
    rw [List.forall_mem_cons] at searched usable
    obtain ⟨⟨found, here⟩, later⟩ := searched
    obtain ⟨reports, reported, going, silent⟩ := ih later usable.2
    have resolves := table.resolve_of_attribute? settings declared found here usable.1
    rw [List.map_cons, List.findSome?_cons, List.flatMap_cons, going, silent]
    by_cases lacking : ∃ role, declared.field.ty.LacksArgument role
    · obtain ⟨role, lacks⟩ := lacking
      rw [resolves.1 role lacks]
      exact ⟨_, .lacking declared role lacks rest reports reported, rfl, rfl⟩
    · have sound := not_exists.mp lacking
      obtain ⟨field, success⟩ := resolves.2 sound
      rw [success]
      exact ⟨_, .sound declared sound rest reports reported, rfl, rfl⟩

/-- The fields of a class are collected unless its line breaks or a marker along the line lacks its
argument. A break of the line is the only report then, and otherwise there is one report for each
such marker, in the order of the line, whichever declaration the field would come from. The search
for a default never fails along a line, whatever class it starts from. -/
theorem collect_fails_iff (table : ClassTable) (decl : ClassDecl)
    (usable : ∀ line, table.ancestry decl = .ok line → ∀ declared ∈ declarations line,
      Name.isUsable (decl.settings.shadowText declared.name) = true) :
    ((∃ failure, collect table decl = .error failure) ↔
      (∃ fault, table.ancestry decl = .error fault) ∨
      ∃ line, table.ancestry decl = .ok line ∧ ∃ declared ∈ declarations line,
        ∃ role, declared.field.ty.LacksArgument role) ∧
    (∀ fault, table.ancestry decl = .error fault →
      collect table decl = .error (.reported [⟨fault, none⟩])) ∧
    ∀ line, table.ancestry decl = .ok line →
      (∀ declared ∈ declarations line, ∀ name, ∃ found,
        table.attribute? declared.owner name = .ok found) ∧
      ∃ reports, Reported (declarations line) reports ∧
        (reports = [] → ∃ fields, collect table decl = .ok fields) ∧
        (reports ≠ [] → collect table decl = .error (.reported reports)) := by
  have broken : ∀ fault, table.ancestry decl = .error fault →
      collect table decl = .error (.reported [⟨fault, none⟩]) := by
    intro fault failed
    unfold collect ClassTable.lineage
    rw [failed]
    rfl
  have found : ∀ line, table.ancestry decl = .ok line →
      ∃ reports, Reported (declarations line) reports ∧
        (reports = [] → ∃ fields, collect table decl = .ok fields) ∧
        (reports ≠ [] → collect table decl = .error (.reported reports)) := by
    intro line ancestry
    have searched : ∀ declared ∈ declarations line, ∃ found,
        table.attribute? declared.owner declared.name = .ok found := fun declared member =>
      table.exists_attribute?_of_mem decl line ancestry declared member _
    obtain ⟨reports, reported, going, told⟩ :=
      exists_reported table decl.settings (declarations line) searched (usable line ancestry)
    have gathered := Attempt.gather_of_going _ going
    rw [told] at gathered
    have opened : collect table decl =
        Attempt.gather ((declarations line).map (Field.resolve table decl.settings)) >>=
          fun fields => .ok (fields.foldl put []) := by
      unfold collect
      rw [(table.lineage_eq_ok_iff decl line).mpr ancestry, Attempt.ok_bind]
      rfl
    refine ⟨reports, reported, ?_, ?_⟩
    · rintro rfl
      rw [if_pos List.isEmpty_nil] at gathered
      rw [opened, gathered]
      exact ⟨_, rfl⟩
    · intro heard
      rw [if_neg (mt List.isEmpty_iff.mp heard)] at gathered
      rw [opened, gathered]
      rfl
  refine ⟨?_, broken, fun line ancestry => ⟨?_, found line ancestry⟩⟩
  · cases ancestry : table.ancestry decl with
    | error fault =>
      refine ⟨fun _ => Or.inl ⟨fault, rfl⟩, fun _ => ⟨_, broken fault ancestry⟩⟩
    | ok line =>
      obtain ⟨reports, reported, success, failure⟩ := found line ancestry
      simp only [reduceCtorEq, exists_false, false_or, Except.ok.injEq, exists_eq_left',
        ← reported.ne_nil_iff]
      constructor
      · rintro ⟨failed, isError⟩ silent
        obtain ⟨fields, isOk⟩ := success silent
        rw [isOk] at isError
        cases isError
      · intro heard
        exact ⟨_, failure heard⟩
  · intro declared member name
    exact table.exists_attribute?_of_mem decl line ancestry declared member name

/-- A crate is a box. Its token has no argument, but that of the box has one and comes in its
place. -/
def crate : ClassDecl := .usual "Crate" (some "Box") [
  ⟨"token", .named "InitVar", [], [], none⟩,
  ⟨"label", .named "Text", [], [], none⟩]

def box : ClassDecl := .usual "Box" none [
  ⟨"token", .marked "InitVar" (.named "u8"), [], [], none⟩,
  ⟨"limit", .paren (.named "ClassVar"), [], [], none⟩]

theorem collect_fails_iff_crate :
    (∀ line, ClassTable.ancestry [crate, box] crate = .ok line →
      ∀ declared ∈ declarations line,
        Name.isUsable (crate.settings.shadowText declared.name) = true) ∧
    ∃ reports, Reported (declarations [crate, box]) reports ∧ reports.length = 2 ∧
      collect [crate, box] crate = .error (.reported reports) := by
  have known : ClassTable.ancestry [crate, box] crate = .ok [crate, box] :=
    (ClassTable.ancestry_eq_ok_iff [crate, box] crate _).mpr
      ⟨⟨rfl, .cons_cons ⟨"Box", rfl, rfl⟩ (.singleton _), by decide⟩, box, rfl, rfl⟩
  have usable : ∀ line, ClassTable.ancestry [crate, box] crate = .ok line →
      ∀ declared ∈ declarations line,
        Name.isUsable (crate.settings.shadowText declared.name) = true := by
    intro line ancestry
    rw [known] at ancestry
    obtain rfl := Except.ok.inj ancestry
    decide +kernel
  have two : (collect [crate, box] crate).reports.length = 2 := by decide +kernel
  obtain ⟨_, _, along⟩ := collect_fails_iff [crate, box] crate usable
  obtain ⟨_, reports, reported, success, failure⟩ := along _ known
  have heard : reports ≠ [] := by
    intro silent
    obtain ⟨fields, collected⟩ := success silent
    rw [collected] at two
    cases two
  refine ⟨usable, reports, reported, ?_, failure heard⟩
  rw [failure heard] at two
  exact two

end FieldList

end ClassExpansion
