import ClassExpansion.Class.Default
import ClassExpansion.Proofs.Resolution
import Mathlib.Logic.Relation

set_option autoImplicit false

/- What a declared type says of its field. Role and value type are found by two searches, one that
looks through grouping and one that does not; here both are told by what the type is made of. -/
namespace ClassExpansion

namespace Ty

/-- Some layers of parentheses and invisible groups, taken off from outside, leave the core. -/
inductive Encloses : Ty → Ty → Prop
  | refl (ty : Ty) : Encloses ty ty
  | paren (inner core : Ty) (encloses : Encloses inner core) : Encloses (.paren inner) core
  | group (inner core : Ty) (encloses : Encloses inner core) : Encloses (.group inner) core

/-- A path with nothing qualified before it, the last segment of which has the name. -/
def IsPathTo (ty : Ty) (name : String) : Prop :=
  ∃ lead segments segment, ty = .path false lead segments ∧
    segments.getLast? = some segment ∧ Name.unraw segment.name = name

/-- The name of the type in capitals is that of the marker. -/
def NamesMarker (ty : Ty) (role : Role) : Prop :=
  role ∈ Role.markers ∧ ∃ name, ty.IsPathTo name ∧ Text.upperSnake name = role.markerName

/-- The role that the type gives, by its own name or as a class variable in some grouping. -/
inductive Marks (ty : Ty) : Role → Prop
  | named (role : Role) (names : ty.NamesMarker role) : Marks ty role
  | wrapped (unnamed : ∀ role, ¬ ty.NamesMarker role) (core : Ty) (encloses : ty.Encloses core)
      (names : core.NamesMarker .classVar) : Marks ty .classVar

/-- The argument is the only type between the angle brackets of the last segment, whatever else
stands there. -/
def HasOnlyArgument (ty argument : Ty) : Prop :=
  ∃ qualified lead segments name turbofish before comma after,
    ty = .path qualified lead segments ∧
    segments.getLast? =
      some (.mk name (.angled turbofish (before ++ .type argument comma :: after))) ∧
    ∀ other ∈ before ++ after, other.type? = none

/-- The type has the only argument, in any grouping. -/
def Holds (ty argument : Ty) : Prop :=
  ∃ core, ty.Encloses core ∧ core.HasOnlyArgument argument

/-- What stands in parentheses, in an invisible group or between the angle brackets of a path. -/
inductive IsPart : Ty → Ty → Prop
  | paren (inner : Ty) : IsPart inner (.paren inner)
  | group (inner : Ty) : IsPart inner (.group inner)
  | argument (qualified : Bool) (lead : Tokens) (segments : List PathSegment) (name : String)
      (turbofish : Bool) (arguments : List GenericArgument) (inner : Ty) (comma : Bool)
      (segment : .mk name (.angled turbofish arguments) ∈ segments)
      (member : .type inner comma ∈ arguments) : IsPart inner (.path qualified lead segments)

/-- A part, or a part of a part, and so on. -/
def IsProperPart : Ty → Ty → Prop := Relation.TransGen IsPart

theorem sizeOf_lt_of_isPart (part whole : Ty) (isPart : IsPart part whole) :
    sizeOf part < sizeOf whole := by
  cases isPart with
  | paren => simp only [Ty.paren.sizeOf_spec]; omega
  | group => simp only [Ty.group.sizeOf_spec]; omega
  | argument qualified lead segments name turbofish arguments inner comma segment member =>
    have inSegments := List.sizeOf_lt_of_mem segment
    have inArguments := List.sizeOf_lt_of_mem member
    simp only [PathSegment.mk.sizeOf_spec, PathArguments.angled.sizeOf_spec] at inSegments
    simp only [GenericArgument.type.sizeOf_spec] at inArguments
    simp only [Ty.path.sizeOf_spec]
    omega

theorem IsProperPart.sizeOf_lt {part whole : Ty} (proper : part.IsProperPart whole) :
    sizeOf part < sizeOf whole := by
  induction proper with
  | single isPart => exact sizeOf_lt_of_isPart _ _ isPart
  | tail _ isPart ih => exact Nat.lt_trans ih (sizeOf_lt_of_isPart _ _ isPart)

theorem IsProperPart.ne {part whole : Ty} (proper : part.IsProperPart whole) : part ≠ whole :=
  fun same => Nat.lt_irrefl _ (same ▸ proper.sizeOf_lt)

theorem encloses_peel : (ty : Ty) → ty.Encloses ty.peel
  | .paren inner => by
    rw [peel]
    exact .paren inner _ (encloses_peel inner)
  | .group inner => by
    rw [peel]
    exact .group inner _ (encloses_peel inner)
  | .path _ _ _ => .refl _
  | .bound _ _ => .refl _
  | .other _ => .refl _

theorem Encloses.peel_eq {ty core : Ty} (encloses : ty.Encloses core) : core.peel = ty.peel := by
  induction encloses with
  | refl ty => rfl
  | paren inner core _ ih => rw [ih, peel]
  | group inner core _ ih => rw [ih, peel]

theorem Encloses.eq_of_isPathTo {ty core : Ty} (encloses : ty.Encloses core) (name : String)
    (isPath : ty.IsPathTo name) : core = ty := by
  obtain ⟨_, _, _, rfl, _⟩ := isPath
  cases encloses
  rfl

theorem IsPathTo.peel_eq {ty : Ty} {name : String} (isPath : ty.IsPathTo name) : ty.peel = ty := by
  obtain ⟨_, _, _, rfl, _⟩ := isPath
  rfl

theorem name?_eq_some_iff (ty : Ty) (name : String) : ty.name? = some name ↔ ty.IsPathTo name := by
  constructor
  · intro named
    match ty with
    | .path false lead segments =>
      obtain ⟨segment, last, same⟩ := Option.map_eq_some_iff.mp named
      exact ⟨lead, segments, segment, rfl, last, same⟩
  · rintro ⟨lead, segments, segment, rfl, last, same⟩
    exact Option.map_eq_some_iff.mpr ⟨segment, last, same⟩

end Ty

theorem Role.ofMarker?_eq_some_iff (name : String) (role : Role) :
    Role.ofMarker? name = some role ↔ role ∈ Role.markers ∧ name = role.markerName := by
  unfold Role.ofMarker?
  constructor
  · intro found
    have named := List.find?_some found
    exact ⟨List.mem_of_find?_eq_some found, (beq_iff_eq.mp named).symm⟩
  · rintro ⟨member, rfl⟩
    cases role with
    | standard => exact absurd member (by decide)
    | propertyShadow => decide
    | initVar => decide
    | classVar => decide

namespace Ty

theorem namedRole?_eq_some_iff (ty : Ty) (role : Role) :
    ty.namedRole? = some role ↔ ty.NamesMarker role := by
  simp only [namedRole?, NamesMarker, Option.bind_eq_some_iff, name?_eq_some_iff,
    Role.ofMarker?_eq_some_iff]
  constructor
  · rintro ⟨name, isPath, member, same⟩
    exact ⟨member, name, isPath, same⟩
  · rintro ⟨member, name, isPath, same⟩
    exact ⟨name, isPath, member, same⟩

theorem namedRole?_eq_none_iff (ty : Ty) :
    ty.namedRole? = none ↔ ∀ role, ¬ ty.NamesMarker role := by
  simp only [← namedRole?_eq_some_iff, Option.eq_none_iff_forall_ne_some, ne_eq]

/-- The name of a type is that of one marker at most. -/
theorem NamesMarker.unique {ty : Ty} {role other : Role} (names : ty.NamesMarker role)
    (also : ty.NamesMarker other) : role = other := by
  rw [← namedRole?_eq_some_iff] at names also
  exact Option.some.inj (names.symm.trans also)

theorem wrapsClassVar_iff (ty : Ty) :
    ty.wrapsClassVar = true ↔ ∃ core, ty.Encloses core ∧ core.NamesMarker .classVar := by
  have atPeel : ty.wrapsClassVar = true ↔ ty.peel.NamesMarker .classVar := by
    unfold wrapsClassVar NamesMarker
    simp only [← name?_eq_some_iff]
    cases ty.peel.name? with
    | none => simp
    | some name => simp [Role.markers]
  rw [atPeel]
  constructor
  · intro names
    exact ⟨ty.peel, ty.encloses_peel, names⟩
  · rintro ⟨core, encloses, names⟩
    obtain ⟨name, isPath, _⟩ := names.2
    rw [← encloses.peel_eq, isPath.peel_eq]
    exact names

theorem markerRole?_eq_some_iff (ty : Ty) (role : Role) :
    ty.markerRole? = some role ↔ ty.Marks role := by
  unfold markerRole?
  cases named : ty.namedRole? with
  | some other =>
    have names := (ty.namedRole?_eq_some_iff other).mp named
    constructor
    · intro same
      rw [← Option.some.inj same]
      exact .named other names
    · rintro (⟨_, also⟩ | ⟨unnamed, _, _, _⟩)
      · rw [names.unique also]
      · exact absurd names (unnamed other)
  | none =>
    have unnamed := ty.namedRole?_eq_none_iff.mp named
    rw [Option.ite_none_right_eq_some, Option.some.injEq, wrapsClassVar_iff]
    constructor
    · rintro ⟨⟨core, encloses, names⟩, rfl⟩
      exact .wrapped unnamed core encloses names
    · rintro (⟨_, names⟩ | ⟨_, core, encloses, names⟩)
      · exact absurd names (unnamed role)
      · exact ⟨⟨core, encloses, names⟩, rfl⟩

theorem markerRole?_eq_none_iff (ty : Ty) : ty.markerRole? = none ↔ ∀ role, ¬ ty.Marks role := by
  simp only [← markerRole?_eq_some_iff, Option.eq_none_iff_forall_ne_some, ne_eq]

/-- A marker by its own name is in no grouping, so that its argument is its own. -/
theorem NamesMarker.eq_of_encloses {ty core : Ty} {role : Role} (names : ty.NamesMarker role)
    (encloses : ty.Encloses core) : core = ty := by
  obtain ⟨name, isPath, _⟩ := names.2
  exact encloses.eq_of_isPathTo name isPath

theorem filterMap_type?_eq_singleton_iff (arguments : List GenericArgument) (argument : Ty) :
    arguments.filterMap GenericArgument.type? = [argument] ↔
      ∃ before comma after, arguments = before ++ .type argument comma :: after ∧
        ∀ other ∈ before ++ after, other.type? = none := by
  rw [List.filterMap_eq_cons_iff]
  constructor
  · rintro ⟨before, here, after, rfl, silent, isType, rest⟩
    rw [List.filterMap_eq_nil_iff] at rest
    match here with
    | .type ty comma =>
      obtain rfl := Option.some.inj isType
      refine ⟨before, comma, after, rfl, fun argument member => ?_⟩
      exact (List.mem_append.mp member).elim (silent argument) (rest argument)
  · rintro ⟨before, comma, after, rfl, others⟩
    rw [List.forall_mem_append] at others
    exact ⟨before, _, after, rfl, others.1, rfl, List.filterMap_eq_nil_iff.mpr others.2⟩

theorem onlyArgument?_eq_some_iff (ty argument : Ty) :
    ty.onlyArgument? = some argument ↔ ty.HasOnlyArgument argument := by
  have only : ty.onlyArgument? = some argument ↔ ty.typeArguments = [argument] := by
    unfold onlyArgument?
    split
    · next found => simp only [found, Option.some.injEq, List.cons.injEq, and_true]
    · next several => exact ⟨nofun, fun single => absurd single (several argument)⟩
  rw [only]
  constructor
  · intro found
    unfold typeArguments at found
    split at found
    · next qualified lead segments =>
      split at found
      · next name turbofish arguments last =>
        obtain ⟨before, comma, after, rfl, others⟩ :=
          (filterMap_type?_eq_singleton_iff arguments argument).mp found
        exact ⟨qualified, lead, segments, name, turbofish, before, comma, after, rfl, last, others⟩
      · cases found
    · cases found
  · rintro ⟨qualified, lead, segments, name, turbofish, before, comma, after, rfl, last, others⟩
    simp only [typeArguments, last]
    exact (filterMap_type?_eq_singleton_iff _ argument).mpr ⟨before, comma, after, rfl, others⟩

theorem HasOnlyArgument.peel_eq {ty argument : Ty} (only : ty.HasOnlyArgument argument) :
    ty.peel = ty := by
  obtain ⟨_, _, _, _, _, _, _, _, rfl, _⟩ := only
  rfl

theorem holds_iff (ty argument : Ty) :
    ty.Holds argument ↔ ty.peel.onlyArgument? = some argument := by
  rw [onlyArgument?_eq_some_iff]
  constructor
  · rintro ⟨core, encloses, only⟩
    rw [← encloses.peel_eq, only.peel_eq]
    exact only
  · intro only
    exact ⟨ty.peel, ty.encloses_peel, only⟩

theorem HasOnlyArgument.isPart {ty argument : Ty} (only : ty.HasOnlyArgument argument) :
    argument.IsPart ty := by
  obtain ⟨qualified, lead, segments, name, turbofish, before, comma, after, rfl, last, _⟩ := only
  exact .argument qualified lead segments name turbofish _ argument comma
    (List.mem_of_getLast? last) (List.mem_append_right before List.mem_cons_self)

/-- Each layer around the path is one more step from the whole to the argument. -/
theorem Encloses.isProperPart {ty core part : Ty} (encloses : ty.Encloses core)
    (isPart : part.IsPart core) : part.IsProperPart ty := by
  induction encloses with
  | refl ty => exact .single isPart
  | paren inner core _ ih => exact (ih isPart).tail (.paren inner)
  | group inner core _ ih => exact (ih isPart).tail (.group inner)

theorem Holds.isProperPart {ty argument : Ty} (holds : ty.Holds argument) :
    argument.IsProperPart ty := by
  obtain ⟨core, encloses, only⟩ := holds
  exact encloses.isProperPart only.isPart

/-- A marker type holds values of its only argument, and any other type holds its own. -/
theorem valueType_eq_ok_iff (ty value : Ty) :
    ty.valueType = .ok value ↔
      ((∃ role, ty.Marks role) ∧ ty.Holds value) ∨ ((∀ role, ¬ ty.Marks role) ∧ value = ty) := by
  unfold valueType
  split
  · next unmarked =>
    have none := ty.markerRole?_eq_none_iff.mp unmarked
    constructor
    · intro same
      exact Or.inr ⟨none, (Except.ok.inj same).symm⟩
    · rintro (⟨⟨role, marks⟩, _⟩ | ⟨_, rfl⟩)
      · exact absurd marks (none role)
      · rfl
  · next role marked =>
    have marks := (ty.markerRole?_eq_some_iff role).mp marked
    rw [holds_iff]
    split
    · next argument only =>
      rw [only, Except.ok.injEq, Option.some.injEq]
      constructor
      · intro same
        exact Or.inl ⟨⟨role, marks⟩, same⟩
      · rintro (⟨_, same⟩ | ⟨unmarked, _⟩)
        · exact same
        · exact absurd marks (unmarked role)
    · next missing =>
      rw [missing]
      constructor
      · nofun
      · rintro (⟨_, impossible⟩ | ⟨unmarked, _⟩)
        · cases impossible
        · exact absurd marks (unmarked role)

theorem valueType_eq_error_iff (ty : Ty) (fault : Fault) :
    ty.valueType = .error fault ↔
      ∃ role, ty.Marks role ∧ (∀ argument, ¬ ty.Holds argument) ∧ fault = .markerArgument role := by
  unfold valueType
  simp only [← markerRole?_eq_some_iff, holds_iff]
  cases ty.markerRole? with
  | none => simp
  | some role =>
    cases ty.peel.onlyArgument? with
    | none => simp [eq_comm]
    | some argument => simp

end Ty

/-- The role of a field by its declared type and its default. -/
inductive Role.IsOf (ty : Ty) (d : Default) : Role → Prop
  | property (isProperty : d = .property) : IsOf ty d .propertyShadow
  | named (ordinary : d ≠ .property) (role : Role) (names : ty.NamesMarker role) : IsOf ty d role
  | wrapped (ordinary : d ≠ .property) (unnamed : ∀ role, ¬ ty.NamesMarker role) (core : Ty)
      (encloses : ty.Encloses core) (names : core.NamesMarker .classVar) : IsOf ty d .classVar
  | plain (ordinary : d ≠ .property) (unnamed : ∀ role, ¬ ty.NamesMarker role)
      (unwrapped : ∀ core, ty.Encloses core → ¬ core.NamesMarker .classVar) : IsOf ty d .standard

namespace Role

theorem ofField_ordinary (ty : Ty) (d : Default) (ordinary : d ≠ .property) :
    ofField ty d = ty.markerRole?.getD standard := by
  cases d with
  | property => exact absurd rfl ordinary
  | _ => rfl

/-- What no marker names, in no grouping either, has no role of its own. -/
theorem unmarked_of_unnamed {ty : Ty} (unnamed : ∀ role, ¬ ty.NamesMarker role)
    (unwrapped : ∀ core, ty.Encloses core → ¬ core.NamesMarker .classVar) (role : Role) :
    ¬ ty.Marks role := by
  intro marks
  cases marks with
  | named _ names => exact unnamed role names
  | wrapped _ core encloses names => exact unwrapped core encloses names

theorem ofField_eq_iff (ty : Ty) (d : Default) (role : Role) :
    ofField ty d = role ↔ IsOf ty d role := by
  constructor
  · rintro rfl
    by_cases isProperty : d = .property
    · rw [isProperty]
      exact .property rfl
    rw [ofField_ordinary ty d isProperty]
    cases marked : ty.markerRole? with
    | some role =>
      cases (ty.markerRole?_eq_some_iff role).mp marked with
      | named _ names => exact .named isProperty role names
      | wrapped unnamed core encloses names =>
        exact .wrapped isProperty unnamed core encloses names
    | none =>
      have unmarked := ty.markerRole?_eq_none_iff.mp marked
      have unnamed : ∀ role, ¬ ty.NamesMarker role := fun role names =>
        unmarked role (.named role names)
      exact .plain isProperty unnamed fun core encloses names =>
        unmarked _ (.wrapped unnamed core encloses names)
  · intro isOf
    cases isOf with
    | property isProperty =>
      rw [isProperty]
      rfl
    | named ordinary _ names =>
      rw [ofField_ordinary ty d ordinary, (ty.markerRole?_eq_some_iff role).mpr (.named role names)]
      rfl
    | wrapped ordinary unnamed core encloses names =>
      have marks : ty.Marks .classVar := .wrapped unnamed core encloses names
      rw [ofField_ordinary ty d ordinary, (ty.markerRole?_eq_some_iff _).mpr marks]
      rfl
    | plain ordinary unnamed unwrapped =>
      rw [ofField_ordinary ty d ordinary,
        ty.markerRole?_eq_none_iff.mpr (unmarked_of_unnamed unnamed unwrapped)]
      rfl

end Role

namespace Ty

/-- In whatever grouping, the marker is a path by its own name. -/
theorem Marks.exists_core {ty : Ty} {role : Role} (marks : ty.Marks role) :
    ∃ core, ty.Encloses core ∧ core.NamesMarker role := by
  cases marks with
  | named _ names => exact ⟨ty, .refl ty, names⟩
  | wrapped _ core encloses names => exact ⟨core, encloses, names⟩

/-- The argument of a type is that of the marker in it. -/
theorem Holds.of_encloses {ty core argument : Ty} {role : Role} (holds : ty.Holds argument)
    (encloses : ty.Encloses core) (names : core.NamesMarker role) :
    core.HasOnlyArgument argument := by
  obtain ⟨name, isPath, _⟩ := names.2
  rw [holds_iff, onlyArgument?_eq_some_iff, ← encloses.peel_eq, isPath.peel_eq] at holds
  exact holds

/-- A construction-only or class-scoped field has a marker. -/
theorem marks_of_isOf {ty : Ty} {d : Default} {role : Role} (isOf : Role.IsOf ty d role)
    (unstored : role.isStored = false) : ty.Marks role := by
  cases isOf with
  | property => cases unstored
  | named _ role names => exact .named role names
  | wrapped _ unnamed core encloses names => exact .wrapped unnamed core encloses names
  | plain => cases unstored

theorem unmarked_of_isOf {ty : Ty} {d : Default} (isOf : Role.IsOf ty d .standard)
    (role : Role) : ¬ ty.Marks role := by
  cases isOf with
  | named _ _ names => exact absurd names.1 (by decide)
  | plain _ unnamed unwrapped => exact Role.unmarked_of_unnamed unnamed unwrapped role

/-- In any grouping a class variable is one, and holds values of its argument. -/
theorem classVar_of_encloses {ty core argument : Ty} (encloses : ty.Encloses core)
    (names : core.NamesMarker .classVar) (only : core.HasOnlyArgument argument) (d : Default)
    (ordinary : d ≠ .property) :
    Role.ofField ty d = .classVar ∧ ty.valueType = .ok argument := by
  have isOf : Role.IsOf ty d .classVar := by
    by_cases named : ∃ role, ty.NamesMarker role
    · obtain ⟨role, own⟩ := named
      obtain rfl := own.eq_of_encloses encloses
      exact .named ordinary _ names
    · exact .wrapped ordinary (not_exists.mp named) core encloses names
  refine ⟨(Role.ofField_eq_iff ty d _).mpr isOf, ?_⟩
  exact (valueType_eq_ok_iff ty argument).mpr
    (Or.inl ⟨⟨_, marks_of_isOf isOf rfl⟩, core, encloses, only⟩)

/-- Another marker in some grouping is a type as any other. -/
theorem standard_of_encloses {ty core : Ty} {role : Role} (encloses : ty.Encloses core)
    (names : core.NamesMarker role) (notClassVar : role ≠ .classVar) (grouped : ty ≠ core)
    (d : Default) (ordinary : d ≠ .property) :
    Role.ofField ty d = .standard ∧ ty.valueType = .ok ty := by
  have unnamed : ∀ other, ¬ ty.NamesMarker other := fun other own =>
    grouped (own.eq_of_encloses encloses).symm
  have unwrapped : ∀ other, ty.Encloses other → ¬ other.NamesMarker .classVar := by
    intro other also classVar
    obtain ⟨_, isPath, _⟩ := names.2
    obtain ⟨_, isAlsoPath, _⟩ := classVar.2
    have same : core = other := by
      rw [← isPath.peel_eq, ← isAlsoPath.peel_eq, encloses.peel_eq, also.peel_eq]
    subst same
    exact notClassVar (names.unique classVar)
  have isOf : Role.IsOf ty d .standard := .plain ordinary unnamed unwrapped
  refine ⟨(Role.ofField_eq_iff ty d _).mpr isOf, ?_⟩
  exact (valueType_eq_ok_iff ty ty).mpr (Or.inr ⟨unmarked_of_isOf isOf, rfl⟩)

/-- Role and value type of a field agree. Construction-only and class-scoped fields hold values of
the only type argument of their marker, and fields that are stored as declared hold the declared
type. A marker without exactly one type argument is all that is refused. Grouping around a class
variable does not matter, and around another marker it takes the role away. -/
theorem role_agrees_with_valueType (ty : Ty) (d : Default) :
    (∀ role, Role.ofField ty d = role ↔ Role.IsOf ty d role) ∧
    (∀ value, ty.valueType = .ok value →
      (∀ role, Role.ofField ty d = role → role = .initVar ∨ role = .classVar →
        ∃ core, ty.Encloses core ∧ core.NamesMarker role ∧ core.HasOnlyArgument value ∧
          value.IsProperPart ty ∧ value ≠ ty) ∧
      (Role.ofField ty d = .standard → value = ty)) ∧
    ((∃ fault, ty.valueType = .error fault) ↔
      (∃ role, ty.Marks role) ∧ ∀ argument, ¬ ty.Holds argument) ∧
    (d ≠ .property → ∀ core argument, ty.Encloses core → core.HasOnlyArgument argument →
      (core.NamesMarker .classVar →
        Role.ofField ty d = .classVar ∧ ty.valueType = .ok argument) ∧
      (∀ role, core.NamesMarker role → role ≠ .classVar → ty ≠ core →
        Role.ofField ty d = .standard ∧ ty.valueType = .ok ty)) := by
  refine ⟨Role.ofField_eq_iff ty d, ?_, ?_, ?_⟩
  · intro value success
    rw [valueType_eq_ok_iff] at success
    constructor
    · intro role isRole unstored
      have isOf := (Role.ofField_eq_iff ty d role).mp isRole
      have marks : ty.Marks role := marks_of_isOf isOf (by rcases unstored with rfl | rfl <;> rfl)
      rcases success with ⟨_, holds⟩ | ⟨unmarked, _⟩
      · obtain ⟨core, encloses, names⟩ := marks.exists_core
        have proper := holds.isProperPart
        exact ⟨core, encloses, names, holds.of_encloses encloses names, proper, proper.ne⟩
      · exact absurd marks (unmarked role)
    · intro isStandard
      have isOf := (Role.ofField_eq_iff ty d _).mp isStandard
      rcases success with ⟨⟨role, marks⟩, _⟩ | ⟨_, same⟩
      · exact absurd marks (unmarked_of_isOf isOf role)
      · exact same
  · simp only [valueType_eq_error_iff]
    constructor
    · rintro ⟨fault, role, marks, without, _⟩
      exact ⟨⟨role, marks⟩, without⟩
    · rintro ⟨⟨role, marks⟩, without⟩
      exact ⟨.markerArgument role, role, marks, without, rfl⟩
  · intro ordinary core argument encloses only
    constructor
    · intro names
      exact classVar_of_encloses encloses names only d ordinary
    · intro role names notClassVar grouped
      exact standard_of_encloses encloses names notClassVar grouped d ordinary

/-- A marker of the crate, with a lifetime before its type argument. -/
def borrowed (marker : String) (inner : Ty) : Ty :=
  .path false [] [.mk "inity" .none, .mk marker
    (.angled false [.lifetime [.punct '\x27' true, .ident "a"] true, .type inner true])]

theorem namesMarker_borrowed (inner : Ty) :
    (borrowed "ClassVar" inner).NamesMarker .classVar ∧
      (borrowed "InitVar" inner).NamesMarker .initVar := by
  have classVar : Name.unraw "ClassVar" = "ClassVar" := by decide +kernel
  have initVar : Name.unraw "InitVar" = "InitVar" := by decide +kernel
  constructor
  · exact ⟨by decide, "ClassVar", ⟨_, _, _, rfl, rfl, classVar⟩, by decide +kernel⟩
  · exact ⟨by decide, "InitVar", ⟨_, _, _, rfl, rfl, initVar⟩, by decide +kernel⟩

theorem hasOnlyArgument_borrowed (marker : String) (inner : Ty) :
    (borrowed marker inner).HasOnlyArgument inner := by
  refine ⟨_, _, _, marker, false, [.lifetime _ true], true, [], rfl, rfl, ?_⟩
  intro other member
  rw [List.mem_singleton.mp member]
  rfl

/-- Two layers around a class variable, the argument of which is in parentheses itself, and one
around a construction-only type. -/
theorem role_agrees_with_valueType_borrowed :
    (Role.ofField (.group (.paren (borrowed "ClassVar" (.paren (.named "u8"))))) .missing =
        .classVar ∧
      (Ty.group (.paren (borrowed "ClassVar" (.paren (.named "u8"))))).valueType =
        .ok (.paren (.named "u8"))) ∧
    Role.ofField (.paren (borrowed "InitVar" (.named "u8"))) .missing = .standard ∧
      (Ty.paren (borrowed "InitVar" (.named "u8"))).valueType =
        .ok (.paren (borrowed "InitVar" (.named "u8"))) := by
  constructor
  · obtain ⟨_, _, _, grouping⟩ := role_agrees_with_valueType
      (.group (.paren (borrowed "ClassVar" (.paren (.named "u8"))))) .missing
    exact (grouping nofun _ _ (.group _ _ (.paren _ _ (.refl _)))
      (hasOnlyArgument_borrowed _ _)).1 (namesMarker_borrowed _).1
  · obtain ⟨_, _, _, grouping⟩ := role_agrees_with_valueType
      (.paren (borrowed "InitVar" (.named "u8"))) .missing
    exact (grouping nofun _ _ (.paren _ _ (.refl _)) (hasOnlyArgument_borrowed _ _)).2 .initVar
      (namesMarker_borrowed _).2 (by decide) nofun

end Ty

end ClassExpansion
