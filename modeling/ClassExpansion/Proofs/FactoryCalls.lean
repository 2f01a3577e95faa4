import ClassExpansion.Class.Default
import Mathlib.Data.List.Infix

set_option autoImplicit false

/- Calls of `factory` and names that hold the suffix. The count of arguments is checked where an
option is read and the tag is looked for where a default is resolved; both see the same expression
under the same layers of grouping. -/
namespace ClassExpansion

namespace Expr

/-- Some layers of parentheses and invisible groups, taken off from outside, leave the core. -/
inductive Encloses : Expr → Expr → Prop
  | refl (e : Expr) : Encloses e e
  | paren (attrs : Tokens) (inner core : Expr) (encloses : Encloses inner core) :
      Encloses (.paren attrs inner) core
  | group (attrs : Tokens) (inner core : Expr) (encloses : Encloses inner core) :
      Encloses (.group attrs inner) core

/-- A path, the last segment of which is the text. -/
def IsPathTo (e : Expr) (text : String) : Prop :=
  ∃ attrs named segment, e = .path attrs named ∧
    named.segments.getLast? = some segment ∧ segment.name = text

/-- A call of `factory` with the arguments, whatever path leads to it. -/
def CallsFactory (e : Expr) (arguments : List (Expr × Bool)) : Prop :=
  ∃ attrs function, e = .call attrs function arguments ∧ function.IsPathTo "factory"

/-- In any grouping, a call of `factory` has exactly one argument. -/
def HasLegalArity (e : Expr) : Prop :=
  ∀ core arguments, e.Encloses core → core.CallsFactory arguments → arguments.length = 1

/-- In some grouping there is a call of `factory`, or a path, the last segment of which holds the
suffix. -/
def IsTagged (suffix : String) (e : Expr) : Prop :=
  ∃ core, e.Encloses core ∧ ((∃ arguments, core.CallsFactory arguments) ∨
    ∃ text, core.IsPathTo text ∧ suffix.toList <:+: text.toList)

/-- One is the other up to the layers of grouping around it. -/
def Regrouped (a b : Expr) : Prop := ∃ core, a.Encloses core ∧ b.Encloses core

theorem isFactoryName_iff (e : Expr) : e.isFactoryName = true ↔ e.IsPathTo "factory" := by
  constructor
  · intro isName
    unfold isFactoryName at isName
    split at isName
    · next attrs named =>
      obtain ⟨segment, last, same⟩ := Option.map_eq_some_iff.mp (beq_iff_eq.mp isName)
      exact ⟨attrs, named, segment, rfl, last, same⟩
    · cases isName
  · rintro ⟨attrs, named, segment, rfl, last, same⟩
    exact beq_iff_eq.mpr (Option.map_eq_some_iff.mpr ⟨segment, last, same⟩)

theorem factoryArity?_of_encloses {e core : Expr} (encloses : e.Encloses core) :
    e.factoryArity? = core.factoryArity? := by
  induction encloses with
  | refl e => rfl
  | paren attrs inner core _ ih => rw [factoryArity?, ih]
  | group attrs inner core _ ih => rw [factoryArity?, ih]

theorem factoryArity?_of_callsFactory (e : Expr) (arguments : List (Expr × Bool))
    (calls : e.CallsFactory arguments) : e.factoryArity? = some arguments.length := by
  obtain ⟨attrs, function, rfl, isFactory⟩ := calls
  rw [factoryArity?, function.isFactoryName_iff.mpr isFactory, if_pos rfl]

/-- Arguments are counted of a call of `factory` only, in whatever grouping it stands. -/
theorem exists_call_of_factoryArity? (count : Nat) : (e : Expr) → e.factoryArity? = some count →
    ∃ core arguments, e.Encloses core ∧ core.CallsFactory arguments ∧ arguments.length = count
  | .paren attrs inner, counted => by
    rw [factoryArity?] at counted
    obtain ⟨core, arguments, encloses, calls⟩ := exists_call_of_factoryArity? count inner counted
    exact ⟨core, arguments, .paren attrs inner core encloses, calls⟩
  | .group attrs inner, counted => by
    rw [factoryArity?] at counted
    obtain ⟨core, arguments, encloses, calls⟩ := exists_call_of_factoryArity? count inner counted
    exact ⟨core, arguments, .group attrs inner core encloses, calls⟩
  | .call attrs function arguments, counted => by
    rw [factoryArity?, Option.ite_none_right_eq_some, isFactoryName_iff,
      Option.some.injEq] at counted
    exact ⟨_, arguments, .refl _, ⟨attrs, function, rfl, counted.1⟩, counted.2⟩
  | .lit _ _, counted => nomatch counted
  | .path _ _, counted => nomatch counted
  | .negated _ _, counted => nomatch counted
  | .other _ _ _, counted => nomatch counted

theorem hasFactoryArity_iff (e : Expr) : e.hasFactoryArity = true ↔ e.HasLegalArity := by
  unfold hasFactoryArity
  constructor
  · intro single core arguments encloses calls
    rw [factoryArity?_of_encloses encloses, factoryArity?_of_callsFactory core arguments calls]
      at single
    exact of_decide_eq_true single
  · intro legal
    cases counted : e.factoryArity? with
    | none => rfl
    | some count =>
      obtain ⟨core, arguments, encloses, calls, rfl⟩ := exists_call_of_factoryArity? count e counted
      exact decide_eq_true (legal core arguments encloses calls)

/-- A layer of grouping has no part in what is legal. -/
theorem Regrouped.hasFactoryArity_eq {a b : Expr} (regrouped : a.Regrouped b) :
    a.hasFactoryArity = b.hasFactoryArity := by
  obtain ⟨core, ofFirst, ofSecond⟩ := regrouped
  unfold hasFactoryArity
  rw [factoryArity?_of_encloses ofFirst, factoryArity?_of_encloses ofSecond]

end Expr

namespace Default

theorem holds_iff (part text : List Char) : holds part text = true ↔ part <:+: text := by
  induction text with
  | nil => simp [holds, List.infix_nil]
  | cons c rest ih =>
    rw [holds, Bool.or_eq_true, ih, List.infix_cons_iff, List.isPrefixOf_iff_prefix]

theorem isTagged_of_encloses (suffix : String) {e core : Expr} (encloses : e.Encloses core) :
    isTagged suffix e = isTagged suffix core := by
  induction encloses with
  | refl e => rfl
  | paren attrs inner core _ ih => rw [isTagged, ih]
  | group attrs inner core _ ih => rw [isTagged, ih]

theorem isTagged_path_iff (suffix : String) (attrs : Tokens) (named : Path) :
    isTagged suffix (.path attrs named) = true ↔
      ∃ text, (Expr.path attrs named).IsPathTo text ∧ suffix.toList <:+: text.toList := by
  rw [isTagged, Option.any_eq_true]
  simp only [holds_iff, Path.lastName?, Option.map_eq_some_iff]
  constructor
  · rintro ⟨text, ⟨segment, last, same⟩, inside⟩
    exact ⟨text, ⟨attrs, named, segment, rfl, last, same⟩, inside⟩
  · rintro ⟨text, ⟨_, _, segment, isPath, last, same⟩, inside⟩
    cases isPath
    exact ⟨text, ⟨segment, last, same⟩, inside⟩

theorem isTagged_call_iff (suffix : String) (attrs : Tokens) (function : Expr)
    (arguments : List (Expr × Bool)) :
    isTagged suffix (.call attrs function arguments) = true ↔
      ∃ given, (Expr.call attrs function arguments).CallsFactory given := by
  rw [isTagged, Expr.isFactoryName_iff]
  constructor
  · intro isFactory
    exact ⟨arguments, attrs, function, rfl, isFactory⟩
  · rintro ⟨given, _, _, isCall, isFactory⟩
    cases isCall
    exact isFactory

/-- Under the layers of grouping, a tagged expression is a call or a path. -/
theorem exists_core_of_isTagged (suffix : String) : (e : Expr) → isTagged suffix e = true →
    e.IsTagged suffix
  | .paren attrs inner, tagged => by
    rw [isTagged] at tagged
    obtain ⟨core, encloses, is⟩ := exists_core_of_isTagged suffix inner tagged
    exact ⟨core, .paren attrs inner core encloses, is⟩
  | .group attrs inner, tagged => by
    rw [isTagged] at tagged
    obtain ⟨core, encloses, is⟩ := exists_core_of_isTagged suffix inner tagged
    exact ⟨core, .group attrs inner core encloses, is⟩
  | .call attrs function arguments, tagged =>
    ⟨_, .refl _, Or.inl ((isTagged_call_iff suffix attrs function arguments).mp tagged)⟩
  | .path attrs named, tagged =>
    ⟨_, .refl _, Or.inr ((isTagged_path_iff suffix attrs named).mp tagged)⟩

theorem isTagged_iff (suffix : String) (e : Expr) :
    isTagged suffix e = true ↔ e.IsTagged suffix := by
  constructor
  · exact exists_core_of_isTagged suffix e
  · rintro ⟨core, encloses, ⟨arguments, calls⟩ | ⟨text, isPath, inside⟩⟩
    · obtain ⟨attrs, function, rfl, isFactory⟩ := calls
      rw [isTagged_of_encloses suffix encloses, isTagged_call_iff]
      exact ⟨arguments, attrs, function, rfl, isFactory⟩
    · obtain ⟨attrs, named, segment, rfl, last, same⟩ := isPath
      rw [isTagged_of_encloses suffix encloses, isTagged_path_iff]
      exact ⟨text, ⟨attrs, named, segment, rfl, last, same⟩, inside⟩

end Default

theorem Expr.Regrouped.isTagged_eq {a b : Expr} (regrouped : a.Regrouped b) (suffix : String) :
    Default.isTagged suffix a = Default.isTagged suffix b := by
  obtain ⟨core, ofFirst, ofSecond⟩ := regrouped
  rw [Default.isTagged_of_encloses suffix ofFirst, Default.isTagged_of_encloses suffix ofSecond]

end ClassExpansion
