import ClassExpansion.Class.Declaration
import ClassExpansion.Proofs.Attempt

set_option autoImplicit false

/- Options with and without the debug flag. The flag changes no other option and no report, as long
as it is given once and with a value that it can have. -/
namespace ClassExpansion

/-- What the attributes of a class give one after the other: an entry, or a reason why there are no
entries. -/
inductive OptionStep
  | entry (entry : OptionEntry)
  | refused (fault : Fault)

namespace OptionStep

def ofBody : MetaBody → List OptionStep
  | .bare => []
  | .value _ => [.refused .optionsAsValue]
  | .list _ tokens =>
    match OptionEntry.readAll tokens with
    | .ok entries => entries.map .entry
    | .error fault => [.refused (.malformed fault)]

def ofBodies (bodies : List MetaBody) : List OptionStep := bodies.flatMap ofBody

def run (read : OptionsRead) : OptionStep → OptionsRead
  | entry e => read.entry e
  | refused fault => read.report fault

/-- The value of the step, if it gives the debug flag. -/
def flag? : OptionStep → Option MetaBody
  | entry (.item path body) => if path.dotted = "debug" then some body else none
  | _ => none

theorem exists_path_of_flag? (step : OptionStep) (body : MetaBody)
    (flag : step.flag? = some body) :
    ∃ path : NamePath, path.dotted = "debug" ∧ step = .entry (.item path body) := by
  cases step with
  | refused fault => cases flag
  | entry e =>
    cases e with
    | literal => cases flag
    | item path given =>
      simp only [flag?] at flag
      split at flag
      · next isFlag =>
        cases flag
        exact ⟨path, isFlag, rfl⟩
      · cases flag

theorem foldl_ofBody (read : OptionsRead) (body : MetaBody) :
    (ofBody body).foldl run read = read.item body := by
  unfold ofBody OptionsRead.item
  cases body with
  | bare => rfl
  | value e => rfl
  | list delimiter tokens =>
    dsimp only
    cases OptionEntry.readAll tokens with
    | ok entries => exact List.foldl_map
    | error fault => rfl

theorem foldl_ofBodies (read : OptionsRead) (bodies : List MetaBody) :
    (ofBodies bodies).foldl run read = bodies.foldl OptionsRead.item read := by
  unfold ofBodies
  rw [List.foldl_flatMap]
  simp only [foldl_ofBody]

/-- The flag is given once at most, and with a value that it can have. -/
structure ProperFlag (steps : List OptionStep) : Prop where
  once : (steps.filterMap flag?).length ≤ 1
  valid : ∀ body ∈ steps.filterMap flag?, ∃ value, debugReading.body body = .ok value

/-- The two differ in nothing but the flag, which either of them may have. -/
structure SameButFlag (steps steps' : List OptionStep) : Prop where
  others : steps.filter (·.flag?.isNone) = steps'.filter (·.flag?.isNone)
  proper : ProperFlag steps
  proper' : ProperFlag steps'

end OptionStep

/-- The options without the flag. -/
def Options.unflagged (options : Options) : Options := { options with debug? := .none }

namespace OptionsRead

/-- Both have the same reports and, but for the flag, the same options, of which the same were
given. -/
structure Alike (a b : OptionsRead) : Prop where
  options : a.options.unflagged = b.options.unflagged
  reports : a.reports = b.reports
  given : ∀ name, name ≠ "debug" → (name ∈ a.given ↔ name ∈ b.given)

namespace Alike

variable {a b : OptionsRead} (alike : Alike a b)

include alike

theorem report (fault : Fault) : Alike (a.report fault) (b.report fault) :=
  ⟨alike.options, congrArg (· ++ _) alike.reports, alike.given⟩

theorem set {α : Type} (name : String) (value : Except Fault α) (update : Options → α → Options)
    (blind : ∀ o v, (update o v).unflagged = (update o.unflagged v).unflagged) :
    Alike (a.set name value update) (b.set name value update) := by
  have given (other : String) (isOther : other ≠ "debug") :
      other ∈ name :: a.given ↔ other ∈ name :: b.given := by
    rw [List.mem_cons, List.mem_cons, alike.given other isOther]
  cases value with
  | ok v =>
    refine ⟨?_, alike.reports, given⟩
    show (update a.options v).unflagged = (update b.options v).unflagged
    rw [blind a.options, blind b.options, alike.options]
  | error fault => exact ⟨alike.options, congrArg (· ++ _) alike.reports, given⟩

theorem entry (entry : OptionEntry) (other : (OptionStep.entry entry).flag? = none) :
    Alike (a.entry entry) (b.entry entry) := by
  cases entry with
  | literal => exact alike.report _
  | item path body =>
    have isOther : path.dotted ≠ "debug" := by
      intro same
      rw [OptionStep.flag?, if_pos same] at other
      cases other
    have given : a.given.contains path.dotted = b.given.contains path.dotted := by
      rw [Bool.eq_iff_iff, List.contains_iff_mem, List.contains_iff_mem, alike.given _ isOther]
    unfold OptionsRead.entry
    dsimp only
    rw [given]
    split
    · exact alike.report _
    · split
      · exact alike.report _
      · split
        · exact alike.set _ _ _ fun _ _ => rfl
        · exact alike.set _ _ _ fun _ _ => rfl
        · exact alike.set _ _ _ fun _ _ => rfl
        · exact alike.set _ _ _ fun _ _ => rfl
        · exact alike.set _ _ _ fun _ _ => rfl

theorem run (step : OptionStep) (other : step.flag? = none) :
    Alike (step.run a) (step.run b) := by
  cases step with
  | entry e => exact alike.entry e other
  | refused fault => exact alike.report fault

/-- The flag by itself changes nothing else, if it was not given before. -/
theorem run_flag (step : OptionStep) (body : MetaBody) (flag : step.flag? = some body)
    (value : Bool) (valid : debugReading.body body = .ok value) (fresh : "debug" ∉ a.given) :
    Alike (step.run a) b := by
  obtain ⟨path, isFlag, rfl⟩ := step.exists_path_of_flag? body flag
  have known : optionNames.contains "debug" = true := by decide
  have notGiven : a.given.contains "debug" = false := by
    rw [← Bool.not_eq_true, List.contains_iff_mem]
    exact fresh
  unfold OptionStep.run OptionsRead.entry
  simp only [isFlag, known, notGiven, Bool.not_true, Bool.false_eq_true, ↓reduceIte, valid]
  refine ⟨alike.options, alike.reports, fun name other => ?_⟩
  show name ∈ "debug" :: a.given ↔ _
  rw [List.mem_cons, alike.given name other]
  exact or_iff_right other

end Alike

/-- Only the flag counts as given once it is. -/
theorem debug_mem_given_run (read : OptionsRead) (step : OptionStep) (other : step.flag? = none) :
    "debug" ∈ (step.run read).given ↔ "debug" ∈ read.given := by
  cases step with
  | refused fault => rfl
  | entry e =>
    cases e with
    | literal => rfl
    | item path body =>
      have isOther : "debug" ≠ path.dotted := by
        intro same
        rw [OptionStep.flag?, if_pos same.symm] at other
        cases other
      have set {α : Type} (value : Except Fault α) (update : Options → α → Options) :
          "debug" ∈ (read.set path.dotted value update).given ↔ "debug" ∈ read.given := by
        cases value with
        | ok v => exact List.mem_cons.trans (or_iff_right isOther)
        | error fault => exact List.mem_cons.trans (or_iff_right isOther)
      unfold OptionStep.run OptionsRead.entry
      dsimp only
      split
      · rfl
      · split
        · rfl
        · split
          · next is => exact is ▸ set _ _
          · next is => exact is ▸ set _ _
          · next is => exact is ▸ set _ _
          · next is => exact is ▸ set _ _
          · exact set _ _

/-- Step by step, the run with the flag stays alike to the run without it. -/
theorem alike_foldl (steps : List OptionStep) (a b : OptionsRead) (alike : Alike a b)
    (proper : OptionStep.ProperFlag steps)
    (fresh : steps.filterMap OptionStep.flag? ≠ [] → "debug" ∉ a.given) :
    Alike (steps.foldl OptionStep.run a)
      ((steps.filter (·.flag?.isNone)).foldl OptionStep.run b) := by
  induction steps generalizing a b with
  | nil => exact alike
  | cons step rest ih =>
    obtain ⟨once, valid⟩ := proper
    cases flag : step.flag? with
    | none =>
      rw [List.filterMap_cons_none flag] at once valid fresh
      rw [List.filter_cons_of_pos (by rw [flag]; rfl), List.foldl_cons, List.foldl_cons]
      refine ih _ _ (alike.run step flag) ⟨once, valid⟩ fun more => ?_
      rw [debug_mem_given_run a step flag]
      exact fresh more
    | some body =>
      rw [List.filterMap_cons_some flag] at once valid fresh
      rw [List.filter_cons_of_neg (by rw [flag]; exact Bool.false_ne_true), List.foldl_cons]
      -- No flag follows this one, so that nothing more is asked of the run.
      have last : rest.filterMap OptionStep.flag? = [] :=
        List.eq_nil_of_length_eq_zero (by rw [List.length_cons] at once; omega)
      obtain ⟨value, isValue⟩ := valid body List.mem_cons_self
      have onward := alike.run_flag step body flag value isValue (fresh (List.cons_ne_nil _ _))
      refine ih _ _ onward ⟨?_, ?_⟩ fun more => absurd last more
      · rw [last]
        exact Nat.zero_le _
      · rw [last]
        exact nofun

end OptionsRead

/-- Attributes that differ in the flag alone give the same options but for the flag, or the same
reports. -/
theorem Options.read_congr (bodies bodies' : List MetaBody)
    (same : OptionStep.SameButFlag (OptionStep.ofBodies bodies) (OptionStep.ofBodies bodies')) :
    (Options.read bodies).map unflagged = (Options.read bodies').map unflagged := by
  have start : OptionsRead.Alike ⟨[], .none, []⟩ ⟨[], .none, []⟩ := ⟨rfl, rfl, fun _ _ => Iff.rfl⟩
  have first := OptionsRead.alike_foldl _ _ _ start same.proper fun _ => List.not_mem_nil
  have second := OptionsRead.alike_foldl _ _ _ start same.proper' fun _ => List.not_mem_nil
  rw [OptionStep.foldl_ofBodies] at first second
  rw [← same.others] at second
  have options := first.options.trans second.options.symm
  have reports := first.reports.trans second.reports.symm
  unfold Options.read
  dsimp only
  rw [reports]
  split
  · exact congrArg Except.ok options
  · rfl

end ClassExpansion
