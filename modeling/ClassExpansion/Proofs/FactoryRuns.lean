import ClassExpansion.Directory.FactoryRun
import ClassExpansion.Proofs.FieldList

set_option autoImplicit false

/- Runs of a counting callable, of its factory and of any number of cells: each cell takes its
value from the step that asks it first, and no other initializer of the cell is run. -/
namespace ClassExpansion

namespace FactoryStep

variable {σ : Type}

/-- The cell that a step asks, if it asks one. -/
def cell? : FactoryStep σ → Option String
  | materialize cell => some cell
  | materializeWith cell _ => some cell
  | call | produce | producePlain | callInner => none

/-- Whether a step that asks a cell would have the factory make the value. -/
def usesFactory : FactoryStep σ → Bool
  | materialize _ => true
  | materializeWith _ _ | call | produce | producePlain | callInner => false

/-- The initializer that a step which asks a cell would run in place of the factory. -/
def initializer? : FactoryStep σ → Option (Callable σ Int)
  | materializeWith _ make => some make
  | materialize _ | call | produce | producePlain | callInner => none

/-- The cells that the steps ask, each once. -/
def askedCells (steps : List (FactoryStep σ)) : List String := (steps.filterMap cell?).eraseDups

/-- The first of the steps that asks the cell. -/
def firstAsk? (steps : List (FactoryStep σ)) (cell : String) : Option (FactoryStep σ) :=
  steps.find? fun step => step.cell? == some cell

/-- The cells whose first ask would have the factory make the value. -/
def madeCells (steps : List (FactoryStep σ)) : List String :=
  (askedCells steps).filter fun cell => (firstAsk? steps cell).any usesFactory

/-- The steps that ask a cell first. -/
def firstAsks (steps : List (FactoryStep σ)) : List (FactoryStep σ) :=
  (askedCells steps).filterMap (firstAsk? steps)

/-- What is outside after the steps: only the first ask of a cell runs its initializer. -/
def outsideAfter (outside : σ) (steps : List (FactoryStep σ)) : σ :=
  ((firstAsks steps).filterMap initializer?).foldl (fun outside make => (make outside).2) outside

/-- How many of the steps reach the callable: those that ask no cell, and one for each cell that
the factory fills. -/
def calls (steps : List (FactoryStep σ)) : Nat :=
  steps.countP (fun step => step.cell?.isNone) + (madeCells steps).length

theorem mem_askedCells (steps : List (FactoryStep σ)) (cell : String) :
    cell ∈ askedCells steps ↔ ∃ step ∈ steps, step.cell? = some cell := by
  rw [askedCells, List.mem_eraseDups, List.mem_filterMap]

theorem firstAsk?_concat_of_mem (past : List (FactoryStep σ)) (step : FactoryStep σ) (cell : String)
    (asked : cell ∈ askedCells past) :
    firstAsk? (past ++ [step]) cell = firstAsk? past cell := by
  obtain ⟨earlier, member, asks⟩ := (mem_askedCells past cell).mp asked
  have found : (firstAsk? past cell).isSome := by
    rw [firstAsk?, List.find?_isSome]
    exact ⟨earlier, member, beq_iff_eq.mpr asks⟩
  unfold firstAsk? at found ⊢
  rw [List.find?_append, Option.or_of_isSome found]

theorem firstAsk?_concat_of_not_mem (past : List (FactoryStep σ)) (step : FactoryStep σ) (cell : String)
    (unasked : cell ∉ askedCells past) (asks : step.cell? = some cell) :
    firstAsk? (past ++ [step]) cell = some step := by
  have missing : past.find? (fun step => step.cell? == some cell) = none := by
    rw [List.find?_eq_none]
    intro earlier member found
    exact unasked ((mem_askedCells past cell).mpr ⟨earlier, member, beq_iff_eq.mp found⟩)
  simp [firstAsk?, List.find?_append, missing, asks]

theorem askedCells_concat (past : List (FactoryStep σ)) (step : FactoryStep σ) :
    askedCells (past ++ [step]) = match step.cell? with
      | none => askedCells past
      | some cell =>
        if cell ∈ askedCells past then askedCells past else askedCells past ++ [cell] := by
  unfold askedCells
  rw [List.filterMap_append]
  cases asks : step.cell? with
  | none => simp [asks]
  | some cell => simp [asks, eraseDups_concat]

/-- A further step leaves the first asks of the cells before it. -/
theorem filter_askedCells_concat (past : List (FactoryStep σ)) (step : FactoryStep σ) :
    (askedCells past).filter (fun cell => (firstAsk? (past ++ [step]) cell).any usesFactory) =
      madeCells past := by
  apply List.filter_congr
  intro cell asked
  rw [firstAsk?_concat_of_mem past step cell asked]

theorem calls_concat_direct (past : List (FactoryStep σ)) (step : FactoryStep σ)
    (direct : step.cell? = none) : calls (past ++ [step]) = calls past + 1 := by
  have made : madeCells (past ++ [step]) = madeCells past := by
    rw [madeCells, askedCells_concat, direct]
    exact filter_askedCells_concat past step
  rw [calls, calls, made, List.countP_append, List.countP_singleton, direct]
  simp only [Option.isNone_none, if_true]
  omega

theorem calls_concat_asked (past : List (FactoryStep σ)) (step : FactoryStep σ) (cell : String)
    (asks : step.cell? = some cell) (asked : cell ∈ askedCells past) :
    calls (past ++ [step]) = calls past := by
  have made : madeCells (past ++ [step]) = madeCells past := by
    rw [madeCells, askedCells_concat, asks]
    dsimp only
    rw [if_pos asked]
    exact filter_askedCells_concat past step
  rw [calls, calls, made, List.countP_append, List.countP_singleton, asks]
  simp only [Option.isNone_some, Bool.false_eq_true, if_false, Nat.add_zero]

theorem calls_concat_unasked (past : List (FactoryStep σ)) (step : FactoryStep σ) (cell : String)
    (asks : step.cell? = some cell) (unasked : cell ∉ askedCells past) :
    calls (past ++ [step]) = calls past + if step.usesFactory then 1 else 0 := by
  have made : madeCells (past ++ [step]) =
      madeCells past ++ if step.usesFactory then [cell] else [] := by
    rw [madeCells, askedCells_concat, asks]
    dsimp only
    rw [if_neg unasked, List.filter_append, filter_askedCells_concat, List.filter_singleton,
      firstAsk?_concat_of_not_mem past step cell unasked asks, Option.any_some, cond_eq_ite]
  rw [calls, calls, made, List.countP_append, List.countP_singleton, asks, List.length_append]
  cases step.usesFactory with
  | true => simp only [Option.isNone_some, Bool.false_eq_true, if_false, if_true,
      List.length_singleton]; omega
  | false => simp only [Option.isNone_some, Bool.false_eq_true, if_false, List.length_nil,
      Nat.add_zero]

theorem firstAsks_concat (past : List (FactoryStep σ)) (step : FactoryStep σ) :
    firstAsks (past ++ [step]) = firstAsks past ++ match step.cell? with
      | none => []
      | some cell => if cell ∈ askedCells past then [] else [step] := by
  have before : (askedCells past).filterMap (firstAsk? (past ++ [step])) = firstAsks past :=
    List.filterMap_congr fun cell asked => firstAsk?_concat_of_mem past step cell asked
  rw [firstAsks, askedCells_concat]
  cases asks : step.cell? with
  | none => exact before.trans (List.append_nil _).symm
  | some cell =>
    dsimp only
    split
    · exact before.trans (List.append_nil _).symm
    · next unasked =>
      rw [List.filterMap_append, before,
        List.filterMap_cons_some (firstAsk?_concat_of_not_mem past step cell unasked asks)]
      rfl

/-- The value of a step that finds nothing kept, where the callable was called so often. -/
def initial (count : Int) (outside : σ) : FactoryStep σ → Int
  | materializeWith _ make => (make outside).1
  | materialize _ | call | produce | producePlain | callInner => count + 1

/-- What is outside after a step that finds nothing kept. -/
def touched (outside : σ) : FactoryStep σ → σ
  | materializeWith _ make => (make outside).2
  | materialize _ | call | produce | producePlain | callInner => outside

theorem outsideAfter_concat (outside : σ) (past : List (FactoryStep σ)) (step : FactoryStep σ) :
    outsideAfter outside (past ++ [step]) = match step.cell? with
      | none => outsideAfter outside past
      | some cell =>
        if cell ∈ askedCells past then outsideAfter outside past
        else step.touched (outsideAfter outside past) := by
  unfold outsideAfter
  rw [firstAsks_concat]
  cases asks : step.cell? with
  | none =>
    dsimp only
    rw [List.append_nil]
  | some cell =>
    dsimp only
    split
    · rw [List.append_nil]
    · rw [List.filterMap_append, List.foldl_append]
      cases step with
      | materializeWith _ make => rfl
      | materialize | call | produce | producePlain | callInner => rfl

end FactoryStep

namespace FactoryRun

open FactoryStep

variable {σ : Type}

theorem step_of_direct (run : FactoryRun σ) (step : FactoryStep σ) (direct : step.cell? = none) :
    run.step step = (run.count + 1, { run with count := run.count + 1 }) := by
  cases step with
  | materialize cell => cases direct
  | materializeWith cell make => cases direct
  | call | produce | producePlain | callInner => rfl

theorem step_of_kept (run : FactoryRun σ) (step : FactoryStep σ) (cell : String) (value : Int)
    (asks : step.cell? = some cell) (kept : run.cells.lookup cell = some value) :
    run.step step = (value, run) := by
  cases step with
  | materialize asked | materializeWith asked _ =>
    cases asks
    simp only [FactoryRun.step, ask, kept]
  | call | produce | producePlain | callInner => cases asks

theorem step_of_empty (run : FactoryRun σ) (step : FactoryStep σ) (cell : String)
    (asks : step.cell? = some cell) (empty : run.cells.lookup cell = none) :
    run.step step = (step.initial run.count run.outside,
      { count := run.count + if step.usesFactory then 1 else 0
        cells := (cell, step.initial run.count run.outside) :: run.cells
        outside := step.touched run.outside }) := by
  cases step with
  | materialize asked =>
    cases asks
    simp only [FactoryRun.step, ask, empty]
    rfl
  | materializeWith asked make =>
    cases asks
    simp only [FactoryRun.step, ask, empty, beside, usesFactory, Bool.false_eq_true, if_false,
      Int.add_zero]
    rfl
  | call | produce | producePlain | callInner => cases asks

/-- A step leaves the cells that it does not ask. -/
theorem lookup_step_other (run : FactoryRun σ) (step : FactoryStep σ) (other : String)
    (apart : step.cell? ≠ some other) :
    (run.step step).2.cells.lookup other = run.cells.lookup other := by
  cases asks : step.cell? with
  | none => rw [step_of_direct run step asks]
  | some cell =>
    cases kept : run.cells.lookup cell with
    | some value => rw [step_of_kept run step cell value asks kept]
    | none =>
      have differ : other ≠ cell := fun same => apart (by rw [asks, same])
      rw [step_of_empty run step cell asks kept, List.lookup_cons, beq_eq_false_iff_ne.mpr differ]

/-- The run after the steps. -/
def after (run : FactoryRun σ) (steps : List (FactoryStep σ)) : FactoryRun σ :=
  steps.foldl (fun run step => (run.step step).2) run

theorem after_concat (run : FactoryRun σ) (past : List (FactoryStep σ)) (step : FactoryStep σ) :
    run.after (past ++ [step]) = ((run.after past).step step).2 := by
  rw [after, List.foldl_concat, ← after]

theorem length_values (run : FactoryRun σ) (steps : List (FactoryStep σ)) :
    (run.values steps).length = steps.length := by
  induction steps generalizing run with
  | nil => rfl
  | cons step rest ih => rw [values, List.length_cons, List.length_cons, ih]

theorem getElem?_values (run : FactoryRun σ) (steps : List (FactoryStep σ)) (i : Nat)
    (step : FactoryStep σ) (here : steps[i]? = some step) :
    (run.values steps)[i]? = some (((run.after (steps.take i)).step step).1,
      ((run.after (steps.take i)).step step).2.count) := by
  -- The first step changes the run that the others start from.
  induction steps generalizing run i with
  | nil => cases here
  | cons first rest ih =>
    cases i with
    | zero =>
      cases here
      rfl
    | succ i => exact ih (run.step first).2 i here

theorem lookup_step_of_kept (run : FactoryRun σ) (step : FactoryStep σ) (cell : String) (value : Int)
    (kept : run.cells.lookup cell = some value) :
    (run.step step).2.cells.lookup cell = some value := by
  by_cases asks : step.cell? = some cell
  · rw [step_of_kept run step cell value asks kept]
    exact kept
  · rw [lookup_step_other run step cell asks]
    exact kept

theorem lookup_step_of_empty (run : FactoryRun σ) (step : FactoryStep σ) (cell : String)
    (asks : step.cell? = some cell) (empty : run.cells.lookup cell = none) :
    (run.step step).2.cells.lookup cell = some (step.initial run.count run.outside) := by
  rw [step_of_empty run step cell asks empty]
  exact List.lookup_cons_self

theorem isSome_lookup_step (run : FactoryRun σ) (step : FactoryStep σ) (cell : String) :
    ((run.step step).2.cells.lookup cell).isSome ↔
      (run.cells.lookup cell).isSome ∨ step.cell? = some cell := by
  by_cases asks : step.cell? = some cell
  · cases kept : run.cells.lookup cell with
    | some value => simp only [lookup_step_of_kept run step cell value kept, Option.isSome_some,
        true_or]
    | none => simp only [lookup_step_of_empty run step cell asks kept, Option.isSome_some, asks,
        or_true]
  · simp only [lookup_step_other run step cell asks, asks, or_false]

/-- What a run holds that began at `start`, with `outside` what is outside, and took the steps
`past`. -/
structure Keeps (start : Int) (outside : σ) (past : List (FactoryStep σ)) (run : FactoryRun σ) :
    Prop where
  count : run.count = start + calls past
  beyond : run.outside = outsideAfter outside past
  filled : ∀ cell, (run.cells.lookup cell).isSome ↔ cell ∈ askedCells past
  first : ∀ (j : Nat) (step : FactoryStep σ) (cell : String), past[j]? = some step →
    step.cell? = some cell → cell ∉ askedCells (past.take j) →
      run.cells.lookup cell =
        some (step.initial (start + calls (past.take j)) (outsideAfter outside (past.take j)))

section Keeps

variable {start : Int} {outside : σ} {past : List (FactoryStep σ)} {run : FactoryRun σ}

theorem Keeps.lookup_eq_none (keeps : Keeps start outside past run) (cell : String)
    (unasked : cell ∉ askedCells past) : run.cells.lookup cell = none := by
  rw [← keeps.filled, Bool.not_eq_true, Option.isSome_eq_false_iff] at unasked
  exact Option.isNone_iff_eq_none.mp unasked

theorem keeps_startIn (outside : σ) (start : Int) :
    Keeps start outside [] (startIn outside start) where
  count := (Int.add_zero start).symm
  beyond := rfl
  filled := fun cell => by simp [startIn, askedCells]
  first := nofun

theorem Keeps.count_step (keeps : Keeps start outside past run) (step : FactoryStep σ) :
    (run.step step).2.count = start + calls (past ++ [step]) := by
  cases asks : step.cell? with
  | none =>
    rw [step_of_direct run step asks, calls_concat_direct past step asks]
    change run.count + 1 = _
    rw [keeps.count, Int.natCast_add, Int.natCast_one, Int.add_assoc]
  | some cell =>
    by_cases asked : cell ∈ askedCells past
    · obtain ⟨value, kept⟩ := Option.isSome_iff_exists.mp ((keeps.filled cell).mpr asked)
      rw [step_of_kept run step cell value asks kept, calls_concat_asked past step cell asks asked,
        keeps.count]
    · rw [step_of_empty run step cell asks (keeps.lookup_eq_none cell asked),
        calls_concat_unasked past step cell asks asked]
      change run.count + _ = _
      rw [keeps.count, Int.natCast_add, Int.add_assoc]
      cases step.usesFactory <;> rfl

theorem Keeps.outside_step (keeps : Keeps start outside past run) (step : FactoryStep σ) :
    (run.step step).2.outside = outsideAfter outside (past ++ [step]) := by
  rw [outsideAfter_concat, ← keeps.beyond]
  cases asks : step.cell? with
  | none => rw [step_of_direct run step asks]
  | some cell =>
    dsimp only
    split
    · next asked =>
      obtain ⟨value, kept⟩ := Option.isSome_iff_exists.mp ((keeps.filled cell).mpr asked)
      rw [step_of_kept run step cell value asks kept]
    · next unasked => rw [step_of_empty run step cell asks (keeps.lookup_eq_none cell unasked)]

theorem Keeps.step (keeps : Keeps start outside past run) (step : FactoryStep σ) :
    Keeps start outside (past ++ [step]) (run.step step).2 where
  count := keeps.count_step step
  beyond := keeps.outside_step step
  filled := by
    intro cell
    rw [isSome_lookup_step, keeps.filled, mem_askedCells, mem_askedCells]
    simp only [List.mem_append, List.mem_singleton, or_and_right, exists_or, exists_eq_left]
  first := by
    intro j asking cell here asks unasked
    rcases Nat.lt_trichotomy j past.length with before | last | beyond
    · rw [List.getElem?_append_left before] at here
      rw [List.take_append_of_le_length (Nat.le_of_lt before)] at unasked ⊢
      exact lookup_step_of_kept run step cell _ (keeps.first j asking cell here asks unasked)
    · subst last
      rw [List.getElem?_concat_length] at here
      cases here
      rw [List.take_left] at unasked ⊢
      rw [← keeps.count, ← keeps.beyond]
      exact lookup_step_of_empty run step cell asks (keeps.lookup_eq_none cell unasked)
    · rw [List.getElem?_eq_none (by rw [List.length_append, List.length_singleton]; omega)] at here
      cases here

end Keeps

variable (start : Int) (outside : σ) (steps : List (FactoryStep σ))

theorem keeps_after : Keeps start outside steps ((startIn outside start).after steps) := by
  induction steps using List.reverseRecOn with
  | nil => exact keeps_startIn outside start
  | append_singleton past step ih =>
    rw [after_concat]
    exact ih.step step

/-- The values and counts of a run that began at `start`: every step that asks no cell calls the
callable once, and every cell keeps what the step gave that asked it first. Only then is its
initializer run, on what is outside after those that were run before it. -/
structure MaterializesOnce (results : List (Int × Int)) : Prop where
  length : results.length = steps.length
  counted : ∀ (i : Nat) (value count : Int), results[i]? = some (value, count) →
    count = start + calls (steps.take (i + 1))
  direct : ∀ (i : Nat) (step : FactoryStep σ), steps[i]? = some step → step.cell? = none →
    results[i]? = some (start + calls (steps.take i) + 1, start + calls (steps.take i) + 1)
  made : ∀ (i : Nat) (cell : String), steps[i]? = some (.materialize cell) →
    cell ∉ askedCells (steps.take i) →
      results[i]? = some (start + calls (steps.take i) + 1, start + calls (steps.take i) + 1)
  given : ∀ (i : Nat) (cell : String) (make : Callable σ Int),
    steps[i]? = some (.materializeWith cell make) → cell ∉ askedCells (steps.take i) →
      results[i]? = some ((make (outsideAfter outside (steps.take i))).1,
        start + calls (steps.take i))
  kept : ∀ (i j : Nat) (first later : FactoryStep σ) (cell : String), j < i →
    steps[j]? = some first → first.cell? = some cell → cell ∉ askedCells (steps.take j) →
    steps[i]? = some later → later.cell? = some cell →
      ∃ value, results[j]?.map Prod.fst = some value ∧
        results[i]? = some (value, start + calls (steps.take i))

theorem getElem?_values_startIn (i : Nat) (step : FactoryStep σ) (here : steps[i]? = some step) :
    ((startIn outside start).values steps)[i]? =
      some ((((startIn outside start).after (steps.take i)).step step).1,
        start + calls (steps.take (i + 1))) := by
  rw [getElem?_values _ steps i step here,
    (keeps_after start outside (steps.take i)).count_step step, List.take_add_one, here]
  rfl

/-- Whatever the steps are, and in whatever order: a step that asks no cell calls the callable
once and gives its fresh value, the first ask of a cell decides what the cell gives from then on,
and no step touches a cell that it does not ask. -/
theorem values_materializesOnce :
    MaterializesOnce start outside steps ((startIn outside start).values steps) ∧
      ((startIn outside start).after steps).outside = outsideAfter outside steps ∧
      ∀ (run : FactoryRun σ) (step : FactoryStep σ) (other : String), step.cell? ≠ some other →
        (run.step step).2.cells.lookup other = run.cells.lookup other := by
  refine ⟨?_, (keeps_after start outside steps).beyond, lookup_step_other⟩
  constructor
  case length => exact length_values _ steps
  case counted =>
    intro i value count given
    have within : i < steps.length := by
      rw [← length_values (startIn outside start) steps]
      exact (List.getElem?_eq_some_iff.mp given).1
    rw [getElem?_values_startIn start outside steps i steps[i]
      (List.getElem?_eq_getElem within)] at given
    cases given
    rfl
  case direct =>
    intro i step here asks
    have keeps := keeps_after start outside (steps.take i)
    rw [getElem?_values _ steps i step here, step_of_direct _ step asks, keeps.count]
  case made =>
    intro i cell here unasked
    have keeps := keeps_after start outside (steps.take i)
    rw [getElem?_values _ steps i _ here,
      step_of_empty _ _ cell rfl (keeps.lookup_eq_none cell unasked), keeps.count]
    rfl
  case given =>
    intro i cell make here unasked
    have keeps := keeps_after start outside (steps.take i)
    rw [getElem?_values _ steps i _ here,
      step_of_empty _ _ cell rfl (keeps.lookup_eq_none cell unasked), keeps.count, keeps.beyond]
    simp only [initial, usesFactory, Bool.false_eq_true, if_false, Int.add_zero]
  case kept =>
    intro i j first later cell before asking asks unasked here asksLater
    have earlier := keeps_after start outside (steps.take j)
    have keeps := keeps_after start outside (steps.take i)
    have takeTake : (steps.take i).take j = steps.take j := by
      rw [List.take_take, Nat.min_eq_left (Nat.le_of_lt before)]
    have held := keeps.first j first cell (by rw [List.getElem?_take_of_lt before, asking]) asks
      (by rw [takeTake]; exact unasked)
    rw [takeTake] at held
    refine ⟨first.initial (start + calls (steps.take j)) (outsideAfter outside (steps.take j)),
      ?_, ?_⟩
    · rw [getElem?_values _ steps j first asking,
        step_of_empty _ first cell asks (earlier.lookup_eq_none cell unasked), earlier.count,
        earlier.beyond]
      rfl
    · rw [getElem?_values _ steps i later here, step_of_kept _ later cell _ asksLater held,
        keeps.count]

example : (FactoryRun.start 0).values
    [.materializeConst "a" 7, .materialize "a", .materialize "b", .call, .materialize "b"] =
      [(7, 0), (7, 0), (1, 1), (2, 2), (1, 2)] := by decide

end FactoryRun

end ClassExpansion
