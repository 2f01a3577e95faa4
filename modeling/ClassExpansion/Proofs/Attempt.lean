import ClassExpansion.Class.Fault
import Mathlib.Data.List.Forall2

set_option autoImplicit false

/- Attempts in sequence and side by side. Side by side they succeed exactly when each of them
does, provided that none fails without saying why. -/
namespace ClassExpansion.Attempt

variable {α β : Type}

@[simp] theorem ok_bind (value : α) (next : α → Attempt β) :
    (.ok value : Attempt α) >>= next = next value := rfl

theorem bind_eq_ok_iff (first : Attempt α) (next : α → Attempt β) (result : β) :
    first >>= next = .ok result ↔ ∃ value, first = .ok value ∧ next value = .ok result := by
  cases first with
  | error failure =>
    constructor
    · intro impossible
      cases impossible
    · rintro ⟨value, impossible, _⟩
      cases impossible
  | ok value =>
    constructor
    · intro same
      exact ⟨value, rfl, same⟩
    · rintro ⟨other, same, done⟩
      cases same
      exact done

theorem map_eq_ok_iff (f : α → β) (attempt : Attempt α) (result : β) :
    attempt.map f = .ok result ↔ ∃ value, attempt = .ok value ∧ f value = result := by
  cases attempt with
  | error failure => exact ⟨nofun, fun ⟨_, impossible, _⟩ => nomatch impossible⟩
  | ok value => simp only [Except.map, Except.ok.injEq, exists_eq_left']

theorem map_eq_error_iff (f : α → β) (attempt : Attempt α) (failure : Failure) :
    attempt.map f = .error failure ↔ attempt = .error failure := by
  cases attempt with
  | error other => simp only [Except.map, Except.error.injEq]
  | ok value => exact ⟨nofun, nofun⟩

@[simp] theorem reports_map (f : α → β) (attempt : Attempt α) :
    reports (attempt.map f) = attempt.reports := by
  rcases attempt with (list | cause) | value
  · rfl
  · rfl
  · rfl

@[simp] theorem abort?_map (f : α → β) (attempt : Attempt α) :
    abort? (attempt.map f) = attempt.abort? := by
  rcases attempt with (list | cause) | value
  · rfl
  · rfl
  · rfl

@[simp] theorem value?_map (f : α → β) (attempt : Attempt α) :
    value? (attempt.map f) = attempt.value?.map f := by
  rcases attempt with (list | cause) | value
  · rfl
  · rfl
  · rfl

theorem value?_eq_some_iff (attempt : Attempt α) (value : α) :
    attempt.value? = some value ↔ attempt = .ok value := by
  cases attempt with
  | ok other => simp only [value?, Option.some.injEq, Except.ok.injEq]
  | error failure => exact ⟨nofun, nofun⟩

theorem eq_of_mem_reports (attempt : Attempt α) (report : Report)
    (member : report ∈ attempt.reports) : attempt = .error (.reported attempt.reports) := by
  rcases attempt with (found | cause) | value
  · rfl
  · cases member
  · cases member

/-- A failure comes with a report at least, or it is an abort. -/
def Explained (attempt : Attempt α) : Prop := attempt ≠ .error (.reported [])

theorem explained_ok (value : α) : Explained (.ok value : Attempt α) := nofun

theorem explained_fail (fault : Fault) : Explained (fail fault : Attempt α) := nofun

theorem explained_lift (found : Except Fault α) : Explained (lift found) := by
  cases found with
  | ok value => exact explained_ok value
  | error fault => exact explained_fail fault

theorem lift_eq_ok_iff (found : Except Fault α) (value : α) :
    lift found = .ok value ↔ found = .ok value := by
  cases found with
  | ok other => simp only [lift, Except.ok.injEq]
  | error fault => exact ⟨nofun, nofun⟩

theorem name_eq_ok_iff (text result : String) :
    name text = .ok result ↔ Name.isUsable text = true ∧ result = text := by
  unfold name
  by_cases usable : Name.isUsable text = true
  · rw [if_pos usable]
    exact ⟨fun same => ⟨usable, (Except.ok.inj same).symm⟩, fun ⟨_, same⟩ => same ▸ rfl⟩
  · rw [if_neg usable]
    exact ⟨nofun, fun ⟨other, _⟩ => absurd other usable⟩

theorem explained_name (text : String) : Explained (name text) := by
  unfold name
  split
  · exact explained_ok text
  · exact nofun

theorem explained_bind (first : Attempt α) (next : α → Attempt β)
    (explained : Explained first)
    (onward : ∀ value, first = .ok value → Explained (next value)) :
    Explained (first >>= next) := by
  cases first with
  | error failure => exact fun empty => explained (congrArg Except.error (Except.error.inj empty))
  | ok value => exact onward value rfl

theorem value?_map_ok (values : List α) :
    (values.map (.ok : α → Attempt α)).filterMap value? = values := by
  rw [List.filterMap_map]
  exact List.filterMap_some

theorem reports_map_ok (values : List α) :
    (values.map (.ok : α → Attempt α)).flatMap reports = [] := by
  rw [List.flatMap_map]
  exact List.flatMap_eq_nil_iff.mpr fun value _ => rfl

theorem abort?_map_ok (values : List α) :
    (values.map (.ok : α → Attempt α)).findSome? abort? = none := by
  rw [List.findSome?_eq_none_iff]
  intro attempt member
  obtain ⟨value, _, rfl⟩ := List.mem_map.mp member
  rfl

theorem exists_of_isOk (attempt : Attempt α) (succeeds : attempt.isOk = true) :
    ∃ value, attempt = .ok value := by
  cases attempt with
  | ok value => exact ⟨value, rfl⟩
  | error failure => cases succeeds

/-- What a value of the attempt is like shows that there is one. -/
theorem exists_of_map_value? (f : α → β) (attempt : Attempt α) (result : β)
    (found : attempt.value?.map f = some result) :
    ∃ value, attempt = .ok value ∧ f value = result := by
  obtain ⟨value, has, same⟩ := Option.map_eq_some_iff.mp found
  exact ⟨value, (value?_eq_some_iff attempt value).mp has, same⟩

theorem exists_ok (attempt : Attempt α) (explained : Explained attempt)
    (going : abort? attempt = none) (silent : reports attempt = []) :
    ∃ value, attempt = .ok value := by
  cases attempt with
  | ok value => exact ⟨value, rfl⟩
  | error failure =>
    cases failure with
    | aborted cause => cases going
    | reported list =>
      simp only [reports] at silent
      exact absurd (by rw [silent]) explained

theorem gather_of_abort (attempts : List (Attempt α)) (cause : Abort)
    (stopped : attempts.findSome? abort? = some cause) :
    gather attempts = .error (.aborted cause) := by
  unfold gather sift
  rw [stopped]
  rfl

theorem gather_of_going (attempts : List (Attempt α))
    (going : attempts.findSome? abort? = none) :
    gather attempts =
      if (attempts.flatMap reports).isEmpty then .ok (attempts.filterMap value?)
      else .error (.reported (attempts.flatMap reports)) := by
  unfold gather sift
  rw [going]
  rfl

/-- Where each attempt succeeds, they are their values. -/
theorem eq_map_ok (attempts : List (Attempt α))
    (each : ∀ attempt ∈ attempts, ∃ value, attempt = .ok value) :
    attempts = (attempts.filterMap value?).map .ok := by
  induction attempts with
  | nil => rfl
  | cons first rest ih =>
    obtain ⟨value, rfl⟩ := each first List.mem_cons_self
    have head : value? (.ok value : Attempt α) = some value := rfl
    rw [List.filterMap_cons_some head, List.map_cons,
      ← ih fun attempt member => each attempt (List.mem_cons_of_mem _ member)]

/-- Unless one of the attempts aborts, all values and all reports are kept, each in its order. -/
theorem sift_eq_ok_iff (attempts : List (Attempt α)) (values : List α) (found : List Report) :
    sift attempts = .ok (values, found) ↔
      (∀ attempt ∈ attempts, abort? attempt = none) ∧
      attempts.filterMap value? = values ∧ attempts.flatMap reports = found := by
  unfold sift
  cases stopped : attempts.findSome? abort? with
  | some cause =>
    obtain ⟨attempt, member, aborts⟩ := List.exists_of_findSome?_eq_some stopped
    constructor
    · nofun
    · rintro ⟨going, _⟩
      rw [going attempt member] at aborts
      cases aborts
  | none =>
    have going := List.findSome?_eq_none_iff.mp stopped
    simp only [Except.ok.injEq, Prod.mk.injEq]
    exact (and_iff_right going).symm

theorem sift_eq_all_ok_iff (attempts : List (Attempt α)) (values : List α)
    (explained : ∀ attempt ∈ attempts, Explained attempt) :
    sift attempts = .ok (values, []) ↔ attempts = values.map .ok := by
  rw [sift_eq_ok_iff]
  constructor
  · rintro ⟨going, rfl, silent⟩
    rw [List.flatMap_eq_nil_iff] at silent
    exact eq_map_ok attempts fun attempt member =>
      exists_ok attempt (explained attempt member) (going attempt member) (silent attempt member)
  · rintro rfl
    exact ⟨List.findSome?_eq_none_iff.mp (abort?_map_ok values), value?_map_ok values,
      reports_map_ok values⟩

theorem gather_eq_ok_iff (attempts : List (Attempt α)) (values : List α)
    (explained : ∀ attempt ∈ attempts, Explained attempt) :
    gather attempts = .ok values ↔ attempts = values.map .ok := by
  rw [← sift_eq_all_ok_iff attempts values explained]
  unfold gather
  rw [bind_eq_ok_iff]
  constructor
  · rintro ⟨⟨kept, found⟩, sifted, done⟩
    dsimp only at done
    split at done
    · next silent =>
      cases done
      rw [sifted, List.isEmpty_iff.mp silent]
    · cases done
  · intro sifted
    exact ⟨_, sifted, rfl⟩

theorem exists_abort_of_sift (attempts : List (Attempt α))
    (stopped : ¬ ∀ attempt ∈ attempts, abort? attempt = none) :
    ∃ cause, sift attempts = .error (.aborted cause) := by
  unfold sift
  cases found : attempts.findSome? abort? with
  | some cause => exact ⟨cause, rfl⟩
  | none => exact absurd (List.findSome?_eq_none_iff.mp found) stopped

theorem sift_singleton_reported (found : List Report) :
    sift [(.error (.reported found) : Attempt α)] = .ok ([], found) := by
  simp [sift, abort?, value?, reports]

/-- A single attempt goes on as it does by itself, where reports are only ever passed on. -/
theorem sift_singleton_bind (attempt : Attempt α) (explained : Explained attempt)
    (next : List α × List Report → Attempt β)
    (refuse : ∀ found, found ≠ [] → next ([], found) = .error (.reported found)) :
    sift [attempt] >>= next = attempt >>= fun value => next ([value], []) := by
  rcases attempt with (found | cause) | value
  · rw [sift_singleton_reported, ok_bind]
    apply refuse found
    intro silent
    exact explained (by rw [silent])
  · rfl
  · rfl

/-- The attempt on a thing is the attempt on what it carries, and without that it succeeds. -/
structure FailsAs {σ γ : Type} (carried : α → Option σ) (f : α → Attempt β)
    (g : σ → Attempt γ) : Prop where
  bare : ∀ a, carried a = none → ∃ b, f a = .ok b
  reports : ∀ a s, carried a = some s → (f a).reports = (g s).reports
  aborts : ∀ a s, carried a = some s → (f a).abort? = (g s).abort?

theorem FailsAs.flatMap_reports {σ γ : Type} {carried : α → Option σ} {f : α → Attempt β}
    {g : σ → Attempt γ} (same : FailsAs carried f g) (inputs : List α) :
    (inputs.map f).flatMap Attempt.reports =
      (inputs.filterMap carried).flatMap fun s => (g s).reports := by
  induction inputs with
  | nil => rfl
  | cons a rest ih =>
    rw [List.map_cons, List.flatMap_cons, ih]
    cases holds : carried a with
    | none =>
      obtain ⟨b, succeeds⟩ := same.bare a holds
      rw [List.filterMap_cons_none holds, succeeds]
      rfl
    | some s => rw [List.filterMap_cons_some holds, List.flatMap_cons, same.reports a s holds]

theorem FailsAs.forall_going_iff {σ γ : Type} {carried : α → Option σ} {f : α → Attempt β}
    {g : σ → Attempt γ} (same : FailsAs carried f g) (inputs : List α) :
    (∀ attempt ∈ inputs.map f, abort? attempt = none) ↔
      ∀ s ∈ inputs.filterMap carried, (g s).abort? = none := by
  constructor
  · intro going s member
    obtain ⟨a, inInputs, holds⟩ := List.mem_filterMap.mp member
    rw [← same.aborts a s holds]
    exact going (f a) (List.mem_map_of_mem inInputs)
  · intro going attempt member
    obtain ⟨a, inInputs, rfl⟩ := List.mem_map.mp member
    cases holds : carried a with
    | none =>
      obtain ⟨b, succeeds⟩ := same.bare a holds
      rw [succeeds]
      rfl
    | some s =>
      rw [same.aborts a s holds]
      exact going s (List.mem_filterMap.mpr ⟨a, inInputs, holds⟩)

theorem mapM_eq_ok_iff (f : α → Attempt β) (inputs : List α) (results : List β) :
    inputs.mapM f = .ok results ↔ List.Forall₂ (fun a b => f a = .ok b) inputs results := by
  induction inputs generalizing results with
  | nil =>
    rw [List.mapM_nil, List.forall₂_nil_left_iff]
    exact ⟨fun same => (Except.ok.inj same).symm, fun same => congrArg Except.ok same.symm⟩
  | cons a rest ih =>
    rw [List.mapM_cons, List.forall₂_cons_left_iff]
    simp only [bind_eq_ok_iff, ih]
    constructor
    · rintro ⟨b, first, more, onward, same⟩
      exact ⟨b, more, first, onward, (Except.ok.inj same).symm⟩
    · rintro ⟨b, more, first, onward, rfl⟩
      exact ⟨b, first, more, onward, rfl⟩

theorem sift_map_eq_all_ok_iff (f : α → Attempt β) (inputs : List α) (results : List β)
    (explained : ∀ a ∈ inputs, Explained (f a)) :
    sift (inputs.map f) = .ok (results, []) ↔ inputs.mapM f = .ok results := by
  rw [sift_eq_all_ok_iff _ _ (List.forall_mem_map.mpr explained), mapM_eq_ok_iff,
    ← List.forall₂_eq_eq_eq, List.forall₂_map_left_iff, List.forall₂_map_right_iff]

/-- In one pass or in two, the same succeeds. -/
theorem mapM_bind_eq_ok_iff {γ : Type} (f : α → Attempt β) (g : β → Attempt γ)
    (inputs : List α) (results : List γ) :
    (inputs.mapM fun a => f a >>= g) = .ok results ↔
      ∃ middle, inputs.mapM f = .ok middle ∧ middle.mapM g = .ok results := by
  simp only [mapM_eq_ok_iff, bind_eq_ok_iff]
  induction inputs generalizing results with
  | nil =>
    simp only [List.forall₂_nil_left_iff, exists_eq_left]
  | cons a rest ih =>
    simp only [List.forall₂_cons_left_iff, ih]
    constructor
    · rintro ⟨c, more, ⟨b, first, then_⟩, ⟨middle, onward, finish⟩, rfl⟩
      exact ⟨b :: middle, ⟨b, middle, first, onward, rfl⟩, .cons then_ finish⟩
    · rintro ⟨_, ⟨b, middle, first, onward, rfl⟩, both⟩
      obtain ⟨c, more, second, finish, rfl⟩ := List.forall₂_cons_left_iff.mp both
      exact ⟨c, more, ⟨b, first, second⟩, ⟨middle, onward, finish⟩, rfl⟩

theorem map_bind {γ : Type} (first : Attempt α) (next : α → Attempt β) (g : β → γ) :
    (first >>= next).map g = first >>= fun value => (next value).map g := by
  cases first with
  | error failure => rfl
  | ok value => rfl

/-- What is made of a value up to `g` may depend on the value up to `n` only. -/
theorem map_bind_eq {γ δ : Type} (first : Attempt α) (n : α → γ) (next : α → Attempt β)
    (onward : γ → Attempt δ) (g : β → δ) (each : ∀ value, (next value).map g = onward (n value)) :
    (first >>= next).map g = first.map n >>= onward := by
  cases first with
  | error failure => rfl
  | ok value => exact each value

theorem mapM_map (f : α → Attempt α) (n : α → α) (commutes : ∀ a, f (n a) = (f a).map n)
    (inputs : List α) : (inputs.map n).mapM f = (inputs.mapM f).map (List.map n) := by
  induction inputs with
  | nil => rfl
  | cons a rest ih =>
    rw [List.map_cons, List.mapM_cons, List.mapM_cons, commutes, ih]
    cases f a with
    | error failure => rfl
    | ok b =>
      cases rest.mapM f with
      | error failure => rfl
      | ok more => rfl

theorem sift_map (f : α → β) (attempts : List (Attempt α)) :
    sift (attempts.map (Except.map f)) = (sift attempts).map fun (values, found) =>
      (values.map f, found) := by
  have aborts : (attempts.map (Except.map f)).findSome? abort? = attempts.findSome? abort? := by
    rw [List.findSome?_map]
    simp only [Function.comp_def, abort?_map]
  unfold sift
  rw [aborts]
  cases attempts.findSome? abort? with
  | some cause => rfl
  | none =>
    have values : (attempts.map (Except.map f)).filterMap value? =
        (attempts.filterMap value?).map f := by
      rw [List.filterMap_map, List.map_filterMap]
      simp only [Function.comp_def, value?_map]
    have found : (attempts.map (Except.map f)).flatMap reports = attempts.flatMap reports := by
      rw [List.flatMap_map]
      simp only [reports_map]
    rw [values, found]
    rfl

end ClassExpansion.Attempt
