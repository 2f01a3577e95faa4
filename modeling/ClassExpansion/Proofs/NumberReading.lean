import ClassExpansion.Number.Binary64
import Mathlib.Algebra.Order.Field.Power
import Mathlib.Data.Rat.Cast.Order
import Mathlib.Tactic.FieldSimp
import Mathlib.Tactic.Linarith
import Mathlib.Tactic.NormNum
import Mathlib.Tactic.Positivity
import Mathlib.Tactic.Ring

set_option autoImplicit false

/- Which number a decimal is read as: the nearest one. Every number has an interval of rationals
around it, and whatever decimal lies in the interval is read as the number. -/
namespace ClassExpansion.Number.Binary64

/-! ### Rounding -/

/-- The whole number is the nearest one, a half being rounded to the even neighbour. -/
structure RoundsTo (x : ℚ) (n : Nat) : Prop where
  near : |x - n| ≤ 1 / 2
  even : n % 2 = 1 → |x - n| < 1 / 2

theorem RoundsTo.unique {x : ℚ} {n m : Nat} (toN : RoundsTo x n) (toM : RoundsTo x m) : n = m := by
  by_contra differ
  wlog less : n < m generalizing n m
  · exact this toM toN (Ne.symm differ) (by omega)
  -- Both are a half away, and one of two neighbours is odd.
  have nearN := abs_le.mp toN.near
  have nearM := abs_le.mp toM.near
  have gap : (n : ℚ) + 1 ≤ m := by exact_mod_cast less
  have next : (m : ℚ) ≤ n + 1 := by linarith
  have isNext : m = n + 1 := le_antisymm (by exact_mod_cast next) less
  rcases Nat.mod_two_eq_zero_or_one n with even | odd
  · have close := abs_lt.mp (toM.even (by omega))
    linarith
  · have close := abs_lt.mp (toN.even odd)
    linarith

theorem roundsTo_of_lt {x : ℚ} {n : Nat} (close : |x - n| < 1 / 2) : RoundsTo x n :=
  ⟨close.le, fun _ => close⟩

theorem roundsTo_half (q : Nat) : RoundsTo ((q : ℚ) + 1 / 2) (q + q % 2) := by
  have even : (q + q % 2) % 2 = 0 := by omega
  refine ⟨?_, fun odd => by omega⟩
  rw [abs_le]
  rcases Nat.mod_two_eq_zero_or_one q with isEven | isOdd
  · rw [isEven]
    push_cast
    constructor <;> linarith
  · rw [isOdd]
    push_cast
    constructor <;> linarith

theorem div_eq_quotient_add (num den : Nat) (positive : 0 < den) :
    (num : ℚ) / den = (num / den : Nat) + ((num % den : Nat) : ℚ) / den := by
  have den_ne : (den : ℚ) ≠ 0 := by exact_mod_cast positive.ne'
  rw [div_eq_iff den_ne, add_mul, div_mul_cancel₀ _ den_ne]
  exact_mod_cast (Nat.div_add_mod' num den).symm

theorem roundsTo_roundHalfEven (num den : Nat) (positive : 0 < den) :
    RoundsTo ((num : ℚ) / den) (roundHalfEven num den) := by
  have den_pos : (0 : ℚ) < den := by exact_mod_cast positive
  have part_nonneg : (0 : ℚ) ≤ ((num % den : Nat) : ℚ) / den := by positivity
  have part_lt : ((num % den : Nat) : ℚ) / den < 1 := by
    rw [div_lt_one den_pos]
    exact_mod_cast Nat.mod_lt num positive
  have below : 2 * (num % den) < den ↔ ((num % den : Nat) : ℚ) / den < 1 / 2 := by
    rw [div_lt_div_iff₀ den_pos two_pos, one_mul, mul_comm]
    exact_mod_cast Iff.rfl
  have above : den < 2 * (num % den) ↔ 1 / 2 < ((num % den : Nat) : ℚ) / den := by
    rw [div_lt_div_iff₀ two_pos den_pos, one_mul, mul_comm _ (2 : ℚ)]
    exact_mod_cast Iff.rfl
  rw [div_eq_quotient_add num den positive]
  unfold roundHalfEven
  simp only [below, above]
  generalize ((num % den : Nat) : ℚ) / den = part at *
  split
  · next less =>
    apply roundsTo_of_lt
    rw [add_sub_cancel_left, abs_of_nonneg part_nonneg]
    exact less
  · split
    · next more =>
      apply roundsTo_of_lt
      rw [abs_lt]
      push_cast
      constructor <;> linarith
    · have half : part = 1 / 2 := by linarith
      rw [half]
      exact roundsTo_half (num / den)

/-! ### Exponents -/

/-- The scaled quotient is the number in units of the power of two. -/
theorem div_scale (num den : Nat) (positive : 0 < den) (exponent : Int) :
    0 < (scale num den exponent).2 ∧ ((scale num den exponent).1 : ℚ) / (scale num den exponent).2 =
      num / den / 2 ^ exponent := by
  unfold scale
  split
  · next natural =>
    refine ⟨Nat.mul_pos positive (Nat.pow_pos two_pos), ?_⟩
    obtain ⟨k, rfl⟩ := Int.eq_ofNat_of_zero_le natural
    rw [Int.toNat_natCast, zpow_natCast, div_div, Nat.pow_eq]
    push_cast
    rfl
  · next negative =>
    refine ⟨positive, ?_⟩
    obtain ⟨k, rfl⟩ : ∃ k : Nat, exponent = -k := ⟨(-exponent).toNat, by omega⟩
    rw [neg_neg, Int.toNat_natCast, zpow_neg, zpow_natCast, div_inv_eq_mul, div_mul_eq_mul_div,
      Nat.pow_eq]
    push_cast
    rfl

/-- The exponent leaves 53 bits before the point, or it is the least one. -/
structure Fits (x : ℚ) (exponent : Int) : Prop where
  least : leastExponent ≤ exponent
  below : x / 2 ^ exponent < significandBound
  above : leastExponent < exponent → (leastNormal : ℚ) ≤ x / 2 ^ exponent

theorem two_mul_leastNormal : 2 * (leastNormal : ℚ) = significandBound := by
  norm_num [leastNormal, significandBound]

/-- A greater exponent leaves a part of it. -/
theorem div_pow_le_half (x : ℚ) (nonneg : 0 ≤ x) (less more : Int) (lt : less < more) :
    2 * (x / 2 ^ more) ≤ x / 2 ^ less := by
  have step : (2 : ℚ) ^ (less + 1) ≤ 2 ^ more := zpow_le_zpow_right₀ one_le_two lt
  rw [zpow_add_one₀ two_ne_zero] at step
  have pos : (0 : ℚ) < 2 ^ less := by positivity
  rw [← mul_div_assoc, div_le_div_iff₀ (by positivity) pos]
  calc 2 * x * 2 ^ less = x * (2 ^ less * 2) := by ring
    _ ≤ x * 2 ^ more := mul_le_mul_of_nonneg_left step nonneg

theorem Fits.unique {x : ℚ} (nonneg : 0 ≤ x) {exponent other : Int} (fits : Fits x exponent)
    (also : Fits x other) : exponent = other := by
  by_contra differ
  wlog less : exponent < other generalizing exponent other
  · exact this also fits (Ne.symm differ) (by omega)
  have half := div_pow_le_half x nonneg exponent other less
  have above := also.above (by have := fits.least; omega)
  have below := fits.below
  rw [← two_mul_leastNormal] at below
  linarith

/-- The quotient has as many bits as the logarithms tell, or one less. -/
theorem div_mem_of_log2 (num den : Nat) (filled : 0 < num) (positive : 0 < den) :
    (2 : ℚ) ^ ((num.log2 : Int) - den.log2 - 1) < num / den ∧
      (num : ℚ) / den < 2 ^ ((num.log2 : Int) - den.log2 + 1) := by
  have num_le : (2 : ℚ) ^ num.log2 ≤ num := by exact_mod_cast Nat.log2_self_le filled.ne'
  have num_lt : (num : ℚ) < 2 ^ (num.log2 + 1) := by exact_mod_cast Nat.lt_log2_self
  have den_le : (2 : ℚ) ^ den.log2 ≤ den := by exact_mod_cast Nat.log2_self_le positive.ne'
  have den_lt : (den : ℚ) < 2 ^ (den.log2 + 1) := by exact_mod_cast Nat.lt_log2_self
  have den_pos : (0 : ℚ) < den := by exact_mod_cast positive
  have pow_pos : (0 : ℚ) < 2 ^ den.log2 := by positivity
  rw [zpow_sub_one₀ two_ne_zero, zpow_add_one₀ two_ne_zero, zpow_sub₀ two_ne_zero, zpow_natCast,
    zpow_natCast]
  rw [pow_succ] at num_lt den_lt
  constructor
  · rw [← div_eq_mul_inv, div_div, div_lt_div_iff₀ (by positivity) den_pos]
    exact mul_lt_mul' num_le den_lt den_pos.le (by positivity)
  · rw [div_mul_eq_mul_div, div_lt_div_iff₀ den_pos pow_pos]
    exact mul_lt_mul num_lt den_le pow_pos (by positivity)

/-- An exponent that is too small gives way to the least one. -/
theorem fits_max (x : ℚ) (nonneg : 0 ≤ x) (exponent : Int)
    (above : (leastNormal : ℚ) ≤ x / 2 ^ exponent)
    (below : x / 2 ^ exponent < significandBound) : Fits x (max leastExponent exponent) := by
  rcases le_or_gt leastExponent exponent with inRange | beneath
  · rw [max_eq_right inRange]
    exact ⟨inRange, below, fun _ => above⟩
  · rw [max_eq_left beneath.le]
    have half := div_pow_le_half x nonneg exponent leastExponent beneath
    have left : 0 ≤ x / 2 ^ leastExponent := by positivity
    exact ⟨le_rfl, by linarith, fun impossible => absurd impossible (lt_irrefl _)⟩

theorem fits_exponentOf (num den : Nat) (filled : 0 < num) (positive : 0 < den) :
    Fits ((num : ℚ) / den) (exponentOf num den) := by
  have nonneg : (0 : ℚ) ≤ num / den := by positivity
  obtain ⟨more, less⟩ := div_mem_of_log2 num den filled positive
  unfold exponentOf
  dsimp only
  generalize is : (num.log2 : Int) - den.log2 - 52 = guess
  obtain ⟨scaled_pos, scaled⟩ := div_scale num den positive guess
  have guess_pos : (0 : ℚ) < 2 ^ guess := by positivity
  have lower : (leastNormal : ℚ) < 2 * (num / den / 2 ^ guess) := by
    have shift : (num.log2 : Int) - den.log2 - 1 = guess + 51 := by omega
    rw [shift, zpow_add₀ two_ne_zero] at more
    rw [← mul_div_assoc, lt_div_iff₀ guess_pos]
    norm_num [leastNormal] at more ⊢
    linarith
  have upper : (num : ℚ) / den / 2 ^ guess < significandBound := by
    have shift : (num.log2 : Int) - den.log2 + 1 = guess + 53 := by omega
    rw [shift, zpow_add₀ two_ne_zero] at less
    rw [div_lt_iff₀ guess_pos]
    norm_num [significandBound] at less ⊢
    linarith
  have small : (scale num den guess).1 < (scale num den guess).2 * leastNormal ↔
      (num : ℚ) / den / 2 ^ guess < leastNormal := by
    rw [← scaled, div_lt_iff₀ (by exact_mod_cast scaled_pos), mul_comm (leastNormal : ℚ)]
    exact_mod_cast Iff.rfl
  simp only [small]
  split
  · next tooGreat =>
    have double : (num : ℚ) / den / 2 ^ (guess - 1) = 2 * (num / den / 2 ^ guess) := by
      rw [zpow_sub_one₀ two_ne_zero]
      field_simp
    apply fits_max _ nonneg
    · rw [double]
      exact lower.le
    · rw [double, ← two_mul_leastNormal]
      linarith
  · next fitting => exact fits_max _ nonneg guess (not_lt.mp fitting) upper

/-! ### Numbers -/

/-- The significand and the exponent of a finite number. -/
structure IsCanonical (significand : Nat) (exponent : Int) : Prop where
  least : leastExponent ≤ exponent
  greatest : exponent ≤ greatestExponent
  below : significand < significandBound
  above : leastExponent < exponent → leastNormal ≤ significand

/-- The numbers that can be read. -/
def WellFormed : Binary64 → Prop
  | nan => True
  | infinite _ => True
  | finite _ significand exponent => IsCanonical significand exponent

theorem isCanonical_zero : IsCanonical 0 leastExponent :=
  ⟨le_rfl, by decide, by decide, fun impossible => absurd impossible (lt_irrefl _)⟩

/-- The number with a significand that was rounded, which may have made it one bit longer. -/
def rounded (negative : Bool) (significand : Nat) (exponent : Int) : Binary64 :=
  if significand = significandBound then
    if greatestExponent < exponent + 1 then infinite negative
    else finite negative leastNormal (exponent + 1)
  else if greatestExponent < exponent then infinite negative
  else finite negative significand exponent

/-- Reading a quotient is fitting it with an exponent, and then rounding. -/
theorem exists_rounded_of_ofRatio (negative : Bool) (num den : Nat) (filled : 0 < num)
    (positive : 0 < den) : ∃ significand exponent, Fits ((num : ℚ) / den) exponent ∧
      RoundsTo ((num : ℚ) / den / 2 ^ exponent) significand ∧
      ofRatio negative num den = rounded negative significand exponent := by
  obtain ⟨scaled_pos, scaled⟩ := div_scale num den positive (exponentOf num den)
  have rounds := roundsTo_roundHalfEven (scale num den (exponentOf num den)).1 _ scaled_pos
  rw [scaled] at rounds
  refine ⟨_, _, fits_exponentOf num den filled positive, rounds, ?_⟩
  unfold ofRatio rounded
  rw [if_neg filled.ne']
  extract_lets exponent
  obtain ⟨a, b⟩ := scale num den exponent
  by_cases carries : roundHalfEven a b = significandBound
  · simp only [carries, if_true, exponent]
  · simp only [carries, if_false, exponent]

theorem wellFormed_ofRatio (negative : Bool) (num den : Nat) (positive : 0 < den) :
    (ofRatio negative num den).WellFormed := by
  rcases Nat.eq_zero_or_pos num with rfl | filled
  · exact isCanonical_zero
  obtain ⟨significand, exponent, fits, rounds, same⟩ :=
    exists_rounded_of_ofRatio negative num den filled positive
  have near := abs_le.mp rounds.near
  have atMost : significand ≤ significandBound := by
    have below := fits.below
    have lt : (significand : ℚ) < significandBound + 1 := by linarith
    exact Nat.le_of_lt_succ (by exact_mod_cast lt)
  have atLeast (inner : leastExponent < exponent) : leastNormal ≤ significand := by
    have above := fits.above inner
    have lt : (leastNormal : ℚ) < significand + 1 := by linarith
    exact Nat.le_of_lt_succ (by exact_mod_cast lt)
  rw [same]
  unfold rounded
  split
  · split
    · exact trivial
    · next inRange =>
      exact ⟨fits.least.trans (by omega), not_lt.mp inRange, by decide, fun _ => le_rfl⟩
  · next short =>
    split
    · exact trivial
    · next inRange =>
      exact ⟨fits.least, not_lt.mp inRange, lt_of_le_of_ne atMost short, atLeast⟩

/-- The rationals that are nearest to a number, in units of a quarter of its last place. -/
def Interval.Contains (i : Interval) (x : ℚ) : Prop :=
  if i.closed then i.low ≤ x ∧ x ≤ i.high else i.low < x ∧ x < i.high

theorem high_ofSignificand (significand : Nat) (exponent : Int) :
    ((Interval.ofSignificand significand exponent).high : ℚ) = 4 * significand + 2 := by
  unfold Interval.ofSignificand
  push_cast
  rfl

/-- The interval reaches half a unit down, or a quarter where the number below is that near. -/
theorem low_ofSignificand (significand : Nat) (exponent : Int) (nonzero : 0 < significand) :
    (4 * (significand : ℚ) - 2 ≤ (Interval.ofSignificand significand exponent).low) ∧
      (significand = leastNormal → leastExponent < exponent →
        (Interval.ofSignificand significand exponent).low = 4 * (leastNormal : ℚ) - 1) := by
  unfold Interval.ofSignificand
  dsimp only
  split
  · next atLeast =>
    rw [Nat.cast_sub (by omega)]
    push_cast
    exact ⟨by linarith, fun is _ => by rw [is]⟩
  · next other =>
    rw [Nat.cast_sub (by omega)]
    push_cast
    exact ⟨le_rfl, fun is inner => absurd ⟨is, inner⟩ other⟩

theorem roundsTo_of_contains (significand : Nat) (exponent : Int) (x : ℚ)
    (nonzero : 0 < significand)
    (inside : (Interval.ofSignificand significand exponent).Contains (4 * x)) :
    RoundsTo x significand ∧ (significand = leastNormal → leastExponent < exponent →
      4 * (leastNormal : ℚ) - 1 ≤ 4 * x) := by
  obtain ⟨lowest, boundary⟩ := low_ofSignificand significand exponent nonzero
  have closed : (Interval.ofSignificand significand exponent).closed = true ↔
      significand % 2 = 0 := decide_eq_true_iff
  unfold Interval.Contains at inside
  simp only [closed, high_ofSignificand] at inside
  split at inside
  · next even =>
    obtain ⟨above, below⟩ := inside
    refine ⟨⟨?_, fun odd => by omega⟩, fun is inner => boundary is inner ▸ above⟩
    rw [abs_le]
    constructor <;> linarith
  · obtain ⟨above, below⟩ := inside
    refine ⟨roundsTo_of_lt ?_, fun is inner => boundary is inner ▸ above.le⟩
    rw [abs_lt]
    constructor <;> linarith

/-- All of the interval of a number is read as the number. -/
theorem ofRatio_eq_finite (negative : Bool) (num den significand : Nat) (exponent : Int)
    (filled : 0 < num) (positive : 0 < den) (canonical : IsCanonical significand exponent)
    (nonzero : 0 < significand)
    (inside : (Interval.ofSignificand significand exponent).Contains
      (4 * ((num : ℚ) / den / 2 ^ exponent))) :
    ofRatio negative num den = finite negative significand exponent := by
  obtain ⟨rounds, boundary⟩ := roundsTo_of_contains significand exponent _ nonzero inside
  obtain ⟨found, exponent', fits, foundRounds, same⟩ :=
    exists_rounded_of_ofRatio negative num den filled positive
  have nonneg : (0 : ℚ) ≤ num / den := by positivity
  have near := abs_le.mp rounds.near
  have below : (num : ℚ) / den / 2 ^ exponent < significandBound := by
    have : (significand : ℚ) + 1 ≤ significandBound := by exact_mod_cast canonical.below
    linarith
  rw [same]
  by_cases normal : leastExponent < exponent → (leastNormal : ℚ) ≤ num / den / 2 ^ exponent
  · obtain rfl := fits.unique nonneg ⟨canonical.least, below, normal⟩
    obtain rfl := foundRounds.unique rounds
    rw [rounded, if_neg canonical.below.ne, if_neg (not_lt.mpr canonical.greatest)]
  · -- The quotient has one bit less than the number, which rounding gives back.
    push Not at normal
    obtain ⟨inner, less⟩ := normal
    have isLeast : significand = leastNormal := by
      have lt : (significand : ℚ) < leastNormal + 1 := by linarith
      exact le_antisymm (Nat.le_of_lt_succ (by exact_mod_cast lt)) (canonical.above inner)
    have double : (num : ℚ) / den / 2 ^ (exponent - 1) = 2 * (num / den / 2 ^ exponent) := by
      rw [zpow_sub_one₀ two_ne_zero]
      field_simp
    have close := boundary isLeast inner
    have isBound := two_mul_leastNormal
    have one_lt : (1 : ℚ) < leastNormal := by norm_num [leastNormal]
    obtain rfl : exponent' = exponent - 1 := fits.unique nonneg
      ⟨by omega, by rw [double]; linarith, fun _ => by rw [double]; linarith⟩
    have carried : RoundsTo (num / den / 2 ^ (exponent - 1)) significandBound := by
      rw [double]
      refine ⟨?_, fun odd => absurd odd (by decide)⟩
      rw [abs_le]
      constructor <;> linarith
    rw [foundRounds.unique carried, rounded, if_pos rfl, sub_add_cancel,
      if_neg (not_lt.mpr canonical.greatest), isLeast]

/-! ### Decimals -/

/-- A number has its greatest digit at its length. -/
theorem pow_length_toDigits (digits : Nat) (nonzero : 0 < digits) :
    10 ^ ((Nat.toDigits 10 digits).length - 1) ≤ digits ∧
      digits < 10 ^ (Nat.toDigits 10 digits).length := by
  have length_pos := Nat.length_toDigits_pos (b := 10) (n := digits)
  refine ⟨?_, (Nat.length_toDigits_le_iff (by decide) length_pos).mp le_rfl⟩
  rcases Nat.eq_zero_or_pos ((Nat.toDigits 10 digits).length - 1) with single | several
  · rw [single]
    exact nonzero
  · by_contra less
    have shorter := (Nat.length_toDigits_le_iff (by decide) several).mpr (not_le.mp less)
    omega

theorem two_pow_lt_ten_pow : (2 : ℚ) ^ 1024 < 10 ^ 320 := by
  have step : ((2 : ℚ) ^ 16) ^ 64 < (10 ^ 5) ^ 64 :=
    pow_lt_pow_left₀ (by norm_num) (by positivity) (by decide)
  rwa [← pow_mul, ← pow_mul] at step

theorem ten_pow_lt_two_pow : (10 : ℚ) ^ (-400 : Int) < 2 ^ (-1075 : Int) := by
  have step : ((2 : ℚ) ^ 43) ^ 25 < (10 ^ 16) ^ 25 :=
    pow_lt_pow_left₀ (by norm_num) (by positivity) (by decide)
  rw [← pow_mul, ← pow_mul] at step
  rw [zpow_neg, zpow_neg, zpow_ofNat, zpow_ofNat]
  exact inv_strictAnti₀ (by positivity) step

/-- Far beyond the range nothing is read, so what is in the range is read as a quotient. -/
theorem exists_ratio_of_ofDecimal (negative : Bool) (digits : Nat) (power : Int)
    (nonzero : 0 < digits) (lower : (2 : ℚ) ^ (-1075 : Int) ≤ digits * 10 ^ power)
    (upper : (digits : ℚ) * 10 ^ power < 2 ^ 1024) :
    ∃ num den : Nat, 0 < num ∧ 0 < den ∧ (num : ℚ) / den = digits * 10 ^ power ∧
      ofDecimal negative digits power = ofRatio negative num den := by
  obtain ⟨atLeast, less⟩ := pow_length_toDigits digits nonzero
  have length_pos := Nat.length_toDigits_pos (b := 10) (n := digits)
  unfold ofDecimal
  dsimp only
  generalize (Nat.toDigits 10 digits).length = size at *
  have pow_nonneg : (0 : ℚ) ≤ 10 ^ power := by positivity
  have notLarge : ¬ 320 < power + size := by
    intro large
    refine absurd upper (not_lt.mpr ?_)
    calc (2 : ℚ) ^ 1024 ≤ 10 ^ 320 := two_pow_lt_ten_pow.le
      _ ≤ 10 ^ (size - 1) * 10 ^ power := by
        rw [← zpow_natCast, ← zpow_natCast, ← zpow_add₀ (by norm_num)]
        exact zpow_le_zpow_right₀ (by norm_num) (by omega)
      _ ≤ digits * 10 ^ power := mul_le_mul_of_nonneg_right (by exact_mod_cast atLeast) pow_nonneg
  have notSmall : ¬ power + size < -400 := by
    intro small
    refine absurd lower (not_le.mpr ?_)
    calc digits * 10 ^ power ≤ (10 : ℚ) ^ size * 10 ^ power :=
        mul_le_mul_of_nonneg_right (by exact_mod_cast less.le) pow_nonneg
      _ ≤ 10 ^ (-400 : Int) := by
        rw [← zpow_natCast, ← zpow_add₀ (by norm_num)]
        exact zpow_le_zpow_right₀ (by norm_num) (by omega)
      _ < 2 ^ (-1075 : Int) := ten_pow_lt_two_pow
  rw [if_neg nonzero.ne', if_neg notLarge, if_neg notSmall]
  split
  · next natural =>
    refine ⟨_, 1, Nat.mul_pos nonzero (Nat.pow_pos (by decide)), Nat.one_pos, ?_, rfl⟩
    obtain ⟨k, rfl⟩ := Int.eq_ofNat_of_zero_le natural
    rw [Int.toNat_natCast, zpow_natCast, Nat.cast_one, div_one]
    push_cast
    rfl
  · refine ⟨digits, _, nonzero, Nat.pow_pos (by decide), ?_, rfl⟩
    obtain ⟨k, rfl⟩ : ∃ k : Nat, power = -k := ⟨(-power).toNat, by omega⟩
    rw [neg_neg, Int.toNat_natCast, zpow_neg, zpow_natCast, div_eq_mul_inv]
    push_cast
    rfl

/-- Any decimal in the interval of a number is read as the number. -/
theorem ofDecimal_eq_finite (negative : Bool) (digits : Nat) (power : Int) (significand : Nat)
    (exponent : Int) (canonical : IsCanonical significand exponent) (nonzero : 0 < significand)
    (inside : (Interval.ofSignificand significand exponent).Contains
      (4 * (digits * 10 ^ power / 2 ^ exponent))) :
    ofDecimal negative digits power = finite negative significand exponent := by
  obtain ⟨rounds, _⟩ := roundsTo_of_contains significand exponent _ nonzero inside
  have near := abs_le.mp rounds.near
  have unit_pos : (0 : ℚ) < 2 ^ exponent := by positivity
  have atLeast : (1 : ℚ) ≤ significand := by exact_mod_cast nonzero
  have atMost : (significand : ℚ) + 1 ≤ significandBound := by exact_mod_cast canonical.below
  have lower : (2 : ℚ) ^ (-1075 : Int) ≤ digits * 10 ^ power := by
    have least : (2 : ℚ) ^ (-1074 : Int) ≤ 2 ^ exponent :=
      zpow_le_zpow_right₀ one_le_two canonical.least
    calc (2 : ℚ) ^ (-1075 : Int) = 2 ^ (-1074 : Int) * (1 / 2) := by
          rw [one_div, ← zpow_sub_one₀ two_ne_zero]
          rfl
      _ ≤ 2 ^ exponent * (1 / 2) := mul_le_mul_of_nonneg_right least (by norm_num)
      _ ≤ digits * 10 ^ power := by
        rw [mul_comm, ← le_div_iff₀ unit_pos]
        linarith
  have upper : (digits : ℚ) * 10 ^ power < 2 ^ 1024 := by
    have greatest : (2 : ℚ) ^ exponent ≤ 2 ^ (971 : Int) :=
      zpow_le_zpow_right₀ one_le_two canonical.greatest
    calc (digits : ℚ) * 10 ^ power < significandBound * 2 ^ exponent := by
          rw [← div_lt_iff₀ unit_pos]
          linarith
      _ ≤ significandBound * 2 ^ (971 : Int) :=
        mul_le_mul_of_nonneg_left greatest (Nat.cast_nonneg _)
      _ = 2 ^ 1024 := by
        rw [significandBound, Nat.pow_eq, Nat.cast_pow, Nat.cast_ofNat]
        exact (pow_add 2 53 971).symm
  have positive : 0 < digits := by
    refine Nat.pos_of_ne_zero fun none => ?_
    rw [none, Nat.cast_zero, zero_mul] at lower
    exact absurd lower (not_le.mpr (by positivity))
  obtain ⟨num, den, filled, den_pos, same, read⟩ :=
    exists_ratio_of_ofDecimal negative digits power positive lower upper
  rw [← same] at inside
  rw [read]
  exact ofRatio_eq_finite negative num den significand exponent filled den_pos canonical nonzero
    inside

end ClassExpansion.Number.Binary64
