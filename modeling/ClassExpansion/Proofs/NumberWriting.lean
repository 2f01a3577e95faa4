import ClassExpansion.Proofs.NumberReading
import Mathlib.Data.List.TakeWhile

set_option autoImplicit false

/- How a number is written: with the fewest decimal digits that are read as the number. What is
written is read back. -/
namespace ClassExpansion.Number.Binary64

/-! ### Digits in the interval -/

namespace Interval

theorem holds_iff (i : Interval) (num den n : Nat) (positive : 0 < den) :
    i.holds num den n = true ↔ i.Contains (n * num / den) := by
  have den_pos : (0 : ℚ) < den := by exact_mod_cast positive
  unfold holds Contains
  split
  · rw [le_div_iff₀ den_pos, div_le_iff₀ den_pos, Bool.and_eq_true, decide_eq_true_iff,
      decide_eq_true_iff]
    exact_mod_cast Iff.rfl
  · rw [lt_div_iff₀ den_pos, div_lt_iff₀ den_pos, Bool.and_eq_true, decide_eq_true_iff,
      decide_eq_true_iff]
    exact_mod_cast Iff.rfl

/-- What is nearest is one of the multiples that the interval holds. -/
theorem holds_of_nearest? (i : Interval) (num den n : Nat) (found : i.nearest? num den = some n) :
    i.holds num den n = true := by
  unfold nearest? at found
  dsimp only at found
  split at found
  · next below above =>
    cases found
    split
    · exact below
    · exact above
  · next below _ =>
    cases found
    exact below
  · next _ above =>
    cases found
    exact above
  · cases found

/-- A unit that is no more than that of the interval has a multiple in it. -/
theorem isSome_nearest? (i : Interval) (num den : Nat) (filled : 0 < num) (fine : num ≤ den)
    (above : i.low < i.value) (below : i.value < i.high) : (i.nearest? num den).isSome = true := by
  generalize multiple : i.value * den / num = n
  have atMost : n * num ≤ i.value * den := multiple ▸ Nat.div_mul_le_self _ _
  have more : i.value * den < n * num + num := multiple ▸ Nat.lt_div_mul_add filled
  have low : i.low * den < n * num := by
    have step : (i.low + 1) * den ≤ i.value * den := Nat.mul_le_mul_right den above
    rw [Nat.succ_mul] at step
    omega
  have high : n * num < i.high * den :=
    atMost.trans_lt (Nat.mul_lt_mul_of_pos_right below (filled.trans_le fine))
  have holds : i.holds num den n = true := by
    unfold Interval.holds
    split
    · rw [Bool.and_eq_true, decide_eq_true_iff, decide_eq_true_iff]
      exact ⟨low.le, high.le⟩
    · rw [Bool.and_eq_true, decide_eq_true_iff, decide_eq_true_iff]
      exact ⟨low, high⟩
  unfold nearest?
  dsimp only
  rw [multiple, holds]
  cases i.holds num den (n + 1) with
  | true => rfl
  | false => rfl

end Interval

/-- A power as a quotient of whole numbers. -/
theorem zpow_eq_div (base : Nat) (power : Int) :
    (base : ℚ) ^ power = ((if 0 ≤ power then Nat.pow base power.natAbs else 1 : Nat) : ℚ) /
      (if 0 ≤ power then 1 else Nat.pow base power.natAbs : Nat) := by
  split
  · next natural =>
    obtain ⟨k, rfl⟩ := Int.eq_ofNat_of_zero_le natural
    rw [Int.natAbs_natCast, zpow_natCast, Nat.pow_eq, Nat.cast_one, div_one, Nat.cast_pow]
  · obtain ⟨k, rfl⟩ : ∃ k : Nat, power = -k := ⟨(-power).toNat, by omega⟩
    rw [Int.natAbs_neg, Int.natAbs_natCast, zpow_neg, zpow_natCast, Nat.pow_eq, Nat.cast_one,
      one_div, Nat.cast_pow]

theorem div_decimalUnit (power exponent : Int) :
    0 < (decimalUnit power exponent).1 ∧ 0 < (decimalUnit power exponent).2 ∧
      ((decimalUnit power exponent).1 : ℚ) / (decimalUnit power exponent).2 =
        10 ^ power / 2 ^ exponent := by
  have ten_pos : 0 < Nat.pow 10 power.natAbs := Nat.pow_pos (by decide)
  have two_pos : 0 < Nat.pow 2 exponent.natAbs := Nat.pow_pos (by decide)
  have ten := zpow_eq_div 10 power
  have two := zpow_eq_div 2 exponent
  rw [Nat.cast_ofNat] at ten two
  unfold decimalUnit
  refine ⟨?_, ?_, ?_⟩
  · refine Nat.mul_pos ?_ ?_
    · split <;> positivity
    · split <;> positivity
  · refine Nat.mul_pos ?_ ?_
    · split <;> positivity
    · split <;> positivity
  · rw [ten, two, Nat.cast_mul, Nat.cast_mul, div_div_div_eq]

theorem decimalUnit_le_iff (power exponent : Int) :
    (decimalUnit power exponent).1 ≤ (decimalUnit power exponent).2 ↔
      (10 : ℚ) ^ power ≤ 2 ^ exponent := by
  obtain ⟨_, den_pos, unit⟩ := div_decimalUnit power exponent
  rw [← div_le_one (by positivity : (0 : ℚ) < 2 ^ exponent), ← unit,
    div_le_one (by exact_mod_cast den_pos)]
  exact Nat.cast_le.symm

/-- The decimal that is found lies in the interval, if the units that are tried become as fine as
those of the interval. -/
theorem contains_refine (i : Interval) (above : i.low < i.value) (below : i.value < i.high)
    (exponent : Int) (steps : Nat) (power : Int) (tries : 0 < steps)
    (fine : (decimalUnit (power + 1 - steps) exponent).1 ≤
      (decimalUnit (power + 1 - steps) exponent).2) :
    i.Contains ((refine i exponent steps power).1 * 10 ^ (refine i exponent steps power).2 /
      2 ^ exponent) := by
  induction steps generalizing power with
  | zero => exact absurd tries (lt_irrefl 0)
  | succ steps ih =>
    obtain ⟨num_pos, den_pos, unit⟩ := div_decimalUnit power exponent
    unfold refine
    dsimp only
    cases found : i.nearest? (decimalUnit power exponent).1 (decimalUnit power exponent).2 with
    | some digits =>
      dsimp only
      rw [mul_div_assoc, ← unit, ← mul_div_assoc, ← i.holds_iff _ _ _ den_pos]
      exact i.holds_of_nearest? _ _ _ found
    | none =>
      have shift : power + 1 - ((steps + 1 : Nat) : Int) = power - 1 + 1 - steps := by omega
      rw [shift] at fine
      refine ih (power - 1) (Nat.pos_of_ne_zero fun last => ?_) fine
      -- The last unit that is tried is fine, so that it has a multiple in the interval.
      rw [last, Nat.cast_zero, sub_zero, sub_add_cancel] at fine
      have isSome := i.isSome_nearest? _ _ num_pos fine above below
      rw [found] at isSome
      cases isSome

/-- In the range of numbers, the unit that is tried last is a quarter of the last place or less: so
it is for each size that a number can have. -/
theorem decimalUnit_fine : (List.range 2098).all (fun k =>
    (decimalUnit (((k : Int) - 1073) * 30103 / 100000 - 18) ((k : Int) - 1128)).1 ≤
      (decimalUnit (((k : Int) - 1073) * 30103 / 100000 - 18) ((k : Int) - 1128)).2) = true := by
  decide +kernel

theorem ten_zpow_le_two_zpow (size : Int) (atLeast : -1074 ≤ size) (atMost : size < 1024) :
    (10 : ℚ) ^ ((size + 1) * 30103 / 100000 - 18) ≤ 2 ^ (size - 54) := by
  obtain ⟨k, is⟩ : ∃ k : Nat, size = k - 1074 := ⟨(size + 1074).toNat, by omega⟩
  have fine := List.all_eq_true.mp decimalUnit_fine k (List.mem_range.mpr (by omega))
  rw [decide_eq_true_iff, decimalUnit_le_iff] at fine
  have next : size + 1 = k - 1073 := by omega
  have unit : size - 54 = k - 1128 := by omega
  rw [next, unit]
  exact fine

theorem contains_shortest (significand : Nat) (exponent : Int)
    (canonical : IsCanonical significand exponent) (nonzero : 0 < significand) :
    (Interval.ofSignificand significand exponent).Contains
      (4 * ((shortest significand exponent).1 * 10 ^ (shortest significand exponent).2 /
        2 ^ exponent)) := by
  have bits : significand.log2 < 53 := (Nat.log2_lt nonzero.ne').mpr canonical.below
  have least : -1074 ≤ exponent := canonical.least
  have greatest : exponent ≤ 971 := canonical.greatest
  have quarter (x : ℚ) : 4 * (x / 2 ^ exponent) = x / 2 ^ (exponent - 2) := by
    rw [zpow_sub₀ two_ne_zero, div_div_eq_mul_div, zpow_ofNat]
    ring
  rw [quarter]
  unfold shortest
  dsimp only
  generalize isSize : (significand.log2 : Int) + exponent = size
  -- A subnormal number has a place that is coarser than its size asks for.
  refine contains_refine _ ?_ ?_ _ _ _ (by decide) ((decimalUnit_le_iff _ _).mpr ?_)
  · change ite _ _ _ < 4 * significand
    split <;> omega
  · change 4 * significand < 4 * significand + 2
    omega
  · have last : (size + 1) * 30103 / 100000 + 1 + 1 - ((20 : Nat) : Int) =
        (size + 1) * 30103 / 100000 - 18 := by omega
    rw [last]
    exact (ten_zpow_le_two_zpow size (by omega) (by omega)).trans
      (zpow_le_zpow_right₀ one_le_two (by omega))

/-! ### Texts -/

/-- Digits, which may have a point and more digits behind them. -/
structure IsDecimal (text whole fraction : List Char) : Prop where
  filled : whole ≠ []
  isWhole : ∀ c ∈ whole, c.isDigit = true
  isFraction : ∀ c ∈ fraction, c.isDigit = true
  spelled : text = if fraction.isEmpty then whole else whole ++ '.' :: fraction

theorem IsDecimal.exists_digit {text whole fraction : List Char}
    (decimal : IsDecimal text whole fraction) :
    ∃ first rest, text = first :: rest ∧ first.isDigit = true := by
  obtain ⟨first, rest, rfl⟩ := List.exists_cons_of_ne_nil decimal.filled
  rw [decimal.spelled]
  split
  · exact ⟨_, _, rfl, decimal.isWhole first List.mem_cons_self⟩
  · exact ⟨_, _, rfl, decimal.isWhole first List.mem_cons_self⟩

theorem digitsValue_eq (digits : List Char) : digitsValue digits = Nat.ofDigitChars 10 digits 0 :=
  rfl

theorem digitsValue_append_zeros (digits : List Char) (count : Nat) :
    digitsValue (digits ++ List.replicate count '0') = 10 ^ count * digitsValue digits := by
  rw [digitsValue_eq, Nat.ofDigitChars_append, Nat.ofDigitChars_replicate_zero, digitsValue_eq]

theorem digitsValue_padded (count digits : Nat) :
    digitsValue (List.replicate count '0' ++ Nat.toDigits 10 digits) = digits := by
  rw [digitsValue_eq, Nat.ofDigitChars_append, Nat.ofDigitChars_replicate_zero, Nat.mul_zero,
    Nat.ofDigitChars_ten_toDigits]

/-- Zeros at the end of the digits can be left out. -/
theorem exists_zeros_of_dropWhile (digits : List Char) :
    ∃ count, digits = (digits.reverse.dropWhile (· = '0')).reverse ++ List.replicate count '0' := by
  refine ⟨(digits.reverse.takeWhile (· = '0')).length, ?_⟩
  have zeros : digits.reverse.takeWhile (· = '0') =
      List.replicate (digits.reverse.takeWhile (· = '0')).length '0' :=
    List.eq_replicate_iff.mpr ⟨rfl, fun c member => by simpa using List.mem_takeWhile_imp member⟩
  rw [← List.reverse_replicate, ← zeros, ← List.reverse_append, List.takeWhile_append_dropWhile,
    List.reverse_reverse]

/-- The text has the value of the digits at their power. -/
theorem exists_isDecimal_positional (digits : Nat) (power : Int) :
    ∃ whole fraction, IsDecimal (positional digits power) whole fraction ∧
      (digitsValue (whole ++ fraction) : ℚ) * 10 ^ (0 - (fraction.length : Int)) =
        digits * 10 ^ power := by
  have isDigit : ∀ c ∈ Nat.toDigits 10 digits, c.isDigit = true := fun c member =>
    Nat.isDigit_of_mem_toDigits (by decide) (by decide) member
  have zeros (count : Nat) : ∀ c ∈ List.replicate count '0', c.isDigit = true := by
    intro c member
    rw [List.eq_of_mem_replicate member]
    rfl
  unfold positional
  split
  · next natural =>
    refine ⟨_, [], ⟨?_, List.forall_mem_append.mpr ⟨isDigit, zeros _⟩, List.forall_mem_nil _, rfl⟩,
      ?_⟩
    · exact List.append_ne_nil_of_left_ne_nil Nat.toDigits_ne_nil _
    · obtain ⟨k, rfl⟩ := Int.eq_ofNat_of_zero_le natural
      rw [List.append_nil, digitsValue_append_zeros, digitsValue_eq, Nat.ofDigitChars_ten_toDigits,
        Int.toNat_natCast, List.length_nil, Nat.cast_zero, sub_zero, zpow_zero, zpow_natCast]
      push_cast
      ring
  · next fractional =>
    extract_lets places text padded fraction whole
    have all : ∀ c ∈ padded, c.isDigit = true := List.forall_mem_append.mpr ⟨zeros _, isDigit⟩
    have long : places < padded.length := by
      rw [List.length_append, List.length_replicate]
      omega
    obtain ⟨count, dropped⟩ := exists_zeros_of_dropWhile (padded.drop (padded.length - places))
    have split : padded = (whole ++ fraction.reverse) ++ List.replicate count '0' := by
      rw [List.append_assoc, ← dropped, List.take_append_drop]
    have length : fraction.length + count = places := by
      have counted : (padded.drop (padded.length - places)).length =
          fraction.reverse.length + count := by
        rw [congrArg List.length dropped, List.length_append, List.length_replicate]
      rw [List.length_drop, List.length_reverse] at counted
      omega
    refine ⟨whole, fraction.reverse, ⟨?_, ?_, ?_, ?_⟩, ?_⟩
    · rw [ne_eq, List.take_eq_nil_iff, not_or]
      exact ⟨by omega, List.ne_nil_of_length_pos (by omega)⟩
    · exact fun c member => all c (List.mem_of_mem_take member)
    · intro c member
      rw [split] at all
      exact all c (List.mem_append_left _ (List.mem_append_right _ member))
    · rw [List.isEmpty_reverse]
    · have value : 10 ^ count * digitsValue (whole ++ fraction.reverse) = digits := by
        rw [← digitsValue_append_zeros, ← split]
        exact digitsValue_padded _ digits
      have isPower : power = 0 - (fraction.length : Int) - count := by omega
      have shift : (10 : ℚ) ^ power = 10 ^ (0 - (fraction.length : Int)) / 10 ^ count := by
        rw [isPower, zpow_sub₀ (by norm_num) (0 - (fraction.length : Int)), zpow_natCast]
      rw [← value, shift, List.length_reverse, Nat.cast_mul, Nat.cast_pow, Nat.cast_ofNat]
      field_simp

theorem readDecimal?_eq (negative : Bool) (text whole fraction : List Char)
    (decimal : IsDecimal text whole fraction) :
    readDecimal? negative text =
      some (ofDecimal negative (digitsValue (whole ++ fraction)) (0 - fraction.length)) := by
  obtain ⟨filled, isWhole, isFraction, rfl⟩ := decimal
  have notEmpty : whole.isEmpty = false := Bool.eq_false_iff.mpr (mt List.isEmpty_iff.mp filled)
  have point : ('.').isDigit = false := rfl
  cases fraction with
  | nil =>
    simp [readDecimal?, List.takeWhile_eq_self_iff.mpr isWhole,
      List.dropWhile_eq_nil_iff.mpr isWhole, notEmpty, readExponent?]
  | cons first rest =>
    simp [readDecimal?, List.takeWhile_append_of_pos isWhole, List.dropWhile_append_of_pos isWhole,
      point, List.takeWhile_eq_self_iff.mpr isFraction, List.dropWhile_eq_nil_iff.mpr isFraction,
      notEmpty, readExponent?]

theorem toLower_of_isDigit (c : Char) (isDigit : c.isDigit = true) : c.toLower = c := by
  have notLetter : ¬ ('A'.val ≤ c.val ∧ c.val ≤ 'Z'.val) := by
    rintro ⟨letter, _⟩
    have atMost : c.val ≤ '9'.val := of_decide_eq_true ((Bool.and_eq_true _ _).mp isDigit).2
    exact absurd (UInt32.le_trans letter atMost) (by decide)
  exact dif_neg notLetter

/-- Digits are none of the special names. -/
theorem read?_of_splitSign (text : String) (negative : Bool) (body whole fraction : List Char)
    (signed : splitSign text.toList = (negative, body)) (decimal : IsDecimal body whole fraction) :
    read? text = readDecimal? negative body := by
  obtain ⟨first, more, rfl, digit⟩ := decimal.exists_digit
  have named (name : String) (c : Char) (others : List Char) (is : name.toList = c :: others)
      (letter : c.isDigit = false) : String.ofList ((first :: more).map Char.toLower) ≠ name := by
    intro same
    rw [← String.toList_inj, String.toList_ofList, is, List.map_cons,
      toLower_of_isDigit first digit] at same
    rw [(List.cons.inj same).1, letter] at digit
    cases digit
  unfold read?
  rw [signed]
  dsimp only
  split
  · next is => exact absurd is (named "inf" _ _ rfl rfl)
  · next is => exact absurd is (named "infinity" _ _ rfl rfl)
  · next is => exact absurd is (named "nan" _ _ rfl rfl)
  · rfl

theorem splitSign_of_isDecimal {body whole fraction : List Char} (negative : Bool)
    (decimal : IsDecimal body whole fraction) :
    splitSign (if negative then '-' :: body else body) = (negative, body) := by
  cases negative with
  | true => rfl
  | false =>
    obtain ⟨first, rest, rfl, digit⟩ := decimal.exists_digit
    rw [if_neg Bool.false_ne_true]
    unfold splitSign
    split
    · next is =>
      cases is
      cases digit
    · next is =>
      cases is
      cases digit
    · rfl

/-- The text of a finite number is read as the decimal that was chosen for it. -/
theorem exists_decimal_of_text (negative : Bool) (significand : Nat) (exponent : Int) :
    ∃ digits power, read? (Binary64.finite negative significand exponent).text =
      some (ofDecimal negative digits power) ∧ (significand = 0 → digits = 0) ∧
      (0 < significand → (digits : ℚ) * 10 ^ power =
        (shortest significand exponent).1 * 10 ^ (shortest significand exponent).2) := by
  have reads (body whole fraction : List Char) (decimal : IsDecimal body whole fraction)
      (text : (Binary64.finite negative significand exponent).text =
        String.ofList (if negative then '-' :: body else body)) :
      read? (Binary64.finite negative significand exponent).text =
        some (ofDecimal negative (digitsValue (whole ++ fraction)) (0 - fraction.length)) := by
    rw [read?_of_splitSign _ negative body whole fraction _ decimal,
      readDecimal?_eq negative body whole fraction decimal]
    rw [text, String.toList_ofList]
    exact splitSign_of_isDecimal negative decimal
  by_cases zero : significand = 0
  · refine ⟨_, _, reads ['0'] ['0'] [] ⟨List.cons_ne_nil _ _, List.forall_mem_singleton.mpr rfl,
      List.forall_mem_nil _, rfl⟩ ?_, fun _ => rfl, fun nonzero => absurd zero nonzero.ne'⟩
    rw [Binary64.text, if_pos zero]
  · obtain ⟨whole, fraction, decimal, same⟩ := exists_isDecimal_positional
      (shortest significand exponent).1 (shortest significand exponent).2
    refine ⟨_, _, reads _ whole fraction decimal ?_, fun isZero => absurd isZero zero,
      fun _ => same⟩
    rw [Binary64.text, if_neg zero]

theorem read?_text_infinite (negative : Bool) :
    read? (infinite negative).text = some (infinite negative) := by
  cases negative with
  | true => rfl
  | false => rfl

theorem isSome_read?_text (number : Binary64) : (read? number.text).isSome = true := by
  cases number with
  | nan => rfl
  | infinite negative => rw [read?_text_infinite, Option.isSome_some]
  | finite negative significand exponent =>
    obtain ⟨_, _, read, _⟩ := exists_decimal_of_text negative significand exponent
    rw [read, Option.isSome_some]

theorem read?_text_finite (negative : Bool) (significand : Nat) (exponent : Int)
    (canonical : IsCanonical significand exponent) :
    read? (Binary64.finite negative significand exponent).text =
      some (.finite negative significand exponent) := by
  obtain ⟨digits, power, read, none, value⟩ :=
    exists_decimal_of_text negative significand exponent
  rw [read]
  congr 1
  rcases Nat.eq_zero_or_pos significand with rfl | nonzero
  · have isLeast : exponent = leastExponent := by
      by_contra other
      have filled := canonical.above (lt_of_le_of_ne canonical.least (Ne.symm other))
      exact absurd filled (by decide)
    rw [none rfl, isLeast, ofDecimal, if_pos rfl]
  · apply ofDecimal_eq_finite _ _ _ _ _ canonical nonzero
    rw [value nonzero]
    exact contains_shortest significand exponent canonical nonzero

/-- A number that can be read is read from its text. -/
theorem read?_text (number : Binary64) (wellFormed : number.WellFormed) :
    read? number.text = some number := by
  cases number with
  | nan => rfl
  | infinite negative => exact read?_text_infinite negative
  | finite negative significand exponent =>
    exact read?_text_finite negative significand exponent wellFormed

/-! ### What can be read -/

theorem WellFormed.neg {number : Binary64} (wellFormed : number.WellFormed) :
    number.neg.WellFormed := by
  cases number with
  | nan => exact trivial
  | infinite negative => exact trivial
  | finite negative significand exponent => exact wellFormed

theorem wellFormed_ofDecimal (negative : Bool) (digits : Nat) (power : Int) :
    (ofDecimal negative digits power).WellFormed := by
  unfold ofDecimal
  dsimp only
  split
  · exact isCanonical_zero
  split
  · exact trivial
  split
  · exact isCanonical_zero
  split
  · exact wellFormed_ofRatio negative _ 1 Nat.one_pos
  · exact wellFormed_ofRatio negative digits _ (Nat.pow_pos (by decide))

theorem exists_ofDecimal_of_readDecimal? (negative : Bool) (text : List Char) (number : Binary64)
    (found : readDecimal? negative text = some number) :
    ∃ digits power, number = ofDecimal negative digits power := by
  unfold readDecimal? at found
  dsimp only at found
  split at found
  all_goals
    split at found
    · cases found
    · obtain ⟨power, _, rfl⟩ := Option.map_eq_some_iff.mp found
      exact ⟨_, _, rfl⟩

theorem wellFormed_of_read? (text : String) (number : Binary64) (found : read? text = some number) :
    number.WellFormed := by
  unfold read? at found
  split at found
  split at found
  · cases found
    exact trivial
  · cases found
    exact trivial
  · cases found
    exact trivial
  · obtain ⟨digits, power, rfl⟩ := exists_ofDecimal_of_readDecimal? _ _ number found
    exact wellFormed_ofDecimal _ digits power

end ClassExpansion.Number.Binary64
