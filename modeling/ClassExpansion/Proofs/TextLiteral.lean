import ClassExpansion.Text.Quoted
import ClassExpansion.Token.Literal
import Mathlib.Data.Nat.Digits.Defs

set_option autoImplicit false

/- A text that is written as a literal reads as itself. -/
namespace ClassExpansion

open Text (escapeChar escapeLiteral hexText)

namespace Token

theorem hexDigit?_digitChar (digit : Nat) (small : digit < 16) :
    hexDigit? digit.digitChar = some digit := by
  have each : ∀ d < 16, hexDigit? (Nat.digitChar d) = some d := by decide
  exact each digit small

theorem codePointDigits_digitChar (count value digit : Nat) (rest : List Char)
    (small : digit < 16) (room : count < 6) :
    codePointDigits count value (digit.digitChar :: rest) =
      codePointDigits (count + 1) (16 * value + digit) rest := by
  have notMark : ∀ d < 16, Nat.digitChar d ≠ '_' ∧ Nat.digitChar d ≠ '\x7d' := by decide
  obtain ⟨notUnderscore, notBrace⟩ := notMark digit small
  have notFull : count ≠ 6 := Nat.ne_of_lt room
  rw [codePointDigits]
  simp only [notUnderscore, notBrace, notFull, decide_false, Bool.false_and,
    Bool.false_eq_true, ↓reduceIte, hexDigit?_digitChar digit small]

theorem codePointDigits_toDigits (n : Nat) (rest : List Char)
    (short : (Nat.toDigits 16 n).length ≤ 6) :
    codePointDigits 0 0 (Nat.toDigits 16 n ++ rest) =
      codePointDigits (Nat.toDigits 16 n).length n rest := by
  induction n using Nat.strongRecOn generalizing rest with
  | ind n ih =>
    by_cases small : n < 16
    · rw [Nat.toDigits_of_lt_base small, List.singleton_append,
        codePointDigits_digitChar 0 0 n rest small (by decide)]
      simp only [Nat.mul_zero, Nat.zero_add, List.length_singleton]
    · have large : 16 ≤ n := Nat.le_of_not_lt small
      rw [Nat.toDigits_of_base_le (by decide) large] at short ⊢
      rw [List.length_append, List.length_singleton] at short
      have digit : n % 16 < 16 := Nat.mod_lt n (by decide)
      rw [List.append_assoc, List.singleton_append, List.length_append, List.length_singleton,
        ih (n / 16) (by omega) _ (by omega),
        codePointDigits_digitChar _ _ _ rest digit (by omega), Nat.div_add_mod]

theorem codePointEscape_hexText (c : Char) (rest : List Char) :
    codePointEscape ('\x7b' :: (hexText c ++ '\x7d' :: rest)) = some (c, rest) := by
  have valid : c.toNat.isValidChar := c.valid
  have below : c.toNat < 16 ^ 6 := by
    rcases valid with low | ⟨_, high⟩
    · omega
    · omega
  have short := (Nat.length_toDigits_le_iff (by decide) (by decide)).mpr below
  have count : 0 < (Nat.toDigits 16 c.toNat).length := Nat.length_toDigits_pos
  have closed : codePointDigits (Nat.toDigits 16 c.toNat).length c.toNat ('\x7d' :: rest) =
      some (c.toNat, rest) := by
    simp [codePointDigits, count]
  simp [codePointEscape, hexText, codePointDigits_toDigits c.toNat _ short, closed, valid]

/-- Every character is written so that it is read as itself, whatever follows. -/
theorem readCooked_escapeChar (fuel : Nat) (c : Char) (rest : List Char) :
    readCooked .text (fuel + 1) (escapeChar c ++ rest) =
      pushValue [c] (readCooked .text fuel rest) := by
  unfold escapeChar
  split
  · next is => subst is; rfl
  split
  · next is => subst is; rfl
  split
  · next is => subst is; rfl
  split
  · next is => subst is; rfl
  split
  · next is => subst is; rfl
  split
  · next is => subst is; rfl
  split
  · have readCode : readEscape .text ('u' :: '\x7b' :: (hexText c ++ '\x7d' :: rest)) =
        some ([c], rest) := by
      have notPlain : plainEscapes.lookup 'u' = none := rfl
      simp [readEscape, notPlain, codePointEscape_hexText]
    simp [readCooked, readCode]
  · next notReturn _ notBackslash notQuote _ =>
    simp [readCooked, notReturn, notBackslash, notQuote, StringKind.allows]

theorem readCooked_zeroDigits (fuel : Nat) (rest : List Char) :
    readCooked .text (fuel + 1) ('\\' :: 'x' :: '0' :: '0' :: rest) =
      pushValue ['\x00'] (readCooked .text fuel rest) := rfl

theorem readCooked_escapeLiteral (text rest : List Char) (fuel : Nat)
    (enough : text.length < fuel) :
    readCooked .text fuel (escapeLiteral text ++ '"' :: rest) = some (text, rest) := by
  induction text generalizing fuel with
  | nil =>
    obtain ⟨fuel, rfl⟩ := Nat.exists_eq_succ_of_ne_zero (Nat.ne_of_gt enough)
    rfl
  | cons c more ih =>
    obtain ⟨fuel, rfl⟩ := Nat.exists_eq_succ_of_ne_zero (Nat.ne_of_gt (Nat.zero_lt_of_lt enough))
    have onward := ih fuel (Nat.lt_of_succ_lt_succ enough)
    rw [escapeLiteral, List.append_assoc]
    split
    · next zero =>
      rw [of_decide_eq_true (Bool.and_eq_true_iff.mp zero).1]
      exact (readCooked_zeroDigits fuel _).trans (congrArg (pushValue ['\x00']) onward)
    · rw [readCooked_escapeChar, onward]
      rfl

end Token

namespace Text

theorem length_escapeChar_pos (c : Char) : 0 < (escapeChar c).length := by
  unfold escapeChar
  repeat' split
  all_goals simp

theorem length_le_escapeLiteral (text : List Char) : text.length ≤ (escapeLiteral text).length := by
  induction text with
  | nil => exact Nat.le_refl 0
  | cons c more ih =>
    have written := length_escapeChar_pos c
    rw [escapeLiteral, List.length_append, List.length_cons]
    split
    · rw [List.length_cons]
      omega
    · omega

end Text

theorem Literal.value_ofText_quotedLiteral (text : String) :
    (Literal.ofText (Text.quotedLiteral text)).value = .text text := by
  have enough := Text.length_le_escapeLiteral text.toList
  have read := Token.readCooked_escapeLiteral text.toList []
    ((escapeLiteral text.toList).length + 2) (by omega)
  simp [Literal.ofText, Text.quotedLiteral, Literal.valueOf, Literal.textValue, Token.readString,
    read]

end ClassExpansion
