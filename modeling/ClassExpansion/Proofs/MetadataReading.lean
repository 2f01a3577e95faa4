import ClassExpansion.Directory.FieldInfo
import ClassExpansion.Proofs.Attempt
import ClassExpansion.Proofs.NumberWriting
import ClassExpansion.Proofs.TokenReading

set_option autoImplicit false

/- What the code of metadata stands for in the running program: the entries that it was written
from, with each number as its text says. -/
namespace ClassExpansion

open Number (Binary64)

/-- Parts that are written one by one are read one by one. -/
theorem Tokens.mapM_listed_of_mapM {α : Type} (write : α → Attempt Tokens)
    (read : Tokens → Option α) (asWritten : α → α)
    (good : ∀ a tokens, write a = .ok tokens → tokens ≠ [] ∧ Without ',' tokens)
    (inverse : ∀ a tokens, write a = .ok tokens → read tokens = some (asWritten a))
    (all : List α) (parts : List Tokens) (written : all.mapM write = .ok parts) :
    (listed (commaSeparated parts)).mapM read = some (all.map asWritten) := by
  rw [Attempt.mapM_eq_ok_iff] at written
  have each : (∀ part ∈ parts, part ≠ [] ∧ Without ',' part) ∧
      parts.mapM read = some (all.map asWritten) := by
    induction written with
    | nil => exact ⟨List.forall_mem_nil _, rfl⟩
    | cons first _ ih =>
      refine ⟨List.forall_mem_cons.mpr ⟨good _ _ first, ih.1⟩, ?_⟩
      rw [List.mapM_cons, inverse _ _ first, ih.2]
      rfl
  rw [listed_commaSeparated parts each.1, each.2]

namespace MetaValue

/-- The text of a number before the suffix, with the sign in front of it. -/
def numberText? (suffix : String) : Tokens → Option (List Char)
  | [.literal written] => written.toList.dropSuffix? suffix.toList
  | [.punct '-' _, .literal written] =>
    (written.toList.dropSuffix? suffix.toList).map fun digits => '-' :: digits
  | _ => none

/-- The whole number that the digits write, which may have a minus sign. -/
def wholeNumber? : List Char → Option Int
  | '-' :: digits => if digits.all Char.isDigit then some (-Nat.ofDigitChars 10 digits 0) else none
  | digits => if digits.all Char.isDigit then some (Nat.ofDigitChars 10 digits 0) else none

/-- The value that the code makes. -/
def denoted? (tokens : Tokens) : Option MetaValue :=
  match Tokens.path tokens with
  | (["inity", "MetaValue", "Str"], [.group .paren [value]]) => value.text?.map text
  | (["inity", "MetaValue", "Int"], [.group .paren value]) =>
    (numberText? "i64" value).bind fun digits => (wholeNumber? digits).map integer
  | (["inity", "MetaValue", "Float"], [.group .paren value]) =>
    (numberText? "f64" value).bind fun digits => (Binary64.read? (String.ofList digits)).map number
  | (["inity", "MetaValue", "Bool"], [.group .paren [.ident value]]) =>
    if value = "true" then some (boolean true)
    else if value = "false" then some (boolean false) else none
  | _ => none

/-- The value as it is written: a number is the one that its text is read as. -/
def asWritten : MetaValue → MetaValue
  | number value => number ((Binary64.read? value.text).getD value)
  | value => value

/-- A number is one that can be read. -/
def IsReadable : MetaValue → Prop
  | number value => value.WellFormed
  | _ => True

/-- What can be read is written as itself. -/
theorem asWritten_of_isReadable (value : MetaValue) (readable : value.IsReadable) :
    value.asWritten = value := by
  cases value with
  | number value =>
    rw [asWritten, value.read?_text readable]
    rfl
  | text | integer | boolean => rfl

theorem numberText?_signedLiteral (text suffix : String) :
    numberText? suffix (signedLiteral text suffix) = some text.toList := by
  have drop (digits : List Char) :
      (String.ofList digits ++ suffix).toList.dropSuffix? suffix.toList = some digits := by
    rw [String.toList_append, String.toList_ofList, List.dropSuffix?_eq_some_iff]
    exact ⟨_, rfl, beq_self_eq_true _⟩
  unfold signedLiteral
  split
  · next rest is =>
    rw [numberText?, drop, is]
    rfl
  · have same := drop text.toList
    rw [String.ofList_toList] at same
    exact same

theorem toString_eq (n : Int) :
    toString n = if n < 0 then "-" ++ toString n.natAbs else toString n.natAbs := by
  rw [Int.toString_eq_repr, Int.repr_eq_if]
  by_cases negative : n < 0
  · rw [if_neg (by omega), if_pos negative, show (-n).toNat = n.natAbs by omega]
    rfl
  · rw [if_pos (by omega), if_neg negative, show n.toNat = n.natAbs by omega]
    rfl

theorem wholeNumber?_toString (n : Int) : wholeNumber? (toString n).toList = some n := by
  have digits (m : Nat) : (toString m).toList = Nat.toDigits 10 m := by
    rw [Nat.toString_eq_repr, Nat.toList_repr]
  have isDigit (m : Nat) : ∀ c ∈ Nat.toDigits 10 m, c.isDigit = true := fun c member =>
    Nat.isDigit_of_mem_toDigits (by decide) (by decide) member
  have value (m : Nat) : Nat.ofDigitChars 10 (Nat.toDigits 10 m) 0 = m :=
    Nat.ofDigitChars_toDigits (by decide) (by decide)
  rw [toString_eq]
  by_cases negative : n < 0
  · have spelled : ("-" ++ toString n.natAbs).toList = '-' :: Nat.toDigits 10 n.natAbs := by
      rw [String.toList_append, digits]
      rfl
    rw [if_pos negative, spelled, wholeNumber?, if_pos (List.all_eq_true.mpr (isDigit _)), value]
    congr 1
    omega
  · rw [if_neg negative, digits]
    unfold wholeNumber?
    split
    · next is =>
      have digit := isDigit n.natAbs '-' (is ▸ List.mem_cons_self)
      cases digit
    · rw [if_pos (List.all_eq_true.mpr (isDigit _)), value]
      congr 1
      omega

theorem path_valueTokens (variant : String) (value : Tokens) :
    Tokens.path (valueTokens variant value) =
      (["inity", "MetaValue", variant], [.group .paren value]) := rfl

theorem denoted?_tokens (value : MetaValue) (tokens : Tokens) (written : value.tokens = .ok tokens) :
    denoted? tokens = some value.asWritten := by
  cases value with
  | text value =>
    cases written
    rw [denoted?, path_valueTokens]
    simp only [Token.text?_quoted]
    rfl
  | integer value =>
    cases written
    rw [denoted?, path_valueTokens]
    simp only [numberText?_signedLiteral, Option.bind_some, wholeNumber?_toString]
    rfl
  | number value =>
    rw [MetaValue.tokens] at written
    split at written
    · cases written
      obtain ⟨read, isRead⟩ := Option.isSome_iff_exists.mp value.isSome_read?_text
      rw [denoted?, path_valueTokens]
      simp only [numberText?_signedLiteral, Option.bind_some, String.ofList_toList, isRead,
        asWritten]
      rfl
    · cases written
  | boolean value =>
    cases written
    cases value with
    | true => rfl
    | false => rfl

end MetaValue

namespace MetaEntry

/-- The entry that a pair of a key and a value is. -/
def denoted? : Tokens → Option MetaEntry
  | [.group .paren (key :: .punct ',' _ :: value)] => do
    return ⟨← key.text?, ← MetaValue.denoted? value⟩
  | _ => none

def asWritten (entry : MetaEntry) : MetaEntry := { entry with value := entry.value.asWritten }

theorem denoted?_tokens (entry : MetaEntry) (tokens : Tokens) (written : entry.tokens = .ok tokens) :
    denoted? tokens = some entry.asWritten := by
  unfold MetaEntry.tokens at written
  obtain ⟨value, spelled, given⟩ := (Attempt.bind_eq_ok_iff _ _ _).mp written
  have shape : tokens =
      [.group .paren (Code.quoted entry.key :: .punct ',' false :: value)] :=
    (Except.ok.inj given).symm
  rw [shape, denoted?, Token.text?_quoted, entry.value.denoted?_tokens value spelled]
  rfl

theorem good_tokens (entry : MetaEntry) (tokens : Tokens) (written : entry.tokens = .ok tokens) :
    tokens ≠ [] ∧ Tokens.Without ',' tokens := by
  unfold MetaEntry.tokens at written
  obtain ⟨value, _, given⟩ := (Attempt.bind_eq_ok_iff _ _ _).mp written
  rw [← Except.ok.inj given]
  exact ⟨List.cons_ne_nil _ _, Tokens.without_of_all _ _ rfl⟩

theorem mapM_denoted? (entries : List MetaEntry) (parts : List Tokens)
    (written : entries.mapM MetaEntry.tokens = .ok parts) :
    (Tokens.listed (commaSeparated parts)).mapM denoted? = some (entries.map asWritten) :=
  Tokens.mapM_listed_of_mapM MetaEntry.tokens denoted? asWritten good_tokens denoted?_tokens entries
    parts written

end MetaEntry

end ClassExpansion
