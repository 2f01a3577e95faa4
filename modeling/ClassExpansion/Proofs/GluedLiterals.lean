import ClassExpansion.Proofs.LegibleTokens
import ClassExpansion.Proofs.NumberScans
import ClassExpansion.Proofs.StringBodies

set_option autoImplicit false

/- Literals without some of their blanks. What is left of a literal is a literal again, before
anything that stops it: strings lose characters of their bodies, and all others stay as they are. -/
namespace ClassExpansion

open TypeText (glue Stops gluesLeft gluesRight)

namespace Token

/-- A string from its opening quote, or the hashes before it, up to the closing ones. -/
inductive IsQuoted (kind : StringKind) : Bool → List Char → Prop
  | cooked (body : List Char) (shape : CookedBody kind body) : IsQuoted kind false ('"' :: body)
  | raw (hashes body : List Char) (alike : ∀ c ∈ hashes, c = '#') (short : hashes.length ≤ 255)
      (shape : RawBody kind hashes body) : IsQuoted kind true (hashes ++ '"' :: body)

theorem exists_of_readString (kind : StringKind) (raw : Bool) (text value rest : List Char)
    (read : readString kind raw text = some (value, rest)) :
    ∃ quoted, text = quoted ++ rest ∧ IsQuoted kind raw quoted := by
  unfold readString at read
  split at read
  · next isRaw =>
    subst isRaw
    split at read
    · next hashes inner opened =>
      unfold rawOpening at opened
      dsimp only at opened
      split at opened
      · next behind is =>
        rw [Option.ite_none_right_eq_some] at opened
        obtain ⟨short, same⟩ := opened
        cases same
        obtain ⟨body, rfl, shape⟩ := exists_of_readRaw kind _ _ _ _ read
        refine ⟨text.takeWhile (· = '#') ++ '"' :: body, ?_, .raw _ body ?_ short shape⟩
        · rw [List.append_assoc, List.cons_append, ← is, List.takeWhile_append_dropWhile]
        · intro c member
          have hash := List.mem_takeWhile_imp (p := fun c => decide (c = '#')) member
          exact of_decide_eq_true hash
      · cases opened
    · cases read
  · next notRaw =>
    rw [Bool.not_eq_true] at notRaw
    subst notRaw
    split at read
    · next behind =>
      obtain ⟨body, rfl, shape⟩ := exists_of_readCooked kind _ _ _ _ read
      exact ⟨'"' :: body, rfl, .cooked body shape⟩
    · cases read

namespace IsQuoted

variable {kind : StringKind} {raw : Bool} {quoted : List Char}

theorem read (is : IsQuoted kind raw quoted) (rest : List Char) :
    ∃ value, readString kind raw (quoted ++ rest) = some (value, rest) := by
  cases is with
  | cooked body shape =>
    have enough : body.length ≤ (body ++ rest).length + 1 := by
      rw [List.length_append]
      omega
    exact shape.read rest _ enough
  | raw hashes body alike short shape =>
    have hash : ∀ c ∈ hashes, decide (c = '#') = true := fun c member =>
      decide_eq_true (alike c member)
    have opened : rawOpening (hashes ++ '"' :: body ++ rest) = some (hashes, body ++ rest) := by
      unfold rawOpening
      rw [List.append_assoc, List.takeWhile_append_of_pos hash, List.dropWhile_append_of_pos hash]
      simp only [List.cons_append, List.takeWhile_cons, List.dropWhile_cons, Char.reduceEq,
        decide_false, Bool.false_eq_true, if_false, List.append_nil, short, if_true]
    unfold readString
    rw [if_pos rfl, opened]
    exact shape.read rest

theorem begins (is : IsQuoted kind raw quoted) :
    ∃ c more, quoted = c :: more ∧ (c = '"' ∨ raw = true ∧ c = '#') := by
  cases is with
  | cooked body => exact ⟨'"', body, rfl, Or.inl rfl⟩
  | raw hashes body alike =>
    cases hashes with
    | nil => exact ⟨'"', body, rfl, Or.inl rfl⟩
    | cons c more =>
      exact ⟨c, more ++ '"' :: body, rfl, Or.inr ⟨rfl, alike c List.mem_cons_self⟩⟩

theorem ends (is : IsQuoted kind raw quoted) :
    ∃ inner c, quoted = inner ++ [c] ∧ (c = '"' ∨ c = '#') := by
  cases is with
  | cooked body shape =>
    obtain ⟨inner, rfl⟩ := shape.exists_eq_append
    exact ⟨'"' :: inner, '"', rfl, Or.inl rfl⟩
  | raw hashes body alike short shape =>
    obtain ⟨inner, rfl⟩ := shape.exists_eq_append
    rcases List.eq_nil_or_concat hashes with rfl | ⟨more, c, rfl⟩
    · exact ⟨'"' :: inner, '"', rfl, Or.inl rfl⟩
    · refine ⟨more ++ [c] ++ '"' :: inner ++ '"' :: more, c, ?_,
        Or.inr (alike c (by rw [List.concat_eq_append]; exact List.mem_append_right _ List.mem_cons_self))⟩
      simp

/-- Without some of its blanks, a string is one of the same form. -/
theorem glue (is : IsQuoted kind raw quoted) (before : Option Char) :
    IsQuoted kind raw (glue before quoted) := by
  cases is with
  | cooked body shape =>
    rw [TypeText.glue_cons_of_ne before '"' body (by decide)]
    exact .cooked _ (shape.glue _)
  | raw hashes body alike short shape =>
    have solid : ' ' ∉ hashes := fun member => absurd (alike _ member) (by decide)
    rw [TypeText.glue_append_of_not_mem before hashes _ solid,
      TypeText.glue_cons_of_ne _ '"' body (by decide)]
    exact .raw hashes _ alike short (shape.glue alike _)

end IsQuoted

end Token

namespace Lexer

open Text (isIdentStart isIdentContinue isIdentText)
open Token (StringKind IsQuoted IsEscape)

/-- How the strings begin: the mark, the family, and whether they are raw. -/
def stringForms : List (String × StringKind × Bool) :=
  [("", .text, false), ("r", .text, true), ("b", .bytes, false), ("br", .bytes, true),
    ("c", .zeroEnded, false), ("cr", .zeroEnded, true)]

def characterForms : List (String × StringKind) := [("b\x27", .bytes), ("\x27", .text)]

/-- The characters with which a literal can begin, digits apart. -/
def literalFirsts : List Char := "\"rbc\x27".toList

/-- The literal, freed of blanks, is a literal before anything that stops it. -/
structure Stands (text : List Char) : Prop where
  begins : ∃ c ∈ text.head?, c ∈ literalFirsts ∨ c.isDigit = true
  ends : ∃ front last, text = front ++ [last] ∧ IsLoose last
  scans : ∀ behind, Stops behind → literalScan (glue none text ++ behind) = some behind

/-- Where all other scans fail, one scan decides. -/
theorem literalScan_eq_of_others (n : Nat) (scan : Scan) (text : List Char)
    (is : literalScans[n]? = some scan)
    (others : (literalScans.eraseIdx n).all (fun other => (other text).isNone) = true) :
    literalScan text = scan text := by
  obtain ⟨short, rfl⟩ := List.getElem?_eq_some_iff.mp is
  rw [List.eraseIdx_eq_take_drop_succ, List.all_append, Bool.and_eq_true, List.all_eq_true,
    List.all_eq_true] at others
  simp only [Option.isNone_iff_eq_none] at others
  have earlier := List.findSome?_eq_none_iff.mpr others.1
  have later := List.findSome?_eq_none_iff.mpr others.2
  have parts : literalScans =
      literalScans.take n ++ literalScans[n] :: literalScans.drop (n + 1) := by
    rw [← List.drop_eq_getElem_cons short, List.take_append_drop]
  calc literalScan text
      = (literalScans.take n ++ literalScans[n] :: literalScans.drop (n + 1)).findSome?
          (· text) := congrArg (List.findSome? fun scan : Scan => scan text) parts
    _ = literalScans[n] text := by
        rw [List.findSome?_append, earlier, List.findSome?_cons, later]
        cases literalScans[n] text <;> rfl

theorem literalScan_string (mark : String) (kind : StringKind) (raw : Bool)
    (form : (mark, kind, raw) ∈ stringForms) (c : Char) (rest : List Char)
    (opens : c = '"' ∨ raw = true ∧ c = '#') :
    literalScan (mark.toList ++ c :: rest) = stringScan mark kind raw (mark.toList ++ c :: rest) := by
  simp only [stringForms, List.mem_cons, Prod.mk.injEq, List.not_mem_nil, or_false] at form
  rcases form with ⟨rfl, rfl, rfl⟩ | ⟨rfl, rfl, rfl⟩ | ⟨rfl, rfl, rfl⟩ | ⟨rfl, rfl, rfl⟩ |
    ⟨rfl, rfl, rfl⟩ | ⟨rfl, rfl, rfl⟩
  · rcases opens with rfl | ⟨⟨⟩, _⟩
    exact literalScan_eq_of_others 0 _ _ rfl rfl
  · rcases opens with rfl | ⟨_, rfl⟩ <;> exact literalScan_eq_of_others 1 _ _ rfl rfl
  · rcases opens with rfl | ⟨⟨⟩, _⟩
    exact literalScan_eq_of_others 2 _ _ rfl rfl
  · rcases opens with rfl | ⟨_, rfl⟩ <;> exact literalScan_eq_of_others 3 _ _ rfl rfl
  · rcases opens with rfl | ⟨⟨⟩, _⟩
    exact literalScan_eq_of_others 4 _ _ rfl rfl
  · rcases opens with rfl | ⟨_, rfl⟩ <;> exact literalScan_eq_of_others 5 _ _ rfl rfl

theorem literalScan_character (mark : String) (kind : StringKind)
    (form : (mark, kind) ∈ characterForms) (rest : List Char) :
    literalScan (mark.toList ++ rest) = characterScan mark kind (mark.toList ++ rest) := by
  simp only [characterForms, List.mem_cons, Prod.mk.injEq, List.not_mem_nil, or_false] at form
  rcases form with ⟨rfl, rfl⟩ | ⟨rfl, rfl⟩
  · exact literalScan_eq_of_others 6 _ _ rfl rfl
  · exact literalScan_eq_of_others 7 _ _ rfl rfl

theorem mem_of_isDigit (c : Char) (digit : c.isDigit = true) : c ∈ "0123456789".toList := by
  have spot : 48 ≤ c.toNat ∧ c.toNat ≤ 57 := by
    simp only [Char.isDigit, Bool.and_eq_true, decide_eq_true_eq, ge_iff_le,
      UInt32.le_iff_toNat_le] at digit
    exact digit
  have each : ∀ n < 58, 48 ≤ n → Char.ofNat n ∈ "0123456789".toList := by decide +kernel
  have member := each c.toNat (by omega) spot.1
  rwa [Char.ofNat_toNat] at member

theorem literalScan_digit (c : Char) (rest : List Char) (digit : c.isDigit = true) :
    literalScan (c :: rest) = (floatScan (c :: rest)).or (integerScan (c :: rest)) := by
  have quotes : ((literalScans.take 8).all fun other => (other (c :: rest)).isNone) = true := by
    have member := mem_of_isDigit c digit
    simp only [String.reduceToList, List.mem_cons, List.not_mem_nil, or_false] at member
    rcases member with rfl | rfl | rfl | rfl | rfl | rfl | rfl | rfl | rfl | rfl <;> rfl
  rw [List.all_eq_true] at quotes
  simp only [Option.isNone_iff_eq_none] at quotes
  have earlier := List.findSome?_eq_none_iff.mpr quotes
  calc literalScan (c :: rest)
      = (literalScans.take 8 ++ [floatScan, integerScan]).findSome? (· (c :: rest)) := rfl
    _ = (floatScan (c :: rest)).or (integerScan (c :: rest)) := by
        rw [List.findSome?_append, earlier, Option.none_or, List.findSome?_cons]
        cases floatScan (c :: rest) with
        | some found => rfl
        | none =>
          rw [List.findSome?_cons]
          cases integerScan (c :: rest) <;> rfl

/-- What is a fraction begins with a digit, and is no other literal. -/
theorem literalScan_of_floatScan (text rest : List Char) (found : floatScan text = some rest) :
    literalScan text = some rest := by
  cases text with
  | nil => cases found
  | cons c more =>
    have digit : c.isDigit = true := by
      rw [floatScan, Option.ite_none_right_eq_some] at found
      exact found.1
    rw [literalScan_digit c more digit, found, Option.some_or]

/-- The ways in which a text is taken for a literal up to the rest. -/
inductive Scanned (text rest : List Char) : Prop
  | string (mark : String) (kind : StringKind) (raw : Bool)
      (form : (mark, kind, raw) ∈ stringForms)
      (read : stringScan mark kind raw text = some rest) : Scanned text rest
  | character (mark : String) (kind : StringKind) (form : (mark, kind) ∈ characterForms)
      (read : characterScan mark kind text = some rest) : Scanned text rest
  | fraction (read : floatScan text = some rest) : Scanned text rest
  | integer (noFraction : floatScan text = none) (read : integerScan text = some rest) :
      Scanned text rest

theorem scanned_of_literalScan (text rest : List Char) (read : literalScan text = some rest) :
    Scanned text rest := by
  cases fraction : floatScan text with
  | some other =>
    rw [literalScan_of_floatScan text other fraction] at read
    cases read
    exact .fraction fraction
  | none =>
    obtain ⟨scan, member, found⟩ := List.exists_of_findSome?_eq_some read
    simp only [literalScans, List.mem_cons, List.not_mem_nil, or_false] at member
    rcases member with rfl | rfl | rfl | rfl | rfl | rfl | rfl | rfl | rfl | rfl
    · exact .string "" .text false (by decide) found
    · exact .string "r" .text true (by decide) found
    · exact .string "b" .bytes false (by decide) found
    · exact .string "br" .bytes true (by decide) found
    · exact .string "c" .zeroEnded false (by decide) found
    · exact .string "cr" .zeroEnded true (by decide) found
    · exact .character "b\x27" .bytes (by decide) found
    · exact .character "\x27" .text (by decide) found
    · rw [fraction] at found
      cases found
    · exact .integer fraction found

theorem after_append (mark : String) (text : List Char) :
    after mark (mark.toList ++ text) = some text := by
  have begins := (startsWith_iff mark (mark.toList ++ text)).mpr (List.prefix_append _ _)
  rw [after, if_pos begins, ← String.length_toList, List.drop_left]

theorem exists_of_after (mark : String) (text rest : List Char) (read : after mark text = some rest) :
    text = mark.toList ++ rest := by
  rw [after, Option.ite_none_right_eq_some] at read
  obtain ⟨begins, done⟩ := read
  obtain ⟨more, rfl⟩ := (startsWith_iff mark text).mp begins
  rw [← String.length_toList, List.drop_left] at done
  rw [Option.some.inj done]

section Strings

variable {mark : String} {kind : StringKind} {raw : Bool}

theorem exists_of_stringScan (text rest : List Char)
    (read : stringScan mark kind raw text = some rest) :
    ∃ quoted suffix, text = mark.toList ++ (quoted ++ (suffix ++ rest)) ∧
      IsQuoted kind raw quoted ∧ Literal.isSuffix suffix = true := by
  obtain ⟨behind, marked, onward⟩ := Option.bind_eq_some_iff.mp read
  obtain ⟨⟨value, last⟩, string, done⟩ := Option.bind_eq_some_iff.mp onward
  cases done
  obtain ⟨quoted, rfl, is⟩ := Token.exists_of_readString kind raw _ _ _ string
  obtain ⟨suffix, isSuffix, same⟩ := exists_optionalSuffix last
  refine ⟨quoted, suffix, ?_, is, isSuffix⟩
  rw [exists_of_after mark text _ marked, ← same]

theorem stringScan_append (mark : String) {quoted suffix behind : List Char} (is : IsQuoted kind raw quoted)
    (isSuffix : Literal.isSuffix suffix = true) (ends : EndsName behind) :
    stringScan mark kind raw (mark.toList ++ (quoted ++ (suffix ++ behind))) = some behind := by
  obtain ⟨value, read⟩ := is.read (suffix ++ behind)
  unfold stringScan
  rw [after_append]
  simp only [Option.bind_eq_bind, Option.bind_some, read,
    optionalSuffix_append suffix behind isSuffix ends]

/-- A suffix does not change that blanks behind a literal stay. -/
theorem ends_append_suffix (front suffix : List Char) (last : Char) (loose : IsLoose last)
    (isSuffix : Literal.isSuffix suffix = true) :
    ∃ more c, front ++ [last] ++ suffix = more ++ [c] ∧ IsLoose c := by
  rcases List.eq_nil_or_concat suffix with rfl | ⟨more, c, rfl⟩
  · exact ⟨front, last, List.append_nil _, loose⟩
  · have member : c ∈ more.concat c := by
      rw [List.concat_eq_append]
      exact List.mem_append_right more List.mem_cons_self
    refine ⟨front ++ [last] ++ more, c, ?_, isLoose_of_isIdentContinue c
      (isIdentContinue_of_mem_suffix _ isSuffix c member)⟩
    rw [List.concat_eq_append, List.append_assoc _ more]

theorem not_mem_suffix (suffix : List Char) (isSuffix : Literal.isSuffix suffix = true) :
    ' ' ∉ suffix := by
  intro member
  have inName := isIdentContinue_of_mem_suffix suffix isSuffix ' ' member
  cases inName

theorem stands_string {quoted suffix : List Char} (form : (mark, kind, raw) ∈ stringForms)
    (is : IsQuoted kind raw quoted) (isSuffix : Literal.isSuffix suffix = true) :
    Stands (mark.toList ++ (quoted ++ suffix)) := by
  have forms : ∀ form ∈ stringForms, ' ' ∉ form.1.toList ∧
      (form.1.toList.head?.any literalFirsts.contains = true ∨
        form.1.toList = [] ∧ form.2.2 = false) := List.all_iff_forall_prop.mp (by decide)
  obtain ⟨solid, first⟩ := forms _ form
  obtain ⟨inner, last, closed, edge⟩ := is.ends
  have loose : IsLoose last := by rcases edge with rfl | rfl <;> exact ⟨by decide, by decide⟩
  constructor
  · obtain ⟨c, more, rfl, opens⟩ := is.begins
    rcases first with marked | ⟨unmarked, cooked⟩
    · obtain ⟨d, isHead, known⟩ := (Option.any_eq_true _ _).mp marked
      refine ⟨d, ?_, Or.inl (List.contains_iff_mem.mp known)⟩
      rw [List.head?_append, Option.mem_def.mp isHead]
      rfl
    · rcases opens with rfl | ⟨isRaw, _⟩
      · refine ⟨'"', ?_, Or.inl (by decide)⟩
        rw [unmarked]
        rfl
      · cases cooked.symm.trans isRaw
  · obtain ⟨more, c, same, looseEnd⟩ := ends_append_suffix (mark.toList ++ inner) suffix last loose
      isSuffix
    refine ⟨more, c, ?_, looseEnd⟩
    rw [← same, closed]
    simp only [List.append_assoc]
  · intro behind stops
    have visible : quoted.getLast? ≠ some ' ' := by
      rw [closed, List.getLast?_concat]
      exact fun same => loose.1 (Option.some.inj same)
    have glued : glue none (mark.toList ++ (quoted ++ suffix)) =
        mark.toList ++ (glue (mark.toList.getLast?.or none) quoted ++ suffix) := by
      rw [TypeText.glue_append_of_not_mem _ _ _ solid, TypeText.glue_append _ quoted suffix visible,
        TypeText.glue_of_not_mem _ suffix (not_mem_suffix suffix isSuffix)]
    have again := is.glue (mark.toList.getLast?.or none)
    obtain ⟨c, more, begun, opens⟩ := again.begins
    have read := stringScan_append mark again isSuffix (endsName_of_stops stops)
    rw [glued, List.append_assoc, List.append_assoc]
    rw [begun, List.cons_append] at read ⊢
    rw [literalScan_string mark kind raw form c _ opens, read]

end Strings

section Characters

variable {mark : String} {kind : StringKind}

/-- What stands for one character between apostrophes. -/
inductive IsUnit (kind : StringKind) : List Char → Prop
  | plain (c : Char) (visible : c ≠ '\\') (allowed : kind.allows c = true) : IsUnit kind [c]
  | escape (escape : List Char) (known : IsEscape kind escape) : IsUnit kind ('\\' :: escape)

/-- What follows the character or the escape after an opening apostrophe. -/
def unitEnd (kind : StringKind) (text : List Char) : Option (List Char) :=
  match text with
  | [] => none
  | c :: rest =>
    if c = '\\' then
      match rest with
      | [] => none
      | d :: more =>
        if d = '\n' || d = '\r' then none else (Token.readEscape kind (d :: more)).map (·.2)
    else if kind.allows c then some rest else none

def closingApostrophe : Scan
  | '\x27' :: rest => some (optionalSuffix rest)
  | _ => none

theorem quotedCharacter_eq (text : List Char) :
    quotedCharacter kind text = (unitEnd kind text).bind closingApostrophe := by
  unfold quotedCharacter unitEnd
  split
  · next c rest =>
    dsimp only
    rw [if_pos rfl]
    split <;> rfl
  · next c rest single =>
    dsimp only
    by_cases escaped : c = '\\'
    · rw [if_pos escaped]
      cases rest with
      | nil =>
        subst escaped
        rfl
      | cons d more => exact absurd rfl (single d more escaped)
    · have same : (decide (c ≠ '\\') && kind.allows c) = kind.allows c := by
        rw [decide_eq_true escaped, Bool.true_and]
      rw [if_neg escaped]
      simp only [same]
      split <;> rfl
  · rfl

theorem exists_of_unitEnd (text rest : List Char) (read : unitEnd kind text = some rest) :
    ∃ unit, text = unit ++ rest ∧ IsUnit kind unit := by
  unfold unitEnd at read
  split at read
  · cases read
  · next c behind =>
    split at read
    · next escaped =>
      subst escaped
      split at read
      · cases read
      · next d more =>
        rw [Option.ite_none_left_eq_some, Bool.or_eq_true, decide_eq_true_eq, decide_eq_true_eq,
          not_or] at read
        obtain ⟨⟨notNewline, notReturn⟩, found⟩ := read
        obtain ⟨⟨value, last⟩, known, same⟩ := Option.map_eq_some_iff.mp found
        cases same
        rcases Token.exists_of_readEscape kind _ _ _ known with
          ⟨escape, same, is⟩ | ⟨_, same, _⟩ | ⟨_, same, _⟩
        · exact ⟨'\\' :: escape, by rw [same]; rfl, .escape escape is⟩
        · cases same
          exact absurd rfl notNewline
        · cases same
          exact absurd rfl notReturn
    · next visible =>
      rw [Option.ite_none_right_eq_some] at read
      obtain ⟨allowed, same⟩ := read
      cases same
      exact ⟨[c], rfl, .plain c visible allowed⟩

theorem unitEnd_append {unit : List Char} (is : IsUnit kind unit) (rest : List Char) :
    unitEnd kind (unit ++ rest) = some rest := by
  cases is with
  | plain c visible allowed =>
    unfold unitEnd
    simp only [List.singleton_append, if_neg visible, allowed, if_true]
  | escape escape known =>
    obtain ⟨c, more, rfl, notNewline, notReturn⟩ := known.begins
    obtain ⟨value, reads⟩ := known.reads rest
    have going : ¬ (c = '\n' || c = '\r') = true := by
      rw [Bool.or_eq_true, decide_eq_true_eq, decide_eq_true_eq, not_or]
      exact ⟨notNewline, notReturn⟩
    rw [List.cons_append] at reads
    unfold unitEnd
    simp only [List.cons_append, if_true, if_neg going, reads, Option.map_some]

theorem exists_of_quotedCharacter (text rest : List Char)
    (read : quotedCharacter kind text = some rest) :
    ∃ unit suffix, text = unit ++ '\x27' :: (suffix ++ rest) ∧ IsUnit kind unit ∧
      Literal.isSuffix suffix = true := by
  rw [quotedCharacter_eq] at read
  obtain ⟨behind, first, onward⟩ := Option.bind_eq_some_iff.mp read
  obtain ⟨unit, rfl, is⟩ := exists_of_unitEnd _ _ first
  unfold closingApostrophe at onward
  split at onward
  · next after =>
    cases onward
    obtain ⟨suffix, isSuffix, same⟩ := exists_optionalSuffix after
    exact ⟨unit, suffix, by rw [← same], is, isSuffix⟩
  · cases onward

theorem quotedCharacter_append {unit suffix behind : List Char} (is : IsUnit kind unit)
    (isSuffix : Literal.isSuffix suffix = true) (ends : EndsName behind) :
    quotedCharacter kind (unit ++ '\x27' :: (suffix ++ behind)) = some behind := by
  rw [quotedCharacter_eq, unitEnd_append is, Option.bind_some, closingApostrophe,
    optionalSuffix_append suffix behind isSuffix ends]

/-- Between apostrophes no blank is left out. -/
theorem glue_unit {unit : List Char} (is : IsUnit kind unit) (behind : List Char) :
    glue (some '\x27') (unit ++ '\x27' :: behind) = unit ++ '\x27' :: glue (some '\x27') behind := by
  cases is with
  | plain c visible allowed =>
    have kept : TypeText.isLeftOut (some '\x27') c (some '\x27') = false := Bool.and_false _
    rw [List.singleton_append, TypeText.glue_cons, List.head?_cons, kept,
      TypeText.glue_cons_of_ne _ '\x27' behind (by decide)]
    rfl
  | escape escape known =>
    have solid : ' ' ∉ '\\' :: escape := List.not_mem_cons_of_ne_of_not_mem (by decide) known.solid
    rw [TypeText.glue_append_of_not_mem _ _ _ solid,
      TypeText.glue_cons_of_ne _ '\x27' behind (by decide)]

theorem stands_character {unit suffix : List Char} (form : (mark, kind) ∈ characterForms)
    (is : IsUnit kind unit) (isSuffix : Literal.isSuffix suffix = true) :
    Stands (mark.toList ++ (unit ++ '\x27' :: suffix)) := by
  have forms : ∀ form ∈ characterForms, ' ' ∉ form.1.toList ∧
      form.1.toList.getLast? = some '\x27' ∧
        form.1.toList.head?.any literalFirsts.contains = true :=
    List.all_iff_forall_prop.mp (by decide)
  obtain ⟨solid, last, marked⟩ := forms _ form
  obtain ⟨first, isHead, known⟩ := (Option.any_eq_true _ _).mp marked
  constructor
  · refine ⟨first, ?_, Or.inl (List.contains_iff_mem.mp known)⟩
    rw [List.head?_append, Option.mem_def.mp isHead]
    rfl
  · obtain ⟨more, c, same, loose⟩ := ends_append_suffix (mark.toList ++ unit) suffix '\x27'
      ⟨by decide, by decide⟩ isSuffix
    refine ⟨more, c, ?_, loose⟩
    rw [← same]
    simp only [List.append_assoc, List.singleton_append]
  · intro behind stops
    have glued : glue none (mark.toList ++ (unit ++ '\x27' :: suffix)) =
        mark.toList ++ (unit ++ '\x27' :: suffix) := by
      rw [TypeText.glue_append_of_not_mem _ _ _ solid, last, Option.some_or, glue_unit is,
        TypeText.glue_of_not_mem _ suffix (not_mem_suffix suffix isSuffix)]
    rw [glued, List.append_assoc, literalScan_character mark kind form, characterScan, after_append,
      Option.bind_some, List.append_assoc, List.cons_append]
    exact quotedCharacter_append is isSuffix (endsName_of_stops stops)

end Characters

theorem stands_number (text : List Char) (first : ∃ c ∈ text.head?, c.isDigit = true)
    (loosely : ∀ c ∈ text, IsLoose c)
    (scans : ∀ behind, Stops behind → literalScan (text ++ behind) = some behind) :
    Stands text := by
  obtain ⟨c, isHead, digit⟩ := first
  have filled : text ≠ [] := by
    rintro rfl
    cases isHead
  obtain ⟨front, last, rfl⟩ : ∃ front last, text = front ++ [last] :=
    ⟨text.dropLast, text.getLast filled, (List.dropLast_append_getLast filled).symm⟩
  refine ⟨⟨c, isHead, Or.inr digit⟩, ⟨front, last, rfl, loosely last (by simp)⟩,
    fun behind stops => ?_⟩
  rw [TypeText.glue_of_not_mem none _ fun member => (loosely ' ' member).1 rfl]
  exact scans behind stops

theorem stands_of_floatScan (text rest : List Char) (read : floatScan (text ++ rest) = some rest) :
    Stands text := by
  obtain ⟨⟨c, first, digit⟩, loosely, reads⟩ := floatScan_append read
  obtain ⟨more, rfl⟩ := List.head?_eq_some_iff.mp first
  refine stands_number _ ⟨c, first, digit⟩ loosely fun behind stops => ?_
  rw [List.cons_append, literalScan_digit c _ digit, ← List.cons_append, reads behind stops,
    Option.some_or]

theorem stands_of_integerScan (text rest : List Char)
    (noFraction : floatScan (text ++ rest) = none)
    (read : integerScan (text ++ rest) = some rest) : Stands text := by
  obtain ⟨ends, ⟨c, first, digit⟩, inName, reads⟩ := integerScan_append read
  obtain ⟨more, rfl⟩ := List.head?_eq_some_iff.mp first
  refine stands_number _ ⟨c, first, digit⟩
    (fun d member => isLoose_of_isIdentContinue d (inName d member)) fun behind stops => ?_
  have still := floatScan_eq_none_append noFraction (List.cons_ne_nil c more) inName ends stops
  rw [List.cons_append, literalScan_digit c _ digit, ← List.cons_append, still, Option.none_or,
    reads behind stops]

/-- What is taken for a literal anywhere is one by itself. -/
theorem stands_of_literalScan (text rest : List Char)
    (read : literalScan (text ++ rest) = some rest) : Stands text := by
  cases scanned_of_literalScan _ _ read with
  | string mark kind raw form read =>
    obtain ⟨quoted, suffix, same, is, isSuffix⟩ := exists_of_stringScan _ _ read
    simp only [← List.append_assoc] at same
    rw [List.append_cancel_right same, List.append_assoc]
    exact stands_string form is isSuffix
  | character mark kind form read =>
    obtain ⟨behind, marked, onward⟩ := Option.bind_eq_some_iff.mp read
    obtain ⟨unit, suffix, rfl, is, isSuffix⟩ := exists_of_quotedCharacter _ _ onward
    have same := exists_of_after mark _ _ marked
    rw [← List.cons_append, ← List.append_assoc unit, ← List.append_assoc mark.toList] at same
    rw [List.append_cancel_right same]
    exact stands_character form is isSuffix
  | fraction read => exact stands_of_floatScan text rest read
  | integer noFraction read => exact stands_of_integerScan text rest noFraction read

end Lexer

end ClassExpansion
