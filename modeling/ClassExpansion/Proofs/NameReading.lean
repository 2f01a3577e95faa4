import ClassExpansion.Proofs.ParserRuns
import ClassExpansion.Proofs.UpperSnake
import Mathlib.Data.List.TakeWhile

set_option autoImplicit false

/- Names in a text. What is read as a name can be used as one, and a text that can be used as a name
is read as itself; blanks and comments around a name are passed over. -/
namespace ClassExpansion

namespace Text

theorem toNat_of_isIdentStart (c : Char) (start : isIdentStart c = true) :
    (65 ≤ c.toNat ∧ c.toNat ≤ 90) ∨ (97 ≤ c.toNat ∧ c.toNat ≤ 122) ∨ c.toNat = 95 ∨
      128 ≤ c.toNat := by
  unfold isIdentStart at start
  split at start
  · change ((decide (65 ≤ c.val ∧ c.val ≤ 90) || (decide (97 ≤ c.val) &&
      decide (c.val ≤ 122))) || decide (c = '_')) = true at start
    simp only [Bool.or_eq_true, Bool.and_eq_true, decide_eq_true_eq,
      UInt32.le_iff_toNat_le] at start
    rcases start with (upper | lower) | rfl
    · exact .inl upper
    · exact .inr (.inl lower)
    · exact .inr (.inr (.inl rfl))
  · omega

/-- A character in a gap of the table does not begin a name. -/
theorem not_isIdentStart_of_misses (c : Char) (low high : Nat)
    (misses : startSet.misses low high = true) (beyond : 128 ≤ low) (lower : low ≤ c.toNat)
    (upper : c.toNat ≤ high) : isIdentStart c = false := by
  unfold isIdentStart
  rw [if_neg (by omega)]
  exact startSet.contains_of_misses low high misses c lower upper

theorem ne_of_isIdentStart (c other : Char) (start : isIdentStart c = true)
    (noStart : isIdentStart other = false) : c ≠ other := by
  rintro rfl
  rw [start] at noStart
  cases noStart

end Text

namespace Lexer

open Text (isIdentStart isIdentContinue isIdentText)

/-- The code points of blanks beyond ASCII. -/
def wideBlanks : List (Nat × Nat) := [
  (0x85, 0x85), (0xa0, 0xa0), (0x1680, 0x1680), (0x2000, 0x200a), (0x200e, 0x200f),
  (0x2028, 0x2029), (0x202f, 0x202f), (0x205f, 0x205f), (0x3000, 0x3000)]

theorem isBlank_of_isIdentStart (c : Char) (start : isIdentStart c = true) :
    isBlank c = false := by
  rw [← Bool.not_eq_true]
  intro blank
  have spot := Text.toNat_of_isIdentStart c start
  have run : ∃ run ∈ wideBlanks, run.1 ≤ c.toNat ∧ c.toNat ≤ run.2 := by
    simp only [isBlank, Bool.or_eq_true, Bool.and_eq_true, decide_eq_true_eq] at blank
    simp only [wideBlanks, List.mem_cons, List.not_mem_nil, or_false, exists_eq_or_imp,
      exists_eq_left]
    omega
  obtain ⟨run, member, lower, upper⟩ := run
  have apart : ∀ run ∈ wideBlanks, Text.startSet.misses run.1 run.2 = true ∧ 128 ≤ run.1 := by
    decide +kernel
  have missed := Text.not_isIdentStart_of_misses c run.1 run.2 (apart run member).1
    (apart run member).2 lower upper
  rw [start] at missed
  cases missed

theorem ne_orderMark_of_isIdentStart (c : Char) (start : isIdentStart c = true) :
    c.toNat ≠ 0xfeff := by
  intro is
  have missed := Text.not_isIdentStart_of_misses c 0xfeff 0xfeff (by decide +kernel) (by decide)
    (by omega) (by omega)
  rw [start] at missed
  cases missed

/-- A word is as long as identifier characters go on. -/
theorem word_cons (c : Char) (rest : List Char) (start : isIdentStart c = true) :
    word (c :: rest) = some (rest.dropWhile isIdentContinue) := if_pos start

/-- A word takes a name from the front. -/
theorem exists_of_word (text rest : List Char) (found : word text = some rest) :
    ∃ name, text = name ++ rest ∧ isIdentText name = true := by
  cases text with
  | nil => cases found
  | cons c more =>
    rw [word, Option.ite_none_right_eq_some] at found
    obtain ⟨start, same⟩ := found
    cases same
    refine ⟨c :: more.takeWhile isIdentContinue, ?_, ?_⟩
    · rw [List.cons_append, List.takeWhile_append_dropWhile]
    · rw [isIdentText, start, Bool.true_and]
      exact List.all_takeWhile

theorem word_of_isIdentText (text : List Char) (named : isIdentText text = true) :
    word text = some [] := by
  cases text with
  | nil => cases named
  | cons c rest =>
    rw [isIdentText, Bool.and_eq_true] at named
    rw [word_cons c rest named.1]
    rw [List.dropWhile_eq_nil_iff.mpr (List.all_eq_true.mp named.2)]

theorem startsWith_iff (start : String) (text : List Char) :
    startsWith start text = true ↔ start.toList <+: text := List.isPrefixOf_iff_prefix

theorem take_of_append (name rest : List Char) :
    (name ++ rest).take ((name ++ rest).length - rest.length) = name := by
  rw [List.length_append, Nat.add_sub_cancel, List.take_left]

/-- Raw or not, what is taken for a name can be used as one. -/
theorem isUsable_of_nameScan (text rest : List Char) (name : String)
    (found : nameScan text = some (name, rest)) : Name.isUsable name = true := by
  unfold nameScan at found
  obtain ⟨behind, read, named⟩ := Option.bind_eq_some_iff.mp found
  obtain ⟨front, is, isName⟩ := exists_of_word _ _ read
  rw [is, take_of_append] at named
  dsimp only at named
  split at named
  · split at named
    · cases named
    · next allowed =>
      cases named
      rw [Bool.not_eq_true] at allowed
      have marked : ("r#" ++ String.ofList front).toList = 'r' :: '#' :: front := by
        simp only [String.toList_append, String.toList_ofList]
        rfl
      unfold Name.isUsable
      rw [marked]
      simp only [isName, allowed, Bool.not_false, Bool.and_self]
  · cases named
    exact Name.isUsable_of_isIdentText _ (by rw [String.toList_ofList]; exact isName)

end Lexer

/-- A name among the tokens can be used, and a group can be seen. -/
def Token.IsPlain : Token → Prop
  | .ident name => Name.isUsable name = true
  | .group delimiter _ => delimiter ≠ .invisible
  | .punct _ _ | .literal _ => True

namespace Lexer

open Text (isIdentStart isIdentContinue isIdentText)
open Token (StringKind)

def Lexeme.IsPlain : Lexeme → Prop
  | .opening delimiter => delimiter ≠ .invisible
  | .closing _ => True
  | .leaves tokens => ∀ t ∈ tokens, t.IsPlain

theorem exists_of_orElse {α : Type} (first second : Option α) (value : α)
    (found : (first <|> second) = some value) : first = some value ∨ second = some value := by
  cases first with
  | some other => exact .inl found
  | none => exact .inr found

theorem isPlain_punctToken (text rest : List Char) (t : Token)
    (found : punctToken text = some (t, rest)) : t.IsPlain := by
  unfold punctToken at found
  obtain ⟨⟨c, behind⟩, _, onward⟩ := Option.bind_eq_some_iff.mp found
  dsimp only at onward
  split at onward
  · unfold lifetimeScan at onward
    obtain ⟨_, _, closing⟩ := Option.bind_eq_some_iff.mp onward
    dsimp only at closing
    split at closing
    · cases closing
    · cases closing
      trivial
  · cases onward
    trivial

theorem isPlain_leaf (text rest : List Char) (t : Token) (found : leaf text = some (t, rest)) :
    t.IsPlain := by
  unfold leaf at found
  rcases exists_of_orElse _ _ _ found with read | found
  · unfold literalToken at read
    obtain ⟨_, _, same⟩ := Option.map_eq_some_iff.mp read
    cases same
    trivial
  rcases exists_of_orElse _ _ _ found with read | found
  · exact isPlain_punctToken text rest t read
  rcases exists_of_orElse _ _ _ found with read | read
  · unfold nameToken at read
    split at read
    · cases read
    · obtain ⟨⟨name, behind⟩, scanned, same⟩ := Option.bind_eq_some_iff.mp read
      cases same
      exact isUsable_of_nameScan text _ name scanned
  · unfold errorToken at read
    obtain ⟨_, _, same⟩ := Option.map_eq_some_iff.mp read
    cases same
    trivial

theorem isPlain_bracketLexeme (text rest : List Char) (first : Lexeme)
    (found : bracketLexeme text = some (first, rest)) : first.IsPlain := by
  unfold bracketLexeme at found
  split at found
  · split at found
    · cases found
    · cases found
      exact nofun
  · cases found
    exact nofun
  · cases found
    exact nofun
  · cases found
    trivial
  · cases found
    trivial
  · cases found
    trivial
  · cases found

theorem isPlain_docTokens (inner : Bool) (comment : List Char) :
    ∀ t ∈ docTokens inner comment, t.IsPlain := by
  unfold docTokens
  cases inner <;> simp [Token.IsPlain, Token.bracket]

theorem isPlain_lexeme (text rest : List Char) (first : Lexeme)
    (found : lexeme text = some (first, rest)) : first.IsPlain := by
  unfold lexeme at found
  split at found
  · cases found
    exact isPlain_docTokens _ _
  · rcases exists_of_orElse _ _ _ found with bracket | read
    · exact isPlain_bracketLexeme text rest first bracket
    · obtain ⟨⟨t, behind⟩, scanned, same⟩ := Option.map_eq_some_iff.mp read
      cases same
      intro other member
      rw [List.mem_singleton.mp member]
      exact isPlain_leaf text _ t scanned

theorem isPlain_lexemes (fuel : Nat) (text : List Char) (all : List Lexeme)
    (found : lexemes fuel text = some all) : ∀ l ∈ all, l.IsPlain := by
  induction fuel generalizing text all with
  | zero => cases found
  | succ fuel ih =>
    unfold lexemes at found
    split at found
    · cases found
      nofun
    · split at found
      · next first rest read =>
        obtain ⟨more, onward, rfl⟩ := Option.map_eq_some_iff.mp found
        intro l member
        rcases List.mem_cons.mp member with rfl | later
        · exact isPlain_lexeme _ _ _ read
        · exact ih _ _ onward l later
      · cases found

/-- Groups are built of what is read, and none of them becomes invisible. -/
theorem isPlain_nest (all : List Lexeme) (outer : List (Delimiter × Tokens)) (read result : Tokens)
    (plain : ∀ l ∈ all, l.IsPlain)
    (around : ∀ level ∈ outer, level.1 ≠ .invisible ∧ ∀ t ∈ level.2, t.IsPlain)
    (before : ∀ t ∈ read, t.IsPlain) (built : nest outer read all = some result) :
    ∀ t ∈ result, t.IsPlain := by
  fun_induction nest outer read all with
  | case1 outer read _ =>
    cases built
    exact fun t member => before t (List.mem_reverse.mp member)
  | case2 => cases built
  | case3 outer read delimiter rest ih =>
    obtain ⟨opens, later⟩ := List.forall_mem_cons.mp plain
    exact ih later (List.forall_mem_cons.mpr ⟨⟨opens, before⟩, around⟩) nofun built
  | case4 read rest delimiter earlier outer ih =>
    obtain ⟨⟨visible, inEarlier⟩, above⟩ := List.forall_mem_cons.mp around
    exact ih (List.forall_mem_cons.mp plain).2 above
      (List.forall_mem_cons.mpr ⟨visible, inEarlier⟩) built
  | case5 => cases built
  | case6 => cases built
  | case7 outer read tokens rest ih =>
    obtain ⟨inTokens, later⟩ := List.forall_mem_cons.mp plain
    refine ih later around ?_ built
    intro t member
    rcases List.mem_append.mp member with new | old
    · exact inTokens t (List.mem_reverse.mp new)
    · exact before t old

theorem isPlain_tokens? (text : String) (tokens : Tokens) (read : tokens? text = some tokens) :
    ∀ t ∈ tokens, t.IsPlain := by
  obtain ⟨all, scanned, built⟩ := Option.bind_eq_some_iff.mp read
  exact isPlain_nest all [] [] tokens (isPlain_lexemes _ _ all scanned) nofun nofun built

theorem not_startsWith_of_ne (start : String) (c d : Char) (ds rest : List Char)
    (is : start.toList = d :: ds) (other : c ≠ d) : startsWith start (c :: rest) = false := by
  rw [← Bool.not_eq_true, startsWith_iff, is]
  intro begins
  exact other (List.cons_prefix_cons.mp begins).1.symm

theorem not_startsWith_of_not_mem (start : String) (text : List Char) (mark : Char)
    (holds : mark ∈ start.toList) (plain : mark ∉ text) : startsWith start text = false := by
  rw [← Bool.not_eq_true, startsWith_iff]
  exact fun begins => plain (begins.subset holds)

theorem readString_eq_none (kind : StringKind) (raw : Bool) (text : List Char)
    (plain : '"' ∉ text) : Token.readString kind raw text = none := by
  unfold Token.readString
  split
  · split
    · next hashes rest opened =>
      unfold Token.rawOpening at opened
      dsimp only at opened
      split at opened
      · next behind is =>
        have quote : '"' ∈ text.dropWhile (· = '#') := is ▸ List.mem_cons_self
        exact absurd ((List.dropWhile_sublist _).subset quote) plain
      · cases opened
    · rfl
  · split
    · exact absurd List.mem_cons_self plain
    · rfl

theorem stringScan_eq_none (mark : String) (kind : StringKind) (raw : Bool) (text : List Char)
    (plain : '"' ∉ text) : stringScan mark kind raw text = none := by
  unfold stringScan after
  split
  · have behind := readString_eq_none kind raw (text.drop mark.length)
      fun quote => plain (List.mem_of_mem_drop quote)
    simp only [Option.bind_eq_bind, Option.bind_some, behind, Option.bind_none]
  · rfl

theorem characterScan_eq_none (mark : String) (kind : StringKind) (text : List Char)
    (marked : '\x27' ∈ mark.toList) (plain : '\x27' ∉ text) :
    characterScan mark kind text = none := by
  unfold characterScan after
  rw [not_startsWith_of_not_mem mark text _ marked plain]
  rfl

theorem isDigit_of_isIdentStart (c : Char) (start : isIdentStart c = true) :
    c.isDigit = false := by
  rw [← Bool.not_eq_true]
  intro digit
  have spot := Text.toNat_of_isIdentStart c start
  simp only [Char.isDigit, Bool.and_eq_true, decide_eq_true_eq, ge_iff_le,
    UInt32.le_iff_toNat_le] at digit
  change 48 ≤ c.toNat ∧ c.toNat ≤ 57 at digit
  omega

theorem floatScan_eq_none (c : Char) (rest : List Char) (start : isIdentStart c = true) :
    floatScan (c :: rest) = none := by
  rw [floatScan, isDigit_of_isIdentStart c start, if_neg Bool.false_ne_true]

/-- A letter that is a digit in base sixteen is none in base ten. -/
theorem le_of_hexDigit? (c : Char) (noDigit : c.isDigit = false) (digit : Nat)
    (read : Token.hexDigit? c = some digit) : 10 ≤ digit := by
  have le_toNat (low : Char) (le : low ≤ c) : low.toNat ≤ c.toNat := UInt32.le_iff_toNat_le.mp le
  unfold Token.hexDigit? at read
  rw [noDigit, if_neg Bool.false_ne_true] at read
  split at read
  · next small =>
    rw [Bool.and_eq_true, decide_eq_true_eq] at small
    have low := le_toNat 'a' small.1
    cases read
    omega
  · rw [Option.ite_none_right_eq_some] at read
    obtain ⟨large, same⟩ := read
    rw [Bool.and_eq_true, decide_eq_true_eq] at large
    have low := le_toNat 'A' large.1
    cases same
    omega

theorem integerScan_eq_none (c : Char) (rest : List Char) (start : isIdentStart c = true) :
    integerScan (c :: rest) = none := by
  have noDigit := isDigit_of_isIdentStart c start
  have noZero : c ≠ '0' := Text.ne_of_isIdentStart c '0' start (by decide)
  have base : radix (c :: rest) = (10, c :: rest) := by
    unfold radix
    rw [not_startsWith_of_ne "0x" c '0' ['x'] rest rfl noZero,
      not_startsWith_of_ne "0o" c '0' ['o'] rest rfl noZero,
      not_startsWith_of_ne "0b" c '0' ['b'] rest rfl noZero]
    rfl
  have digits : digitsEnd 10 true (c :: rest) = none := by
    unfold digitsEnd
    split
    · rfl
    · split
      · next digit read =>
        rw [if_neg (Nat.not_lt.mpr (le_of_hexDigit? c noDigit digit read)), Bool.or_true]
        rfl
      · rfl
  unfold integerScan
  rw [base, digits]
  rfl

/-- A text that begins like a name and has no quotes is read as a name, if it is one and no literal
begins as it does. -/
structure Spelled (text : List Char) (name : String) : Prop where
  begins : ∃ c rest, text = c :: rest ∧ isIdentStart c = true
  unquoted : '"' ∉ text ∧ '\x27' ∉ text
  plain : ∀ start ∈ ["r##", "br#", "cr#"], startsWith start text = false
  scanned : nameScan text = some (name, [])

theorem spelled_of_isIdentText (text : String) (named : isIdentText text.toList = true) :
    Spelled text.toList text := by
  obtain ⟨⟨c, first, start⟩, each⟩ := (Text.isIdentText_iff _).mp named
  have noHash : '#' ∉ text.toList := fun member => absurd (each _ member) (by decide)
  obtain ⟨rest, is⟩ := List.head?_eq_some_iff.mp first
  refine ⟨⟨c, rest, is, start⟩, ⟨?_, ?_⟩, ?_, ?_⟩
  · exact fun member => absurd (each _ member) (by decide)
  · exact fun member => absurd (each _ member) (by decide)
  · intro mark member
    have hash : '#' ∈ mark.toList := by
      revert mark
      decide
    exact not_startsWith_of_not_mem mark _ '#' hash noHash
  · have unmarked := not_startsWith_of_not_mem "r#" _ '#' (by decide) noHash
    have none : after "r#" text.toList = none := by
      rw [after, unmarked, if_neg Bool.false_ne_true]
    unfold nameScan
    rw [none, Option.getD_none, unmarked]
    simp only [word_of_isIdentText _ named, Option.bind_eq_bind, Option.bind_some, List.length_nil,
      Nat.sub_zero, List.take_length, String.ofList_toList, Bool.false_eq_true, if_false]

theorem spelled_of_raw (rest : List Char) (named : isIdentText rest = true)
    (allowed : unrawable.contains (String.ofList rest) = false) :
    Spelled ('r' :: '#' :: rest) ("r#" ++ String.ofList rest) := by
  obtain ⟨⟨c, first, start⟩, each⟩ := (Text.isIdentText_iff _).mp named
  obtain ⟨more, rfl⟩ := List.head?_eq_some_iff.mp first
  refine ⟨⟨'r', '#' :: c :: more, rfl, by decide⟩, ⟨?_, ?_⟩, ?_, ?_⟩
  · intro member
    simp only [List.mem_cons, Char.reduceEq, false_or] at member
    exact absurd (each '"' (List.mem_cons.mpr member)) (by decide)
  · intro member
    simp only [List.mem_cons, Char.reduceEq, false_or] at member
    exact absurd (each '\x27' (List.mem_cons.mpr member)) (by decide)
  · have noHash := Text.ne_of_isIdentStart c '#' start (by decide)
    simp only [List.mem_cons, List.not_mem_nil, or_false, forall_eq_or_imp, forall_eq]
    refine ⟨?_, rfl, rfl⟩
    rw [← Bool.not_eq_true, startsWith_iff]
    intro begins
    have second := (List.cons_prefix_cons.mp begins).2
    have third := (List.cons_prefix_cons.mp second).2
    exact noHash (List.cons_prefix_cons.mp third).1.symm
  · have marked : startsWith "r#" ('r' :: '#' :: c :: more) = true := rfl
    have behind : after "r#" ('r' :: '#' :: c :: more) = some (c :: more) := rfl
    unfold nameScan
    rw [behind, Option.getD_some, marked]
    simp only [word_of_isIdentText _ named, Option.bind_eq_bind, Option.bind_some, List.length_nil,
      Nat.sub_zero, List.take_length, allowed, Bool.false_eq_true, if_false, if_true]

theorem exists_spelled (text : String) (usable : Name.isUsable text = true) :
    Spelled text.toList text := by
  unfold Name.isUsable at usable
  split at usable
  · next rest is =>
    rw [Bool.and_eq_true, Bool.not_eq_true'] at usable
    have spelled := spelled_of_raw rest usable.1 usable.2
    have same : "r#" ++ String.ofList rest = text := by
      apply String.toList_injective
      rw [is]
      simp only [String.toList_append, String.toList_ofList]
      rfl
    rw [is]
    exact same ▸ spelled
  · exact spelled_of_isIdentText text usable

section Spelled

variable {text : List Char} {name : String} (spelled : Spelled text name)
include spelled

theorem Spelled.not_startsWith (start : String) (d : Char) (ds : List Char)
    (is : start.toList = d :: ds) (noStart : isIdentStart d = false) :
    startsWith start text = false := by
  obtain ⟨c, rest, rfl, begins⟩ := spelled.begins
  exact not_startsWith_of_ne start c d ds rest is (Text.ne_of_isIdentStart c d begins noStart)

theorem Spelled.literalScan_eq_none : literalScan text = none := by
  obtain ⟨noQuote, noApostrophe⟩ := spelled.unquoted
  obtain ⟨c, rest, rfl, begins⟩ := spelled.begins
  unfold literalScan literalScans
  simp only [List.findSome?_cons, stringScan_eq_none _ _ _ _ noQuote,
    characterScan_eq_none _ _ _ (by decide : '\x27' ∈ "b\x27".toList) noApostrophe,
    characterScan_eq_none _ _ _ (by decide : '\x27' ∈ "\x27".toList) noApostrophe,
    floatScan_eq_none c rest begins, integerScan_eq_none c rest begins, List.findSome?_nil]

theorem Spelled.punctToken_eq_none : punctToken text = none := by
  have others : punctuation.all (fun d => !isIdentStart d) = true := by decide +kernel
  obtain ⟨c, rest, rfl, begins⟩ := spelled.begins
  have noSign : punctuation.contains c = false := by
    rw [← Bool.not_eq_true, List.contains_iff_mem]
    intro member
    have noStart := List.all_eq_true.mp others c member
    rw [begins] at noStart
    cases noStart
  have none : punctScan (c :: rest) = none := by
    unfold punctScan
    dsimp only
    rw [noSign, if_neg Bool.false_ne_true, ite_self]
  rw [punctToken, none]
  rfl

theorem Spelled.nameToken_eq : nameToken text = some (.ident name, []) := by
  have noLiteral : literalStarts.any (startsWith · text) = false := by
    rw [List.any_eq_false]
    intro start member
    rw [Bool.not_eq_true]
    -- Quotes do not occur in the text, and the starts without quotes are those it does not have.
    have kinds : ∀ start ∈ literalStarts, '"' ∈ start.toList ∨ '\x27' ∈ start.toList ∨
        start ∈ ["r##", "br#", "cr#"] := by decide +kernel
    rcases kinds start member with quote | apostrophe | raw
    · exact not_startsWith_of_not_mem start text _ quote spelled.unquoted.1
    · exact not_startsWith_of_not_mem start text _ apostrophe spelled.unquoted.2
    · exact spelled.plain start raw
  unfold nameToken
  rw [noLiteral, if_neg Bool.false_ne_true, spelled.scanned]
  rfl

theorem Spelled.lexeme_eq : lexeme text = some (.leaves [.ident name], []) := by
  have noComment : docComment text = none := by
    unfold docComment
    rw [spelled.not_startsWith "//!" '/' ['/', '!'] rfl (by decide),
      spelled.not_startsWith "/*!" '/' ['*', '!'] rfl (by decide),
      spelled.not_startsWith "///" '/' ['/', '/'] rfl (by decide),
      spelled.not_startsWith "/**" '/' ['*', '*'] rfl (by decide)]
    rfl
  have noBracket : bracketLexeme text = none := by
    obtain ⟨c, rest, rfl, begins⟩ := spelled.begins
    unfold bracketLexeme
    split
    case h_7 => rfl
    all_goals
      next is =>
        cases is
        exact absurd begins (by decide)
  unfold lexeme leaf literalToken
  rw [noComment, noBracket, spelled.literalScan_eq_none, spelled.punctToken_eq_none,
    spelled.nameToken_eq]
  rfl

theorem Spelled.skipTrivia_eq (fuel : Nat) : skipTrivia fuel text = text := by
  have noLine : isPlainLineComment text = false := by
    rw [isPlainLineComment, spelled.not_startsWith "//" '/' ['/'] rfl (by decide)]
    rfl
  have noBlock : isPlainBlockComment text = false := by
    rw [isPlainBlockComment, spelled.not_startsWith "/**/" '/' ['*', '*', '/'] rfl (by decide),
      spelled.not_startsWith "/*" '/' ['*'] rfl (by decide)]
    rfl
  cases fuel with
  | zero => rfl
  | succ fuel =>
    unfold skipTrivia
    rw [noLine, noBlock, if_neg Bool.false_ne_true, if_neg Bool.false_ne_true]
    obtain ⟨c, rest, rfl, begins⟩ := spelled.begins
    dsimp only
    rw [isBlank_of_isIdentStart c begins, if_neg Bool.false_ne_true]

theorem Spelled.lexemes_eq (fuel : Nat) :
    lexemes (fuel + 2) text = some [.leaves [.ident name]] := by
  have trivia := spelled.skipTrivia_eq text.length
  have read := spelled.lexeme_eq
  obtain ⟨c, rest, rfl, _⟩ := spelled.begins
  unfold lexemes
  rw [trivia]
  dsimp only
  rw [read]
  rfl

end Spelled

/-- A text that can be used as a name is read as just that name. -/
theorem tokens?_of_isUsable (text : String) (usable : Name.isUsable text = true) :
    tokens? text = some [.ident text] := by
  have spelled := exists_spelled text usable
  have read := spelled.lexemes_eq
  obtain ⟨c, rest, is, begins⟩ := spelled.begins
  have noMark : dropOrderMark text.toList = text.toList := by
    rw [is, dropOrderMark, if_neg (ne_orderMark_of_isIdentStart c begins)]
  unfold tokens?
  dsimp only
  rw [noMark, is, List.length_cons, ← is, read]
  rfl

end Lexer

open ClassExpansion.Parser

theorem opened_of_isPlain (tokens : Tokens) (plain : ∀ t ∈ tokens, t.IsPlain) :
    opened tokens = tokens := by
  match tokens with
  | [] => rfl
  | .ident _ :: _ | .punct _ _ :: _ | .literal _ :: _ => rfl
  | .group .paren _ :: _ | .group .bracket _ :: _ | .group .brace _ :: _ => rfl
  | .group .invisible _ :: _ => exact absurd rfl (plain _ List.mem_cons_self)

/-- A name that is no keyword comes first. -/
theorem exists_of_reads_ident (s t : ParseState) (name : String) (read : Reads ident s name t) :
    keywords.contains name = false ∧ ∃ rest, opened s.rest = .ident name :: rest := by
  obtain ⟨_, _, got, onward⟩ := (reads_bind_iff _ _ _ _ _).mp read
  obtain ⟨rfl, rfl⟩ := (reads_get_iff _ _ _).mp got
  split at onward
  · next found rest next =>
    split at onward
    · exact absurd onward (not_reads_failHere _ _ _ _)
    · next noKeyword =>
      obtain ⟨_, _, _, done⟩ := (reads_bind_iff _ _ _ _ _).mp onward
      obtain ⟨rfl, -⟩ := (reads_pure_iff _ _ _ _).mp done
      unfold nextIdent? at next
      split at next
      · next found behind opens =>
        cases next
        exact ⟨Bool.not_eq_true _ ▸ noKeyword, _, opens⟩
      · cases next
  · exact absurd onward (not_reads_failHere _ _ _ _)

theorem readName?_eq_some (text name : String) (read : readName? text = some name) :
    ∃ tokens rest, Lexer.tokens? text = some tokens ∧ opened tokens = .ident name :: rest ∧
      keywords.contains name = false := by
  unfold readName? at read
  split at read
  · next tokens scanned =>
    split at read
    · next found run =>
      cases read
      obtain ⟨t, first, _⟩ := (runAll_eq_ok_iff _ _ _).mp run
      obtain ⟨noKeyword, rest, opens⟩ := exists_of_reads_ident _ t name first
      exact ⟨tokens, rest, scanned, opens, noKeyword⟩
    · cases read
  · cases read

/-- What a text is read as can be used as a name, and is no keyword. -/
theorem isUsable_of_readName? (text name : String) (read : readName? text = some name) :
    Name.isUsable name = true ∧ keywords.contains name = false := by
  obtain ⟨tokens, rest, scanned, opens, noKeyword⟩ := readName?_eq_some text name read
  have plain := Lexer.isPlain_tokens? text tokens scanned
  rw [opened_of_isPlain tokens plain] at opens
  exact ⟨plain (.ident name) (opens ▸ List.mem_cons_self), noKeyword⟩

/-- A text that is read as a name can be used as one exactly if it has nothing beside the name. -/
theorem isUsable_iff_of_readName? (text name : String) (read : readName? text = some name) :
    Name.isUsable text = true ↔ text = name := by
  constructor
  · intro usable
    obtain ⟨_, rest, scanned, opens, _⟩ := readName?_eq_some text name read
    cases scanned.symm.trans (Lexer.tokens?_of_isUsable text usable)
    cases opens
    rfl
  · rintro rfl
    exact (isUsable_of_readName? text text read).1

end ClassExpansion
