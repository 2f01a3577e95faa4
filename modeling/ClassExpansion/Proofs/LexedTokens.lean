import ClassExpansion.Proofs.LexemeScans
import ClassExpansion.Proofs.TextLiteral

set_option autoImplicit false

/- What the lexer reads is legible: its literals are literals by themselves, a joint slash stands
before a character that makes no comment of it, and an apostrophe before a name. -/
namespace ClassExpansion.Lexer

open Text (isIdentStart isIdentContinue isIdentText)
open Token (StringKind IsQuoted Legible LegibleBefore legibleBefore_append_iff)

/-- The token with which the lexemes go on in the same group. -/
def nextToken : List Lexeme → Option Token
  | .leaves tokens :: _ => tokens.head?
  | .opening _ :: _ | .closing _ :: _ | [] => none

/-- Every lexeme is legible before the next one. -/
def AreLegible : List Lexeme → Prop
  | [] => True
  | .leaves tokens :: rest =>
    tokens ≠ [] ∧ LegibleBefore (nextToken rest) tokens ∧ AreLegible rest
  | .opening _ :: rest | .closing _ :: rest => AreLegible rest

/-- Groups built of legible lexemes are legible. -/
theorem legible_nest (all : List Lexeme) (outer : List (Delimiter × Tokens)) (read result : Tokens)
    (legible : AreLegible all) (around : ∀ level ∈ outer, Legible level.2.reverse)
    (before : LegibleBefore (nextToken all) read.reverse)
    (built : nest outer read all = some result) : Legible result := by
  fun_induction nest outer read all with
  | case1 outer read _ =>
    cases built
    exact before
  | case2 => cases built
  | case3 outer read delimiter rest ih =>
    have inside : LegibleBefore (nextToken rest) [].reverse := Token.LegibleBefore.mono
      Token.legible_nil _
    exact ih legible (List.forall_mem_cons.mpr ⟨before, around⟩) inside built
  | case4 read rest delimiter earlier outer ih =>
    obtain ⟨first, above⟩ := List.forall_mem_cons.mp around
    refine ih legible above (Token.LegibleBefore.mono ?_ _) built
    rw [List.reverse_cons]
    exact Token.Legible.append first ((Token.legible_group_iff _ _).mpr before)
  | case5 => cases built
  | case6 => cases built
  | case7 outer read tokens rest ih =>
    obtain ⟨filled, first, later⟩ := legible
    refine ih later around ?_ built
    obtain ⟨t, more, rfl⟩ := List.exists_cons_of_ne_nil filled
    rw [List.reverse_append, List.reverse_reverse]
    exact (legibleBefore_append_iff _ _ _).mpr ⟨before, first⟩

section Literals

variable {text rest : List Char}

theorem exists_of_floatScan (read : floatScan text = some rest) : ∃ front, text = front ++ rest := by
  cases text with
  | nil => cases read
  | cons c more =>
    rw [floatScan, Option.ite_none_right_eq_some] at read
    obtain ⟨middle, fraction, ended⟩ := Option.bind_eq_some_iff.mp read.2
    obtain ⟨suffix, _, _, rfl⟩ := exists_of_numberEnd _ _ ended
    obtain ⟨front, rfl, _⟩ := scansTo_of_fractionEnd _ _ _ fraction
    exact ⟨c :: front ++ suffix, by rw [List.cons_append, List.cons_append, List.append_assoc]⟩

theorem exists_of_integerScan (read : integerScan text = some rest) :
    ∃ front, text = front ++ rest := by
  obtain ⟨middle, digits, ended⟩ := Option.bind_eq_some_iff.mp read
  obtain ⟨suffix, _, _, rfl⟩ := exists_of_numberEnd _ _ ended
  obtain ⟨front, same, _⟩ := scansTo_of_digitsEnd _ _ _ _ digits
  rcases exists_radix text with ⟨c, whole, _⟩ | ten
  · exact ⟨'0' :: c :: front ++ suffix, by rw [whole, same]; simp⟩
  · rw [ten] at same
    exact ⟨front ++ suffix, by rw [List.append_assoc]; exact same⟩

/-- A literal is a part at the front of the text. -/
theorem exists_of_literalScan (read : literalScan text = some rest) :
    ∃ front, text = front ++ rest := by
  cases scanned_of_literalScan text rest read with
  | string mark kind raw form read =>
    obtain ⟨quoted, suffix, rfl, _⟩ := exists_of_stringScan _ _ read
    exact ⟨mark.toList ++ (quoted ++ suffix), by simp only [List.append_assoc]⟩
  | character mark kind form read =>
    obtain ⟨behind, marked, onward⟩ := Option.bind_eq_some_iff.mp read
    obtain ⟨unit, suffix, rfl, _⟩ := exists_of_quotedCharacter _ _ onward
    rw [exists_of_after mark _ _ marked]
    exact ⟨mark.toList ++ (unit ++ '\x27' :: suffix), by
      simp only [List.append_assoc, List.cons_append]⟩
  | fraction read => exact exists_of_floatScan read
  | integer _ read => exact exists_of_integerScan read

theorem isLiteral_quotedLiteral (value : String) : IsLiteral (Text.quotedLiteral value) := by
  have shape : (Text.quotedLiteral value).toList =
      '"' :: (Text.escapeLiteral value.toList ++ ['"']) := by
    simp [Text.quotedLiteral]
  have enough : value.toList.length <
      (Text.escapeLiteral value.toList ++ ['"']).length + 1 := by
    have written := Text.length_le_escapeLiteral value.toList
    rw [List.length_append]
    omega
  have read : Token.readString .text false (Text.quotedLiteral value).toList =
      some (value.toList, []) := by
    rw [shape]
    exact Token.readCooked_escapeLiteral value.toList [] _ enough
  obtain ⟨quoted, same, is⟩ := Token.exists_of_readString .text false _ _ _ read
  have noSuffix : Literal.isSuffix [] = true := rfl
  have scanned := stringScan_append "" is noSuffix endsName_nil
  simp only [List.append_nil] at same scanned
  rw [← same, shape] at scanned
  refine Or.inr ⟨[], ?_⟩
  rw [List.append_nil, shape]
  exact (literalScan_string "" .text false (by decide) '"' _ (Or.inl rfl)).trans scanned

end Literals

section Leaves

variable {text rest : List Char} {t : Token}

theorem of_literalToken (read : literalToken text = some (t, rest)) :
    ∃ front, t = .literal (String.ofList front) ∧ text = front ++ rest ∧
      literalScan text = some rest := by
  obtain ⟨behind, scanned, same⟩ := Option.map_eq_some_iff.mp read
  cases same
  obtain ⟨front, rfl⟩ := exists_of_literalScan scanned
  exact ⟨front, by rw [take_of_append], rfl, scanned⟩

theorem of_punctScan {c : Char} (read : punctScan text = some (c, rest)) :
    text = c :: rest ∧ c ∈ punctuation ∧ NoComment text := by
  cases text with
  | nil => cases read
  | cons d more =>
    rw [punctScan] at read
    rw [Option.ite_none_left_eq_some, Bool.or_eq_true, not_or, Bool.not_eq_true, Bool.not_eq_true,
      Option.ite_none_right_eq_some] at read
    obtain ⟨⟨line, block⟩, member, same⟩ := read
    cases same
    exact ⟨rfl, List.contains_iff_mem.mp member, line, block⟩

/-- What stands after the apostrophe of a lifetime. -/
structure IsLifetimeName (text : List Char) : Prop where
  named : ∃ name rest, nameScan text = some (name, rest) ∧ rest.head? ≠ some '\x27' ∧
    (rest.head? = some '#' → startsWith "r#" text = true)

theorem not_startsWith_head {mark : String} {c : Char} (is : mark.toList = [c])
    (no : startsWith mark text = false) : text.head? ≠ some c := by
  intro first
  obtain ⟨more, rfl⟩ := List.head?_eq_some_iff.mp first
  have begins : startsWith mark (c :: more) = true := by
    rw [startsWith_iff, is]
    exact List.prefix_append [c] more
  rw [begins] at no
  cases no

/-- A character is joint where another one comes next; an apostrophe stands before a name. -/
theorem of_punctToken (read : punctToken text = some (t, rest)) :
    ∃ c joint, t = .punct c joint ∧ text = c :: rest ∧ c ∈ punctuation ∧ NoComment text ∧
      (c = '\x27' → joint = true ∧ IsLifetimeName rest) ∧
      (joint = true → c ≠ '\x27' → (punctScan rest).isSome = true) := by
  obtain ⟨⟨c, behind⟩, scanned, onward⟩ := Option.bind_eq_some_iff.mp read
  obtain ⟨rfl, member, none⟩ := of_punctScan scanned
  dsimp only at onward
  split at onward
  · next apostrophe =>
    obtain ⟨⟨name, after⟩, found, closing⟩ := Option.bind_eq_some_iff.mp onward
    dsimp only at closing
    rw [Option.ite_none_left_eq_some, Bool.or_eq_true, not_or, Bool.not_eq_true, Bool.and_eq_true,
      Bool.not_eq_true', not_and, Bool.not_eq_false] at closing
    obtain ⟨⟨isOpen, hash⟩, same⟩ := closing
    cases same
    refine ⟨c, true, by rw [apostrophe], rfl, member, none, fun _ => ⟨rfl, name, after, found,
      not_startsWith_head rfl isOpen, fun first => hash ?_⟩, fun _ other => absurd apostrophe other⟩
    obtain ⟨more, rfl⟩ := List.head?_eq_some_iff.mp first
    rfl
  · next other =>
    cases onward
    exact ⟨c, _, rfl, rfl, member, none, fun is => absurd is other, fun joint _ => joint⟩

theorem of_nameToken (read : nameToken text = some (t, rest)) :
    ∃ name, t = .ident name ∧ Name.isUsable name = true := by
  unfold nameToken at read
  split at read
  · cases read
  · obtain ⟨⟨name, behind⟩, scanned, same⟩ := Option.bind_eq_some_iff.mp read
    cases same
    exact ⟨name, rfl, isUsable_of_nameScan text _ name scanned⟩

theorem of_errorToken (read : errorToken text = some (t, rest)) :
    t = .literal errorLiteral ∧ text.head? = some '(' := by
  obtain ⟨behind, found, same⟩ := Option.map_eq_some_iff.mp read
  cases same
  rw [exists_of_after errorLiteral text _ found]
  exact ⟨rfl, rfl⟩

/-- A leaf is legible by itself. -/
theorem isLegible_leaf (read : leaf text = some (t, rest)) : t.IsLegible := by
  unfold leaf at read
  rcases exists_of_orElse _ _ _ read with found | read
  · obtain ⟨front, rfl, rfl, scanned⟩ := of_literalToken found
    rw [Token.IsLegible]
    exact Or.inr ⟨rest, by rwa [String.toList_ofList]⟩
  rcases exists_of_orElse _ _ _ read with found | read
  · obtain ⟨c, joint, rfl, _, member, _⟩ := of_punctToken found
    rw [Token.IsLegible]
    exact member
  rcases exists_of_orElse _ _ _ read with found | found
  · obtain ⟨name, rfl, usable⟩ := of_nameToken found
    rw [Token.IsLegible]
    exact usable
  · obtain ⟨rfl, _⟩ := of_errorToken found
    rw [Token.IsLegible]
    exact Or.inl rfl

theorem exists_head_of_nameScan {name : String} (read : nameScan text = some (name, rest)) :
    ∃ c behind, text = c :: behind ∧ isIdentStart c = true := by
  unfold nameScan at read
  obtain ⟨behind, found, _⟩ := Option.bind_eq_some_iff.mp read
  by_cases marked : startsWith "r#" text = true
  · obtain ⟨more, rfl⟩ := (startsWith_iff "r#" text).mp marked
    exact ⟨'r', '#' :: more, rfl, by decide⟩
  · rw [after, if_neg marked, Option.getD_none] at found
    cases text with
    | nil => cases found
    | cons c more =>
      rw [word, Option.ite_none_right_eq_some] at found
      exact ⟨c, more, rfl, found.1⟩

/-- A quote or a hash directly behind a mark is no end of a name there. -/
theorem not_isLifetimeName (mark : List Char) (quote : Char) (behind : List Char)
    (named : isIdentText mark = true) (unmarked : startsWith "r#" (mark ++ quote :: behind) = false)
    (is : quote = '\x27' ∨ quote = '#') : ¬ IsLifetimeName (mark ++ quote :: behind) := by
  rintro ⟨name, rest, scanned, noQuote, hash⟩
  have ends : EndsName (quote :: behind) := by
    rintro c ⟨⟩
    rcases is with rfl | rfl <;> rfl
  cases scanned.symm.trans (nameScan_of_unmarked mark _ named ends unmarked)
  rcases is with rfl | rfl
  · exact noQuote rfl
  · rw [hash rfl] at unmarked
    cases unmarked

/-- Behind the mark of a raw name comes no further hash, and no quote. -/
theorem not_isLifetimeName_raw (c : Char) (behind : List Char) (is : c = '#' ∨ c = '"') :
    ¬ IsLifetimeName ('r' :: '#' :: c :: behind) := by
  rintro ⟨name, rest, scanned, _⟩
  have noWord : word (c :: behind) = none := by rcases is with rfl | rfl <;> rfl
  unfold nameScan at scanned
  change ((word (c :: behind)).bind _) = _ at scanned
  rw [noWord] at scanned
  cases scanned

theorem startsName_string (mark : String) (kind : StringKind) (raw : Bool)
    (form : (mark, kind, raw) ∈ stringForms) (names : IsLifetimeName text) (front : List Char)
    (parts : text = front ++ rest) (read : stringScan mark kind raw text = some rest) :
    ∃ name more, isIdentText name = true ∧ front = name ++ '"' :: more := by
  have forms : ∀ form ∈ stringForms, form.1.toList = [] ∨ isIdentText form.1.toList = true := by
    decide
  obtain ⟨quoted, suffix, whole, is, _⟩ := exists_of_stringScan _ _ read
  have same : front = mark.toList ++ (quoted ++ suffix) := by
    rw [parts] at whole
    simp only [← List.append_assoc] at whole
    rw [List.append_cancel_right whole, List.append_assoc]
  obtain ⟨_, _, scanned, _⟩ := names.named
  obtain ⟨c, behind, begins, start⟩ := exists_head_of_nameScan scanned
  have named : isIdentText mark.toList = true := by
    rcases forms _ form with unmarked | named
    · obtain ⟨d, more, rfl, opens⟩ := is.begins
      rw [unmarked, begins] at whole
      obtain ⟨rfl, _⟩ := List.cons.inj whole
      rcases opens with rfl | ⟨_, rfl⟩ <;> cases start
    · exact named
  cases is with
  | cooked body shape => exact ⟨mark.toList, body ++ suffix, named, same⟩
  | raw hashes body alike short shape =>
    cases hashes with
    | nil => exact ⟨mark.toList, body ++ suffix, named, same⟩
    | cons d more =>
      obtain rfl := alike d List.mem_cons_self
      -- With hashes before its quote, the string does not begin with a whole name.
      exfalso
      rw [List.cons_append, List.cons_append] at whole
      rw [whole] at names
      simp only [stringForms, List.mem_cons, Prod.mk.injEq, List.not_mem_nil, or_false,
        Bool.true_eq_false, and_false, and_true, false_or] at form
      rcases form with ⟨rfl, _⟩ | ⟨rfl, _⟩ | ⟨rfl, _⟩
      · cases more with
        | nil => exact not_isLifetimeName_raw '"' _ (Or.inr rfl) names
        | cons e others =>
          exact not_isLifetimeName_raw e _
            (Or.inl (alike e (List.mem_cons_of_mem _ List.mem_cons_self))) names
      · exact not_isLifetimeName "br".toList '#' _ named rfl (Or.inr rfl) names
      · exact not_isLifetimeName "cr".toList '#' _ named rfl (Or.inr rfl) names

/-- A literal behind an apostrophe starts with the name of the lifetime. -/
theorem startsName_literal (names : IsLifetimeName text) (front : List Char)
    (parts : text = front ++ rest) (read : literalScan text = some rest) :
    (Token.literal (String.ofList front)).StartsName := by
  obtain ⟨_, _, scanned, _⟩ := names.named
  obtain ⟨c, behind, begins, start⟩ := exists_head_of_nameScan scanned
  have noDigit : ¬ c.isDigit = true := by
    rw [isDigit_of_isIdentStart c start]
    exact Bool.false_ne_true
  cases scanned_of_literalScan text rest read with
  | string mark kind raw form read =>
    obtain ⟨name, more, named, is⟩ := startsName_string mark kind raw form names front parts read
    exact ⟨name, more, named, by rw [String.toList_ofList, is]⟩
  | character mark kind form read =>
    exfalso
    obtain ⟨after, marked, _⟩ := Option.bind_eq_some_iff.mp read
    have is := exists_of_after _ _ _ marked
    simp only [characterForms, List.mem_cons, Prod.mk.injEq, List.not_mem_nil, or_false] at form
    rcases form with ⟨rfl, _⟩ | ⟨rfl, _⟩
    · rw [is] at names
      exact not_isLifetimeName ['b'] '\x27' after rfl rfl (Or.inl rfl) names
    · rw [begins] at is
      obtain ⟨rfl, _⟩ := List.cons.inj is
      cases start
  | fraction read =>
    rw [begins, floatScan, Option.ite_none_right_eq_some] at read
    exact absurd read.1 noDigit
  | integer _ read =>
    obtain ⟨d, first, digit⟩ := exists_digit_of_integerScan _ read
    rw [begins] at first
    cases first
    exact absurd digit noDigit

/-- Where a name is read that is not followed by a quote or a hash, the lexeme starts with it. -/
theorem startsName_leaf (names : IsLifetimeName text) (read : leaf text = some (t, rest)) :
    t.StartsName := by
  obtain ⟨_, _, scanned, _⟩ := names.named
  obtain ⟨c, behind, begins, start⟩ := exists_head_of_nameScan scanned
  unfold leaf at read
  rcases exists_of_orElse _ _ _ read with found | read
  · obtain ⟨front, rfl, parts, scan⟩ := of_literalToken found
    exact startsName_literal names front parts scan
  rcases exists_of_orElse _ _ _ read with found | read
  · obtain ⟨d, _, _, is, member, _⟩ := of_punctToken found
    rw [begins] at is
    obtain ⟨rfl, _⟩ := List.cons.inj is
    exact absurd member (not_mem_of_isIdentStart start (by decide))
  rcases exists_of_orElse _ _ _ read with found | found
  · obtain ⟨name, rfl, _⟩ := of_nameToken found
    trivial
  · obtain ⟨_, first⟩ := of_errorToken found
    rw [begins] at first
    cases first
    cases start

/-- A leaf where a character comes next is that character, or keeps a slash as it is. -/
theorem keepsSlash_leaf {c : Char} (first : text.head? = some c) (other : c ≠ '/' ∧ c ≠ '*')
    (read : leaf text = some (t, rest)) : t.KeepsSlash := by
  unfold leaf at read
  rcases exists_of_orElse _ _ _ read with found | read
  · obtain ⟨_, rfl, _⟩ := of_literalToken found
    trivial
  rcases exists_of_orElse _ _ _ read with found | read
  · obtain ⟨d, joint, rfl, rfl, _⟩ := of_punctToken found
    cases first
    exact other
  rcases exists_of_orElse _ _ _ read with found | found
  · obtain ⟨name, rfl, _⟩ := of_nameToken found
    trivial
  · obtain ⟨rfl, _⟩ := of_errorToken found
    trivial

/-- Only the scan for characters reads a character. -/
theorem punctToken_of_leaf {c : Char} {joint : Bool}
    (read : leaf text = some (.punct c joint, rest)) :
    punctToken text = some (.punct c joint, rest) := by
  unfold leaf at read
  rcases exists_of_orElse _ _ _ read with found | read
  · obtain ⟨_, impossible, _⟩ := of_literalToken found
    cases impossible
  rcases exists_of_orElse _ _ _ read with found | read
  · exact found
  rcases exists_of_orElse _ _ _ read with found | found
  · obtain ⟨_, impossible, _⟩ := of_nameToken found
    cases impossible
  · obtain ⟨impossible, _⟩ := of_errorToken found
    cases impossible

end Leaves

section Lexemes

/-- Where neither a comment, a group nor documentation begins, the first lexeme is a leaf. -/
theorem exists_leaf_of_lexemes (fuel : Nat) (c : Char) (behind : List Char)
    (visible : isBlank c = false) (none : NoComment (c :: behind))
    (noBracket : c ∉ "([\x7b)]\x7d".toList) (all : List Lexeme)
    (read : lexemes fuel (c :: behind) = some all) :
    ∃ t rest, nextToken all = some t ∧ leaf (c :: behind) = some (t, rest) := by
  cases fuel with
  | zero => cases read
  | succ fuel =>
    have solid : skipTrivia (c :: behind).length (c :: behind) = c :: behind :=
      none.skipTrivia_eq (by rintro _ ⟨⟩; exact visible) _
    rw [lexemes, solid] at read
    dsimp only at read
    rw [none.lexeme_eq (bracketLexeme_eq_none c behind noBracket)] at read
    split at read
    · next first rest found =>
      obtain ⟨later, _, rfl⟩ := Option.map_eq_some_iff.mp read
      obtain ⟨⟨t, after⟩, found, same⟩ := Option.map_eq_some_iff.mp found
      cases same
      exact ⟨t, rest, rfl, found⟩
    · cases read

/-- A leaf fits before the lexemes that are read behind it. -/
theorem fitsBefore_leaf (text rest : List Char) (t : Token) (found : leaf text = some (t, rest))
    (fuel : Nat) (later : List Lexeme) (onward : lexemes fuel rest = some later) :
    t.FitsBefore (nextToken later) := by
  cases t with
  | ident | literal | group => trivial
  | punct c joint =>
    obtain ⟨_, _, same, rfl, member, none, apostrophe, joined⟩ :=
      of_punctToken (punctToken_of_leaf found)
    cases same
    constructor
    · intro is
      obtain ⟨isJoint, names⟩ := apostrophe is
      obtain ⟨_, _, scanned, _⟩ := names.named
      obtain ⟨d, behind, rfl, start⟩ := exists_head_of_nameScan scanned
      have free := noComment_cons d behind (Text.ne_of_isIdentStart d '/' start (by decide))
      obtain ⟨t, after, next, read⟩ := exists_leaf_of_lexemes fuel d behind
        (isBlank_of_isIdentStart d start) free (not_mem_of_isIdentStart start (by decide))
        later onward
      exact ⟨isJoint, t, next, startsName_leaf names read⟩
    · rintro rfl isJoint
      obtain ⟨⟨d, behind⟩, scanned⟩ := Option.isSome_iff_exists.mp (joined isJoint (by decide))
      obtain ⟨rfl, memberNext, free⟩ := of_punctScan scanned
      obtain ⟨_, _, _, noBracket⟩ := of_mem_punctuation d memberNext
      have visible : ∀ d ∈ punctuation, isBlank d = false :=
        List.all_iff_forall_prop.mp (by decide +kernel)
      obtain ⟨t, after, next, read⟩ := exists_leaf_of_lexemes fuel d behind
        (visible d memberNext) free noBracket later onward
      refine ⟨t, next, keepsSlash_leaf rfl ⟨?_, ?_⟩ read⟩
      · rintro rfl
        cases none.line
      · rintro rfl
        cases none.block

theorem legibleBefore_docTokens (inner : Bool) (comment : List Char) (next : Option Token) :
    LegibleBefore next (docTokens inner comment) := by
  have literal := isLiteral_quotedLiteral (String.ofList comment)
  have usable : Name.isUsable "doc" = true := by decide +kernel
  have signs : '#' ∈ punctuation ∧ '!' ∈ punctuation ∧ '=' ∈ punctuation := by decide
  unfold docTokens
  cases inner <;>
    simp [LegibleBefore, Token.IsLegible, Token.FitsBefore, Token.bracket, literal, usable, signs]

/-- What is read as lexemes is legible, each before the next one. -/
theorem areLegible_lexemes (fuel : Nat) (text : List Char) (all : List Lexeme)
    (found : lexemes fuel text = some all) : AreLegible all := by
  induction fuel generalizing text all with
  | zero => cases found
  | succ fuel ih =>
    unfold lexemes at found
    split at found
    · cases found
      trivial
    · split at found
      · next first rest read =>
        obtain ⟨later, onward, rfl⟩ := Option.map_eq_some_iff.mp found
        have behind := ih _ _ onward
        unfold lexeme at read
        split at read
        · cases read
          refine ⟨?_, legibleBefore_docTokens _ _ _, behind⟩
          rw [docTokens]
          exact List.cons_ne_nil _ _
        · rcases exists_of_orElse _ _ _ read with bracket | leafRead
          · cases first with
            | opening | closing => exact behind
            | leaves tokens =>
              unfold bracketLexeme at bracket
              split at bracket
              · split at bracket <;> cases bracket
              all_goals cases bracket
          · obtain ⟨⟨t, after⟩, scanned, same⟩ := Option.map_eq_some_iff.mp leafRead
            cases same
            refine ⟨List.cons_ne_nil _ _, ?_, behind⟩
            rw [LegibleBefore, LegibleBefore]
            exact ⟨isLegible_leaf scanned, fitsBefore_leaf _ _ t scanned fuel later onward, trivial⟩
      · cases found

/-- What the lexer reads of a text is legible. -/
theorem legible_tokens? (text : String) (tokens : Tokens) (read : tokens? text = some tokens) :
    Legible tokens := by
  obtain ⟨all, scanned, built⟩ := Option.bind_eq_some_iff.mp read
  exact legible_nest all [] [] tokens (areLegible_lexemes _ _ all scanned) nofun
    (Token.LegibleBefore.mono Token.legible_nil _) built

end Lexemes

end ClassExpansion.Lexer
