import ClassExpansion.Proofs.GluedLiterals

set_option autoImplicit false

/- One lexeme at the start of a text: names, characters, lifetimes, literals and the ends of groups
are found there whatever comes after them, as long as it stops them. -/
namespace ClassExpansion.Lexer

open Text (isIdentStart isIdentContinue isIdentText)
open TypeText (glue Stops gluesLeft gluesRight)
open Token (StringKind IsQuoted)

/-- No comment begins here. -/
structure NoComment (text : List Char) : Prop where
  line : startsWith "//" text = false
  block : startsWith "/*" text = false

theorem noComment_cons (c : Char) (rest : List Char) (other : c ≠ '/') : NoComment (c :: rest) :=
  ⟨not_startsWith_of_ne "//" c '/' ['/'] rest rfl other,
    not_startsWith_of_ne "/*" c '/' ['*'] rest rfl other⟩

theorem not_startsWith_of_begins (short long : String) {text : List Char}
    (no : startsWith short text = false) (begins : short.toList <+: long.toList) :
    startsWith long text = false := by
  rw [← Bool.not_eq_true, startsWith_iff] at no ⊢
  exact fun longer => no (begins.trans longer)

section NoComment

variable {text : List Char} (none : NoComment text)
include none

theorem NoComment.docComment_eq : docComment text = Option.none := by
  unfold docComment
  rw [not_startsWith_of_begins "//" "//!" none.line (by decide),
    not_startsWith_of_begins "/*" "/*!" none.block (by decide),
    not_startsWith_of_begins "//" "///" none.line (by decide),
    not_startsWith_of_begins "/*" "/**" none.block (by decide)]
  rfl

theorem NoComment.skipTrivia_eq (visible : ∀ c ∈ text.head?, isBlank c = false) (fuel : Nat) :
    skipTrivia fuel text = text := by
  have noLine : isPlainLineComment text = false := by
    rw [isPlainLineComment, none.line]
    rfl
  have noBlock : isPlainBlockComment text = false := by
    rw [isPlainBlockComment, none.block,
      not_startsWith_of_begins "/*" "/**/" none.block (by decide)]
    rfl
  cases fuel with
  | zero => rfl
  | succ fuel =>
    unfold skipTrivia
    rw [noLine, noBlock, if_neg Bool.false_ne_true, if_neg Bool.false_ne_true]
    cases text with
    | nil => rfl
    | cons c rest =>
      dsimp only
      rw [visible c rfl, if_neg Bool.false_ne_true]

theorem NoComment.lexeme_eq (noBracket : bracketLexeme text = Option.none) :
    lexeme text = (leaf text).map fun (t, rest) => (.leaves [t], rest) := by
  rw [lexeme, none.docComment_eq, noBracket]
  rfl

end NoComment

/-- A quote comes behind nothing but characters of a name, as it does at the start of a literal. -/
def OpensQuote (text : List Char) : Prop :=
  ∃ mark quote more, (∀ c ∈ mark, isIdentContinue c = true) ∧ text = mark ++ quote :: more ∧
    (quote = '"' ∨ quote = '\x27' ∨
      quote = '#' ∧ mark ≠ [] ∧ (mark = ['r'] → ∃ d ∈ more.head?, d = '#' ∨ d = '"'))

theorem opensQuote_of_stringScan (mark : String) (kind : StringKind) (raw : Bool)
    (form : (mark, kind, raw) ∈ stringForms) (text rest : List Char)
    (read : stringScan mark kind raw text = some rest) : OpensQuote text := by
  have forms : ∀ form ∈ stringForms, form.1.toList.all isIdentContinue = true ∧
      (form.2.2 = true → form.1.toList ≠ []) := List.all_iff_forall_prop.mp (by decide)
  obtain ⟨allInName, marked⟩ := forms _ form
  have inName := List.all_eq_true.mp allInName
  obtain ⟨quoted, suffix, rfl, is, _⟩ := exists_of_stringScan _ _ read
  cases is with
  | cooked body shape =>
    exact ⟨mark.toList, '"', body ++ (suffix ++ rest), inName, rfl, Or.inl rfl⟩
  | raw hashes body alike short shape =>
    cases hashes with
    | nil => exact ⟨mark.toList, '"', body ++ (suffix ++ rest), inName, rfl, Or.inl rfl⟩
    | cons c more =>
      refine ⟨mark.toList, c, more ++ '"' :: body ++ (suffix ++ rest), inName, rfl,
        Or.inr (Or.inr ⟨alike c List.mem_cons_self, marked rfl, fun _ => ?_⟩)⟩
      cases more with
      | nil => exact ⟨'"', rfl, Or.inr rfl⟩
      | cons d behind =>
        exact ⟨d, rfl, Or.inl (alike d (List.mem_cons_of_mem c List.mem_cons_self))⟩

theorem opensQuote_of_characterScan (mark : String) (kind : StringKind)
    (form : (mark, kind) ∈ characterForms) (text rest : List Char)
    (read : characterScan mark kind text = some rest) : OpensQuote text := by
  have forms : ∀ form ∈ characterForms, form.1.toList = form.1.toList.dropLast ++ ['\x27'] ∧
      form.1.toList.dropLast.all isIdentContinue = true := List.all_iff_forall_prop.mp (by decide)
  obtain ⟨is, inName⟩ := forms _ form
  obtain ⟨behind, marked, _⟩ := Option.bind_eq_some_iff.mp read
  have same := exists_of_after mark _ _ marked
  rw [is, List.append_assoc] at same
  exact ⟨_, '\x27', behind, List.all_eq_true.mp inName, same, Or.inr (Or.inl rfl)⟩

/-- A literal begins with a digit or with a quote behind a mark. -/
theorem opens_of_literalScan (text rest : List Char) (read : literalScan text = some rest) :
    (∃ c ∈ text.head?, c.isDigit = true) ∨ OpensQuote text := by
  cases scanned_of_literalScan text rest read with
  | string mark kind raw form read =>
    exact Or.inr (opensQuote_of_stringScan mark kind raw form text rest read)
  | character mark kind form read =>
    exact Or.inr (opensQuote_of_characterScan mark kind form text rest read)
  | fraction read =>
    cases text with
    | nil => cases read
    | cons c more =>
      rw [floatScan, Option.ite_none_right_eq_some] at read
      exact Or.inl ⟨c, rfl, read.1⟩
  | integer _ read => exact Or.inl (exists_digit_of_integerScan _ read)

theorem literalScan_eq_none (text : List Char) (noDigit : ∀ c ∈ text.head?, c.isDigit = false)
    (unquoted : ¬ OpensQuote text) : literalScan text = none := by
  rw [Option.eq_none_iff_forall_ne_some]
  intro rest read
  rcases opens_of_literalScan text rest read with ⟨c, first, digit⟩ | quote
  · rw [noDigit c first] at digit
    cases digit
  · exact unquoted quote

theorem opensQuote_of_literalStarts (text : List Char)
    (begins : literalStarts.any (startsWith · text) = true) : OpensQuote text := by
  have mark {front : List Char} (all : front.all isIdentContinue = true) :
      ∀ c ∈ front, isIdentContinue c = true := List.all_eq_true.mp all
  obtain ⟨start, member, begins⟩ := List.any_eq_true.mp begins
  obtain ⟨more, rfl⟩ := (startsWith_iff start text).mp begins
  simp only [literalStarts, List.mem_cons, List.not_mem_nil, or_false] at member
  rcases member with rfl | rfl | rfl | rfl | rfl | rfl | rfl | rfl | rfl | rfl
  · exact ⟨['r'], '"', more, mark (by decide), rfl, Or.inl rfl⟩
  · exact ⟨['r'], '#', '"' :: more, mark (by decide), rfl,
      Or.inr (Or.inr ⟨rfl, by decide, fun _ => ⟨'"', rfl, Or.inr rfl⟩⟩)⟩
  · exact ⟨['r'], '#', '#' :: more, mark (by decide), rfl,
      Or.inr (Or.inr ⟨rfl, by decide, fun _ => ⟨'#', rfl, Or.inl rfl⟩⟩)⟩
  · exact ⟨['b'], '"', more, mark (by decide), rfl, Or.inl rfl⟩
  · exact ⟨['b'], '\x27', more, mark (by decide), rfl, Or.inr (Or.inl rfl)⟩
  · exact ⟨['b', 'r'], '"', more, mark (by decide), rfl, Or.inl rfl⟩
  · exact ⟨['b', 'r'], '#', more, mark (by decide), rfl, Or.inr (Or.inr ⟨rfl, List.cons_ne_nil _ _, nofun⟩)⟩
  · exact ⟨['c'], '"', more, mark (by decide), rfl, Or.inl rfl⟩
  · exact ⟨['c', 'r'], '"', more, mark (by decide), rfl, Or.inl rfl⟩
  · exact ⟨['c', 'r'], '#', more, mark (by decide), rfl, Or.inr (Or.inr ⟨rfl, List.cons_ne_nil _ _, nofun⟩)⟩

section Names

/-- No quote and no hash comes next. -/
def IsUnquoted (text : List Char) : Prop := ∀ c ∈ text.head?, c ≠ '"' ∧ c ≠ '\x27' ∧ c ≠ '#'

theorem isUnquoted_of_stops {text : List Char} (stops : Stops text) : IsUnquoted text := by
  intro c first
  have all := stops_all (fun c => c ≠ '"' && c ≠ '\x27' && c ≠ '#') (by decide) stops c
    first
  simpa only [Bool.and_eq_true, decide_eq_true_eq, and_assoc] using all

/-- A name that can be used is one of its own, or a raw one. -/
theorem cases_of_isUsable (name : String) (usable : Name.isUsable name = true) :
    isIdentText name.toList = true ∨ ∃ body, name.toList = 'r' :: '#' :: body ∧
      isIdentText body = true ∧ unrawable.contains (String.ofList body) = false := by
  unfold Name.isUsable at usable
  split at usable
  · next body is =>
    rw [Bool.and_eq_true, Bool.not_eq_true'] at usable
    exact Or.inr ⟨body, is, usable⟩
  · exact Or.inl usable

theorem exists_head_of_isUsable (name : String) (usable : Name.isUsable name = true) :
    ∃ c rest, name.toList = c :: rest ∧ isIdentStart c = true := by
  rcases cases_of_isUsable name usable with named | ⟨body, is, _⟩
  · obtain ⟨⟨c, first, start⟩, _⟩ := (Text.isIdentText_iff _).mp named
    obtain ⟨rest, same⟩ := List.head?_eq_some_iff.mp first
    exact ⟨c, rest, same, start⟩
  · exact ⟨'r', '#' :: body, is, by decide⟩

theorem isQuote_not_continues {quote : Char} (is : quote = '"' ∨ quote = '\x27' ∨ quote = '#') :
    isIdentContinue quote = false := by
  rcases is with rfl | rfl | rfl <;> rfl

theorem not_opensQuote_of_isIdentText (name behind : List Char) (named : isIdentText name = true)
    (ends : EndsName behind) (unquoted : IsUnquoted behind) : ¬ OpensQuote (name ++ behind) := by
  rintro ⟨mark, quote, more, inName, same, kind⟩
  have isQuote : quote = '"' ∨ quote = '\x27' ∨ quote = '#' :=
    kind.imp id (Or.imp id And.left)
  have begins : mark <+: name ++ behind := same ▸ List.prefix_append _ _
  obtain ⟨left, rfl⟩ := prefix_of_prefix_append inName ends begins
  rw [List.append_assoc] at same
  have onward := List.append_cancel_left same
  cases left with
  | cons c letters =>
    cases onward
    have continues := ((Text.isIdentText_iff _).mp named).2 quote
      (List.mem_append_right mark List.mem_cons_self)
    rw [isQuote_not_continues isQuote] at continues
    cases continues
  | nil =>
    have free := unquoted quote (by rw [← List.nil_append behind, onward]; rfl)
    rcases isQuote with rfl | rfl | rfl
    · exact free.1 rfl
    · exact free.2.1 rfl
    · exact free.2.2 rfl

theorem not_opensQuote_of_raw (body behind : List Char) (named : isIdentText body = true) :
    ¬ OpensQuote ('r' :: '#' :: (body ++ behind)) := by
  obtain ⟨⟨c, first, start⟩, _⟩ := (Text.isIdentText_iff _).mp named
  obtain ⟨rest, rfl⟩ := List.head?_eq_some_iff.mp first
  rintro ⟨mark, quote, more, inName, same, kind⟩
  cases mark with
  | nil =>
    cases same
    rcases kind with impossible | impossible | ⟨impossible, _⟩ <;> cases impossible
  | cons d letters =>
    obtain ⟨rfl, inner⟩ := List.cons.inj same
    cases letters with
    | cons e others =>
      obtain ⟨rfl, _⟩ := List.cons.inj inner
      cases inName '#' (List.mem_cons_of_mem _ List.mem_cons_self)
    | nil =>
      obtain ⟨rfl, rfl⟩ := List.cons.inj inner
      rcases kind with impossible | impossible | ⟨_, _, onward⟩
      · cases impossible
      · cases impossible
      · obtain ⟨d, next, is⟩ := onward rfl
        cases next
        rcases is with rfl | rfl <;> cases start

theorem not_opensQuote_of_isUsable (name : String) (usable : Name.isUsable name = true)
    (behind : List Char) (stops : Stops behind) : ¬ OpensQuote (name.toList ++ behind) := by
  rcases cases_of_isUsable name usable with named | ⟨body, is, named, _⟩
  · exact not_opensQuote_of_isIdentText _ behind named (endsName_of_stops stops)
      (isUnquoted_of_stops stops)
  · rw [is]
    exact not_opensQuote_of_raw body behind named

theorem word_append (name behind : List Char) (named : isIdentText name = true)
    (ends : EndsName behind) : word (name ++ behind) = some behind := by
  obtain ⟨⟨c, first, start⟩, _⟩ := (Text.isIdentText_iff _).mp named
  obtain ⟨rest, rfl⟩ := List.head?_eq_some_iff.mp first
  have suffix := optionalSuffix_append (c :: rest) behind named ends
  rw [List.cons_append, optionalSuffix, word_cons c _ start] at suffix
  rw [List.cons_append, word_cons c _ start]
  exact congrArg some suffix

theorem nameScan_of_unmarked (name behind : List Char) (named : isIdentText name = true)
    (ends : EndsName behind) (unmarked : startsWith "r#" (name ++ behind) = false) :
    nameScan (name ++ behind) = some (String.ofList name, behind) := by
  unfold nameScan
  rw [after, unmarked, if_neg Bool.false_ne_true, Option.getD_none]
  simp only [word_append name behind named ends, Option.bind_eq_bind, Option.bind_some,
    take_of_append, Bool.false_eq_true, if_false]

/-- A name that is not raw is read up to where it ends, if no hash comes there. -/
theorem nameScan_append_of_isIdentText (name behind : List Char) (named : isIdentText name = true)
    (ends : EndsName behind) (noHash : behind.head? ≠ some '#') :
    nameScan (name ++ behind) = some (String.ofList name, behind) := by
  refine nameScan_of_unmarked name behind named ends ?_
  rw [← Bool.not_eq_true, startsWith_iff]
  intro begins
  have inName := ((Text.isIdentText_iff _).mp named).2
  obtain ⟨⟨c, first, start⟩, _⟩ := (Text.isIdentText_iff _).mp named
  obtain ⟨rest, rfl⟩ := List.head?_eq_some_iff.mp first
  obtain ⟨is, second⟩ := List.cons_prefix_cons.mp begins
  cases rest with
  | nil =>
    obtain ⟨more, rfl⟩ := second
    exact noHash rfl
  | cons d letters =>
    obtain ⟨rfl, _⟩ := List.cons_prefix_cons.mp second
    cases inName '#' (List.mem_cons_of_mem _ List.mem_cons_self)

theorem nameScan_append_of_raw (body behind : List Char) (named : isIdentText body = true)
    (allowed : unrawable.contains (String.ofList body) = false) (ends : EndsName behind) :
    nameScan ('r' :: '#' :: (body ++ behind)) = some ("r#" ++ String.ofList body, behind) := by
  have marked : startsWith "r#" ('r' :: '#' :: (body ++ behind)) = true := rfl
  have inner : after "r#" ('r' :: '#' :: (body ++ behind)) = some (body ++ behind) := rfl
  unfold nameScan
  rw [inner, Option.getD_some, marked]
  simp only [word_append body behind named ends, Option.bind_eq_bind, Option.bind_some,
    take_of_append, allowed, Bool.false_eq_true, if_false, if_true]

theorem nameScan_append (name : String) (usable : Name.isUsable name = true)
    (behind : List Char) (ends : EndsName behind) (noHash : behind.head? ≠ some '#') :
    nameScan (name.toList ++ behind) = some (name, behind) := by
  rcases cases_of_isUsable name usable with named | ⟨body, is, named, allowed⟩
  · rw [nameScan_append_of_isIdentText _ behind named ends noHash, String.ofList_toList]
  · have same : "r#" ++ String.ofList body = name := by
      apply String.toList_injective
      rw [is]
      simp only [String.toList_append, String.toList_ofList]
      rfl
    rw [is, ← same]
    exact nameScan_append_of_raw body behind named allowed ends

theorem bracketLexeme_eq_none (c : Char) (rest : List Char)
    (other : c ∉ "([\x7b)]\x7d".toList) : bracketLexeme (c :: rest) = none := by
  unfold bracketLexeme
  split
  case h_7 => rfl
  all_goals
    next is =>
      cases is
      exact absurd (by decide) other

theorem not_mem_of_isIdentStart {c : Char} {chars : List Char} (start : isIdentStart c = true)
    (others : chars.any isIdentStart = false) : c ∉ chars := by
  intro member
  exact absurd start (List.any_eq_false.mp others c member)

theorem punctToken_eq_none (c : Char) (rest : List Char) (other : c ∉ punctuation) :
    punctToken (c :: rest) = none := by
  have noSign : punctuation.contains c = false := by
    rw [← Bool.not_eq_true, List.contains_iff_mem]
    exact other
  have none : punctScan (c :: rest) = none := by
    unfold punctScan
    dsimp only
    rw [noSign, if_neg Bool.false_ne_true, ite_self]
  rw [punctToken, none]
  rfl

theorem nameToken_append (name : String) (usable : Name.isUsable name = true)
    (behind : List Char) (stops : Stops behind) :
    nameToken (name.toList ++ behind) = some (.ident name, behind) := by
  have unquoted := not_opensQuote_of_isUsable name usable behind stops
  have noHash : behind.head? ≠ some '#' := fun first => (isUnquoted_of_stops stops '#' first).2.2 rfl
  unfold nameToken
  rw [if_neg fun begins => unquoted (opensQuote_of_literalStarts _ begins),
    nameScan_append name usable behind (endsName_of_stops stops) noHash]
  rfl

theorem lexeme_name (name : String) (usable : Name.isUsable name = true) (behind : List Char)
    (stops : Stops behind) :
    lexeme (name.toList ++ behind) = some (.leaves [.ident name], behind) := by
  have unquoted := not_opensQuote_of_isUsable name usable behind stops
  have read := nameToken_append name usable behind stops
  obtain ⟨c, rest, is, start⟩ := exists_head_of_isUsable name usable
  rw [is, List.cons_append] at unquoted read ⊢
  have noLiteral : literalToken (c :: (rest ++ behind)) = none := by
    rw [literalToken, literalScan_eq_none _ _ unquoted]
    · rfl
    · rintro d ⟨⟩
      exact isDigit_of_isIdentStart c start
  have noBracket := bracketLexeme_eq_none c (rest ++ behind)
    (not_mem_of_isIdentStart start (by decide))
  have noPunct := punctToken_eq_none c (rest ++ behind)
    (not_mem_of_isIdentStart start (by decide))
  have other : c ≠ '/' := Text.ne_of_isIdentStart c '/' start (by decide)
  rw [(noComment_cons c _ other).lexeme_eq noBracket, leaf, noLiteral, noPunct, read]
  rfl

end Names

section Signs

theorem punctScan_cons (c : Char) (rest : List Char) (member : c ∈ punctuation)
    (none : NoComment (c :: rest)) : punctScan (c :: rest) = some (c, rest) := by
  rw [punctScan, none.line, none.block, List.contains_iff_mem.mpr member]
  rfl

theorem of_mem_punctuation (c : Char) (member : c ∈ punctuation) :
    isIdentContinue c = false ∧ c ≠ '"' ∧ c.isDigit = false ∧ c ∉ "([\x7b)]\x7d".toList := by
  have each : ∀ d ∈ punctuation, isIdentContinue d = false ∧ d ≠ '"' ∧ d.isDigit = false ∧
      d ∉ "([\x7b)]\x7d".toList := List.all_iff_forall_prop.mp (by decide +kernel)
  exact each c member

theorem not_opensQuote_of_mem_punctuation (c : Char) (rest : List Char) (member : c ∈ punctuation)
    (other : c ≠ '\x27') : ¬ OpensQuote (c :: rest) := by
  obtain ⟨outside, notQuote, _⟩ := of_mem_punctuation c member
  rintro ⟨mark, quote, more, inName, same, kind⟩
  cases mark with
  | nil =>
    obtain ⟨rfl, _⟩ := List.cons.inj same
    rcases kind with is | is | ⟨_, marked, _⟩
    · exact notQuote is
    · exact other is
    · exact marked rfl
  | cons d letters =>
    obtain ⟨rfl, _⟩ := List.cons.inj same
    rw [inName c List.mem_cons_self] at outside
    cases outside

/-- A character is joint exactly if another one comes next. -/
theorem lexeme_punct (c : Char) (rest : List Char) (member : c ∈ punctuation) (other : c ≠ '\x27')
    (none : NoComment (c :: rest)) :
    lexeme (c :: rest) = some (.leaves [.punct c (punctScan rest).isSome], rest) := by
  obtain ⟨_, _, noDigit, visible⟩ := of_mem_punctuation c member
  have noLiteral : literalToken (c :: rest) = Option.none := by
    rw [literalToken, literalScan_eq_none _ _ (not_opensQuote_of_mem_punctuation c rest member other)]
    · rfl
    · rintro d ⟨⟩
      exact noDigit
  have read : punctToken (c :: rest) = some (.punct c (punctScan rest).isSome, rest) := by
    rw [punctToken, punctScan_cons c rest member none]
    exact if_neg other
  rw [none.lexeme_eq (bracketLexeme_eq_none c rest visible), leaf, noLiteral, read]
  rfl

/-- An apostrophe before a name is one of a lifetime, unless a second one closes a character. -/
theorem lexeme_apostrophe (text rest : List Char) (name : String)
    (scanned : nameScan text = some (name, rest))
    (plain : ∃ c behind, text = c :: behind ∧ c ≠ '\\' ∧ behind.head? ≠ some '\x27')
    (unquoted : rest.head? ≠ some '\x27' ∧ rest.head? ≠ some '#') :
    lexeme ('\x27' :: text) = some (.leaves [.punct '\x27' true], text) := by
  obtain ⟨c, behind, rfl, visible, isOpen⟩ := plain
  have noLiteral : literalToken ('\x27' :: c :: behind) = Option.none := by
    have scan := literalScan_character "\x27" .text (by decide) (c :: behind)
    have inner : unitEnd .text (c :: behind) = some behind :=
      unitEnd_append (.plain c visible rfl) behind
    have stays : closingApostrophe behind = Option.none := by
      unfold closingApostrophe
      split
      · exact absurd rfl isOpen
      · rfl
    rw [characterScan, after_append, Option.bind_some, quotedCharacter_eq, inner, Option.bind_some,
      stays] at scan
    rw [literalToken]
    exact congrArg (Option.map _) scan
  have noEnd (mark : String) (d : Char) (is : mark.toList = [d]) (other : rest.head? ≠ some d) :
      startsWith mark rest = false := by
    rw [← Bool.not_eq_true, startsWith_iff, is]
    rintro ⟨more, rfl⟩
    exact other rfl
  have read : punctToken ('\x27' :: c :: behind) = some (.punct '\x27' true, c :: behind) := by
    rw [punctToken, punctScan_cons '\x27' _ (by decide) (noComment_cons '\x27' _ (by decide))]
    change lifetimeScan (c :: behind) = _
    rw [lifetimeScan, scanned]
    simp only [Option.bind_eq_bind, Option.bind_some, noEnd "\x27" '\x27' rfl unquoted.1,
      noEnd "#" '#' rfl unquoted.2, Bool.false_and, Bool.or_self, Bool.false_eq_true, if_false]
  rw [(noComment_cons '\x27' _ (by decide)).lexeme_eq rfl, leaf, noLiteral, read]
  rfl

theorem head?_append_ne {front behind : List Char} {c : Char} (missing : c ∉ front)
    (other : behind.head? ≠ some c) : (front ++ behind).head? ≠ some c := by
  cases front with
  | nil => exact other
  | cons d more =>
    intro first
    cases first
    exact missing List.mem_cons_self

theorem lexeme_lifetime (name : String) (usable : Name.isUsable name = true) (behind : List Char)
    (stops : Stops behind) :
    lexeme ('\x27' :: (name.toList ++ behind)) =
      some (.leaves [.punct '\x27' true], name.toList ++ behind) := by
  have apart (c : Char) (out : c ∉ ' ' :: gluesLeft) : behind.head? ≠ some c := fun first =>
    out (List.mem_cons.mpr (stops c first))
  have scanned := nameScan_append name usable behind (endsName_of_stops stops)
    (apart '#' (by decide))
  refine lexeme_apostrophe _ behind name scanned ?_ ⟨apart '\x27' (by decide), apart '#' (by decide)⟩
  obtain ⟨c, rest, is, start⟩ := exists_head_of_isUsable name usable
  refine ⟨c, rest ++ behind, by rw [is]; rfl, Text.ne_of_isIdentStart c '\\' start (by decide), ?_⟩
  refine head?_append_ne ?_ (apart '\x27' (by decide))
  rcases cases_of_isUsable name usable with named | ⟨body, raw, named, _⟩
  · have inName := ((Text.isIdentText_iff _).mp named).2
    rw [is] at inName
    intro member
    cases inName '\x27' (List.mem_cons_of_mem c member)
  · rw [is] at raw
    obtain ⟨_, rfl⟩ := List.cons.inj raw
    intro member
    rcases List.mem_cons.mp member with impossible | member
    · cases impossible
    · cases ((Text.isIdentText_iff _).mp named).2 '\x27' member

/-- An apostrophe that stands before the mark of a string is not part of it. -/
theorem lexeme_apostrophe_mark (mark behind : List Char) (named : isIdentText mark = true) :
    lexeme ('\x27' :: (mark ++ '"' :: behind)) =
      some (.leaves [.punct '\x27' true], mark ++ '"' :: behind) := by
  have ends : EndsName ('"' :: behind) := by
    rintro c ⟨⟩
    rfl
  have apart (c : Char) (other : c ≠ '"') : ('"' :: behind).head? ≠ some c := fun first =>
    other (Option.some.inj first).symm
  have scanned := nameScan_append_of_isIdentText mark _ named ends (apart '#' (by decide))
  obtain ⟨⟨c, first, start⟩, inName⟩ := (Text.isIdentText_iff _).mp named
  obtain ⟨rest, rfl⟩ := List.head?_eq_some_iff.mp first
  refine lexeme_apostrophe _ _ _ scanned ⟨c, rest ++ '"' :: behind, rfl,
    Text.ne_of_isIdentStart c '\\' start (by decide),
    head?_append_ne (fun member => ?_) (apart '\x27' (by decide))⟩
    ⟨apart '\x27' (by decide), apart '#' (by decide)⟩
  cases inName '\x27' (List.mem_cons_of_mem c member)

theorem of_literal_begins (c : Char) (known : c ∈ literalFirsts ∨ c.isDigit = true) :
    c ≠ ' ' ∧ c ≠ '/' ∧ c ≠ '*' ∧ c ∉ "([\x7b)]\x7d".toList ∧ isBlank c = false ∧
      c.toNat ≠ 0xfeff := by
  have each : ∀ d ∈ literalFirsts ++ "0123456789".toList, d ≠ ' ' ∧ d ≠ '/' ∧ d ≠ '*' ∧
      d ∉ "([\x7b)]\x7d".toList ∧ isBlank d = false ∧ d.toNat ≠ 0xfeff :=
    List.all_iff_forall_prop.mp (by decide +kernel)
  refine each c (List.mem_append.mpr (known.imp id (mem_of_isDigit c)))

/-- A literal without some of its blanks is one lexeme. -/
theorem lexeme_literal (text behind : List Char) (stands : Stands text) (stops : Stops behind) :
    lexeme (glue none text ++ behind) =
      some (.leaves [.literal (String.ofList (glue none text))], behind) := by
  obtain ⟨c, first, known⟩ := stands.begins
  obtain ⟨rest, rfl⟩ := List.head?_eq_some_iff.mp first
  have scanned := stands.scans behind stops
  obtain ⟨visible, noComment, _, noBracket, _⟩ := of_literal_begins c known
  rw [TypeText.glue_cons_of_ne none c rest visible, List.cons_append] at scanned ⊢
  rw [(noComment_cons c _ noComment).lexeme_eq (bracketLexeme_eq_none c _ noBracket), leaf,
    literalToken, scanned, ← List.cons_append, Option.map_some, take_of_append]
  rfl

theorem lexeme_errorLiteral (behind : List Char) :
    lexeme (errorLiteral.toList ++ behind) = some (.leaves [.literal errorLiteral], behind) := rfl

end Signs

end ClassExpansion.Lexer
