import ClassExpansion.Proofs.Rescanning

set_option autoImplicit false

/- The text of legible tokens, from one token to the next. Between two tokens a blank may be left
out, but never so that they become one or that a comment begins. -/
namespace ClassExpansion.Token

open TypeText (glue glue_cons_of_ne IsGap Stops gluesLeft gluesRight)
open Lexer (Spells NoComment noComment_cons IsLoose Stands)

/-- No comment begins here, whatever blanks are left out. -/
def IsQuiet (text : List Char) : Prop := ∀ before, NoComment (glue before text)

/-- Whatever comes before, the text holds the tokens up to what follows them. -/
def Holds (text following : List Char) (tokens : Tokens) : Prop :=
  ∀ before, NoComment (glue before text) ∧
    ∃ last, Spells (glue before text) (glue last following) tokens

/-- What comes behind a token: a gap and the tokens after it, if there are any. -/
def behind (gap : List Char) (rest : Tokens) (following : List Char) : List Char :=
  if rest.isEmpty then following else gap ++ (charsAll rest ++ following)

theorem charsAll_cons_append (t : Token) (rest : Tokens) (following : List Char) :
    charsAll (t :: rest) ++ following = t.chars ++ behind t.gapAfter rest following := by
  rw [charsAll, behind]
  split
  · rfl
  · rw [List.append_assoc, List.append_assoc]

section Holds

variable {text middle following : List Char} {a b : Tokens}

theorem Holds.isQuiet (holds : Holds text following a) : IsQuiet text := fun before =>
  (holds before).1

theorem holds_nil (quiet : IsQuiet text) : Holds text text [] := fun before =>
  ⟨quiet before, before, Lexer.spells_nil _⟩

theorem Holds.append (first : Holds text middle a) (second : Holds middle following b) :
    Holds text following (a ++ b) := by
  intro before
  obtain ⟨none, last, spells⟩ := first before
  obtain ⟨_, final, onward⟩ := second last
  exact ⟨none, final, spells.append onward⟩

theorem holds_blank (quiet : IsQuiet text) : Holds (' ' :: text) text [] := by
  intro before
  rcases TypeText.glue_blank before text with out | kept
  · exact ⟨out ▸ quiet (some ' '), some ' ', out ▸ Lexer.spells_nil _⟩
  · refine ⟨kept ▸ noComment_cons ' ' _ (by decide), some ' ', ?_⟩
    rw [kept]
    exact Lexer.spells_blank _

/-- What holds the tokens after a token holds them behind its gap, too. -/
theorem holds_behind (gap : List Char) (isGap : gap = [] ∨ gap = [' ']) (rest : Tokens)
    (holds : Holds (charsAll rest ++ following) following a) :
    Holds (behind gap rest following) following a := by
  unfold behind
  split
  · next isEnd =>
    rw [List.isEmpty_iff.mp isEnd] at holds
    exact holds
  · rcases isGap with rfl | rfl
    · exact holds
    · exact (holds_blank holds.isQuiet).append holds

theorem isQuiet_cons (c : Char) (rest : List Char) (other : c ≠ '/') (visible : c ≠ ' ') :
    IsQuiet (c :: rest) := by
  intro before
  rw [glue_cons_of_ne before c rest visible]
  exact noComment_cons c _ other

theorem isQuiet_blank {rest : List Char} (quiet : IsQuiet rest) : IsQuiet (' ' :: rest) := by
  intro before
  rcases TypeText.glue_blank before rest with out | kept
  · exact out ▸ quiet _
  · exact kept ▸ noComment_cons ' ' _ (by decide)

end Holds

section Leaves

variable {following : List Char}

/-- A piece that keeps its first and its last character is followed by a stop. -/
theorem glue_piece (front : List Char) (last : Char) (loose : IsLoose last) (gap : IsGap following)
    (before : Option Char) :
    glue before (front ++ [last] ++ following) =
        glue before (front ++ [last]) ++ glue (some last) following ∧
      Stops (glue (some last) following) := by
  have ends : (front ++ [last]).getLast? = some last := List.getLast?_concat
  constructor
  · rw [TypeText.glue_append before _ following (ends ▸ fun same => loose.1 (Option.some.inj same)),
      ends, Option.some_or]
  · exact TypeText.stops_glue last following gap loose.2

theorem exists_last_of_isUsable (name : String) (usable : Name.isUsable name = true) :
    ' ' ∉ name.toList ∧ ∃ front last, name.toList = front ++ [last] ∧ IsLoose last := by
  have inName : ∀ c ∈ name.toList, Text.isIdentContinue c = true ∨ c = '#' := by
    rcases Lexer.cases_of_isUsable name usable with named | ⟨body, is, named, _⟩
    · exact fun c member => Or.inl (((Text.isIdentText_iff _).mp named).2 c member)
    · rw [is]
      exact List.forall_mem_cons.mpr ⟨Or.inl rfl, List.forall_mem_cons.mpr ⟨Or.inr rfl,
        fun c member => Or.inl (((Text.isIdentText_iff _).mp named).2 c member)⟩⟩
  have loose : ∀ c ∈ name.toList, IsLoose c := by
    intro c member
    rcases inName c member with continues | rfl
    · exact Lexer.isLoose_of_isIdentContinue c continues
    · exact ⟨by decide, by decide⟩
  obtain ⟨c, rest, is, _⟩ := Lexer.exists_head_of_isUsable name usable
  have filled : name.toList ≠ [] := is ▸ List.cons_ne_nil c rest
  have parts := List.dropLast_append_getLast filled
  exact ⟨fun member => (loose ' ' member).1 rfl, _, _, parts.symm,
    loose _ (List.getLast_mem filled)⟩

/-- Behind a name stands what stops it. -/
theorem glue_name (name : String) (usable : Name.isUsable name = true) (gap : IsGap following)
    (before : Option Char) :
    ∃ last, glue before (name.toList ++ following) = name.toList ++ glue (some last) following ∧
      Stops (glue (some last) following) := by
  obtain ⟨solid, front, last, is, loose⟩ := exists_last_of_isUsable name usable
  have pieces := glue_piece front last loose gap before
  rw [← is, TypeText.glue_of_not_mem before _ solid] at pieces
  exact ⟨last, pieces⟩

theorem holds_name (name : String) (usable : Name.isUsable name = true) (gap : IsGap following) :
    Holds (name.toList ++ following) following [ident name] := by
  intro before
  obtain ⟨last, glued, stops⟩ := glue_name name usable gap before
  have read := Lexer.lexeme_name name usable _ stops
  obtain ⟨c, rest, is, start⟩ := Lexer.exists_head_of_isUsable name usable
  have other := Text.ne_of_isIdentStart c '/' start (by decide)
  rw [glued]
  rw [is] at read ⊢
  have none := noComment_cons c (rest ++ glue (some last) following) other
  refine ⟨none, some last, Lexer.spells_leaf c _ _ _ _ (Lexer.isBlank_of_isIdentStart c start)
    none read (List.suffix_append rest _).length_le rfl⟩

theorem glue_literal (text : List Char) (stands : Stands text) (gap : IsGap following)
    (before : Option Char) :
    ∃ last, glue before (text ++ following) = glue none text ++ glue (some last) following ∧
      Stops (glue (some last) following) := by
  obtain ⟨front, last, is, loose⟩ := stands.ends
  obtain ⟨c, first, known⟩ := stands.begins
  obtain ⟨rest, same⟩ := List.head?_eq_some_iff.mp first
  have visible := (Lexer.of_literal_begins c known).1
  have pieces := glue_piece front last loose gap before
  rw [← is] at pieces
  refine ⟨last, ?_, pieces.2⟩
  rw [pieces.1, same, glue_cons_of_ne before c rest visible, glue_cons_of_ne none c rest visible]

theorem holds_literal (text : String) (legible : Lexer.IsLiteral text) (gap : IsGap following) :
    Holds (text.toList ++ following) following
      [literal (String.ofList (glue none text.toList))] := by
  intro before
  rcases legible with rfl | ⟨rest, scanned⟩
  · have loose : IsLoose ')' := ⟨by decide, by decide⟩
    have pieces := glue_piece "(/*ERROR*/".toList ')' loose gap before
    have solid : ' ' ∉ Lexer.errorLiteral.toList := by decide
    change glue before (Lexer.errorLiteral.toList ++ following) =
      glue before Lexer.errorLiteral.toList ++ _ ∧ _ at pieces
    rw [TypeText.glue_of_not_mem before _ solid] at pieces
    rw [pieces.1, TypeText.glue_of_not_mem none _ solid, String.ofList_toList]
    have none : NoComment (Lexer.errorLiteral.toList ++ glue (some ')') following) :=
      noComment_cons '(' _ (by decide)
    refine ⟨none, some ')', Lexer.spells_leaf '(' _ _ _ _ (by decide) none
      (Lexer.lexeme_errorLiteral _) ?_ rfl⟩
    exact Nat.le_add_right _ 10
  · have stands := Lexer.stands_of_literalScan _ _ scanned
    obtain ⟨last, glued, stops⟩ := glue_literal text.toList stands gap before
    have read := Lexer.lexeme_literal text.toList _ stands stops
    obtain ⟨c, first, known⟩ := stands.begins
    obtain ⟨more, same⟩ := List.head?_eq_some_iff.mp first
    obtain ⟨visible, noComment, _, _, seen, _⟩ := Lexer.of_literal_begins c known
    rw [glued]
    rw [same, glue_cons_of_ne Option.none c more visible] at read ⊢
    have none := noComment_cons c (glue (some c) more ++ glue (some last) following) noComment
    refine ⟨none, some last, Lexer.spells_leaf c _ _ _ _ seen none read
      (List.suffix_append (glue (some c) more) _).length_le rfl⟩

end Leaves

section Signs

variable {following : List Char}

theorem of_sign (c : Char) (member : c ∈ Lexer.punctuation) :
    c ≠ ' ' ∧ Lexer.isBlank c = false := by
  have each : ∀ d ∈ Lexer.punctuation, d ≠ ' ' ∧ Lexer.isBlank d = false :=
    List.all_iff_forall_prop.mp (by decide +kernel)
  exact each c member

/-- A sign is one lexeme if it begins no comment with what follows. -/
theorem holds_sign (c : Char) (joint : Bool) (member : c ∈ Lexer.punctuation) (other : c ≠ '\x27')
    (none : NoComment (c :: glue (some c) following)) :
    Holds (c :: following) following [punct c joint] := by
  intro before
  obtain ⟨visible, seen⟩ := of_sign c member
  rw [glue_cons_of_ne before c following visible]
  exact ⟨none, some c, Lexer.spells_leaf c _ _ _ _ seen none
    (Lexer.lexeme_punct c _ member other none) (Nat.le_refl _) (by simp only [plain])⟩

theorem noComment_slash (text : List Char) (other : ∀ c ∈ text.head?, c ≠ '/' ∧ c ≠ '*') :
    NoComment ('/' :: text) := by
  have apart (mark : String) (c : Char) (is : mark.toList = ['/', c]) (next : text.head? ≠ some c) :
      Lexer.startsWith mark ('/' :: text) = false := by
    rw [← Bool.not_eq_true, Lexer.startsWith_iff, is]
    intro begins
    obtain ⟨more, rfl⟩ := (List.cons_prefix_cons.mp begins).2
    exact next rfl
  exact ⟨apart "//" '/' rfl fun is => (other '/' is).1 rfl,
    apart "/*" '*' rfl fun is => (other '*' is).2 rfl⟩

/-- The first character of what a slash is joint to does not make it a comment. -/
theorem head_of_keepsSlash (t : Token) (keeps : t.KeepsSlash) (legible : t.IsLegible) :
    ∃ c rest, t.chars = c :: rest ∧ c ≠ ' ' ∧ c ≠ '/' ∧ c ≠ '*' := by
  cases t with
  | ident name =>
    obtain ⟨c, rest, is, start⟩ := Lexer.exists_head_of_isUsable name (by rwa [IsLegible] at legible)
    refine ⟨c, rest, by rw [chars, is], ?_⟩
    exact ⟨Text.ne_of_isIdentStart c ' ' start (by decide),
      Text.ne_of_isIdentStart c '/' start (by decide), Text.ne_of_isIdentStart c '*' start (by decide)⟩
  | punct c joint =>
    rw [IsLegible] at legible
    exact ⟨c, [], by rw [chars], (of_sign c legible).1, keeps⟩
  | literal text =>
    rw [IsLegible] at legible
    rcases legible with rfl | ⟨rest, scanned⟩
    · exact ⟨'(', "/*ERROR*/)".toList, by rw [chars]; rfl, by decide, by decide, by decide⟩
    · obtain ⟨c, first, known⟩ := (Lexer.stands_of_literalScan _ _ scanned).begins
      obtain ⟨more, same⟩ := List.head?_eq_some_iff.mp first
      obtain ⟨visible, noSlash, noStar, _⟩ := Lexer.of_literal_begins c known
      exact ⟨c, more, by rw [chars, same], visible, noSlash, noStar⟩
  | group => exact keeps.elim

/-- An apostrophe belongs to the name after it, or stands before the mark of a string. -/
theorem holds_apostrophe (t : Token) (rest : Tokens) (starts : t.StartsName)
    (legible : t.IsLegible) (gap : IsGap following) :
    Holds ('\x27' :: (charsAll (t :: rest) ++ following)) (charsAll (t :: rest) ++ following)
      [punct '\x27' true] := by
  intro before
  have none (text : List Char) := noComment_cons '\x27' text (by decide)
  rw [glue_cons_of_ne before '\x27' _ (by decide)]
  refine ⟨none _, some '\x27', ?_⟩
  have gapBehind : t.gapAfter = [' '] → IsGap (behind t.gapAfter rest following) := by
    intro is
    rw [is, behind]
    split
    · exact gap
    · exact TypeText.isGap_blank _
  rw [charsAll_cons_append]
  cases t with
  | ident name =>
    rw [IsLegible] at legible
    obtain ⟨last, glued, stops⟩ := glue_name name legible (gapBehind rfl) (some '\x27')
    rw [chars, glued]
    exact Lexer.spells_leaf '\x27' _ _ _ _ (by decide) (none _)
      (Lexer.lexeme_lifetime name legible _ stops) (Nat.le_refl _) rfl
  | literal text =>
    obtain ⟨mark, more, named, is⟩ := starts
    have solid : ' ' ∉ mark := by
      intro member
      cases ((Text.isIdentText_iff _).mp named).2 ' ' member
    rw [chars, is, List.append_assoc, TypeText.glue_append_of_not_mem _ mark _ solid,
      List.cons_append, glue_cons_of_ne _ '"' _ (by decide)]
    exact Lexer.spells_leaf '\x27' _ _ _ _ (by decide) (none _)
      (Lexer.lexeme_apostrophe_mark mark _ named) (Nat.le_refl _) rfl
  | punct | group => exact starts.elim

end Signs

section Groups

variable {following : List Char} {body : Tokens}

/-- The inside of a group begins no comment, and so does not make an error of its parenthesis. -/
theorem lexeme_paren (text : List Char) (none : NoComment text) :
    Lexer.lexeme ('(' :: text) = some (.opening .paren, text) := by
  have noError : Lexer.startsWith Lexer.errorLiteral ('(' :: text) = false := by
    rw [← Bool.not_eq_true, Lexer.startsWith_iff]
    intro begins
    have inner := (List.cons_prefix_cons.mp begins).2
    have comment : Lexer.startsWith "/*" text = true := by
      rw [Lexer.startsWith_iff]
      have prefixed : ['/', '*'] <+: "/*ERROR*/)".toList := by decide
      exact prefixed.trans inner
    rw [none.block] at comment
    cases comment
  rw [Lexer.lexeme, (noComment_cons '(' text (by decide)).docComment_eq]
  dsimp only [Lexer.bracketLexeme]
  rw [noError]
  rfl

theorem holds_paren {tokens : Tokens}
    (inner : IsGap (')' :: following) → IsQuiet (')' :: following) →
      Holds (charsAll body ++ ')' :: following) (')' :: following) tokens) :
    Holds ((paren body).chars ++ following) following [paren tokens] := by
  intro before
  have gap : IsGap (')' :: following) := by
    rintro c ⟨⟩
    exact Or.inr (Or.inl rfl)
  have shape : (paren body).chars ++ following = '(' :: (charsAll body ++ ')' :: following) := by
    simp [paren, chars, opening, closing]
  obtain ⟨none, last, spells⟩ := inner gap (isQuiet_cons ')' following (by decide) (by decide))
    (some '(')
  rw [shape, glue_cons_of_ne before '(' _ (by decide)]
  rw [glue_cons_of_ne last ')' following (by decide)] at spells
  exact ⟨noComment_cons '(' _ (by decide), some ')',
    Lexer.spells_group .paren '(' ')' _ _ _ (by decide) (by decide) (by decide)
      (lexeme_paren _ none) rfl spells⟩

theorem holds_bracket {tokens : Tokens}
    (inner : IsGap (']' :: following) → IsQuiet (']' :: following) →
      Holds (charsAll body ++ ']' :: following) (']' :: following) tokens) :
    Holds ((bracket body).chars ++ following) following [bracket tokens] := by
  intro before
  have gap : IsGap (']' :: following) := by
    rintro c ⟨⟩
    exact Or.inr (Or.inr rfl)
  have shape : (bracket body).chars ++ following = '[' :: (charsAll body ++ ']' :: following) := by
    simp [bracket, chars, opening, closing]
  obtain ⟨_, last, spells⟩ := inner gap (isQuiet_cons ']' following (by decide) (by decide))
    (some '[')
  rw [shape, glue_cons_of_ne before '[' _ (by decide)]
  rw [glue_cons_of_ne last ']' following (by decide)] at spells
  exact ⟨noComment_cons '[' _ (by decide), some ']',
    Lexer.spells_group .bracket '[' ']' _ _ _ (by decide) (by decide) (by decide) rfl rfl spells⟩

theorem holds_brace {tokens : Tokens} (same : body = [] → tokens = [])
    (inner : IsGap (' ' :: '\x7d' :: following) → IsQuiet (' ' :: '\x7d' :: following) →
      Holds (charsAll body ++ ' ' :: '\x7d' :: following) (' ' :: '\x7d' :: following) tokens) :
    Holds ((brace body).chars ++ following) following [brace tokens] := by
  intro before
  have quiet : IsQuiet ('\x7d' :: following) :=
    isQuiet_cons '\x7d' following (by decide) (by decide)
  have whole : ∃ text, (brace body).chars ++ following = '\x7b' :: text ∧
      Holds text ('\x7d' :: following) tokens := by
    cases body with
    | nil =>
      rw [same rfl]
      exact ⟨' ' :: '\x7d' :: following, rfl, holds_blank quiet⟩
    | cons t rest =>
      have held := (inner (TypeText.isGap_blank _) (isQuiet_blank quiet)).append (holds_blank quiet)
      have shape : (brace (t :: rest)).chars ++ following =
          '\x7b' :: ' ' :: (charsAll (t :: rest) ++ ' ' :: '\x7d' :: following) := by
        simp [brace, chars, opening, closing]
      rw [List.append_nil] at held
      exact ⟨_, shape, (holds_blank held.isQuiet).append held⟩
  obtain ⟨text, shape, holds⟩ := whole
  obtain ⟨_, last, spells⟩ := holds (some '\x7b')
  rw [shape, glue_cons_of_ne before '\x7b' _ (by decide)]
  rw [glue_cons_of_ne last '\x7d' following (by decide)] at spells
  exact ⟨noComment_cons '\x7b' _ (by decide), some '\x7d',
    Lexer.spells_group .brace '\x7b' '\x7d' _ _ _ (by decide) (by decide) (by decide) rfl rfl
      spells⟩

theorem holds_invisible {tokens : Tokens}
    (inner : Holds (charsAll body ++ following) following tokens) :
    Holds ((group .invisible body).chars ++ following) following [group .invisible tokens] := by
  intro before
  have shape : (group .invisible body).chars ++ following = charsAll body ++ following := by
    simp [chars, opening, closing]
  obtain ⟨none, last, spells⟩ := inner before
  rw [shape]
  exact ⟨none, last, Lexer.spells_invisible spells⟩

end Groups

theorem isGap_behind (rest : Tokens) {following : List Char} (gap : IsGap following) :
    IsGap (behind [' '] rest following) := by
  unfold behind
  split
  · exact gap
  · exact TypeText.isGap_blank _

/-- A slash before tokens that it leaves alone begins no comment. -/
theorem noComment_slash_before (joint : Bool) (rest : Tokens) {following : List Char}
    (fits : (punct '/' joint).FitsBefore rest.head?) (legible : Legible rest)
    (gap : IsGap following) :
    NoComment ('/' :: glue (some '/') (behind (punct '/' joint).gapAfter rest following)) := by
  refine noComment_slash _ ?_
  cases joint with
  | true =>
    obtain ⟨t, first, keeps⟩ := fits.2 rfl rfl
    obtain ⟨more, rfl⟩ := List.head?_eq_some_iff.mp first
    rw [Legible, LegibleBefore] at legible
    obtain ⟨d, text, is, visible, apart⟩ := head_of_keepsSlash t keeps legible.1
    have shape : behind (punct '/' true).gapAfter (t :: more) following =
        d :: (text ++ behind t.gapAfter more following) := by
      change charsAll (t :: more) ++ following = _
      rw [charsAll_cons_append, is, List.cons_append]
    rw [shape, glue_cons_of_ne _ d _ visible]
    rintro e ⟨⟩
    exact apart
  | false =>
    have stops : Stops (glue (some '/') (behind (punct '/' false).gapAfter rest following)) :=
      TypeText.stops_glue '/' _ (isGap_behind rest gap) (by decide)
    have all := Lexer.stops_all (fun c => c ≠ '/' && c ≠ '*') (by decide) stops
    simpa only [Bool.and_eq_true, decide_eq_true_eq] using all

/-- A sign before legible tokens is found again if it fits before them. -/
theorem holds_sign_before (c : Char) (joint : Bool) (rest : Tokens) {following : List Char}
    {tokens : Tokens} (member : c ∈ Lexer.punctuation)
    (fits : (punct c joint).FitsBefore rest.head?) (legible : Legible rest) (gap : IsGap following)
    (held : Holds (charsAll rest ++ following) following tokens) :
    Holds ((punct c joint).chars ++ behind (punct c joint).gapAfter rest following) following
      (punct c joint :: tokens) := by
  have isGap : (punct c joint).gapAfter = [] ∨ (punct c joint).gapAfter = [' '] := by
    cases joint with
    | true => exact Or.inl rfl
    | false => exact Or.inr rfl
  have onward := holds_behind _ isGap rest held
  rw [chars, List.singleton_append]
  by_cases apostrophe : c = '\x27'
  · obtain ⟨isJoint, t, first, starts⟩ := fits.1 apostrophe
    obtain ⟨more, rfl⟩ := List.head?_eq_some_iff.mp first
    subst apostrophe isJoint
    rw [Legible, LegibleBefore] at legible
    exact (holds_apostrophe t more starts legible.1 gap).append onward
  by_cases slash : c = '/'
  · subst slash
    have plain := noComment_slash_before joint rest fits legible gap
    exact (holds_sign '/' joint member apostrophe plain).append onward
  · exact (holds_sign c joint member apostrophe (noComment_cons c _ slash)).append onward

mutual

/-- A legible token that is no sign is found again before any gap. -/
theorem holds_token (t : Token) (legible : t.IsLegible) (solid : ∀ c joint, t ≠ punct c joint)
    (following : List Char) (gap : IsGap following) (quiet : IsQuiet following) :
    Holds (t.chars ++ following) following [t.thin] := by
  match t with
  | punct c joint => exact absurd rfl (solid c joint)
  | ident name =>
    rw [IsLegible] at legible
    rw [chars, thin]
    exact holds_name name legible gap
  | literal text =>
    rw [IsLegible] at legible
    rw [chars, thin]
    exact holds_literal text legible gap
  | group .paren body =>
    rw [IsLegible] at legible
    rw [thin]
    exact holds_paren (holds_charsAll body legible _)
  | group .bracket body =>
    rw [IsLegible] at legible
    rw [thin]
    exact holds_bracket (holds_charsAll body legible _)
  | group .brace body =>
    rw [IsLegible] at legible
    rw [thin]
    refine holds_brace ?_ (holds_charsAll body legible _)
    rintro rfl
    rw [thinAll]
  | group .invisible body =>
    rw [IsLegible] at legible
    rw [thin]
    exact holds_invisible (holds_charsAll body legible following gap quiet)

/-- Legible tokens are found again before any gap. -/
theorem holds_charsAll (tokens : Tokens) (legible : Legible tokens) (following : List Char)
    (gap : IsGap following) (quiet : IsQuiet following) :
    Holds (charsAll tokens ++ following) following (thinAll tokens) := by
  match tokens with
  | [] =>
    rw [charsAll, thinAll]
    exact holds_nil quiet
  | t :: rest =>
    have later := holds_charsAll rest legible.tail following gap quiet
    rw [Legible, LegibleBefore, Option.or_none] at legible
    obtain ⟨first, fits, onward⟩ := legible
    rw [charsAll_cons_append, thinAll]
    by_cases sign : ∃ c joint, t = punct c joint
    · obtain ⟨c, joint, rfl⟩ := sign
      rw [IsLegible] at first
      rw [thin]
      exact holds_sign_before c joint rest first fits onward gap later
    · have solid : ∀ c joint, t ≠ punct c joint := fun c joint is => sign ⟨c, joint, is⟩
      have blank : t.gapAfter = [' '] := by
        cases t with
        | punct c joint => exact absurd rfl (solid c joint)
        | ident | literal | group => rfl
      rw [blank]
      have behindIt := holds_behind [' '] (Or.inr rfl) rest later
      have here := holds_token t first solid _ (isGap_behind rest gap) behindIt.isQuiet
      exact here.append behindIt

end

/-- The text of legible tokens is read, and gives them back with what blanks leave of their
literals. -/
theorem tokens?_ofTokens (tokens : Tokens) (legible : Legible tokens) :
    ∃ back, Lexer.tokens? (TypeText.ofTokens tokens) = some back ∧
      plainAll back = plainAll (thinAll tokens) := by
  have quiet : IsQuiet [] := fun _ => ⟨rfl, rfl⟩
  obtain ⟨_, last, spells⟩ := holds_charsAll tokens legible [] TypeText.isGap_nil quiet none
  rw [List.append_nil] at spells
  refine Lexer.tokens?_of_spells _ _ ?_
  rw [TypeText.ofTokens, String.toList_ofList]
  exact spells

end ClassExpansion.Token
