import ClassExpansion.Proofs.LexemeScans

set_option autoImplicit false

/- Legible tokens are found again in their text, blanks left out or not: apart from spacing and
invisible groups they are the same, and of a literal there is what its blanks leave of it. -/
namespace ClassExpansion

namespace Token

mutual

/-- The token with those blanks left out of its literals that are left out of its text. -/
def thin : Token → Token
  | ident name => ident name
  | punct c joint => punct c joint
  | literal text => literal (String.ofList (TypeText.glue none text.toList))
  | group delimiter body => group delimiter (thinAll body)

def thinAll : List Token → List Token
  | [] => []
  | t :: rest => t.thin :: thinAll rest

end

theorem plainAll_singleton (t : Token) : plainAll [t] = t.plain := by
  rw [plainAll, plainAll, List.append_nil]

theorem plain_group (delimiter : Delimiter) (body : Tokens) (isVisible : delimiter ≠ .invisible) :
    (group delimiter body).plain = [group delimiter (plainAll body)] := by
  cases delimiter with
  | invisible => exact absurd rfl isVisible
  | paren | brace | bracket => simp only [plain]

end Token

namespace Lexer

open Token (plainAll thinAll Legible)

/-- The text is the lexemes one after another, with nothing but blanks between them. -/
inductive Scans : List Char → List Lexeme → Prop
  | done : Scans [] []
  | blank (text : List Char) (ls : List Lexeme) (onward : Scans text ls) : Scans (' ' :: text) ls
  | next (c : Char) (text rest : List Char) (first : Lexeme) (ls : List Lexeme)
      (visible : isBlank c = false) (none : NoComment (c :: text))
      (read : lexeme (c :: text) = some (first, rest)) (shorter : rest.length ≤ text.length)
      (onward : Scans rest ls) : Scans (c :: text) (first :: ls)

theorem skipTrivia_blank (fuel : Nat) (text : List Char) :
    skipTrivia (fuel + 1) (' ' :: text) = skipTrivia fuel text := rfl

theorem lexemes_of_scans (text : List Char) (ls : List Lexeme) (scans : Scans text ls) (fuel : Nat)
    (enough : text.length < fuel) : lexemes fuel text = some ls := by
  induction scans generalizing fuel with
  | done =>
    obtain ⟨fuel, rfl⟩ := Nat.exists_eq_succ_of_ne_zero (Nat.ne_of_gt enough)
    rfl
  | blank text ls onward ih =>
    have read := ih fuel (Nat.lt_of_succ_lt enough)
    obtain ⟨fuel, rfl⟩ := Nat.exists_eq_succ_of_ne_zero (Nat.ne_of_gt (Nat.zero_lt_of_lt enough))
    rw [lexemes] at read ⊢
    rw [List.length_cons, skipTrivia_blank]
    exact read
  | next c text rest first ls visible none read shorter onward ih =>
    obtain ⟨fuel, rfl⟩ := Nat.exists_eq_succ_of_ne_zero (Nat.ne_of_gt (Nat.zero_lt_of_lt enough))
    have short : rest.length < fuel := Nat.lt_of_le_of_lt shorter (Nat.lt_of_succ_lt_succ enough)
    have solid : skipTrivia (c :: text).length (c :: text) = c :: text :=
      none.skipTrivia_eq (fun d is => Option.some.inj is ▸ visible) _
    rw [lexemes, solid]
    dsimp only
    rw [read]
    dsimp only
    rw [ih fuel short]
    rfl

/-- Of the lexemes the tokens are made, in whatever groups they stand. -/
def Builds (ls : List Lexeme) (tokens : Tokens) : Prop :=
  ∀ outer read more, nest outer read (ls ++ more) = nest outer (tokens.reverse ++ read) more

theorem builds_nil : Builds [] [] := fun _ _ _ => rfl

theorem builds_leaves (tokens : Tokens) : Builds [.leaves tokens] tokens := fun _ _ _ => rfl

theorem Builds.append {first second : List Lexeme} {a b : Tokens} (begun : Builds first a)
    (onward : Builds second b) : Builds (first ++ second) (a ++ b) := by
  intro outer read more
  rw [List.append_assoc, begun, onward, List.reverse_append, List.append_assoc]

theorem Builds.group {ls : List Lexeme} {body : Tokens} (builds : Builds ls body)
    (delimiter : Delimiter) :
    Builds (.opening delimiter :: ls ++ [.closing delimiter]) [.group delimiter body] := by
  intro outer read more
  rw [List.append_assoc, List.cons_append, nest, builds, List.append_nil]
  change nest ((delimiter, read) :: outer) body.reverse (.closing delimiter :: more) = _
  rw [nest, if_pos rfl, List.reverse_reverse]
  rfl

/-- From the text on, up to what is left of it, stand the tokens but for spacing and invisible
groups. -/
def Spells (text rest : List Char) (tokens : Tokens) : Prop :=
  ∃ ls back, plainAll back = plainAll tokens ∧ Builds ls back ∧
    ∀ later, Scans rest later → Scans text (ls ++ later)

theorem spells_nil (text : List Char) : Spells text text [] :=
  ⟨[], [], rfl, builds_nil, fun _ scans => scans⟩

theorem spells_blank (text : List Char) : Spells (' ' :: text) text [] :=
  ⟨[], [], rfl, builds_nil, fun _ scans => .blank text _ scans⟩

theorem Spells.append {text middle rest : List Char} {a b : Tokens} (first : Spells text middle a)
    (second : Spells middle rest b) : Spells text rest (a ++ b) := by
  obtain ⟨ls, back, plain, builds, scans⟩ := first
  obtain ⟨more, behind, also, onward, continues⟩ := second
  refine ⟨ls ++ more, back ++ behind, ?_, builds.append onward, fun later last => ?_⟩
  · rw [Token.plainAll_append, Token.plainAll_append, plain, also]
  · rw [List.append_assoc]
    exact scans _ (continues later last)

theorem spells_leaf (c : Char) (text rest : List Char) (read t : Token)
    (visible : isBlank c = false) (none : NoComment (c :: text))
    (found : lexeme (c :: text) = some (.leaves [read], rest)) (shorter : rest.length ≤ text.length)
    (same : read.plain = t.plain) : Spells (c :: text) rest [t] := by
  refine ⟨[.leaves [read]], [read], ?_, builds_leaves [read], fun later scans => ?_⟩
  · rw [Token.plainAll_singleton, Token.plainAll_singleton, same]
  · exact .next c text rest _ later visible none found shorter scans

theorem spells_group (delimiter : Delimiter) (begins ends : Char) (inner rest : List Char)
    (body : Tokens) (seen : isBlank begins = false ∧ isBlank ends = false)
    (sign : begins ≠ '/' ∧ ends ≠ '/') (isVisible : delimiter ≠ .invisible)
    (opens : lexeme (begins :: inner) = some (.opening delimiter, inner))
    (closes : lexeme (ends :: rest) = some (.closing delimiter, rest))
    (spells : Spells inner (ends :: rest) body) :
    Spells (begins :: inner) rest [.group delimiter body] := by
  obtain ⟨ls, back, plain, builds, scans⟩ := spells
  refine ⟨.opening delimiter :: ls ++ [.closing delimiter], [.group delimiter back], ?_,
    builds.group delimiter, fun later last => ?_⟩
  · rw [Token.plainAll_singleton, Token.plainAll_singleton,
      Token.plain_group delimiter back isVisible, Token.plain_group delimiter body isVisible, plain]
  · have closing := Scans.next ends rest rest _ later seen.2 (noComment_cons ends rest sign.2) closes
      (Nat.le_refl _) last
    have whole := scans _ closing
    rw [List.append_assoc]
    exact .next begins inner inner _ _ seen.1 (noComment_cons begins inner sign.1) opens
      (Nat.le_refl _) whole

theorem spells_invisible {text rest : List Char} {body : Tokens} (spells : Spells text rest body) :
    Spells text rest [.group .invisible body] := by
  obtain ⟨ls, back, plain, builds, scans⟩ := spells
  refine ⟨ls, back, ?_, builds, scans⟩
  rw [plain, Token.plainAll_singleton, Token.plain]

theorem lexeme_orderMark (text : List Char) : lexeme ('\ufeff' :: text) = none := by
  have outside : Text.isIdentContinue '\ufeff' = false := by decide +kernel
  have noStart : Text.isIdentStart '\ufeff' = false := by decide +kernel
  have unquoted : ¬ OpensQuote ('\ufeff' :: text) := by
    rintro ⟨mark, quote, more, inName, same, kind⟩
    cases mark with
    | nil =>
      obtain ⟨rfl, _⟩ := List.cons.inj same
      rcases kind with impossible | impossible | ⟨impossible, _⟩ <;> cases impossible
    | cons d letters =>
      obtain ⟨rfl, _⟩ := List.cons.inj same
      rw [inName _ List.mem_cons_self] at outside
      cases outside
  have noLiteral : literalToken ('\ufeff' :: text) = none := by
    rw [literalToken, literalScan_eq_none _ _ unquoted]
    · rfl
    · rintro d ⟨⟩
      rfl
  have noWord : word ('\ufeff' :: text) = none := by rw [word, if_neg (noStart ▸ Bool.false_ne_true)]
  have noName : nameToken ('\ufeff' :: text) = none := by
    rw [nameToken, if_neg fun begins => unquoted (opensQuote_of_literalStarts _ begins), nameScan]
    change ((word ('\ufeff' :: text)).bind _).bind _ = none
    rw [noWord]
    rfl
  have noPunct := punctToken_eq_none '\ufeff' text (by decide)
  rw [(noComment_cons '\ufeff' text (by decide)).lexeme_eq rfl, leaf, noLiteral, noPunct, noName]
  rfl

theorem dropOrderMark_of_scans (text : List Char) (ls : List Lexeme) (scans : Scans text ls) :
    dropOrderMark text = text := by
  cases scans with
  | done => rfl
  | blank text ls onward => rfl
  | next c text rest first ls visible none read shorter onward =>
    refine if_neg fun is => ?_
    have mark : c = '\ufeff' := Char.toNat_inj.mp is
    rw [mark, lexeme_orderMark] at read
    cases read

/-- A text to whose end the tokens stand is read as these tokens. -/
theorem tokens?_of_spells (text : String) (tokens : Tokens)
    (spells : Spells text.toList [] tokens) :
    ∃ back, tokens? text = some back ∧ plainAll back = plainAll tokens := by
  obtain ⟨ls, back, plain, builds, scans⟩ := spells
  have whole := scans [] .done
  have read := lexemes_of_scans _ _ whole (text.toList.length + 1) (Nat.lt_succ_self _)
  refine ⟨back, ?_, plain⟩
  unfold tokens?
  dsimp only
  rw [dropOrderMark_of_scans _ _ whole, read, Option.bind_some, builds, List.append_nil, nest,
    if_pos List.isEmpty_nil, List.reverse_reverse]

end Lexer

end ClassExpansion
