import ClassExpansion.Class.Name
import ClassExpansion.Class.TypeText

set_option autoImplicit false

/- Tokens as a text can hold them: names that can be used, characters and literals that the lexer
knows, and a joint character only where what follows leaves it alone. Such tokens stay so when they
are put one after another, taken apart, or freed of invisible groups. -/
namespace ClassExpansion

/-- A text that is taken for a literal where something may follow it. -/
def Lexer.IsLiteral (text : String) : Prop :=
  text = errorLiteral ∨ ∃ rest, literalScan (text.toList ++ rest) = some rest

namespace Token

/-- The token begins like a name, so that an apostrophe directly before it is one of a lifetime. -/
def StartsName : Token → Prop
  | ident _ => True
  | literal text =>
    ∃ mark rest, Text.isIdentText mark = true ∧ text.toList = mark ++ '"' :: rest
  | punct _ _ | group _ _ => False

/-- The token does not make a comment of a slash directly before it. -/
def KeepsSlash : Token → Prop
  | punct c _ => c ≠ '/' ∧ c ≠ '*'
  | ident _ | literal _ => True
  | group _ _ => False

/-- What an apostrophe and a joint slash ask of the next token. -/
def FitsBefore (next : Option Token) : Token → Prop
  | punct c joint =>
    (c = '\x27' → joint = true ∧ ∃ t ∈ next, t.StartsName) ∧
      (c = '/' → joint = true → ∃ t ∈ next, t.KeepsSlash)
  | ident _ | literal _ | group _ _ => True

mutual

def IsLegible : Token → Prop
  | ident name => Name.isUsable name = true
  | punct c _ => c ∈ Lexer.punctuation
  | literal text => Lexer.IsLiteral text
  | group _ body => LegibleBefore none body

/-- The tokens are legible where `next` comes directly after them. -/
def LegibleBefore (next : Option Token) : List Token → Prop
  | [] => True
  | t :: rest => t.IsLegible ∧ t.FitsBefore (rest.head?.or next) ∧ LegibleBefore next rest

end

/-- A text can hold the tokens. -/
def Legible (tokens : Tokens) : Prop := LegibleBefore none tokens

theorem legible_nil : Legible [] := by
  rw [Legible, LegibleBefore]
  trivial

theorem legible_group_iff (delimiter : Delimiter) (body : Tokens) :
    Legible [group delimiter body] ↔ Legible body := by
  simp only [Legible, LegibleBefore, IsLegible, FitsBefore, and_true]

/-- A token that asks for nothing after it fits before everything. -/
theorem FitsBefore.mono {t : Token} (fits : t.FitsBefore none) (next : Option Token) :
    t.FitsBefore next := by
  cases t with
  | punct c joint =>
    refine ⟨fun is => ?_, fun is isJoint => ?_⟩
    · obtain ⟨_, _, missing, _⟩ := fits.1 is
      cases missing
    · obtain ⟨_, missing, _⟩ := fits.2 is isJoint
      cases missing
  | ident | literal | group => trivial

theorem legibleBefore_append_iff (next : Option Token) (a b : Tokens) :
    LegibleBefore next (a ++ b) ↔ LegibleBefore (b.head?.or next) a ∧ LegibleBefore next b := by
  induction a with
  | nil => simp only [List.nil_append, LegibleBefore, true_and]
  | cons t rest ih =>
    simp only [List.cons_append, LegibleBefore, ih, List.head?_append, Option.or_assoc, and_assoc]

theorem LegibleBefore.mono {tokens : Tokens} (legible : Legible tokens) (next : Option Token) :
    LegibleBefore next tokens := by
  induction tokens with
  | nil =>
    rw [LegibleBefore]
    trivial
  | cons t rest ih =>
    rw [Legible, LegibleBefore] at legible
    obtain ⟨first, fits, later⟩ := legible
    rw [LegibleBefore]
    refine ⟨first, ?_, ih later⟩
    cases rest with
    | nil => exact FitsBefore.mono fits next
    | cons second more => exact fits

theorem Legible.append {a b : Tokens} (first : Legible a) (second : Legible b) :
    Legible (a ++ b) :=
  (legibleBefore_append_iff none a b).mpr ⟨LegibleBefore.mono first _, second⟩

theorem Legible.of_append_right {a b : Tokens} (legible : Legible (a ++ b)) : Legible b :=
  ((legibleBefore_append_iff none a b).mp legible).2

theorem Legible.tail {t : Token} {rest : Tokens} (legible : Legible (t :: rest)) : Legible rest :=
  Legible.of_append_right (a := [t]) legible

theorem Legible.body {delimiter : Delimiter} {body rest : Tokens}
    (legible : Legible (group delimiter body :: rest)) : Legible body := by
  rw [Legible, LegibleBefore, IsLegible] at legible
  exact legible.1

/-- Without the group around them, its tokens still end where nothing is asked of what follows. -/
theorem Legible.dissolve {delimiter : Delimiter} {body rest : Tokens}
    (legible : Legible (group delimiter body :: rest)) : Legible (body ++ rest) :=
  legible.body.append legible.tail

end Token

end ClassExpansion
