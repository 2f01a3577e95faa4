import ClassExpansion.Code.Phrase
import ClassExpansion.Proofs.TextLiteral
import Mathlib.Data.List.Basic

set_option autoImplicit false

/- Reading generated code: the parts of a list, the names of a path, and the constants among
items. -/
namespace ClassExpansion

namespace Token

def isPunct (char : Char) : Token → Bool
  | punct c _ => c == char
  | _ => false

/-- The text that a literal stands for. -/
def text? : Token → Option String
  | literal text =>
    match (Literal.ofText text).value with
    | .text value => some value
    | _ => none
  | _ => none

theorem text?_quoted (text : String) : (Code.quoted text).text? = some text := by
  simp only [Code.quoted, text?, Literal.value_ofText_quotedLiteral]

end Token

namespace Tokens

/-- The parts of a list with commas. -/
def listed (tokens : Tokens) : List Tokens :=
  if tokens.isEmpty then [] else tokens.splitOnP (Token.isPunct ',')

/-- The names of a path from the root, and what follows it. -/
def path : Tokens → List String × Tokens
  | .punct ':' _ :: .punct ':' _ :: .ident name :: rest => (name :: (path rest).1, (path rest).2)
  | rest => ([], rest)

/-- The value of the first constant with the name. -/
def constant? (name : String) (items : Tokens) : Option Tokens :=
  (items.splitOnP (Token.isPunct ';')).findSome? fun item =>
    match item with
    | .ident "const" :: .ident other :: rest =>
      if other = name then some ((rest.dropWhile (!Token.isPunct '=' ·)).drop 1) else none
    | _ => none

/-- No token is the character. Those inside groups do not count. -/
def Without (char : Char) (tokens : Tokens) : Prop := ∀ t ∈ tokens, t.isPunct char = false

theorem path_rooted (names : List String) (rest : Tokens) (ends : path rest = ([], rest)) :
    path (Name.rooted names ++ rest) = (names, rest) := by
  induction names with
  | nil => exact ends
  | cons name more ih =>
    have step : Name.rooted (name :: more) ++ rest =
        .punct ':' true :: .punct ':' false :: .ident name :: (Name.rooted more ++ rest) := rfl
    rw [step, path, ih]

theorem splitOnP_commaSeparated (parts : List Tokens) (filled : parts ≠ [])
    (free : ∀ part ∈ parts, Without ',' part) :
    (commaSeparated parts).splitOnP (Token.isPunct ',') = parts := by
  induction parts with
  | nil => exact absurd rfl filled
  | cons part rest ih =>
    have own := free part List.mem_cons_self
    cases rest with
    | nil => exact List.splitOnP_eq_singleton own
    | cons next more =>
      have onward := ih (List.cons_ne_nil next more) fun other member =>
        free other (List.mem_cons_of_mem part member)
      have step : commaSeparated (part :: next :: more) =
          part ++ .punct ',' false :: commaSeparated (next :: more) := by
        simp [commaSeparated, joinTokens, Token.op, Token.operator]
      rw [step, List.splitOnP_append_cons_of_forall_mem own _ rfl, onward]

theorem listed_commaSeparated (parts : List Tokens)
    (good : ∀ part ∈ parts, part ≠ [] ∧ Without ',' part) :
    listed (commaSeparated parts) = parts := by
  cases parts with
  | nil => rfl
  | cons part rest =>
    have filled : (commaSeparated (part :: rest)).isEmpty = false := by
      obtain ⟨t, more, rfl⟩ := List.exists_cons_of_ne_nil (good part List.mem_cons_self).1
      cases rest <;> rfl
    rw [listed, filled]
    exact splitOnP_commaSeparated _ (List.cons_ne_nil _ _) fun other member => (good other member).2

theorem without_of_all (char : Char) (tokens : Tokens)
    (all : tokens.all (!Token.isPunct char ·) = true) : Without char tokens := by
  intro t member
  exact Bool.not_eq_true' _ ▸ List.all_eq_true.mp all t member

theorem without_append (char : Char) (front back : Tokens) (inFront : Without char front)
    (inBack : Without char back) : Without char (front ++ back) := by
  intro t member
  rcases List.mem_append.mp member with first | second
  · exact inFront t first
  · exact inBack t second

theorem without_cons (char : Char) (t : Token) (rest : Tokens) (first : t.isPunct char = false)
    (more : Without char rest) : Without char (t :: rest) :=
  List.forall_mem_cons.mpr ⟨first, more⟩

theorem without_rooted (char : Char) (other : char ≠ ':') (names : List String) :
    Without char (Name.rooted names) := by
  intro t member
  obtain ⟨name, _, inStep⟩ := List.mem_flatMap.mp member
  have colon : (':' == char) = false := beq_eq_false_iff_ne.mpr other.symm
  rcases List.mem_append.mp inStep with inColons | isName
  · rcases List.mem_pair.mp inColons with rfl | rfl
    · exact colon
    · exact colon
  · rw [List.mem_singleton.mp isName]
    rfl

/-- A constant in front of other items is an item of its own. -/
theorem constant?_cons (wanted name : String) (ty value rest : Tokens) (tyWithout : Without ';' ty)
    (valueWithout : Without ';' value) (untyped : Without '=' ty) :
    constant? wanted (Code.constant name ty value ++ rest) =
      if name = wanted then some value else constant? wanted rest := by
  have cut : Code.constant name ty value ++ rest =
      (.ident "const" :: .ident name :: .punct ':' false :: ty ++ .punct '=' false :: value) ++
        .punct ';' false :: rest := by
    simp [Code.constant, Code.typed, Token.op, Token.operator]
  have item : Without ';'
      (.ident "const" :: .ident name :: .punct ':' false :: ty ++ .punct '=' false :: value) := by
    refine without_append _ _ _ ?_ ?_
    · simpa [Without, Token.isPunct] using tyWithout
    · simpa [Without, Token.isPunct] using valueWithout
  have before : ∀ t ∈ .punct ':' false :: ty, (!Token.isPunct '=' t) = true := by
    simpa [Without, Token.isPunct] using untyped
  have after : ((.punct ':' false :: ty ++ .punct '=' false :: value).dropWhile
      (!Token.isPunct '=' ·)).drop 1 = value := by
    rw [List.dropWhile_append_of_pos before]
    rfl
  unfold constant?
  rw [cut, List.splitOnP_append_cons_of_forall_mem item _ rfl, List.findSome?_cons]
  by_cases same : name = wanted
  · simp only [List.cons_append, same, ↓reduceIte] at after ⊢
    rw [after]
  · simp only [List.cons_append, same, ↓reduceIte]

end Tokens

end ClassExpansion
