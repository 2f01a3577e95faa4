set_option autoImplicit false

/- Source as a tree of tokens: names, punctuation, literals, and groups between delimiters. -/
namespace ClassExpansion

inductive Delimiter
  | paren
  | brace
  | bracket
  /-- Holds tokens together without being written. -/
  | invisible
  deriving BEq, DecidableEq, Inhabited, Repr

inductive Token
  | ident (text : String)
  /-- A joint character stands directly before another one. -/
  | punct (char : Char) (joint : Bool)
  | literal (text : String)
  | group (delimiter : Delimiter) (body : List Token)
  deriving BEq, Inhabited, Repr

abbrev Tokens := List Token

namespace Token

mutual

/-- Counts the token and all that it holds. -/
def size : Token → Nat
  | ident _ => 1
  | punct _ _ => 1
  | literal _ => 1
  | group _ body => 1 + sizeAll body

def sizeAll : List Token → Nat
  | [] => 0
  | t :: rest => t.size + sizeAll rest

end

theorem size_pos (t : Token) : 0 < t.size := by
  cases t <;> simp only [size] <;> omega

theorem sizeAll_append (a b : Tokens) : sizeAll (a ++ b) = sizeAll a + sizeAll b := by
  induction a with
  | nil => simp only [List.nil_append, sizeAll, Nat.zero_add]
  | cons t rest ih => simp only [List.cons_append, sizeAll, ih, Nat.add_assoc]

/-- An operator as a unit: every character but the last one is joint. -/
def operator : List Char → Tokens
  | [] => []
  | [c] => [punct c false]
  | c :: rest => punct c true :: operator rest

def op (text : String) : Tokens := operator text.toList

def paren (body : Tokens) : Token := group .paren body

def brace (body : Tokens) : Token := group .brace body

def bracket (body : Tokens) : Token := group .bracket body

mutual

/-- A token without invisible groups and spacing. -/
def plain : Token → List Token
  | ident text => [ident text]
  | punct c _ => [punct c false]
  | literal text => [literal text]
  | group .invisible body => plainAll body
  | group d body => [group d (plainAll body)]

def plainAll : List Token → List Token
  | [] => []
  | t :: rest => t.plain ++ plainAll rest

end

theorem plainAll_append (a b : Tokens) : plainAll (a ++ b) = plainAll a ++ plainAll b := by
  induction a with
  | nil => simp only [List.nil_append, plainAll]
  | cons t rest ih => simp only [List.cons_append, plainAll, ih, List.append_assoc]

end Token

/-- Puts `separator` between neighbours. -/
def joinTokens (separator : Tokens) : List Tokens → Tokens
  | [] => []
  | [only] => only
  | first :: rest => first ++ separator ++ joinTokens separator rest

def commaSeparated (parts : List Tokens) : Tokens := joinTokens (Token.op ",") parts

end ClassExpansion
