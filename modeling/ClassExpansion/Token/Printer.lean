import ClassExpansion.Token

set_option autoImplicit false

/- The text of tokens: one blank between neighbours, none after a joint character, and none
just inside parentheses and brackets. -/
namespace ClassExpansion.Token

def opening : Delimiter → List Char
  | .paren => ['(']
  | .brace => ['\x7b', ' ']
  | .bracket => ['[']
  | .invisible => []

/-- Braces keep a blank before the closing one, unless they are empty. -/
def closing (delimiter : Delimiter) (empty : Bool) : List Char :=
  match delimiter with
  | .paren => [')']
  | .brace => if empty then ['\x7d'] else [' ', '\x7d']
  | .bracket => [']']
  | .invisible => []

/-- What stands between `t` and the token after it. -/
def gapAfter (t : Token) : List Char :=
  match t with
  | punct _ true => []
  | _ => [' ']

mutual

def chars : Token → List Char
  | ident text => text.toList
  | punct c _ => [c]
  | literal text => text.toList
  | group d body => opening d ++ charsAll body ++ closing d body.isEmpty

def charsAll : List Token → List Char
  | [] => []
  | t :: rest => if rest.isEmpty then t.chars else t.chars ++ t.gapAfter ++ charsAll rest

end

/-- The text of a list of tokens. -/
def text (tokens : Tokens) : String := String.ofList (charsAll tokens)

end ClassExpansion.Token
