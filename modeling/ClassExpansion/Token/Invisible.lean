import ClassExpansion.Token.Lexer

set_option autoImplicit false

/- A written form of invisible groups: a mark before a group makes it invisible. -/
namespace ClassExpansion.Token

def invisibleMark : String := "__NONE__"

mutual

/-- Makes each marked group invisible, at every depth, and drops the marks. -/
def unmark : Token → Token
  | .group d body => .group d (unmarkAll body)
  | t => t

def unmarkAll : List Token → List Token
  | [] => []
  | .ident name :: rest =>
    if name = invisibleMark then unmarkNext rest else .ident name :: unmarkAll rest
  | t :: rest => unmark t :: unmarkAll rest

/-- Reads on after a mark. -/
def unmarkNext : List Token → List Token
  | [] => []
  | .group _ body :: rest => .group .invisible (unmarkAll body) :: unmarkAll rest
  | .ident name :: rest =>
    if name = invisibleMark then unmarkNext rest else .ident name :: unmarkAll rest
  | t :: rest => unmark t :: unmarkAll rest

end

end Token

/-- The tokens of a text in which invisible groups are marked. -/
def sourceTokens? (text : String) : Option Tokens :=
  (Lexer.tokens? text).map Token.unmarkAll

end ClassExpansion
