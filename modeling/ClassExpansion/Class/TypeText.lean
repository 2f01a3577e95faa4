import ClassExpansion.Token.Printer

set_option autoImplicit false

/- The text of a type as people write it: blanks next to certain characters are left out. -/
namespace ClassExpansion.TypeText

/-- A blank after one of these is left out. -/
def gluesRight : List Char := ['<', ':', '&', '(', '[']

/-- A blank before one of these is left out. -/
def gluesLeft : List Char := ['<', '>', ':', ',', ')', ']']

/-- Leaves out blanks, given the character before. -/
def glue (before : Option Char) : List Char → List Char
  | [] => []
  | c :: rest =>
    let dropped := c = ' '
      && (before.any gluesRight.contains || rest.head?.any gluesLeft.contains)
    if dropped then glue (some c) rest else c :: glue (some c) rest

/-- The text of the tokens of a type. -/
def ofTokens (tokens : Tokens) : String :=
  String.ofList (glue none (Token.charsAll tokens))

end ClassExpansion.TypeText
