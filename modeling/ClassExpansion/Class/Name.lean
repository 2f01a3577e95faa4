import ClassExpansion.Source.Reading

set_option autoImplicit false

/- Names of declared and of generated things. A raw name is written with `r#` in front, which
does not belong to the name itself. -/
namespace ClassExpansion.Name

def rawMark : List Char := ['r', '#']

/-- The name without the mark of a raw name. -/
def unraw (name : String) : String :=
  match name.toList with
  | 'r' :: '#' :: rest => String.ofList rest
  | _ => name

/-- A text that a name can have, be it a keyword. -/
def isUsable (text : String) : Bool :=
  match text.toList with
  | 'r' :: '#' :: rest =>
    Text.isIdentText rest && !Lexer.unrawable.contains (String.ofList rest)
  | chars => Text.isIdentText chars

def token (name : String) : Tokens := [.ident name]

/-- A path from the root. -/
def rooted (names : List String) : Tokens :=
  names.flatMap fun name => Token.op "::" ++ token name

end ClassExpansion.Name

namespace ClassExpansion

/-- Why no answer can be given at all. -/
inductive Abort
  /-- A name was to be made of a text that is none. -/
  | unusableName (text : String)
  /-- A number without a written form was to be written. -/
  | unwritableNumber
  deriving BEq, DecidableEq, Repr

end ClassExpansion
