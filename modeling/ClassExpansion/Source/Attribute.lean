import ClassExpansion.Source.Expression

set_option autoImplicit false

/- Attributes: a path, alone, with tokens in a group, or with a value. -/
namespace ClassExpansion

/-- A path of names without arguments. -/
structure NamePath where
  rooted : Bool
  names : List String
  deriving BEq, DecidableEq

namespace NamePath

def tokens (path : NamePath) : Tokens :=
  (if path.rooted then Token.op "::" else [])
    ++ joinTokens (Token.op "::") (path.names.map fun name => [.ident name])

def name? (path : NamePath) : Option String :=
  match path.rooted, path.names with
  | false, [name] => some name
  | _, _ => none

def isName (path : NamePath) (name : String) : Bool := path.name? == some name

/-- The names with colons between them, whether or not the path begins at the root. -/
def dotted (path : NamePath) : String := "::".intercalate path.names

/-- The names as they are written, with the colons of the root. -/
def written (path : NamePath) : String := (if path.rooted then "::" else "") ++ path.dotted

end NamePath

inductive MetaBody
  | bare
  | list (delimiter : Delimiter) (tokens : Tokens)
  | value (value : Expr)

/-- What an attribute says. -/
structure MetaItem where
  path : NamePath
  body : MetaBody

namespace MetaItem

def tokens (item : MetaItem) : Tokens :=
  item.path.tokens ++ match item.body with
    | .bare => []
    | .list delimiter tokens => [.group delimiter tokens]
    | .value value => Token.op "=" ++ value.tokens

end MetaItem

/-- An inner attribute belongs to the item around it. -/
structure Attribute where
  inner : Bool
  item : MetaItem

namespace Attribute

def path (a : Attribute) : NamePath := a.item.path

def tokens (a : Attribute) : Tokens :=
  Token.op "#" ++ (if a.inner then Token.op "!" else [])
    ++ [.bracket a.item.tokens]

def isNamed (a : Attribute) (name : String) : Bool := a.path.isName name

def isBare (a : Attribute) : Bool :=
  match a.item.body with
  | .bare => true
  | _ => false

end Attribute

def attributeTokens (attributes : List Attribute) : Tokens := attributes.flatMap (·.tokens)

end ClassExpansion
