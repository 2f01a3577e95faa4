import ClassExpansion.Class.Name
import ClassExpansion.Text.Quoted

set_option autoImplicit false

/- Phrases of generated code. -/
namespace ClassExpansion.Code

def words (names : List String) : Tokens := names.map Token.ident

/-- The literal of a text. -/
def quoted (text : String) : Token := .literal (Text.quotedLiteral text)

/-- The names with colons between them. -/
def pathOf (names : List String) : Tokens := joinTokens (Token.op "::") (names.map Name.token)

/-- An attribute with the body. -/
def marked (body : Tokens) : Tokens := Token.op "#" ++ [.bracket body]

/-- An attribute that allows what the lints warn of. -/
def allowing (lints : List (List String)) : Tokens :=
  marked [.ident "allow", .paren (commaSeparated (lints.map pathOf))]

/-- An attribute that documents what follows. -/
def documentation (text : String) : Attribute :=
  ⟨false, ⟨⟨false, ["doc"]⟩, .value (.lit [] (.ofText (Text.quotedLiteral text)))⟩⟩

def documented (text : String) : Tokens := (documentation text).tokens

def typed (name : String) (ty : Tokens) : Tokens := .ident name :: Token.op ":" ++ ty

/-- Every part with a comma after it. -/
def commaEnded (parts : List Tokens) : Tokens := parts.flatMap (· ++ Token.op ",")

/-- A tuple, or the type of one, that has a comma after every part. -/
def tuple (parts : List Tokens) : Token := .paren (commaEnded parts)

/-- A function of the name, after its visibility. -/
def function (name : String) (parameters result body : Tokens) : Tokens :=
  words ["fn", name] ++ [.paren parameters] ++ Token.op "->" ++ result ++ [.brace body]

/-- A constant with a type and a value. -/
def constant (name : String) (ty value : Tokens) : Tokens :=
  .ident "const" :: typed name ty ++ Token.op "=" ++ value ++ Token.op ";"

def reference (target : Tokens) : Tokens := Token.op "&" ++ target

def staticReference (target : Tokens) : Tokens :=
  reference ([.punct '\x27' true, .ident "static"] ++ target)

/-- The items in an implementation of the type itself. -/
def implementation (name : String) (items : Tokens) : Tokens :=
  words ["impl", name] ++ [.brace items]

/-- The items in an implementation of a trait for the type. -/
def traitImplementation (ofTrait : Tokens) (name : String) (items : Tokens) : Tokens :=
  .ident "impl" :: ofTrait ++ words ["for", name] ++ [.brace items]

/-- The value that a type has by default. -/
def defaultValue : Tokens :=
  Name.rooted ["core", "default", "Default", "default"] ++ [.paren []]

end ClassExpansion.Code
