import ClassExpansion.Code.Struct

set_option autoImplicit false

/- The struct of the keyword fields of a class, whose default value holds their defaults, and the
cell in which the values that factories make are kept. -/
namespace ClassExpansion

/-- The default of a keyword field as code. -/
inductive DefaultCode
  /-- A text, converted to the type of the field. -/
  | converted (value : Expr)
  | verbatim (value : Expr)
  /-- A copy of what the factory at the index has made. -/
  | slot (index : Nat)
  /-- The default of the type. -/
  | usual

namespace DefaultCode

def tokens (cls : String) : DefaultCode → Tokens
  | converted value =>
    Name.rooted ["core", "convert", "Into", "into"] ++ [.paren value.tokens]
  | verbatim value => value.tokens
  | slot index =>
    let made := Code.pathOf [cls, "__inity_defaults"] ++ [.paren []] ++ Token.op "."
      ++ [.literal (toString index)]
    Name.rooted ["core", "clone", "Clone", "clone"] ++ [.paren (Code.reference made)]
  | usual => Code.defaultValue

/-- The code of each default in turn. Factories take the indices from `next` on. -/
def number (next : Nat) : List Field → List (String × DefaultCode)
  | [] => []
  | field :: rest =>
    match field.default with
    | .value e =>
      (field.ident, if e.isText then converted e else verbatim e) :: number next rest
    | .factory _ => (field.ident, slot next) :: number (next + 1) rest
    | .property => (field.ident, usual) :: number next rest
    | .missing => (field.ident, usual) :: number next rest

end DefaultCode

structure KeywordOptions where
  /-- The class. -/
  cls : String
  layout : StructCode
  defaults : List (String × DefaultCode)

namespace KeywordOptions

def documentation (cls : String) : String :=
  "Keyword fields of [`" ++ cls ++ "::new_with`], holding their defaults."

/-- The options of a class, if it has keyword fields. -/
def ofFields? (decl : ClassDecl) (fields : FieldList) : Option KeywordOptions :=
  if fields.keyword.isEmpty then none
  else some {
    cls := decl.ident
    layout := {
      attrs := [Code.documentation (documentation decl.ident)]
      vis := decl.vis
      name := decl.optionsName
      fields := fields.keyword.map fun field =>
        ⟨field.attrs.filter (·.isNamed "doc"), field.vis, field.ident, field.valueTy⟩ }
    defaults := DefaultCode.number 0 fields.keyword }

/-- The struct and its default value. -/
def tokens (options : KeywordOptions) : Tokens :=
  let entries := options.defaults.map fun (name, code) => Code.typed name (code.tokens options.cls)
  let value := [.ident "Self", .brace (commaSeparated entries)]
  options.layout.tokens
    ++ Code.traitImplementation (Name.rooted ["core", "default", "Default"]) options.layout.name
      (Code.function "default" [] [.ident "Self"] value)

end KeywordOptions

/-- A factory whose value is made once. -/
structure FactorySlot where
  ty : Ty
  callable : Expr

namespace FactorySlot

/-- The factories among keyword fields, in order. -/
def ofKeyword (fields : List Field) : List FactorySlot :=
  fields.filterMap fun field =>
    match field.default with
    | .factory callable => some ⟨field.valueTy, callable⟩
    | _ => none

/-- The code that makes the value. -/
def tokens (slot : FactorySlot) : Tokens :=
  Name.rooted ["inity", "DefaultFactory"] ++ Token.op "::" ++ Token.op "<" ++ slot.ty.tokens
    ++ Token.op ">" ++ Token.op "::"
    ++ [.ident "produce", .paren (Code.reference [.paren slot.callable.tokens])]

/-- A cell that holds a value of the type once it is made. -/
def onceCell (ty : Token) : Tokens :=
  Name.rooted ["std", "sync", "OnceLock"] ++ Token.op "<" ++ [ty] ++ Token.op ">"

/-- The function that makes the values of all factories at its first call, if there are some. -/
def cellTokens (cls : String) (slots : List FactorySlot) : Tokens :=
  if slots.isEmpty then []
  else
    let ty := Code.tuple (slots.map (·.ty.tokens))
    let cell := .ident "static" :: Code.typed "DEFAULTS" (onceCell ty) ++ Token.op "="
      ++ Name.rooted ["std", "sync", "OnceLock", "new"] ++ [.paren []] ++ Token.op ";"
    let arguments := commaSeparated [
      Code.reference [.ident "DEFAULTS"], [Code.quoted cls],
      [.literal (toString slots.length ++ "usize")],
      Token.op "||" ++ [Code.tuple (slots.map tokens)]]
    Code.marked [.ident "doc", .paren [.ident "hidden"]]
      ++ Code.function "__inity_defaults" [] (Code.staticReference [ty])
        (cell ++ Name.rooted ["inity", "__private", "materialize"] ++ [.paren arguments])

end FactorySlot

end ClassExpansion
