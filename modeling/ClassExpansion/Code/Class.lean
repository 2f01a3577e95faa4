import ClassExpansion.Class.Signature
import ClassExpansion.Code.Constants
import ClassExpansion.Code.Constructor
import ClassExpansion.Directory.FieldInfo

set_option autoImplicit false

/- All that is generated in place of a class. -/
namespace ClassExpansion

namespace Field

/-- The entry of the field in the directory. -/
def info (field : Field) : FieldInfo where
  name := field.name
  typeText := field.typeText
  role := field.role
  default := field.default.kind
  declaredIn := field.owner
  storage? := field.storage?.map Name.unraw
  metadata := field.metadata

end Field

namespace ClassDecl

def directory (decl : ClassDecl) (fields : FieldList) : ClassDirectory :=
  ⟨decl.ident, fields.map Field.info⟩

end ClassDecl

structure ClassCode where
  /-- The name and the parameters of the class. -/
  title : String
  layout : StructCode
  options? : Option KeywordOptions
  constructor : Constructor
  constants : List ConstantCode
  directory : ClassDirectory

namespace ClassCode

def ofFields (table : ClassTable) (decl : ClassDecl) (fields : FieldList) :
    Attempt ClassCode := do
  let constructor ← Constructor.ofFields decl fields
  constructor.check
  let constants ← ConstantCode.ofFields table decl fields
  return {
    title := "inity: " ++ decl.ident ++ "::new" ++ fields.signature
    layout := decl.layout fields
    options? := KeywordOptions.ofFields? decl fields
    constructor := constructor
    constants := constants
    directory := decl.directory fields }

def optionsTokens (code : ClassCode) : Tokens :=
  match code.options? with
  | some options => options.tokens
  | none => []

def tokens (code : ClassCode) : Attempt Tokens := do
  let directory ← code.directory.tokens
  return code.layout.tokens ++ code.optionsTokens ++ code.constructor.tokens
    ++ ConstantCode.allTokens code.directory.name code.constants ++ directory

/-- The text that shows how the class is constructed. -/
def debugText (code : ClassCode) : String :=
  code.title ++ "\n" ++ Token.text code.optionsTokens ++ "\n" ++ Token.text code.constructor.tokens

end ClassCode

/-- What comes in place of a class, and the text that its debug option asks for. -/
structure Replacement where
  tokens : Tokens
  debug? : Option String

namespace ClassTable

/-- Writes the code of a class with the fields. -/
def write (table : ClassTable) (decl : ClassDecl) (fields : FieldList) : Attempt Replacement := do
  let code ← ClassCode.ofFields table decl fields
  let tokens ← code.tokens
  return ⟨tokens, if decl.debug then some code.debugText else none⟩

/-- The nearest class above `decl` whose hook is known. -/
def hookedBase? (table : ClassTable) (decl : ClassDecl) : Attempt (Option ClassDecl) := do
  return ((← table.lineage decl).drop 1).find? (·.hasHook)

/-- Hooks are not inherited: a class with construction-only fields needs its own hook where a
base has one. -/
def requireOwnHook (table : ClassTable) (decl : ClassDecl) (fields : FieldList) :
    Attempt Unit := do
  if decl.hasHook || (fields.ofRole .initVar).isEmpty then return
  match ← table.hookedBase? decl with
  | none => return
  | some base =>
    let baseHook ← base.hook
    let ownHook ← decl.hook
    Attempt.fail (.missingHook decl.ident base.ident baseHook ownHook)

/-- A class with a constructor of its own stays as it is declared. -/
def generate (table : ClassTable) (decl : ClassDecl) : Attempt Replacement := do
  if decl.hasOwnConstructor then return ⟨decl.declared.tokens, none⟩
  let fields ← FieldList.collect table decl
  table.requireOwnHook decl fields
  table.write decl fields

end ClassTable

end ClassExpansion
