import ClassExpansion.Directory.FieldRole
import ClassExpansion.Directory.MetaValue

set_option autoImplicit false

/- What is known of the fields of a class when the program runs. -/
namespace ClassExpansion

structure FieldInfo where
  name : String
  /-- The declared type as text. -/
  typeText : String
  role : FieldRole
  default : DefaultKind
  /-- The class that declares the field. -/
  declaredIn : String
  /-- The name under which the field is stored. -/
  storage? : Option String
  metadata : List MetaEntry

namespace FieldInfo

def hasDefault (info : FieldInfo) : Bool := info.default.isPresent

/-- The value of the first entry of metadata with the key. -/
def metadata? (info : FieldInfo) (key : String) : Option MetaValue :=
  MetaEntry.get? info.metadata key

def same (a b : FieldInfo) : Bool :=
  a.name == b.name && a.typeText == b.typeText && a.role == b.role && a.default == b.default
    && a.declaredIn == b.declaredIn && a.storage? == b.storage?
    && MetaEntry.sameAll a.metadata b.metadata

/-- A call of the method on what stands before. -/
def chained (method : String) (argument : Tokens) : Tokens :=
  Token.op "." ++ [.ident method, .paren argument]

def storageTokens (info : FieldInfo) : Tokens :=
  match info.storage? with
  | some storage => chained "with_storage" [Code.quoted storage]
  | none => []

def metadataTokens (info : FieldInfo) : Attempt Tokens := do
  if info.metadata.isEmpty then return []
  let entries ← info.metadata.mapM MetaEntry.tokens
  return chained "with_metadata" (Code.reference [.bracket (commaSeparated entries)])

/-- The code that makes the entry. -/
def tokens (info : FieldInfo) : Attempt Tokens := do
  let arguments := commaSeparated [
    [Code.quoted info.name], [Code.quoted info.typeText], info.role.tokens, info.default.tokens,
    [Code.quoted info.declaredIn]]
  return Name.rooted ["inity", "FieldInfo", "new"] ++ [.paren arguments]
    ++ info.storageTokens ++ (← info.metadataTokens)

end FieldInfo

/-- The fields of a class by name and role. -/
structure ClassDirectory where
  name : String
  fields : List FieldInfo

namespace ClassDirectory

/-- The first field with the name. -/
def field? (directory : ClassDirectory) (name : String) : Option FieldInfo :=
  directory.fields.find? (·.name == name)

def fieldsOf (directory : ClassDirectory) (role : FieldRole) : List FieldInfo :=
  directory.fields.filter (·.role == role)

/-- The implementation that holds the directory. -/
def tokens (directory : ClassDirectory) : Attempt Tokens := do
  let entries ← directory.fields.mapM FieldInfo.tokens
  let name :=
    Code.constant "NAME" (Code.staticReference [.ident "str"]) [Code.quoted directory.name]
  let fields := Code.constant "FIELDS"
    (Code.staticReference [.bracket (Name.rooted ["inity", "FieldInfo"])])
    (Code.reference [.bracket (commaSeparated entries)])
  return Code.traitImplementation (Name.rooted ["inity", "Inity"]) directory.name (name ++ fields)

end ClassDirectory

end ClassExpansion
