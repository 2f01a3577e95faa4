import ClassExpansion.Class.Default
import ClassExpansion.Class.Table

set_option autoImplicit false

/- The fields of a class with those of its bases, each name once. -/
namespace ClassExpansion

structure Field where
  ident : String
  ty : Ty
  /-- The type of the values. -/
  valueTy : Ty
  vis : Tokens
  attrs : List Attribute
  /-- The class that declares the field. -/
  owner : String
  default : Default
  metadata : List MetaEntry
  /-- The stored name of a property. -/
  shadow : String

namespace Field

def name (field : Field) : String := Name.unraw field.ident

def role (field : Field) : Role := Role.ofField field.ty field.default

def hasDefault (field : Field) : Bool := field.default.isPresent

/-- The name under which the field is stored. -/
def storage? (field : Field) : Option String :=
  match field.role with
  | .standard => some field.ident
  | .propertyShadow => some field.shadow
  | .initVar => none
  | .classVar => none

/-- A declared field as the class with the settings has it. Its default is the attribute as seen
from the class that declares it. -/
def resolve (table : ClassTable) (settings : Settings) (declared : ClassTable.Declared) :
    Attempt Field := do
  let field := declared.field
  let found ← table.attribute? declared.owner field.name
  let valueTy ← Attempt.lift field.ty.valueType
  return {
    ident := field.ident
    ty := field.ty
    valueTy := valueTy
    vis := field.vis
    attrs := field.attrs
    owner := declared.owner.ident
    default := match found with
      | some a => Default.ofSpec a.spec settings
      | none => .missing
    metadata := match found with
      | some a => a.spec.metadata
      | none => []
    shadow := ← settings.shadow field.name }

end Field

abbrev FieldList := List Field

namespace FieldList

/-- Puts a field in place of an earlier one with its name, or at the end. -/
def put (fields : FieldList) (field : Field) : FieldList :=
  if fields.any (·.name == field.name) then
    fields.map fun seen => if seen.name == field.name then field else seen
  else fields ++ [field]

def ofRole (fields : FieldList) (role : Role) : List Field := fields.filter (·.role == role)

def stored (fields : FieldList) : List Field := fields.filter (·.role.isStored)

def parameters (fields : FieldList) : List Field := fields.filter (·.role.isParameter)

/-- Parameters without a default. -/
def required (fields : FieldList) : List Field := fields.parameters.filter (!·.hasDefault)

/-- Parameters with a default. -/
def keyword (fields : FieldList) : List Field := fields.parameters.filter (·.hasDefault)

/-- The fields of a class: a name stands where it comes first in the line, and what it is is
what is declared last. -/
def collect (table : ClassTable) (decl : ClassDecl) : Attempt FieldList := do
  let line ← table.lineage decl
  let fields ← Attempt.gather
    ((ClassTable.declarations line).map (Field.resolve table decl.settings))
  return fields.foldl put []

end FieldList

end ClassExpansion
