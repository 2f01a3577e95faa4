import ClassExpansion.Class.Name

set_option autoImplicit false

/- What a running program knows about the construction of a field. -/
namespace ClassExpansion

/-- The role of a field in the directory of its class. -/
inductive FieldRole
  | standard
  | propertyShadow
  | initVar
  | classVar
  deriving DecidableEq, Inhabited, Repr

namespace FieldRole

def markerName : FieldRole → String
  | standard => "STANDARD"
  | propertyShadow => "PROPERTY_SHADOW"
  | initVar => "INIT_VAR"
  | classVar => "CLASS_VAR"

def variantName : FieldRole → String
  | standard => "Standard"
  | propertyShadow => "PropertyShadow"
  | initVar => "InitVar"
  | classVar => "ClassVar"

def isParameter : FieldRole → Bool
  | classVar => false
  | _ => true

def isStored : FieldRole → Bool
  | standard => true
  | propertyShadow => true
  | _ => false

def tokens (role : FieldRole) : Tokens := Name.rooted ["inity", "FieldRole", role.variantName]

end FieldRole

/-- Where the default of a field comes from. -/
inductive DefaultKind
  | missing
  | value
  | factory
  | property
  deriving DecidableEq, Inhabited, Repr

namespace DefaultKind

def all : List DefaultKind := [missing, value, factory, property]

def name : DefaultKind → String
  | missing => "Missing"
  | value => "Value"
  | factory => "Factory"
  | property => "Property"

def ofName? (name : String) : Option DefaultKind := all.find? fun kind => kind.name == name

def isPresent : DefaultKind → Bool
  | missing => false
  | _ => true

def tokens (kind : DefaultKind) : Tokens := Name.rooted ["inity", "DefaultKind", kind.name]

end DefaultKind

end ClassExpansion
