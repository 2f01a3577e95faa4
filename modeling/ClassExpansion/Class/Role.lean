import ClassExpansion.Directory.FieldRole

set_option autoImplicit false

/- What a field is for the constructor. -/
namespace ClassExpansion

inductive Role
  /-- A parameter, stored under its own name. -/
  | standard
  /-- A parameter, stored under the shadow name. -/
  | propertyShadow
  /-- A parameter that is handed to the hook and never stored. -/
  | initVar
  /-- Not a parameter but a constant of the class. -/
  | classVar
  deriving DecidableEq, Inhabited, Repr

namespace Role

def all : List Role := [standard, propertyShadow, initVar, classVar]

/-- Roles that the name of a declared type can give. -/
def markers : List Role := [propertyShadow, initVar, classVar]

def markerName : Role → String
  | standard => "STANDARD"
  | propertyShadow => "PROPERTY_SHADOW"
  | initVar => "INIT_VAR"
  | classVar => "CLASS_VAR"

def isParameter : Role → Bool
  | classVar => false
  | _ => true

def isStored : Role → Bool
  | standard => true
  | propertyShadow => true
  | _ => false

/-- The role with the marker name, among those that markers give. -/
def ofMarker? (name : String) : Option Role := markers.find? fun role => role.markerName == name

def ofName? (name : String) : Option Role := all.find? fun role => role.markerName == name

/-- The role in the directory that generated code names for it. -/
def named : Role → FieldRole
  | standard => .standard
  | propertyShadow => .propertyShadow
  | initVar => .initVar
  | classVar => .classVar

instance : Coe Role FieldRole := ⟨named⟩

def tokens (role : Role) : Tokens := role.named.tokens

@[simp] theorem named_isParameter (role : Role) : role.named.isParameter = role.isParameter := by
  cases role <;> rfl

@[simp] theorem named_isStored (role : Role) : role.named.isStored = role.isStored := by
  cases role <;> rfl

end Role

end ClassExpansion
