import ClassExpansion.Directory.FieldRole

set_option autoImplicit false

/- Values of marker types. They hold nothing, so all values of a type are equal. -/
namespace ClassExpansion

structure MarkerValue where
  /-- The role that the marker gives. -/
  role : FieldRole
  /-- The text of the type that the marker is for. -/
  typeText : String

namespace MarkerValue

/-- The marker with its type. -/
def text (marker : MarkerValue) : String :=
  marker.role.variantName ++ "<" ++ marker.typeText ++ ">"

/-- Equality of two values of one marker type. -/
def same (_ _ : MarkerValue) : Bool := true

/-- The bytes that a value takes. -/
def size (_ : MarkerValue) : Nat := 0

end MarkerValue

end ClassExpansion
