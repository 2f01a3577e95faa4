import ClassExpansion.Class.FieldList
import ClassExpansion.Class.TypeText

set_option autoImplicit false

/- The parameters of a class as text: the required ones, and after a star those with defaults. -/
namespace ClassExpansion

namespace Field

/-- The declared type as text. -/
def typeText (field : Field) : String := TypeText.ofTokens field.ty.tokens

/-- The name with the type of the values. -/
def parameterText (field : Field) : String :=
  field.name ++ ": " ++ TypeText.ofTokens field.valueTy.tokens

def keywordText (field : Field) : String :=
  field.parameterText ++ " = " ++ field.default.summary

end Field

namespace FieldList

def signature (fields : FieldList) : String :=
  let required := fields.required.map Field.parameterText
  let keyword := fields.keyword.map Field.keywordText
  let parts := if keyword.isEmpty then required else required ++ "*" :: keyword
  "(" ++ ", ".intercalate parts ++ ")"

end FieldList

end ClassExpansion
