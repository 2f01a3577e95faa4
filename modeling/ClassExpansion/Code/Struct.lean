import ClassExpansion.Class.FieldList
import ClassExpansion.Code.Phrase

set_option autoImplicit false

/- Structs as they are written for a class. -/
namespace ClassExpansion

namespace StructField

def tokens (field : StructField) : Tokens :=
  attributeTokens field.attrs ++ field.vis ++ Code.typed field.name field.ty.tokens

end StructField

/-- A struct with named fields. -/
structure StructCode where
  attrs : List Attribute
  vis : Tokens
  name : String
  fields : List StructField

namespace StructCode

def tokens (code : StructCode) : Tokens :=
  attributeTokens code.attrs ++ code.vis ++ Code.words ["struct", code.name]
    ++ [.brace (commaSeparated (code.fields.map StructField.tokens))]

end StructCode

namespace ClassDecl

/-- The struct that holds the stored fields, inherited ones included. -/
def layout (decl : ClassDecl) (fields : FieldList) : StructCode where
  attrs := decl.attrs
  vis := decl.vis
  name := decl.ident
  fields := fields.stored.filterMap fun field =>
    field.storage?.map fun storage => ⟨field.attrs, field.vis, storage, field.valueTy⟩

/-- The struct as it is declared. -/
def declared (decl : ClassDecl) : StructCode where
  attrs := decl.attrs
  vis := decl.vis
  name := decl.ident
  fields := decl.fields.map fun field => ⟨field.attrs, field.vis, field.ident, field.ty⟩

end ClassDecl

end ClassExpansion
