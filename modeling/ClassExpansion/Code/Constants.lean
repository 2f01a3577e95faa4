import ClassExpansion.Code.Struct

set_option autoImplicit false

/- Constants of a class. Role and type come from the field, the value from the nearest class in
the line that says what the field is by default. -/
namespace ClassExpansion

structure ConstantCode where
  /-- The name of the field. -/
  field : String
  vis : Tokens
  name : String
  ty : Ty
  value : Expr

namespace ConstantCode

/-- The constant of a field of the class. A field without a default has none. -/
def ofField? (table : ClassTable) (decl : ClassDecl) (field : Field) :
    Attempt (Option ConstantCode) := do
  match ← table.attribute? decl field.name with
  | none => return none
  | some found =>
    match Default.ofSpec found.spec decl.settings with
    | .value e =>
      let name ← Attempt.name (Text.upperSnake field.name)
      return some ⟨field.name, field.vis, name, field.valueTy, e⟩
    | .missing => return none
    | .factory _ => Attempt.fail (.factoryConstant field.name)
    | .property => Attempt.fail (.factoryConstant field.name)

def ofFields (table : ClassTable) (decl : ClassDecl) (fields : FieldList) :
    Attempt (List ConstantCode) := do
  let found ← Attempt.gather ((fields.ofRole .classVar).map (ofField? table decl))
  return found.filterMap id

def tokens (code : ConstantCode) : Tokens :=
  Code.documented ("Class-scoped `" ++ code.field ++ "`.") ++ code.vis
    ++ Code.constant code.name code.ty.tokens code.value.tokens

/-- The constants of the class in one implementation, if there are some. -/
def allTokens (cls : String) (codes : List ConstantCode) : Tokens :=
  if codes.isEmpty then [] else Code.implementation cls (codes.flatMap tokens)

end ConstantCode

end ClassExpansion
