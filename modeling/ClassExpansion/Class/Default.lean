import ClassExpansion.Class.Declaration
import ClassExpansion.Class.Marker

set_option autoImplicit false

/- The default of a field, as its specification resolves under the settings of a class. -/
namespace ClassExpansion

inductive Default
  /-- The field is required. -/
  | missing
  /-- An expression for every construction. -/
  | value (value : Expr)
  /-- A callable that makes the value once for all objects. -/
  | factory (callable : Expr)
  /-- The constructor fills the field. -/
  | property

namespace Default

/-- Whether the text holds the other one. -/
def holds (part text : List Char) : Bool :=
  part.isPrefixOf text || match text with
    | [] => false
    | _ :: rest => holds part rest

/-- Whether an expression makes a default a factory, in any grouping: it is a call of `factory`,
or the last name of its path holds the suffix. -/
def isTagged (suffix : String) : Expr → Bool
  | .group _ inner => isTagged suffix inner
  | .paren _ inner => isTagged suffix inner
  | .call _ function _ => function.isFactoryName
  | .path _ named => named.lastName?.any fun name => holds suffix.toList name.toList
  | _ => false

def ofSpec (spec : FieldSpec) (settings : Settings) : Default :=
  if spec.property then property
  else match spec.default?, spec.factory? with
    | some e, _ => if isTagged settings.factorySuffix e then factory e else value e
    | none, some callable => factory callable
    | none, none => missing

def kind : Default → DefaultKind
  | missing => .missing
  | value _ => .value
  | factory _ => .factory
  | property => .property

def isPresent : Default → Bool
  | missing => false
  | _ => true

theorem kind_isPresent (d : Default) : d.kind.isPresent = d.isPresent := by
  cases d <;> rfl

/-- The default as a summary of the constructor shows it. -/
def summary : Default → String
  | missing => ""
  | value e => Token.text e.tokens
  | factory _ => "<factory>"
  | property => "<property>"

end Default

namespace Role

/-- The role of a field with the declared type and the resolved default. -/
def ofField (ty : Ty) (d : Default) : Role :=
  match d with
  | .property => propertyShadow
  | _ => ty.markerRole?.getD standard

end Role

end ClassExpansion
