import ClassExpansion.Class.Metadata

set_option autoImplicit false

/- What `#[field(...)]` says of a field: its default, its metadata, and whether it is a
property. -/
namespace ClassExpansion

structure FieldSpec where
  default? : Option Expr
  factory? : Option Expr
  metadata : List MetaEntry
  property : Bool

namespace Expr

/-- Whether the function that is called is named `factory`, whatever path leads to it. -/
def isFactoryName : Expr → Bool
  | path _ named => named.lastName? == some "factory"
  | _ => false

/-- The argument count of a call of `factory`, in any grouping. -/
def factoryArity? : Expr → Option Nat
  | group _ inner => inner.factoryArity?
  | paren _ inner => inner.factoryArity?
  | call _ function arguments =>
    if function.isFactoryName then some arguments.length else none
  | _ => none

/-- A call of `factory` wraps exactly one callable. -/
def hasFactoryArity (e : Expr) : Bool :=
  match e.factoryArity? with
  | some count => count = 1
  | none => true

end Expr

namespace FieldSpec

/-- What `#[field]` says without arguments. -/
def empty : FieldSpec := ⟨none, none, [], false⟩

open ClassExpansion.Parser

def givenTwice (name : String) : String := "`" ++ name ++ "` is given twice"

def factoryArity : String := "`factory(...)` takes exactly one zero-argument callable"

def unknownOption : String :=
  "unknown field option; expected `default`, `default_factory`, `metadata` or `property`"

def propertyWithDefault : String :=
  "a `property` field is filled by the constructor and cannot declare a default"

/-- A value that is no factory call of the wrong arity. -/
def optionValue (g : Grammar) : Parser Expr := do
  let value ← entryValue g
  if value.hasFactoryArity then return value else failAt factoryArity

/-- Reads one option and adds it to those before. -/
def option (g : Grammar) (spec : FieldSpec) (path : NamePath) : Parser FieldSpec := do
  match path.name? with
  | some "default" =>
    if spec.default?.isSome then failAt (givenTwice "default")
    else return { spec with default? := some (← optionValue g) }
  | some "default_factory" =>
    if spec.factory?.isSome then failAt (givenTwice "default_factory")
    else return { spec with factory? := some (← optionValue g) }
  | some "metadata" =>
    let metadata ← inside .paren (nestedEntries (fun entries path =>
      return MetaEntry.put entries (← metaEntry g path)) spec.metadata)
    return { spec with metadata }
  | some "property" => return { spec with property := true }
  | _ => failAt unknownOption

def hasConflict (spec : FieldSpec) : Bool :=
  spec.property && (spec.default?.isSome || spec.factory?.isSome)

/-- What an attribute says, whatever its name. -/
def read (a : Attribute) : Except SyntaxFault FieldSpec := do
  if a.isBare then return empty
  let spec ← readArguments a.item a.inner fun g => do
    if ← atEnd then return empty else nestedEntries (option g) empty
  if spec.hasConflict then throw (.reason false propertyWithDefault) else return spec

end FieldSpec

end ClassExpansion
