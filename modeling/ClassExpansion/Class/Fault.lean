import ClassExpansion.Class.Role

set_option autoImplicit false

/- Why a class is refused, and how errors of several places are reported together. -/
namespace ClassExpansion

inductive Fault
  | malformed (fault : SyntaxFault)
  | unnamedFields
  | generic
  /-- The options are given as a value. -/
  | optionsAsValue
  | literalOption
  | unknownOption (name : String) (closest : Option String)
  | duplicateOption (name : String)
  /-- An option is given as a `word` or a `list`, which it cannot be. -/
  | optionForm (form : String)
  /-- The value of an option is an expression or a literal of the wrong kind. -/
  | optionType (label : String)
  | optionValue (text : String)
  | basePath
  | baseText (text : String)
  | emptyFactorySuffix
  | shadowPrefix (text : String)
  | hookText (text : String)
  | repeatedFieldAttribute
  | baseOutsideModule
  | notAClass
  | moduleOptions
  | moduleElsewhere
  | unknownBase (name : String)
  | cycle (name : String)
  | markerArgument (role : Role)
  | missingHook (cls base baseHook ownHook : String)
  | factoryConstant (field : String)
  | constructorSyntax (cls : String) (fault : SyntaxFault) (tokens : Tokens)

/-- The options of a class, in the order in which they are declared. -/
def optionNames : List String := ["extends", "hook", "factory_suffix", "shadow_prefix", "debug"]

def sortedOptionNames : List String :=
  ["debug", "extends", "factory_suffix", "hook", "shadow_prefix"]

namespace Fault

def ticked (text : String) : String := "`" ++ text ++ "`"

def message : Fault → String
  | malformed fault => fault.message
  | unnamedFields =>
    "#[inity] classes need named fields: `struct Name \x7b field: Type \x7d`"
  | generic =>
    "#[inity] classes cannot be generic; the resolved field list is per concrete type"
  | optionsAsValue => "Name-value arguments are not supported. Use #[inity(...)]"
  | literalOption => "Unexpected meta-item format `literal`"
  | unknownOption name (some closest) =>
    "Unknown field: " ++ ticked name ++ ". Did you mean " ++ ticked closest ++ "?"
  | unknownOption name none =>
    "Unknown field: " ++ ticked name ++ ". Available values: "
      ++ ", ".intercalate (sortedOptionNames.map ticked)
  | duplicateOption name => "Duplicate field " ++ ticked name
  | optionForm form => "Unexpected meta-item format " ++ ticked form
  | optionType label => "Unexpected type " ++ ticked label
  | optionValue text => "Unknown value: " ++ ticked text
  | basePath => "`extends` names a class of the same module, not a path"
  | baseText text => ticked text ++ " is not a class name"
  | emptyFactorySuffix => "`factory_suffix` must not be empty"
  | shadowPrefix text => "`shadow_prefix = \"" ++ text ++ "\"` cannot start an identifier"
  | hookText text => "`hook = \"" ++ text ++ "\"` is not a method name"
  | repeatedFieldAttribute => "combine options into a single #[field(...)]"
  | baseOutsideModule =>
    "`extends` needs every class of the hierarchy in one `#[inity] mod \x7b ... \x7d` block"
  | notAClass =>
    "#[inity] applies to structs with named fields and to inline class modules"
  | moduleOptions => "a class module takes no options; put them on its classes"
  | moduleElsewhere =>
    "class modules must be inline: `#[inity] mod name \x7b ... \x7d`"
  | unknownBase name =>
    "unknown base class " ++ ticked name
      ++ "; declare it with #[inity] in the same class module"
  | cycle name => "inheritance cycle: " ++ ticked name ++ " is its own ancestor"
  | markerArgument role => role.markerName ++ " marker needs the value type: `Marker<T>`"
  | missingHook cls base baseHook ownHook =>
    ticked cls ++ " has construction-only fields and its base " ++ ticked base ++ " defines "
      ++ ticked baseHook ++ "; hooks are not inherited, define " ++ ticked ownHook
      ++ " in an `impl " ++ cls ++ "` block of this module"
  | factoryConstant field =>
    "class-scoped field " ++ ticked field ++ " needs a constant default, not a factory"
  | constructorSyntax cls fault tokens =>
    "generated constructor of " ++ ticked cls ++ " does not parse: " ++ fault.message ++ "\n"
      ++ Token.text tokens

end Fault

/-- A fault, and the option of a class in which it lies. -/
structure Report where
  fault : Fault
  option : Option String

namespace Report

def message (report : Report) : String := report.fault.message

/-- The message with the place. -/
def placedMessage (report : Report) : String :=
  report.message ++ match report.option with
    | some option => " at " ++ option
    | none => ""

end Report

inductive Failure
  | reported (reports : List Report)
  | aborted (cause : Abort)

/-- Something that may fail with several reports. -/
abbrev Attempt := Except Failure

namespace Attempt

def fail {α : Type} (fault : Fault) : Attempt α := throw (.reported [⟨fault, none⟩])

def abort {α : Type} (cause : Abort) : Attempt α := throw (.aborted cause)

/-- A single fault as the only report. -/
def lift {α : Type} : Except Fault α → Attempt α
  | .ok value => .ok value
  | .error fault => fail fault

def reports {α : Type} : Attempt α → List Report
  | .error (.reported reports) => reports
  | _ => []

def value? {α : Type} : Attempt α → Option α
  | .ok value => some value
  | .error _ => none

def abort? {α : Type} : Attempt α → Option Abort
  | .error (.aborted cause) => some cause
  | _ => none

/-- The values of those that succeed, with the reports of the others. The first abort wins. -/
def sift {α : Type} (attempts : List (Attempt α)) : Attempt (List α × List Report) :=
  match attempts.findSome? abort? with
  | some cause => .error (.aborted cause)
  | none => .ok (attempts.filterMap value?, attempts.flatMap reports)

/-- All values, or all reports. -/
def gather {α : Type} (attempts : List (Attempt α)) : Attempt (List α) := do
  let (values, reports) ← sift attempts
  if reports.isEmpty then return values else throw (.reported reports)

/-- A name made of a text. -/
def name (text : String) : Attempt String :=
  if Name.isUsable text then return text else abort (.unusableName text)

end Attempt

end ClassExpansion
