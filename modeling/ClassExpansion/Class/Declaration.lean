import ClassExpansion.Class.FieldSpec
import ClassExpansion.Class.Options

set_option autoImplicit false

/- Classes and fields as they are declared. -/
namespace ClassExpansion

structure FieldDecl where
  /-- The name as written, with the mark of a raw name. -/
  ident : String
  ty : Ty
  vis : Tokens
  /-- Attributes other than `#[field]`. -/
  attrs : List Attribute
  spec? : Option FieldSpec

namespace FieldDecl

def name (field : FieldDecl) : String := Name.unraw field.ident

/-- The specification in the attributes of a field; none of them may come after another. -/
def readSpec (found : Option FieldSpec) : List Attribute → Attempt (Option FieldSpec)
  | [] => return found
  | a :: rest =>
    if !a.isNamed "field" then readSpec found rest
    else if found.isSome then Attempt.fail .repeatedFieldAttribute
    else match FieldSpec.read a with
      | .ok spec => readSpec (some spec) rest
      | .error fault => Attempt.fail (.malformed fault)

def ofField (field : StructField) : Attempt FieldDecl := do
  return {
    ident := field.name
    ty := field.ty
    vis := field.vis
    attrs := field.attrs.filter fun a => !a.isNamed "field"
    spec? := ← readSpec none field.attrs }

end FieldDecl

/-- How the names of a class are built and recognised. -/
structure Settings where
  /-- Marks a default as a factory where a name contains it. -/
  factorySuffix : String
  /-- Comes before the name of a stored property. -/
  shadowPrefix : String
  deriving DecidableEq

namespace Settings

def usual : Settings := ⟨"_factory", "_"⟩

/-- The text that names the stored field of a property. -/
def shadowText (settings : Settings) (name : String) : String := settings.shadowPrefix ++ name

def shadow (settings : Settings) (name : String) : Attempt String :=
  Attempt.name (settings.shadowText name)

/-- The checks read texts as source, in which blanks do not matter. -/
def check (settings : Settings) : Attempt Unit :=
  if settings.factorySuffix.isEmpty then Attempt.fail .emptyFactorySuffix
  else if (readName? (settings.shadowText "field")).isNone then
    Attempt.fail (.shadowPrefix settings.shadowPrefix)
  else return

end Settings

/-- What is known of the methods of a class. -/
structure MethodsSeen where
  /-- A method with the name of the hook. -/
  hook : Bool
  /-- A constructor that the class defines itself. -/
  constructor : Bool
  deriving DecidableEq

structure ClassDecl where
  ident : String
  vis : Tokens
  /-- Attributes other than `#[inity]`. -/
  attrs : List Attribute
  fields : List FieldDecl
  base? : Option String
  hook? : Option HookOption
  settings : Settings
  debug : Bool
  seen : MethodsSeen

namespace ClassDecl

def usualHook : String := "after_init"

def checkHook : Option HookOption → Attempt Unit
  | some (.named text) =>
    if (readName? text).isNone then Attempt.fail (.hookText text) else return
  | _ => return

/-- The attribute that holds the arguments of the macro. -/
def argumentAttribute (arguments : Tokens) : Attribute :=
  ⟨false, ⟨⟨false, ["inity"]⟩, .list .paren arguments⟩⟩

/-- The attributes whose options count. Arguments of the macro come first, and an attribute
without arguments is none of them. -/
def optionBodies (attrs : List Attribute) (arguments : Option Tokens) : List MetaBody :=
  let own := attrs.filter fun a => !(a.isNamed "inity" && a.isBare)
  let all := match arguments with
    | some (t :: rest) => argumentAttribute (t :: rest) :: own
    | _ => own
  (all.filter fun a => a.path.dotted == "inity").map (·.item.body)

def namedFields (item : StructItem) : Attempt (List StructField) :=
  match item.fields with
  | .named fields => return fields
  | _ => Attempt.fail .unnamedFields

/-- Reads a struct as a class. -/
def ofStruct (item : StructItem) (arguments : Option Tokens) : Attempt ClassDecl := do
  let fields ← namedFields item
  let options ← Options.read (optionBodies item.attrs arguments)
  if item.generic then Attempt.fail .generic
  let settings : Settings := {
    factorySuffix := options.factorySuffix?.getD Settings.usual.factorySuffix
    shadowPrefix := options.shadowPrefix?.getD Settings.usual.shadowPrefix }
  settings.check
  checkHook options.hook?
  let fields ← Attempt.gather (fields.map FieldDecl.ofField)
  return {
    ident := item.name
    vis := item.vis
    attrs := item.attrs.filter fun a => !a.isNamed "inity"
    fields := fields
    base? := options.extends?
    hook? := options.hook?
    settings := settings
    debug := options.debug?.getD false
    seen := ⟨false, false⟩ }

/-- The first declared field with the name. -/
def field? (decl : ClassDecl) (name : String) : Option FieldDecl :=
  decl.fields.find? fun field => field.name == name

def hookText (decl : ClassDecl) : String :=
  match decl.hook? with
  | some (.named text) => text
  | _ => usualHook

/-- The method that is called after construction. -/
def hook (decl : ClassDecl) : Attempt String := Attempt.name decl.hookText

/-- Whether the hook is known to exist. -/
def hasHook (decl : ClassDecl) : Bool := decl.hook?.isSome || decl.seen.hook

def hasOwnConstructor (decl : ClassDecl) : Bool := decl.seen.constructor

def isConstructorName (method : String) : Bool := method == "new" || method == "new_with"

/-- Takes note of a method of the class. -/
def observe (decl : ClassDecl) (method : String) : Attempt ClassDecl := do
  if isConstructorName method then
    return { decl with seen := { decl.seen with constructor := true } }
  else if method == (← decl.hook) then
    return { decl with seen := { decl.seen with hook := true } }
  else return decl

def optionsName (decl : ClassDecl) : String := Name.unraw decl.ident ++ "Options"

end ClassDecl

end ClassExpansion
