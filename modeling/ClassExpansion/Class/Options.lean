import ClassExpansion.Class.Fault
import ClassExpansion.Text.Similarity

set_option autoImplicit false

/- The options of a class. They are read from every attribute of the class that holds some, in
order, and all that is wrong with them is reported together. -/
namespace ClassExpansion

/-- The hook is named, or it has the usual name. -/
inductive HookOption
  | usual
  | named (text : String)
  deriving DecidableEq

/-- Options as they are given. -/
structure Options where
  extends? : Option String
  hook? : Option HookOption
  factorySuffix? : Option String
  shadowPrefix? : Option String
  debug? : Option Bool

namespace Options

def none : Options := ⟨.none, .none, .none, .none, .none⟩

end Options

/-- An entry in the list of options. -/
inductive OptionEntry
  | literal
  | item (path : NamePath) (body : MetaBody)

namespace OptionEntry

open ClassExpansion.Parser

/-- Names with colons between them, which may be keywords. -/
def anyNames : Parser NamePath := do
  let read ← namesWhile isAnyIdent
  if read.names.isEmpty then failHere "expected path"
  else if read.trailing then failHere "expected path segment"
  else return ⟨false, read.names⟩

/-- An entry, which begins with a name or is a literal. A truth value before an equals sign is
the name of an option. A path from the root begins with colons and is refused, unlike in nested
entries. -/
def parser (g : Grammar) : Parser OptionEntry := do
  let named := (← peek isBooleanLiteral) && (← peek2 (isOp "="))
  if (← peek isLiteral) && !named then
    let _ ← Parser.literal
    return .literal
  else if ← peek isAnyIdent then
    let path ← anyNames
    return .item path (← g.metaBody (isOp "="))
  else failHere "expected identifier or literal"

def readAll (tokens : Tokens) : Except SyntaxFault (List OptionEntry) := do
  let entries ← runAll (terminated (parser (Grammar.ofTokens tokens))) tokens
  return entries.map (·.1)

end OptionEntry

namespace LiteralValue

/-- The name under which a literal of the kind is refused. -/
def label : LiteralValue → String
  | text _ => "string"
  | byteString => "byte string"
  | zeroEndedString => "unknown"
  | byte => "byte"
  | character => "char"
  | integer _ _ _ => "int"
  | fraction _ _ => "float"
  | boolean _ => "bool"
  | unreadable => "verbatim"

end LiteralValue

/-- How the values of an option are read. Without a reading for a form, the form is refused. -/
structure OptionReading (α : Type) where
  /-- What the option stands for without a value. -/
  word : Option α
  text : String → Except Fault α
  boolean : Bool → Except Fault α
  /-- How a path is read, where it is not refused. -/
  path : Option (Path → Except Fault α)

namespace OptionReading

variable {α : Type}

def literal (reading : OptionReading α) (value : LiteralValue) : Except Fault α :=
  match value with
  | .text text => reading.text text
  | .boolean value => reading.boolean value
  | other => .error (.optionType other.label)

/-- Invisible groups around a value do not matter. -/
def expr (reading : OptionReading α) : Expr → Except Fault α
  | .lit _ literal => reading.literal literal.value
  | .group _ inner => reading.expr inner
  | .path _ path =>
    match reading.path with
    | some read => read path
    | none => .error (.optionType ExprKind.path.label)
  | e => .error (.optionType e.kind.label)

/-- No option can be a list; what is wrong within one is reported first. -/
def body (reading : OptionReading α) : MetaBody → Except Fault α
  | .bare =>
    match reading.word with
    | some value => .ok value
    | none => .error (.optionForm "word")
  | .list _ tokens =>
    match OptionEntry.readAll tokens with
    | .ok _ => .error (.optionForm "list")
    | .error fault => .error (.malformed fault)
  | .value value => reading.expr value

end OptionReading

def refuseBoolean {α : Type} (_ : Bool) : Except Fault α := .error (.optionType "bool")

def debugReading : OptionReading Bool where
  word := some true
  text text :=
    if text = "true" then .ok true
    else if text = "false" then .ok false
    else .error (.optionValue text)
  boolean := .ok
  path := none

def textReading : OptionReading String where
  word := none
  text := .ok
  boolean := refuseBoolean
  path := none

def hookReading : OptionReading HookOption where
  word := some .usual
  text text := .ok (.named text)
  boolean := refuseBoolean
  path := none

def readBase (path : Path) : Except Fault String :=
  if path.qualified then .error (.optionType ExprKind.path.label)
  else match path.name? with
    | some name => .ok name
    | none => .error .basePath

/-- The base is named by a name or by a text that is one. -/
def baseReading : OptionReading String where
  word := none
  text text :=
    match readName? text with
    | some name => .ok name
    | none => .error (.baseText text)
  boolean := refuseBoolean
  path := some readBase

/-- The options read so far: which of them were given, their values, and the reports. -/
structure OptionsRead where
  given : List String
  options : Options
  reports : List Report

namespace OptionsRead

def report (read : OptionsRead) (fault : Fault) : OptionsRead :=
  { read with reports := read.reports ++ [⟨fault, none⟩] }

/-- Sets an option, or reports why it has no value. -/
def set {α : Type} (read : OptionsRead) (name : String) (value : Except Fault α)
    (update : Options → α → Options) : OptionsRead :=
  let read := { read with given := name :: read.given }
  match value with
  | .ok value => { read with options := update read.options value }
  | .error fault => { read with reports := read.reports ++ [⟨fault, some name⟩] }

def entry (read : OptionsRead) : OptionEntry → OptionsRead
  | .literal => read.report .literalOption
  | .item path body =>
    let name := path.dotted
    if !optionNames.contains name then
      read.report (.unknownOption name (Text.closest? name optionNames))
    else if read.given.contains name then read.report (.duplicateOption name)
    else match name with
      | "extends" => read.set name (baseReading.body body) fun o v => { o with extends? := some v }
      | "hook" => read.set name (hookReading.body body) fun o v => { o with hook? := some v }
      | "factory_suffix" =>
        read.set name (textReading.body body) fun o v => { o with factorySuffix? := some v }
      | "shadow_prefix" =>
        read.set name (textReading.body body) fun o v => { o with shadowPrefix? := some v }
      | _ => read.set name (debugReading.body body) fun o v => { o with debug? := some v }

def item (read : OptionsRead) (body : MetaBody) : OptionsRead :=
  match body with
  | .bare => read
  | .value _ => read.report .optionsAsValue
  | .list _ tokens =>
    match OptionEntry.readAll tokens with
    | .ok entries => entries.foldl entry read
    | .error fault => read.report (.malformed fault)

end OptionsRead

namespace Options

/-- The options in several attributes. -/
def read (bodies : List MetaBody) : Attempt Options :=
  let read := bodies.foldl OptionsRead.item ⟨[], none, []⟩
  if read.reports.isEmpty then .ok read.options else .error (.reported read.reports)

end Options

end ClassExpansion
