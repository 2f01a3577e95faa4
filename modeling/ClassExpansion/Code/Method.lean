import ClassExpansion.Code.KeywordOptions

set_option autoImplicit false

/- The methods that make objects, as steps over variables. -/
namespace ClassExpansion

structure Parameter where
  name : String
  ty : Ty

namespace Parameter

def ofField (field : Field) : Parameter := ⟨field.ident, field.valueTy⟩

def tokens (parameter : Parameter) : Tokens := Code.typed parameter.name parameter.ty.tokens

end Parameter

/-- A field of the new object and the parameter that it takes its value from. -/
structure Initializer where
  storage : String
  source : String
  deriving DecidableEq, Repr

namespace Initializer

def tokens (initializer : Initializer) : Tokens :=
  if initializer.storage = initializer.source then [.ident initializer.source]
  else Code.typed initializer.storage [.ident initializer.source]

end Initializer

/-- A variable of a method: one named as a field is, or the object or the options. The last two
are the method's own, so that no field means them, however it is spelled. -/
inductive Variable
  | field (ident : String)
  | object
  | options
  deriving DecidableEq, Repr

namespace Variable

def token : Variable → Token
  | field ident => .ident ident
  | object => .ident "this"
  | options => .ident "options"

def field? : Variable → Option String
  | field ident => some ident
  | object => none
  | options => none

end Variable

/-- The method called after construction, with the parameters that are handed to it. -/
structure HookCall where
  name : String
  /-- The method is known to exist. Otherwise one that does nothing stands in for it. -/
  known : Bool
  handed : List Parameter

namespace HookCall

/-- The trait with the method that stands in, after the object itself among its parameters. -/
def standIn : String := "InityAfterInit"

def receiver : Tokens :=
  Token.op "&" ++ Code.words ["mut", "self"] ++ Token.op ","

/-- A statement that drops the parameter. -/
def drop (parameter : Parameter) : Tokens :=
  Code.words ["let", "_"] ++ Token.op "=" ++ [.ident parameter.name] ++ Token.op ";"

/-- The method that stands in. -/
def method (call : HookCall) : Tokens :=
  Code.words ["fn", call.name]
    ++ [.paren (receiver ++ commaSeparated (call.handed.map Parameter.tokens)),
      .brace (call.handed.flatMap drop)]

end HookCall

/-- A step of a method that makes objects. -/
inductive Step
  /-- Takes the keyword fields out of the options. -/
  | unpack (optionsName : String) (names : List String)
  /-- Makes the object. -/
  | make (initializers : List Initializer)
  /-- Declares a method of the class, by a trait that has no other. -/
  | standIn (cls : String) (method : Tokens)
  /-- Calls a method of the object. -/
  | call (name : String) (arguments : List String)
  | giveObject
  /-- Calls the explicit constructor with the parameters and the options that hold the
  defaults. -/
  | forward (names : List String)

namespace Step

def tokens : Step → Tokens
  | unpack optionsName names =>
    Code.words ["let", optionsName] ++ [.brace (commaSeparated (names.map Name.token))]
      ++ Token.op "=" ++ [Variable.options.token] ++ Token.op ";"
  | make initializers =>
    let object := [.ident "Self", .brace (commaSeparated (initializers.map Initializer.tokens))]
    Code.allowing [["unused_mut"]] ++ Code.words ["let", "mut"] ++ [Variable.object.token]
      ++ Token.op "=" ++ object ++ Token.op ";"
  | standIn cls method =>
    Code.allowing [["dead_code"]] ++ Code.words ["trait", HookCall.standIn] ++ [.brace method]
      ++ Code.traitImplementation [.ident HookCall.standIn] cls []
  | call name arguments =>
    Variable.object.token :: Token.op "." ++ .ident name
      :: .paren (commaSeparated (arguments.map Name.token)) :: Token.op ";"
  | giveObject => [Variable.object.token]
  | forward names =>
    Code.pathOf ["Self", "new_with"]
      ++ [.paren (commaSeparated (names.map Name.token ++ [Code.defaultValue]))]

/-- The variables that the step introduces. -/
def binds : Step → List Variable
  | unpack _ names => names.map .field
  | make _ => [.object]
  | standIn _ _ => []
  | call _ _ => []
  | giveObject => []
  | forward _ => []

/-- The variables that the step reads, as often as it does. The method that stands in for a hook
has parameters of its own. -/
def reads : Step → List Variable
  | unpack _ _ => [.options]
  | make initializers => initializers.map fun i => .field i.source
  | standIn _ _ => []
  | call _ arguments => .object :: arguments.map .field
  | giveObject => [.object]
  | forward names => names.map .field

end Step

/-- The steps that call the method, with one to stand in for it if need be. -/
def HookCall.steps (call : HookCall) (cls : String) : List Step :=
  (if call.known then [] else [.standIn cls call.method])
    ++ [.call call.name (call.handed.map (·.name))]

/-- A method that gives an object. -/
structure Method where
  doc : String
  /-- Warnings that are switched off for it. -/
  lints : List (List String)
  vis : Tokens
  name : String
  required : List Parameter
  /-- The type of the options, if they are its last parameter. -/
  optionsName? : Option String
  body : List Step

namespace Method

def parameterTokens (m : Method) : Tokens :=
  let options := m.optionsName?.map fun name =>
    [Variable.options.token] ++ Token.op ":" ++ [.ident name]
  commaSeparated (m.required.map Parameter.tokens ++ options.toList)

def tokens (m : Method) : Tokens :=
  Code.documented m.doc ++ Code.marked [.ident "must_use"] ++ Code.allowing m.lints ++ m.vis
    ++ Code.function m.name m.parameterTokens [.ident "Self"] (m.body.flatMap Step.tokens)

/-- The variables that the parameters introduce. -/
def given (m : Method) : List Variable :=
  (m.required.map fun p => .field p.name) ++ (m.optionsName?.map fun _ => Variable.options).toList

/-- The variables that the parameters and the steps introduce. -/
def bound (m : Method) : List Variable := m.given ++ m.body.flatMap Step.binds

/-- The variables that the steps read, as often as they do. -/
def read (m : Method) : List Variable := m.body.flatMap Step.reads

end Method

end ClassExpansion
