import ClassExpansion.Code.Method

set_option autoImplicit false

/- The constructors of a class: one that takes the required fields, and with keyword fields one
that takes the options as well. -/
namespace ClassExpansion

/-- What the constructors of a class are made of. -/
structure Constructor where
  cls : String
  vis : Tokens
  required : List Parameter
  /-- The names of the keyword fields, which the options hold. -/
  keyword : List String
  optionsName : String
  initializers : List Initializer
  hook : HookCall
  slots : List FactorySlot

namespace Constructor

def ofFields (decl : ClassDecl) (fields : FieldList) : Attempt Constructor := do
  let hook ← decl.hook
  return {
    cls := decl.ident
    vis := decl.vis
    required := fields.required.map .ofField
    keyword := fields.keyword.map (·.ident)
    optionsName := decl.optionsName
    initializers := fields.stored.filterMap fun field =>
      field.storage?.map fun storage => ⟨storage, field.ident⟩
    hook := ⟨hook, decl.hasHook, (fields.ofRole .initVar).map .ofField⟩
    slots := FactorySlot.ofKeyword fields.keyword }

def requiredDoc (c : Constructor) : String :=
  "Creates a new [`" ++ c.cls ++ "`] from its required fields."

def defaultsDoc (c : Constructor) : String :=
  c.requiredDoc ++ "\n\nKeyword fields take the defaults of [`" ++ c.optionsName ++ "`]."

def explicitDoc (c : Constructor) : String :=
  "Creates a new [`" ++ c.cls ++ "`] with explicit keyword fields from [`" ++ c.optionsName
    ++ "`]."

def manyArguments : List String := ["clippy", "too_many_arguments"]

def withoutDefault : List String := ["clippy", "new_without_default"]

/-- Makes the object, calls the hook, and gives the object back. -/
def objectSteps (c : Constructor) : List Step :=
  .make c.initializers :: c.hook.steps c.cls ++ [.giveObject]

/-- The constructor of the required fields. -/
def plain (c : Constructor) (doc : String) (body : List Step) : Method where
  doc := doc
  lints := [manyArguments, withoutDefault]
  vis := c.vis
  name := "new"
  required := c.required
  optionsName? := none
  body := body

/-- The constructor that takes the options as well. -/
def explicit (c : Constructor) : Method where
  doc := c.explicitDoc
  lints := [manyArguments]
  vis := c.vis
  name := "new_with"
  required := c.required
  optionsName? := some c.optionsName
  body := .unpack c.optionsName c.keyword :: c.objectSteps

/-- The constructor that leaves the options to their defaults. -/
def forwarding (c : Constructor) : Method :=
  c.plain c.defaultsDoc [.forward (c.required.map (·.name))]

/-- The constructor in which the object is made. -/
def making (c : Constructor) : Method :=
  if c.keyword.isEmpty then c.plain c.requiredDoc c.objectSteps else c.explicit

def methods (c : Constructor) : List Method :=
  if c.keyword.isEmpty then [c.making] else [c.forwarding, c.making]

def tokens (c : Constructor) : Tokens :=
  Code.implementation c.cls
    (c.methods.flatMap Method.tokens ++ FactorySlot.cellTokens c.cls c.slots)

/-- Written code has to read as an implementation. -/
def check (c : Constructor) : Attempt Unit :=
  match readImplOf c.tokens with
  | .ok _ => return
  | .error fault => Attempt.fail (.constructorSyntax c.cls fault c.tokens)

end Constructor

end ClassExpansion
