import ClassExpansion.Code.Class

set_option autoImplicit false

/- The expansion of an item: a struct is a class of its own, and a module holds classes that can
see each other. -/
namespace ClassExpansion

/-- The tokens in place of the item, and the debug texts of its classes. -/
structure Expansion where
  tokens : Tokens
  debug : List String

namespace Expansion

/-- Expands a struct by itself. It cannot have a base. -/
def ofStruct (item : StructItem) (arguments : Tokens) : Attempt Expansion := do
  let decl ← ClassDecl.ofStruct item (some arguments)
  if decl.base?.isSome then Attempt.fail .baseOutsideModule
  let replacement ← ClassTable.generate [decl] decl
  return ⟨replacement.tokens, replacement.debug?.toList⟩

/-- A struct with the attribute is a class of the module. -/
def isClass (item : StructItem) : Bool := item.attrs.any (·.isNamed "inity")

/-- The name of the type that an implementation is for, if it is a plain name. -/
def plainName? : Ty → Option String
  | .path qualified lead segments => Path.name? ⟨qualified, lead, segments⟩
  | _ => none

/-- The class as it is after the methods of an item are seen. -/
def observeItem (decl : ClassDecl) : Item → Attempt ClassDecl
  | .impl item =>
    if item.ofTrait || plainName? item.self != some decl.ident then return decl
    else item.methods.foldlM ClassDecl.observe decl
  | _ => return decl

/-- An item of a module with the class that it declares, if it is one. -/
structure ModuleItem where
  item : Item
  decl? : Option ClassDecl

namespace ModuleItem

/-- Reads the classes among the items. -/
def ofItem (item : Item) : Attempt ModuleItem :=
  match item with
  | .struct s =>
    if isClass s then do return ⟨item, some (← ClassDecl.ofStruct s none)⟩
    else return ⟨item, none⟩
  | _ => return ⟨item, none⟩

/-- Lets the class see the methods in all items. -/
def observe (items : List Item) (entry : ModuleItem) : Attempt ModuleItem := do
  match entry.decl? with
  | some decl => return { entry with decl? := some (← items.foldlM observeItem decl) }
  | none => return entry

/-- The item itself, or what comes in place of its class. -/
def replace (table : ClassTable) (entry : ModuleItem) : Attempt Replacement :=
  match entry.decl? with
  | some decl => table.generate decl
  | none => return ⟨entry.item.tokens, none⟩

end ModuleItem

/-- Expands the classes of a module in place. Reports on classes that cannot be read come before
reports on those that cannot be generated. -/
def ofItems (items : List Item) : Attempt (List Replacement) := do
  let (entries, unread) ← Attempt.sift (items.map ModuleItem.ofItem)
  let entries ← entries.mapM (ModuleItem.observe items)
  let table : ClassTable := entries.filterMap (·.decl?)
  let (replacements, ungenerated) ← Attempt.sift (entries.map (ModuleItem.replace table))
  let reports := unread ++ ungenerated
  if reports.isEmpty then return replacements else throw (.reported reports)

def ofModule (head : ModuleHead) (items : Option (List Item)) (arguments : Tokens) :
    Attempt Expansion := do
  if !arguments.isEmpty then Attempt.fail .moduleOptions
  match items with
  | none => Attempt.fail .moduleElsewhere
  | some items =>
    let replacements ← ofItems items
    return ⟨head.tokensWith (some (replacements.flatMap (·.tokens))),
      replacements.filterMap (·.debug?)⟩

/-- Expands an item given as tokens. -/
def ofTokens (item arguments : Tokens) : Attempt Expansion :=
  match readItemOf item with
  | .error fault => Attempt.fail (.malformed fault)
  | .ok (.struct item) => ofStruct item arguments
  | .ok (.module head items) => ofModule head items arguments
  | .ok _ => Attempt.fail .notAClass

end Expansion

end ClassExpansion
