import ClassExpansion.Source.Attribute

set_option autoImplicit false

/- Items. Structs, modules and implementations are kept apart as far as classes depend on them;
of any other item only its tokens matter. -/
namespace ClassExpansion

/-- A field with a name. -/
structure StructField where
  attrs : List Attribute
  vis : Tokens
  name : String
  ty : Ty

inductive StructFields
  | named (fields : List StructField)
  | unnamed
  | unit

/-- A struct, with its tokens after the attributes. -/
structure StructItem where
  attrs : List Attribute
  vis : Tokens
  name : String
  /-- It has generic parameters or a `where` clause. -/
  generic : Bool
  fields : StructFields
  body : Tokens

/-- An implementation, with its tokens after the attributes. -/
structure ImplItem where
  attrs : List Attribute
  ofTrait : Bool
  self : Ty
  methods : List String
  body : Tokens

/-- What a module is, apart from its items. -/
structure ModuleHead where
  attrs : List Attribute
  /-- Visibility, keywords and name. -/
  opening : Tokens
  /-- Attributes of the module at the start of its body. -/
  innerAttrs : Tokens

inductive Item
  | struct (item : StructItem)
  | impl (item : ImplItem)
  /-- Without items, the module's body is elsewhere. -/
  | module (head : ModuleHead) (items : Option (List Item))
  | other (tokens : Tokens)

namespace StructItem

def tokens (item : StructItem) : Tokens := attributeTokens item.attrs ++ item.body

end StructItem

namespace ImplItem

def tokens (item : ImplItem) : Tokens := attributeTokens item.attrs ++ item.body

end ImplItem

namespace ModuleHead

/-- The module with a body of the given tokens, or without one. -/
def tokensWith (head : ModuleHead) (body : Option Tokens) : Tokens :=
  attributeTokens head.attrs ++ head.opening ++ match body with
    | some body => [.brace (head.innerAttrs ++ body)]
    | none => Token.op ";"

end ModuleHead

namespace Item

mutual

def tokens : Item → Tokens
  | struct item => item.tokens
  | impl item => item.tokens
  | module head none => head.tokensWith none
  | module head (some items) => head.tokensWith (some (itemsTokens items))
  | other tokens => tokens

def itemsTokens : List Item → Tokens
  | [] => []
  | item :: rest => item.tokens ++ itemsTokens rest

end

def addAttrs (attrs : List Attribute) : Item → Item
  | struct item => struct { item with attrs := attrs ++ item.attrs }
  | impl item => impl { item with attrs := attrs ++ item.attrs }
  | module head items => module { head with attrs := attrs ++ head.attrs } items
  | other tokens => other (attributeTokens attrs ++ tokens)

end Item

end ClassExpansion
