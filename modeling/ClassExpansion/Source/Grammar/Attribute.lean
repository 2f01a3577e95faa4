import ClassExpansion.Source.Grammar

set_option autoImplicit false

/- Productions of attributes. -/
namespace ClassExpansion

open ClassExpansion.Parser

/-- Words that may stand as a segment of a path though they are keywords. -/
def pathWords : List String := ["super", "self", "Self", "crate"]

def isPathStart : Peek := fun tokens => isIdent tokens || pathWords.any (isWord · tokens)

/-- Names with colons between them, as read so far, and whether the colons come last. -/
structure NamesRead where
  names : List String
  trailing : Bool

/-- Names with colons between them as long as `more` says that one comes next. -/
def namesWhile (more : Peek) : Parser NamesRead :=
  repeating (fun read => do
    if ← peek more then
      let names := read.names ++ [← anyIdent]
      if ← peek (isOp "::") then
        let _ ← op "::"
        return (⟨names, true⟩, true)
      else return (⟨names, false⟩, false)
    else return (read, false)) ⟨[], false⟩

def namePath : Parser NamePath := do
  let rooted := !(← optionalOp "::").isEmpty
  let read ← namesWhile isPathStart
  if read.names.isEmpty then
    let _ ← ident
  else if read.trailing then failHere "expected path segment after `::`"
  return ⟨rooted, read.names⟩

/-- A group of any visible delimiter, with its tokens unread. -/
def rawGroup : Parser (Delimiter × Tokens) := do
  match (← get).rest with
  | .group delimiter body :: rest =>
    if delimiter = .invisible then failHere "expected delimiter"
    else
      setRest rest
      return (delimiter, body)
  | _ => failHere "expected delimiter"

def rawGroupTokens : Parser Tokens := do
  let (delimiter, body) ← rawGroup
  return [.group delimiter body]

def isAnyGroup : Peek := fun tokens =>
  isGroup .paren tokens || isGroup .bracket tokens || isGroup .brace tokens

namespace Grammar

/-- The value after an equals sign: a literal if nothing follows it, else an expression. -/
def metaValue (g : Grammar) : Parser Expr := do
  let _ ← op "="
  match nextLiteral? (← get).rest with
  | some (value, []) =>
    setRest []
    return .lit [] value
  | _ =>
    if (← peek (isOp "#")) && (← peek2 (isGroup .bracket)) then
      failHere "unexpected attribute inside of attribute"
    else g.expr true

/-- What follows the path of an attribute; `isValue` tells whether a value comes next. -/
def metaBody (g : Grammar) (isValue : Peek) : Parser MetaBody := do
  if ← peek isAnyGroup then
    let (delimiter, body) ← rawGroup
    return .list delimiter body
  else if ← peek isValue then return .value (← g.metaValue)
  else return .bare

def isPlainEquals : Peek := fun tokens =>
  isOp "=" tokens && !isOp "==" tokens && !isOp "=>" tokens

def metaItem (g : Grammar) : Parser MetaItem := do
  let path ←
    if ← peek (isWord "unsafe") then
      let _ ← word "unsafe"
      pure ⟨false, ["unsafe"]⟩
    else namePath
  return ⟨path, ← g.metaBody isPlainEquals⟩

def outerAttribute (g : Grammar) : Parser Attribute := do
  let _ ← op "#"
  return ⟨false, ← inside .bracket g.metaItem⟩

def innerAttribute (g : Grammar) : Parser Attribute := do
  let _ ← op "#"
  let _ ← op "!"
  return ⟨true, ← inside .bracket g.metaItem⟩

def outerAttributesWhile (g : Grammar) (more : Peek) : Parser (List Attribute) :=
  repeating (fun read => do
    if ← peek more then return (read ++ [← g.outerAttribute], true)
    else return (read, false)) []

def outerAttributes (g : Grammar) : Parser (List Attribute) := g.outerAttributesWhile (isOp "#")

def outerTokens (g : Grammar) : Parser Tokens := return attributeTokens (← g.outerAttributes)

def innerAttributes (g : Grammar) : Parser (List Attribute) :=
  repeating (fun read => do
    if (← peek (isOp "#")) && (← peek2 (isOp "!")) then
      return (read ++ [← g.innerAttribute], true)
    else return (read, false)) []

def innerTokens (g : Grammar) : Parser Tokens := return attributeTokens (← g.innerAttributes)

end Grammar

end ClassExpansion
