import ClassExpansion.Source.Grammar.Function

set_option autoImplicit false

/- Productions of items. Where a form is accepted that has no syntax of its own, the item is
kept as it is written. -/
namespace ClassExpansion

open ClassExpansion.Parser

/-- A production that either builds its item or finds that it has to be kept as written. -/
abbrev Kept := Option

/-- What may begin a macro call, where no visibility stands before it. -/
def macroCandidates : List (String × Peek) :=
  [("identifier", isIdent), wordCandidate "self", wordCandidate "super", wordCandidate "crate",
    ("`::`", isOp "::")]

def startsMacro : Peek := fun tokens => macroCandidates.any fun (_, ask) => ask tokens

namespace Grammar

/-- The body of a function. -/
def functionBody (g : Grammar) : Parser Tokens := g.attributedBlock

def fieldTokens (f : StructField) : Tokens :=
  attributeTokens f.attrs ++ f.vis ++ [.ident f.name] ++ Token.op ":" ++ f.ty.tokens

/-- Named fields with whether a comma follows. -/
def namedFieldTokens (fields : List (StructField × Bool)) : Tokens :=
  fields.flatMap fun (f, comma) => fieldTokens f ++ commaAfter comma

/-- A field, which may hold more fields in place of a name and a type. -/
def readField (g : Grammar) : Parser StructField := do
  let attrs ← g.outerAttributes
  let vis ← visibility
  let unnamed ← peek (isWord "_")
  let name ← if unnamed then anyIdent else ident
  let _ ← op ":"
  let nested := (← peek (isWord "struct"))
    || ((← peek (isWord "union")) && (← peek2 (isGroup .brace)))
  if unnamed && nested then
    let start := (← get).rest
    let _ ← anyIdent
    let _ ← inside .brace (terminated g.field)
    return ⟨attrs, vis, name, .other (← writtenSince start)⟩
  else return ⟨attrs, vis, name, ← g.anyType⟩

def namedFields (g : Grammar) : Parser (List (StructField × Bool)) :=
  inside .brace (terminated g.field)

def namedFieldsTokens (g : Grammar) : Parser Tokens :=
  return [.brace (namedFieldTokens (← g.namedFields))]

def unnamedField (g : Grammar) : Parser Tokens := seq [g.outerTokens, visibility, g.typeTokens]

def unnamedFields (g : Grammar) : Parser Tokens := group .paren (terminatedTokens g.unnamedField)

/-- What follows the name and the parameters of a struct: its fields, whether there is a `where`
clause, and the tokens of it all. -/
def structRest (g : Grammar) : Parser (StructFields × Bool × Tokens) := do
  let (constrained, clause) ← g.optionalWhere
  if !constrained && (← peek (isGroup .paren)) then
    let fields ← g.unnamedFields
    let (constrained, clause) ← g.optionalWhere
    if ← peek (isOp ";") then
      return (.unnamed, constrained, fields ++ clause ++ (← op ";"))
    else if constrained then failExpecting ["`;`"]
    else failExpecting ["`where`", "`;`"]
  else if ← peek (isGroup .brace) then
    let fields ← g.namedFields
    return (.named (fields.map (·.1)), constrained, clause ++ [.brace (namedFieldTokens fields)])
  else if ← peek (isOp ";") then return (.unit, constrained, clause ++ (← op ";"))
  else if constrained then failExpecting ["curly braces", "`;`"]
  else failExpecting ["`where`", "parentheses", "curly braces", "`;`"]

def structItem (g : Grammar) : Parser StructItem := do
  let vis ← visibility
  let keyword ← word "struct"
  let name ← ident
  let generics ← g.generics
  let (fields, constrained, rest) ← g.structRest
  return {
    attrs := []
    vis := vis
    name := name
    generic := generics.nonempty || constrained
    fields := fields
    body := vis ++ keyword ++ [.ident name] ++ generics.tokens ++ rest }

def variant (g : Grammar) : Parser Tokens := do
  let attrs ← g.outerTokens
  let _ ← visibility
  let named ← name
  let fields ←
    if ← peek (isGroup .brace) then g.namedFieldsTokens
    else if ← peek (isGroup .paren) then g.unnamedFields
    else pure []
  let value ← if ← peek (isOp "=") then seq [op "=", g.exprTokens] else pure []
  return attrs ++ named ++ fields ++ value

def genericsTokens (g : Grammar) : Parser Tokens := return (← g.generics).tokens

def enumTokens (g : Grammar) : Parser Tokens :=
  seq [visibility, word "enum", name, g.genericsTokens, g.whereTokens,
    group .brace (terminatedTokens g.variant)]

def unionTokens (g : Grammar) : Parser Tokens :=
  seq [visibility, word "union", name, g.genericsTokens, g.whereTokens, g.namedFieldsTokens]

def externCrateTokens : Parser Tokens := do
  let head ← seq [visibility, word "extern", word "crate"]
  let named ← if ← peek (isWord "self") then anyName else name
  let renamed ←
    if ← peek (isWord "as") then
      let keyword ← word "as"
      pure (keyword ++ (← if ← peek (isWord "_") then anyName else name))
    else pure []
  return head ++ named ++ renamed ++ (← op ";")

/-- The last part of a path of imports. -/
def useRename : Parser Tokens := do
  let keyword ← word "as"
  if ← peekAny [isIdent, isWord "_"] then return keyword ++ (← anyName)
  else failHere "expected identifier or underscore"

def useWords : List (String × Peek) :=
  [("identifier", isIdent), wordCandidate "self", wordCandidate "super", wordCandidate "crate",
    wordCandidate "try", ("`*`", isOp "*"), ("curly braces", isGroup .brace)]

/-- Trees in braces, and whether a path among them begins at the root. -/
def useGroup (g : Grammar) (root : Bool) : Parser (Tokens × Bool) :=
  repeating (fun (read : Tokens × Bool) => do
    if ← atEnd then return (read, false)
    let rooted ← if root then pure !(← optionalOp "::").isEmpty else pure false
    let tree ← g.useTree (root && !rooted)
    let read := (read.1 ++ tree.getD [], read.2 || rooted || tree.isNone)
    if ← atEnd then return (read, false)
    return ((read.1 ++ (← op ","), read.2), true)) ([], false)

/-- A tree of imports; none if a path in it begins at the root. -/
def readUseTree (g : Grammar) (root : Bool) : Parser (Kept Tokens) := do
  if ← peekAny [isIdent, isWord "self", isWord "super", isWord "crate", isWord "try"] then
    let named ← anyName
    if ← peek (isOp "::") then
      let colons ← op "::"
      return (← g.useTree false).map fun tree => named ++ colons ++ tree
    else if ← peek (isWord "as") then return some (named ++ (← useRename))
    else return some named
  else if ← peek (isOp "*") then return some (← op "*")
  else if ← peek (isGroup .brace) then
    let (tokens, rooted) ← inside .brace (g.useGroup root)
    return if rooted then none else some [.brace tokens]
  else failExpectingOf useWords

def useTokens (g : Grammar) : Parser (Kept Tokens) := do
  let head ← seq [visibility, word "use"]
  let lead ← optionalOp "::"
  let tree ← g.useTree lead.isEmpty
  let stop ← op ";"
  return tree.map fun tree => head ++ lead ++ tree ++ stop

def staticTokens (g : Grammar) : Parser (Kept Tokens) := do
  let head ← seq [visibility, word "static", optionalWord "mut", name]
  if ← peek (isOp "=") then
    let _ ← seq [op "=", g.exprTokens, op ";"]
    return none
  else
    let ty ← seq [op ":", g.typeTokens]
    if ← peek (isOp ";") then
      let _ ← op ";"
      return none
    else return some (head ++ ty ++ (← seq [op "=", g.exprTokens, op ";"]))

/-- A constant after what stands before `const`. It is kept as written if it has parameters or
lacks a value, where one is needed. -/
def constTokens (g : Grammar) (valueNeeded : Bool) : Parser (Kept Tokens) := do
  let keyword ← word "const"
  let named ←
    if ← peekAny [isIdent, isWord "_"] then anyName else failExpecting ["identifier", "`_`"]
  let generics ← g.generics
  let ty ← seq [op ":", g.typeTokens]
  let value ← if ← peek (isOp "=") then seq [op "=", g.exprTokens] else pure []
  let (constrained, _) ← g.optionalWhere
  let stop ← op ";"
  if generics.opened || constrained || (valueNeeded && value.isEmpty) then return none
  else return some (keyword ++ named ++ ty ++ value ++ stop)

/-- Where the `where` clause of a type may stand. -/
inductive WherePlace
  | beforeValue
  | afterValue
  | both
  deriving DecidableEq

/-- A type item in any of its places. -/
structure TypeRead where
  /-- Visibility and keywords. -/
  head : Tokens
  name : Tokens
  colon : Bool
  bounds : Tokens
  clause : Tokens
  value : Tokens
  stop : Tokens

def isBoundsStop : Peek := fun tokens => isWord "where" tokens || isOp "=" tokens || isOp ";" tokens

def typeRead (g : Grammar) (allowDefault : Bool) (place : WherePlace) : Parser TypeRead := do
  let head ← seq [visibility, if allowDefault then optionalWord "default" else pure [],
    word "type"]
  let named ← seq [name, g.genericsTokens]
  let colon ← peek (isOp ":")
  let bounds ← if colon then seq [op ":", g.boundsUpTo true isBoundsStop] else pure []
  let (before, clause) ←
    if place == .afterValue then pure (false, []) else g.optionalWhere
  let value ← if ← peek (isOp "=") then seq [op "=", g.typeTokens] else pure []
  let clause ← if place == .beforeValue || before then pure clause else g.whereTokens
  let stop ← op ";"
  return ⟨head, named, colon, bounds, clause, value, stop⟩

def typeItem (g : Grammar) : Parser (Kept Tokens) := do
  let read ← g.typeRead false .beforeValue
  if read.colon || read.value.isEmpty then return none
  else return some (read.head ++ read.name ++ read.clause ++ read.value ++ read.stop)

/-- A macro call as an item. It ends with a semicolon unless it has braces. -/
def macroTokens (named : Bool) : Parser Tokens := do
  let path ← namePath
  let bang ← op "!"
  let name ←
    if !named then pure []
    else if ← peek (isWord "try") then anyName
    else if ← peek isIdent then name
    else pure []
  let (delimiter, body) ← rawGroup
  let stop ← if delimiter == .brace then pure [] else op ";"
  return path.tokens ++ bang ++ name ++ [.group delimiter body] ++ stop

/-- A macro definition with `macro`, which is kept as written. -/
def macroDefinition : Parser Unit := do
  let _ ← seq [word "macro", name]
  let parameters ← if ← peek (isGroup .paren) then group .paren remaining else pure []
  if ← peek (isGroup .brace) then let _ ← group .brace remaining
  else failExpecting (if parameters.isEmpty then ["parentheses", "curly braces"]
    else ["curly braces"])

/-- Any number of parts, each of them in the group that it belongs to. -/
def bodyOf (g : Grammar) (part : Parser Tokens) : Parser Tokens :=
  group .brace (seq [g.innerTokens, return (← untilEnd part).flatten])

/-- A function, constant, type or macro call among foreign items. -/
def foreignItem (g : Grammar) : Parser Tokens := do
  let start := (← get).rest
  let attrs ← g.outerTokens
  let (vis, reached) ← lookPast visibility
  let isStatic ← visiting reached do
    let safe := (← peek (isWord "unsafe")) || (← peek (isWord "safe"))
    return (← peek (isWord "static")) || (safe && (← peek2 (isWord "static")))
  let read ←
    if ← visiting reached (startsFunction true) then
      let vis ← visibility
      let head ← g.functionHead true
      if ← peek (isGroup .brace) then
        let _ ← g.functionBody
        pure none
      else
        let stop ← op ";"
        pure (if head.isSafe then none else some (vis ++ head.tokens ++ stop))
    else if isStatic then
      let vis ← visibility
      let isUnsafe := !(← optionalWord "unsafe").isEmpty
      let isSafe := !isUnsafe && !(← optionalWord "safe").isEmpty
      let head ← seq [word "static", optionalWord "mut", name, op ":", g.typeTokens]
      let value ← if ← peek (isOp "=") then seq [op "=", g.exprTokens] else pure []
      let stop ← op ";"
      pure (if isUnsafe || isSafe || !value.isEmpty then none else some (vis ++ head ++ stop))
    else if ← visiting reached (peek (isWord "type")) then
      let read ← g.typeRead false .both
      pure (if read.colon || !read.value.isEmpty then none
        else some (read.head ++ read.name ++ read.clause ++ read.stop))
    else if vis.isEmpty && (← visiting reached (peek startsMacro)) then
      pure (some (← macroTokens false))
    else
      advanceTo reached
      failExpectingOf ([wordCandidate "fn", wordCandidate "static", wordCandidate "type"]
        ++ if vis.isEmpty then macroCandidates else [])
  match read with
  | some tokens => return attrs ++ tokens
  | none => writtenSince start

def foreignModule (g : Grammar) : Parser Tokens := do
  let mode ← optionalWord "unsafe"
  if ← peek (isWord "extern") then return mode ++ (← seq [abi, g.bodyOf g.foreignItem])
  else failHere "expected `extern`"

def traitFunction (g : Grammar) : Parser Tokens := do
  let head ← g.functionHead false
  if ← peek (isGroup .brace) then return head.tokens ++ (← g.functionBody)
  else if ← peek (isOp ";") then return head.tokens ++ (← op ";")
  else failExpecting ["curly braces", "`;`"]

def traitType (g : Grammar) : Parser Tokens := do
  let read ← g.typeRead false .afterValue
  let bounds := if read.bounds.length = 1 then [] else read.bounds
  return read.head ++ read.name ++ bounds ++ read.value ++ read.clause ++ read.stop

def traitItem (g : Grammar) : Parser Tokens := do
  let start := (← get).rest
  let attrs ← g.outerTokens
  let vis ← visibility
  let mode ← optionalWord "default"
  let plain := vis.isEmpty && mode.isEmpty
  let read ←
    if ← startsFunction false then pure (some (← g.traitFunction))
    else if ← peek (isWord "const") then g.constTokens false
    else if ← peek (isWord "type") then pure (some (← g.traitType))
    else if plain && (← peek startsMacro) then pure (some (← macroTokens false))
    else failExpectingOf ([wordCandidate "fn", wordCandidate "const", wordCandidate "type"]
      ++ if plain then macroCandidates else [])
  match read, plain with
  | some tokens, true => return attrs ++ tokens
  | _, _ => writtenSince start

def isTraitStop : Peek := fun tokens => isWord "where" tokens || isGroup .brace tokens

/-- A trait from its keyword on. -/
def traitRest (g : Grammar) : Parser Tokens := do
  let head ← seq [word "trait", name, g.genericsTokens]
  let bounds ←
    if ← peek (isOp ":") then
      let colon ← op ":"
      pure (signBefore colon (← g.boundsUpTo true isTraitStop))
    else pure []
  return head ++ bounds ++ (← seq [g.whereTokens, g.bodyOf g.traitItem])

def isAliasStop : Peek := fun tokens => isWord "where" tokens || isOp ";" tokens

/-- A trait or a short name for bounds. -/
def traitOrAlias (g : Grammar) : Parser Tokens := do
  let vis ← visibility
  let named ← lookPast (seq [word "trait", name, g.genericsTokens])
  let next := named.2
  if ← visiting next (peekAny [isGroup .brace, isOp ":", isWord "where"]) then
    return vis ++ (← g.traitRest)
  else
    advanceTo next
    if ← peek (isOp "=") then
      return vis ++ named.1 ++ (← seq [op "=", g.boundsUpTo false isAliasStop, g.whereTokens,
        op ";"])
    else failExpecting ["curly braces", "`:`", "`where`", "`=`"]

def traitTokens (g : Grammar) : Parser Tokens :=
  seq [visibility, optionalWord "unsafe", optionalWord "auto", g.traitRest]

/-- A part of an implementation, with the name of the method that it is. -/
structure ImplPart where
  method : Option String
  tokens : Tokens

def implFunction (g : Grammar) : Parser (Kept ImplPart) := do
  let mode ← seq [visibility, optionalWord "default"]
  let head ← g.functionHead false
  if ← peek (isOp ";") then
    let _ ← op ";"
    return none
  else return some ⟨some head.name, mode ++ head.tokens ++ (← g.functionBody)⟩

def implType (g : Grammar) : Parser (Kept Tokens) := do
  let read ← g.typeRead true .afterValue
  if read.colon || read.value.isEmpty then return none
  else return some (read.head ++ read.name ++ read.value ++ read.clause ++ read.stop)

/-- Visibility and `default`, after which the kind of the part shows. -/
def implPartHead : Parser (Tokens × Tokens) := do
  let vis ← visibility
  let mode ←
    if (← peek (isWord "default")) && !(← peek2 (isOp "!")) then word "default" else pure []
  return (vis, mode)

def implPart (g : Grammar) : Parser ImplPart := do
  let start := (← get).rest
  let attrs ← g.outerTokens
  let ((vis, mode), reached) ← lookPast implPartHead
  let plain := vis.isEmpty && mode.isEmpty
  let read : Kept ImplPart ←
    if ← visiting reached (startsFunction false) then g.implFunction
    else if ← visiting reached (peek (isWord "const")) then
      advanceTo reached
      pure ((← g.constTokens true).map fun tokens => ⟨none, vis ++ mode ++ tokens⟩)
    else if ← visiting reached (peek (isWord "type")) then
      pure ((← g.implType).map fun tokens => ⟨none, tokens⟩)
    else if plain && (← visiting reached (peek startsMacro)) then
      pure (some ⟨none, ← macroTokens false⟩)
    else
      advanceTo reached
      failExpectingOf ((if mode.isEmpty then [wordCandidate "default"] else [])
        ++ [wordCandidate "fn", wordCandidate "const", wordCandidate "type"]
        ++ if plain then macroCandidates else [])
  match read with
  | some part => return { part with tokens := attrs ++ part.tokens }
  | none => return ⟨none, ← writtenSince start⟩

end Grammar

/-- A path type in any number of invisible groups. -/
def ungroupedPath? : Ty → Option Tokens
  | .group inner => ungroupedPath? inner
  | .path false lead segments => some (lead ++ segmentsTokens segments)
  | _ => none

namespace Grammar

def implItem (g : Grammar) : Parser (Kept ImplItem) := do
  let vis ← visibility
  let head ← seq [optionalWord "default", optionalWord "unsafe", word "impl"]
  let generics ← if ← chooseGenerics then g.generics else pure ⟨false, false, []⟩
  let conditional := (← peek (isOp "?")) && (← peek2 (isWord "const"))
  let isConst := (← peek (isWord "const")) || conditional
  if isConst then let _ ← seq [optionalOp "?", word "const"]
  let start := (← get).rest
  let negative ←
    if (← peek (isOp "!")) && !(← peek2 (isGroup .brace)) then op "!" else pure []
  let first ← g.anyType
  let forTrait ← peek (isWord "for")
  let named := ungroupedPath? first
  let (subject, self) ←
    if forTrait then
      let keyword ← word "for"
      pure (negative ++ named.getD [] ++ keyword, ← g.anyType)
    else if negative.isEmpty then pure ([], first)
    else pure ([], Ty.other (← writtenSince start))
  let clause ← g.whereTokens
  let (inner, parts) ← inside .brace do
    let inner ← g.innerTokens
    return (inner, ← untilEnd g.implPart)
  if !vis.isEmpty || isConst || (forTrait && named.isNone) then return none
  else
    let body := [Token.brace (inner ++ parts.flatMap (·.tokens))]
    return some {
      attrs := []
      ofTrait := forTrait
      self := self
      methods := parts.filterMap (·.method)
      body := head ++ generics.tokens ++ subject ++ self.tokens ++ clause ++ body }

def moduleItem (g : Grammar) : Parser Item := do
  let head ← seq [visibility, optionalWord "unsafe", word "mod"]
  let named ← if ← peek (isWord "try") then anyName else name
  if ← peek (isOp ";") then
    let _ ← op ";"
    return .module ⟨[], head ++ named, []⟩ none
  else if ← peek (isGroup .brace) then
    let (inner, items) ← inside .brace do
      let inner ← g.innerTokens
      return (inner, ← untilEnd g.item)
    return .module ⟨[], head ++ named, inner⟩ (some items)
  else failExpecting ["`;`", "curly braces"]

/-- What may come first in an item after its visibility. -/
def itemCandidates : List (String × Peek) := [
  "fn", "extern", "use", "static", "const", "unsafe", "mod", "type", "struct", "enum", "union",
  "trait", "auto", "impl", "default", "macro"].map wordCandidate

/-- An item that begins with `extern`, seen past its visibility. -/
def externItem (g : Grammar) (reached : ParseState) : Parser Tokens := do
  let (_, reached) ← visiting reached (lookPast (word "extern"))
  if ← visiting reached (peek (isWord "crate")) then externCrateTokens
  else if ← visiting reached (peek (isGroup .brace)) then g.foreignModule
  else if ← visiting reached (peek isTextLiteral) then
    let (_, reached) ← visiting reached (lookPast textLiteral)
    if ← visiting reached (peek (isGroup .brace)) then g.foreignModule
    else visiting reached (failExpecting ["curly braces"])
  else visiting reached (failExpecting ["`crate`", "curly braces", "string literal"])

/-- The item, if it can be told from what follows the visibility. -/
def itemBody (g : Grammar) (vis : Tokens) (reached : ParseState) : Parser (Kept Item) := do
  let next := reached.rest
  let second := skipOne next
  let isNext := fun (name : String) => isWord name next
  let isSecond := fun (ask : Peek) => second.any ask
  let other := fun (tokens : Kept Tokens) => tokens.map Item.other
  if ← visiting reached (startsFunction false) then
    let vis ← visibility
    let head ← g.functionHead false
    if ← peek (isOp ";") then
      let _ ← op ";"
      return none
    else return some (.other (vis ++ head.tokens ++ (← g.functionBody)))
  else if isNext "extern" then return some (.other (← g.externItem reached))
  else if isNext "use" then return other (← g.useTokens)
  else if isNext "static" then return other (← g.staticTokens)
  else if isNext "const" then
    let vis ← visibility
    return (← g.constTokens true).map fun tokens => .other (vis ++ tokens)
  else if isNext "unsafe" then
    let autoTrait := isSecond (isWord "auto") && (second.bind skipOne).any (isWord "trait")
    if isSecond (isWord "trait") || autoTrait then return some (.other (← g.traitTokens))
    else if isSecond (isWord "impl") then return (← g.implItem).map .impl
    else if isSecond (isWord "extern") then return some (.other (← g.foreignModule))
    else if isSecond (isWord "mod") then return some (← g.moduleItem)
    else
      let (_, reached) ← visiting reached (lookPast (word "unsafe"))
      visiting reached (failExpectingOf
        (["trait", "auto", "impl", "extern", "mod"].map wordCandidate))
  else if isNext "mod" then return some (← g.moduleItem)
  else if isNext "type" then return other (← g.typeItem)
  else if isNext "struct" then return some (.struct (← g.structItem))
  else if isNext "enum" then return some (.other (← g.enumTokens))
  else if isNext "union" && isSecond isIdent then return some (.other (← g.unionTokens))
  else if isNext "trait" then return some (.other (← g.traitOrAlias))
  else if isNext "auto" && isSecond (isWord "trait") then return some (.other (← g.traitTokens))
  else if isNext "impl" || (isNext "default" && !isSecond (isOp "!")) then
    return (← g.implItem).map .impl
  else if isNext "macro" then
    advanceTo reached
    macroDefinition
    return none
  else if vis.isEmpty && startsMacro next then return some (.other (← macroTokens true))
  else
    visiting reached (failExpectingOf
      (itemCandidates ++ if vis.isEmpty then macroCandidates else []))

/-- The rest of an item whose attributes were read since `start`. -/
def readItemAfterAttrs (g : Grammar) (start : Tokens) (attrs : List Attribute) :
    Parser Item := do
  let (vis, reached) ← lookPast visibility
  match ← g.itemBody vis reached with
  | some item => return item.addAttrs attrs
  | none => return .other (← writtenSince start)

def readItem (g : Grammar) : Parser Item := do
  let start := (← get).rest
  let attrs ← g.outerAttributes
  g.readItemAfterAttrs start attrs

end Grammar

end ClassExpansion
