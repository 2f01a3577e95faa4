import ClassExpansion.Source.Grammar.Path

set_option autoImplicit false

/- Productions of types. -/
namespace ClassExpansion

open ClassExpansion.Parser

namespace Grammar

def abi : Parser Tokens := do
  if ← peek (isWord "extern") then
    let linkage ← word "extern"
    if ← peek isTextLiteral then return linkage ++ (← literalTokens) else return linkage
  else return []

/-- A name or an underscore with a colon. -/
def nameColon : Parser Tokens := seq [anyName, op ":"]

def variadicDots : Parser Tokens := do
  let named ← peekAny [isIdent, isWord "_"]
  seq [if named then nameColon else pure [], op "...", optionalOp ","]

/-- A parameter of a function type. The first one may be `self`, with or without a type. -/
def functionTypeParameter (g : Grammar) (first : Bool) : Parser Tokens := do
  let attrs ← g.outerTokens
  let start := (← get).rest
  let mutableSelf := first && (← peek (isWord "mut")) && (← peek2 (isWord "self"))
  if mutableSelf then let _ ← word "mut"
  let selfNext := first && (← peek (isWord "self"))
  let nameNext := (← peekAny [isIdent, isWord "_"]) || selfNext
  let named := nameNext && (← peek2 (isOp ":")) && !(← peek2 (isOp "::"))
  let label ← if named then nameColon else pure []
  let plainSelf := mutableSelf && !named
  let unnamedSelf := first && !(named && selfNext) && (← peek (isWord "mut"))
    && (← peek2 (isWord "self"))
  if unnamedSelf then
    let _ ← seq [word "mut", word "self"]
    return attrs ++ (← writtenSince start)
  else if plainSelf then
    let _ ← word "self"
    return attrs ++ (← writtenSince start)
  else
    let ty ← g.typeTokens
    if mutableSelf then return attrs ++ (← writtenSince start)
    else return attrs ++ label ++ ty

/-- Whether three dots end the parameters here. -/
def atVariadic : Parser Bool := do
  let named := (← peekAny [isIdent, isWord "_"]) && (← peek2 (isOp ":")) && (← peek3 (isOp "..."))
  return (← peek (isOp "...")) || named

def functionTypeParameters (g : Grammar) : Parser Tokens := do
  let (tokens, _) ← repeating (fun (read : Tokens × Bool) => do
    let (read, first) := read
    if ← atEnd then return ((read, first), false)
    let attrs ← g.outerTokens
    if ← atVariadic then return ((read ++ attrs ++ (← variadicDots), first), false)
    let read := read ++ attrs ++ (← g.functionTypeParameter first)
    if ← atEnd then return ((read, false), false)
    return ((read ++ (← op ","), false), true)) ([], true)
  return tokens

/-- A function type after its lifetimes. -/
def functionType (g : Grammar) : Parser Tokens :=
  seq [optionalWord "unsafe", abi, word "fn", group .paren g.functionTypeParameters,
    g.returnType false]

/-- What follows a type in an invisible group: more of its path, or arguments. -/
def typeAfterGroup (g : Grammar) (inner : Ty) (groupArguments : Bool) : Parser Ty := do
  let colons ← peek (isOp "::")
  let angle ← peek (isOp "<")
  if colons && (← peek3 isAnyIdent) then
    match inner with
    | .path qualified lead segments =>
      return .path qualified lead (segments ++ (← g.segmentsAfter false))
    | _ =>
      let path ← g.path false
      let lead := Token.op "<" ++ inner.tokens ++ Token.op ">" ++ path.lead
      return .path true lead path.segments
  else if (angle && groupArguments) || (colons && (← peek3 (isOp "<"))) then
    match inner with
    | .path qualified lead segments =>
      let path : Path := ⟨qualified, lead, segments⟩
      if path.endsBare then
        let path := path.withLastArguments (← g.angledArguments)
        return (path.addSegments (← g.segmentsAfter false)).toTy
      else return .group inner
    | _ => return .group inner
  else return .group inner

/-- What parentheses hold: a list of types, bounds, or one type, which may be the first bound. -/
inductive ParenContent
  | tuple (tokens : Tokens)
  | bounds (tokens : Tokens)
  | modified (tokens : Tokens)
  | single (ty : Ty)

def noTrait : String := "at least one trait is required for an object type"

def parenContent (g : Grammar) : Parser ParenContent := do
  if ← atEnd then return .tuple []
  else if ← peek isLifetime then return .bounds (← g.boundsOfTrait true false noTrait)
  else if ← peek (isOp "?") then return .modified ((← g.traitBound false).getD [])
  else
    let first ← g.anyType
    if ← peek (isOp ",") then
      let comma ← op ","
      return .tuple (first.tokens ++ comma ++ (← terminatedTokens g.typeTokens))
    else return .single first

end Grammar

/-- A path or one bound in parentheses, which can be the first of several bounds. -/
def parenthesizedBound? : Ty → Option Tokens
  | .path false lead segments => some [.paren (lead ++ segmentsTokens segments)]
  | .bound _ tokens => some [.paren tokens]
  | _ => none

namespace Grammar

def parenType (g : Grammar) (plus : Bool) : Parser Ty := do
  match ← inside .paren g.parenContent with
  | .tuple tokens => return .other [.paren tokens]
  | .bounds tokens => return .paren (.other tokens)
  | .modified tokens =>
    if ← peek isPlus then return .other ([.paren tokens] ++ (← g.boundsAfter))
    else return .bound true tokens
  | .single first =>
    if plus && (← peek isPlus) then
      match parenthesizedBound? first with
      | some bound => return .other (bound ++ (← g.boundsAfter))
      | none => return .paren first
    else return .paren first

/-- A type that begins with a path: the path itself, a macro call, or bounds. -/
def pathType (g : Grammar) (binder : Tokens) (plus : Bool) : Parser Ty := do
  let path ← g.qualifiedPath false
  if path.qualified then return path.toTy
  else if (← peek (isOp "!")) && !(← peek (isOp "!=")) && path.isPlain then
    return .other (path.tokens ++ (← seq [op "!", rawGroupTokens]))
  else if !binder.isEmpty || (plus && (← peek isPlus)) then
    let rest ←
      if plus then
        repeating (fun (read : Tokens) => do
          if ← peek isPlus then
            let read := read ++ (← op "+")
            if ← peek (isBoundStart false) then
              return (read ++ (← g.boundTokens false), true)
            else return (read, false)
          else return (read, false)) []
      else pure []
    if rest.isEmpty then return .bound false (binder ++ path.tokens)
    else return .other (binder ++ path.tokens ++ rest)
  else return path.toTy

def bracketType (g : Grammar) : Parser Tokens := group .bracket do
  let element ← g.typeTokens
  if ← peek (isOp ";") then return element ++ (← seq [op ";", g.exprTokens]) else return element

def pointerType (g : Grammar) : Parser Tokens := do
  let star ← op "*"
  let mode ←
    if ← peek (isWord "const") then word "const"
    else if ← peek (isWord "mut") then word "mut"
    else failExpecting ["`const`", "`mut`"]
  return star ++ mode ++ (← g.tightType)

def optionalLifetime : Parser Tokens := do
  if ← peek isLifetime then lifetime else return []

def referenceType (g : Grammar) : Parser Tokens :=
  seq [op "&", optionalLifetime, optionalWord "mut", g.tightType]

def objectType (g : Grammar) (plus : Bool) : Parser Tokens := do
  let start := (← get).rest
  let dyn_ ← word "dyn"
  let star ← optionalOp "*"
  let bounds ← g.boundsOfTrait plus false noTrait
  if star.isEmpty then return dyn_ ++ bounds else writtenSince start

def opaqueType (g : Grammar) (plus : Bool) : Parser Tokens := do
  let impl_ ← word "impl"
  return impl_ ++ (← g.boundsOfTrait plus true "at least one trait must be specified")

def typeStartNames : List String := [
  "`for`", "parentheses", "`fn`", "`unsafe`", "`extern`", "identifier", "`::`", "`<`", "`dyn`",
  "square brackets", "`*`", "`&`", "`!`", "`impl`", "`_`", "lifetime"]

/-- What may follow the lifetimes of a type. -/
def afterBinderNames : List String :=
  ["identifier", "`fn`", "`unsafe`", "`extern`", "`super`", "`self`", "`Self`", "`crate`"]

def isFunctionTypeStart : Peek := fun tokens =>
  isWord "fn" tokens || isWord "unsafe" tokens || isWord "extern" tokens

def isAfterBinder : Peek := fun tokens =>
  isPathStart tokens || isFunctionTypeStart tokens

def isTypePathStart : Peek := fun tokens =>
  isPathStart tokens || isOp "::" tokens || isOp "<" tokens

/-- A call of the compiler in place of a type or an expression. -/
def builtinCall : Parser Tokens := seq [word "builtin", op "#", name, group .paren remaining]

def startsBuiltin : Parser Bool := return (← peek (isWord "builtin")) && (← peek2 (isOp "#"))

/-- A type outside of invisible groups. -/
def ungroupedType (g : Grammar) (plus : Bool) : Parser Ty := do
  let start := (← get).rest
  let binder ← g.optionalBinder
  if !binder.isEmpty then
    if !(← peek isAfterBinder) || (← peek (isWord "dyn")) then failExpecting afterBinderNames
  if ← peek (isGroup .paren) then g.parenType plus
  else if ← peek isFunctionTypeStart then return .other (binder ++ (← g.functionType))
  else if ← startsBuiltin then
    let _ ← builtinCall
    return .other (← writtenSince start)
  else if ← peek isTypePathStart then g.pathType binder plus
  else if ← peek (isWord "dyn") then return .other (← g.objectType plus)
  else if ← peek (isGroup .bracket) then return .other (← g.bracketType)
  else if ← peek (isOp "*") then return .other (← g.pointerType)
  else if ← peek (isOp "&") then return .other (← g.referenceType)
  else if (← peek (isOp "!")) && !(← peek (isOp "=")) then return .other (← op "!")
  else if ← peek (isWord "impl") then return .other (← g.opaqueType plus)
  else if ← peek (isWord "_") then return .other (← word "_")
  else if ← peek isLifetime then return .other (← g.boundsOfTrait true false noTrait)
  else failExpecting typeStartNames

/-- A type. -/
def readType (g : Grammar) (plus groupArguments : Bool) : Parser Ty := do
  if ← peek (isGroup .invisible) then
    let inner ← inside .invisible g.anyType
    g.typeAfterGroup inner groupArguments
  else g.ungroupedType plus

end Grammar

end ClassExpansion
