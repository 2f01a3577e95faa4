import ClassExpansion.Source.Grammar.Attribute

set_option autoImplicit false

/- Productions of paths, of their arguments, and of bounds. -/
namespace ClassExpansion

open ClassExpansion.Parser

namespace Grammar

def anyType (g : Grammar) : Parser Ty := g.type true true

def typeTokens (g : Grammar) : Parser Tokens := return (← g.anyType).tokens

/-- A type to which no further bounds can be added. -/
def tightType (g : Grammar) : Parser Tokens := return (← g.type false true).tokens

def exprTokens (g : Grammar) : Parser Tokens := return (← g.expr true).tokens

/-- An arrow and a type, or nothing. -/
def returnType (g : Grammar) (plus : Bool) : Parser Tokens := do
  if ← peek (isOp "->") then seq [op "->", return (← g.type plus true).tokens] else return []

def literalTokens : Parser Tokens := return (← literal).tokens

def blockTokens (g : Grammar) : Parser Tokens := group .brace g.statements

/-- A block that may begin with attributes of what it belongs to. -/
def attributedBlock (g : Grammar) : Parser Tokens :=
  group .brace (seq [g.innerTokens, g.statements])

/-- A literal, a block or a name. -/
def constArgument (g : Grammar) : Parser Tokens := do
  if ← peek isLiteral then literalTokens
  else if ← peek isIdent then name
  else if ← peek (isGroup .brace) then g.attributedBlock
  else failExpecting []

/-- Parameters between `for<` and `>`. -/
def binder (g : Grammar) : Parser Tokens := do
  let parameters := repeating (fun (read : Tokens) => do
    if ← peek (isOp ">") then return (read, false)
    let read := read ++ (← g.boundParameter)
    if ← peek (isOp ">") then return (read, false)
    return (read ++ (← op ","), true)) []
  seq [word "for", op "<", parameters, op ">"]

def optionalBinder (g : Grammar) : Parser Tokens := do
  if ← peek (isWord "for") then g.binder else return []

/-- Arguments in parentheses with a result, as traits of functions take them. -/
def parenthesizedArguments (g : Grammar) : Parser Tokens :=
  seq [group .paren (terminatedTokens g.typeTokens), g.returnType false]

/-- What captures are listed between `use<` and `>`. -/
def preciseCapture : Parser Tokens := do
  let _ ← word "use"
  let _ ← op "<"
  let captured ← repeating (fun (read : List (Bool × Tokens × Bool)) => do
    let (isLifetimeNext, tokens) ←
      if ← peek isLifetime then pure (true, ← lifetime)
      else if ← peekAny [isIdent, isWord "Self"] then pure (false, ← anyName)
      else if ← peek (isOp ">") then return (read, false)
      else failExpecting ["lifetime", "identifier", "`>`"]
    if ← peek (isOp ",") then
      let _ ← op ","
      return (read ++ [(isLifetimeNext, tokens, true)], true)
    else if ← peek (isOp ">") then return (read ++ [(isLifetimeNext, tokens, false)], false)
    else failExpecting ["`,`", "`>`"]) []
  let close ← op ">"
  return [.ident "use"] ++ Token.op "<" ++ lifetimesFirst captured ++ close

/-- Whether a bound is a trait, a lifetime or a list of captures. -/
inductive BoundKind
  | trait
  | lifetime
  | capture
  deriving DecidableEq

end Grammar

/-- What an argument between angle brackets may be, a lifetime apart. -/
def isConstArgument : Peek := fun tokens => isLiteral tokens || isGroup .brace tokens

/-- The only segment of a type, which may come before an equals sign or a colon. -/
def argumentName? : Ty → Option PathSegment
  | .path false [] [segment] => some segment
  | _ => none

def isPlus : Peek := isOp "+"

/-- An opening angle bracket, and not the start of another operator. -/
def isOpenAngle : Peek := fun tokens =>
  isOp "<" tokens && !isOp "<=" tokens && !isOp "<<=" tokens

/-- What may begin another bound after a plus sign. -/
def isBoundStart (const : Bool) : Peek := fun tokens =>
  isAnyIdent tokens || isOp "::" tokens || isOp "?" tokens || isLifetime tokens
    || isGroup .paren tokens || (const && (isGroup .bracket tokens || isWord "const" tokens))

def isLoneColon : Peek := fun tokens => isOp ":" tokens && !isOp "::" tokens

/-- Words that are a whole segment, never with arguments. -/
def bareSegmentWords : List String := ["super", "self", "crate", "try"]

namespace Grammar

/-- Arguments between angle brackets. -/
def angledList (g : Grammar) : Parser (List GenericArgument) := do
  let _ ← op "<"
  let arguments ← repeating (fun (read : List GenericArgument) => do
    if ← peek (isOp ">") then return (read, false)
    let next ← g.argument
    if ← peek (isOp ">") then return (read ++ [next], false)
    let _ ← op ","
    return (read ++ [next.withComma], true)) []
  let _ ← op ">"
  return arguments

/-- Arguments between angle brackets, with or without colons before them. -/
def angledArguments (g : Grammar) : Parser PathArguments := do
  let turbofish := !(← optionalOp "::").isEmpty
  return .angled turbofish (← g.angledList)

/-- One segment. In an expression, arguments need colons before them. -/
def segment (g : Grammar) (inExpr : Bool) : Parser PathSegment := do
  if ← peekAny (bareSegmentWords.map isWord) then return .mk (← anyIdent) .none
  let name ← if ← peek (isWord "Self") then anyIdent else ident
  let angled := !inExpr && (← peek isOpenAngle)
  if angled || ((← peek (isOp "::")) && (← peek3 (isOp "<"))) then
    return .mk name (← g.angledArguments)
  else return .mk name .none

/-- More segments, each after colons. -/
def segmentsAfter (g : Grammar) (inExpr : Bool) : Parser (List PathSegment) :=
  repeating (fun read => do
    if (← peek (isOp "::")) && !(← peek3 (isGroup .paren)) then
      let _ ← op "::"
      return (read ++ [← g.segment inExpr], true)
    else return (read, false)) []

def path (g : Grammar) (inExpr : Bool) : Parser Path := do
  let lead ← optionalOp "::"
  let first ← g.segment inExpr
  return ⟨false, lead, first :: (← g.segmentsAfter inExpr)⟩

/-- A path that may begin with a type between angle brackets. -/
def qualifiedPath (g : Grammar) (inExpr : Bool) : Parser Path := do
  if ← peek (isOp "<") then
    let subject ← seq [op "<", g.typeTokens]
    let trait ←
      if ← peek (isWord "as") then seq [word "as", return (← g.path false).tokens] else pure []
    let close ← seq [op ">", op "::"]
    let first ← g.segment inExpr
    let rest ← repeating (fun read => do
      if ← peek (isOp "::") then
        let _ ← op "::"
        return (read ++ [← g.segment inExpr], true)
      else return (read, false)) []
    return ⟨true, subject ++ trait ++ close, first :: rest⟩
  else g.path inExpr

/-- A trait with its modifiers. Gives no tokens if it is marked `const`. -/
def traitBound (g : Grammar) (const : Bool) : Parser (Option Tokens) := do
  let binder ← g.optionalBinder
  let conditional ← peek (isGroup .bracket)
  let unconditional ← peek (isWord "const")
  if conditional then
    let _ ← inside .bracket (word "const")
    if !const then failAt "`[const]` is not allowed here"
  else if unconditional then
    let _ ← word "const"
    if !const then failAt "`const` is not allowed here"
  let modifier ← optionalOp "?"
  let binder ← if binder.isEmpty && !modifier.isEmpty then g.optionalBinder else pure binder
  let path ← g.path false
  let called := (← peek (isGroup .paren))
    || ((← peek (isOp "::")) && (← peek3 (isGroup .paren)))
  let path ←
    if path.endsWithoutArguments && called then
      let _ ← optionalOp "::"
      pure (path.withLastArguments (.parenthesized (← g.parenthesizedArguments)))
    else pure path
  if !binder.isEmpty && !modifier.isEmpty then
    failAt "`for<...>` binder not allowed with `?` trait polarity modifier"
  if conditional || unconditional then return none
  else return some (binder ++ modifier ++ path.tokens)

/-- One bound; `capture` and `const` tell what it may be besides a trait or a lifetime. -/
def bound (g : Grammar) (capture const : Bool) : Parser (BoundKind × Tokens) := do
  if ← peek isLifetime then return (.lifetime, ← lifetime)
  if ← peek (isWord "use") then
    let tokens ← preciseCapture
    if capture then return (.capture, tokens)
    else failAt "`use<...>` precise capturing syntax is not allowed here"
  let start := (← get).rest
  let (enclosed, read) ←
    if ← peek (isGroup .paren) then pure (true, ← inside .paren (g.traitBound const))
    else pure (false, ← g.traitBound const)
  match read with
  | some tokens => return (.trait, if enclosed then [.paren tokens] else tokens)
  | none => return (.trait, ← writtenSince start)

def boundTokens (g : Grammar) (const : Bool) : Parser Tokens := return (← g.bound false const).2

/-- Bounds with plus signs between them. They end before what `stop` recognises, or where no
plus sign follows. -/
def boundsUntil (g : Grammar) (const : Bool) (stop : Peek) : Parser Tokens :=
  repeating (fun (read : Tokens) => do
    if ← peek stop then return (read, false)
    let read := read ++ (← g.boundTokens const)
    if ← peek isPlus then return (read ++ (← op "+"), true) else return (read, false)) []

/-- Bounds with plus signs between them, which only what `stop` recognises can end. -/
def boundsUpTo (g : Grammar) (const : Bool) (stop : Peek) : Parser Tokens :=
  repeating (fun (read : Tokens) => do
    if ← peek stop then return (read, false)
    let read := read ++ (← g.boundTokens const)
    if ← peek stop then return (read, false)
    return (read ++ (← op "+"), true)) []

/-- More bounds, each after a plus sign. -/
def boundsAfter (g : Grammar) : Parser Tokens :=
  whilePeek isPlus (seq [op "+", g.boundTokens false])

/-- Bounds of a trait object, or of an opaque type, where captures and constant traits may be
among them. One of them has to be a trait. -/
def boundsOfTrait (g : Grammar) (plus isOpaque : Bool) (reason : String) : Parser Tokens := do
  let (tokens, hasTrait) ← repeating (fun (read : Tokens × Bool) => do
    let (kind, tokens) ← g.bound isOpaque isOpaque
    let read := (read.1 ++ tokens, read.2 || kind == .trait)
    if plus && (← peek isPlus) then
      let sign ← op "+"
      return ((read.1 ++ sign, read.2), ← peek (isBoundStart isOpaque))
    else return (read, false)) ([], false)
  if hasTrait then return tokens else failAt reason

/-- An argument between angle brackets. -/
def readArgument (g : Grammar) : Parser GenericArgument := do
  if (← peek isLifetime) && !(← peek2 isPlus) then return .lifetime (← lifetime) false
  if ← peek isConstArgument then return .other (← g.constArgument) false
  let ty ← g.anyType
  match argumentName? ty with
  | some named =>
    if ← peek (isOp "=") then
      let sign ← op "="
      let value ← if ← peek isConstArgument then g.constArgument else g.typeTokens
      return .other (named.tokens ++ sign ++ value) false
    else if ← peek (isOp ":") then
      let sign ← op ":"
      let bounds ← g.boundsUntil true fun tokens => isOp "," tokens || isOp ">" tokens
      return .other (named.tokens ++ sign ++ bounds) false
    else return .type ty false
  | none => return .type ty false

end Grammar

end ClassExpansion
