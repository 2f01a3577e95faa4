import ClassExpansion.Source.Grammar.Statement

set_option autoImplicit false

/- Productions of visibilities and of functions. -/
namespace ClassExpansion

open ClassExpansion.Parser

/-- Goes on from another place and comes back. -/
def visiting {α : Type} (place : ParseState) (parser : Parser α) : Parser α := do
  let here ← get
  set place
  let read ← parser
  set here
  return read

/-- Runs a parser apart, and fails if it fails. -/
def lookPast {α : Type} (parser : Parser α) : Parser (α × ParseState) := do
  match ← ahead parser with
  | .ok result => return result
  | .error fault => throw fault

def publicScope : Tokens → Option Tokens
  | tokens =>
    match nextIdent? tokens with
    | some (name, []) =>
      if name == "crate" || name == "self" || name == "super" then some [.ident name] else none
    | _ => none

def publicVisibility : Parser Tokens := do
  let head ← word "pub"
  match opened (← get).rest with
  | .group .paren body :: rest =>
    match publicScope body with
    | some scope =>
      setRest rest
      return head ++ [.paren scope]
    | none =>
      if isWord "in" body then
        return head ++ (← group .paren (seq [word "in", return (← namePath).tokens]))
      else return head
  | _ => return head

/-- A visibility, whose tokens are empty if it is inherited. -/
def visibility : Parser Tokens := do
  match (← get).rest with
  | .group .invisible [] :: rest =>
    setRest rest
    return []
  | _ => if ← peek (isWord "pub") then publicVisibility else return []

def safeWord (allowed : Bool) : Parser Bool := do
  return allowed && (← peek (isWord "safe"))

/-- Whether the head of a function comes next. -/
def startsFunction (allowSafe : Bool) : Parser Bool := do
  let head : Parser Bool := do
    let _ ← seq [optionalWord "const", optionalWord "async"]
    let _ ← if ← safeWord allowSafe then word "safe" else optionalWord "unsafe"
    let _ ← Grammar.abi
    peek (isWord "fn")
  match ← ahead head with
  | .ok (found, _) => return found
  | .error _ => return false

inductive ParameterKind
  | receiver
  | typed
  | variadic
  deriving DecidableEq

structure FunctionHead where
  name : String
  isSafe : Bool
  tokens : Tokens

namespace Grammar

def receiver (g : Grammar) : Parser Tokens := do
  let reference ← if ← peek (isOp "&") then seq [op "&", optionalLifetime] else pure []
  let self_ ← seq [optionalWord "mut", word "self"]
  if reference.isEmpty && (← peek (isOp ":")) then
    return self_ ++ (← seq [op ":", g.typeTokens])
  else return reference ++ self_

/-- A parameter after its attributes. A type alone stands for a parameter without a name. -/
def parameter (g : Grammar) : Parser (ParameterKind × Tokens) := do
  match ← ahead g.receiver with
  | .ok (tokens, reached) =>
    advanceTo reached
    return (.receiver, tokens)
  | .error _ =>
    if (← peek isIdent) && (← peek2 (isOp "<")) then
      return (.typed, [.ident "_"] ++ Token.op ":" ++ (← g.typeTokens))
    else
      let head ← seq [g.patternTokens, op ":"]
      if ← peek (isOp "...") then return (.variadic, head ++ (← op "..."))
      else return (.typed, head ++ (← g.typeTokens))

/-- What has been read of the parameters. -/
structure ParametersRead where
  tokens : Tokens
  any : Bool
  receiver : Bool

def parameterStep (g : Grammar) (read : ParametersRead) : Parser (ParametersRead × Bool) := do
  if ← atEnd then return (read, false)
  let attrs ← g.outerTokens
  let (kind, tokens) ←
    if ← peek (isOp "...") then pure (.variadic, ← op "...") else g.parameter
  let tokens := read.tokens ++ attrs ++ tokens
  if kind == .variadic then
    let comma ← if ← atEnd then pure [] else op ","
    return ({ read with tokens := tokens ++ comma }, false)
  if kind == .receiver && read.receiver then failAt "unexpected second method receiver"
  if kind == .receiver && read.any then failAt "unexpected method receiver"
  let comma ← if ← atEnd then pure [] else op ","
  return (⟨tokens ++ comma, true, read.receiver || kind == .receiver⟩, true)

def parameters (g : Grammar) : Parser Tokens :=
  return (← repeating g.parameterStep ⟨[], false, false⟩).tokens

/-- The head of a function, up to its body. -/
def functionHead (g : Grammar) (allowSafe : Bool) : Parser FunctionHead := do
  let mode ← seq [optionalWord "const", optionalWord "async", optionalWord "unsafe"]
  let isUnsafe := mode.any (· == .ident "unsafe")
  let isSafe ← safeWord (allowSafe && !isUnsafe)
  if isSafe then let _ ← word "safe"
  let linkage ← seq [abi, word "fn"]
  let name ← ident
  let generics ← g.generics
  let rest ← seq [group .paren g.parameters, g.returnType true, g.whereTokens]
  return ⟨name, isSafe, mode ++ linkage ++ [.ident name] ++ generics.tokens ++ rest⟩

end Grammar

end ClassExpansion
