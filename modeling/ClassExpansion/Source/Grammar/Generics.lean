import ClassExpansion.Source.Grammar.Type

set_option autoImplicit false

/- Productions of generic parameters and of `where` clauses. -/
namespace ClassExpansion

open ClassExpansion.Parser

/-- Whether what follows are generic parameters and not the start of a qualified path. -/
def chooseGenerics : Parser Bool := do
  if !(← peek (isOp "<")) then return false
  if ← peek2 (isOp ">") then return true
  if ← peek2 (isOp "#") then return true
  if ← peek2 (isWord "const") then return true
  let named := (← peek2 isLifetime) || (← peek2 isIdent)
  let ended := (← peek3 (isOp ">")) || (← peek3 (isOp ",")) || (← peek3 isLoneColon)
    || (← peek3 (isOp "="))
  return named && ended

/-- The same after a keyword. -/
def chooseGenericsAfterWord : Parser Bool := do
  match ← ahead (do let _ ← anyIdent; chooseGenerics) with
  | .ok (chosen, _) => return chosen
  | .error _ => return false

/-- Generic parameters: their tokens, and whether there is any. The angle brackets are not
written when they are empty. -/
structure GenericsRead where
  opened : Bool
  nonempty : Bool
  tokens : Tokens

namespace Grammar

/-- A sign with what follows it, or nothing if nothing follows it. -/
def signBefore (sign rest : Tokens) : Tokens := if rest.isEmpty then [] else sign ++ rest

def lifetimeBounds (stop : Peek) : Parser Tokens :=
  repeating (fun (read : Tokens) => do
    if ← peek stop then return (read, false)
    let read := read ++ (← lifetime)
    if ← peek isPlus then return (read ++ (← op "+"), true) else return (read, false)) []

/-- What ends the bounds of a parameter. -/
def isParameterEnd : Peek := fun tokens =>
  tokens.isEmpty || isOp "," tokens || isOp ">" tokens

def lifetimeParameter : Parser Tokens := do
  let named ← lifetime
  if ← peek (isOp ":") then
    let colon ← op ":"
    let bounds ← lifetimeBounds isParameterEnd
    return named ++ signBefore colon bounds
  else return named

def typeParameter (g : Grammar) : Parser Tokens := do
  let named ← name
  let bounds ←
    if ← peek (isOp ":") then
      let colon ← op ":"
      let bounds ← g.boundsUntil true fun tokens => isParameterEnd tokens || isOp "=" tokens
      pure (signBefore colon bounds)
    else pure []
  if ← peek (isOp "=") then return named ++ bounds ++ (← seq [op "=", g.typeTokens])
  else return named ++ bounds

def constParameter (g : Grammar) : Parser Tokens := do
  let head ← seq [word "const", name, op ":", g.typeTokens]
  if ← peek (isOp "=") then return head ++ (← seq [op "=", g.constArgument]) else return head

/-- One parameter after its attributes, and whether it is a lifetime. -/
def genericParameter (g : Grammar) : Parser (Bool × Tokens) := do
  if ← peek isLifetime then return (true, ← lifetimeParameter)
  else if ← peek isIdent then return (false, ← g.typeParameter)
  else if ← peek (isWord "const") then return (false, ← g.constParameter)
  else if ← peek (isWord "_") then return (false, ← anyName)
  else failExpecting ["lifetime", "identifier", "`const`"]

/-- A parameter between `for<` and `>`, with its attributes. -/
def readBoundParameter (g : Grammar) : Parser Tokens := do
  let attrs ← g.outerTokens
  if ← peek isIdent then return attrs ++ (← g.typeParameter)
  else if ← peek isLifetime then return attrs ++ (← lifetimeParameter)
  else if ← peek (isWord "const") then return attrs ++ (← g.constParameter)
  else failExpecting ["identifier", "lifetime", "`const`"]

def generics (g : Grammar) : Parser GenericsRead := do
  if !(← peek (isOp "<")) then return ⟨false, false, []⟩
  let _ ← op "<"
  let parameters ← repeating (fun (read : List (Bool × Tokens × Bool)) => do
    if ← peek (isOp ">") then return (read, false)
    let attrs ← g.outerTokens
    let (isLifetime, tokens) ← g.genericParameter
    if ← peek (isOp ">") then return (read ++ [(isLifetime, attrs ++ tokens, false)], false)
    let _ ← op ","
    return (read ++ [(isLifetime, attrs ++ tokens, true)], true)) []
  let _ ← op ">"
  let tokens :=
    if parameters.isEmpty then []
    else Token.op "<" ++ lifetimesFirst parameters ++ Token.op ">"
  return ⟨true, !parameters.isEmpty, tokens⟩

/-- What ends the bounds of a predicate. -/
def isPredicateEnd : Peek := fun tokens =>
  tokens.isEmpty || isGroup .brace tokens || isOp "," tokens || isOp ";" tokens
    || isLoneColon tokens || isOp "=" tokens

def isLifetimePredicateEnd : Peek := fun tokens => isPredicateEnd tokens || isOp ":" tokens

def wherePredicate (g : Grammar) : Parser Tokens := do
  if (← peek isLifetime) && (← peek2 (isOp ":")) then
    seq [lifetime, op ":", lifetimeBounds isLifetimePredicateEnd]
  else
    seq [g.optionalBinder, g.typeTokens, op ":", g.boundsUntil true isPredicateEnd]

def whereClause (g : Grammar) : Parser Tokens := do
  let head ← word "where"
  if ← chooseGenerics then
    failHere "generic parameters on `where` clauses are reserved for future use"
  let predicates ← repeating (fun (read : Tokens) => do
    if ← peek isPredicateEnd then return (read, false)
    let read := read ++ (← g.wherePredicate)
    if ← peek (isOp ",") then return (read ++ (← op ","), true) else return (read, false)) []
  return signBefore head predicates

/-- A clause, if there is one, and whether there is. -/
def optionalWhere (g : Grammar) : Parser (Bool × Tokens) := do
  if ← peek (isWord "where") then return (true, ← g.whereClause) else return (false, [])

def whereTokens (g : Grammar) : Parser Tokens := return (← g.optionalWhere).2

end Grammar

end ClassExpansion
