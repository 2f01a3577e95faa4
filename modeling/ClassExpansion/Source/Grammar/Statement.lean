import ClassExpansion.Source.Grammar.Expression

set_option autoImplicit false

/- Productions of statements. -/
namespace ClassExpansion

open ClassExpansion.Parser

/-- A statement, and whether only a semicolon can part it from the next one. -/
structure Statement where
  tokens : Tokens
  needsSemicolon : Bool

/-- A macro call with braces, or with a name after the exclamation mark, is a statement. -/
inductive MacroStart
  | item
  | statement (path : NamePath) (reached : ParseState)
  | neither

def macroStart : Parser MacroStart := do
  match ← ahead namePath with
  | .error _ => return .neither
  | .ok (path, reached) =>
    let rest := reached.rest
    let second := skipOne rest
    let third := second.bind skipOne
    if !isOp "!" rest then return .neither
    else if (second.any isIdent) || (second.any (isWord "try")) then return .item
    else if (second.any (isGroup .brace)) && !(third.any isLoneDot) && !(third.any (isOp "?")) then
      return .statement path reached
    else return .neither

def startsStaticItem : Parser Bool := do
  if !(← peek (isWord "static")) then return false
  if ← peek2 (isWord "mut") then return true
  let closure := (← peek2 (isWord "async")) && ((← peek3 (isWord "move")) || (← peek3 (isOp "|")))
  return (← peek2 isIdent) && !closure

def startsConstItem : Parser Bool := do
  if !(← peek (isWord "const")) then return false
  if ← peek2 (isGroup .brace) then return false
  if ← peek2 (isWord "static") then return false
  if ← peek2 (isWord "move") then return false
  if ← peek2 (isOp "|") then return false
  if ← peek2 (isWord "async") then
    return (← peek3 (isWord "unsafe")) || (← peek3 (isWord "extern")) || (← peek3 (isWord "fn"))
  return true

def itemWords : List String :=
  ["pub", "extern", "use", "fn", "mod", "type", "struct", "enum", "trait", "impl", "macro"]

/-- Whether an item begins here, macro calls apart. -/
def startsItem : Parser Bool := do
  if ← peekAny (itemWords.map isWord) then return true
  if ← startsStaticItem then return true
  if ← startsConstItem then return true
  if (← peek (isWord "crate")) && !(← peek2 (isOp "::")) then return true
  if (← peek (isWord "unsafe")) && !(← peek2 (isGroup .brace)) then return true
  if ← peek (isWord "async") then
    return (← peek2 (isWord "unsafe")) || (← peek2 (isWord "extern")) || (← peek2 (isWord "fn"))
  if ← peek (isWord "union") then return ← peek2 isIdent
  if ← peek (isWord "auto") then return ← peek2 (isWord "trait")
  if ← peek (isWord "default") then
    return (← peek2 (isWord "unsafe")) || (← peek2 (isWord "impl"))
  return false

namespace Grammar

def letStatement (g : Grammar) : Parser Tokens := do
  let head ← seq [word "let", g.patternTokens]
  let ty ← if ← peek (isOp ":") then seq [op ":", g.typeTokens] else pure []
  let value ←
    if ← peek (isOp "=") then
      let sign ← op "="
      let e ← g.expr true
      let other ←
        if !e.endsInBrace && (← peek (isWord "else")) then seq [word "else", g.blockTokens]
        else pure []
      pure (sign ++ e.tokens ++ other)
    else pure []
  return head ++ ty ++ value ++ (← op ";")

/-- Attributes of a statement belong to its leftmost operand, but a range takes them itself. -/
def exprStatement (g : Grammar) (attrs : Tokens) : Parser Statement := do
  let e ← g.statementExpr
  let tokens := if e.kind == .range then (e.addAttrs attrs).tokens else attrs ++ e.tokens
  if ← peek (isOp ";") then return ⟨tokens ++ (← op ";"), false⟩
  else
    let braced := e.kind == .macroCall && e.endsInBrace
    return ⟨tokens, !braced && !e.kind.standsAlone⟩

def statement (g : Grammar) : Parser Statement := do
  let start := (← get).rest
  let attrs ← g.outerAttributes
  match ← macroStart with
  | .statement path reached =>
    advanceTo reached
    let call ← seq [op "!", rawGroupTokens, optionalOp ";"]
    return ⟨attributeTokens attrs ++ path.tokens ++ call, false⟩
  | .item => return ⟨(← g.itemAfterAttrs start attrs).tokens, false⟩
  | .neither =>
    if (← peek (isWord "let")) && !(← peek (isGroup .invisible)) then
      return ⟨attributeTokens attrs ++ (← g.letStatement), false⟩
    else if ← startsItem then return ⟨(← g.itemAfterAttrs start attrs).tokens, false⟩
    else g.exprStatement (attributeTokens attrs)

def readStatements (g : Grammar) : Parser Tokens :=
  repeating (fun (read : Tokens) => do
    if ← peek (isOp ";") then return (read ++ (← op ";"), true)
    else if ← atEnd then return (read, false)
    else
      let next ← g.statement
      let read := read ++ next.tokens
      if ← atEnd then return (read, false)
      else if next.needsSemicolon then failHere "unexpected token, expected `;`"
      else return (read, true)) []

end Grammar

end ClassExpansion
