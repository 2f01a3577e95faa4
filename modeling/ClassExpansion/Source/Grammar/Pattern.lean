import ClassExpansion.Source.Grammar.Generics

set_option autoImplicit false

/- Productions of patterns, and of the members that patterns and struct literals name. -/
namespace ClassExpansion

open ClassExpansion.Parser

/-- A member of a struct: a name, or a number without suffix. -/
structure Member where
  isNamed : Bool
  tokens : Tokens

/-- The greatest number of a member. -/
def maxIndex : Nat := Nat.pow 2 32 - 1

def tooLarge : String := "number too large to fit in target type"

def memberNumber (literal : Literal) : Parser Tokens := do
  match literal.value with
  | .integer negative value suffix =>
    if suffix ≠ "" then failAt "expected unsuffixed integer"
    else if negative then failAt "invalid digit found in string"
    else if value > maxIndex then failAt tooLarge
    else return [.literal (toString value)]
  | _ => failAt "expected integer literal"

def member : Parser Member := do
  if ← peek isIdent then return ⟨true, ← name⟩
  else if ← peek isIntegerLiteral then return ⟨false, ← memberNumber (← literal)⟩
  else failHere "expected identifier or integer"

/-- Two points, or two points with an equals sign; the flag tells which. -/
def rangeLimits : Parser (Bool × Tokens) := do
  if ← peek (isOp "..=") then return (true, ← op "..=")
  else if (← peek (isOp "..")) && !(← peek (isOp "...")) then return (false, ← op "..")
  else failExpectingOf [("`..`", isOp ".."), ("`..=`", isOp "..=")]

/-- As `rangeLimits`, with three points for the form that includes its end. -/
def patternRangeLimits : Parser (Bool × Tokens) := do
  if ← peek (isOp "...") then
    let _ ← op "..."
    return (true, Token.op "..=")
  else rangeLimits

namespace Pattern

def plain (tokens : Tokens) : Pattern := ⟨tokens, .plain⟩

/-- Attributes in front enclose a range. A pattern kept as written takes none. -/
def withAttrs (attrs : Tokens) (p : Pattern) : Tokens :=
  if attrs.isEmpty then p.tokens
  else match p.form with
    | .plain => attrs ++ p.tokens
    | .range | .openRange => attrs ++ [.paren p.tokens]
    | .written => p.tokens

end Pattern

def isBar : Peek := fun tokens => isOp "|" tokens && !isOp "||" tokens && !isOp "|=" tokens

def isRangeBoundEnd : Peek := fun tokens =>
  tokens.isEmpty || isOp "|" tokens || isOp "=" tokens || isLoneColon tokens || isOp "," tokens
    || isOp ";" tokens || isWord "if" tokens

/-- A name before one of these is the start of a path. -/
def isAfterPathPattern : Peek := fun tokens =>
  isOp "::" tokens || isOp "!" tokens || isGroup .brace tokens || isGroup .paren tokens
    || isOp ".." tokens

def rangeBoundNames : List String := [
  "literal", "identifier", "`::`", "`<`", "`self`", "`Self`", "`super`", "`crate`", "`const`"]

def patternCandidates : List (String × Peek) := [
  ("identifier", isIdent), ("`::`", isOp "::"), ("`<`", isOp "<"), wordCandidate "_",
  ("literal", isLiteral), wordCandidate "const", wordCandidate "ref", wordCandidate "mut",
  ("`&`", isOp "&"), ("parentheses", isGroup .paren), ("square brackets", isGroup .bracket),
  ("`..`", isOp ".."), wordCandidate "const"]

namespace Grammar

/-- A block of constants. -/
def constBlock (g : Grammar) : Parser Tokens := seq [word "const", g.attributedBlock]

/-- One end of a range, unless the range is open there. -/
def rangeBound (g : Grammar) : Parser (Option Tokens) := do
  if ← peek isRangeBoundEnd then return none
  else if ← peek isLiteral then return some (← literalTokens)
  else if ← peek isTypePathStart then return some (← g.qualifiedPath true).tokens
  else if ← peek (isWord "const") then return some (← g.constBlock)
  else failExpecting rangeBoundNames

/-- What follows the first end of a range. -/
def rangePattern (g : Grammar) (start : Tokens) : Parser Pattern := do
  let (closed, limits) ← patternRangeLimits
  match ← g.rangeBound with
  | some last => return ⟨start ++ limits ++ last, .range⟩
  | none =>
    if closed then failHere "expected range upper bound"
    else return ⟨start ++ limits, .openRange⟩

/-- A range without a first end, or the rest of a sequence. -/
def openRangePattern (g : Grammar) : Parser Pattern := do
  let (closed, limits) ← rangeLimits
  match ← g.rangeBound with
  | some last => return ⟨limits ++ last, .openRange⟩
  | none =>
    if closed then failHere "expected range upper bound" else return .plain limits

def literalPattern (g : Grammar) : Parser Pattern := do
  let start := (← g.rangeBound).getD []
  if ← peek (isOp "..") then g.rangePattern start else return .plain start

def patternsTokens (g : Grammar) : Parser Tokens := return (← g.patterns).tokens

def patternTokens (g : Grammar) : Parser Tokens := return (← g.pattern).tokens

def fieldPattern (g : Grammar) : Parser Tokens := do
  let start := (← get).rest
  let box ← optionalWord "box"
  let mode ← seq [optionalWord "ref", optionalWord "mut"]
  let bare := box.isEmpty && mode.isEmpty
  let named ← if bare then member else pure ⟨true, ← name⟩
  if (bare && (← peek (isOp ":"))) || !named.isNamed then
    return named.tokens ++ (← seq [op ":", g.patternsTokens])
  else if box.isEmpty then return mode ++ named.tokens
  else writtenSince start

def structPatternFields (g : Grammar) : Parser Tokens :=
  repeating (fun (read : Tokens) => do
    if ← atEnd then return (read, false)
    let attrs ← g.outerTokens
    if ← peek (isOp "..") then return (read ++ attrs ++ (← op ".."), false)
    let read := read ++ attrs ++ (← g.fieldPattern)
    if ← atEnd then return (read, false)
    return (read ++ (← op ","), true)) []

def pathPattern (g : Grammar) : Parser Pattern := do
  let path ← g.qualifiedPath true
  if !path.qualified && path.isPlain && (← peek (isOp "!")) && !(← peek (isOp "!=")) then
    return .plain (path.tokens ++ (← seq [op "!", rawGroupTokens]))
  else if ← peek (isGroup .brace) then
    return .plain (path.tokens ++ (← group .brace g.structPatternFields))
  else if ← peek (isGroup .paren) then
    return .plain (path.tokens ++ (← group .paren (terminatedTokens g.patternsTokens)))
  else if ← peek (isOp "..") then g.rangePattern path.tokens
  else return .plain path.tokens

def namePattern (g : Grammar) : Parser Tokens := do
  let mode ← seq [optionalWord "ref", optionalWord "mut"]
  let named ← if ← peek (isWord "self") then anyName else name
  if ← peek (isOp "@") then return mode ++ named ++ (← seq [op "@", g.patternTokens])
  else return mode ++ named

def slicePattern (g : Grammar) : Parser Tokens :=
  group .bracket (terminatedTokens do
    let element ← g.patterns
    if element.form == .openRange then
      failAt "range pattern is not allowed unparenthesized inside slice pattern"
    else return element.tokens)

/-- One pattern without bars. -/
def readPattern (g : Grammar) : Parser Pattern := do
  let pathByNext := (← peek isIdent) && (← peek2 isAfterPathPattern)
  let selfPath := (← peek (isWord "self")) && (← peek2 (isOp "::"))
  let rootPath ← peekAny [isOp "::", isOp "<", isWord "Self", isWord "super", isWord "crate"]
  if pathByNext || selfPath || rootPath then g.pathPattern
  else if ← peek (isWord "_") then return .plain (← word "_")
  else if ← peek (isWord "box") then
    let start := (← get).rest
    let _ ← seq [word "box", g.patternTokens]
    return ⟨← writtenSince start, .written⟩
  else if ← peekAny [isOp "-", isLiteral, isWord "const"] then g.literalPattern
  else if ← peekAny [isWord "ref", isWord "mut", isWord "self", isIdent] then
    return .plain (← g.namePattern)
  else if ← peek (isOp "&") then
    return .plain (← seq [op "&", optionalWord "mut", g.patternTokens])
  else if ← peek (isGroup .paren) then
    return .plain (← group .paren (terminatedTokens g.patternsTokens))
  else if ← peek (isGroup .bracket) then return .plain (← g.slicePattern)
  else if (← peek (isOp "..")) && !(← peek (isOp "...")) then g.openRangePattern
  else failExpectingOf patternCandidates

/-- Patterns with bars between them, and maybe one in front. -/
def readPatterns (g : Grammar) : Parser Pattern := do
  let lead ← optionalOp "|"
  let first ← g.pattern
  if lead.isEmpty && !(← peek isBar) then return first
  else
    let rest ← whilePeek isBar (seq [op "|", g.patternTokens])
    return .plain (lead ++ first.tokens ++ rest)

end Grammar

end ClassExpansion
