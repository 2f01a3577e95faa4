import ClassExpansion.Source.Grammar.Pattern
import ClassExpansion.Token.Lexer
import ClassExpansion.Token.Printer

set_option autoImplicit false

/- Productions of expressions. -/
namespace ClassExpansion

open ClassExpansion.Parser

/-- Operators between two operands, longer ones before those they begin with. -/
def binaryOperators : List (String × Precedence) := [
  ("+=", .assign), ("-=", .assign), ("*=", .assign), ("/=", .assign), ("%=", .assign),
  ("^=", .assign), ("&=", .assign), ("|=", .assign), ("<<=", .assign), (">>=", .assign),
  ("&&", .and), ("||", .or), ("<<", .shift), (">>", .shift), ("==", .compare), ("<=", .compare),
  ("!=", .compare), (">=", .compare), ("+", .sum), ("-", .sum), ("*", .product),
  ("/", .product), ("%", .product), ("^", .bitXor), ("&", .bitAnd), ("|", .bitOr),
  ("<", .compare), (">", .compare)]

def nextBinary? (tokens : Tokens) : Option (String × Precedence) :=
  binaryOperators.find? fun (text, _) => isOp text tokens

def isAssign : Peek := fun tokens => isOp "=" tokens && !isOp "=>" tokens

/-- How tightly the next operator binds. -/
def nextPrecedence (tokens : Tokens) : Precedence :=
  match nextBinary? tokens with
  | some (_, precedence) => precedence
  | none =>
    if isAssign tokens then .assign
    else if isOp ".." tokens then .range
    else if isWord "as" tokens then .cast
    else .jump

/-- What may begin an expression. -/
def isExprStart : Peek := fun tokens =>
  (isAnyIdent tokens && !isWord "as" tokens) || isGroup .paren tokens || isGroup .bracket tokens
    || isGroup .brace tokens || isLiteral tokens
    || (isOp "!" tokens && !isOp "!=" tokens)
    || (isOp "-" tokens && !isOp "-=" tokens && !isOp "->" tokens)
    || (isOp "*" tokens && !isOp "*=" tokens) || (isOp "|" tokens && !isOp "|=" tokens)
    || (isOp "&" tokens && !isOp "&=" tokens) || isOp ".." tokens
    || (isOp "<" tokens && !isOp "<=" tokens && !isOp "<<=" tokens) || isOp "::" tokens
    || isLifetime tokens || isOp "#" tokens

def isLoneDot : Peek := fun tokens => isOp "." tokens && !isOp ".." tokens

/-- What ends a range that has no upper end. -/
def isRangeEnd (struct : Bool) : Peek := fun tokens =>
  tokens.isEmpty || isOp "," tokens || isOp ";" tokens || isLoneDot tokens || isOp "?" tokens
    || isOp "=>" tokens || (!struct && isGroup .brace tokens)
    || ["=", "+", "/", "%", "^", ">", "<=", "!=", "-=", "*=", "&=", "|=", "<<="].any (isOp · tokens)
    || isWord "as" tokens

/-- An operand whose kind stands by itself at the start of a statement, in any grouping. -/
def endsStatement : Expr → Bool
  | .group _ inner => endsStatement inner
  | e => e.kind.standsAlone

/-- Attributes at the start, and what follows them. -/
def spanAttributes : Tokens → Tokens × Tokens
  | sign@(.punct '#' _) :: body@(.group .bracket _) :: rest =>
    let (attrs, rest) := spanAttributes rest
    (sign :: body :: attrs, rest)
  | tokens => ([], tokens)

def isInnerAttributeStart : Tokens → Bool
  | .punct '#' _ :: .punct '!' _ :: _ => true
  | _ => false

/-- What may come after an operand and belong to it. -/
def isSuffixStart : Tokens → Bool
  | .punct '.' _ :: _ | .punct '?' _ :: _ | .group .paren _ :: _ | .group .bracket _ :: _ => true
  | _ => false

/-- An operand that could be left out. Where no struct literal may stand, a block it begins with
is put in parentheses, unless the block has attributes of its own. -/
def optionalOperand (struct : Bool) (tokens : Tokens) : Tokens :=
  match spanAttributes tokens with
  | (attrs, .group .brace body :: rest) =>
    if struct || isInnerAttributeStart body || !(attrs.isEmpty || isSuffixStart rest) then tokens
    else attrs ++ .paren [.brace body] :: rest
  | _ => tokens

/-- Whether a bound in parentheses may follow. -/
def isBoundIntroducer : Token → Bool
  | .ident name => name == "dyn" || name == "impl"
  | .punct c _ => c == '+'
  | _ => false

/-- Whether a type ends in a path without arguments, so that an angle bracket after it would
seem to open some. The path may be a bound in parentheses. -/
def endsInBarePath (tokens : Tokens) : Bool :=
  match tokens.reverse with
  | .ident _ :: .punct '\x27' true :: _ => false
  | .ident name :: _ => name != "_"
  | .group .paren bound :: before =>
    (isOp "?" bound || before.head?.any isBoundIntroducer)
      && (bound.getLast?.any fun t => isAnyIdent [t])
  | _ => false

def exprOf (kind : ExprKind) (body : Tokens) : Expr := .other [] kind body

def exprBy (kind : ExprKind) (body : Parser Tokens) : Parser Expr := return exprOf kind (← body)

/-- The number that a text between the points of a fraction writes. -/
def partNumber (text : String) : Parser Tokens := do
  match Lexer.tokens? text with
  | some tokens =>
    match runAll (do
      if ← peek isIntegerLiteral then memberNumber (← literal)
      else failHere "expected integer literal") tokens with
    | .ok number => return number
    | .error fault => failAt fault.message
  | none => failAt "lex error"

namespace Grammar

/-- A right operand: what binds tighter than `precedence`, or as tightly from the right. -/
def rightOperand (g : Grammar) (struct : Bool) (precedence : Precedence) : Parser Expr := do
  let first ← g.operand struct
  repeating (fun (right : Expr) => do
    let tokens := (← get).rest
    let next := nextPrecedence tokens
    if precedence.rank < next.rank || (next == precedence && precedence == .assign) then
      let right ← g.climb right struct next
      return (right, Token.sizeAll (← get).rest ≠ Token.sizeAll tokens)
    else return (right, false)) first

def rangeAfter (g : Grammar) (struct : Bool) : Parser Tokens := do
  let (closed, limits) ← rangeLimits
  if !closed && (← peek (isRangeEnd struct)) then return limits
  else
    let last ← g.rightOperand struct .range
    return limits ++ optionalOperand struct last.tokens

/-- A cast ends an operand. -/
def checkCast : Parser Unit := do
  let refused ←
    if ← peek isLoneDot then
      if ← peek2 (isWord "await") then pure (some "`.await`")
      else if (← peek2 isIdent) && ((← peek3 (isGroup .paren)) || (← peek3 (isOp "::"))) then
        pure (some "a method call")
      else pure (some "a field access")
    else if ← peek (isOp "?") then pure (some "`?`")
    else if ← peek (isGroup .bracket) then pure (some "indexing")
    else if ← peek (isGroup .paren) then pure (some "a function call")
    else pure none
  if let some what := refused then failHere s!"casts cannot be followed by {what}"

/-- One operator with its right operand, if the next one binds at least as tightly. -/
def climbStep (g : Grammar) (struct : Bool) (least : Precedence) (left : Expr) :
    Parser (Expr × Bool) := do
  let tokens := (← get).rest
  if left.kind == .range then return (left, false)
  else if let some (text, precedence) := nextBinary? tokens then
    if precedence.rank < least.rank then return (left, false)
    else if precedence == .compare && left.kind == .comparison then
      failHere "comparison operators cannot be chained"
    else
      let sign ← op text
      let right ← g.rightOperand struct precedence
      let kind := if precedence == .compare then ExprKind.comparison else .binary
      return (exprOf kind (left.tokens ++ sign ++ right.tokens), true)
  else if least.rank ≤ Precedence.assign.rank && isAssign tokens then
    let sign ← op "="
    let right ← g.rightOperand struct .assign
    return (exprOf .assign (left.tokens ++ sign ++ right.tokens), true)
  else if least.rank ≤ Precedence.range.rank && isOp ".." tokens then
    return (exprOf .range (left.tokens ++ (← g.rangeAfter struct)), true)
  else if least.rank ≤ Precedence.cast.rank && isWord "as" tokens then
    let target ← seq [word "as", return (← g.type false false).tokens]
    checkCast
    let body := left.tokens ++ target
    let ambiguous := endsInBarePath target && (← peek isOpenAngle)
    return (exprOf .cast (if ambiguous then [.paren body] else body), true)
  else return (left, false)

def readClimb (g : Grammar) (left : Expr) (struct : Bool) (least : Precedence) : Parser Expr :=
  repeating (g.climbStep struct least) left

/-- An expression. -/
def readExpr (g : Grammar) (struct : Bool) : Parser Expr := do
  g.climb (← g.operand struct) struct .jump

/-- Attributes before an expression, outside of invisible groups. -/
def exprAttributes (g : Grammar) : Parser Tokens :=
  return attributeTokens
    (← g.outerAttributesWhile fun tokens => !isGroup .invisible tokens && isOp "#" tokens)

/-- The arguments of a call, each with whether a comma follows it. -/
def callArguments (g : Grammar) : Parser (List (Expr × Bool)) :=
  inside .paren (terminated (g.expr true))

def callTokens (g : Grammar) : Parser Tokens :=
  return [.paren (Expr.argumentTokens (← g.callArguments))]

/-- Numbers with points between them, which read as a fraction, are members one after another.
Gives the members, and whether a point is left before the next one. -/
def fractionMembers (text : String) : Parser (Tokens × Bool) := do
  let dangling := text.endsWith "."
  let written := if dangling then String.ofList text.toList.dropLast else text
  let numbers ← (written.splitOn ".").mapM partNumber
  return (numbers.flatMap fun number => Token.op "." ++ number, dangling)

/-- What follows a point. -/
def afterDot (g : Grammar) (receiver : Tokens) : Parser Expr := do
  if ← peek (isWord "await") then
    exprBy .await (return receiver ++ Token.op "." ++ (← word "await"))
  else
    let named ← member
    let target := receiver ++ Token.op "." ++ named.tokens
    let turbofish ←
      if named.isNamed && (← peek (isOp "::")) then
        pure (← seq [op "::", return (PathArguments.angled false (← g.angledList)).tokens])
      else pure []
    if named.isNamed && (!turbofish.isEmpty || (← peek (isGroup .paren))) then
      exprBy .methodCall (return target ++ turbofish ++ (← g.callTokens))
    else return exprOf .field target

def dotSuffix (g : Grammar) (e : Expr) : Parser Expr := do
  let _ ← op "."
  if ← peek isFractionLiteral then
    let number ← literal
    let (members, dangling) ← fractionMembers (Token.text number.tokens)
    let target := e.tokens ++ members
    if dangling then g.afterDot target else return exprOf .field target
  else g.afterDot e.tokens

/-- Calls, members, indices and question marks after an operand. -/
def suffixes (g : Grammar) (e : Expr) : Parser Expr :=
  repeating (fun (e : Expr) => do
    let range := e.kind == .range
    if ← peek (isGroup .paren) then return (.call [] e (← g.callArguments), true)
    else if (← peek isLoneDot) && !range then return (← g.dotSuffix e, true)
    else if ← peek (isGroup .bracket) then
      return (exprOf .index (e.tokens ++ (← group .bracket g.exprTokens)), true)
    else if (← peek (isOp "?")) && !range then
      return (exprOf .question (e.tokens ++ (← op "?")), true)
    else return (e, false)) e

def fieldValue (g : Grammar) : Parser Tokens := do
  let attrs ← g.outerTokens
  let named ← member
  if !named.isNamed || (← peek (isOp ":")) then
    return attrs ++ named.tokens ++ (← seq [op ":", g.exprTokens])
  else return attrs ++ named.tokens

def structFields (g : Grammar) : Parser Tokens :=
  repeating (fun (read : Tokens) => do
    if ← atEnd then return (read, false)
    else if ← peek (isOp "..") then
      let dots ← op ".."
      if ← atEnd then return (read ++ dots, false)
      else return (read ++ dots ++ (← g.exprTokens), false)
    else
      let read := read ++ (← g.fieldValue)
      if ← atEnd then return (read, false) else return (read ++ (← op ","), true)) []

/-- A path goes on as a macro call or a struct literal, or is an expression by itself. -/
def afterPath (g : Grammar) (path : Path) (struct : Bool) : Parser Expr := do
  if !path.qualified && path.isPlain && (← peek (isOp "!")) && !(← peek (isOp "!=")) then
    exprBy .macroCall (return path.tokens ++ (← seq [op "!", rawGroupTokens]))
  else if struct && (← peek (isGroup .brace)) then
    exprBy .struct (return path.tokens ++ (← group .brace g.structFields))
  else return .path [] path

/-- An invisible group. A path in it may go on behind it. -/
def groupExpr (g : Grammar) (struct : Bool) : Parser Expr := do
  let inner ← inside .invisible (g.expr true)
  match inner with
  | .path [] named =>
    let longer := named.addSegments (← g.segmentsAfter true)
    match ← g.afterPath longer struct with
    | .path attrs found =>
      let e := Expr.path attrs found
      return if found.segments.length = named.segments.length then .group [] e else e
    | e => return e
  | e => return .group [] e

def parenExpr (g : Grammar) : Parser Expr := do
  let parts ← inside .paren (terminated (g.expr true))
  match parts with
  | [(inner, false)] => return .paren [] inner
  | _ => return exprOf .tuple [.paren (Expr.argumentTokens parts)]

def bracketContent (g : Grammar) : Parser (ExprKind × Tokens) := do
  if ← atEnd then return (.array, [])
  let first ← g.exprTokens
  if ← atEnd then return (.array, first)
  else if ← peek (isOp ",") then
    let comma ← op ","
    return (.array, first ++ comma ++ (← terminatedTokens g.exprTokens))
  else if ← peek (isOp ";") then
    return (.repetition, first ++ (← seq [op ";", g.exprTokens]))
  else failHere "expected `,` or `;`"

def bracketExpr (g : Grammar) : Parser Expr := do
  let (kind, tokens) ← inside .bracket g.bracketContent
  return exprOf kind [.bracket tokens]

/-- An expression before a block. -/
def condition (g : Grammar) : Parser Tokens := return (← g.expr false).tokens

def ifTokens (g : Grammar) : Parser Tokens := do
  let attrs ← g.outerTokens
  let branches ← repeating (fun (read : Tokens) => do
    let read := read ++ (← seq [word "if", g.condition, g.blockTokens])
    if ← peek (isWord "else") then
      let read := read ++ (← word "else")
      if ← peek (isWord "if") then return (read, true)
      else if ← peek (isGroup .brace) then return (read ++ (← g.blockTokens), false)
      else failExpecting ["`if`", "curly braces"]
    else return (read, false)) []
  return attrs ++ branches

def whileTokens (g : Grammar) : Parser Tokens :=
  seq [word "while", g.condition, g.attributedBlock]

def forTokens (g : Grammar) : Parser Tokens :=
  seq [word "for", g.patternsTokens, word "in", g.condition, g.attributedBlock]

def loopTokens (g : Grammar) : Parser Tokens := seq [word "loop", g.attributedBlock]

def arm (g : Grammar) : Parser Tokens := do
  let head ← seq [g.outerTokens, g.patternsTokens]
  let guard ← if ← peek (isWord "if") then seq [word "if", g.exprTokens] else pure []
  let arrow ← op "=>"
  let body ← g.statementExpr
  let comma ←
    if !body.kind.standsAlone && !(← atEnd) then op "," else optionalOp ","
  return head ++ guard ++ arrow ++ body.tokens ++ comma

def arms (g : Grammar) : Parser Tokens := return (← untilEnd g.arm).flatten

def matchTokens (g : Grammar) : Parser Tokens :=
  seq [word "match", g.condition, group .brace (seq [g.innerTokens, g.arms])]

/-- A loop or a block after a label. -/
def labeled (g : Grammar) : Parser Expr := do
  let label ← seq [lifetime, op ":"]
  if ← peek (isWord "while") then exprBy .whileLoop (return label ++ (← g.whileTokens))
  else if ← peek (isWord "for") then exprBy .forLoop (return label ++ (← g.forTokens))
  else if ← peek (isWord "loop") then exprBy .loop (return label ++ (← g.loopTokens))
  else if ← peek (isGroup .brace) then exprBy .block (return label ++ (← g.attributedBlock))
  else failHere "expected loop or block expression"

/-- Attributes of a parameter belong to its type, or to its pattern if it has no type. -/
def closureParameter (g : Grammar) : Parser Tokens := do
  let attrs ← g.outerTokens
  let pattern ← g.pattern
  if ← peek (isOp ":") then return attrs ++ pattern.tokens ++ (← seq [op ":", g.typeTokens])
  else return pattern.withAttrs attrs

def closureParameters (g : Grammar) : Parser Tokens :=
  repeating (fun (read : Tokens) => do
    if ← peek (isOp "|") then return (read, false)
    let read := read ++ (← g.closureParameter)
    if ← peek (isOp "|") then return (read, false)
    return (read ++ (← op ","), true)) []

def closureTokens (g : Grammar) (struct : Bool) : Parser Tokens := do
  let head ← seq [g.optionalBinder, optionalWord "const", optionalWord "static",
    optionalWord "async", optionalWord "move", op "|", g.closureParameters, op "|"]
  if ← peek (isOp "->") then
    return head ++ (← seq [op "->", g.typeTokens, g.blockTokens])
  else return head ++ (← g.expr struct).tokens

def breakTokens (g : Grammar) (struct : Bool) : Parser Tokens := do
  let head ← word "break"
  if (← peek isLifetime) && (← peek2 (isOp ":")) then
    let _ ← g.expr true
    failAt "parentheses required"
  let label ← optionalLifetime
  let valued := (← peek isExprStart) && (struct || !(← peek (isGroup .brace)))
  if valued then return head ++ label ++ optionalOperand struct (← g.exprTokens)
  else return head ++ label

/-- A word with an expression behind it, if one begins there. -/
def wordWithValue (g : Grammar) (name : String) : Parser Tokens := do
  let head ← word name
  if ← peek isExprStart then return head ++ (← g.exprTokens) else return head

def letTokens (g : Grammar) (struct : Bool) : Parser Tokens := do
  let head ← seq [word "let", g.patternsTokens, op "="]
  let left ← g.operand struct
  return head ++ (← g.climb left struct .compare).tokens

def asyncTokens (g : Grammar) : Parser Tokens :=
  seq [word "async", optionalWord "move", g.blockTokens]

def startsClosure : Parser Bool := do
  if ← peekAny [isOp "|", isWord "move", isWord "static"] then return true
  if (← peek (isWord "for")) && (← chooseGenericsAfterWord) then return true
  if (← peek (isWord "const")) && !(← peek2 (isGroup .brace)) then return true
  return (← peek (isWord "async")) && ((← peek2 (isOp "|")) || (← peek2 (isWord "move")))

def startsAsyncBlock : Parser Bool := do
  let moved := (← peek2 (isWord "move")) && (← peek3 (isGroup .brace))
  return (← peek (isWord "async")) && ((← peek2 (isGroup .brace)) || moved)

def startsPath : Parser Bool := do
  let tried := (← peek2 (isOp "!")) || (← peek2 (isOp "::"))
  return (← peek isTypePathStart) || ((← peek (isWord "try")) && tried)

/-- A keyword expression, if the next word begins one. -/
def keywordExpr? (g : Grammar) (struct : Bool) : Parser (Option Expr) := do
  match nextIdent? (← get).rest with
  | some ("break", _) => return some (← exprBy .breakOut (g.breakTokens struct))
  | some ("continue", _) =>
    return some (← exprBy .continueOn (seq [word "continue", optionalLifetime]))
  | some ("return", _) => return some (← exprBy .returning (g.wordWithValue "return"))
  | some ("become", _) =>
    let start := (← get).rest
    let _ ← seq [word "become", g.exprTokens]
    return some (exprOf .verbatim (← writtenSince start))
  | some ("let", _) => return some (← exprBy .letTest (g.letTokens struct))
  | some ("if", _) => return some (← exprBy .ifElse g.ifTokens)
  | some ("while", _) => return some (← exprBy .whileLoop g.whileTokens)
  | some ("for", _) => return some (← exprBy .forLoop g.forTokens)
  | some ("loop", _) => return some (← exprBy .loop g.loopTokens)
  | some ("match", _) => return some (← exprBy .matching g.matchTokens)
  | some ("yield", _) => return some (← exprBy .yield (g.wordWithValue "yield"))
  | some ("unsafe", _) =>
    return some (← exprBy .unsafeBlock (seq [word "unsafe", g.attributedBlock]))
  | some ("const", _) => return some (← exprBy .const g.constBlock)
  | some ("_", _) => return some (← exprBy .infer (word "_"))
  | _ => return none

/-- An operand without what stands before and after it. -/
def atom (g : Grammar) (struct : Bool) : Parser Expr := do
  if ← peek (isGroup .invisible) then g.groupExpr struct
  else if ← peek isLiteral then return .lit [] (← literal)
  else if ← startsAsyncBlock then exprBy .async g.asyncTokens
  else if (← peek (isWord "try")) && (← peek2 (isGroup .brace)) then
    exprBy .tryBlock (seq [word "try", g.blockTokens])
  else if ← startsClosure then exprBy .closure (g.closureTokens struct)
  else if ← startsBuiltin then
    let start := (← get).rest
    let _ ← builtinCall
    return exprOf .verbatim (← writtenSince start)
  else if ← startsPath then g.afterPath (← g.qualifiedPath true) struct
  else if ← peek (isGroup .paren) then g.parenExpr
  else if ← peek (isGroup .bracket) then g.bracketExpr
  else if let some e ← g.keywordExpr? struct then return e
  else if ← peek (isGroup .brace) then exprBy .block g.attributedBlock
  else if ← peek (isOp "..") then exprBy .range (g.rangeAfter struct)
  else if ← peek isLifetime then g.labeled
  else failHere "expected an expression"

/-- An atom with its suffixes, after attributes read since `start`. -/
def suffixed (g : Grammar) (start attrs : Tokens) (struct : Bool) : Parser Expr := do
  let e ← g.suffixes (← g.atom struct)
  if e.kind == .verbatim then return exprOf .verbatim (← writtenSince start)
  else if e.kind == .range && !attrs.isEmpty then
    failAt "attributes are not allowed on range expressions starting with `..`"
  else return e.addAttrs attrs

def referenceExpr (g : Grammar) (attrs : Tokens) (struct : Bool) : Parser Expr := do
  let sign ← op "&"
  let raw ← peek (isWord "raw")
  if raw && (← peek2 (isWord "mut")) then
    let mode ← seq [word "raw", word "mut"]
    return .other attrs .rawAddress (sign ++ mode ++ (← g.operand struct).tokens)
  else if raw && (← peek2 (isWord "const")) then
    let mode ← seq [word "raw", word "const"]
    return .other attrs .rawAddress (sign ++ mode ++ (← g.operand struct).tokens)
  else
    let mode ← optionalWord "mut"
    return .other attrs .reference (sign ++ mode ++ (← g.operand struct).tokens)

/-- An operand with its prefix operators. -/
def readOperand (g : Grammar) (struct : Bool) : Parser Expr := do
  let start := (← get).rest
  let attrs ← g.exprAttributes
  if ← peek (isGroup .invisible) then g.suffixed start attrs struct
  else if ← peek (isOp "&") then g.referenceExpr attrs struct
  else if ← peek (isOp "*") then
    let sign ← op "*"
    return .other attrs .unary (sign ++ (← g.operand struct).tokens)
  else if ← peek (isOp "!") then
    let sign ← op "!"
    return .other attrs .unary (sign ++ (← g.operand struct).tokens)
  else if ← peek (isOp "-") then
    let _ ← op "-"
    return .negated attrs (← g.operand struct)
  else g.suffixed start attrs struct

/-- An expression that ends with a block, where a statement may end with it. -/
def blockLike? (g : Grammar) : Parser (Option Expr) := do
  let some (name, _) := nextIdent? (← get).rest
    | if ← peek (isGroup .brace) then return some (← exprBy .block g.attributedBlock)
      else if ← peek isLifetime then return some (← g.labeled)
      else return none
  match name with
  | "if" => return some (← exprBy .ifElse g.ifTokens)
  | "while" => return some (← exprBy .whileLoop g.whileTokens)
  | "for" =>
    if ← chooseGenericsAfterWord then return none
    else return some (← exprBy .forLoop g.forTokens)
  | "loop" => return some (← exprBy .loop g.loopTokens)
  | "match" => return some (← exprBy .matching g.matchTokens)
  | "try" =>
    if ← peek2 (isGroup .brace) then
      return some (← exprBy .tryBlock (seq [word "try", g.blockTokens]))
    else return none
  | "unsafe" => return some (← exprBy .unsafeBlock (seq [word "unsafe", g.attributedBlock]))
  | "const" =>
    if ← peek2 (isGroup .brace) then return some (← exprBy .const g.constBlock) else return none
  | _ => return none

/-- An expression at the start of a statement. One that ends with a block ends there, unless a
point or a question mark follows. -/
def readStatementExpr (g : Grammar) : Parser Expr := do
  let attrs ← g.exprAttributes
  let first ←
    if ← peek (isGroup .invisible) then
      let grouped ← g.groupExpr true
      if endsStatement grouped then pure grouped else g.suffixes grouped
    else
      match ← g.blockLike? with
      | some e => pure e
      | none => g.operand true
  if !endsStatement first then g.climb (first.addAttrs attrs) true .jump
  else if (← peek isLoneDot) || (← peek (isOp "?")) then
    let e ← g.suffixes first
    g.climb (e.addAttrs attrs) true .jump
  else return first.addAttrs attrs

end Grammar

end ClassExpansion
