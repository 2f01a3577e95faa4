import ClassExpansion.Token.Literal

set_option autoImplicit false

/- Parsers over tokens. An invisible group is opened where a single token is asked for, so a
parser may read into it and out of it. What a parser leaves unread in a closed group is not an
error at once: the first such place is remembered and reported at the end. -/
namespace ClassExpansion

/-- Why a text is not what it should be. -/
inductive SyntaxFault
  /-- The reason, and whether the input ended there. -/
  | reason (ended : Bool) (text : String)
  /-- Tokens were left where only the end of `scope` could follow. -/
  | leftover (scope : Delimiter)
  deriving BEq, Repr

namespace SyntaxFault

def message : SyntaxFault → String
  | reason ended text => if ended then "unexpected end of input, " ++ text else text
  | leftover .paren => "unexpected token, expected `)`"
  | leftover .brace => "unexpected token, expected `\x7d`"
  | leftover .bracket => "unexpected token, expected `]`"
  | leftover .invisible => "unexpected token"

end SyntaxFault

/-- What is still to be read, the group it stands in, and the scope of the first leftover. -/
structure ParseState where
  rest : Tokens
  scope : Delimiter
  leftover : Option Delimiter

abbrev Parser := StateT ParseState (Except SyntaxFault)

namespace Parser

mutual

/-- What a token is once it is opened: itself, or what an invisible group holds. -/
def openedOne : Token → List Token
  | .group .invisible body => opened body
  | t => [t]

/-- Opens the invisible groups at the start. -/
def opened : List Token → List Token
  | [] => []
  | t :: rest =>
    match openedOne t with
    | [] => opened rest
    | first :: body => first :: body ++ rest

end

mutual

/-- The scope in which a token of the given scope is left, unless it is just empty invisible
groups. -/
def unreadOne (scope : Delimiter) : Token → Option Delimiter
  | .group .invisible body => unread .invisible body
  | _ => some scope

/-- The scope of the first token that is not just empty invisible groups. -/
def unread (scope : Delimiter) : List Token → Option Delimiter
  | [] => none
  | t :: rest =>
    match unreadOne scope t with
    | some found => some found
    | none => unread scope rest

end

/-- The tokens after the first one. A lifetime counts as one token. -/
def skipOne (tokens : Tokens) : Option Tokens :=
  match opened tokens with
  | [] => none
  | .punct '\x27' true :: .ident _ :: rest => some rest
  | _ :: rest => some rest

/-- A question about what comes next. -/
abbrev Peek := Tokens → Bool

/-- What follows the operator, if it comes next. -/
def afterOperator : List Char → Tokens → Option Tokens
  | [], _ => none
  | [c], tokens =>
    match opened tokens with
    | .punct d _ :: rest => if c = d then some rest else none
    | _ => none
  | c :: more, tokens =>
    match opened tokens with
    | .punct d true :: rest => if c = d then afterOperator more rest else none
    | _ => none

def nextIdent? (tokens : Tokens) : Option (String × Tokens) :=
  match opened tokens with
  | .ident name :: rest => some (name, rest)
  | _ => none

def keywords : List String := [
  "_", "abstract", "as", "async", "await", "become", "box", "break", "const", "continue",
  "crate", "do", "dyn", "else", "enum", "extern", "false", "final", "fn", "for", "if", "impl",
  "in", "let", "loop", "macro", "match", "mod", "move", "mut", "override", "priv", "pub", "ref",
  "return", "Self", "self", "static", "struct", "super", "trait", "true", "try", "type",
  "typeof", "unsafe", "unsized", "use", "virtual", "where", "while", "yield"]

def isOp (text : String) : Peek := fun tokens => (afterOperator text.toList tokens).isSome

def isWord (word : String) : Peek := fun tokens =>
  match nextIdent? tokens with
  | some (name, _) => name == word
  | none => false

def isAnyIdent : Peek := fun tokens => (nextIdent? tokens).isSome

def isIdent : Peek := fun tokens =>
  match nextIdent? tokens with
  | some (name, _) => !keywords.contains name
  | none => false

def isGroup (delimiter : Delimiter) : Peek := fun tokens =>
  match if delimiter = .invisible then tokens else opened tokens with
  | .group d _ :: _ => d = delimiter
  | _ => false

def nextLifetime? (tokens : Tokens) : Option (Tokens × Tokens) :=
  match opened tokens with
  | .punct '\x27' true :: rest =>
    (nextIdent? rest).map fun (name, rest) => ([.punct '\x27' true, .ident name], rest)
  | _ => none

def isLifetime : Peek := fun tokens => (nextLifetime? tokens).isSome

/-- A literal token, a truth value, or a number with a minus sign. -/
def nextLiteral? (tokens : Tokens) : Option (Literal × Tokens) :=
  match opened tokens with
  | .literal text :: rest => some (.ofText text, rest)
  | .ident "true" :: rest => some (.ofBool true, rest)
  | .ident "false" :: rest => some (.ofBool false, rest)
  | .punct '-' _ :: rest =>
    match opened rest with
    | .literal text :: rest => (Literal.negated? text).map (·, rest)
    | _ => none
  | _ => none

def isLiteral : Peek := fun tokens => (nextLiteral? tokens).isSome

def isTextLiteral : Peek := fun tokens => (nextLiteral? tokens).any (·.1.isText)

def isIntegerLiteral : Peek := fun tokens =>
  match nextLiteral? tokens with
  | some (⟨_, .integer _ _ _⟩, _) => true
  | _ => false

def isFractionLiteral : Peek := fun tokens =>
  match nextLiteral? tokens with
  | some (⟨_, .fraction _ _⟩, _) => true
  | _ => false

def isBooleanLiteral : Peek := fun tokens =>
  match nextLiteral? tokens with
  | some (⟨_, .boolean _⟩, _) => true
  | _ => false

def atEnd : Parser Bool := return (← get).rest.isEmpty

def peek (ask : Peek) : Parser Bool := return ask (← get).rest

def peekAny (asks : List Peek) : Parser Bool := do
  let rest := (← get).rest
  return asks.any fun ask => ask rest

/-- Asks about what comes after the next token. -/
def peek2 (ask : Peek) : Parser Bool := return ((skipOne (← get).rest).map ask).getD false

/-- Asks about what comes after the next two tokens. -/
def peek3 (ask : Peek) : Parser Bool :=
  return (((skipOne (← get).rest).bind skipOne).map ask).getD false

/-- Fails at the next token, or at the end of the input. -/
def failHere {α : Type} (text : String) : Parser α := do
  throw (.reason (← get).rest.isEmpty text)

/-- Fails with a reason that does not tell of the end of the input. -/
def failAt {α : Type} (text : String) : Parser α := throw (.reason false text)

/-- Fails since none of the named things comes next. -/
def failExpecting {α : Type} (names : List String) : Parser α := do
  match names with
  | [] =>
    if (← get).rest.isEmpty then failAt "unexpected end of input" else failAt "unexpected token"
  | [only] => failHere s!"expected {only}"
  | [first, second] => failHere s!"expected {first} or {second}"
  | _ => failHere ("expected one of: " ++ ", ".intercalate names)

/-- Fails since none of the named things comes next; those that do come next are not named. -/
def failExpectingOf {α : Type} (candidates : List (String × Peek)) : Parser α := do
  let rest := (← get).rest
  failExpecting ((candidates.filter fun (_, ask) => !ask rest).map (·.1))

def wordCandidate (name : String) : String × Peek := (s!"`{name}`", isWord name)

def setRest (rest : Tokens) : Parser Unit := modify fun s => { s with rest }

def op (text : String) : Parser Tokens := do
  match afterOperator text.toList (← get).rest with
  | some rest =>
    setRest rest
    return Token.op text
  | none => failAt s!"expected `{text}`"

def optionalOp (text : String) : Parser Tokens := do
  if ← peek (isOp text) then op text else return []

def word (name : String) : Parser Tokens := do
  if ← peek (isWord name) then
    if let some (_, rest) := nextIdent? (← get).rest then setRest rest
    return [.ident name]
  else failHere s!"expected `{name}`"

def optionalWord (name : String) : Parser Tokens := do
  if ← peek (isWord name) then word name else return []

/-- Any name, be it a keyword. -/
def anyIdent : Parser String := do
  match nextIdent? (← get).rest with
  | some (name, rest) =>
    setRest rest
    return name
  | none => failHere "expected ident"

def ident : Parser String := do
  match nextIdent? (← get).rest with
  | some (name, rest) =>
    if keywords.contains name then failHere s!"expected identifier, found keyword `{name}`"
    else
      setRest rest
      return name
  | none => failHere "expected identifier"

def name : Parser Tokens := return [.ident (← ident)]

def anyName : Parser Tokens := return [.ident (← anyIdent)]

def lifetime : Parser Tokens := do
  match nextLifetime? (← get).rest with
  | some (tokens, rest) =>
    setRest rest
    return tokens
  | none => failHere "expected lifetime"

def literal : Parser Literal := do
  match nextLiteral? (← get).rest with
  | some (read, rest) =>
    setRest rest
    return read
  | none => failHere "expected literal"

def textLiteral : Parser Literal := do
  if ← peek isTextLiteral then literal else failHere "expected string literal"

def groupName : Delimiter → String
  | .paren => "parentheses"
  | .brace => "curly braces"
  | .bracket => "square brackets"
  | .invisible => "invisible group"

/-- Reads the inside of a group. -/
def inside {α : Type} (delimiter : Delimiter) (body : Parser α) : Parser α := do
  let state ← get
  let tokens := if delimiter = .invisible then state.rest else opened state.rest
  match tokens with
  | .group d content :: rest =>
    if d = delimiter then
      set { state with rest := content, scope := delimiter }
      let read ← body
      let inner ← get
      let found := inner.leftover <|> unread delimiter inner.rest
      set { state with rest, leftover := found }
      return read
    else failHere ("expected " ++ groupName delimiter)
  | _ => failHere ("expected " ++ groupName delimiter)

def group (delimiter : Delimiter) (body : Parser Tokens) : Parser Tokens :=
  return [.group delimiter (← inside delimiter body)]

/-- All that is left. -/
def remaining : Parser Tokens := do
  let rest := (← get).rest
  setRest []
  return rest

/-- Runs a parser apart, and gives what it read with the state it reached. -/
def ahead {α : Type} (parser : Parser α) : Parser (Except SyntaxFault (α × ParseState)) := do
  return parser.run { (← get) with leftover := none }

/-- Goes on from where a parser run apart has come to. -/
def advanceTo (reached : ParseState) : Parser Unit :=
  modify fun s => { s with rest := reached.rest, leftover := s.leftover <|> reached.leftover }

/-- Whether a parser run apart would succeed. -/
def succeeds {α : Type} (parser : Parser α) : Parser Bool := do
  return (← ahead parser).toOption.isSome

def seq (parts : List (Parser Tokens)) : Parser Tokens :=
  parts.foldlM (fun read part => return read ++ (← part)) []

/-- Repeats a step as long as it asks for more, at most as often as the number says. -/
def repeatStep {σ : Type} (step : σ → Parser (σ × Bool)) : Nat → σ → Parser σ
  | 0, value => pure value
  | fuel + 1, value => do
    let (value, more) ← step value
    if more then repeatStep step fuel value else pure value

/-- Repeats a step that reads at least one token whenever it asks for more. -/
def repeating {σ : Type} (step : σ → Parser (σ × Bool)) (start : σ) : Parser σ := do
  repeatStep step (Token.sizeAll (← get).rest + 1) start

/-- Reads as long as the question is answered with yes. -/
def whilePeek (ask : Peek) (part : Parser Tokens) : Parser Tokens :=
  repeating (fun read => do
    if ← peek ask then return (read ++ (← part), true) else return (read, false)) []

def untilEnd {α : Type} (part : Parser α) : Parser (List α) :=
  repeating (fun read => do
    if ← atEnd then return (read, false) else return (read ++ [← part], true)) []

/-- Parts with a comma after each, the last one optional, up to the end. -/
def terminated {α : Type} (part : Parser α) : Parser (List (α × Bool)) :=
  repeating (fun read => do
    if ← atEnd then return (read, false)
    let item ← part
    if ← atEnd then return (read ++ [(item, false)], false)
    let _ ← op ","
    return (read ++ [(item, true)], true)) []

def commaAfter (comma : Bool) : Tokens := if comma then Token.op "," else []

def terminatedTokens (part : Parser Tokens) : Parser Tokens := do
  let parts ← terminated part
  return parts.flatMap fun (tokens, comma) => tokens ++ commaAfter comma

/-- The tokens between an earlier state and the present one, as they were written. -/
def writtenBetween : Nat → Tokens → Nat → Tokens
  | 0, _, _ => []
  | _ + 1, [], _ => []
  | fuel + 1, t :: rest, last =>
    if Token.sizeAll (t :: rest) ≤ last then []
    else
      match t with
      | .group .invisible body =>
        if Token.sizeAll rest < last then writtenBetween fuel (body ++ rest) last
        else t :: writtenBetween fuel rest last
      | _ => t :: writtenBetween fuel rest last

def writtenSince (start : Tokens) : Parser Tokens := do
  return writtenBetween (Token.sizeAll start) start (Token.sizeAll (← get).rest)

/-- Runs a parser over all tokens. -/
def runAll {α : Type} (parser : Parser α) (tokens : Tokens) : Except SyntaxFault α := do
  let (read, state) ← parser.run ⟨tokens, .invisible, none⟩
  match state.leftover <|> unread .invisible state.rest with
  | some scope => throw (.leftover scope)
  | none => return read

end Parser

end ClassExpansion
