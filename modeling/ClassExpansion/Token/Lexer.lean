import ClassExpansion.Text.Identifier
import ClassExpansion.Text.Quoted
import ClassExpansion.Token.StringBody
import ClassExpansion.Token

set_option autoImplicit false

/- From characters to tokens. A scan takes characters and gives those after what it recognises.
Lexemes are found first, and groups are then built from their opening and closing. -/
namespace ClassExpansion.Lexer

open Token (StringKind)
open Text (isIdentStart isIdentContinue)

abbrev Scan := List Char → Option (List Char)

def startsWith (start : String) (text : List Char) : Bool := start.toList.isPrefixOf text

def after (start : String) : Scan := fun text =>
  if startsWith start text then some (text.drop start.length) else none

def isBlank (c : Char) : Bool :=
  let n := c.toNat
  n = 0x20 || (0x9 ≤ n && n ≤ 0xd) || n = 0x85 || n = 0xa0 || n = 0x1680
    || (0x2000 ≤ n && n ≤ 0x200a) || n = 0x200e || n = 0x200f || n = 0x2028 || n = 0x2029
    || n = 0x202f || n = 0x205f || n = 0x3000

/-- A line and what follows it, from its newline on. -/
def splitLine : List Char → List Char × List Char
  | [] => ([], [])
  | '\n' :: rest => ([], '\n' :: rest)
  | '\r' :: '\n' :: rest => ([], '\n' :: rest)
  | c :: rest => (c :: (splitLine rest).1, (splitLine rest).2)

/-- What follows the comment that stands open `depth` times. -/
def blockEnd (depth : Nat) : Scan
  | [] => none
  | '/' :: '*' :: rest => blockEnd (depth + 1) rest
  | '*' :: '/' :: rest => if depth ≤ 1 then some rest else blockEnd (depth - 1) rest
  | _ :: rest => blockEnd depth rest

def blockComment (text : List Char) : Option (List Char) :=
  (after "/*" text).bind (blockEnd 1)

def isPlainLineComment (text : List Char) : Bool :=
  startsWith "//" text && (!startsWith "///" text || startsWith "////" text)
    && !startsWith "//!" text

def isPlainBlockComment (text : List Char) : Bool :=
  startsWith "/**/" text || (startsWith "/*" text
    && (!startsWith "/**" text || startsWith "/***" text) && !startsWith "/*!" text)

/-- Drops blanks and comments that are not documentation, at most as many as the number says. -/
def skipTrivia : Nat → List Char → List Char
  | 0, text => text
  | fuel + 1, text =>
    if isPlainLineComment text then skipTrivia fuel (splitLine text).2
    else if isPlainBlockComment text then
      match blockComment text with
      | some rest => skipTrivia fuel rest
      | none => text
    else match text with
      | c :: rest => if isBlank c then skipTrivia fuel rest else text
      | [] => []

/-- The text of the block comment at the start, less `before` characters and the closing. -/
def blockText (before : Nat) (text : List Char) : Option (List Char × List Char) :=
  (blockComment text).map fun rest =>
    ((text.take (text.length - rest.length - 2)).drop before, rest)

def noBareReturn : List Char → Bool
  | [] => true
  | '\r' :: '\n' :: rest => noBareReturn rest
  | c :: rest => c ≠ '\r' && noBareReturn rest

/-- Whether the documentation belongs to the item around it, its text, and what follows. -/
def docComment (text : List Char) : Option (Bool × List Char × List Char) := do
  let (inner, comment, rest) ←
    if startsWith "//!" text then
      let (line, rest) := splitLine (text.drop 3)
      some (true, line, rest)
    else if startsWith "/*!" text then (blockText 3 text).map (true, ·)
    else if startsWith "///" text && !startsWith "////" text then
      let (line, rest) := splitLine (text.drop 3)
      some (false, line, rest)
    else if startsWith "/**" text && !startsWith "/***" text then
      (blockText 3 text).map (false, ·)
    else none
  if noBareReturn comment then some (inner, comment, rest) else none

/-- A documentation comment is written as an attribute. -/
def docTokens (inner : Bool) (comment : List Char) : Tokens :=
  [.punct '#' false] ++ (if inner then [.punct '!' false] else [])
    ++ [.bracket [.ident "doc", .punct '=' false,
      .literal (Text.quotedLiteral (String.ofList comment))]]

def word : Scan
  | [] => none
  | c :: rest => if isIdentStart c then some (rest.dropWhile isIdentContinue) else none

def optionalSuffix (text : List Char) : List Char := (word text).getD text

def stringScan (mark : String) (kind : StringKind) (raw : Bool) : Scan := fun text => do
  let text ← after mark text
  let (_, rest) ← Token.readString kind raw text
  some (optionalSuffix rest)

/-- The character or byte between two apostrophes. -/
def quotedCharacter (kind : StringKind) : Scan := fun text => do
  let rest ← match text with
    | '\\' :: c :: rest =>
      if c = '\n' || c = '\r' then none
      else (Token.readEscape kind (c :: rest)).map (·.2)
    | c :: rest => if c ≠ '\\' && kind.allows c then some rest else none
    | [] => none
  match rest with
  | '\x27' :: rest => some (optionalSuffix rest)
  | _ => none

def characterScan (mark : String) (kind : StringKind) : Scan := fun text =>
  (after mark text).bind (quotedCharacter kind)

/-- What follows an exponent: a sign and underscores may stand among its digits, but not a
second sign before the first of them. -/
def exponentEnd (sign digit : Bool) (before : Option (List Char)) : Scan
  | [] => if digit then some [] else before
  | c :: rest =>
    if c = '+' || c = '-' then
      if digit then some (c :: rest)
      else if sign then before
      else exponentEnd true digit before rest
    else if c.isDigit then exponentEnd sign true before rest
    else if c = '_' then exponentEnd sign digit before rest
    else if digit then some (c :: rest) else before

/-- What follows the digits of a number with a point or an exponent. A point belongs to the
number unless a name or another point comes next. -/
def fractionEnd (point : Bool) : Scan
  | [] => if point then some [] else none
  | c :: rest =>
    if c.isDigit || c = '_' then fractionEnd point rest
    else if c = '.' then
      if point then some (c :: rest)
      else if rest.head?.any fun d => d = '.' || isIdentStart d then none
      else fractionEnd true rest
    else if c = 'e' || c = 'E' then
      exponentEnd false false (if point then some (c :: rest) else none) rest
    else if point then some (c :: rest) else none

/-- A number may have a name as its suffix, and no name may follow it. -/
def numberEnd (text : List Char) : Option (List Char) :=
  let rest := optionalSuffix text
  if rest.head?.any isIdentContinue then none else some rest

def floatScan : Scan
  | [] => none
  | c :: rest => if c.isDigit then (fractionEnd false rest).bind numberEnd else none

/-- What follows the digits in `base`; `empty` as long as none is read. -/
def digitsEnd (base : Nat) (empty : Bool) : Scan
  | [] => if empty then none else some []
  | c :: rest =>
    if c = '_' then if empty && base = 10 then none else digitsEnd base empty rest
    else match Token.hexDigit? c with
      | some digit =>
        if digit < base then digitsEnd base false rest
        else if c.isDigit || empty then none
        else some (c :: rest)
      | none => if empty then none else some (c :: rest)

def radix (text : List Char) : Nat × List Char :=
  if startsWith "0x" text then (16, text.drop 2)
  else if startsWith "0o" text then (8, text.drop 2)
  else if startsWith "0b" text then (2, text.drop 2)
  else (10, text)

def integerScan : Scan := fun text =>
  (digitsEnd (radix text).1 true (radix text).2).bind numberEnd

def literalScans : List Scan := [
  stringScan "" .text false,
  stringScan "r" .text true,
  stringScan "b" .bytes false,
  stringScan "br" .bytes true,
  stringScan "c" .zeroEnded false,
  stringScan "cr" .zeroEnded true,
  characterScan "b\x27" .bytes,
  characterScan "\x27" .text,
  floatScan,
  integerScan]

/-- The literal that stands for what could not be read. -/
def errorLiteral : String := "(/*ERROR*/)"

def literalScan : Scan := fun text => literalScans.findSome? (· text)

def punctuation : List Char := "~!@#$%^&*-=+|;:,<.>/?\x27".toList

def punctScan : List Char → Option (Char × List Char)
  | [] => none
  | c :: rest =>
    if startsWith "//" (c :: rest) || startsWith "/*" (c :: rest) then none
    else if punctuation.contains c then some (c, rest) else none

def unrawable : List String := ["_", "super", "self", "Self", "crate"]

/-- A name, raw or not, and what follows it. -/
def nameScan (text : List Char) : Option (String × List Char) := do
  let body := (after "r#" text).getD text
  let rest ← word body
  let name := String.ofList (body.take (body.length - rest.length))
  if startsWith "r#" text then
    if unrawable.contains name then none else some ("r#" ++ name, rest)
  else some (name, rest)

/-- An apostrophe belongs to the name after it, unless another one closes a character. -/
def lifetimeScan (text : List Char) : Option (Token × List Char) := do
  let (_, rest) ← nameScan text
  if startsWith "\x27" rest || (startsWith "#" rest && !startsWith "r#" text) then none
  else some (.punct '\x27' true, text)

def punctToken (text : List Char) : Option (Token × List Char) := do
  let (c, rest) ← punctScan text
  if c = '\x27' then lifetimeScan rest
  else some (.punct c (punctScan rest).isSome, rest)

def literalStarts : List String :=
  ["r\"", "r#\"", "r##", "b\"", "b\x27", "br\"", "br#", "c\"", "cr\"", "cr#"]

def nameToken (text : List Char) : Option (Token × List Char) := do
  if literalStarts.any (startsWith · text) then none
  let (name, rest) ← nameScan text
  some (.ident name, rest)

def literalToken (text : List Char) : Option (Token × List Char) :=
  (literalScan text).map fun rest =>
    (.literal (String.ofList (text.take (text.length - rest.length))), rest)

def errorToken (text : List Char) : Option (Token × List Char) :=
  (after errorLiteral text).map (.literal errorLiteral, ·)

/-- Literals come before names, since some begin like a name. -/
def leaf (text : List Char) : Option (Token × List Char) :=
  literalToken text <|> punctToken text <|> nameToken text <|> errorToken text

inductive Lexeme
  | opening (delimiter : Delimiter)
  | closing (delimiter : Delimiter)
  | leaves (tokens : Tokens)

def bracketLexeme (text : List Char) : Option (Lexeme × List Char) :=
  match text with
  | '(' :: rest => if startsWith errorLiteral text then none else some (.opening .paren, rest)
  | '[' :: rest => some (.opening .bracket, rest)
  | '\x7b' :: rest => some (.opening .brace, rest)
  | ')' :: rest => some (.closing .paren, rest)
  | ']' :: rest => some (.closing .bracket, rest)
  | '\x7d' :: rest => some (.closing .brace, rest)
  | _ => none

def lexeme (text : List Char) : Option (Lexeme × List Char) :=
  match docComment text with
  | some (inner, comment, rest) => some (.leaves (docTokens inner comment), rest)
  | none => bracketLexeme text <|> (leaf text).map fun (t, rest) => (.leaves [t], rest)

/-- The lexemes of a text no longer than the number. -/
def lexemes : Nat → List Char → Option (List Lexeme)
  | 0, _ => none
  | fuel + 1, text =>
    match skipTrivia text.length text with
    | [] => some []
    | text =>
      match lexeme text with
      | some (first, rest) => (lexemes fuel rest).map (first :: ·)
      | none => none

/-- Builds the groups. `read` is what stands in the innermost open group, in reverse, and
`outer` holds the groups around it. -/
def nest (outer : List (Delimiter × Tokens)) (read : Tokens) : List Lexeme → Option Tokens
  | [] => if outer.isEmpty then some read.reverse else none
  | .opening d :: rest => nest ((d, read) :: outer) [] rest
  | .closing d :: rest =>
    match outer with
    | (open_, before) :: outer =>
      if open_ = d then nest outer (.group d read.reverse :: before) rest else none
    | [] => none
  | .leaves tokens :: rest => nest outer (tokens.reverse ++ read) rest

def dropOrderMark : List Char → List Char
  | c :: rest => if c.toNat = 0xfeff then rest else c :: rest
  | [] => []

/-- The tokens of a text, if it is a sequence of tokens with balanced groups. -/
def tokens? (text : String) : Option Tokens :=
  let chars := dropOrderMark text.toList
  (lexemes (chars.length + 1) chars).bind (nest [] [])

end ClassExpansion.Lexer
