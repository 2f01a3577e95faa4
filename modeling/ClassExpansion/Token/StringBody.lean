set_option autoImplicit false

/- The inside of string literals: what the text between the quotes stands for, and where it
ends. A reader gets the characters after the opening quote and gives the value with the
characters after the closing one. -/
namespace ClassExpansion.Token

/-- The three families of string literals differ in the characters and escapes they allow. -/
inductive StringKind
  | text
  | bytes
  | zeroEnded
  deriving DecidableEq

/-- Whether `c` may stand for itself. -/
def StringKind.allows (kind : StringKind) (c : Char) : Bool :=
  match kind with
  | .text => true
  | .bytes => c.toNat < 128
  | .zeroEnded => c ≠ '\x00'

def hexDigit? (c : Char) : Option Nat :=
  if c.isDigit then some (c.toNat - '0'.toNat)
  else if 'a' ≤ c && c ≤ 'f' then some (10 + c.toNat - 'a'.toNat)
  else if 'A' ≤ c && c ≤ 'F' then some (10 + c.toNat - 'A'.toNat)
  else none

/-- Two digits after `\x`. In a text they stay below 128, and nothing ends in zero. -/
def hexEscape (kind : StringKind) : List Char → Option (Char × List Char)
  | a :: b :: rest => do
    let high ← hexDigit? a
    let low ← hexDigit? b
    let value := 16 * high + low
    let good : Bool := match kind with
      | .text => high < 8
      | .bytes => true
      | .zeroEnded => value ≠ 0
    if good then some (Char.ofNat value, rest) else none
  | _ => none

/-- Up to six digits in braces, with underscores after the first one. -/
def codePointDigits (count value : Nat) : List Char → Option (Nat × List Char)
  | [] => none
  | c :: rest =>
    if c = '_' && 0 < count then codePointDigits count value rest
    else if c = '\x7d' && 0 < count then some (value, rest)
    else match hexDigit? c with
      | some digit =>
        if count = 6 then none else codePointDigits (count + 1) (16 * value + digit) rest
      | none => none

def codePointEscape : List Char → Option (Char × List Char)
  | '\x7b' :: rest => do
    let (value, rest) ← codePointDigits 0 0 rest
    if value.isValidChar then some (Char.ofNat value, rest) else none
  | _ => none

/-- Blanks after a backslash at the end of a line. -/
def skipContinuation (afterReturn : Bool) : List Char → Option (List Char)
  | [] => none
  | c :: rest =>
    if afterReturn then if c = '\n' then skipContinuation false rest else none
    else if c = '\r' then skipContinuation true rest
    else if c = ' ' || c = '\t' || c = '\n' then skipContinuation false rest
    else some (c :: rest)

def plainEscapes : List (Char × Char) :=
  [('n', '\n'), ('r', '\r'), ('t', '\t'), ('\\', '\\'), ('\x27', '\x27'), ('"', '"')]

/-- What follows a backslash. -/
def readEscape (kind : StringKind) : List Char → Option (List Char × List Char)
  | [] => none
  | c :: rest =>
    match plainEscapes.lookup c with
    | some value => some ([value], rest)
    | none =>
      if c = '0' && kind ≠ .zeroEnded then some (['\x00'], rest)
      else if c = 'x' then (hexEscape kind rest).map fun (v, rest) => ([v], rest)
      else if c = 'u' && kind ≠ .bytes then
        match codePointEscape rest with
        | some (v, rest) => if kind = .zeroEnded && v = '\x00' then none else some ([v], rest)
        | none => none
      else if c = '\n' then (skipContinuation false rest).map ([], ·)
      else if c = '\r' then (skipContinuation true rest).map ([], ·)
      else none

def pushValue (value : List Char) (read : Option (List Char × List Char)) :
    Option (List Char × List Char) :=
  read.map fun (more, rest) => (value ++ more, rest)

/-- The first number bounds the count of characters. A line end is a newline, with or without
a carriage return before it. -/
def readCooked (kind : StringKind) : Nat → List Char → Option (List Char × List Char)
  | 0, _ => none
  | _ + 1, [] => none
  | fuel + 1, c :: rest =>
    if c = '"' then some ([], rest)
    else if c = '\r' then
      match rest with
      | '\n' :: rest => pushValue ['\n'] (readCooked kind fuel rest)
      | _ => none
    else if c = '\\' then
      match readEscape kind rest with
      | some (value, rest) => pushValue value (readCooked kind fuel rest)
      | none => none
    else if kind.allows c then pushValue [c] (readCooked kind fuel rest)
    else none

/-- A raw text ends at a quote with as many hashes after it as stand before the opening one. -/
def readRaw (kind : StringKind) (hashes : List Char) : List Char → Option (List Char × List Char)
  | [] => none
  | '\r' :: '\n' :: rest => pushValue ['\r', '\n'] (readRaw kind hashes rest)
  | c :: rest =>
    if c = '"' && hashes.isPrefixOf rest then some ([], rest.drop hashes.length)
    else if c = '\r' then none
    else if kind.allows c then pushValue [c] (readRaw kind hashes rest)
    else none

/-- The hashes before the opening quote, and what stands after it. -/
def rawOpening (text : List Char) : Option (List Char × List Char) :=
  let hashes := text.takeWhile (· = '#')
  match text.dropWhile (· = '#') with
  | '"' :: rest => if hashes.length ≤ 255 then some (hashes, rest) else none
  | _ => none

/-- Reads from the opening quote, or from the hashes before it. -/
def readString (kind : StringKind) (raw : Bool) (text : List Char) :
    Option (List Char × List Char) :=
  if raw then
    match rawOpening text with
    | some (hashes, rest) => readRaw kind hashes rest
    | none => none
  else
    match text with
    | '"' :: rest => readCooked kind (rest.length + 1) rest
    | _ => none

end ClassExpansion.Token
