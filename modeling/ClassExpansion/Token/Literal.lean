import ClassExpansion.Text.Identifier
import ClassExpansion.Token.StringBody
import ClassExpansion.Token

set_option autoImplicit false

/- Literals by what they stand for. Numbers keep their digits: whole numbers in base ten, and
fractions as written, without underscores. -/
namespace ClassExpansion

inductive LiteralValue
  | text (value : String)
  | byteString
  | zeroEndedString
  | byte
  | character
  | integer (negative : Bool) (value : Nat) (suffix : String)
  | fraction (digits : String) (suffix : String)
  | boolean (value : Bool)
  | unreadable
  deriving BEq, Repr, Inhabited

structure Literal where
  tokens : Tokens
  value : LiteralValue
  deriving BEq, Repr, Inhabited

namespace Literal

def isSuffix (text : List Char) : Bool := text.isEmpty || Text.isIdentText text

/-- Whether what follows the letter of an exponent is digits and underscores with at least one
digit, up to a suffix. A sign makes it an exponent at once. -/
def exponentFollows (digit : Bool) : List Char → Bool
  | [] => digit
  | c :: rest =>
    if c = '_' then exponentFollows digit rest
    else if c = '-' || c = '+' then true
    else if c.isDigit then exponentFollows true rest
    else digit && Text.isIdentText (c :: rest)

/-- The value of the digits in `base`, and what follows them. A number in base ten with a point
or an exponent is no integer. -/
def integerDigits (base value : Nat) (read : Bool) : List Char → Option (Nat × List Char)
  | [] => if read then some (value, []) else none
  | c :: rest =>
    if c = '_' then integerDigits base value read rest
    else if c = '.' && base = 10 then none
    else if (c = 'e' || c = 'E') && base = 10 then
      if exponentFollows false rest then none
      else if read then some (value, c :: rest) else none
    else match Token.hexDigit? c with
      | some digit =>
        if !c.isDigit && base ≤ 10 then if read then some (value, c :: rest) else none
        else if base ≤ digit then none
        else integerDigits base (base * value + digit) true rest
      | none => if read then some (value, c :: rest) else none

def integer? (text : List Char) : Option (Nat × String) := do
  let (value, suffix) ← match text with
    | '0' :: 'x' :: rest => integerDigits 16 0 false rest
    | '0' :: 'o' :: rest => integerDigits 8 0 false rest
    | '0' :: 'b' :: rest => integerDigits 2 0 false rest
    | c :: rest => if c.isDigit then integerDigits 10 0 false (c :: rest) else none
    | [] => none
  if isSuffix suffix then some (value, String.ofList suffix) else none

/-- What has been read of a fraction. -/
structure FractionState where
  point : Bool
  exponent : Bool
  sign : Bool
  exponentDigit : Bool

/-- The digits with point and exponent, and what follows them. -/
def fractionDigits (state : FractionState) : List Char → Option (List Char × List Char)
  | [] => if state.exponent && !state.exponentDigit then none else some ([], [])
  | c :: rest =>
    let finish :=
      if state.exponent && !state.exponentDigit then none else some ([], c :: rest)
    if c = '_' then fractionDigits state rest
    else if c.isDigit then
      Token.pushValue [c]
        (fractionDigits { state with exponentDigit := state.exponentDigit || state.exponent } rest)
    else if c = '.' then
      if state.exponent || state.point then none
      else Token.pushValue ['.'] (fractionDigits { state with point := true } rest)
    else if c = 'e' || c = 'E' then
      if !((rest.dropWhile (· = '_')).head?.any fun d => d = '-' || d = '+' || d.isDigit) then
        finish
      else if state.exponent then if state.exponentDigit then finish else none
      else Token.pushValue ['e'] (fractionDigits { state with exponent := true } rest)
    else if c = '-' || c = '+' then
      if state.sign || state.exponentDigit || !state.exponent then none
      else
        Token.pushValue (if c = '-' then ['-'] else [])
          (fractionDigits { state with sign := true } rest)
    else finish

def fraction? (text : List Char) : Option (String × String) := do
  let (digits, suffix) ←
    if text.head?.any Char.isDigit then fractionDigits ⟨false, false, false, false⟩ text else none
  if isSuffix suffix then some (String.ofList digits, String.ofList suffix) else none

def number? (negative : Bool) (text : List Char) : Option LiteralValue :=
  match integer? text with
  | some (value, suffix) => some (.integer negative value suffix)
  | none =>
    (fraction? text).map fun (digits, suffix) =>
      .fraction (if negative then "-" ++ digits else digits) suffix

def textValue (raw : Bool) (text : List Char) : LiteralValue :=
  match Token.readString .text raw text with
  | some (value, _) => .text (String.ofList value)
  | none => .unreadable

def valueOf (text : List Char) : LiteralValue :=
  match text with
  | '"' :: _ => textValue false text
  | 'r' :: rest => textValue true rest
  | 'b' :: '\x27' :: _ => .byte
  | 'b' :: _ => .byteString
  | 'c' :: _ => .zeroEndedString
  | '\x27' :: _ => .character
  | _ => (number? false text).getD .unreadable

/-- The literal that a token writes. -/
def ofText (text : String) : Literal := ⟨[.literal text], valueOf text.toList⟩

/-- A number with a minus sign in front. -/
def negated? (text : String) : Option Literal :=
  (number? true text.toList).map fun value => ⟨[.punct '-' false, .literal text], value⟩

def ofBool (value : Bool) : Literal :=
  ⟨[.ident (if value then "true" else "false")], .boolean value⟩

/-- Whether the literal is a text. -/
def isText (literal : Literal) : Bool :=
  match literal.value with
  | .text _ => true
  | _ => false

end Literal

end ClassExpansion
