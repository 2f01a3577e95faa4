set_option autoImplicit false

/- Binary floating point numbers of 64 bits. Reading rounds to the nearest number, a half to the
even neighbour. Writing takes the fewest digits that read back, and of those the nearest. -/
namespace ClassExpansion.Number

/-- A finite number is `significand * 2 ^ exponent`; its significand is below `2 ^ 53`, and at
least `2 ^ 52` unless the exponent is the least one. -/
inductive Binary64
  | nan
  | infinite (negative : Bool)
  | finite (negative : Bool) (significand : Nat) (exponent : Int)

namespace Binary64

def leastExponent : Int := -1074

def greatestExponent : Int := 971

/-- The first significand that needs 53 bits. -/
def leastNormal : Nat := Nat.pow 2 52

/-- The first number that needs 54 bits. -/
def significandBound : Nat := Nat.pow 2 53

def neg : Binary64 → Binary64
  | nan => nan
  | infinite negative => infinite !negative
  | finite negative significand exponent => finite (!negative) significand exponent

def isFinite : Binary64 → Bool
  | finite .. => true
  | _ => false

/-- Equality of numbers: the two zeros are equal, and NaN equals nothing. -/
def equal : Binary64 → Binary64 → Bool
  | infinite a, infinite b => a == b
  | finite a m e, finite b n f => (m == 0 && n == 0) || (a == b && m == n && e == f)
  | _, _ => false

/-! ### Reading -/

/-- The nearest whole number to `num / den`, a half to the even one. -/
def roundHalfEven (num den : Nat) : Nat :=
  let q := num / den
  let r := num % den
  if 2 * r < den then q
  else if den < 2 * r then q + 1
  else q + q % 2

/-- `num / (den * 2 ^ exponent)` as a quotient of whole numbers. -/
def scale (num den : Nat) (exponent : Int) : Nat × Nat :=
  if 0 ≤ exponent then (num, den * Nat.pow 2 exponent.toNat)
  else (num * Nat.pow 2 (-exponent).toNat, den)

/-- The exponent that leaves 53 bits before the point, or the least one. -/
def exponentOf (num den : Nat) : Int :=
  let guess : Int := (Nat.log2 num : Int) - (Nat.log2 den : Int) - 52
  let (a, b) := scale num den guess
  max leastExponent (if a < b * leastNormal then guess - 1 else guess)

/-- The number nearest to the quotient `num / den`. -/
def ofRatio (negative : Bool) (num den : Nat) : Binary64 :=
  if num = 0 then finite negative 0 leastExponent
  else
    let exponent := exponentOf num den
    let (a, b) := scale num den exponent
    let significand := roundHalfEven a b
    let (significand, exponent) :=
      if significand = significandBound then (leastNormal, exponent + 1)
      else (significand, exponent)
    if greatestExponent < exponent then infinite negative
    else finite negative significand exponent

/-- The number nearest to `digits * 10 ^ exponent`. Far beyond the range the power itself is not
computed. -/
def ofDecimal (negative : Bool) (digits : Nat) (exponent : Int) : Binary64 :=
  let size : Int := (Nat.toDigits 10 digits).length
  if digits = 0 then finite negative 0 leastExponent
  else if 320 < exponent + size then infinite negative
  else if exponent + size < -400 then finite negative 0 leastExponent
  else if 0 ≤ exponent then ofRatio negative (digits * Nat.pow 10 exponent.toNat) 1
  else ofRatio negative digits (Nat.pow 10 (-exponent).toNat)

def digitsValue (digits : List Char) : Nat :=
  digits.foldl (fun value c => 10 * value + (c.toNat - '0'.toNat)) 0

/-- The sign of a text and what follows it. -/
def splitSign : List Char → Bool × List Char
  | '-' :: rest => (true, rest)
  | '+' :: rest => (false, rest)
  | text => (false, text)

/-- The exponent written after the digits: nothing, or a letter and a signed whole number. -/
def readExponent? : List Char → Option Int
  | [] => some 0
  | c :: rest =>
    let (negative, digits) := splitSign rest
    if (c = 'e' || c = 'E') && !digits.isEmpty && digits.all Char.isDigit then
      some (if negative then -(digitsValue digits : Int) else digitsValue digits)
    else none

/-- Digits with at most one point among or beside them, and an optional exponent. -/
def readDecimal? (negative : Bool) (text : List Char) : Option Binary64 :=
  let whole := text.takeWhile Char.isDigit
  let rest := text.dropWhile Char.isDigit
  let (fraction, rest) := match rest with
    | '.' :: tail => (tail.takeWhile Char.isDigit, tail.dropWhile Char.isDigit)
    | _ => ([], rest)
  if whole.isEmpty && fraction.isEmpty then none
  else (readExponent? rest).map fun exponent =>
    ofDecimal negative (digitsValue (whole ++ fraction)) (exponent - fraction.length)

/-- Reads a decimal, or one of the names of the special values in any letter case. -/
def read? (text : String) : Option Binary64 :=
  let (negative, body) := splitSign text.toList
  match String.ofList (body.map Char.toLower) with
  | "inf" | "infinity" => some (infinite negative)
  | "nan" => some nan
  | _ => readDecimal? negative body

/-! ### Writing -/

/-- The numbers that read as a finite number, in units of a quarter of its last place: `value`
lies between `low` and `high`, which belong to the interval if `closed`. -/
structure Interval where
  value : Nat
  low : Nat
  high : Nat
  closed : Bool

def Interval.ofSignificand (significand : Nat) (exponent : Int) : Interval where
  value := 4 * significand
  low := if significand = leastNormal ∧ leastExponent < exponent then 4 * significand - 1
    else 4 * significand - 2
  high := 4 * significand + 2
  closed := significand % 2 = 0

/-- Whether `n` of the decimal unit lies in the interval; a decimal unit is `num / den` of the
interval's. -/
def Interval.holds (i : Interval) (num den n : Nat) : Bool :=
  if i.closed then i.low * den ≤ n * num && n * num ≤ i.high * den
  else i.low * den < n * num && n * num < i.high * den

/-- The multiple of the decimal unit that stands for the value, if one lies in the interval: of
the two next to the value the nearer one, the greater if both are as near. -/
def Interval.nearest? (i : Interval) (num den : Nat) : Option Nat :=
  let below := i.value * den / num
  match i.holds num den below, i.holds num den (below + 1) with
  | true, true =>
    some (if 2 * (i.value * den) < (2 * below + 1) * num then below else below + 1)
  | true, false => some below
  | false, true => some (below + 1)
  | false, false => none

/-- `10 ^ power / 2 ^ exponent` as a quotient of whole numbers. -/
def decimalUnit (power exponent : Int) : Nat × Nat :=
  let ten := Nat.pow 10 power.natAbs
  let two := Nat.pow 2 exponent.natAbs
  ((if 0 ≤ power then ten else 1) * (if 0 ≤ exponent then 1 else two),
    (if 0 ≤ power then 1 else ten) * (if 0 ≤ exponent then two else 1))

/-- Tries ever finer decimal units, and gives the digits with the power of ten of their unit. -/
def refine (i : Interval) (exponent : Int) : Nat → Int → Nat × Int
  | 0, power => (0, power)
  | steps + 1, power =>
    let (num, den) := decimalUnit power exponent
    match i.nearest? num den with
    | some digits => (digits, power)
    | none => refine i exponent steps (power - 1)

/-- The decimal with the fewest digits that reads back, as digits and a power of ten. -/
def shortest (significand : Nat) (exponent : Int) : Nat × Int :=
  let size : Int := (Nat.log2 significand : Int) + exponent
  refine (.ofSignificand significand exponent) (exponent - 2) 20 ((size + 1) * 30103 / 100000 + 1)

/-- Writes `digits * 10 ^ power` with no exponent and no needless zero. -/
def positional (digits : Nat) (power : Int) : List Char :=
  if 0 ≤ power then Nat.toDigits 10 digits ++ List.replicate power.toNat '0'
  else
    let places := (-power).toNat
    let text := Nat.toDigits 10 digits
    let text := List.replicate (places + 1 - text.length) '0' ++ text
    let fraction := (text.drop (text.length - places)).reverse.dropWhile (· = '0')
    let whole := text.take (text.length - places)
    if fraction.isEmpty then whole else whole ++ '.' :: fraction.reverse

def text : Binary64 → String
  | nan => "NaN"
  | infinite negative => if negative then "-inf" else "inf"
  | finite negative significand exponent =>
    let body := if significand = 0 then ['0'] else
      let (digits, power) := shortest significand exponent
      positional digits power
    String.ofList (if negative then '-' :: body else body)

end Binary64

end ClassExpansion.Number
