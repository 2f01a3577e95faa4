import ClassExpansion.Class.Fault
import ClassExpansion.Code.Phrase
import ClassExpansion.Number.Binary64

set_option autoImplicit false

/- Metadata of a field: keys, each with a text, a number or a truth value. -/
namespace ClassExpansion

open Number (Binary64)

inductive MetaValue
  | text (value : String)
  | integer (value : Int)
  | number (value : Binary64)
  | boolean (value : Bool)

namespace MetaValue

/-- The text for readers: texts in quotes, numbers with the fewest digits. -/
def display : MetaValue → String
  | text value => Text.quoted value
  | integer value => toString value
  | number value => value.text
  | boolean value => if value then "true" else "false"

def text? : MetaValue → Option String
  | text value => some value
  | _ => none

/-- Equality of values of one kind. Numbers are compared as numbers, so NaN differs from itself. -/
def same : MetaValue → MetaValue → Bool
  | text a, text b => a == b
  | integer a, integer b => a == b
  | number a, number b => a.equal b
  | boolean a, boolean b => a == b
  | _, _ => false

/-- A number as it is written in code: its sign is a token of its own. -/
def signedLiteral (text suffix : String) : Tokens :=
  match text.toList with
  | '-' :: rest => [.punct '-' false, .literal (String.ofList rest ++ suffix)]
  | _ => [.literal (text ++ suffix)]

/-- The variant of the value, and the value in parentheses. -/
def valueTokens (variant : String) (value : Tokens) : Tokens :=
  Name.rooted ["inity", "MetaValue", variant] ++ [.paren value]

/-- The code that makes the value. Only a finite number has a written form. -/
def tokens : MetaValue → Attempt Tokens
  | text value => return valueTokens "Str" [Code.quoted value]
  | integer value => return valueTokens "Int" (signedLiteral (toString value) "i64")
  | number value =>
    if value.isFinite then return valueTokens "Float" (signedLiteral value.text "f64")
    else Attempt.abort .unwritableNumber
  | boolean value =>
    return valueTokens "Bool" (Name.token (if value then "true" else "false"))

end MetaValue

structure MetaEntry where
  key : String
  value : MetaValue

namespace MetaEntry

def tokens (entry : MetaEntry) : Attempt Tokens := do
  return [.paren (Code.quoted entry.key :: Token.op "," ++ (← entry.value.tokens))]

/-- Puts an entry in place of an earlier one with its key, or at the end. -/
def put (entries : List MetaEntry) (entry : MetaEntry) : List MetaEntry :=
  if entries.any (·.key == entry.key) then
    entries.map fun seen =>
      if seen.key == entry.key then { seen with value := entry.value } else seen
  else entries ++ [entry]

/-- The value of the first entry with the key. -/
def get? (entries : List MetaEntry) (key : String) : Option MetaValue :=
  (entries.find? (·.key == key)).map (·.value)

/-- Whether two lists have the same entries in the same order. -/
def sameAll : List MetaEntry → List MetaEntry → Bool
  | [], [] => true
  | a :: rest, b :: more => a.key == b.key && a.value.same b.value && sameAll rest more
  | _, _ => false

end MetaEntry

end ClassExpansion
