import ClassExpansion.Directory.MetaValue

set_option autoImplicit false

/- Metadata as it is written in attributes: keys and literals. -/
namespace ClassExpansion

open Number (Binary64)

namespace MetaValue

/-- The whole numbers without sign that a literal can be. -/
def integerBound : Nat := Nat.pow 2 63

def ofLiteral? : LiteralValue → Option MetaValue
  | .text value => some (text value)
  | .integer negative value _ =>
    let signed : Int := if negative then -value else value
    if signed < integerBound && -integerBound ≤ signed then some (integer signed) else none
  | .fraction digits _ => (Binary64.read? digits).map number
  | .boolean value => some (boolean value)
  | _ => none

def neg? : MetaValue → Option MetaValue
  | integer value => some (integer (-value))
  | number value => some (number value.neg)
  | _ => none

/-- A literal, in any number of minus signs and invisible groups. -/
def ofExpr? : Expr → Option MetaValue
  | .lit _ literal => ofLiteral? literal.value
  | .group _ inner => ofExpr? inner
  | .negated _ inner => (ofExpr? inner).bind neg?
  | _ => none

end MetaValue

open ClassExpansion.Parser

/-- The path at the start of a nested entry; its names may be keywords. -/
def nestedPath : Parser NamePath := do
  let rooted := !(← optionalOp "::").isEmpty
  if ← peek isAnyIdent then
    let first ← anyIdent
    let rest ← repeating (fun (read : List String) => do
      if ← peek (isOp "::") then
        let _ ← op "::"
        return (read ++ [← anyIdent], true)
      else return (read, false)) []
    return ⟨rooted, first :: rest⟩
  else if ← atEnd then failHere "expected nested attribute"
  else if ← peek isLiteral then failHere "unexpected literal in nested attribute, expected ident"
  else failHere "unexpected token in nested attribute, expected ident"

/-- Nested entries with commas between them, each changing what has been read so far. -/
def nestedEntries {σ : Type} (entry : σ → NamePath → Parser σ) (start : σ) : Parser σ :=
  repeating (fun (read : σ) => do
    let read ← entry read (← nestedPath)
    if ← atEnd then return (read, false)
    let _ ← op ","
    return (read, !(← atEnd))) start

/-- The value of an entry after an equals sign. -/
def entryValue (g : Grammar) : Parser Expr := do
  let _ ← op "="
  g.expr true

/-- An entry of metadata after its path. -/
def metaEntry (g : Grammar) (path : NamePath) : Parser MetaEntry := do
  match path.name? with
  | none => failAt "metadata keys are plain identifiers"
  | some key =>
    match MetaValue.ofExpr? (← entryValue g) with
    | some value => return ⟨Name.unraw key, value⟩
    | none => failAt "metadata values are literals"

/-- Reads the arguments of an attribute, in whatever group they stand. -/
def readArguments {α : Type} (item : MetaItem) (inner : Bool) (parser : Grammar → Parser α) :
    Except SyntaxFault α :=
  let shown := (if inner then "#!" else "#") ++ "[" ++ item.path.written ++ "(...)]"
  match item.body with
  | .list _ tokens => runAll (parser (Grammar.ofTokens tokens)) tokens
  | .bare => .error (.reason false ("expected attribute arguments in parentheses: " ++ shown))
  | _ => .error (.reason false ("expected parentheses: " ++ shown))

/-- Every entry of an attribute, repeated keys included. -/
def readMetadata (a : Attribute) : Except SyntaxFault (List MetaEntry) :=
  readArguments a.item a.inner fun g => do
    if ← atEnd then return []
    else nestedEntries (fun read path => return read ++ [← metaEntry g path]) []

end ClassExpansion
