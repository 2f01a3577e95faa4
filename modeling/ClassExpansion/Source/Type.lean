import ClassExpansion.Token

set_option autoImplicit false

/- Declared types and the paths that name them. Of a type only what decides about markers is
kept apart: paths with their arguments, and grouping. -/
namespace ClassExpansion

mutual

inductive Ty
  /-- `lead` is what stands before the segments; a qualified path has a type there. -/
  | path (qualified : Bool) (lead : Tokens) (segments : List PathSegment)
  | paren (inner : Ty)
  | group (inner : Ty)
  /-- One trait as a bound, in parentheses or not. -/
  | bound (enclosed : Bool) (tokens : Tokens)
  | other (tokens : Tokens)

inductive PathSegment
  | mk (name : String) (arguments : PathArguments)

inductive PathArguments
  | none
  /-- Arguments between angle brackets, each with its comma; a turbofish has colons before. -/
  | angled (turbofish : Bool) (arguments : List GenericArgument)
  | parenthesized (tokens : Tokens)

inductive GenericArgument
  | lifetime (tokens : Tokens) (comma : Bool)
  | type (ty : Ty) (comma : Bool)
  | other (tokens : Tokens) (comma : Bool)

end

instance : Inhabited Ty := ⟨.other []⟩

namespace GenericArgument

def comma : GenericArgument → Bool
  | lifetime _ comma => comma
  | type _ comma => comma
  | other _ comma => comma

def withComma : GenericArgument → GenericArgument
  | lifetime tokens _ => lifetime tokens true
  | type ty _ => type ty true
  | other tokens _ => other tokens true

def isLifetime : GenericArgument → Bool
  | lifetime _ _ => true
  | _ => false

def type? : GenericArgument → Option Ty
  | type ty _ => some ty
  | _ => none

end GenericArgument

/-- Written arguments with their commas. Between two of them a comma is put where none is. -/
def joinArguments (separated : Bool) : List (Tokens × Bool) → Tokens
  | [] => []
  | (tokens, comma) :: rest =>
    (if separated then [] else Token.op ",") ++ tokens ++ (if comma then Token.op "," else [])
      ++ joinArguments comma rest

/-- Lifetimes are written before the other arguments. -/
def lifetimesFirst (arguments : List (Bool × Tokens × Bool)) : Tokens :=
  joinArguments true ((arguments.filter (·.1)).map (·.2) ++ (arguments.filter (!·.1)).map (·.2))

mutual

def Ty.tokens : Ty → Tokens
  | .path _ lead segments => lead ++ segmentsTokens segments
  | .paren inner => [.group .paren inner.tokens]
  | .group inner => [.group .invisible inner.tokens]
  | .bound enclosed tokens => if enclosed then [.group .paren tokens] else tokens
  | .other tokens => tokens

def segmentsTokens : List PathSegment → Tokens
  | [] => []
  | s :: rest => s.tokens ++ (if rest.isEmpty then [] else Token.op "::") ++ segmentsTokens rest

def PathSegment.tokens : PathSegment → Tokens
  | .mk name arguments => .ident name :: arguments.tokens

def PathArguments.tokens : PathArguments → Tokens
  | .none => []
  | .angled turbofish arguments =>
    (if turbofish then Token.op "::" else []) ++ Token.op "<"
      ++ lifetimesFirst (argumentsTokens arguments) ++ Token.op ">"
  | .parenthesized tokens => tokens

/-- Each argument with whether it is a lifetime and whether a comma follows. -/
def argumentsTokens : List GenericArgument → List (Bool × Tokens × Bool)
  | [] => []
  | a :: rest => (a.isLifetime, a.tokens, a.comma) :: argumentsTokens rest

def GenericArgument.tokens : GenericArgument → Tokens
  | .lifetime tokens _ => tokens
  | .type ty _ => ty.tokens
  | .other tokens _ => tokens

end

namespace PathSegment

def name : PathSegment → String
  | mk name _ => name

def arguments : PathSegment → PathArguments
  | mk _ arguments => arguments

end PathSegment

/-- A path outside of types. -/
structure Path where
  qualified : Bool
  lead : Tokens
  segments : List PathSegment

namespace Path

def tokens (path : Path) : Tokens := path.lead ++ segmentsTokens path.segments

def toTy (path : Path) : Ty := .path path.qualified path.lead path.segments

def ofName (name : String) : Path := ⟨false, [], [.mk name .none]⟩

/-- No segment has arguments. -/
def isPlain (path : Path) : Bool :=
  path.segments.all fun s => match s.arguments with
    | .none => true
    | _ => false

/-- Replaces the arguments of the last segment. -/
def withLastArguments (path : Path) (arguments : PathArguments) : Path :=
  match path.segments.getLast? with
  | some (.mk name _) => { path with segments := path.segments.dropLast ++ [.mk name arguments] }
  | none => path

/-- The last segment has no arguments. -/
def endsBare (path : Path) : Bool :=
  match path.segments.getLast? with
  | some (.mk _ .none) => true
  | _ => false

/-- The last segment has no arguments, or there is nothing between its angle brackets. -/
def endsWithoutArguments (path : Path) : Bool :=
  match path.segments.getLast? with
  | some (.mk _ .none) | some (.mk _ (.angled _ [])) => true
  | _ => false

def addSegments (path : Path) (more : List PathSegment) : Path :=
  { path with segments := path.segments ++ more }

/-- The name, if the path is nothing but a name. -/
def name? (path : Path) : Option String :=
  match path.qualified, path.lead, path.segments with
  | false, [], [.mk name .none] => some name
  | _, _, _ => none

def isName (path : Path) (name : String) : Bool := path.name? == some name

def lastName? (path : Path) : Option String := path.segments.getLast?.map (·.name)

/-- The names of the segments with colons between them. -/
def dotted (path : Path) : String := "::".intercalate (path.segments.map (·.name))

end Path

end ClassExpansion
