import ClassExpansion.Source.Type
import ClassExpansion.Token.Literal

set_option autoImplicit false

/- Expressions as values of options. Literals, paths, calls, minus signs and grouping are kept
apart; of any other expression only its kind and its tokens matter. -/
namespace ClassExpansion

inductive ExprKind
  | array | assign | async | await | binary | comparison | block | breakOut | call | cast | closure
  | const | continueOn | field | forLoop | group | ifElse | index | infer | letTest | lit | loop
  | macroCall | matching | methodCall | paren | path | range | rawAddress | reference | repetition
  | returning | struct | question | tryBlock | tuple | unary | unsafeBlock | verbatim | whileLoop
  | yield
  deriving DecidableEq, Repr

namespace ExprKind

/-- The name under which an expression of the kind is refused. -/
def label : ExprKind → String
  | array => "array"
  | assign => "assign"
  | async => "async"
  | await => "await"
  | binary | comparison => "binary"
  | block => "block"
  | breakOut => "break"
  | call => "call"
  | cast => "cast"
  | closure => "closure"
  | const => "const"
  | continueOn => "continue"
  | field => "field"
  | forLoop => "for_loop"
  | group => "group"
  | ifElse => "if"
  | index => "index"
  | infer => "infer"
  | letTest => "let"
  | lit => "lit"
  | loop => "loop"
  | macroCall => "macro"
  | matching => "match"
  | methodCall => "method_call"
  | paren => "paren"
  | path => "path"
  | range => "range"
  | rawAddress => "unknown"
  | reference => "reference"
  | repetition => "repeat"
  | returning => "return"
  | struct => "struct"
  | question => "try"
  | tryBlock => "try_block"
  | tuple => "tuple"
  | unary => "unary"
  | unsafeBlock => "unsafe"
  | verbatim => "verbatim"
  | whileLoop => "while"
  | yield => "yield"

/-- Kinds that end a statement and an arm of a match by themselves. -/
def standsAlone : ExprKind → Bool
  | ifElse | matching | block | unsafeBlock | whileLoop | loop | forLoop | tryBlock | const => true
  | _ => false

/-- Kinds that begin with an operand, which would take attributes in front for itself. -/
def isInfix : ExprKind → Bool
  | assign | binary | cast | comparison | range => true
  | _ => false

end ExprKind

/-- The first component of every constructor holds the tokens of the attributes in front. -/
inductive Expr
  | lit (attrs : Tokens) (literal : Literal)
  | path (attrs : Tokens) (named : Path)
  /-- Each argument comes with whether a comma follows it. -/
  | call (attrs : Tokens) (function : Expr) (arguments : List (Expr × Bool))
  | paren (attrs : Tokens) (inner : Expr)
  | group (attrs : Tokens) (inner : Expr)
  | negated (attrs : Tokens) (inner : Expr)
  | other (attrs : Tokens) (kind : ExprKind) (body : Tokens)

namespace Expr

instance : Inhabited Expr := ⟨.other [] .verbatim []⟩

mutual

def tokens : Expr → Tokens
  | lit attrs literal => attrs ++ literal.tokens
  | path attrs named => attrs ++ named.tokens
  | call attrs function arguments =>
    attrs ++ function.tokens ++ [.group .paren (argumentTokens arguments)]
  | paren attrs inner => attrs ++ [.group .paren inner.tokens]
  | group attrs inner => attrs ++ [.group .invisible inner.tokens]
  | negated attrs inner => attrs ++ Token.op "-" ++ inner.tokens
  | other attrs kind body =>
    attrs ++ (if kind.isInfix && !attrs.isEmpty then [.group .paren body] else body)

def argumentTokens : List (Expr × Bool) → Tokens
  | [] => []
  | (argument, comma) :: rest =>
    argument.tokens ++ (if comma then Token.op "," else []) ++ argumentTokens rest

end

def kind : Expr → ExprKind
  | lit _ _ => .lit
  | path _ _ => .path
  | call _ _ _ => .call
  | paren _ _ => .paren
  | group _ _ => .group
  | negated _ _ => .unary
  | other _ kind _ => kind

def attrs : Expr → Tokens
  | lit attrs _ => attrs
  | path attrs _ => attrs
  | call attrs _ _ => attrs
  | paren attrs _ => attrs
  | group attrs _ => attrs
  | negated attrs _ => attrs
  | other attrs _ _ => attrs

/-- Puts more attributes in front. What is kept as written takes none. -/
def addAttrs (more : Tokens) : Expr → Expr
  | lit attrs literal => lit (more ++ attrs) literal
  | path attrs named => path (more ++ attrs) named
  | call attrs function arguments => call (more ++ attrs) function arguments
  | paren attrs inner => paren (more ++ attrs) inner
  | group attrs inner => group (more ++ attrs) inner
  | negated attrs inner => negated (more ++ attrs) inner
  | other attrs kind body => other (if kind = .verbatim then attrs else more ++ attrs) kind body

/-- Whether the last token is a group in braces. -/
def endsInBrace (e : Expr) : Bool :=
  match e.tokens.getLast? with
  | some (.group .brace _) => true
  | _ => false

/-- The text of a string literal, alone or in invisible groups. -/
def isText : Expr → Bool
  | lit _ literal => literal.isText
  | group _ inner => inner.isText
  | _ => false

end Expr

end ClassExpansion
