import ClassExpansion.Source.Grammar.Item

set_option autoImplicit false

/- Reading tokens as a type, an expression, an attribute, an item or a name. -/
namespace ClassExpansion

namespace Grammar

/-- A grammar whose productions are nested at most as deeply as the number says. -/
def ofDepth : Nat → Grammar
  | 0 => empty
  | depth + 1 => {
    type := fun plus arguments state => readType (ofDepth depth) plus arguments state
    argument := fun state => readArgument (ofDepth depth) state
    boundParameter := fun state => readBoundParameter (ofDepth depth) state
    expr := fun struct state => readExpr (ofDepth depth) struct state
    statementExpr := fun state => readStatementExpr (ofDepth depth) state
    operand := fun struct state => readOperand (ofDepth depth) struct state
    climb := fun left struct least state => readClimb (ofDepth depth) left struct least state
    pattern := fun state => readPattern (ofDepth depth) state
    patterns := fun state => readPatterns (ofDepth depth) state
    statements := fun state => readStatements (ofDepth depth) state
    field := fun state => readField (ofDepth depth) state
    item := fun state => readItem (ofDepth depth) state
    itemAfterAttrs := fun start attrs state => readItemAfterAttrs (ofDepth depth) start attrs state
    useTree := fun root state => readUseTree (ofDepth depth) root state }

/-- Productions nested in one another without reading a token between them. -/
def depthPerToken : Nat := 16

/-- A grammar deep enough for the tokens. -/
def ofTokens (tokens : Tokens) : Grammar := ofDepth (depthPerToken * (Token.sizeAll tokens + 2))

end Grammar

open ClassExpansion.Parser

def readTypeOf (tokens : Tokens) : Except SyntaxFault Ty :=
  runAll (Grammar.ofTokens tokens).anyType tokens

def readExprOf (tokens : Tokens) : Except SyntaxFault Expr :=
  runAll ((Grammar.ofTokens tokens).expr true) tokens

def readItemOf (tokens : Tokens) : Except SyntaxFault Item :=
  runAll (Grammar.ofTokens tokens).item tokens

/-- Any number of outer attributes. -/
def readAttributesOf (tokens : Tokens) : Except SyntaxFault (List Attribute) :=
  runAll (Grammar.ofTokens tokens).outerAttributes tokens

def readStructOf (tokens : Tokens) : Except SyntaxFault StructItem :=
  let g := Grammar.ofTokens tokens
  runAll (do
    let attrs ← g.outerAttributes
    return { (← g.structItem) with attrs }) tokens

/-- An implementation. It is refused where only a form kept as written would do. -/
def readImplOf (tokens : Tokens) : Except SyntaxFault (Option ImplItem) :=
  let g := Grammar.ofTokens tokens
  runAll (do
    let attrs ← g.outerAttributes
    return (← g.implItem).map fun item => { item with attrs }) tokens

/-- The name that a text writes, if it is one and no keyword. -/
def readName? (text : String) : Option String :=
  match Lexer.tokens? text with
  | some tokens =>
    match runAll ident tokens with
    | .ok name => some name
    | .error _ => none
  | none => none

end ClassExpansion
