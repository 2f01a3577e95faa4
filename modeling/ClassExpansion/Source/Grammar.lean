import ClassExpansion.Source.Item
import ClassExpansion.Source.Parser

set_option autoImplicit false

/- The productions that depend on each other. A production is written over the grammar of the
next depth, and a grammar of enough depth for the tokens at hand reads them all. -/
namespace ClassExpansion

/-- How tightly an operator binds. -/
inductive Precedence
  | jump | assign | range | or | and | let_ | compare | bitOr | bitXor | bitAnd | shift | sum
  | product | cast
  deriving DecidableEq

namespace Precedence

def rank : Precedence → Nat
  | jump => 0
  | assign => 1
  | range => 2
  | or => 3
  | and => 4
  | let_ => 5
  | compare => 6
  | bitOr => 7
  | bitXor => 8
  | bitAnd => 9
  | shift => 10
  | sum => 11
  | product => 12
  | cast => 13

end Precedence

/-- What sort of pattern it is, as far as its place matters. -/
inductive PatternForm
  | plain
  /-- A range with both ends. -/
  | range
  /-- A range that lacks an end. -/
  | openRange
  /-- A pattern that is kept as written. -/
  | written
  deriving DecidableEq

structure Pattern where
  tokens : Tokens
  form : PatternForm

structure Grammar where
  /-- A type, with or without further bounds and arguments after a group. -/
  type : (plus groupArguments : Bool) → Parser Ty
  /-- An argument between angle brackets, without its comma. -/
  argument : Parser GenericArgument
  /-- A parameter between `for<` and `>`, without its comma. -/
  boundParameter : Parser Tokens
  /-- An expression, which may or may not be a struct literal. -/
  expr : (struct : Bool) → Parser Expr
  /-- An expression at the start of a statement or an arm of a match. -/
  statementExpr : Parser Expr
  /-- An operand with its prefix operators. -/
  operand : (struct : Bool) → Parser Expr
  /-- Goes on from a left operand with operators that bind at least as tightly. -/
  climb : (left : Expr) → (struct : Bool) → (least : Precedence) → Parser Expr
  pattern : Parser Pattern
  /-- Patterns with bars between them. -/
  patterns : Parser Pattern
  /-- What stands in the braces of a block. -/
  statements : Parser Tokens
  /-- A named field. -/
  field : Parser StructField
  item : Parser Item
  /-- The rest of an item whose attributes were read since `start`. -/
  itemAfterAttrs : (start : Tokens) → (attrs : List Attribute) → Parser Item
  /-- A tree of imports; none if a path in it begins at the root. -/
  useTree : (root : Bool) → Parser (Option Tokens)

namespace Grammar

/-- The grammar of no depth reads nothing. -/
def empty : Grammar where
  type _ _ := Parser.failAt "unexpected token"
  argument := Parser.failAt "unexpected token"
  boundParameter := Parser.failAt "unexpected token"
  expr _ := Parser.failAt "unexpected token"
  statementExpr := Parser.failAt "unexpected token"
  operand _ := Parser.failAt "unexpected token"
  climb _ _ _ := Parser.failAt "unexpected token"
  pattern := Parser.failAt "unexpected token"
  patterns := Parser.failAt "unexpected token"
  statements := Parser.failAt "unexpected token"
  field := Parser.failAt "unexpected token"
  item := Parser.failAt "unexpected token"
  itemAfterAttrs _ _ := Parser.failAt "unexpected token"
  useTree _ := Parser.failAt "unexpected token"

end Grammar

end ClassExpansion
