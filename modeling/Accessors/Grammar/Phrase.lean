import Accessors.Grammar.Basic
import Accessors.Grammar.Lookahead

/-!
# Phrases of the source language

The phrases that can occur inside a declaration, with what a choice inside one depends on, and the
shapes that they turn out to have. `Program` is a grammar's program over them.

* `expect`, `expectWord`, `optional`: the next operator or word has to be, or may be, a given one.
-/

namespace Accessors.Grammar

open Accessors.Token

/-- What is known about a path once it is recognised. -/
structure PathShape where
  /-- It begins with a type in angle brackets. -/
  qualified : Bool
  /-- It begins with a separator. -/
  rooted : Bool
  /-- It has one segment. -/
  single : Bool
  /-- No segment has arguments. -/
  bare : Bool
  /-- Its last segment has no arguments, or an empty list in angle brackets. -/
  callable : Bool
  /-- Its last segment has arguments in parentheses. -/
  called : Bool
  deriving DecidableEq, Repr

/-- What sort of thing a phrase turned out to be. -/
inductive Shape where
  | plain
  /-- A list of arguments, of which lifetimes are printed first. -/
  | arguments
  /-- A lifetime that is an argument or a bound. -/
  | lifetime
  /-- Trees that are not printed. -/
  | silent
  /-- Trees that are printed as they are. -/
  | verbatim
  /-- A position in a tuple, or several joined by dots. -/
  | position
  /-- A segment of a path: whether it has arguments, and whether there are some in them. -/
  | segment (hasArguments : Bool) (filled : Bool)
  | path (s : PathShape)
  /-- A trait object without its word; `single` if it has one bound and no plus. -/
  | object (single : Bool)
  /-- A type in parentheses. -/
  | parenthesized
  /-- A bound by a trait. -/
  | trait
  /-- Bounds: whether there is a trait among them, and whether there is a plus. -/
  | bounds (hasTrait : Bool) (joined : Bool)
  /-- Arguments in parentheses; `continues` if a path can go on behind them. -/
  | signature (continues : Bool)
  /-- The body of a type in parentheses: a tuple's, or one type of a shape that `boundable` tells
  to be usable as a bound. -/
  | parenthesisBody (tuple : Bool) (boundable : Bool)
  /-- Attributes: whether there are any. -/
  | attributes (present : Bool)
  | rangeExpression
  | comparison
  /-- An expression that ends with its own block and is a statement by itself. -/
  | blockLike
  /-- An invocation with braces, which is a statement by itself. -/
  | bracedInvocation
  /-- A pattern that leaves out an end of a range. -/
  | openRange
  /-- The pattern of two dots. -/
  | restPattern
  /-- A statement; `closed` if nothing has to separate it from the next one. -/
  | statement (closed : Bool)
  deriving DecidableEq, Repr

/-- How tightly an operator binds. -/
abbrev Precedence := Nat

namespace Precedence

/-- Weaker than any operator. -/
def least : Precedence := 0
def assign : Precedence := 1
def range : Precedence := 2
def either : Precedence := 3
def both : Precedence := 4
def compare : Precedence := 6
def bitOr : Precedence := 7
def bitXor : Precedence := 8
def bitAnd : Precedence := 9
def shift : Precedence := 10
def sum : Precedence := 11
def product : Precedence := 12
def cast : Precedence := 13

end Precedence

/-- A phrase to recognise. `inExpression` says that angle brackets could be comparisons, `plus`
that a sum of bounds may stand here, `literals` that a literal of a structure may. -/
inductive Phrase where
  | hidden (count : Nat)
  | terminated (element : Phrase)
  -- paths
  | segment (inExpression : Bool)
  | path (inExpression : Bool)
  | pathRest (inExpression : Bool) (soFar : PathShape)
  | qualifiedPath (inExpression : Bool)
  | modulePath
  | moduleSegments
  | callArguments (soFar : PathShape)
  | signature
  | angleArguments
  | argumentList
  | argument
  | constArgument
  | constraintBounds
  -- types
  | type (plus : Bool)
  | namedType (bound plus : Bool)
  | parenthesisType (plus : Bool)
  | parenthesisBody
  | sequenceType
  | functionType
  | functionArguments (first : Bool)
  | functionArgument (first : Bool)
  -- bounds
  | moreBounds (joined : Bool)
  | boundTail
  | objectBounds (plus : Bool)
  | boundList (plus captures const hasTrait joined : Bool)
  | bound (captures const : Bool)
  | traitBound (const : Bool)
  | constWord
  | capture
  | captureList
  | captureItem
  | binder
  | binderList
  -- attributes
  | attributes (present : Bool)
  | innerAttributes
  | attributeBody
  | attributeValue
  -- patterns
  | pattern
  | pathPattern
  | namePattern
  | boundPattern
  | rangePattern
  | rangeRest
  | rangeBound
  | alternatives
  | alternativesRest
  | patternList
  | patternSlice
  | fieldPatterns
  | fieldPattern
  -- expressions
  | expression (literals : Bool)
  | operators (literals : Bool) (base : Precedence) (left : Shape)
  | operand (literals : Bool) (operator : Precedence)
  | operandRest (literals : Bool) (operator : Precedence) (left : Shape)
  | range (literals : Bool)
  | unary (literals : Bool)
  | atom (literals : Bool)
  | pathExpression (literals : Bool)
  | blockExpression
  | conditional
  | arms
  | closure (literals : Bool)
  | closureArguments
  | trailers (left : Shape)
  | member
  | position
  | positions
  | fieldValues
  | sequenceExpression
  | parenthesisExpression
  | statementExpression
  -- blocks
  | block (inner : Bool)
  | blockBody (inner : Bool)
  | statements
  | statement
  | binding
  | item
  | function
  | parameter
  | useTree
  | record
  | enumeration
  | overlay
  | field (named : Bool)
  | fieldType (unnamed : Bool)
  | fieldBlock
  | variant
  | visibility
  | scope
  | declaration
  -- parameters and conditions
  | generics
  | genericList
  | generic
  | lifetimeBounds
  | typeBounds
  | whereClause
  | predicates
  | predicate
  | predicateLifetimes
  | predicateBounds
  deriving Repr

/-- A program over these phrases. -/
abbrev Program (α : Type) := Recogniser Phrase Shape α

/-- What is left. -/
def ahead : Program (List Tree) := .look .done

/-- Takes the next tree. -/
def take : Program Unit := .take (.done ())

/-- Takes a number of trees. -/
def takeMany : Nat → Program Unit
  | 0 => .done ()
  | n + 1 => .take (takeMany n)

/-- Nothing fits. -/
def refuse {α : Type} : Program α := .fail

/-- Recognises a phrase as a part. -/
def call (p : Phrase) : Program Shape := .call p .done

/-- Recognises a phrase in line. -/
def splice (p : Phrase) : Program Shape := .splice p .done

/-- Recognises the body of the next group. -/
def within (p : Phrase) : Program Shape := .within p .done

/-- Takes the next tree if all that is left has a property. -/
def takeIf (p : List Tree → Bool) : Program Unit := do
  if p (← ahead) then take else refuse

/-- Takes an operator that has to be there. -/
def expect (operator : String) : Program Unit := do
  if isPunct operator (← ahead) then takeMany operator.length else refuse

/-- Takes a word that has to be there. -/
def expectWord (word : String) : Program Unit := takeIf (isWord word)

/-- Takes an operator if it is there. -/
def optional (operator : String) : Program Bool := do
  if isPunct operator (← ahead) then
    takeMany operator.length
    return true
  else return false

/-- Takes a word if it is there. -/
def optionalWord (word : String) : Program Bool := do
  if isWord word (← ahead) then
    take
    return true
  else return false

/-- Takes an identifier that has to be there. -/
def expectIdent : Program Unit := takeIf isIdent

/-- Recognises the body of a group between given delimiters, which has to be there. -/
def inside (d : Delimiter) (p : Phrase) : Program Shape := do
  if isGroup d (← ahead) then within p else refuse

/-- Recognises a list up to the end. -/
def terminatedProgram (element : Phrase) : Program Shape := do
  if (← ahead).isEmpty then return .plain
  let _ ← call element
  if (← ahead).isEmpty then return .plain
  expect ","
  splice (.terminated element)

/-- Takes trees that are not printed. -/
def hiddenProgram (count : Nat) : Program Shape := do
  takeMany count
  return .silent

end Accessors.Grammar
