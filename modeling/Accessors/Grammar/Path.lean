import Accessors.Grammar.Phrase

/-!
# Paths

A path is a series of names with arguments in angle brackets or in parentheses. In an expression
the angle brackets need a separator in front, because they could be comparisons.

* `segmentProgram`, `pathProgram`, `qualifiedPathProgram`: paths with arguments.
* `modulePathProgram`: paths without.
* `argumentProgram`: one argument in angle brackets.
-/

namespace Accessors.Grammar

open Accessors.Token

/-- Words that a path can go through although they are no names. -/
def pathWords : List String := ["super", "self", "crate", "try"]

/-- The number of trees of the separator in front, zero if there is none. -/
def separatorSize (ts : List Tree) : Nat := if isPunct "::" ts then 2 else 0

/-- Empty angle brackets come next, and arguments in parentheses take their place. -/
def facesReplacedArguments (ts : List Tree) : Bool :=
  isPunct "<" ts && isPunct ">" (ts.drop 1) && isParenthesis (ts.drop 2)

/-- One segment: its name and its arguments in angle brackets. -/
def segmentProgram (inExpression : Bool) : Program Shape := do
  let ts ← ahead
  if isOneOf pathWords ts then
    take
    return .segment false false
  if isWord "Self" ts then take else expectIdent
  let ts ← ahead
  let separator := separatorSize ts
  if !inExpression && facesReplacedArguments (ts.drop separator) then
    -- The arguments in parentheses are recognised with the path.
    let _ ← call (.hidden (separator + 2))
    return .segment false false
  if !inExpression && isPunct "<" ts && !isPunct "<=" ts && !isPunct "<<=" ts then
    splice .angleArguments
  else if isPunct "::" ts && isPunct "<" (ts.drop 2) then
    takeMany 2
    splice .angleArguments
  else return .segment false false

/-- Arguments between angle brackets. -/
def angleArgumentsProgram : Program Shape := do
  expect "<"
  let filled := !isPunct ">" (← ahead)
  let _ ← call .argumentList
  expect ">"
  return .segment true filled

/-- What one more segment changes about a path. -/
def PathShape.extend (s : PathShape) (hasArguments filled : Bool) : PathShape :=
  { s with single := false, bare := s.bare && !hasArguments, callable := !filled, called := false }

/-- The segments behind a first one. -/
def pathRestProgram (inExpression : Bool) (soFar : PathShape) : Program Shape := do
  if ← optional "::" then
    match ← splice (.segment inExpression) with
    | .segment hasArguments filled =>
      splice (.pathRest inExpression (soFar.extend hasArguments filled))
    | _ => refuse
  else return .path soFar

/-- A path of names. -/
def pathProgram (inExpression : Bool) : Program Shape := do
  let rooted ← optional "::"
  match ← splice (.segment inExpression) with
  | .segment hasArguments filled =>
    splice (.pathRest inExpression
      ⟨false, rooted, true, !hasArguments, !filled, false⟩)
  | _ => refuse

/-- A path that may begin with a type in angle brackets, seen as a type of a trait or not. -/
def qualifiedPathProgram (inExpression : Bool) : Program Shape := do
  if isPunct "<" (← ahead) then
    take
    let _ ← call (.type true)
    if ← optionalWord "as" then
      let _ ← call (.path false)
    expect ">"
    expect "::"
    match ← splice (.segment inExpression) with
    | .segment hasArguments filled =>
      splice (.pathRest inExpression
        ⟨true, false, false, !hasArguments, !filled, false⟩)
    | _ => refuse
  else splice (.path inExpression)

/-- Words that a path without arguments can go through although they are no names. -/
def moduleWords : List String := ["super", "self", "Self", "crate"]

/-- The segments of a path without arguments. -/
def moduleSegmentsProgram : Program Shape := do
  let ts ← ahead
  if isIdent ts || isOneOf moduleWords ts then
    take
    if ← optional "::" then splice .moduleSegments else return .plain
  else refuse

/-- A path without arguments. -/
def modulePathProgram : Program Shape := do
  let _ ← optional "::"
  splice .moduleSegments

/-- The arguments in parentheses behind a path of a type; no separator stands in front of them. Where
a path can go on behind them it does. -/
def callArgumentsProgram (soFar : PathShape) : Program Shape := do
  if soFar.callable && isParenthesis (← ahead) then
    let soFar := { soFar with bare := false, callable := false, called := true }
    match ← splice .signature with
    | .signature true =>
      match ← splice (.pathRest false soFar) with
      | .path s => splice (.callArguments s)
      | _ => refuse
    | _ => return .path soFar
  else return .path soFar

/-- Argument types in parentheses and a result type. -/
def signatureProgram : Program Shape := do
  let _ ← inside .parenthesis (.terminated (.type true))
  if ← optional "->" then
    let s ← call (.type false)
    return .signature (s == .parenthesized)
  else return .signature true

/-! ## Arguments in angle brackets -/

/-- Arguments up to the closing bracket, separated by commas. -/
def argumentListProgram : Program Shape := do
  if isPunct ">" (← ahead) then return .arguments
  let _ ← call .argument
  if isPunct ">" (← ahead) then return .arguments
  expect ","
  splice .argumentList

/-- A constant that needs no brackets, or one in braces. -/
def constArgumentProgram : Program Shape := do
  let ts ← ahead
  if isLiteral ts then
    takeMany (literalSize ts)
    return .plain
  if isIdent ts then
    take
    return .plain
  splice (.block true)

/-- A constant comes next, told by its first tree. -/
def facesConstant (ts : List Tree) : Bool := isLiteral ts || isBrace ts

/-- One argument: a lifetime, a constant, a type, or the type, constant or bounds of an associated
item. -/
def argumentProgram : Program Shape := do
  let ts ← ahead
  if isLifetime ts && !isPunct "+" (ts.drop 1) then
    take
    return .lifetime
  if facesConstant ts then splice .constArgument
  else
    match ← call (.type true) with
    | .path s =>
      if s.qualified || s.rooted || !s.single || s.called then return .plain
      let ts ← ahead
      if isPunct "=" ts then
        take
        if facesConstant (← ahead) then splice .constArgument
        else
          let _ ← call (.type true)
          return .plain
      else if isPunct ":" ts then
        take
        splice .constraintBounds
      else return .plain
    | _ => return .plain

/-- The bounds of an associated item; there may be none. -/
def constraintBoundsProgram : Program Shape := do
  let ts ← ahead
  if isPunct "," ts || isPunct ">" ts then return .plain
  let _ ← call (.bound false true)
  if ← optional "+" then splice .constraintBounds else return .plain

end Accessors.Grammar
