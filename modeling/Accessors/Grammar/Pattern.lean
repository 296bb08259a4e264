import Accessors.Grammar.Type

/-!
# Patterns

* `patternProgram`: a pattern without alternatives at its top.
* `alternativesProgram`: patterns separated by bars, a bar in front allowed.
-/

namespace Accessors.Grammar

open Accessors.Token

/-- A path that is a pattern, or that a pattern begins with, comes next. -/
def facesPathPattern (ts : List Tree) : Bool :=
  let second := ts.drop 1
  isIdent ts && (isPunct "::" second || isPunct "!" second || isBrace second ||
      isParenthesis second || isPunct ".." second) ||
    isWord "self" ts && isPunct "::" second || isPunct "::" ts || isPunct "<" ts ||
    isOneOf ["Self", "super", "crate"] ts

/-- A pattern. -/
def patternProgram : Program Shape := do
  let ts ← ahead
  if facesPathPattern ts then splice .pathPattern
  else if isWord "_" ts then
    take
    return .plain
  else if isWord "box" ts then
    take
    let _ ← call .pattern
    return .plain
  else if isPunct "-" ts || isLiteral ts || isWord "const" ts then splice .boundPattern
  else if isOneOf ["ref", "mut", "self"] ts || isIdent ts then splice .namePattern
  else if isPunct "&" ts then
    take
    let _ ← optionalWord "mut"
    let _ ← call .pattern
    return .plain
  else if isParenthesis ts then
    let _ ← within .patternList
    return .plain
  else if isBracket ts then
    let _ ← within .patternSlice
    return .plain
  else if isPunct ".." ts && !isPunct "..." ts then splice .rangePattern
  else refuse

/-- A pattern that begins with a path. -/
def pathPatternProgram : Program Shape := do
  match ← splice (.qualifiedPath true) with
  | .path s =>
    let ts ← ahead
    if isBang ts && !s.qualified && s.bare then
      take
      takeIf isAnyGroup
      return .plain
    else if isBrace ts then
      let _ ← within .fieldPatterns
      return .plain
    else if isParenthesis ts then
      let _ ← within .patternList
      return .plain
    else if isPunct ".." ts then splice .rangeRest
    else return .plain
  | _ => refuse

/-- A name that the value is bound to, and perhaps a pattern for it. -/
def namePatternProgram : Program Shape := do
  let _ ← optionalWord "ref"
  let _ ← optionalWord "mut"
  takeIf fun ts => isIdent ts || isWord "self" ts
  if ← optional "@" then
    let _ ← call .pattern
  return .plain

/-- A constant, or a range that begins with one. -/
def boundPatternProgram : Program Shape := do
  let _ ← splice .rangeBound
  if isPunct ".." (← ahead) then splice .rangeRest else return .plain

/-- A range without a beginning, or the two dots that stand for the rest. -/
def rangePatternProgram : Program Shape := do
  if ← optional "..=" then
    if endsRange (← ahead) then refuse
    let _ ← splice .rangeBound
    return .openRange
  else
    expect ".."
    if endsRange (← ahead) then return .restPattern
    let _ ← splice .rangeBound
    return .openRange
where
  /-- No bound of a range comes next. -/
  endsRange (ts : List Tree) : Bool :=
    ts.isEmpty || isOperatorOf ["|", "=", ",", ";"] ts || isColon ts || isWord "if" ts

/-- The dots of a range and its end; only two dots can do without an end. -/
def rangeRestProgram : Program Shape := do
  let ts ← ahead
  let closed := isPunct "..=" ts || isPunct "..." ts
  takeMany (if closed then 3 else 2)
  if rangePatternProgram.endsRange (← ahead) then
    if closed then refuse else return .openRange
  let _ ← splice .rangeBound
  return .plain

/-- An end of a range: a literal, a path or a constant block. -/
def rangeBoundProgram : Program Shape := do
  let ts ← ahead
  if isLiteral ts then
    takeMany (literalSize ts)
    return .plain
  else if isWord "const" ts then
    take
    splice (.block true)
  else if isIdent ts || isOneOf pathBeginnings ts || isPunct "::" ts || isPunct "<" ts then
    let _ ← splice (.qualifiedPath true)
    return .plain
  else refuse

/-- Patterns separated by bars. -/
def alternativesProgram : Program Shape := do
  let leading := isPunct "|" (← ahead)
  if leading then take
  let s ← splice .pattern
  if isBar (← ahead) then splice .alternativesRest
  else return if leading then .plain else s

/-- The patterns behind a first one. -/
def alternativesRestProgram : Program Shape := do
  if isBar (← ahead) then
    take
    let _ ← call .pattern
    splice .alternativesRest
  else return .plain

/-- The patterns of a tuple. -/
def patternListProgram : Program Shape := do
  let _ ← splice (.terminated .alternatives)
  return .plain

/-- The patterns of a slice; a range has to be complete there. -/
def patternSliceProgram : Program Shape := do
  if (← ahead).isEmpty then return .plain
  if (← call .alternatives) == .openRange then refuse
  if (← ahead).isEmpty then return .plain
  expect ","
  splice .patternSlice

/-- The patterns of fields by name, and perhaps two dots for the rest. -/
def fieldPatternsProgram : Program Shape := do
  if (← ahead).isEmpty then return .plain
  let _ ← splice (.attributes false)
  if ← optional ".." then return .plain
  let _ ← call .fieldPattern
  if (← ahead).isEmpty then return .plain
  expect ","
  splice .fieldPatterns

/-- The pattern of one field. -/
def fieldPatternProgram : Program Shape := do
  let boxed ← optionalWord "box"
  let borrowed ← optionalWord "ref"
  let changed ← optionalWord "mut"
  if boxed || borrowed || changed then
    expectIdent
    return .plain
  let ts ← ahead
  let named := isIdent ts
  if named then take
  else
    let _ ← call .position
  if !named || isPunct ":" (← ahead) then
    expect ":"
    let _ ← call .alternatives
  return .plain

end Accessors.Grammar
