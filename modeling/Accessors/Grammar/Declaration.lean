import Accessors.Grammar.Attribute
import Accessors.Grammar.Type

/-!
# Declarations of types

The parts of a declaration are parts of its record: attributes, visibility, the word for its kind,
its name, its parameters, and what follows them.

* `declarationProgram`: a structure, an enumeration or a union.
* `genericProgram`, `predicateProgram`: one parameter, and one condition on parameters.
* `fieldProgram`: one field.
-/

namespace Accessors.Grammar

open Accessors.Token

/-- Who may see an item. -/
def visibilityProgram : Program Shape := do
  if ← optionalWord "pub" then
    let ts ← ahead
    let body := groupBody ts
    if isParenthesis ts && isOneOf ["crate", "self", "super"] body && body.length == 1 then take
    else if isParenthesis ts && isWord "in" body then
      let _ ← within .scope
  return .plain

/-- The path within which an item can be seen. -/
def scopeProgram : Program Shape := do
  expectWord "in"
  splice .modulePath

/-- A declaration of a type. -/
def declarationProgram : Program Shape := do
  let _ ← call (.attributes false)
  let _ ← call .visibility
  let ts ← ahead
  takeIf (isOneOf ["struct", "enum", "union"])
  expectIdent
  let _ ← call .generics
  if isWord "struct" ts then call .record
  else if isWord "enum" ts then call .enumeration
  else call .overlay

/-- What follows the name and the parameters of a structure. -/
def recordProgram : Program Shape := do
  let restricted := isWord "where" (← ahead)
  let _ ← call .whereClause
  let ts ← ahead
  if !restricted && isParenthesis ts then
    let _ ← within (.terminated (.field false))
    let _ ← call .whereClause
    expect ";"
    return .plain
  else if isBrace ts then
    let _ ← within (.terminated (.field true))
    return .plain
  else
    expect ";"
    return .plain

/-- What follows the name and the parameters of an enumeration. -/
def enumerationProgram : Program Shape := do
  let _ ← call .whereClause
  inside .brace (.terminated .variant)

/-- What follows the name and the parameters of a union. -/
def overlayProgram : Program Shape := do
  let _ ← call .whereClause
  inside .brace (.terminated (.field true))

/-- A field, with its name or without. -/
def fieldProgram (named : Bool) : Program Shape := do
  let _ ← call (.attributes false)
  let _ ← call .visibility
  let unnamed := named && isWord "_" (← ahead)
  if named then
    takeIf fun ts => isIdent ts || isWord "_" ts
    expect ":"
  let _ ← call (.fieldType unnamed)
  return .plain

/-- The type of a field. A field without a name of its own can have fields in place of a type,
which are kept as they are. -/
def fieldTypeProgram (unnamed : Bool) : Program Shape := do
  let ts ← ahead
  if unnamed && (isWord "struct" ts || isWord "union" ts && isBrace (ts.drop 1)) then
    take
    let _ ← inside .brace .fieldBlock
    return .verbatim
  else splice (.type true)

/-- Fields in place of a type. -/
def fieldBlockProgram : Program Shape := splice (.terminated (.field true))

/-- A case of an enumeration. -/
def variantProgram : Program Shape := do
  let _ ← splice (.attributes false)
  let _ ← splice .visibility
  expectIdent
  let ts ← ahead
  if isBrace ts then
    let _ ← within (.terminated (.field true))
  else if isParenthesis ts then
    let _ ← within (.terminated (.field false))
  if ← optional "=" then
    let _ ← call (.expression true)
  return .plain

/-! ## Parameters and conditions -/

/-- The parameters of an item. -/
def genericsProgram : Program Shape := do
  if isPunct "<" (← ahead) then
    take
    let _ ← splice .genericList
    expect ">"
  return .plain

/-- Parameters up to the closing bracket. -/
def genericListProgram : Program Shape := do
  if isPunct ">" (← ahead) then return .plain
  let _ ← call .generic
  if isPunct ">" (← ahead) then return .plain
  expect ","
  splice .genericList

/-- One parameter: a lifetime, a constant or a type, with its bounds and its default. -/
def genericProgram : Program Shape := do
  let _ ← call (.attributes false)
  let ts ← ahead
  if isLifetime ts then
    take
    if ← optional ":" then call .lifetimeBounds else return .plain
  else if isWord "const" ts then
    take
    expectIdent
    expect ":"
    let _ ← call (.type true)
    if ← optional "=" then call .constArgument else return .plain
  else if isWord "_" ts then
    take
    return .plain
  else
    expectIdent
    if ← optional ":" then
      let _ ← call .typeBounds
    if ← optional "=" then
      let _ ← call (.type true)
    return .plain

/-- Lifetimes joined by plus signs, up to what ends a parameter. -/
def lifetimeBoundsProgram : Program Shape := do
  let ts ← ahead
  if ts.isEmpty || isPunct "," ts || isPunct ">" ts then return .plain
  takeIf isLifetime
  if ← optional "+" then splice .lifetimeBounds else return .plain

/-- Bounds joined by plus signs, up to what ends a parameter. -/
def typeBoundsProgram : Program Shape := do
  let ts ← ahead
  if ts.isEmpty || isOperatorOf [",", ">", "="] ts then return .plain
  let _ ← call (.bound false true)
  if ← optional "+" then splice .typeBounds else return .plain

/-- What ends a list of conditions or of bounds. -/
def endsCondition (ts : List Tree) : Bool :=
  ts.isEmpty || isBrace ts || isPunct "," ts || isPunct ";" ts || isColon ts || isPunct "=" ts

/-- The conditions on parameters. -/
def whereClauseProgram : Program Shape := do
  if ← optionalWord "where" then splice .predicates else return .plain

/-- Conditions separated by commas. -/
def predicatesProgram : Program Shape := do
  if endsCondition (← ahead) then return .plain
  let _ ← call .predicate
  if ← optional "," then splice .predicates else return .plain

/-- One condition on a lifetime or a type. -/
def predicateProgram : Program Shape := do
  let ts ← ahead
  if isLifetime ts && isPunct ":" (ts.drop 1) then
    takeMany 2
    splice .predicateLifetimes
  else
    if isWord "for" ts then
      let _ ← call .binder
    let _ ← call (.type true)
    expect ":"
    splice .predicateBounds

/-- Lifetimes joined by plus signs, up to what ends a condition. -/
def predicateLifetimesProgram : Program Shape := do
  let ts ← ahead
  if endsCondition ts || isPunct ":" ts then return .plain
  takeIf isLifetime
  if ← optional "+" then splice .predicateLifetimes else return .plain

/-- Bounds joined by plus signs, up to what ends a condition. -/
def predicateBoundsProgram : Program Shape := do
  if endsCondition (← ahead) then return .plain
  let _ ← call (.bound false true)
  if ← optional "+" then splice .predicateBounds else return .plain

end Accessors.Grammar
