import Accessors.Grammar.Attribute
import Accessors.Grammar.Expression

/-!
# Blocks and statements

Blocks stand in a declaration only as parts of constants: the length of an array, an argument, a
default, a discriminant. Of the items that the language has in a block, modules, traits,
implementations, foreign blocks and macro definitions are not recognised, and functions take no `self`:
a text with one of these is refused.

* `blockProgram`: statements in braces.
* `statementProgram`: one statement: a binding, an item, an invocation or an expression.
* `itemProgram`: an item inside a block.
-/

namespace Accessors.Grammar

open Accessors.Token

/-- Statements in braces; `inner` allows attributes of the block at their head. -/
def blockProgram (inner : Bool) : Program Shape := do
  let _ ← inside .brace (.blockBody inner)
  return .blockLike

/-- The inside of a block. -/
def blockBodyProgram (inner : Bool) : Program Shape := do
  if inner then
    let _ ← splice .innerAttributes
  splice .statements

/-- Statements up to the end. Only the last can do without the semicolon that it needs elsewhere. -/
def statementsProgram : Program Shape := do
  let ts ← ahead
  if ts.isEmpty then return .plain
  if isPunct ";" ts then
    take
    splice .statements
  else
    let s ← call .statement
    if s == .statement true || (← ahead).isEmpty then splice .statements else refuse

/-- The number of trees of the path without arguments in front, zero if there is none. -/
def modulePathSize (ts : List Tree) : Nat :=
  let rooted := if isPunct "::" ts then 2 else 0
  match segments (ts.drop rooted) with
  | 0 => 0
  | n => rooted + n
where
  /-- The number of trees of the segments in front, zero if a name is missing. -/
  segments : List Tree → Nat
    | t :: colon :: second :: rest =>
      if isIdent [t] || isOneOf moduleWords [t] then
        if isPunct "::" [colon, second] then
          match segments rest with
          | 0 => 0
          | n => n + 3
        else 1
      else 0
    | t :: _ => if isIdent [t] || isOneOf moduleWords [t] then 1 else 0
    | [] => 0

/-- An invocation with a name behind it comes next, which is an item. -/
def facesNamedInvocation (ts : List Tree) : Bool :=
  let size := modulePathSize ts
  let rest := ts.drop size
  0 < size && isPunct "!" rest && (isIdent (rest.drop 1) || isWord "try" (rest.drop 1))

/-- An invocation in braces comes next that is a statement by itself. -/
def facesBracedInvocation (ts : List Tree) : Bool :=
  let size := modulePathSize ts
  let rest := ts.drop size
  let behind := rest.drop 2
  0 < size && isPunct "!" rest && isBrace (rest.drop 1) &&
    !(isDot behind || isPunct "?" behind)

/-- An item comes next. -/
def facesItem (ts : List Tree) : Bool :=
  let second := ts.drop 1
  let third := ts.drop 2
  isWord "pub" ts || isWord "crate" ts && !isPunct "::" second ||
    isOneOf ["extern", "use", "fn", "mod", "type", "struct", "enum", "trait", "impl", "macro"] ts ||
    isWord "static" ts && (isWord "mut" second || isIdent second) ||
    isWord "const" ts && !(isBrace second || isWord "static" second ||
      isWord "async" second && !isOneOf ["unsafe", "extern", "fn"] third ||
      isWord "move" second || isPunct "|" second) ||
    isWord "unsafe" ts && !isBrace second ||
    isWord "async" ts && isOneOf ["unsafe", "extern", "fn"] second ||
    isWord "union" ts && isIdent second || isWord "auto" ts && isWord "trait" second ||
    isWord "default" ts && isOneOf ["unsafe", "impl"] second || facesNamedInvocation ts

/-- One statement. -/
def statementProgram : Program Shape := do
  let _ ← splice (.attributes false)
  let ts ← ahead
  if facesBracedInvocation ts then
    takeMany (modulePathSize ts + 2)
    let _ ← optional ";"
    return .statement true
  else if isWord "let" ts then splice .binding
  else if facesItem ts then
    let _ ← splice .item
    return .statement true
  else
    let s ← call .statementExpression
    let ended ← optional ";"
    return .statement (ended || s == .blockLike || s == .bracedInvocation)

/-- A binding, with what happens when its pattern does not fit. A value that ends in a brace
leaves no room for that. -/
def bindingProgram : Program Shape := do
  expectWord "let"
  let _ ← call .pattern
  if ← optional ":" then
    let _ ← call (.type true)
  if ← optional "=" then
    let ts ← ahead
    let _ ← call (.expression true)
    let rest ← ahead
    let braced := isBrace (ts.drop (ts.length - rest.length - 1))
    if !braced && isWord "else" rest then
      take
      let _ ← splice (.block false)
  expect ";"
  return .statement true

/-! ## Items inside blocks -/

/-- An item: a constant, a function, a type or an import. -/
def itemProgram : Program Shape := do
  let _ ← splice .visibility
  let ts ← ahead
  let second := ts.drop 1
  if facesNamedInvocation ts then
    takeMany (modulePathSize ts + 2)
    let braced := isBrace (← ahead)
    takeIf isAnyGroup
    if braced then
      let _ ← optional ";"
    else expect ";"
    return .plain
  else if isWord "use" ts then
    take
    let _ ← optional "::"
    let _ ← call .useTree
    expect ";"
    return .plain
  else if isWord "static" ts || isWord "const" ts && (isIdent second || isWord "_" second) then
    take
    let _ ← optionalWord "mut"
    takeIf fun ts => isIdent ts || isWord "_" ts
    expect ":"
    let _ ← call (.type true)
    if ← optional "=" then
      let _ ← call (.expression true)
    expect ";"
    return .plain
  else if isWord "type" ts then
    take
    expectIdent
    let _ ← splice .generics
    let _ ← splice .whereClause
    expect "="
    let _ ← call (.type true)
    let _ ← splice .whereClause
    expect ";"
    return .plain
  else if isOneOf ["struct", "enum", "union"] ts then splice .declaration
  else splice .function

/-- A function with its body. -/
def functionProgram : Program Shape := do
  let _ ← optionalWord "const"
  let _ ← optionalWord "async"
  let _ ← optionalWord "unsafe"
  if ← optionalWord "extern" then
    if isStringLiteral (← ahead) then take
  expectWord "fn"
  expectIdent
  let _ ← splice .generics
  let _ ← inside .parenthesis (.terminated .parameter)
  if ← optional "->" then
    let _ ← call (.type true)
  let _ ← splice .whereClause
  splice (.block true)

/-- A parameter of a function. -/
def parameterProgram : Program Shape := do
  let _ ← splice (.attributes false)
  let _ ← call .pattern
  expect ":"
  let _ ← call (.type true)
  return .plain

/-- What an import names. -/
def useTreeProgram : Program Shape := do
  let ts ← ahead
  if isPunct "*" ts then
    take
    return .plain
  else if isBrace ts then
    let _ ← within (.terminated .useTree)
    return .plain
  else
    takeIf fun ts => isIdent ts || isOneOf (pathWords ++ ["Self"]) ts
    if ← optional "::" then splice .useTree
    else if ← optionalWord "as" then
      takeIf fun ts => isIdent ts || isWord "_" ts
      return .plain
    else return .plain

end Accessors.Grammar
