import Accessors.Grammar.Path

/-!
# Types

* `typeProgram`: a type of any form; a sum of bounds only where `plus` allows one.
* `boundProgram`: one bound of a type.
* `binderProgram`: the lifetimes that a type or a bound is for.
* `functionTypeProgram`: the type of a function pointer.
-/

namespace Accessors.Grammar

open Accessors.Token

/-- Words that begin a path. -/
def pathBeginnings : List String := ["super", "self", "Self", "crate"]

/-- Words that begin the type of a function pointer. -/
def functionBeginnings : List String := ["fn", "unsafe", "extern"]

/-- A type. -/
def typeProgram (plus : Bool) : Program Shape := do
  let bound := isWord "for" (← ahead)
  if bound then
    let _ ← call .binder
  let ts ← ahead
  let isFunction := isOneOf functionBeginnings ts
  let isPath := isIdent ts || isOneOf pathBeginnings ts
  if isFunction then splice .functionType
  else if isPath then splice (.namedType bound plus)
  else if bound then refuse
  else if isParenthesis ts then splice (.parenthesisType plus)
  else if isPunct "::" ts || isPunct "<" ts then splice (.namedType false plus)
  else if isWord "dyn" ts then
    take
    let starred ← optional "*"
    let _ ← splice (.objectBounds plus)
    return if starred then .verbatim else .plain
  else if isBracket ts then
    let _ ← within .sequenceType
    return .plain
  else if isPunct "*" ts then
    take
    takeIf (isOneOf ["const", "mut"])
    let _ ← call (.type false)
    return .plain
  else if isPunct "&" ts then
    take
    if isLifetime (← ahead) then take
    let _ ← optionalWord "mut"
    let _ ← call (.type false)
    return .plain
  else if isPunct "!" ts || isWord "_" ts then
    take
    return .plain
  else if isWord "impl" ts then
    take
    match ← splice (.boundList plus true true false false) with
    | .bounds true _ => return .plain
    | _ => refuse
  else if isLifetime ts then splice (.objectBounds true)
  else refuse

/-- The element type of a slice, or of an array with its length. -/
def sequenceTypeProgram : Program Shape := do
  let _ ← call (.type true)
  if ← optional ";" then
    let _ ← call (.expression true)
  return .plain

/-- A type that begins with a path: the path's type, an invocation, or a sum of bounds. -/
def namedTypeProgram (bound plus : Bool) : Program Shape := do
  match ← splice (.qualifiedPath false) with
  | .path s =>
    match ← splice (.callArguments s) with
    | .path s =>
      let ts ← ahead
      if s.qualified then return .path s
      else if isBang ts && s.bare then
        take
        takeIf isAnyGroup
        return .plain
      else if plus && isPunct "+" ts then splice (.moreBounds false)
      else if bound then return .object true
      else return .path s
    | _ => refuse
  | _ => refuse

/-- A bound comes next. -/
def facesBound (ts : List Tree) : Bool :=
  isAnyIdent ts || isPunct "::" ts || isPunct "?" ts || isLifetime ts || isParenthesis ts

/-- Bounds behind a first one; the last plus may stand alone. -/
def moreBoundsProgram (joined : Bool) : Program Shape := do
  if ← optional "+" then
    if facesBound (← ahead) then
      let _ ← call (.bound false false)
      splice (.moreBounds true)
    else return .object false
  else return .object (!joined)

/-- Bounds behind one in parentheses; a bound follows every plus. -/
def boundTailProgram : Program Shape := do
  if ← optional "+" then
    let _ ← call (.bound false false)
    splice .boundTail
  else return .object false

/-- A type in parentheses, a tuple, or a sum that begins with a bound in parentheses. -/
def parenthesisTypeProgram (plus : Bool) : Program Shape := do
  let body := groupBody (← ahead)
  if body.isEmpty then
    take
    return .plain
  if isLifetime body then
    let _ ← within (.objectBounds true)
    return .parenthesized
  if isPunct "?" body then
    let _ ← within (.traitBound false)
    splice .boundTail
  else
    match ← within .parenthesisBody with
    | .parenthesisBody true _ => return .plain
    | .parenthesisBody false true =>
      if plus && isPunct "+" (← ahead) then splice .boundTail else return .parenthesized
    | _ => return .parenthesized

/-- A type of this shape can be a bound once it is in parentheses. -/
def Shape.isBoundable : Shape → Bool
  | .path s => !s.qualified
  | .object single => single
  | _ => false

/-- One type, or the types of a tuple. -/
def parenthesisBodyProgram : Program Shape := do
  let s ← call (.type true)
  if ← optional "," then
    let _ ← splice (.terminated (.type true))
    return .parenthesisBody true false
  else return .parenthesisBody false s.isBoundable

/-! ## Bounds -/

/-- The bounds of a trait object: at least one of them is a trait. -/
def objectBoundsProgram (plus : Bool) : Program Shape := do
  match ← splice (.boundList plus false false false false) with
  | .bounds true joined => return .object (!joined)
  | _ => refuse

/-- Bounds joined by plus signs, the last of which may stand alone. -/
def boundListProgram (plus captures const hasTrait joined : Bool) : Program Shape := do
  let s ← call (.bound captures const)
  let hasTrait := hasTrait || s == .trait
  if plus && isPunct "+" (← ahead) then
    take
    let ts ← ahead
    if facesBound ts || const && isBracket ts then
      splice (.boundList plus captures const hasTrait true)
    else return .bounds hasTrait true
  else return .bounds hasTrait joined

/-- One bound: a lifetime, a list of captured names, or a trait, perhaps in parentheses. -/
def boundProgram (captures const : Bool) : Program Shape := do
  let ts ← ahead
  if isLifetime ts then
    take
    return .lifetime
  if isWord "use" ts then
    if captures then splice .capture else refuse
  else if isParenthesis ts then
    let _ ← within (.traitBound const)
    return .trait
  else splice (.traitBound const)

/-- A trait as a bound, perhaps for all lifetimes, constant, or relaxed. -/
def traitBoundProgram (const : Bool) : Program Shape := do
  let bound := isWord "for" (← ahead)
  if bound then
    let _ ← call .binder
  let ts ← ahead
  if isBracket ts then
    if !const then refuse
    let _ ← within .constWord
  else if isWord "const" ts then
    if const then take else refuse
  let relaxed ← optional "?"
  if relaxed && (bound || isWord "for" (← ahead)) then refuse
  match ← splice (.path false) with
  | .path s =>
    if s.callable && isParenthesis (← ahead) then
      let _ ← splice .signature
    return .trait
  | _ => refuse

/-- The word that makes a bound constant. -/
def constWordProgram : Program Shape := do
  expectWord "const"
  return .plain

/-- A list of captured names. -/
def captureProgram : Program Shape := do
  expectWord "use"
  expect "<"
  let _ ← call .captureList
  expect ">"
  return .plain

/-- Captured names up to the closing bracket. -/
def captureListProgram : Program Shape := do
  if isPunct ">" (← ahead) then return .arguments
  let _ ← call .captureItem
  if isPunct ">" (← ahead) then return .arguments
  expect ","
  splice .captureList

/-- A captured lifetime or parameter. -/
def captureItemProgram : Program Shape := do
  let ts ← ahead
  if isLifetime ts then
    take
    return .lifetime
  takeIf fun ts => isIdent ts || isWord "Self" ts
  return .plain

/-- The lifetimes that something is for. -/
def binderProgram : Program Shape := do
  expectWord "for"
  expect "<"
  let _ ← splice .binderList
  expect ">"
  return .plain

/-- Lifetimes up to the closing bracket. -/
def binderListProgram : Program Shape := do
  if isPunct ">" (← ahead) then return .plain
  let _ ← splice (.attributes false)
  takeIf isLifetime
  if isPunct ">" (← ahead) then return .plain
  expect ","
  splice .binderList

/-! ## Function pointers -/

/-- The type of a function pointer, without the lifetimes it is for. -/
def functionTypeProgram : Program Shape := do
  let _ ← optionalWord "unsafe"
  if ← optionalWord "extern" then
    if isStringLiteral (← ahead) then take
  expectWord "fn"
  let _ ← inside .parenthesis (.functionArguments true)
  if ← optional "->" then
    let _ ← call (.type false)
  return .plain

/-- A name and a colon come next. -/
def facesName (words : List String) (ts : List Tree) : Bool :=
  (isIdent ts || isOneOf words ts) && isColon (ts.drop 1)

/-- Three dots come next, perhaps behind a name. -/
def facesVariadic (ts : List Tree) : Bool :=
  isPunct "..." ts ||
    (isIdent ts || isWord "_" ts) && isPunct ":" (ts.drop 1) && isPunct "..." (ts.drop 2)

/-- The arguments of a function pointer; three dots can only be the last of them. -/
def functionArgumentsProgram (first : Bool) : Program Shape := do
  if (← ahead).isEmpty then return .plain
  let _ ← splice (.attributes false)
  let ts ← ahead
  if facesVariadic ts then
    if isAnyIdent ts then takeMany 2
    expect "..."
    let _ ← optional ","
    return .plain
  let _ ← call (.functionArgument first)
  if (← ahead).isEmpty then return .plain
  expect ","
  splice (.functionArguments false)

/-- One argument of a function pointer: a type, perhaps with a name. The first can be the value
that a method is called on. -/
def functionArgumentProgram (first : Bool) : Program Shape := do
  let ts ← ahead
  if first && isWord "mut" ts && isWord "self" (ts.drop 1) then
    takeMany 2
    if isColon (← ahead) then
      take
      let _ ← call (.type true)
    return .verbatim
  if facesName (if first then ["_", "self"] else ["_"]) ts then takeMany 2
  let ts ← ahead
  if first && isWord "mut" ts && isWord "self" (ts.drop 1) then
    takeMany 2
    return .verbatim
  let _ ← call (.type true)
  return .plain

end Accessors.Grammar
