import Accessors.Grammar.Pattern
import Accessors.Text.Digit
import Accessors.Text.Slice

/-!
# Expressions

Operators are read by precedence. Where a block would follow an expression, the expression cannot
be a literal of a structure at its top; `literals` says whether it can.

* `expressionProgram`: an expression.
* `operatorsProgram`: operators and operands behind a left operand.
* `atomProgram`, `trailersProgram`: an operand without its signs.
* `statementExpressionProgram`: an expression where a statement begins.
-/

namespace Accessors.Grammar

open Accessors.Text Accessors.Token

/-! ## Operators -/

/-- The operators with two operands, longer ones before their beginnings. -/
def binaryOperators : List (String × Precedence) :=
  [("<<=", .assign), (">>=", .assign), ("+=", .assign), ("-=", .assign), ("*=", .assign),
    ("/=", .assign), ("%=", .assign), ("^=", .assign), ("&=", .assign), ("|=", .assign),
    ("&&", .both), ("||", .either), ("<<", .shift), (">>", .shift), ("==", .compare),
    ("<=", .compare), ("!=", .compare), (">=", .compare), ("+", .sum), ("-", .sum),
    ("*", .product), ("/", .product), ("%", .product), ("^", .bitXor), ("&", .bitAnd),
    ("|", .bitOr), ("<", .compare), (">", .compare)]

/-- The operator that comes next. -/
def binaryOperator? (ts : List Tree) : Option (String × Precedence) :=
  binaryOperators.find? fun o => isPunct o.1 ts

/-- The precedence of what comes next, as an operator of any kind. -/
def nextPrecedence (ts : List Tree) : Precedence :=
  match binaryOperator? ts with
  | some o => o.2
  | none =>
    if isEquals ts then .assign
    else if isPunct ".." ts then .range
    else if isWord "as" ts then .cast
    else .least

/-- An expression. -/
def expressionProgram (literals : Bool) : Program Shape := do
  let s ← splice (.unary literals)
  splice (.operators literals .least s)

/-- The operators behind an operand of shape `left` that bind at least as tightly as `base`. A
range is no left operand, and comparisons do not follow one another. -/
def operatorsProgram (literals : Bool) (base : Precedence) (left : Shape) : Program Shape := do
  if left == .rangeExpression then return left
  let ts ← ahead
  match binaryOperator? ts with
  | some (operator, precedence) =>
    if precedence < base then return left
    else if precedence == .compare && left == .comparison then refuse
    else
      expect operator
      let _ ← call (.operand literals precedence)
      splice (.operators literals base
        (if precedence == .compare then .comparison else .plain))
  | none =>
    if base ≤ .assign && isEquals ts then
      take
      let _ ← call (.operand literals .assign)
      splice (.operators literals base .plain)
    else if base ≤ .range && isPunct ".." ts then
      let _ ← splice (.range literals)
      return .rangeExpression
    else if base ≤ .cast && isWord "as" ts then
      take
      let _ ← call (.type false)
      let ts ← ahead
      if isDot ts || isPunct "?" ts || isBracket ts || isParenthesis ts then refuse
      splice (.operators literals base .plain)
    else return left

/-- The right operand of an operator. -/
def operandProgram (literals : Bool) (operator : Precedence) : Program Shape := do
  let s ← splice (.unary literals)
  splice (.operandRest literals operator s)

/-- The tighter operators behind the beginning of a right operand; assignments group to the
right. -/
def operandRestProgram (literals : Bool) (operator : Precedence) (left : Shape) :
    Program Shape := do
  let ts ← ahead
  let next := nextPrecedence ts
  if operator < next || next == operator && operator == .assign then
    let s ← splice (.operators literals next left)
    if (← ahead).length == ts.length then return s
    else splice (.operandRest literals operator s)
  else return left

/-- The end of a range is missing. -/
def endsOpenRange (literals : Bool) (ts : List Tree) : Bool :=
  ts.isEmpty || isDot ts || !literals && isBrace ts || isWord "as" ts ||
    isOperatorOf [",", ";", "?", "=>", "=", "+", "/", "%", "^", ">", "<=", "!=", "-=", "*=", "&=",
      "|=", "<<="] ts

/-- The dots of a range and its end; only two dots can do without an end. -/
def rangeProgram (literals : Bool) : Program Shape := do
  let ts ← ahead
  if isPunct "..." ts then refuse
  let closed := isPunct "..=" ts
  if closed then takeMany 3 else expect ".."
  if !closed && endsOpenRange literals (← ahead) then return .rangeExpression
  let _ ← call (.operand literals .range)
  return .rangeExpression

/-- An operand with its attributes and signs. -/
def unaryProgram (literals : Bool) : Program Shape := do
  let attributes ← splice (.attributes false)
  let ts ← ahead
  if isPunct "&" ts then
    take
    let ts ← ahead
    if isWord "raw" ts && isOneOf ["mut", "const"] (ts.drop 1) then takeMany 2
    else
      let _ ← optionalWord "mut"
    let _ ← call (.unary literals)
    return .plain
  else if isOperatorOf ["*", "!", "-"] ts then
    take
    let _ ← call (.unary literals)
    return .plain
  else
    let s ← splice (.atom literals)
    let s ← splice (.trailers s)
    if s == .rangeExpression && attributes == .attributes true then refuse
    return s

/-! ## Operands -/

/-- A function literal comes next. -/
def facesClosure (ts : List Tree) : Bool :=
  let second := ts.drop 1
  isPunct "|" ts || isWord "move" ts ||
    isWord "for" ts && isPunct "<" second &&
      (isLifetime (second.drop 1) || isPunct ">" (second.drop 1)) ||
    isWord "const" ts && !isBrace second || isWord "static" ts ||
    isWord "async" ts && (isPunct "|" second || isWord "move" second)

/-- A block that runs later comes next. -/
def facesAsyncBlock (ts : List Tree) : Bool :=
  let second := ts.drop 1
  isWord "async" ts && (isBrace second || isWord "move" second && isBrace (second.drop 1))

/-- An expression can begin here. -/
def beginsExpression (ts : List Tree) : Bool :=
  isAnyIdent ts || isAnyGroup ts || isLiteral ts || isBang ts ||
    isPunct "-" ts && !isPunct "-=" ts && !isPunct "->" ts ||
    isPunct "*" ts && !isPunct "*=" ts || isPunct "|" ts && !isPunct "|=" ts ||
    isPunct "&" ts && !isPunct "&=" ts || isPunct ".." ts ||
    isPunct "<" ts && !isPunct "<=" ts && !isPunct "<<=" ts || isPunct "::" ts ||
    isLifetime ts || isPunct "#" ts

/-- A path, an invocation, or a literal of a structure. -/
def pathExpressionProgram (literals : Bool) : Program Shape := do
  match ← splice (.qualifiedPath true) with
  | .path s =>
    let ts ← ahead
    if isBang ts && !s.qualified && s.bare then
      take
      let braced := isBrace (← ahead)
      takeIf isAnyGroup
      return if braced then .bracedInvocation else .plain
    else if literals && isBrace ts then
      let _ ← within .fieldValues
      return .plain
    else return .plain
  | _ => refuse

/-- The value that leaves a loop or a function, if there is one. -/
def optionalValue (literals : Bool) : Program Shape := do
  let ts ← ahead
  if beginsExpression ts && (literals || !isBrace ts) then
    let _ ← call (.expression true)
  return .plain

/-- An operand without signs. -/
def atomProgram (literals : Bool) : Program Shape := do
  let ts ← ahead
  let second := ts.drop 1
  if isLiteral ts then
    takeMany (literalSize ts)
    return .plain
  else if facesAsyncBlock ts then
    take
    let _ ← optionalWord "move"
    let _ ← splice (.block false)
    return .plain
  else if isWord "try" ts && isBrace second then
    take
    splice (.block false)
  else if facesClosure ts then splice (.closure literals)
  else if isIdent ts || isPunct "::" ts || isPunct "<" ts || isOneOf pathBeginnings ts ||
      isWord "try" ts && (isPunct "!" second || isPunct "::" second) then
    splice (.pathExpression literals)
  else if isParenthesis ts then
    let _ ← within .parenthesisExpression
    return .plain
  else if isWord "break" ts then
    take
    let ts ← ahead
    if isLifetime ts then
      if isPunct ":" (ts.drop 1) then refuse
      take
    optionalValue literals
  else if isWord "continue" ts then
    take
    if isLifetime (← ahead) then take
    return .plain
  else if isWord "return" ts || isWord "yield" ts then
    take
    optionalValue true
  else if isWord "become" ts then
    take
    let _ ← call (.expression true)
    return .plain
  else if isBracket ts then
    let _ ← within .sequenceExpression
    return .plain
  else if isWord "let" ts then
    take
    let _ ← call .alternatives
    expect "="
    let s ← splice (.unary literals)
    let _ ← splice (.operators literals .compare s)
    return .plain
  else if isOneOf ["if", "while", "for", "loop", "match", "unsafe", "const"] ts || isBrace ts ||
      isLifetime ts then
    splice .blockExpression
  else if isPunct ".." ts then splice (.range literals)
  else if isWord "_" ts then
    take
    return .plain
  else refuse

/-- An expression that ends with its own block. -/
def blockExpressionProgram : Program Shape := do
  let ts ← ahead
  if isWord "if" ts then splice .conditional
  else if isWord "while" ts then
    take
    let _ ← call (.expression false)
    splice (.block true)
  else if isWord "for" ts then
    take
    let _ ← call .alternatives
    expectWord "in"
    let _ ← call (.expression false)
    splice (.block true)
  else if isOneOf ["loop", "unsafe", "const"] ts then
    take
    splice (.block true)
  else if isWord "match" ts then
    take
    let _ ← call (.expression false)
    let _ ← inside .brace .arms
    return .blockLike
  else if isLifetime ts then
    take
    expect ":"
    let ts ← ahead
    if isOneOf ["while", "for", "loop"] ts || isBrace ts then splice .blockExpression else refuse
  else splice (.block true)

/-- A condition with its block, and what else there is. -/
def conditionalProgram : Program Shape := do
  expectWord "if"
  let _ ← call (.expression false)
  let _ ← splice (.block false)
  if ← optionalWord "else" then
    if isWord "if" (← ahead) then splice .conditional else splice (.block false)
  else return .blockLike

/-- The cases of a choice. A comma follows each one that does not end with its own block, except
the last. -/
def armsProgram : Program Shape := do
  if (← ahead).isEmpty then return .plain
  let _ ← splice (.attributes false)
  let _ ← call .alternatives
  if ← optionalWord "if" then
    let _ ← call (.expression true)
  expect "=>"
  let body ← call .statementExpression
  if body == .blockLike || (← ahead).isEmpty then
    let _ ← optional ","
  else expect ","
  splice .arms

/-- A function literal. -/
def closureProgram (literals : Bool) : Program Shape := do
  if isWord "for" (← ahead) then
    let _ ← call .binder
  let _ ← optionalWord "const"
  let _ ← optionalWord "static"
  let _ ← optionalWord "async"
  let _ ← optionalWord "move"
  expect "|"
  let _ ← splice .closureArguments
  expect "|"
  if ← optional "->" then
    let _ ← call (.type true)
    let _ ← splice (.block false)
    return .plain
  else
    let _ ← call (.expression literals)
    return .plain

/-- The arguments of a function literal. -/
def closureArgumentsProgram : Program Shape := do
  if isPunct "|" (← ahead) then return .plain
  let _ ← splice (.attributes false)
  let _ ← call .pattern
  if ← optional ":" then
    let _ ← call (.type true)
  if isPunct "|" (← ahead) then return .plain
  expect ","
  splice .closureArguments

/-- The position that a whole number writes, in any base and with underscores. -/
def positionValue? (cs : List Char) : Option Nat :=
  let plain := cs.filter (· != '_')
  let value := match cs with
    | '_' :: _ => none
    | '0' :: 'x' :: _ => basedValue? 16 (plain.drop 2)
    | '0' :: 'o' :: _ => basedValue? 8 (plain.drop 2)
    | '0' :: 'b' :: _ => basedValue? 2 (plain.drop 2)
    | _ => decimal? plain
  value.filter (· < 0x100000000)

/-- The literal in front is a position, or several with dots between and perhaps behind them. -/
def positions? : List Tree → Option (List (List Char))
  | .leaf (.literal text) :: _ =>
    let parts := splitOn '.' text.toList
    let spoken := if parts.getLast? == some [] then parts.dropLast else parts
    if !spoken.isEmpty && spoken.all (fun p => (positionValue? p).isSome) then some parts else none
  | _ => none

/-- A position in a tuple. -/
def positionProgram : Program Shape := do
  match positions? (← ahead) with
  | some [_] =>
    take
    return .position
  | _ => refuse

/-- What stands behind an operand: calls, members, indices and question marks. -/
def trailersProgram (left : Shape) : Program Shape := do
  let ts ← ahead
  let ranged := left == .rangeExpression
  if isParenthesis ts then
    let _ ← within (.terminated (.expression true))
    splice (.trailers .plain)
  else if isDot ts && !ranged then
    take
    splice .member
  else if isBracket ts then
    let _ ← within (.expression true)
    splice (.trailers .plain)
  else if isPunct "?" ts && !ranged then
    take
    splice (.trailers .plain)
  else return left

/-- A member behind its dot, with the arguments of a method. -/
def memberProgram : Program Shape := do
  let ts ← ahead
  match positions? ts with
  | some parts =>
    let _ ← call .positions
    if parts.getLast? == some [] then splice .member else splice (.trailers .plain)
  | none =>
    if isWord "await" ts then
      take
      splice (.trailers .plain)
    else
      expectIdent
      if ← optional "::" then
        let _ ← splice .angleArguments
        if !isParenthesis (← ahead) then refuse
      splice (.trailers .plain)

/-- Positions in tuples within tuples, written as one number. -/
def positionsProgram : Program Shape := do
  take
  return .position

/-- The fields of a literal of a structure, and perhaps a value for the rest. -/
def fieldValuesProgram : Program Shape := do
  if (← ahead).isEmpty then return .plain
  if ← optional ".." then
    if (← ahead).isEmpty then return .plain
    let _ ← call (.expression true)
    return .plain
  let _ ← splice (.attributes false)
  let named := isIdent (← ahead)
  if named then take
  else
    let _ ← call .position
  if !named || isPunct ":" (← ahead) then
    expect ":"
    let _ ← call (.expression true)
  if (← ahead).isEmpty then return .plain
  expect ","
  splice .fieldValues

/-- The elements of an array, or one element and a length. -/
def sequenceExpressionProgram : Program Shape := do
  if (← ahead).isEmpty then return .plain
  let _ ← call (.expression true)
  if ← optional ";" then
    let _ ← call (.expression true)
    return .plain
  if (← ahead).isEmpty then return .plain
  expect ","
  splice (.terminated (.expression true))

/-- An expression in parentheses, or the elements of a tuple. -/
def parenthesisExpressionProgram : Program Shape := do
  let _ ← splice (.terminated (.expression true))
  return .plain

/-- An expression where a statement begins. One that ends with its own block is complete there,
unless a member or a question mark follows. -/
def statementExpressionProgram : Program Shape := do
  let _ ← splice (.attributes false)
  let ts ← ahead
  let second := ts.drop 1
  let forLifetimes := isPunct "<" second &&
    (isLifetime (second.drop 1) || isPunct ">" (second.drop 1))
  let ownBlock := isOneOf ["if", "while", "loop", "match", "unsafe"] ts ||
    isWord "for" ts && !forLifetimes || isWord "const" ts && isBrace second || isBrace ts ||
    isLifetime ts
  let s ← splice (if ownBlock then .blockExpression
    else if isWord "try" ts && isBrace second then .atom true else .unary true)
  if s != .blockLike then splice (.operators true .least s)
  else
    let ts ← ahead
    if isDot ts || isPunct "?" ts then
      let s ← splice (.trailers .plain)
      splice (.operators true .least s)
    else return .blockLike

end Accessors.Grammar
