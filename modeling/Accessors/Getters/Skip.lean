import Accessors.Declaration.Basic

/-!
# Fields without a getter

A field is left out if one of its `getter` attributes says so. The inside of such an attribute is
empty, or says `skip` any number of times, separated by commas, with an optional last one.

* `checkSkips`: the first fault inside such an attribute, if there is one.
* `isSkipped`: whether a field is left out, or the first fault in its attributes.
-/

namespace Accessors.Getters

open Accessors.Token
open Accessors.Grammar
open Accessors.Declaration

/-- What is wrong with a `getter` attribute. -/
inductive SkipError where
  /-- It has nothing behind its path. -/
  | noArguments
  /-- It is given a value. -/
  | hasValue
  /-- An item is a literal. -/
  | literal
  /-- An item does not begin as a path. -/
  | notPath
  /-- An item is a path other than the one that is known. -/
  | unknown
  /-- Something other than a comma follows an item. -/
  | noComma
  /-- A path goes on with something that is no name. -/
  | noName
  /-- A path ends before its first name. -/
  | endsBeforePath
  /-- A path ends behind a separator. -/
  | endsInPath
  deriving DecidableEq, Repr

/-- The fault in words. -/
def SkipError.message : SkipError → String
  | noArguments => "expected attribute arguments in parentheses: #[getter(...)]"
  | hasValue => "expected parentheses: #[getter(...)]"
  | literal => "unexpected literal in nested attribute, expected ident"
  | notPath => "unexpected token in nested attribute, expected ident"
  | unknown => "unsupported getter attribute, expected `skip`"
  | noComma => "expected `,`"
  | noName => "expected ident"
  | endsBeforePath => "unexpected end of input, expected nested attribute"
  | endsInPath => "unexpected end of input, expected ident"

/-- The fault in what follows the first name of an item that is not known. -/
def pathFault : List Tree → SkipError
  | a :: b :: name :: rest =>
    if isPunct "::" [a, b] then if isAnyIdent [name] then pathFault rest else .noName
    else .unknown
  | [a, b] => if isPunct "::" [a, b] then .endsInPath else .unknown
  | _ => .unknown

/-- The fault in an item that is not known. -/
def itemFault (ts : List Tree) : SkipError :=
  let body := if isPunct "::" ts then ts.drop 2 else ts
  if isAnyIdent body then pathFault (body.drop 1)
  else if body.isEmpty then .endsBeforePath
  else if isLiteral body then .literal
  else .notPath

/-- Checks the inside of an attribute, up to the first item that does not fit. -/
def checkSkips : List Tree → Except SkipError Unit
  | [] => .ok ()
  | t :: rest =>
    if isWord "skip" [t] && !isPunct "::" rest then
      match rest with
      | [] => .ok ()
      | comma :: rest => if isPunct "," [comma] then checkSkips rest else .error .noComma
    else .error (itemFault (t :: rest))

/-- Whether one `getter` attribute leaves its field out. -/
def inputSkips : AttributeInput → Except SkipError Bool
  | .nothing => .error .noArguments
  | .value _ => .error .hasValue
  | .group _ body => (checkSkips body).map fun _ => !body.isEmpty

/-- Whether a series of attributes leaves their field out. Attributes of other names say nothing;
all others are checked, in order. -/
def attributesSkip : List Attribute → Except SkipError Bool
  | [] => .ok false
  | a :: rest =>
    if a.isNamed "getter" then do
      let here ← inputSkips a.input
      let later ← attributesSkip rest
      return here || later
    else attributesSkip rest

/-- Whether a field is left out. -/
def isSkipped (f : Field) : Except SkipError Bool := attributesSkip f.attributes

end Accessors.Getters
