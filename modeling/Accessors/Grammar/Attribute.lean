import Accessors.Grammar.Path

/-!
# Attributes

* `attributesProgram`: the attributes in front of something.
* `innerAttributesProgram`: attributes at the beginning of what they belong to.
* `attributeBodyProgram`: the inside of one attribute.
-/

namespace Accessors.Grammar

open Accessors.Token

/-- Attributes in front of something. -/
def attributesProgram (present : Bool) : Program Shape := do
  if isPunct "#" (← ahead) then
    take
    let _ ← inside .bracket .attributeBody
    splice (.attributes true)
  else return .attributes present

/-- Attributes of what encloses them. -/
def innerAttributesProgram : Program Shape := do
  let ts ← ahead
  if isPunct "#" ts && isPunct "!" (ts.drop 1) then
    takeMany 2
    let _ ← inside .bracket .attributeBody
    splice .innerAttributes
  else return .plain

/-- A value is assigned to an attribute. -/
def facesValue (ts : List Tree) : Bool :=
  isPunct "=" ts && !isPunct "==" ts && !isPunct "=>" ts

/-- The inside of an attribute: its path, and a group or a value behind it. -/
def attributeBodyProgram : Program Shape := do
  if isWord "unsafe" (← ahead) then take
  else
    let _ ← splice .modulePath
  let ts ← ahead
  if isAnyGroup ts then
    take
    return .plain
  else if facesValue ts then
    take
    splice .attributeValue
  else return .plain

/-- The value of an attribute: an expression that does not begin with an attribute. -/
def attributeValueProgram : Program Shape := do
  let ts ← ahead
  if isLiteral ts && (ts.drop (literalSize ts)).isEmpty then
    takeMany (literalSize ts)
    return .plain
  if isPunct "#" ts && isBracket (ts.drop 1) then refuse
  let _ ← call (.expression true)
  return .plain

end Accessors.Grammar
