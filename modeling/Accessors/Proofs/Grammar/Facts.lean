import Accessors.Proofs.Grammar.Marks

/-!
# What is known about phrases

Facts about each phrase that its program bears out, one column of a table in each definition.

* `Phrase.consumes`: the phrases that take a tree at least.
* `Phrase.start`: behind what a phrase can begin.
* `Phrase.yields`: the shapes that a phrase can turn out to have.
-/

namespace Accessors.Grammar

open Accessors.Token

/-- A record of this shape is printed by its parts. -/
def Shape.isPlain : Shape → Bool
  | .silent | .arguments | .position | .verbatim => false
  | _ => true

section

variable {a b : Bool} {s : PathShape}

@[simp] theorem isPlain_plain : Shape.plain.isPlain := rfl
@[simp] theorem isPlain_segment : (Shape.segment a b).isPlain := rfl
@[simp] theorem isPlain_path : (Shape.path s).isPlain := rfl
@[simp] theorem isPlain_object : (Shape.object a).isPlain := rfl
@[simp] theorem isPlain_bounds : (Shape.bounds a b).isPlain := rfl
@[simp] theorem isPlain_signature : (Shape.signature a).isPlain := rfl
@[simp] theorem isPlain_parenthesisBody : (Shape.parenthesisBody a b).isPlain := rfl
@[simp] theorem isPlain_attributes : (Shape.attributes a).isPlain := rfl
@[simp] theorem isPlain_statement : (Shape.statement a).isPlain := rfl

end

namespace Phrase

/-- The phrase takes a tree at least. -/
def consumes : Phrase → Bool
  | .hidden _ | .terminated _ | .pathRest _ _ | .callArguments _ | .argumentList => false
  | .constraintBounds | .functionArguments _ | .moreBounds _ | .boundTail | .captureList => false
  | .binderList | .attributes _ | .innerAttributes | .alternativesRest | .patternList => false
  | .patternSlice | .fieldPatterns | .operators _ _ _ | .operandRest _ _ _ | .arms => false
  | .closureArguments | .trailers _ | .fieldValues | .sequenceExpression => false
  | .parenthesisExpression | .blockBody _ | .statements | .fieldBlock | .visibility => false
  | .generics | .genericList | .lifetimeBounds | .typeBounds | .whereClause | .predicates => false
  | .predicateLifetimes | .predicateBounds => false
  | _ => true

/-- The mark behind which the phrase begins. A phrase that begins behind nothing special can begin
anywhere. -/
def start : Phrase → Mark
  | .hidden _ => .name
  | .angleArguments => .colon
  | .argumentList | .captureList => .angle
  | .member | .positions => .dot
  | .segment e | .path e | .qualifiedPath e => if e then .fresh else .other
  | .binder | .attributes _ | .pattern | .pathPattern | .namePattern | .boundPattern => .fresh
  | .rangePattern | .rangeRest | .rangeBound | .range _ | .unary _ | .atom _ => .fresh
  | .pathExpression _ | .blockExpression | .conditional | .closure _ => .fresh
  | .statementExpression | .block _ | .statement | .binding | .item | .function => .fresh
  | .visibility | .declaration => .fresh
  | _ => .other

/-- The phrase is a position, which a colon follows. -/
def isPosition : Phrase → Bool
  | .position => true
  | _ => false

/-- What the phrase is asked to go on with makes sense. -/
def isSound : Phrase → Bool
  | .terminated e => e.isSound && [Mark.fresh, .other].contains e.start && !e.isPosition
  | .operators _ _ left | .operandRest _ _ left | .trailers left => left.isPlain
  | _ => true

/-- The shapes that the phrase can turn out to have. -/
def yields : Phrase → Shape → Bool
  | .hidden _, s => s == .silent
  | .argumentList, s | .captureList, s => s == .arguments
  | .position, s | .positions, s => s == .position
  | .constArgument, s | .constraintBounds, s | .block _, s => s == .plain || s == .blockLike
  | .type _, s | .functionArgument _, s | .fieldType _, s => s.isPlain || s == .verbatim
  | _, s => s.isPlain

end Phrase

end Accessors.Grammar
