import Accessors.Grammar.Rules
import Accessors.Proofs.Grammar.Lawful

/-!
# The grammar is lawful

The program of each phrase bears out what is known about the phrase: what it begins with, and what it
ends with.

* `Phrase.IsLawful`: a program does so for a phrase.
* `lawful_rule`: the programs of the grammar do.
-/

namespace Accessors.Grammar

open Accessors.Token
open Recogniser

/-- The program bears out what is known about the phrase from its beginning to its end. -/
def Phrase.IsLawful (p : Phrase) (g : Program Shape) : Prop :=
  g.Lawful p false fun s taken => p.yields s ∧ (p.consumes → taken)

attribute [local simp] Phrase.IsLawful Phrase.Allows Phrase.Alone Phrase.Passes Phrase.isSound
  Phrase.isSpecial Phrase.start Phrase.yields Phrase.consumes Phrase.isPosition
attribute [local instance] lawfulMonad
attribute [-simp] bind_pure_comp map_pure List.drop_one List.isEmpty_iff

theorem toList_binaryOperator {ts : List Tree} {o : String × Precedence}
    (h : binaryOperator? ts = some o) : o.1.toList ≠ [] := by
  have hall : ∀ o ∈ binaryOperators, o.1.toList ≠ [] := by decide
  exact hall o (List.mem_of_find?_eq_some h)

theorem lawful_terminated (element : Phrase)
    (h : Phrase.isSound (.terminated element)) :
    Phrase.IsLawful (.terminated element) (terminatedProgram element) := by
  have hsound' := h
  simp only [Phrase.isSound, Bool.and_eq_true, Bool.not_eq_true', List.contains_iff_mem, List.mem_cons,
    List.not_mem_nil, or_false] at h
  obtain ⟨⟨hsound, hstart⟩, hposition⟩ := h
  have hown : (Phrase.terminated element).start = .other := rfl
  have hnot : (Phrase.terminated element).isPosition = false := rfl
  simp +decide [terminatedProgram, -Phrase.isSound, -Phrase.start, -Phrase.isPosition, hown, hnot, hsound',
    hsound, hstart, hposition]

theorem lawful_path (inExpression : Bool) :
    Phrase.IsLawful (.path inExpression) (pathProgram inExpression) := by
  cases inExpression
  all_goals
    simp +decide [pathProgram]
    constructor <;> intro s _ <;> split <;> simp +decide

theorem lawful_pathRest (inExpression : Bool) (soFar : PathShape) :
    Phrase.IsLawful (.pathRest inExpression soFar) (pathRestProgram inExpression soFar) := by
  cases inExpression
  all_goals
    simp +decide [pathRestProgram]
    intros
    split <;> simp +decide

theorem lawful_qualifiedPath (inExpression : Bool) :
    Phrase.IsLawful (.qualifiedPath inExpression) (qualifiedPathProgram inExpression) := by
  cases inExpression
  all_goals
    simp +decide [qualifiedPathProgram]
    repeat' with_reducible first | apply And.intro | intro _
    all_goals split <;> simp +decide

theorem lawful_callArguments (soFar : PathShape) :
    Phrase.IsLawful (.callArguments soFar) (callArgumentsProgram soFar) := by
  simp +decide [callArgumentsProgram]
  intro _ _ _ s _
  split <;> simp +decide
  intro s _
  split <;> simp +decide

theorem lawful_argument :
    Phrase.IsLawful .argument argumentProgram := by
  simp +decide [argumentProgram]
  intros
  split <;> simp +decide

theorem lawful_type (plus : Bool) :
    Phrase.IsLawful (.type plus) (typeProgram plus) := by
  simp +decide [typeProgram]
  repeat' with_reducible first | apply And.intro | intro _
  all_goals first
    | exact .inl ‹_›
    | split <;> simp +decide

theorem lawful_namedType (bound : Bool) (plus : Bool) :
    Phrase.IsLawful (.namedType bound plus) (namedTypeProgram bound plus) := by
  simp +decide [namedTypeProgram]
  intro s _
  split <;> simp +decide
  intro s _
  split <;> simp +decide

theorem lawful_parenthesisType (plus : Bool) :
    Phrase.IsLawful (.parenthesisType plus) (parenthesisTypeProgram plus) := by
  simp +decide [parenthesisTypeProgram]
  intro ts _ _ _ s _
  split <;> simp +decide

theorem lawful_objectBounds (plus : Bool) :
    Phrase.IsLawful (.objectBounds plus) (objectBoundsProgram plus) := by
  simp +decide [objectBoundsProgram]
  intro s _
  split <;> simp +decide

theorem lawful_traitBound (const : Bool) :
    Phrase.IsLawful (.traitBound const) (traitBoundProgram const) := by
  simp +decide [traitBoundProgram]
  repeat' with_reducible first | apply And.intro | intro _
  all_goals split <;> simp +decide

theorem lawful_attributeValue :
    Phrase.IsLawful .attributeValue attributeValueProgram := by
  simp +decide [attributeValueProgram, isLiteral]
  exact fun _ h _ => h

theorem lawful_pathPattern :
    Phrase.IsLawful .pathPattern pathPatternProgram := by
  simp +decide [pathPatternProgram]
  intro s _
  split <;> simp +decide

theorem lawful_rangeRest :
    Phrase.IsLawful .rangeRest rangeRestProgram := by
  simp +decide [rangeRestProgram]
  intro ts
  split <;> simp +decide

theorem lawful_alternatives :
    Phrase.IsLawful .alternatives alternativesProgram := by
  simp +decide [alternativesProgram]
  intro ts
  constructor <;> intro _ s hs _ _ <;> split <;> simp [hs]

theorem lawful_fieldPattern :
    Phrase.IsLawful .fieldPattern fieldPatternProgram := by
  simp +decide [fieldPatternProgram]
  intro ts h
  simp +decide [h]

theorem lawful_operators (literals : Bool) (base : Precedence) (left : Shape)
    (h : Phrase.isSound (.operators literals base left)) :
    Phrase.IsLawful (.operators literals base left) (operatorsProgram literals base left) := by
  simp at h
  simp +decide [operatorsProgram, h]
  intro _ ts
  split
  · next heq =>
    have hchars := toList_binaryOperator heq
    simp +decide [h, hchars]
    intros
    split <;> rfl
  · simp +decide [h]

theorem lawful_operandRest (literals : Bool) (operator : Precedence) (left : Shape)
    (h : Phrase.isSound (.operandRest literals operator left)) :
    Phrase.IsLawful (.operandRest literals operator left) (operandRestProgram literals operator left) := by
  simp at h
  simp +decide [operandRestProgram, h]

theorem lawful_unary (literals : Bool) :
    Phrase.IsLawful (.unary literals) (unaryProgram literals) := by
  simp +decide [unaryProgram]
  repeat' with_reducible first | apply And.intro | intro _
  all_goals assumption

theorem lawful_atom (literals : Bool) :
    Phrase.IsLawful (.atom literals) (atomProgram literals) := by
  simp +decide [atomProgram, optionalValue, isLiteral]

theorem lawful_pathExpression (literals : Bool) :
    Phrase.IsLawful (.pathExpression literals) (pathExpressionProgram literals) := by
  simp +decide [pathExpressionProgram]
  intro s _
  split <;> simp +decide
  intros
  split <;> rfl

theorem lawful_trailers (left : Shape)
    (h : Phrase.isSound (.trailers left)) :
    Phrase.IsLawful (.trailers left) (trailersProgram left) := by
  simp at h
  simp +decide [trailersProgram, h]

theorem lawful_member :
    Phrase.IsLawful .member memberProgram := by
  simp +decide [memberProgram]
  intro ts
  split <;> simp +decide

theorem lawful_position :
    Phrase.IsLawful .position positionProgram := by
  simp +decide [positionProgram]
  intro ts
  split <;> simp +decide

theorem lawful_fieldValues :
    Phrase.IsLawful .fieldValues fieldValuesProgram := by
  simp +decide [fieldValuesProgram]
  intro _ _ _ _ ts h
  simp +decide [h]

theorem lawful_statementExpression :
    Phrase.IsLawful .statementExpression statementExpressionProgram := by
  simp +decide [statementExpressionProgram, ↓lawful_splice_ite]
  exact fun _ _ _ => ⟨fun _ _ hs _ => hs, fun _ _ _ _ _ => ⟨fun _ _ _ hs _ => hs,
    fun _ _ hs _ => hs⟩⟩

/-- **The programs of the grammar are lawful.** -/
theorem lawful_rule {p : Phrase} (hp : p.isSound) : p.IsLawful (rule p) := by
  cases p with
  | hidden count => simp +decide [rule, hiddenProgram]
  | terminated element => exact lawful_terminated element hp
  | segment inExpression => cases inExpression <;> simp +decide [rule, segmentProgram]
  | path inExpression => exact lawful_path inExpression
  | pathRest inExpression soFar => exact lawful_pathRest inExpression soFar
  | qualifiedPath inExpression => exact lawful_qualifiedPath inExpression
  | modulePath => simp +decide [rule, modulePathProgram]
  | moduleSegments => simp +decide [rule, moduleSegmentsProgram]
  | callArguments soFar => exact lawful_callArguments soFar
  | signature => simp +decide [rule, signatureProgram]
  | angleArguments => simp +decide [rule, angleArgumentsProgram]
  | argumentList => simp +decide [rule, argumentListProgram]
  | argument => exact lawful_argument
  | constArgument => simp +decide [rule, constArgumentProgram, isLiteral]
  | constraintBounds => simp +decide [rule, constraintBoundsProgram]
  | type plus => exact lawful_type plus
  | namedType bound plus => exact lawful_namedType bound plus
  | parenthesisType plus => exact lawful_parenthesisType plus
  | parenthesisBody => simp +decide [rule, parenthesisBodyProgram]
  | sequenceType => simp +decide [rule, sequenceTypeProgram]
  | functionType => simp +decide [rule, functionTypeProgram]
  | functionArguments first => simp +decide [rule, functionArgumentsProgram]
  | functionArgument first => simp +decide [rule, functionArgumentProgram]
  | moreBounds joined => simp +decide [rule, moreBoundsProgram]
  | boundTail => simp +decide [rule, boundTailProgram]
  | objectBounds plus => exact lawful_objectBounds plus
  | boundList plus captures const hasTrait joined => simp +decide [rule, boundListProgram]
  | bound captures const => simp +decide [rule, boundProgram]
  | traitBound const => exact lawful_traitBound const
  | constWord => simp +decide [rule, constWordProgram]
  | capture => simp +decide [rule, captureProgram]
  | captureList => simp +decide [rule, captureListProgram]
  | captureItem => simp +decide [rule, captureItemProgram]
  | binder => simp +decide [rule, binderProgram]
  | binderList => simp +decide [rule, binderListProgram]
  | attributes present => simp +decide [rule, attributesProgram]
  | innerAttributes => simp +decide [rule, innerAttributesProgram]
  | attributeBody => simp +decide [rule, attributeBodyProgram]
  | attributeValue => exact lawful_attributeValue
  | pattern => simp +decide [rule, patternProgram]
  | pathPattern => exact lawful_pathPattern
  | namePattern => simp +decide [rule, namePatternProgram]
  | boundPattern => simp +decide [rule, boundPatternProgram]
  | rangePattern => simp +decide [rule, rangePatternProgram]
  | rangeRest => exact lawful_rangeRest
  | rangeBound => simp +decide [rule, rangeBoundProgram, isLiteral]
  | alternatives => exact lawful_alternatives
  | alternativesRest => simp +decide [rule, alternativesRestProgram]
  | patternList => simp +decide [rule, patternListProgram]
  | patternSlice => simp +decide [rule, patternSliceProgram]
  | fieldPatterns => simp +decide [rule, fieldPatternsProgram]
  | fieldPattern => exact lawful_fieldPattern
  | expression literals => simp +decide [rule, expressionProgram]
  | operators literals base left => exact lawful_operators literals base left hp
  | operand literals operator => simp +decide [rule, operandProgram]
  | operandRest literals operator left => exact lawful_operandRest literals operator left hp
  | range literals => simp +decide [rule, rangeProgram]
  | unary literals => exact lawful_unary literals
  | atom literals => exact lawful_atom literals
  | pathExpression literals => exact lawful_pathExpression literals
  | blockExpression => simp +decide [rule, blockExpressionProgram]
  | conditional => simp +decide [rule, conditionalProgram]
  | arms => simp +decide [rule, armsProgram]
  | closure literals => simp +decide [rule, closureProgram]
  | closureArguments => simp +decide [rule, closureArgumentsProgram]
  | trailers left => exact lawful_trailers left hp
  | member => exact lawful_member
  | position => exact lawful_position
  | positions => simp +decide [rule, positionsProgram]
  | fieldValues => exact lawful_fieldValues
  | sequenceExpression => simp +decide [rule, sequenceExpressionProgram]
  | parenthesisExpression => simp +decide [rule, parenthesisExpressionProgram]
  | statementExpression => exact lawful_statementExpression
  | block inner => simp +decide [rule, blockProgram]
  | blockBody inner => simp +decide [rule, blockBodyProgram]
  | statements => simp +decide [rule, statementsProgram]
  | statement => simp +decide [rule, statementProgram]
  | binding => simp +decide [rule, bindingProgram]
  | item => simp +decide [rule, itemProgram]
  | function => simp +decide [rule, functionProgram]
  | parameter => simp +decide [rule, parameterProgram]
  | useTree => simp +decide [rule, useTreeProgram]
  | record => simp +decide [rule, recordProgram]
  | enumeration => simp +decide [rule, enumerationProgram]
  | overlay => simp +decide [rule, overlayProgram]
  | field named => simp +decide [rule, fieldProgram]
  | fieldType unnamed => simp +decide [rule, fieldTypeProgram]
  | fieldBlock => simp +decide [rule, fieldBlockProgram]
  | variant => simp +decide [rule, variantProgram]
  | visibility => simp +decide [rule, visibilityProgram]
  | scope => simp +decide [rule, scopeProgram]
  | declaration => simp +decide [rule, declarationProgram]
  | generics => simp +decide [rule, genericsProgram]
  | genericList => simp +decide [rule, genericListProgram]
  | generic => simp +decide [rule, genericProgram]
  | lifetimeBounds => simp +decide [rule, lifetimeBoundsProgram]
  | typeBounds => simp +decide [rule, typeBoundsProgram]
  | whereClause => simp +decide [rule, whereClauseProgram]
  | predicates => simp +decide [rule, predicatesProgram]
  | predicate => simp +decide [rule, predicateProgram]
  | predicateLifetimes => simp +decide [rule, predicateLifetimesProgram]
  | predicateBounds => simp +decide [rule, predicateBoundsProgram]

end Accessors.Grammar
