import Accessors.Grammar.Declaration
import Accessors.Grammar.Statement

/-!
# The grammar as a whole

* `rule`: the program of every phrase.
* `recognisePhrase`: a phrase at the beginning of a forest.
-/

namespace Accessors.Grammar

open Accessors.Token

/-- The program of a phrase. -/
def rule : Phrase → Program Shape
  | .hidden count => hiddenProgram count
  | .terminated element => terminatedProgram element
  | .segment e => segmentProgram e
  | .path e => pathProgram e
  | .pathRest e s => pathRestProgram e s
  | .qualifiedPath e => qualifiedPathProgram e
  | .modulePath => modulePathProgram
  | .moduleSegments => moduleSegmentsProgram
  | .callArguments s => callArgumentsProgram s
  | .signature => signatureProgram
  | .angleArguments => angleArgumentsProgram
  | .argumentList => argumentListProgram
  | .argument => argumentProgram
  | .constArgument => constArgumentProgram
  | .constraintBounds => constraintBoundsProgram
  | .type plus => typeProgram plus
  | .namedType bound plus => namedTypeProgram bound plus
  | .parenthesisType plus => parenthesisTypeProgram plus
  | .parenthesisBody => parenthesisBodyProgram
  | .sequenceType => sequenceTypeProgram
  | .functionType => functionTypeProgram
  | .functionArguments first => functionArgumentsProgram first
  | .functionArgument first => functionArgumentProgram first
  | .moreBounds joined => moreBoundsProgram joined
  | .boundTail => boundTailProgram
  | .objectBounds plus => objectBoundsProgram plus
  | .boundList plus captures const hasTrait joined =>
    boundListProgram plus captures const hasTrait joined
  | .bound captures const => boundProgram captures const
  | .traitBound const => traitBoundProgram const
  | .constWord => constWordProgram
  | .capture => captureProgram
  | .captureList => captureListProgram
  | .captureItem => captureItemProgram
  | .binder => binderProgram
  | .binderList => binderListProgram
  | .attributes present => attributesProgram present
  | .innerAttributes => innerAttributesProgram
  | .attributeBody => attributeBodyProgram
  | .attributeValue => attributeValueProgram
  | .pattern => patternProgram
  | .pathPattern => pathPatternProgram
  | .namePattern => namePatternProgram
  | .boundPattern => boundPatternProgram
  | .rangePattern => rangePatternProgram
  | .rangeRest => rangeRestProgram
  | .rangeBound => rangeBoundProgram
  | .alternatives => alternativesProgram
  | .alternativesRest => alternativesRestProgram
  | .patternList => patternListProgram
  | .patternSlice => patternSliceProgram
  | .fieldPatterns => fieldPatternsProgram
  | .fieldPattern => fieldPatternProgram
  | .expression literals => expressionProgram literals
  | .operators literals base left => operatorsProgram literals base left
  | .operand literals operator => operandProgram literals operator
  | .operandRest literals operator left => operandRestProgram literals operator left
  | .range literals => rangeProgram literals
  | .unary literals => unaryProgram literals
  | .atom literals => atomProgram literals
  | .pathExpression literals => pathExpressionProgram literals
  | .blockExpression => blockExpressionProgram
  | .conditional => conditionalProgram
  | .arms => armsProgram
  | .closure literals => closureProgram literals
  | .closureArguments => closureArgumentsProgram
  | .trailers left => trailersProgram left
  | .member => memberProgram
  | .position => positionProgram
  | .positions => positionsProgram
  | .fieldValues => fieldValuesProgram
  | .sequenceExpression => sequenceExpressionProgram
  | .parenthesisExpression => parenthesisExpressionProgram
  | .statementExpression => statementExpressionProgram
  | .block inner => blockProgram inner
  | .blockBody inner => blockBodyProgram inner
  | .statements => statementsProgram
  | .statement => statementProgram
  | .binding => bindingProgram
  | .item => itemProgram
  | .function => functionProgram
  | .parameter => parameterProgram
  | .useTree => useTreeProgram
  | .record => recordProgram
  | .enumeration => enumerationProgram
  | .overlay => overlayProgram
  | .field named => fieldProgram named
  | .fieldType unnamed => fieldTypeProgram unnamed
  | .fieldBlock => fieldBlockProgram
  | .variant => variantProgram
  | .visibility => visibilityProgram
  | .scope => scopeProgram
  | .declaration => declarationProgram
  | .generics => genericsProgram
  | .genericList => genericListProgram
  | .generic => genericProgram
  | .lifetimeBounds => lifetimeBoundsProgram
  | .typeBounds => typeBoundsProgram
  | .whereClause => whereClauseProgram
  | .predicates => predicatesProgram
  | .predicate => predicateProgram
  | .predicateLifetimes => predicateLifetimesProgram
  | .predicateBounds => predicateBoundsProgram

/-- Recognises a phrase at the beginning of a forest: its record, and what is left. -/
def recognisePhrase (p : Phrase) (ts : List Tree) : Option (Node Shape × List Tree) :=
  recognise rule p ts

end Accessors.Grammar
