import Accessors.Proofs.Grammar.Steady

/-!
# The grammar is steady

The programs of the grammar look at nothing that bringing a forest into order changes, but for a few of
them: a segment looks at what is left out behind its name, positions are looked at as they are written, a
binding looks at what its value ended with, and an operand at how much is left.

* `Phrase.isOdd`: these few.
* `steady_rule`: the program of every other phrase is steady.
-/

namespace Accessors.Grammar

open Accessors.Token
open Recogniser

attribute [local simp ↓ high] steady_splice_ite
attribute [local simp ↓] steady_pure steady_refuse steady_refuse_bind steady_ahead steady_ite
  steady_take steady_take_end steady_call steady_call_end steady_splice steady_splice_end
  steady_within steady_takeMany steady_takeIf steady_expect steady_optional steady_optionalWord
  steady_inside steady_within_end steady_inside_end Phrase.consumes
attribute [local simp] asks_isPunct asks_isOperatorOf asks_isWord asks_isOneOf asks_isAnyIdent
  asks_isIdent asks_isLifetime asks_isEmpty asks_isGroup asks_isParenthesis asks_isBracket
  asks_isBrace asks_isAnyGroup asks_isStringLiteral asks_literalSize asks_isLiteral asks_isBang
  asks_isColon asks_isDot asks_isBar asks_isEquals asks_facesValue asks_facesConstant
  asks_facesBound asks_binaryOperator asks_beginsExpression asks_endsCondition asks_endsRange
  asks_endsOpenRange asks_onlyLiteral asks_facesName asks_facesVariadic asks_facesClosure
  asks_facesAsyncBlock asks_facesLoop asks_isWord_second asks_isOneOf_second asks_isIdent_second
  asks_isBracket_second asks_isBrace_second asks_isPunct_second asks_isLifetime_colon asks_restricted
  asks_facesPathPattern asks_facesTryPath asks_facesItem asks_facesBracedInvocation
  asks_facesNamedInvocation
attribute [-simp] bind_pure_comp map_pure List.drop_one List.isEmpty_iff Bool.or_eq_true
  Bool.and_eq_true Bool.not_eq_true Bool.not_eq_eq_eq_not Bool.not_or Bool.not_and List.drop_drop
  bne_iff_ne Nat.ble_eq

/-- The phrase looks at something that bringing a forest into order can change. -/
def Phrase.isOdd : Phrase → Bool
  | .segment e => !e
  | .position | .member | .binding | .operandRest _ _ _ => true
  | _ => false

theorem steady_terminated (element : Phrase) : (terminatedProgram element).Steady false := by
  simp +decide [terminatedProgram]
  repeat' with_reducible first | exact asks_const | apply And.intro | apply asks_ite | intro _
  all_goals simp +decide

theorem steady_segment : (segmentProgram true).Steady true := by
  have hrest : (segmentArguments true).Steady false := by
    simp +decide only [segmentArguments, steady_ahead, Bool.not_true, Bool.false_and,
      Bool.false_eq_true, if_false, steady_ite, steady_takeMany, steady_splice_end, steady_pure,
      implies_true, and_true]
    exact asks_ite asks_separated asks_const asks_const
  rw [segmentProgram_eq]
  simp [hrest, expectIdent]
  exact ⟨asks_ite asks_isOneOf asks_const (asks_ite asks_isWord asks_const asks_const), fun _ _ _ =>
    asks_ite asks_isIdent asks_const asks_const⟩

theorem steady_angleArguments : angleArgumentsProgram.Steady false := by
  have hclose : Asks false (isPunct ">") := asks_isPunct (by decide)
  simp +decide [angleArgumentsProgram]
  refine ⟨asks_ite (asks_isPunct (by decide)) asks_const asks_const,
    asks_after hclose fun _ _ h => by simp only [h], fun _ _ => ?_⟩
  exact asks_ite hclose asks_const asks_const

theorem steady_type (plus : Bool) : (typeProgram plus).Steady false := by
  rw [typeProgram]
  extract_lets mutable
  have hmutable : (mutable ()).Steady false := by
    simp +decide [mutable]
    exact asks_ite asks_isWord asks_const asks_const
  clear_value mutable
  rw [steady_ahead]
  refine ⟨asks_after (f := isWord "for") asks_isWord fun _ _ h => by simp only [h], fun ts => ?_⟩
  extract_lets bound later
  have hlater : (later ()).Steady false := by
    simp +decide [later, hmutable]
    repeat' with_reducible first
      | exact asks_const | apply And.intro | apply asks_ite | apply asks_or | intro _
      | (split <;> simp +decide)
    all_goals simp +decide
  exact steady_ite.2 ⟨fun _ => steady_call.2 fun _ => hlater, fun _ => hlater⟩

theorem steady_parenthesisType (plus : Bool) : (parenthesisTypeProgram plus).Steady false := by
  have hempty : Asks false fun ts => (groupBody ts).isEmpty := asks_body asks_isEmpty
  have hlifetime : Asks false fun ts => isLifetime (groupBody ts) := asks_body asks_isLifetime
  have hrelaxed : Asks false fun ts => isPunct "?" (groupBody ts) :=
    asks_body (asks_isPunct (by decide))
  have hplus : Asks false fun ts => plus && isPunct "+" ts :=
    asks_and asks_const (asks_isPunct (by decide))
  simp +decide [parenthesisTypeProgram]
  refine ⟨asks_ite hempty asks_const (asks_ite hlifetime asks_const
    (asks_ite hrelaxed asks_const asks_const)), fun _ _ _ _ s => ?_⟩
  split <;> simp +decide
  exact asks_ite hplus asks_const asks_const

theorem steady_traitBound (const : Bool) : (traitBoundProgram const).Steady false := by
  rw [traitBoundProgram]
  extract_lets ended named
  have hnamed : (named ()).Steady false := by
    simp +decide [named, ended]
    intro s
    split <;> simp +decide
    exact asks_ite (asks_and asks_const asks_isParenthesis) asks_const asks_const
  clear_value named
  rw [steady_ahead]
  refine ⟨asks_after (f := isWord "for") asks_isWord fun _ _ h => by simp only [h], fun ts => ?_⟩
  extract_lets bound relaxed bracketed later
  have hlater : (later ()).Steady false := by
    simp +decide [later, bracketed, relaxed, hnamed]
    repeat' with_reducible first
      | exact asks_const | apply And.intro | apply asks_ite | apply asks_or | apply asks_and | intro _
    all_goals simp +decide
  exact steady_ite.2 ⟨fun _ => steady_call.2 fun _ => hlater, fun _ => hlater⟩

theorem steady_rangeRest : rangeRestProgram.Steady true := by
  have hdots {fresh : Bool} : Asks fresh fun ts => isPunct "..=" ts || isPunct "..." ts :=
    asks_or (asks_isPunct (by decide)) (asks_isPunct (by decide))
  simp +decide [rangeRestProgram]
  refine ⟨asks_after hdots fun _ _ h => by simp only [h], fun ts => ?_⟩
  exact asks_ite asks_endsRange asks_const asks_const

theorem steady_alternatives : alternativesProgram.Steady false := by
  have hbar : Asks false (isPunct "|") := asks_isPunct (by decide)
  simp +decide [alternativesProgram]
  exact ⟨asks_after hbar fun _ _ h => by simp only [h],
    fun _ _ => asks_ite asks_isBar asks_const asks_const⟩

theorem steady_record : recordProgram.Steady false := by
  simp +decide [recordProgram]
  have hend : Asks false fun ts =>
      if isPunct ";" ts = true then takeMany ";".length >>= fun _ => pure Shape.plain else refuse :=
    asks_ite (asks_isPunct (by decide)) asks_const asks_const
  refine ⟨asks_after (f := isWord "where") asks_isWord fun _ _ h => by simp only [h], fun _ _ =>
    ⟨?_, fun _ => ⟨fun _ _ _ => hend, fun _ _ => hend⟩⟩⟩
  exact asks_ite (asks_and asks_const asks_isParenthesis) asks_const
    (asks_ite asks_isBrace asks_const asks_const)

theorem steady_declaration : declarationProgram.Steady true := by
  simp +decide [declarationProgram, expectIdent]
  refine fun _ _ => ⟨fun ts us h => ?_, fun ts => ⟨asks_ite asks_isOneOf asks_const asks_const, fun _ _ =>
    asks_ite asks_isIdent asks_const asks_const⟩⟩
  have hword (w : String) : isWord w ts = isWord w us := asks_isWord ts us h
  simp only [hword]

theorem steady_field (named : Bool) : (fieldProgram named).Steady false := by
  simp +decide [fieldProgram]
  refine fun _ _ => ⟨asks_after (f := isWord "_") asks_isWord fun _ _ h => by simp only [h], fun _ _ =>
    ⟨asks_ite (asks_or asks_isIdent asks_isWord) asks_const asks_const, fun _ _ => ?_⟩⟩
  exact asks_ite (asks_isPunct (by decide)) asks_const asks_const

theorem steady_visibility : visibilityProgram.Steady false := by
  have hscope : Asks false fun ts => isParenthesis ts && isWord "in" (groupBody ts) :=
    asks_and asks_isParenthesis (asks_body asks_isWord)
  simp +decide [visibilityProgram]
  exact ⟨asks_ite asks_isWord asks_const asks_const,
    asks_ite asks_restricted asks_const (asks_ite hscope asks_const asks_const)⟩

theorem steady_operators (literals : Bool) (base : Precedence) (left : Shape) :
    (operatorsProgram literals base left).Steady false := by
  simp +decide [operatorsProgram]
  refine fun _ => ⟨fun ts us h => ?_, fun ts => ?_⟩
  · have hdots : isPunct ".." ts = isPunct ".." us := asks_isPunct (by decide) ts us h
    simp only [asks_binaryOperator ts us h, asks_isEquals ts us h, hdots, asks_isWord ts us h]
  · split
    · next operator precedence heq =>
      have hcalm : ∀ o ∈ binaryOperators, isCalm o.1.toList = true := by decide
      have hcalm := hcalm _ (List.mem_of_find?_eq_some heq)
      simp +decide [toList_binaryOperator heq]
      exact fun _ _ => asks_ite (asks_isPunct hcalm) asks_const asks_const
    · simp +decide
      refine fun _ _ _ _ => asks_ite ?_ asks_const asks_const
      exact asks_or (asks_or (asks_or asks_isDot (asks_isPunct (by decide))) asks_isBracket)
        asks_isParenthesis

theorem steady_range (literals : Bool) : (rangeProgram literals).Steady true := by
  have hend {closed : Bool} {g : Program Shape} : Asks false fun ts =>
      if (!closed && endsOpenRange literals ts) = true then pure Shape.rangeExpression else g :=
    asks_ite (asks_and asks_const asks_endsOpenRange) asks_const asks_const
  simp +decide [rangeProgram]
  refine ⟨fun ts us h => ?_, fun ts _ => ⟨fun _ => hend, fun _ => ⟨?_, hend⟩⟩⟩
  · have hthree : isPunct "..." ts = isPunct "..." us := asks_isPunct (by decide) ts us h
    have hclosed : isPunct "..=" ts = isPunct "..=" us := asks_isPunct (by decide) ts us h
    simp only [hthree, hclosed]
  · exact asks_ite (asks_isPunct (by decide)) asks_const asks_const

theorem steady_unary (literals : Bool) : (unaryProgram literals).Steady true := by
  simp +decide [unaryProgram]
  repeat' with_reducible first | exact asks_const | apply And.intro | apply asks_ite | intro _
  all_goals first
    | exact asks_and asks_isWord asks_isOneOf_second
    | simp +decide

theorem steady_optionalValue (literals : Bool) : (optionalValue literals).Steady false := by
  simp +decide [optionalValue]
  exact asks_ite (asks_and asks_beginsExpression (asks_or asks_const (asks_not asks_isBrace)))
    asks_const asks_const

theorem steady_atom (literals : Bool) : (atomProgram literals).Steady true := by
  have hpath : Asks true fun ts =>
      isIdent ts || isPunct "::" ts || isPunct "<" ts || isOneOf pathBeginnings ts ||
        isWord "try" ts && (isPunct "!" (ts.drop 1) || isPunct "::" (ts.drop 1)) :=
    asks_or (asks_or (asks_or (asks_or asks_isIdent (asks_isPunct (by decide)))
      (asks_isPunct (by decide))) asks_isOneOf) asks_facesTryPath
  have hlabel {g g' h : Program Shape} : Asks false fun ts =>
      if isLifetime ts = true then if isPunct ":" (ts.drop 1) = true then g else g' else h := by
    refine asks_ite_of asks_isLifetime (fun ts us h hlifetime => ?_) asks_const
    have hcolon : (isLifetime ts && isPunct ":" (ts.drop 1)) =
        (isLifetime us && isPunct ":" (us.drop 1)) := asks_isLifetime_colon ts us h
    rw [← asks_isLifetime ts us h, hlifetime, Bool.true_and, Bool.true_and] at hcolon
    rw [hcolon]
  simp +decide [atomProgram, steady_optionalValue]
  repeat' with_reducible first
    | exact asks_const | exact hpath | exact hlabel | apply And.intro | apply asks_ite | intro _
  all_goals first
    | simp +decide
    | exact asks_after asks_literalSize fun _ _ h => by simp only [h]
    | exact asks_and asks_isWord asks_isBrace_second
    | exact asks_or (asks_or asks_isOneOf asks_isBrace) asks_isLifetime
    | exact asks_or asks_isWord asks_isWord

theorem steady_pathExpression (literals : Bool) : (pathExpressionProgram literals).Steady true := by
  simp +decide [pathExpressionProgram]
  intro s
  split
  · simp +decide
    refine ⟨?_, fun _ _ => ⟨asks_after asks_isBrace fun _ _ h => by simp only [h],
      fun _ => asks_ite asks_isAnyGroup asks_const asks_const⟩⟩
    exact asks_ite (asks_and (asks_and asks_isBang asks_const) asks_const) asks_const
      (asks_ite (asks_and asks_const asks_isBrace) asks_const asks_const)
  · simp +decide

theorem steady_statementExpression : statementExpressionProgram.Steady true := by
  have hmember : Asks false fun ts =>
      if (isDot ts || isPunct "?" ts) = true then do
        let s ← splice (.trailers Shape.plain)
        splice (.operators true Precedence.least s)
      else pure Shape.blockLike :=
    asks_ite (asks_or asks_isDot (asks_isPunct (by decide))) asks_const asks_const
  have hblock : Asks true fun ts => isOneOf ["if", "while", "loop", "match", "unsafe"] ts ||
      isWord "for" ts && !(isPunct "<" (ts.drop 1) &&
        (isLifetime ((ts.drop 1).drop 1) || isPunct ">" ((ts.drop 1).drop 1))) ||
      isWord "const" ts && isBrace (ts.drop 1) || isBrace ts || isLifetime ts :=
    asks_or (asks_or (asks_or (asks_or asks_isOneOf asks_facesLoop)
      (asks_and asks_isWord asks_isBrace_second)) asks_isBrace) asks_isLifetime
  have htry : Asks true fun ts => isWord "try" ts && isBrace (ts.drop 1) :=
    asks_and asks_isWord asks_isBrace_second
  simp +decide [statementExpressionProgram]
  refine fun _ => ⟨fun ts us h => ?_, fun _ _ => hmember⟩
  simp only [hblock ts us h, htry ts us h]

theorem facesBang_of_facesNamedInvocation {ts : List Tree} (h : facesNamedInvocation ts = true) :
    facesBang ts = true := by
  simp only [facesNamedInvocation, Bool.and_eq_true] at h
  exact Bool.and_eq_true_iff.2 h.1

theorem facesBang_of_facesBracedInvocation {ts : List Tree} (h : facesBracedInvocation ts = true) :
    facesBang ts = true := by
  simp only [facesBracedInvocation, Bool.and_eq_true] at h
  exact Bool.and_eq_true_iff.2 h.1.1

theorem steady_statement : statementProgram.Steady true := by
  have hend {s t : Shape} : Asks false fun ts =>
      if isPunct ";" ts = true then takeMany ";".length >>= fun _ => pure s else pure t :=
    asks_ite (asks_isPunct (by decide)) asks_const asks_const
  simp +decide [statementProgram]
  refine fun _ => ⟨asks_ite_of asks_facesBracedInvocation (fun ts us h hbraced => ?_)
    (asks_ite asks_isWord asks_const (asks_ite asks_facesItem asks_const asks_const)), fun _ =>
      ⟨fun _ => hend, fun _ _ _ _ => hend⟩⟩
  rw [(h.modulePathSize_eq (facesBang_of_facesBracedInvocation hbraced)).1]

theorem steady_item : itemProgram.Steady true := by
  have hend {g : Program Shape} : Asks false fun ts =>
      if isPunct ";" ts = true then takeMany ";".length >>= fun _ => pure Shape.plain else g :=
    asks_ite (asks_isPunct (by decide)) asks_const asks_const
  have hconst : Asks true fun ts =>
      isWord "static" ts || isWord "const" ts && (isIdent (ts.drop 1) || isWord "_" (ts.drop 1)) :=
    asks_or asks_isWord (asks_and asks_isWord (asks_or asks_isIdent_second asks_isWord_second))
  simp +decide [itemProgram, expectIdent]
  intro _
  refine ⟨asks_ite_of asks_facesNamedInvocation (fun ts us h hnamed => ?_) (asks_ite asks_isWord
    asks_const (asks_ite hconst asks_const (asks_ite asks_isWord asks_const
      (asks_ite asks_isOneOf asks_const asks_const)))), fun _ => ⟨fun _ => ?_, fun _ => ?_⟩⟩
  · rw [(h.modulePathSize_eq (facesBang_of_facesNamedInvocation hnamed)).1]
  · exact ⟨asks_after asks_isBrace fun _ _ h => by simp only [h], fun _ =>
      ⟨asks_ite asks_isAnyGroup asks_const asks_const, fun _ _ => ⟨fun _ => hend, fun _ => hend⟩⟩⟩
  · repeat' with_reducible first
      | exact asks_const | exact hend | apply And.intro | apply asks_ite | apply asks_or | intro _
    all_goals simp +decide

/-- **The programs of the grammar are steady.** -/
theorem steady_rule {p : Phrase} (hodd : p.isOdd = false) : (rule p).Steady p.isFresh := by
  cases p
  case terminated element => exact steady_terminated element
  case segment e =>
    cases e
    · cases hodd
    · exact steady_segment
  case type plus => exact steady_type plus
  case parenthesisType plus => exact steady_parenthesisType plus
  case traitBound const => exact steady_traitBound const
  case rangeRest => exact steady_rangeRest
  case alternatives => exact steady_alternatives
  case operators literals base left => exact steady_operators literals base left
  case range literals => exact steady_range literals
  case unary literals => exact steady_unary literals
  case atom literals => exact steady_atom literals
  case pathExpression literals => exact steady_pathExpression literals
  case statementExpression => exact steady_statementExpression
  case statement => exact steady_statement
  case item => exact steady_item
  case record => exact steady_record
  case field named => exact steady_field named
  case visibility => exact steady_visibility
  case declaration => exact steady_declaration
  case angleArguments => exact steady_angleArguments
  case position | member | binding | operandRest => cases hodd
  all_goals
    simp +decide [rule, hiddenProgram, pathProgram, pathRestProgram, qualifiedPathProgram,
      modulePathProgram, moduleSegmentsProgram, callArgumentsProgram, signatureProgram,
      argumentListProgram, argumentProgram, constArgumentProgram, constraintBoundsProgram,
      namedTypeProgram, parenthesisBodyProgram, sequenceTypeProgram, functionTypeProgram,
      functionArgumentsProgram, functionArgumentProgram, moreBoundsProgram, boundTailProgram,
      objectBoundsProgram, boundListProgram, boundProgram, constWordProgram, captureProgram,
      captureListProgram, captureItemProgram, binderProgram, binderListProgram, attributesProgram,
      innerAttributesProgram, attributeBodyProgram, attributeValueProgram, patternProgram,
      pathPatternProgram, namePatternProgram, boundPatternProgram, rangePatternProgram,
      rangeBoundProgram, alternativesRestProgram, patternListProgram, patternSliceProgram,
      fieldPatternsProgram, fieldPatternProgram, expressionProgram, operandProgram,
      blockExpressionProgram, conditionalProgram, armsProgram, closureProgram,
      closureArgumentsProgram, trailersProgram, positionsProgram, fieldValuesProgram,
      sequenceExpressionProgram, parenthesisExpressionProgram, blockProgram, blockBodyProgram,
      statementsProgram, functionProgram, parameterProgram, useTreeProgram, enumerationProgram,
      overlayProgram, fieldTypeProgram, fieldBlockProgram, variantProgram, scopeProgram,
      genericsProgram, genericListProgram, genericProgram, lifetimeBoundsProgram, typeBoundsProgram,
      whereClauseProgram, predicatesProgram, predicateProgram, predicateLifetimesProgram,
      predicateBoundsProgram, expectWord, expectIdent, Phrase.isFresh, Phrase.start]
    repeat' with_reducible first
      | exact asks_const | apply And.intro | apply asks_ite | intro _
      | (split <;> simp +decide)
    all_goals first
      | simp +decide
      | (refine asks_after asks_literalSize fun _ _ h => ?_; simp only [h])
      | ((repeat' with_reducible first
          | apply asks_or | apply asks_and | apply asks_not | exact asks_const) <;> simp +decide)
      | (refine asks_after asks_isIdent fun _ _ h => ?_; simp only [h])

end Accessors.Grammar
