import Accessors.Proofs.Grammar.LawfulRules

/-!
# Phrases begin with simpler ones

Before a program takes a tree, it calls only for phrases of a lower rank than its own, so no phrase
begins with itself. One phrase goes on behind operators that may take nothing; it counts what is left
to find out whether they did.

* `Phrase.rank`: how far a phrase is from its first tree.
* `Recogniser.Descends`: a program that begins with phrases of a lower rank.
* `descends_rule`: the programs of the grammar do.
-/

namespace Accessors.Grammar

open Accessors.Token

variable {α β : Type}

namespace Phrase

/-- Before it takes a tree, a phrase calls only for phrases of a lower rank. -/
def rank : Phrase → Nat
  | .terminated element => element.rank + 1
  | .path _ | .modulePath | .operators _ _ _ | .callArguments _ | .closure _ | .binderList => 1
  | .blockExpression | .constArgument | .captureList | .fieldPattern | .member | .generic => 1
  | .record | .enumeration | .overlay | .declaration | .variant => 1
  | .qualifiedPath _ | .traitBound _ | .operandRest _ _ _ | .attributeBody | .item | .fieldPatterns => 2
  | .fieldValues | .genericList => 2
  | .bound _ _ | .namedType _ _ | .pathExpression _ | .rangeBound | .pathPattern => 3
  | .boundList _ _ _ _ _ | .boundPattern | .constraintBounds | .typeBounds | .predicateBounds => 4
  | .atom _ => 4
  | .pattern | .objectBounds _ | .unary _ => 5
  | .type _ | .expression _ | .operand _ _ | .alternatives | .statementExpression | .parameter => 6
  | .argument | .parenthesisBody | .sequenceType | .functionArgument _ | .predicate => 7
  | .fieldType _ | .attributeValue | .sequenceExpression | .patternSlice | .arms | .statement => 7
  | .closureArguments => 6
  | .argumentList | .functionArguments _ | .predicates | .statements | .field _ => 8
  | .blockBody _ => 9
  | .fieldBlock | .patternList | .parenthesisExpression => 10
  | _ => 0

/-- The phrase compares what is left with what was left before. -/
def measures : Phrase → Bool
  | .operandRest _ _ _ => true
  | _ => false

/-- The program of a phrase may call for another one, if it has taken a tree or has not. -/
def begins (p : Phrase) (taken : Bool) (q : Phrase) : Bool :=
  q.rank.ble (p.rank + 63) && (taken || q.rank.blt p.rank || p.measures)

end Phrase

/-- **The program begins with simpler phrases only.** -/
def Recogniser.Descends (p : Phrase) : Program α → Bool → Prop
  | .done _, _ => True
  | .fail, _ => True
  | .look next, taken => ∀ ts, (next ts).Descends p taken
  | .take next, _ => next.Descends p true
  | .call q next, taken => p.begins taken q ∧ ∀ s, (next s).Descends p (taken || q.consumes)
  | .splice q next, taken => p.begins taken q ∧ ∀ s, (next s).Descends p (taken || q.consumes)
  | .within q next, _ => p.begins true q ∧ ∀ s, (next s).Descends p true

/-! ## The operations -/

namespace Recogniser

attribute [local instance] lawfulMonad

variable {p q : Phrase} {taken : Bool} {g h : Program α} {a : α} {next : α → Program β}
  {k : Unit → Program α} {ask : Bool → Program α} {shape : Shape → Program α}

theorem descends_pure : (pure a : Program α).Descends p taken ↔ True := Iff.rfl

theorem descends_refuse : (refuse : Program α).Descends p taken ↔ True := Iff.rfl

theorem descends_refuse_bind : ((refuse : Program α) >>= next).Descends p taken ↔ True := Iff.rfl

theorem descends_ahead {look : List Tree → Program α} : (ahead >>= look).Descends p taken ↔
    ∀ ts, (look ts).Descends p taken := Iff.rfl

theorem descends_ite {c : Prop} [Decidable c] : (if c then g else h).Descends p taken ↔
    (c → g.Descends p taken) ∧ (¬ c → h.Descends p taken) := by
  split <;> simp_all

theorem descends_take : (Grammar.take >>= k).Descends p taken ↔ (k ()).Descends p true := Iff.rfl

theorem descends_take_end : Grammar.take.Descends p taken ↔ True := Iff.rfl

theorem descends_call : (Grammar.call q >>= shape).Descends p taken ↔
    p.begins taken q ∧ ∀ s, (shape s).Descends p (taken || q.consumes) := Iff.rfl

theorem descends_call_end : (Grammar.call q).Descends p taken ↔ p.begins taken q :=
  ⟨fun h => h.1, fun h => ⟨h, fun _ => trivial⟩⟩

theorem descends_splice : (Grammar.splice q >>= shape).Descends p taken ↔
    p.begins taken q ∧ ∀ s, (shape s).Descends p (taken || q.consumes) := Iff.rfl

theorem descends_splice_end : (Grammar.splice q).Descends p taken ↔ p.begins taken q :=
  ⟨fun h => h.1, fun h => ⟨h, fun _ => trivial⟩⟩

theorem descends_within : (Grammar.within q >>= shape).Descends p taken ↔
    p.begins true q ∧ ∀ s, (shape s).Descends p true := Iff.rfl

theorem descends_within_end : (Grammar.within q).Descends p taken ↔ p.begins true q :=
  ⟨fun h => h.1, fun h => ⟨h, fun _ => trivial⟩⟩

theorem descends_takeMany {n : Nat} : (takeMany n >>= k).Descends p taken ↔
    (k ()).Descends p (taken || 0 < n) := by
  induction n generalizing taken with
  | zero => rw [show decide (0 < 0) = false from rfl, Bool.or_false]; exact Iff.rfl
  | succ n ih =>
    have hstep : (takeMany (n + 1) >>= k).Descends p taken ↔ (takeMany n >>= k).Descends p true :=
      Iff.rfl
    rw [hstep, ih]
    simp

theorem descends_takeIf {test : List Tree → Bool} : (takeIf test >>= k).Descends p taken ↔
    ((∃ ts, test ts = true) → (k ()).Descends p true) := by
  rw [takeIf_bind, descends_ahead]
  simp only [descends_ite, descends_take, descends_refuse, implies_true, and_true,
    forall_exists_index]

theorem descends_expect {operator : String} (hne : operator.toList ≠ []) :
    (expect operator >>= k).Descends p taken ↔ (k ()).Descends p true := by
  have hlen : 0 < operator.length := by
    rw [← String.length_toList]
    exact List.length_pos_iff.2 hne
  obtain ⟨ts, hts⟩ := exists_isPunct operator
  rw [expect_bind, descends_ahead]
  simp only [descends_ite, descends_takeMany, descends_refuse, implies_true, and_true, hlen,
    decide_true, Bool.or_true]
  exact ⟨fun h => h ts hts, fun h _ _ => h⟩

theorem descends_optional {operator : String} (hne : operator.toList ≠ []) :
    (optional operator >>= ask).Descends p taken ↔
      (ask true).Descends p true ∧ (ask false).Descends p taken := by
  have hlen : 0 < operator.length := by
    rw [← String.length_toList]
    exact List.length_pos_iff.2 hne
  obtain ⟨ts, hts⟩ := exists_isPunct operator
  obtain ⟨us, hus⟩ := exists_not_isPunct hne
  rw [optional_bind, descends_ahead]
  simp only [descends_ite, descends_takeMany, hlen, decide_true, Bool.or_true]
  exact ⟨fun h => ⟨(h ts).1 hts, (h us).2 (by simp [hus])⟩, fun h _ => ⟨fun _ => h.1, fun _ => h.2⟩⟩

theorem descends_optionalWord {word : String} : (optionalWord word >>= ask).Descends p taken ↔
    (ask true).Descends p true ∧ (ask false).Descends p taken := by
  rw [optionalWord_bind, descends_ahead]
  simp only [descends_ite, descends_take]
  refine ⟨fun h => ⟨?_, ?_⟩, fun h _ => ⟨fun _ => h.1, fun _ => h.2⟩⟩
  · exact (h [.leaf (.ident ⟨word, false⟩)]).1 (by simp [isWord])
  · exact (h []).2 (by simp [isWord])

theorem descends_inside {d : Delimiter} : (inside d q >>= shape).Descends p taken ↔
    p.begins true q ∧ ∀ s, (shape s).Descends p true := by
  rw [inside_bind, descends_ahead]
  simp only [descends_ite, descends_within, descends_refuse, implies_true, and_true]
  exact ⟨fun h => h [.group d []] (by simp [isGroup]), fun h _ _ => h⟩

theorem descends_inside_end {d : Delimiter} : (inside d q).Descends p taken ↔ p.begins true q := by
  rw [inside, descends_ahead]
  simp only [descends_ite, descends_within_end, descends_refuse, implies_true, and_true]
  exact ⟨fun h => h [.group d []] (by simp [isGroup]), fun h _ _ => h⟩

/-- One of two phrases is recognised in line. -/
theorem descends_splice_ite {c : Prop} [Decidable c] {r : Phrase} :
    (Grammar.splice (if c then q else r) >>= shape).Descends p taken ↔
      (c → (Grammar.splice q >>= shape).Descends p taken) ∧
        (¬ c → (Grammar.splice r >>= shape).Descends p taken) := by
  split <;> simp_all

end Recogniser

/-! ## The grammar -/

section Rules

open Recogniser Phrase

attribute [local simp ↓ high] descends_splice_ite
attribute [local simp ↓] descends_pure descends_refuse descends_refuse_bind descends_ahead
  descends_ite descends_take descends_take_end descends_call descends_call_end descends_splice
  descends_splice_end descends_within descends_within_end descends_takeMany descends_takeIf
  descends_expect descends_optional descends_optionalWord descends_inside descends_inside_end
attribute [-simp] bind_pure_comp map_pure List.drop_one List.isEmpty_iff Bool.or_eq_true
  Bool.and_eq_true Bool.not_eq_true Bool.not_eq_eq_eq_not Bool.not_or Bool.not_and List.drop_drop
  bne_iff_ne Nat.ble_eq

theorem descends_terminated (element : Phrase) :
    (terminatedProgram element).Descends (.terminated element) false := by
  have hbegins {taken : Bool} {q : Phrase} (h : taken = true ∨ q = element)
      (hrank : q.rank ≤ element.rank + 1) : (Phrase.terminated element).begins taken q = true := by
    simp only [begins, rank, Nat.ble_eq, Nat.blt, Bool.and_eq_true, Bool.or_eq_true]
    rcases h with rfl | rfl <;> simp <;> omega
  simp +decide [terminatedProgram, hbegins]
  exact fun _ _ _ _ _ => hbegins (.inl rfl) (Nat.le_refl _)

theorem descends_operators (literals : Bool) (base : Precedence) (left : Shape) :
    (operatorsProgram literals base left).Descends (.operators literals base left) false := by
  simp +decide [operatorsProgram]
  intro _ ts
  split
  · next operator precedence heq =>
    simp +decide [toList_binaryOperator heq]
    exact fun _ _ => ⟨rfl, fun _ => rfl⟩
  · simp +decide
    exact ⟨fun _ => ⟨rfl, fun _ => rfl⟩, fun _ => ⟨fun _ => rfl, fun _ _ => ⟨rfl, fun _ _ _ => rfl⟩⟩⟩

/-- **The programs of the grammar begin with simpler phrases only.** -/
theorem descends_rule (p : Phrase) : (rule p).Descends p false := by
  cases p
  case terminated element => exact descends_terminated element
  case operators literals base left => exact descends_operators literals base left
  all_goals
    simp +decide [rule, hiddenProgram, segmentProgram, pathProgram, pathRestProgram,
      qualifiedPathProgram, modulePathProgram, moduleSegmentsProgram, callArgumentsProgram,
      signatureProgram, angleArgumentsProgram, argumentListProgram, argumentProgram,
      constArgumentProgram, constraintBoundsProgram, typeProgram, namedTypeProgram,
      parenthesisTypeProgram, parenthesisBodyProgram, sequenceTypeProgram, functionTypeProgram,
      functionArgumentsProgram, functionArgumentProgram, moreBoundsProgram, boundTailProgram,
      objectBoundsProgram, boundListProgram, boundProgram, traitBoundProgram, constWordProgram,
      captureProgram, captureListProgram, captureItemProgram, binderProgram, binderListProgram,
      attributesProgram, innerAttributesProgram, attributeBodyProgram, attributeValueProgram,
      patternProgram, pathPatternProgram, namePatternProgram, boundPatternProgram,
      rangePatternProgram, rangeRestProgram, rangeBoundProgram, alternativesProgram,
      alternativesRestProgram, patternListProgram, patternSliceProgram, fieldPatternsProgram,
      fieldPatternProgram, expressionProgram, operandProgram, operandRestProgram, rangeProgram,
      unaryProgram, atomProgram, pathExpressionProgram, blockExpressionProgram, conditionalProgram,
      armsProgram, closureProgram, closureArgumentsProgram, trailersProgram, memberProgram,
      positionProgram, positionsProgram, fieldValuesProgram, sequenceExpressionProgram,
      parenthesisExpressionProgram, statementExpressionProgram, blockProgram, blockBodyProgram,
      statementsProgram, statementProgram, bindingProgram, itemProgram, functionProgram,
      parameterProgram, useTreeProgram, recordProgram, enumerationProgram, overlayProgram,
      fieldProgram, fieldTypeProgram, fieldBlockProgram, variantProgram, visibilityProgram,
      scopeProgram, declarationProgram, genericsProgram, genericListProgram, genericProgram,
      lifetimeBoundsProgram, typeBoundsProgram, whereClauseProgram, predicatesProgram,
      predicateProgram, predicateLifetimesProgram, predicateBoundsProgram, optionalValue,
      expectWord, expectIdent]
    repeat' with_reducible first | apply And.intro | intro _ | (split <;> simp +decide)
    all_goals trivial

end Rules

end Accessors.Grammar
