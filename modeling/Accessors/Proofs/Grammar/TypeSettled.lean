import Accessors.Proofs.Grammar.Settled
import Accessors.Proofs.Grammar.TypeTaken

/-!
# Types end where they end

What is found for a type does not depend on what stands behind it, if that is nothing or what ends a
type. Inside of angle brackets commas do matter; there a closing bracket follows, which is part of the
type.

* `Phrase.need`: what has to be left in front of what ends a type.
* `settles_rule`: the programs of a type's phrases settle.
* `unspaced_type_unique`: the record of a field's type is the one that its own trees have.
* `type_exchanged`: a type is found again with something else behind it.
-/

namespace Accessors.Grammar

open Accessors.Token
open Recogniser

/-- What follows a phrase of types, if it stands in front of what ends a type. Some tree of the type
always follows the phrases that stand in angle brackets. -/
def Phrase.need : Phrase → Need
  | .argumentList | .argument | .constraintBounds | .captureList | .binderList => .some
  | .type _ | .namedType _ _ | .parenthesisType _ | .functionType | .fieldType _ | .signature => .quiet
  | .callArguments _ | .moreBounds _ | .boundTail | .objectBounds _ | .boundList _ _ _ _ _ => .quiet
  | .bound _ _ | .traitBound _ | .typeBounds => .quiet
  | _ => .any

/-- The phrase goes on with a type that has begun, or ends at once. -/
def Phrase.isTail : Phrase → Bool
  | .pathRest _ _ | .callArguments _ | .moreBounds _ | .boundTail => true
  | _ => false

variable {again : Phrase → List Tree → Option (Found Shape Shape)} {x : Exchange} {need : Need}

/-- The phrases of types are recognised as if something else stood behind them. -/
structure TypesSettle (again : Phrase → List Tree → Option (Found Shape Shape)) (x : Exchange) :
    Prop where
  faithful : Faithful again
  shy : ∀ p, p.isTail → ∀ ts k, again p (bang :: ts) = some k → k.rest = bang :: ts
  phrases : ∀ p, OfType p [] → SettlesBy x p.need (again p)

theorem TypesSettle.call (h : TypesSettle again x) {p : Phrase} {n : Need} (hp : OfType p [])
    (hneed : p.need.le n = true) : Settles again x n (call p) :=
  settles_call ((h.phrases p hp).weaken hneed)

theorem TypesSettle.splice (h : TypesSettle again x) {p : Phrase} {n : Need} (hp : OfType p [])
    (hneed : p.need.le n = true) : Settles again x n (splice p) :=
  settles_splice ((h.phrases p hp).weaken hneed)

/-- A phrase at the end, in front of what is needed there. -/
theorem TypesSettle.last (h : TypesSettle again x) {g : Program Shape}
    (hg : Settles again x .quiet g) (a : Shape) : Settles again x .quiet (g >>= fun _ => pure a) :=
  settles_bind_shy h.faithful hg (fun _ => settles_pure a) (fun _ => shy_pure a) rfl rfl

@[simp] theorem freeFor_nil (n : Nat) : FreeFor n [] := fun i _ => by simp [isWord]

section Rules

variable (h : TypesSettle again x)
include h

/-! ## Paths and their arguments -/

theorem settles_segment (inExpression : Bool) :
    Settles again x .any (segmentProgram inExpression) := by
  have hseparator : BlindTo x fun ts => isPunct "::" ts && isPunct "<" (ts.drop 2) :=
    blindTo_and_drop (blindTo_isPunct _ (by decide)) (blindTo_isPunct _ (by decide))
      fun _ => length_le_of_isPunctChars
  have hreplaced : BlindTo x fun ts => facesReplacedArguments (ts.drop (separatorSize ts)) :=
    blindTo_facesReplacedArguments_drop
  have hsize : BlindTo x fun ts => separatorSize ts :=
    fun ts hts => by simp only [separatorSize, blindTo_isPunct "::" (by decide), hts]
  unfold segmentProgram
  refine settles_ahead h.faithful (fun ts hts _ => ?_) fun ts => settles_ite ?_ ?_
  · simp only [blindTo_isOneOf, blindTo_isWord, hts]
  · exact settles_bind h.faithful settles_take fun _ => settles_pure _
  -- What follows the name, whichever way the name was taken.
  extract_lets later
  have hlater (u : Unit) : Settles again x .any (later u) := by
    refine settles_ahead h.faithful (fun ts hts _ => ?_) fun ts => ?_
    · simp only [↓hseparator, ↓hreplaced, hsize ts hts, blindTo_isPunct "<" (by decide),
        blindTo_isPunct "<=" (by decide), blindTo_isPunct "<<=" (by decide), hts]
    · refine settles_ite ?_ (settles_ite ?_ (settles_ite ?_ (settles_pure _)))
      · exact settles_bind h.faithful (h.call (by simp) rfl) fun _ => settles_pure _
      · exact h.splice (by simp) rfl
      · exact settles_bind h.faithful (settles_takeMany h.faithful 2) fun _ =>
          h.splice (by simp) rfl
  exact settles_ite (settles_bind h.faithful settles_take hlater)
    (settles_bind h.faithful (settles_expectIdent h.faithful) hlater)

theorem settles_path (inExpression : Bool) :
    Settles again x .any (pathProgram inExpression) := by
  unfold pathProgram
  refine settles_bind h.faithful (settles_optional h.faithful (by decide)) fun _ => ?_
  refine settles_bind h.faithful (h.splice (by simp) rfl) fun _ => ?_
  split
  · exact h.splice (by simp) rfl
  · exact settles_refuse

theorem settles_pathRest (inExpression : Bool) (soFar : PathShape) :
    Settles again x .any (pathRestProgram inExpression soFar) := by
  unfold pathRestProgram
  refine settles_bind h.faithful (settles_optional h.faithful (by decide)) fun _ => ?_
  refine settles_ite ?_ (settles_pure _)
  refine settles_bind h.faithful (h.splice (by simp) rfl) fun _ => ?_
  split
  · exact h.splice (by simp) rfl
  · exact settles_refuse

theorem settles_qualifiedPath (inExpression : Bool) :
    Settles again x .any (qualifiedPathProgram inExpression) := by
  unfold qualifiedPathProgram
  refine settles_ask h.faithful (fun ts hts _ => blindTo_isPunct _ (by decide) ts hts) ?_
    (h.splice (by simp) rfl)
  refine settles_bind h.faithful settles_take fun _ => ?_
  -- The closing bracket is what follows the type.
  refine settles_bind_takes h.faithful (h.call (n := .quiet) (by simp) rfl) (fun _ => ?_)
    (fun _ => shy_optionalWord (shy_expect (by decide) (by decide))) fun _ => takes_bind fun named => ?_
  case refine_2 =>
    cases named
    · exact takes_expect rfl
    · exact takes_bind fun _ => takes_expect rfl
  refine settles_bind h.faithful (settles_optionalWord h.faithful) fun _ => ?_
  extract_lets later
  have hlater (u : Unit) : Settles again x .any (later u) := by
    refine settles_bind h.faithful (settles_closer (c := '>') rfl) fun _ => ?_
    refine settles_bind h.faithful (settles_expect h.faithful (by decide)) fun _ => ?_
    refine settles_bind h.faithful (h.splice (by simp) rfl) fun _ => ?_
    split
    · exact h.splice (by simp) rfl
    · exact settles_refuse
  refine settles_ite ?_ (hlater ())
  exact settles_bind h.faithful (h.call (by simp) rfl) fun _ => hlater ()

theorem settles_callArguments (soFar : PathShape) :
    Settles again x .quiet (callArgumentsProgram soFar) := by
  unfold callArgumentsProgram
  refine settles_ahead h.faithful (fun ts hts _ => ?_) fun ts => settles_ite ?_ (settles_pure _)
  · simp only [blindTo_isParenthesis, hts]
  refine settles_bind_shy h.faithful (h.splice (n := .quiet) (by simp) rfl) (fun _ => ?_)
    (fun _ => ?_) rfl rfl
  · split
    · refine settles_bind h.faithful (h.splice (by simp) rfl) fun _ => ?_
      split
      · exact h.splice (by simp) rfl
      · exact settles_refuse
    · exact settles_pure _
  · split
    · refine shy_splice_bind (h.shy _ rfl) fun _ => ?_
      split
      · exact fun ts k hk => h.shy (.callArguments _) rfl ts k (run_splice.1 hk)
      · exact shy_refuse
    · exact shy_pure _

theorem settles_signature : Settles again x .quiet signatureProgram := by
  unfold signatureProgram
  refine settles_bind h.faithful (settles_inside h.faithful) fun _ => ?_
  refine settles_bind h.faithful (settles_optional h.faithful (by decide)) fun _ => ?_
  refine settles_ite ?_ (settles_pure _)
  exact settles_bind_shy h.faithful (h.call (n := .quiet) (by simp) rfl)
    (fun _ => settles_pure _) (fun _ => shy_pure _) rfl rfl

/-- The closing bracket is what follows the arguments. -/
theorem settles_angleArguments : Settles again x .any angleArgumentsProgram := by
  unfold angleArgumentsProgram
  refine settles_bind h.faithful (settles_expect h.faithful (by decide)) fun _ => ?_
  refine settles_ahead_takes h.faithful (fun ts _ hne => ?_) (fun ts => ?_) fun ts => ?_
  · simp only [isPunct_turn (o := ">") rfl (.inr hne)]
  · exact takes_bind fun _ => takes_expect rfl
  extract_lets filled
  exact settles_bind_takes h.faithful (settles_call (h.phrases .argumentList (by simp)))
    (fun _ => settles_bind h.faithful (settles_closer (c := '>') rfl) fun _ => settles_pure _)
    (fun _ => shy_expect (by decide) (by decide)) fun _ => takes_expect rfl

/-- Elements in angle brackets, which the closing bracket ends. -/
theorem settles_argumentList : Settles again x .some argumentListProgram := by
  unfold argumentListProgram
  refine settles_ask h.faithful (fun ts _ hne => isPunct_turn rfl (hne rfl)) (settles_pure _) ?_
  -- The tree that an argument needs is one that the list leaves, too.
  refine settles_bind_shy h.faithful (settles_call (h.phrases .argument (by simp))) (fun _ => ?_)
    (fun _ => shy_ask (fun _ => rfl) (shy_expect (by decide) (by decide))) rfl rfl
  refine settles_ask h.faithful (fun ts _ hne => isPunct_turn rfl (hne rfl)) (settles_pure _) ?_
  exact settles_bind h.faithful (settles_closer (c := ',') rfl) fun _ =>
    settles_splice (h.phrases .argumentList (by simp))

theorem settles_constArgument : Settles again x .any constArgumentProgram := by
  unfold constArgumentProgram
  refine settles_ahead h.faithful (fun ts hts _ => ?_) fun ts => settles_ite ?_ (settles_ite ?_ ?_)
  · simp only [blindTo_isLiteral, blindTo_literalSize, blindTo_isIdent, hts]
  · exact settles_bind h.faithful (settles_takeMany h.faithful _) fun _ => settles_pure _
  · exact settles_bind h.faithful settles_take fun _ => settles_pure _
  · exact h.splice (by simp) rfl

/-- One argument. The bounds of an associated item end at a comma or at the closing bracket. -/
theorem settles_argument : Settles again x .some argumentProgram := by
  have hlifetime : BlindTo x fun ts => isLifetime ts && !isPunct "+" (ts.drop 1) := by
    exact blindTo_and_drop (g := fun ts => !isPunct "+" ts) blindTo_isLifetime
      (blindTo_not (blindTo_isPunct "+" (by decide))) fun _ => length_pos_of_isLifetime
  unfold argumentProgram
  refine settles_ahead h.faithful (fun ts hts _ => ?_) fun ts => settles_ite ?_ (settles_ite ?_ ?_)
  · simp only [↓hlifetime, blindTo_facesConstant, hts]
  · exact settles_bind h.faithful settles_take fun _ => settles_pure _
  · exact h.splice (by simp) rfl
  refine settles_bind_shy h.faithful (h.call (n := .quiet) (by simp) rfl) (fun _ => ?_)
    (fun _ => ?_) rfl rfl
  case refine_2 =>
    split
    · exact shy_ite (shy_pure _) (shy_ask (fun _ => rfl) (shy_ask (fun _ => rfl) (shy_look (shy_pure _))))
    · exact shy_pure _
  split
  · refine settles_ite (settles_pure _) ?_
    refine settles_ahead h.faithful (fun ts hts hne => ?_) fun ts => settles_ite ?_ (settles_ite ?_ ?_)
    · simp only [isPunct_turn (o := "=") rfl (hne rfl), blindTo_isPunct ":" (by decide), hts]
    · refine settles_bind h.faithful settles_take fun _ => ?_
      refine settles_ask h.faithful (fun ts hts _ => blindTo_facesConstant ts hts)
        (h.splice (by simp) rfl) ?_
      exact settles_bind_shy h.faithful (h.call (n := .quiet) (by simp) rfl) (fun _ => settles_pure _)
        (fun _ => shy_pure _) rfl rfl
    · exact settles_bind h.faithful settles_take fun _ =>
        settles_splice (h.phrases .constraintBounds (by simp))
    · exact settles_pure _
  · exact settles_pure _

theorem settles_constraintBounds : Settles again x .some constraintBoundsProgram := by
  unfold constraintBoundsProgram
  refine settles_ahead h.faithful (fun ts _ hne => ?_) fun ts => settles_ite (settles_pure _) ?_
  · simp only [isPunct_turn (o := ",") rfl (hne rfl), isPunct_turn (o := ">") rfl (hne rfl)]
  refine settles_bind_shy h.faithful (h.call (n := .quiet) (by simp) rfl) (fun _ => ?_)
    (fun _ => shy_optional (by decide) (by decide) (shy_pure _)) rfl rfl
  refine settles_bind h.faithful (settles_optional h.faithful (by decide)) fun _ => ?_
  exact settles_ite (settles_splice (h.phrases .constraintBounds (by simp))) (settles_pure _)

theorem settles_block (inner : Bool) : Settles again x .any (blockProgram inner) :=
  settles_bind h.faithful (settles_inside h.faithful) fun _ => settles_pure _

theorem settles_attributes (present : Bool) :
    Settles again x .any (attributesProgram present) := by
  unfold attributesProgram
  refine settles_ask h.faithful (fun ts hts _ => blindTo_isPunct _ (by decide) ts hts) ?_
    (settles_pure _)
  refine settles_bind h.faithful settles_take fun _ => ?_
  refine settles_bind h.faithful (settles_inside h.faithful) fun _ => ?_
  exact h.splice (by simp) rfl

/-! ## Types -/

theorem settles_fieldType (unnamed : Bool) :
    Settles again x .quiet (fieldTypeProgram unnamed) := by
  have hunion : BlindTo x fun ts => isWord "union" ts && isBrace (ts.drop 1) := by
    refine blindTo_and_drop (blindTo_isWord) (blindTo_isBrace) fun ts hts => ?_
    cases ts with
    | nil => cases hts
    | cons t rest => simp
  unfold fieldTypeProgram
  refine settles_ahead h.faithful (fun ts hts _ => ?_) fun ts => settles_ite ?_ (h.splice (by simp) rfl)
  · simp only [↓hunion, blindTo_isWord, hts]
  · refine settles_bind h.faithful settles_take fun _ => ?_
    exact settles_bind h.faithful (settles_inside h.faithful) fun _ => settles_pure _

theorem settles_type (plus : Bool) : Settles again x .quiet (typeProgram plus) := by
  unfold typeProgram
  refine settles_ahead h.faithful (fun ts hts _ => ?_) fun ts => ?_
  · simp only [blindTo_isWord, hts]
  -- A reference goes on behind its lifetime, and every type behind the lifetimes that it is for.
  extract_lets bound referred later
  have hreferred (u : Unit) : Settles again x .quiet (referred u) := by
    refine settles_bind h.faithful (settles_optionalWord h.faithful) fun _ => ?_
    exact h.last (h.call (by simp) rfl) _
  have hlater (u : Unit) : Settles again x .quiet (later u) := by
    refine settles_ahead h.faithful (fun ts hts _ => ?_) fun ts => ?_
    · simp only [blindTo_isOneOf, blindTo_isIdent, blindTo_isParenthesis,
        blindTo_isBracket, blindTo_isWord, blindTo_isLifetime,
        blindTo_isPunct "::" (by decide), blindTo_isPunct "<" (by decide),
        blindTo_isPunct "*" (by decide), blindTo_isPunct "&" (by decide),
        blindTo_isPunct "!" (by decide), hts]
    extract_lets isFunction isPath
    refine settles_ite ?_ (settles_ite ?_ (settles_ite ?_ (settles_ite ?_ (settles_ite ?_
      (settles_ite ?_ (settles_ite ?_ (settles_ite ?_ (settles_ite ?_ (settles_ite ?_
      (settles_ite ?_ (settles_ite ?_ ?_)))))))))))
    · exact h.splice (by simp) rfl
    · exact h.splice (by simp) rfl
    · exact settles_refuse
    · exact h.splice (by simp [isWord]) rfl
    · exact h.splice (by simp) rfl
    · refine settles_bind h.faithful settles_take fun _ => ?_
      refine settles_bind h.faithful (settles_optional h.faithful (by decide)) fun _ => ?_
      exact h.last (h.splice (by simp) rfl) _
    · exact settles_bind h.faithful (settles_within _) fun _ => settles_pure _
    · refine settles_bind h.faithful settles_take fun _ => ?_
      have hword : BlindTo x (isOneOf ["const", "mut"]) := blindTo_isOneOf
      refine settles_bind h.faithful (settles_takeIf h.faithful hword) fun _ => ?_
      exact h.last (h.call (by simp) rfl) _
    · refine settles_bind h.faithful settles_take fun _ => ?_
      exact settles_ask h.faithful (fun ts hts _ => blindTo_isLifetime ts hts)
        (settles_bind h.faithful settles_take hreferred) (hreferred ())
    · exact settles_bind h.faithful settles_take fun _ => settles_pure _
    · refine settles_bind h.faithful settles_take fun _ => ?_
      refine settles_bind_shy h.faithful (h.splice (n := .quiet) (by simp) rfl) (fun _ => ?_)
        (fun _ => ?_) rfl rfl
      · split
        · exact settles_pure _
        · exact settles_refuse
      · split
        · exact shy_pure _
        · exact shy_refuse
    · exact h.splice (by simp) rfl
    · exact settles_refuse
  refine settles_ite ?_ (hlater ())
  exact settles_bind h.faithful (h.call (by simp) rfl) fun _ => hlater ()

theorem settles_namedType (bound plus : Bool) :
    Settles again x .quiet (namedTypeProgram bound plus) := by
  have hgroup : isAnyGroup x.after = false := by
    rcases x.closes with hnil | ⟨c, joint, rest, -, hcloser⟩
    · rw [hnil]; rfl
    · rw [hcloser]; rfl
  unfold namedTypeProgram
  refine settles_bind h.faithful (h.splice (by simp) rfl) fun _ => ?_
  split
  · -- An exclamation mark without a group behind it is left.
    have hcalm (s : PathShape) {ts rest : List Tree} {k : Found Shape Shape}
        (hk : (ahead >>= fun ts =>
          if s.qualified then pure (.path s)
          else if isBang ts && s.bare then take >>= fun _ => takeIf isAnyGroup >>= fun _ => pure .plain
          else if plus && isPunct "+" ts then splice (.moreBounds false)
          else if bound then pure (.object true)
          else pure (.path s) : Program Shape).run again (ts ++ x.after) = some k)
        (hrest : k.rest = rest ++ x.after) (hquiet : Quiet x rest) : Quiet x ts := by
      refine quiet_of_left hrest hquiet fun hts => ?_
      subst hts
      rw [run_ahead_bind] at hk
      split at hk
      · exact shy_pure _ _ k hk
      · split at hk
        · obtain ⟨_, _, l, heq, hl, -⟩ := run_take_bind.1 hk
          cases heq
          obtain ⟨_, _, _, hany, -⟩ := run_takeIf_bind.1 hl
          simp [hgroup] at hany
        · split at hk
          · exact h.shy _ rfl _ k (run_splice.1 hk)
          · split at hk
            · exact shy_pure _ _ k hk
            · exact shy_pure _ _ k hk
    refine settles_bind_inner h.faithful (h.splice (n := .quiet) (by simp) rfl) (fun _ => ?_)
      fun shape ts k rest hk hrest hquiet => ?_
    rotate_left
    · split at hk
      · exact hcalm _ hk hrest hquiet
      · exact absurd hk run_refuse
    split
    · next s =>
      refine settles_ahead_of_run (fun ts k rest hts hk hrest hquiet => ?_) fun ts => ?_
      · have hbang := isBang_turn (hcalm s hk hrest hquiet)
        simp only [hbang, blindTo_isPunct "+" (by decide), hts]
      refine settles_ite (settles_pure _) (settles_ite ?_ (settles_ite ?_ (settles_ite ?_ ?_)))
      · refine settles_bind h.faithful settles_take fun _ => ?_
        exact settles_bind h.faithful (settles_takeIf h.faithful blindTo_isAnyGroup)
          fun _ => settles_pure _
      · exact h.splice (by simp) rfl
      · exact settles_pure _
      · exact settles_pure _
    · exact settles_refuse
  · exact settles_refuse

theorem settles_parenthesisType (plus : Bool) :
    Settles again x .quiet (parenthesisTypeProgram plus) := by
  unfold parenthesisTypeProgram
  refine settles_ahead h.faithful (fun ts hts _ => ?_) fun ts => ?_
  · simp only [blindTo_groupBody, hts]
  extract_lets body
  refine settles_ite ?_ (settles_ite ?_ (settles_ite ?_ ?_))
  · exact settles_bind h.faithful settles_take fun _ => settles_pure _
  · exact settles_bind h.faithful (settles_within _) fun _ => settles_pure _
  · exact settles_bind h.faithful (settles_within _) fun _ => h.splice (by simp) rfl
  · refine settles_bind h.faithful (settles_within _) fun _ => ?_
    split
    · exact settles_pure _
    · refine settles_ahead h.faithful (fun ts hts _ => ?_) fun ts => settles_ite ?_ (settles_pure _)
      · simp only [blindTo_isPunct "+" (by decide), hts]
      · exact h.splice (by simp) rfl
    · exact settles_pure _

theorem settles_functionType : Settles again x .quiet functionTypeProgram := by
  unfold functionTypeProgram
  refine settles_bind h.faithful (settles_optionalWord h.faithful) fun _ => ?_
  refine settles_bind h.faithful (settles_optionalWord h.faithful) fun _ => ?_
  extract_lets ended later
  have hlater (u : Unit) : Settles again x .quiet (later u) := by
    refine settles_bind h.faithful (settles_expectWord h.faithful) fun _ => ?_
    refine settles_bind h.faithful (settles_inside h.faithful) fun _ => ?_
    refine settles_bind h.faithful (settles_optional h.faithful (by decide)) fun _ => ?_
    refine settles_ite ?_ (settles_pure _)
    exact h.last (h.call (by simp) rfl) _
  refine settles_ite ?_ (hlater ())
  exact settles_ask h.faithful (fun ts hts _ => blindTo_isStringLiteral ts hts)
    (settles_bind h.faithful settles_take hlater) (hlater ())

/-! ## Bounds -/

theorem settles_moreBounds (joined : Bool) :
    Settles again x .quiet (moreBoundsProgram joined) := by
  unfold moreBoundsProgram
  refine settles_bind h.faithful (settles_optional h.faithful (by decide)) fun _ => ?_
  refine settles_ite ?_ (settles_pure _)
  refine settles_ask h.faithful (fun ts hts _ => blindTo_facesBound ts hts) ?_ (settles_pure _)
  exact settles_bind_shy h.faithful (h.call (n := .quiet) (by simp) rfl)
    (fun _ => h.splice (by simp) rfl)
    (fun _ ts k hk => h.shy _ rfl ts k (run_splice.1 hk)) rfl rfl

theorem settles_boundTail : Settles again x .quiet boundTailProgram := by
  unfold boundTailProgram
  refine settles_bind h.faithful (settles_optional h.faithful (by decide)) fun _ => ?_
  refine settles_ite ?_ (settles_pure _)
  exact settles_bind_shy h.faithful (h.call (n := .quiet) (by simp) rfl)
    (fun _ => h.splice (by simp) rfl)
    (fun _ ts k hk => h.shy _ rfl ts k (run_splice.1 hk)) rfl rfl

theorem settles_objectBounds (plus : Bool) :
    Settles again x .quiet (objectBoundsProgram plus) := by
  unfold objectBoundsProgram
  refine settles_bind_shy h.faithful (h.splice (n := .quiet) (by simp) rfl) (fun _ => ?_)
    (fun _ => ?_) rfl rfl
  · split
    · exact settles_pure _
    · exact settles_refuse
  · split
    · exact shy_pure _
    · exact shy_refuse

theorem settles_boundList (plus captures const hasTrait joined : Bool) :
    Settles again x .quiet (boundListProgram plus captures const hasTrait joined) := by
  unfold boundListProgram
  refine settles_bind_shy h.faithful (h.call (n := .quiet) (by simp) rfl) (fun _ => ?_)
    (fun _ => shy_ask (fun _ => Bool.and_false _) (shy_look (shy_pure _))) rfl rfl
  extract_lets hasTrait
  refine settles_ahead h.faithful (fun ts hts _ => ?_) fun ts => settles_ite ?_ (settles_pure _)
  · simp only [blindTo_isPunct "+" (by decide), hts]
  refine settles_bind h.faithful settles_take fun _ => ?_
  refine settles_ahead h.faithful (fun ts hts _ => ?_) fun ts => settles_ite ?_ (settles_pure _)
  · simp only [blindTo_facesBound, blindTo_isBracket, hts]
  · exact h.splice (by simp) rfl

theorem settles_bound (captures const : Bool) :
    Settles again x .quiet (boundProgram captures const) := by
  unfold boundProgram
  refine settles_ahead h.faithful (fun ts hts _ => ?_) fun ts => ?_
  · simp only [blindTo_isLifetime, blindTo_isWord, blindTo_isParenthesis, hts]
  refine settles_ite ?_ (settles_ite (settles_ite ?_ settles_refuse) (settles_ite ?_ ?_))
  · exact settles_bind h.faithful settles_take fun _ => settles_pure _
  · exact h.splice (by simp) rfl
  · exact settles_bind h.faithful (settles_within _) fun _ => settles_pure _
  · exact h.splice (by simp) rfl

/-- A trait as a bound. Whatever stood in front of its path, the path goes on in the same way. -/
theorem settles_traitBound (const : Bool) :
    Settles again x .quiet (traitBoundProgram const) := by
  unfold traitBoundProgram
  refine settles_ahead h.faithful (fun ts hts _ => ?_) fun ts => ?_
  · simp only [blindTo_isWord, hts]
  extract_lets bound ended named relaxed bracketed later
  have hended (u : Unit) : Settles again x .quiet (ended u) := settles_pure _
  have hnamed (u : Unit) : Settles again x .quiet (named u) := by
    refine settles_bind h.faithful (h.splice (by simp) rfl) fun _ => ?_
    split
    · refine settles_ahead h.faithful (fun ts hts _ => ?_) fun ts => settles_ite ?_ (hended ())
      · simp only [blindTo_isParenthesis, hts]
      · exact settles_bind_shy h.faithful (h.splice (n := .quiet) (by simp) rfl) (fun _ => hended ())
          (fun _ => shy_pure _) rfl rfl
    · exact settles_refuse
  have hrelaxed (u : Unit) : Settles again x .quiet (relaxed u) := by
    refine settles_bind h.faithful (settles_optional h.faithful (by decide)) fun _ => ?_
    refine settles_ahead h.faithful (fun ts hts _ => ?_) fun ts => settles_ite ?_ (hnamed ())
    · simp only [blindTo_isWord, hts]
    · exact settles_bind h.faithful settles_refuse hnamed
  have hbracketed (u : Unit) : Settles again x .quiet (bracketed u) :=
    settles_bind h.faithful (settles_within _) fun _ => hrelaxed ()
  have hlater (u : Unit) : Settles again x .quiet (later u) := by
    refine settles_ahead h.faithful (fun ts hts _ => ?_) fun ts => ?_
    · simp only [blindTo_isBracket, blindTo_isWord, hts]
    refine settles_ite (settles_ite ?_ (hbracketed ()))
      (settles_ite (settles_ite ?_ ?_) (hrelaxed ()))
    · exact settles_bind h.faithful settles_refuse hbracketed
    · exact settles_bind h.faithful settles_take hrelaxed
    · exact settles_bind h.faithful settles_refuse hrelaxed
  refine settles_ite ?_ (hlater ())
  exact settles_bind h.faithful (h.call (by simp) rfl) fun _ => hlater ()

theorem settles_capture : Settles again x .any captureProgram := by
  unfold captureProgram
  refine settles_bind h.faithful (settles_expectWord h.faithful) fun _ => ?_
  refine settles_bind h.faithful (settles_expect h.faithful (by decide)) fun _ => ?_
  exact settles_bind_takes h.faithful (settles_call (h.phrases .captureList (by simp)))
    (fun _ => settles_bind h.faithful (settles_closer (c := '>') rfl) fun _ => settles_pure _)
    (fun _ => shy_expect (by decide) (by decide)) fun _ => takes_expect rfl

theorem settles_captureList : Settles again x .some captureListProgram := by
  unfold captureListProgram
  refine settles_ask h.faithful (fun ts _ hne => isPunct_turn rfl (hne rfl)) (settles_pure _) ?_
  refine settles_bind h.faithful (h.call (by simp) rfl) fun _ => ?_
  refine settles_ask h.faithful (fun ts _ hne => isPunct_turn rfl (hne rfl)) (settles_pure _) ?_
  exact settles_bind h.faithful (settles_closer (c := ',') rfl) fun _ =>
    settles_splice (h.phrases .captureList (by simp))

theorem settles_captureItem : Settles again x .any captureItemProgram := by
  have hname : BlindTo x fun ts => isIdent ts || isWord "Self" ts :=
    blindTo_or (blindTo_isIdent) (blindTo_isWord)
  unfold captureItemProgram
  refine settles_ask h.faithful (fun ts hts _ => blindTo_isLifetime ts hts) ?_ ?_
  · exact settles_bind h.faithful settles_take fun _ => settles_pure _
  · exact settles_bind h.faithful (settles_takeIf h.faithful hname) fun _ => settles_pure _

theorem settles_binder : Settles again x .any binderProgram := by
  unfold binderProgram
  refine settles_bind h.faithful (settles_expectWord h.faithful) fun _ => ?_
  refine settles_bind h.faithful (settles_expect h.faithful (by decide)) fun _ => ?_
  exact settles_bind_takes h.faithful (settles_splice (h.phrases .binderList (by simp)))
    (fun _ => settles_bind h.faithful (settles_closer (c := '>') rfl) fun _ => settles_pure _)
    (fun _ => shy_expect (by decide) (by decide)) fun _ => takes_expect rfl

theorem settles_binderList : Settles again x .some binderListProgram := by
  unfold binderListProgram
  refine settles_ask h.faithful (fun ts _ hne => isPunct_turn rfl (hne rfl)) (settles_pure _) ?_
  refine settles_bind h.faithful (h.splice (by simp) rfl) fun _ => ?_
  refine settles_bind h.faithful (settles_takeIf h.faithful blindTo_isLifetime) fun _ => ?_
  refine settles_ask h.faithful (fun ts _ hne => isPunct_turn rfl (hne rfl)) (settles_pure _) ?_
  exact settles_bind h.faithful (settles_closer (c := ',') rfl) fun _ =>
    settles_splice (h.phrases .binderList (by simp))

/-! ## All of them -/

omit h in
/-- What goes on with a type takes no exclamation mark. -/
theorem shy_rule {p : Phrase} (hp : p.isTail = true) : Shy again (rule p) := by
  cases p with
  | pathRest e s => exact shy_optional (by decide) (by decide) (shy_pure _)
  | callArguments s => exact shy_ask (fun _ => Bool.and_false _) (shy_look (shy_pure _))
  | moreBounds joined => exact shy_optional (by decide) (by decide) (shy_pure _)
  | boundTail => exact shy_optional (by decide) (by decide) (shy_pure _)
  | _ => cases hp

/-- **The phrases of types settle.** -/
theorem settles_rule {p : Phrase} (hp : OfType p []) :
    Settles again x p.need (rule p) := by
  cases hp with
  | hidden _ =>
    exact settles_bind h.faithful (settles_takeMany h.faithful _) fun _ => settles_pure _
  | parenthesisType plus _ => exact settles_parenthesisType h plus
  | segment e => exact settles_segment h e
  | path e => exact settles_path h e
  | pathRest e soFar => exact settles_pathRest h e soFar
  | qualifiedPath e => exact settles_qualifiedPath h e
  | callArguments soFar => exact settles_callArguments h soFar
  | signature => exact settles_signature h
  | angleArguments => exact settles_angleArguments h
  | argumentList => exact settles_argumentList h
  | argument => exact settles_argument h
  | constArgument => exact settles_constArgument h
  | constraintBounds => exact settles_constraintBounds h
  | block inner => exact settles_block h inner
  | fieldType unnamed => exact settles_fieldType h unnamed
  | type plus => exact settles_type h plus
  | namedType bound plus => exact settles_namedType h bound plus
  | functionType => exact settles_functionType h
  | moreBounds joined => exact settles_moreBounds h joined
  | boundTail => exact settles_boundTail h
  | objectBounds plus => exact settles_objectBounds h plus
  | boundList plus captures const hasTrait joined =>
    exact settles_boundList h plus captures const hasTrait joined
  | bound captures const => exact settles_bound h captures const
  | traitBound const => exact settles_traitBound h const
  | capture => exact settles_capture h
  | captureList => exact settles_captureList h
  | captureItem => exact settles_captureItem h
  | binder => exact settles_binder h
  | binderList => exact settles_binderList h
  | attributes present => exact settles_attributes h present

end Rules

/-- However deep programs nest, types settle. -/
theorem typesSettle_recogniseWithin (x : Exchange) (fuel : Nat) :
    TypesSettle (recogniseWithin rule fuel) x := by
  induction fuel with
  | zero => exact ⟨recogniseWithin_faithful rule 0, nofun, fun _ _ _ _ _ _ hk => by cases hk⟩
  | succ fuel ih =>
    exact ⟨recogniseWithin_faithful rule (fuel + 1), fun p hp => shy_rule hp,
      fun p hp => settles_rule ih hp⟩

/-- A type is found again in its own trees, with nothing behind them. -/
theorem type_alone {unnamed : Bool} {fuel : Nat} {ts : List Tree} {k : Found Shape Shape}
    (hstops : Stops k.rest) (hk : recogniseWithin rule fuel (.fieldType unnamed) ts = some k) :
    ∃ j, recogniseWithin rule fuel (.fieldType unnamed) (endAlone (treesOf k.parts)) = some j ∧
      Settled (.alone hstops) k j [] := by
  have hts := recogniseWithin_faithful rule fuel _ _ _ hk
  rw [← hts] at hk
  exact (typesSettle_recogniseWithin (.alone hstops) fuel).phrases _ (by simp) _ k [] (.inl rfl) hk rfl
    (.inl rfl)

/-- **The record of a field's type is that of its own trees.** Two types with the same trees have
the same record, but for spacing, whatever stands behind them. -/
theorem unspaced_type_unique {unnamed : Bool} {m n : Nat} {ts us : List Tree}
    {k l : Found Shape Shape} (hafter : Stops k.rest) (hbeyond : Stops l.rest)
    (hk : recogniseWithin rule m (.fieldType unnamed) ts = some k)
    (hl : recogniseWithin rule n (.fieldType unnamed) us = some l)
    (htrees : endAlone (treesOf k.parts) = endAlone (treesOf l.parts)) :
    (Node.phrase k.result k.parts).unspaced = (Node.phrase l.result l.parts).unspaced := by
  obtain ⟨j, hj, hsettled⟩ := type_alone hafter hk
  obtain ⟨j', hj', hsettled'⟩ := type_alone hbeyond hl
  rw [htrees] at hj
  -- The trees are the same now, so both searches find one record, however deep they go.
  obtain rfl : j = j' :=
    run_unique (g := splice (.fieldType unnamed)) (run_splice.2 hj) (run_splice.2 hj')
  -- Both records are that one, but for spacing.
  simp only [Node.unspaced, ← hsettled.result, ← hsettled'.result, ← hsettled.parts,
    ← hsettled'.parts]

/-- What ends a parameter ends its bounds, and so does nothing. -/
theorem settles_typeBounds (x : Exchange) (fuel : Nat) :
    SettlesBy x .quiet (recogniseWithin rule fuel .typeBounds) := by
  have hends {listed : Bool} {ts : List Tree} (h : Closes listed ts) :
      (ts.isEmpty || isOperatorOf [",", ">", "="] ts) = true := by
    rcases h with rfl | ⟨c, joint, rest, hc, rfl⟩
    · rfl
    · have hcloser : c = ',' ∨ c = '=' ∨ c = '>' := by
        cases listed <;> simp_all [isCloser]
      rcases hcloser with rfl | rfl | rfl <;> rfl
  have hblind : BlindTo x fun ts => ts.isEmpty || isOperatorOf [",", ">", "="] ts := by
    intro ts _
    cases ts with
    | nil => exact (hends x.closes).trans (hends Exchange.turn_nil).symm
    | cons t ts =>
      obtain ⟨u, hu, -⟩ := x.turn_cons t ts
      have hsome : (x.turn (t :: ts)).isEmpty = false := by rw [hu]; rfl
      simp only [isOperatorOf, List.any_cons, List.any_nil, hsome,
        isPunct_turn (o := ",") rfl (.inr (List.cons_ne_nil t ts)),
        isPunct_turn (o := ">") rfl (.inr (List.cons_ne_nil t ts)),
        isPunct_turn (o := "=") rfl (.inr (List.cons_ne_nil t ts))]
      rfl
  induction fuel with
  | zero => exact fun _ _ _ _ hk => by cases hk
  | succ fuel ih =>
    have h := typesSettle_recogniseWithin x fuel
    change Settles _ x .quiet typeBoundsProgram
    unfold typeBoundsProgram
    refine settles_ask h.faithful (fun ts hts _ => hblind ts hts) (settles_pure _) ?_
    refine settles_bind_shy h.faithful (h.call (n := .quiet) (by simp) rfl) (fun _ => ?_)
      (fun _ => shy_optional (by decide) (by decide) (shy_pure _)) rfl rfl
    exact settles_bind h.faithful (settles_optional h.faithful (by decide)) fun _ =>
      settles_ite (settles_splice ih) (settles_pure _)

/-- What settles is found again with something else behind it that ends a type, too. -/
theorem exchanged_of_settles {p : Phrase} {fuel : Nat}
    (hsettles : ∀ x, SettlesBy x p.need (recogniseWithin rule fuel p)) {ts beyond : List Tree}
    {k : Found Shape Shape} (hk : recogniseWithin rule fuel p ts = some k) {listed : Bool}
    (hends : Closes listed k.rest) (hbeyond : Closes listed beyond)
    (hfits : listed = true ∨ ∀ joint, (treesOf k.parts).getLast? ≠ some (.leaf (.punct '<' joint)) ∧
      (treesOf k.parts).getLast? ≠ some (.leaf (.punct '-' joint)))
    (hsame : p.need.le .quiet = true ∨ ∃ c i j rest others, k.rest = .leaf (.punct c i) :: rest ∧
      beyond = .leaf (.punct c j) :: others) :
    recogniseWithin rule fuel p (treesOf k.parts ++ beyond) = some { k with rest := beyond } := by
  have hts := recogniseWithin_faithful rule fuel _ _ _ hk
  rw [← hts] at hk
  let x : Exchange := ⟨listed, k.rest, some beyond, hends, fun b hb => by cases hb; exact hbeyond⟩
  have hquiet : Quiet x [] := .inr (by simp)
  have hneed : p.need.holds x [] := by
    rcases hsame with hle | ⟨c, i, j, rest, others, hrest, rfl⟩
    · exact Need.holds_of_le hle hquiet
    · exact Need.holds_of_le (n := .some) (by cases p.need <;> rfl)
        ⟨.inl ⟨c, i, j, rest, others, hrest, rfl⟩, hquiet⟩
  obtain ⟨l, hl, hsettled⟩ := hsettles x _ k [] hfits hk rfl hneed
  have htrees : treesOf l.parts ++ beyond = treesOf k.parts ++ beyond := by
    have hall := recogniseWithin_faithful rule fuel _ _ _ hl
    rwa [hsettled.rest] at hall
  have hparts := eqOf_of_unspaced hsettled.parts (List.append_cancel_right htrees)
  have hfound : l = { k with rest := beyond } := by
    have hresult := hsettled.result
    have hrest : l.rest = beyond := hsettled.rest
    cases l
    simp_all
  rw [← hfound]
  exact hl

/-- **A type is found again with something else behind it**, if that ends a type. What ends it has to be
the same for arguments, and it may be no part of an operator that the type ends with. -/
theorem type_exchanged {p : Phrase} (hp : OfType p []) {fuel : Nat} {ts beyond : List Tree}
    {k : Found Shape Shape} (hk : recogniseWithin rule fuel p ts = some k) {listed : Bool}
    (hends : Closes listed k.rest) (hbeyond : Closes listed beyond)
    (hfits : listed = true ∨ ∀ joint, (treesOf k.parts).getLast? ≠ some (.leaf (.punct '<' joint)) ∧
      (treesOf k.parts).getLast? ≠ some (.leaf (.punct '-' joint)))
    (hsame : p.need.le .quiet = true ∨ ∃ c i j rest others, k.rest = .leaf (.punct c i) :: rest ∧
      beyond = .leaf (.punct c j) :: others) :
    recogniseWithin rule fuel p (treesOf k.parts ++ beyond) = some { k with rest := beyond } :=
  exchanged_of_settles (fun x => (typesSettle_recogniseWithin x fuel).phrases p hp) hk hends hbeyond hfits
    hsame

end Accessors.Grammar
