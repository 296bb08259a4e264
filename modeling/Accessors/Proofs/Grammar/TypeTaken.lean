import Accessors.Grammar.Rules
import Accessors.Proofs.Grammar.Taken

/-!
# Types do not have the word `pub`

A type takes names, operators, lifetimes, literals and groups, and some words of the language. None
of its phrases takes the word `pub`, which can only be inside of its groups.

* `OfType`: the phrases of types, and what has to be known where they begin.
* `spares_rule`: their programs spare the word.
* `pubFree_of_recognised`: what is recognised by them does not have it.
-/

namespace Accessors.Grammar

open Accessors.Token
open Recogniser

/-- A phrase that a type calls for outside of groups. Two of them take trees without looking, and
rely on what was seen before. -/
inductive OfType : Phrase → List Tree → Prop where
  | hidden {count : Nat} {ts : List Tree} (h : FreeFor count ts) : OfType (.hidden count) ts
  | parenthesisType (plus : Bool) {ts : List Tree} (h : isWord "pub" ts = false) :
    OfType (.parenthesisType plus) ts
  | segment (inExpression : Bool) (ts : List Tree) : OfType (.segment inExpression) ts
  | path (inExpression : Bool) (ts : List Tree) : OfType (.path inExpression) ts
  | pathRest (inExpression : Bool) (soFar : PathShape) (ts : List Tree) :
    OfType (.pathRest inExpression soFar) ts
  | qualifiedPath (inExpression : Bool) (ts : List Tree) : OfType (.qualifiedPath inExpression) ts
  | callArguments (soFar : PathShape) (ts : List Tree) : OfType (.callArguments soFar) ts
  | signature (ts : List Tree) : OfType .signature ts
  | angleArguments (ts : List Tree) : OfType .angleArguments ts
  | argumentList (ts : List Tree) : OfType .argumentList ts
  | argument (ts : List Tree) : OfType .argument ts
  | constArgument (ts : List Tree) : OfType .constArgument ts
  | constraintBounds (ts : List Tree) : OfType .constraintBounds ts
  | block (inner : Bool) (ts : List Tree) : OfType (.block inner) ts
  | fieldType (unnamed : Bool) (ts : List Tree) : OfType (.fieldType unnamed) ts
  | type (plus : Bool) (ts : List Tree) : OfType (.type plus) ts
  | namedType (bound plus : Bool) (ts : List Tree) : OfType (.namedType bound plus) ts
  | functionType (ts : List Tree) : OfType .functionType ts
  | moreBounds (joined : Bool) (ts : List Tree) : OfType (.moreBounds joined) ts
  | boundTail (ts : List Tree) : OfType .boundTail ts
  | objectBounds (plus : Bool) (ts : List Tree) : OfType (.objectBounds plus) ts
  | boundList (plus captures const hasTrait joined : Bool) (ts : List Tree) :
    OfType (.boundList plus captures const hasTrait joined) ts
  | bound (captures const : Bool) (ts : List Tree) : OfType (.bound captures const) ts
  | traitBound (const : Bool) (ts : List Tree) : OfType (.traitBound const) ts
  | capture (ts : List Tree) : OfType .capture ts
  | captureList (ts : List Tree) : OfType .captureList ts
  | captureItem (ts : List Tree) : OfType .captureItem ts
  | binder (ts : List Tree) : OfType .binder ts
  | binderList (ts : List Tree) : OfType .binderList ts
  | attributes (present : Bool) (ts : List Tree) : OfType (.attributes present) ts

attribute [simp, grind .] OfType.segment OfType.path OfType.pathRest OfType.qualifiedPath
  OfType.callArguments OfType.signature OfType.angleArguments OfType.argumentList OfType.argument
  OfType.constArgument OfType.constraintBounds OfType.block OfType.fieldType OfType.type
  OfType.namedType OfType.functionType OfType.moreBounds OfType.boundTail OfType.objectBounds
  OfType.boundList OfType.bound OfType.traitBound OfType.capture OfType.captureList
  OfType.captureItem OfType.binder OfType.binderList OfType.attributes

@[simp, grind =] theorem ofType_hidden {count : Nat} {ts : List Tree} :
    OfType (.hidden count) ts ↔ FreeFor count ts :=
  ⟨fun h => by cases h; assumption, .hidden⟩

@[simp, grind =] theorem ofType_parenthesisType {plus : Bool} {ts : List Tree} :
    OfType (.parenthesisType plus) ts ↔ isWord "pub" ts = false :=
  ⟨fun h => by cases h; assumption, .parenthesisType plus⟩

/-- The program spares the word wherever it begins. -/
abbrev Harmless (g : Program Shape) : Prop := ∀ ts, g.Spares OfType ts fun _ _ => True

/-! ## Paths and their arguments -/

theorem freeFor_add {m n : Nat} {ts : List Tree} :
    FreeFor (m + n) ts ↔ FreeFor m ts ∧ FreeFor n (ts.drop m) := by
  refine ⟨fun h => ⟨fun i hi => h i (by omega), fun i hi => ?_⟩, fun ⟨hm, hn⟩ i hi => ?_⟩
  · rw [List.drop_drop]
    exact h (m + i) (by omega)
  · by_cases him : i < m
    · exact hm i him
    · have hlater := hn (i - m) (by omega)
      rwa [List.drop_drop, show m + (i - m) = i by omega] at hlater

theorem freeFor_separatorSize (ts : List Tree) : FreeFor (separatorSize ts) ts := by
  unfold separatorSize
  split
  · next h => exact freeFor_separator h
  · exact fun _ hi => absurd hi (Nat.not_lt_zero _)

@[grind →] theorem freeFor_of_facesReplacedArguments {ts : List Tree}
    (h : facesReplacedArguments (ts.drop (separatorSize ts)) = true) :
    FreeFor (separatorSize ts + 2) ts := by
  simp only [facesReplacedArguments, Bool.and_eq_true] at h
  obtain ⟨⟨hopen, hclose⟩, -⟩ := h
  refine freeFor_add.2 ⟨freeFor_separatorSize ts, fun i hi => ?_⟩
  rcases Nat.lt_succ_iff_lt_or_eq.1 hi with hi | rfl
  · exact freeFor_of_isPunct hopen i hi
  · exact not_pub_of_isPunct hclose (by decide)

theorem harmless_segment (inExpression : Bool) : Harmless (segmentProgram inExpression) := by
  intro ts
  -- What follows the name, whichever way the name was taken.
  simp only [segmentProgram, spares_bind, spares_ahead, spares_ite, spares_take, spares_expectIdent]
  refine ⟨fun h => ⟨not_pub_of_isOneOf h (by decide), trivial⟩, fun _ => ⟨fun h => ?_, fun _ _ => ?_⟩⟩
  · refine ⟨not_pub_of_isWord h (by decide), ?_⟩
    simp [-List.drop_tail]
    grind
  · simp [-List.drop_tail]
    grind

theorem harmless_path (inExpression : Bool) : Harmless (pathProgram inExpression) := by
  intro ts
  simp [pathProgram]
  grind

theorem harmless_pathRest (inExpression : Bool) (soFar : PathShape) :
    Harmless (pathRestProgram inExpression soFar) := by
  intro ts
  simp [pathRestProgram]
  grind

theorem harmless_qualifiedPath (inExpression : Bool) :
    Harmless (qualifiedPathProgram inExpression) := by
  intro ts
  simp [qualifiedPathProgram]
  grind

theorem harmless_callArguments (soFar : PathShape) : Harmless (callArgumentsProgram soFar) := by
  intro ts
  simp [callArgumentsProgram]
  grind

/-- One argument; what follows a name decides whether the name was all of it. -/
theorem harmless_argument : Harmless argumentProgram := by
  intro ts
  simp only [argumentProgram, spares_bind, spares_ahead, spares_ite, spares_take, spares_pure,
    spares_splice, spares_call, OfType.constArgument, OfType.type]
  refine ⟨fun h => ?_, fun _ => ⟨fun _ => by simp, fun _ => ⟨trivial, fun s rest => ?_⟩⟩⟩
  · simp only [Bool.and_eq_true] at h
    exact ⟨not_pub_of_isLifetime h.1, trivial⟩
  · split <;> simp

/-! ## Types -/

theorem harmless_type (plus : Bool) : Harmless (typeProgram plus) := by
  intro ts
  simp [typeProgram]
  refine ⟨?_, ?_⟩
  · grind
  · grind

theorem harmless_namedType (bound plus : Bool) : Harmless (namedTypeProgram bound plus) := by
  intro ts
  simp [namedTypeProgram]
  intro s rest
  split
  · simp
    intro s rest
    split
    · simp [isBang]
      grind
    · simp
  · simp

theorem spares_parenthesisType (plus : Bool) {ts : List Tree} (h : isWord "pub" ts = false) :
    (parenthesisTypeProgram plus).Spares OfType ts fun _ _ => True := by
  simp [parenthesisTypeProgram, h]
  grind

theorem harmless_functionType : Harmless functionTypeProgram := by
  intro ts
  simp [functionTypeProgram]
  grind

theorem harmless_fieldType (unnamed : Bool) : Harmless (fieldTypeProgram unnamed) := by
  intro ts
  simp [fieldTypeProgram]
  grind

/-! ## Bounds -/

theorem harmless_objectBounds (plus : Bool) : Harmless (objectBoundsProgram plus) := by
  intro ts
  simp [objectBoundsProgram]
  grind

/-- A trait as a bound. Whatever stood in front of its path, the path goes on in the same way. -/
theorem harmless_traitBound (const : Bool) : Harmless (traitBoundProgram const) := by
  intro ts
  simp [traitBoundProgram]
  repeat' with_reducible first | apply And.intro | intro _
  any_goals exact not_pub_of_isWord ‹_› (by decide)
  all_goals split <;> simp

theorem harmless_captureItem : Harmless captureItemProgram := by
  intro ts
  simp [captureItemProgram, or_imp]

/-! ## All of them -/

/-- **The phrases of types spare the word `pub`.** -/
theorem spares_rule {p : Phrase} {ts : List Tree} (h : OfType p ts) :
    (rule p).Spares OfType ts fun _ _ => True := by
  cases h with
  | hidden h => simpa [rule, hiddenProgram] using h
  | parenthesisType plus h => exact spares_parenthesisType plus h
  | segment e ts => exact harmless_segment e ts
  | path e ts => exact harmless_path e ts
  | pathRest e soFar ts => exact harmless_pathRest e soFar ts
  | qualifiedPath e ts => exact harmless_qualifiedPath e ts
  | callArguments soFar ts => exact harmless_callArguments soFar ts
  | signature ts => simp [rule, signatureProgram]
  | angleArguments ts => simp [rule, angleArgumentsProgram]
  | argumentList ts => simp [rule, argumentListProgram]
  | argument ts => exact harmless_argument ts
  | constArgument ts => simp [rule, constArgumentProgram]
  | constraintBounds ts => simp [rule, constraintBoundsProgram]
  | block inner ts => simp [rule, blockProgram]
  | fieldType unnamed ts => exact harmless_fieldType unnamed ts
  | type plus ts => exact harmless_type plus ts
  | namedType bound plus ts => exact harmless_namedType bound plus ts
  | functionType ts => exact harmless_functionType ts
  | moreBounds joined ts => simp [rule, moreBoundsProgram]
  | boundTail ts => simp [rule, boundTailProgram]
  | objectBounds plus ts => exact harmless_objectBounds plus ts
  | boundList plus captures const hasTrait joined ts => simp [rule, boundListProgram]
  | bound captures const ts => simp [rule, boundProgram]
  | traitBound const ts => exact harmless_traitBound const ts
  | capture ts => simp [rule, captureProgram]
  | captureList ts => simp [rule, captureListProgram]
  | captureItem ts => exact harmless_captureItem ts
  | binder ts => simp [rule, binderProgram]
  | binderList ts => simp [rule, binderListProgram]
  | attributes present ts => simp [rule, attributesProgram]

/-- **A type does not have the word `pub`** outside of its groups. -/
theorem pubFree_of_recognised {fuel : Nat} {p : Phrase} {ts : List Tree} {f : Found Shape Shape}
    (hp : OfType p ts) (hf : recogniseWithin rule fuel p ts = some f) : PubFree (treesOf f.parts) :=
  recogniseWithin_spares (fun _ _ h => spares_rule h) fuel p ts f hp hf

end Accessors.Grammar
