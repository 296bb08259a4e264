import Accessors.Proofs.Grammar.Levels
import Accessors.Proofs.Grammar.Runs
import Accessors.Grammar.Rules

/-!
# Types close their angle brackets

A type opens angle brackets in front of arguments and closes them behind, and has commas between
arguments only. So no comma that a type takes is outside of angle brackets.

* `ComesBack`: the phrases of types, and what has to be known where they begin.
* `returns_rule`: their programs come back to the level that they begin at.
* `behind?_of_recognised`: what is recognised by them has no comma outside of angle brackets.
-/

namespace Accessors.Grammar

open Accessors.Token
open Recogniser

/-- A phrase that types consist of. -/
def Phrase.isTyped : Phrase → Bool
  | .segment e | .path e | .pathRest e _ | .qualifiedPath e => !e
  | .hidden _ | .callArguments _ | .signature | .angleArguments | .argumentList => true
  | .argument | .constArgument | .constraintBounds | .type _ | .namedType _ _ => true
  | .parenthesisType _ | .functionType | .functionArgument _ | .moreBounds _ | .boundTail => true
  | .objectBounds _ | .boundList _ _ _ _ _ | .bound _ _ | .traitBound _ | .capture => true
  | .captureList | .captureItem | .binder | .binderList | .attributes _ | .block _ => true
  | .lifetimeBounds | .typeBounds | .fieldType _ => true
  | _ => false

/-- A phrase of types comes back to the level it begins at. Lists stand in angle brackets, and two
phrases take trees without looking, and rely on what was seen before. -/
def ComesBack (p : Phrase) (ts : List Tree) (l : Level) : Prop :=
  l.minus = false ∧
    match p with
    | .hidden n => l.behind? (ts.take n) = some l
    | .parenthesisType _ => isParenthesis ts = true
    | .argumentList | .captureList | .binderList => 0 < l.depth
    | .functionArgument _ => False
    | p => p.isTyped = true

/-- The program comes back to its level. -/
def Returns (g : Program Shape) (ts : List Tree) (l : Level) : Prop :=
  g.Climbs ComesBack ts l fun _ _ m => m = l

attribute [local simp] ComesBack Returns Phrase.isTyped Level.chars? Level.char

variable {d : Nat} {ts : List Tree}

/-! ## Paths -/

theorem behind?_of_facesReplacedArguments
    (h : facesReplacedArguments (ts.drop (separatorSize ts)) = true) :
    Level.behind? ⟨d, false⟩ (ts.take (separatorSize ts + 2)) = some ⟨d, false⟩ := by
  simp only [facesReplacedArguments, Bool.and_eq_true] at h
  obtain ⟨⟨hopen, hclose⟩, -⟩ := h
  have hseparator : Level.behind? ⟨d, false⟩ (ts.take (separatorSize ts)) = some ⟨d, false⟩ := by
    unfold separatorSize
    split
    · exact behind?_separator ‹_›
    · rfl
  have hangles : Level.behind? ⟨d, false⟩ ((ts.drop (separatorSize ts)).take 2) =
      some ⟨d, false⟩ := by
    have htwo := List.take_add (l := ts.drop (separatorSize ts)) (i := 1) (j := 1)
    rw [htwo, Level.behind?_append, behind?_opening hopen]
    exact behind?_closing hclose
  rw [List.take_add, Level.behind?_append, hseparator]
  exact hangles

theorem returns_segment : Returns (segmentProgram false) ts ⟨d, false⟩ := by
  have hrest : ∀ rest, (segmentArguments false).Climbs ComesBack rest ⟨d, false⟩
      fun _ _ m => m = ⟨d, false⟩ := by
    intro rest
    simp [segmentArguments, climbs_takeMany]
    exact ⟨behind?_of_facesReplacedArguments, fun _ _ h _ => ⟨_, behind?_separator h, rfl, fun _ => rfl⟩⟩
  rw [segmentProgram_eq]
  simp [hrest]

theorem returns_callArguments (s : PathShape) : Returns (callArgumentsProgram s) ts ⟨d, false⟩ := by
  simp [callArgumentsProgram]
  intro _ _ shape rest
  split <;> simp
  intro s rest
  split <;> simp

theorem returns_argument : Returns argumentProgram ts ⟨d, false⟩ := by
  simp [argumentProgram]
  refine ⟨fun h _ => by simp [climbs_take (isLevel_of_isLifetime h)], fun _ _ s rest => ?_⟩
  split <;> simp +decide

theorem returns_path : Returns (pathProgram false) ts ⟨d, false⟩ := by
  simp [pathProgram]
  refine ⟨fun _ s rest => ?_, fun _ s rest => ?_⟩
  all_goals split <;> simp

theorem returns_pathRest (s : PathShape) : Returns (pathRestProgram false s) ts ⟨d, false⟩ := by
  simp [pathRestProgram]
  intro _ _ _
  split <;> simp

theorem returns_qualifiedPath : Returns (qualifiedPathProgram false) ts ⟨d, false⟩ := by
  simp [qualifiedPathProgram]
  intro h
  refine climbs_take_iff.2 ⟨⟨d + 1, false⟩, behind?_opening h, ?_⟩
  simp
  refine fun _ _ => ⟨fun _ _ _ _ _ s rest => ?_, fun _ _ _ s rest => ?_⟩
  all_goals split <;> simp

/-! ## Types -/

theorem returns_type (plus : Bool) : Returns (typeProgram plus) ts ⟨d, false⟩ := by
  simp +decide [typeProgram, or_imp]
  refine ⟨fun _ s rest => ?_, ?_⟩
  all_goals
    intros
    split <;> simp

theorem returns_namedType (bound plus : Bool) : Returns (namedTypeProgram bound plus) ts ⟨d, false⟩ := by
  have hbang (ts : List Tree) (h : isBang ts = true) : isLevel ts = true := by
    rw [isBang, Bool.and_eq_true] at h
    exact isLevel_of_isPunct h.1 (by decide)
  simp [namedTypeProgram]
  intro s rest
  split
  · simp
    intro s rest
    split
    · simp
      exact fun _ h _ => by simp [climbs_take (hbang _ h)]
    · simp
  · simp

theorem returns_parenthesisType (plus : Bool) (h : isParenthesis ts = true) :
    Returns (parenthesisTypeProgram plus) ts ⟨d, false⟩ := by
  simp [parenthesisTypeProgram]
  refine ⟨fun _ => by simp [climbs_take (isLevel_of_isGroup h)], fun _ _ _ s => ?_⟩
  split <;> simp

theorem returns_fieldType (unnamed : Bool) : Returns (fieldTypeProgram unnamed) ts ⟨d, false⟩ := by
  simp [fieldTypeProgram]
  rintro - (h | ⟨h, -⟩) <;> simp [climbs_take (isLevel_of_isWord h)]

/-! ## Bounds -/

theorem returns_objectBounds (plus : Bool) : Returns (objectBoundsProgram plus) ts ⟨d, false⟩ := by
  simp [objectBoundsProgram]
  intro s rest
  split <;> simp

theorem returns_traitBound (const : Bool) : Returns (traitBoundProgram const) ts ⟨d, false⟩ := by
  cases const
  all_goals
    simp [traitBoundProgram]
    repeat' with_reducible first | apply And.intro | intro _
    all_goals split <;> simp

/-- **The phrases of types come back to their level.** -/
theorem returns_rule {p : Phrase} {l : Level} (h : ComesBack p ts l) : Returns (rule p) ts l := by
  obtain ⟨d, m⟩ := l
  obtain ⟨hm, h⟩ := h
  obtain rfl : m = false := hm
  cases p with
  | hidden n => simpa [rule, hiddenProgram, climbs_takeMany] using h
  | segment e =>
    obtain rfl : e = false := by simpa using h
    exact returns_segment
  | path e =>
    obtain rfl : e = false := by simpa using h
    exact returns_path
  | pathRest e s =>
    obtain rfl : e = false := by simpa using h
    exact returns_pathRest s
  | qualifiedPath e =>
    obtain rfl : e = false := by simpa using h
    exact returns_qualifiedPath
  | callArguments s => exact returns_callArguments s
  | signature => simp [rule, signatureProgram]
  | angleArguments => simp [rule, angleArgumentsProgram]
  | argumentList =>
    have hd : 0 < d := h
    simp [rule, argumentListProgram, hd, Nat.ne_of_gt hd]
  | argument => exact returns_argument
  | constArgument => simp [rule, constArgumentProgram, climbs_takeMany, behind?_of_literalSize]
  | constraintBounds => simp [rule, constraintBoundsProgram]
  | type plus => exact returns_type plus
  | namedType bound plus => exact returns_namedType bound plus
  | parenthesisType plus => exact returns_parenthesisType plus h
  | functionType => simp [rule, functionTypeProgram]
  | moreBounds joined => simp [rule, moreBoundsProgram]
  | boundTail => simp [rule, boundTailProgram]
  | objectBounds plus => exact returns_objectBounds plus
  | boundList plus captures const hasTrait joined => simp [rule, boundListProgram]
  | bound captures const => simp [rule, boundProgram]
  | traitBound const => exact returns_traitBound const
  | capture => simp [rule, captureProgram]
  | captureList =>
    have hd : 0 < d := h
    simp [rule, captureListProgram, hd, Nat.ne_of_gt hd]
  | captureItem =>
    have hitem : ∀ ts, (isIdent ts || isWord "Self" ts) = true → isLevel ts = true := fun ts h =>
      (Bool.or_eq_true_iff.1 h).elim isLevel_of_isIdent isLevel_of_isWord
    simp [rule, captureItemProgram, climbs_takeIf hitem]
  | binder => simp [rule, binderProgram]
  | binderList =>
    have hd : 0 < d := h
    simp [rule, binderListProgram, hd, Nat.ne_of_gt hd]
  | attributes present => simp +decide [rule, attributesProgram]
  | block inner => simp [rule, blockProgram]
  | fieldType unnamed => exact returns_fieldType unnamed
  | lifetimeBounds => simp [rule, lifetimeBoundsProgram]
  | typeBounds => simp [rule, typeBoundsProgram]
  | _ => simp at h

/-- **A type has no comma outside of angle brackets**, and closes those that it opens. -/
theorem behind?_of_recognised {fuel : Nat} {p : Phrase} {l : Level} {f : Found Shape Shape}
    (hp : ComesBack p ts l) (hf : recogniseWithin rule fuel p ts = some f) :
    l.behind? (treesOf f.parts) = some l :=
  recogniseWithin_climbs (fun _ _ _ h => returns_rule h) fuel p ts l f hp hf

end Accessors.Grammar
