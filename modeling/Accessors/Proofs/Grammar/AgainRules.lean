import Accessors.Proofs.Grammar.AgainLists

/-!
# The whole grammar finds again what it found

Whatever a phrase finds is found again in what is printed for it, with the same print. First this is shown for
the trees themselves, with something else brought into order behind them, because trees that are printed as
they are have to be found again, too.

* `recurring_trees`: what is found is found again in its own trees.
* `recurring_printed`: and in what is printed for it.
-/

namespace Accessors.Grammar

open Accessors.Token
open Recogniser

variable {printed : Bool} {again : Phrase → List Tree → Option (Found Shape Shape)} {p : Phrase}
  {ts us : List Tree} {f : Found Shape Shape}

/-- The program of a phrase that asks questions only. -/
theorem again_rule (h : Recurring printed again) (hsound : p.isSound)
    (hspecial : printed = true → p.isSpecial = false) (hodd : p.isOdd = false)
    (hf : (rule p).run again ts = some f) (hrest : Tidied false .other f.rest us) :
    FoundAgain printed ((rule p).run Phrase.find) f us := by
  refine run_again h hspecial (rule p) (lawful_rule hsound) (steady_rule hodd) (fun hfresh => ?_) hf hrest
  rw [Phrase.isFresh, Bool.and_eq_true, beq_iff_eq] at hfresh
  exact ⟨hfresh.1, rfl, fun _ _ hpost => hpost.2 hfresh.2⟩

/-- **The program of a phrase finds again what it found**, if phrases do. -/
theorem again_run (h : Recurring printed again) (hsound : p.isSound)
    (hordinary : printed = true → p.isOrdinary) (hf : (rule p).run again ts = some f)
    (hrest : Tidied false .other f.rest us) :
    FoundAgain printed ((rule p).run Phrase.find) f us := by
  -- Where the trees stay as they are, nothing is special about these phrases.
  have hplain (hno : ¬ p.isOrdinary) (hodd : p.isOdd = false) :
      FoundAgain printed ((rule p).run Phrase.find) f us :=
    again_rule h hsound (fun hp => absurd (hordinary hp) hno) hodd hf hrest
  cases p with
  | hidden n => exact hplain nofun rfl
  | argumentList => exact hplain nofun rfl
  | captureList => exact hplain nofun rfl
  | positions => exact hplain nofun rfl
  | segment e => exact again_segment h hf hrest
  | position => exact again_position hf
  | member => exact again_member h hf hrest
  | binding => exact again_binding h hf hrest
  | operandRest literals operator left => exact again_operandRest h hsound hf hrest
  | trailers left => exact (recurs_trailers h left hf hrest).2
  | angleArguments =>
    cases printed with
    | false => exact again_rule h hsound nofun rfl hf hrest
    | true => exact again_angleArguments h hf hrest
  | capture =>
    cases printed with
    | false => exact again_rule h hsound nofun rfl hf hrest
    | true => exact again_capture h hf hrest
  | _ => exact again_rule h hsound (fun _ => rfl) rfl hf hrest

/-- What is found is found again, one level deeper. -/
theorem Recurring.again_found {fuel : Nat} (h : Recurring printed (recogniseWithin rule fuel))
    (hsound : p.isSound) (hordinary : printed = true → p.isOrdinary)
    (hf : recogniseWithin rule (fuel + 1) p ts = some f) (hrest : Tidied false .other f.rest us) :
    FoundAgain printed p.find f us :=
  (again_run h hsound hordinary hf hrest).of_eq (find_eq_run hsound)

/-- A record whose trees are found again, as they are. -/
theorem FoundAgain.call_trees {q : Phrase} (h : FoundAgain false q.find f us) :
    FoundAgain false ((Grammar.call q).run Phrase.find) f.called us := by
  obtain ⟨parts, hparts, hsame⟩ := h.again
  have hform {s : Shape} {parts : List (Node Shape)} :
      formOf false [.phrase s parts] = formOf false parts := by
    simp [formOf]
  refine ⟨⟨[.phrase f.result parts], ?_, ?_⟩, rfl⟩
  · rw [Found.called, hform]
    exact run_call.2 ⟨_, hparts, rfl⟩
  · rw [Found.called, hform, hform, hsame]

/-- **What is found is found again in its own trees**, whatever stands behind them brought into order. -/
theorem recurring_trees (fuel : Nat) : Recurring false (recogniseWithin rule fuel) := by
  have hwhole {fuel : Nat} (hparts : ∀ {q ts f us}, q.isSound → recogniseWithin rule fuel q ts = some f →
      Tidied false .other f.rest us → FoundAgain false q.find f us) :
      Recurring false (recogniseWithin rule fuel) :=
    { keeping := keeping_recogniseWithin false fuel
      lightening := lightening_recogniseWithin fuel
      found := fun hsound hf => find_of_recogniseWithin hsound hf
      parts := fun hsound _ => hparts hsound
      called := fun hsound _ hf hrest => (hparts hsound hf hrest).call_trees
      list := nofun }
  induction fuel with
  | zero => exact hwhole fun _ hf => nomatch hf
  | succ fuel ih => exact hwhole fun hsound hf hrest => ih.again_found hsound nofun hf hrest

/-- A record that is printed as it is. -/
theorem FoundAgain.call_verbatim {q : Phrase} (hshape : f.result = .verbatim)
    (h : FoundAgain false q.find f us) : FoundAgain true ((Grammar.call q).run Phrase.find) f.called us := by
  obtain ⟨parts, hparts, hsame⟩ := h.again
  have hform {parts : List (Node Shape)} : formOf true [.phrase .verbatim parts] = formOf false parts := by
    simp [formOf, printOf, Node.print]
  refine ⟨⟨[.phrase f.result parts], ?_, ?_⟩, ?_⟩
  · rw [Found.called, hshape, hform]
    exact run_call.2 ⟨_, hparts, by rw [hshape]⟩
  · rw [Found.called, hshape, hform, hform, hsame]
  · rw [Found.called, hshape, hform]
    simp [formOf]

/-- The record of a phrase is found again: one printed by its parts, one printed as it is, or a position. -/
theorem Recurring.again_called {fuel : Nat} (h : Recurring true (recogniseWithin rule fuel))
    (hsound : p.isSound) (hstart : p.start = .fresh ∨ p.start = .other)
    (hf : recogniseWithin rule (fuel + 1) p ts = some f) (hrest : Tidied false .other f.rest us) :
    FoundAgain true ((Grammar.call p).run Phrase.find) f.called us := by
  have hyields := (keeping_recogniseWithin false (fuel + 1)).yields p ts f hsound hf
  by_cases hplain : f.result.isPlain = true
  · exact (h.again_found hsound (fun _ => Phrase.isOrdinary_of_start hstart) hf hrest).call hplain
  · rcases Phrase.shape_of_yields hyields hstart (by simpa using hplain) with
      ⟨hshape, -, -⟩ | ⟨hposition, -⟩
    · exact ((recurring_trees (fuel + 1)).parts hsound nofun hf hrest).call_verbatim hshape
    · cases p with
      | position => exact called_position hf
      | _ => cases hposition

/-- **What is found is found again in what is printed for it**, which has the same print. -/
theorem recurring_printed (fuel : Nat) : Recurring true (recogniseWithin rule fuel) := by
  induction fuel with
  | zero =>
    exact
      { keeping := keeping_recogniseWithin false 0
        lightening := lightening_recogniseWithin 0
        found := fun hsound hf => find_of_recogniseWithin hsound hf
        parts := fun _ _ hf => nomatch hf
        called := fun _ _ hf => nomatch hf
        list := fun _ _ hf => nomatch hf }
  | succ fuel ih =>
    exact
      { keeping := keeping_recogniseWithin false _
        lightening := lightening_recogniseWithin _
        found := fun hsound hf => find_of_recogniseWithin hsound hf
        parts := ih.again_found
        called := fun hsound hstart hf hrest => ih.again_called hsound (hstart rfl) hf hrest
        list := fun _ => ih.list_again }

end Accessors.Grammar
