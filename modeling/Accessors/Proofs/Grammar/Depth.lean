import Accessors.Proofs.Grammar.Printed
import Accessors.Proofs.Grammar.Ranks

/-!
# How deep programs nest

Before a phrase takes a tree it begins with simpler phrases only, so programs nest no deeper than a
forest has trees and phrases have ranks. The bound on the depth of programs, which their definition
needs, is out of sight then: recognising obeys the programs of the grammar as they stand.

* `Phrase.find`: a phrase at the beginning of a forest, with programs as deep as they can be.
* `find_of_recogniseWithin`: nothing is found deeper.
* `find_eq_run`: a phrase finds what its program finds.
* `recognisePhrase_eq`: the depth that a forest is given is enough.
-/

namespace Accessors.Grammar

open Accessors.Token
open Recogniser

variable {α : Type} {p q : Phrase} {ts : List Tree}
  {again : Phrase → List Tree → Option (Found Shape Shape)}

theorem sizeOf_append (ts us : List Tree) :
    Token.sizeOf (ts ++ us) = Token.sizeOf ts + Token.sizeOf us := by
  induction ts with
  | nil => simp [Token.sizeOf]
  | cons t ts ih => simp [Token.sizeOf, ih, Nat.add_assoc]

theorem Tree.size_pos (t : Tree) : 0 < t.size := by cases t <;> simp [Tree.size]

/-! ## What a phrase takes -/

/-- Phrases leave no more than there is, and less if they take a tree. -/
structure Lightening (again : Phrase → List Tree → Option (Found Shape Shape)) : Prop where
  yields : ∀ p ts f, p.isSound → again p ts = some f → p.yields f.result
  le : ∀ p ts f, again p ts = some f → Token.sizeOf f.rest ≤ Token.sizeOf ts
  lt : ∀ p ts f, p.isSound → p.consumes → again p ts = some f → Token.sizeOf f.rest < Token.sizeOf ts

theorem Lightening.of_phrase (h : Lightening again) (hq : q.isSound) {found : Found Shape Shape}
    (hfound : again q ts = some found) {taken : Bool} {rest : List Tree}
    (hrest : (taken || q.consumes) = true ∨ Token.sizeOf rest < Token.sizeOf found.rest)
    (hle : Token.sizeOf rest ≤ Token.sizeOf found.rest) :
    taken = true ∨ Token.sizeOf rest < Token.sizeOf ts := by
  have hleft := h.le q ts found hfound
  rcases hrest with hrest | hrest
  · rcases Bool.or_eq_true_iff.1 hrest with ht | hconsumes
    · exact .inl ht
    · exact .inr (Nat.lt_of_le_of_lt hle (h.lt q ts found hq hconsumes hfound))
  · exact .inr (Nat.lt_of_lt_of_le hrest hleft)

/-- A program that has taken a tree leaves less than there was. -/
theorem Recogniser.run_lightens (h : Lightening again) (g : Program α) :
    ∀ {taken : Bool} {post : α → Bool → Prop} {ts : List Tree} {f : Found Shape α},
      g.Lawful p taken post → g.run again ts = some f →
      Token.sizeOf f.rest ≤ Token.sizeOf ts ∧ ∃ more : Bool, post f.result more ∧
        (more → taken ∨ Token.sizeOf f.rest < Token.sizeOf ts) := by
  induction g with
  | done a => intro taken post ts f hg hf; cases hf; exact ⟨Nat.le_refl _, taken, hg, .inl⟩
  | fail => intro taken post ts f hg hf; cases hf
  | look next ih => intro taken post ts f hg hf; exact ih ts (hg ts) hf
  | take next ih =>
    intro taken post ts f hg hf
    cases ts with
    | nil => cases hf
    | cons t ts =>
      obtain ⟨k, hk, rfl⟩ := Option.map_eq_some_iff.1 hf
      obtain ⟨hle, more, hpost, -⟩ := ih hg hk
      have hlt : Token.sizeOf k.rest < Token.sizeOf (t :: ts) := by
        have hpos := Tree.size_pos t
        simp only [Token.sizeOf]
        omega
      exact ⟨Nat.le_of_lt hlt, more, hpost, fun _ => .inr hlt⟩
  | call q next ih =>
    intro taken post ts f hg hf
    simp only [run] at hf
    split at hf
    · cases hf
    · next found hfound =>
      obtain ⟨k, hk, rfl⟩ := Option.map_eq_some_iff.1 hf
      obtain ⟨hle, more, hpost, hmore⟩ := ih _ (hg.2.2 _ (h.yields q ts found hg.1.1 hfound)) hk
      exact ⟨Nat.le_trans hle (h.le q ts found hfound), more, hpost, fun hm =>
        h.of_phrase hg.1.1 hfound (hmore hm) hle⟩
  | splice q next ih =>
    intro taken post ts f hg hf
    simp only [run] at hf
    split at hf
    · cases hf
    · next found hfound =>
      obtain ⟨k, hk, rfl⟩ := Option.map_eq_some_iff.1 hf
      obtain ⟨hle, more, hpost, hmore⟩ := ih _ (hg.2.2 _ (h.yields q ts found hg.1.1 hfound)) hk
      exact ⟨Nat.le_trans hle (h.le q ts found hfound), more, hpost, fun hm =>
        h.of_phrase hg.1.1 hfound (hmore hm) hle⟩
  | within q next ih =>
    intro taken post ts f hg hf
    rcases ts with _ | ⟨_ | ⟨d, body⟩, ts⟩
    · cases hf
    · cases hf
    · simp only [run] at hf
      split at hf
      · next s parts hfound =>
        obtain ⟨k, hk, rfl⟩ := Option.map_eq_some_iff.1 hf
        obtain ⟨hle, more, hpost, -⟩ := ih _ (hg.2 _ (h.yields q body _ hg.1.1 hfound)) hk
        have hlt : Token.sizeOf k.rest < Token.sizeOf (.group d body :: ts) := by
          have hpos := Tree.size_pos (.group d body)
          simp only [Token.sizeOf]
          omega
        exact ⟨Nat.le_of_lt hlt, more, hpost, fun _ => .inr hlt⟩
      · cases hf

theorem lightening_recogniseWithin (fuel : Nat) : Lightening (recogniseWithin rule fuel) := by
  have hle {fuel : Nat} {p : Phrase} {ts : List Tree} {f : Found Shape Shape}
      (hf : recogniseWithin rule fuel p ts = some f) : Token.sizeOf f.rest ≤ Token.sizeOf ts := by
    rw [← recogniseWithin_faithful rule fuel p ts f hf, sizeOf_append]
    exact Nat.le_add_left _ _
  have hyields := (keeping_recogniseWithin false fuel).yields
  induction fuel with
  | zero => exact ⟨hyields, fun _ _ _ => hle, nofun⟩
  | succ fuel ih =>
    refine ⟨hyields, fun _ _ _ => hle, fun p ts f hp hconsumes hf => ?_⟩
    obtain ⟨-, more, ⟨-, hmore⟩, hlt⟩ := run_lightens (ih (keeping_recogniseWithin false fuel).yields)
      (rule p) (lawful_rule hp) hf
    exact (hlt (hmore hconsumes)).resolve_left Bool.false_ne_true

/-! ## Depth -/

/-- How deep the program of a phrase can nest over a forest. -/
def Phrase.depth (p : Phrase) (ts : List Tree) : Nat := 64 * Token.sizeOf ts + p.rank + 1

/-- The phrase at the beginning of a forest, with programs nested as deep as they can be. -/
def Phrase.find (p : Phrase) (ts : List Tree) : Option (Found Shape Shape) :=
  recogniseWithin rule (p.depth ts) p ts

/-- What is left of a forest for a program that has taken a tree or has not. -/
def LeftOf (ts : List Tree) (taken : Bool) (us : List Tree) : Prop :=
  Token.sizeOf us ≤ Token.sizeOf ts ∧ (taken → Token.sizeOf us < Token.sizeOf ts)

theorem leftOf_self : LeftOf ts false ts := ⟨Nat.le_refl _, nofun⟩

/-- Behind a tree that is taken less is left. -/
theorem LeftOf.take {taken : Bool} {t : Tree} {us : List Tree} (h : LeftOf ts taken (t :: us)) :
    LeftOf ts true us := by
  have hle := h.1
  have hpos := Tree.size_pos t
  simp only [Token.sizeOf] at hle
  exact ⟨by omega, fun _ => by omega⟩

/-- So it is inside of a group that is taken. -/
theorem LeftOf.body {taken : Bool} {d : Delimiter} {body us : List Tree}
    (h : LeftOf ts taken (.group d body :: us)) : LeftOf ts true body := by
  have hle := h.1
  simp only [Token.sizeOf, Tree.size] at hle
  exact ⟨by omega, fun _ => by omega⟩

theorem LeftOf.phrase {taken : Bool} {us : List Tree} {found : Found Shape Shape}
    (h : LeftOf ts taken us) (hlight : Lightening again) (hq : q.isSound)
    (hfound : again q us = some found) : LeftOf ts (taken || q.consumes) found.rest := by
  have hleft := hlight.le q us found hfound
  refine ⟨Nat.le_trans hleft h.1, fun ht => ?_⟩
  rcases Bool.or_eq_true_iff.1 ht with ht | hconsumes
  · exact Nat.lt_of_le_of_lt hleft (h.2 ht)
  · exact Nat.lt_of_lt_of_le (hlight.lt q us found hq hconsumes hfound) h.1

/-- A phrase that another one can call for over a forest. It makes sense, and its program does not
nest as deep, unless the other one counts what is left. -/
structure Phrase.Calls (p : Phrase) (ts : List Tree) (q : Phrase) (us : List Tree) : Prop where
  sound : q.isSound
  near : q.depth us < p.depth ts + 64
  lower : p.measures = false → q.depth us < p.depth ts

/-- What a phrase calls for before it takes a tree is simpler, and what it calls for behind one has
less left. -/
theorem LeftOf.calls {taken : Bool} {us : List Tree} (h : LeftOf ts taken us) (hq : q.isSound)
    (hbegins : p.begins taken q = true) : p.Calls ts q us := by
  obtain ⟨hle, hlt⟩ := h
  simp only [Phrase.begins, Nat.blt, Bool.and_eq_true, Bool.or_eq_true, Nat.ble_eq] at hbegins
  obtain ⟨hrank, hbegins⟩ := hbegins
  refine ⟨hq, ?_, fun hmeasures => ?_⟩
  · simp only [Phrase.depth]
    omega
  · simp only [Phrase.depth]
    rcases hbegins with (ht | hless) | hmeasures'
    · have hsmaller := hlt ht
      omega
    · omega
    · simp [hmeasures] at hmeasures'

/-- **What a program finds it finds in any other way, too**, that finds the phrases it calls for. -/
theorem Recogniser.run_of_calls {more : Phrase → List Tree → Option (Found Shape Shape)}
    (hlight : Lightening again)
    (hmore : ∀ q us k, p.Calls ts q us → again q us = some k → more q us = some k) (g : Program α) :
    ∀ {taken : Bool} {post : α → Bool → Prop} {us : List Tree} {f : Found Shape α},
      g.Lawful p taken post → g.Descends p taken → LeftOf ts taken us → g.run again us = some f →
      g.run more us = some f := by
  induction g with
  | done a => intro _ _ us f _ _ _ hf; exact hf
  | fail => intro _ _ us f _ _ _ hf; cases hf
  | look next ih =>
    intro taken post us f hlawful hdescends hleft hf
    exact ih us (hlawful us) (hdescends us) hleft hf
  | take next ih =>
    intro taken post us f hlawful hdescends hleft hf
    cases us with
    | nil => cases hf
    | cons u us =>
      obtain ⟨k, hk, rfl⟩ := Option.map_eq_some_iff.1 hf
      simp only [run, ih hlawful hdescends hleft.take hk, Option.map_some]
  | call q next ih =>
    intro taken post us f hlawful hdescends hleft hf
    simp only [run] at hf
    split at hf
    · cases hf
    · next found hfound =>
      obtain ⟨k, hk, rfl⟩ := Option.map_eq_some_iff.1 hf
      have hq := hlawful.1.1
      have hsame := hmore q us found (hleft.calls hq hdescends.1) hfound
      have hrun := ih _ (hlawful.2.2 _ (hlight.yields q us found hq hfound)) (hdescends.2 _)
        (hleft.phrase hlight hq hfound) hk
      simp only [run, hsame, hrun, Option.map_some]
  | splice q next ih =>
    intro taken post us f hlawful hdescends hleft hf
    simp only [run] at hf
    split at hf
    · cases hf
    · next found hfound =>
      obtain ⟨k, hk, rfl⟩ := Option.map_eq_some_iff.1 hf
      have hq := hlawful.1.1
      have hsame := hmore q us found (hleft.calls hq hdescends.1) hfound
      have hrun := ih _ (hlawful.2.2 _ (hlight.yields q us found hq hfound)) (hdescends.2 _)
        (hleft.phrase hlight hq hfound) hk
      simp only [run, hsame, hrun, Option.map_some]
  | within q next ih =>
    intro taken post us f hlawful hdescends hleft hf
    rcases us with _ | ⟨_ | ⟨d, body⟩, us⟩
    · cases hf
    · cases hf
    · simp only [run] at hf
      split at hf
      · next s parts hfound =>
        obtain ⟨k, hk, rfl⟩ := Option.map_eq_some_iff.1 hf
        have hq := hlawful.1.1
        have hsame := hmore q body _ (hleft.body.calls hq hdescends.1) hfound
        have hrun := ih _ (hlawful.2 _ (hlight.yields q body _ hq hfound)) (hdescends.2 _)
          hleft.take hk
        simp only [run, hsame, hrun, Option.map_some]
      · cases hf

/-- The rest of a right operand goes on behind operators, which it finds by counting what is left. -/
theorem run_operandRest_depth {fuel deep : Nat} {literals : Bool} {operator : Precedence} {left : Shape}
    (hleft : left.isPlain)
    (hdeep : ∀ q us k, q.isSound → q.depth us < (Phrase.operandRest literals operator left).depth ts →
      recogniseWithin rule fuel q us = some k → recogniseWithin rule deep q us = some k)
    {f : Found Shape Shape}
    (hf : (operandRestProgram literals operator left).run (recogniseWithin rule fuel) ts = some f) :
    (operandRestProgram literals operator left).run (recogniseWithin rule deep) ts = some f := by
  simp only [operandRestProgram, run_ahead_bind] at hf ⊢
  split at hf
  · next hcond =>
    rw [if_pos hcond]
    obtain ⟨operators, k, hoperators, hk, rfl⟩ := run_splice_bind.1 hf
    have hsound : (Phrase.operators literals (nextPrecedence ts) left).isSound := hleft
    have hsame := hdeep _ ts operators hsound (by simp [Phrase.depth, Phrase.rank]) hoperators
    refine run_splice_bind.2 ⟨operators, k, hsame, ?_, rfl⟩
    rw [run_ahead_bind] at hk ⊢
    split at hk
    · next hlength =>
      rw [if_pos hlength]
      exact hk
    · next hlength =>
      rw [if_neg hlength, run_splice]
      have hparts := recogniseWithin_faithful rule fuel _ _ _ hoperators
      have hplain : operators.result.isPlain :=
        (keeping_recogniseWithin false fuel).yields _ _ _ hsound hoperators
      refine hdeep _ _ _ hplain ?_ (run_splice.1 hk)
      have hlt : Token.sizeOf operators.rest < Token.sizeOf ts := by
        rw [← hparts, sizeOf_append]
        cases htrees : treesOf operators.parts with
        | nil => simp [← hparts, htrees] at hlength
        | cons t trees =>
          have hpos := Tree.size_pos t
          simp only [Token.sizeOf]
          omega
      simp only [Phrase.depth, Phrase.rank]
      omega
  · next hcond =>
    rw [if_neg hcond]
    exact hf

/-- **Nothing is found deeper** than the phrases have ranks and the forest has trees. -/
theorem find_of_recogniseWithin {fuel : Nat} (hp : p.isSound) {f : Found Shape Shape}
    (hf : recogniseWithin rule fuel p ts = some f) : p.find ts = some f := by
  induction fuel generalizing p ts f with
  | zero => cases hf
  | succ fuel ih =>
    have hdeep (q : Phrase) (us : List Tree) (k : Found Shape Shape) (hq : q.isSound)
        (hlt : q.depth us < p.depth ts) (hk : recogniseWithin rule fuel q us = some k) :
        recogniseWithin rule (p.depth ts - 1) q us = some k :=
      extends_recogniseWithin rule (Nat.le_sub_one_of_lt hlt) q us k (ih hq hk)
    have hrun : (rule p).run (recogniseWithin rule (p.depth ts - 1)) ts = some f := by
      -- A right operand goes on behind operators that need not be simpler than it is, nor take a tree.
      by_cases hmeasures : p.measures = true
      · cases p with
        | operandRest literals operator left => exact run_operandRest_depth hp hdeep hf
        | _ => cases hmeasures
      · exact run_of_calls (lightening_recogniseWithin fuel)
          (fun q us k h hk => hdeep q us k h.sound (h.lower (by simpa using hmeasures)) hk) (rule p)
          (lawful_rule hp) (descends_rule p) leftOf_self hf
    exact hrun

theorem lightening_find : Lightening Phrase.find where
  yields p ts f hp hf := (lightening_recogniseWithin (p.depth ts)).yields p ts f hp hf
  le p ts f hf := (lightening_recogniseWithin (p.depth ts)).le p ts f hf
  lt p ts f hp hconsumes hf := (lightening_recogniseWithin (p.depth ts)).lt p ts f hp hconsumes hf

/-- **What a phrase finds is what its program finds**, with what the phrases find that it calls for. -/
theorem find_eq_run (hp : p.isSound) : p.find ts = (rule p).run Phrase.find ts := by
  refine Option.ext fun f => ⟨fun hf => ?_, fun hf => ?_⟩
  · exact run_of_calls (lightening_recogniseWithin _)
      (fun q us k h hk => find_of_recogniseWithin h.sound hk) (rule p) (lawful_rule hp)
      (descends_rule p) leftOf_self hf
  · -- The phrases that are called for are simpler than that, or little more complex.
    have hrun : recogniseWithin rule (p.depth ts + 64) p ts = some f :=
      run_of_calls lightening_find
        (fun q us k h hk => extends_recogniseWithin rule (Nat.le_of_lt_succ h.near) q us k hk)
        (rule p) (lawful_rule hp) (descends_rule p) leftOf_self hf
    exact find_of_recogniseWithin hp hrun

/-- **Recognising fails for no want of depth.** Only lists of lists have a rank beyond what a forest's
depth allows for. -/
theorem recognisePhrase_eq (hp : p.isSound) (hrank : p.rank ≤ 63) : recognisePhrase p ts =
    (p.find ts).map fun f => (.phrase f.result f.parts, f.rest) := by
  have hdeep : p.depth ts ≤ depthFor ts := by
    simp only [Phrase.depth, depthFor]
    omega
  have hsame : recogniseWithin rule (depthFor ts) p ts = p.find ts :=
    Option.ext fun f => ⟨find_of_recogniseWithin hp, extends_recogniseWithin rule hdeep p ts f⟩
  rw [recognisePhrase, recognise, hsame]

end Accessors.Grammar
