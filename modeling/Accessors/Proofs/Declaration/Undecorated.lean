import Accessors.Declaration.Reading
import Accessors.Proofs.Grammar.Runs

/-!
# What a declaration says behind its attributes

The attributes in front of a declaration are recognised and not read.

* `behindAttributes`: a forest without the attributes in front of it.
* `rest_of_attributes`: attributes are recognised up to there.
* `ofText_eq_of_behind`: texts that are the same behind their attributes say the same declaration.
-/

namespace Accessors.Declaration

open Accessors.Token
open Accessors.Grammar
open Recogniser

/-- What follows the attributes at the beginning of a forest. -/
def behindAttributes : List Tree → List Tree
  | .leaf (.punct '#' _) :: .group .bracket _ :: rest => behindAttributes rest
  | ts => ts

theorem isPunctChars_singleton {c : Char} {t : Tree} {ts : List Tree} :
    isPunctChars [c] (t :: ts) = true ↔ ∃ joint, t = .leaf (.punct c joint) := by
  cases t with
  | group d body => simp [isPunctChars]
  | leaf l =>
    cases l with
    | punct d joint => simp [isPunctChars, @eq_comm _ c d]
    | _ => simp [isPunctChars]

theorem behindAttributes_of_not_isPunct {ts : List Tree} (h : isPunct "#" ts = false) :
    behindAttributes ts = ts := by
  unfold behindAttributes
  split
  · next joint body rest =>
    have hhash : isPunct "#" (.leaf (.punct '#' joint) :: .group .bracket body :: rest) = true := rfl
    rw [hhash] at h
    cases h
  · rfl

/-- Attributes are recognised as far as there are some. -/
theorem rest_of_attributes (fuel : Nat) : ∀ {present : Bool} {ts : List Tree} {k : Found Shape Shape},
    recogniseWithin rule fuel (.attributes present) ts = some k → k.rest = behindAttributes ts := by
  -- The attributes behind the first one are recognised one level deeper.
  induction fuel with
  | zero => intro present ts k h; cases h
  | succ fuel ih =>
    intro present ts k h
    simp only [recogniseWithin, rule, attributesProgram, run_bind, run_ahead] at h
    obtain ⟨_, rfl, k, h, rfl⟩ := h
    split at h
    · next hhash =>
      simp only [run_bind, run_take, inside, run_ahead, run_splice] at h
      obtain ⟨_, ⟨t, rest, hts, rfl⟩, _, ⟨_, ⟨_, rfl, l, hl, rfl⟩, m, hm, rfl⟩, rfl⟩ := h
      split at hl
      · next hbracket =>
        obtain ⟨d, body, others, j, hrest, -, -, rfl⟩ := run_within.1 hl
        simp only at hts hrest hm
        subst hts hrest
        obtain ⟨joint, rfl⟩ := (isPunctChars_singleton (c := '#')).1 hhash
        obtain rfl : Delimiter.bracket = d := by simpa [isGroup] using hbracket
        have hrest : m.rest = behindAttributes others := ih hm
        rw [behindAttributes]
        exact hrest
      · exact absurd hl run_refuse
    · next hhash =>
      rw [run_pure] at h
      subst h
      exact (behindAttributes_of_not_isPunct (Bool.eq_false_iff.2 hhash)).symm

/-- A declaration is recognised by its attributes, and what is left of the program behind them. -/
theorem declarationProgram_eq :
    ∃ g : Program Shape, declarationProgram = (call (.attributes false) >>= fun _ => g) := ⟨_, rfl⟩

/-- The record of a declaration's attributes is not read. -/
theorem ofNode?_attributes (s s' : Shape) (attributes attributes' : Node Shape)
    (parts : List (Node Shape)) :
    ofNode? (.phrase s (attributes :: parts)) = ofNode? (.phrase s' (attributes' :: parts)) := by
  unfold ofNode?
  split
  · next heq => cases heq; rfl
  · next hne =>
    split
    · next heq => cases heq; exact absurd rfl (hne _ _ _ _ _ _ _)
    · rfl

theorem ofTrees_eq_of_behind {ts us : List Tree} (h : behindAttributes ts = behindAttributes us)
    {d e : Accessors.Declaration} (hd : ofTrees? ts = some d) (he : ofTrees? us = some e) :
    d = e := by
  obtain ⟨g, hg⟩ := declarationProgram_eq
  -- What a declaration is read from, if the forest behind the attributes is known.
  have hread {ts : List Tree} {d : Accessors.Declaration} (hd : ofTrees? ts = some d) :
      ∃ fuel k s a, g.run (recogniseWithin rule fuel) (behindAttributes ts) = some k ∧
        ofNode? (.phrase s (a :: k.parts)) = some d := by
    unfold ofTrees? at hd
    split at hd
    · next n hn =>
      obtain ⟨k, hk, hkn⟩ := Option.map_eq_some_iff.1 hn
      obtain ⟨rfl, -⟩ := Prod.mk.inj hkn
      cases hfuel : depthFor ts with
      | zero => rw [hfuel] at hk; cases hk
      | succ fuel =>
        rw [hfuel] at hk
        simp only [recogniseWithin, rule, hg, run_bind, run_call] at hk
        obtain ⟨_, ⟨attributes, hattributes, rfl⟩, l, hl, rfl⟩ := hk
        simp only [rest_of_attributes fuel hattributes] at hl
        exact ⟨fuel, l, _, _, hl, hd⟩
    · cases hd
  obtain ⟨m, k, s, a, hk, hkd⟩ := hread hd
  obtain ⟨n, l, s', a', hl, hle⟩ := hread he
  rw [← h] at hl
  obtain rfl : k = l := run_unique hk hl
  rw [ofNode?_attributes s s' a a' k.parts, hle] at hkd
  exact (Option.some.inj hkd).symm

/-- **Attributes in front of a declaration do not matter.** Two texts that are the same behind them
say the same declaration, if both say one. -/
theorem ofText_eq_of_behind {text other : String} {d e : Accessors.Declaration}
    (h : (Tree.ofText text.toList).map behindAttributes =
      (Tree.ofText other.toList).map behindAttributes)
    (hd : ofText? text = some d) (he : ofText? other = some e) : d = e := by
  obtain ⟨ts, hts, hd⟩ := Option.bind_eq_some_iff.1 hd
  obtain ⟨us, hus, he⟩ := Option.bind_eq_some_iff.1 he
  rw [hts, hus, Option.map_some, Option.map_some, Option.some.injEq] at h
  exact ofTrees_eq_of_behind h hd he

end Accessors.Declaration
