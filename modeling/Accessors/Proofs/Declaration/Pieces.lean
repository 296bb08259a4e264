import Accessors.Proofs.Declaration.Written
import Accessors.Proofs.Grammar.AgainRules
import Accessors.Proofs.Grammar.TypePrinted

/-!
# Parts of parameters

A parameter has attributes, and bounds or the type of a constant. Each of them is printed brought into
order, and is found again in what is printed, whatever follows that can follow such a part.

* `EndsParameter`: what can follow a parameter.
* `PrintedFor`: trees and what is printed for them.
* `Piece`: a part that is found again in what is printed for it.
* `piece_of_exchanged`: what is found in its own trees with something else behind is such a part.
-/

namespace Accessors.Declaration

open Accessors.Token
open Accessors.Grammar
open Recogniser

variable {fuel : Nat} {p : Phrase} {ts us : List Tree} {k : Found Shape Shape}

/-! ## Something else behind -/

/-- Attributes are found again in front of what is no attribute. -/
theorem attributes_exchanged (hus : isPunct "#" us = false) : ∀ {present : Bool} {ts : List Tree}
    {k : Found Shape Shape}, recogniseWithin rule fuel (.attributes present) ts = some k →
    recogniseWithin rule fuel (.attributes present) (treesOf k.parts ++ us) = some { k with rest := us } := by
  induction fuel with
  | zero => intro present ts k hk; cases hk
  | succ fuel ih =>
    intro present ts k hk
    change (attributesProgram present).run (recogniseWithin rule fuel) ts = some k at hk
    change (attributesProgram present).run (recogniseWithin rule fuel) _ = _
    rw [attributesProgram, run_ahead_bind] at hk ⊢
    split at hk
    · next hhash =>
      obtain ⟨joint, rest, rfl⟩ := eq_cons_of_isPunct (c := '#') rfl hhash
      obtain ⟨_, _, l, heq, hl, rfl⟩ := run_take_bind.1 hk
      cases heq
      rw [inside_bind, run_ahead_bind] at hl
      split at hl
      · obtain ⟨_, hbody, m, hm, rfl⟩ := run_bind.1 hl
        obtain ⟨d, body, others, j, rfl, hj, hend, rfl⟩ := run_within.1 hbody
        have htrees := recogniseWithin_faithful rule fuel _ _ _ hj
        rw [hend, List.append_nil] at htrees
        have hlater := ih (run_splice.1 hm)
        simp only [Found.after, List.cons_append, List.nil_append, treesOf_cons, trees_tree, trees_group,
          trees_phrase, htrees]
        rw [if_pos (by rfl)]
        refine run_take_bind.2 ⟨_, _, { m.after [.group d (.phrase j.result j.parts)] with rest := us }, rfl,
          ?_, rfl⟩
        rw [inside_bind, run_ahead_bind, if_pos ‹_›]
        exact run_bind.2 ⟨_, run_within.2 ⟨d, body, _, j, rfl, hj, hend, rfl⟩, _, run_splice.2 hlater,
          rfl⟩
      · exact absurd hl run_refuse
    · rw [run_pure] at hk
      subst hk
      rw [treesOf_nil, List.nil_append, if_neg (by simp [hus])]
      rfl

/-- What can stand behind the word for a visibility. -/
def restriction : Program Shape := do
  let ts ← ahead
  let body := groupBody ts
  if isParenthesis ts && isOneOf ["crate", "self", "super"] body && body.length == 1 then take
  else if isParenthesis ts && isWord "in" body then
    let _ ← within .scope
  return .plain

theorem visibilityProgram_eq : visibilityProgram =
    optionalWord "pub" >>= fun found => if found then restriction else pure .plain := rfl

/-- It is found again in front of a word. -/
theorem restriction_exchanged {again : Phrase → List Tree → Option (Found Shape Shape)}
    (hagain : Faithful again) {rest : List Tree} {i : Ident} (hk : restriction.run again ts = some k)
    (hrest : k.rest = .leaf (.ident i) :: rest) (others : List Tree) :
    restriction.run again (treesOf k.parts ++ .leaf (.ident i) :: others) =
      some { k with rest := .leaf (.ident i) :: others } := by
  rw [restriction, run_ahead_bind] at hk ⊢
  dsimp only at hk ⊢
  split at hk
  · next hcond =>
    obtain ⟨t, behind, l, rfl, hl, rfl⟩ := run_take_bind.1 hk
    rw [run_pure] at hl
    subst hl
    have hgroup : isParenthesis (t :: behind) = true := by simp_all
    obtain ⟨body, _, heq⟩ := eq_cons_of_isGroup hgroup
    cases heq
    simp only [Found.after, treesOf_cons, trees_tree, treesOf_nil, List.cons_append, List.nil_append]
    split
    · rfl
    · next hno => exact absurd hcond hno
  · next hcond =>
    split at hk
    · next hscope =>
      obtain ⟨_, hwithin, l, hl, rfl⟩ := run_bind.1 hk
      obtain ⟨d, body, behind, j, rfl, hj, hend, rfl⟩ := run_within.1 hwithin
      rw [run_pure] at hl
      subst hl
      have htrees := hagain _ _ _ hj
      rw [hend, List.append_nil] at htrees
      simp only [Found.after, treesOf_cons, trees_group, trees_phrase, htrees, treesOf_nil, List.cons_append,
        List.nil_append]
      split
      · next hyes => exact absurd hyes hcond
      · split
        · exact run_bind.2 ⟨_, run_within.2 ⟨d, body, _, j, rfl, hj, hend, rfl⟩, _, run_pure.2 rfl, rfl⟩
        · next hno => exact absurd hscope hno
    · rw [run_pure] at hk
      subst hk
      obtain rfl : ts = .leaf (.ident i) :: rest := hrest
      rfl

/-- A visibility is found again in front of a word. -/
theorem visibility_exchanged {rest : List Tree} {i : Ident}
    (hk : recogniseWithin rule fuel .visibility ts = some k) (hrest : k.rest = .leaf (.ident i) :: rest)
    (others : List Tree) :
    recogniseWithin rule fuel .visibility (treesOf k.parts ++ .leaf (.ident i) :: others) =
      some { k with rest := .leaf (.ident i) :: others } := by
  cases fuel with
  | zero => cases hk
  | succ fuel =>
    change visibilityProgram.run (recogniseWithin rule fuel) ts = some k at hk
    change visibilityProgram.run (recogniseWithin rule fuel) _ = _
    rw [visibilityProgram_eq, optionalWord_bind, run_ahead_bind] at hk ⊢
    split at hk
    · next hpub =>
      obtain ⟨t, behind, l, rfl, hl, rfl⟩ := run_take_bind.1 hk
      have hword (vs : List Tree) : isWord "pub" (t :: vs) = true := by
        rwa [isWord_cons] at hpub ⊢
      simp only [Found.after, treesOf_cons, trees_tree, List.cons_append, List.nil_append]
      rw [if_pos (hword _)]
      exact run_take_bind.2 ⟨t, _, _, rfl,
        restriction_exchanged (recogniseWithin_faithful rule fuel) hl hrest others, rfl⟩
    · next hpub =>
      rw [if_neg Bool.false_ne_true, run_pure] at hk
      subst hk
      obtain rfl : ts = .leaf (.ident i) :: rest := hrest
      rw [treesOf_nil, List.nil_append]
      split
      · next hyes => exact absurd hyes hpub
      · rfl

/-- What can follow a parameter: nothing, a comma, or the bracket that closes the list. -/
def EndsParameter (ts : List Tree) : Prop :=
  ts = [] ∨ ∃ c joint rest, (c = ',' ∨ c = '>') ∧ ts = .leaf (.punct c joint) :: rest

theorem EndsParameter.closes (h : EndsParameter ts) : Closes false ts := by
  rcases h with rfl | ⟨c, joint, rest, hc, rfl⟩
  · exact .inl rfl
  · exact .inr ⟨c, joint, rest, by rcases hc with rfl | rfl <;> rfl, rfl⟩

/-- Bounds of a lifetime are found again in front of what can follow a parameter. -/
theorem lifetimeBounds_exchanged (hus : EndsParameter us) : ∀ {ts : List Tree} {k : Found Shape Shape},
    recogniseWithin rule fuel .lifetimeBounds ts = some k →
    recogniseWithin rule fuel .lifetimeBounds (treesOf k.parts ++ us) = some { k with rest := us } := by
  have hends : (us.isEmpty || isPunct "," us || isPunct ">" us) = true := by
    rcases hus with rfl | ⟨c, joint, rest, rfl | rfl, rfl⟩ <;> rfl
  have hplus : isPunct "+" us = false := by
    rcases hus with rfl | ⟨c, joint, rest, rfl | rfl, rfl⟩ <;> rfl
  induction fuel with
  | zero => intro ts k hk; cases hk
  | succ fuel ih =>
    intro ts k hk
    change lifetimeBoundsProgram.run (recogniseWithin rule fuel) ts = some k at hk
    change lifetimeBoundsProgram.run (recogniseWithin rule fuel) _ = _
    rw [lifetimeBoundsProgram, run_ahead_bind] at hk ⊢
    split at hk
    · rw [run_pure] at hk
      subst hk
      rw [treesOf_nil, List.nil_append, if_pos hends]
      rfl
    · obtain ⟨t, rest, l, hlifetime, rfl, hl, rfl⟩ := run_takeIf_bind.1 hk
      obtain ⟨name, _, heq⟩ := eq_cons_of_isLifetime hlifetime
      cases heq
      simp only [Found.after, treesOf_cons, trees_tree, List.cons_append, List.nil_append]
      have hsome (ts : List Tree) : ((Tree.leaf (.lifetime name) :: ts).isEmpty ||
          isPunct "," (.leaf (.lifetime name) :: ts) ||
            isPunct ">" (.leaf (.lifetime name) :: ts)) = false := rfl
      rw [hsome, if_neg Bool.false_ne_true]
      refine run_takeIf_bind.2 ⟨_, _, { l with rest := us }, rfl, rfl, ?_, rfl⟩
      rcases (run_optional_bind (c := '+') rfl).1 hl with ⟨joint, others, m, rfl, hm, rfl⟩ | ⟨hno, hl⟩
      · exact (run_optional_bind (c := '+') rfl).2
          (.inl ⟨joint, _, { m with rest := us }, rfl, run_splice.2 (ih (run_splice.1 hm)), rfl⟩)
      · rw [if_neg Bool.false_ne_true, run_pure] at hl
        subst hl
        exact (run_optional_bind (c := '+') rfl).2 (.inr ⟨hplus, rfl⟩)

/-- The trees end with no bracket that opens and with no minus sign. -/
theorem not_open_of_behind? (h : Level.outside.behind? ts = some .outside) (joint : Bool) :
    ts.getLast? ≠ some (.leaf (.punct '<' joint)) ∧ ts.getLast? ≠ some (.leaf (.punct '-' joint)) := by
  have hlast {c : Char} (hc : ∀ l : Level, l.char c ≠ .outside) :
      ts.getLast? ≠ some (.leaf (.punct c joint)) := by
    intro he
    obtain ⟨init, rfl⟩ := List.getLast?_eq_some_iff.1 he
    rw [Level.behind?_append] at h
    obtain ⟨l, -, hl⟩ := Option.bind_eq_some_iff.1 h
    rw [Level.behind?] at hl
    split at hl
    · cases hl
    · exact hc l (Option.some.inj hl)
  exact ⟨hlast fun l => by simp [Level.char, Level.outside],
    hlast fun l => by simp [Level.char, Level.outside]⟩

/-! ## Parts -/

/-- **The first trees are printed as the second ones.** They were found for the phrase, and what is printed
is their record brought into order. If nothing is out of order, it says the same words. -/
def PrintedFor (p : Phrase) (written printed : List Tree) : Prop :=
  ∃ n rest, FoundFor p n rest ∧ n.trees = written ∧ n.print = printed ∧
    Tidied (decide n.InOrder) .other written printed ∧
    (n.InOrder → inForm false written = true → wordsOf printed = wordsOf written)

/-- **A part of a parameter**: trees that were found for a phrase, and what is printed for them. The phrase
finds that again, in front of whatever can follow. -/
structure Piece (p : Phrase) (follows : List Tree → Prop) (written printed : List Tree) : Prop where
  form : PrintedFor p written printed
  level : Level.outside.behind? written = some .outside
  again : ∀ us, follows us → ∃ f, p.find (printed ++ us) = some f ∧ f.rest = us ∧
    (Node.phrase f.result f.parts).print = printed

/-- What is found in its own trees with something else behind is printed in this way. -/
theorem piece_of_exchanged {follows : List Tree → Prop} (hsound : p.isSound)
    (hstart : p.start = .fresh ∨ p.start = .other) (hposition : p.isPosition = false)
    (hback : ∀ ts, ComesBack p ts .outside) (hnil : follows [])
    (hk : recogniseWithin rule fuel p ts = some k)
    (hexchanged : ∀ us, follows us →
      recogniseWithin rule fuel p (treesOf k.parts ++ us) = some { k with rest := us }) :
    Piece p follows (treesOf k.parts) (Node.phrase k.result k.parts).print := by
  have halone := hexchanged [] hnil
  rw [List.append_nil] at halone
  have htidied : Tidied (decide (Node.phrase k.result k.parts).InOrder) .other (treesOf k.parts)
      (Node.phrase k.result k.parts).print := by
    have hprinted := (keeping_recogniseWithin (decide (Node.phrase k.result k.parts).InOrder) fuel).called
      hsound halone of_decide_eq_true hstart hposition .nil
    rwa [List.append_nil] at hprinted
  refine ⟨⟨_, k.rest, ⟨_, _, k, hk, rfl, rfl⟩, trees_phrase _ _, rfl, htidied, fun hin hform => ?_⟩,
    behind?_of_recognised (hback ts) hk, fun us hus => ?_⟩
  · rw [decide_eq_true hin] at htidied
    exact wordsOf_of_inForm htidied nofun hform
  · obtain ⟨f, hf, hrest, hprint, -⟩ := find_of_called ((recurring_printed fuel).called hsound
      (fun _ => hstart) (hexchanged us hus) (tidied_self us .other))
    exact ⟨f, hf, hrest, hprint⟩

/-- What is printed closes the brackets that it opens, too. -/
theorem Piece.level_printed {follows : List Tree → Prop} {written printed : List Tree}
    (h : Piece p follows written printed) (hback : ∀ ts, ComesBack p ts .outside) (hnil : follows []) :
    Level.outside.behind? printed = some .outside := by
  obtain ⟨f, hf, hrest, -⟩ := h.again [] hnil
  have htrees := recogniseWithin_faithful rule _ _ _ _ hf
  rw [hrest, List.append_nil, List.append_nil] at htrees
  rw [← htrees]
  exact behind?_of_recognised (hback _) hf

theorem piece_attributes (hk : recogniseWithin rule fuel (.attributes false) ts = some k) :
    Piece (.attributes false) (fun us => isPunct "#" us = false) (treesOf k.parts)
      (Node.phrase k.result k.parts).print :=
  piece_of_exchanged rfl (.inl rfl) rfl (fun _ => ⟨rfl, rfl⟩) rfl hk fun _ hus => attributes_exchanged hus hk

theorem piece_lifetimeBounds (hk : recogniseWithin rule fuel .lifetimeBounds ts = some k) :
    Piece .lifetimeBounds EndsParameter (treesOf k.parts) (Node.phrase k.result k.parts).print :=
  piece_of_exchanged rfl (.inr rfl) rfl (fun _ => ⟨rfl, rfl⟩) (.inl rfl) hk
    fun _ hus => lifetimeBounds_exchanged hus hk

theorem piece_typeBounds (hk : recogniseWithin rule fuel .typeBounds ts = some k)
    (hends : Closes false k.rest) :
    Piece .typeBounds EndsParameter (treesOf k.parts) (Node.phrase k.result k.parts).print :=
  piece_of_exchanged rfl (.inr rfl) rfl (fun _ => ⟨rfl, rfl⟩) (.inl rfl) hk fun _ hus =>
    exchanged_of_settles (fun x => settles_typeBounds x fuel) hk hends hus.closes
      (.inr (not_open_of_behind? (behind?_of_recognised ⟨rfl, rfl⟩ hk))) (.inl rfl)

theorem piece_type (hk : recogniseWithin rule fuel (.type true) ts = some k) (hends : Closes false k.rest) :
    Piece (.type true) EndsParameter (treesOf k.parts) (Node.phrase k.result k.parts).print :=
  piece_of_exchanged rfl (.inr rfl) rfl (fun _ => ⟨rfl, rfl⟩) (.inl rfl) hk fun _ hus =>
    type_exchanged (by simp) hk hends hus.closes
      (.inr (not_open_of_behind? (behind?_of_recognised ⟨rfl, rfl⟩ hk))) (.inl rfl)

end Accessors.Declaration
