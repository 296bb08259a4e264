import Accessors.Proofs.Grammar.Questions

/-!
# Invocations in a forest brought into order

Whether a statement is an invocation or an item depends on a whole path in front of it. Where a path
without arguments has an exclamation mark behind it, nothing is left out in it.

* `Tidied.modulePathSize_eq`: the path has the same size.
* `asks_facesBracedInvocation`, `asks_facesItem`: so the answers are the same.
-/

namespace Accessors.Grammar

open Accessors.Token

variable {m : Mark} {ts us : List Tree}

/-! ## Segments -/

/-- What can be a segment of a path without arguments. -/
def isSegment (t : Tree) : Bool := isIdent [t] || isOneOf moduleWords [t]

/-- A separator is two trees. -/
theorem isPunct_separator (t u : Tree) (ts : List Tree) :
    isPunct "::" (t :: u :: ts) = isPunct "::" [t, u] := by
  rcases t with (_ | _ | _ | ⟨c, joint⟩) | _ <;> try rfl
  rcases u with (_ | _ | _ | ⟨d, joint'⟩) | _ <;> rfl

theorem isPunct_separator_singleton (t : Tree) : isPunct "::" [t] = false := by
  rcases t with (_ | _ | _ | ⟨c, joint⟩) | _ <;> try rfl
  exact Bool.and_false _

theorem segments_cons (t : Tree) (ts : List Tree) : modulePathSize.segments (t :: ts) =
    if isSegment t then
      if isPunct "::" ts then
        match modulePathSize.segments (ts.drop 2) with
        | 0 => 0
        | n => n + 3
      else 1
    else 0 := by
  match ts with
  | [] => rfl
  | [colon] => rw [isPunct_separator_singleton]; rfl
  | colon :: second :: rest =>
    rw [isPunct_separator, modulePathSize.segments, isSegment]
    rfl

/-- No path starts with a tree that is no segment. -/
theorem segments_eq_zero (h : ∀ t rest, ts = t :: rest → isSegment t = false) :
    modulePathSize.segments ts = 0 := by
  cases ts with
  | nil => rfl
  | cons t rest => rw [segments_cons, if_neg (by simp [h t rest rfl])]

/-- A path of these trees has an exclamation mark behind it. -/
def Invokes (size : Nat) (ts : List Tree) : Prop :=
  modulePathSize.segments ts = size + 1 ∧ isPunct "!" (ts.drop (size + 1)) = true

/-! ## Behind a segment -/

/-- Neither an exclamation mark nor another segment comes next. -/
def EndsPath (ts : List Tree) : Prop :=
  isPunct "!" ts = false ∧ (isPunct "::" ts = true → modulePathSize.segments (ts.drop 2) = 0)

/-- What is left out has no segment behind it. -/
theorem Hidden.endsPath {left : List Tree} (h : Hidden left) : EndsPath (left ++ ts) := by
  cases h with
  | angles i j => exact ⟨rfl, nofun⟩
  | separated joint i j =>
    refine ⟨rfl, fun _ => segments_eq_zero ?_⟩
    rintro _ _ ⟨⟩
    rfl

/-- A path that ends here is no invocation. -/
theorem EndsPath.not_invokes (h : EndsPath ts) {t : Tree} {size : Nat} : ¬ Invokes size (t :: ts) := by
  rintro ⟨hsize, hbang⟩
  rw [segments_cons] at hsize
  split at hsize
  · split at hsize
    · next hseparator => rw [h.2 hseparator] at hsize; cases hsize
    · cases hsize
      rw [List.drop_succ_cons, List.drop_zero, h.1] at hbang
      cases hbang
  · cases hsize

/-- A path goes on behind a segment and a separator. -/
theorem invokes_separator {t : Tree} {joint : Bool} {size : Nat} :
    Invokes size (t :: .leaf (.punct ':' true) :: .leaf (.punct ':' joint) :: ts) ↔
      isSegment t = true ∧ ∃ n, size = n + 3 ∧ Invokes n ts := by
  have hseparator : isPunct "::" (.leaf (.punct ':' true) :: .leaf (.punct ':' joint) :: ts) = true := rfl
  rw [Invokes, segments_cons, if_pos hseparator]
  cases isSegment t
  · simp
  · have hdrop : List.drop 2 (.leaf (.punct ':' true) :: .leaf (.punct ':' joint) :: ts) = ts := rfl
    rw [if_pos rfl, hdrop]
    cases h : modulePathSize.segments ts with
    | zero => simp [Invokes, h]
    | succ n =>
      constructor
      · rintro ⟨hsize, hbang⟩
        obtain rfl : size = n + 3 := by simpa [eq_comm] using hsize
        exact ⟨rfl, n, rfl, h, hbang⟩
      · rintro ⟨-, k, rfl, hk, hbang⟩
        rw [h] at hk
        cases hk
        exact ⟨rfl, hbang⟩

/-- A path ends in front of an exclamation mark. -/
theorem invokes_bang {t : Tree} {joint : Bool} {size : Nat} :
    Invokes size (t :: .leaf (.punct '!' joint) :: ts) ↔ isSegment t = true ∧ size = 0 := by
  have hseparator : isPunct "::" (.leaf (.punct '!' joint) :: ts) = false := rfl
  rw [Invokes, segments_cons, hseparator]
  cases isSegment t
  · simp
  · constructor
    · rintro ⟨hsize, -⟩
      exact ⟨rfl, by simpa [eq_comm] using hsize⟩
    · rintro ⟨-, rfl⟩
      exact ⟨rfl, rfl⟩

theorem not_invokes_of_isSegment {t : Tree} {size : Nat} (h : isSegment t = false) :
    ¬ Invokes size (t :: ts) := by
  rintro ⟨hsize, -⟩
  rw [segments_cons, h] at hsize
  cases hsize

namespace Tidied

/-- Behind a segment a forest brought into order has the same tree, or ends the path, too. -/
theorem segment_cons (hm : m ≠ .angle) (h : Tidied false m ts us) :
    (∃ l rest left, ts = .leaf l :: rest ∧ us = .leaf l :: left ∧
      Tidied false (m.after (.leaf l)) rest left) ∨ EndsPath ts ∧ EndsPath us := by
  cases h with
  | nil => exact .inr ⟨⟨rfl, nofun⟩, rfl, nofun⟩
  | leaf l h => exact .inl ⟨l, _, _, rfl, rfl, h⟩
  | comma i j ho h => cases ho
  | group d hbody h => exact .inr ⟨⟨rfl, nofun⟩, rfl, nofun⟩
  | number hpart hcolon h => exact .inr ⟨⟨rfl, nofun⟩, rfl, nofun⟩
  | numbers hparts h =>
    obtain ⟨t, rest, ht⟩ := positionTrees_of_positions hparts
    rw [ht]
    exact .inr ⟨⟨rfl, nofun⟩, rfl, nofun⟩
  | arguments list printed ho hclose h => exact absurd rfl hm
  | hidden hleft hcall h =>
    obtain ⟨body, rest, rfl⟩ := eq_cons_of_isGroup (h.isParenthesis_of (by simp) hcall)
    exact .inr ⟨hleft.endsPath, rfl, nofun⟩

/-- Behind a tree in front that stays a separator does. -/
theorem isPunct_separator_leaf {l : Leaf} (h : Tidied false (m.after (.leaf l)) ts us) :
    isPunct "::" (.leaf l :: ts) = isPunct "::" (.leaf l :: us) := by
  by_cases hl : ∃ joint, l = .punct ':' joint
  · obtain ⟨joint, rfl⟩ := hl
    rw [show m.after (.leaf (.punct ':' joint)) = .colon by simp [Mark.after]] at h
    change (true && joint && isPunctChars [':'] ts) = (true && joint && isPunctChars [':'] us)
    rw [h.isPunctChars_eq (by simp) (by rintro _ ⟨⟩; rfl) rfl]
  · cases l with
    | punct c joint =>
      have hc : (':' == c) = false := beq_false_of_ne fun he => hl ⟨joint, by rw [he]⟩
      change (':' == c && joint && isPunctChars [':'] ts) = (':' == c && joint && isPunctChars [':'] us)
      rw [hc]
      rfl
    | _ => rfl

/-- **A path with an exclamation mark behind it has the same size.** -/
theorem invokes_iff (hm : m = .fresh ∨ m = .colon) (h : Tidied false m ts us) (size : Nat) :
    (Invokes size ts ↔ Invokes size us) ∧
      (Invokes size ts → Tidied false .other (ts.drop (size + 2)) (us.drop (size + 2))) := by
  induction hlen : ts.length using Nat.strongRecOn generalizing m ts us size with
  | ind length ih =>
    have hnone {ts us : List Tree} (hts : ¬ Invokes size ts) (hus : ¬ Invokes size us) :
        (Invokes size ts ↔ Invokes size us) ∧
          (Invokes size ts → Tidied false .other (ts.drop (size + 2)) (us.drop (size + 2))) :=
      ⟨iff_of_false hts hus, fun h => absurd h hts⟩
    have hplain : m.isPlain := by rcases hm with rfl | rfl <;> rfl
    revert hlen
    refine h.plain hplain (fun _ => ?_) (fun l rest left hrest hlen => ?_) (fun _ _ _ _ _ _ _ _ => ?_)
      fun _ _ _ _ _ _ _ _ => ?_
    · exact hnone (fun h => by cases h.1) fun h => by cases h.1
    · cases hsegment : isSegment (.leaf l) with
      | false => exact hnone (not_invokes_of_isSegment hsegment) (not_invokes_of_isSegment hsegment)
      | true =>
        have hmark : m.after (.leaf l) ≠ .angle := by
          cases l with
          | ident i => simp only [Mark.after]; split <;> simp
          | _ => cases hsegment
        rcases hrest.segment_cons hmark with ⟨k, rest, left, rfl, rfl, hlater⟩ | ⟨hts, hus⟩
        · have hsame := hlater.isPunct_separator_leaf
          cases hseparator : isPunct "::" (.leaf k :: rest) with
          | true =>
            obtain ⟨joint, rest, heq⟩ := eq_cons_of_separator hseparator
            cases heq
            rw [show Mark.after _ (.leaf (.punct ':' true)) = .colon by simp [Mark.after]] at hlater
            obtain ⟨left, rfl, hcolon⟩ := hlater.of_leaf rfl (by simp)
            have hshorter : rest.length < length := by
              rw [← hlen, List.length_cons, List.length_cons, List.length_cons]
              omega
            have hlater (n : Nat) :=
              ih rest.length hshorter (.inr (by simp [Mark.after])) hcolon n rfl
            refine ⟨by simp only [invokes_separator, fun n => (hlater n).1], fun h => ?_⟩
            obtain ⟨-, n, rfl, hn⟩ := invokes_separator.1 h
            exact (hlater n).2 hn
          | false =>
            rw [hseparator] at hsame
            by_cases hbang : ∃ joint, k = .punct '!' joint
            · obtain ⟨joint, rfl⟩ := hbang
              refine ⟨by rw [invokes_bang, invokes_bang], fun h => ?_⟩
              obtain ⟨-, rfl⟩ := invokes_bang.1 h
              simpa [Mark.after] using hlater
            · have hends (ts : List Tree) (h : isPunct "::" (.leaf k :: ts) = false) :
                  EndsPath (.leaf k :: ts) := by
                refine ⟨?_, fun he => absurd he (by simp [h])⟩
                cases k with
                | punct c joint =>
                  have hc : '!' ≠ c := fun he => hbang ⟨joint, by rw [he]⟩
                  exact beq_false_of_ne hc
                | _ => rfl
              exact hnone (hends _ hseparator).not_invokes (hends _ hsame.symm).not_invokes
        · exact hnone hts.not_invokes hus.not_invokes
    · exact hnone (not_invokes_of_isSegment rfl) (not_invokes_of_isSegment rfl)
    · exact hnone (not_invokes_of_isSegment rfl) (not_invokes_of_isSegment rfl)

/-! ## Whole paths -/

end Tidied

/-- The path without arguments in front has an exclamation mark behind it. -/
def facesBang (ts : List Tree) : Bool :=
  0 < modulePathSize ts && isPunct "!" (ts.drop (modulePathSize ts))

/-- The path begins with a separator or without. -/
theorem modulePathSize_eq_succ {n : Nat} :
    modulePathSize ts = n + 1 ∧ isPunct "!" (ts.drop (n + 1)) = true ↔
      ∃ k, n = separatorSize ts + k ∧ Invokes k (ts.drop (separatorSize ts)) := by
  simp only [modulePathSize, separatorSize]
  set rooted := if isPunct "::" ts = true then 2 else 0
  cases h : modulePathSize.segments (ts.drop rooted) with
  | zero => simp [Invokes, h]
  | succ k =>
    constructor
    · rintro ⟨hsize, hbang⟩
      refine ⟨k, by simp at hsize; omega, h, ?_⟩
      rw [List.drop_drop]
      rwa [show rooted + (k + 1) = n + 1 by simpa using hsize]
    · rintro ⟨k', rfl, hk, hbang⟩
      rw [h] at hk
      cases hk
      rw [List.drop_drop] at hbang
      exact ⟨rfl, hbang⟩

/-- Behind a separator in front nothing is left out. -/
theorem Tidied.drop_separator (hm : m.isPlain) (h : Tidied false m ts us)
    (hseparator : isPunct "::" ts = true) : Tidied false .colon (ts.drop 2) (us.drop 2) := by
  obtain ⟨joint, rest, rfl⟩ := eq_cons_of_separator hseparator
  obtain ⟨left, rfl, hleft⟩ := h.of_leaf hm nofun
  obtain ⟨left, rfl, hrest⟩ := hleft.of_leaf (by simp [Mark.after, Mark.isPlain]) nofun
  simpa [Mark.after] using hrest

theorem asks_separated {fresh : Bool} :
    Asks fresh fun ts => isPunct "::" ts && isPunct "<" (ts.drop 2) := by
  intro ts us h
  have hsame : isPunct "::" ts = isPunct "::" us := asks_isPunct (by decide) ts us h
  simp only [← hsame]
  cases hseparator : isPunct "::" ts with
  | false => rfl
  | true =>
    have hbehind := h.drop_separator (by simp) hseparator
    exact hbehind.plain rfl rfl (fun l _ _ _ => by cases l <;> rfl) (fun _ _ _ _ _ _ _ => rfl)
      fun _ _ _ _ _ _ _ => rfl

theorem Tidied.modulePathSize_iff (h : Tidied false .fresh ts us) (n : Nat) :
    ((modulePathSize ts = n + 1 ∧ isPunct "!" (ts.drop (n + 1)) = true) ↔
      modulePathSize us = n + 1 ∧ isPunct "!" (us.drop (n + 1)) = true) ∧
      (modulePathSize ts = n + 1 ∧ isPunct "!" (ts.drop (n + 1)) = true →
        Tidied false .other (ts.drop (n + 2)) (us.drop (n + 2))) := by
  have hseparated : isPunct "::" ts = isPunct "::" us :=
    (asks_isPunct (by decide) : Asks true _) ts us h
  have hsame : separatorSize ts = separatorSize us := by
    rw [separatorSize, hseparated, separatorSize]
  have hinvokes (k : Nat) : (Invokes k (ts.drop (separatorSize ts)) ↔
      Invokes k (us.drop (separatorSize ts))) ∧ (Invokes k (ts.drop (separatorSize ts)) →
        Tidied false .other ((ts.drop (separatorSize ts)).drop (k + 2))
          ((us.drop (separatorSize ts)).drop (k + 2))) := by
    unfold separatorSize
    split
    · next hseparator => exact (h.drop_separator rfl hseparator).invokes_iff (.inr rfl) k
    · exact h.invokes_iff (.inl rfl) k
  rw [modulePathSize_eq_succ, modulePathSize_eq_succ, ← hsame]
  refine ⟨by simp only [fun k => (hinvokes k).1], ?_⟩
  rintro ⟨k, rfl, hk⟩
  have hbehind := (hinvokes k).2 hk
  rw [List.drop_drop, List.drop_drop] at hbehind
  rwa [Nat.add_assoc]

/-- In front of an exclamation mark the path has the same size. -/
theorem Tidied.modulePathSize_eq (h : Tidied false .fresh ts us) (hbang : facesBang ts = true) :
    modulePathSize ts = modulePathSize us ∧
      Tidied false .other (ts.drop (modulePathSize ts + 1)) (us.drop (modulePathSize ts + 1)) := by
  cases hsize : modulePathSize ts with
  | zero => simp [facesBang, hsize] at hbang
  | succ n =>
    have hts : modulePathSize ts = n + 1 ∧ isPunct "!" (ts.drop (n + 1)) = true := by
      simpa [facesBang, hsize] using hbang
    obtain ⟨hiff, hbehind⟩ := h.modulePathSize_iff n
    exact ⟨(hiff.1 hts).1.symm, hbehind hts⟩

/-! ## Statements and items -/

theorem asks_facesBang : Asks true facesBang := by
  intro ts us h
  rw [Bool.eq_iff_iff]
  have hiff (ts : List Tree) : facesBang ts = true ↔
      ∃ n, modulePathSize ts = n + 1 ∧ isPunct "!" (ts.drop (n + 1)) = true := by
    cases hsize : modulePathSize ts <;> simp [facesBang, hsize]
  rw [hiff, hiff]
  simp only [fun n => (h.modulePathSize_iff n).1]

/-- A question about what stands behind the exclamation mark. -/
theorem asks_facesBang_and {f : List Tree → Bool} (hf : Asks false f) :
    Asks true fun ts => facesBang ts && f (ts.drop (modulePathSize ts + 1)) := by
  intro ts us h
  simp only [← asks_facesBang ts us h]
  cases hbang : facesBang ts with
  | false => rfl
  | true =>
    obtain ⟨hsize, hbehind⟩ := h.modulePathSize_eq hbang
    rw [← hsize, hf _ _ hbehind]

theorem asks_facesNamedInvocation : Asks true facesNamedInvocation := by
  have hname := asks_facesBang_and (f := fun ts => isIdent ts || isWord "try" ts)
    (asks_or asks_isIdent asks_isWord)
  intro ts us h
  simpa only [facesNamedInvocation, facesBang, List.drop_drop] using hname ts us h

theorem asks_facesBracedInvocation : Asks true facesBracedInvocation := by
  have hbraced := asks_facesBang_and
    (f := fun ts => isBrace ts && !(isDot (ts.drop 1) || isPunct "?" (ts.drop 1)))
    (asks_isBrace_and (f := fun ts => !(isDot ts || isPunct "?" ts))
      (asks_not (asks_or asks_isDot (asks_isPunct (by decide)))))
  intro ts us h
  simpa only [facesBracedInvocation, facesBang, List.drop_drop, Bool.and_assoc] using hbraced ts us h

theorem asks_facesItem : Asks true facesItem := by
  have hconst : Asks true fun ts => isWord "const" ts && !(isBrace (ts.drop 1) ||
      isWord "static" (ts.drop 1) || isWord "async" (ts.drop 1) &&
        !isOneOf ["unsafe", "extern", "fn"] (ts.drop 2) ||
      isWord "move" (ts.drop 1) || isPunct "|" (ts.drop 1)) := by
    have hword := asks_isWord_and (w := "const") (f := fun ts => !(isBrace ts || isWord "static" ts ||
      isWord "async" ts && !isOneOf ["unsafe", "extern", "fn"] (ts.drop 1) || isWord "move" ts ||
      isPunct "|" ts)) (.inl rfl) (asks_not (asks_or (asks_or (asks_or (asks_or asks_isBrace asks_isWord)
        (asks_and asks_isWord (asks_not asks_isOneOf_second))) asks_isWord) (asks_isPunct (by decide))))
    simpa only [List.drop_drop] using hword
  unfold facesItem
  repeat' with_reducible apply asks_or
  · exact asks_isWord
  · exact asks_isWord_and (f := fun ts => !isPunct "::" ts) (.inl rfl)
      (asks_not (asks_isPunct (by decide)))
  · exact asks_isOneOf
  · exact asks_and asks_isWord (asks_or asks_isWord_second asks_isIdent_second)
  · exact hconst
  · exact asks_and asks_isWord (asks_not asks_isBrace_second)
  · exact asks_and asks_isWord asks_isOneOf_second
  · exact asks_and asks_isWord asks_isIdent_second
  · exact asks_and asks_isWord asks_isWord_second
  · exact asks_and asks_isWord asks_isOneOf_second
  · exact asks_facesNamedInvocation

end Accessors.Grammar
