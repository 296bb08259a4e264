import Accessors.Grammar.Print
import Accessors.Proofs.Text.Digits
import Accessors.Proofs.Text.Parts

/-!
# Positions in decimal

A position in a tuple is written in any base and printed in decimal. What is printed is a position
again, and the same one.

* `positionValue_positionText`: the printed position has the value of the written one.
* `positions_positionText`: it is one position.
-/

namespace Accessors.Grammar

open Accessors.Text Accessors.Token

/-- A position begins with a digit. -/
theorem exists_digit_of_positionValue {cs : List Char} {n : Nat} (h : positionValue? cs = some n) :
    ∃ c rest, cs = c :: rest ∧ isDigit c = true := by
  have hdecimal {s : List Char} {n : Nat} (h : decimal? s = some n) :
      ∃ c rest, s = c :: rest ∧ isDigit c = true := by
    cases s with
    | nil => cases h
    | cons c rest =>
      simp only [decimal?, List.all_cons] at h
      cases hc : isDigit c
      · simp [hc] at h
      · exact ⟨c, rest, rfl, hc⟩
  obtain ⟨hvalue, -⟩ := Option.filter_eq_some_iff.1 h
  split at hvalue
  · cases hvalue
  · exact ⟨_, _, rfl, rfl⟩
  · exact ⟨_, _, rfl, rfl⟩
  · exact ⟨_, _, rfl, rfl⟩
  · next hunderscore _ _ _ =>
    obtain ⟨c, rest, hs, hc⟩ := hdecimal hvalue
    cases cs with
    | nil => cases hs
    | cons d ds =>
      -- The first character is no underscore, so it is the first digit.
      have hd : d ≠ '_' := fun he => hunderscore ds (by rw [he])
      rw [List.filter_cons_of_pos (by simpa using hd)] at hs
      exact ⟨d, ds, rfl, by rw [(List.cons.inj hs).1]; exact hc⟩

/-- The digits of a position that is printed. -/
theorem toList_positionText (cs : List Char) :
    (positionText cs).toList = Nat.toDigits 10 ((positionValue? cs).getD 0) := by
  rw [positionText, Nat.toString_eq_ofList_toDigits, String.toList_ofList]

theorem isDigit_of_mem_positionText {cs : List Char} {c : Char} (h : c ∈ (positionText cs).toList) :
    isDigit c = true := by
  rw [toList_positionText] at h
  rw [isDigit_eq]
  exact Nat.isDigit_of_mem_toDigits (by decide) (by decide) h

theorem positionText_ne_nil (cs : List Char) : (positionText cs).toList ≠ [] := by
  rw [toList_positionText]
  exact Nat.toDigits_ne_nil

/-- Digits alone are a number in decimal. -/
theorem positionValue_of_digits {cs : List Char} (h : ∀ c ∈ cs, isDigit c = true) :
    positionValue? cs = (decimal? cs).filter (· < 0x100000000) := by
  have hplain : cs.filter (· != '_') = cs := List.filter_eq_self.2 fun c hc => by
    have hdigit := h c hc
    rw [bne_iff_ne]
    rintro rfl
    cases hdigit
  have hnot (c : Char) (hc : isDigit c = false) : c ∉ cs := fun hmem => by simp [h c hmem] at hc
  unfold positionValue?
  rw [hplain]
  split
  · exact absurd List.mem_cons_self (hnot '_' rfl)
  · exact absurd (List.mem_cons_of_mem _ List.mem_cons_self) (hnot 'x' rfl)
  · exact absurd (List.mem_cons_of_mem _ List.mem_cons_self) (hnot 'o' rfl)
  · exact absurd (List.mem_cons_of_mem _ List.mem_cons_self) (hnot 'b' rfl)
  · rfl

/-- **What is printed is the position that was written.** -/
theorem positionValue_positionText (cs : List Char) :
    positionValue? (positionText cs).toList = some ((positionValue? cs).getD 0) := by
  have hdigits : ∀ c ∈ (positionText cs).toList, isDigit c = true :=
    fun c hc => isDigit_of_mem_positionText hc
  have hbound : (positionValue? cs).getD 0 < 0x100000000 := by
    cases h : positionValue? cs with
    | none => decide
    | some n => simpa using (Option.filter_eq_some_iff.1 h).2
  have hvalue : decimal? (positionText cs).toList = some ((positionValue? cs).getD 0) := by
    have hall : (positionText cs).toList.all isDigit = true := List.all_eq_true.2 hdigits
    have hread := Nat.ofDigitChars_toDigits (b := 10) (n := (positionValue? cs).getD 0) (by decide)
      (by decide)
    rw [← toList_positionText, Nat.ofDigitChars] at hread
    simp only [decimal?, hall, Bool.not_true, Bool.or_false, List.isEmpty_iff, positionText_ne_nil,
      if_false, Option.some.injEq]
    simpa only [Nat.mul_comm] using hread
  rw [positionValue_of_digits hdigits, hvalue]
  simp [hbound]

@[simp] theorem positionText_positionText (cs : List Char) :
    positionText (positionText cs).toList = positionText cs := by
  rw [positionText, positionValue_positionText, Option.getD_some, positionText]

theorem positions_positionText (cs : List Char) (ts : List Tree) :
    positions? (.leaf (.literal (positionText cs)) :: ts) = some [(positionText cs).toList] := by
  have hdot : '.' ∉ (positionText cs).toList := fun h => by
    cases isDigit_of_mem_positionText h
  have hne : positionText cs ≠ "" := fun h => positionText_ne_nil cs (by rw [h]; rfl)
  simp [positions?, splitOn_of_notMem hdot, positionValue_positionText, hne]

/-- What is printed begins with a digit, too. -/
theorem exists_digit_of_positionText (cs : List Char) :
    ∃ c rest, (positionText cs).toList = c :: rest ∧ isDigit c = true := by
  obtain ⟨c, rest, h⟩ := List.exists_cons_of_ne_nil (positionText_ne_nil cs)
  exact ⟨c, rest, h, isDigit_of_mem_positionText (by rw [h]; exact List.mem_cons_self)⟩

/-- Whether positions are written is seen from the first tree. -/
theorem positions_cons (t : Tree) (ts : List Tree) : positions? (t :: ts) = positions? [t] := by
  cases t with
  | leaf l => cases l <;> rfl
  | group d body => rfl

/-- The parts of a literal that positions are written as. -/
theorem positions_eq_some {text : String} {ts : List Tree} {parts : List (List Char)} :
    positions? (.leaf (.literal text) :: ts) = some parts ↔ splitOn '.' text.toList = parts ∧
      (if parts.getLast? == some [] then parts.dropLast else parts) ≠ [] ∧
      ∀ p ∈ (if parts.getLast? == some [] then parts.dropLast else parts),
        (positionValue? p).isSome = true := by
  simp only [positions?, Option.ite_none_right_eq_some, Option.some.injEq, Bool.and_eq_true,
    Bool.not_eq_true', List.isEmpty_eq_false_iff, List.all_eq_true]
  constructor
  · rintro ⟨⟨hne, hall⟩, rfl⟩
    exact ⟨rfl, hne, hall⟩
  · rintro ⟨rfl, hne, hall⟩
    exact ⟨⟨hne, hall⟩, rfl⟩

/-- A literal that is one position is that position. -/
theorem toList_of_positions {text : String} {part : List Char} {ts : List Tree}
    (h : positions? (.leaf (.literal text) :: ts) = some [part]) :
    text.toList = part ∧ (positionValue? part).isSome = true := by
  obtain ⟨hparts, hne, hall⟩ := positions_eq_some.1 h
  have hlast : ¬ ([part].getLast? == some []) = true := by
    intro he
    rw [if_pos he] at hne
    exact hne rfl
  rw [if_neg hlast] at hall
  refine ⟨?_, hall part List.mem_cons_self⟩
  by_cases hdot : '.' ∈ text.toList
  · obtain ⟨s, t, hst⟩ := List.append_of_mem hdot
    rw [hst, splitOn_append] at hparts
    have hlen := congrArg List.length hparts
    have hs := List.length_pos_iff.2 (splitOn_ne_nil '.' s)
    have ht := List.length_pos_iff.2 (splitOn_ne_nil '.' t)
    rw [List.length_append, List.length_singleton] at hlen
    omega
  · rw [splitOn_of_notMem hdot] at hparts
    exact (List.cons.inj hparts).1

/-- A position is a number. -/
theorem exists_digit_of_position {text : String} {part : List Char}
    (h : positions? [.leaf (.literal text)] = some [part]) :
    ∃ c rest, text.toList = c :: rest ∧ isDigit c = true := by
  obtain ⟨htext, hvalue⟩ := toList_of_positions h
  obtain ⟨n, hn⟩ := Option.isSome_iff_exists.1 hvalue
  rw [htext]
  exact exists_digit_of_positionValue hn

theorem isNumber_of_digit {text : String} {c : Char} {rest : List Char} (h : text.toList = c :: rest)
    (hc : isDigit c = true) : isNumber text = true := by
  simp [isNumber, h, hc]

end Accessors.Grammar
