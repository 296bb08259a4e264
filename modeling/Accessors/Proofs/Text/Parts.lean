import Mathlib.Data.List.Basic
import Accessors.Text.Slice

/-!
# Parts of a text put together

* `splitOn_append`, `splitOn_of_notMem`: a text is cut at its separators and nowhere else.
* `getLast_of_splitOn`: the last part is empty only behind a separator.
* `eq_of_isPrefix`: a beginning of a text is shorter in bytes, or the text itself.
* `splitBytes_append`: a text is cut behind a beginning by the size of the beginning.
-/

namespace Accessors.Text

/-! ## Separators -/

theorem splitOn_ne_nil (c : Char) (cs : List Char) : splitOn c cs ≠ [] := by
  cases cs with
  | nil => simp [splitOn]
  | cons d rest =>
    rw [splitOn]
    split
    · simp
    · split <;> simp

theorem splitOn_separator (c : Char) (cs : List Char) : splitOn c (c :: cs) = [] :: splitOn c cs := by
  obtain ⟨first, others, hparts⟩ := List.exists_cons_of_ne_nil (splitOn_ne_nil c cs)
  simp only [splitOn, hparts, if_true]

/-- A character that separates nothing belongs to the first part. -/
theorem splitOn_cons {c d : Char} (hd : d ≠ c) {cs first : List Char} {others : List (List Char)}
    (h : splitOn c cs = first :: others) : splitOn c (d :: cs) = (d :: first) :: others := by
  simp only [splitOn, h, if_neg hd]

theorem splitOn_append (c : Char) (s t : List Char) :
    splitOn c (s ++ c :: t) = splitOn c s ++ splitOn c t := by
  induction s with
  | nil => rw [List.nil_append, splitOn_separator]; rfl
  | cons d s ih =>
    rw [List.cons_append]
    by_cases hd : d = c
    · rw [hd, splitOn_separator, splitOn_separator, ih, List.cons_append]
    · obtain ⟨first, others, hparts⟩ := List.exists_cons_of_ne_nil (splitOn_ne_nil c s)
      rw [hparts, List.cons_append] at ih
      rw [splitOn_cons hd ih, splitOn_cons hd hparts, List.cons_append]

theorem splitOn_of_notMem {c : Char} {s : List Char} (h : c ∉ s) : splitOn c s = [s] := by
  induction s with
  | nil => rfl
  | cons d s ih =>
    rw [List.mem_cons, not_or] at h
    exact splitOn_cons (Ne.symm h.1) (ih h.2)

/-- Nothing stands behind the last separator only where the text ends with it. -/
theorem getLast_of_splitOn {c : Char} {cs : List Char} (hne : cs ≠ [])
    (h : (splitOn c cs).getLast? = some []) : cs.getLast? = some c := by
  induction cs with
  | nil => exact absurd rfl hne
  | cons d rest ih =>
    obtain ⟨first, others, hparts⟩ := List.exists_cons_of_ne_nil (splitOn_ne_nil c rest)
    by_cases hd : d = c
    · rw [hd, splitOn_separator] at h
      cases rest with
      | nil => rw [hd]; rfl
      | cons e rest =>
        rw [List.getLast?_cons_of_ne_nil (splitOn_ne_nil c _)] at h
        rw [List.getLast?_cons_of_ne_nil (List.cons_ne_nil _ _)]
        exact ih (List.cons_ne_nil _ _) h
    · rw [splitOn_cons hd hparts] at h
      -- The part that ends the text is not the first one, which has a character.
      cases others with
      | nil => simp at h
      | cons next others =>
        have hlast : (splitOn c rest).getLast? = some [] := by
          rw [hparts, List.getLast?_cons_of_ne_nil (List.cons_ne_nil _ _)]
          rwa [List.getLast?_cons_of_ne_nil (List.cons_ne_nil _ _)] at h
        have hrest : rest ≠ [] := by
          rintro rfl
          cases hparts
        rw [List.getLast?_cons_of_ne_nil hrest]
        exact ih hrest hlast

/-! ## Bytes -/

theorem byteSize_append (s t : List Char) : byteSize (s ++ t) = byteSize s + byteSize t := by
  induction s with
  | nil => simp [byteSize]
  | cons c s ih => rw [List.cons_append, byteSize, byteSize, ih, Nat.add_assoc]

theorem eq_nil_of_byteSize {s : List Char} (h : byteSize s = 0) : s = [] := by
  cases s with
  | nil => rfl
  | cons c s =>
    have hpos := c.utf8Size_pos
    rw [byteSize] at h
    omega

/-- A text is no shorter than its beginnings. -/
theorem byteSize_le_of_isPrefix {s t : List Char} (h : s <+: t) : byteSize s ≤ byteSize t := by
  obtain ⟨rest, rfl⟩ := h
  rw [byteSize_append]
  exact Nat.le_add_right _ _

/-- A beginning of a text that is no shorter is the text. -/
theorem eq_of_isPrefix {s t : List Char} (h : s <+: t) (hsize : byteSize t ≤ byteSize s) : s = t := by
  obtain ⟨rest, rfl⟩ := h
  rw [byteSize_append] at hsize
  have hrest : rest = [] := eq_nil_of_byteSize (by omega)
  rw [hrest, List.append_nil]

theorem splitBytes_append (s t : List Char) : splitBytes (byteSize s) (s ++ t) = (s, t) := by
  induction s with
  | nil => rw [byteSize, List.nil_append, splitBytes]
  | cons c s ih =>
    have hpos := c.utf8Size_pos
    obtain ⟨n, hn⟩ : ∃ n, byteSize (c :: s) = n + 1 := ⟨byteSize (c :: s) - 1, by rw [byteSize]; omega⟩
    have hrest : n + 1 - c.utf8Size = byteSize s := by rw [← hn, byteSize]; omega
    rw [hn, List.cons_append, splitBytes, hrest, ih]

end Accessors.Text
