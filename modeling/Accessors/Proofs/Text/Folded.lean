import Accessors.Proofs.Text.Ascii
import Accessors.Proofs.Text.Capitals

/-!
# Texts whose lower case is in ASCII

Some characters outside of ASCII have a lower case with a character of ASCII in it. It is the letter
`k`, or another character outside of ASCII comes with it. So a text becomes an ASCII word without
that letter only if it is the word already, up to the case of ASCII letters.

* `lowercase_eq_iff`: which texts become such a word.
-/

namespace Accessors.Text

/-- What lies outside of ASCII is moved to a place outside of it, or to the letter `k`. -/
theorem lowerRuns_leave : ∀ r ∈ lowerRuns,
    r.last < 128 ∨ 128 ≤ r.image ∨ r.first = r.last ∧ r.image = 'k'.toNat := by
  decide +kernel

theorem lowerExpansions_leave :
    ∀ e ∈ lowerExpansions, ∃ n ∈ e.2, 128 ≤ (Char.ofNat n).toNat := by
  decide +kernel

/-- The lower case of a character outside of ASCII has the letter `k` in it, or another character
outside of ASCII. -/
theorem exists_mem_toLower {c : Char} (hc : ¬ c.isAscii = true) :
    ∃ u ∈ toLower c, ¬ (u.isAscii = true ∧ u ≠ 'k') := by
  have hlarge : 128 ≤ c.toNat := by simpa [Char.isAscii] using hc
  have hout {u : Char} (hu : 128 ≤ u.toNat) : ¬ (u.isAscii = true ∧ u ≠ 'k') := fun h => by
    have := toNat_lt_of_ascii h.1
    omega
  rw [toLower]
  rcases mapCase_cases lowerExpansions lowerRuns c with
    ⟨e, he, -, heq⟩ | ⟨r, hr, m, hm, heq⟩ | ⟨-, heq⟩
  · obtain ⟨n, hn, hlarge⟩ := lowerExpansions_leave e he
    exact ⟨Char.ofNat n, by rw [heq]; exact List.mem_map_of_mem hn, hout hlarge⟩
  · refine ⟨Char.ofNat m, by simp [heq], ?_⟩
    obtain ⟨hmem, rfl⟩ := CaseRun.map?_eq_some.1 hm
    have hrange := CaseRun.mem_points.1 hmem
    rcases lowerRuns_leave r hr with hlast | himage | ⟨hfirst, himage⟩
    · -- The run ends in ASCII, where the character is not.
      omega
    · have hvalid := isValidChar_lower _ (mem_images_of_run hr hm)
      exact hout (by rw [toNat_ofNat hvalid]; omega)
    · have hm : r.image + (c.toNat - r.first) = 'k'.toNat := by omega
      rw [hm, Char.ofNat_toNat]
      simp
  · exact ⟨c, by simp [heq], hout hlarge⟩

theorem isAscii_of_toLower {c : Char} (h : c.toLower.isAscii = true) : c.isAscii = true := by
  by_contra hc
  -- A character outside of ASCII is no capital of ASCII, and stays.
  have hlarge : 128 ≤ c.toNat := by simpa [Char.isAscii] using hc
  have hsame : c.toLower = c := by
    refine dif_neg ?_
    rintro ⟨-, hle⟩
    have : c.toNat ≤ 'Z'.toNat := hle
    have : 'Z'.toNat < 128 := by decide
    omega
  exact hc (hsame ▸ h)

theorem lowercase_cons (c : Char) (s : List Char) :
    lowercase (c :: s) = toLower c ++ lowercase s := by
  simp [lowercase]

/-- **A text becomes such a word exactly if it is the word**, up to the case of ASCII letters. -/
theorem lowercase_eq_iff {word s : List Char} (h : ∀ c ∈ word, c.isAscii = true ∧ c ≠ 'k') :
    lowercase s = word ↔ s.map Char.toLower = word := by
  induction s generalizing word with
  | nil => simp [lowercase]
  | cons c s ih =>
    by_cases hc : c.isAscii = true
    · rw [lowercase_cons, toLower_of_ascii hc, List.map_cons]
      cases word with
      | nil => simp
      | cons d word =>
        rw [List.forall_mem_cons] at h
        simp [ih h.2]
    · -- The lower case of the character is not in the word, and the character itself is not either.
      have hleft : ¬ lowercase (c :: s) = word := by
        rintro rfl
        obtain ⟨u, hu, hnot⟩ := exists_mem_toLower hc
        exact hnot (h u (by rw [lowercase_cons]; exact List.mem_append_left _ hu))
      have hright : ¬ (c :: s).map Char.toLower = word := by
        rintro rfl
        have hlower := (h c.toLower (by simp)).1
        exact hc (isAscii_of_toLower hlower)
      exact iff_of_false hleft hright

end Accessors.Text
