import Mathlib.Data.List.Nodup
import Accessors.Proofs.Text.CaseTables
import Accessors.Text.Alphabetic
import Accessors.Text.Blank

/-!
# Capitals and their lower case

A getter's name has capitals where its field's name had the beginnings of words, and the property's
name has the first of them in lower case again.

* `isCapital_of_mem_toUpper`: upper case is left alone by upper case.
* `all_isAlphanumeric_toUpper`: the letters whose upper case is not made of letters and numbers.
* `toUpper_of_toLower`: lower case leads back to a capital, but for a few.
* `eq_or_lookalike_of_toLower_eq`: two capitals with one lower case are one, or a known pair.
-/

namespace Accessors.Text

/-! ## Capitals -/

/-- The tables have no upper case for the character: it is a capital, or it has no case. -/
def IsCapital (c : Char) : Prop := c.toNat ∉ sources upperExpansions upperRuns

instance : DecidablePred IsCapital := fun c =>
  decidable_of_iff ((pointMask (sources upperExpansions upperRuns)).testBit c.toNat ≠ true)
    (not_congr testBit_pointMask)

theorem toUpper_of_isCapital {c : Char} (h : IsCapital c) : toUpper c = [c] := mapCase_of_notMem h

/-- The code points of characters. -/
def characterRanges : List (Nat × Nat) := [(0, 0xD7FF), (0xE000, 0x10FFFF)]

theorem isValidChar_of_testBit {n : Nat} (h : (rangeMask characterRanges).testBit n = true) :
    n.isValidChar := by
  rw [testBit_rangeMask] at h
  simp [characterRanges] at h
  rw [Nat.isValidChar]
  omega

/-- The set of letters and numbers. -/
def alphanumericMask : Nat := rangeMask (alphabeticRanges ++ numberRanges)

/-- Letters whose upper case ends in a mark that stands alone, which is neither a letter nor a
number. -/
def markedInUpperCase : List Nat :=
  [0x1F0, 0x390, 0x3B0, 0x1E96, 0x1E97, 0x1E98, 0x1E99, 0x1F50, 0x1F52, 0x1F54, 0x1F56, 0x1FB6,
   0x1FB7, 0x1FC6, 0x1FC7, 0x1FD2, 0x1FD3, 0x1FD6, 0x1FD7, 0x1FE2, 0x1FE3, 0x1FE4, 0x1FE6, 0x1FE7,
   0x1FF6, 0x1FF7]

/-- Capitals that their lower case does not lead back to. -/
def detached : List Char := ['\u0130', '\u03f4', '\u1e9e', '\u2126', '\u212a', '\u212b']

/-- The first run leads every image of the second one back. The comparisons are those that a table
is checked with fastest. -/
def CaseRun.undoes (s r : CaseRun) : Bool :=
  s.first.ble r.image && ((r.image + (r.last - r.first)).ble s.last &&
    ((s.image + (r.image - s.first)).beq r.first &&
      (((r.image - s.first) % s.step).beq 0 && (r.step % s.step).beq 0)))

/-- What the tables say, as far as it takes a look at all their entries. They are compared once. -/
structure CaseTables : Prop where
  /-- The upper case of characters is characters. -/
  upperImages : pointMask (images upperExpansions upperRuns) &&& rangeMask characterRanges =
    pointMask (images upperExpansions upperRuns)
  /-- None of them has another upper case. -/
  upperApart : pointMask (images upperExpansions upperRuns) &&&
    pointMask (sources upperExpansions upperRuns) = 0
  upperFilled : ∀ e ∈ upperExpansions, e.2 ≠ []
  upperOrdered : upperRuns.IsChain Ordered
  lowerImages : pointMask (images lowerExpansions lowerRuns) &&& rangeMask characterRanges =
    pointMask (images lowerExpansions lowerRuns)
  /-- No character that lower case yields has another lower case. -/
  lowerApart : pointMask (images lowerExpansions lowerRuns) &&&
    pointMask (sources lowerExpansions lowerRuns) = 0
  lowerFilled : ∀ e ∈ lowerExpansions, e.2 ≠ []
  /-- White space is neither letters nor numbers. -/
  spaces : rangeMask spaceRanges &&& alphanumericMask = 0
  /-- White space has no lower case, and nothing has white space for its lower case. -/
  spacesCaseless : rangeMask spaceRanges &&& pointMask (sources lowerExpansions lowerRuns) = 0 ∧
    rangeMask spaceRanges &&& pointMask (images lowerExpansions lowerRuns) = 0
  /-- Letters are expanded, to letters and numbers but for the marked ones. -/
  upperLetters : ∀ e ∈ upperExpansions, alphanumericMask.testBit e.1 = true ∧
    (e.2.all alphanumericMask.testBit) = !markedInUpperCase.contains e.1
  marked : ∀ n ∈ markedInUpperCase, n ∈ upperExpansions.map (·.1)
  /-- Runs lead from letters and numbers to letters and numbers. -/
  upperRunPoints : pointMask (upperRuns.flatMap CaseRun.points) &&& alphanumericMask =
    pointMask (upperRuns.flatMap CaseRun.points)
  upperRunImages : pointMask (upperRuns.flatMap CaseRun.images) &&& alphanumericMask =
    pointMask (upperRuns.flatMap CaseRun.images)
  lowerRunImages : pointMask (lowerRuns.flatMap CaseRun.images) &&& alphanumericMask =
    pointMask (lowerRuns.flatMap CaseRun.images)
  /-- None of them is for an expanded letter. -/
  upperRunsApart : pointMask (upperRuns.flatMap CaseRun.points) &&&
    pointMask (upperExpansions.map (·.1)) = 0
  lowerDetached : ∀ e ∈ lowerExpansions, Char.ofNat e.1 ∈ detached
  /-- The runs of the lower case are undone as a whole, or point by point where they have to be. -/
  undone : (lowerRuns.all fun r => upperRuns.any (·.undoes r) ||
    r.points.all fun n => (pointMask (sources upperExpansions upperRuns)).testBit n ||
      detached.contains (Char.ofNat n) ||
      upperRuns.any fun s => s.map? (r.image + (n - r.first)) == some n) = true

theorem caseTables : CaseTables := by constructor <;> decide +kernel

theorem isValidChar_upper : ∀ n ∈ images upperExpansions upperRuns, n.isValidChar := fun _ hn =>
  isValidChar_of_testBit (testBit_of_and (CaseTables.upperImages caseTables) hn)

theorem isValidChar_lower : ∀ n ∈ images lowerExpansions lowerRuns, n.isValidChar := fun _ hn =>
  isValidChar_of_testBit (testBit_of_and (CaseTables.lowerImages caseTables) hn)

/-- **Upper case is left alone by upper case.** -/
theorem isCapital_of_mem_toUpper {c u : Char} (h : u ∈ toUpper c) : IsCapital u :=
  notMem_sources_of_mem_mapCase isValidChar_upper (CaseTables.upperApart caseTables) h

theorem toUpper_ne_nil (c : Char) : toUpper c ≠ [] := by
  rw [toUpper]
  rcases mapCase_cases upperExpansions upperRuns c with ⟨e, he, -, hc⟩ | ⟨r, -, m, -, hc⟩ | ⟨-, hc⟩
  · rw [hc]; simpa using CaseTables.upperFilled caseTables e he
  · rw [hc]; simp
  · rw [hc]; simp

/-! ## Letters and numbers in upper case -/

theorem isAlphanumeric_eq_testBit (c : Char) :
    isAlphanumeric c = alphanumericMask.testBit c.toNat := by
  rw [alphanumericMask, testBit_rangeMask, List.any_append]
  rfl

/-- Letters and numbers are not white space. -/
theorem isSpace_of_isAlphanumeric {c : Char} (h : isAlphanumeric c = true) : isSpace c = false := by
  rw [isAlphanumeric_eq_testBit] at h
  have hbit := Nat.testBit_and (rangeMask spaceRanges) alphanumericMask c.toNat
  rw [CaseTables.spaces caseTables, Nat.zero_testBit, h, Bool.and_true] at hbit
  rw [isSpace, inRanges_eq_testBit, ← hbit]

/-- **The upper case of a character is made of letters and numbers exactly if the character is one of
them**, and is not one of the few letters with a mark that have no capital of their own. -/
theorem all_isAlphanumeric_toUpper (c : Char) :
    (toUpper c).all isAlphanumeric =
      (isAlphanumeric c && !markedInUpperCase.contains c.toNat) := by
  rw [toUpper]
  rcases mapCase_cases upperExpansions upperRuns c with
    ⟨e, he, hkey, hc⟩ | ⟨r, hr, m, hm, hc⟩ | ⟨hn, hc⟩
  · obtain ⟨hletter, hall⟩ := CaseTables.upperLetters caseTables e he
    rw [hc, List.all_map, isAlphanumeric_eq_testBit, hkey, hletter, Bool.true_and, ← hall,
      Bool.eq_iff_iff, List.all_eq_true, List.all_eq_true]
    refine forall₂_congr fun n hn => ?_
    have hvalid : n.isValidChar := isValidChar_upper n (mem_images_of_expansion he hn)
    rw [Function.comp_apply, isAlphanumeric_eq_testBit, toNat_ofNat hvalid]
  · obtain ⟨hn, hmn⟩ := CaseRun.map?_eq_some.1 hm
    have hpoint : c.toNat ∈ upperRuns.flatMap CaseRun.points := List.mem_flatMap.2 ⟨r, hr, hn⟩
    have himage : m ∈ upperRuns.flatMap CaseRun.images :=
      List.mem_flatMap.2 ⟨r, hr, hmn ▸ List.mem_map_of_mem hn⟩
    have hmarked : c.toNat ∉ markedInUpperCase := fun h =>
      notMem_of_and (CaseTables.upperRunsApart caseTables) hpoint (CaseTables.marked caseTables _ h)
    have hvalid : m.isValidChar := isValidChar_upper m (mem_images_of_run hr hm)
    rw [hc]
    simp [isAlphanumeric_eq_testBit, toNat_ofNat hvalid, hmarked,
      testBit_of_and (CaseTables.upperRunPoints caseTables) hpoint,
      testBit_of_and (CaseTables.upperRunImages caseTables) himage]
  · have hmarked : c.toNat ∉ markedInUpperCase := fun h =>
      hn (List.mem_append_left _ (CaseTables.marked caseTables _ h))
    rw [hc]
    simp [hmarked]

/-! ## Back from lower case -/

theorem CaseRun.map?_of_undoes {r s : CaseRun} (h : s.undoes r = true) {n m : Nat}
    (hm : r.map? n = some m) : s.map? m = some n := by
  obtain ⟨hn, rfl⟩ := map?_eq_some.1 hm
  obtain ⟨hfirst, hlast, hstep⟩ := mem_points.1 hn
  simp only [undoes, Bool.and_eq_true, Nat.ble_eq, Nat.beq_eq] at h
  obtain ⟨hlow, hhigh, hback, hoffset, hsteps⟩ := h
  have hsplit : r.image + (n - r.first) - s.first = (r.image - s.first) + (n - r.first) := by omega
  have hdvd : s.step ∣ n - r.first :=
    Nat.dvd_trans (Nat.dvd_of_mod_eq_zero hsteps) (Nat.dvd_of_mod_eq_zero hstep)
  have hmod : (r.image + (n - r.first) - s.first) % s.step = 0 := by
    rw [hsplit]
    exact Nat.mod_eq_zero_of_dvd (Nat.dvd_add (Nat.dvd_of_mod_eq_zero hoffset) hdvd)
  rw [map?_eq_some, mem_points]
  exact ⟨⟨by omega, by omega, hmod⟩, by omega⟩

/-- A run of the lower case is undone at every capital, but for a few. -/
theorem exists_run_back {c : Char} (hc : IsCapital c) (hd : c ∉ detached) {r : CaseRun}
    (hr : r ∈ lowerRuns) {m : Nat} (hm : r.map? c.toNat = some m) :
    ∃ s ∈ upperRuns, s.map? m = some c.toNat := by
  obtain ⟨hn, hmn⟩ := CaseRun.map?_eq_some.1 hm
  have hrow := List.all_eq_true.1 (CaseTables.undone caseTables) r hr
  simp only [Bool.or_eq_true, List.any_eq_true, List.all_eq_true, testBit_pointMask,
    List.contains_iff_mem, beq_iff_eq] at hrow
  rcases hrow with ⟨s, hs, hundoes⟩ | hpoints
  · exact ⟨s, hs, CaseRun.map?_of_undoes hundoes hm⟩
  · rcases hpoints _ hn with (hsource | hmem) | hback
    · exact absurd hsource hc
    · rw [Char.ofNat_toNat] at hmem
      exact absurd hmem hd
    · rwa [hmn]

/-- **Lower case leads back to a capital**, but for a few. -/
theorem toUpper_of_toLower {c : Char} (hc : IsCapital c) (hd : c ∉ detached) :
    ∃ l, toLower c = [l] ∧ toUpper l = [c] := by
  rcases mapCase_cases lowerExpansions lowerRuns c with
    ⟨e, he, hkey, -⟩ | ⟨r, hr, m, hm, hl⟩ | ⟨-, hl⟩
  · have hmem := CaseTables.lowerDetached caseTables e he
    rw [← hkey, Char.ofNat_toNat] at hmem
    exact absurd hmem hd
  · obtain ⟨s, hs, hsm⟩ := exists_run_back hc hd hr hm
    have hvalid : m.isValidChar := isValidChar_lower m (mem_images_of_run hr hm)
    have hupper : toUpper (Char.ofNat m) = [Char.ofNat c.toNat] :=
      mapCase_of_run (List.isChain_iff_pairwise.1 (CaseTables.upperOrdered caseTables))
        (fun _ => notMem_of_and (CaseTables.upperRunsApart caseTables)) hs
        (by rw [toNat_ofNat hvalid]; exact hsm)
    exact ⟨Char.ofNat m, hl, by rw [hupper, Char.ofNat_toNat]⟩
  · exact ⟨c, hl, toUpper_of_isCapital hc⟩

/-! ## Capitals with one lower case -/

/-- Capitals that have their lower case in common: the letters and the signs that look like them. -/
def lookalikes : List (Char × Char) :=
  [('K', '\u212a'), ('\u00c5', '\u212b'), ('\u03a9', '\u2126'), ('\u0398', '\u03f4')]

/-- The characters are a letter and the sign that looks like it, in either order. -/
def Lookalike (c d : Char) : Prop := (c, d) ∈ lookalikes ∨ (d, c) ∈ lookalikes

instance : DecidableRel Lookalike := fun _ _ => inferInstanceAs (Decidable (_ ∨ _))

theorem Lookalike.symm {c d : Char} (h : Lookalike c d) : Lookalike d c := Or.symm h

theorem Lookalike.isCapital {c d : Char} (h : Lookalike c d) :
    IsCapital c ∧ isAlphanumeric c = true := by
  have hall : (lookalikes.all fun p => decide (IsCapital p.1) && isAlphanumeric p.1 &&
      (decide (IsCapital p.2) && isAlphanumeric p.2)) = true := by
    decide +kernel
  simp only [List.all_eq_true, Bool.and_eq_true, decide_eq_true_eq] at hall
  rcases h with h | h
  · exact (hall _ h).1
  · exact (hall _ h).2

theorem Lookalike.toLower_eq {c d : Char} (h : Lookalike c d) :
    toLower c = toLower d ∧ ∃ l, toLower c = [l] := by
  have hsame : ∀ p ∈ lookalikes, toLower p.1 = toLower p.2 ∧ (toLower p.1).length = 1 := by
    decide +kernel
  rcases h with h | h
  · exact ⟨(hsame _ h).1, List.length_eq_one_iff.1 (hsame _ h).2⟩
  · exact ⟨(hsame _ h).1.symm, List.length_eq_one_iff.1 ((hsame _ h).1 ▸ (hsame _ h).2)⟩

/-- Where lower case leads back to, if it leads to one character and from there to one again. -/
def back? (c : Char) : Option Char :=
  match toLower c with
  | [l] =>
    match toUpper l with
    | [d] => some d
    | _ => none
  | _ => none

theorem back?_eq_some {c l d : Char} (hl : toLower c = [l]) (hd : toUpper l = [d]) :
    back? c = some d := by
  unfold back?
  rw [hl]
  simp only [hd]

/-- From a detached capital, it leads back to its lookalike, or not at all. -/
theorem lookalike_of_back {c d : Char} (hc : c ∈ detached) (h : back? c = some d) :
    Lookalike c d := by
  have hall : (detached.all fun c => (back? c).all fun d => decide (Lookalike c d)) = true := by
    decide +kernel
  have hd := List.all_eq_true.1 hall c hc
  rw [h] at hd
  simpa using hd

/-- Detached capitals have different lower cases. -/
theorem detached_injective : (detached.map toLower).Nodup := by decide +kernel

/-- **Two capitals with one lower case are the same, or look the same.** -/
theorem eq_or_lookalike_of_toLower_eq {c d : Char} (hc : IsCapital c) (hd : IsCapital d)
    (h : toLower c = toLower d) : c = d ∨ Lookalike c d := by
  by_cases hcd : c ∈ detached
  · by_cases hdd : d ∈ detached
    · exact .inl (List.inj_on_of_nodup_map detached_injective hcd hdd h)
    · obtain ⟨l, hl, hup⟩ := toUpper_of_toLower hd hdd
      exact .inr (lookalike_of_back hcd (back?_eq_some (h.trans hl) hup))
  · obtain ⟨l, hl, hup⟩ := toUpper_of_toLower hc hcd
    by_cases hdd : d ∈ detached
    · exact .inr (lookalike_of_back hdd (back?_eq_some (h.symm.trans hl) hup)).symm
    · obtain ⟨l', hl', hup'⟩ := toUpper_of_toLower hd hdd
      obtain rfl : l = l' := by simpa using hl.symm.trans (h.trans hl')
      exact .inl (by simpa using hup.symm.trans hup')

/-- The lower case of a character is one character, but for the dotted capital. -/
theorem toLower_cases (c : Char) :
    (∃ l, toLower c = [l]) ∨ c = '\u0130' ∧ toLower c = ['i', '\u0307'] := by
  rcases mapCase_cases lowerExpansions lowerRuns c with ⟨e, he, hkey, hl⟩ | ⟨r, -, m, -, hl⟩ | ⟨-, hl⟩
  · obtain rfl : e = (0x130, [0x69, 0x307]) := by simpa [lowerExpansions] using he
    refine .inr ⟨?_, hl⟩
    rw [← Char.ofNat_toNat c, hkey]
  · exact .inl ⟨_, hl⟩
  · exact .inl ⟨_, hl⟩

end Accessors.Text
