import Mathlib.Data.List.Chain
import Accessors.Proofs.Text.PointMask
import Accessors.Text.LetterCase

/-!
# What the case tables say

A case mapping is read from two tables by searching them. Here the tables are read as sets of code
points, so that what they say about every character follows from a few comparisons of whole tables.

* `mapCase_cases`: a character is expanded, moved by a run, or left alone.
* `mapCase_of_run`: in a table whose runs are ordered, every run is found.
* `notMem_sources_of_mem_mapCase`: what a mapping yields, it leaves alone, if no image is a source.
-/

namespace Accessors.Text

variable {expansions : List (Nat × List Nat)} {runs : List CaseRun}

/-! ## Runs as sets -/

/-- The code points of a run. -/
def CaseRun.points (r : CaseRun) : List Nat :=
  (List.range' r.first (r.last + 1 - r.first)).filter fun n => (n - r.first) % r.step == 0

/-- The code points that a run yields. -/
def CaseRun.images (r : CaseRun) : List Nat := r.points.map fun n => r.image + (n - r.first)

theorem CaseRun.mem_points {r : CaseRun} {n : Nat} :
    n ∈ r.points ↔ r.first ≤ n ∧ n ≤ r.last ∧ (n - r.first) % r.step = 0 := by
  rw [points, List.mem_filter, List.mem_range'_1, beq_iff_eq]
  omega

theorem CaseRun.map?_eq_some {r : CaseRun} {n m : Nat} :
    r.map? n = some m ↔ n ∈ r.points ∧ m = r.image + (n - r.first) := by
  rw [map?, mem_points]
  split
  · next h => simp [h, eq_comm]
  · next h => simp [h]

theorem CaseRun.map?_eq_none {r : CaseRun} {n : Nat} : r.map? n = none ↔ n ∉ r.points := by
  rw [map?, mem_points]
  simp

/-- The code points that a mapping has entries for. -/
def sources (expansions : List (Nat × List Nat)) (runs : List CaseRun) : List Nat :=
  expansions.map (·.1) ++ runs.flatMap CaseRun.points

/-- The code points that the entries yield. -/
def images (expansions : List (Nat × List Nat)) (runs : List CaseRun) : List Nat :=
  expansions.flatMap (·.2) ++ runs.flatMap CaseRun.images

/-! ## Entries and characters -/

/-- **What becomes of a character**: its expansion, its image in a run, or itself. -/
theorem mapCase_cases (expansions : List (Nat × List Nat)) (runs : List CaseRun) (c : Char) :
    (∃ e ∈ expansions, c.toNat = e.1 ∧ mapCase expansions runs c = e.2.map Char.ofNat) ∨
    (∃ r ∈ runs, ∃ m, r.map? c.toNat = some m ∧ mapCase expansions runs c = [Char.ofNat m]) ∨
    (c.toNat ∉ sources expansions runs ∧ mapCase expansions runs c = [c]) := by
  unfold mapCase
  split
  · next image hlookup =>
    obtain ⟨before, after, rfl, -⟩ := List.lookup_eq_some_iff.1 hlookup
    exact .inl ⟨(c.toNat, image), by simp, rfl, rfl⟩
  · next hlookup =>
    split
    · next m hrun =>
      obtain ⟨r, hr, hm⟩ := List.exists_of_findSome?_eq_some hrun
      exact .inr (.inl ⟨r, hr, m, hm, rfl⟩)
    · next hrun =>
      refine .inr (.inr ⟨?_, rfl⟩)
      rw [List.lookup_eq_none_iff] at hlookup
      rw [List.findSome?_eq_none_iff] at hrun
      simp only [sources, List.mem_append, List.mem_map, List.mem_flatMap, not_or]
      constructor
      · rintro ⟨e, he, hkey⟩
        simpa [hkey] using hlookup e he
      · rintro ⟨r, hr, hn⟩
        exact CaseRun.map?_eq_none.1 (hrun r hr) hn

theorem mapCase_of_notMem {c : Char} (h : c.toNat ∉ sources expansions runs) :
    mapCase expansions runs c = [c] := by
  simp only [sources, List.mem_append, List.mem_map, List.mem_flatMap, not_or, not_exists,
    not_and] at h
  rcases mapCase_cases expansions runs c with ⟨e, he, hkey, -⟩ | ⟨r, hr, m, hm, -⟩ | ⟨-, hc⟩
  · exact absurd hkey.symm (h.1 e he)
  · exact absurd (CaseRun.map?_eq_some.1 hm).1 (h.2 r hr)
  · exact hc

/-- The runs of a table are intervals, from low to high. -/
def Ordered (r s : CaseRun) : Prop := r.last < s.first ∧ s.first ≤ s.last

instance : DecidableRel Ordered := fun _ _ => inferInstanceAs (Decidable (_ ∧ _))

instance : Trans Ordered Ordered Ordered where
  trans h h' := ⟨by have := h.2; have := h.1; have := h'.1; omega, h'.2⟩

/-- In an ordered table, a code point is in no other run than the one it is in. -/
theorem findSome_of_run (horder : runs.Pairwise Ordered) {r : CaseRun} (hr : r ∈ runs) {n m : Nat}
    (hm : r.map? n = some m) : runs.findSome? (·.map? n) = some m := by
  induction runs with
  | nil => cases hr
  | cons s runs ih =>
    rw [List.pairwise_cons] at horder
    rw [List.findSome?_cons]
    rcases List.mem_cons.1 hr with rfl | hr
    · rw [hm]
    · -- The run at the front ends before the one that has the code point.
      have hbefore : s.last < r.first := (horder.1 r hr).1
      have hfirst : r.first ≤ n := (CaseRun.mem_points.1 (CaseRun.map?_eq_some.1 hm).1).1
      have hnone : s.map? n = none := by
        rw [CaseRun.map?_eq_none, CaseRun.mem_points]; omega
      rw [hnone]
      exact ih horder.2 hr

/-- **Every run of an ordered table is found**, if the table has no expansions for its characters. -/
theorem mapCase_of_run (horder : runs.Pairwise Ordered)
    (hapart : ∀ n ∈ runs.flatMap CaseRun.points, n ∉ expansions.map (·.1)) {r : CaseRun}
    (hr : r ∈ runs) {c : Char} {m : Nat} (hm : r.map? c.toNat = some m) :
    mapCase expansions runs c = [Char.ofNat m] := by
  have hpoint : c.toNat ∈ runs.flatMap CaseRun.points :=
    List.mem_flatMap.2 ⟨r, hr, (CaseRun.map?_eq_some.1 hm).1⟩
  have hlookup : expansions.lookup c.toNat = none := by
    rw [List.lookup_eq_none_iff]
    intro e he
    have hkey : c.toNat ≠ e.1 := fun h => hapart _ hpoint (h ▸ List.mem_map_of_mem he)
    simpa using hkey
  rw [mapCase, hlookup, findSome_of_run horder hr hm]

/-! ## Images -/

theorem toNat_ofNat {n : Nat} (h : n.isValidChar) : (Char.ofNat n).toNat = n := by
  rw [Char.ofNat, dif_pos h]
  rfl

theorem mem_images_of_run {r : CaseRun} (hr : r ∈ runs) {n m : Nat} (hm : r.map? n = some m) :
    m ∈ images expansions runs := by
  obtain ⟨hn, rfl⟩ := CaseRun.map?_eq_some.1 hm
  exact List.mem_append_right _ (List.mem_flatMap.2 ⟨r, hr, List.mem_map_of_mem hn⟩)

theorem mem_images_of_expansion {e : Nat × List Nat} (he : e ∈ expansions) {n : Nat} (hn : n ∈ e.2) :
    n ∈ images expansions runs :=
  List.mem_append_left _ (List.mem_flatMap.2 ⟨e, he, hn⟩)

/-- A character that a mapping yields is an image, or the character itself, without an entry. -/
theorem mem_mapCase (hvalid : ∀ n ∈ images expansions runs, n.isValidChar) {c u : Char}
    (hu : u ∈ mapCase expansions runs c) :
    u.toNat ∈ images expansions runs ∨ u = c ∧ c.toNat ∉ sources expansions runs := by
  rcases mapCase_cases expansions runs c with ⟨e, he, -, hc⟩ | ⟨r, hr, m, hm, hc⟩ | ⟨hn, hc⟩
  · rw [hc, List.mem_map] at hu
    obtain ⟨n, hn, rfl⟩ := hu
    have hmem : n ∈ images expansions runs := mem_images_of_expansion he hn
    exact .inl (by rwa [toNat_ofNat (hvalid n hmem)])
  · rw [hc, List.mem_singleton] at hu
    have hmem : m ∈ images expansions runs := mem_images_of_run hr hm
    exact .inl (by rwa [hu, toNat_ofNat (hvalid m hmem)])
  · rw [hc, List.mem_singleton] at hu
    exact .inr ⟨hu, hn⟩

/-- **A mapping leaves alone what it yields**, if no image is a source. -/
theorem notMem_sources_of_mem_mapCase (hvalid : ∀ n ∈ images expansions runs, n.isValidChar)
    (hdisjoint : pointMask (images expansions runs) &&& pointMask (sources expansions runs) = 0)
    {c u : Char} (hu : u ∈ mapCase expansions runs c) : u.toNat ∉ sources expansions runs := by
  rcases mem_mapCase hvalid hu with himage | ⟨rfl, hn⟩
  · exact notMem_of_and hdisjoint himage
  · exact hn

end Accessors.Text
