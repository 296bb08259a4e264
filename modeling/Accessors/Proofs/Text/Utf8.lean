import Mathlib.Tactic.SplitIfs

/-!
# Texts by their bytes in UTF-8

A code point takes one to four bytes. The first of them tells how many there are, and more bytes mean
a greater first byte; with as many bytes, the code point is cut into six bits at a time, from the
highest down. So bytes decide between two code points as the code points themselves do, within the
bytes of the two, and texts are in one order by their bytes and by their code points.

* `compareLex_byteValues`: the lower code point comes first, whatever follows the two.
* `compareLex_utf8`: two texts compare by bytes as they do by code points.
* `utf8_injective`: a text has its bytes for its own.
-/

namespace Accessors.Text

/-- The bytes of a text in UTF-8. -/
def utf8 (s : String) : List UInt8 := s.toUTF8.data.toList

/-- The bytes of a code point, as numbers. -/
def byteValues (v : Nat) : List Nat :=
  if v ≤ 0x7F then [v]
  else if v ≤ 0x7FF then [0xC0 + v / 64, 0x80 + v % 64]
  else if v ≤ 0xFFFF then [0xE0 + v / 64 / 64, 0x80 + v / 64 % 64, 0x80 + v % 64]
  else [0xF0 + v / 64 / 64 / 64, 0x80 + v / 64 / 64 % 64, 0x80 + v / 64 % 64, 0x80 + v % 64]

theorem byteValues_ne_nil (v : Nat) : byteValues v ≠ [] := by
  unfold byteValues
  split_ifs <;> exact List.cons_ne_nil _ _

theorem map_toNat_utf8EncodeChar (c : Char) :
    (String.utf8EncodeChar c).map UInt8.toNat = byteValues c.toNat := by
  have hvalue : c.val.toNat = c.toNat := rfl
  have hc : c.toNat < 0xD800 ∨ 0xDFFF < c.toNat ∧ c.toNat < 0x110000 := c.valid
  unfold String.utf8EncodeChar byteValues
  simp only [hvalue]
  split_ifs <;>
    simp only [List.map_cons, List.map_nil, UInt8.toNat_ofNat', List.cons.injEq, and_true] <;>
    omega

theorem map_toNat_utf8 (s : String) :
    (utf8 s).map UInt8.toNat = s.toList.flatMap fun c => byteValues c.toNat := by
  have hbytes : utf8 s = s.toList.flatMap String.utf8EncodeChar :=
    calc utf8 s = utf8 (String.ofList s.toList) := by rw [String.ofList_toList]
      _ = s.toList.flatMap String.utf8EncodeChar := List.toList_data_toByteArray
  rw [hbytes, List.map_flatMap]
  simp only [map_toNat_utf8EncodeChar]

/-! ## Comparing -/

theorem compareLex_append_left (p s t : List Nat) :
    List.compareLex compare (p ++ s) (p ++ t) = List.compareLex compare s t := by
  induction p with
  | nil => rfl
  | cons v p ih => rw [List.cons_append, List.cons_append, List.compareLex_cons_cons, ih]; simp

/-- Bytes compare as the numbers that they are. -/
theorem compareLex_map_toNat (s t : List UInt8) :
    List.compareLex compare (s.map UInt8.toNat) (t.map UInt8.toNat) =
      List.compareLex compare s t := by
  have hbyte (a b : UInt8) : compare a.toNat b.toNat = compare a b := by
    simp only [compare, compareOfLessAndEq, UInt8.lt_iff_toNat_lt, UInt8.toNat_inj]
  induction s generalizing t with
  | nil => cases t <;> rfl
  | cons a s ih =>
    cases t with
    | nil => rfl
    | cons b t =>
      rw [List.map_cons, List.map_cons, List.compareLex_cons_cons, List.compareLex_cons_cons, ih,
        hbyte]

/-- **The lower code point comes first by its bytes**, whatever follows the two. -/
theorem compareLex_byteValues {v w : Nat} (h : v < w) (s t : List Nat) :
    List.compareLex compare (byteValues v ++ s) (byteValues w ++ t) = .lt := by
  unfold byteValues
  -- With different numbers of bytes the first one decides, with as many the first that differs.
  split_ifs <;>
    simp only [List.cons_append, List.nil_append, List.compareLex_cons_cons, Ordering.then_eq_lt,
      Nat.compare_eq_lt, Nat.compare_eq_eq] <;>
    omega

theorem compareLex_flatMap_byteValues (s t : List Char) :
    List.compareLex compare (s.flatMap fun c => byteValues c.toNat)
        (t.flatMap fun c => byteValues c.toNat) =
      List.compareLex (fun c d => compare c.toNat d.toNat) s t := by
  induction s generalizing t with
  | nil =>
    cases t with
    | nil => rfl
    | cons d t =>
      obtain ⟨v, rest, h⟩ := List.exists_cons_of_ne_nil (byteValues_ne_nil d.toNat)
      rw [List.flatMap_cons, h]
      rfl
  | cons c s ih =>
    cases t with
    | nil =>
      obtain ⟨v, rest, h⟩ := List.exists_cons_of_ne_nil (byteValues_ne_nil c.toNat)
      rw [List.flatMap_cons, h]
      rfl
    | cons d t =>
      rw [List.flatMap_cons, List.flatMap_cons, List.compareLex_cons_cons]
      rcases Nat.lt_trichotomy c.toNat d.toNat with h | h | h
      · rw [compareLex_byteValues h, Nat.compare_eq_lt.2 h]
        rfl
      · rw [h, compareLex_append_left, ih, Nat.compare_eq_eq.2 rfl]
        rfl
      · rw [Std.OrientedCmp.gt_of_lt (compareLex_byteValues h _ _), Nat.compare_eq_gt.2 h]
        rfl

/-- **Two texts compare by their bytes as they do by their code points.** -/
theorem compareLex_utf8 (s t : String) : List.compareLex compare (utf8 s) (utf8 t) =
    List.compareLex (fun c d => compare c.toNat d.toNat) s.toList t.toList := by
  rw [← compareLex_map_toNat, map_toNat_utf8, map_toNat_utf8, compareLex_flatMap_byteValues]

/-- **A text has its bytes for its own.** -/
theorem utf8_injective {s t : String} (h : utf8 s = utf8 t) : s = t := by
  have hdata : s.toByteArray.data = t.toByteArray.data := Array.toList_inj.1 h
  exact String.toByteArray_inj.1 (ByteArray.ext hdata)

end Accessors.Text
