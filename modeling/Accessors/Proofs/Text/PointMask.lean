import Accessors.Text.CodePoints

/-!
# Sets of code points as numbers

A table of code points is also one number, whose bits say which code points are in it. Two tables are
compared by one operation on their numbers, in place of a search for each code point.

* `testBit_pointMask`, `testBit_rangeMask`: the bits of the number are the points of the table.
* `testBit_of_and`, `notMem_of_and`: inclusion and disjointness, by one operation.
-/

namespace Accessors.Text

/-- The number whose bits are the given code points. -/
def pointMask (points : List Nat) : Nat := points.foldr (fun n m => 1 <<< n ||| m) 0

/-- The number whose bits are the code points of an interval. -/
def intervalMask (first last : Nat) : Nat := ((1 <<< (last + 1 - first)) - 1) <<< first

/-- The number whose bits are the code points in the given intervals. -/
def rangeMask (ranges : List (Nat × Nat)) : Nat :=
  ranges.foldr (fun r m => intervalMask r.1 r.2 ||| m) 0

theorem testBit_one_shiftLeft (n k : Nat) : (1 <<< n).testBit k = true ↔ k = n := by
  rw [Nat.one_shiftLeft, Nat.testBit_two_pow]
  simp [eq_comm]

theorem testBit_pointMask {points : List Nat} {n : Nat} :
    (pointMask points).testBit n = true ↔ n ∈ points := by
  induction points with
  | nil => simp [pointMask]
  | cons p points ih =>
    have hcons : pointMask (p :: points) = 1 <<< p ||| pointMask points := rfl
    rw [hcons, Nat.testBit_or, Bool.or_eq_true, testBit_one_shiftLeft, ih, List.mem_cons]

theorem testBit_intervalMask (first last n : Nat) :
    (intervalMask first last).testBit n = (decide (first ≤ n) && decide (n ≤ last)) := by
  rw [intervalMask, Nat.one_shiftLeft, Nat.testBit_shiftLeft, Nat.testBit_two_pow_sub_one]
  by_cases h : first ≤ n
  · have : n - first < last + 1 - first ↔ n ≤ last := by omega
    simp [h, this]
  · simp [h]

theorem testBit_rangeMask (ranges : List (Nat × Nat)) (n : Nat) :
    (rangeMask ranges).testBit n = ranges.any fun r => r.1 ≤ n && n ≤ r.2 := by
  induction ranges with
  | nil => simp [rangeMask]
  | cons r ranges ih =>
    have hcons : rangeMask (r :: ranges) = intervalMask r.1 r.2 ||| rangeMask ranges := rfl
    rw [hcons, Nat.testBit_or, testBit_intervalMask, ih, List.any_cons]

/-- Membership of a character in a table is a bit of the table's number. -/
theorem inRanges_eq_testBit (ranges : List (Nat × Nat)) (c : Char) :
    inRanges ranges c = (rangeMask ranges).testBit c.toNat :=
  (testBit_rangeMask ranges c.toNat).symm

/-! ## Comparing two sets -/

/-- Points are in a set if they are what it has in common with them. -/
theorem testBit_of_and {points : List Nat} {set : Nat} (h : pointMask points &&& set = pointMask points)
    {n : Nat} (hn : n ∈ points) : set.testBit n = true := by
  have hbit : (pointMask points).testBit n = true := testBit_pointMask.2 hn
  rw [← h, Nat.testBit_and, Bool.and_eq_true] at hbit
  exact hbit.2

/-- Two sets of points are disjoint if they have nothing in common. -/
theorem notMem_of_and {a b : List Nat} (h : pointMask a &&& pointMask b = 0) {n : Nat} (hn : n ∈ a) :
    n ∉ b := by
  intro hb
  have hboth : (pointMask a &&& pointMask b).testBit n = true := by
    rw [Nat.testBit_and, testBit_pointMask.2 hn, testBit_pointMask.2 hb, Bool.true_and]
  rw [h, Nat.zero_testBit] at hboth
  cases hboth

end Accessors.Text
