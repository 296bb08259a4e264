import Mathlib.Data.Finset.Card
import Accessors.Proofs.Text.Utf8
import Accessors.Property.Name

/-!
# Names in order

Names are compared by their code points, which is as good as by their bytes, so the order has all the
properties of the order of bytes. A list of names has one arrangement in this order, and one list of
the different names in it, whatever order the names come in.

* `compare_eq_utf8`: the order is that of the bytes.
* `greatest?_spec`: the greatest name is in the list, and no name of the list comes after it.
* `pairwise_distinct`, `mem_distinct`: the different names, each before the next.
* `names_ordered`: the order of two names, and what comes of a list of them.
-/

namespace Accessors.Property.PropertyName

open Accessors.Text

/-! ## The order of two names -/

theorem order_eq_compareLex (s t : List Char) :
    order s t = List.compareLex (fun c d => compare c.toNat d.toNat) s t := by
  induction s generalizing t with
  | nil => cases t <;> rfl
  | cons c s ih =>
    cases t with
    | nil => rfl
    | cons d t => rw [order, ih, List.compareLex_cons_cons]

/-- **Names are compared as their bytes are.** -/
theorem compare_eq_utf8 (a b : PropertyName) :
    compare a b = List.compareLex compare (utf8 a.text) (utf8 b.text) :=
  calc compare a b = order a.text.toList b.text.toList := rfl
    _ = List.compareLex compare (utf8 a.text) (utf8 b.text) := by
      rw [order_eq_compareLex, compareLex_utf8]

instance : Std.TransOrd PropertyName where
  eq_swap {a b} := by
    rw [compare_eq_utf8, compare_eq_utf8]
    exact Std.OrientedCmp.eq_swap
  isLE_trans {a b c} hab hbc := by
    rw [compare_eq_utf8] at hab hbc ⊢
    exact Std.TransCmp.isLE_trans hab hbc

instance : Std.LawfulEqOrd PropertyName where
  eq_of_compare {a b} h := by
    rw [compare_eq_utf8, Std.LawfulEqCmp.compare_eq_iff_eq] at h
    have htext : a.text = b.text := utf8_injective h
    exact congrArg PropertyName.mk htext

theorem le_total (a b : PropertyName) : (le a b || le b a) = true := by
  have hswap : compare b a = (compare a b).swap := Std.OrientedOrd.eq_swap
  unfold le
  rw [hswap]
  cases compare a b <;> rfl

theorem le_trans {a b c : PropertyName} (hab : le a b = true) (hbc : le b c = true) :
    le a c = true :=
  Std.TransOrd.isLE_trans hab hbc

theorem le_antisymm {a b : PropertyName} (hab : le a b = true) (hba : le b a = true) : a = b :=
  Std.LawfulEqOrd.eq_of_compare (Std.OrientedCmp.isLE_antisymm hab hba)

theorem compare_eq_lt_iff {a b : PropertyName} : compare a b = .lt ↔ le a b = true ∧ a ≠ b := by
  have heq : compare a b = .eq ↔ a = b := Std.LawfulEqOrd.compare_eq_iff_eq
  unfold le
  rw [ne_eq, ← heq]
  cases compare a b <;> simp

/-! ## Lists of names -/

variable {names : List PropertyName}

theorem sorted_perm (names : List PropertyName) : (sorted names).Perm names :=
  List.mergeSort_perm names le

theorem pairwise_sorted (names : List PropertyName) : (sorted names).Pairwise fun a b => le a b := by
  unfold sorted
  exact @List.pairwise_mergeSort PropertyName le (fun _ _ _ => le_trans) le_total names

/-- There is one arrangement in order. -/
theorem sorted_congr {others : List PropertyName} (h : others.Perm names) :
    sorted others = sorted names := by
  have hperm : (sorted others).Perm (sorted names) :=
    (sorted_perm others).trans (h.trans (sorted_perm names).symm)
  exact hperm.eq_of_pairwise (fun _ _ _ _ => le_antisymm) (pairwise_sorted others)
    (pairwise_sorted names)

theorem mem_squeeze {n : PropertyName} : n ∈ squeeze names ↔ n ∈ names := by
  fun_induction squeeze names with
  | case1 => rfl
  | case2 m => rfl
  | case3 m rest ih => rw [ih, List.mem_cons (l := m :: rest), or_iff_right_of_imp]; rintro rfl; simp
  | case4 m k rest hne ih => rw [List.mem_cons, List.mem_cons, ih]

/-- Once repetitions are dropped from names in order, each comes before the next. -/
theorem pairwise_squeeze (h : names.Pairwise fun a b => le a b) :
    (squeeze names).Pairwise fun a b => compare a b = .lt := by
  fun_induction squeeze names with
  | case1 => exact .nil
  | case2 n => exact List.pairwise_singleton _ _
  | case3 n rest ih => exact ih h.of_cons
  | case4 n m rest hne ih =>
    obtain ⟨hfirst, hrest⟩ := List.pairwise_cons.1 h
    refine List.pairwise_cons.2 ⟨fun k hk => ?_, ih hrest⟩
    have hnm : compare n m = .lt := compare_eq_lt_iff.2 ⟨hfirst m List.mem_cons_self, hne⟩
    rcases List.mem_cons.1 (mem_squeeze.1 hk) with rfl | hk
    · exact hnm
    · -- What is behind the next name does not come before it.
      exact Std.TransCmp.lt_of_lt_of_isLE hnm ((List.pairwise_cons.1 hrest).1 k hk)

theorem pairwise_distinct (names : List PropertyName) :
    (distinct names).Pairwise fun a b => compare a b = .lt :=
  pairwise_squeeze (pairwise_sorted names)

theorem mem_distinct {n : PropertyName} : n ∈ distinct names ↔ n ∈ names := by
  rw [distinct, mem_squeeze, (sorted_perm names).mem_iff]

theorem length_distinct (names : List PropertyName) :
    (distinct names).length = names.toFinset.card := by
  have hnodup : (distinct names).Nodup :=
    (pairwise_distinct names).imp fun h => (compare_eq_lt_iff.1 h).2
  have hset : (distinct names).toFinset = names.toFinset := by
    ext n
    rw [List.mem_toFinset, List.mem_toFinset, mem_distinct]
  rw [← hset, List.toFinset_card_of_nodup hnodup]

/-! ## The greatest name -/

theorem greatest?_eq_none : greatest? names = none ↔ names = [] := by
  cases names with
  | nil => simp [greatest?]
  | cons n rest =>
    unfold greatest?
    cases greatest? rest <;> simp

/-- The greatest name of a list is in it, and no name of the list comes after it. -/
theorem greatest?_spec {g : PropertyName} (h : greatest? names = some g) :
    g ∈ names ∧ ∀ n ∈ names, le n g = true := by
  induction names generalizing g with
  | nil => cases h
  | cons n rest ih =>
    have hself : le n n = true := by simpa using le_total n n
    rw [List.mem_cons, List.forall_mem_cons]
    unfold greatest? at h
    cases hrest : greatest? rest with
    | none =>
      rw [hrest] at h
      cases h
      rw [greatest?_eq_none.1 hrest]
      exact ⟨.inl rfl, hself, List.forall_mem_nil _⟩
    | some m =>
      rw [hrest] at h
      obtain ⟨hm, hall⟩ := ih hrest
      cases hle : le n m with
      | true =>
        simp only [hle, if_true, Option.some.injEq] at h
        subst h
        exact ⟨.inr hm, hle, hall⟩
      | false =>
        simp only [hle, Bool.false_eq_true, if_false, Option.some.injEq] at h
        subst h
        have hmn : le m n = true := by simpa [hle] using le_total n m
        exact ⟨.inl rfl, hself, fun k hk => le_trans (hall k hk) hmn⟩

/-- No name comes after the last one of names in order. -/
theorem le_of_getLast? {g : PropertyName} (horder : names.Pairwise fun a b => compare a b = .lt)
    (h : names.getLast? = some g) {n : PropertyName} (hn : n ∈ names) : le n g = true := by
  obtain ⟨before, rfl⟩ := List.getLast?_eq_some_iff.1 h
  rcases List.mem_append.1 hn with hn | hn
  · exact (compare_eq_lt_iff.1 ((List.pairwise_append.1 horder).2.2 n hn g (by simp))).1
  · rw [List.mem_singleton.1 hn]
    simpa using le_total g g

/-- The greatest name is the last of the different ones in order. -/
theorem greatest?_eq_getLast? (names : List PropertyName) :
    greatest? names = (distinct names).getLast? := by
  cases hlast : (distinct names).getLast? with
  | none =>
    have hempty : distinct names = [] := List.getLast?_eq_none_iff.1 hlast
    rw [greatest?_eq_none, List.eq_nil_iff_forall_not_mem]
    intro n hn
    rw [← mem_distinct, hempty] at hn
    cases hn
  | some g =>
    have hg : g ∈ names := mem_distinct.1 (List.mem_of_getLast? hlast)
    cases hgreatest : greatest? names with
    | none =>
      rw [greatest?_eq_none.1 hgreatest] at hg
      cases hg
    | some k =>
      obtain ⟨hk, hall⟩ := greatest?_spec hgreatest
      have hkg : le k g = true := le_of_getLast? (pairwise_distinct names) hlast (mem_distinct.2 hk)
      rw [le_antisymm hkg (hall g hg)]

/-! ## Main result -/

/-- How two names compare. -/
structure Compares (a b : PropertyName) : Prop where
  /-- The first byte that differs decides, and a beginning comes first. -/
  bytes : compare a b = List.compareLex compare a.text.toUTF8.data.toList b.text.toUTF8.data.toList
  /-- The first code point that differs decides, and a beginning comes first. -/
  codePoints : compare a b =
    List.compareLex (fun c d => compare c.toNat d.toNat) a.text.toList b.text.toList
  /-- Only equal names do not differ. -/
  equal : compare a b = .eq ↔ a = b
  /-- The other way round the answer is the opposite one, so one of two names comes first. -/
  swapped : compare b a = (compare a b).swap
  trans : ∀ c, (compare a b).isLE → (compare b c).isLE → (compare a c).isLE

/-- What comes of a list of names. -/
structure Arranged (names : List PropertyName) : Prop where
  perm : (sorted names).Perm names
  ordered : (sorted names).Pairwise fun a b => (compare a b).isLE
  /-- Of the different names each comes before the next. -/
  increasing : (distinct names).Pairwise fun a b => compare a b = .lt
  members : ∀ n, n ∈ distinct names ↔ n ∈ names
  /-- There are as many of them as names in the list, not counting repetitions. -/
  count : (distinct names).length = names.toFinset.card
  greatest : greatest? names = (distinct names).getLast?
  greatest_none : greatest? names = none ↔ names = []
  /-- The order in which the names come makes no difference. -/
  anyOrder : ∀ others : List PropertyName, others.Perm names → sorted others = sorted names ∧
    distinct others = distinct names ∧ (distinct others).length = (distinct names).length ∧
    greatest? others = greatest? names

/-- **Names are in a total order, that of their bytes and of their code points**, and a list of names
is brought into this order in one way. -/
theorem names_ordered :
    (∀ a b : PropertyName, a.Compares b) ∧ ∀ names : List PropertyName, Arranged names := by
  constructor
  · intro a b
    exact {
      bytes := compare_eq_utf8 a b
      codePoints := order_eq_compareLex _ _
      equal := Std.LawfulEqOrd.compare_eq_iff_eq
      swapped := Std.OrientedOrd.eq_swap
      trans := fun _ => Std.TransOrd.isLE_trans }
  · intro names
    have hdistinct {others : List PropertyName} (h : others.Perm names) :
        distinct others = distinct names := by
      rw [distinct, distinct, sorted_congr h]
    exact {
      perm := sorted_perm names
      ordered := pairwise_sorted names
      increasing := pairwise_distinct names
      members := fun _ => mem_distinct
      count := length_distinct names
      greatest := greatest?_eq_getLast? names
      greatest_none := greatest?_eq_none
      anyOrder := fun others h => ⟨sorted_congr h, hdistinct h, congrArg List.length (hdistinct h), by
        rw [greatest?_eq_getLast?, greatest?_eq_getLast?, hdistinct h]⟩ }

end Accessors.Property.PropertyName
