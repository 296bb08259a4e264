/-!
# The first error of a series

A loop over a list that ends with the first error comes to the error of some element, behind elements
that succeed. What follows that element is not looked at.

* `FirstError`: that element and its error.
* `firstError_nil`, `firstError_cons`: the error of a list by its head and its tail.
* `mapM_eq_error`: a list is mapped up to its first error.
-/

namespace Accessors

variable {α β ε : Type} {check : α → Except ε β} {x : α} {l : List α} {e : ε}

/-- The check of some element ends with the error, and the checks of all elements before it succeed. -/
def FirstError (check : α → Except ε β) (l : List α) (e : ε) : Prop :=
  ∃ before x after, l = before ++ x :: after ∧ (∀ y ∈ before, ∃ b, check y = .ok b) ∧
    check x = .error e

theorem firstError_nil : ¬ FirstError check [] e := by
  rintro ⟨before, x, after, h, -⟩
  cases before <;> cases h

theorem firstError_cons : FirstError check (x :: l) e ↔
    check x = .error e ∨ (∃ b, check x = .ok b) ∧ FirstError check l e := by
  constructor
  · rintro ⟨before, y, after, hl, hbefore, hy⟩
    cases before with
    | nil => cases hl; exact .inl hy
    | cons z before =>
      cases hl
      rw [List.forall_mem_cons] at hbefore
      exact .inr ⟨hbefore.1, before, y, after, rfl, hbefore.2, hy⟩
  · rintro (hx | ⟨hx, before, y, after, rfl, hbefore, hy⟩)
    · exact ⟨[], x, l, rfl, by simp, hx⟩
    · exact ⟨x :: before, y, after, rfl, List.forall_mem_cons.2 ⟨hx, hbefore⟩, hy⟩

theorem exists_ok_iff {r : Except ε β} : (∃ b, r = .ok b) ↔ ¬ ∃ e, r = .error e := by
  cases r <;> simp

theorem exists_firstError : (∃ e, FirstError check l e) ↔ ∃ x ∈ l, ∃ e, check x = .error e := by
  induction l with
  | nil => simp [firstError_nil]
  | cons x l ih =>
    simp only [firstError_cons, exists_or, exists_and_left, ih, exists_ok_iff, List.mem_cons,
      or_and_right, exists_eq_left]
    by_cases hx : ∃ e, check x = .error e <;> simp only [hx, true_or, not_false_eq_true, true_and]

/-- **A list is mapped up to its first error**, and the mapping ends with it. -/
theorem mapM_eq_error : l.mapM check = .error e ↔ FirstError check l e := by
  induction l with
  | nil => exact iff_of_false nofun firstError_nil
  | cons x l ih =>
    rw [List.mapM_cons, firstError_cons, ← ih]
    cases check x with
    | error e' => simp [bind, Except.bind]
    | ok b => cases l.mapM check <;> simp [bind, Except.bind, pure, Except.pure]

end Accessors
