import Accessors.Text.Digit

/-!
# Digits and their values

* `digit?_eq_some`: the decimal digits, with the value of each.
* `hexValue_hexDigit`: a hexadecimal digit is read back.
* `le_ofDigitChars`: a number never shrinks as more digits are read onto it.
-/

namespace Accessors.Text

theorem isDigit_eq (c : Char) : isDigit c = c.isDigit := by
  simp [isDigit, Char.isDigit, Char.le_def]

theorem digit?_eq_some {c : Char} {d : Nat} :
    digit? c = some d ↔ c.isDigit = true ∧ c.toNat - '0'.toNat = d := by
  unfold digit?
  rw [isDigit_eq]
  cases c.isDigit <;> simp

theorem hexValue_hexDigit {d : Nat} (hd : d < 16) : hexValue? (hexDigit d) = some d := by
  have : ∀ d < 16, hexValue? (hexDigit d) = some d := by decide
  exact this d hd

/-- More digits make a number no smaller. -/
theorem le_ofDigitChars (digits : List Char) (n : Nat) : n ≤ Nat.ofDigitChars 10 digits n := by
  induction digits generalizing n with
  | nil => simp
  | cons c digits ih =>
    have hstep := ih (10 * n + (c.toNat - '0'.toNat))
    rw [Nat.ofDigitChars_cons]
    omega

end Accessors.Text
