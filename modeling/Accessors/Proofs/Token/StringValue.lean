import Mathlib.Algebra.Group.Nat.Defs
import Accessors.Proofs.Text.Digits
import Accessors.Text.Quoted
import Accessors.Token.Literal

/-!
# What string literals stand for

* `takeUnit`: one character of a quoted text, as it is or by its escape.
* `stringValue?`: the text that a string literal stands for.
* `stringValue_stringLiteral`: a text, written as a literal, is read back.
-/

namespace Accessors.Token

open Accessors.Text

/-! ## Reading -/

/-- The character of an escape of one letter. -/
def letterEscape? (c : Char) : Option Char :=
  if c = '0' then some '\x00'
  else if c = 't' then some '\t'
  else if c = 'n' then some '\n'
  else if c = 'r' then some '\r'
  else if c = '"' ∨ c = '\'' ∨ c = '\\' then some c
  else none

/-- One character of a quoted text. Line ends behind a backslash are none. -/
def takeUnit : List Char → Option (Char × List Char)
  | '\\' :: 'x' :: rest =>
    match takeHex2 rest with
    | some (n, rest) => if n < 0x80 then some (Char.ofNat n, rest) else none
    | none => none
  | '\\' :: 'u' :: '\x7b' :: rest => (takeCodePoint 0 0 rest).map fun r => (Char.ofNat r.1, r.2)
  | '\\' :: c :: rest => (letterEscape? c).map fun d => (d, rest)
  | ['\\'] => none
  | '\r' :: _ => none
  | c :: rest => some (c, rest)
  | [] => none

/-- The text that the inside of a string literal stands for, up to the closing quote, behind which
nothing is left. -/
def literalValue? (s : List Char) : Option (List Char) :=
  if s = ['"'] then some []
  else if s.head? = some '"' then none
  else
    match takeUnit s with
    | none => none
    | some (c, rest) =>
      if rest.length < s.length then (literalValue? rest).map (c :: ·) else none
termination_by s.length

/-- The text that a string literal stands for. -/
def stringValue? (text : String) : Option String :=
  match text.toList with
  | '"' :: rest => (literalValue? rest).map String.ofList
  | _ => none

/-! ## Code points -/

theorem hexDigit_ne {d : Nat} (hd : d < 16) : hexDigit d ≠ '_' ∧ hexDigit d ≠ '\x7d' := by
  have : ∀ d < 16, hexDigit d ≠ '_' ∧ hexDigit d ≠ '\x7d' := by decide
  exact this d hd

theorem length_hexDigits_pos (n : Nat) : 0 < (hexDigits n).length := by
  unfold hexDigits
  split <;> simp

theorem length_hexDigits_le {k n : Nat} (h : n < 16 ^ (k + 1)) : (hexDigits n).length ≤ k + 1 := by
  induction k generalizing n with
  | zero =>
    have hn : n < 16 := by simpa using h
    simp [hexDigits, hn]
  | succ k ih =>
    unfold hexDigits
    split
    · simp
    · have hdiv : n / 16 < 16 ^ (k + 1) := by
        rw [Nat.div_lt_iff_lt_mul (by omega)]
        rwa [Nat.pow_succ] at h
      have := ih hdiv
      simp only [List.length_append, List.length_singleton]
      omega

/-- One digit of a code point. -/
theorem takeCodePoint_hexDigit {d : Nat} (hd : d < 16) {count : Nat} (hc : count < 6) (value : Nat)
    (rest : List Char) :
    takeCodePoint count value (hexDigit d :: rest) =
      takeCodePoint (count + 1) (16 * value + d) rest := by
  obtain ⟨hu, hb⟩ := hexDigit_ne hd
  have h6 : count ≠ 6 := by omega
  rw [takeCodePoint]
  simp [hu, hb, hexValue_hexDigit hd, h6]

/-- The digits of a number are read back, as long as there are six at most. -/
theorem takeCodePoint_hexDigits (n : Nat) {count : Nat} (value : Nat) (rest : List Char)
    (h : count + (hexDigits n).length ≤ 6) :
    takeCodePoint count value (hexDigits n ++ rest) =
      takeCodePoint (count + (hexDigits n).length) (16 ^ (hexDigits n).length * value + n)
        rest := by
  -- The last digit is read last, and the digits before it are those of the number without it.
  induction n using Nat.strongRecOn generalizing count value rest with
  | ind n ih =>
    by_cases hn : n < 16
    · have hd : hexDigits n = [hexDigit n] := by rw [hexDigits, if_pos hn]
      rw [hd] at h ⊢
      rw [List.length_singleton] at h
      rw [List.singleton_append, takeCodePoint_hexDigit hn (by omega)]
      simp
    · have hd : hexDigits n = hexDigits (n / 16) ++ [hexDigit (n % 16)] := by
        rw [hexDigits, if_neg hn]
      rw [hd, List.length_append, List.length_singleton] at h
      rw [hd, List.append_assoc, List.singleton_append, ih (n / 16) (by omega) _ _ (by omega),
        takeCodePoint_hexDigit (Nat.mod_lt _ (by omega)) (by omega), List.length_append,
        List.length_singleton]
      have hvalue : 16 * (16 ^ (hexDigits (n / 16)).length * value + n / 16) + n % 16 =
          16 ^ ((hexDigits (n / 16)).length + 1) * value + n := by
        have := Nat.div_add_mod n 16
        rw [Nat.pow_succ, Nat.mul_comm _ 16, Nat.mul_assoc, Nat.mul_add]
        omega
      rw [hvalue, Nat.add_assoc]

/-- The code point of a character is read back. -/
theorem takeCodePoint_toNat (c : Char) (rest : List Char) :
    takeCodePoint 0 0 (hexDigits c.toNat ++ '\x7d' :: rest) = some (c.toNat, rest) := by
  have hvalid : c.toNat < 0xD800 ∨ (0xE000 ≤ c.toNat ∧ c.toNat < 0x110000) := by
    have := c.valid
    simp only [UInt32.isValidChar, Nat.isValidChar] at this
    simp only [Char.toNat]
    omega
  have hlen : (hexDigits c.toNat).length ≤ 6 := length_hexDigits_le (by omega)
  have hpos := length_hexDigits_pos c.toNat
  rw [takeCodePoint_hexDigits c.toNat 0 _ (by omega), takeCodePoint]
  simp [hpos, hvalid]

/-! ## Writing and reading -/

theorem takeUnit_self {c : Char} (hb : c ≠ '\\') (hr : c ≠ '\r') (rest : List Char) :
    takeUnit (c :: rest) = some (c, rest) := by
  unfold takeUnit
  split <;> simp_all

/-- A quoted character is read back. -/
theorem takeUnit_quotedChar (c : Char) (rest : List Char) :
    takeUnit (quotedChar c ++ rest) = some (c, rest) := by
  unfold quotedChar
  split
  · rfl
  · rfl
  · rfl
  · rfl
  · rfl
  · rfl
  · next h0 ht hn hr hq hb =>
    split
    · exact takeUnit_self hb hr rest
    · have := takeCodePoint_toNat c rest
      simp [takeUnit, this]

/-- A quoted character does not begin with the closing quote. -/
theorem head_quotedChar (c : Char) : ∃ d more, quotedChar c = d :: more ∧ d ≠ '"' := by
  unfold quotedChar
  split
  any_goals exact ⟨_, _, rfl, by decide⟩
  next h0 ht hn hr hq hb =>
  split
  · exact ⟨c, [], rfl, hq⟩
  · exact ⟨_, _, rfl, by decide⟩

/-- One character is read, then the rest. -/
theorem literalValue_of_takeUnit {s rest : List Char} {c d : Char} {more : List Char}
    (hs : s = d :: more) (hd : d ≠ '"') (h : takeUnit s = some (c, rest))
    (hlt : rest.length < s.length) : literalValue? s = (literalValue? rest).map (c :: ·) := by
  have hclose : s ≠ ['"'] := by rintro rfl; cases hs; exact hd rfl
  have hhead : s.head? ≠ some '"' := by rw [hs]; simpa using hd
  rw [literalValue?, if_neg hclose, if_neg hhead, h]
  simp [hlt]

/-- The inside of a literal is read back up to the closing quote. -/
theorem literalValue_literalBody (s : List Char) :
    literalValue? (literalBody s ++ ['"']) = some s := by
  induction s with
  | nil => rw [literalBody, List.nil_append, literalValue?, if_pos rfl]
  | cons c s ih =>
    rw [literalBody, List.append_assoc]
    split
    · next hc =>
      -- Zero in front of a digit takes the longer escape.
      have hzero : literalValue? (['\\', 'x', '0', '0'] ++ (literalBody s ++ ['"'])) =
          (literalValue? (literalBody s ++ ['"'])).map ('\x00' :: ·) :=
        literalValue_of_takeUnit rfl (by decide) rfl (by simp)
      rw [hzero, ih, hc.1]
      rfl
    · obtain ⟨d, more, hd, hne⟩ := head_quotedChar c
      have hs : quotedChar c ++ (literalBody s ++ ['"']) =
          d :: (more ++ (literalBody s ++ ['"'])) := by
        rw [hd, List.cons_append]
      have hlt : (literalBody s ++ ['"']).length <
          (quotedChar c ++ (literalBody s ++ ['"'])).length := by
        rw [hs]
        simp only [List.length_cons, List.length_append]
        omega
      rw [literalValue_of_takeUnit hs hne (takeUnit_quotedChar c _) hlt, ih]
      rfl

/-- **A text, written as a literal, is read back**, whatever characters it holds. -/
theorem stringValue_stringLiteral (s : String) :
    stringValue? (String.ofList (stringLiteral s.toList)) = some s := by
  unfold stringValue?
  rw [String.toList_ofList, stringLiteral]
  simp [literalValue_literalBody]

end Accessors.Token
