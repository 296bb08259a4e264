import Accessors.Text.Digit
import Accessors.Text.Slice

/-!
# Strings in JSON

* `encode`: the JSON text of a string. The quote, the backslash and the controls are escaped,
  five of the controls by a letter; nothing else is.
* `decodeBody`: what follows the opening quote, read up to the closing one.
-/

namespace Accessors.Json

open Accessors.Text

/-- Why a text does not hold a string. -/
inductive Failure where
  /-- The text is not JSON. -/
  | malformed
  /-- The text holds a value of another kind. -/
  | otherKind
  /-- The text ends where more is needed. -/
  | truncated
  deriving DecidableEq, Repr

/-! ## Writing -/

/-- A character as it stands in a JSON string. -/
def encodeChar (c : Char) : List Char :=
  match c with
  | '"' => ['\\', '"']
  | '\\' => ['\\', '\\']
  | '\x08' => ['\\', 'b']
  | '\x0c' => ['\\', 'f']
  | '\n' => ['\\', 'n']
  | '\r' => ['\\', 'r']
  | '\t' => ['\\', 't']
  | c =>
    if c.toNat < 0x20 then
      ['\\', 'u', '0', '0', hexDigit (c.toNat / 16), hexDigit (c.toNat % 16)]
    else [c]

/-- The JSON text of a string. -/
def encode (s : List Char) : List Char := '"' :: s.flatMap encodeChar ++ ['"']

/-! ## Reading -/

/-- Reads four hexadecimal digits. A text of fewer than four bytes has ended too early, whatever
its bytes are. -/
def readHex4 (s : List Char) : Except Failure (Nat × List Char) :=
  match s with
  | a :: b :: c :: d :: rest =>
    match hexValue? a, hexValue? b, hexValue? c, hexValue? d with
    | some a, some b, some c, some d => .ok (((a * 16 + b) * 16 + c) * 16 + d, rest)
    | _, _, _, _ => .error .malformed
  | short => .error (if byteSize short < 4 then .truncated else .malformed)

/-- Reads the second half of a character beyond the first plane, after the code unit `high`. -/
def readLow (high : Nat) (s : List Char) : Except Failure (Char × List Char) :=
  match s with
  | [] => .error .truncated
  | ['\\'] => .error .truncated
  | '\\' :: 'u' :: rest =>
    match readHex4 rest with
    | .error e => .error e
    | .ok (low, rest) =>
      if 0xDC00 ≤ low ∧ low ≤ 0xDFFF then
        .ok (Char.ofNat (0x10000 + (high - 0xD800) * 0x400 + (low - 0xDC00)), rest)
      else .error .malformed
  | _ => .error .malformed

/-- Reads the code point escape after its `u`; halves of a pair only count together. -/
def readCodePoint (s : List Char) : Except Failure (Char × List Char) :=
  match readHex4 s with
  | .error e => .error e
  | .ok (n, rest) =>
    if 0xDC00 ≤ n ∧ n ≤ 0xDFFF then .error .malformed
    else if 0xD800 ≤ n ∧ n ≤ 0xDBFF then readLow n rest
    else .ok (Char.ofNat n, rest)

/-- The character that an escape of one letter or sign writes. -/
def unescape? (c : Char) : Option Char :=
  if c = '"' ∨ c = '\\' ∨ c = '/' then some c
  else if c = 'b' then some '\x08'
  else if c = 'f' then some '\x0c'
  else if c = 'n' then some '\n'
  else if c = 'r' then some '\r'
  else if c = 't' then some '\t'
  else none

/-- Reads an escape after its backslash. -/
def readEscape (s : List Char) : Except Failure (Char × List Char) :=
  match s with
  | [] => .error .truncated
  | c :: rest =>
    if c = 'u' then readCodePoint rest
    else
      match unescape? c with
      | some d => .ok (d, rest)
      | none => .error .malformed

theorem readHex4_length {s : List Char} {n : Nat} {rest : List Char}
    (h : readHex4 s = .ok (n, rest)) : rest.length < s.length := by
  unfold readHex4 at h
  split at h
  · split at h
    · cases h; simp only [List.length_cons]; omega
    · cases h
  · cases h

theorem readLow_length {high : Nat} {s : List Char} {c : Char} {rest : List Char}
    (h : readLow high s = .ok (c, rest)) : rest.length < s.length := by
  unfold readLow at h
  split at h
  · cases h
  · cases h
  · split at h
    · cases h
    · next heq =>
      have := readHex4_length heq
      split at h
      · simp only [Except.ok.injEq, Prod.mk.injEq] at h
        obtain ⟨-, rfl⟩ := h
        simp only [List.length_cons]
        omega
      · cases h
  · cases h

theorem readCodePoint_length {s : List Char} {c : Char} {rest : List Char}
    (h : readCodePoint s = .ok (c, rest)) : rest.length < s.length := by
  unfold readCodePoint at h
  split at h
  · cases h
  · next heq =>
    have := readHex4_length heq
    split at h
    · cases h
    · split at h
      · have := readLow_length h
        omega
      · simp only [Except.ok.injEq, Prod.mk.injEq] at h
        obtain ⟨-, rfl⟩ := h
        exact this

/-- An escape takes at least one character. -/
theorem readEscape_length {s : List Char} {c : Char} {rest : List Char}
    (h : readEscape s = .ok (c, rest)) : rest.length < s.length := by
  unfold readEscape at h
  split at h
  · cases h
  · split at h
    · have := readCodePoint_length h
      simp only [List.length_cons]
      omega
    · split at h
      · cases h; simp
      · cases h

/-- Reads a string after its opening quote: its characters, and what follows the closing quote. -/
def decodeBody (s : List Char) : Except Failure (List Char × List Char) :=
  match s with
  | [] => .error .truncated
  | c :: rest =>
    if c = '"' then .ok ([], rest)
    else if c = '\\' then
      match h : readEscape rest with
      | .error e => .error e
      | .ok (d, after) =>
        have := readEscape_length h
        (decodeBody after).map fun r => (d :: r.1, r.2)
    else if c.toNat < 0x20 then .error .malformed
    else (decodeBody rest).map fun r => (c :: r.1, r.2)
termination_by s.length

end Accessors.Json
