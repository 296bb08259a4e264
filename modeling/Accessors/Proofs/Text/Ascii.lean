import Mathlib.Data.String.Defs
import Accessors.Text.Alphabetic
import Accessors.Text.Blank
import Accessors.Text.Identifier
import Accessors.Text.LetterCase

/-!
# The ASCII part of the tables

A table speaks about more than a million code points, of which 128 are ASCII. A character below a
bound only meets the entries that begin below it, so each table is cut first, and what the short
tables say is checked code point by code point.

* `inRanges_cut`, `mapCase_cut`: the cuts.
* `toUpper_of_ascii`, `toLower_of_ascii`: the full case mappings are the simple ones.
* `isAlphanumeric_of_ascii`: letters and digits are those of ASCII.
* `isAlphanum_of_identifier`: other characters than those and the underscore are in no identifier.
-/

namespace Accessors.Text

/-! ## Cutting a table -/

/-- Entries that begin at a bound or above it say nothing about characters below. -/
theorem inRanges_cut (b : Nat) (ranges : List (Nat × Nat)) {c : Char} (h : c.toNat < b) :
    inRanges ranges c = inRanges (ranges.filter (·.1 < b)) c := by
  unfold inRanges
  rw [List.any_filter]
  congr 1
  funext r
  by_cases hr : r.1 ≤ c.toNat
  · have : r.1 < b := by omega
    simp [this]
  · simp [hr]

theorem lookup_cut (b : Nat) (entries : List (Nat × List Nat)) {n : Nat} (h : n < b) :
    entries.lookup n = (entries.filter (·.1 < b)).lookup n := by
  induction entries with
  | nil => rfl
  | cons e entries ih =>
    obtain ⟨k, image⟩ := e
    by_cases hk : k < b
    · simp [hk, List.lookup_cons, ih]
    · have : (n == k) = false := by simp; omega
      simp [hk, List.lookup_cons, this, ih]

theorem findSome_cut (b : Nat) (runs : List CaseRun) {n : Nat} (h : n < b) :
    runs.findSome? (·.map? n) = (runs.filter (·.first < b)).findSome? (·.map? n) := by
  induction runs with
  | nil => rfl
  | cons r runs ih =>
    by_cases hr : r.first < b
    · rw [List.filter_cons_of_pos (by simpa using hr), List.findSome?_cons, List.findSome?_cons, ih]
    · have : r.map? n = none := by
        unfold CaseRun.map?
        rw [if_neg (by omega)]
      simp [hr, this, ih]

theorem mapCase_cut (b : Nat) (expansions : List (Nat × List Nat)) (runs : List CaseRun) {c : Char}
    (h : c.toNat < b) :
    mapCase expansions runs c =
      mapCase (expansions.filter (·.1 < b)) (runs.filter (·.first < b)) c := by
  unfold mapCase
  rw [lookup_cut b expansions h, findSome_cut b runs h]

/-! ## The short tables -/

/-- A fact about ASCII characters, checked code point by code point. -/
theorem ascii_induction {P : Char → Prop} (h : ∀ n < 128, P (Char.ofNat n)) {c : Char}
    (hc : c.isAscii = true) : P c := by
  have := h c.toNat (by simpa [Char.isAscii] using hc)
  rwa [Char.ofNat_toNat] at this

theorem toNat_lt_of_ascii {c : Char} (hc : c.isAscii = true) : c.toNat < 128 := by
  simpa [Char.isAscii] using hc

/-- What the tables say about ASCII: their entries that begin in it, and what these do to each of its
characters. -/
structure AsciiTables : Prop where
  upper : upperExpansions.filter (·.1 < 128) = []
  toUpper : ∀ n < 128, mapCase [] [⟨0x61, 0x7A, 1, 0x41⟩] (.ofNat n) = [(Char.ofNat n).toUpper]
  lower : lowerExpansions.filter (·.1 < 128) = []
  toLower : ∀ n < 128, mapCase [] [⟨0x41, 0x5A, 1, 0x61⟩] (.ofNat n) = [(Char.ofNat n).toLower]
  upperInside : ∀ n < 128, (Char.ofNat n).toUpper.isAscii = true
  letters : alphabeticRanges.filter (·.1 < 128) = [(0x41, 0x5A), (0x61, 0x7A)] ∧
    numberRanges.filter (·.1 < 128) = [(0x30, 0x39)]
  alphanumeric : ∀ n < 128, (inRanges [(0x41, 0x5A), (0x61, 0x7A)] (.ofNat n) ||
    inRanges [(0x30, 0x39)] (.ofNat n)) = (Char.ofNat n).isAlphanum
  identifiers : startRanges.filter (·.1 < 128) = [(0x41, 0x5A), (0x61, 0x7A)] ∧
    continueRanges.filter (·.1 < 128) = [(0x30, 0x39), (0x41, 0x5A), (0x5F, 0x5F), (0x61, 0x7A)]
  identifier : ∀ n < 128, (Char.ofNat n == '_' ||
      inRanges [(0x41, 0x5A), (0x61, 0x7A)] (.ofNat n)) = true ∨
    inRanges [(0x30, 0x39), (0x41, 0x5A), (0x5F, 0x5F), (0x61, 0x7A)] (.ofNat n) = true →
    Char.ofNat n ≠ '_' → (Char.ofNat n).isAlphanum = true
  upperAlphanumeric : ∀ n < 128, (Char.ofNat n).isAlphanum = true →
    (Char.ofNat n).toUpper.isAlphanum = true
  spaces : ∀ n < 128, (Char.ofNat n).isAlphanum = true → isSpace (.ofNat n) = false

theorem asciiTables : AsciiTables := by constructor <;> decide +kernel

theorem toUpper_of_ascii {c : Char} (hc : c.isAscii = true) : toUpper c = [c.toUpper] := by
  rw [toUpper, mapCase_cut 128 _ _ (toNat_lt_of_ascii hc), AsciiTables.upper asciiTables,
    show upperRuns.filter (·.first < 128) = [⟨0x61, 0x7A, 1, 0x41⟩] from rfl]
  exact ascii_induction (P := fun c => mapCase [] [⟨0x61, 0x7A, 1, 0x41⟩] c = [c.toUpper])
    (AsciiTables.toUpper asciiTables) hc

theorem toLower_of_ascii {c : Char} (hc : c.isAscii = true) : toLower c = [c.toLower] := by
  rw [toLower, mapCase_cut 128 _ _ (toNat_lt_of_ascii hc), AsciiTables.lower asciiTables,
    show lowerRuns.filter (·.first < 128) = [⟨0x41, 0x5A, 1, 0x61⟩] from rfl]
  exact ascii_induction (P := fun c => mapCase [] [⟨0x41, 0x5A, 1, 0x61⟩] c = [c.toLower])
    (AsciiTables.toLower asciiTables) hc

theorem isAscii_toUpper {c : Char} (hc : c.isAscii = true) : c.toUpper.isAscii = true :=
  ascii_induction (P := fun c => c.toUpper.isAscii = true) (AsciiTables.upperInside asciiTables) hc

/-- The letters and digits of ASCII. -/
theorem isAlphanumeric_of_ascii {c : Char} (hc : c.isAscii = true) :
    isAlphanumeric c = c.isAlphanum := by
  rw [isAlphanumeric, isAlphabetic, inRanges_cut 128 _ (toNat_lt_of_ascii hc),
    inRanges_cut 128 numberRanges (toNat_lt_of_ascii hc), (AsciiTables.letters asciiTables).1,
    (AsciiTables.letters asciiTables).2]
  exact ascii_induction (P := fun c => (inRanges [(0x41, 0x5A), (0x61, 0x7A)] c ||
    inRanges [(0x30, 0x39)] c) = c.isAlphanum) (AsciiTables.alphanumeric asciiTables) hc

/-- The characters of identifiers in ASCII are letters, digits and the underscore. -/
theorem isAlphanum_of_identifier {c : Char} (hc : c.isAscii = true)
    (hid : isIdentifierStart c = true ∨ isIdentifierContinue c = true) (hne : c ≠ '_') :
    c.isAlphanum = true := by
  rw [isIdentifierStart, isIdentifierContinue, inRanges_cut 128 _ (toNat_lt_of_ascii hc),
    inRanges_cut 128 continueRanges (toNat_lt_of_ascii hc), (AsciiTables.identifiers asciiTables).1,
    (AsciiTables.identifiers asciiTables).2] at hid
  exact ascii_induction (P := fun c => ((c == '_' || inRanges [(0x41, 0x5A), (0x61, 0x7A)] c) = true ∨
    inRanges [(0x30, 0x39), (0x41, 0x5A), (0x5F, 0x5F), (0x61, 0x7A)] c = true) → c ≠ '_' →
    c.isAlphanum = true) (AsciiTables.identifier asciiTables) hc hid hne

theorem isAlphanum_toUpper {c : Char} (hc : c.isAscii = true) (ha : c.isAlphanum = true) :
    c.toUpper.isAlphanum = true :=
  ascii_induction (P := fun c => c.isAlphanum = true → c.toUpper.isAlphanum = true)
    (AsciiTables.upperAlphanumeric asciiTables) hc ha

theorem isSpace_of_isAlphanum {c : Char} (hc : c.isAscii = true) (ha : c.isAlphanum = true) :
    isSpace c = false :=
  ascii_induction (P := fun c => c.isAlphanum = true → isSpace c = false)
    (AsciiTables.spaces asciiTables) hc ha

end Accessors.Text
