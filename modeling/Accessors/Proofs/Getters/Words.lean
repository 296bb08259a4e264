import Accessors.Getters.Naming
import Accessors.Proofs.Text.Capitals

/-!
# The words of a field's name

Underscores cut a name into words, and nothing else does.

* `forall_mem_words`: what holds of the words' characters is what holds of the name's, but for the
  underscores.
* `underscore_notMem_upperCamelCase`, `isCapital_of_upperCamelCase`: capitalized words, joined, have no
  underscore and begin with a capital.
-/

namespace Accessors.Getters

open Accessors.Text

theorem words_ne_nil (s : List Char) : words s ≠ [] := by
  cases s with
  | nil => simp [words]
  | cons c rest =>
    rw [words]
    split
    · simp
    · split <;> simp

/-- An underscore ends a word. -/
theorem words_underscore (rest : List Char) : words ('_' :: rest) = [] :: words rest := by
  obtain ⟨first, others, hrest⟩ := List.exists_cons_of_ne_nil (words_ne_nil rest)
  simp [words, hrest]

/-- Any other character belongs to the first word. -/
theorem words_cons {c : Char} (hc : c ≠ '_') (rest : List Char) :
    ∃ first others, words rest = first :: others ∧ words (c :: rest) = (c :: first) :: others := by
  obtain ⟨first, others, hrest⟩ := List.exists_cons_of_ne_nil (words_ne_nil rest)
  exact ⟨first, others, hrest, by simp [words, hrest, hc]⟩

theorem forall_mem_words {p : Char → Prop} {s : List Char} :
    (∀ w ∈ words s, ∀ c ∈ w, p c) ↔ ∀ c ∈ s, c = '_' ∨ p c := by
  induction s with
  | nil => simp [words]
  | cons c rest ih =>
    by_cases hc : c = '_'
    · subst hc
      simp [words_underscore, ih]
    · obtain ⟨first, others, hrest, hwords⟩ := words_cons hc rest
      rw [hrest, List.forall_mem_cons] at ih
      rw [hwords, List.forall_mem_cons, List.forall_mem_cons, List.forall_mem_cons, and_assoc, ih]
      simp [hc]

/-- The words do not have underscores. -/
theorem ne_underscore_of_mem_words {s w : List Char} (hw : w ∈ words s) {c : Char} (hc : c ∈ w) :
    c ≠ '_' :=
  forall_mem_words.2 (fun c _ => Classical.em (c = '_')) w hw c hc

/-! ## Capitalized words -/

theorem underscore_of_mem_toUpper {c : Char} (h : '_' ∈ toUpper c) : c = '_' := by
  have himages : 0x5F ∉ images upperExpansions upperRuns := by decide +kernel
  rcases mem_mapCase isValidChar_upper h with himage | ⟨rfl, -⟩
  · exact absurd himage himages
  · rfl

theorem underscore_notMem_upperCamelCase (s : List Char) : '_' ∉ upperCamelCase s := by
  intro h
  obtain ⟨w, hw, hmem⟩ := List.mem_flatMap.1 h
  cases w with
  | nil => cases hmem
  | cons c rest =>
    rcases List.mem_append.1 hmem with hupper | hrest
    · exact ne_underscore_of_mem_words hw (by simp) (underscore_of_mem_toUpper hupper)
    · exact ne_underscore_of_mem_words hw (List.mem_cons_of_mem c hrest) rfl

/-- Words that are joined begin with the capital of the first one that is not empty. -/
theorem isCapital_of_flatMap {ws : List (List Char)} {c : Char} {rest : List Char}
    (h : ws.flatMap capitalize = c :: rest) : IsCapital c := by
  induction ws with
  | nil => cases h
  | cons w ws ih =>
    rw [List.flatMap_cons] at h
    cases w with
    | nil => exact ih h
    | cons d w =>
      obtain ⟨u, us, hu⟩ := List.exists_cons_of_ne_nil (toUpper_ne_nil d)
      simp only [capitalize, hu, List.cons_append, List.cons.injEq] at h
      exact isCapital_of_mem_toUpper (c := d) (by rw [hu, ← h.1]; exact List.mem_cons_self)

theorem isCapital_of_upperCamelCase {s : List Char} {c : Char} {rest : List Char}
    (h : upperCamelCase s = c :: rest) : IsCapital c := isCapital_of_flatMap h

end Accessors.Getters
