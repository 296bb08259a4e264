import Accessors.Getters.Naming
import Accessors.Proofs.Property.Cases
import Accessors.Proofs.Text.Ascii

/-!
# The property of a getter is its field in camel case

The name of a getter is made in two steps, words first, and read back in two more, mark first. A
serializer names the same field in one pass, without words or marks (`camelCase`). On names in
ASCII both come to the same.

* `IsAsciiName`: names in ASCII.
* `upperCamelCase_eq`: the words, capitalized, are what the pass with capitals yields.
* `tryResolve_methodName`: the getter of a field reads the field's name in camel case.
-/

namespace Accessors.Getters

open Accessors.Text

/-- One pass over a name: underscores are left out, and the character behind one goes to upper
case. `up` says that the next character does. -/
def pascalCase (up : Bool) : List Char → List Char
  | [] => []
  | c :: rest =>
    if c = '_' then pascalCase true rest
    else (if up then c.toUpper else c) :: pascalCase false rest

/-- The name of a field as a serializer writes it: capitals at the beginnings of words, the first
apart. -/
def camelCase (s : List Char) : List Char :=
  match pascalCase true s with
  | [] => []
  | c :: rest => c.toLower :: rest

/-- A name in ASCII: letters, digits and underscores. -/
def IsAsciiName (s : List Char) : Prop :=
  ∀ c ∈ s, c.isAscii = true ∧ (c ≠ '_' → c.isAlphanum = true)

/-! ## Words and passes -/

/-- The words of a name, joined, are what a pass yields: with the first one capitalized if the pass
begins with a capital. -/
theorem words_eq (s : List Char) (hs : ∀ c ∈ s, c.isAscii = true) :
    ∃ first others, words s = first :: others ∧
      capitalize first ++ others.flatMap capitalize = pascalCase true s ∧
      first ++ others.flatMap capitalize = pascalCase false s := by
  -- Both passes at once, since an underscore leads from the one to the other.
  induction s with
  | nil => exact ⟨[], [], rfl, rfl, rfl⟩
  | cons c rest ih =>
    obtain ⟨first, others, hw, hup, hlow⟩ := ih fun d hd => hs d (by simp [hd])
    by_cases hc : c = '_'
    · subst hc
      have hrest : (first :: others).flatMap capitalize = pascalCase true rest := by
        rw [List.flatMap_cons, hup]
      exact ⟨[], first :: others, by simp [words, hw], hrest, hrest⟩
    · refine ⟨c :: first, others, by simp [words, hw, hc], ?_, ?_⟩
      · simp [pascalCase, capitalize, hc, toUpper_of_ascii (hs c (by simp)), hlow]
      · simp [pascalCase, hc, hlow]

theorem upperCamelCase_eq {s : List Char} (hs : ∀ c ∈ s, c.isAscii = true) :
    upperCamelCase s = pascalCase true s := by
  obtain ⟨first, others, hw, hup, -⟩ := words_eq s hs
  rw [upperCamelCase, hw, List.flatMap_cons, hup]

/-- Letters and digits stay what they are, and nothing else is left. -/
theorem isAlphanum_of_mem_pascalCase {s : List Char} (hs : IsAsciiName s) {up : Bool} {d : Char}
    (hd : d ∈ pascalCase up s) : d.isAscii = true ∧ d.isAlphanum = true := by
  induction s generalizing up with
  | nil => cases hd
  | cons c rest ih =>
    obtain ⟨⟨hascii, halnum⟩, hrest⟩ := List.forall_mem_cons.1 hs
    by_cases hc : c = '_'
    · rw [pascalCase, if_pos hc] at hd
      exact ih hrest hd
    · rw [pascalCase, if_neg hc] at hd
      rcases List.mem_cons.1 hd with rfl | hd
      · cases up
        · exact ⟨hascii, halnum hc⟩
        · exact ⟨isAscii_toUpper hascii, isAlphanum_toUpper hascii (halnum hc)⟩
      · exact ih hrest hd

/-- Something is left of a name that is not all underscores. -/
theorem pascalCase_ne_nil {s : List Char} (up : Bool) (h : ∃ c ∈ s, c ≠ '_') :
    pascalCase up s ≠ [] := by
  induction s generalizing up with
  | nil => simp at h
  | cons c rest ih =>
    by_cases hc : c = '_'
    · rw [pascalCase, if_pos hc]
      refine ih true ?_
      simpa [hc] using h
    · rw [pascalCase, if_neg hc]
      simp

/-! ## Marks -/

theorem unmark_mark (truthValue : Bool) (rest : List Char) :
    Property.unmark? (mark truthValue ++ rest) = some rest := by
  cases truthValue <;> rfl

/-- What follows the mark of a getter decides whether it has the name of a method; only the mark has
to begin with a letter. -/
theorem isMethodName_mark_iff (truthValue : Bool) (rest : List Char) :
    Property.isMethodName (mark truthValue ++ rest) = true ↔
      ∀ c ∈ rest, c = '_' ∨ isAlphanumeric c = true := by
  have hg : isAlphabetic 'g' = true := by decide +kernel
  have hi : isAlphabetic 'i' = true := by decide +kernel
  have he : isAlphanumeric 'e' = true := by decide +kernel
  have ht : isAlphanumeric 't' = true := by decide +kernel
  have hs : isAlphanumeric 's' = true := by decide +kernel
  cases truthValue <;> simp [mark, Property.isMethodName, hg, hi, he, ht, hs]

theorem isMethodName_mark (truthValue : Bool) {rest : List Char}
    (h : ∀ c ∈ rest, isAlphanumeric c = true) :
    Property.isMethodName (mark truthValue ++ rest) = true :=
  (isMethodName_mark_iff truthValue rest).2 fun c hc => .inr (h c hc)

/-- **A getter reads its field's name in camel case**: identified, unmarked and put into lower case
at its beginning, the name of the getter is what the serializer writes. -/
theorem tryResolve_methodName {s : List Char} (hs : IsAsciiName s) (hne : ∃ c ∈ s, c ≠ '_')
    (owner : String) (truthValue : Bool) :
    (Property.tryResolve (.accessor ⟨owner, String.ofList (methodName truthValue s)⟩)).value =
      .ok ⟨String.ofList (camelCase s)⟩ := by
  have hup : upperCamelCase s = pascalCase true s := upperCamelCase_eq fun c hc => (hs c hc).1
  obtain ⟨d, rest, hd⟩ := List.exists_cons_of_ne_nil (pascalCase_ne_nil true hne)
  have hall : ∀ c ∈ d :: rest, c.isAscii = true ∧ c.isAlphanum = true := fun c hc =>
    isAlphanum_of_mem_pascalCase hs (hd ▸ hc)
  obtain ⟨⟨hascii, halnum⟩, -⟩ := List.forall_mem_cons.1 hall
  have hname : Property.isMethodName (mark truthValue ++ (d :: rest)) = true :=
    isMethodName_mark truthValue fun c hc => by
      rw [isAlphanumeric_of_ascii (hall c hc).1]; exact (hall c hc).2
  have hblank : isBlank (d :: rest) = false := by
    simp [isBlank, isSpace_of_isAlphanum hascii halnum]
  have hprop : Property.propertyName (String.ofList (mark truthValue ++ (d :: rest))) =
      .ok ⟨String.ofList (camelCase s)⟩ := by
    rw [Property.propertyName, String.toList_ofList, unmark_mark]
    simp [hblank, Property.decapitalize, toLower_of_ascii hascii, camelCase, hd]
  have hresolve := Property.tryResolve_of_name
    (a := ⟨owner, String.ofList (mark truthValue ++ (d :: rest))⟩)
    (by rw [String.toList_ofList]; exact hname) hprop
  rw [methodName, hup, hd, hresolve]

end Accessors.Getters
