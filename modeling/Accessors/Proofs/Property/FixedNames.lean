import Accessors.Proofs.Property.Outcome

/-!
# Names that are told again

A property's name begins in lower case, and lower case is left alone by lower case. So the name comes
back unchanged from a method that is named after it, and the names that do are all the names there are.

* `toLower_of_mem_toLower`: lower case is left alone by lower case.
* `isBlank_decapitalize`: blank texts stay blank, and others do not become blank.
* `IsPropertyName`: a text that is not blank and begins in lower case.
* `propertyName_fixed`: these are the texts that methods tell, and each is told by the two methods that
  are named after it.
-/

namespace Accessors.Text

/-- **Lower case is left alone by lower case.** -/
theorem toLower_of_mem_toLower {c u : Char} (h : u ∈ toLower c) : toLower u = [u] :=
  mapCase_of_notMem
    (notMem_sources_of_mem_mapCase isValidChar_lower (CaseTables.lowerApart caseTables) h)

theorem toLower_ne_nil (c : Char) : toLower c ≠ [] := by
  rw [toLower]
  rcases mapCase_cases lowerExpansions lowerRuns c with ⟨e, he, -, hc⟩ | ⟨r, -, m, -, hc⟩ | ⟨-, hc⟩
  · rw [hc]; simpa using CaseTables.lowerFilled caseTables e he
  · rw [hc]; simp
  · rw [hc]; simp

/-- A point of a set that has nothing in common with white space is none. -/
theorem isSpace_of_disjoint {points : List Nat} (h : rangeMask spaceRanges &&& pointMask points = 0)
    {c : Char} (hc : c.toNat ∈ points) : isSpace c = false := by
  have hbit := Nat.testBit_and (rangeMask spaceRanges) (pointMask points) c.toNat
  rw [h, Nat.zero_testBit, testBit_pointMask.2 hc, Bool.and_true] at hbit
  rw [isSpace, inRanges_eq_testBit, ← hbit]

theorem isSpace_of_mem_toLower {c u : Char} (h : u ∈ toLower c) : isSpace u = isSpace c := by
  rcases mem_mapCase isValidChar_lower h with himage | ⟨rfl, -⟩
  · -- The mapping yields an image, so the character has an entry; neither of the two is white space.
    have hu : isSpace u = false :=
      isSpace_of_disjoint (CaseTables.spacesCaseless caseTables).2 himage
    by_cases hc : c.toNat ∈ sources lowerExpansions lowerRuns
    · rw [hu, isSpace_of_disjoint (CaseTables.spacesCaseless caseTables).1 hc]
    · have hsame : toLower c = [c] := mapCase_of_notMem hc
      rw [hsame, List.mem_singleton] at h
      rw [h]
  · rfl

end Accessors.Text

namespace Accessors.Property

open Accessors.Text

/-- **The first character is brought to lower case once and for all.** -/
theorem decapitalize_decapitalize (s : List Char) :
    decapitalize (decapitalize s) = decapitalize s := by
  cases s with
  | nil => rfl
  | cons c rest =>
    obtain ⟨u, us, hu⟩ := List.exists_cons_of_ne_nil (toLower_ne_nil c)
    have hfixed : toLower u = [u] := toLower_of_mem_toLower (c := c) (by simp [hu])
    simp [decapitalize, hu, hfixed]

theorem isBlank_decapitalize (s : List Char) : isBlank (decapitalize s) = isBlank s := by
  cases s with
  | nil => rfl
  | cons c rest =>
    have hfirst : (toLower c).all isSpace = isSpace c := by
      obtain ⟨u, us, hu⟩ := List.exists_cons_of_ne_nil (toLower_ne_nil c)
      cases hc : isSpace c with
      | true => exact List.all_eq_true.2 fun v hv => (isSpace_of_mem_toLower hv).trans hc
      | false =>
        refine List.all_eq_false.2 ⟨u, by simp [hu], ?_⟩
        rw [isSpace_of_mem_toLower (c := c) (by simp [hu]), hc]
        exact Bool.false_ne_true
    simp only [isBlank, decapitalize, List.all_append, List.all_cons, hfirst]

/-- The text is not blank, and its first character stays as it is in lower case. -/
structure IsPropertyName (n : String) : Prop where
  notBlank : isBlank n.toList = false
  lower : decapitalize n.toList = n.toList

/-- A method tells what is behind its mark, with the first character in lower case, unless that is
blank. -/
theorem propertyName_eq_ok {method : String} {n : PropertyName} :
    propertyName method = .ok n ↔ ∃ rest, unmark? method.toList = some rest ∧
      isBlank rest = false ∧ n.text.toList = decapitalize rest := by
  obtain ⟨text⟩ := n
  unfold propertyName
  cases unmark? method.toList with
  | none => simp
  | some rest =>
    have htext : String.ofList (decapitalize rest) = text ↔ text.toList = decapitalize rest := by
      rw [← String.toList_inj, String.toList_ofList, eq_comm]
    cases hblank : isBlank rest <;> simp [hblank, htext]

theorem isPropertyName_of_propertyName {method : String} {n : PropertyName}
    (h : propertyName method = .ok n) : IsPropertyName n.text := by
  obtain ⟨rest, -, hblank, htext⟩ := propertyName_eq_ok.1 h
  constructor
  · rw [htext, isBlank_decapitalize, hblank]
  · rw [htext, decapitalize_decapitalize]

/-- A method that is named after such a text tells it. -/
theorem propertyName_of_unmark {method : String} {n : PropertyName} (h : IsPropertyName n.text)
    (hmethod : unmark? method.toList = some n.text.toList) : propertyName method = .ok n :=
  propertyName_eq_ok.2 ⟨_, hmethod, h.notBlank, h.lower.symm⟩

theorem propertyName_get {n : PropertyName} (h : IsPropertyName n.text) :
    propertyName ("get" ++ n.text) = .ok n :=
  propertyName_of_unmark h (unmark?_eq_some.2 (.inl (by rw [String.toList_append]; rfl)))

theorem propertyName_is {n : PropertyName} (h : IsPropertyName n.text) :
    propertyName ("is" ++ n.text) = .ok n :=
  propertyName_of_unmark h (unmark?_eq_some.2 (.inr (by rw [String.toList_append]; rfl)))

/-- What methods tell about a name. -/
structure Fixed (n : PropertyName) : Prop where
  /-- Some method tells the name exactly if it is not blank and begins in lower case. -/
  image : (∃ method, propertyName method = .ok n) ↔
    isBlank n.text.toList = false ∧ decapitalize n.text.toList = n.text.toList
  /-- Then the methods that are named after it tell it, whatever it begins with. -/
  get : propertyName ("get" ++ n.text) = .ok n ↔ ∃ method, propertyName method = .ok n
  is : propertyName ("is" ++ n.text) = .ok n ↔ ∃ method, propertyName method = .ok n
  /-- A second step to lower case changes nothing, for every text. -/
  idempotent : decapitalize (decapitalize n.text.toList) = decapitalize n.text.toList

/-- **A name that a method tells is told again** by the methods that are named after it, and the texts
that some method tells are those that are not blank and begin in lower case. -/
theorem propertyName_fixed (n : PropertyName) : Fixed n := by
  have hname : (∃ method, propertyName method = .ok n) → IsPropertyName n.text :=
    fun ⟨_, h⟩ => isPropertyName_of_propertyName h
  constructor
  · exact ⟨fun h => ⟨(hname h).notBlank, (hname h).lower⟩,
      fun h => ⟨_, propertyName_get ⟨h.1, h.2⟩⟩⟩
  · exact ⟨fun h => ⟨_, h⟩, fun h => propertyName_get (hname h)⟩
  · exact ⟨fun h => ⟨_, h⟩, fun h => propertyName_is (hname h)⟩
  · exact decapitalize_decapitalize n.text.toList

/-- The capital with a dot has a lower case of two characters, which is told again. A name can begin
with a mark itself. -/
example : propertyName "get\u0130d" = .ok ⟨"i\u0307d"⟩ ∧
    propertyName "isi\u0307d" = .ok ⟨"i\u0307d"⟩ ∧ propertyName "isgetX" = .ok ⟨"getX"⟩ := by
  decide +kernel

end Accessors.Property
