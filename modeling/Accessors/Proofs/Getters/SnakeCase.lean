import Mathlib.Data.List.Basic
import Mathlib.Data.List.Nodup
import Accessors.Proofs.Getters.Kept
import Accessors.Proofs.Property.Lookup

/-!
# Structures in snake case

Two names of fields can come to the same name in camel case: `line2` and `line_2` do, and so do `a`
and `a_`. Names whose words all begin with a lower case letter do not (`isSnakeCase`), since each
capital tells where an underscore was.

* `snakeCase_camelCase`: a name in snake case is read back from its camel case.
* `lookup_by_camelCase`: over the accessors of a structure in snake case, exactly the kept fields are
  found, each by its name in camel case.
-/

namespace Accessors.Getters

open Accessors.Declaration
open Accessors.Text

/-- Words of lower case letters and digits with single underscores between them, each beginning with
a letter. `begins` says that a word has to begin. -/
def isSnakeCaseFrom (begins : Bool) : List Char → Bool
  | [] => !begins
  | c :: rest =>
    if begins then c.isLower && isSnakeCaseFrom false rest
    else if c = '_' then isSnakeCaseFrom true rest
    else (c.isLower || c.isDigit) && isSnakeCaseFrom false rest

/-- The name is in snake case. -/
def isSnakeCase (s : List Char) : Bool := isSnakeCaseFrom true s

/-- The name that a name in camel case was made from: capitals begin words. -/
def snakeCase : List Char → List Char
  | [] => []
  | c :: rest => if c.isUpper then '_' :: c.toLower :: snakeCase rest else c :: snakeCase rest

/-! ## Back from camel case -/

theorem isAscii_of_lower_or_digit {c : Char} (h : (c.isLower || c.isDigit) = true) :
    c.isAscii = true := by
  have h' : (decide (97 ≤ c.val) && decide (c.val ≤ 122) ||
      decide (48 ≤ c.val) && decide (c.val ≤ 57)) = true := h
  have hb : (97 ≤ c.toNat ∧ c.toNat ≤ 122) ∨ (48 ≤ c.toNat ∧ c.toNat ≤ 57) := by
    simpa [UInt32.le_iff_toNat_le] using h'
  have hlt : c.toNat < 128 := by omega
  simpa [Char.isAscii] using hlt

/-- A letter that begins a word can be told apart in upper case, and read back. -/
theorem lower_facts {c : Char} (h : c.isLower = true) :
    c ≠ '_' ∧ c.isAlphanum = true ∧ c.isUpper = false ∧ c.toUpper.isUpper = true ∧
      c.toUpper.toLower = c :=
  ascii_induction (P := fun c => c.isLower = true → c ≠ '_' ∧ c.isAlphanum = true ∧
      c.isUpper = false ∧ c.toUpper.isUpper = true ∧ c.toUpper.toLower = c)
    (by decide +kernel) (isAscii_of_lower_or_digit (by simp [h])) h

/-- The other characters of a word are no capitals. -/
theorem inner_facts {c : Char} (h : (c.isLower || c.isDigit) = true) :
    c.isAlphanum = true ∧ c.isUpper = false :=
  ascii_induction (P := fun c => (c.isLower || c.isDigit) = true →
      c.isAlphanum = true ∧ c.isUpper = false)
    (by decide +kernel) (isAscii_of_lower_or_digit h) h

/-- The pass with capitals is undone, from the inside of a word and from its beginning. -/
theorem snakeCase_pascalCase (s : List Char) :
    (isSnakeCaseFrom false s = true → snakeCase (pascalCase false s) = s) ∧
    (isSnakeCaseFrom true s = true → snakeCase (pascalCase true s) = '_' :: s) := by
  -- Both at once, since an underscore leads from the inside of a word to the next beginning.
  induction s with
  | nil => simp [isSnakeCaseFrom, pascalCase, snakeCase]
  | cons c rest ih =>
    obtain ⟨ihInner, ihBegin⟩ := ih
    constructor
    · intro h
      by_cases hc : c = '_'
      · subst hc
        rw [pascalCase, if_pos rfl]
        exact ihBegin h
      · have h' : (c.isLower || c.isDigit) = true ∧ isSnakeCaseFrom false rest = true := by
          simpa [isSnakeCaseFrom, hc] using h
        rw [pascalCase, if_neg hc]
        simp [snakeCase, (inner_facts h'.1).2, ihInner h'.2]
    · intro h
      have h' : c.isLower = true ∧ isSnakeCaseFrom false rest = true := by
        simpa [isSnakeCaseFrom] using h
      obtain ⟨hc, -, -, hup, hlow⟩ := lower_facts h'.1
      rw [pascalCase, if_neg hc]
      simp [snakeCase, hup, hlow, ihInner h'.2]

/-- A name in snake case begins with a letter of its first word. -/
theorem isSnakeCase_cons {s : List Char} (h : isSnakeCase s = true) :
    ∃ c rest, s = c :: rest ∧ c.isLower = true ∧ isSnakeCaseFrom false rest = true := by
  cases s with
  | nil => cases h
  | cons c rest =>
    have h' : c.isLower = true ∧ isSnakeCaseFrom false rest = true := by
      simpa [isSnakeCase, isSnakeCaseFrom] using h
    exact ⟨c, rest, rfl, h'⟩

/-- **Camel case loses nothing of a name in snake case.** -/
theorem snakeCase_camelCase {s : List Char} (h : isSnakeCase s = true) :
    snakeCase (camelCase s) = s := by
  obtain ⟨c, rest, rfl, hlower, hrest⟩ := isSnakeCase_cons h
  obtain ⟨hc, -, hup, -, hlow⟩ := lower_facts hlower
  have hcamel : camelCase (c :: rest) = c :: pascalCase false rest := by
    simp [camelCase, pascalCase, hc, hlow]
  rw [hcamel]
  simp [snakeCase, hup, (snakeCase_pascalCase rest).1 hrest]

/-- A name in snake case is one in ASCII. -/
theorem isAsciiName_of_isSnakeCaseFrom {s : List Char} {begins : Bool}
    (h : isSnakeCaseFrom begins s = true) : IsAsciiName s := by
  induction s generalizing begins with
  | nil => simp [IsAsciiName]
  | cons c rest ih =>
    rw [IsAsciiName, List.forall_mem_cons]
    by_cases hc : begins = false ∧ c = '_'
    · obtain ⟨rfl, rfl⟩ := hc
      exact ⟨⟨by decide, by simp⟩, ih h⟩
    · have h' : (c.isLower || c.isDigit) = true ∧ isSnakeCaseFrom false rest = true := by
        cases begins <;> simp_all [isSnakeCaseFrom]
      exact ⟨⟨isAscii_of_lower_or_digit h'.1, fun _ => (inner_facts h'.1).1⟩, ih h'.2⟩

/-! ## Fields and their properties -/

/-- The property that a field is looked up by. -/
def propertyOf (f : Field) : Property.PropertyName :=
  ⟨String.ofList (camelCase f.name.name.toList)⟩

/-- The getter of a field in snake case reads the field's property, and no other. -/
theorem reads_accessorOf {d : Accessors.Declaration} {f : Field}
    (hf : isSnakeCase f.name.name.toList = true) (p : String) :
    (accessorOf d f).Reads p ↔ propertyOf f = ⟨p⟩ := by
  obtain ⟨c, rest, hs, hlower, -⟩ := isSnakeCase_cons hf
  have hne : ∃ c ∈ f.name.name.toList, c ≠ '_' := ⟨c, by simp [hs], (lower_facts hlower).1⟩
  have hvalue :=
    tryResolve_methodName (isAsciiName_of_isSnakeCaseFrom hf) hne d.name.name f.isTruthValue
  unfold Property.Accessor.Reads accessorOf Getter.accessor Getter.ofField
  rw [hvalue, Except.ok.injEq, propertyOf]

/-- Fields in snake case with the same property have the same name. -/
theorem name_eq_of_propertyOf_eq {f g : Field} (hf : isSnakeCase f.name.name.toList = true)
    (hg : isSnakeCase g.name.name.toList = true) (h : propertyOf f = propertyOf g) :
    f.name.name = g.name.name := by
  have hcamel : camelCase f.name.name.toList = camelCase g.name.name.toList := by
    simpa [propertyOf, String.ofList_inj] using h
  have := congrArg snakeCase hcamel
  rw [snakeCase_camelCase hf, snakeCase_camelCase hg] at this
  exact String.toList_inj.1 this

/-- Fields of different names in snake case have different properties. -/
theorem nodup_propertyOf {fs : List Field}
    (hsnake : ∀ f ∈ fs, isSnakeCase f.name.name.toList = true)
    (hnodup : (fs.map (·.name.name)).Nodup) : (fs.map propertyOf).Nodup := by
  refine (hnodup.of_map _).map_on ?_
  intro f hf g hg heq
  have hname := name_eq_of_propertyOf_eq (hsnake f hf) (hsnake g hg) heq
  exact List.inj_on_of_nodup_map hnodup hf hg hname

/-- Among fields of different properties, a look-up finds the one that has the property. -/
theorem find_accessorOf {d : Accessors.Declaration} {fs : List Field}
    (hsnake : ∀ f ∈ fs, isSnakeCase f.name.name.toList = true)
    (hnodup : (fs.map propertyOf).Nodup) {f : Field} (hf : f ∈ fs) :
    (Property.find (propertyOf f).text (fs.map (accessorOf d))).value = some (accessorOf d f) := by
  have hreads : (accessorOf d f).Reads (propertyOf f).text :=
    (reads_accessorOf (hsnake f hf) _).2 rfl
  rcases Property.find_cases (propertyOf f).text (fs.map (accessorOf d)) with
    ⟨before, a, after, hsplit, ha, -, he⟩ | ⟨hnone, -⟩
  · have hmem : a ∈ fs.map (accessorOf d) := by rw [hsplit]; simp
    obtain ⟨g, hg, rfl⟩ := List.mem_map.1 hmem
    have hsame : propertyOf g = propertyOf f := (reads_accessorOf (hsnake g hg) _).1 ha
    rw [he, List.inj_on_of_nodup_map hnodup hg hf hsame]
  · exact absurd hreads (hnone _ (List.mem_map_of_mem hf))

/-- A property that no field has is not found. -/
theorem find_accessorOf_eq_none {d : Accessors.Declaration} {fs : List Field}
    (hsnake : ∀ f ∈ fs, isSnakeCase f.name.name.toList = true) {p : String}
    (hp : ⟨p⟩ ∉ fs.map propertyOf) : (Property.find p (fs.map (accessorOf d))).value = none := by
  refine Property.find_eq_none ?_
  intro a ha hreads
  obtain ⟨f, hf, rfl⟩ := List.mem_map.1 ha
  exact hp (List.mem_map.2 ⟨f, hf, (reads_accessorOf (hsnake f hf) p).1 hreads⟩)

/-- Listing yields the properties of the fields, in order. -/
theorem propertyNames_accessorOf {d : Accessors.Declaration} {fs : List Field}
    (hsnake : ∀ f ∈ fs, isSnakeCase f.name.name.toList = true) :
    (Property.propertyNames (fs.map (accessorOf d))).value = fs.map propertyOf := by
  rw [Property.propertyNames_value, List.filterMap_map,
    List.filterMap_eq_map_iff_forall_eq_some]
  intro f hf
  exact Property.Accessor.reads_iff.1 ((reads_accessorOf (hsnake f hf) (propertyOf f).text).2 rfl)

/-- Getters of fields with different properties have different names. -/
theorem nodup_method {d : Accessors.Declaration} {fs : List Field}
    (hsnake : ∀ f ∈ fs, isSnakeCase f.name.name.toList = true)
    (hnodup : (fs.map propertyOf).Nodup) : ((fs.map (accessorOf d)).map (·.method)).Nodup := by
  rw [List.map_map]
  refine (hnodup.of_map _).map_on ?_
  intro f hf g hg heq
  -- Accessors of one owner are equal if their methods are, and then read the same property.
  have hacc : accessorOf d f = accessorOf d g := congrArg (Property.Accessor.mk d.name.name) heq
  have hreads : (accessorOf d f).Reads (propertyOf f).text :=
    (reads_accessorOf (hsnake f hf) _).2 rfl
  rw [hacc, reads_accessorOf (hsnake g hg)] at hreads
  exact List.inj_on_of_nodup_map hnodup hf hg hreads.symm

/-- **A structure in snake case is looked up by camel case.** If the names of all its fields are
different ones in snake case, its getters have different names, the properties that are listed are
the kept fields in camel case, in order and without repetition, and a look-up finds exactly them,
each with its own accessor; what is left out is not found. -/
theorem lookup_by_camelCase {source : String} {r : Derivation} {d : Accessors.Declaration}
    (h : derive source = .ok r) (hd : Declaration.ofText? source = some d)
    (hsnake : ∀ f ∈ d.fields, isSnakeCase f.name.name.toList = true)
    (hnodup : (d.fields.map (·.name.name)).Nodup) :
    (r.accessors.map (·.method)).Nodup ∧
    (Property.propertyNames r.accessors).value = (keptFields d).map propertyOf ∧
    ((keptFields d).map propertyOf).Nodup ∧
    r.accessors = (keptFields d).map (accessorOf d) ∧
    (∀ f ∈ keptFields d,
      (Property.find (propertyOf f).text r.accessors).value = some (accessorOf d f)) ∧
    (∀ p, ⟨p⟩ ∉ (keptFields d).map propertyOf → (Property.find p r.accessors).value = none) ∧
    ∀ f ∈ d.fields, isSkipped f = .ok true →
      (Property.find (propertyOf f).text r.accessors).value = none := by
  have hkept : ∀ f ∈ keptFields d, isSnakeCase f.name.name.toList = true := fun f hf =>
    hsnake f (List.mem_of_mem_filter hf)
  have hall : (d.fields.map propertyOf).Nodup := nodup_propertyOf hsnake hnodup
  have hprops : ((keptFields d).map propertyOf).Nodup :=
    hall.sublist (List.filter_sublist.map _)
  rw [accessors_eq h hd]
  refine ⟨nodup_method hkept hprops, propertyNames_accessorOf hkept, hprops, rfl,
    fun f hf => find_accessorOf hkept hprops hf, fun p hp => find_accessorOf_eq_none hkept hp, ?_⟩
  intro f hf hskip
  refine find_accessorOf_eq_none hkept ?_
  intro hmem
  obtain ⟨g, hg, hsame⟩ := List.mem_map.1 hmem
  -- A kept field with the property of `f` would be `f` itself, which is left out.
  have hgf : g = f := List.inj_on_of_nodup_map hall (List.mem_of_mem_filter hg) hf hsame
  have hk : isKept f = true := hgf ▸ (List.mem_filter.1 hg).2
  simp [isKept, hskip] at hk

/-- A truth value, a field that is left out, and digits. -/
theorem lookup_by_camelCase_skipped :
    ∃ r d, derive "struct S \x7b user_name: u8, #[getter(skip)] key: u8, r2_d2: bool \x7d" = .ok r ∧
      Declaration.ofText? "struct S \x7b user_name: u8, #[getter(skip)] key: u8, r2_d2: bool \x7d" = some d ∧
      d.fields.map (fun f => (isSkipped f).toOption) = [some false, some true, some false] ∧
      (keptFields d).map propertyOf = [⟨"userName"⟩, ⟨"r2D2"⟩] ∧
      (Property.propertyNames r.accessors).value = (keptFields d).map propertyOf ∧
      (∀ f ∈ keptFields d,
        (Property.find (propertyOf f).text r.accessors).value = some (accessorOf d f)) ∧
      ∀ f ∈ d.fields, isSkipped f = .ok true →
        (Property.find (propertyOf f).text r.accessors).value = none := by
  have hfields : (Declaration.ofText?
      "struct S \x7b user_name: u8, #[getter(skip)] key: u8, r2_d2: bool \x7d").map
      (fun d => (d.fields.map (·.name.name), d.fields.map (fun f => (isSkipped f).toOption),
        (keptFields d).map propertyOf)) =
      some (["user_name", "key", "r2_d2"], [some false, some true, some false],
        [⟨"userName"⟩, ⟨"r2D2"⟩]) := by
    decide +kernel
  have hok : (derive
      "struct S \x7b user_name: u8, #[getter(skip)] key: u8, r2_d2: bool \x7d").toOption.isSome = true := by
    decide +kernel
  cases h : derive "struct S \x7b user_name: u8, #[getter(skip)] key: u8, r2_d2: bool \x7d" with
  | error e => rw [h] at hok; cases hok
  | ok r =>
    obtain ⟨d, hd, -, -, -⟩ := derive_eq_ok h
    rw [hd, Option.map_some, Option.some.injEq, Prod.mk.injEq, Prod.mk.injEq] at hfields
    obtain ⟨hnames, hskips, hprops⟩ := hfields
    have hsnake : ∀ f ∈ d.fields, isSnakeCase f.name.name.toList = true := by
      have : ∀ n ∈ d.fields.map (·.name.name), isSnakeCase n.toList = true := by
        rw [hnames]; decide
      exact List.forall_mem_map.1 this
    have hnodup : (d.fields.map (·.name.name)).Nodup := by rw [hnames]; decide
    obtain ⟨-, hlist, -, -, hfind, -, hnone⟩ := lookup_by_camelCase h hd hsnake hnodup
    exact ⟨r, d, rfl, hd, hskips, hprops, hlist, hfind, hnone⟩

end Accessors.Getters
