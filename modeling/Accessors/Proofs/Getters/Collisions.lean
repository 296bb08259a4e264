import Accessors.Proofs.Getters.Identified
import Accessors.Proofs.Property.Lookup

/-!
# Getters that read one property

A resolver takes the mark off a getter's name and puts the first character behind it into lower case.
Getters of different names may come to the same property in this way.

* `Collide`: the fields whose getters do.
* `decapitalize_eq_iff`: two names behind a mark have one lower case if they are one, or look alike.
* `reads_accessorOf_iff`: the property that the getter of a field reads, if it reads one.
* `getters_share_iff_collide`: the getters of a structure share a property exactly if their fields
  collide, and a getter is found by its property if no earlier field collides with its own.
-/

namespace Accessors.Getters

open Accessors.Declaration
open Accessors.Text

/-- The name of a field's getter, behind its mark. -/
def stem (f : Field) : List Char := upperCamelCase f.name.name.toList

/-- The texts differ in their first characters only, and these look alike. -/
def LooksLike : List Char → List Char → Prop
  | c :: s, d :: t => Lookalike c d ∧ s = t
  | _, _ => False

/-- One of the fields holds a truth value and their getters differ in their marks only, or their
getters have names that look alike. -/
def Collide (f g : Field) : Prop :=
  f.isTruthValue ≠ g.isTruthValue ∧ stem f = stem g ∨ LooksLike (stem f) (stem g)

/-! ## Stems -/

/-- Letters and numbers, the first of them a capital: what tells a property. -/
def IsStem : List Char → Prop
  | [] => False
  | c :: rest => IsCapital c ∧ ∀ d ∈ c :: rest, isAlphanumeric d = true

theorem isStem_stem_iff (f : Field) :
    IsStem (stem f) ↔ Identifiable f.name.name.toList ∧ stem f ≠ [] := by
  rw [← alphanumeric_upperCamelCase_iff, ← stem]
  cases hstem : stem f with
  | nil => simp [IsStem]
  | cons c rest =>
    have hc : IsCapital c := isCapital_of_upperCamelCase hstem
    simp [IsStem, hc]

theorem IsStem.isBlank_eq_false {s : List Char} (h : IsStem s) : isBlank s = false := by
  cases s with
  | nil => cases h
  | cons c rest => simp [Text.isBlank, isSpace_of_isAlphanumeric (h.2 c List.mem_cons_self)]

theorem LooksLike.isStem {s t : List Char} (h : LooksLike s t) (ht : IsStem t) : IsStem s := by
  cases s with
  | nil => cases h
  | cons c s =>
    cases t with
    | nil => cases h
    | cons d t =>
      obtain ⟨hlook, rfl⟩ := h
      obtain ⟨hcapital, halnum⟩ := hlook.isCapital
      exact ⟨hcapital, List.forall_mem_cons.2 ⟨halnum, (List.forall_mem_cons.1 ht.2).2⟩⟩

/-- The dot that stays behind when the dotted capital goes to lower case is not in a stem. -/
theorem dot_notMem {c : Char} {rest : List Char} (h : IsStem (c :: rest)) : '\u0307' ∉ rest := by
  intro hmem
  have hdot : isAlphanumeric '\u0307' = false := by decide +kernel
  rw [h.2 _ (List.mem_cons_of_mem c hmem)] at hdot
  cases hdot

/-- **Two stems have one lower case exactly if they are one or look alike.** -/
theorem decapitalize_eq_iff {s t : List Char} (hs : IsStem s) (ht : IsStem t) :
    Property.decapitalize s = Property.decapitalize t ↔ s = t ∨ LooksLike s t := by
  cases s with
  | nil => cases hs
  | cons c s =>
    cases t with
    | nil => cases ht
    | cons d t =>
      simp only [Property.decapitalize, LooksLike, List.cons.injEq]
      constructor
      · intro h
        rcases toLower_cases c with ⟨l, hl⟩ | ⟨rfl, hl⟩ <;>
          rcases toLower_cases d with ⟨m, hm⟩ | ⟨rfl, hm⟩ <;>
          simp only [hl, hm, List.cons_append, List.nil_append, List.cons.injEq] at h
        · have hlower : toLower c = toLower d := by rw [hl, hm, h.1]
          rcases eq_or_lookalike_of_toLower_eq hs.1 ht.1 hlower with hcd | hcd
          · exact .inl ⟨hcd, h.2⟩
          · exact .inr ⟨hcd, h.2⟩
        · exact absurd (h.2 ▸ List.mem_cons_self) (dot_notMem hs)
        · exact absurd (h.2 ▸ List.mem_cons_self) (dot_notMem ht)
        · exact .inl ⟨rfl, h.2.2⟩
      · rintro (⟨rfl, rfl⟩ | ⟨hcd, rfl⟩)
        · rfl
        · rw [hcd.toLower_eq.1]

/-! ## Two fields -/

theorem method_accessorOf (d : Accessors.Declaration) (f : Field) :
    (accessorOf d f).method.toList = mark f.isTruthValue ++ stem f := String.toList_ofList

/-- **The property that a field's getter reads**: its stem with the first character in lower case, if
that is one by which properties are told. -/
theorem reads_accessorOf_iff {d : Accessors.Declaration} {f : Field} {p : String} :
    (accessorOf d f).Reads p ↔ IsStem (stem f) ∧ p.toList = Property.decapitalize (stem f) := by
  have hname : Property.isMethodName (mark f.isTruthValue ++ stem f) = true ↔
      Identifiable f.name.name.toList := isMethodName_methodName _ _
  rw [Property.Accessor.reads_iff_name, Property.propertyName, method_accessorOf, hname, unmark_mark]
  constructor
  · rintro ⟨hident, hprop⟩
    have hne : stem f ≠ [] := by
      intro hnil
      simp [hnil, isBlank] at hprop
    have hstem : IsStem (stem f) := (isStem_stem_iff f).2 ⟨hident, hne⟩
    simp only [hstem.isBlank_eq_false, Bool.false_eq_true, if_false, Except.ok.injEq,
      Property.PropertyName.mk.injEq] at hprop
    exact ⟨hstem, by rw [← hprop, String.toList_ofList]⟩
  · rintro ⟨hstem, hp⟩
    refine ⟨((isStem_stem_iff f).1 hstem).1, ?_⟩
    simp [hstem.isBlank_eq_false, ← hp]

/-- Getters that read one property have one name, or their fields collide. -/
theorem same_name_or_collide {d : Accessors.Declaration} {f g : Field} {p : String}
    (hf : (accessorOf d f).Reads p) (hg : (accessorOf d g).Reads p) :
    (accessorOf d f).method = (accessorOf d g).method ∨ Collide f g := by
  rw [reads_accessorOf_iff] at hf hg
  rcases (decapitalize_eq_iff hf.1 hg.1).1 (hf.2.symm.trans hg.2) with hstem | hlook
  · by_cases hmark : f.isTruthValue = g.isTruthValue
    · exact .inl (String.ext_iff.2 (by rw [method_accessorOf, method_accessorOf, hmark, hstem]))
    · exact .inr (.inl ⟨hmark, hstem⟩)
  · exact .inr (.inr hlook)

/-- What collides with a field has a getter that reads the same property. -/
theorem Collide.reads {d : Accessors.Declaration} {f g : Field} {p : String} (h : Collide f g)
    (hg : (accessorOf d g).Reads p) : (accessorOf d f).Reads p := by
  rw [reads_accessorOf_iff] at hg ⊢
  obtain ⟨hstem, hp⟩ := hg
  rcases h with ⟨-, heq⟩ | hlook
  · rw [heq]; exact ⟨hstem, hp⟩
  · have hstem' : IsStem (stem f) := hlook.isStem hstem
    exact ⟨hstem', hp.trans ((decapitalize_eq_iff hstem' hstem).2 (.inr hlook)).symm⟩

/-- If both getters read a property, it is the same one exactly if the fields collide. -/
def ShareIffCollide (d : Accessors.Declaration) (f g : Field) : Prop :=
  ∀ p q, (accessorOf d f).Reads p → (accessorOf d g).Reads q → (p = q ↔ Collide f g)

theorem shareIffCollide_of_ne {d : Accessors.Declaration} {f g : Field}
    (hne : (accessorOf d f).method ≠ (accessorOf d g).method) : ShareIffCollide d f g := by
  intro p q hf hg
  constructor
  · rintro rfl
    exact (same_name_or_collide hf hg).resolve_left hne
  · intro hcollide
    have hq : (accessorOf d f).Reads q := hcollide.reads hg
    rw [Property.Accessor.reads_iff, Property.Accessor.reads_iff.1 hf] at hq
    simpa using hq

/-! ## Looking up -/

/-- Among some accessors, a look-up of the property `p` of the field `f` finds the getter of `f` if
no field before it collides with it. What it finds otherwise is the getter of such a field. -/
structure FoundUnlessCollide (d : Accessors.Declaration) (accessors : List Property.Accessor)
    (before : List Field) (f : Field) (p : String) : Prop where
  itself : (Property.find p accessors).value = some (accessorOf d f) ↔ ∀ g ∈ before, ¬ Collide g f
  other : ∀ a, (Property.find p accessors).value = some a →
    a = accessorOf d f ∨ ∃ g ∈ before, Collide g f ∧ a = accessorOf d g

theorem foundUnlessCollide_of_ne {d : Accessors.Declaration} {before after : List Field} {f : Field}
    (hne : ∀ g ∈ before, (accessorOf d g).method ≠ (accessorOf d f).method) {p : String}
    (hf : (accessorOf d f).Reads p) :
    FoundUnlessCollide d ((before ++ f :: after).map (accessorOf d)) before f p := by
  have hreads : ∀ g ∈ before, (accessorOf d g).Reads p → Collide g f := fun g hg hp =>
    (same_name_or_collide hp hf).resolve_left (hne g hg)
  rw [List.map_append, List.map_cons]
  by_cases hc : ∃ g ∈ before, Collide g f
  · obtain ⟨g, hg, hcollide⟩ := hc
    have hsome : ∃ b ∈ before.map (accessorOf d), b.Reads p :=
      ⟨_, List.mem_map_of_mem hg, hcollide.reads hf⟩
    obtain ⟨a, hmem, ha, hfind⟩ :=
      Property.find_append hsome (accessorOf d f :: after.map (accessorOf d))
    obtain ⟨e, he, rfl⟩ := List.mem_map.1 hmem
    have hnot : accessorOf d e ≠ accessorOf d f := fun h => hne e he (congrArg _ h)
    refine ⟨iff_of_false ?_ fun hall => hall g hg hcollide, fun a hfound => ?_⟩
    · rw [hfind, Option.some.injEq]; exact hnot
    · rw [hfind, Option.some.injEq] at hfound
      exact .inr ⟨e, he, hreads e he ha, hfound.symm⟩
  · have hnone : ∀ g ∈ before, ¬ Collide g f := fun g hg h => hc ⟨g, hg, h⟩
    have hpass : ∀ b ∈ before.map (accessorOf d), ¬ b.Reads p :=
      List.forall_mem_map.2 fun g hg h => hnone g hg (hreads g hg h)
    have hfind : (Property.find p (before.map (accessorOf d) ++
        accessorOf d f :: after.map (accessorOf d))).value = some (accessorOf d f) := by
      rw [Property.find_eq_of_first hf hpass]
    refine ⟨iff_of_true hfind hnone, fun a hfound => ?_⟩
    rw [hfind, Option.some.injEq] at hfound
    exact .inl hfound.symm

/-- **Getters share a property exactly if their fields collide**, when no two of them have one name.
A getter is what a look-up of its property finds, if no earlier field collides with its own. -/
theorem getters_share_iff_collide {source : String} {r : Derivation} (h : derive source = .ok r)
    (hnames : (r.accessors.map (·.method)).Nodup) :
    ∃ d, Declaration.ofText? source = some d ∧ r.accessors = (keptFields d).map (accessorOf d) ∧
      (keptFields d).Pairwise (ShareIffCollide d) ∧
      ∀ before f after, keptFields d = before ++ f :: after →
        ∀ p, (accessorOf d f).Reads p → FoundUnlessCollide d r.accessors before f p := by
  obtain ⟨d, hd, -, -, -⟩ := derive_eq_ok h
  have haccessors := accessors_eq h hd
  have hne : (keptFields d).Pairwise fun f g => (accessorOf d f).method ≠ (accessorOf d g).method := by
    rwa [haccessors, List.map_map, List.Nodup, List.pairwise_map] at hnames
  refine ⟨d, hd, haccessors, hne.imp shareIffCollide_of_ne, fun before f after hsplit p hf => ?_⟩
  rw [haccessors, hsplit]
  rw [hsplit, List.pairwise_append] at hne
  exact foundUnlessCollide_of_ne (fun g hg => hne.2.2 g hg f List.mem_cons_self) hf

/-- A field and one with the name of another type, and two letters that look alike: of either pair,
the first is found. -/
theorem getters_share_iff_collide_twice :
    ∃ r d, derive "struct S \x7b a: bool, a_: u8, \u0398: u8, \u03f4: u8, b: u8 \x7d" = .ok r ∧
      (r.accessors.map (·.method)).Nodup ∧
      Declaration.ofText? "struct S \x7b a: bool, a_: u8, \u0398: u8, \u03f4: u8, b: u8 \x7d" = some d ∧
      (keptFields d).Pairwise (ShareIffCollide d) ∧
      (∀ before f after, keptFields d = before ++ f :: after →
        ∀ p, (accessorOf d f).Reads p → FoundUnlessCollide d r.accessors before f p) ∧
      r.accessors.map (·.property?) =
        [some ⟨"a"⟩, some ⟨"a"⟩, some ⟨"\u03b8"⟩, some ⟨"\u03b8"⟩, some ⟨"b"⟩] ∧
      ["a", "\u03b8", "b"].map (fun p => (Property.find p r.accessors).value) =
        [some ⟨"S", "isA"⟩, some ⟨"S", "get\u0398"⟩, some ⟨"S", "getB"⟩] := by
  obtain ⟨r, h, hr⟩ := exists_derivation
    "struct S \x7b a: bool, a_: u8, \u0398: u8, \u03f4: u8, b: u8 \x7d"
    [⟨"S", "isA"⟩, ⟨"S", "getA"⟩, ⟨"S", "get\u0398"⟩, ⟨"S", "get\u03f4"⟩, ⟨"S", "getB"⟩]
    (by decide +kernel)
  have hnames : (r.accessors.map (·.method)).Nodup := by rw [hr]; decide
  obtain ⟨d, hd, -, hpairs, hfound⟩ := getters_share_iff_collide h hnames
  refine ⟨r, d, h, hnames, hd, hpairs, hfound, ?_, ?_⟩
  · rw [hr]; decide +kernel
  · rw [hr]; decide +kernel

/-- Two getters whose names differ in their marks read one property, and a look-up of the second
getter's property finds the first one. -/
theorem getters_share_a_property :
    ∃ r, derive "struct S \x7b a: bool, a_: u8 \x7d" = .ok r ∧
      r.accessors = [⟨"S", "isA"⟩, ⟨"S", "getA"⟩] ∧ (r.accessors.map (·.method)).Nodup ∧
      (∀ a ∈ r.accessors, a.Reads "a") ∧
      (Property.find "a" r.accessors).value = some ⟨"S", "isA"⟩ := by
  obtain ⟨r, h, hr⟩ := exists_derivation "struct S \x7b a: bool, a_: u8 \x7d"
    [⟨"S", "isA"⟩, ⟨"S", "getA"⟩] (by decide +kernel)
  refine ⟨r, h, hr, ?_, ?_, ?_⟩
  · rw [hr]; decide
  · rw [hr]; unfold Property.Accessor.Reads; decide +kernel
  · rw [hr]; decide +kernel

end Accessors.Getters
