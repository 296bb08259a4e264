import Mathlib.Data.List.Forall2
import Accessors.Getters.Derivation
import Accessors.Proofs.Declaration.Leaves
import Accessors.Proofs.Getters.CamelCase

/-!
# The fields that get getters

* `keptFields`: the fields of a declaration that are not left out.
* `derive_eq_ok`: what a text yields is made from its kept fields, in order.
* `getters_read_camelCase`: each getter reads the property that its field is named after.
-/

namespace Accessors.Getters

open Accessors.Declaration

/-- The field's attributes are sound and do not leave it out. -/
def isKept (f : Field) : Bool :=
  match isSkipped f with
  | .ok skipped => !skipped
  | .error _ => false

/-- The fields that get a getter, in order. -/
def keptFields (d : Accessors.Declaration) : List Field := d.fields.filter isKept

/-- A series of fields is gone through to its end, and the kept ones get their getters. -/
theorem gettersOf_eq_ok {fs : List Field} {getters : List Getter} (h : gettersOf fs = .ok getters) :
    getters = (fs.filter isKept).map Getter.ofField ∧ ∀ f ∈ fs, ∃ b, isSkipped f = .ok b := by
  induction fs generalizing getters with
  | nil => cases h; simp
  | cons f fs ih =>
    simp only [gettersOf] at h
    cases hf : isSkipped f with
    | error e => rw [hf] at h; cases h
    | ok b =>
      cases hfs : gettersOf fs with
      | error e => rw [hf, hfs] at h; cases h
      | ok later =>
        rw [hf, hfs] at h
        obtain ⟨rfl, hall⟩ := ih hfs
        have hk : isKept f = !b := by simp [isKept, hf]
        refine ⟨?_, List.forall_mem_cons.2 ⟨⟨b, hf⟩, hall⟩⟩
        cases b <;> cases h <;> simp [hk]

/-- **What a text yields.** It is a declaration of a structure with named fields, and the getters
are those of its kept fields, in order. -/
theorem derive_eq_ok {source : String} {r : Derivation} (h : derive source = .ok r) :
    ∃ d, Declaration.ofText? source = some d ∧ (∃ fs, d.body = .named fs) ∧
      (∀ f ∈ d.fields, ∃ b, isSkipped f = .ok b) ∧
      r = ⟨accessorsOf d ((keptFields d).map Getter.ofField),
        code d ((keptFields d).map Getter.ofField)⟩ := by
  unfold derive at h
  split at h
  · cases h
  · next d hd =>
    split at h
    · cases h
    · next getters hp =>
      unfold plan at hp
      split at hp
      · next fs hb =>
        have hfields : d.fields = fs := by rw [fields, hb]
        split at hp
        · next gs hg =>
          cases hp
          cases h
          obtain ⟨rfl, hall⟩ := gettersOf_eq_ok hg
          exact ⟨d, hd, ⟨fs, hb⟩, by rwa [hfields], by rw [keptFields, hfields]⟩
        · cases hp
      all_goals cases hp

/-- The accessor of the getter of a field. -/
def accessorOf (d : Accessors.Declaration) (f : Field) : Property.Accessor :=
  (Getter.ofField f).accessor d.name.name

theorem accessors_eq {source : String} {r : Derivation} {d : Accessors.Declaration}
    (h : derive source = .ok r) (hd : Declaration.ofText? source = some d) :
    r.accessors = (keptFields d).map (accessorOf d) := by
  obtain ⟨d', hd', -, -, rfl⟩ := derive_eq_ok h
  rw [hd] at hd'
  cases hd'
  simp [accessorsOf, accessorOf]

/-- A text that yields accessors is derived from. -/
theorem exists_derivation (source : String) (accessors : List Property.Accessor)
    (h : (derive source).toOption.map (·.accessors) = some accessors) :
    ∃ r, derive source = .ok r ∧ r.accessors = accessors := by
  cases hr : derive source with
  | error e => rw [hr] at h; cases h
  | ok r => rw [hr] at h; exact ⟨r, rfl, Option.some.inj h⟩

/-! ## Properties -/

/-- A name that was cut out of a text is one in ASCII, if its characters are. -/
theorem isAsciiName_of_isName {s : List Char} (h : Token.IsName s)
    (hs : ∀ c ∈ s, c.isAscii = true) : IsAsciiName s := by
  obtain ⟨c, rest, rfl, hc, hrest⟩ := h
  intro e he
  refine ⟨hs e he, fun hne => Text.isAlphanum_of_identifier (hs e he) ?_ hne⟩
  rcases List.mem_cons.1 he with rfl | he
  · exact .inl hc
  · exact .inr (hrest e he)

/-- The accessor of a field is marked `is` if the field holds a truth value and `get` otherwise. It
resolves to the field's name in camel case, if that name is in ASCII and not all underscores. -/
def ReadsCamelCase (f : Field) (a : Property.Accessor) : Prop :=
  mark f.isTruthValue <+: a.method.toList ∧
    ((∀ c ∈ f.name.name.toList, c.isAscii = true) → (∃ c ∈ f.name.name.toList, c ≠ '_') →
      (Property.tryResolve (.accessor a)).value =
        .ok ⟨String.ofList (camelCase f.name.name.toList)⟩)

/-- **Each getter reads the property that its field is named after.** Whatever declaration a text
is, its kept fields and its accessors go together one by one. -/
theorem getters_read_camelCase {source : String} {r : Derivation} (h : derive source = .ok r) :
    ∃ d, Declaration.ofText? source = some d ∧
      List.Forall₂ ReadsCamelCase (keptFields d) r.accessors := by
  obtain ⟨d, hd, -, -, -⟩ := derive_eq_ok h
  refine ⟨d, hd, ?_⟩
  rw [accessors_eq h hd, List.forall₂_map_right_iff, List.forall₂_same]
  intro f hf
  have hname : Token.IsName f.name.name.toList :=
    ((sound_of_ofText hd).fields f (List.mem_of_mem_filter hf)).1
  refine ⟨?_, fun hascii hne => ?_⟩
  · simp [accessorOf, Getter.accessor, Getter.ofField, methodName]
  · exact tryResolve_methodName (isAsciiName_of_isName hname hascii) hne _ _

/-- Raw, leading, trailing and repeated underscores, digits, and a name that looks like a getter. -/
theorem getters_read_camelCase_odd :
    ∃ r d, derive "struct S \x7b r#type: bool, __a_1_: u8, get_URL: [u8; 2] \x7d" = .ok r ∧
      Declaration.ofText? "struct S \x7b r#type: bool, __a_1_: u8, get_URL: [u8; 2] \x7d" = some d ∧
      List.Forall₂ ReadsCamelCase (keptFields d) r.accessors ∧
      (keptFields d).map (·.name.name) = ["type", "__a_1_", "get_URL"] ∧
      r.accessors.map (fun a => (Property.tryResolve (.accessor a)).value.toOption) =
        [some ⟨"type"⟩, some ⟨"a1"⟩, some ⟨"getURL"⟩] := by
  have hnames : (Declaration.ofText? "struct S \x7b r#type: bool, __a_1_: u8, get_URL: [u8; 2] \x7d").map
      (fun d => (keptFields d).map (·.name.name)) = some ["type", "__a_1_", "get_URL"] := by
    decide +kernel
  have hvalues : (derive "struct S \x7b r#type: bool, __a_1_: u8, get_URL: [u8; 2] \x7d").toOption.map
      (fun r => r.accessors.map fun a => (Property.tryResolve (.accessor a)).value.toOption) =
        some [some ⟨"type"⟩, some ⟨"a1"⟩, some ⟨"getURL"⟩] := by
    decide +kernel
  cases h : derive "struct S \x7b r#type: bool, __a_1_: u8, get_URL: [u8; 2] \x7d" with
  | error e => rw [h] at hvalues; cases hvalues
  | ok r =>
    obtain ⟨d, hd, hall⟩ := getters_read_camelCase h
    rw [hd] at hnames
    rw [h] at hvalues
    exact ⟨r, d, rfl, hd, hall, Option.some.inj hnames, Option.some.inj hvalues⟩

end Accessors.Getters
