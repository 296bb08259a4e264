import Accessors.Proofs.Getters.Kept
import Accessors.Proofs.Getters.Words

/-!
# Getters that are known by their names

A resolver knows an accessor if its method's name is made of letters, numbers and underscores. Names of
fields are less restricted: they may have marks and other connecting characters, and a letter at the
beginning of a word may have an upper case that ends in a mark.

* `Identifiable`: the names of fields whose getters are known.
* `isMethodName_methodName`: these names, and no others.
* `getters_known_by_name`: a resolver knows exactly the accessors of these fields.
-/

namespace Accessors.Getters

open Accessors.Declaration
open Accessors.Text

/-- The word begins with a letter whose upper case ends in a mark that stands alone. -/
def beginsMarked (w : List Char) : Bool := w.head?.any fun c => markedInUpperCase.contains c.toNat

/-- A name with letters, numbers and underscores only, none of whose words begins with a letter that
gets a mark of its own in upper case. -/
structure Identifiable (s : List Char) : Prop where
  alphanumeric : ∀ c ∈ s, c = '_' ∨ isAlphanumeric c = true
  unmarked : ∀ w ∈ words s, beginsMarked w = false

instance (s : List Char) : Decidable (Identifiable s) :=
  decidable_of_iff
    (s.all (fun c => c == '_' || isAlphanumeric c) && (words s).all (fun w => !beginsMarked w)) (by
      simp only [Bool.and_eq_true, List.all_eq_true, Bool.or_eq_true, beq_iff_eq, Bool.not_eq_true']
      exact ⟨fun h => ⟨h.1, h.2⟩, fun h => ⟨h.1, h.2⟩⟩)

theorem all_isAlphanumeric_capitalize (w : List Char) :
    (capitalize w).all isAlphanumeric = (w.all isAlphanumeric && !beginsMarked w) := by
  cases w with
  | nil => rfl
  | cons c rest =>
    rw [capitalize, List.all_append, all_isAlphanumeric_toUpper, List.all_cons]
    simp only [beginsMarked, List.head?_cons, Option.any_some]
    cases isAlphanumeric c <;> simp [Bool.and_comm]

theorem alphanumeric_upperCamelCase_iff (s : List Char) :
    (∀ c ∈ upperCamelCase s, isAlphanumeric c = true) ↔ Identifiable s := by
  have hword (w : List Char) : (∀ c ∈ capitalize w, isAlphanumeric c = true) ↔
      (∀ c ∈ w, isAlphanumeric c = true) ∧ beginsMarked w = false := by
    rw [← List.all_eq_true, all_isAlphanumeric_capitalize, Bool.and_eq_true, List.all_eq_true,
      Bool.not_eq_true']
  have hall : (∀ c ∈ upperCamelCase s, isAlphanumeric c = true) ↔
      ∀ w ∈ words s, (∀ c ∈ w, isAlphanumeric c = true) ∧ beginsMarked w = false := by
    simp only [upperCamelCase, List.forall_mem_flatMap, hword]
  rw [hall, forall₂_and, forall_mem_words]
  exact ⟨fun h => ⟨h.1, h.2⟩, fun h => ⟨h.1, h.2⟩⟩

/-- **A getter has the name of a method exactly if its field's name is identifiable.** -/
theorem isMethodName_methodName (truthValue : Bool) (s : List Char) :
    Property.isMethodName (methodName truthValue s) = true ↔ Identifiable s := by
  rw [methodName, isMethodName_mark_iff, ← alphanumeric_upperCamelCase_iff]
  refine forall₂_congr fun c hc => ?_
  have hne : c ≠ '_' := fun h => underscore_notMem_upperCamelCase s (h ▸ hc)
  simp [hne]

/-! ## Getters of a structure -/

/-- The accessor of a field is known exactly if the field's name is identifiable. Otherwise it is an
error to ask for it, which names the accessor's method and type. -/
def KnownByName (d : Accessors.Declaration) (f : Field) (a : Property.Accessor) : Prop :=
  a = accessorOf d f ∧ Property.introspect (.accessor a) =
    if Identifiable f.name.name.toList then .ok a
    else .error (.introspection ("'" ++ a.method ++ "' on " ++ a.owner ++ " is not a method name"))

theorem knownByName_accessorOf (d : Accessors.Declaration) (f : Field) :
    KnownByName d f (accessorOf d f) := by
  have hmethod : (accessorOf d f).method.toList = methodName f.isTruthValue f.name.name.toList := by
    rw [accessorOf, Getter.accessor, Getter.ofField, String.toList_ofList]
  have hiff := isMethodName_methodName f.isTruthValue f.name.name.toList
  rw [← hmethod] at hiff
  unfold KnownByName Property.introspect Property.Callable.identify Property.Accessor.identify
  by_cases hname : Identifiable f.name.name.toList
  · rw [if_pos hname, if_pos (hiff.2 hname)]
    exact ⟨rfl, rfl⟩
  · rw [if_neg hname, if_neg (mt hiff.1 hname)]
    exact ⟨rfl, rfl⟩

/-- **A resolver knows exactly the accessors of fields with identifiable names.** -/
theorem getters_known_by_name {source : String} {r : Derivation} (h : derive source = .ok r) :
    ∃ d, Declaration.ofText? source = some d ∧
      List.Forall₂ (KnownByName d) (keptFields d) r.accessors := by
  obtain ⟨d, hd, -, -, -⟩ := derive_eq_ok h
  refine ⟨d, hd, ?_⟩
  rw [accessors_eq h hd, List.forall₂_map_right_iff, List.forall₂_same]
  exact fun f _ => knownByName_accessorOf d f

/-- A letter with an accent is known, a mark that combines is not, nor is a letter that gets one in
upper case. -/
theorem getters_known_by_name_accented :
    ∃ r d, derive "struct S \x7b \u00e9: u8, x\u0302: u8, \u1e96: bool \x7d" = .ok r ∧
      Declaration.ofText? "struct S \x7b \u00e9: u8, x\u0302: u8, \u1e96: bool \x7d" = some d ∧
      List.Forall₂ (KnownByName d) (keptFields d) r.accessors ∧
      (keptFields d).map (fun f => decide (Identifiable f.name.name.toList)) =
        [true, false, false] ∧
      r.accessors.map (·.method) = ["get\u00c9", "getX\u0302", "isH\u0331"] := by
  have hnames : (Declaration.ofText? "struct S \x7b \u00e9: u8, x\u0302: u8, \u1e96: bool \x7d").map
      (fun d => (keptFields d).map fun f => decide (Identifiable f.name.name.toList)) =
        some [true, false, false] := by
    decide +kernel
  obtain ⟨r, h, hr⟩ := exists_derivation "struct S \x7b \u00e9: u8, x\u0302: u8, \u1e96: bool \x7d"
    [⟨"S", "get\u00c9"⟩, ⟨"S", "getX\u0302"⟩, ⟨"S", "isH\u0331"⟩] (by decide +kernel)
  obtain ⟨d, hd, hall⟩ := getters_known_by_name h
  rw [hd] at hnames
  exact ⟨r, d, h, hd, hall, Option.some.inj hnames, by rw [hr]; rfl⟩

/-- A field's name can have a mark that combines with the letter before it. Its getter is derived, and
a resolver does not take the getter's name for a method's. -/
theorem getter_unknown_by_mark :
    ∃ r a, derive "struct S \x7b x\u0302: u8 \x7d" = .ok r ∧ r.accessors = [a] ∧
      Property.introspect (.accessor a) =
        .error (.introspection "'getX\u0302' on S is not a method name") := by
  obtain ⟨r, h, hr⟩ := exists_derivation "struct S \x7b x\u0302: u8 \x7d"
    [⟨"S", "getX\u0302"⟩] (by decide +kernel)
  exact ⟨r, _, h, hr, by decide +kernel⟩

end Accessors.Getters
