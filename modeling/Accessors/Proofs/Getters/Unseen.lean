import Accessors.Proofs.Declaration.Fields
import Accessors.Proofs.Declaration.Headers
import Accessors.Proofs.Getters.Kept
import Accessors.Proofs.Getters.Verdict

/-!
# What getters do not show

Two texts can differ in much and have the same getters: fields that are left out may come and go,
and attributes, visibility and documentation are never looked at.

* `saysSkip`, `shownFields`: which fields are shown, by what their attributes say.
* `surface`: what is shown of a declaration.
* `derive_unseen`: declarations with the same surface have the same getters, word by word.
-/

namespace Accessors.Getters

open Accessors.Token
open Accessors.Grammar
open Accessors.Declaration

/-! ## Fields that are shown -/

/-- The attribute is one of `getter`, and says `skip`. -/
def saysSkip (a : Attribute) : Bool :=
  a.isNamed "getter" &&
    match a.input with
    | .group _ body => body.any fun t => isWord "skip" [t]
    | _ => false

/-- The fields that no attribute leaves out, in order. -/
def shownFields (d : Accessors.Declaration) : List Field :=
  d.fields.filter fun f => !f.attributes.any saysSkip

/-- A list of skips is empty, or says `skip` somewhere. -/
theorem any_of_skipList {ts : List Tree} (h : SkipList ts) :
    (ts.any fun t => isWord "skip" [t]) = !ts.isEmpty := by
  have hword : isWord "skip" [word "skip"] = true := rfl
  obtain ⟨items, hitems, rfl | rfl⟩ := h
  · cases hitems with
    | nil => rfl
    | cons joint hrest => simp [hword]
  · simp [hword]

theorem attributeSkips_eq_ok {a : Attribute} (h : ¬ Malformed a) :
    attributeSkips a = .ok (saysSkip a) := by
  unfold attributeSkips saysSkip
  cases hnamed : a.isNamed "getter" with
  | false => rfl
  | true =>
    have hinput : SkipInput a.input := by
      by_contra hnot
      exact h ⟨isNamed_iff.1 hnamed, hnot⟩
    cases hgroup : a.input with
    | nothing => rw [hgroup] at hinput; cases hinput
    | value trees => rw [hgroup] at hinput; cases hinput
    | group d body =>
      rw [hgroup] at hinput
      simp only [if_true, Bool.true_and, inputSkips, checkSkips_of_skipList hinput,
        any_of_skipList hinput]
      rfl

theorem attributesSkip_eq_ok {attributes : List Attribute} (h : ∀ a ∈ attributes, ¬ Malformed a) :
    attributesSkip attributes = .ok (attributes.any saysSkip) := by
  induction attributes with
  | nil => rfl
  | cons a rest ih =>
    rw [List.forall_mem_cons] at h
    rw [attributesSkip_cons, attributeSkips_eq_ok h.1, ih h.2, List.any_cons]
    rfl

/-- The declaration is a structure with named fields, and no `getter` attribute of its fields is
malformed. -/
structure Derivable (d : Accessors.Declaration) : Prop where
  named : ∃ fs, d.body = .named fs
  wellFormed : ∀ f ∈ d.fields, ∀ a ∈ f.attributes, ¬ Malformed a

theorem derivable_iff {d : Accessors.Declaration} :
    Derivable d ↔ ∃ getters, plan d = .ok getters := by
  rw [exists_ok_iff]
  simp only [plan_eq_error]
  constructor
  · rintro ⟨⟨fs, hfs⟩, hwell⟩ ⟨reason, ⟨hbody, -⟩ | ⟨hbody, -⟩ | ⟨fault, hfault, -⟩⟩
    · simp [hfs] at hbody
    · simp [hfs] at hbody
    · obtain ⟨f, hf, a, ha, hmalformed⟩ := exists_firstFault.1 ⟨fault, hfault⟩
      exact hwell f hf a ha hmalformed
  · intro hno
    constructor
    · cases hbody : d.body with
      | named fs => exact ⟨fs, rfl⟩
      | _ => exact absurd (by simp [hbody]) hno
    · intro f hf a ha hmalformed
      obtain ⟨fault, hfault⟩ := exists_firstFault.2 ⟨f, hf, a, ha, hmalformed⟩
      exact hno ⟨_, .inr (.inr ⟨fault, hfault, rfl⟩)⟩

/-- The kept fields are those that no attribute leaves out. -/
theorem keptFields_eq {d : Accessors.Declaration} (h : Derivable d) :
    keptFields d = shownFields d := by
  refine List.filter_congr fun f hf => ?_
  have hskipped : isSkipped f = .ok (f.attributes.any saysSkip) :=
    attributesSkip_eq_ok (h.wellFormed f hf)
  rw [isKept, hskipped]

/-- The getters of such a declaration are those of the fields that are shown. -/
theorem derive_of_derivable {source : String} {d : Accessors.Declaration}
    (hd : Declaration.ofText? source = some d) (h : Derivable d) :
    derive source = .ok ⟨accessorsOf d ((shownFields d).map Getter.ofField),
      code d ((shownFields d).map Getter.ofField)⟩ := by
  obtain ⟨getters, hplan⟩ := derivable_iff.1 h
  have hr : derive source = .ok ⟨accessorsOf d getters, code d getters⟩ := by
    unfold derive
    rw [hd]
    simp only [hplan]
  -- Which getters these are is known of every result.
  obtain ⟨d', hd', -, -, hkept⟩ := derive_eq_ok hr
  rw [hd] at hd'
  cases hd'
  rw [hr, hkept, keptFields_eq h]

/-! ## What is shown of a field -/

/-- What is shown of a field: its name as it is written and the trees of its type. The spacing
behind the type belongs to what follows the field. -/
def fieldSurface (f : Field) : Ident × List Tree := (f.name, endAlone f.type.trees)

theorem isTruthValue_iff {f : Field} :
    f.isTruthValue = true ↔ endAlone f.type.trees = [word "bool"] := by
  unfold Field.isTruthValue
  split
  · next t ht =>
    have halone : isWord "bool" [t] = isWord "bool" [t.alone] := by
      cases t with
      | leaf l => cases l <;> rfl
      | group d body => rfl
    rw [ht, endAlone_singleton, halone, isWord_singleton, List.singleton_inj]
  · next hne =>
    -- The type does not have one tree, and it does not have one without the spacing.
    refine iff_of_false nofun fun h => ?_
    have hlength := congrArg List.length h
    rw [length_endAlone] at hlength
    obtain ⟨t, ht⟩ := List.length_eq_one_iff.1 hlength
    exact hne t ht

/-- What a getter says, by the words of its type. -/
def Getter.spoken (g : Getter) : Ident × List String × Bool × String :=
  (g.field, wordsOf g.type, g.truthValue, g.method)

/-- What is shown of a field determines what its getter says. -/
theorem spoken_of_surface {source other : String} {d e : Accessors.Declaration}
    (hd : Declaration.ofText? source = some d) (he : Declaration.ofText? other = some e)
    {f g : Field} (hf : f ∈ d.fields) (hg : g ∈ e.fields) (h : fieldSurface f = fieldSurface g) :
    (Getter.ofField f).spoken = (Getter.ofField g).spoken := by
  obtain ⟨hname, htrees⟩ := Prod.mk.inj h
  have hwords := wordsOf_type_unique hd he hf hg hname htrees
  have htruth : f.isTruthValue = g.isTruthValue := by
    rw [Bool.eq_iff_iff, isTruthValue_iff, isTruthValue_iff, htrees]
  simp only [Getter.spoken, Getter.ofField, hname, hwords, htruth]

theorem wordsOf_trees_of_spoken {g g' : Getter} (h : g.spoken = g'.spoken) :
    wordsOf g.trees = wordsOf g'.trees := by
  simp only [Getter.spoken, Prod.mk.injEq] at h
  obtain ⟨hfield, htype, htruth, hmethod⟩ := h
  unfold Getter.trees
  simp only [hfield, htruth, hmethod]
  split <;> simp [htype]

variable {gs gs' : List Getter}

theorem wordsOf_methods (h : gs.map Getter.spoken = gs'.map Getter.spoken) :
    wordsOf (methods gs) = wordsOf (methods gs') := by
  induction gs generalizing gs' with
  | nil =>
    rw [List.map_nil, eq_comm, List.map_eq_nil_iff] at h
    rw [h]
  | cons g gs ih =>
    cases gs' with
    | nil => cases h
    | cons g' gs' =>
      rw [List.map_cons, List.map_cons, List.cons.injEq] at h
      simp only [methods, List.flatMap_cons, wordsOf_append] at ih ⊢
      rw [wordsOf_trees_of_spoken h.1, ih h.2]

theorem accessors_of_spoken (owner : String) (h : gs.map Getter.spoken = gs'.map Getter.spoken) :
    gs.map (·.accessor owner) = gs'.map (·.accessor owner) := by
  have hread (gs : List Getter) : gs.map (·.accessor owner) =
      (gs.map Getter.spoken).map fun s => ⟨owner, s.2.2.2⟩ := by
    rw [List.map_map]
    rfl
  rw [hread, hread, h]

/-! ## Two declarations -/

/-- What is shown of a declaration. -/
structure Surface where
  name : Ident
  parameters : List ParameterWords
  conditions : List String
  /-- The fields that no attribute leaves out. -/
  fields : List (Ident × List Tree)
  deriving DecidableEq

/-- What is shown of a declaration: its name, its parameters and the conditions on them, and the
fields that no attribute leaves out. -/
def surface (d : Accessors.Declaration) : Surface :=
  ⟨d.name, d.parameters.map Parameter.spoken, wordsOf d.conditions,
    (shownFields d).map fieldSurface⟩

/-- Lists that agree in one respect agree in another one that follows from it. -/
theorem map_eq_map_of_imp {α β γ : Type} {f : α → β} {g : α → γ} {l l' : List α}
    (h : ∀ x ∈ l, ∀ y ∈ l', f x = f y → g x = g y) (he : l.map f = l'.map f) :
    l.map g = l'.map g := by
  induction l generalizing l' with
  | nil =>
    rw [List.map_nil, eq_comm, List.map_eq_nil_iff] at he
    rw [he]
  | cons x l ih =>
    cases l' with
    | nil => cases he
    | cons y l' =>
      rw [List.map_cons, List.map_cons, List.cons.injEq] at he
      have hrest := ih
        (fun a ha b hb => h a (List.mem_cons_of_mem x ha) b (List.mem_cons_of_mem y hb)) he.2
      rw [List.map_cons, List.map_cons, h x (by simp) y (by simp) he.1, hrest]

theorem wordsOf_code {d e : Accessors.Declaration} (h : surface d = surface e)
    (hgetters : gs.map Getter.spoken = gs'.map Getter.spoken) :
    wordsOf (code d gs) = wordsOf (code e gs') := by
  simp only [surface, Surface.mk.injEq] at h
  obtain ⟨hname, hparameters, hconditions, -⟩ := h
  have himpl := wordsOf_implHeader hparameters
  have htype := wordsOf_typeHeader hparameters
  have hmethods := wordsOf_methods hgetters
  have haccessors : accessorsOf d gs = accessorsOf e gs' := by
    rw [accessorsOf, accessorsOf, hname]
    exact accessors_of_spoken e.name.name hgetters
  simp [code, inherentImpl, listingImpl, braces, Tree.words, hname, himpl, htype, hconditions,
    hmethods, haccessors]

/-- **What is not shown makes no difference.** Texts that agree in what is shown have the same
accessors and the same code, however they differ in attributes, visibility and documentation, and in
the fields that are left out: how many there are, where they stand, and all that they say. -/
theorem derive_unseen {source other : String} {d e : Accessors.Declaration}
    (hd : Declaration.ofText? source = some d) (he : Declaration.ofText? other = some e)
    (hderivable : Derivable d) (hderivable' : Derivable e) (h : surface d = surface e) :
    ∃ r s, derive source = .ok r ∧ derive other = .ok s ∧ r.accessors = s.accessors ∧
      r.properties = s.properties ∧ r.text = s.text := by
  have hfields : (shownFields d).map fieldSurface = (shownFields e).map fieldSurface :=
    congrArg Surface.fields h
  have hname : d.name = e.name := congrArg Surface.name h
  -- The shown fields agree one by one, and so do their getters.
  have hspoken : ((shownFields d).map Getter.ofField).map Getter.spoken =
      ((shownFields e).map Getter.ofField).map Getter.spoken := by
    rw [List.map_map, List.map_map]
    refine map_eq_map_of_imp (fun f hf g hg hsurface => ?_) hfields
    exact spoken_of_surface hd he (List.mem_of_mem_filter hf) (List.mem_of_mem_filter hg) hsurface
  have haccessors : accessorsOf d ((shownFields d).map Getter.ofField) =
      accessorsOf e ((shownFields e).map Getter.ofField) := by
    rw [accessorsOf, accessorsOf, hname]
    exact accessors_of_spoken e.name.name hspoken
  have hcode := wordsOf_code h hspoken
  refine ⟨_, _, derive_of_derivable hd hderivable, derive_of_derivable he hderivable', haccessors,
    ?_, ?_⟩
  · simp only [Derivation.properties, haccessors]
  · simp only [Derivation.text, hcode]

/-- The one text begins with a secret. The other one ends with it, and differs in visibility, in
attributes and in the spacing behind the last type that is shown. -/
theorem derive_unseen_secret :
    ∃ r s, derive "struct S<T> \x7b #[getter(skip)] k: u8, v: V<T> \x7d" = .ok r ∧
      derive "pub struct S<T> \x7b #[getter()] #[d] pub v: V<T>, #[getter(skip)] m: () \x7d" = .ok s ∧
      r.accessors = s.accessors ∧ r.properties = s.properties ∧ r.text = s.text := by
  have hread (d : Accessors.Declaration) (shown : Surface)
      (h : (surface d, (plan d).toOption.isSome) = (shown, true)) :
      surface d = shown ∧ Derivable d := by
    obtain ⟨hsurface, hplan⟩ := Prod.mk.inj h
    refine ⟨hsurface, derivable_iff.2 ?_⟩
    cases hp : plan d with
    | error e => rw [hp] at hplan; cases hplan
    | ok getters => exact ⟨getters, rfl⟩
  -- The texts are read by evaluation, and show the same.
  have hfirst : (Declaration.ofText? "struct S<T> \x7b #[getter(skip)] k: u8, v: V<T> \x7d").map
      (fun d => (surface d, (plan d).toOption.isSome)) =
      some (⟨⟨"S", false⟩, [⟨.type, [], ⟨"T", false⟩, [], false⟩], [],
        [(⟨"v", false⟩, word "V" :: operator ['<'] ++ word "T" :: operator ['>'])]⟩, true) := by
    decide +kernel
  have hsecond : (Declaration.ofText?
      "pub struct S<T> \x7b #[getter()] #[d] pub v: V<T>, #[getter(skip)] m: () \x7d").map
      (fun d => (surface d, (plan d).toOption.isSome)) =
      some (⟨⟨"S", false⟩, [⟨.type, [], ⟨"T", false⟩, [], false⟩], [],
        [(⟨"v", false⟩, word "V" :: operator ['<'] ++ word "T" :: operator ['>'])]⟩, true) := by
    decide +kernel
  obtain ⟨d, hd, h⟩ := Option.map_eq_some_iff.1 hfirst
  obtain ⟨e, he, h'⟩ := Option.map_eq_some_iff.1 hsecond
  obtain ⟨hshown, hderivable⟩ := hread d _ h
  obtain ⟨hshown', hderivable'⟩ := hread e _ h'
  exact derive_unseen hd he hderivable hderivable' (hshown.trans hshown'.symm)

end Accessors.Getters
