import Accessors.Getters.Derivation
import Accessors.Proofs.Declaration.Leaves
import Accessors.Proofs.Declaration.Undecorated
import Accessors.Proofs.FirstError

/-!
# Which declarations have getters

A declaration has no getters if it is not a structure with named fields, or if one of its fields has a
`getter` attribute that is malformed. Fields, their attributes and what an attribute says are gone
through in three loops, each of which ends at the first error.

* `SkipList`, `FaultIn`: what an attribute may say, and the first fault if it says something else.
* `Malformed`: the attributes that are at fault.
* `attributesSkip_eq_error`, `gettersOf_eq_error`: the loops end with the first error.
* `derive_verdict`: whether a declaration has getters, and why it has none.
-/

namespace Accessors.Getters

open Accessors.Token
open Accessors.Grammar
open Accessors.Declaration

/-! ## What an attribute says -/

theorem isWord_singleton {name : String} {t : Tree} : isWord name [t] = true ↔ t = word name := by
  cases t with
  | group d body => simp [isWord, word]
  | leaf l =>
    cases l with
    | ident i => cases i; simp [isWord, word, and_comm]
    | _ => simp [isWord, word]

/-- The word `skip` any number of times, each time with a comma behind it. -/
inductive Listed : List Tree → Prop
  | nil : Listed []
  | cons (joint : Bool) {rest : List Tree} (h : Listed rest) :
      Listed (word "skip" :: .leaf (.punct ',' joint) :: rest)

/-- What a `getter` attribute may have between its delimiters; the last comma is optional. -/
def SkipList (ts : List Tree) : Prop :=
  ∃ items, Listed items ∧ (ts = items ∨ ts = items ++ [word "skip"])

/-- The trees begin with an item at fault, or with an item that no comma follows. -/
inductive FaultAt : List Tree → SkipError → Prop
  | item {t : Tree} {rest : List Tree} (h : t ≠ word "skip" ∨ isPunct "::" rest = true) :
      FaultAt (t :: rest) (itemFault (t :: rest))
  | noComma {t : Tree} {rest : List Tree} (hpath : isPunct "::" (t :: rest) = false)
      (hcomma : ∀ joint, t ≠ .leaf (.punct ',' joint)) : FaultAt (word "skip" :: t :: rest) .noComma

/-- Items in front do not matter. -/
theorem checkSkips_append {items : List Tree} (h : Listed items) (rest : List Tree) :
    checkSkips (items ++ rest) = checkSkips rest := by
  induction h with
  | nil => rfl
  | cons joint _ ih =>
    have hskip : isWord "skip" [word "skip"] = true := rfl
    have hcomma : isPunct "," [.leaf (.punct ',' joint)] = true := rfl
    have hpath (ts : List Tree) : isPunct "::" (.leaf (.punct ',' joint) :: ts) = false := rfl
    rw [List.cons_append, List.cons_append, checkSkips]
    simp only [hskip, hpath, hcomma, Bool.not_false, Bool.and_self, if_true, ih]

theorem checkSkips_of_faultAt {ts : List Tree} {e : SkipError} (h : FaultAt ts e) :
    checkSkips ts = .error e := by
  cases h with
  | @item t rest h =>
    have hnot : (isWord "skip" [t] && !isPunct "::" rest) = false := by
      rcases h with h | h
      · simp [mt isWord_singleton.1 h]
      · simp [h]
    rw [checkSkips.eq_def]
    simp only [hnot, Bool.false_eq_true, if_false]
  | @noComma t rest hpath hcomma =>
    have hskip : isWord "skip" [word "skip"] = true := rfl
    have hnot : isPunct "," [t] = false := by
      rw [← Bool.not_eq_true]
      intro h
      obtain ⟨joint, ht⟩ := (isPunctChars_singleton (c := ',')).1 h
      exact hcomma joint ht
    rw [checkSkips]
    simp [hskip, hpath, hnot]

/-- **What an attribute may say, or else where it is at fault**: behind the items in front. -/
theorem checkSkips_cases (ts : List Tree) : SkipList ts ∨
    ∃ items rest e, Listed items ∧ ts = items ++ rest ∧ FaultAt rest e := by
  fun_induction checkSkips ts with
  | case1 => exact .inl ⟨[], .nil, .inl rfl⟩
  | case2 t h =>
    simp only [Bool.and_eq_true, isWord_singleton] at h
    exact .inl ⟨[], .nil, .inr (by rw [h.1]; rfl)⟩
  | case3 t comma rest hcomma h ih =>
    simp only [Bool.and_eq_true, isWord_singleton] at h
    obtain ⟨joint, rfl⟩ := (isPunctChars_singleton (c := ',')).1 hcomma
    obtain rfl := h.1
    rcases ih with ⟨items, hitems, hrest⟩ | ⟨items, others, e, hitems, rfl, hfault⟩
    · refine .inl ⟨_, .cons joint hitems, ?_⟩
      rcases hrest with rfl | rfl
      · exact .inl rfl
      · exact .inr rfl
    · exact .inr ⟨_, others, e, .cons joint hitems, rfl, hfault⟩
  | case4 t comma rest hcomma h =>
    simp only [Bool.and_eq_true, isWord_singleton, Bool.not_eq_true'] at h
    obtain rfl := h.1
    refine .inr ⟨[], _, _, .nil, rfl, .noComma h.2 ?_⟩
    rintro joint rfl
    exact hcomma rfl
  | case5 t rest h =>
    refine .inr ⟨[], _, _, .nil, rfl, .item ?_⟩
    by_contra hnot
    push Not at hnot
    refine h ?_
    simp [isWord_singleton.2 hnot.1, hnot.2]

theorem checkSkips_of_skipList {ts : List Tree} (h : SkipList ts) : checkSkips ts = .ok () := by
  obtain ⟨items, hitems, rfl | rfl⟩ := h
  · have hend := checkSkips_append hitems []
    rwa [List.append_nil] at hend
  · rw [checkSkips_append hitems]
    rfl

/-- What stands behind the path of a `getter` attribute is as it may be. -/
def SkipInput : AttributeInput → Prop
  | .group _ body => SkipList body
  | _ => False

/-- What is wrong with what stands behind the path of a `getter` attribute: of several faults between
the delimiters, the first one. -/
inductive FaultIn : AttributeInput → SkipError → Prop
  | nothing : FaultIn .nothing .noArguments
  | value (trees : List Tree) : FaultIn (.value trees) .hasValue
  | group (d : Delimiter) {items rest : List Tree} {e : SkipError} (hitems : Listed items)
      (hfault : FaultAt rest e) : FaultIn (.group d (items ++ rest)) e

theorem inputSkips_of_skipInput {input : AttributeInput} (h : SkipInput input) :
    ∃ skipped, inputSkips input = .ok skipped := by
  cases input with
  | nothing => cases h
  | value trees => cases h
  | group d body => exact ⟨_, by rw [inputSkips, checkSkips_of_skipList h]; rfl⟩

theorem inputSkips_of_faultIn {input : AttributeInput} {e : SkipError} (h : FaultIn input e) :
    inputSkips input = .error e := by
  cases h with
  | nothing => rfl
  | value trees => rfl
  | group d hitems hfault =>
    rw [inputSkips, checkSkips_append hitems, checkSkips_of_faultAt hfault]
    rfl

theorem skipInput_or_faultIn (input : AttributeInput) :
    SkipInput input ∨ ∃ e, FaultIn input e := by
  cases input with
  | nothing => exact .inr ⟨_, .nothing⟩
  | value trees => exact .inr ⟨_, .value trees⟩
  | group d body =>
    rcases checkSkips_cases body with h | ⟨items, rest, e, hitems, rfl, hfault⟩
    · exact .inl h
    · exact .inr ⟨e, .group d hitems hfault⟩

theorem inputSkips_eq_error {input : AttributeInput} {e : SkipError} :
    inputSkips input = .error e ↔ FaultIn input e := by
  refine ⟨fun h => ?_, inputSkips_of_faultIn⟩
  rcases skipInput_or_faultIn input with hwell | ⟨e', hfault⟩
  · obtain ⟨skipped, hok⟩ := inputSkips_of_skipInput hwell
    rw [hok] at h
    cases h
  · rw [inputSkips_of_faultIn hfault] at h
    cases h
    exact hfault

/-! ## The first error -/

/-- Whether an attribute leaves its field out, or what is wrong with it. -/
def attributeSkips (a : Attribute) : Except SkipError Bool :=
  if a.isNamed "getter" then inputSkips a.input else .ok false

theorem attributesSkip_cons (a : Attribute) (rest : List Attribute) :
    attributesSkip (a :: rest) = (do
      let here ← attributeSkips a
      let later ← attributesSkip rest
      return here || later) := by
  rw [attributesSkip, attributeSkips]
  split
  · rfl
  · cases attributesSkip rest <;> rfl

/-- **The attributes of a field end with the first error**, whatever they say before it. -/
theorem attributesSkip_eq_error {attributes : List Attribute} {e : SkipError} :
    attributesSkip attributes = .error e ↔ FirstError attributeSkips attributes e := by
  induction attributes with
  | nil => exact iff_of_false nofun firstError_nil
  | cons a rest ih =>
    rw [attributesSkip_cons, firstError_cons, ← ih]
    cases attributeSkips a with
    | error e' => simp [bind, Except.bind]
    | ok here => cases attributesSkip rest <;> simp [bind, Except.bind, pure, Except.pure]

/-- **The fields of a structure end with the first error**, whether they are left out or not. -/
theorem gettersOf_eq_error {fs : List Field} {e : SkipError} :
    gettersOf fs = .error e ↔ FirstError isSkipped fs e := by
  induction fs with
  | nil => exact iff_of_false nofun firstError_nil
  | cons f rest ih =>
    rw [gettersOf, firstError_cons, ← ih]
    cases isSkipped f with
    | error e' => simp [bind, Except.bind]
    | ok skipped => cases gettersOf rest <;> simp [bind, Except.bind, pure, Except.pure]

/-! ## Malformed attributes -/

/-- The attribute has the name `getter` for its whole path, and is not as such an attribute may be. -/
structure Malformed (a : Attribute) : Prop where
  path : a.path = [word "getter"]
  input : ¬ SkipInput a.input

theorem isNamed_iff {name : String} {a : Attribute} :
    a.isNamed name = true ↔ a.path = [word name] := by
  unfold Attribute.isNamed
  split
  · next t ht => rw [ht, isWord_singleton, List.singleton_inj]
  · next hne => exact iff_of_false nofun fun h => hne _ h

theorem attributeSkips_eq_error {a : Attribute} {e : SkipError} :
    attributeSkips a = .error e ↔ a.path = [word "getter"] ∧ FaultIn a.input e := by
  rw [attributeSkips, ← isNamed_iff, ← inputSkips_eq_error]
  split <;> simp [*]

theorem exists_error_iff_malformed {a : Attribute} :
    (∃ e, attributeSkips a = .error e) ↔ Malformed a := by
  simp only [attributeSkips_eq_error, exists_and_left]
  constructor
  · rintro ⟨hpath, e, hfault⟩
    refine ⟨hpath, fun hwell => ?_⟩
    obtain ⟨skipped, hok⟩ := inputSkips_of_skipInput hwell
    rw [inputSkips_of_faultIn hfault] at hok
    cases hok
  · rintro ⟨hpath, hnot⟩
    exact ⟨hpath, (skipInput_or_faultIn a.input).resolve_left hnot⟩

theorem exists_error_iff_exists_malformed {f : Field} :
    (∃ e, isSkipped f = .error e) ↔ ∃ a ∈ f.attributes, Malformed a := by
  simp only [isSkipped, attributesSkip_eq_error, exists_firstError, exists_error_iff_malformed]

/-- The fault of the first malformed attribute, in the order of the fields and of each field's
attributes. What follows that attribute can be anything. -/
def FirstFault (fs : List Field) (e : SkipError) : Prop :=
  ∃ before f after earlier a later,
    fs = before ++ f :: after ∧ f.attributes = earlier ++ a :: later ∧
    (∀ g ∈ before, ∀ b ∈ g.attributes, ¬ Malformed b) ∧ (∀ b ∈ earlier, ¬ Malformed b) ∧
    a.path = [word "getter"] ∧ FaultIn a.input e

theorem firstError_iff_firstFault {fs : List Field} {e : SkipError} :
    FirstError isSkipped fs e ↔ FirstFault fs e := by
  have hfield (g : Field) : (∃ skipped, isSkipped g = .ok skipped) ↔
      ∀ b ∈ g.attributes, ¬ Malformed b := by
    rw [exists_ok_iff, exists_error_iff_exists_malformed]
    push Not
    rfl
  have hattribute (b : Attribute) : (∃ skipped, attributeSkips b = .ok skipped) ↔ ¬ Malformed b := by
    rw [exists_ok_iff, exists_error_iff_malformed]
  unfold FirstError FirstFault
  simp only [hfield]
  simp only [isSkipped, attributesSkip_eq_error, FirstError, hattribute, attributeSkips_eq_error]
  constructor
  · rintro ⟨before, f, after, hfs, hbefore, earlier, a, later, hattrs, hearlier, ha⟩
    exact ⟨before, f, after, earlier, a, later, hfs, hattrs, hbefore, hearlier, ha⟩
  · rintro ⟨before, f, after, earlier, a, later, hfs, hattrs, hbefore, hearlier, ha⟩
    exact ⟨before, f, after, hfs, hbefore, earlier, a, later, hattrs, hearlier, ha⟩

/-! ## The verdict -/

theorem exists_firstFault {fs : List Field} :
    (∃ e, FirstFault fs e) ↔ ∃ f ∈ fs, ∃ a ∈ f.attributes, Malformed a := by
  simp only [← firstError_iff_firstFault, exists_firstError, exists_error_iff_exists_malformed]

/-- What a declaration is comes before what its attributes say. -/
theorem plan_eq_error {d : Accessors.Declaration} {reason : DeriveError} :
    plan d = .error reason ↔
      (d.body = .cases ∨ d.body = .union) ∧ reason = .notStructure ∨
      (d.body = .tuple ∨ d.body = .unit) ∧ reason = .notNamed ∨
      ∃ e, FirstFault d.fields e ∧ reason = .fault e := by
  simp only [← firstError_iff_firstFault, ← gettersOf_eq_error]
  unfold plan fields
  cases d.body with
  | named fs =>
    simp only [reduceCtorEq, or_self, false_and, false_or]
    cases gettersOf fs <;> simp [eq_comm]
  | _ => simp [gettersOf, eq_comm]

theorem exists_declaration {source : String} {reason : DeriveError}
    (h : derive source = .error (.derive reason)) : ∃ d, Declaration.ofText? source = some d := by
  unfold derive at h
  split at h
  · cases h
  · next d hd => exact ⟨d, hd⟩

theorem derive_eq_error {source : String} {d : Accessors.Declaration}
    (h : Declaration.ofText? source = some d) {e : SourceError} :
    derive source = .error e ↔ ∃ reason, plan d = .error reason ∧ e = .derive reason := by
  unfold derive
  rw [h]
  simp only
  cases plan d <;> simp [eq_comm]

/-- When a text that is the declaration `d` has no getters, and why. -/
structure Verdict (source : String) (d : Accessors.Declaration) : Prop where
  fails : (∃ e, derive source = .error e) ↔
    (d.body = .cases ∨ d.body = .union) ∨ (d.body = .tuple ∨ d.body = .unit) ∨
      ∃ f ∈ d.fields, ∃ a ∈ f.attributes, Malformed a
  /-- What the declaration is comes before what its attributes say. -/
  notStructure : derive source = .error (.derive .notStructure) ↔ d.body = .cases ∨ d.body = .union
  notNamed : derive source = .error (.derive .notNamed) ↔ d.body = .tuple ∨ d.body = .unit
  fault : ∀ e, derive source = .error (.derive (.fault e)) ↔ FirstFault d.fields e
  /-- Attributes in front of the declaration do not matter. -/
  undecorated : ∀ other d', Declaration.ofText? other = some d' →
    (Tree.ofText other.toList).map behindAttributes =
      (Tree.ofText source.toList).map behindAttributes → derive other = derive source

/-- **Which declarations have no getters, and why.** -/
theorem derive_verdict {source : String} {d : Accessors.Declaration}
    (h : Declaration.ofText? source = some d) : Verdict source d where
  fails := by
    rw [← exists_firstFault]
    simp only [derive_eq_error h, plan_eq_error]
    constructor
    · rintro ⟨-, reason, ⟨hbody, -⟩ | ⟨hbody, -⟩ | ⟨e, he, -⟩, -⟩
      · exact .inl hbody
      · exact .inr (.inl hbody)
      · exact .inr (.inr ⟨e, he⟩)
    · rintro (hbody | hbody | ⟨e, he⟩)
      · exact ⟨_, _, .inl ⟨hbody, rfl⟩, rfl⟩
      · exact ⟨_, _, .inr (.inl ⟨hbody, rfl⟩), rfl⟩
      · exact ⟨_, _, .inr (.inr ⟨e, he, rfl⟩), rfl⟩
  notStructure := by simp [derive_eq_error h, plan_eq_error]
  notNamed := by simp [derive_eq_error h, plan_eq_error]
  fault e := by simp [derive_eq_error h, plan_eq_error]
  undecorated other d' hother hbehind := by
    rw [derive, derive, h, hother, ofText_eq_of_behind hbehind hother h]

/-- A field is left out, and the fault of its next attribute is still what is told. The attribute of
the structure, those with other paths and the fault behind it do not matter. -/
theorem derive_verdict_masked :
    ∃ source d, source =
        "#[getter] struct S \x7b #[getter::x] #[r#getter] #[getter(skip)] #[getter(y)] #[getter] a: u8 \x7d" ∧
      Declaration.ofText? source = some d ∧ Verdict source d ∧
      derive source = .error (.derive (.fault .unknown)) := by
  have herror : (match derive
        "#[getter] struct S \x7b #[getter::x] #[r#getter] #[getter(skip)] #[getter(y)] #[getter] a: u8 \x7d" with
      | .error e => some e
      | .ok _ => none) = some (.derive (.fault .unknown)) := by
    decide +kernel
  split at herror
  · next e he =>
    cases herror
    obtain ⟨d, hd⟩ := exists_declaration he
    exact ⟨_, d, rfl, hd, derive_verdict hd, he⟩
  · cases herror

end Accessors.Getters
