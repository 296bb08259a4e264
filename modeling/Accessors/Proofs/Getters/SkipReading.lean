import Accessors.Proofs.Getters.Kept
import Accessors.Proofs.Getters.SkipItems

/-!
# What a skip attribute may say

A `getter` attribute says nothing, or the bare `skip` any number of times. In the one case its field has
a getter, and in the other it is as good as absent. The attribute is refused if it says anything else,
and the first item that does not fit is told about.

* `SkipSeries`: the bare `skip`, once or more.
* `inputSkips_eq_false`, `inputSkips_eq_true`, `inputSkips_told`: the verdicts on one attribute.
* `gettersOf_append`: the getters of a series of fields, part by part.
* `isSkipped_reads`: what becomes of a field with one `getter` attribute.
-/

namespace Accessors.Getters

open Accessors.Token
open Accessors.Grammar
open Accessors.Declaration

variable {f : Field} {d : Delimiter} {ts body : List Tree} {earlier later : List Attribute}

/-! ## Lists of skips -/

/-- The bare `skip`, once or more, with a comma between each two. -/
inductive Skips : List Tree → Prop
  | one : Skips [word "skip"]
  | next (joint : Bool) {rest : List Tree} (h : Skips rest) :
    Skips (word "skip" :: .leaf (.punct ',' joint) :: rest)

/-- The bare `skip`, once or more, with a comma between each two and perhaps one behind the last. -/
def SkipSeries (ts : List Tree) : Prop :=
  ∃ skips, Skips skips ∧ (ts = skips ∨ ∃ joint, ts = skips ++ [.leaf (.punct ',' joint)])

theorem skipList_nil : SkipList [] := ⟨[], .nil, .inl rfl⟩

theorem SkipList.cons (joint : Bool) (h : SkipList ts) :
    SkipList (word "skip" :: .leaf (.punct ',' joint) :: ts) := by
  obtain ⟨items, hitems, rfl | rfl⟩ := h
  · exact ⟨_, .cons joint hitems, .inl rfl⟩
  · exact ⟨_, .cons joint hitems, .inr rfl⟩

theorem SkipSeries.cons (joint : Bool) (h : SkipSeries ts) :
    SkipSeries (word "skip" :: .leaf (.punct ',' joint) :: ts) := by
  obtain ⟨skips, hskips, rfl | ⟨last, rfl⟩⟩ := h
  · exact ⟨_, .next joint hskips, .inl rfl⟩
  · exact ⟨_, .next joint hskips, .inr ⟨last, rfl⟩⟩

theorem SkipSeries.skipList (h : SkipSeries ts) : SkipList ts := by
  obtain ⟨skips, hskips, hts⟩ := h
  induction hskips generalizing ts with
  | one =>
    rcases hts with rfl | ⟨joint, rfl⟩
    · exact ⟨[], .nil, .inr rfl⟩
    · exact skipList_nil.cons joint
  | next joint _ ih =>
    rcases hts with rfl | ⟨last, rfl⟩
    · exact (ih (.inl rfl)).cons joint
    · exact (ih (.inr ⟨last, rfl⟩)).cons joint

theorem Listed.skipSeries {items : List Tree} (h : Listed items) :
    (items ≠ [] → SkipSeries items) ∧ SkipSeries (items ++ [word "skip"]) := by
  induction h with
  | nil => exact ⟨fun hne => absurd rfl hne, _, .one, .inl rfl⟩
  | @cons joint rest _ ih =>
    refine ⟨fun _ => ?_, ih.2.cons joint⟩
    by_cases hne : rest = []
    · subst hne
      exact ⟨_, .one, .inr ⟨joint, rfl⟩⟩
    · exact (ih.1 hne).cons joint

/-- A list of skips is empty or a series of them. -/
theorem skipList_iff : SkipList ts ↔ ts = [] ∨ SkipSeries ts := by
  constructor
  · rintro ⟨items, hitems, rfl | rfl⟩
    · exact Classical.or_iff_not_imp_left.2 hitems.skipSeries.1
    · exact .inr hitems.skipSeries.2
  · rintro (rfl | h)
    · exact skipList_nil
    · exact h.skipList

theorem SkipSeries.ne_nil (h : SkipSeries ts) : ts ≠ [] := by
  obtain ⟨skips, hskips, rfl | ⟨joint, rfl⟩⟩ := h
  · cases hskips <;> exact List.cons_ne_nil _ _
  · simp

/-! ## Fields -/

/-- Attributes of other names say nothing. -/
theorem attributesSkip_append (h : ∀ a ∈ earlier, a.path ≠ [word "getter"])
    (rest : List Attribute) : attributesSkip (earlier ++ rest) = attributesSkip rest := by
  induction earlier with
  | nil => rfl
  | cons a earlier ih =>
    rw [List.forall_mem_cons] at h
    rw [List.cons_append, attributesSkip, if_neg (mt isNamed_iff.1 h.1), ih h.2]

/-- The field has one `getter` attribute, with these delimiters and this inside. Its other attributes
do not matter. -/
def HasGetter (f : Field) (d : Delimiter) (body : List Tree) : Prop :=
  ∃ earlier later, f.attributes = earlier ++ ⟨[word "getter"], .group d body⟩ :: later ∧
    (∀ a ∈ earlier, a.path ≠ [word "getter"]) ∧ ∀ a ∈ later, a.path ≠ [word "getter"]

/-- One attribute decides about its field. -/
theorem isSkipped_of_hasGetter (h : HasGetter f d body) :
    isSkipped f = inputSkips (.group d body) := by
  obtain ⟨earlier, later, hattributes, hearlier, hlater⟩ := h
  have hrest : attributesSkip later = .ok false := by
    have hend := attributesSkip_append hlater []
    rwa [List.append_nil] at hend
  have hnamed : Attribute.isNamed "getter" ⟨[word "getter"], .group d body⟩ = true := rfl
  rw [isSkipped, hattributes, attributesSkip_append hearlier, attributesSkip, if_pos hnamed, hrest]
  cases inputSkips (.group d body) with
  | error e => rfl
  | ok here => exact congrArg Except.ok (Bool.or_false here)

/-- Without a fault, a field is left out exactly if there is anything inside its attribute. -/
theorem inputSkips_eq_ok {skipped : Bool} :
    inputSkips (.group d body) = .ok skipped ↔ SkipList body ∧ skipped = !body.isEmpty := by
  rcases skipInput_or_faultIn (.group d body) with hlist | ⟨e, hfault⟩
  · have hbody : SkipList body := hlist
    rw [inputSkips, checkSkips_of_skipList hbody]
    exact ⟨fun h => ⟨hbody, (Except.ok.inj h).symm⟩, fun h => congrArg Except.ok h.2.symm⟩
  · rw [inputSkips_of_faultIn hfault]
    constructor
    · intro h
      cases h
    · rintro ⟨hlist, -⟩
      have hinput : SkipInput (.group d body) := hlist
      obtain ⟨skipped, hok⟩ := inputSkips_of_skipInput hinput
      rw [inputSkips_of_faultIn hfault] at hok
      cases hok

theorem inputSkips_eq_false : inputSkips (.group d body) = .ok false ↔ body = [] := by
  rw [inputSkips_eq_ok]
  constructor
  · rintro ⟨-, hempty⟩
    simpa using hempty.symm
  · rintro rfl
    exact ⟨skipList_nil, rfl⟩

theorem inputSkips_eq_true : inputSkips (.group d body) = .ok true ↔ SkipSeries body := by
  rw [inputSkips_eq_ok, skipList_iff]
  constructor
  · rintro ⟨hempty | hseries, hne⟩
    · simp [hempty] at hne
    · exact hseries
  · intro hseries
    exact ⟨.inr hseries, by simp [hseries.ne_nil]⟩

/-- **The first item that does not fit is told about**, whatever the delimiters are. -/
theorem inputSkips_told {text : String} :
    (∃ e, inputSkips (.group d body) = .error e ∧ e.message = text) ↔
      ∃ items rest, Listed items ∧ body = items ++ rest ∧ Told rest text := by
  simp only [inputSkips_eq_error, ← told_iff]
  constructor
  · rintro ⟨e, hfault, hmessage⟩
    cases hfault with
    | group _ hitems hfault => exact ⟨_, _, hitems, rfl, e, hfault, hmessage⟩
  · rintro ⟨items, rest, hitems, rfl, e, hfault, hmessage⟩
    exact ⟨e, .group d hitems hfault, hmessage⟩

theorem gettersOf_append (fs gs : List Field) : gettersOf (fs ++ gs) = (do
    let first ← gettersOf fs
    let later ← gettersOf gs
    return first ++ later) := by
  induction fs with
  | nil => cases hgs : gettersOf gs <;> simp [gettersOf, hgs, bind, Except.bind, pure, Except.pure]
  | cons f fs ih =>
    rw [List.cons_append, gettersOf, gettersOf, ih]
    cases isSkipped f with
    | error e => rfl
    | ok skipped =>
      cases gettersOf fs with
      | error e => rfl
      | ok first => cases gettersOf gs <;> cases skipped <;> rfl

/-- A field that is left out is as good as absent. -/
theorem gettersOf_of_leftOut (h : isSkipped f = .ok true) (before after : List Field) :
    gettersOf (before ++ f :: after) = gettersOf (before ++ after) := by
  have hcons : gettersOf (f :: after) = gettersOf after := by
    rw [gettersOf, h]
    cases gettersOf after <;> rfl
  rw [gettersOf_append, gettersOf_append, hcons]

/-- A field that is kept has its getter. -/
theorem mem_gettersOf_of_kept (h : isSkipped f = .ok false) {fs : List Field} (hf : f ∈ fs)
    {getters : List Getter} (hgetters : gettersOf fs = .ok getters) : Getter.ofField f ∈ getters := by
  obtain ⟨rfl, -⟩ := gettersOf_eq_ok hgetters
  have hkept : isKept f = true := by simp [isKept, h]
  exact List.mem_map_of_mem (List.mem_filter.2 ⟨hf, hkept⟩)

/-- What becomes of a field by what its `getter` attribute says. -/
structure ReadsSkips (f : Field) (body : List Tree) : Prop where
  kept : isSkipped f = .ok false ↔ body = []
  leftOut : isSkipped f = .ok true ↔ SkipSeries body
  refused : (∃ e, isSkipped f = .error e) ↔ body ≠ [] ∧ ¬ SkipSeries body
  /-- If the attribute is refused, the first item that does not fit is told about. -/
  told : ∀ text, (∃ e, isSkipped f = .error e ∧ e.message = text) ↔
    ∃ items rest, Listed items ∧ body = items ++ rest ∧ Told rest text
  /-- A field that is kept has its getter, and one that is left out is as good as absent. -/
  shown : body = [] → ∀ fs getters, f ∈ fs → gettersOf fs = .ok getters →
    Getter.ofField f ∈ getters
  unseen : SkipSeries body → ∀ before after,
    gettersOf (before ++ f :: after) = gettersOf (before ++ after)

/-- **What a skip attribute may say, and what it does.** -/
theorem isSkipped_reads (h : HasGetter f d body) : ReadsSkips f body := by
  have hkept : isSkipped f = .ok false ↔ body = [] := by
    rw [isSkipped_of_hasGetter h, inputSkips_eq_false]
  have hleftOut : isSkipped f = .ok true ↔ SkipSeries body := by
    rw [isSkipped_of_hasGetter h, inputSkips_eq_true]
  have hok : (∃ skipped, isSkipped f = .ok skipped) ↔ body = [] ∨ SkipSeries body := by
    rw [← hkept, ← hleftOut]
    exact Bool.exists_bool
  refine ⟨hkept, hleftOut, ?_, fun text => ?_, fun hbody fs getters hf => ?_, fun hseries => ?_⟩
  · rw [← not_or, ← hok, exists_ok_iff, Classical.not_not]
  · rw [isSkipped_of_hasGetter h]
    exact inputSkips_told
  · exact mem_gettersOf_of_kept (hkept.2 hbody) hf
  · exact gettersOf_of_leftOut (hleftOut.2 hseries)

/-- A longer path in brackets behind a `skip` that fits, and an attribute of another name in front. -/
theorem isSkipped_reads_longer :
    ∃ f d body, HasGetter f d body ∧ ReadsSkips f body ∧ isSkipped f = .error .unknown := by
  have h : HasGetter
      ⟨[⟨[word "doc"], .nothing⟩, ⟨[word "getter"], .group .bracket
        ([word "skip", .leaf (.punct ',' false), word "skip"] ++ separator false ++ [word "a"])⟩],
        ⟨"a", false⟩, .tree (word "u8")⟩ .bracket
      ([word "skip", .leaf (.punct ',' false), word "skip"] ++ separator false ++ [word "a"]) :=
    ⟨[⟨[word "doc"], .nothing⟩], [], rfl, by simp [word], nofun⟩
  exact ⟨_, _, _, h, isSkipped_reads h, rfl⟩

end Accessors.Getters
