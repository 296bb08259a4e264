import Mathlib.Data.List.Forall2
import Accessors.Property.Catalogue
import Accessors.Proofs.Property.Cases

/-!
# Listing and looking up

The names of a list of accessors are found by the way that reports failures, a single property is
looked up by the way that returns them and stops at the first match. Over any list, with accessors
that occur twice, share a property or read none:

* `propertyNames_value`, `propertyNames_reports`: what listing yields, and one report for each
  accessor.
* `find_cases`: where a look-up ends, with its reports.
* `lookup_matches_listing`: the two agree.
-/

namespace Accessors.Property

/-! ## Listing -/

theorem propertyNames_value (l : List Accessor) :
    (propertyNames l).value = l.filterMap Accessor.property? := by
  simp only [propertyNames, List.filterMap_map]
  congr 1
  exact funext resolve_value

theorem propertyNames_cons_events (a : Accessor) (l : List Accessor) :
    (propertyNames (a :: l)).events =
      (resolve (.accessor a)).events ++ (propertyNames l).events := by
  simp [propertyNames]

/-- One report for each accessor, in order. -/
theorem propertyNames_reports (l : List Accessor) :
    List.Forall₂ Reports l (propertyNames l).events := by
  induction l with
  | nil => exact .nil
  | cons a l ih =>
    obtain ⟨e, he, hr⟩ := resolve_events a
    rw [propertyNames_cons_events, he]
    exact .cons hr ih

theorem mem_propertyNames {l : List Accessor} {p : String} :
    ⟨p⟩ ∈ (propertyNames l).value ↔ ∃ a ∈ l, a.Reads p := by
  simp only [propertyNames_value, List.mem_filterMap, Accessor.reads_iff]

/-- Names and errors together are as many as accessors. -/
theorem names_add_errors {l : List Accessor} {events : List Event}
    (h : List.Forall₂ Reports l events) :
    (l.filterMap Accessor.property?).length + events.countP (·.level == "ERROR") = l.length := by
  induction h with
  | nil => rfl
  | @cons a e l events hr _ ih =>
    unfold Reports at hr
    cases hp : a.property? with
    | none =>
      rw [hp] at hr
      simp only [List.filterMap_cons, hp, List.countP_cons, hr, List.length_cons]
      simp only [beq_self_eq_true, if_true]; omega
    | some n =>
      rw [hp] at hr
      simp only [List.filterMap_cons, hp, List.countP_cons, hr.1, List.length_cons]
      have : ("TRACE" == "ERROR") = false := by decide
      simp only [this, Bool.false_eq_true, if_false]; omega

/-! ## Looking up -/

/-- The reports of looking at some accessors without reporting failures. -/
def traces (l : List Accessor) : List Event := l.flatMap fun a => (tryResolve (.accessor a)).events

theorem reads_eq_true {p : String} {a : Accessor} :
    reads p (tryResolve (.accessor a)).value = true ↔ a.Reads p := by
  unfold reads Accessor.Reads
  cases (tryResolve (.accessor a)).value with
  | error e => simp
  | ok n => cases n; simp

theorem find_cons_of_reads {p : String} {a : Accessor} {l : List Accessor} (h : a.Reads p) :
    find p (a :: l) = ⟨some a, traces [a]⟩ := by
  simp [find, reads_eq_true.2 h, traces]

theorem find_cons_of_not_reads {p : String} {a : Accessor} {l : List Accessor} (h : ¬ a.Reads p) :
    find p (a :: l) =
      ⟨(find p l).value, (tryResolve (.accessor a)).events ++ (find p l).events⟩ := by
  simp [find, mt reads_eq_true.1 h]

/-- A look-up passes over accessors that do not read the property, and does not look behind the
first one that does. -/
theorem find_eq_of_first {p : String} {before after : List Accessor} {a : Accessor}
    (ha : a.Reads p) (hb : ∀ b ∈ before, ¬ b.Reads p) :
    find p (before ++ a :: after) = ⟨some a, traces (before ++ [a])⟩ := by
  induction before with
  | nil => exact find_cons_of_reads ha
  | cons c before ih =>
    rw [List.forall_mem_cons] at hb
    rw [List.cons_append, find_cons_of_not_reads hb.1, ih hb.2]
    rfl

/-- **Where a look-up ends**: at the first accessor that reads the property, or at the end of a list
without one. Its reports are those of the accessors up to there. -/
theorem find_cases (p : String) (l : List Accessor) :
    (∃ before a after, l = before ++ a :: after ∧ a.Reads p ∧ (∀ b ∈ before, ¬ b.Reads p) ∧
      find p l = ⟨some a, traces (before ++ [a])⟩) ∨
    ((∀ b ∈ l, ¬ b.Reads p) ∧ find p l = ⟨none, traces l⟩) := by
  induction l with
  | nil => exact .inr ⟨by simp, rfl⟩
  | cons c l ih =>
    by_cases hc : c.Reads p
    · exact .inl ⟨[], c, l, rfl, hc, by simp, find_cons_of_reads hc⟩
    · rcases ih with ⟨before, a, after, rfl, ha, hb, -⟩ | ⟨hb, he⟩
      · have hb' : ∀ b ∈ c :: before, ¬ b.Reads p := List.forall_mem_cons.2 ⟨hc, hb⟩
        exact .inl ⟨c :: before, a, after, rfl, ha, hb', find_eq_of_first ha hb'⟩
      · refine .inr ⟨List.forall_mem_cons.2 ⟨hc, hb⟩, ?_⟩
        rw [find_cons_of_not_reads hc, he]
        rfl

/-- A look-up that can end does not look at what is added to the list. -/
theorem find_append {p : String} {l : List Accessor} (hl : ∃ b ∈ l, b.Reads p)
    (others : List Accessor) : ∃ a ∈ l, a.Reads p ∧ (find p (l ++ others)).value = some a := by
  rcases find_cases p l with ⟨before, a, after, rfl, ha, hb, -⟩ | ⟨hnone, -⟩
  · refine ⟨a, by simp, ha, ?_⟩
    rw [List.append_assoc, List.cons_append, find_eq_of_first ha hb]
  · obtain ⟨b, hb, hreads⟩ := hl
    exact absurd hreads (hnone b hb)

theorem find_eq_none {p : String} {l : List Accessor} (hl : ∀ b ∈ l, ¬ b.Reads p) :
    (find p l).value = none := by
  rcases find_cases p l with ⟨before, a, after, rfl, ha, -, -⟩ | ⟨-, he⟩
  · exact absurd ha (hl a (by simp))
  · rw [he]

theorem traces_length (l : List Accessor) :
    (traces l).length = (l.filterMap Accessor.property?).length := by
  induction l with
  | nil => rfl
  | cons a l ih =>
    rw [traces, List.flatMap_cons, List.length_append, ← traces, ih, tryResolve_events]
    cases hp : a.property? <;> simp [hp]; omega

theorem level_of_mem_traces {l : List Accessor} {e : Event} (h : e ∈ traces l) :
    e.level = "TRACE" := by
  obtain ⟨a, -, he⟩ := List.mem_flatMap.1 h
  rw [tryResolve_events, List.mem_map] at he
  obtain ⟨n, -, rfl⟩ := he
  rfl

/-! ## Both together -/

/-- A look-up that finds `a` stops at the position `k`. -/
structure StopsAt (p : String) (l : List Accessor) (a : Accessor) (k : Nat) : Prop where
  here : l[k]? = some a
  reads : a.Reads p
  /-- No earlier accessor reads the property. -/
  first : ∀ b ∈ l.take k, ¬ b.Reads p
  /-- No earlier accessor is equal to the one that is found. -/
  index : l.idxOf a = k
  /-- What follows the position is not looked at. -/
  stops : ∀ others, find p (l.take (k + 1) ++ others) = find p l
  /-- Every accessor that reads some property, up to the position, is reported. -/
  reported : (find p l).events.length = (l.take (k + 1)).countP (·.property?.isSome)

theorem countP_property (l : List Accessor) :
    l.countP (·.property?.isSome) = (l.filterMap Accessor.property?).length := by
  induction l with
  | nil => rfl
  | cons a l ih => cases hp : a.property? <;> simp [hp, ih]

theorem stopsAt_of_first {p : String} {before after : List Accessor} {a : Accessor}
    (ha : a.Reads p) (hb : ∀ b ∈ before, ¬ b.Reads p) :
    StopsAt p (before ++ a :: after) a before.length := by
  have htake : (before ++ a :: after).take (before.length + 1) = before ++ [a] := by
    rw [List.take_append, List.take_of_length_le (by omega)]; simp
  have hnot : a ∉ before := fun h => hb a h ha
  exact {
    here := by simp
    reads := ha
    first := by simpa using hb
    index := by rw [List.idxOf_append_of_notMem hnot, List.idxOf_cons_self]; omega
    stops := fun others => by
      rw [htake, List.append_assoc, List.singleton_append, find_eq_of_first ha hb,
        find_eq_of_first ha hb]
    reported := by rw [htake, find_eq_of_first ha hb, traces_length, countP_property] }

/-- **Looking up agrees with listing**, over every list of accessors. A property is found exactly if
it is listed; the first accessor that reads it is found, and the search stops there; a search that
finds nothing reports as many successes as there are names. Listing reports each accessor once. -/
theorem lookup_matches_listing (l : List Accessor) (p : String) :
    ((find p l).value.isSome = true ↔ ⟨p⟩ ∈ (propertyNames l).value) ∧
    (∀ a, (find p l).value = some a → ∃ k, StopsAt p l a k) ∧
    ((find p l).value = none → (find p l).events.length = (propertyNames l).value.length) ∧
    (∀ e ∈ (find p l).events, e.level = "TRACE") ∧
    List.Forall₂ Reports l (propertyNames l).events ∧
    (propertyNames l).value.length + (propertyNames l).events.countP (·.level == "ERROR") =
      l.length := by
  have hreports := propertyNames_reports l
  have hcount := names_add_errors hreports
  rw [← propertyNames_value] at hcount
  rcases find_cases p l with ⟨before, a, after, rfl, ha, hb, he⟩ | ⟨hb, he⟩
  · refine ⟨?_, ?_, by simp [he], ?_, hreports, hcount⟩
    · rw [mem_propertyNames, he]
      exact iff_of_true rfl ⟨a, by simp, ha⟩
    · intro c hc
      rw [he, Option.some.injEq] at hc
      subst hc
      exact ⟨before.length, stopsAt_of_first ha hb⟩
    · rw [he]; exact fun e => level_of_mem_traces
  · refine ⟨?_, by simp [he], ?_, ?_, hreports, hcount⟩
    · rw [mem_propertyNames, he]
      exact iff_of_false (by simp) fun ⟨a, hm, ha⟩ => hb a hm ha
    · intro _
      rw [he, traces_length, propertyNames_value]
    · rw [he]; exact fun e => level_of_mem_traces

end Accessors.Property
