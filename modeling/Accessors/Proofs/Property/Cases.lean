import Accessors.Property.Resolution

/-!
# The outcomes of a resolution

A function is resolved in two ways, one that returns a failure and one that reports it. Both end in
one of three ways, and what each of them yields and reports is said here once.

* `resolution_cases`: the three endings, with both results.
* `tryResolve_events`: a success reports itself, a failure reports nothing.
* `resolve_events`: there is always exactly one report.
-/

namespace Accessors.Property

theorem Accessor.identify_eq_ok {a b : Accessor} :
    a.identify = .ok b ↔ isMethodName a.method.toList = true ∧ b = a := by
  unfold Accessor.identify
  split
  · next h => simp [h, eq_comm]
  · next h => simp [h]

/-- A known accessor is the one that was asked about. -/
theorem Accessor.identify_eq {a b : Accessor} (h : a.identify = .ok b) : b = a :=
  (Accessor.identify_eq_ok.1 h).2

/-- **How a resolution ends**: with a name, with a known accessor whose name tells no property, or
without an accessor. -/
theorem resolution_cases (f : Callable) :
    (∃ a n, f.identify = .ok a ∧ propertyName a.method = .ok n ∧
      tryResolve f = ⟨.ok n, [.resolved a n]⟩ ∧ resolve f = ⟨some n, [.resolved a n]⟩) ∨
    (∃ a e, f.identify = .ok a ∧ propertyName a.method = .error e ∧
      tryResolve f = ⟨.error e, []⟩ ∧ resolve f = ⟨none, [.unresolved a e]⟩) ∨
    (∃ reason, f.identify = .error reason ∧
      tryResolve f = ⟨.error (.introspection reason.message), []⟩ ∧
      resolve f = ⟨none, [.unidentified (.introspection reason.message)]⟩) := by
  cases hf : f.identify with
  | error reason => exact .inr (.inr ⟨reason, rfl, by simp [tryResolve, resolve, introspect, hf]⟩)
  | ok a =>
    cases hn : propertyName a.method with
    | ok n =>
      exact .inl ⟨a, n, rfl, hn, by simp [tryResolve, resolve, introspect, resolveAccessor, hf, hn]⟩
    | error e =>
      exact .inr (.inl ⟨a, e, rfl, hn,
        by simp [tryResolve, resolve, introspect, resolveAccessor, hf, hn]⟩)

/-! ## One accessor -/

/-- An accessor with a method's name reads what its name tells. -/
theorem tryResolve_of_name {a : Accessor} {n : PropertyName}
    (hm : isMethodName a.method.toList = true) (hn : propertyName a.method = .ok n) :
    tryResolve (.accessor a) = ⟨.ok n, [.resolved a n]⟩ := by
  simp [tryResolve, introspect, Callable.identify, Accessor.identify, hm, resolveAccessor, hn]

/-- The property that an accessor reads, if it reads one. -/
def Accessor.property? (a : Accessor) : Option PropertyName :=
  (tryResolve (.accessor a)).value.toOption

/-- The accessor reads a property of this name. -/
def Accessor.Reads (p : String) (a : Accessor) : Prop :=
  (tryResolve (.accessor a)).value = .ok ⟨p⟩

theorem Accessor.reads_iff {p : String} {a : Accessor} : a.Reads p ↔ a.property? = some ⟨p⟩ := by
  unfold Accessor.Reads Accessor.property?
  cases (tryResolve (.accessor a)).value <;> simp [Except.toOption]

/-- An accessor reads a property exactly if its name is a method's and tells that property. -/
theorem Accessor.reads_iff_name {p : String} {a : Accessor} :
    a.Reads p ↔ isMethodName a.method.toList = true ∧ propertyName a.method = .ok ⟨p⟩ := by
  constructor
  · intro h
    unfold Accessor.Reads at h
    rcases resolution_cases (.accessor a) with
      ⟨b, n, hb, hn, ht, -⟩ | ⟨b, e, -, -, ht, -⟩ | ⟨r, -, ht, -⟩
    · rw [ht] at h
      cases h
      obtain ⟨hname, rfl⟩ := Accessor.identify_eq_ok.1 hb
      exact ⟨hname, hn⟩
    · rw [ht] at h; cases h
    · rw [ht] at h; cases h
  · rintro ⟨hm, hn⟩
    rw [Accessor.Reads, tryResolve_of_name hm hn]

/-- A success reports itself, a failure reports nothing. -/
theorem tryResolve_events (a : Accessor) :
    (tryResolve (.accessor a)).events = a.property?.toList.map (.resolved a) := by
  unfold Accessor.property?
  rcases resolution_cases (.accessor a) with
    ⟨b, n, hb, -, ht, -⟩ | ⟨b, e, -, -, ht, -⟩ | ⟨r, -, ht, -⟩
  · rw [ht, Accessor.identify_eq hb]; rfl
  · rw [ht]; rfl
  · rw [ht]; rfl

/-- Both ways of resolving find the same property. -/
theorem resolve_value (a : Accessor) : (resolve (.accessor a)).value = a.property? := by
  unfold Accessor.property?
  rcases resolution_cases (.accessor a) with
    ⟨b, n, -, -, ht, hr⟩ | ⟨b, e, -, -, ht, hr⟩ | ⟨r, -, ht, hr⟩ <;>
    rw [ht, hr] <;> rfl

/-- A report is about an accessor: its property, or the failure to find one. -/
def Reports (a : Accessor) (e : Event) : Prop :=
  match a.property? with
  | some n => e.level = "TRACE" ∧ ("property", n.text) ∈ e.fields
  | none => e.level = "ERROR"

/-- The reporting way reports exactly once, about the accessor. -/
theorem resolve_events (a : Accessor) :
    ∃ e, (resolve (.accessor a)).events = [e] ∧ Reports a e := by
  unfold Reports Accessor.property?
  rcases resolution_cases (.accessor a) with
    ⟨b, n, -, -, ht, hr⟩ | ⟨b, e, -, -, ht, hr⟩ | ⟨r, -, ht, hr⟩ <;>
    rw [ht, hr]
  · exact ⟨_, rfl, rfl, by simp [Event.fields]⟩
  · exact ⟨_, rfl, rfl⟩
  · exact ⟨_, rfl, rfl⟩

end Accessors.Property
