import Mathlib.Data.List.Forall2
import Accessors.Proofs.Property.Cases

/-!
# Returning a failure and reporting it

A function is resolved by `tryResolve`, which returns a failure, or by `resolve`, which reports and
drops it. The second does not call the first.

* `Callable.bare`: a function without what it is wrapped in, which changes no result and no report.
* `TwoWays`: what the two ways have to do with each other, for one function.
* `reports_forall`, `reports_filter`: the reports of both ways on a series of functions.
* `resolve_agrees`: the two ways agree on every series of functions.
-/

namespace Accessors.Property

/-! ## Wrapped functions -/

/-- The accessor or the pointer behind borrows, dynamic interfaces and a reference. -/
def Callable.bare : Callable → Callable
  | accessor a => accessor a
  | reference r => accessor r.accessor
  | pointer subject => pointer subject
  | borrowed inner => inner.bare
  | dynamic inner => inner.bare

theorem Callable.identify_bare (f : Callable) : f.bare.identify = f.identify := by
  induction f with
  | accessor a => rfl
  | reference r => rfl
  | pointer subject => rfl
  | borrowed inner ih => exact ih
  | dynamic inner ih => exact ih

theorem introspect_bare (f : Callable) : introspect f.bare = introspect f := by
  rw [introspect, Callable.identify_bare, introspect]

theorem tryResolve_bare (f : Callable) : tryResolve f.bare = tryResolve f := by
  rw [tryResolve, introspect_bare, tryResolve]

theorem resolve_bare (f : Callable) : resolve f.bare = resolve f := by
  rw [resolve, introspect_bare, resolve]

/-! ## One function -/

/-- The report of a success: the accessor as a path, and the property. -/
def ReportsSuccess (a : Accessor) (n : PropertyName) (e : Event) : Prop :=
  e.level = "TRACE" ∧
    e.fields = [("message", "Resolved property name"), ("method", a.owner ++ "::" ++ a.method),
      ("property", n.text)]

/-- The report of a failure: the error in words, and the accessor if one is known. -/
def ReportsFailure (known : Option Accessor) (err : ResolveError) (e : Event) : Prop :=
  e.level = "ERROR" ∧
    e.fields = ("message", "Failed to resolve field name") ::
      (match known with
        | some a => [("method", a.method), ("declaring_type", a.owner)]
        | none => []) ++ [("error", err.message)]

/-- What the two ways of resolving a function have to do with each other. -/
structure TwoWays (f : Callable) : Prop where
  /-- Both find the same property. -/
  value : ∀ n, (resolve f).value = some n ↔ (tryResolve f).value = .ok n
  /-- A success is reported once, by both alike. -/
  success : ∀ n, (tryResolve f).value = .ok n →
    ∃ a e, introspect f = .ok a ∧ ReportsSuccess a n e ∧
      (tryResolve f).events = [e] ∧ (resolve f).events = [e]
  /-- A failure is reported once, by the way that drops it, with the error that the other returns. -/
  failure : ∀ err, (tryResolve f).value = .error err →
    ∃ e, ReportsFailure (introspect f).toOption err e ∧
      (tryResolve f).events = [] ∧ (resolve f).events = [e]
  /-- The accessor is known unless the error says that it is not. -/
  known : ∀ err, (tryResolve f).value = .error err →
    ((introspect f).toOption = none ↔ err.isIntrospection = true)
  /-- No wrapping changes a result or a report. -/
  wrapped : ∀ g : Callable, g.bare = f.bare → resolve g = resolve f ∧ tryResolve g = tryResolve f
  /-- A bare pointer tells no accessor. -/
  pointer : ∀ subject, f.bare = .pointer subject → (tryResolve f).value =
    .error (.introspection
      ("function pointer over " ++ subject ++ " carries no method metadata; use method_ref!"))

theorem isIntrospection_propertyName {method : String} {e : ResolveError}
    (h : propertyName method = .error e) : e.isIntrospection = false := by
  unfold propertyName at h
  split at h
  · cases h; rfl
  · split at h <;> cases h
    rfl

theorem ways_of_ok {f : Callable} {n : PropertyName} (h : (tryResolve f).value = .ok n) :
    ∃ a, introspect f = .ok a ∧ tryResolve f = ⟨.ok n, [.resolved a n]⟩ ∧
      resolve f = ⟨some n, [.resolved a n]⟩ := by
  rcases resolution_cases f with ⟨a, m, ha, -, htry, hres⟩ | ⟨a, e, -, -, htry, -⟩ | ⟨r, -, htry, -⟩
  · rw [htry] at h
    cases h
    exact ⟨a, by rw [introspect, ha], htry, hres⟩
  · rw [htry] at h; cases h
  · rw [htry] at h; cases h

/-- Of the two ways to fail, only one knows the accessor. -/
theorem ways_of_error {f : Callable} {err : ResolveError} (h : (tryResolve f).value = .error err) :
    ∃ e, tryResolve f = ⟨.error err, []⟩ ∧ resolve f = ⟨none, [e]⟩ ∧
      ReportsFailure (introspect f).toOption err e ∧
      ((introspect f).toOption = none ↔ err.isIntrospection = true) := by
  rcases resolution_cases f with
    ⟨a, n, -, -, htry, -⟩ | ⟨a, e, ha, hn, htry, hres⟩ | ⟨reason, hreason, htry, hres⟩
  · rw [htry] at h; cases h
  · rw [htry] at h
    cases h
    have hknown : introspect f = .ok a := by rw [introspect, ha]
    refine ⟨.unresolved a err, htry, hres, ⟨rfl, by rw [hknown]; rfl⟩, ?_⟩
    simp [hknown, Except.toOption, isIntrospection_propertyName hn]
  · rw [htry] at h
    cases h
    have hunknown : introspect f = .error (.introspection reason.message) := by
      rw [introspect, hreason]
    refine ⟨.unidentified (.introspection reason.message), htry, hres, ⟨rfl, by rw [hunknown]; rfl⟩, ?_⟩
    simp [hunknown, Except.toOption, ResolveError.isIntrospection]

theorem twoWays (f : Callable) : TwoWays f where
  value n := by
    cases hf : (tryResolve f).value with
    | ok m =>
      obtain ⟨a, -, -, hres⟩ := ways_of_ok hf
      simp [hres]
    | error err =>
      obtain ⟨e, -, hres, -⟩ := ways_of_error hf
      simp [hres]
  success n hn := by
    obtain ⟨a, ha, htry, hres⟩ := ways_of_ok hn
    exact ⟨a, .resolved a n, ha, ⟨rfl, rfl⟩, by rw [htry], by rw [hres]⟩
  failure err herr := by
    obtain ⟨e, htry, hres, he, -⟩ := ways_of_error herr
    exact ⟨e, he, by rw [htry], by rw [hres]⟩
  known err herr := by
    obtain ⟨e, -, -, -, hknown⟩ := ways_of_error herr
    exact hknown
  wrapped g hg := by
    rw [← resolve_bare g, ← tryResolve_bare g, hg, resolve_bare, tryResolve_bare]
    exact ⟨rfl, rfl⟩
  pointer subject hs := by
    rw [← tryResolve_bare, hs]
    rfl

/-! ## A series of functions -/

/-- What is reported while a series of functions is resolved. -/
def reports (fs : List Callable) : List Event := fs.flatMap fun f => (resolve f).events

theorem reports_cons (f : Callable) (fs : List Callable) :
    reports (f :: fs) = (resolve f).events ++ reports fs := List.flatMap_cons

/-- The report is about the function: the property that it reads, or the error of resolving it. -/
def ReportsResult (f : Callable) (e : Event) : Prop :=
  match (tryResolve f).value with
  | .ok n => ∃ a, introspect f = .ok a ∧ ReportsSuccess a n e
  | .error err => ReportsFailure (introspect f).toOption err e

/-- **Each function is reported once**, in order. -/
theorem reports_forall (fs : List Callable) : List.Forall₂ ReportsResult fs (reports fs) := by
  induction fs with
  | nil => exact .nil
  | cons f fs ih =>
    have hone : ∃ e, (resolve f).events = [e] ∧ ReportsResult f e := by
      unfold ReportsResult
      cases hf : (tryResolve f).value with
      | ok n =>
        obtain ⟨a, e, ha, he, -, hevents⟩ := (twoWays f).success n hf
        exact ⟨e, hevents, a, ha, he⟩
      | error err =>
        obtain ⟨e, he, -, hevents⟩ := (twoWays f).failure err hf
        exact ⟨e, hevents, he⟩
    obtain ⟨e, hevents, he⟩ := hone
    rw [reports_cons, hevents]
    exact .cons he ih

/-- **The way that returns failures reports what is left** when the failures are taken out of the
other way's reports. -/
theorem reports_filter (fs : List Callable) :
    fs.flatMap (fun f => (tryResolve f).events) = (reports fs).filter (·.level == "TRACE") := by
  induction fs with
  | nil => rfl
  | cons f fs ih =>
    rw [List.flatMap_cons, ih, reports_cons, List.filter_append]
    congr 1
    cases hf : (tryResolve f).value with
    | ok n =>
      obtain ⟨a, e, -, ⟨hlevel, -⟩, htry, hres⟩ := (twoWays f).success n hf
      rw [htry, hres]
      simp [hlevel]
    | error err =>
      obtain ⟨e, ⟨hlevel, -⟩, htry, hres⟩ := (twoWays f).failure err hf
      rw [htry, hres]
      simp [hlevel]

/-- **Both ways agree on every series of functions**: on each of its functions, and so on the reports
of the whole series. -/
theorem resolve_agrees (fs : List Callable) :
    (∀ f ∈ fs, TwoWays f) ∧ List.Forall₂ ReportsResult fs (reports fs) ∧
      fs.flatMap (fun f => (tryResolve f).events) = (reports fs).filter (·.level == "TRACE") ∧
      reports (fs.map Callable.bare) = reports fs := by
  refine ⟨fun f _ => twoWays f, reports_forall fs, reports_filter fs, ?_⟩
  rw [reports, reports, List.flatMap_map]
  exact List.flatMap_congr fun f _ => by rw [resolve_bare]

end Accessors.Property
