import Accessors.Service.Logging

/-!
# The directives in force after some changes

A configuration has a level and perhaps a filter, and the filter hides the level. One kind of change
sets both, so what is in force depends on the order of changes of three kinds: the last one that sets or
drops the filter decides where to look, and where it is the level, a change that was hidden so far counts
as well.

* `LogStep.level?`, `LogStep.filter?`: what a change does to the level and to the filter.
* `LastLevel`, `InForce`: the level and the directives that a series of changes leads to.
* `run_level`, `run_envFilter`: changes that leave a part alone.
* `run_inForce`: the directives in force, for every preset and every series of changes.
-/

namespace Accessors.Service

namespace LogStep

/-- The level that a change sets, if it sets one. -/
def level? : LogStep → Option String
  | withLevel l => some l
  | level l => some l
  | _ => none

/-- What a change puts in place of the filter, if it concerns the filter. -/
def filter? : LogStep → Option (Option String)
  | withLevel _ => some none
  | envFilter f => some f
  | _ => none

end LogStep

/-- The level after a series of changes: the one that was set last, or the one there was at first. -/
inductive LastLevel (first : String) (steps : List LogStep) : String → Prop
  | set {before after : List LogStep} {step : LogStep} {l : String}
    (h : steps = before ++ step :: after) (hstep : step.level? = some l)
    (hafter : ∀ s ∈ after, s.level? = none) : LastLevel first steps l
  | first (h : ∀ s ∈ steps, s.level? = none) : LastLevel first steps first

/-- The directives in force after a series of changes to a preset, by the last change that concerns the
filter. -/
inductive InForce (p : Preset) (steps : List LogStep) : String → Prop
  /-- It set a filter. -/
  | filter {before after : List LogStep} {f : String}
    (h : steps = before ++ .envFilter (some f) :: after) (hafter : ∀ s ∈ after, s.filter? = none) :
    InForce p steps f
  /-- It dropped the filter. The level can have been set before that. -/
  | level {before after : List LogStep} {step : LogStep} {l : String}
    (h : steps = before ++ step :: after)
    (hstep : (∃ m, step = .withLevel m) ∨ step = .envFilter none)
    (hafter : ∀ s ∈ after, s.filter? = none) (hl : LastLevel p.config.level steps l) :
    InForce p steps l
  /-- There is none, and the preset has a filter. -/
  | preset {f : String} (h : ∀ s ∈ steps, s.filter? = none) (hf : p.config.envFilter = some f) :
    InForce p steps f
  /-- There is none, and the preset is the one without a filter. -/
  | standard {l : String} (h : ∀ s ∈ steps, s.filter? = none) (hp : p = .standard)
    (hl : LastLevel "info" steps l) : InForce p steps l

namespace LogConfig

/-! ## One change -/

theorem apply_level (c : LogConfig) (s : LogStep) : (c.apply s).level = s.level?.getD c.level := by
  cases s <;> rfl

theorem apply_envFilter (c : LogConfig) (s : LogStep) :
    (c.apply s).envFilter = s.filter?.getD c.envFilter := by
  cases s <;> rfl

/-! ## A series of changes -/

theorem run_append (c : LogConfig) (before after : List LogStep) :
    c.run (before ++ after) = (c.run before).run after := List.foldl_append

/-- Changes that set no level leave it alone. -/
theorem run_level {c : LogConfig} {steps : List LogStep} (h : ∀ s ∈ steps, s.level? = none) :
    (c.run steps).level = c.level := by
  induction steps generalizing c with
  | nil => rfl
  | cons s steps ih =>
    rw [List.forall_mem_cons] at h
    have hstep : (c.apply s).level = c.level := by rw [apply_level, h.1, Option.getD_none]
    exact (ih h.2).trans hstep

/-- Changes that do not concern the filter leave it alone. -/
theorem run_envFilter {c : LogConfig} {steps : List LogStep} (h : ∀ s ∈ steps, s.filter? = none) :
    (c.run steps).envFilter = c.envFilter := by
  induction steps generalizing c with
  | nil => rfl
  | cons s steps ih =>
    rw [List.forall_mem_cons] at h
    have hstep : (c.apply s).envFilter = c.envFilter := by
      rw [apply_envFilter, h.1, Option.getD_none]
    exact (ih h.2).trans hstep

/-- Behind the last change that sets a level, the level stays. -/
theorem run_level_of_last {c : LogConfig} {before after : List LogStep} {step : LogStep} {l : String}
    (hstep : step.level? = some l) (hafter : ∀ s ∈ after, s.level? = none) :
    (c.run (before ++ step :: after)).level = l := by
  have hnext : c.run (before ++ step :: after) = ((c.run before).apply step).run after :=
    run_append c before (step :: after)
  rw [hnext, run_level hafter, apply_level, hstep, Option.getD_some]

/-- Behind the last change that concerns the filter, the filter stays. -/
theorem run_envFilter_of_last {c : LogConfig} {before after : List LogStep} {step : LogStep}
    {f : Option String} (hstep : step.filter? = some f) (hafter : ∀ s ∈ after, s.filter? = none) :
    (c.run (before ++ step :: after)).envFilter = f := by
  have hnext : c.run (before ++ step :: after) = ((c.run before).apply step).run after :=
    run_append c before (step :: after)
  rw [hnext, run_envFilter hafter, apply_envFilter, hstep, Option.getD_some]

/-- A series of changes has a last one of a kind, or none of it. -/
theorem last_or_none {α : Type} (concerns : LogStep → Option α) (steps : List LogStep) :
    (∃ before step after a, steps = before ++ step :: after ∧ concerns step = some a ∧
      ∀ s ∈ after, concerns s = none) ∨ ∀ s ∈ steps, concerns s = none := by
  induction steps with
  | nil => exact .inr nofun
  | cons s steps ih =>
    rcases ih with ⟨before, step, after, a, rfl, hstep, hafter⟩ | hnone
    · exact .inl ⟨s :: before, step, after, a, rfl, hstep, hafter⟩
    · cases hs : concerns s with
      | none => exact .inr (List.forall_mem_cons.2 ⟨hs, hnone⟩)
      | some a => exact .inl ⟨[], s, steps, a, rfl, hs, hnone⟩

/-- **The level after a series of changes** is the one that was set last. -/
theorem run_level_eq_iff {c : LogConfig} {steps : List LogStep} {l : String} :
    (c.run steps).level = l ↔ LastLevel c.level steps l := by
  constructor
  · rintro rfl
    rcases last_or_none LogStep.level? steps with ⟨before, step, after, l, rfl, hstep, hafter⟩ | hnone
    · rw [run_level_of_last hstep hafter]
      exact .set rfl hstep hafter
    · rw [run_level hnone]
      exact .first hnone
  · intro h
    cases h with
    | set h hstep hafter => rw [h, run_level_of_last hstep hafter]
    | first h => exact run_level h

/-! ## The directives in force -/

theorem filterDirectives_of_some {c : LogConfig} {f : String} (h : c.envFilter = some f) :
    c.filterDirectives = f := by
  rw [filterDirectives, h, Option.getD_some]

theorem filterDirectives_of_none {c : LogConfig} (h : c.envFilter = none) :
    c.filterDirectives = c.level := by
  rw [filterDirectives, h, Option.getD_none]

/-- What the last change that concerns the filter says is what is in force. -/
theorem filterDirectives_of_inForce {p : Preset} {steps : List LogStep} {d : String}
    (h : InForce p steps d) : (p.config.run steps).filterDirectives = d := by
  cases h with
  | filter h hafter =>
    refine filterDirectives_of_some ?_
    rw [h, run_envFilter_of_last rfl hafter]
  | @level before after step _ h hstep hafter hl =>
    have hdrops : step.filter? = some none := by
      rcases hstep with ⟨m, rfl⟩ | rfl <;> rfl
    have hnone : (p.config.run steps).envFilter = none := by
      rw [h, run_envFilter_of_last hdrops hafter]
    rw [filterDirectives_of_none hnone]
    exact run_level_eq_iff.2 hl
  | preset h hf => exact filterDirectives_of_some ((run_envFilter h).trans hf)
  | standard h hp hl =>
    subst hp
    rw [filterDirectives_of_none (run_envFilter h)]
    exact run_level_eq_iff.2 hl

/-- A change concerns the filter by setting it or by dropping it. -/
theorem filter?_cases {step : LogStep} {f : Option String} (h : step.filter? = some f) :
    (∃ text, step = .envFilter (some text)) ∨ (∃ m, step = .withLevel m) ∨ step = .envFilter none := by
  cases step with
  | withLevel m => exact .inr (.inl ⟨m, rfl⟩)
  | envFilter g =>
    cases g with
    | none => exact .inr (.inr rfl)
    | some text => exact .inl ⟨text, rfl⟩
  | level l => cases h
  | jsonFormat on => cases h
  | prettyPrint on => cases h

/-- Every series of changes has directives in force. -/
theorem exists_inForce (p : Preset) (steps : List LogStep) : ∃ d, InForce p steps d := by
  have hlevel : LastLevel p.config.level steps (p.config.run steps).level := run_level_eq_iff.1 rfl
  rcases last_or_none LogStep.filter? steps with ⟨before, step, after, f, rfl, hstep, hafter⟩ | hnone
  · rcases filter?_cases hstep with ⟨text, rfl⟩ | hdrops
    · exact ⟨_, .filter rfl hafter⟩
    · exact ⟨_, .level rfl hdrops hafter hlevel⟩
  · cases p with
    | standard => exact ⟨_, .standard hnone rfl hlevel⟩
    | production => exact ⟨_, .preset hnone rfl⟩
    | development => exact ⟨_, .preset hnone rfl⟩

/-- What a series of changes to a preset leads to. -/
structure Governed (p : Preset) (steps : List LogStep) : Prop where
  /-- The directives in force are those of the last change that concerns the filter. -/
  directives : ∀ d, (p.config.run steps).filterDirectives = d ↔ InForce p steps d
  /-- A filter hides a level that is set behind it. -/
  hidden : ∀ l, (p.config.run steps).envFilter ≠ none →
    (p.config.run (steps ++ [.level l])).filterDirectives = (p.config.run steps).filterDirectives
  /-- The hidden level comes into force once the filter is dropped, if no other one is set between. -/
  resurfaces : ∀ l between, (∀ s ∈ between, s.level? = none) →
    (p.config.run (steps ++ .level l :: (between ++ [.envFilter none]))).filterDirectives = l
  /-- The layout of the lines never matters, wherever it is changed. -/
  layout : ∀ before after on, steps = before ++ after →
    (p.config.run (before ++ .jsonFormat on :: after)).filterDirectives =
      (p.config.run steps).filterDirectives ∧
    (p.config.run (before ++ .prettyPrint on :: after)).filterDirectives =
      (p.config.run steps).filterDirectives

/-- Two configurations that agree in level and filter agree in their directives after the same
changes. -/
theorem run_filterDirectives_congr (c c' : LogConfig) (hlevel : c.level = c'.level)
    (hfilter : c.envFilter = c'.envFilter) (steps : List LogStep) :
    (c.run steps).filterDirectives = (c'.run steps).filterDirectives := by
  induction steps generalizing c c' with
  | nil => rw [run, run, List.foldl_nil, List.foldl_nil, filterDirectives, filterDirectives, hlevel,
      hfilter]
  | cons s steps ih =>
    refine ih (c.apply s) (c'.apply s) ?_ ?_
    · rw [apply_level, apply_level, hlevel]
    · rw [apply_envFilter, apply_envFilter, hfilter]

/-- **What is in force after any changes to any preset.** -/
theorem run_inForce (p : Preset) (steps : List LogStep) : Governed p steps where
  directives d := by
    refine ⟨?_, filterDirectives_of_inForce⟩
    rintro rfl
    obtain ⟨d, hd⟩ := exists_inForce p steps
    rwa [filterDirectives_of_inForce hd]
  hidden l hsome := by
    obtain ⟨f, hf⟩ := Option.ne_none_iff_exists'.1 hsome
    have hkept : (p.config.run (steps ++ [.level l])).envFilter = some f := by
      rw [run_append, run_envFilter (by simp [LogStep.filter?]), hf]
    rw [filterDirectives_of_some hkept, filterDirectives_of_some hf]
  resurfaces l between hbetween := by
    have hnone : (p.config.run (steps ++ .level l :: (between ++ [.envFilter none]))).envFilter =
        none := by
      rw [← List.cons_append, ← List.append_assoc]
      exact run_envFilter_of_last rfl (by simp)
    have hlevel : ∀ s ∈ between ++ [LogStep.envFilter none], s.level? = none := by
      rw [List.forall_mem_append]
      exact ⟨hbetween, by simp [LogStep.level?]⟩
    rw [filterDirectives_of_none hnone, run_level_of_last rfl hlevel]
  layout before after on hsteps := by
    subst hsteps
    rw [run_append, run_append, run_append]
    have hsame (s : LogStep) (hlevel : s.level? = none) (hfilter : s.filter? = none) :
        (((p.config.run before).apply s).run after).filterDirectives =
          ((p.config.run before).run after).filterDirectives := by
      refine run_filterDirectives_congr _ _ ?_ ?_ after
      · rw [apply_level, hlevel, Option.getD_none]
      · rw [apply_envFilter, hfilter, Option.getD_none]
    exact ⟨hsame _ rfl rfl, hsame _ rfl rfl⟩

/-- A level that is set behind a filter is in force once the filter is dropped. -/
example : (Preset.production.config.run [.level "warn", .jsonFormat false]).filterDirectives =
      "propref=info,propref_consumer=info,tower=warn,axum=warn" ∧
    (Preset.production.config.run [.level "warn", .envFilter none]).filterDirectives = "warn" := by
  decide

end LogConfig

end Accessors.Service
