import Accessors.Proofs.Service.Directives
import Accessors.Service.Logging

/-!
# Attempts to start the log

An attempt first selects a filter, which fails if no source holds one. Then it takes a place in the
process that can be taken once, and only the attempt that takes it writes a line. The filter comes
first, so without one every attempt fails in the same way, and with one the first attempt succeeds and
finds all later ones too late.

* `Selects`: the filter that is selected.
* `attemptStart_of_selects`, `attemptStart_of_error`: one attempt.
* `attemptStarts_of_started`, `attemptStarts_of_error`: attempts in a row.
* `startLogging_starts`: what any number of attempts in a fresh process tell and write.
-/

namespace Accessors.Service

variable {override : Option String} {c : LogConfig} {ds : List Directive} {e : FilterError}

/-! ## The filter -/

/-- The filter by which is logged: that of the process variable if its text is one, and else the one
that the configuration says. -/
inductive Selects (override : Option String) (c : LogConfig) : List Directive → Prop
  | override {text : String} {ds : List Directive} (htext : override = some text)
    (h : parseFilter text.toList = .ok ds) : Selects override c ds
  | own {ds : List Directive} (hno : ∀ text, override = some text → ¬ IsFilter text)
    (h : parseFilter c.filterDirectives.toList = .ok ds) : Selects override c ds

/-- Some source holds a filter. -/
def HasFilter (override : Option String) (c : LogConfig) : Prop :=
  (∃ text, override = some text ∧ IsFilter text) ∨ IsFilter c.filterDirectives

/-- A process variable without a filter is as good as absent. -/
theorem selectFilter_of_not_isFilter (hno : ∀ text, override = some text → ¬ IsFilter text) :
    selectFilter override c = parseFilter c.filterDirectives.toList := by
  unfold selectFilter
  cases override with
  | none => rfl
  | some text =>
    simp only
    cases htext : parseFilter text.toList with
    | error e => rfl
    | ok ds => exact absurd ⟨ds, htext⟩ (hno text rfl)

theorem selectFilter_of_selects (h : Selects override c ds) : selectFilter override c = .ok ds := by
  cases h with
  | override htext h =>
    subst htext
    simp [selectFilter, h]
  | own hno h => rw [selectFilter_of_not_isFilter hno, h]

/-- **A filter is selected if some source holds one**, and else the configuration's own text is at
fault. -/
theorem selects_or_fault (override : Option String) (c : LogConfig) :
    HasFilter override c ∧ (∃ ds, Selects override c ds) ∨
      ¬ HasFilter override c ∧ ∃ e, Fault c.filterDirectives e ∧ selectFilter override c = .error e := by
  by_cases hsome : ∃ text, override = some text ∧ IsFilter text
  · obtain ⟨text, htext, ds, hds⟩ := hsome
    exact .inl ⟨.inl ⟨text, htext, ds, hds⟩, ds, .override htext hds⟩
  · have hno : ∀ text, override = some text → ¬ IsFilter text := fun text htext h =>
      hsome ⟨text, htext, h⟩
    cases hown : parseFilter c.filterDirectives.toList with
    | ok ds => exact .inl ⟨.inr ⟨ds, hown⟩, ds, .own hno hown⟩
    | error e =>
      refine .inr ⟨?_, e, parseFilter_eq_error.1 hown, by rw [selectFilter_of_not_isFilter hno, hown]⟩
      rintro (h | ⟨ds, h⟩)
      · exact hsome h
      · rw [hown] at h
        cases h

/-! ## One attempt -/

/-- With a filter, an attempt succeeds exactly if none did before. -/
theorem attemptStart_of_selects (h : Selects override c ds) (started : Bool) :
    attemptStart override c started =
      if started then .error .alreadyStarted else .ok (startLine? c ds) := by
  rw [attemptStart, selectFilter_of_selects h]

/-- Without a filter, an attempt fails whatever happened before. -/
theorem attemptStart_of_error (h : selectFilter override c = .error e) (started : Bool) :
    attemptStart override c started = .error (.filter e) := by
  rw [attemptStart, h]

/-! ## Attempts in a row -/

/-- **Once one attempt has succeeded all others are refused**, and write nothing. -/
theorem attemptStarts_of_started (h : Selects override c ds) (n : Nat) :
    attemptStarts override c true n = (List.replicate n (.error .alreadyStarted), []) := by
  induction n with
  | zero => rfl
  | succ n ih => simp [attemptStarts, attemptStart_of_selects h, ih, List.replicate_succ]

/-- **Without a filter all attempts fail alike**, and write nothing. -/
theorem attemptStarts_of_error (h : selectFilter override c = .error e) (started : Bool) (n : Nat) :
    attemptStarts override c started n = (List.replicate n (.error (.filter e)), []) := by
  induction n with
  | zero => rfl
  | succ n ih => simp [attemptStarts, attemptStart_of_error h, ih, List.replicate_succ]

/-- In a fresh process the first attempt succeeds. -/
theorem startLogging_of_selects (h : Selects override c ds) (n : Nat) :
    startLogging override c (n + 1) =
      (.ok () :: List.replicate n (.error .alreadyStarted), (startLine? c ds).toList) := by
  simp [startLogging, attemptStarts, attemptStart_of_selects h, attemptStarts_of_started h]

/-! ## What is told and written -/

/-- What the attempts tell, failures in words. -/
def told (override : Option String) (c : LogConfig) (n : Nat) : List (Except String Unit) :=
  (startLogging override c n).1.map (·.mapError StartError.message)

/-- The lines that the attempts write. -/
def written (override : Option String) (c : LogConfig) (n : Nat) : List LogLine :=
  (startLogging override c n).2

theorem told_of_selects (h : Selects override c ds) (n : Nat) : told override c (n + 1) = .ok () ::
    List.replicate n (.error "a global default trace dispatcher has already been set") := by
  rw [told, startLogging_of_selects h, List.map_cons, List.map_replicate]
  exact Eq.refl _

theorem told_of_error (h : selectFilter override c = .error e) (n : Nat) :
    told override c n = List.replicate n (.error e.message) := by
  rw [told, startLogging, attemptStarts_of_error h, List.map_replicate]
  exact Eq.refl _

/-- The line that reports the start under a configuration. -/
structure ReportsStart (c : LogConfig) (line : LogLine) : Prop where
  level : line.level = .info
  target : line.target = "propref_consumer::logging"
  json : line.layout = .json ↔ c.jsonFormat = true
  pretty : line.layout = .pretty ↔ c.jsonFormat = false ∧ c.prettyPrint = true
  compact : line.layout = .compact ↔ c.jsonFormat = false ∧ c.prettyPrint = false
  /-- The message names the level, and the format by whether the line is structured. -/
  message : line.message = "Structured logging initialized (level: " ++ c.level ++ ", format: " ++
    (if line.layout = .json then "JSON" else "text") ++ ")"

theorem layout_cases (c : LogConfig) : (c.layout = .json ↔ c.jsonFormat = true) ∧
    (c.layout = .pretty ↔ c.jsonFormat = false ∧ c.prettyPrint = true) ∧
    (c.layout = .compact ↔ c.jsonFormat = false ∧ c.prettyPrint = false) := by
  unfold LogConfig.layout
  cases c.jsonFormat <;> cases c.prettyPrint <;> decide

/-- The format is named by whether the line is structured. -/
theorem startMessage_eq (c : LogConfig) : c.startMessage =
    "Structured logging initialized (level: " ++ c.level ++ ", format: " ++
      (if c.layout = .json then "JSON" else "text") ++ ")" := by
  have hword : (if c.layout = .json then "JSON" else "text") =
      if c.jsonFormat then "JSON" else "text" :=
    ite_congr (propext (layout_cases c).1) (fun _ => rfl) (fun _ => rfl)
  rw [hword]
  exact Eq.refl c.startMessage

/-- There is one such line. -/
theorem reportsStart_iff {line : LogLine} :
    ReportsStart c line ↔ line = ⟨c.layout, .info, loggingTarget, c.startMessage⟩ := by
  obtain ⟨hjson, hpretty, hcompact⟩ := layout_cases c
  constructor
  · rintro ⟨hlevel, htarget, hj, hp, hc, hmessage⟩
    have hlayout : line.layout = c.layout := by
      cases h : c.layout with
      | json => exact hj.2 (hjson.1 h)
      | pretty => exact hp.2 (hpretty.1 h)
      | compact => exact hc.2 (hcompact.1 h)
    have hsaid : line.message = c.startMessage := by
      rw [hmessage, hlayout, startMessage_eq]
    obtain ⟨layout, level, target, message⟩ := line
    exact (LogLine.mk.injEq ..).mpr ⟨hlayout, hlevel, htarget, hsaid⟩
  · rintro rfl
    exact ⟨rfl, rfl, hjson, hpretty, hcompact, startMessage_eq c⟩

/-- What `n` attempts to start the log in a fresh process come to. -/
structure Starts (override : Option String) (c : LogConfig) (n : Nat) : Prop where
  /-- With a filter, the first attempt succeeds and all others are refused. -/
  started : HasFilter override c → 1 ≤ n → told override c n = .ok () ::
    List.replicate (n - 1) (.error "a global default trace dispatcher has already been set")
  /-- Without one, every attempt is told what is wrong with the configuration's own text. -/
  unstarted : ¬ HasFilter override c → ∃ e, Fault c.filterDirectives e ∧
    told override c n = List.replicate n (.error e.message)
  count : (told override c n).length = n
  once : (written override c n).length ≤ 1
  /-- A line is written if the first attempt succeeds and the filter shows the line. -/
  line : ∀ line, line ∈ written override c n ↔ (told override c n).head? = some (.ok ()) ∧
    (∃ ds, Selects override c ds ∧ shows ds "propref_consumer::logging".toList .info = true) ∧
    ReportsStart c line
  /-- No attempt but the first writes anything. -/
  first : 1 ≤ n → written override c n = written override c 1

/-- The line of a start is the one that reports it, if the filter shows it. -/
theorem mem_startLine?_iff (h : Selects override c ds) {line : LogLine} :
    line ∈ (startLine? c ds).toList ↔
      (∃ ds, Selects override c ds ∧ shows ds "propref_consumer::logging".toList .info = true) ∧
        ReportsStart c line := by
  have hshown : (∃ ds, Selects override c ds ∧
      shows ds "propref_consumer::logging".toList .info = true) ↔
        shows ds loggingTarget.toList .info = true := by
    constructor
    · rintro ⟨ds', h', hshows⟩
      have hsame : ds' = ds := Except.ok.inj
        ((selectFilter_of_selects h').symm.trans (selectFilter_of_selects h))
      rwa [hsame] at hshows
    · exact fun hshows => ⟨ds, h, hshows⟩
  rw [hshown, reportsStart_iff, startLine?]
  cases shows ds loggingTarget.toList .info <;> simp

/-- With a filter, the first attempt does everything. -/
theorem starts_of_selects (h : Selects override c ds) (hfilter : HasFilter override c) (n : Nat) :
    Starts override c n := by
  cases n with
  | zero =>
    exact ⟨fun _ h0 => absurd h0 (by decide), fun hno => absurd hfilter hno, rfl, Nat.zero_le _,
      by simp [written, told, startLogging, attemptStarts], fun h0 => absurd h0 (by decide)⟩
  | succ n =>
    have hwritten (n : Nat) : written override c (n + 1) = (startLine? c ds).toList := by
      rw [written, startLogging_of_selects h]
    refine ⟨fun _ _ => told_of_selects h n, fun hno => absurd hfilter hno, ?_, ?_, fun line => ?_,
      fun _ => ?_⟩
    · rw [told_of_selects h, List.length_cons, List.length_replicate]
    · rw [hwritten]
      cases startLine? c ds <;> simp
    · rw [hwritten, mem_startLine?_iff h, told_of_selects h, List.head?_cons]
      simp
    · rw [hwritten, hwritten]

/-- Without a filter, nothing happens but the same failure over and over. -/
theorem starts_of_error (h : selectFilter override c = .error e)
    (hfault : Fault c.filterDirectives e) (hno : ¬ HasFilter override c) (n : Nat) :
    Starts override c n := by
  have hwritten (n : Nat) : written override c n = [] := by
    rw [written, startLogging, attemptStarts_of_error h]
  refine ⟨fun hfilter => absurd hfilter hno, fun _ => ⟨e, hfault, told_of_error h n⟩, ?_, ?_,
    fun line => ?_, fun _ => ?_⟩
  · rw [told_of_error h, List.length_replicate]
  · rw [hwritten]
    exact Nat.zero_le _
  · rw [hwritten, told_of_error h]
    cases n <;> simp [List.replicate_succ]
  · rw [hwritten, hwritten]

/-- **What any number of attempts to start the log come to**, whatever the process variable and the
configuration say. -/
theorem startLogging_starts (override : Option String) (c : LogConfig) (n : Nat) :
    Starts override c n := by
  rcases selects_or_fault override c with ⟨hfilter, ds, h⟩ | ⟨hno, e, hfault, h⟩
  · exact starts_of_selects h hfilter n
  · exact starts_of_error h hfault hno n

/-- The level `=info` is no filter, and what is told about it is not that a level is wrong. -/
theorem start_with_a_nameless_level :
    let c := Preset.standard.config.run [.withLevel "=info"]
    ¬ HasFilter none c ∧ told none c 1 = [.error "invalid filter directive"] ∧
      told none c 1 ≠ [.error ("error parsing level filter: expected one of \"off\", \"error\", " ++
        "\"warn\", \"info\", \"debug\", \"trace\", or a number 0-5")] := by
  intro c
  have htrim : trim "=info".toList = '=' :: "info".toList := by decide +kernel
  have hparse : Directive.parse "=info".toList = .error .malformed :=
    parse_of_not_canBegin htrim (by decide +kernel)
  have hown : c.filterDirectives = "=info" := by decide +kernel
  have hfault : parseFilter c.filterDirectives.toList = .error .malformed :=
    hown ▸ mapM_eq_error.2 ⟨[], "=info".toList, [], by decide +kernel, nofun, hparse⟩
  have hselect : selectFilter none c = .error .malformed := by
    rw [selectFilter, hfault]
  have htold : told none c 1 = [.error "invalid filter directive"] := told_of_error hselect 1
  refine ⟨?_, htold, ?_⟩
  · rintro (⟨text, htext, -⟩ | ⟨ds, hds⟩)
    · cases htext
    · cases hfault.symm.trans hds
  · rw [htold]
    simp

end Accessors.Service
