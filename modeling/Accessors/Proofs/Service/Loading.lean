import Accessors.Proofs.Service.Settings

/-!
# What a set of variables decides

Six variables decide on a configuration, or on the first fault that keeps them from it. Each of them
is absent, holds a text, or holds bytes that are no text, which is as good as absent.

* `Variables.Describes`: a configuration has what the variables say, and the defaults of its
  environment where they say nothing.
* `Variables.Decides`: what has to come of a set of variables, by the first condition that applies.
* `load_decided`: loading comes to that, whatever the variables hold.
* `load_exported`: a configuration that is exported is loaded again, up to its own validation.
-/

namespace Accessors.Service

open Accessors.Text

/-! ## Variables -/

namespace Variable

/-- The bytes of the variable are those of a text. -/
def Holds (v : Variable) (t : String) : Prop := v = some t.toUTF8

/-- The variable is absent, or its bytes are those of no text. -/
def Unreadable (v : Variable) : Prop := ∀ t, ¬ v.Holds t

theorem text?_eq_some {v : Variable} {t : String} : v.text? = some t ↔ v.Holds t := by
  cases v with
  | none => simp [text?, Holds]
  | some bytes =>
    rw [text?, Option.bind_some, Holds, Option.some.injEq, String.fromUTF8?]
    constructor
    · intro h
      split at h
      · cases h; rfl
      · cases h
    · rintro rfl
      rw [String.toUTF8_eq_toByteArray, dif_pos t.isValidUTF8]
      rfl

theorem text?_eq_none {v : Variable} : v.text? = none ↔ v.Unreadable := by
  rw [Option.eq_none_iff_forall_ne_some]
  exact forall_congr' fun t => not_congr text?_eq_some

/-- What the variable says about a setting: what its text is read as, or the default if it has no
text. -/
inductive Gives {α : Type} (v : Variable) (reads : String → α → Prop) (default : α) : α → Prop
  | text {t : String} {a : α} (h : v.Holds t) (hread : reads t a) : v.Gives reads default a
  | default (h : v.Unreadable) : v.Gives reads default default

theorem getD_text? {v : Variable} {default t : String} (h : v.Gives Eq default t) :
    v.text?.getD default = t := by
  cases h with
  | text h hread => rw [text?_eq_some.2 h, hread]; rfl
  | default h => rw [text?_eq_none.2 h]; rfl

/-- A variable for a text always says something. -/
theorem gives_getD (v : Variable) (default : String) :
    v.Gives Eq default (v.text?.getD default) := by
  cases h : v.text? with
  | none => exact .default (text?_eq_none.1 h)
  | some t => exact .text (text?_eq_some.1 h) rfl

end Variable

/-! ## What the variables say -/

namespace Variables

/-- The text that chooses the environment. The second variable is only looked at if the first one
has no text. -/
inductive EnvironmentText (v : Variables) : String → Prop
  | appEnv {t : String} (h : v.appEnv.Holds t) : v.EnvironmentText t
  | environment {t : String} (hunreadable : v.appEnv.Unreadable) (h : v.environment.Holds t) :
    v.EnvironmentText t

/-- The environment that the variables choose. -/
inductive Chooses (v : Variables) : Environment → Prop
  | named {t : String} {e : Environment} (h : v.EnvironmentText t) (hname : e.IsNamedBy t) :
    v.Chooses e
  | unnamed (happEnv : v.appEnv.Unreadable) (henvironment : v.environment.Unreadable) :
    v.Chooses .development

/-- The port that a text writes. -/
def ReadsPort (t : String) (p : Port) : Prop := WritesPort t.toList p

/-- The configuration has each setting from its variable, as it stands there, or from the defaults
of the environment that is chosen. -/
structure Describes (v : Variables) (c : Config) : Prop where
  environment : v.Chooses c.environment
  host : v.host.Gives Eq (Config.ofEnvironment c.environment).host c.host
  port : v.port.Gives ReadsPort (Config.ofEnvironment c.environment).port c.port
  logLevel : v.logLevel.Gives Eq (Config.ofEnvironment c.environment).logLevel c.logLevel
  serviceName :
    v.serviceName.Gives Eq (Config.ofEnvironment c.environment).serviceName c.serviceName

/-- What has to come of a set of variables. The conditions are listed in the order in which they are
looked at; each constructor says that its own condition applies and none before it. -/
inductive Decides (v : Variables) : Except ConfigError Config → Prop
  | noEnvironment {t : String} (h : v.EnvironmentText t)
    (hno : ∀ e : Environment, ¬ e.IsNamedBy t) : v.Decides (.error (.invalid .environment t))
  | noPort {e : Environment} {t : String} (he : v.Chooses e) (h : v.port.Holds t)
    (hno : ∀ p, ¬ ReadsPort t p) : v.Decides (.error (.invalid .port t))
  | blankHost {c : Config} (h : v.Describes c) (hhost : isBlank c.host.toList = true) :
    v.Decides (.error .blankHost)
  | blankServiceName {c : Config} (h : v.Describes c) (hhost : isBlank c.host.toList = false)
    (hname : isBlank c.serviceName.toList = true) : v.Decides (.error .blankServiceName)
  | config {c : Config} (h : v.Describes c) (hhost : isBlank c.host.toList = false)
    (hname : isBlank c.serviceName.toList = false) : v.Decides (.ok c)

theorem environmentText?_eq_some {v : Variables} {t : String} :
    v.environmentText? = some t ↔ v.EnvironmentText t := by
  unfold environmentText?
  constructor
  · intro h
    cases happ : v.appEnv.text? with
    | none =>
      rw [happ, Option.none_or] at h
      exact .environment (Variable.text?_eq_none.1 happ) (Variable.text?_eq_some.1 h)
    | some s =>
      rw [happ, Option.some_or] at h
      cases h
      exact .appEnv (Variable.text?_eq_some.1 happ)
  · intro h
    cases h with
    | appEnv h => rw [Variable.text?_eq_some.2 h, Option.some_or]
    | environment hunreadable h =>
      rw [Variable.text?_eq_none.2 hunreadable, Option.none_or, Variable.text?_eq_some.2 h]

theorem environmentText?_eq_none {v : Variables} : v.environmentText? = none ↔
    v.appEnv.Unreadable ∧ v.environment.Unreadable := by
  rw [environmentText?, Option.or_eq_none_iff, Variable.text?_eq_none, Variable.text?_eq_none]

theorem chooseEnvironment_eq_ok {v : Variables} {e : Environment} (h : v.Chooses e) :
    chooseEnvironment v.environmentText? = .ok e := by
  cases h with
  | named h hname =>
    rw [environmentText?_eq_some.2 h]
    exact Environment.parse_eq_ok.2 hname
  | unnamed happEnv henvironment =>
    rw [environmentText?_eq_none.2 ⟨happEnv, henvironment⟩]
    rfl

theorem choosePort_eq_ok {v : Variables} {default p : Port} (h : v.port.Gives ReadsPort default p) :
    choosePort default v.port.text? = .ok p := by
  cases h with
  | text h hread =>
    rw [Variable.text?_eq_some.2 h, choosePort, parsePort_eq_some.2 hread]
  | default h => rw [Variable.text?_eq_none.2 h, choosePort]

theorem choosePort_eq_error {v : Variables} {t : String} (h : v.port.Holds t)
    (hno : ∀ p, ¬ ReadsPort t p) (default : Port) :
    choosePort default v.port.text? = .error (.invalid .port t) := by
  have hnone : parsePort t.toList = none := by
    rw [Option.eq_none_iff_forall_ne_some]
    exact fun p hp => hno p (parsePort_eq_some.1 hp)
  rw [Variable.text?_eq_some.2 h, choosePort, hnone]

/-- Some environment is chosen, or the text for it is the name of none. -/
theorem chooses_or_not (v : Variables) :
    (∃ e, v.Chooses e) ∨ ∃ t, v.EnvironmentText t ∧ ∀ e : Environment, ¬ e.IsNamedBy t := by
  cases htext : v.environmentText? with
  | none =>
    obtain ⟨happEnv, henvironment⟩ := environmentText?_eq_none.1 htext
    exact .inl ⟨_, .unnamed happEnv henvironment⟩
  | some t =>
    have ht := environmentText?_eq_some.1 htext
    by_cases hname : ∃ e : Environment, e.IsNamedBy t
    · obtain ⟨e, he⟩ := hname
      exact .inl ⟨e, .named ht he⟩
    · exact .inr ⟨t, ht, not_exists.1 hname⟩

/-- Some port is given, or the text for it is none. -/
theorem gives_port_or_not (v : Variables) (default : Port) :
    (∃ p, v.port.Gives ReadsPort default p) ∨ ∃ t, v.port.Holds t ∧ ∀ p, ¬ ReadsPort t p := by
  cases htext : v.port.text? with
  | none => exact .inl ⟨_, .default (Variable.text?_eq_none.1 htext)⟩
  | some t =>
    have ht := Variable.text?_eq_some.1 htext
    by_cases hport : ∃ p, ReadsPort t p
    · obtain ⟨p, hp⟩ := hport
      exact .inl ⟨p, .text ht hp⟩
    · exact .inr ⟨t, ht, not_exists.1 hport⟩

end Variables

/-! ## Loading -/

namespace Config

/-- A text that is no environment ends the loading. -/
theorem load_of_noEnvironment {v : Variables} {t : String} (h : v.EnvironmentText t)
    (hno : ∀ e : Environment, ¬ e.IsNamedBy t) : load v = .error (.invalid .environment t) := by
  have hchoose : chooseEnvironment v.environmentText? = .error (.invalid .environment t) := by
    rw [Variables.environmentText?_eq_some.2 h]
    exact Environment.parse_eq_error.2 ⟨hno, rfl⟩
  rw [load, hchoose]
  rfl

/-- A text that is no port ends the loading, once there is an environment. -/
theorem load_of_noPort {v : Variables} {e : Environment} {t : String} (he : v.Chooses e)
    (h : v.port.Holds t) (hno : ∀ p, ¬ Variables.ReadsPort t p) :
    load v = .error (.invalid .port t) := by
  have hchoose := Variables.chooseEnvironment_eq_ok he
  have hport := Variables.choosePort_eq_error h hno (ofEnvironment e).port
  rw [load, hchoose]
  simp only [bind, Except.bind, hport]

/-- **A configuration that the variables describe is loaded**, if it is valid. -/
theorem load_of_describes {v : Variables} {c : Config} (h : v.Describes c) :
    load v = c.validate.map fun _ => c := by
  have hchoose := Variables.chooseEnvironment_eq_ok h.environment
  have hport := Variables.choosePort_eq_ok h.port
  rw [load, hchoose]
  simp only [bind, Except.bind, hport, Variable.getD_text? h.host, Variable.getD_text? h.logLevel,
    Variable.getD_text? h.serviceName]
  cases c.validate <;> rfl

theorem validate_eq_ok {c : Config} : c.validate = .ok () ↔
    isBlank c.host.toList = false ∧ isBlank c.serviceName.toList = false := by
  unfold validate
  cases isBlank c.host.toList <;> cases isBlank c.serviceName.toList <;> simp

/-- Whatever is decided is what loading comes to. -/
theorem load_of_decides {v : Variables} {o : Except ConfigError Config} (h : v.Decides o) :
    load v = o := by
  cases h with
  | noEnvironment h hno => exact load_of_noEnvironment h hno
  | noPort he h hno => exact load_of_noPort he h hno
  | blankHost h hhost => simp [load_of_describes h, validate, hhost, Except.map]
  | blankServiceName h hhost hname => simp [load_of_describes h, validate, hhost, hname, Except.map]
  | config h hhost hname => simp [load_of_describes h, validate, hhost, hname, Except.map]

/-- Every set of variables decides on something. -/
theorem exists_decides (v : Variables) : ∃ o, v.Decides o := by
  rcases v.chooses_or_not with ⟨e, he⟩ | ⟨t, ht, hno⟩
  · rcases v.gives_port_or_not (ofEnvironment e).port with ⟨p, hp⟩ | ⟨t, ht, hno⟩
    · -- With an environment and a port, the other settings only take what they are given.
      let c : Config := ⟨e, v.host.text?.getD (ofEnvironment e).host, p,
        v.logLevel.text?.getD (ofEnvironment e).logLevel,
        v.serviceName.text?.getD (ofEnvironment e).serviceName⟩
      have hc : v.Describes c := ⟨he, v.host.gives_getD _, hp, v.logLevel.gives_getD _,
        v.serviceName.gives_getD _⟩
      cases hhost : isBlank c.host.toList with
      | true => exact ⟨_, .blankHost hc hhost⟩
      | false =>
        cases hname : isBlank c.serviceName.toList with
        | true => exact ⟨_, .blankServiceName hc hhost hname⟩
        | false => exact ⟨_, .config hc hhost hname⟩
    · exact ⟨_, .noPort he ht hno⟩
  · exact ⟨_, .noEnvironment ht hno⟩

/-- **Loading comes to what the variables decide on**, whatever they hold. In particular a text of
the first variable that is no environment is a fault whatever the second one holds, and every
configuration that is loaded is valid. -/
theorem load_decided (v : Variables) :
    (∀ o, load v = o ↔ v.Decides o) ∧
    (∀ t other, v.appEnv.Holds t → (∀ e : Environment, ¬ e.IsNamedBy t) →
      load { v with environment := other } = .error (.invalid .environment t)) ∧
    ∀ c, load v = .ok c → c.validate = .ok () := by
  have hiff (o : Except ConfigError Config) : load v = o ↔ v.Decides o := by
    refine ⟨?_, load_of_decides⟩
    rintro rfl
    obtain ⟨o, ho⟩ := exists_decides v
    rwa [load_of_decides ho]
  refine ⟨hiff, fun t other ht hno => load_of_noEnvironment (.appEnv ht) hno, fun c hc => ?_⟩
  cases (hiff _).1 hc with
  | config h hhost hname => exact validate_eq_ok.2 ⟨hhost, hname⟩

/-- The first variable is unreadable, the second one is not, and a bad port comes before a blank
host. -/
example : load
    ⟨some ⟨#[0xFF]⟩, some "Prod".toUTF8, some " ".toUTF8, some "65536".toUTF8, none, none⟩ =
      .error (.invalid .port "65536") := by
  decide +kernel

/-! ## Exporting -/

/-- The variables that say what a configuration is. Each setting is written out as text; the second
variable for the environment can be anything. -/
def exported (c : Config) (environment : Variable) : Variables where
  appEnv := some c.environment.name.toUTF8
  environment := environment
  host := some c.host.toUTF8
  port := some (toString c.port.val).toUTF8
  logLevel := some c.logLevel.toUTF8
  serviceName := some c.serviceName.toUTF8

theorem describes_exported (c : Config) (environment : Variable) :
    (c.exported environment).Describes c where
  environment := .named (.appEnv rfl) (Environment.parse_eq_ok.1 (Environment.parse_name _))
  host := .text rfl rfl
  port := .text rfl (parsePort_eq_some.1 (parsePort_toString _))
  logLevel := .text rfl rfl
  serviceName := .text rfl rfl

/-- **An exported configuration is loaded again** if it is valid, and else its own fault is told. -/
theorem load_exported (c : Config) (environment : Variable) :
    load (c.exported environment) = c.validate.map fun _ => c :=
  load_of_describes (describes_exported c environment)

end Config

end Accessors.Service
