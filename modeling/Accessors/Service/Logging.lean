import Accessors.Service.Filter

/-!
# Logging of the service

* `LogConfig`: level, layout and filter, with three presets.
* `LogConfig.run`: a series of changes to a configuration.
* `startLogging`: what several attempts to start logging in one process answer and write.
-/

namespace Accessors.Service

/-- How the service writes its log. -/
structure LogConfig where
  level : String
  jsonFormat : Bool
  prettyPrint : Bool
  /-- Directives that take the place of the level. -/
  envFilter : Option String
  deriving DecidableEq, Repr

/-- The configurations that come with the service. -/
inductive Preset where
  | standard
  | production
  | development
  deriving DecidableEq, Repr

/-- A preset's configuration. -/
def Preset.config : Preset → LogConfig
  | standard => ⟨"info", false, true, none⟩
  | production =>
    ⟨"info", true, false, some "propref=info,propref_consumer=info,tower=warn,axum=warn"⟩
  | development =>
    ⟨"debug", false, true, some "propref=debug,propref_consumer=debug,axum=debug"⟩

/-- A change to a configuration. -/
inductive LogStep where
  /-- Sets the level and drops the filter that would hide it. -/
  | withLevel (level : String)
  | level (level : String)
  | envFilter (filter : Option String)
  | jsonFormat (on : Bool)
  | prettyPrint (on : Bool)
  deriving DecidableEq, Repr

namespace LogConfig

/-- A configuration after a change. -/
def apply (c : LogConfig) : LogStep → LogConfig
  | .withLevel l => { c with level := l, envFilter := none }
  | .level l => { c with level := l }
  | .envFilter f => { c with envFilter := f }
  | .jsonFormat on => { c with jsonFormat := on }
  | .prettyPrint on => { c with prettyPrint := on }

/-- A configuration after a series of changes. -/
def run (c : LogConfig) (steps : List LogStep) : LogConfig := steps.foldl apply c

/-- The configurations from the start through each change. -/
def history (c : LogConfig) : List LogStep → List LogConfig
  | [] => [c]
  | s :: rest => c :: history (c.apply s) rest

/-- The directives in force: the filter if there is one, else the level. -/
def filterDirectives (c : LogConfig) : String := c.envFilter.getD c.level

end LogConfig

/-- The shape of a log line. -/
inductive Layout where
  | json
  | pretty
  | compact
  deriving DecidableEq, Repr

/-- The layout's name. -/
def Layout.name : Layout → String
  | json => "json"
  | pretty => "pretty"
  | compact => "compact"

namespace LogConfig

/-- The layout of a configuration's lines; structured output goes before pretty printing. -/
def layout (c : LogConfig) : Layout :=
  if c.jsonFormat then .json else if c.prettyPrint then .pretty else .compact

/-- What is written once logging has started. -/
def startMessage (c : LogConfig) : String :=
  "Structured logging initialized (level: " ++ c.level ++ ", format: " ++
    (if c.jsonFormat then "JSON" else "text") ++ ")"

end LogConfig

/-- One line of the log. -/
structure LogLine where
  layout : Layout
  level : Level
  target : String
  message : String
  deriving DecidableEq, Repr

/-- Why logging does not start. -/
inductive StartError where
  | filter (e : FilterError)
  | alreadyStarted
  deriving DecidableEq, Repr

/-- The error in words. -/
def StartError.message : StartError → String
  | filter e => e.message
  | alreadyStarted => "a global default trace dispatcher has already been set"

/-- The part of the service that reports the start. -/
def loggingTarget : String := "propref_consumer::logging"

/-- The directives to log by: those of the process variable if it holds valid ones, else those
of the configuration. -/
def selectFilter (override : Option String) (c : LogConfig) :
    Except FilterError (List Directive) :=
  let own := parseFilter c.filterDirectives.toList
  match override with
  | none => own
  | some text =>
    match parseFilter text.toList with
    | .ok directives => .ok directives
    | .error _ => own

/-- The line that a successful start writes, unless it is filtered out. -/
def startLine? (c : LogConfig) (directives : List Directive) : Option LogLine :=
  if shows directives loggingTarget.toList .info then
    some ⟨c.layout, .info, loggingTarget, c.startMessage⟩
  else none

/-- One attempt to start logging; `started` says whether an earlier one succeeded. -/
def attemptStart (override : Option String) (c : LogConfig) (started : Bool) :
    Except StartError (Option LogLine) :=
  match selectFilter override c with
  | .error e => .error (.filter e)
  | .ok directives =>
    if started then .error .alreadyStarted else .ok (startLine? c directives)

/-- Attempts to start logging one after another, in a process where `started` says whether it
has been started before: the result of each attempt, and the lines written. -/
def attemptStarts (override : Option String) (c : LogConfig) :
    Bool → Nat → List (Except StartError Unit) × List LogLine
  | _, 0 => ([], [])
  | started, n + 1 =>
    match attemptStart override c started with
    | .error e =>
      let (results, lines) := attemptStarts override c started n
      (.error e :: results, lines)
    | .ok line =>
      let (results, lines) := attemptStarts override c true n
      (.ok () :: results, line.toList ++ lines)

/-- A number of attempts to start logging in a fresh process. -/
def startLogging (override : Option String) (c : LogConfig) (times : Nat) :
    List (Except StartError Unit) × List LogLine :=
  attemptStarts override c false times

end Accessors.Service
