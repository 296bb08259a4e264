import Accessors.Text.Blank
import Accessors.Text.Digit
import Accessors.Text.LetterCase

/-!
# Configuration of the service

The service runs in one of three environments, each with its own defaults, and reads what differs
from them out of process variables.

* `Environment.parse`: an environment by one of its two names, in any letter case.
* `parsePort`: a port in decimal.
* `Config.run`: a series of changes to a configuration.
* `Config.load`: the configuration that a set of variables describes, or the first fault in it.
-/

namespace Accessors.Service

open Accessors.Text

/-- What a process is run for. -/
inductive Environment where
  | development
  | testing
  | production
  deriving DecidableEq, Repr

/-- A setting that can hold a bad value. -/
inductive Setting where
  | environment
  | port
  deriving DecidableEq, Repr

/-- A setting's name. -/
def Setting.name : Setting → String
  | environment => "environment"
  | port => "port"

/-- What a setting's value should have been. -/
def Setting.expected : Setting → String
  | environment => "development, testing, or production"
  | port => "valid port number (0-65535)"

/-- Why a configuration is refused. -/
inductive ConfigError where
  /-- The value given for a setting is none of its values. -/
  | invalid (setting : Setting) (value : String)
  /-- The address to listen on is blank. -/
  | blankHost
  /-- The service's own name is blank. -/
  | blankServiceName
  deriving DecidableEq, Repr

/-- The error in words. -/
def ConfigError.message : ConfigError → String
  | invalid setting value =>
    "Invalid value for field '" ++ setting.name ++ "': '" ++ value ++ "'. Expected: " ++
      setting.expected
  | blankHost => "Configuration validation failed: host must not be empty"
  | blankServiceName => "Configuration validation failed: service name must not be empty"

namespace Environment

/-- The environment's full name. -/
def name : Environment → String
  | development => "development"
  | testing => "testing"
  | production => "production"

/-- The environment with a given full or short name in lower case. -/
def ofName? (name : String) : Option Environment :=
  if name = "development" ∨ name = "dev" then some development
  else if name = "testing" ∨ name = "test" then some testing
  else if name = "production" ∨ name = "prod" then some production
  else none

/-- The environment that a text names, whatever its letter case. -/
def parse (text : String) : Except ConfigError Environment :=
  match ofName? (String.ofList (lowercase text.toList)) with
  | some e => .ok e
  | none => .error (.invalid .environment text)

/-- The environment serves the public. -/
def isProduction : Environment → Bool
  | production => true
  | _ => false

end Environment

/-- A port number. -/
abbrev Port := Fin 65536

/-- Reads digits onto a number, as long as the number stays a port. -/
def readPort : Port → List Char → Option Port
  | n, [] => some n
  | n, c :: rest =>
    match digit? c with
    | none => none
    | some d =>
      if h : n.val * 10 + d < 65536 then readPort ⟨n.val * 10 + d, h⟩ rest else none

/-- A port in decimal: digits, at least one, after an optional plus sign. -/
def parsePort (text : List Char) : Option Port :=
  match text with
  | '+' :: c :: rest => readPort 0 (c :: rest)
  | ['+'] => none
  | [] => none
  | digits => readPort 0 digits

/-- The configuration of the service. -/
structure Config where
  environment : Environment
  host : String
  port : Port
  logLevel : String
  serviceName : String
  deriving DecidableEq, Repr

namespace Config

/-- The name under which the service runs unless told otherwise. -/
def defaultServiceName : String := "propref-consumer"

/-- The defaults of an environment. Port zero lets the system choose one. -/
def ofEnvironment : Environment → Config
  | .development => ⟨.development, "127.0.0.1", 8080, "debug", defaultServiceName⟩
  | .testing => ⟨.testing, "127.0.0.1", 0, "warn", defaultServiceName⟩
  | .production => ⟨.production, "0.0.0.0", 8080, "info", defaultServiceName⟩

/-- Host and service name have to say something; the host is looked at first. -/
def validate (c : Config) : Except ConfigError Unit :=
  if isBlank c.host.toList then .error .blankHost
  else if isBlank c.serviceName.toList then .error .blankServiceName
  else .ok ()

/-- The address to listen on. -/
def bindAddress (c : Config) : String := c.host ++ ":" ++ toString c.port.val

end Config

/-- A change to one setting of a configuration. -/
inductive ConfigStep where
  | environment (e : Environment)
  | host (text : String)
  | port (p : Port)
  | logLevel (text : String)
  | serviceName (text : String)
  deriving DecidableEq, Repr

namespace Config

/-- A configuration after a change. A new environment does not bring its defaults along. -/
def apply (c : Config) : ConfigStep → Config
  | .environment e => { c with environment := e }
  | .host t => { c with host := t }
  | .port p => { c with port := p }
  | .logLevel t => { c with logLevel := t }
  | .serviceName t => { c with serviceName := t }

/-- A configuration after a series of changes. -/
def run (c : Config) (steps : List ConfigStep) : Config := steps.foldl apply c

/-- The configurations from the start through each change. -/
def history (c : Config) : List ConfigStep → List Config
  | [] => [c]
  | s :: rest => c :: history (c.apply s) rest

end Config

/-- A process variable: absent, or any bytes. -/
abbrev Variable := Option ByteArray

/-- The text of a variable; bytes that are no text count as absent. -/
def Variable.text? (v : Variable) : Option String := v.bind String.fromUTF8?

/-- The process variables that the service reads. -/
structure Variables where
  appEnv : Variable
  environment : Variable
  host : Variable
  port : Variable
  logLevel : Variable
  serviceName : Variable

namespace Variables

/-- The text that chooses the environment: the first of two variables that has one. -/
def environmentText? (v : Variables) : Option String :=
  v.appEnv.text?.or v.environment.text?

end Variables

/-- The environment that an optional text names, development without one. -/
def chooseEnvironment : Option String → Except ConfigError Environment
  | none => .ok .development
  | some text => Environment.parse text

/-- The port that an optional text holds, the default without one. -/
def choosePort (default : Port) : Option String → Except ConfigError Port
  | none => .ok default
  | some text =>
    match parsePort text.toList with
    | some p => .ok p
    | none => .error (.invalid .port text)

/-- The configuration that a set of variables describes. The environment is settled first, then
the port, and the outcome has to be valid. -/
def Config.load (v : Variables) : Except ConfigError Config := do
  let environment ← chooseEnvironment v.environmentText?
  let base := Config.ofEnvironment environment
  let port ← choosePort base.port v.port.text?
  let config : Config :=
    { environment := environment
      host := v.host.text?.getD base.host
      port := port
      logLevel := v.logLevel.text?.getD base.logLevel
      serviceName := v.serviceName.text?.getD base.serviceName }
  config.validate
  pure config

end Accessors.Service
