import Accessors.Json.Quoted
import Accessors.Service.Config

/-!
# The health endpoint

One path is served, for two methods. An answer depends on the configuration and on the method and
path of the request, and on nothing else.

* `Request.path`: the path of a target, which is a path with a query or a whole address.
* `answer`: the response to a request.
* `AppState.serveAll`: requests that are served one after another and share a state.
-/

namespace Accessors.Service

/-- A request for a target, the target as the request line has it. -/
structure Request where
  method : String
  target : String
  body : String
  deriving DecidableEq, Repr

/-- A response, with the headers that say something about its body or about the path. -/
structure Response where
  status : Nat
  contentType : Option String
  contentLength : Option Nat
  allow : Option String
  body : String
  deriving DecidableEq, Repr

/-- A text up to its query or fragment. -/
def dropQuery (s : List Char) : List Char := s.takeWhile fun c => c != '?' && c != '#'

/-- What follows the first `://` of a text. -/
def afterScheme? : List Char → Option (List Char)
  | [] => none
  | ':' :: '/' :: '/' :: rest => some rest
  | _ :: rest => afterScheme? rest

/-- The path of a target. A target that begins with a slash is a path already; a whole address has
its path behind scheme and authority, and a slash for an empty one. -/
def targetPath (target : List Char) : List Char :=
  match target with
  | '/' :: _ => dropQuery target
  | _ =>
    match afterScheme? target with
    | none => []
    | some rest =>
      match dropQuery (rest.dropWhile fun c => c != '/' && c != '?' && c != '#') with
      | [] => ['/']
      | path => path

/-- The path of a request. -/
def Request.path (r : Request) : List Char := targetPath r.target.toList

/-- The path that is served. -/
def healthPath : String := "/health"

/-- The version that the service reports. -/
def version : String := "0.1.0"

/-- A JSON object of strings, its members in the order given. -/
def jsonObject (members : List (String × String)) : List Char :=
  let written := members.map fun m => Json.encode m.1.toList ++ ':' :: Json.encode m.2.toList
  '\x7b' :: [','].intercalate written ++ ['\x7d']

/-- What the service says about itself, keys in order. -/
def healthReport (c : Config) : String :=
  String.ofList <| jsonObject
    [("environment", c.environment.name), ("service", c.serviceName), ("status", "ok"),
      ("version", version)]

/-- The response to a request. -/
def answer (c : Config) (r : Request) : Response :=
  if r.path ≠ healthPath.toList then ⟨404, none, some 0, none, ""⟩
  else
    let report := healthReport c
    if r.method = "GET" then ⟨200, some "application/json", some report.utf8ByteSize, none, report⟩
    else if r.method = "HEAD" then
      ⟨200, some "application/json", some report.utf8ByteSize, none, ""⟩
    else ⟨405, none, some 0, some "GET,HEAD", ""⟩

/-- What the requests to one router share. -/
structure AppState where
  config : Config
  deriving DecidableEq, Repr

namespace AppState

/-- Serves a request: the response, and the state that the next request meets. -/
def serve (s : AppState) (r : Request) : Response × AppState := (answer s.config r, s)

/-- Serves requests one after another. -/
def serveAll (s : AppState) : List Request → List Response × AppState
  | [] => ([], s)
  | r :: rest =>
    let (response, s) := s.serve r
    let (responses, s) := s.serveAll rest
    (response :: responses, s)

end AppState

/-- The responses of a router, which begins with its configuration as the state. -/
def answerAll (c : Config) (requests : List Request) : List Response :=
  (AppState.serveAll ⟨c⟩ requests).1

end Accessors.Service
