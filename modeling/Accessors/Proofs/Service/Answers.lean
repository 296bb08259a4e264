import Accessors.Proofs.Json.Object

/-!
# Answers to requests

A router keeps one state for all of its requests, and no request changes it. So a request is answered
alike wherever it stands among others, and by its method and path alone.

* `AppState.serve_state`, `AppState.serveAll_eq`: the state after one request, and after many.
* `answer_congr`: what of a request counts.
* `Answers`, `answer_answers`: the answer to a request.
* `answerAll_served`: the answers to any requests.
-/

namespace Accessors.Service

variable {c : Config}

/-! ## Requests in a row -/

namespace AppState

/-- **No request changes the state.** -/
theorem serve_state (s : AppState) (r : Request) : (s.serve r).2 = s := rfl

/-- The requests behind the first one meet the state that it leaves. -/
theorem serveAll_cons (s : AppState) (r : Request) (rest : List Request) :
    s.serveAll (r :: rest) = ((s.serve r).1 :: ((s.serve r).2.serveAll rest).1,
      ((s.serve r).2.serveAll rest).2) := rfl

/-- **Requests in a row are answered as each would be alone**, since every one of them meets the state
that the router began with. -/
theorem serveAll_eq (s : AppState) (requests : List Request) :
    s.serveAll requests = (requests.map (answer s.config), s) := by
  induction requests with
  | nil => rfl
  | cons r rest ih =>
    rw [serveAll_cons, serve_state, ih]
    rfl

end AppState

/-- The answer at a place is that to the request at this place. -/
theorem answerAll_getElem? (c : Config) (requests : List Request) (i : Nat) :
    (answerAll c requests)[i]? = requests[i]?.map (answer c) := by
  rw [answerAll, AppState.serveAll_eq, List.getElem?_map]

/-- **Of a request the method and the path count**, not how its target is written otherwise, and not
its body. -/
theorem answer_congr {r s : Request} (hmethod : r.method = s.method) (hpath : r.path = s.path) :
    answer c r = answer c s := by
  rw [answer, answer, hmethod, hpath]

/-! ## The report -/

/-- What the service says about itself. -/
structure Reports (c : Config) (members : List (String × String)) : Prop where
  /-- These keys and no others, each of them once. -/
  keys : (members.map Prod.fst).Perm ["status", "service", "version", "environment"]
  status : members.lookup "status" = some "ok"
  service : members.lookup "service" = some c.serviceName
  version : members.lookup "version" = some version
  environment : members.lookup "environment" = some c.environment.name

/-- **The report is read back**, whatever the name of the service is. -/
theorem exists_reports (c : Config) :
    ∃ members, Json.decodeObject (healthReport c) = .ok members ∧ Reports c members := by
  refine ⟨_, Json.decodeObject_jsonObject _, ?_, ?_, ?_, ?_, ?_⟩
  · simp only [List.map_cons, List.map_nil]
    decide
  · simp [List.lookup_cons]
  · simp [List.lookup_cons]
  · simp [List.lookup_cons]
  · simp

/-! ## The answer to a request -/

/-- An answer is the one to a request. -/
structure Answers (c : Config) (r : Request) (a : Response) : Prop where
  get : r.path = "/health".toList → r.method = "GET" → a.status = 200 ∧
    a.contentType = some "application/json" ∧ a.contentLength = some a.body.utf8ByteSize ∧
    ∃ members, Json.decodeObject a.body = .ok members ∧ Reports c members
  /-- The answer to `GET` without its body. -/
  head : r.path = "/health".toList → r.method = "HEAD" →
    a = { answer c { r with method := "GET" } with body := "" }
  notAllowed : r.path = "/health".toList → r.method ≠ "GET" → r.method ≠ "HEAD" → a.status = 405
  notFound : r.path ≠ "/health".toList → a.status = 404

theorem answer_of_get {r : Request} (hpath : r.path = healthPath.toList) (hget : r.method = "GET") :
    answer c r = ⟨200, some "application/json", some (healthReport c).utf8ByteSize, none,
      healthReport c⟩ := by
  rw [answer, if_neg (not_not_intro hpath)]
  exact if_pos hget

theorem answer_of_head {r : Request} (hpath : r.path = healthPath.toList) (hhead : r.method = "HEAD") :
    answer c r = ⟨200, some "application/json", some (healthReport c).utf8ByteSize, none, ""⟩ := by
  have hget : r.method ≠ "GET" := by
    rw [hhead]
    decide
  rw [answer, if_neg (not_not_intro hpath)]
  exact (if_neg hget).trans (if_pos hhead)

theorem answer_of_other {r : Request} (hpath : r.path = healthPath.toList)
    (hget : r.method ≠ "GET") (hhead : r.method ≠ "HEAD") :
    answer c r = ⟨405, none, some 0, some "GET,HEAD", ""⟩ := by
  rw [answer, if_neg (not_not_intro hpath)]
  exact (if_neg hget).trans (if_neg hhead)

theorem answer_of_elsewhere {r : Request} (hpath : r.path ≠ healthPath.toList) :
    answer c r = ⟨404, none, some 0, none, ""⟩ := by
  rw [answer, if_pos hpath]

/-- **Every request is answered.** -/
theorem answer_answers (c : Config) (r : Request) : Answers c r (answer c r) where
  get hpath hget := by
    rw [answer_of_get hpath hget]
    exact ⟨rfl, rfl, rfl, exists_reports c⟩
  head hpath hhead := by
    rw [answer_of_head hpath hhead, answer_of_get (r := { r with method := "GET" }) hpath rfl]
  notAllowed hpath hget hhead := by rw [answer_of_other hpath hget hhead]
  notFound hpath := by rw [answer_of_elsewhere hpath]

/-! ## The answers to requests -/

/-- What requests to a router come to. -/
structure Served (c : Config) (requests : List Request) : Prop where
  /-- One answer each. -/
  length : (answerAll c requests).length = requests.length
  /-- Each is the answer to its request. -/
  answered : ∀ (i : Nat) (r : Request), requests[i]? = some r →
    ∃ a, (answerAll c requests)[i]? = some a ∧ Answers c r a
  /-- Two requests with one method and one path get one answer, wherever they stand among whatever
  other requests. -/
  alone : ∀ (others : List Request) (i j : Nat) (r s : Request), requests[i]? = some r →
    others[j]? = some s → r.method = s.method → r.path = s.path →
    (answerAll c requests)[i]? = (answerAll c others)[j]?

/-- **Any requests are answered one by one**, each by its own method and path alone. -/
theorem answerAll_served (c : Config) (requests : List Request) : Served c requests where
  length := by rw [answerAll, AppState.serveAll_eq, List.length_map]
  answered i r hr := ⟨answer c r, by rw [answerAll_getElem?, hr]; rfl, answer_answers c r⟩
  alone others i j r s hr hs hmethod hpath := by
    rw [answerAll_getElem?, answerAll_getElem?, hr, hs, Option.map_some, Option.map_some,
      answer_congr hmethod hpath]

end Accessors.Service
