import Pmiri.Audit.Events
import Pmiri.Python.JsonRead
import Pmiri.Python.Sha256
import Pmiri.Python.Url

/-!
# Posts to the loopback server

`http_api.py`: what the handler of a `POST` counts, appends to the audit log and
sends. The reading of the body, the read operation and the log answer as they
like. The target is split before anything is caught, so a target that `urlsplit`
does not take is counted and gets no answer.
-/

namespace Pmiri

open Py

/-- Any `Exception`. -/
inductive Raised where
  | exc (e : Exc)
  | other (cls msg : String)

/-- `except (UnicodeDecodeError, json.JSONDecodeError, TypeError, ValueError)` catches it. -/
def Raised.isBadRequest : Raised → Bool
  | .exc (.typeError _) | .exc (.valueError ..) => true
  | _ => false

/-! ## Counters -/

/-- `LocalReadMetrics._NAMES` -/
inductive Metric where
  | requests
  | emitted
  | rejected
  | auditWriteFailures
deriving DecidableEq

def Metric.name : Metric → String
  | .requests => "http_requests_total"
  | .emitted => "http_requests_emitted_total"
  | .rejected => "http_requests_rejected_total"
  | .auditWriteFailures => "audit_write_failures_total"

structure LocalReadMetrics where
  values : Metric → Nat := fun _ => 0

def LocalReadMetrics.increment (m : LocalReadMetrics) (metric : Metric) : LocalReadMetrics :=
  { values := fun other => if other = metric then m.values other + 1 else m.values other }

/-! ## The handler -/

/-- What the handler does: it counts, has an event appended or fails to, and sends a response. -/
inductive Effect where
  | increment (metric : Metric)
  | append (event : ReadAuditEvent) (appended : Bool)
  | send (status : Nat) (body : Dict)

structure LocalReadHTTPServer where
  maxRequestBytes : Int
  auditSink : Bool

/-- A request, and how what it needs answers. -/
structure Post where
  target : String
  headers : (name : String) → Option String
  body : (contentLength : Int) → Except Raised ByteArray
  apiAuthenticated : (operation : String) → (raw : Dict) → (authenticationRef : String) → Except Raised Dict
  append : ReadAuditEvent → Except Raised Unit
  clock : Instant

/-- `self.path`: the target, with one slash for several at its start. -/
def Post.path (post : Post) : List Char :=
  if ['/', '/'].isPrefixOf post.target.toList then '/' :: post.target.toList.dropWhile (· == '/') else post.target.toList

/-- `{"error": {"code": "REQUEST_REJECTED"}}` -/
def rejectedBody : Dict := .ofItems [("error", (Dict.ofItems [("code", .str "REQUEST_REJECTED")]).toVal)]

namespace LocalReadHTTPServer

section

variable [Runtime]

/-- `_reject`, with `_audit_rejection` -/
def reject (server : LocalReadHTTPServer) (post : Post) (status : Nat) (operation : Option String) : List Effect :=
  .increment .rejected ::
    if server.auditSink then
      let event := ReadAuditEvent.rejected operation status post.clock
      match post.append event with
      | .ok () => [.append event true, .send status rejectedBody]
      | .error _ => [.append event false, .increment .auditWriteFailures, .send 503 rejectedBody]
    else [.send status rejectedBody]

/-- The event of a response, with the fingerprints of its fence. -/
def emissionEvent (operation : String) (response : Dict) (clock : Instant) : Except Exc ReadAuditEvent := do
  let fence := (response.get? "emission_fence").getD Dict.empty.toVal
  let projectionFingerprint ← fence.getOf "projection_fingerprint"
  let typedResultFingerprint ← fence.getOf "typed_result_fingerprint"
  return ReadAuditEvent.emitted operation projectionFingerprint typedResultFingerprint clock

/-- The end of `do_POST`, once there is a response. -/
def emit (server : LocalReadHTTPServer) (post : Post) (operation : String) (response : Dict) : List Effect :=
  if server.auditSink then
    match emissionEvent operation response post.clock with
    | .error _ => [.increment .auditWriteFailures, .increment .rejected, .send 503 rejectedBody]
    | .ok event =>
      match post.append event with
      | .error _ => [.append event false, .increment .auditWriteFailures, .increment .rejected, .send 503 rejectedBody]
      | .ok () => [.append event true, .increment .emitted, .send 200 response]
  else [.increment .emitted, .send 200 response]

/-- `self.headers.get("Content-Type", "").split(";", 1)[0].strip().casefold()` -/
def contentType (post : Post) : List Char :=
  casefold (strip isSpace (partition ';' ((post.headers "Content-Type").getD "").toList).1)

/-- `int(self.headers.get("Content-Length", "-1"))`, or -1 -/
def contentLength (post : Post) : Int := (readInt ((post.headers "Content-Length").getD "-1")).getD (-1)

/-- `/v1/read/` -/
def readPath : List Char := "/v1/read/".toList

variable [FloatText]

omit [Runtime] in
/-- The request, as far as it is read before it is authenticated. -/
def readRequest (post : Post) (contentLength : Int) : Except Raised Dict :=
  match post.body contentLength with
  | .error e => .error e
  | .ok body =>
    match jsonLoadsBytes body >>= fun v => dictOr v (valueError "request_object_required") with
    | .error e => .error (.exc e)
    | .ok raw => .ok raw

/-- The `try` of `do_POST`, and what follows it. -/
def answer (server : LocalReadHTTPServer) (post : Post) (operation : String) (contentLength : Int) : List Effect :=
  match readRequest post contentLength with
  | .error e => server.reject post (if e.isBadRequest then 400 else 500) (some operation)
  | .ok raw =>
    match post.headers "X-PMIRI-Authentication-Ref" with
    | none | some "" => server.reject post 401 (some operation)
    | some authenticationRef =>
      match post.apiAuthenticated operation raw authenticationRef with
      | .error e => server.reject post (if e.isBadRequest then 400 else 500) (some operation)
      | .ok response => server.emit post operation response

/-- `do_POST`, from where the target is split. -/
def route (server : LocalReadHTTPServer) (post : Post) (parsed : SplitResult) : List Effect :=
  if !parsed.query.isEmpty || !readPath.isPrefixOf parsed.path then server.reject post 404 none
  else
    let operation := String.ofList (parsed.path.drop readPath.length)
    if !READ_OPERATIONS.contains operation || operation.toList.contains '/' then server.reject post 404 (some operation)
    else if contentType post ≠ "application/json".toList then server.reject post 415 (some operation)
    else if contentLength post < 0 ∨ server.maxRequestBytes < contentLength post then
      server.reject post (if server.maxRequestBytes < contentLength post then 413 else 411) (some operation)
    else server.answer post operation (contentLength post)

/-- `do_POST`: what it does, and whether it raises the `ValueError` of `urlsplit`. -/
def doPost (server : LocalReadHTTPServer) (post : Post) : List Effect × Bool :=
  match urlsplit post.path with
  | none => ([.increment .requests], true)
  | some parsed => (.increment .requests :: server.route post parsed, false)

end

/-! ## What a post has -/

/-- The responses that are sent. -/
def responses (effects : List Effect) : List (Nat × Dict) :=
  effects.filterMap fun
    | .send status body => some (status, body)
    | _ => none

/-- How often a counter is increased. -/
def increments (metric : Metric) (effects : List Effect) : Nat :=
  effects.countP fun
    | .increment other => other = metric
    | _ => false

/-- The event says of a response that it was emitted, with the two fingerprints of its fence. -/
structure SaysEmitted (event : ReadAuditEvent) (response : Dict) : Prop where
  outcome : event.outcome = "EMITTED"
  projection : ((response.get? "emission_fence").getD Dict.empty.toVal).getOf "projection_fingerprint" =
    .ok event.projectionFingerprint
  typedResult : ((response.get? "emission_fence").getD Dict.empty.toVal).getOf "typed_result_fingerprint" =
    .ok event.typedResultFingerprint

/-- There is one response. With an audit log it is a 200 only after an event that says so was appended, and a 503 without
the result if an event was not. The post is counted as emitted or as rejected. -/
structure Closes (server : LocalReadHTTPServer) (effects : List Effect) : Prop where
  once : (responses effects).length = 1
  audited : server.auditSink = true → ∀ before response after, effects = before ++ .send 200 response :: after →
    ∃ event, .append event true ∈ before ∧ SaysEmitted event response
  failed : ∀ event, .append event false ∈ effects → responses effects = [(503, rejectedBody)]
  decided : increments .emitted effects + increments .rejected effects = 1

/-- A post is answered, and counted once. -/
structure Answered (server : LocalReadHTTPServer) (effects : List Effect) : Prop extends Closes server effects where
  counted : increments .requests effects = 1

theorem audited_of_no_200 {server : LocalReadHTTPServer} {effects : List Effect} (h : ∀ response, .send 200 response ∉ effects) :
    server.auditSink = true → ∀ before response after, effects = before ++ .send 200 response :: after →
      ∃ event, .append event true ∈ before ∧ SaysEmitted event response := by
  rintro - before response after rfl
  exact absurd (List.mem_append_right _ List.mem_cons_self) (h response)

section

variable [Runtime]

theorem closes_reject (server : LocalReadHTTPServer) (post : Post) {status : Nat} (hstatus : status ≠ 200)
    (operation : Option String) : Closes server (server.reject post status operation) := by
  have hno : ∀ response, .send 200 response ∉ server.reject post status operation := by
    intro response
    rw [reject]
    split
    · dsimp only
      split
      · simp [hstatus.symm]
      · simp
    · simp [hstatus.symm]
  refine ⟨?_, audited_of_no_200 hno, ?_, ?_⟩
  all_goals
    rw [reject]
    split
    · dsimp only
      split
      · simp [responses, increments]
      · simp [responses, increments]
    · simp [responses, increments]

theorem requests_reject (server : LocalReadHTTPServer) (post : Post) (status : Nat) (operation : Option String) :
    increments .requests (server.reject post status operation) = 0 := by
  rw [reject]
  split
  · dsimp only
    split
    · simp [increments]
    · simp [increments]
  · simp [increments]

theorem saysEmitted_of_emissionEvent {operation : String} {response : Dict} {clock : Instant} {event : ReadAuditEvent}
    (h : emissionEvent operation response clock = .ok event) : SaysEmitted event response := by
  rw [emissionEvent] at h
  obtain ⟨projection, hprojection, h⟩ := bind_ok.mp h
  obtain ⟨typedResult, htypedResult, h⟩ := bind_ok.mp h
  cases h
  exact ⟨rfl, hprojection, htypedResult⟩

theorem closes_emit (server : LocalReadHTTPServer) (post : Post) (operation : String) (response : Dict) :
    Closes server (server.emit post operation response) := by
  rw [emit]
  split
  · split
    · exact ⟨by simp [responses], audited_of_no_200 (by simp), by simp, by simp [increments]⟩
    · rename_i event hevent
      split
      · refine ⟨by simp [responses], audited_of_no_200 (by simp), ?_, by simp [increments]⟩
        intro failed _
        simp [responses]
      · refine ⟨by simp [responses], ?_, by simp, by simp [increments]⟩
        intro _ before sent after h
        obtain ⟨rfl, rfl⟩ : before = [.append event true, .increment .emitted] ∧ sent = response := by
          rcases before with _ | ⟨first, _ | ⟨second, _ | ⟨third, rest⟩⟩⟩
          · simp at h
          · simp at h
          · simp at h
            obtain ⟨rfl, rfl, rfl, -⟩ := h
            exact ⟨rfl, rfl⟩
          · simp at h
        exact ⟨event, List.mem_cons_self, saysEmitted_of_emissionEvent hevent⟩
  · rename_i haudit
    exact ⟨by simp [responses], fun h => absurd h haudit, by simp, by simp [increments]⟩

theorem requests_emit (server : LocalReadHTTPServer) (post : Post) (operation : String) (response : Dict) :
    increments .requests (server.emit post operation response) = 0 := by
  rw [emit]
  split
  · split
    · simp [increments]
    · split
      · simp [increments]
      · simp [increments]
  · simp [increments]

/-- What follows the first count of a post: it closes the post, and counts no further one. -/
def Finishes (server : LocalReadHTTPServer) (effects : List Effect) : Prop :=
  Closes server effects ∧ increments .requests effects = 0

theorem finishes_reject (server : LocalReadHTTPServer) (post : Post) {status : Nat} (hstatus : status ≠ 200)
    (operation : Option String) : Finishes server (server.reject post status operation) :=
  ⟨server.closes_reject post hstatus operation, server.requests_reject post status operation⟩

omit [Runtime] in
theorem badRequest_ne_ok (e : Raised) : (if e.isBadRequest then 400 else 500) ≠ 200 := by
  split
  · decide
  · decide

variable [FloatText]

theorem finishes_answer (server : LocalReadHTTPServer) (post : Post) (operation : String) (contentLength : Int) :
    Finishes server (server.answer post operation contentLength) := by
  rw [answer]
  split
  · exact server.finishes_reject post (badRequest_ne_ok _) _
  · split
    · exact server.finishes_reject post (by decide) _
    · exact server.finishes_reject post (by decide) _
    · split
      · exact server.finishes_reject post (badRequest_ne_ok _) _
      · exact ⟨server.closes_emit post operation _, server.requests_emit post operation _⟩

theorem finishes_route (server : LocalReadHTTPServer) (post : Post) (parsed : SplitResult) :
    Finishes server (server.route post parsed) := by
  rw [route]
  split
  · exact server.finishes_reject post (by decide) _
  · dsimp only
    split
    · exact server.finishes_reject post (by decide) _
    · split
      · exact server.finishes_reject post (by decide) _
      · split
        · refine server.finishes_reject post ?_ _
          split
          · decide
          · decide
        · exact server.finishes_answer post _ _

omit [Runtime] [FloatText] in
/-- A post that is counted, and then finished, is answered. -/
theorem answered_of_finishes {server : LocalReadHTTPServer} {effects : List Effect} (h : Finishes server effects) :
    Answered server (.increment .requests :: effects) := by
  obtain ⟨⟨honce, haudited, hfailed, hdecided⟩, hrequests⟩ := h
  have hresponses : responses (.increment .requests :: effects) = responses effects := rfl
  refine ⟨⟨?_, ?_, ?_, ?_⟩, ?_⟩
  · rw [hresponses]
    exact honce
  · intro haudit before response after h
    rcases before with _ | ⟨first, before⟩
    · simp at h
    · obtain ⟨-, h⟩ := List.cons.inj h
      obtain ⟨event, hevent, hsays⟩ := haudited haudit before response after h
      exact ⟨event, List.mem_cons_of_mem _ hevent, hsays⟩
  · intro event hevent
    rw [hresponses]
    apply hfailed event
    simpa using hevent
  · simpa [increments] using hdecided
  · simpa [increments] using hrequests

/-- A target that cannot be split: the post is counted, and nothing is sent. -/
theorem doPost_of_not_split {server : LocalReadHTTPServer} {post : Post} (h : urlsplit post.path = none) :
    server.doPost post = ([.increment .requests], true) := by
  rw [doPost, h]

theorem answered_of_split (server : LocalReadHTTPServer) (post : Post) (h : (urlsplit post.path).isSome) :
    Answered server (server.doPost post).1 := by
  obtain ⟨parsed, hsplit⟩ := Option.isSome_iff_exists.mp h
  rw [doPost, hsplit]
  exact answered_of_finishes (server.finishes_route post parsed)

end

end LocalReadHTTPServer

end Pmiri
