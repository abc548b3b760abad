import Pmiri.Http.Posts

/-!
# Requests to the loopback server

`http_api.py` and the `BaseHTTPRequestHandler` below it: what a request is before
`do_GET` or `do_POST` is called, and what `do_GET` does. A request whose head
`http.server` does not take is answered by `http.server`: no counter and no log
ever sees it.
-/

namespace Pmiri

open Py

/-! ## Lines -/

/-- A line that comes over the connection, without its line feed. -/
structure WireLine where
  bytes : List UInt8
  single : 10 ∉ bytes

/-- A line of the headers; a blank one would end them. -/
structure HeaderLine extends WireLine where
  notBlank : bytes ≠ [] ∧ bytes ≠ [13]

/-- The bytes of an ASCII text. -/
def ascii (text : String) : List UInt8 := text.toList.map fun c => UInt8.ofNat c.toNat

/-- `str(line, "iso-8859-1")` -/
def latin1 (bytes : List UInt8) : List Char := bytes.map fun b => Char.ofNat b.toNat

/-- `s.split()`, after the characters of a word. -/
def splitWordsFrom (word : List Char) : List Char → List (List Char)
  | [] => if word.isEmpty then [] else [word]
  | c :: cs =>
    if !isSpace c then splitWordsFrom (word ++ [c]) cs
    else if word.isEmpty then splitWordsFrom [] cs
    else word :: splitWordsFrom [] cs

/-- `s.split()` -/
def splitWords (cs : List Char) : List (List Char) := splitWordsFrom [] cs

theorem rstrip_append_cons {p : Char → Bool} {c : Char} (h : p c = false) (xs ys : List Char) :
    rstrip p (xs ++ c :: ys) = xs ++ c :: rstrip p ys := by
  rw [rstrip, rstrip, List.reverse_append, List.reverse_cons, List.append_assoc, List.dropWhile_append]
  split
  · rename_i hempty
    rw [List.isEmpty_iff.mp hempty]
    simp [h]
  · simp

/-- The limits of `http.client` and `http.server`: the bytes of a line, and the header lines before the blank one. -/
structure HeadLimits where
  maxLine : Nat := 65536
  /-- `_MAXHEADERS` is 100 and counts the blank line; where a version of Python does not count it, the limit is one more. -/
  maxHeaderLines : Nat := 99

/-- A request, and how what it needs answers. What the message parser finds in the header lines is `headers`. -/
structure Request where
  line : WireLine
  headerLines : List HeaderLine
  headers : (name : String) → Option String
  body : (contentLength : Int) → Except Raised ByteArray
  apiAuthenticated : (operation : String) → (raw : Dict) → (authenticationRef : String) → Except Raised Dict
  append : ReadAuditEvent → Except Raised Unit
  clock : Instant

/-- The request as its handler has it. -/
def Request.received (request : Request) (path : List Char) : Post where
  target := String.ofList path
  headers := request.headers
  body := request.body
  apiAuthenticated := request.apiAuthenticated
  append := request.append
  clock := request.clock

theorem not_mem_postLine {target version : WireLine} :
    10 ∉ ascii "POST " ++ target.bytes ++ 32 :: version.bytes := by
  have hpost : (10 : UInt8) ∉ ascii "POST " := by decide
  simp [hpost, target.single, version.single]

/-- The same request as `POST target version`. -/
def Request.posting (request : Request) (target version : WireLine) : Request :=
  { request with line := ⟨ascii "POST " ++ target.bytes ++ 32 :: version.bytes, not_mem_postLine⟩ }

/-! ## The head -/

/-- What becomes of the head of a request. -/
inductive HandedOn where
  /-- `http.server` sends an error page, or nothing, and is done. -/
  | refused (status : Option Nat)
  | get (request : Post)
  | post (request : Post)

section

variable [Runtime]

/-- The status of the error that the version of a request gets, if it gets one. -/
def versionError (version : List Char) : Option Nat :=
  if !"HTTP/".toList.isPrefixOf version then some 400
  else
    match splitOn '.' (version.drop 5) with
    | [major, minor] =>
      if [major, minor].any (fun n => n.isEmpty || !n.all isAsciiDigit || 10 < n.length) then some 400
      else if 2 ≤ (readInt (String.ofList major)).getD 0 then some 505
      else none
    | _ => some 400

/-- The words of a request line. -/
def requestWords (line : List Char) : List (List Char) := splitWords (rstrip (fun c => c == '\r' || c == '\n') line)

/-- `parse_request`, up to the headers: the command and the path, or the status of an error. -/
def parseWords (words : List (List Char)) : Except (Option Nat) (List Char × List Char) :=
  match words with
  | [] => .error none
  | [_] => .error (some 400)
  | [command, path] => if command = "GET".toList then .ok (command, path) else .error (some 400)
  | command :: path :: third :: rest =>
    match versionError ((third :: rest).getLast (List.cons_ne_nil _ _)) with
    | some status => .error (some status)
    | none => if rest.isEmpty then .ok (command, path) else .error (some 400)

/-- `handle_one_request`, up to the call of the method. The interim answer to `Expect: 100-continue` is none of the request. -/
def Request.handOn (limits : HeadLimits) (request : Request) : HandedOn :=
  if limits.maxLine < request.line.bytes.length + 1 then .refused (some 414)
  else
    match parseWords (requestWords (latin1 request.line.bytes)) with
    | .error status => .refused status
    | .ok (command, path) =>
      if request.headerLines.any (fun line => limits.maxLine < line.bytes.length + 1) ||
          limits.maxHeaderLines < request.headerLines.length then .refused (some 431)
      else if command = "GET".toList then .get (request.received path)
      else if command = "POST".toList then .post (request.received path)
      else .refused (some 501)

omit [Runtime] in
/-- The first word of the line of a post. -/
theorem requestWords_posting (request : Request) (target version : WireLine) :
    ∃ words, requestWords (latin1 (request.posting target version).line.bytes) = "POST".toList :: words := by
  have hline : latin1 (request.posting target version).line.bytes =
      "POST".toList ++ ' ' :: latin1 (target.bytes ++ 32 :: version.bytes) := by
    simp only [Request.posting, latin1, List.map_append, List.append_assoc]
    rfl
  rw [requestWords, hline, rstrip_append_cons (by decide)]
  exact ⟨_, rfl⟩

/-- `http.server` takes the head of a post, and hands the post on with this path. -/
structure TakesPost (limits : HeadLimits) (request : Request) (path : List Char) : Prop where
  line : request.line.bytes.length + 1 ≤ limits.maxLine
  words : ∃ version, requestWords (latin1 request.line.bytes) = ["POST".toList, path, version] ∧ versionError version = none
  headerLengths : ∀ line ∈ request.headerLines, line.bytes.length + 1 ≤ limits.maxLine
  headerLines : request.headerLines.length ≤ limits.maxHeaderLines

theorem TakesPost.path_unique {limits : HeadLimits} {request : Request} {path path' : List Char}
    (h : TakesPost limits request path) (h' : TakesPost limits request path') : path = path' := by
  obtain ⟨version, hwords, -⟩ := h.words
  obtain ⟨version', hwords', -⟩ := h'.words
  have heq := hwords.symm.trans hwords'
  simp only [List.cons.injEq, true_and] at heq
  exact heq.1

theorem parseWords_ok {words : List (List Char)} {command path : List Char} :
    parseWords words = .ok (command, path) ↔
      (words = [command, path] ∧ command = "GET".toList) ∨ ∃ version, words = [command, path, version] ∧ versionError version = none := by
  constructor
  · intro h
    unfold parseWords at h
    split at h
    · cases h
    · cases h
    · split at h
      · rename_i hcommand
        obtain ⟨rfl, rfl⟩ := Prod.mk.inj (Except.ok.inj h)
        exact .inl ⟨rfl, hcommand⟩
      · cases h
    · split at h
      · cases h
      · rename_i third rest _ hversion
        split at h
        · rename_i hrest
          obtain rfl := List.isEmpty_iff.mp hrest
          obtain ⟨rfl, rfl⟩ := Prod.mk.inj (Except.ok.inj h)
          exact .inr ⟨third, rfl, hversion⟩
        · cases h
  · rintro (⟨rfl, hcommand⟩ | ⟨version, rfl, hversion⟩)
    · simp only [parseWords, hcommand, ↓reduceIte]
    · simp only [parseWords, List.getLast_singleton, hversion, List.isEmpty_nil, ↓reduceIte]

theorem parseWords_post {words : List (List Char)} {path : List Char} :
    parseWords words = .ok ("POST".toList, path) ↔
      ∃ version, words = ["POST".toList, path, version] ∧ versionError version = none := by
  have hget : "POST".toList ≠ "GET".toList := by decide
  simp only [parseWords_ok, hget, and_false, false_or]

/-- A post reaches `do_POST` exactly if its head is taken. -/
theorem handOn_post_iff {limits : HeadLimits} {request : Request} {post : Post} :
    request.handOn limits = .post post ↔ ∃ path, TakesPost limits request path ∧ post = request.received path := by
  have hget : "POST".toList ≠ "GET".toList := by decide
  unfold Request.handOn
  constructor
  · intro h
    split at h
    · cases h
    · rename_i hline
      split at h
      · cases h
      · rename_i command path hparsed
        split at h
        · cases h
        · rename_i hheaders
          split at h
          · cases h
          · split at h
            · rename_i hcommand
              obtain rfl := HandedOn.post.inj h
              obtain rfl := hcommand
              simp only [Bool.or_eq_true, List.any_eq_true, decide_eq_true_eq, not_or, not_exists, not_and, Nat.not_lt] at hheaders
              exact ⟨path, ⟨Nat.not_lt.mp hline, parseWords_post.mp hparsed, hheaders.1, hheaders.2⟩, rfl⟩
            · cases h
  · rintro ⟨path, ⟨hline, hwords, hlengths, hlines⟩, rfl⟩
    have hheaders : (request.headerLines.any (fun line => limits.maxLine < line.bytes.length + 1) ||
        limits.maxHeaderLines < request.headerLines.length) = false := by
      simpa using ⟨hlengths, hlines⟩
    rw [if_neg (Nat.not_lt.mpr hline), parseWords_post.mpr hwords]
    simp only [hheaders, Bool.false_eq_true, ↓reduceIte, hget]

end

/-! ## Gets -/

/-- `LocalReadMetrics.snapshot` -/
def LocalReadMetrics.snapshot (m : LocalReadMetrics) : Dict := .ofItems [
  ("status", .str "OK"),
  ("transport", .str "LOOPBACK_ONLY"),
  ("metrics", (Dict.ofItems ([Metric.requests, .emitted, .rejected, .auditWriteFailures].map fun metric =>
    (metric.name, .int (m.values metric)))).toVal)]

/-- What a thread does: an effect, the taking of a snapshot of the counters, the sending of it, or an error page of
`http.server`. -/
inductive Work where
  | effect (e : Effect)
  | snapshot
  | sendSnapshot
  | page (status : Nat)

/-- `{"status": "OK", "transport": "LOOPBACK_ONLY"}` -/
def healthBody : Dict := .ofItems [("status", .str "OK"), ("transport", .str "LOOPBACK_ONLY")]

namespace LocalReadHTTPServer

section

variable [Runtime]

/-- `do_GET`, from where the target is split. -/
def routeGet (server : LocalReadHTTPServer) (request : Post) (parsed : SplitResult) : List Work :=
  if parsed.path = "/healthz".toList && parsed.query.isEmpty then [.effect (.send 200 healthBody)]
  else if parsed.path = "/metrics".toList && parsed.query.isEmpty then [.snapshot, .sendSnapshot]
  else (server.reject request 404 none).map .effect

/-- `do_GET` -/
def doGet (server : LocalReadHTTPServer) (request : Post) : List Work :=
  .effect (.increment .requests) ::
    match urlsplit request.path with
    | none => []
    | some parsed => server.routeGet request parsed

variable [FloatText]

/-- What the thread of a request does. -/
def work (server : LocalReadHTTPServer) : HandedOn → List Work
  | .refused none => []
  | .refused (some status) => [.page status]
  | .get request => server.doGet request
  | .post request => (server.doPost request).1.map .effect

/-- `handle_one_request` -/
def handleOneRequest (server : LocalReadHTTPServer) (limits : HeadLimits) (request : Request) : List Work :=
  server.work (request.handOn limits)

end

/-! ## Every post -/

/-- The statuses of what is sent. -/
def statuses (done : List Work) : List Nat :=
  done.filterMap fun
    | .effect (.send status _) => some status
    | .sendSnapshot => some 200
    | .page status => some status
    | _ => none

/-- What the handler does of this. -/
def effects (done : List Work) : List Effect :=
  done.filterMap fun
    | .effect e => some e
    | _ => none

/-- One response is sent, by whomever, and the request is audited and counted. -/
structure AnsweredOnce (server : LocalReadHTTPServer) (done : List Work) : Prop where
  once : (statuses done).length = 1
  answered : Answered server (effects done)

theorem effects_map (l : List Effect) : effects (l.map .effect) = l := by
  rw [effects, List.filterMap_map]
  exact List.filterMap_some

theorem statuses_map (l : List Effect) : (statuses (l.map .effect)).length = (responses l).length := by
  rw [statuses, List.filterMap_map]
  induction l with
  | nil => rfl
  | cons e l ih =>
    cases e with
    | send status body => simpa [responses] using ih
    | increment metric => simpa [responses] using ih
    | append event appended => simpa [responses] using ih

theorem answeredOnce_map {server : LocalReadHTTPServer} {l : List Effect} :
    AnsweredOnce server (l.map .effect) ↔ Answered server l := by
  constructor
  · intro h
    have hanswered := h.answered
    rwa [effects_map] at hanswered
  · intro h
    refine ⟨?_, ?_⟩
    · rw [statuses_map]
      exact h.once
    · rwa [effects_map]

/-- What is answered has a target that can be split. -/
theorem split_of_answered [Runtime] [FloatText] {server : LocalReadHTTPServer} {post : Post}
    (h : Answered server (server.doPost post).1) : (urlsplit post.path).isSome := by
  rw [Option.isSome_iff_ne_none]
  intro hsplit
  rw [doPost_of_not_split hsplit] at h
  exact absurd h.once (by simp [responses])

/-- Who is counted once was handed on. -/
theorem not_answeredOnce_refused {server : LocalReadHTTPServer} {done : List Work} (h : effects done = []) :
    ¬ AnsweredOnce server done := by
  intro hanswered
  have hcounted := hanswered.answered.counted
  rw [h] at hcounted
  cases hcounted

section

variable [Runtime]

/-- A post is not handed on as a get. -/
theorem handOn_posting_ne_get {limits : HeadLimits} {request : Request} {target version : WireLine} {get : Post} :
    (request.posting target version).handOn limits ≠ .get get := by
  intro h
  unfold Request.handOn at h
  split at h
  · cases h
  · split at h
    · cases h
    · rename_i command path hparsed
      obtain ⟨words, hpost⟩ := requestWords_posting request target version
      rw [hpost, parseWords_ok] at hparsed
      obtain rfl : "POST".toList = command := by
        rcases hparsed with ⟨hwords, -⟩ | ⟨third, hwords, -⟩ <;> exact (List.cons.inj hwords).1
      split at h
      · cases h
      · rw [if_neg (by decide)] at h
        split at h <;> cases h

variable [FloatText]

/-- For every target, version, headers and body a post is answered once, audited and counted if and only if `http.server`
takes its head and the target can be split. -/
theorem answered_iff (server : LocalReadHTTPServer) (limits : HeadLimits) (request : Request) (target version : WireLine) :
    AnsweredOnce server (server.handleOneRequest limits (request.posting target version)) ↔
      ∃ path, TakesPost limits (request.posting target version) path ∧
        (urlsplit ((request.posting target version).received path).path).isSome := by
  unfold handleOneRequest
  rcases hhanded : (request.posting target version).handOn limits with status | get | post
  · have hnone : effects (server.work (.refused status)) = [] := by cases status <;> rfl
    refine iff_of_false (not_answeredOnce_refused hnone) ?_
    rintro ⟨path, htakes, -⟩
    cases hhanded.symm.trans (handOn_post_iff.mpr ⟨path, htakes, rfl⟩)
  · exact absurd hhanded handOn_posting_ne_get
  · obtain ⟨path, htakes, rfl⟩ := handOn_post_iff.mp hhanded
    rw [work, answeredOnce_map]
    constructor
    · intro h
      exact ⟨path, htakes, split_of_answered h⟩
    · rintro ⟨path', htakes', hsplit⟩
      obtain rfl : path = path' := htakes.path_unique htakes'
      exact server.answered_of_split _ hsplit

end

/-- `POST http://[ HTTP/1.1` -/
def unsplitRequest : Request where
  line := ⟨ascii "POST http://[ HTTP/1.1\r", by decide⟩
  headerLines := []
  headers := fun _ => none
  body := fun _ => .ok ByteArray.empty
  apiAuthenticated := fun _ _ _ => .ok Dict.empty
  append := fun _ => .ok ()
  clock := .first

/-- It is taken, counted and not answered. -/
theorem unsplit_unanswered :
    letI := asciiRuntime
    letI := withoutFloats
    handleOneRequest ⟨1048576, true⟩ {} unsplitRequest = [.effect (.increment .requests)] ∧
      ¬AnsweredOnce ⟨1048576, true⟩ (handleOneRequest ⟨1048576, true⟩ {} unsplitRequest) := by
  let := asciiRuntime
  let := withoutFloats
  have hdone : handleOneRequest ⟨1048576, true⟩ {} unsplitRequest = [.effect (.increment .requests)] := by rfl
  rw [hdone]
  refine ⟨rfl, fun h => ?_⟩
  cases h.once

end LocalReadHTTPServer

end Pmiri
