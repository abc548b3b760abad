import Mathlib.Algebra.Order.BigOperators.Group.List
import Pmiri.Http.Requests
import Pmiri.Interleaving

/-!
# Traffic of the loopback server

`http_api.py`: a thread for every request, with the counters and the audit log
shared. What the threads do interleaves, one effect at a time, and a snapshot of
the counters may wait for its sending. What `/metrics` shows are the counters of
some moment, and at every moment they agree with each other and with the log.
-/

namespace Pmiri

open Py

/-- What all threads share. -/
structure Traffic where
  metrics : LocalReadMetrics := {}
  log : List ReadAuditEvent := []

def Work.act (s : Traffic) : Work → Traffic
  | .effect (.increment metric) => { s with metrics := s.metrics.increment metric }
  | .effect (.append event true) => { s with log := s.log ++ [event] }
  | _ => s

/-- The thread of a request: what it has done, and what it still does, the counters that its snapshot has taken, and those
that it has sent. -/
structure Handler where
  handed : HandedOn
  done : List Work := []
  todo : List Work
  taken : Option LocalReadMetrics := none
  shown : Option LocalReadMetrics := none

/-- The thread once it has done the first of what it still does, with the counters as they were. -/
def Handler.doing (h : Handler) (metrics : LocalReadMetrics) (work : Work) (rest : List Work) : Handler where
  handed := h.handed
  done := h.done ++ [work]
  todo := rest
  taken := match work with
    | .snapshot => some metrics
    | _ => h.taken
  shown := match work with
    | .sendSnapshot => h.taken
    | _ => h.shown

@[simp] theorem Handler.handed_doing (h : Handler) (metrics : LocalReadMetrics) (work : Work) (rest : List Work) :
    (h.doing metrics work rest).handed = h.handed := rfl

@[simp] theorem Handler.done_doing (h : Handler) (metrics : LocalReadMetrics) (work : Work) (rest : List Work) :
    (h.doing metrics work rest).done = h.done ++ [work] := rfl

@[simp] theorem Handler.todo_doing (h : Handler) (metrics : LocalReadMetrics) (work : Work) (rest : List Work) :
    (h.doing metrics work rest).todo = rest := rfl

/-- The next effect of a thread. -/
def Handler.proceed (s : Traffic) (_ : Unit) (h : Handler) : Traffic × Handler :=
  match h.todo with
  | [] => (s, h)
  | work :: rest => (work.act s, h.doing s.metrics work rest)

def HandedOn.isPost : HandedOn → Bool
  | .post _ => true
  | _ => false

namespace LocalReadHTTPServer

section

variable [Runtime] [FloatText]

def handler (server : LocalReadHTTPServer) (limits : HeadLimits) (request : Request) : Handler where
  handed := request.handOn limits
  todo := server.work (request.handOn limits)

/-- A thread is started, or one has its next effect. -/
abbrev TrafficOp := Interleaving.Op Request Empty Unit

def trafficStep (server : LocalReadHTTPServer) (limits : HeadLimits) :
    Interleaving.State Traffic Handler → TrafficOp → Interleaving.State Traffic Handler :=
  Interleaving.step (server.handler limits) (fun s _ => s) Handler.proceed

end

/-! ## Counting -/

/-- How often a counter is increased. -/
def countOf (metric : Metric) (done : List Work) : Nat :=
  done.countP fun
    | .effect (.increment other) => other = metric
    | _ => false

/-- How many events of emissions are appended. -/
def emissions (done : List Work) : Nat :=
  done.countP fun
    | .effect (.append event true) => event.outcome == "EMITTED"
    | _ => false

/-- How many responses with status 200 are sent. -/
def successes (done : List Work) : Nat :=
  done.countP fun
    | .effect (.send status _) => status == 200
    | _ => false

/-- What a thread has done so far: it is counted at most once, and decided only then; its decision to emit follows the
event in the log, and the response of a post with status 200 follows the decision. -/
@[mk_iff]
structure Orderly (server : LocalReadHTTPServer) (isPost : Bool) (done : List Work) : Prop where
  decided : countOf .emitted done + countOf .rejected done ≤ countOf .requests done
  once : countOf .requests done ≤ 1
  logged : server.auditSink = true → countOf .emitted done ≤ emissions done
  answered : isPost = true → successes done ≤ countOf .emitted done

/-- What a thread has done is orderly, and stays so while it does the rest. -/
def OrderlyFrom (server : LocalReadHTTPServer) (isPost : Bool) (done : List Work) : List Work → Prop
  | [] => Orderly server isPost done
  | work :: rest => Orderly server isPost done ∧ OrderlyFrom server isPost (done ++ [work]) rest

theorem orderly_of_orderlyFrom {server : LocalReadHTTPServer} {isPost : Bool} {done todo : List Work}
    (h : OrderlyFrom server isPost done todo) : Orderly server isPost done := by
  cases todo with
  | nil => exact h
  | cons work rest => exact h.1

section

variable [Runtime]

theorem orderly_reject (server : LocalReadHTTPServer) (request : Post) {status : Nat} (hstatus : status ≠ 200)
    (operation : Option String) (isPost : Bool) :
    OrderlyFrom server isPost [] (.effect (.increment .requests) :: (server.reject request status operation).map .effect) := by
  rw [reject]
  split
  · dsimp only
    split
    · simp [OrderlyFrom, orderly_iff, countOf, emissions, successes, hstatus]
    · simp [OrderlyFrom, orderly_iff, countOf, emissions, successes]
  · simp [OrderlyFrom, orderly_iff, countOf, emissions, successes, hstatus]

theorem orderly_emit (server : LocalReadHTTPServer) (request : Post) (operation : String) (response : Dict) :
    OrderlyFrom server true [] (.effect (.increment .requests) :: (server.emit request operation response).map .effect) := by
  rw [emit]
  split
  · split
    · simp [OrderlyFrom, orderly_iff, countOf, emissions, successes]
    · rename_i event hevent
      have hemitted : event.outcome = "EMITTED" := (saysEmitted_of_emissionEvent hevent).outcome
      split
      · simp [OrderlyFrom, orderly_iff, countOf, emissions, successes]
      · simp [OrderlyFrom, orderly_iff, countOf, emissions, successes, hemitted]
  · rename_i haudit
    simp [OrderlyFrom, orderly_iff, countOf, emissions, successes, haudit]

omit [Runtime] in
theorem orderly_counted (server : LocalReadHTTPServer) (isPost : Bool) :
    OrderlyFrom server isPost [] [.effect (.increment .requests)] := by
  simp [OrderlyFrom, orderly_iff, countOf, emissions, successes]

theorem orderly_routeGet (server : LocalReadHTTPServer) (request : Post) (parsed : SplitResult) :
    OrderlyFrom server false [] (.effect (.increment .requests) :: server.routeGet request parsed) := by
  rw [routeGet]
  split
  · simp [OrderlyFrom, orderly_iff, countOf, emissions, successes]
  · split
    · simp [OrderlyFrom, orderly_iff, countOf, emissions, successes]
    · exact server.orderly_reject request (by decide) none false

variable [FloatText]

theorem orderly_answer (server : LocalReadHTTPServer) (request : Post) (operation : String) (contentLength : Int) :
    OrderlyFrom server true []
      (.effect (.increment .requests) :: (server.answer request operation contentLength).map .effect) := by
  rw [answer]
  split
  · exact server.orderly_reject request (badRequest_ne_ok _) _ _
  · split
    · exact server.orderly_reject request (by decide) _ _
    · exact server.orderly_reject request (by decide) _ _
    · split
      · exact server.orderly_reject request (badRequest_ne_ok _) _ _
      · exact server.orderly_emit request operation _

theorem orderly_route (server : LocalReadHTTPServer) (request : Post) (parsed : SplitResult) :
    OrderlyFrom server true [] (.effect (.increment .requests) :: (server.route request parsed).map .effect) := by
  rw [route]
  split
  · exact server.orderly_reject request (by decide) _ _
  · dsimp only
    split
    · exact server.orderly_reject request (by decide) _ _
    · split
      · exact server.orderly_reject request (by decide) _ _
      · split
        · refine server.orderly_reject request ?_ _ _
          split
          · decide
          · decide
        · exact server.orderly_answer request _ _

theorem orderly_work (server : LocalReadHTTPServer) (handed : HandedOn) :
    OrderlyFrom server handed.isPost [] (server.work handed) := by
  cases handed with
  | refused status =>
    cases status <;> simp [work, OrderlyFrom, orderly_iff, countOf, emissions, successes]
  | get request =>
    show OrderlyFrom server false [] (server.doGet request)
    rw [doGet]
    split
    · exact server.orderly_counted false
    · exact server.orderly_routeGet request _
  | post request =>
    show OrderlyFrom server true [] ((server.doPost request).1.map .effect)
    rw [doPost]
    split
    · exact server.orderly_counted true
    · exact server.orderly_route request _

end

/-! ## Threads -/

/-- The thread has begun, and has not decided. -/
def isOpen (h : Handler) : Bool :=
  countOf .requests h.done == 1 && countOf .emitted h.done + countOf .rejected h.done == 0

theorem countOf_append (metric : Metric) (done rest : List Work) :
    countOf metric (done ++ rest) = countOf metric done + countOf metric rest := List.countP_append ..

theorem emissions_append (done rest : List Work) : emissions (done ++ rest) = emissions done + emissions rest :=
  List.countP_append ..

theorem values_act (s : Traffic) (work : Work) (metric : Metric) :
    (work.act s).metrics.values metric = s.metrics.values metric + countOf metric [work] := by
  cases work with
  | snapshot | sendSnapshot | page _ => rfl
  | effect e =>
    cases e with
    | increment other =>
      by_cases h : other = metric
      · simp [Work.act, LocalReadMetrics.increment, countOf, h]
      · simp [Work.act, LocalReadMetrics.increment, countOf, h, Ne.symm h]
    | append event appended => cases appended <;> rfl
    | send status body => rfl

theorem log_act (s : Traffic) (work : Work) :
    (work.act s).log.countP (·.outcome == "EMITTED") = s.log.countP (·.outcome == "EMITTED") + emissions [work] := by
  cases work with
  | snapshot | sendSnapshot | page _ => rfl
  | effect e =>
    cases e with
    | increment other => rfl
    | append event appended =>
      cases appended with
      | false => rfl
      | true =>
        simp only [Work.act, List.countP_append]
        rfl
    | send status body => rfl

section

variable [Runtime] [FloatText]

/-- A thread is on its way through what its request asks for. -/
structure OnItsWay (server : LocalReadHTTPServer) (h : Handler) : Prop where
  work : h.done ++ h.todo = server.work h.handed
  orderly : OrderlyFrom server h.handed.isPost h.done h.todo

theorem onItsWay_handler (server : LocalReadHTTPServer) (limits : HeadLimits) (request : Request) :
    OnItsWay server (server.handler limits request) :=
  ⟨rfl, server.orderly_work _⟩

theorem OnItsWay.proceed {server : LocalReadHTTPServer} {h : Handler} (hway : OnItsWay server h) (s : Traffic) :
    OnItsWay server (h.proceed s ()).2 := by
  rw [Handler.proceed]
  split
  · exact hway
  · rename_i work rest htodo
    obtain ⟨hwork, horderly⟩ := hway
    rw [htodo] at hwork horderly
    refine ⟨?_, horderly.2⟩
    rw [Handler.done_doing, Handler.todo_doing, Handler.handed_doing, ← hwork, List.append_assoc, List.singleton_append]

variable (server : LocalReadHTTPServer) (limits : HeadLimits) (ops : List TrafficOp)

/-- The state of a new server after a run. -/
def after : Interleaving.State Traffic Handler := Machine.run (server.trafficStep limits) { shared := {} } ops

theorem onItsWay_after : ∀ h ∈ (server.after limits ops).tasks, OnItsWay server h :=
  Interleaving.tasks_invariant _ _ _ (OnItsWay server) (server.onItsWay_handler limits) (fun s _ _ h => h.proceed s)
    (List.forall_mem_nil _) ops

theorem values_after (metric : Metric) :
    (server.after limits ops).shared.metrics.values metric = ((server.after limits ops).tasks.map fun h => countOf metric h.done).sum := by
  have hnew : ({ shared := {} } : Interleaving.State Traffic Handler).shared.metrics.values metric =
      (({ shared := {} } : Interleaving.State Traffic Handler).tasks.map fun h => countOf metric h.done).sum := rfl
  refine Interleaving.account (server.handler limits) (fun s (_ : Empty) => s) Handler.proceed (fun s => s.metrics.values metric)
    (fun h => countOf metric h.done) (fun _ => rfl) (fun _ _ => rfl) ?_ hnew ops
  intro s _ h
  rw [Handler.proceed]
  split
  · rfl
  · rename_i work rest _
    rw [values_act, Handler.done_doing, countOf_append]
    omega

theorem log_after :
    (server.after limits ops).shared.log.countP (·.outcome == "EMITTED") = ((server.after limits ops).tasks.map fun h => emissions h.done).sum := by
  have hnew : ({ shared := {} } : Interleaving.State Traffic Handler).shared.log.countP (·.outcome == "EMITTED") =
      (({ shared := {} } : Interleaving.State Traffic Handler).tasks.map fun h => emissions h.done).sum := rfl
  refine Interleaving.account (server.handler limits) (fun s (_ : Empty) => s) Handler.proceed
    (fun s => s.log.countP (·.outcome == "EMITTED")) (fun h => emissions h.done) (fun _ => rfl) (fun _ _ => rfl) ?_ hnew ops
  intro s _ h
  rw [Handler.proceed]
  split
  · rfl
  · rename_i work rest _
    rw [log_act, Handler.done_doing, emissions_append]
    omega

/-- A moment of a server: every request that is counted is decided or still open, and what is decided shows in the log
and before the response. -/
structure Balanced (s : Interleaving.State Traffic Handler) : Prop where
  requests : s.shared.metrics.values .requests =
    s.shared.metrics.values .emitted + s.shared.metrics.values .rejected + s.tasks.countP isOpen
  logged : server.auditSink = true → s.shared.metrics.values .emitted ≤ s.shared.log.countP (·.outcome == "EMITTED")
  answered : ((s.tasks.filter fun h => h.handed.isPost).map fun h => successes h.done).sum ≤ s.shared.metrics.values .emitted

omit [Runtime] [FloatText] in
theorem countOf_of_orderly {h : Handler} (horderly : Orderly server h.handed.isPost h.done) :
    countOf .requests h.done = countOf .emitted h.done + countOf .rejected h.done + if isOpen h then 1 else 0 := by
  obtain ⟨hdecided, honce, -, -⟩ := horderly
  simp only [isOpen, Bool.and_eq_true, beq_iff_eq]
  split <;> omega

omit [Runtime] [FloatText] in
theorem sum_requests {tasks : List Handler} (h : ∀ t ∈ tasks, Orderly server t.handed.isPost t.done) :
    (tasks.map fun t => countOf .requests t.done).sum =
      (tasks.map fun t => countOf .emitted t.done).sum + (tasks.map fun t => countOf .rejected t.done).sum +
        tasks.countP isOpen := by
  induction tasks with
  | nil => rfl
  | cons t tasks ih =>
    have hrest := ih fun t' ht' => h t' (List.mem_cons_of_mem _ ht')
    have ht := server.countOf_of_orderly (h t List.mem_cons_self)
    simp only [List.map_cons, List.sum_cons, List.countP_cons]
    omega

theorem balanced_after : Balanced server (server.after limits ops) := by
  have horderly : ∀ t ∈ (server.after limits ops).tasks, Orderly server t.handed.isPost t.done := fun t ht =>
    orderly_of_orderlyFrom (server.onItsWay_after limits ops t ht).orderly
  refine ⟨?_, ?_, ?_⟩
  · simp only [values_after]
    exact server.sum_requests horderly
  · intro haudit
    rw [values_after, log_after]
    exact List.sum_le_sum fun t ht => (horderly t ht).logged haudit
  · rw [values_after]
    have hposts := List.sum_le_sum (f := fun t => successes t.done) (g := fun t => countOf .emitted t.done)
      (l := (server.after limits ops).tasks.filter fun h => h.handed.isPost) fun t ht =>
        (horderly t (List.mem_filter.mp ht).1).answered (List.mem_filter.mp ht).2
    exact hposts.trans ((List.filter_sublist.map _).sum_le_sum fun _ _ => Nat.zero_le _)

/-! ## Finished threads -/

/-- The request reaches `do_GET` or `do_POST`. -/
def isCounted : HandedOn → Bool
  | .refused _ => false
  | _ => true

/-- The request is one that is emitted or rejected: its target can be split, and does not ask for the health or the counters. -/
def isDecided : HandedOn → Bool
  | .refused _ => false
  | .post request => (urlsplit request.path).isSome
  | .get request =>
    match urlsplit request.path with
    | none => false
    | some parsed => !(parsed.path = "/healthz".toList && parsed.query.isEmpty || parsed.path = "/metrics".toList && parsed.query.isEmpty)

omit [Runtime] [FloatText] in
theorem countOf_effects (metric : Metric) (effects : List Effect) :
    countOf metric (effects.map .effect) = increments metric effects := by
  rw [countOf, increments, List.countP_map]
  refine List.countP_congr fun effect _ => ?_
  cases effect <;> rfl

/-- What a thread that has finished has counted. -/
structure Counted (h : Handler) : Prop where
  requests : countOf .requests h.done = if isCounted h.handed then 1 else 0
  decided : countOf .emitted h.done + countOf .rejected h.done = if isDecided h.handed then 1 else 0

theorem counted_post (request : Post) (taken shown : Option LocalReadMetrics) :
    Counted ⟨.post request, server.work (.post request), [], taken, shown⟩ := by
  rcases hsplit : urlsplit request.path with _ | parsed
  · refine ⟨?_, ?_⟩ <;> simp only [work, countOf_effects, isCounted, isDecided, hsplit, doPost_of_not_split hsplit] <;> rfl
  · have hanswered := server.answered_of_split request (by rw [hsplit]; rfl)
    refine ⟨?_, ?_⟩ <;> simp only [work, countOf_effects, isCounted, isDecided, hsplit, hanswered.counted, hanswered.decided] <;> rfl

omit [FloatText] in
/-- What is counted after the request itself. -/
theorem counts_routeGet (request : Post) (parsed : SplitResult) :
    countOf .requests (server.routeGet request parsed) = 0 ∧
      countOf .emitted (server.routeGet request parsed) + countOf .rejected (server.routeGet request parsed) =
        if parsed.path = "/healthz".toList && parsed.query.isEmpty || parsed.path = "/metrics".toList && parsed.query.isEmpty then 0
        else 1 := by
  rw [routeGet]
  split
  · rename_i hhealth
    rw [hhealth]
    exact ⟨rfl, rfl⟩
  · rename_i hhealth
    split
    · rename_i hmetrics
      rw [hmetrics, Bool.or_true]
      exact ⟨rfl, rfl⟩
    · rename_i hmetrics
      rw [Bool.not_eq_true] at hhealth hmetrics
      rw [hhealth, hmetrics, countOf_effects, countOf_effects, countOf_effects]
      exact ⟨server.requests_reject request 404 none, (server.closes_reject request (by decide) none).decided⟩

omit [FloatText] in
theorem counted_get (request : Post) (taken shown : Option LocalReadMetrics) :
    Counted ⟨.get request, server.doGet request, [], taken, shown⟩ := by
  have hfirst (metric : Metric) (l : List Work) :
      countOf metric (.effect (.increment .requests) :: l) = countOf metric l + if metric = .requests then 1 else 0 := by
    cases metric <;> simp [countOf]
  rcases hsplit : urlsplit request.path with _ | parsed
  · refine ⟨?_, ?_⟩ <;> simp only [doGet, isCounted, isDecided, hsplit, hfirst] <;> rfl
  · obtain ⟨hrequests, hdecided⟩ := server.counts_routeGet request parsed
    refine ⟨?_, ?_⟩
    · simp only [doGet, hsplit, isCounted, hfirst, hrequests]
      rfl
    · have hnot : ∀ b : Bool, (if b then 0 else 1) = if !b then 1 else 0 := by decide
      simp only [doGet, hsplit, isDecided, hfirst, reduceCtorEq, ↓reduceIte, Nat.add_zero, hdecided, hnot]

theorem counted_finished {h : Handler} (hway : OnItsWay server h) (hfinished : h.todo = []) : Counted h := by
  have hdone : h.done = server.work h.handed := by rw [← hway.work, hfinished, List.append_nil]
  obtain ⟨handed, done, todo, taken, shown⟩ := h
  obtain rfl : done = server.work handed := hdone
  cases handed with
  | refused status => cases status <;> exact ⟨rfl, rfl⟩
  | get request => exact ⟨(server.counted_get request taken shown).requests, (server.counted_get request taken shown).decided⟩
  | post request => exact ⟨(server.counted_post request taken shown).requests, (server.counted_post request taken shown).decided⟩

/-! ## What `/metrics` shows -/

omit [Runtime] [FloatText] in
theorem values_le_act (s : Traffic) (work : Work) (metric : Metric) :
    s.metrics.values metric ≤ (work.act s).metrics.values metric := by
  rw [values_act]
  omega

/-- No step loses a thread or takes a counter back. -/
theorem le_step (s : Interleaving.State Traffic Handler) (op : TrafficOp) :
    s.tasks.length ≤ (server.trafficStep limits s op).tasks.length ∧
      ∀ metric, s.shared.metrics.values metric ≤ (server.trafficStep limits s op).shared.metrics.values metric := by
  cases op with
  | act i => exact i.elim
  | start request => exact ⟨by simp [trafficStep, Interleaving.step], fun _ => le_rfl⟩
  | proceed n k =>
    simp only [trafficStep, Interleaving.step]
    split
    · exact ⟨le_rfl, fun _ => le_rfl⟩
    · refine ⟨by simp, fun metric => ?_⟩
      simp only [Handler.proceed]
      split
      · exact le_rfl
      · exact values_le_act _ _ _

theorem after_concat (op : TrafficOp) : server.after limits (ops ++ [op]) = server.trafficStep limits (server.after limits ops) op := by
  rw [after, Machine.run_append]
  rfl

variable {ops}

/-- A run loses no thread and takes no counter back. -/
theorem after_mono {before : List TrafficOp} (h : before <+: ops) :
    (server.after limits before).tasks.length ≤ (server.after limits ops).tasks.length ∧
      ∀ metric, (server.after limits before).shared.metrics.values metric ≤ (server.after limits ops).shared.metrics.values metric := by
  obtain ⟨rest, rfl⟩ := h
  induction rest using List.reverseRecOn with
  | nil =>
    rw [List.append_nil]
    exact ⟨le_rfl, fun _ => le_rfl⟩
  | append_singleton rest op ih =>
    obtain ⟨hlength, hvalues⟩ := server.le_step limits (server.after limits (before ++ rest)) op
    rw [← List.append_assoc, after_concat]
    exact ⟨ih.1.trans hlength, fun metric => (ih.2 metric).trans (hvalues metric)⟩

/-- The counters are those of a moment of the run at which the thread had begun. -/
def OfMoment (ops : List TrafficOp) (n : Nat) (metrics : LocalReadMetrics) : Prop :=
  ∃ before, before <+: ops ∧ n < (server.after limits before).tasks.length ∧ metrics = (server.after limits before).shared.metrics

theorem ofMoment_shown {n : Nat} {h : Handler} (hh : (server.after limits ops).tasks[n]? = some h) {metrics : LocalReadMetrics}
    (hshown : h.shown = some metrics) : server.OfMoment limits ops n metrics := by
  obtain ⟨before, k, rest, u, rfl, hu, hnot, htaken⟩ := Interleaving.exists_proceed _ _ _
    (fun h => h.taken = some metrics ∨ h.shown = some metrics) (fun _ => by simp [handler]) (by simp) hh (.inr hshown)
  rw [not_or] at hnot
  refine ⟨before, List.prefix_append _ _, (List.getElem?_eq_some_iff.mp hu).1, ?_⟩
  rw [Handler.proceed] at htaken
  split at htaken
  · exact absurd htaken (not_or.mpr hnot)
  · rename_i work rest htodo
    cases work with
    | snapshot =>
      rcases htaken with htaken | htaken
      · exact (Option.some.inj htaken).symm
      · exact absurd htaken hnot.2
    | sendSnapshot =>
      rcases htaken with htaken | htaken
      · exact absurd htaken hnot.1
      · exact absurd htaken hnot.1
    | effect e => exact absurd htaken (not_or.mpr hnot)
    | page status => exact absurd htaken (not_or.mpr hnot)

/-- Who asks for the counters after someone else was sent them sees no smaller ones. -/
theorem shown_mono {earlier : List TrafficOp} (hearlier : earlier <+: ops) {m n : Nat} {first second : Handler}
    {metrics metrics' : LocalReadMetrics} (hfirst : (server.after limits earlier).tasks[m]? = some first)
    (hshown : first.shown = some metrics) (hnew : (server.after limits earlier).tasks.length ≤ n)
    (hsecond : (server.after limits ops).tasks[n]? = some second) (hshown' : second.shown = some metrics') (metric : Metric) :
    metrics.values metric ≤ metrics'.values metric := by
  obtain ⟨before, hbefore, -, rfl⟩ := server.ofMoment_shown limits hfirst hshown
  obtain ⟨before', hbefore', hbegun, rfl⟩ := server.ofMoment_shown limits hsecond hshown'
  have hlater : earlier <+: before' := by
    rcases List.prefix_or_prefix_of_prefix hbefore' hearlier with h | h
    · have hlength := (server.after_mono limits h).1
      omega
    · exact h
  exact (server.after_mono limits (hbefore.trans hlater)).2 metric

variable (ops)

/-- In every interleaving of any requests to a new server, the counters are balanced at every moment and never go back.
What `/metrics` answers are the counters of a moment between the start of its thread and the answer, so that who asks after
an answer was sent sees no smaller ones. Once a thread has finished, its request was counted exactly if `http.server`
handed it on, and decided exactly if moreover its target can be split and does not ask for the health or the counters. -/
theorem monitoring_is_truthful :
    Balanced server (server.after limits ops) ∧
    (∀ before, before <+: ops → Balanced server (server.after limits before) ∧
      ∀ metric, (server.after limits before).shared.metrics.values metric ≤ (server.after limits ops).shared.metrics.values metric) ∧
    (∀ n h metrics, (server.after limits ops).tasks[n]? = some h → h.shown = some metrics → server.OfMoment limits ops n metrics) ∧
    (∀ (earlier : List TrafficOp) (m n : Nat) (first second : Handler) (metrics metrics' : LocalReadMetrics),
      earlier <+: ops → (server.after limits earlier).tasks[m]? = some first →
      first.shown = some metrics → (server.after limits earlier).tasks.length ≤ n →
      (server.after limits ops).tasks[n]? = some second → second.shown = some metrics' →
        ∀ metric, metrics.values metric ≤ metrics'.values metric) ∧
    ∀ h ∈ (server.after limits ops).tasks, h.todo = [] → Counted h := by
  refine ⟨server.balanced_after limits ops, ?_, ?_, ?_, ?_⟩
  · intro before hbefore
    exact ⟨server.balanced_after limits before, (server.after_mono limits hbefore).2⟩
  · exact fun n h metrics hh hshown => server.ofMoment_shown limits hh hshown
  · exact fun earlier m n first second metrics metrics' hearlier hfirst hshown hnew hsecond hshown' metric =>
      server.shown_mono limits hearlier hfirst hshown hnew hsecond hshown' metric
  · intro h hh hfinished
    exact server.counted_finished (server.onItsWay_after limits ops h hh) hfinished

end

end LocalReadHTTPServer

end Pmiri
