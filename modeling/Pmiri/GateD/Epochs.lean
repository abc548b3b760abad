import Pmiri.Runs
import Pmiri.GateD.ProviderCall

/-!
# Policy epochs over runs

Evaluations, envelopes, invalidations and executions of one engine in any
order. The fence compares the epoch of the envelope and of the binding with the
current one; nothing compares the epochs of the decisions under the envelope.
-/

namespace Pmiri

open Py

/-! ## Records and what they are made of -/

/-- The decisions that an envelope is built from, or that are presented with one. -/
structure Decisions where
  trust : Dict
  capability : Dict
  network : Option Dict

def EnvelopeInput.decisions (i : EnvelopeInput) : Decisions := ⟨i.trustDecision, i.capabilityDecision, i.networkDecision⟩

def EmissionInput.decisions (i : EmissionInput) : Decisions := ⟨i.trustDecision, i.capabilityDecision, i.networkDecision⟩

/-- A record that the engine produced; an envelope with what it was built from. -/
inductive Product where
  | trust (d : Dict)
  | capability (d : Dict)
  | network (d : Dict)
  | envelope (i : EnvelopeInput) (d : Dict)

/-- A product and the policy epoch it was produced in. -/
structure Produced where
  epoch : Nat
  product : Product

/-- An execution whose receipt was `EXECUTED`, and the policy epoch of it. -/
structure Executed where
  epoch : Nat
  input : EmissionInput

def Decisions.Includes (ds : Decisions) : Product → Prop
  | .trust d => ds.trust = d
  | .capability d => ds.capability = d
  | .network d => ds.network = some d
  | .envelope _ _ => False

/-- A product takes part in an emission if it is presented, or if an envelope
that equals the presented one was built from it. -/
def TakesPart (log : List Produced) (i : EmissionInput) (p : Product) : Prop :=
  i.decisions.Includes p ∨ (∃ j, p = .envelope j i.envelope) ∨
    ∃ q ∈ log, ∃ j, q.product = .envelope j i.envelope ∧ j.decisions.Includes p

/-- The envelope is one for an external emission, and permits it. -/
def Emittable (e : Dict) : Prop :=
  e.get "emission_mode" = .str "EXTERNAL" ∧ ∃ x ∈ PERMITTING, e.get "action_result" = .str x

def Decisions.Permit (ds : Decisions) : Prop :=
  (∃ x ∈ PERMITTING, ds.trust.get "action_result" = .str x) ∧
    (∃ x ∈ PERMITTING, ds.capability.get "action_result" = .str x) ∧
    ∃ n x, ds.network = some n ∧ x ∈ PERMITTING ∧ n.get "action_result" = .str x

section

variable [Runtime]

/-- No decision is marked with an earlier epoch. Capability and network
decisions name their epoch, a trust decision has it in its validity reference. -/
structure Decisions.NotEarlier (ds : Decisions) (now : String) (epoch : Nat) : Prop where
  trust : ∀ k < epoch, ds.trust.get "validity_ref" ≠ .str (validityRef now k)
  capability : ∀ k < epoch, ds.capability.get "invalidation_epoch" ≠ .int k
  network : ∀ n, ds.network = some n → ∀ k < epoch, n.get "invalidation_epoch" ≠ .int k

/-! ## Runs -/

structure GateDState where
  engine : GateDDecisionEngine
  log : List Produced := []
  executed : List Executed := []

inductive GateDOp where
  | evaluateTrust (i : GateDDecisionEngine.TrustInput)
  | evaluateCapability (i : GateDDecisionEngine.CapabilityInput)
  | evaluateNetwork (i : NetworkInput)
  | buildIntegratedEnvelope (i : EnvelopeInput)
  | invalidate
  | executeProvider (i : EmissionInput) (payload : Dict)
  | executeConnector (i : EmissionInput) (target : String)

namespace GateDState

variable (s : GateDState)

omit [Runtime] in
/-- The state after a call that returns `d` or raises. -/
def produce (result : Except Exc Dict) (product : Dict → Product) : GateDState :=
  match result with
  | .ok d => { s with log := s.log ++ [⟨s.engine.invalidationEpoch, product d⟩] }
  | .error _ => s

omit [Runtime] in
def emit {α : Type} (i : EmissionInput) (x : Execution α) : GateDState :=
  if x.isExecuted then { s with executed := s.executed ++ [⟨s.engine.invalidationEpoch, i⟩] } else s

/-- A step of the engine, or of the runtime `r` over it. -/
def step [Idna] (r : EnforcedTransportRuntime) (s : GateDState) : GateDOp → GateDState
  | .evaluateTrust i => s.produce (s.engine.evaluateTrust i) .trust
  | .evaluateCapability i => s.produce (s.engine.evaluateCapability i) .capability
  | .evaluateNetwork i => s.produce (s.engine.evaluateNetwork i) .network
  | .buildIntegratedEnvelope i => s.produce (s.engine.buildIntegratedEnvelope i) (.envelope i)
  | .invalidate => { s with engine := s.engine.invalidate }
  | .executeProvider i payload => s.emit i (r.executeProvider s.engine i payload)
  | .executeConnector i target => s.emit i (r.executeConnector s.engine i target)

/-- What the code leaves to its callers: decisions that permit are not marked
with an earlier epoch when an external envelope is built from them over a
binding that carries it, or when they are presented with an emittable envelope
of the current epoch. -/
def Disciplined (s : GateDState) : GateDOp → Prop
  | .buildIntegratedEnvelope i =>
    i.emissionMode = "EXTERNAL" → i.decisions.Permit → (∃ b query, s.engine.Carries i b query) →
      i.decisions.NotEarlier s.engine.now s.engine.invalidationEpoch
  | .executeProvider i _ | .executeConnector i _ =>
    Emittable i.envelope → (i.envelope.get "invalidation_epoch").eq (.int s.engine.invalidationEpoch) = true →
      i.decisions.NotEarlier s.engine.now s.engine.invalidationEpoch
  | _ => True

end GateDState

/-! ## What a run keeps -/

/-- A product is marked with the epoch it was produced in. -/
def Produced.Stamped (now : String) (p : Produced) : Prop :=
  match p.product with
  | .trust d => d.get "validity_ref" = .str (validityRef now p.epoch)
  | .capability d => d.get "invalidation_epoch" = .int p.epoch
  | .network d => d.get "invalidation_epoch" = .int p.epoch
  | .envelope i d => Emittable d →
      d.get "invalidation_epoch" = .int p.epoch ∧ i.decisions.NotEarlier now p.epoch

/-- An execution went out under an envelope of its epoch, with no decision
marked with an earlier one. -/
def Executed.Stamped (now : String) (m : Executed) : Prop :=
  Emittable m.input.envelope ∧ (m.input.envelope.get "invalidation_epoch").eq (.int m.epoch) = true ∧
    m.input.decisions.NotEarlier now m.epoch

/-- No product of an earlier epoch takes part in an execution. -/
def GateDState.InvalidationReaches (s : GateDState) : Prop :=
  ∀ m ∈ s.executed, ∀ p ∈ s.log, p.epoch < m.epoch → ¬ TakesPart s.log m.input p.product

structure GateDState.Kept (now : String) (s : GateDState) : Prop where
  time : s.engine.now = now
  log : ∀ p ∈ s.log, p.Stamped now
  executed : ∀ m ∈ s.executed, m.Stamped now

/-- Decisions that are not marked with an earlier epoch include none from it. -/
theorem Decisions.NotEarlier.le {ds : Decisions} {now : String} {epoch : Nat} {p : Produced}
    (h : ds.NotEarlier now epoch) (hp : p.Stamped now) (hi : ds.Includes p.product) : epoch ≤ p.epoch := by
  obtain ⟨k, product⟩ := p
  by_contra hlt
  rw [Nat.not_le] at hlt
  cases product with
  | trust d =>
    obtain rfl : ds.trust = d := hi
    exact h.trust k hlt hp
  | capability d =>
    obtain rfl : ds.capability = d := hi
    exact h.capability k hlt hp
  | network d => exact h.network d hi k hlt hp
  | envelope i d => exact hi

/-- In a state that runs keep, nothing from an earlier epoch takes part in an
execution. -/
theorem GateDState.Kept.invalidationReaches {now : String} {s : GateDState} (h : s.Kept now) : s.InvalidationReaches := by
  intro m hm p hp hlt
  obtain ⟨hemittable, hepoch, hcurrent⟩ := h.executed m hm
  -- an envelope that equals the presented one is of the epoch of the execution
  have hbuilt : ∀ {q : Produced} {j : EnvelopeInput}, q ∈ s.log → q.product = .envelope j m.input.envelope →
      q.epoch = m.epoch ∧ j.decisions.NotEarlier now q.epoch := by
    intro q j hq hj
    have hstamped := h.log q hq
    rw [Produced.Stamped, hj] at hstamped
    obtain ⟨he, hd⟩ := hstamped hemittable
    rw [he] at hepoch
    exact ⟨by simpa [Int.natCast_inj] using hepoch, hd⟩
  rintro (hi | ⟨j, hj⟩ | ⟨q, hq, j, hj, hi⟩)
  · exact absurd (hcurrent.le (h.log p hp) hi) (by omega)
  · exact absurd (hbuilt hp hj).1 (by omega)
  · obtain ⟨he, hd⟩ := hbuilt hq hj
    have := hd.le (h.log p hp) hi
    omega

/-! ## What a step keeps -/

namespace GateDDecisionEngine

variable (g : GateDDecisionEngine)

theorem evaluateTrust_validity {i : TrustInput} {d : Dict} (h : g.evaluateTrust i = .ok d) :
    d.get "validity_ref" = .str (validityRef g.now g.invalidationEpoch) := by
  obtain ⟨v, -, rfl⟩ := g.evaluateTrust_ok.mp h
  rw [g.get_trustRecord (by decide) (by decide)]
  simp [trustFields, Dict.get_insert, Dict.ofItems]

theorem evaluateCapability_epoch {i : CapabilityInput} {d : Dict} (h : g.evaluateCapability i = .ok d) :
    d.get "invalidation_epoch" = .int g.invalidationEpoch := by
  obtain ⟨-, v, -, -, rfl⟩ := g.evaluateCapability_ok.mp h
  simp [capabilityRecord, get_finalize, Dict.get_insert, Dict.ofItems]

/-- An emittable envelope was built in external mode, from decisions that permit. -/
theorem buildIntegratedEnvelope_emittable {i : EnvelopeInput} {e : Dict} (h : g.buildIntegratedEnvelope i = .ok e)
    (he : Emittable e) : i.emissionMode = "EXTERNAL" ∧ i.decisions.Permit ∧ (∃ b query, g.Carries i b query) ∧
      e.get "invalidation_epoch" = .int g.invalidationEpoch := by
  obtain ⟨hmode, ⟨ht, hc, x, hx, hn⟩, hcarries⟩ := g.buildIntegratedEnvelope_permits h he.1 he.2
  refine ⟨hmode, ⟨ht, hc, ?_⟩, hcarries, g.buildIntegratedEnvelope_epoch h he.1 he.2⟩
  rcases hnetwork : i.network with _ | n
  · rw [EnvelopeInput.networkField, hnetwork] at hn
    cases hn
  · rw [EnvelopeInput.networkField, hnetwork] at hn
    exact ⟨n, x, (Option.filter_eq_some_iff.mp hnetwork).1, hx, hn⟩

end GateDDecisionEngine

namespace GateDState

variable {s : GateDState} {now : String}

theorem Kept.produce (h : s.Kept now) {result : Except Exc Dict} {product : Dict → Product}
    (hp : ∀ d, result = .ok d → Produced.Stamped now ⟨s.engine.invalidationEpoch, product d⟩) :
    (s.produce result product).Kept now := by
  unfold GateDState.produce
  split
  · rename_i d
    refine ⟨h.time, fun p hmem => ?_, h.executed⟩
    rcases List.mem_append.mp hmem with hmem | hmem
    · exact h.log p hmem
    · obtain rfl := List.mem_singleton.mp hmem
      exact hp d rfl
  · exact h

/-- What the fence accepts is stamped, where no decision is of an earlier epoch. -/
theorem Kept.execute (h : s.Kept now) {α : Type} {r : EnforcedTransportRuntime} {t : Option (Transport α)} {kind : String}
    {i j : EmissionInput} {payload : α} (hj : j.envelope = i.envelope)
    (hi : Emittable i.envelope → (i.envelope.get "invalidation_epoch").eq (.int s.engine.invalidationEpoch) = true →
      i.decisions.NotEarlier s.engine.now s.engine.invalidationEpoch) :
    (s.emit i (r.execute s.engine t kind j payload)).Kept now := by
  unfold GateDState.emit
  split
  · rename_i hexecuted
    obtain ⟨_, _, hreleased, -⟩ := EnforcedTransportRuntime.execute_executed.mp (Execution.isExecuted_iff.mp hexecuted)
    have haccepted := hreleased.fence.envelope
    have hemittable : Emittable i.envelope := hj ▸ ⟨haccepted.external, haccepted.action⟩
    have hepoch := hj ▸ haccepted.epoch
    refine ⟨h.time, h.log, fun m hmem => ?_⟩
    rcases List.mem_append.mp hmem with hmem | hmem
    · exact h.executed m hmem
    · obtain rfl := List.mem_singleton.mp hmem
      exact ⟨hemittable, hepoch, h.time ▸ hi hemittable hepoch⟩
  · exact h

theorem Kept.step [Idna] {r : EnforcedTransportRuntime} (h : s.Kept now) {op : GateDOp} (hop : s.Disciplined op) :
    (step r s op).Kept now := by
  cases op with
  | evaluateTrust i => exact h.produce fun d hd => h.time ▸ s.engine.evaluateTrust_validity hd
  | evaluateCapability i => exact h.produce fun d hd => s.engine.evaluateCapability_epoch hd
  | evaluateNetwork i => exact h.produce fun d hd => s.engine.evaluateNetwork_epoch hd
  | buildIntegratedEnvelope i =>
    refine h.produce fun d hd he => ?_
    obtain ⟨hmode, hpermit, hcarries, hepoch⟩ := s.engine.buildIntegratedEnvelope_emittable hd he
    exact ⟨hepoch, h.time ▸ hop hmode hpermit hcarries⟩
  | invalidate => exact ⟨s.engine.invalidate_settings.1.trans h.time, h.log, h.executed⟩
  | executeProvider i payload => exact h.execute rfl hop
  | executeConnector i target => exact h.execute rfl hop

end GateDState

/-! ## A run -/

omit [Runtime] in
theorem exampleEngine_invalidate (epoch : Nat) : (exampleEngine epoch).invalidate = exampleEngine (epoch + 1) := rfl

section

variable [Idna]

/-- The records evaluated in an epoch for the example's provider call permit it. -/
structure ExampleRecords (epoch : Nat) (t c n : Dict) : Prop where
  stamped : ∀ p ∈ [Product.trust t, .capability c, .network n], Produced.Stamped "2026-01-01T00:00:00Z" ⟨epoch, p⟩
  trust : TrustDecision t ∧ t.get "action_result" = .str "ALLOW"
  capability : CapabilityDecision c ∧ c.get "action_result" = .str "ALLOW"
  network : OutboundDecision n ∧ ∀ k, k ∈ n.keys ↔ k ∈ RUNTIME_OUTBOUND_REQUIRED_FIELDS
  call : n.get "operation" = .str "provider_call" ∧ n.get "purpose" = .str "provider_call" ∧
    n.get "action_result" = .str "ALLOW" ∧ ∃ d, n.get "destination_binding_ref" = .str d

/-- The three evaluations of a call. -/
def exampleEvaluations (epoch : Nat) : List GateDOp := [
  .evaluateTrust (exampleTrust "provider_call"), .evaluateCapability (exampleCapability epoch "provider_call"),
  .evaluateNetwork exampleNetwork]

theorem exampleEvaluations_run (r : EnforcedTransportRuntime) (epoch : Nat) (log : List Produced) (executed : List Executed) :
    ∃ t c n, ExampleRecords epoch t c n ∧
      Machine.run (GateDState.step r) ⟨exampleEngine epoch, log, executed⟩ (exampleEvaluations epoch) =
        ⟨exampleEngine epoch, log ++ [⟨epoch, .trust t⟩, ⟨epoch, .capability c⟩, ⟨epoch, .network n⟩], executed⟩ := by
  obtain ⟨t, ht, htrust, hta⟩ := exampleTrust_evaluated epoch "provider_call"
  obtain ⟨c, hc, hcapability, hca, -⟩ := exampleCapability_evaluated epoch "provider_call"
  obtain ⟨n, hn, hvalid, hshape, hoperation, hpurpose, hna, hdestination⟩ :=
    (exampleEngine epoch).evaluateNetwork_validated exampleNetwork_validated rfl
  have hstamped : ∀ p ∈ [Product.trust t, .capability c, .network n],
      Produced.Stamped "2026-01-01T00:00:00Z" ⟨epoch, p⟩ := by
    simp only [List.forall_mem_cons, List.not_mem_nil, false_imp_iff, implies_true, and_true]
    exact ⟨(exampleEngine epoch).evaluateTrust_validity ht, (exampleEngine epoch).evaluateCapability_epoch hc,
      (exampleEngine epoch).evaluateNetwork_epoch hn⟩
  refine ⟨t, c, n, ⟨hstamped, ⟨htrust, hta⟩, ⟨hcapability, hca⟩, ⟨hvalid, hshape⟩, hoperation, hpurpose, hna, _,
    hdestination⟩, ?_⟩
  simp only [exampleEvaluations, Machine.run_cons, Machine.run_nil, GateDState.step, GateDState.produce, ht, hc, hn,
    List.append_assoc, List.cons_append, List.nil_append]
  rfl

omit [Idna] in
/-- Decisions of the first epoch are not marked with the one before. -/
theorem ExampleRecords.notEarlier {t c n : Dict} (h : ExampleRecords 1 t c n)
    (hvalidity : validityRef "2026-01-01T00:00:00Z" 1 ≠ validityRef "2026-01-01T00:00:00Z" 0) :
    (Decisions.mk t c (some n)).NotEarlier "2026-01-01T00:00:00Z" 1 := by
  obtain ⟨ht, hc, hn⟩ : t.get "validity_ref" = .str (validityRef "2026-01-01T00:00:00Z" 1) ∧
      c.get "invalidation_epoch" = .int 1 ∧ n.get "invalidation_epoch" = .int 1 := by
    simpa [Produced.Stamped] using h.stamped
  refine ⟨fun k hk => ?_, fun k hk => ?_, fun m hm k hk => ?_⟩
  · obtain rfl : k = 0 := by omega
    rw [ht]
    exact fun e => hvalidity (Val.str.inj e)
  · obtain rfl : k = 0 := by omega
    rw [hc]
    simp
  · obtain rfl : k = 0 := by omega
    obtain rfl : n = m := Option.some.inj hm
    rw [hn]
    simp

/-- Over decisions that permit the call, an engine of any epoch builds an
envelope that is executed. -/
theorem exampleExecution_run {epoch₀ : Nat} {t c n : Dict} (h : ExampleRecords epoch₀ t c n) (epoch : Nat) (log : List Produced)
    (executed : List Executed) :
    ∃ b e, Machine.run (GateDState.step exampleRuntime) ⟨exampleEngine epoch, log, executed⟩
        [.buildIntegratedEnvelope (exampleCall t c n b), .executeProvider (examplePresented epoch t c n e b) .empty] =
      ⟨exampleEngine epoch, log ++ [⟨epoch, .envelope (exampleCall t c n b) e⟩],
        executed ++ [⟨epoch, examplePresented epoch t c n e b⟩]⟩ := by
  obtain ⟨hoperation, hpurpose, hna, d, hdestination⟩ := h.call
  obtain ⟨b, e, he, haccepts⟩ := exampleCall_accepted epoch h.trust.1 h.trust.2 h.capability.1 h.capability.2
    h.network.1 h.network.2 hoperation hpurpose hna hdestination
  have hexecuted := Execution.isExecuted_iff.mpr (exampleRuntime_executes .empty haccepts)
  refine ⟨b, e, ?_⟩
  simp only [Machine.run_cons, Machine.run_nil, GateDState.step, GateDState.produce, GateDState.emit, he, hexecuted, ↓reduceIte]
  rfl

omit [Runtime] [Idna] in
theorem GateDState.engine_produce (s : GateDState) (result : Except Exc Dict) (product : Dict → Product) :
    (s.produce result product).engine = s.engine := by
  unfold GateDState.produce
  split <;> rfl

/-- A trust decision is evaluated, the epoch is raised, and a call goes out
under decisions of the new epoch. -/
theorem exampleRun_disciplined
    (hvalidity : validityRef "2026-01-01T00:00:00Z" 1 ≠ validityRef "2026-01-01T00:00:00Z" 0) :
    ∃ ops, (Machine.run (GateDState.step exampleRuntime) ⟨exampleEngine 0, [], []⟩ ops).executed ≠ [] ∧
      Machine.Along (GateDState.step exampleRuntime) GateDState.Disciplined ⟨exampleEngine 0, [], []⟩ ops := by
  obtain ⟨t, ht, -, -⟩ := exampleTrust_evaluated 0 "provider_call"
  obtain ⟨t', c, n, hrecords, hevaluations⟩ := exampleEvaluations_run exampleRuntime 1 [⟨0, .trust t⟩] []
  obtain ⟨b, e, hexecution⟩ := exampleExecution_run hrecords 1
    [⟨0, .trust t⟩, ⟨1, .trust t'⟩, ⟨1, .capability c⟩, ⟨1, .network n⟩] []
  have hstart : Machine.run (GateDState.step exampleRuntime) ⟨exampleEngine 0, [], []⟩
      [.evaluateTrust (exampleTrust "provider_call"), .invalidate] = ⟨exampleEngine 1, [⟨0, .trust t⟩], []⟩ := by
    simp only [Machine.run_cons, Machine.run_nil, GateDState.step, GateDState.produce, ht, exampleEngine_invalidate]
    rfl
  have hcurrent := hrecords.notEarlier hvalidity
  refine ⟨[.evaluateTrust (exampleTrust "provider_call"), .invalidate] ++ (exampleEvaluations 1 ++
    [.buildIntegratedEnvelope (exampleCall t' c n b), .executeProvider (examplePresented 1 t' c n e b) .empty]), ?_, ?_⟩
  · rw [Machine.run_append, hstart, Machine.run_append, hevaluations, List.singleton_append, hexecution]
    exact List.cons_ne_nil _ _
  · rw [Machine.along_append, Machine.along_append, hstart, hevaluations]
    refine ⟨⟨trivial, trivial, trivial⟩, ⟨trivial, trivial, trivial, trivial⟩, fun _ _ _ => hcurrent, fun _ _ => ?_, trivial⟩
    rw [GateDState.step, GateDState.engine_produce]
    exact hcurrent

end

/-- In a run whose steps are disciplined, nothing that was produced before an
invalidation takes part in an execution after it. -/
theorem invalidation_reaches [Idna] (r : EnforcedTransportRuntime) (g : GateDDecisionEngine) (ops : List GateDOp)
    (h : Machine.Along (GateDState.step r) GateDState.Disciplined ⟨g, [], []⟩ ops) :
    (Machine.run (GateDState.step r) ⟨g, [], []⟩ ops).InvalidationReaches := by
  have hkept : (Machine.run (GateDState.step r) ⟨g, [], []⟩ ops).Kept g.now :=
    Machine.run_invariant _ (·.Kept g.now) (fun _ _ hs hop => hs.step hop) ⟨rfl, by simp, by simp⟩ h
  exact hkept.invalidationReaches

end

/-- The decisions of a call go out after an invalidation, under an envelope and
a binding of the new epoch. -/
theorem executed_after_invalidation :
    letI := asciiRuntime
    letI : Idna := ⟨none⟩
    ∃ ops, ¬ (Machine.run (GateDState.step exampleRuntime) ⟨exampleEngine 0, [], []⟩ ops).InvalidationReaches := by
  let := asciiRuntime
  let : Idna := ⟨none⟩
  obtain ⟨t, c, n, hrecords, hevaluations⟩ := exampleEvaluations_run exampleRuntime 0 [] []
  obtain ⟨b, e, hexecution⟩ := exampleExecution_run hrecords 1 [⟨0, .trust t⟩, ⟨0, .capability c⟩, ⟨0, .network n⟩] []
  refine ⟨exampleEvaluations 0 ++ .invalidate :: [.buildIntegratedEnvelope (exampleCall t c n b),
    .executeProvider (examplePresented 1 t c n e b) .empty], fun h => ?_⟩
  rw [Machine.run_append, hevaluations, Machine.run_cons, GateDState.step, exampleEngine_invalidate, List.nil_append,
    hexecution] at h
  exact h _ (List.mem_singleton.mpr rfl) ⟨0, .trust t⟩ (by simp) Nat.zero_lt_one (.inl rfl)

theorem invalidation_reaches_example :
    letI := asciiRuntime
    letI : Idna := ⟨none⟩
    ∃ ops, (Machine.run (GateDState.step exampleRuntime) ⟨exampleEngine 0, [], []⟩ ops).executed ≠ [] ∧
      (Machine.run (GateDState.step exampleRuntime) ⟨exampleEngine 0, [], []⟩ ops).InvalidationReaches := by
  let := asciiRuntime
  let : Idna := ⟨none⟩
  obtain ⟨ops, hexecuted, hdisciplined⟩ := exampleRun_disciplined (by decide +kernel)
  exact ⟨ops, hexecuted, invalidation_reaches exampleRuntime (exampleEngine 0) ops hdisciplined⟩

end Pmiri
