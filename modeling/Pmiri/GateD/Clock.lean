import Pmiri.GateD.Epochs

/-!
# The clock of the engine

An engine without an explicit time reads the clock when it is constructed. The
fence, and the revalidator it calls, compare a binding with that time, whatever
the clock shows when a transport is called.
-/

namespace Pmiri

open Py

/-! ## Times -/

/-- What `utc_now` writes is read back to the second. -/
theorem parseTime_utcNow (clock : Instant) : parseTime (utcNow clock) = .ok ((clock.seconds * 1000000 : Nat) : Int) := by
  have hrange : inRange ((clock.seconds * 1000000 : Nat) : Int) = true := by
    have := clock.seconds_lt
    rw [inRange, maxDays, dayMicros, Bool.and_eq_true, decide_eq_true_iff, decide_eq_true_iff]
    rw [maxDays] at this
    omega
  rw [parseTime, expandZ_utcNow, fromisoformat_isoText clock.seconds_lt]
  simp only [DateTime.instant?, Option.map_some, Int.sub_zero, hrange, ↓reduceIte]

/-! ## Construction -/

/-- The arguments of the engine's constructor, but for its time. -/
structure EngineSettings where
  authorityManifestFingerprint : String
  authority_valid : isHex 64 authorityManifestFingerprint = true
  freshnessProfile : Option FreshnessProfile := none
  policyVersion : String := "local-policy-0.1"
  networkExecutionEnabled : Bool := false
  policyEpochStore : Option Nat := none

/-- `GateDDecisionEngine(…, now=now)` when the clock shows `clock`. -/
def EngineSettings.engine (settings : EngineSettings) (now : Option String) (clock : Instant) : GateDDecisionEngine where
  authorityManifestFingerprint := settings.authorityManifestFingerprint
  authority_valid := settings.authority_valid
  freshnessProfile := settings.freshnessProfile.getD ⟨"pmiri-local-0.1", "0.1", 300⟩
  policyVersion := settings.policyVersion
  now := (now.filter (· != "")).getD (utcNow clock)
  networkExecutionEnabled := settings.networkExecutionEnabled
  policyEpochStore := settings.policyEpochStore
  epoch := settings.policyEpochStore.getD 0

/-! ## Runs on the clock -/

inductive ClockOp where
  | engine (op : GateDOp)
  | storeEpoch (current : Nat)  -- another user of the epoch store sets it

/-- An operation, and what the clock shows at it. -/
structure Timed where
  clock : Instant
  op : ClockOp

section

variable [Runtime]

/-- What an execution presents to the fence. -/
def ClockOp.presents : ClockOp → Option EmissionInput
  | .engine (.executeProvider i _) => some i
  | .engine (.executeConnector i _) => some i
  | _ => none

namespace GateDState

/-- A step of the engine, of the runtime `r` over it, or of the epoch store. No
step reads the clock. -/
def tick [Idna] (r : EnforcedTransportRuntime) (s : GateDState) (o : Timed) : GateDState :=
  match o.op with
  | .engine op => step r s op
  | .storeEpoch current =>
    { s with engine := { s.engine with policyEpochStore := s.engine.policyEpochStore.map fun _ => current } }

/-- The receipt of the operation is `EXECUTED`. -/
def Executes (r : EnforcedTransportRuntime) (s : GateDState) : ClockOp → Prop
  | .engine (.executeProvider i payload) => (r.executeProvider s.engine i payload).executed
  | .engine (.executeConnector i target) => (r.executeConnector s.engine i target).executed
  | _ => False

/-- An execution is within the validity of the binding that it presents. -/
def Unexpired (r : EnforcedTransportRuntime) (s : GateDState) (o : Timed) : Prop :=
  s.Executes r o.op → ∃ i b v, o.op.presents = some i ∧ i.authorizationBinding = some b ∧
    parseTime b.validUntil = .ok v ∧ o.clock.micros ≤ v

end GateDState

/-- The binding that an operation presents does not end between the second of
the construction and the operation. -/
def Timed.Lasting (built : Instant) (o : Timed) : Prop :=
  ∀ i b v, o.op.presents = some i → i.authorizationBinding = some b → parseTime b.validUntil = .ok v →
    (built.seconds * 1000000 : Nat) ≤ v → o.clock.micros ≤ v

/-! ## What a run keeps -/

namespace GateDState

omit [Runtime] in
theorem engine_emit {α : Type} (s : GateDState) (i : EmissionInput) (x : Execution α) : (s.emit i x).engine = s.engine := by
  unfold GateDState.emit
  split <;> rfl

/-- No step changes the time of the engine. -/
theorem tick_now [Idna] (r : EnforcedTransportRuntime) (s : GateDState) (o : Timed) : (s.tick r o).engine.now = s.engine.now := by
  obtain ⟨clock, op⟩ := o
  cases op with
  | storeEpoch current => rfl
  | engine op =>
    cases op with
    | evaluateTrust i => exact congrArg (·.now) (s.engine_produce ..)
    | evaluateCapability i => exact congrArg (·.now) (s.engine_produce ..)
    | evaluateNetwork i => exact congrArg (·.now) (s.engine_produce ..)
    | buildIntegratedEnvelope i => exact congrArg (·.now) (s.engine_produce ..)
    | invalidate => exact s.engine.invalidate_settings.1
    | executeProvider i payload => exact congrArg (·.now) (s.engine_emit ..)
    | executeConnector i target => exact congrArg (·.now) (s.engine_emit ..)

/-- A released execution presents a binding that had not ended at the engine's time. -/
theorem binding_of_released {α : Type} {r : EnforcedTransportRuntime} {g : GateDDecisionEngine} {transport : Option (Transport α)}
    {kind : String} {i : EmissionInput} {payload : α} (h : (r.execute g transport kind i payload).executed) :
    ∃ b now v, i.authorizationBinding = some b ∧ parseTime g.now = .ok now ∧ parseTime b.validUntil = .ok v ∧ now ≤ v := by
  obtain ⟨t, -, ht, -⟩ := EnforcedTransportRuntime.execute_executed.mp h
  obtain ⟨b, query, revalidate, hb⟩ := ht.fence.binding
  obtain ⟨-, -, now, v, -, hnow, hv, -, hle⟩ := RequestAuthorizationBinding.isValid_true.mp hb.valid |>.imp_right validInterval_true.mp
  exact ⟨b, now, v, hb.binding, hnow, hv, hle⟩

theorem Executes.binding {r : EnforcedTransportRuntime} {s : GateDState} {op : ClockOp} (h : s.Executes r op) :
    ∃ i b now v, op.presents = some i ∧ i.authorizationBinding = some b ∧ parseTime s.engine.now = .ok now ∧
      parseTime b.validUntil = .ok v ∧ now ≤ v := by
  unfold Executes at h
  split at h
  · rename_i i payload
    exact ⟨i, (binding_of_released h).imp fun _ hb => hb.imp fun _ hb => hb.imp fun _ hb => ⟨rfl, hb⟩⟩
  · rename_i i target
    exact ⟨i, (binding_of_released h).imp fun _ hb => hb.imp fun _ hb => hb.imp fun _ hb => ⟨rfl, hb⟩⟩
  · cases h

/-- In an engine that reads the clock when it is constructed, an execution is
within the validity of its binding exactly if the binding lasts. -/
theorem unexpired_iff {r : EnforcedTransportRuntime} {s : GateDState} {o : Timed} {built : Instant}
    (hnow : s.engine.now = utcNow built) (h : s.Executes r o.op) : s.Unexpired r o ↔ o.Lasting built := by
  obtain ⟨i, b, now, v, hi, hb, ht, hv, hle⟩ := h.binding
  rw [hnow, parseTime_utcNow] at ht
  obtain rfl := Except.ok.inj ht
  constructor
  · intro hu j b' v' hj hb' hv' _
    obtain ⟨k, c, w, hk, hc, hw, hclock⟩ := hu h
    obtain rfl : j = k := Option.some.inj (hj.symm.trans hk)
    obtain rfl : b' = c := Option.some.inj (hb'.symm.trans hc)
    obtain rfl : v' = w := Except.ok.inj (hv'.symm.trans hw)
    exact hclock
  · exact fun hl _ => ⟨i, b, v, hi, hb, hv, hl i b v hi hb hv hle⟩

end GateDState

/-! ## A run -/

theorem run_tick [Idna] (r : EnforcedTransportRuntime) (clock : Instant) (s : GateDState) (ops : List GateDOp) :
    Machine.run (GateDState.tick r) s (ops.map fun op => ⟨clock, .engine op⟩) = Machine.run (GateDState.step r) s ops := by
  simp only [Machine.run, List.foldl_map]
  rfl

end

/-- The start of 2026. -/
def exampleBuilt : Instant := ⟨63902822400000000, by decide⟩

/-- The start of 2027. -/
def exampleLate : Instant := ⟨63934358400000000, by decide⟩

theorem utcNow_exampleBuilt : utcNow exampleBuilt = "2026-01-01T00:00:00Z" := by decide +kernel

theorem isHex_zeros : isHex 64 "0000000000000000000000000000000000000000000000000000000000000000" = true := by decide

def exampleSettings : EngineSettings where
  authorityManifestFingerprint := "0000000000000000000000000000000000000000000000000000000000000000"
  authority_valid := isHex_zeros
  networkExecutionEnabled := true

theorem exampleSettings_engine : exampleSettings.engine none exampleBuilt = exampleEngine 0 := by
  rw [EngineSettings.engine, Option.filter_none, Option.getD_none, utcNow_exampleBuilt]
  rfl

section

variable [Runtime]

/-- An engine constructed at the start of 2026 evaluates the decisions of a call
and builds the envelope over them. The call, under a binding for 2026, is then
executed whatever the clock shows. -/
theorem exampleClock_executes [Idna] : ∃ ops i b, (∀ o ∈ ops, ClockOp.presents o.op = none) ∧
    i.authorizationBinding = some b ∧ b.validUntil = "2026-12-31T00:00:00Z" ∧
    (Machine.run (GateDState.tick exampleRuntime) ⟨exampleSettings.engine none exampleBuilt, [], []⟩ ops).Executes
      exampleRuntime (.engine (.executeProvider i .empty)) := by
  obtain ⟨b, huntil, hrevalidate, hcarries⟩ := exampleService_issues 0
  obtain ⟨t, c, n, h, hevaluations⟩ := exampleEvaluations_run exampleRuntime 0 [] []
  obtain ⟨hoperation, hpurpose, hna, d, hdestination⟩ := h.call
  obtain ⟨e, he, haccepts⟩ := exampleCall_accepted_of 0 h.trust.1 h.trust.2 h.capability.1 h.capability.2
    h.network.1 h.network.2 hoperation hpurpose hna hdestination hrevalidate (hcarries (exampleCall t c n b) rfl rfl)
  refine ⟨(exampleEvaluations 0 ++ [GateDOp.buildIntegratedEnvelope (exampleCall t c n b)]).map fun op => ⟨exampleBuilt, .engine op⟩,
    examplePresented 0 t c n e b, b, ?_, rfl, huntil, ?_⟩
  · intro o ho
    obtain ⟨op, hop, rfl⟩ := List.mem_map.mp ho
    simp only [exampleEvaluations, List.mem_append, List.mem_cons, List.not_mem_nil, or_false] at hop
    rcases hop with (rfl | rfl | rfl) | rfl <;> rfl
  · rw [run_tick, exampleSettings_engine, Machine.run_append, hevaluations, Machine.run_cons, Machine.run_nil,
      GateDState.step, GateDState.Executes, GateDState.engine_produce]
    exact exampleRuntime_executes .empty haccepts

/-! ## Expiry over runs -/

/-- In every run of an engine without an explicit time, an execution is within
the validity of the binding that it presents exactly if that does not end between
the construction and the execution. -/
theorem bindings_expire_iff [Idna] (settings : EngineSettings) (built : Instant) (r : EnforcedTransportRuntime) (ops : List Timed) :
    Machine.Along (GateDState.tick r) (fun s o => s.Executes r o.op → (s.Unexpired r o ↔ o.Lasting built))
        ⟨settings.engine none built, [], []⟩ ops ∧
      ((∀ o ∈ ops, o.Lasting built) →
        Machine.Along (GateDState.tick r) (GateDState.Unexpired r) ⟨settings.engine none built, [], []⟩ ops) := by
  have hstart : (settings.engine none built).now = utcNow built := rfl
  generalize settings.engine none built = g at hstart ⊢
  have hstep : ∀ s o, s.engine.now = utcNow built → (GateDState.tick r s o).engine.now = utcNow built :=
    fun s o hs => (s.tick_now r o).trans hs
  constructor
  · have htrivial : Machine.Along (GateDState.tick r) (fun _ _ => True) ⟨g, [], []⟩ ops :=
      Machine.along_of_forall _ fun _ _ => trivial
    refine Machine.along_of_invariant (GateDState.tick r) (fun s => s.engine.now = utcNow built)
      (fun s o hs _ => hstep s o hs) ?_ hstart htrivial
    exact fun s o hs _ h => GateDState.unexpired_iff hs h
  · intro h
    have hlasting : Machine.Along (GateDState.tick r) (fun _ o => o.Lasting built) ⟨g, [], []⟩ ops :=
      Machine.along_of_forall _ h
    refine Machine.along_of_invariant (GateDState.tick r) (fun s => s.engine.now = utcNow built)
      (fun s o hs _ => hstep s o hs) ?_ hstart hlasting
    exact fun s o hs ho hexecutes => (GateDState.unexpired_iff hs hexecutes).mpr ho hexecutes

end

/-- An engine constructed at the start of 2026 executes a call in 2027, under a
binding for 2026. -/
theorem executed_after_expiry :
    letI := asciiRuntime
    letI : Idna := ⟨none⟩
    ∃ ops, ¬ Machine.Along (GateDState.tick exampleRuntime) (GateDState.Unexpired exampleRuntime)
      ⟨exampleSettings.engine none exampleBuilt, [], []⟩ ops := by
  let := asciiRuntime
  let : Idna := ⟨none⟩
  obtain ⟨ops, i, b, -, hb, huntil, hexecutes⟩ := exampleClock_executes
  refine ⟨ops ++ [⟨exampleLate, .engine (.executeProvider i .empty)⟩], fun h => ?_⟩
  obtain ⟨j, b', v, hj, hb', hv, hle⟩ := (Machine.along_append _ |>.mp h).2.1 hexecutes
  obtain rfl : i = j := Option.some.inj hj
  obtain rfl : b = b' := Option.some.inj (hb.symm.trans hb')
  rw [huntil, parseTime_exampleUntil] at hv
  rw [← Except.ok.inj hv] at hle
  exact absurd (show (63934358400000000 : Int) ≤ 63934272000000000 from hle) (by decide)

theorem bindings_expire_iff_example :
    letI := asciiRuntime
    letI : Idna := ⟨none⟩
    ∃ ops o, (Machine.run (GateDState.tick exampleRuntime) ⟨exampleSettings.engine none exampleBuilt, [], []⟩ ops).Executes
        exampleRuntime o.op ∧
      Machine.Along (GateDState.tick exampleRuntime) (GateDState.Unexpired exampleRuntime)
        ⟨exampleSettings.engine none exampleBuilt, [], []⟩ (ops ++ [o]) := by
  let := asciiRuntime
  let : Idna := ⟨none⟩
  obtain ⟨ops, i, b, hnone, hb, huntil, hexecutes⟩ := exampleClock_executes
  refine ⟨ops, ⟨exampleBuilt, .engine (.executeProvider i .empty)⟩, hexecutes,
    (bindings_expire_iff exampleSettings exampleBuilt exampleRuntime _).2 fun o ho => ?_⟩
  rcases List.mem_append.mp ho with ho | ho
  · intro j b' v hj
    rw [hnone o ho] at hj
    cases hj
  · obtain rfl := List.mem_singleton.mp ho
    intro j b' v hj hb' hv _
    obtain rfl : i = j := Option.some.inj hj
    obtain rfl : b = b' := Option.some.inj (hb.symm.trans hb')
    rw [huntil, parseTime_exampleUntil] at hv
    rw [← Except.ok.inj hv]
    exact show (63902822400000000 : Int) ≤ 63934272000000000 by decide

end Pmiri
