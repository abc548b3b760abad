import Mathlib.Data.List.TakeWhile
import Pmiri.Python.Sha256
import Pmiri.Runs
import Pmiri.RequestAuth.Bindings

/-!
# Replays

Evaluations by any number of services over one replay guard. A guard is to hold
an accepted request id for as long as its binding is valid. Both guards drop an
id at the very instant its binding expires, when the binding is still valid,
and the guard of one process drops its oldest id when it is full.
-/

namespace Pmiri

open Py

/-! ## What a run asks of a guard -/

/-- A guard as the request ids it holds, each until the expiry of its binding. -/
structure ReplayLaws (γ : Type) [ReplayPort γ] where
  holds : γ → String → Int → Prop
  consistent : γ → Prop
  /-- A call for the id, at the instant, drops no id whose binding is still valid. -/
  keepsValid : γ → String → Int → Prop
  call : ∀ {g g' : γ} {requestId fingerprint expiresAt now : String} {admitted : Bool}, consistent g →
    ReplayPort.consume g requestId fingerprint expiresAt now = .ok (admitted, g') →
    ∃ t expiry, parseTime now = .ok t ∧ parseTime expiresAt = .ok expiry ∧ consistent g' ∧
      (admitted = true → holds g' requestId expiry) ∧
      (keepsValid g requestId t → ∀ q e, holds g q e → t ≤ e → holds g' q e ∧ (q = requestId → admitted = false))

namespace ReplayGuard

/-- The ids that a call at `now` finds expired at the head of the queue, and
the ids behind them. -/
def expired (g : ReplayGuard) (now : Int) : List (String × String × Int) := g.seen.takeWhile fun q => q.2.2 ≤ now

def pending (g : ReplayGuard) (now : Int) : List (String × String × Int) := g.seen.dropWhile fun q => q.2.2 ≤ now

/-- The queue has the ids in the order they were accepted in, each once. -/
structure Consistent (g : ReplayGuard) : Prop where
  order : g.order = g.seen.map (·.1)
  nodup : (g.seen.map (·.1)).Nodup

/-- None of the ids dropped from the head expires just now, and there is room
for a new one. -/
structure KeepsValid (g : ReplayGuard) (requestId : String) (now : Int) : Prop where
  expired : ∀ q ∈ g.expired now, q.2.2 ≠ now
  room : requestId ∉ (g.pending now).map (·.1) → (g.pending now).length < g.maxEntries

theorem forget_head {q : String × String × Int} {seen : List (String × String × Int)}
    (h : ((q :: seen).map (·.1)).Nodup) : forget (q :: seen) q.1 = seen := by
  rw [List.map_cons, List.nodup_cons] at h
  simp only [forget, List.filter_cons, bne_self_eq_false, Bool.false_eq_true, ↓reduceIte, List.filter_eq_self, bne_iff_ne]
  exact fun r hr e => h.1 (List.mem_map.mpr ⟨r, hr, e⟩)

theorem purge_eq {now : Int} {seen : List (String × String × Int)} (h : (seen.map (·.1)).Nodup) :
    purge now seen (seen.map (·.1)) =
      (seen.dropWhile fun q => q.2.2 ≤ now, (seen.dropWhile fun q => q.2.2 ≤ now).map (·.1)) := by
  induction seen with
  | nil => rfl
  | cons q seen ih =>
    have hexpiry : expiryOf (q :: seen) q.1 = q.2.2 := by rw [expiryOf, List.lookup_cons_self]; rfl
    rw [List.map_cons, purge, hexpiry, List.dropWhile_cons, forget_head h]
    split <;> rename_i hle
    · rw [if_pos (decide_eq_true hle)]
      exact ih (List.nodup_cons.mp h).2
    · rw [if_neg (by simpa using hle), List.map_cons]

theorem Consistent.purged_eq {g : ReplayGuard} (h : g.Consistent) (now : Int) :
    g.purged now = { g with seen := g.pending now, order := (g.pending now).map (·.1) } := by
  rw [purged, h.order, purge_eq h.nodup]
  rfl

theorem mem_expired_or_pending {g : ReplayGuard} {now : Int} {q : String × String × Int} :
    q ∈ g.seen ↔ q ∈ g.expired now ∨ q ∈ g.pending now := by
  rw [← List.mem_append, expired, pending, List.takeWhile_append_dropWhile]

theorem nodup_pending {g : ReplayGuard} (h : g.Consistent) (now : Int) : ((g.pending now).map (·.1)).Nodup :=
  h.nodup.sublist ((List.dropWhile_sublist _).map _)

theorem lookup_isSome {seen : List (String × String × Int)} {r : String} :
    (seen.lookup r).isSome = true ↔ r ∈ seen.map (·.1) := by
  induction seen with
  | nil => simp
  | cons q seen ih =>
    rw [List.lookup_cons, List.map_cons, List.mem_cons]
    split <;> rename_i h
    · simp [beq_iff_eq.mp h]
    · have hne : r ≠ q.1 := by simpa using h
      simp [ih, hne]

/-- What a call does, by whether the id is pending and whether there is room. -/
theorem consumeAt_ok {g g' : ReplayGuard} (hg : g.Consistent) {r f : String} {expiry now : Int} {admitted : Bool}
    (h : g.consumeAt r f expiry now = .ok (admitted, g')) :
    (r ∈ (g.pending now).map (·.1) ∧ admitted = false ∧ g'.seen = g.pending now ∧ g'.Consistent) ∨
      (r ∉ (g.pending now).map (·.1) ∧ admitted = true ∧ (r, f, expiry) ∈ g'.seen ∧ g'.Consistent ∧
        ((g.pending now).length < g.maxEntries → g'.seen = g.pending now ++ [(r, f, expiry)])) := by
  have hnodup := nodup_pending hg now
  simp only [consumeAt, hg.purged_eq] at h
  split at h
  · rename_i hr
    cases h
    exact .inl ⟨lookup_isSome.mp hr, rfl, rfl, rfl, hnodup⟩
  · rename_i hr
    have hnew : r ∉ (g.pending now).map (·.1) := fun hmem => hr (lookup_isSome.mpr hmem)
    split at h
    · rename_i hfull
      rcases hp : g.pending now with _ | ⟨old, rest⟩
      · simp only [hp, List.map_nil] at h
        cases h
      · rw [hp, List.map_cons] at hnew
        rw [hp] at hnodup
        simp only [hp, List.map_cons, forget_head hnodup] at h
        cases h
        refine .inr ⟨hnew, rfl, by simp, ⟨by simp, ?_⟩, fun hroom => absurd hfull (Nat.not_le.mpr (hp ▸ hroom))⟩
        rw [List.map_append, List.nodup_append_comm]
        exact List.nodup_cons.mpr ⟨fun hmem => hnew (List.mem_cons_of_mem _ hmem), (List.nodup_cons.mp hnodup).2⟩
    · cases h
      refine .inr ⟨hnew, rfl, by simp, ⟨by simp, ?_⟩, fun _ => rfl⟩
      rw [List.map_append, List.nodup_append_comm]
      exact List.nodup_cons.mpr ⟨hnew, hnodup⟩

theorem consume_eq {g : ReplayGuard} {requestId fingerprint expiresAt now : String} {t expiry : Int}
    (ht : parseTime now = .ok t) (hexpiry : parseTime expiresAt = .ok expiry) :
    ReplayPort.consume g requestId fingerprint expiresAt now = g.consumeAt requestId fingerprint expiry t := by
  simp only [ReplayPort.consume, ht, hexpiry, ok_bind]

/-- The guard of one process. -/
def laws : ReplayLaws ReplayGuard where
  holds g q e := ∃ f, (q, f, e) ∈ g.seen
  consistent := Consistent
  keepsValid := KeepsValid
  call {g g' requestId fingerprint expiresAt now admitted} hg h := by
    obtain ⟨t, ht, h⟩ := bind_ok.mp h
    obtain ⟨expiry, hexpiry, h⟩ := bind_ok.mp h
    have hvalid : g.KeepsValid requestId t → ∀ {q f e}, (q, f, e) ∈ g.seen → t ≤ e → (q, f, e) ∈ g.pending t := by
      intro hk q f e hmem hle
      rcases mem_expired_or_pending.mp hmem with hx | hp
      · have hle' : e ≤ t := by simpa using List.mem_takeWhile_imp hx
        exact absurd (le_antisymm hle' hle) (hk.expired _ hx)
      · exact hp
    refine ⟨t, expiry, ht, hexpiry, ?_⟩
    rcases consumeAt_ok hg h with ⟨-, rfl, hseen, hg'⟩ | ⟨hnew, rfl, hmem, hg', hseen⟩
    · refine ⟨hg', by simp, fun hk q e ⟨f, hq⟩ hle => ⟨⟨f, ?_⟩, fun _ => rfl⟩⟩
      rw [hseen]
      exact hvalid hk hq hle
    · refine ⟨hg', fun _ => ⟨_, hmem⟩, fun hk q e ⟨f, hq⟩ hle => ⟨⟨f, ?_⟩, ?_⟩⟩
      · rw [hseen (hk.room hnew)]
        exact List.mem_append_left _ (hvalid hk hq hle)
      · rintro rfl
        exact absurd (List.mem_map_of_mem (hvalid hk hq hle)) hnew

end ReplayGuard

namespace SQLiteReplayGuard

/-- No id in the table expires just now. -/
def KeepsValid (g : SQLiteReplayGuard) (now : Int) : Prop := ∀ r ∈ g.rows, r.2.2 ≠ now

theorem consume_eq {g : SQLiteReplayGuard} {requestId fingerprint expiresAt now : String} {t expiry : Int}
    (ht : parseTime now = .ok t) (hexpiry : parseTime expiresAt = .ok expiry) :
    ReplayPort.consume g requestId fingerprint expiresAt now = .ok (g.consumeAt requestId fingerprint expiry t) := by
  simp only [ReplayPort.consume, ht, hexpiry, ok_bind]
  rfl

/-- The guard that workers share. -/
def laws : ReplayLaws SQLiteReplayGuard where
  holds g q e := ∃ f, (q, f, e) ∈ g.rows
  consistent _ := True
  keepsValid g _ now := g.KeepsValid now
  call {g g' requestId fingerprint expiresAt now admitted} _ h := by
    obtain ⟨t, ht, h⟩ := bind_ok.mp h
    obtain ⟨expiry, hexpiry, h⟩ := bind_ok.mp h
    have hvalid : g.KeepsValid t → ∀ {q f e}, (q, f, e) ∈ g.rows → t ≤ e → (q, f, e) ∈ (g.purged t).rows := by
      intro hk q f e hmem hle
      have hne := hk _ hmem
      refine List.mem_filter.mpr ⟨hmem, ?_⟩
      rw [Bool.not_eq_true', decide_eq_false_iff_not, not_le]
      exact lt_of_le_of_ne hle (Ne.symm hne)
    refine ⟨t, expiry, ht, hexpiry, trivial, ?_⟩
    simp only [consumeAt, pure, Except.pure, Except.ok.injEq] at h
    split at h
    · cases h
      exact ⟨by simp, fun hk q e ⟨f, hq⟩ hle => ⟨⟨f, hvalid hk hq hle⟩, fun _ => rfl⟩⟩
    · rename_i hnew
      cases h
      refine ⟨fun _ => ⟨_, List.mem_append_right _ (List.mem_singleton.mpr rfl)⟩, fun hk q e ⟨f, hq⟩ hle =>
        ⟨⟨f, List.mem_append_left _ (hvalid hk hq hle)⟩, ?_⟩⟩
      rintro rfl
      exact absurd (ReplayGuard.lookup_isSome.mpr (List.mem_map_of_mem (hvalid hk hq hle))) hnew

end SQLiteReplayGuard

/-! ## Runs -/

/-- A call of `evaluate` on a service; the guard of the service is the shared one. -/
structure EvaluateCall (κ ρ γ : Type) where
  service : RequestAuthorizationService κ ρ γ
  request : QueryRequest
  authenticationRef : Option String
  current : String
  clock : Rat

/-- An evaluation with the result ALLOW. -/
structure Admission where
  request : QueryRequest
  current : String
  binding : RequestAuthorizationBinding

/-- The guard, the latest instant of a call, and the admissions so far. -/
structure ReplayState (γ : Type) where
  guard : γ
  latest : Option Int := none
  admitted : List Admission := []

/-- No request id is admitted again while the binding of an earlier admission
is still valid. -/
def NoReplay (admitted : List Admission) : Prop :=
  admitted.Pairwise fun a b => a.request.requestId = b.request.requestId →
    ∀ t e, parseTime b.current = .ok t → parseTime a.binding.validUntil = .ok e → e < t

section

variable [Runtime] {κ ρ γ : Type} [RegistryPort κ] [RatePort ρ] [ReplayPort γ]

def EvaluateCall.evaluation (c : EvaluateCall κ ρ γ) (guard : γ) :
    Except Exc AuthorizationEvaluation × RequestAuthorizationService κ ρ γ :=
  { c.service with replayGuard := guard }.evaluate c.request c.authenticationRef c.current c.clock

/-- The binding that an evaluation allows, if it does. -/
def allowedBinding (outcome : Except Exc AuthorizationEvaluation) : Option RequestAuthorizationBinding :=
  match outcome with
  | .ok e => if e.allowed then e.binding else none
  | .error _ => none

namespace ReplayState

def step (s : ReplayState γ) (c : EvaluateCall κ ρ γ) : ReplayState γ where
  guard := (c.evaluation s.guard).2.replayGuard
  latest := match parseTime c.current with
    | .ok t => some t
    | .error _ => s.latest
  admitted := s.admitted ++ ((allowedBinding (c.evaluation s.guard).1).map (⟨c.request, c.current, ·⟩)).toList

/-- The clock does not go back. -/
def Ticks (s : ReplayState γ) (c : EvaluateCall κ ρ γ) : Prop :=
  ∀ t u, parseTime c.current = .ok t → s.latest = some u → u ≤ t

/-- A call that gets as far as the guard makes it drop no id that is still valid. -/
def KeepsValid (laws : ReplayLaws γ) (s : ReplayState γ) (c : EvaluateCall κ ρ γ) : Prop :=
  ∀ p t, c.service.screen c.request c.authenticationRef c.current = .ok (.ok p) → parseTime c.current = .ok t →
    laws.keepsValid s.guard c.request.requestId t

end ReplayState

/-! ## What a run keeps -/

omit [Runtime] in
theorem allowedBinding_denyCaught (e : Exc) : allowedBinding (RequestAuthorizationService.denyCaught e) = none := by
  unfold RequestAuthorizationService.denyCaught
  split <;> rfl

/-- An evaluation leaves the guard as it is and allows nothing, or it asks the
guard and allows what the guard admits. -/
theorem evaluation_guard (c : EvaluateCall κ ρ γ) (guard : γ) :
    (allowedBinding (c.evaluation guard).1 = none ∧ (c.evaluation guard).2.replayGuard = guard) ∨
      ∃ p binding admitted guard',
        c.service.screen c.request c.authenticationRef c.current = .ok (.ok p) ∧
        RequestAuthorizationService.buildBinding c.service.operation c.request p c.current = .ok binding ∧
        ReplayPort.consume guard c.request.requestId binding.fingerprint binding.validUntil c.current =
          .ok (admitted, guard') ∧
        allowedBinding (c.evaluation guard).1 = (if admitted then some binding else none) ∧
        (c.evaluation guard).2.replayGuard = guard' := by
  have hscreen : ({ c.service with replayGuard := guard } : RequestAuthorizationService κ ρ γ).screen c.request
      c.authenticationRef c.current = c.service.screen c.request c.authenticationRef c.current := rfl
  unfold EvaluateCall.evaluation RequestAuthorizationService.evaluate
  rw [hscreen]
  split
  · exact .inl ⟨allowedBinding_denyCaught _, rfl⟩
  · exact .inl ⟨rfl, rfl⟩
  · rename_i p hp
    dsimp only
    split
    · exact .inl ⟨rfl, rfl⟩
    · split
      · exact .inl ⟨allowedBinding_denyCaught _, rfl⟩
      · rename_i binding hb
        split
        · exact .inl ⟨allowedBinding_denyCaught _, rfl⟩
        · rename_i guard' hg
          exact .inr ⟨p, binding, false, guard', hp, hb, hg, rfl, rfl⟩
        · rename_i guard' hg
          exact .inr ⟨p, binding, true, guard', hp, hb, hg, rfl, rfl⟩

/-- The guard holds what was admitted, until it is past its validity. -/
structure Guarded (laws : ReplayLaws γ) (s : ReplayState γ) : Prop where
  consistent : laws.consistent s.guard
  held : ∀ a ∈ s.admitted, ∃ e, parseTime a.binding.validUntil = .ok e ∧
    (laws.holds s.guard a.request.requestId e ∨ ∃ u, s.latest = some u ∧ e < u)
  noReplay : NoReplay s.admitted

theorem Guarded.step {laws : ReplayLaws γ} {s : ReplayState γ} {c : EvaluateCall κ ρ γ} (h : Guarded laws s)
    (hticks : s.Ticks c) (hkeeps : s.KeepsValid laws c) : Guarded laws (s.step c) := by
  -- what is past its validity stays so
  have hpast : ∀ {e}, (∃ u, s.latest = some u ∧ e < u) → ∃ u, (s.step c).latest = some u ∧ e < u := by
    rintro e ⟨u, hu, he⟩
    simp only [ReplayState.step]
    split
    · rename_i t ht
      exact ⟨t, rfl, he.trans_le (hticks t u ht hu)⟩
    · exact ⟨u, hu, he⟩
  rcases evaluation_guard c s.guard with ⟨hbinding, hguard⟩ | ⟨p, b, admitted, guard', hscreen, hb, hconsume, hbinding, hguard⟩
  · refine ⟨?_, ?_, ?_⟩
    · simpa only [ReplayState.step, hguard] using h.consistent
    · intro a ha
      simp only [ReplayState.step, hbinding, Option.map_none, Option.toList_none, List.append_nil] at ha
      obtain ⟨e, he, hheld⟩ := h.held a ha
      refine ⟨e, he, hheld.imp (fun hh => ?_) hpast⟩
      simpa only [ReplayState.step, hguard] using hh
    · simpa only [ReplayState.step, hbinding, Option.map_none, Option.toList_none, List.append_nil] using h.noReplay
  · obtain ⟨t, expiry, ht, hexpiry, hconsistent, hadmits, hvalid⟩ := laws.call h.consistent hconsume
    have hvalid := hvalid (hkeeps p t hscreen ht)
    have hlatest : (s.step c).latest = some t := by simp only [ReplayState.step, ht]
    have hguard' : (s.step c).guard = guard' := hguard
    -- an earlier admission is held on, and then the call is not for its id, or it is past its validity
    have hearlier : ∀ a ∈ s.admitted, ∃ e, parseTime a.binding.validUntil = .ok e ∧
        ((laws.holds guard' a.request.requestId e ∧ (a.request.requestId = c.request.requestId → admitted = false)) ∨ e < t) := by
      intro a ha
      obtain ⟨e, he, hheld | ⟨u, hu, hlt⟩⟩ := h.held a ha
      · rcases le_or_gt t e with hle | hgt
        · exact ⟨e, he, .inl (hvalid _ e hheld hle)⟩
        · exact ⟨e, he, .inr hgt⟩
      · exact ⟨e, he, .inr (hlt.trans_le (hticks t u ht hu))⟩
    cases admitted with
    | false =>
      have hsame : (s.step c).admitted = s.admitted := by
        simp [ReplayState.step, hbinding]
      refine ⟨hguard' ▸ hconsistent, fun a ha => ?_, hsame ▸ h.noReplay⟩
      obtain ⟨e, he, hor⟩ := hearlier a (hsame ▸ ha)
      exact ⟨e, he, hor.imp (fun hh => hguard' ▸ hh.1) fun hlt => ⟨t, hlatest, hlt⟩⟩
    | true =>
      have hmore : (s.step c).admitted = s.admitted ++ [⟨c.request, c.current, b⟩] := by
        simp [ReplayState.step, hbinding]
      refine ⟨hguard' ▸ hconsistent, fun a ha => ?_, ?_⟩
      · rw [hmore, List.mem_append, List.mem_singleton] at ha
        rcases ha with ha | rfl
        · obtain ⟨e, he, hor⟩ := hearlier a ha
          exact ⟨e, he, hor.imp (fun hh => hguard' ▸ hh.1) fun hlt => ⟨t, hlatest, hlt⟩⟩
        · exact ⟨expiry, hexpiry, .inl (hguard' ▸ hadmits rfl)⟩
      · rw [hmore, NoReplay, List.pairwise_append]
        refine ⟨h.noReplay, List.pairwise_singleton _ _, fun a ha a' ha' hid t' e' ht' he' => ?_⟩
        obtain rfl := List.mem_singleton.mp ha'
        obtain rfl : t = t' := Except.ok.inj (ht.symm.trans ht')
        obtain ⟨e, he, ⟨-, hne⟩ | hlt⟩ := hearlier a ha
        · exact absurd (hne hid) (by simp)
        · obtain rfl : e = e' := Except.ok.inj (he.symm.trans he')
          exact hlt

/-- A run from a guard that holds nothing. -/
theorem run_noReplay (laws : ReplayLaws γ) {guard : γ} (hguard : laws.consistent guard) {calls : List (EvaluateCall κ ρ γ)}
    (h : Machine.Along ReplayState.step (fun s c => s.Ticks c ∧ s.KeepsValid laws c) ⟨guard, none, []⟩ calls) :
    NoReplay (Machine.run ReplayState.step ⟨guard, none, []⟩ calls).admitted :=
  (Machine.run_invariant _ (Guarded laws) (fun _ _ hs hc => hs.step hc.1 hc.2) ⟨hguard, by simp, by simp [NoReplay]⟩ h).noReplay

end

/-! ## Calls of one principal -/

/-- The limiter after some calls of the principal at its time 0. -/
def exampleLimiter (calls : Nat) : FixedWindowRateLimiter where
  windows := if calls = 0 then [] else [("principal://example:provider_call", 0, calls)]

theorem exampleLimiter_admits {calls : Nat} (h : calls < 60) :
    (RatePort.consume (exampleLimiter calls) "principal://example:provider_call" 0).1 = true := by
  have hwindow : (exampleLimiter calls).window "principal://example:provider_call" 0 = (0, calls) := by
    have hopen : ¬ (60 : Rat) ≤ 0 := by decide
    rcases calls with _ | n <;> simp [exampleLimiter, FixedWindowRateLimiter.window, hopen]
  have hlt : ¬ (exampleLimiter calls).maxRequests ≤ calls := Nat.not_le.mpr h
  simp only [RatePort.consume, hwindow, if_neg hlt]

/-- The next call for a request id, after some calls. -/
def exampleEvaluate {γ : Type} (guard : γ) (calls : Nat) (requestId current : String) :
    EvaluateCall AuthenticationRegistry FixedWindowRateLimiter γ where
  service := { exampleService 0 guard with rateLimiter := exampleLimiter calls }
  request := exampleQuery requestId
  authenticationRef := some "auth://example"
  current := current
  clock := 0

section

variable [Runtime] {γ : Type} [ReplayPort γ]

/-- A call that the guard admits is allowed. -/
theorem exampleEvaluate_step (guard : γ) {calls : Nat} {requestId current : String} {t : Int} (hid : requestId ≠ "")
    (hcalls : calls < 60) (ht : parseTime current = .ok t)
    (hcurrent : validInterval "2026-01-01T00:00:00Z" "2026-12-31T00:00:00Z" current = .ok true) :
    ∃ b, b.validUntil = "2026-12-31T00:00:00Z" ∧ ∀ (s : ReplayState γ) guard', ReplayPort.consume s.guard requestId
        b.fingerprint "2026-12-31T00:00:00Z" current = .ok (true, guard') →
      s.step (exampleEvaluate guard calls requestId current) =
        ⟨guard', some t, s.admitted ++ [⟨exampleQuery requestId, current, b⟩]⟩ := by
  obtain ⟨b, hb⟩ := exampleService_builds 0 current hid
  have huntil : b.validUntil = "2026-12-31T00:00:00Z" := (RequestAuthorizationService.buildBinding_issued hb).validity.2
  refine ⟨b, huntil, fun s guard' hconsume => ?_⟩
  have hadmits : RequestAuthorizationService.Admits
      { (exampleEvaluate guard calls requestId current).service with replayGuard := s.guard } (exampleQuery requestId)
      (some "auth://example") current 0 (examplePrincipal 0) b guard' :=
    ⟨exampleService_screens 0 guard hid hcurrent, exampleLimiter_admits hcalls, hb, huntil ▸ hconsume⟩
  have hevaluate := RequestAuthorizationService.evaluate_of_admits hadmits
  simp only [ReplayState.step, EvaluateCall.evaluation]
  rw [show (exampleEvaluate guard calls requestId current).request = exampleQuery requestId from rfl,
    show (exampleEvaluate guard calls requestId current).authenticationRef = some "auth://example" from rfl,
    show (exampleEvaluate guard calls requestId current).current = current from rfl,
    show (exampleEvaluate guard calls requestId current).clock = 0 from rfl, hevaluate, ht]
  rfl

omit [Runtime] in
/-- Two admissions of one id within a validity. -/
theorem not_noReplay {a b : Admission} (before between : List Admission) {t e : Int}
    (hid : a.request.requestId = b.request.requestId) (ht : parseTime b.current = .ok t)
    (he : parseTime a.binding.validUntil = .ok e) (hle : t ≤ e) : ¬ NoReplay (before ++ a :: between ++ [b]) := by
  intro h
  rw [NoReplay, List.pairwise_append] at h
  exact absurd (h.2.2 a (by simp) b (List.mem_singleton.mpr rfl) hid t e ht he) (not_lt.mpr hle)

/-- Two calls at one instant that a guard admits. -/
theorem exampleCalls_run {guard : γ} (guard₁ : String → γ) (guard₂ : String → String → γ) {current r r' : String} {t : Int}
    (hr : r ≠ "") (hr' : r' ≠ "") (ht : parseTime current = .ok t)
    (hcurrent : validInterval "2026-01-01T00:00:00Z" "2026-12-31T00:00:00Z" current = .ok true)
    (h₁ : ∀ f, ReplayPort.consume guard r f "2026-12-31T00:00:00Z" current = .ok (true, guard₁ f))
    (h₂ : ∀ f f', ReplayPort.consume (guard₁ f) r' f' "2026-12-31T00:00:00Z" current = .ok (true, guard₂ f f')) :
    ∃ (calls : List (EvaluateCall AuthenticationRegistry FixedWindowRateLimiter γ)) (b b' : RequestAuthorizationBinding),
      b.validUntil = "2026-12-31T00:00:00Z" ∧ (Machine.run ReplayState.step ⟨guard, none, []⟩ calls).admitted =
        [⟨exampleQuery r, current, b⟩, ⟨exampleQuery r', current, b'⟩] ∧
      ∀ condition, condition ⟨guard, none, []⟩ (exampleEvaluate guard 0 r current) →
        (∀ f admitted, condition ⟨guard₁ f, some t, admitted⟩ (exampleEvaluate guard 1 r' current)) →
        Machine.Along ReplayState.step condition ⟨guard, none, []⟩ calls := by
  obtain ⟨b, hb, hfirst⟩ := exampleEvaluate_step guard hr (show 0 < 60 by decide) ht hcurrent
  obtain ⟨b', -, hsecond⟩ := exampleEvaluate_step guard hr' (show 1 < 60 by decide) ht hcurrent
  have hstep := hfirst ⟨guard, none, []⟩ _ (h₁ _)
  have hstep' := hsecond ⟨guard₁ b.fingerprint, some t, [⟨exampleQuery r, current, b⟩]⟩ _ (h₂ _ _)
  refine ⟨[exampleEvaluate guard 0 r current, exampleEvaluate guard 1 r' current], b, b', hb, ?_, fun condition hc hc' =>
    ⟨hc, hstep ▸ hc' _ _, trivial⟩⟩
  rw [Machine.run_cons, hstep, Machine.run_cons, List.nil_append, hstep', Machine.run_nil]
  rfl

omit [Runtime] [ReplayPort γ] in
/-- The clock stands still. -/
theorem ReplayState.ticks_same {s : ReplayState γ} {c : EvaluateCall AuthenticationRegistry FixedWindowRateLimiter γ} {t : Int}
    (ht : parseTime c.current = .ok t) (hs : s.latest = none ∨ s.latest = some t) : s.Ticks c := by
  intro t' u ht' hu
  obtain rfl : t = t' := Except.ok.inj (ht.symm.trans ht')
  rcases hs with hs | hs
  · cases hs.symm.trans hu
  · obtain rfl : t = u := Option.some.inj (hs.symm.trans hu)
    exact le_rfl

/-- A guard that admits an id twice at the instant its binding expires. -/
theorem replayed_at_expiry {guard : γ} (guard₁ : String → γ) (guard₂ : String → String → γ)
    (h₁ : ∀ f, ReplayPort.consume guard "request" f "2026-12-31T00:00:00Z" "2026-12-31T00:00:00Z" = .ok (true, guard₁ f))
    (h₂ : ∀ f f', ReplayPort.consume (guard₁ f) "request" f' "2026-12-31T00:00:00Z" "2026-12-31T00:00:00Z" =
      .ok (true, guard₂ f f')) :
    ∃ calls : List (EvaluateCall AuthenticationRegistry FixedWindowRateLimiter γ),
      Machine.Along ReplayState.step ReplayState.Ticks ⟨guard, none, []⟩ calls ∧
        ¬ NoReplay (Machine.run ReplayState.step ⟨guard, none, []⟩ calls).admitted := by
  have hid : "request" ≠ "" := by decide
  obtain ⟨calls, b, b', hb, hadmitted, halong⟩ :=
    exampleCalls_run guard₁ guard₂ hid hid parseTime_exampleUntil validInterval_exampleUntil h₁ h₂
  refine ⟨calls, halong _ (ReplayState.ticks_same parseTime_exampleUntil (.inl rfl)) fun f admitted =>
    ReplayState.ticks_same parseTime_exampleUntil (.inr rfl), ?_⟩
  rw [hadmitted]
  exact not_noReplay [] [] rfl parseTime_exampleUntil (hb ▸ parseTime_exampleUntil) le_rfl

/-- A run of two admissions in which the guard keeps what is valid. -/
theorem admitted_in_order (laws : ReplayLaws γ) (guard : γ) (guard₁ : String → γ) (guard₂ : String → String → γ)
    (h₁ : ∀ f, ReplayPort.consume guard "request" f "2026-12-31T00:00:00Z" "2026-01-01T00:00:00Z" = .ok (true, guard₁ f))
    (h₂ : ∀ f f', ReplayPort.consume (guard₁ f) "other" f' "2026-12-31T00:00:00Z" "2026-01-01T00:00:00Z" =
      .ok (true, guard₂ f f'))
    (hk₁ : laws.keepsValid guard "request" 63902822400000000)
    (hk₂ : ∀ f, laws.keepsValid (guard₁ f) "other" 63902822400000000) :
    ∃ calls : List (EvaluateCall AuthenticationRegistry FixedWindowRateLimiter γ),
      Machine.Along ReplayState.step (fun s c => s.Ticks c ∧ s.KeepsValid laws c) ⟨guard, none, []⟩ calls ∧
        (Machine.run ReplayState.step ⟨guard, none, []⟩ calls).admitted.length = 2 := by
  obtain ⟨calls, b, b', -, hadmitted, halong⟩ := exampleCalls_run guard₁ guard₂ (show "request" ≠ "" by decide)
    (show "other" ≠ "" by decide) parseTime_exampleNow validInterval_example h₁ h₂
  have hnow : ∀ {t : Int}, parseTime "2026-01-01T00:00:00Z" = .ok t → 63902822400000000 = t := fun h =>
    Except.ok.inj (parseTime_exampleNow.symm.trans h)
  refine ⟨calls, halong _ ⟨ReplayState.ticks_same parseTime_exampleNow (.inl rfl), fun p t _ ht => hnow ht ▸ hk₁⟩
    fun f admitted => ⟨ReplayState.ticks_same parseTime_exampleNow (.inr rfl), fun p t _ ht => hnow ht ▸ hk₂ f⟩, ?_⟩
  rw [hadmitted]
  rfl

omit γ [ReplayPort γ] in
/-- A guard with room for one id, and another id between. -/
theorem replayed_after_flood : ∃ calls : List (EvaluateCall AuthenticationRegistry FixedWindowRateLimiter ReplayGuard),
    Machine.Along ReplayState.step ReplayState.Ticks ⟨⟨1, [], []⟩, none, []⟩ calls ∧
      ¬ NoReplay (Machine.run ReplayState.step ⟨⟨1, [], []⟩, none, []⟩ calls).admitted := by
  let guard : ReplayGuard := ⟨1, [], []⟩
  obtain ⟨b, hb, hfirst⟩ := exampleEvaluate_step guard (show "request" ≠ "" by decide) (show 0 < 60 by decide)
    parseTime_exampleNow validInterval_example
  obtain ⟨b', -, hother⟩ := exampleEvaluate_step guard (show "other" ≠ "" by decide) (show 1 < 60 by decide)
    parseTime_exampleNow validInterval_example
  obtain ⟨b'', -, hagain⟩ := exampleEvaluate_step guard (show "request" ≠ "" by decide) (show 2 < 60 by decide)
    parseTime_exampleNow validInterval_example
  have hconsume : ∀ (g g' : ReplayGuard) {r f : String}, g.consumeAt r f 63934272000000000 63902822400000000 = .ok (true, g') →
      ReplayPort.consume g r f "2026-12-31T00:00:00Z" "2026-01-01T00:00:00Z" = .ok (true, g') := fun g g' r f h =>
    (ReplayGuard.consume_eq parseTime_exampleNow parseTime_exampleUntil).trans h
  have h₁ := hfirst ⟨guard, none, []⟩ ⟨1, [("request", b.fingerprint, 63934272000000000)], ["request"]⟩ (hconsume _ _ rfl)
  have h₂ := hother ⟨⟨1, [("request", b.fingerprint, 63934272000000000)], ["request"]⟩, some 63902822400000000,
    [⟨exampleQuery "request", "2026-01-01T00:00:00Z", b⟩]⟩ ⟨1, [("other", b'.fingerprint, 63934272000000000)], ["other"]⟩
    (hconsume _ _ rfl)
  have h₃ := hagain ⟨⟨1, [("other", b'.fingerprint, 63934272000000000)], ["other"]⟩, some 63902822400000000,
    [⟨exampleQuery "request", "2026-01-01T00:00:00Z", b⟩, ⟨exampleQuery "other", "2026-01-01T00:00:00Z", b'⟩]⟩
    ⟨1, [("request", b''.fingerprint, 63934272000000000)], ["request"]⟩ (hconsume _ _ rfl)
  have hticks : ∀ {t u : Int}, parseTime "2026-01-01T00:00:00Z" = .ok t → some 63902822400000000 = some u → u ≤ t := by
    intro t u ht hu
    cases hu
    exact (Except.ok.inj (parseTime_exampleNow.symm.trans ht)).le
  refine ⟨[exampleEvaluate guard 0 "request" "2026-01-01T00:00:00Z", exampleEvaluate guard 1 "other" "2026-01-01T00:00:00Z",
    exampleEvaluate guard 2 "request" "2026-01-01T00:00:00Z"], ⟨fun t u _ hu => (nomatch hu), ?_⟩, ?_⟩
  · rw [h₁]
    refine ⟨fun t u => hticks, ?_⟩
    rw [List.nil_append, h₂]
    exact ⟨fun t u => hticks, trivial⟩
  · rw [Machine.run_cons, h₁, Machine.run_cons, List.nil_append, h₂, Machine.run_cons, List.singleton_append, h₃, Machine.run_nil]
    exact not_noReplay [] [_] rfl parseTime_exampleNow (hb ▸ parseTime_exampleUntil) (by decide)

end

section

variable [Runtime] {κ ρ : Type} [RegistryPort κ] [RatePort ρ]

/-- No replay, for the guard of one process and for the guard that workers
share, in every run in which no call drops an id that is still valid. -/
theorem no_replay :
    (∀ maxEntries guard, ReplayGuard.mk? maxEntries = .ok guard → ∀ calls : List (EvaluateCall κ ρ ReplayGuard),
      Machine.Along ReplayState.step (fun s c => s.Ticks c ∧ s.KeepsValid ReplayGuard.laws c) ⟨guard, none, []⟩ calls →
        NoReplay (Machine.run ReplayState.step ⟨guard, none, []⟩ calls).admitted) ∧
      ∀ calls : List (EvaluateCall κ ρ SQLiteReplayGuard),
        Machine.Along ReplayState.step (fun s c => s.Ticks c ∧ s.KeepsValid SQLiteReplayGuard.laws c) ⟨{}, none, []⟩ calls →
          NoReplay (Machine.run ReplayState.step ⟨{}, none, []⟩ calls).admitted := by
  refine ⟨fun maxEntries guard hguard calls h => run_noReplay ReplayGuard.laws ?_ h,
    fun calls h => run_noReplay SQLiteReplayGuard.laws trivial h⟩
  unfold ReplayGuard.mk? at hguard
  split at hguard
  · cases hguard
  · cases hguard
    exact ⟨rfl, List.nodup_nil⟩

end

/-- An id is admitted again at the instant its binding expires, by either
guard, and by a full guard of one process as soon as another id has come. -/
theorem replayed :
    letI := asciiRuntime
    (∃ calls : List (EvaluateCall AuthenticationRegistry FixedWindowRateLimiter ReplayGuard),
      Machine.Along ReplayState.step ReplayState.Ticks ⟨{}, none, []⟩ calls ∧
        ¬ NoReplay (Machine.run ReplayState.step ⟨{}, none, []⟩ calls).admitted) ∧
      (∃ calls : List (EvaluateCall AuthenticationRegistry FixedWindowRateLimiter SQLiteReplayGuard),
        Machine.Along ReplayState.step ReplayState.Ticks ⟨{}, none, []⟩ calls ∧
          ¬ NoReplay (Machine.run ReplayState.step ⟨{}, none, []⟩ calls).admitted) ∧
      ∃ calls : List (EvaluateCall AuthenticationRegistry FixedWindowRateLimiter ReplayGuard),
        Machine.Along ReplayState.step ReplayState.Ticks ⟨⟨1, [], []⟩, none, []⟩ calls ∧
          ¬ NoReplay (Machine.run ReplayState.step ⟨⟨1, [], []⟩, none, []⟩ calls).admitted := by
  let := asciiRuntime
  refine ⟨replayed_at_expiry (fun f => ⟨100000, [("request", f, 63934272000000000)], ["request"]⟩)
      (fun _ f => ⟨100000, [("request", f, 63934272000000000)], ["request"]⟩) (fun f => ?_) (fun f f' => ?_),
    replayed_at_expiry (fun f => ⟨[("request", f, 63934272000000000)]⟩)
      (fun _ f => ⟨[("request", f, 63934272000000000)]⟩) (fun f => ?_) (fun f f' => ?_), replayed_after_flood⟩
  · exact (ReplayGuard.consume_eq parseTime_exampleUntil parseTime_exampleUntil).trans rfl
  · exact (ReplayGuard.consume_eq parseTime_exampleUntil parseTime_exampleUntil).trans rfl
  · exact (SQLiteReplayGuard.consume_eq parseTime_exampleUntil parseTime_exampleUntil).trans rfl
  · exact (SQLiteReplayGuard.consume_eq parseTime_exampleUntil parseTime_exampleUntil).trans rfl

theorem no_replay_example :
    letI := asciiRuntime
    (∃ calls : List (EvaluateCall AuthenticationRegistry FixedWindowRateLimiter ReplayGuard),
      (Machine.run ReplayState.step ⟨{}, none, []⟩ calls).admitted.length = 2 ∧
        NoReplay (Machine.run ReplayState.step ⟨{}, none, []⟩ calls).admitted) ∧
      ∃ calls : List (EvaluateCall AuthenticationRegistry FixedWindowRateLimiter SQLiteReplayGuard),
        (Machine.run ReplayState.step ⟨{}, none, []⟩ calls).admitted.length = 2 ∧
          NoReplay (Machine.run ReplayState.step ⟨{}, none, []⟩ calls).admitted := by
  let := asciiRuntime
  obtain ⟨calls, hkept, htwo⟩ := admitted_in_order ReplayGuard.laws {}
    (fun f => ⟨100000, [("request", f, 63934272000000000)], ["request"]⟩)
    (fun f f' => ⟨100000, [("request", f, 63934272000000000), ("other", f', 63934272000000000)], ["request", "other"]⟩)
    (fun f => (ReplayGuard.consume_eq parseTime_exampleNow parseTime_exampleUntil).trans rfl)
    (fun f f' => (ReplayGuard.consume_eq parseTime_exampleNow parseTime_exampleUntil).trans rfl)
    ⟨by simp [ReplayGuard.expired], by simp [ReplayGuard.pending]⟩
    (fun f => ⟨by simp [ReplayGuard.expired], by simp [ReplayGuard.pending]⟩)
  obtain ⟨shared, hsharedKept, hsharedTwo⟩ := admitted_in_order SQLiteReplayGuard.laws {}
    (fun f => ⟨[("request", f, 63934272000000000)]⟩)
    (fun f f' => ⟨[("request", f, 63934272000000000), ("other", f', 63934272000000000)]⟩)
    (fun f => (SQLiteReplayGuard.consume_eq parseTime_exampleNow parseTime_exampleUntil).trans rfl)
    (fun f f' => (SQLiteReplayGuard.consume_eq parseTime_exampleNow parseTime_exampleUntil).trans rfl)
    (fun r hr => nomatch hr) (fun f r hr => by rw [List.mem_singleton.mp hr]; exact show (63934272000000000 : Int) ≠ 63902822400000000 by decide)
  exact ⟨⟨calls, htwo, no_replay.1 100000 {} rfl calls hkept⟩, shared, hsharedTwo, no_replay.2 shared hsharedKept⟩

end Pmiri
