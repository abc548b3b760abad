import Pmiri.RequestAuth.Replay

/-!
# The queue of a replay guard

The guard of one process keeps the accepted ids in a map, and in a queue in the
order they were accepted in. The two list the same ids in every state, never
more of them than the capacity, and so no call pops from an empty queue.
-/

namespace Pmiri

open Py

/-- The arguments of a `consume` call. -/
structure ConsumeCall where
  requestId : String
  fingerprint : String
  expiresAt : String
  now : String

namespace ReplayGuard

/-- The guard after a call. Times are read before the lock is taken, and a pop that failed would leave the guard purged. -/
def next (g : ReplayGuard) (c : ConsumeCall) : ReplayGuard :=
  match parseTime c.now, parseTime c.expiresAt with
  | .ok now, .ok expiry =>
    match g.consumeAt c.requestId c.fingerprint expiry now with
    | .ok (_, g') => g'
    | .error _ => g.purged now
  | _, _ => g

/-- The queue lists each id of the map once and nothing else, and they are no more than the capacity. -/
structure Represents (g : ReplayGuard) : Prop where
  once : g.order.Nodup
  keys : ∀ id, id ∈ g.order ↔ (g.seen.lookup id).isSome = true
  length : g.order.length = g.seen.length
  bounded : g.seen.length ≤ g.maxEntries

/-- The queue and the map agree, there is room for one id, and no more ids than there is room for. -/
structure Within (g : ReplayGuard) : Prop where
  consistent : g.Consistent
  capacity : 1 ≤ g.maxEntries
  bounded : g.seen.length ≤ g.maxEntries

theorem Within.represents {g : ReplayGuard} (h : g.Within) : g.Represents where
  once := by
    rw [h.consistent.order]
    exact h.consistent.nodup
  keys id := by rw [h.consistent.order, lookup_isSome]
  length := by rw [h.consistent.order, List.length_map]
  bounded := h.bounded

theorem length_pending_le (g : ReplayGuard) (now : Int) : (g.pending now).length ≤ g.seen.length :=
  (List.dropWhile_sublist _).length_le

/-- A call under the lock answers, and leaves no more ids than there is room for. -/
theorem Within.consumeAt_returns {g : ReplayGuard} (h : g.Within) (r f : String) (expiry now : Int) :
    ∃ admitted g', g.consumeAt r f expiry now = .ok (admitted, g') ∧ g'.maxEntries = g.maxEntries ∧
      g'.seen.length ≤ g.maxEntries := by
  have hpending := g.length_pending_le now
  have hnodup := nodup_pending h.consistent now
  have hbounded := h.bounded
  have hcapacity := h.capacity
  simp only [consumeAt, h.consistent.purged_eq]
  split
  · exact ⟨false, _, rfl, rfl, hpending.trans hbounded⟩
  · split
    · rename_i hfull
      -- a full guard has an id to drop
      rcases hp : g.pending now with _ | ⟨old, rest⟩
      · rw [hp, List.length_nil] at hfull
        omega
      · rw [hp] at hnodup hpending
        simp only [List.map_cons, forget_head hnodup]
        refine ⟨true, _, rfl, rfl, ?_⟩
        rw [List.length_cons] at hpending
        rw [List.length_append, List.length_singleton]
        omega
    · rename_i hroom
      refine ⟨true, _, rfl, rfl, ?_⟩
      rw [List.length_append, List.length_singleton]
      omega

theorem Within.consumeAt {g : ReplayGuard} (h : g.Within) (r f : String) (expiry now : Int) :
    ∃ admitted g', g.consumeAt r f expiry now = .ok (admitted, g') ∧ g'.maxEntries = g.maxEntries ∧ g'.Within := by
  obtain ⟨admitted, g', hok, hmax, hbounded⟩ := h.consumeAt_returns r f expiry now
  have hcapacity : 1 ≤ g'.maxEntries := hmax ▸ h.capacity
  have hlength : g'.seen.length ≤ g'.maxEntries := hmax ▸ hbounded
  rcases consumeAt_ok h.consistent hok with ⟨-, -, -, hg'⟩ | ⟨-, -, -, hg', -⟩
  · exact ⟨admitted, g', hok, hmax, hg', hcapacity, hlength⟩
  · exact ⟨admitted, g', hok, hmax, hg', hcapacity, hlength⟩

theorem Within.next {g : ReplayGuard} (h : g.Within) (c : ConsumeCall) :
    (g.next c).maxEntries = g.maxEntries ∧ (g.next c).Within := by
  rw [ReplayGuard.next]
  split
  · rename_i now expiry _ _
    obtain ⟨admitted, g', hok, hmax, hg'⟩ := h.consumeAt c.requestId c.fingerprint expiry now
    rw [hok]
    exact ⟨hmax, hg'⟩
  · exact ⟨rfl, h⟩

theorem within_of_mk {maxEntries : Nat} {g : ReplayGuard} (h : mk? maxEntries = .ok g) : g.maxEntries = maxEntries ∧ g.Within := by
  rw [mk?] at h
  split at h
  · cases h
  · rename_i hcapacity
    cases h
    have hcapacity : 1 ≤ maxEntries := by omega
    exact ⟨rfl, ⟨rfl, List.nodup_nil⟩, hcapacity, Nat.zero_le _⟩

/-- In every state of a guard the queue represents the map, within the capacity, and a call does not pop from an empty queue. -/
theorem run_represents {maxEntries : Nat} {g : ReplayGuard} (h : mk? maxEntries = .ok g) (calls : List ConsumeCall) :
    (Machine.run next g calls).Represents ∧ (Machine.run next g calls).maxEntries = maxEntries ∧
      ∀ requestId fingerprint expiry now, ∃ answer,
        (Machine.run next g calls).consumeAt requestId fingerprint expiry now = .ok answer := by
  obtain ⟨hmax, hwithin⟩ := within_of_mk h
  let inv := fun s : ReplayGuard => s.maxEntries = maxEntries ∧ s.Within
  have hstep : ∀ s c, inv s → True → inv (s.next c) := by
    intro s c hs _
    exact ⟨(hs.2.next c).1.trans hs.1, (hs.2.next c).2⟩
  have hall : Machine.Along next (fun _ _ => True) g calls := Machine.along_of_forall next fun _ _ => trivial
  obtain ⟨hmax', hwithin'⟩ := Machine.run_invariant next inv hstep ⟨hmax, hwithin⟩ hall
  refine ⟨hwithin'.represents, hmax', ?_⟩
  intro requestId fingerprint expiry now
  obtain ⟨admitted, g', hok, -⟩ := hwithin'.consumeAt requestId fingerprint expiry now
  exact ⟨(admitted, g'), hok⟩

/-- A guard for two ids that has answered three calls, of which the third makes it drop the first. -/
theorem run_represents_example : mk? 2 = .ok { maxEntries := 2 } ∧
    (Machine.run next { maxEntries := 2 } (["a", "b", "c"].map fun id =>
      ⟨id, "f", "2026-12-31T00:00:00Z", "2026-01-01T00:00:00Z"⟩)).Represents :=
  ⟨rfl, (run_represents (show mk? 2 = .ok { maxEntries := 2 } from rfl) _).1⟩

end ReplayGuard

end Pmiri
