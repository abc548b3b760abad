import Pmiri.RequestAuth.Capacity

/-!
# Two replay guards

The guard of one process and the guard that workers share, given the same
calls. The table of the shared guard loses every expired id at each call, the
queue of the other only those that no unexpired id stands before; an id that
has expired further back is still refused, and still takes up room.
-/

namespace Pmiri

open Py

/-- What a guard answers a call, and the guard after it. -/
def ConsumeCall.answer {γ : Type} [ReplayPort γ] (c : ConsumeCall) (guard : γ) : Except Exc Bool × γ :=
  match ReplayPort.consume guard c.requestId c.fingerprint c.expiresAt c.now with
  | .ok (admitted, guard) => (.ok admitted, guard)
  | .error e => (.error e, guard)

/-- The entries that have not expired at an instant. -/
def unexpired (now : Int) (entries : List (String × String × Int)) : List (String × String × Int) :=
  entries.filter fun q => !decide (q.2.2 ≤ now)

/-- The two guards, and the latest instant of a call. -/
structure GuardPair where
  memory : ReplayGuard
  shared : SQLiteReplayGuard := {}
  latest : Option Int := none

namespace GuardPair

def step (s : GuardPair) (c : ConsumeCall) : GuardPair where
  memory := (c.answer s.memory).2
  shared := (c.answer s.shared).2
  latest := match parseTime c.now with
    | .ok t => some t
    | .error _ => s.latest

def SameAnswer (s : GuardPair) (c : ConsumeCall) : Prop := (c.answer s.memory).1 = (c.answer s.shared).1

/-- The clock does not go back. -/
def Ticks (s : GuardPair) (c : ConsumeCall) : Prop := ∀ t u, parseTime c.now = .ok t → s.latest = some u → u ≤ t

/-- After the call no more accepted ids are unexpired than a guard is to hold. -/
def WithinCapacity (s : GuardPair) (c : ConsumeCall) : Prop :=
  ∀ t, parseTime c.now = .ok t → (unexpired t (s.step c).shared.rows).length ≤ s.memory.maxEntries

/-- The id of the call is not one that stands expired behind the head of the
queue, and if it is new there is room for it. -/
structure Prompt (s : GuardPair) (requestId : String) (now : Int) : Prop where
  alive : ∀ q ∈ s.memory.pending now, q.1 = requestId → now < q.2.2
  room : requestId ∉ (s.memory.pending now).map (·.1) → (s.memory.pending now).length < s.memory.maxEntries

/-- The call finds the queue prompt, if it gets that far. -/
def FindsPrompt (s : GuardPair) (c : ConsumeCall) : Prop :=
  ∀ t e, parseTime c.now = .ok t → parseTime c.expiresAt = .ok e → s.Prompt c.requestId t

/-! ## What the guards share -/

/-- The guards hold the same ids, but for those that have expired. -/
structure Related (s : GuardPair) : Prop where
  consistent : s.memory.Consistent
  capacity : 1 ≤ s.memory.maxEntries
  same : ∀ t, (∀ u, s.latest = some u → u ≤ t) → unexpired t s.memory.seen = unexpired t s.shared.rows

theorem unexpired_append (now : Int) (a b : List (String × String × Int)) :
    unexpired now (a ++ b) = unexpired now a ++ unexpired now b := List.filter_append a b

/-- What has expired does not come back. -/
theorem unexpired_unexpired {now later : Int} (h : now ≤ later) (entries : List (String × String × Int)) :
    unexpired later (unexpired now entries) = unexpired later entries := by
  rw [unexpired, unexpired, unexpired, List.filter_filter]
  refine List.filter_congr fun q _ => ?_
  by_cases hq : q.2.2 ≤ now
  · simp [hq, hq.trans h]
  · simp [hq]

/-- The queue drops expired ids only. -/
theorem unexpired_pending {g : ReplayGuard} {now later : Int} (h : now ≤ later) :
    unexpired later (g.pending now) = unexpired later g.seen := by
  have hexpired : unexpired later (g.expired now) = [] := by
    rw [unexpired, List.filter_eq_nil_iff]
    intro q hq
    have hle : q.2.2 ≤ now := by simpa using List.mem_takeWhile_imp hq
    simp [hle.trans h]
  calc unexpired later (g.pending now)
      = unexpired later (g.expired now) ++ unexpired later (g.pending now) := by rw [hexpired, List.nil_append]
    _ = unexpired later (g.expired now ++ g.pending now) := (unexpired_append _ _ _).symm
    _ = unexpired later g.seen := by rw [ReplayGuard.expired, ReplayGuard.pending, List.takeWhile_append_dropWhile]

/-- At a call the table holds what is pending and has not expired. -/
theorem Related.rows_eq {s : GuardPair} (h : s.Related) {now : Int} (hnow : ∀ u, s.latest = some u → u ≤ now) :
    unexpired now s.shared.rows = unexpired now (s.memory.pending now) := by
  rw [unexpired_pending le_rfl, h.same now hnow]

/-- The shared guard refuses the ids that are pending and have not expired. -/
theorem Related.mem_rows {s : GuardPair} (h : s.Related) {now : Int} (hnow : ∀ u, s.latest = some u → u ≤ now)
    (requestId : String) : ((s.shared.purged now).rows.lookup requestId).isSome = true ↔
      ∃ q ∈ s.memory.pending now, q.1 = requestId ∧ now < q.2.2 := by
  have hrows : (s.shared.purged now).rows = unexpired now (s.memory.pending now) := h.rows_eq hnow
  rw [ReplayGuard.lookup_isSome, hrows, List.mem_map]
  simp only [unexpired, List.mem_filter, Bool.not_eq_true', decide_eq_false_iff_not, not_le]
  constructor
  · rintro ⟨q, ⟨hq, hlt⟩, hid⟩
    exact ⟨q, hq, hid, hlt⟩
  · rintro ⟨q, hq, hid, hlt⟩
    exact ⟨q, ⟨hq, hlt⟩, hid⟩

/-! ## A call -/

section

variable {s : GuardPair} {c : ConsumeCall} {t e : Int} (ht : parseTime c.now = .ok t)

include ht in
/-- A call whose expiry is no time stamp is answered by neither guard. -/
theorem answer_of_expiry_error {x : Exc} (he : parseTime c.expiresAt = .error x) :
    c.answer s.memory = (.error x, s.memory) ∧ c.answer s.shared = (.error x, s.shared) := by
  simp only [ConsumeCall.answer, ReplayPort.consume, ht, he, bind, Except.bind, and_self]

variable (he : parseTime c.expiresAt = .ok e)

include ht he

theorem answer_shared : c.answer s.shared =
    (.ok (s.shared.consumeAt c.requestId c.fingerprint e t).1, (s.shared.consumeAt c.requestId c.fingerprint e t).2) := by
  simp only [ConsumeCall.answer, SQLiteReplayGuard.consume_eq ht he]

/-- An id that is pending is refused by the guard of one process. -/
theorem answer_memory_pending (h : s.memory.Consistent) (hr : c.requestId ∈ (s.memory.pending t).map (·.1)) :
    c.answer s.memory = (.ok false, s.memory.purged t) := by
  have hpurged : (s.memory.purged t).seen = s.memory.pending t := by rw [h.purged_eq]
  have hlookup : ((s.memory.purged t).seen.lookup c.requestId).isSome = true := by
    rw [ReplayGuard.lookup_isSome, hpurged]
    exact hr
  simp only [ConsumeCall.answer, ReplayGuard.consume_eq ht he, ReplayGuard.consumeAt, hlookup, ↓reduceIte]

/-- A new id is accepted, in the place of the oldest one if there is no room. -/
theorem answer_memory_new (h : s.memory.Consistent) (hcapacity : 1 ≤ s.memory.maxEntries)
    (hr : c.requestId ∉ (s.memory.pending t).map (·.1)) :
    (c.answer s.memory).1 = .ok true ∧ (c.answer s.memory).2.Consistent ∧
      (c.answer s.memory).2.maxEntries = s.memory.maxEntries ∧
      (c.answer s.memory).2.seen =
        (if (s.memory.pending t).length < s.memory.maxEntries then s.memory.pending t else (s.memory.pending t).tail) ++
          [(c.requestId, c.fingerprint, e)] := by
  have hnodup := ReplayGuard.nodup_pending h t
  have hnone : ((s.memory.pending t).lookup c.requestId).isSome = false :=
    Bool.eq_false_iff.mpr fun hsome => hr (ReplayGuard.lookup_isSome.mp hsome)
  simp only [ConsumeCall.answer, ReplayGuard.consume_eq ht he, ReplayGuard.consumeAt, h.purged_eq, hnone,
    Bool.false_eq_true, ↓reduceIte]
  by_cases hroom : (s.memory.pending t).length < s.memory.maxEntries
  · simp only [Nat.not_le.mpr hroom, hroom, ↓reduceIte]
    refine ⟨trivial, ⟨by simp, ?_⟩, trivial, trivial⟩
    rw [List.map_append, List.nodup_append_comm]
    exact List.nodup_cons.mpr ⟨hr, hnodup⟩
  · rcases hp : s.memory.pending t with _ | ⟨old, rest⟩
    · rw [hp, List.length_nil] at hroom
      omega
    · rw [hp] at hroom hnodup hr
      rw [List.map_cons, List.mem_cons, not_or] at hr
      simp only [Nat.not_lt.mp hroom, hroom, ↓reduceIte, List.map_cons, ReplayGuard.forget_head hnodup, List.tail_cons]
      refine ⟨trivial, ⟨by simp, ?_⟩, trivial, trivial⟩
      rw [List.map_append, List.nodup_append_comm]
      exact List.nodup_cons.mpr ⟨hr.2, (List.nodup_cons.mp hnodup).2⟩

end

theorem latest_le {s : GuardPair} {c : ConsumeCall} (hticks : s.Ticks c) {t : Int} (ht : parseTime c.now = .ok t) :
    ∀ u, s.latest = some u → u ≤ t := fun u hu => hticks t u ht hu

/-- A call that finds the queue prompt is answered alike. -/
theorem Related.sameAnswer {s : GuardPair} {c : ConsumeCall} (h : s.Related) (hticks : s.Ticks c) (hprompt : s.FindsPrompt c) :
    s.SameAnswer c := by
  rcases ht : parseTime c.now with x | t
  · simp only [SameAnswer, ConsumeCall.answer, ReplayPort.consume, ht, bind, Except.bind]
  rcases he : parseTime c.expiresAt with x | e
  · rw [SameAnswer, (answer_of_expiry_error ht he).1, (answer_of_expiry_error ht he).2]
  have hprompt := hprompt t e ht he
  have hrows := h.mem_rows (latest_le hticks ht) c.requestId
  rw [SameAnswer, answer_shared ht he, SQLiteReplayGuard.consumeAt]
  by_cases hr : c.requestId ∈ (s.memory.pending t).map (·.1)
  · obtain ⟨q, hq, hid⟩ := List.mem_map.mp hr
    rw [answer_memory_pending ht he h.consistent hr, if_pos (hrows.mpr ⟨q, hq, hid, hprompt.alive q hq hid⟩)]
  · have hnone : ¬ ((s.shared.purged t).rows.lookup c.requestId).isSome = true := fun hsome =>
      let ⟨q, hq, hid, _⟩ := hrows.mp hsome
      hr (List.mem_map.mpr ⟨q, hq, hid⟩)
    rw [(answer_memory_new ht he h.consistent h.capacity hr).1, if_neg hnone]

/-- A call that finds the queue prompt leaves the guards related. -/
theorem Related.step {s : GuardPair} {c : ConsumeCall} (h : s.Related) (hticks : s.Ticks c) (hprompt : s.FindsPrompt c) :
    (s.step c).Related := by
  rcases ht : parseTime c.now with x | t
  · have hstep : s.step c = s := by
      simp only [GuardPair.step, ConsumeCall.answer, ReplayPort.consume, ht, bind, Except.bind]
    rwa [hstep]
  have hlatest : ∀ t', (∀ u, (s.step c).latest = some u → u ≤ t') → t ≤ t' := fun t' hu =>
    hu t (by simp only [GuardPair.step, ht])
  have hearlier : ∀ {t'}, t ≤ t' → ∀ u, s.latest = some u → u ≤ t' := fun hle u hu => (hticks t u ht hu).trans hle
  rcases he : parseTime c.expiresAt with x | e
  · have hanswer := answer_of_expiry_error (s := s) ht he
    refine ⟨?_, ?_, fun t' hu => ?_⟩ <;> simp only [GuardPair.step, hanswer.1, hanswer.2]
    exacts [h.consistent, h.capacity, h.same t' (hearlier (hlatest t' hu))]
  have hprompt := hprompt t e ht he
  have hrows := h.mem_rows (latest_le hticks ht) c.requestId
  have hpurged : ∀ {t'}, t ≤ t' → unexpired t' (s.shared.purged t).rows = unexpired t' s.shared.rows := fun hle =>
    unexpired_unexpired hle s.shared.rows
  by_cases hr : c.requestId ∈ (s.memory.pending t).map (·.1)
  · obtain ⟨q, hq, hid⟩ := List.mem_map.mp hr
    have hshared : (s.step c).shared = s.shared.purged t := by
      simp only [GuardPair.step, answer_shared ht he, SQLiteReplayGuard.consumeAt,
        if_pos (hrows.mpr ⟨q, hq, hid, hprompt.alive q hq hid⟩)]
    have hmemory : (s.step c).memory = s.memory.purged t := by
      simp only [GuardPair.step, answer_memory_pending ht he h.consistent hr]
    have heq := h.consistent.purged_eq t
    refine ⟨?_, ?_, fun t' hu => ?_⟩
    · rw [hmemory, heq]
      exact ⟨rfl, ReplayGuard.nodup_pending h.consistent t⟩
    · rw [hmemory]
      exact h.capacity
    · have hle := hlatest t' hu
      rw [hmemory, hshared, heq, unexpired_pending hle, hpurged hle, h.same t' (hearlier hle)]
  · have hnone : ¬ ((s.shared.purged t).rows.lookup c.requestId).isSome = true := fun hsome =>
      let ⟨q, hq, hid, _⟩ := hrows.mp hsome
      hr (List.mem_map.mpr ⟨q, hq, hid⟩)
    have hshared : (s.step c).shared.rows = (s.shared.purged t).rows ++ [(c.requestId, c.fingerprint, e)] := by
      simp only [GuardPair.step, answer_shared ht he, SQLiteReplayGuard.consumeAt, if_neg hnone]
    obtain ⟨-, hconsistent, hcapacity, hseen⟩ := answer_memory_new ht he h.consistent h.capacity hr
    rw [if_pos (hprompt.room hr)] at hseen
    refine ⟨hconsistent, hcapacity.symm ▸ h.capacity, fun t' hu => ?_⟩
    have hle := hlatest t' hu
    rw [show (s.step c).memory.seen = _ from hseen, hshared, unexpired_append, unexpired_append, unexpired_pending hle,
      hpurged hle, h.same t' (hearlier hle)]

/-- An id that stands expired in the queue is answered differently; and a new
id for which there is no room takes the place of one that is still valid, for
which the guards then answer differently. -/
theorem Related.differ {s : GuardPair} {c : ConsumeCall} (h : s.Related) (hticks : s.Ticks c) (hprompt : ¬ s.FindsPrompt c) :
    ¬ s.SameAnswer c ∨ ∃ d : ConsumeCall, d.now = c.now ∧ ¬ (s.step c).SameAnswer d := by
  simp only [FindsPrompt, not_forall] at hprompt
  obtain ⟨t, e, ht, he, hprompt⟩ := hprompt
  have hrows := h.mem_rows (latest_le hticks ht) c.requestId
  have hnodup := ReplayGuard.nodup_pending h.consistent t
  by_cases hr : c.requestId ∈ (s.memory.pending t).map (·.1)
  · -- the id is pending, and so it is the expired one
    refine .inl fun hsame => hprompt ⟨fun q hq hid => ?_, fun hnew => absurd hr hnew⟩
    rw [SameAnswer, answer_shared ht he, answer_memory_pending ht he h.consistent hr, SQLiteReplayGuard.consumeAt] at hsame
    have hsome : ((s.shared.purged t).rows.lookup c.requestId).isSome = true := by
      by_contra hnone
      rw [if_neg hnone] at hsame
      cases hsame
    obtain ⟨q', hq', hid', hlt⟩ := hrows.mp hsome
    obtain rfl : q = q' := List.inj_on_of_nodup_map hnodup hq hq' (hid.trans hid'.symm)
    exact hlt
  · have hfull : ¬ (s.memory.pending t).length < s.memory.maxEntries := fun hroom => hprompt
      ⟨fun q hq hid => absurd (List.mem_map.mpr ⟨q, hq, hid⟩) hr, fun _ => hroom⟩
    rcases hp : s.memory.pending t with _ | ⟨old, rest⟩
    · have hcapacity := h.capacity
      rw [hp, List.length_nil] at hfull
      omega
    -- the oldest id is still valid, and the shared guard keeps it
    have hold : t < old.2.2 := by
      have hhead : ¬ decide (old.2.2 ≤ t) = true := by
        have := List.head?_dropWhile_not (fun q : String × String × Int => decide (q.2.2 ≤ t)) s.memory.seen
        rw [show s.memory.seen.dropWhile _ = old :: rest from hp] at this
        simpa using this
      simpa using hhead
    have hnone : ¬ ((s.shared.purged t).rows.lookup c.requestId).isSome = true := fun hsome =>
      let ⟨q, hq, hid, _⟩ := hrows.mp hsome
      hr (List.mem_map.mpr ⟨q, hq, hid⟩)
    obtain ⟨-, hconsistent, hcapacity, hseen⟩ := answer_memory_new ht he h.consistent h.capacity hr
    rw [if_neg hfull, hp, List.tail_cons] at hseen
    have hshared : (s.step c).shared.rows = (s.shared.purged t).rows ++ [(c.requestId, c.fingerprint, e)] := by
      simp only [GuardPair.step, answer_shared ht he, SQLiteReplayGuard.consumeAt, if_neg hnone]
    refine .inr ⟨⟨old.1, old.2.1, c.expiresAt, c.now⟩, rfl, ?_⟩
    have hkept : ((((s.step c).shared.purged t)).rows.lookup old.1).isSome = true := by
      obtain ⟨q, hq, hid⟩ := List.mem_map.mp (ReplayGuard.lookup_isSome.mp
        ((h.mem_rows (latest_le hticks ht) old.1).mpr ⟨old, hp ▸ List.mem_cons_self, rfl, hold⟩))
      refine ReplayGuard.lookup_isSome.mpr (List.mem_map.mpr ⟨q, List.mem_filter.mpr ⟨?_, (List.mem_filter.mp hq).2⟩, hid⟩)
      rw [hshared]
      exact List.mem_append_left _ hq
    have hgone : old.1 ∉ ((s.step c).memory.pending t).map (·.1) := by
      intro hmem
      have hsub : old.1 ∈ (s.step c).memory.seen.map (·.1) := ((List.dropWhile_sublist _).map Prod.fst).subset hmem
      rw [show (s.step c).memory.seen = _ from hseen, List.map_append, List.mem_append] at hsub
      rw [hp, List.map_cons] at hnodup hr
      rcases hsub with hsub | hsub
      · exact (List.nodup_cons.mp hnodup).1 hsub
      · exact hr (List.mem_singleton.mp hsub ▸ List.mem_cons_self)
    have hanswer := (answer_memory_new (s := s.step c) (c := ⟨old.1, old.2.1, c.expiresAt, c.now⟩) ht he hconsistent
      (hcapacity.symm ▸ h.capacity) hgone).1
    rw [SameAnswer, hanswer, answer_shared (c := ⟨old.1, old.2.1, c.expiresAt, c.now⟩) ht he, SQLiteReplayGuard.consumeAt,
      if_pos hkept]
    exact fun h => by cases h

/-- A guard of one process and the shared one, both new. -/
theorem related_new {maxEntries : Nat} {guard : ReplayGuard} (h : ReplayGuard.mk? maxEntries = .ok guard) :
    Related { memory := guard } := by
  unfold ReplayGuard.mk? at h
  split at h
  · cases h
  · cases h
    exact ⟨⟨rfl, List.nodup_nil⟩, by simp only; omega, fun _ _ => rfl⟩

end GuardPair

/-- In every run whose calls find the queue prompt the two guards answer alike,
call by call. After such a run a call that does not find it so is answered
differently, or else a call at the same time after it is. Ids are text: one with
a lone surrogate, which the database does not take, is left out. -/
theorem guards_agree_while_prompt {maxEntries : Nat} {guard : ReplayGuard} (hguard : ReplayGuard.mk? maxEntries = .ok guard)
    {calls : List ConsumeCall}
    (h : Machine.Along GuardPair.step (fun s c => s.Ticks c ∧ s.FindsPrompt c) { memory := guard } calls) :
    Machine.Along GuardPair.step GuardPair.SameAnswer { memory := guard } calls ∧
      ∀ c, (Machine.run GuardPair.step { memory := guard } calls).Ticks c →
        ¬ (Machine.run GuardPair.step { memory := guard } calls).FindsPrompt c →
          ¬ (Machine.run GuardPair.step { memory := guard } calls).SameAnswer c ∨
            ∃ d : ConsumeCall, d.now = c.now ∧
              ¬ (Machine.run GuardPair.step { memory := guard } (calls ++ [c])).SameAnswer d := by
  have hstep : ∀ s c, GuardPair.Related s → (s.Ticks c ∧ s.FindsPrompt c) → (s.step c).Related := fun s c hs hc =>
    hs.step hc.1 hc.2
  refine ⟨Machine.along_of_invariant _ GuardPair.Related hstep (fun s c hs hc => hs.sameAnswer hc.1 hc.2)
    (GuardPair.related_new hguard) h, fun c hticks hprompt => ?_⟩
  rw [Machine.run_append]
  exact (Machine.run_invariant _ GuardPair.Related hstep (GuardPair.related_new hguard) h).differ hticks hprompt

theorem parseTime_exampleJune : parseTime "2026-06-01T00:00:00Z" = .ok 63915868800000000 := by decide +kernel

/-- An id that is accepted in January until an expiry. -/
def exampleGuardCall (requestId expiresAt : String) : ConsumeCall := ⟨requestId, "", expiresAt, "2026-01-01T00:00:00Z"⟩

theorem exampleGuardCall_first : GuardPair.step { memory := {} } (exampleGuardCall "first" "2026-12-31T00:00:00Z") =
    { memory := ⟨100000, [("first", "", 63934272000000000)], ["first"]⟩
      shared := ⟨[("first", "", 63934272000000000)]⟩, latest := some 63902822400000000 } := by
  simp only [GuardPair.step, ConsumeCall.answer, exampleGuardCall, parseTime_exampleNow,
    ReplayGuard.consume_eq parseTime_exampleNow parseTime_exampleUntil,
    SQLiteReplayGuard.consume_eq parseTime_exampleNow parseTime_exampleUntil]
  rfl

theorem exampleGuardCall_second : GuardPair.step
      { memory := ⟨100000, [("first", "", 63934272000000000)], ["first"]⟩
        shared := ⟨[("first", "", 63934272000000000)]⟩, latest := some 63902822400000000 }
      (exampleGuardCall "second" "2026-06-01T00:00:00Z") =
    { memory := ⟨100000, [("first", "", 63934272000000000), ("second", "", 63915868800000000)], ["first", "second"]⟩
      shared := ⟨[("first", "", 63934272000000000), ("second", "", 63915868800000000)]⟩
      latest := some 63902822400000000 } := by
  simp only [GuardPair.step, ConsumeCall.answer, exampleGuardCall, parseTime_exampleNow,
    ReplayGuard.consume_eq parseTime_exampleNow parseTime_exampleJune,
    SQLiteReplayGuard.consume_eq parseTime_exampleNow parseTime_exampleJune]
  rfl

theorem guards_agree_while_prompt_example :
    Machine.Along GuardPair.step GuardPair.SameAnswer { memory := {} }
      [exampleGuardCall "first" "2026-12-31T00:00:00Z", exampleGuardCall "second" "2026-06-01T00:00:00Z"] := by
  have hnow : ∀ {t : Int}, parseTime "2026-01-01T00:00:00Z" = .ok t → 63902822400000000 = t := fun h =>
    Except.ok.inj (parseTime_exampleNow.symm.trans h)
  have hprompt : Machine.Along GuardPair.step (fun s c => s.Ticks c ∧ s.FindsPrompt c) { memory := {} }
      [exampleGuardCall "first" "2026-12-31T00:00:00Z", exampleGuardCall "second" "2026-06-01T00:00:00Z"] := by
    refine ⟨⟨fun t u _ hu => (nomatch hu), fun t e ht _ => ?_⟩, ?_⟩
    · exact ⟨fun q hq => by simp [ReplayGuard.pending] at hq, fun _ => by simp [ReplayGuard.pending]⟩
    · rw [exampleGuardCall_first]
      refine ⟨⟨fun t u ht hu => ?_, fun t e ht _ => ?_⟩, trivial⟩
      · cases hu
        exact (hnow ht).le
      · cases hnow ht
        exact ⟨by simp [ReplayGuard.pending, exampleGuardCall], fun _ => by simp [ReplayGuard.pending]⟩
  exact (guards_agree_while_prompt (show ReplayGuard.mk? 100000 = .ok {} from rfl) hprompt).1

/-- An id that has expired behind one that has not is accepted again by the
shared guard only. -/
theorem expired_id_refused : ∃ calls,
    Machine.Along GuardPair.step (fun s c => s.Ticks c ∧ s.WithinCapacity c) { memory := {} } calls ∧
      ¬ Machine.Along GuardPair.step GuardPair.SameAnswer { memory := {} } calls := by
  let again : ConsumeCall := ⟨"second", "", "2026-12-31T00:00:00Z", "2026-06-01T00:00:00Z"⟩
  have hcapacity : ∀ (s s' : GuardPair) (c : ConsumeCall), s.step c = s' → s.memory.maxEntries = 100000 →
      s'.shared.rows.length ≤ 100000 → s.WithinCapacity c := fun s s' c hs hmax hlength t _ => by
    rw [hs, hmax]
    exact (List.length_filter_le _ _).trans hlength
  have hticks : ∀ {t u t' u' : Int} {now : String}, parseTime now = .ok t' → u' ≤ t' → parseTime now = .ok t →
      some u' = some u → u ≤ t := by
    intro t u t' u' now ht' hle ht hu
    cases hu
    exact (Except.ok.inj (ht'.symm.trans ht)) ▸ hle
  have hagain : GuardPair.step
        { memory := ⟨100000, [("first", "", 63934272000000000), ("second", "", 63915868800000000)], ["first", "second"]⟩
          shared := ⟨[("first", "", 63934272000000000), ("second", "", 63915868800000000)]⟩
          latest := some 63902822400000000 } again =
      { memory := ⟨100000, [("first", "", 63934272000000000), ("second", "", 63915868800000000)], ["first", "second"]⟩
        shared := ⟨[("first", "", 63934272000000000), ("second", "", 63934272000000000)]⟩
        latest := some 63915868800000000 } := by
    simp only [GuardPair.step, ConsumeCall.answer, again, parseTime_exampleJune,
      ReplayGuard.consume_eq parseTime_exampleJune parseTime_exampleUntil,
      SQLiteReplayGuard.consume_eq parseTime_exampleJune parseTime_exampleUntil]
    rfl
  refine ⟨[exampleGuardCall "first" "2026-12-31T00:00:00Z", exampleGuardCall "second" "2026-06-01T00:00:00Z", again], ?_, ?_⟩
  · refine ⟨⟨fun t u _ hu => (nomatch hu), hcapacity _ _ _ exampleGuardCall_first rfl (by simp)⟩, ?_⟩
    rw [exampleGuardCall_first]
    refine ⟨⟨fun t u => hticks parseTime_exampleNow le_rfl, hcapacity _ _ _ exampleGuardCall_second rfl (by simp)⟩, ?_⟩
    rw [exampleGuardCall_second]
    exact ⟨⟨fun t u => hticks parseTime_exampleJune (by decide), hcapacity _ _ _ hagain rfl (by simp)⟩, trivial⟩
  · rintro ⟨-, -, h, -⟩
    rw [exampleGuardCall_first, exampleGuardCall_second] at h
    simp only [GuardPair.SameAnswer, ConsumeCall.answer, again,
      ReplayGuard.consume_eq parseTime_exampleJune parseTime_exampleUntil,
      SQLiteReplayGuard.consume_eq parseTime_exampleJune parseTime_exampleUntil] at h
    exact absurd h (by decide)

end Pmiri
