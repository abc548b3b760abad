import Mathlib.Algebra.GroupWithZero.Nat
import Mathlib.Data.List.Induction
import Mathlib.Order.Nat
import Pmiri.Runs

/-!
# Tasks over a shared state

Tasks are started and then proceed one atomic step at a time, in any order, and
between their steps others act on the shared state they all read and write. If
the shared state only ever gets later, a task that was started since some state
has only seen states that are later than that one.
-/

namespace Interleaving

variable {σ τ α ι κ : Type*}

/-- The shared state, and the tasks in the order they were started in. -/
structure State (σ τ : Type*) where
  shared : σ
  tasks : List τ := []

/-- Someone else acts, a task is started, or one takes its next step. -/
inductive Op (α ι κ : Type*)
  | act (i : ι)
  | start (a : α)
  | proceed (n : Nat) (k : κ)

variable (fresh : α → τ) (act : σ → ι → σ) (proceed : σ → κ → τ → σ × τ)

def step (s : State σ τ) : Op α ι κ → State σ τ
  | .act i => { s with shared := act s.shared i }
  | .start a => { s with tasks := s.tasks ++ [fresh a] }
  | .proceed n k =>
    match s.tasks[n]? with
    | none => s
    | some t => ⟨(proceed s.shared k t).1, s.tasks.set n (proceed s.shared k t).2⟩

/-- The tasks that were started since `base`. -/
def State.since (s base : State σ τ) : List τ := s.tasks.drop base.tasks.length

section

variable [Preorder σ] (hact : ∀ s i, s ≤ act s i) (hproceed : ∀ s k t, s ≤ (proceed s k t).1)

include hact hproceed

/-- No step loses a task, and the shared state gets later. -/
theorem step_le (s : State σ τ) (op : Op α ι κ) :
    s.shared ≤ (step fresh act proceed s op).shared ∧ s.tasks.length ≤ (step fresh act proceed s op).tasks.length := by
  cases op with
  | act i => exact ⟨hact _ _, le_rfl⟩
  | start a => exact ⟨le_rfl, by simp [step]⟩
  | proceed n k =>
    simp only [step]
    split
    · exact ⟨le_rfl, le_rfl⟩
    · exact ⟨hproceed _ _ _, by simp⟩

theorem run_le (s : State σ τ) (ops : List (Op α ι κ)) :
    s.shared ≤ (Machine.run (step fresh act proceed) s ops).shared ∧
      s.tasks.length ≤ (Machine.run (step fresh act proceed) s ops).tasks.length := by
  induction ops generalizing s with
  | nil => exact ⟨le_rfl, le_rfl⟩
  | cons op ops ih =>
    obtain ⟨h, hlength⟩ := step_le fresh act proceed hact hproceed s op
    obtain ⟨h', hlength'⟩ := ih (step fresh act proceed s op)
    exact ⟨h.trans h', hlength.trans hlength'⟩

/-- What a new task has and each of its steps keeps, in whatever later state it
is taken, every task has that was started since. -/
theorem since_invariant (inv : τ → Prop) (base : State σ τ) (hfresh : ∀ a, inv (fresh a))
    (hinv : ∀ s k t, base.shared ≤ s → inv t → inv (proceed s k t).2) (ops : List (Op α ι κ)) :
    ∀ t ∈ (Machine.run (step fresh act proceed) base ops).since base, inv t := by
  have hrun : ∀ s : State σ τ, base.shared ≤ s.shared → base.tasks.length ≤ s.tasks.length → (∀ t ∈ s.since base, inv t) →
      ∀ t ∈ (Machine.run (step fresh act proceed) s ops).since base, inv t := by
    induction ops with
    | nil => exact fun s _ _ h => h
    | cons op ops ih =>
      intro s hs hlength h
      obtain ⟨hlater, hmore⟩ := step_le fresh act proceed hact hproceed s op
      refine ih _ (hs.trans hlater) (hlength.trans hmore) ?_
      cases op with
      | act i => exact h
      | start a =>
        intro t ht
        rw [State.since, step, List.drop_append_of_le_length hlength, List.mem_append, List.mem_singleton] at ht
        rcases ht with ht | rfl
        exacts [h t ht, hfresh a]
      | proceed n k =>
        simp only [step]
        split
        · exact h
        · rename_i t ht
          intro t' ht'
          rw [State.since, List.drop_set] at ht'
          split at ht'
          · exact h t' ht'
          · rename_i hn
            rcases List.mem_or_eq_of_mem_set ht' with ht' | rfl
            · exact h t' ht'
            · refine hinv _ _ _ hs (h t (List.mem_iff_getElem?.mpr ⟨n - base.tasks.length, ?_⟩))
              rw [State.since, List.getElem?_drop, Nat.add_sub_cancel' (not_lt.mp hn), ht]
  exact hrun base le_rfl le_rfl fun t ht => by simp [State.since] at ht

end

/-! ## When a task came to be what it is -/

section

/-- A step changes at most the task that proceeds, or adds a fresh one. -/
theorem task_of_step {s : State σ τ} {op : Op α ι κ} {n : Nat} {t : τ}
    (h : (step fresh act proceed s op).tasks[n]? = some t) :
    s.tasks[n]? = some t ∨ (∃ a, t = fresh a) ∨
      ∃ k u, op = .proceed n k ∧ s.tasks[n]? = some u ∧ t = (proceed s.shared k u).2 := by
  cases op with
  | act i => exact .inl h
  | start a =>
    simp only [step] at h
    rcases List.mem_append.mp (List.mem_of_getElem? h) with hmem | hmem
    · by_cases hn : n < s.tasks.length
      · exact .inl (by rwa [List.getElem?_append_left hn] at h)
      · rw [List.getElem?_append_right (not_lt.mp hn)] at h
        exact .inr (.inl ⟨a, List.mem_singleton.mp (List.mem_of_getElem? h)⟩)
    · exact .inr (.inl ⟨a, List.mem_singleton.mp hmem⟩)
  | proceed m k =>
    simp only [step] at h
    split at h
    · exact .inl h
    · rename_i u hu
      rw [List.getElem?_set] at h
      split at h
      · rename_i hmn
        subst hmn
        split at h
        · exact .inr (.inr ⟨k, u, rfl, hu, (Option.some.inj h).symm⟩)
        · cases h
      · exact .inl h

/-- What fresh tasks have and every step of a task keeps, all tasks of a run have. -/
theorem tasks_invariant (inv : τ → Prop) (hfresh : ∀ a, inv (fresh a)) (hinv : ∀ s k t, inv t → inv (proceed s k t).2)
    {base : State σ τ} (hbase : ∀ t ∈ base.tasks, inv t) (ops : List (Op α ι κ)) :
    ∀ t ∈ (Machine.run (step fresh act proceed) base ops).tasks, inv t := by
  induction ops generalizing base with
  | nil => exact hbase
  | cons op ops ih =>
    refine ih fun t ht => ?_
    obtain ⟨n, hn⟩ := List.mem_iff_getElem?.mp ht
    rcases task_of_step fresh act proceed hn with h | ⟨a, rfl⟩ | ⟨k, u, -, hu, rfl⟩
    · exact hbase t (List.mem_of_getElem? h)
    · exact hfresh a
    · exact hinv _ _ _ (hbase u (List.mem_of_getElem? hu))

/-- If a task has a property that it did not start with, one of its steps in
the run gave it the property. -/
theorem exists_proceed (P : τ → Prop) (hfresh : ∀ a, ¬ P (fresh a)) {base : State σ τ} (hbase : ∀ t ∈ base.tasks, ¬ P t)
    {ops : List (Op α ι κ)} {n : Nat} {t : τ} (h : (Machine.run (step fresh act proceed) base ops).tasks[n]? = some t) (hP : P t) :
    ∃ before k after u, ops = before ++ .proceed n k :: after ∧
      (Machine.run (step fresh act proceed) base before).tasks[n]? = some u ∧ ¬ P u ∧
        P (proceed (Machine.run (step fresh act proceed) base before).shared k u).2 := by
  induction ops using List.reverseRecOn generalizing t with
  | nil => exact absurd hP (hbase t (List.mem_of_getElem? h))
  | append_singleton ops op ih =>
    rw [Machine.run_append, Machine.run_cons, Machine.run_nil] at h
    by_cases hearlier : ∃ u, (Machine.run (step fresh act proceed) base ops).tasks[n]? = some u ∧ P u
    · obtain ⟨u, hu, hPu⟩ := hearlier
      obtain ⟨before, k, after, v, rfl, hv⟩ := ih hu hPu
      exact ⟨before, k, after ++ [op], v, by simp, hv⟩
    · rcases task_of_step fresh act proceed h with hu | ⟨a, rfl⟩ | ⟨k, u, rfl, hu, rfl⟩
      · exact absurd ⟨t, hu, hP⟩ hearlier
      · exact absurd hP (hfresh a)
      · exact ⟨ops, k, [], u, rfl, hu, fun hPu => hearlier ⟨u, hu, hPu⟩, hP⟩

end

/-! ## Accounts -/

section

variable (q : σ → Nat) (c : τ → Nat)

theorem sum_map_set {tasks : List τ} {n : Nat} {t : τ} (h : tasks[n]? = some t) (u : τ) :
    ((tasks.set n u).map c).sum + c t = (tasks.map c).sum + c u := by
  induction tasks generalizing n with
  | nil => simp at h
  | cons first tasks ih =>
    cases n with
    | zero =>
      obtain rfl : first = t := by simpa using h
      simp only [List.set_cons_zero, List.map_cons, List.sum_cons]
      omega
    | succ n =>
      have hrest := ih (n := n) (by simpa using h)
      simp only [List.set_cons_succ, List.map_cons, List.sum_cons]
      omega

/-- A quantity of the shared state that changes with every step by what the step changes for its task is, in every
run, the sum of what the tasks account for. -/
theorem account (hfresh : ∀ a, c (fresh a) = 0) (hact : ∀ s i, q (act s i) = q s)
    (hproceed : ∀ s k t, q (proceed s k t).1 + c t = q s + c (proceed s k t).2) {base : State σ τ}
    (hbase : q base.shared = (base.tasks.map c).sum) (ops : List (Op α ι κ)) :
    q (Machine.run (step fresh act proceed) base ops).shared =
      ((Machine.run (step fresh act proceed) base ops).tasks.map c).sum := by
  induction ops generalizing base with
  | nil => exact hbase
  | cons op ops ih =>
    apply ih
    cases op with
    | act i => exact (hact _ _).trans hbase
    | start a =>
      simp only [step, List.map_append, List.map_cons, List.map_nil, List.sum_append, List.sum_cons, List.sum_nil, hfresh]
      omega
    | proceed n k =>
      simp only [step]
      split
      · exact hbase
      · rename_i t ht
        have hset := sum_map_set c ht (proceed base.shared k t).2
        have hstep := hproceed base.shared k t
        dsimp only
        omega

end

end Interleaving
