import Mathlib.Tactic.TypeStar

/-!
# Runs

A machine is a step function on states. A run folds it over a list of
operations. A condition holds along a run if every operation meets it in the
state it is applied to.
-/

namespace Machine

variable {σ ι : Type*} (step : σ → ι → σ)

def run (s : σ) (ops : List ι) : σ := ops.foldl step s

def Along (condition : σ → ι → Prop) : σ → List ι → Prop
  | _, [] => True
  | s, op :: ops => condition s op ∧ Along condition (step s op) ops

@[simp] theorem run_nil (s : σ) : run step s [] = s := rfl

@[simp] theorem run_cons (s : σ) (op : ι) (ops : List ι) : run step s (op :: ops) = run step (step s op) ops := rfl

theorem run_append (s : σ) (ops ops' : List ι) : run step s (ops ++ ops') = run step (run step s ops) ops' :=
  List.foldl_append

theorem along_append {condition : σ → ι → Prop} {s : σ} {ops ops' : List ι} :
    Along step condition s (ops ++ ops') ↔
      Along step condition s ops ∧ Along step condition (run step s ops) ops' := by
  induction ops generalizing s with
  | nil => simp [Along]
  | cons op ops ih => simp [Along, ih, and_assoc]

/-- What every operation of the list has holds along each run of it. -/
theorem along_of_forall {property : ι → Prop} {s : σ} {ops : List ι} (h : ∀ op ∈ ops, property op) :
    Along step (fun _ op => property op) s ops := by
  induction ops generalizing s with
  | nil => trivial
  | cons op ops ih => exact ⟨h op List.mem_cons_self, ih fun op' hop => h op' (List.mem_cons_of_mem _ hop)⟩

/-- An invariant that every step under the condition preserves holds at the
end of every run along which the condition does. -/
theorem run_invariant (inv : σ → Prop) {condition : σ → ι → Prop}
    (hstep : ∀ s op, inv s → condition s op → inv (step s op)) {s : σ} {ops : List ι} (hs : inv s)
    (h : Along step condition s ops) : inv (run step s ops) := by
  induction ops generalizing s with
  | nil => exact hs
  | cons op ops ih =>
    obtain ⟨hop, h⟩ := h
    exact ih (hstep s op hs hop) h

/-- What every step under the condition has in a state with the invariant, every
step of such a run has. -/
theorem along_of_invariant (inv : σ → Prop) {condition property : σ → ι → Prop}
    (hstep : ∀ s op, inv s → condition s op → inv (step s op))
    (hproperty : ∀ s op, inv s → condition s op → property s op) {s : σ} {ops : List ι} (hs : inv s)
    (h : Along step condition s ops) : Along step property s ops := by
  induction ops generalizing s with
  | nil => trivial
  | cons op ops ih =>
    obtain ⟨hop, h⟩ := h
    exact ⟨hproperty s op hs hop, ih (hstep s op hs hop) h⟩

section Outputs

variable {τ ο π : Type*}

/-- What a machine answers to each operation of a run. -/
def outputs (respond : σ → ι → ο × σ) : σ → List ι → List ο
  | _, [] => []
  | s, op :: ops => (respond s op).1 :: outputs respond (respond s op).2 ops

/-- Two machines that start in related states, and answer alike and stay
related at every operation, answer a run alike. -/
theorem outputs_eq_of_simulation {respond : σ → ι → ο × σ} {respond' : τ → ι → ο × τ} {view : ο → π} (R : σ → τ → Prop)
    (condition : ι → Prop)
    (hstep : ∀ s t op, R s t → condition op →
      view (respond s op).1 = view (respond' t op).1 ∧ R (respond s op).2 (respond' t op).2)
    {s : σ} {t : τ} (h : R s t) {ops : List ι} (hops : ∀ op ∈ ops, condition op) :
    (outputs respond s ops).map view = (outputs respond' t ops).map view := by
  induction ops generalizing s t with
  | nil => rfl
  | cons op ops ih =>
    obtain ⟨hview, h⟩ := hstep s t op h (hops op List.mem_cons_self)
    rw [outputs, outputs, List.map_cons, List.map_cons, hview, ih h fun op' hop => hops op' (List.mem_cons_of_mem _ hop)]

end Outputs

end Machine
