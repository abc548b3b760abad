import Mathlib.Logic.Function.Basic

/-!
# Expiry

A map some of whose entries are dead: none of them is shown any more. One map
trails another if it lacks nothing of it but dead entries. Whatever both get
keeps it so, and so does the removal of a dead entry from the first; what is
alive is the same in both.
-/

namespace Expiry

variable {κ ν : Type*} (dead : ν → Prop)

/-- Nothing of the second map is missing from the first but what is dead. -/
def Trails (m m' : κ → Option ν) : Prop := ∀ k, m k = m' k ∨ m k = none ∧ ∃ v, m' k = some v ∧ dead v

variable {dead}

theorem Trails.refl (m : κ → Option ν) : Trails dead m m := fun _ => .inl rfl

theorem Trails.trans {m m' m'' : κ → Option ν} (h : Trails dead m m') (h' : Trails dead m' m'') : Trails dead m m'' := by
  intro k
  rcases h k with hk | ⟨hnone, v, hv, hdead⟩
  · rw [hk]
    exact h' k
  · refine .inr ⟨hnone, ?_⟩
    rcases h' k with hk' | ⟨hnone', -⟩
    · exact ⟨v, hk' ▸ hv, hdead⟩
    · rw [hnone'] at hv
      cases hv

theorem Trails.update [DecidableEq κ] {m m' : κ → Option ν} (h : Trails dead m m') (k : κ) (v : Option ν) :
    Trails dead (Function.update m k v) (Function.update m' k v) := by
  intro k'
  rw [Function.update_apply, Function.update_apply]
  split
  · exact .inl rfl
  · exact h k'

/-- An entry is removed that is dead. -/
theorem trails_erase [DecidableEq κ] {m : κ → Option ν} {k : κ} {v : ν} (hv : m k = some v) (hdead : dead v) :
    Trails dead (Function.update m k none) m := by
  intro k'
  rw [Function.update_apply]
  split
  · rename_i hk
    exact .inr ⟨rfl, v, hk ▸ hv, hdead⟩
  · exact .inl rfl

/-- What is alive is an entry of both or of neither. -/
theorem Trails.alive {m m' : κ → Option ν} (h : Trails dead m m') {k : κ} {v : ν} (hv : ¬ dead v) :
    m k = some v ↔ m' k = some v := by
  rcases h k with hk | ⟨hnone, w, hw, hdead⟩
  · rw [hk]
  · rw [hnone, hw]
    constructor
    · intro h
      cases h
    · intro h
      cases h
      exact absurd hdead hv

end Expiry
