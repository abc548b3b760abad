import Mathlib.Data.List.Induction
import Pmiri.Runs

/-!
# The decision cache

`cache.py`: the last decision that was put under a key, until an invalidation to
another epoch drops it. What a lookup finds is told by the history of the cache.
-/

namespace Pmiri

/-- A value of `None` is `none`. -/
structure CachedDecision (α : Type) where
  key : String
  value : Option α
  invalidationEpoch : Int
  freshnessProfileId : String
  freshnessProfileFingerprint : String

structure DecisionCache (α : Type) where
  items : String → Option (CachedDecision α) := fun _ => none

namespace DecisionCache

variable {α : Type}

def put (cache : DecisionCache α) (decision : CachedDecision α) : DecisionCache α where
  items key := if key = decision.key then some decision else cache.items key

def get (cache : DecisionCache α) (key : String) (invalidationEpoch : Int)
    (freshnessProfileId freshnessProfileFingerprint : String) : Option α :=
  match cache.items key with
  | none => none
  | some decision =>
    if decision.invalidationEpoch ≠ invalidationEpoch then none
    else if decision.freshnessProfileId ≠ freshnessProfileId ∨ decision.freshnessProfileFingerprint ≠ freshnessProfileFingerprint then
      none
    else decision.value

def invalidateEpoch (cache : DecisionCache α) (newEpoch : Int) : DecisionCache α where
  items key := (cache.items key).filter fun decision => decision.invalidationEpoch == newEpoch

/-- What is done to a cache. -/
inductive CacheOp (α : Type) where
  | put (decision : CachedDecision α)
  | invalidateEpoch (newEpoch : Int)

def step (cache : DecisionCache α) : CacheOp α → DecisionCache α
  | .put decision => cache.put decision
  | .invalidateEpoch newEpoch => cache.invalidateEpoch newEpoch

/-- An operation leaves a decision in the cache: it puts nothing under its key, and invalidates to no other epoch. -/
def CacheOp.Keeps (decision : CachedDecision α) : CacheOp α → Prop
  | .put later => later.key ≠ decision.key
  | .invalidateEpoch newEpoch => decision.invalidationEpoch = newEpoch

/-- A decision was put, and left since. -/
def Holds (ops : List (CacheOp α)) (decision : CachedDecision α) : Prop :=
  ∃ before after, ops = before ++ .put decision :: after ∧ ∀ op ∈ after, op.Keeps decision

theorem holds_concat {ops : List (CacheOp α)} {op : CacheOp α} {decision : CachedDecision α} :
    Holds (ops ++ [op]) decision ↔ op = .put decision ∨ Holds ops decision ∧ op.Keeps decision := by
  constructor
  · rintro ⟨before, after, hops, hkeeps⟩
    rcases List.eq_nil_or_concat after with rfl | ⟨after, last, rfl⟩
    · obtain ⟨-, hop⟩ := List.append_inj' hops rfl
      exact .inl (List.cons.inj hop).1
    · rw [List.concat_eq_append] at hops hkeeps
      rw [← List.cons_append, ← List.append_assoc] at hops
      obtain ⟨rfl, hop⟩ := List.append_inj' hops rfl
      obtain rfl := (List.cons.inj hop).1
      refine .inr ⟨⟨before, after, rfl, fun op' hop' => hkeeps op' (List.mem_append_left _ hop')⟩, ?_⟩
      exact hkeeps op (List.mem_append_right _ List.mem_cons_self)
  · rintro (rfl | ⟨⟨before, after, rfl, hkeeps⟩, hop⟩)
    · exact ⟨ops, [], rfl, List.forall_mem_nil _⟩
    · refine ⟨before, after ++ [op], by simp, fun op' hop' => ?_⟩
      rcases List.mem_append.mp hop' with hop' | hop'
      · exact hkeeps op' hop'
      · obtain rfl := List.mem_singleton.mp hop'
        exact hop

theorem items_step {cache : DecisionCache α} {op : CacheOp α} {key : String} {decision : CachedDecision α}
    (hkey : ∀ held, cache.items key = some held → held.key = key) :
    (cache.step op).items key = some decision ↔
      op = .put decision ∧ decision.key = key ∨ cache.items key = some decision ∧ op.Keeps decision := by
  cases op with
  | put later =>
    simp only [step, put, CacheOp.put.injEq, CacheOp.Keeps]
    split
    · rename_i hsame
      constructor
      · intro h
        obtain rfl := Option.some.inj h
        exact .inl ⟨rfl, hsame.symm⟩
      · rintro (⟨rfl, -⟩ | ⟨hheld, hne⟩)
        · rfl
        · exact absurd (hsame.symm.trans (hkey _ hheld).symm) hne
    · rename_i hother
      constructor
      · intro h
        exact .inr ⟨h, fun hlater => hother (((hkey _ h).symm.trans hlater.symm))⟩
      · rintro (⟨rfl, rfl⟩ | ⟨h, -⟩)
        · exact absurd rfl hother
        · exact h
  | invalidateEpoch newEpoch => simp [step, invalidateEpoch, CacheOp.Keeps, Option.filter_eq_some_iff]

/-- What is under a key after a run is what was put there, and left since. -/
theorem items_run (ops : List (CacheOp α)) (key : String) (decision : CachedDecision α) :
    (Machine.run step {} ops).items key = some decision ↔ Holds ops decision ∧ decision.key = key := by
  induction ops using List.reverseRecOn generalizing key decision with
  | nil =>
    constructor
    · intro h
      cases h
    · rintro ⟨⟨before, after, hops, -⟩, -⟩
      simp at hops
  | append_singleton ops op ih =>
    rw [Machine.run_append, Machine.run_cons, Machine.run_nil, items_step fun held h => ((ih key held).mp h).2, ih, holds_concat]
    constructor
    · rintro (⟨hput, hkey⟩ | ⟨⟨hholds, hkey⟩, hkeeps⟩)
      · exact ⟨.inl hput, hkey⟩
      · exact ⟨.inr ⟨hholds, hkeeps⟩, hkey⟩
    · rintro ⟨hput | ⟨hholds, hkeeps⟩, hkey⟩
      · exact .inl ⟨hput, hkey⟩
      · exact .inr ⟨⟨hholds, hkey⟩, hkeeps⟩

/-- After every run a lookup returns a value exactly if it is that of a decision that was put under the key, for the epoch
and the profile of the lookup, and if since then nothing was put under the key and every invalidation was to that epoch. -/
theorem get_run (ops : List (CacheOp α)) (key : String) (invalidationEpoch : Int)
    (freshnessProfileId freshnessProfileFingerprint : String) (value : α) :
    (Machine.run step {} ops).get key invalidationEpoch freshnessProfileId freshnessProfileFingerprint = some value ↔
      Holds ops ⟨key, some value, invalidationEpoch, freshnessProfileId, freshnessProfileFingerprint⟩ := by
  rw [get]
  constructor
  · intro h
    split at h
    · cases h
    · rename_i decision hdecision
      obtain ⟨hholds, hkey⟩ := (items_run ops key decision).mp hdecision
      split at h
      · cases h
      · rename_i hepoch
        split at h
        · cases h
        · rename_i hprofile
          simp only [ne_eq, not_not, not_or] at hepoch hprofile
          obtain ⟨hid, hfingerprint⟩ := hprofile
          rwa [← hkey, ← h, ← hepoch, ← hid, ← hfingerprint]
  · intro h
    rw [(items_run ops key _).mpr ⟨h, rfl⟩]
    simp

end DecisionCache

end Pmiri
