import Mathlib.Data.Set.Basic

/-!
# Inventories

A collection has some content under some of the names. An inventory records the
digest of every content under the names that one walk looks at; another walk
compares a collection with it. It tells every change of the evidence, and
nothing else, exactly if the second walk looks at the evidence, and if both
walks look at the same of what there was.
-/

namespace Inventory

variable {κ γ δ : Type*} (digest : γ → δ)

open Classical in
/-- What a walk over some of the names records. -/
noncomputable def record (names : Set κ) (files : κ → Option γ) (k : κ) : Option δ :=
  if k ∈ names then (files k).map digest else none

/-- A walk over some of the names finds what is recorded, and nothing else. -/
def Matches (names : Set κ) (files : κ → Option γ) (recorded : κ → Option δ) : Prop :=
  ∀ k, record digest names files k = recorded k

variable {digest}

theorem record_of_mem {names : Set κ} {files : κ → Option γ} {k : κ} (h : k ∈ names) :
    record digest names files k = (files k).map digest := if_pos h

theorem record_of_not_mem {names : Set κ} {files : κ → Option γ} {k : κ} (h : k ∉ names) :
    record digest names files k = none := if_neg h

/-- A walk does not see what it does not look at. -/
theorem matches_congr {names : Set κ} {files files' : κ → Option γ} {recorded : κ → Option δ}
    (h : ∀ k ∈ names, files k = files' k) : Matches digest names files recorded ↔ Matches digest names files' recorded := by
  refine forall_congr' fun k => ?_
  by_cases hk : k ∈ names
  · rw [record_of_mem hk, record_of_mem hk, h k hk]
  · rw [record_of_not_mem hk, record_of_not_mem hk]

/-- What was recorded matches exactly if both walks look at the same names of it. -/
theorem matches_record_iff {names names' : Set κ} {files : κ → Option γ} :
    Matches digest names' files (record digest names files) ↔ ∀ k, files k ≠ none → (k ∈ names ↔ k ∈ names') := by
  refine forall_congr' fun k => ?_
  by_cases hk : k ∈ names <;> by_cases hk' : k ∈ names'
  · simp [record_of_mem hk, record_of_mem hk', hk, hk']
  · simp [record_of_mem hk, record_of_not_mem hk', hk, hk', eq_comm]
  · simp [record_of_not_mem hk, record_of_mem hk', hk, hk']
  · simp [record_of_not_mem hk, record_of_not_mem hk', hk, hk']

/-- The inventory of `files₀` over the names `sealed`, compared over the names
`checked`, accepts the versions that agree with `files` in the evidence, and no
others. -/
structure Detects (digest : γ → δ) (sealed checked evidence : Set κ) (files₀ files : κ → Option γ)
    (versions : Set (κ → Option γ)) : Prop where
  accepts : ∀ files' ∈ versions, (∀ k ∈ evidence, files' k = files k) → Matches digest checked files' (record digest sealed files₀)
  rejects : ∀ files' ∈ versions, (∃ k ∈ evidence, files' k ≠ files k) →
    ¬ Matches digest checked files' (record digest sealed files₀)

variable {sealed checked evidence pinned : Set κ} {files₀ files : κ → Option γ} {versions : Set (κ → Option γ)}

/-- Under the names that are pinned, all versions agree; under every other one
there is a version that differs from `files` only there. -/
theorem detects_iff (hfiles : files ∈ versions) (hsame : ∀ k ∈ checked, files k = files₀ k)
    (hpinned : ∀ files' ∈ versions, ∀ k ∈ pinned, files' k = files k) (hevidence : ∀ k ∈ evidence, k ∉ pinned)
    (hchange : ∀ k ∉ pinned, ∃ files' ∈ versions, files' k ≠ files k ∧ ∀ j ≠ k, files' j = files j)
    (hcollision : ∀ files' ∈ versions, ∀ k c c', files k = some c → files' k = some c' → digest c = digest c' → c = c') :
    Detects digest sealed checked evidence files₀ files versions ↔
      (∀ k ∉ pinned, (k ∈ checked ↔ k ∈ evidence)) ∧ ∀ k, files₀ k ≠ none → (k ∈ sealed ↔ k ∈ checked) := by
  have haccepts : Matches digest checked files (record digest sealed files₀) ↔
      ∀ k, files₀ k ≠ none → (k ∈ sealed ↔ k ∈ checked) := (matches_congr hsame).trans matches_record_iff
  -- a walk that looks at `k` and matches two versions has found the same there
  have hfound : ∀ files' ∈ versions, ∀ k ∈ checked, Matches digest checked files (record digest sealed files₀) →
      Matches digest checked files' (record digest sealed files₀) → files' k = files k := by
    intro files' hversion k hk hmatches hmatches'
    have hdigest := (hmatches' k).trans (hmatches k).symm
    rw [record_of_mem hk, record_of_mem hk] at hdigest
    rcases hfile : files k with _ | c
    · rw [hfile, Option.map_none] at hdigest
      exact Option.map_eq_none_iff.mp hdigest
    · rw [hfile, Option.map_some] at hdigest
      obtain ⟨c', hc', hdigest⟩ := Option.map_eq_some_iff.mp hdigest
      rw [hc', hcollision files' hversion k c c' hfile hc' hdigest.symm]
  constructor
  · intro h
    have hmatches := h.accepts files hfiles fun _ _ => rfl
    refine ⟨fun k hk => ?_, haccepts.mp hmatches⟩
    obtain ⟨files', hversion, hne, hother⟩ := hchange k hk
    constructor
    · intro hc
      by_contra he
      refine hne (hfound files' hversion k hc hmatches (h.accepts files' hversion fun j hj => ?_))
      exact hother j fun e => he (e ▸ hj)
    · intro he
      by_contra hc
      refine h.rejects files' hversion ⟨k, he, hne⟩ ((matches_congr fun j hj => ?_).mpr hmatches)
      exact hother j fun e => hc (e ▸ hj)
  · rintro ⟨hlooks, hagree⟩
    have hmatches := haccepts.mpr hagree
    constructor
    · intro files' hversion hsame'
      refine (matches_congr fun k hk => ?_).mpr hmatches
      by_cases hp : k ∈ pinned
      · exact hpinned files' hversion k hp
      · exact hsame' k ((hlooks k hp).mp hk)
    · rintro files' hversion ⟨k, he, hne⟩ hmatches'
      exact hne (hfound files' hversion k ((hlooks k (hevidence k he)).mpr he) hmatches hmatches')

/-! ## Copies -/

section Copies

variable {τ : Type*}

/-- A collection has what is under each name of `files` in its place, and nothing else. -/
structure Copies (place : κ → τ) (files : κ → Option γ) (copies : τ → Option γ) : Prop where
  copied : ∀ k c, files k = some c → copies (place k) = some c
  only : ∀ t, copies t ≠ none → ∃ k, files k ≠ none ∧ t = place k

/-- Pairs of a name in one collection and a name in another, with one digest for
both, name all that there is in the two. -/
structure Paired (digest : γ → δ) (pairs : Set (κ × τ × δ)) (files : κ → Option γ) (copies : τ → Option γ) : Prop where
  named : ∀ k, files k ≠ none ↔ ∃ t d, (k, t, d) ∈ pairs
  copies_named : ∀ t, copies t ≠ none ↔ ∃ k d, (k, t, d) ∈ pairs
  matches_digest : ∀ k t d, (k, t, d) ∈ pairs → (files k).map digest = some d
  copies_digest : ∀ k t d, (k, t, d) ∈ pairs → (copies t).map digest = some d

/-- Of two collections that are paired, one is a copy of the other exactly if every
name is paired with a place, and every place with the digest of what belongs there. -/
theorem Paired.copies_iff {place : κ → τ} {pairs : Set (κ × τ × δ)} {files : κ → Option γ} {copies : τ → Option γ}
    (h : Paired digest pairs files copies)
    (hcollision : ∀ k t c c', files k = some c → copies t = some c' → digest c = digest c' → c = c') :
    Copies place files copies ↔
      ∀ k t d, (k, t, d) ∈ pairs → (∃ k', (∃ t' d', (k', t', d') ∈ pairs) ∧ t = place k') ∧ ∃ k', (k', place k, d) ∈ pairs := by
  constructor
  · intro hcopies k t d hmem
    refine ⟨?_, ?_⟩
    · obtain ⟨k', hk', ht⟩ := hcopies.only t ((h.copies_named t).mpr ⟨k, d, hmem⟩)
      exact ⟨k', (h.named k').mp hk', ht⟩
    · obtain ⟨c, hc, hd⟩ := Option.map_eq_some_iff.mp (h.matches_digest k t d hmem)
      have hplace := hcopies.copied k c hc
      obtain ⟨k', d', hmem'⟩ := (h.copies_named (place k)).mp (by rw [hplace]; exact Option.some_ne_none c)
      have hd' := h.copies_digest k' (place k) d' hmem'
      rw [hplace, Option.map_some, hd, Option.some.injEq] at hd'
      exact ⟨k', hd' ▸ hmem'⟩
  · intro hpairs
    constructor
    · intro k c hc
      obtain ⟨t, d, hmem⟩ := (h.named k).mp (by rw [hc]; exact Option.some_ne_none c)
      obtain ⟨k', hmem'⟩ := (hpairs k t d hmem).2
      obtain ⟨c', hc', hd'⟩ := Option.map_eq_some_iff.mp (h.copies_digest k' (place k) d hmem')
      have hd := h.matches_digest k t d hmem
      rw [hc, Option.map_some, Option.some.injEq] at hd
      rw [hc', hcollision k (place k) c c' hc hc' (hd.trans hd'.symm)]
    · intro t ht
      obtain ⟨k, d, hmem⟩ := (h.copies_named t).mp ht
      obtain ⟨k', hk', ht'⟩ := (hpairs k t d hmem).1
      exact ⟨k', (h.named k').mpr hk', ht'⟩

end Copies

end Inventory
