import Pmiri.Packing
import Pmiri.Read.Coverage
import Pmiri.Read.Context

/-!
# What fits into the context

The compiler packs the evidence block by block. What it does not select is in
the omission ledger. The length that it keeps counts a separator after the
first block too, so a later block that fills the bound exactly is left out.
-/

namespace Pmiri

open Py
open Packing (Block members blocksFrom packFrom pack)

namespace ContextCompiler

/-! ## Texts -/

theorem length_citation_pos (i : EvidenceItem) : 0 < (citation i).length := by
  simp only [citation, String.length_append]
  exact Nat.add_pos_left (Nat.add_pos_left (Nat.add_pos_left (Nat.add_pos_left (Nat.add_pos_left (by decide) _) _) _) _) _

theorem blockText_append {xs ys : List EvidenceItem} (hxs : xs ≠ []) (hys : ys ≠ []) :
    blockText (xs ++ ys) = blockText xs ++ "\n" ++ blockText ys := by
  rw [blockText, List.map_append, String.intercalate_append_of_ne_nil (by simpa using hxs) (by simpa using hys)]
  rfl

theorem length_blockText_pos {xs : List EvidenceItem} (h : xs ≠ []) : 0 < (blockText xs).length := by
  cases xs with
  | nil => exact absurd rfl h
  | cons i is =>
    cases is with
    | nil =>
      rw [blockText, List.map_singleton, String.intercalate_singleton]
      exact length_citation_pos i
    | cons j js =>
      rw [← List.singleton_append, blockText_append (by simp) (by simp), blockText, List.map_singleton,
        String.intercalate_singleton, String.length_append, String.length_append]
      exact Nat.add_pos_left (Nat.add_pos_left (length_citation_pos i) _) _

/-- What stands between the text so far and a next block. -/
def separator (selected : List EvidenceItem) : Nat := if selected.isEmpty then 0 else 1

theorem length_blockText_append (xs : List EvidenceItem) {ys : List EvidenceItem} (hys : ys ≠ []) :
    (blockText (xs ++ ys)).length = (blockText xs).length + separator xs + (blockText ys).length := by
  cases xs with
  | nil => simp [blockText, separator]
  | cons x xs =>
    rw [blockText_append (List.cons_ne_nil x xs) hys, String.length_append, String.length_append]
    rfl

/-! ## Steps -/

/-- The state of the loop after items. -/
def after (c : ContextCompiler) (e : EvidenceSet) (items : List EvidenceItem) : Compilation :=
  items.foldl (compileItem c.maxChars e) {}

/-- The group of an item was met before. -/
def handled (s : Compilation) (i : EvidenceItem) : Bool := i.group.any s.handledGroups.contains

/-- The length that the loop keeps: that of the text, and one more for every text that is not empty. -/
def Counted (s : Compilation) : Prop := s.used = (blockText s.selected).length + separator s.selected

theorem compileItem_handled {maxChars : Nat} {e : EvidenceSet} {s : Compilation} {i : EvidenceItem}
    (h : handled s i = true) : compileItem maxChars e s i = s := if_pos h

theorem compileItem_fits {maxChars : Nat} {e : EvidenceSet} {s : Compilation} {i : EvidenceItem}
    (h : handled s i = false) (hfits : s.used + (blockText (groupItems e i)).length + separator s.selected ≤ maxChars) :
    compileItem maxChars e s i =
      { selected := s.selected ++ groupItems e i
        used := s.used + ((blockText (groupItems e i)).length + separator (s.selected ++ groupItems e i))
        omitted := s.omitted
        handledGroups := s.handledGroups ++ i.group.toList } := by
  have hnot : ¬ (i.group.any s.handledGroups.contains = true) := by rw [← handled, h]; exact Bool.false_ne_true
  rw [compileItem, if_neg hnot]
  simp only [separator] at hfits
  simp only [if_pos hfits, separator]

theorem compileItem_exceeds {maxChars : Nat} {e : EvidenceSet} {s : Compilation} {i : EvidenceItem}
    (h : handled s i = false) (hfits : ¬ s.used + (blockText (groupItems e i)).length + separator s.selected ≤ maxChars) :
    compileItem maxChars e s i =
      { s with omitted := s.omitted ++ [omission i], handledGroups := s.handledGroups ++ i.group.toList } := by
  have hnot : ¬ (i.group.any s.handledGroups.contains = true) := by rw [← handled, h]; exact Bool.false_ne_true
  rw [compileItem, if_neg hnot]
  simp only [separator] at hfits
  simp only [if_neg hfits]

theorem groupItems_ne_nil {e : EvidenceSet} {i : EvidenceItem} (h : i ∈ e.items) : groupItems e i ≠ [] := by
  rw [groupItems]
  cases hg : i.group with
  | none => exact List.cons_ne_nil i []
  | some g =>
    simp only
    split
    · have hgroup : i.conflictGroup = some g := (Option.filter_eq_some_iff.mp hg).1
      exact List.ne_nil_of_mem (List.mem_filter.mpr ⟨h, by simp [hgroup]⟩)
    · exact List.cons_ne_nil i []

theorem counted_compileItem (maxChars : Nat) {e : EvidenceSet} {s : Compilation} {i : EvidenceItem} (hi : i ∈ e.items)
    (h : Counted s) : Counted (compileItem maxChars e s i) := by
  cases hh : handled s i with
  | true => rwa [compileItem_handled hh]
  | false =>
    by_cases hfits : s.used + (blockText (groupItems e i)).length + separator s.selected ≤ maxChars
    · have hlength := length_blockText_append s.selected (groupItems_ne_nil hi)
      rw [compileItem_fits hh hfits]
      show s.used + _ = (blockText (s.selected ++ groupItems e i)).length + separator (s.selected ++ groupItems e i)
      rw [hlength, h]
      omega
    · rw [compileItem_exceeds hh hfits]
      exact h

theorem counted_foldl {maxChars : Nat} {e : EvidenceSet} {items : List EvidenceItem} (hitems : ∀ i ∈ items, i ∈ e.items)
    {s : Compilation} (h : Counted s) : Counted (items.foldl (compileItem maxChars e) s) := by
  induction items generalizing s with
  | nil => exact h
  | cons i is ih =>
    rw [List.foldl_cons]
    exact ih (fun j hj => hitems j (List.mem_cons_of_mem _ hj)) (counted_compileItem maxChars (hitems i List.mem_cons_self) h)

/-! ## What is left out -/

/-- An iteration of the loop. -/
structure Step (e : EvidenceSet) where
  before : List EvidenceItem
  item : EvidenceItem
  rest : List EvidenceItem
  split : e.items = before ++ item :: rest

namespace Step

variable {e : EvidenceSet} (c : ContextCompiler) (step : Step e)

/-- The state before the iteration. -/
def state : Compilation := after c e step.before

/-- The length that the text would have with the block of the item. -/
def lengthWith : Nat :=
  (blockText (step.state c).selected).length + (if blockText (step.state c).selected = "" then 0 else 1) +
    (blockText (groupItems e step.item)).length

/-- Unless it was decided before, the item or its group is put into the ledger exactly if the text with its block
exceeds the bound. -/
def DecidesByLength : Prop :=
  handled (step.state c) step.item = false →
    ((after c e (step.before ++ [step.item])).omitted = (step.state c).omitted ++ [omission step.item] ↔
      c.maxChars < step.lengthWith c)

/-- The item is decided on, and its block fills what is left of the bound, with text before it. -/
def FillsExactly : Prop :=
  handled (step.state c) step.item = false ∧ (step.state c).selected ≠ [] ∧ step.lengthWith c = c.maxChars

theorem counted : Counted (step.state c) := by
  refine counted_foldl (fun i hi => ?_) rfl
  rw [step.split]
  exact List.mem_append_left _ hi

theorem after_append : after c e (step.before ++ [step.item]) = compileItem c.maxChars e (step.state c) step.item := by
  rw [after, List.foldl_append]
  rfl

theorem lengthWith_eq : step.lengthWith c =
    (blockText (step.state c).selected).length + separator (step.state c).selected +
      (blockText (groupItems e step.item)).length := by
  have hempty : blockText (step.state c).selected = "" ↔ (step.state c).selected = [] := by
    constructor
    · intro h
      by_contra hne
      have hpos := length_blockText_pos hne
      rw [h] at hpos
      exact absurd hpos (by decide)
    · intro h
      rw [h]
      rfl
  simp only [lengthWith, hempty, separator, List.isEmpty_iff]

/-- The item or its group is put into the ledger if the length that is kept, which may be one too large, exceeds the bound. -/
theorem omitted_iff (h : handled (step.state c) step.item = false) :
    (after c e (step.before ++ [step.item])).omitted = (step.state c).omitted ++ [omission step.item] ↔
      c.maxChars < step.lengthWith c + separator (step.state c).selected := by
  have hcounted : (step.state c).used = _ := step.counted c
  rw [after_append, lengthWith_eq]
  by_cases hfits : (step.state c).used + (blockText (groupItems e step.item)).length + separator (step.state c).selected ≤
      c.maxChars
  · rw [compileItem_fits h hfits]
    have hself : (step.state c).omitted ≠ (step.state c).omitted ++ [omission step.item] := by simp
    refine ⟨fun heq => absurd heq hself, fun hlt => ?_⟩
    omega
  · rw [compileItem_exceeds h hfits]
    refine ⟨fun _ => ?_, fun _ => rfl⟩
    omega

end Step

/-- A step omits just what does not fit, unless its block fills the bound exactly. -/
theorem decidesByLength_iff (c : ContextCompiler) (e : EvidenceSet) (step : Step e) :
    step.DecidesByLength c ↔ ¬ step.FillsExactly c := by
  constructor
  · rintro hdecides ⟨hnew, hselected, hfills⟩
    have homitted := (step.omitted_iff c hnew).symm.trans (hdecides hnew)
    have hseparator : separator (step.state c).selected = 1 := by simp [separator, hselected]
    omega
  · intro hfills hnew
    rw [step.omitted_iff c hnew]
    have hexact : (step.state c).selected ≠ [] → step.lengthWith c ≠ c.maxChars := fun hs hl => hfills ⟨hnew, hs, hl⟩
    by_cases hs : (step.state c).selected = []
    · rw [hs]
      exact Iff.rfl
    · have hseparator : separator (step.state c).selected = 1 := by simp [separator, hs]
      have hne := hexact hs
      omega

/-- Evidence without a group. -/
def exampleEvidence (evidenceRef : String) (n : Nat) : EvidenceItem :=
  ⟨evidenceRef, "source", "version", "project", "anchor", String.ofList (List.replicate n 'a'), "fingerprint", 1, none⟩

/-- Two blocks of 64 and 63 characters, with a line break between them. -/
def exactFit : EvidenceSet :=
  ⟨⟨"r", "project", "a", "local_read", 2⟩, [exampleEvidence "ev_1" 48, exampleEvidence "ev_2" 47], .complete, "auth", []⟩

/-- The text would be as long as the bound, and its second block is left out. -/
theorem exactFit_omitted :
    ¬ (Step.mk (e := exactFit) [exampleEvidence "ev_1" 48] (exampleEvidence "ev_2" 47) [] rfl).DecidesByLength
      ⟨128, Nat.le_refl 128⟩ := by
  intro h
  have hlength := (h rfl).mp rfl
  exact absurd hlength (by decide)

/-! ## Blocks -/

/-- The conflict groups are those of the items. -/
structure Grouped (e : EvidenceSet) : Prop where
  known : ∀ i ∈ e.items, ∀ g ∈ i.group, g ∈ e.conflictGroups
  met : ∀ g ∈ e.conflictGroups, ∃ i ∈ e.items, i.group = some g

/-- The items of a block of the evidence. -/
def itemsOf (e : EvidenceSet) : Block EvidenceItem String → List EvidenceItem := members EvidenceItem.group e.items

/-- The items of blocks. -/
def itemsOfAll (e : EvidenceSet) (bs : List (Block EvidenceItem String)) : List EvidenceItem := bs.flatMap (itemsOf e)

/-- What the ledger says of a block that is left out. -/
def omissionOf : Block EvidenceItem String → Omission
  | .single i => ⟨"CONTEXT_BOUND", i.evidenceRef⟩
  | .group g => ⟨"CONFLICT_GROUP_EXCEEDS_CONTEXT_BOUND", g⟩

/-- The text with a block, and one more for every block after another, is not longer than the bound. -/
def fits (maxChars : Nat) (e : EvidenceSet) (packed : List (Block EvidenceItem String)) (b : Block EvidenceItem String) : Bool :=
  (blockText (itemsOfAll e packed)).length + separator (itemsOfAll e packed) + (blockText (itemsOf e b)).length +
    separator (itemsOfAll e packed) ≤ maxChars

/-- A state of the loop after blocks were packed or left. -/
structure Packs (e : EvidenceSet) (s : Compilation) (p : List (Block EvidenceItem String) × List (Block EvidenceItem String)) :
    Prop where
  selected : s.selected = itemsOfAll e p.1
  omitted : s.omitted = p.2.map omissionOf
  counted : Counted s

theorem groupItems_none {e : EvidenceSet} {i : EvidenceItem} (h : i.group = none) : groupItems e i = itemsOf e (.single i) := by
  rw [groupItems, h]
  rfl

theorem groupItems_some {e : EvidenceSet} (hg : Grouped e) {i : EvidenceItem} (hi : i ∈ e.items) {g : String}
    (h : i.group = some g) : groupItems e i = itemsOf e (.group g) := by
  have hknown : e.conflictGroups.contains g = true := List.contains_iff_mem.mpr (hg.known i hi g h)
  have hnonempty : (g != "") = true := (Option.filter_eq_some_iff.mp h).2
  rw [groupItems, h]
  simp only [hknown, ↓reduceIte, itemsOf, members]
  refine List.filter_congr fun j _ => ?_
  rw [Bool.eq_iff_iff, beq_iff_eq, decide_eq_true_eq, EvidenceItem.group, Option.filter_eq_some_iff]
  exact ⟨fun hj => ⟨hj, hnonempty⟩, And.left⟩

/-- The step that decides on a block packs it or leaves it. -/
theorem packs_compileItem (maxChars : Nat) {e : EvidenceSet} {s : Compilation} {i : EvidenceItem}
    {p : List (Block EvidenceItem String) × List (Block EvidenceItem String)} {b : Block EvidenceItem String}
    (hi : i ∈ e.items) (hp : Packs e s p) (hnew : handled s i = false) (hb : groupItems e i = itemsOf e b)
    (homission : omission i = omissionOf b) :
    Packs e (compileItem maxChars e s i) (Packing.packStep (fits maxChars e) p b) := by
  have hcounted := counted_compileItem maxChars hi hp.counted
  have hused : s.used = _ := hp.counted
  rw [Packing.packStep]
  by_cases hfits : s.used + (blockText (groupItems e i)).length + separator s.selected ≤ maxChars
  · have hfit : fits maxChars e p.1 b = true := by
      rw [fits, decide_eq_true_eq, ← hp.selected, ← hb]
      omega
    rw [if_pos hfit]
    refine ⟨?_, ?_, hcounted⟩
    · rw [compileItem_fits hnew hfits, itemsOfAll, List.flatMap_append, List.flatMap_singleton, ← hb, hp.selected]
      rfl
    · rw [compileItem_fits hnew hfits]
      exact hp.omitted
  · have hexceeds : ¬ fits maxChars e p.1 b = true := by
      rw [fits, decide_eq_true_eq, ← hp.selected, ← hb]
      omega
    rw [if_neg hexceeds]
    refine ⟨?_, ?_, hcounted⟩
    · rw [compileItem_exceeds hnew hfits]
      exact hp.selected
    · rw [compileItem_exceeds hnew hfits, List.map_append, List.map_singleton, ← homission, ← hp.omitted]

/-- The loop packs the blocks of its items. -/
theorem packs_foldl {maxChars : Nat} {e : EvidenceSet} (hg : Grouped e) {items : List EvidenceItem}
    (hitems : ∀ i ∈ items, i ∈ e.items) {s : Compilation}
    {p : List (Block EvidenceItem String) × List (Block EvidenceItem String)} (hp : Packs e s p) :
    Packs e (items.foldl (compileItem maxChars e) s)
      (packFrom (fits maxChars e) p (blocksFrom EvidenceItem.group s.handledGroups items)) := by
  induction items generalizing s p with
  | nil => exact hp
  | cons i is ih =>
    have hi := hitems i List.mem_cons_self
    have his := fun j hj => hitems j (List.mem_cons_of_mem i hj)
    have hgroups (hnew : handled s i = false) :
        (compileItem maxChars e s i).handledGroups = s.handledGroups ++ i.group.toList := by
      by_cases hfits : s.used + (blockText (groupItems e i)).length + separator s.selected ≤ maxChars
      · rw [compileItem_fits hnew hfits]
      · rw [compileItem_exceeds hnew hfits]
    rw [List.foldl_cons]
    cases hgroup : i.group with
    | none =>
      have hnew : handled s i = false := by rw [handled, hgroup]; rfl
      have hstep := packs_compileItem maxChars hi hp hnew (groupItems_none hgroup) (by rw [omission, hgroup]; rfl)
      have hsame : (compileItem maxChars e s i).handledGroups = s.handledGroups := by
        rw [hgroups hnew, hgroup]
        exact List.append_nil _
      rw [Packing.blocksFrom_none hgroup, ← hsame]
      exact ih his hstep
    | some g =>
      by_cases hmet : g ∈ s.handledGroups
      · have hold : handled s i = true := by simp [handled, hgroup, hmet]
        rw [compileItem_handled hold, Packing.blocksFrom_met hgroup hmet]
        exact ih his hp
      · have hnew : handled s i = false := by simp [handled, hgroup, hmet]
        have hstep := packs_compileItem maxChars hi hp hnew (groupItems_some hg hi hgroup)
          (by rw [omission, hgroup]; rfl)
        have hmore : (compileItem maxChars e s i).handledGroups = s.handledGroups ++ [g] := by
          rw [hgroups hnew, hgroup]
          rfl
        rw [Packing.blocksFrom_new hgroup hmet, ← hmore]
        exact ih his hstep

/-- What fits keeps the text within the bound. -/
theorem length_packed {maxChars : Nat} {e : EvidenceSet} {packed : List (Block EvidenceItem String)}
    {b : Block EvidenceItem String} (h : (blockText (itemsOfAll e packed)).length ≤ maxChars)
    (hfits : fits maxChars e packed b = true) : (blockText (itemsOfAll e (packed ++ [b]))).length ≤ maxChars := by
  rw [fits, decide_eq_true_eq] at hfits
  rw [itemsOfAll, List.flatMap_append, List.flatMap_singleton]
  by_cases hb : itemsOf e b = []
  · rw [hb, List.append_nil]
    exact h
  · have hlength := length_blockText_append (itemsOfAll e packed) hb
    rw [itemsOfAll] at hlength
    rw [hlength]
    simp only [itemsOfAll] at hfits
    omega

/-! ## Artifacts -/

/-- What an artifact says of the blocks that were selected and of those that were omitted. -/
structure Accounts (e : EvidenceSet) (a : ContextArtifact) (selected omitted : List (Block EvidenceItem String)) :
    Prop where
  /-- Every item is in one of the blocks. -/
  partition : (itemsOfAll e (selected ++ omitted)).Perm e.items
  /-- A block of one item is an item without a group. -/
  single : ∀ i, .single i ∈ selected ++ omitted → i.group = none
  /-- Every conflict group is one of the blocks. -/
  group : ∀ g ∈ e.conflictGroups, (selected ++ omitted).count (.group g) = 1
  text : a.text = "\n".intercalate ((itemsOfAll e selected).map citation)
  evidenceRefs : a.evidenceRefs = (itemsOfAll e selected).map (·.evidenceRef)
  citationRefs : a.citationRefs = (itemsOfAll e selected).map (·.anchor)
  omissionLedger : a.omissionLedger = omitted.map omissionOf

/-- The items of the context. -/
def selected (c : ContextCompiler) (e : EvidenceSet) : List EvidenceItem := (after c e e.items).selected

theorem compile_accounts (c : ContextCompiler) {e : EvidenceSet} (hg : Grouped e) :
    (c.compile e).text.length ≤ c.maxChars ∧
      ∃ packed left, c.selected e = itemsOfAll e packed ∧ Accounts e (c.compile e) packed left := by
  have hpacks : Packs e (after c e e.items) (pack (fits c.maxChars e) (blocksFrom EvidenceItem.group [] e.items)) :=
    packs_foldl hg (fun _ hi => hi) ⟨rfl, rfl, rfl⟩
  have hperm := Packing.pack_perm (fits c.maxChars e) (blocksFrom EvidenceItem.group [] e.items)
  have htext : (c.compile e).text = blockText (itemsOfAll e (pack (fits c.maxChars e) _).1) := congrArg blockText hpacks.selected
  constructor
  · rw [htext]
    exact Packing.packFrom_invariant (P := fun packed => (blockText (itemsOfAll e packed)).length ≤ c.maxChars)
      (fun _ _ => length_packed) (Nat.zero_le _) _
  · refine ⟨_, _, hpacks.selected, ?_, ?_, ?_, htext, ?_, ?_, hpacks.omitted⟩
    · refine (hperm.flatMap_right _).trans ((Packing.flatMap_members_perm [] e.items).trans (List.Perm.of_eq ?_))
      exact List.filter_eq_self.mpr fun i _ => by simp
    · intro i hi
      exact (Packing.single_mem_blocksFrom.mp (hperm.mem_iff.mp hi)).2
    · intro g hgroup
      obtain ⟨i, hi, hig⟩ := hg.met g hgroup
      have hblock : Block.group g ∈ blocksFrom EvidenceItem.group [] e.items :=
        Packing.group_mem_blocksFrom.mpr ⟨List.not_mem_nil, i, hi, hig⟩
      rw [hperm.count_eq]
      exact Nat.le_antisymm (Packing.count_group_blocksFrom _ _ g) (List.count_pos_iff.mpr hblock)
    · exact congrArg (List.map (·.evidenceRef)) hpacks.selected
    · exact congrArg (List.map (·.anchor)) hpacks.selected

/-- The disposition is degraded by what was left out, and by nothing else. -/
theorem disposition_compile (c : ContextCompiler) (e : EvidenceSet) :
    ((c.compile e).disposition = .degraded ↔ (c.compile e).omissionLedger ≠ []) ∧
      ((c.compile e).omissionLedger = [] → (c.compile e).disposition = e.disposition) := by
  have hdisposition : (c.compile e).disposition = if e.disposition = .empty then .empty
      else if (c.compile e).omissionLedger.isEmpty then e.disposition else .degraded := rfl
  have hnot : e.disposition ≠ .degraded := by
    rw [EvidenceSet.disposition]
    split
    · exact nofun
    · split
      · exact nofun
      · split <;> exact nofun
  have hempty : e.disposition = .empty → (c.compile e).omissionLedger = [] := by
    intro h
    have hitems : e.items = [] := by
      by_contra hne
      rw [EvidenceSet.disposition, if_neg (by simpa using hne)] at h
      split at h
      · cases h
      · split at h <;> cases h
    show (after c e e.items).omitted = []
    rw [hitems]
    rfl
  rw [hdisposition]
  by_cases hd : e.disposition = .empty
  · rw [if_pos hd, hempty hd]
    exact ⟨⟨nofun, fun h => absurd rfl h⟩, fun _ => hd.symm⟩
  · rw [if_neg hd]
    cases hledger : (c.compile e).omissionLedger with
    | nil => exact ⟨⟨fun h => absurd h hnot, fun h => absurd rfl h⟩, fun _ => rfl⟩
    | cons o os => exact ⟨⟨fun _ => List.cons_ne_nil o os, fun _ => rfl⟩, nofun⟩

section

variable [Runtime]

theorem grouped_evidenceOf (request : QueryRequest) (queryTokens : List (List Char)) (sources : List SourceRecord) :
    Grouped (evidenceOf request queryTokens sources) := by
  constructor
  · intro i hi g hg
    exact mem_sortedSet.mpr (List.mem_filterMap.mpr ⟨i, hi, hg⟩)
  · intro g hg
    exact List.mem_filterMap.mp (mem_sortedSet.mp hg)

/-- Compiling what a search found keeps to the bound and accounts for every item; where something was left out, and only
there, the disposition is degraded. -/
theorem compile_search {σ : Type} [SourceStore σ] (c : ContextCompiler) {store : σ} {request : QueryRequest} {e : EvidenceSet}
    (h : search store request = .ok e) :
    (c.compile e).text.length ≤ c.maxChars ∧
      (∃ selected omitted, Accounts e (c.compile e) selected omitted) ∧
      ((c.compile e).disposition = .degraded ↔ (c.compile e).omissionLedger ≠ []) ∧
      ((c.compile e).omissionLedger = [] → (c.compile e).disposition = e.disposition) := by
  obtain ⟨-, -, sources, -, rfl⟩ := search_ok.mp h
  obtain ⟨hlength, packed, left, -, haccounts⟩ :=
    compile_accounts c (grouped_evidenceOf request (tokens request.query.toList) sources)
  exact ⟨hlength, ⟨packed, left, haccounts⟩, disposition_compile c _⟩

end

/-- Two lines of one source, compiled with a bound for one of them. -/
theorem compile_search_twoLines :
    letI := asciiRuntime
    let c : ContextCompiler := ⟨128, Nat.le_refl 128⟩
    ∃ e, search (LocalStore.after [twoLines]) ⟨"r", "project", "A", "local_read", 2⟩ = .ok e ∧
      (c.compile e).text.length ≤ 128 ∧ (∃ selected omitted, Accounts e (c.compile e) selected omitted) ∧
      ((c.compile e).disposition = .degraded ↔ (c.compile e).omissionLedger ≠ []) := by
  let := asciiRuntime
  have hlisted := listSources_single (exampleCall_checked (show '\r' ∉ "A\nA".toList by decide) "2026-01-01T00:00:00Z")
    (show _ = "project" from rfl)
  have hrequest : (⟨"r", "project", "A", "local_read", 2⟩ : QueryRequest).normalized =
      .ok (⟨"r", "project", "A", "local_read", 2⟩ : QueryRequest).asDict :=
    QueryRequest.normalized_ok.mpr ⟨by decide, by decide, by decide, rfl⟩
  have hsearch : search (LocalStore.after [twoLines]) _ = .ok _ := search_ok.mpr ⟨⟨_, hrequest⟩, by decide, _, hlisted, rfl⟩
  have h := compile_search ⟨128, Nat.le_refl 128⟩ hsearch
  exact ⟨_, hsearch, h.1, h.2.1, h.2.2.1⟩

end ContextCompiler

end Pmiri
