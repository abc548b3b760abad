import Pmiri.Preflight.Members

/-!
# Canonical member names

A member name is read as a walk through directories. `safeMemberName` looks for a
drive before the walk and for its end afterwards, so it accepts a name of which a
later component comes first once the detours before it are left out.
-/

namespace Pmiri

open Py Walks

/-- The steps of a member name, with backslashes taken for separators. -/
def memberSteps (value : String) : List (Step String) := slashSteps (forwardSlashes value)

/-- Neither a root nor a drive shows before the name is normalized. -/
def OpensRelative (value : String) : Prop :=
  (forwardSlashes value).head? ≠ some '/' ∧ ':' ∉ (partition '/' (forwardSlashes value)).1

/-- A relative name without a drive, whose components are all names. -/
structure CanonicalName (name : String) : Prop where
  relative : ∀ platform, (PurePath.ofText platform name.toList).root = []
  noDrive : ∀ platform, (PurePath.ofText platform name.toList).drive = []
  components : ∀ comp ∈ splitOn '/' (forwardSlashes name), comp ≠ [] ∧ comp ≠ ['.'] ∧ comp ≠ ['.', '.']

/-- A component with a colon is the first that the name does not leave again. -/
def ExposesColon (value : String) : Prop :=
  ∃ before comp after, memberSteps value = before ++ .down comp :: after ∧ LeadsBack before ∧
    (∃ names, Descends after names) ∧ ':' ∈ comp.toList

/-! ## What is accepted -/

/-- The checks on the normalized name are that it leads below the directory. -/
theorem collapsed_rejected {place : Place String} (hvalid : place.below.all validName = true)
    (hplace : place ≠ {}) :
    ([[], ['.']].contains (joinWith '/' (placeComps place)) || joinWith '/' (placeComps place) == ['.', '.'] ||
      ['.', '.', '/'].isPrefixOf (joinWith '/' (placeComps place))) = true ↔ place.above ≠ 0 := by
  obtain ⟨n, names⟩ := place
  cases n with
  | zero =>
    obtain ⟨p, rfl⟩ : ∃ p : RelPath, names = p.names := ⟨⟨names, fun e => hplace (by rw [e]), hvalid⟩, rfl⟩
    have hsplit := p.splitOn_asPosix
    have htext : joinWith '/' (placeComps ⟨0, p.names⟩) = p.asPosix.toList := String.toList_ofList.symm
    obtain ⟨name, names, hnames⟩ := List.exists_cons_of_ne_nil p.nonempty
    have hmem : name ∈ p.names := by rw [hnames]; exact List.mem_cons_self
    obtain ⟨hempty, hdot, hdots, -⟩ := p.valid_of_mem hmem
    rw [hnames, List.map_cons] at hsplit
    simp only [htext, ne_eq, not_true_eq_false, iff_false, Bool.or_eq_true, List.contains_eq_mem, decide_eq_true_eq,
      List.mem_cons, List.not_mem_nil, or_false, beq_iff_eq, List.isPrefixOf_iff_prefix]
    -- a text of one of these forms has another first component
    rintro (((h | h) | h) | ⟨rest, h⟩)
    · rw [h] at hsplit
      exact hempty (String.toList_inj.mp (List.cons.inj hsplit).1.symm)
    · rw [h] at hsplit
      exact hdot (String.toList_inj.mp (List.cons.inj hsplit).1.symm)
    · rw [h] at hsplit
      exact hdots (String.toList_inj.mp (List.cons.inj hsplit).1.symm)
    · rw [← h] at hsplit
      exact hdots (String.toList_inj.mp (List.cons.inj hsplit).1.symm)
  | succ n =>
    have hcomps : placeComps ⟨n + 1, names⟩ = ['.', '.'] :: placeComps ⟨n, names⟩ := rfl
    rw [hcomps]
    rcases placeComps ⟨n, names⟩ with _ | ⟨comp, comps⟩
    · exact iff_of_true rfl (Nat.succ_ne_zero n)
    · refine iff_of_true ?_ (Nat.succ_ne_zero n)
      rw [Bool.or_eq_true]
      exact .inr rfl

/-- A name is accepted if it leads down to names, and is made the path of these. -/
theorem safeMemberName_eq_some {value name : String} :
    safeMemberName value = some name ↔
      OpensRelative value ∧ ∃ p : RelPath, Descends (memberSteps value) p.names ∧ name = p.asPosix := by
  have hopens : ¬ ((forwardSlashes value).head? == some '/' || (partition '/' (forwardSlashes value)).1.contains ':') = true ↔
      OpensRelative value := by
    rw [Bool.or_eq_true, not_or, beq_iff_eq, List.contains_iff_mem]
    exact Iff.rfl
  unfold safeMemberName
  by_cases h : OpensRelative value
  · have hvalid := slashSteps_valid (forwardSlashes value)
    rw [if_neg (hopens.mpr h)]
    simp only [h, true_and, normpath_eq h.1, ← walk_eq_below, memberSteps]
    generalize Walks.walk (slashSteps (forwardSlashes value)) = place at hvalid
    by_cases hplace : place = {}
    · rw [if_pos hplace]
      refine iff_of_false nofun fun hp => ?_
      obtain ⟨p, hp, -⟩ := hp
      exact p.nonempty (congrArg Place.below (hp.symm.trans hplace))
    · rw [if_neg hplace]
      by_cases habove : place.above = 0
      · rw [if_neg (fun e => (collapsed_rejected hvalid hplace).mp e habove), Option.some_inj]
        obtain ⟨n, names⟩ := place
        obtain rfl : n = 0 := habove
        constructor
        · intro hname
          exact ⟨⟨names, fun e => hplace (by rw [e]), hvalid⟩, rfl, hname.symm⟩
        · intro hp
          obtain ⟨p, hp, rfl⟩ := hp
          obtain rfl : names = p.names := congrArg Place.below hp
          rfl
      · rw [if_pos ((collapsed_rejected hvalid hplace).mpr habove)]
        refine iff_of_false nofun fun hp => ?_
        obtain ⟨p, hp, -⟩ := hp
        exact habove (congrArg Place.above hp)
  · rw [if_pos (by by_contra hc; exact h (hopens.mp hc))]
    exact iff_of_false nofun fun hp => h hp.1

/-! ## What is returned -/

theorem not_mem_forwardSlashes (value : String) : '\\' ∉ forwardSlashes value := by
  intro h
  obtain ⟨c, -, hc⟩ := List.mem_map.mp h
  split at hc
  · exact absurd hc (by decide)
  · rename_i hne
    exact hne hc

theorem forwardSlashes_of_not_mem {value : String} (h : '\\' ∉ value.toList) : forwardSlashes value = value.toList := by
  have hkeep : ∀ c ∈ value.toList, (if c = '\\' then '/' else c) = c := by
    intro c hc
    exact if_neg fun e : c = '\\' => h (e ▸ hc)
  rw [forwardSlashes, PurePath.replaceChar, List.map_congr_left hkeep, List.map_id']

/-- The names that a name leads down to are among its components. -/
theorem mem_splitOn_of_descends {value : String} {names : List String} (h : Descends (memberSteps value) names) {name : String}
    (hname : name ∈ names) : name.toList ∈ splitOn '/' (forwardSlashes value) := by
  obtain ⟨comp, hcomp, hstep⟩ := List.mem_map.mp (h.mem hname)
  rw [(stepOf_down hstep (not_mem_of_mem_splitOn hcomp)).1]
  exact hcomp

variable {value : String} {p : RelPath}

/-- The path returned has no backslashes. -/
theorem forwardSlashes_asPosix (h : Descends (memberSteps value) p.names) : forwardSlashes p.asPosix = p.asPosix.toList := by
  refine forwardSlashes_of_not_mem fun hmem => ?_
  rw [RelPath.asPosix, String.toList_ofList] at hmem
  rcases mem_joinWith hmem with hc | ⟨part, hpart, hc⟩
  · exact absurd hc (by decide)
  · obtain ⟨name, hname, rfl⟩ := List.mem_map.mp hpart
    exact not_mem_forwardSlashes value (mem_of_mem_splitOn (mem_splitOn_of_descends h hname) hc)

theorem memberSteps_asPosix (h : Descends (memberSteps value) p.names) : memberSteps p.asPosix = p.names.map .down := by
  rw [memberSteps, forwardSlashes_asPosix h, slashSteps_asPosix]

theorem partition_asPosix (p : RelPath) : (partition '/' p.asPosix.toList).1 = (p.names.head p.nonempty).toList := by
  have hsplit := p.splitOn_asPosix
  obtain ⟨name, names, hnames⟩ := List.exists_cons_of_ne_nil p.nonempty
  rcases partition_cases '/' p.asPosix.toList with ⟨hslash, hpart⟩ | ⟨before, after, hbefore, htext, hpart⟩
  · rw [splitOn_self hslash, hnames, List.map_cons] at hsplit
    simp only [hpart, hnames, List.head_cons]
    exact (List.cons.inj hsplit).1
  · rw [htext, splitOn_append hbefore, hnames, List.map_cons] at hsplit
    simp only [hpart, hnames, List.head_cons]
    exact (List.cons.inj hsplit).1

theorem head?_asPosix (p : RelPath) : p.asPosix.toList.head? ≠ some '/' := by
  obtain ⟨name, names, hnames⟩ := List.exists_cons_of_ne_nil p.nonempty
  have hmem : name ∈ p.names := by rw [hnames]; exact List.mem_cons_self
  obtain ⟨hempty, -, -, hslash⟩ := p.valid_of_mem hmem
  obtain ⟨c, cs, hc⟩ := List.exists_cons_of_ne_nil fun e => hempty (String.toList_inj.mp e)
  obtain ⟨rest, hrest⟩ : ∃ rest, joinWith '/' (name.toList :: names.map String.toList) = c :: rest := RelPath.joinWith_cons_ne hc
  rw [RelPath.asPosix, String.toList_ofList, hnames, List.map_cons, hrest, List.head?_cons]
  exact fun e => hslash (by rw [hc, ← Option.some.inj e]; exact List.mem_cons_self)

/-- A path shows a drive where its first name has a colon. -/
theorem opensRelative_asPosix (h : Descends (memberSteps value) p.names) :
    OpensRelative p.asPosix ↔ ':' ∉ (p.names.head p.nonempty).toList := by
  rw [OpensRelative, forwardSlashes_asPosix h, partition_asPosix, and_iff_right (head?_asPosix p)]

theorem exposesColon_iff (h : Descends (memberSteps value) p.names) :
    ExposesColon value ↔ ':' ∈ (p.names.head p.nonempty).toList := by
  obtain ⟨name, names, hnames⟩ := List.exists_cons_of_ne_nil p.nonempty
  simp only [hnames, List.head_cons]
  rw [hnames] at h
  constructor
  · intro hexposes
    obtain ⟨before, comp, after, hsteps, hbefore, ⟨names', hafter⟩, hcolon⟩ := hexposes
    have hnames' : name :: names = comp :: names' := h.unique (descends_cons_iff.mpr ⟨before, after, hsteps, hbefore, hafter⟩)
    rw [(List.cons.inj hnames').1]
    exact hcolon
  · intro hcolon
    obtain ⟨before, after, hsteps, hbefore, hafter⟩ := descends_cons_iff.mp h
    exact ⟨before, name, after, hsteps, hbefore, ⟨names, hafter⟩, hcolon⟩

/-- A text that shows neither a root nor a colon at its front has neither a root nor a drive. -/
theorem ofText_rootless {text : List Char} (hhead : text.head? ≠ some '/') (hback : '\\' ∉ text)
    (hcolon : ':' ∉ (partition '/' text).1) (platform : Platform) :
    (PurePath.ofText platform text).root = [] ∧ (PurePath.ofText platform text).drive = [] := by
  cases platform with
  | posix =>
    simp only [PurePath.ofText, posixSplitroot_of_head hhead]
    exact ⟨trivial, trivial⟩
  | windows =>
    have hsplit : PurePath.ntSplitroot (PurePath.replaceChar '/' '\\' text) = ([], [], PurePath.replaceChar '/' '\\' text) := by
      cases text with
      | nil => rfl
      | cons c cs =>
        have hc : c ≠ '/' := fun e => hhead (congrArg some e)
        have hcons : PurePath.replaceChar '/' '\\' (c :: cs) = c :: PurePath.replaceChar '/' '\\' cs := by
          rw [PurePath.replaceChar, List.map_cons, if_neg hc]
          rfl
        have hfront : (PurePath.replaceChar '/' '\\' (c :: cs)).head? ≠ some '\\' := by
          rw [hcons, List.head?_cons]
          exact fun e => hback (Option.some.inj e ▸ List.mem_cons_self)
        -- a drive is a letter and a colon in the first component
        have hsecond : ∀ rest, PurePath.replaceChar '/' '\\' cs ≠ ':' :: rest := by
          intro rest e
          obtain ⟨d, ds, rfl, hd, -⟩ := List.map_eq_cons_iff.mp e
          refine hcolon ?_
          split at hd
          · exact absurd hd (by decide)
          · rw [hd, partition, if_neg hc, partition, if_neg (by decide)]
            exact List.mem_cons_of_mem _ List.mem_cons_self
        rcases PurePath.ntSplitroot_cases hfront with ⟨d, rest, hcs, -⟩ | ⟨d, rest, hcs, -⟩ | hsplit
        · exact absurd (List.cons.inj (hcons.symm.trans hcs)).2 (hsecond _)
        · exact absurd (List.cons.inj (hcons.symm.trans hcs)).2 (hsecond _)
        · exact hsplit
    simp only [PurePath.ofText, hsplit]
    exact ⟨rfl, trivial⟩

/-- The path returned is canonical and returned as it is, unless a colon has come to its front. -/
theorem canonical_asPosix (h : Descends (memberSteps value) p.names) :
    CanonicalName p.asPosix ∧ safeMemberName p.asPosix = some p.asPosix ↔ ':' ∉ (p.names.head p.nonempty).toList := by
  have hdown : Descends (memberSteps p.asPosix) p.names := memberSteps_asPosix h ▸ descends_map_down p.names
  constructor
  · intro hcanonical
    exact (opensRelative_asPosix h).mp (safeMemberName_eq_some.mp hcanonical.2).1
  · intro hcolon
    have hopens := (opensRelative_asPosix h).mpr hcolon
    have htext := forwardSlashes_asPosix h
    have hrootless := ofText_rootless (htext ▸ hopens.1) (htext ▸ not_mem_forwardSlashes p.asPosix) (htext ▸ hopens.2)
    refine ⟨⟨fun platform => (hrootless platform).1, fun platform => (hrootless platform).2, ?_⟩,
      safeMemberName_eq_some.mpr ⟨hopens, p, hdown, rfl⟩⟩
    rw [htext, p.splitOn_asPosix]
    intro comp hcomp
    obtain ⟨name, hname, rfl⟩ := List.mem_map.mp hcomp
    obtain ⟨hempty, hdot, hdots, -⟩ := p.valid_of_mem hname
    exact ⟨fun e => hempty (String.toList_inj.mp e), fun e => hdot (String.toList_inj.mp e), fun e => hdots (String.toList_inj.mp e)⟩

theorem canonicalName_iff {name : String} (h : safeMemberName value = some name) :
    CanonicalName name ∧ safeMemberName name = some name ↔ ¬ ExposesColon value := by
  obtain ⟨-, p, hp, rfl⟩ := safeMemberName_eq_some.mp h
  rw [canonical_asPosix hp, exposesColon_iff hp]

end Pmiri
