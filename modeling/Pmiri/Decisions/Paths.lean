import Pmiri.Decisions.Records
import Pmiri.Python.Sha256

/-!
# Lifecycle histories

The transitions of a lifecycle record as a path in `LEGAL_TRANSITIONS`. The
loop of the validator accepts exactly the paths from `NOT_APPLICABLE` whose
time stamps do not go back.
-/

namespace Pmiri

open Py

/-- A path in `LEGAL_TRANSITIONS`, with the event of each edge. -/
inductive LegalPath : String → List Dict → String → Prop where
  | nil (s : String) : LegalPath s [] s
  | cons {s s' s'' event : String} {t : Dict} {ts : List Dict} :
    LEGAL_TRANSITIONS.lookup (s, s') = some event → t.get "from_state" = .str s → t.get "to_state" = .str s' →
    t.get "event" = .str event → LegalPath s' ts s'' → LegalPath s (t :: ts) s''

/-- The transitions of a record. -/
def transitionsOf (d : Dict) : List Dict :=
  match d.get "transitions" with
  | .list transitions => transitions.filterMap Val.asDict
  | _ => []

/-- The instant of a transition. -/
def transitionInstant (t : Dict) : Option Int :=
  match t.get "observed_at" with
  | .str s => (fromisoformat (expandZ s)).bind DateTime.instant?
  | _ => none

/-- A transition with the fields and the types of one. -/
structure TypedTransition (v : Val) : Prop where
  fields : ∃ t, v.asDict = some t ∧ t.keysAre transitionFields = true ∧ (∃ n, t.get "sequence" = .int n) ∧
    (∃ s, t.get "from_state" = .str s) ∧ (∃ s, t.get "to_state" = .str s) ∧ (∃ s, t.get "event" = .str s) ∧
    (∃ s, t.get "observed_at" = .str s) ∧ ∃ x ∈ REASON_CLASSES, t.get "reason_class" = .str x

/-- The transitions of a record are a list of typed ones. -/
def WellTyped (d : Dict) : Prop := ∃ vs, d.get "transitions" = .list vs ∧ ∀ v ∈ vs, TypedTransition v

/-- The history of a record: numbered from 0, a path to the terminal state, in
the order of its time stamps, and empty exactly if nothing was fetched. -/
structure LegalHistory (d : Dict) : Prop where
  numbered : ∀ (i : Nat) (t : Dict), (transitionsOf d)[i]? = some t → t.get "sequence" = .int i
  path : ∃ s, d.get "history_terminal_state" = .str s ∧ LegalPath "NOT_APPLICABLE" (transitionsOf d) s
  aware : ∀ t ∈ transitionsOf d, (transitionInstant t).isSome = true
  ordered : ((transitionsOf d).filterMap transitionInstant).IsChain (· ≤ ·)
  absent : transitionsOf d = [] ↔ d.get "history_terminal_state" = .str "NOT_APPLICABLE"

/-- The states that nothing leads out of. -/
def finalStates : List String := ["REJECTED", "DISCARDED", "ABORTED"]

/-! ## The loop -/

theorem transitionTime_ok {t : Dict} {s : String} {previous : Option Int} {timestamp : Int} (h : t.get "observed_at" = .str s) :
    transitionTime s previous = some timestamp ↔
      transitionInstant t = some timestamp ∧ ∀ p ∈ previous, p ≤ timestamp := by
  rw [transitionInstant, h]
  simp only [transitionTime, Option.bind_eq_bind, Option.bind_eq_some_iff]
  constructor
  · rintro ⟨d, hd, instant, hi, ht⟩
    cases previous with
    | none => exact ⟨⟨d, hd, hi.trans ht⟩, fun p hp => by cases hp⟩
    | some p =>
      simp only at ht
      split at ht
      · cases ht
      · refine ⟨⟨d, hd, hi.trans ht⟩, fun q hq => ?_⟩
        obtain rfl := Option.some.inj hq
        obtain rfl := Option.some.inj ht
        omega
  · rintro ⟨⟨d, hd, hi⟩, hp⟩
    refine ⟨d, hd, timestamp, hi, ?_⟩
    cases previous with
    | none => rfl
    | some p => exact if_neg (not_lt.mpr (hp p rfl))

section

variable [Runtime]

/-- One round of the loop over a typed transition follows an edge. -/
theorem checkTransition_ok {n : Nat} {s : String} {previous : Option Int} {v : Val} {t : Dict} {r : Val × Option Int}
    (hv : TypedTransition v) (ht : v.asDict = some t) :
    checkTransition n (.str s, previous) v = .ok r ↔
      t.get "sequence" = .int n ∧ t.get "from_state" = .str s ∧ ∃ s' event timestamp,
        LEGAL_TRANSITIONS.lookup (s, s') = some event ∧ t.get "to_state" = .str s' ∧ t.get "event" = .str event ∧
        transitionInstant t = some timestamp ∧ (∀ p ∈ previous, p ≤ timestamp) ∧ r = (.str s', some timestamp) := by
  obtain ⟨t', ht', hkeys, ⟨k, hk⟩, ⟨a, ha⟩, ⟨b, hb⟩, ⟨e, he⟩, ⟨o, ho⟩, x, hx, hreason⟩ := hv.fields
  obtain rfl : t' = t := Option.some.inj (ht'.symm.trans ht)
  have hknown : (t'.get "reason_class").notIn REASON_CLASSES = .ok false := Val.notIn_ok_false.mpr ⟨x, hx, hreason⟩
  simp only [checkTransition, ht, hkeys, seq_ok, raiseIf_ok, raiseIfM_ok, hknown, ha, hb, ho, hk, Val.toStr_str,
    Val.str_eq_str, Val.int_eq_int, Bool.or_eq_false_iff, Bool.not_eq_false', beq_iff_eq, Bool.not_true, true_and,
    Val.str.injEq, Val.int.injEq]
  constructor
  · rintro ⟨⟨rfl, rfl⟩, h⟩
    split at h
    · cases h
    rename_i timestamp htime
    obtain ⟨hinstant, hp⟩ := (transitionTime_ok ho).mp htime
    split at h
    · cases h
    rename_i event hevent
    obtain ⟨hd, h⟩ := seq_ok.mp h
    rw [raiseIf_ok, differs_false] at hd
    exact ⟨rfl, rfl, b, event, timestamp, hevent, rfl, hd, hinstant, hp, (Except.ok.inj h).symm⟩
  · rintro ⟨rfl, rfl, s', event, timestamp, hevent, rfl, hd, hinstant, hp, rfl⟩
    refine ⟨⟨rfl, rfl⟩, ?_⟩
    rw [(transitionTime_ok ho).mpr ⟨hinstant, hp⟩]
    simp only [hevent, seq_ok, raiseIf_ok, differs_false]
    exact ⟨hd, rfl⟩

omit [Runtime] in
theorem numbered_cons {n : Nat} {t : Dict} {ts : List Dict} :
    (∀ (i : Nat) (u : Dict), (t :: ts)[i]? = some u → u.get "sequence" = .int (n + i : Nat)) ↔
      t.get "sequence" = .int n ∧ ∀ (i : Nat) (u : Dict), ts[i]? = some u → u.get "sequence" = .int (n + 1 + i : Nat) := by
  constructor
  · intro h
    refine ⟨h 0 t rfl, fun i u hu => ?_⟩
    rw [h (i + 1) u hu, Nat.add_right_comm, Nat.add_assoc]
  · rintro ⟨h0, h⟩ i u hu
    cases i with
    | zero =>
      obtain rfl := Option.some.inj hu
      exact h0
    | succ i => rw [h i u hu, Nat.add_right_comm, Nat.add_assoc]

omit [Runtime] in
/-- The instants of a list go on from a previous one. -/
theorem ordered_cons {previous : Option Int} {t : Dict} {ts : List Dict} {timestamp : Int}
    (h : transitionInstant t = some timestamp) :
    (previous.toList ++ (t :: ts).filterMap transitionInstant).IsChain (· ≤ ·) ↔
      (∀ p ∈ previous, p ≤ timestamp) ∧ ((some timestamp).toList ++ ts.filterMap transitionInstant).IsChain (· ≤ ·) := by
  rw [List.filterMap_cons_some h]
  cases previous with
  | none => simp
  | some p => simp [List.isChain_cons_cons]

/-- The loop over typed transitions follows a path, and every path with
ordered time stamps is followed. -/
theorem checkTransitions_ok {n : Nat} {s : String} {previous : Option Int} {vs : List Val} {r : Val × Option Int}
    (hv : ∀ v ∈ vs, TypedTransition v) :
    checkTransitions n (.str s, previous) vs = .ok r ↔
      (∀ (i : Nat) (t : Dict), (vs.filterMap Val.asDict)[i]? = some t → t.get "sequence" = .int (n + i : Nat)) ∧
      (∃ s', r.1 = .str s' ∧ LegalPath s (vs.filterMap Val.asDict) s') ∧
      (∀ t ∈ vs.filterMap Val.asDict, (transitionInstant t).isSome = true) ∧
      (previous.toList ++ (vs.filterMap Val.asDict).filterMap transitionInstant).IsChain (· ≤ ·) ∧
      r.2 = (((vs.filterMap Val.asDict).filterMap transitionInstant).getLast?).or previous := by
  induction vs generalizing n s previous with
  | nil =>
    constructor
    · intro h
      obtain rfl := Except.ok.inj h
      refine ⟨fun i t ht => by simp at ht, ⟨s, rfl, .nil s⟩, fun t ht => (by simp at ht), ?_, rfl⟩
      cases previous <;> simp
    · rintro ⟨-, ⟨s', hs, hpath⟩, -, -, hr⟩
      cases hpath
      exact congrArg Except.ok (Prod.ext hs.symm hr.symm)
  | cons v vs ih =>
    have hv' := hv v List.mem_cons_self
    obtain ⟨t, ht, -⟩ := hv'.fields
    have hvs : ∀ w ∈ vs, TypedTransition w := fun w hw => hv w (List.mem_cons_of_mem _ hw)
    rw [List.filterMap_cons_some ht, checkTransitions, bind_ok, numbered_cons]
    constructor
    · rintro ⟨r', hr', h⟩
      obtain ⟨hsequence, hfrom, s', event, timestamp, hevent, hto, he, hinstant, hp, rfl⟩ := (checkTransition_ok hv' ht).mp hr'
      obtain ⟨hnumbered, ⟨s'', hs, hpath⟩, haware, hordered, hlast⟩ := (ih hvs).mp h
      refine ⟨⟨hsequence, hnumbered⟩, ⟨s'', hs, .cons hevent hfrom hto he hpath⟩, ?_, (ordered_cons hinstant).mpr ⟨hp, hordered⟩, ?_⟩
      · rintro u (_ | ⟨_, hu⟩)
        · rw [hinstant]
          rfl
        · exact haware u hu
      · rw [hlast, List.filterMap_cons_some hinstant, List.getLast?_cons]
        cases (vs.filterMap Val.asDict).filterMap transitionInstant |>.getLast? <;> rfl
    · rintro ⟨⟨hsequence, hnumbered⟩, ⟨s'', hs, hpath⟩, haware, hordered, hlast⟩
      cases hpath with
      | cons hevent hfrom hto he hpath =>
        rename_i s' event
        obtain ⟨timestamp, hinstant⟩ := Option.isSome_iff_exists.mp (haware t List.mem_cons_self)
        obtain ⟨hp, hordered⟩ := (ordered_cons hinstant).mp hordered
        refine ⟨(.str s', some timestamp),
          (checkTransition_ok hv' ht).mpr ⟨hsequence, hfrom, s', event, timestamp, hevent, hto, he, hinstant, hp, rfl⟩,
          (ih hvs).mpr ⟨hnumbered, ⟨s'', hs, hpath⟩, fun u hu => haware u (List.mem_cons_of_mem _ hu), hordered, ?_⟩⟩
        rw [hlast, List.filterMap_cons_some hinstant, List.getLast?_cons]
        cases (vs.filterMap Val.asDict).filterMap transitionInstant |>.getLast? <;> rfl

/-! ## Paths -/

omit [Runtime] in
theorem mem_of_legal {s s' event : String} (h : LEGAL_TRANSITIONS.lookup (s, s') = some event) :
    ((s, s'), event) ∈ LEGAL_TRANSITIONS := by
  obtain ⟨before, after, heq, -⟩ := List.lookup_eq_some_iff.mp h
  rw [heq]
  exact List.mem_append_right _ List.mem_cons_self

omit [Runtime] in
/-- Nothing leads out of a final state. -/
theorem LegalPath.of_final {s s' : String} {ts : List Dict} (h : LegalPath s ts s') (hs : s ∈ finalStates) : ts = [] := by
  cases h with
  | nil => rfl
  | cons hevent =>
    have hnone : ∀ e ∈ LEGAL_TRANSITIONS, e.1.1 ∉ finalStates := by decide
    exact absurd hs (hnone _ (mem_of_legal hevent))

omit [Runtime] in
/-- No edge leads back to where histories start. -/
theorem LegalPath.target_ne {s s' : String} {ts : List Dict} (h : LegalPath s ts s') (hts : ts ≠ []) : s' ≠ "NOT_APPLICABLE" := by
  induction h with
  | nil => exact absurd rfl hts
  | @cons s s' s'' event t ts hevent _ _ _ hpath ih =>
    by_cases hnil : ts = []
    · subst hnil
      cases hpath
      rintro rfl
      have hnone : ∀ e ∈ LEGAL_TRANSITIONS, e.1.2 ≠ "NOT_APPLICABLE" := by decide
      exact hnone _ (mem_of_legal hevent) rfl
    · exact ih hnil

omit [Runtime] in
/-- A path goes on from the state that each of its transitions leads to. -/
theorem LegalPath.drop {s s' : String} {ts : List Dict} {i : Nat} {t : Dict} (h : LegalPath s ts s') (ht : ts[i]? = some t) :
    ∃ u, t.get "to_state" = .str u ∧ LegalPath u (ts.drop (i + 1)) s' := by
  induction h generalizing i with
  | nil => simp at ht
  | cons _ _ hto _ hpath ih =>
    cases i with
    | zero =>
      obtain rfl := Option.some.inj ht
      exact ⟨_, hto, hpath⟩
    | succ i => exact ih ht

/-- The history of a record of typed transitions is accepted exactly if it is
a legal one. -/
theorem checkHistory_ok {d : Dict} (hterminal : ∃ x ∈ LIFECYCLES, d.get "history_terminal_state" = .str x) (htyped : WellTyped d) :
    checkHistory d = .ok () ↔ LegalHistory d := by
  obtain ⟨x, -, hx⟩ := hterminal
  obtain ⟨vs, hvs, hv⟩ := htyped
  have hts : transitionsOf d = vs.filterMap Val.asDict := by rw [transitionsOf, hvs]
  have hempty : vs.filterMap Val.asDict = [] ↔ vs = [] := by
    constructor
    · intro h
      cases vs with
      | nil => rfl
      | cons v vs =>
        obtain ⟨t, ht, -⟩ := (hv v List.mem_cons_self).fields
        rw [List.filterMap_cons_some ht] at h
        cases h
    · rintro rfl
      rfl
  have hrun := @checkTransitions_ok _ 0 "NOT_APPLICABLE" none vs
  rw [checkHistory, hvs]
  refine bind_ok.trans ?_
  constructor
  · rintro ⟨⟨previous, time⟩, hr, h⟩
    obtain ⟨hnumbered, ⟨s', hs, hpath⟩, haware, hordered, -⟩ := (hrun hv).mp hr
    obtain rfl : previous = .str s' := hs
    obtain ⟨hmissing, hend⟩ := seq_ok.mp h
    rw [raiseIf_ok, Bool.and_eq_false_imp, differs_true, hx, List.isEmpty_eq_false_iff] at hmissing
    rw [raiseIf_ok, Bool.and_eq_false_imp, Bool.not_eq_true', List.isEmpty_eq_false_iff, Bool.not_eq_false', hx,
      Val.str_eq_str, beq_iff_eq] at hend
    have hsame : s' = x := by
      by_cases hnil : vs = []
      · subst hnil
        cases hpath
        by_contra hne
        exact hmissing (fun he => hne (Val.str.inj he).symm) rfl
      · exact hend hnil
    rw [← hts] at *
    refine ⟨fun i t ht => ?_, ⟨x, hx, hsame ▸ hpath⟩, haware, hordered, ?_⟩
    · rw [hnumbered i t ht, Nat.zero_add]
    · rw [hempty, hx]
      constructor
      · intro hnil
        by_contra hne
        exact hmissing hne hnil
      · intro he
        by_contra hnil
        exact hpath.target_ne (fun h => hnil (hempty.mp h)) (hsame.trans (Val.str.inj he))
  · rintro ⟨hnumbered, ⟨s', hs, hpath⟩, haware, hordered, habsent⟩
    obtain rfl : x = s' := Val.str.inj (hx.symm.trans hs)
    rw [hts] at hnumbered hpath haware hordered habsent
    refine ⟨(.str x, (((vs.filterMap Val.asDict).filterMap transitionInstant).getLast?).or none),
      (hrun hv).mpr ⟨fun i t ht => ?_, ⟨x, rfl, hpath⟩, haware, hordered, rfl⟩, seq_ok.mpr ⟨?_, ?_⟩⟩
    · rw [hnumbered i t ht, Nat.zero_add]
    · rw [raiseIf_ok, Bool.and_eq_false_imp, differs_true, List.isEmpty_eq_false_iff]
      exact fun hne hnil => hne (habsent.mp (hempty.mpr hnil))
    · rw [raiseIf_ok, hx, Val.eq_refl, Bool.not_true, Bool.and_false]

/-- A record of typed transitions whose other fields are valid is accepted
exactly if its history is legal; nothing follows a final state in one that is
accepted. -/
theorem validateLifecycle_iff_legal {d : Dict} (h : LifecycleRecord d) (htyped : WellTyped d) :
    (validateLifecycle d = .ok () ↔ LegalHistory d) ∧
      (validateLifecycle d = .ok () → ∀ (i : Nat) (t : Dict), (transitionsOf d)[i]? = some t →
        (∃ x ∈ finalStates, t.get "to_state" = .str x) → i + 1 = (transitionsOf d).length) := by
  have hiff : validateLifecycle d = .ok () ↔ LegalHistory d := by
    rw [validateLifecycle_ok, ← checkHistory_ok h.terminal htyped]
    exact ⟨fun hl => hl.history, fun hh => ⟨h, hh⟩⟩
  refine ⟨hiff, fun hvalid i t ht ⟨x, hx, hto⟩ => ?_⟩
  obtain ⟨s, -, hpath⟩ := (hiff.mp hvalid).path
  obtain ⟨u, hu, hrest⟩ := hpath.drop ht
  obtain rfl : x = u := Val.str.inj (hto.symm.trans hu)
  have hlength := List.drop_eq_nil_iff.mp (hrest.of_final hx)
  have hi := (List.getElem?_eq_some_iff.mp ht).1
  omega

end

/-! ## A fetch -/

/-- The admission of content that was fetched and put in quarantine. -/
def examplePredicate : Dict :=
  .ofItems [
    ("explicit_operation", .str "connector_fetch"),
    ("explicit_operation_ref", .str "operation://connector_fetch"),
    ("origin_bound", .bool true),
    ("parser_result_ref", .str "parser://example"),
    ("classification_ref", .str "classification://example"),
    ("validation_result_ref", .str "validation://example"),
    ("content_policy_result_ref", .str "policy://example"),
    ("instruction_influence_prohibited", .bool true),
    ("control_influence_prohibited", .bool true)]

def transitionTo (sequence : Nat) (source target event observedAt : String) : Dict :=
  .ofItems [
    ("sequence", .int sequence),
    ("from_state", .str source),
    ("to_state", .str target),
    ("event", .str event),
    ("observed_at", .str observedAt),
    ("actor_ref", .str "actor://example"),
    ("reason_class", .str "NONE")]

/-- A lifecycle record of a fetch that ended in a state, without its fingerprint. -/
def fetchedTo (state visibility : String) (transitions : List Dict) : Dict :=
  .ofItems [
    ("record_type", .str "PMIRI_D2_FETCHED_CONTENT_LIFECYCLE"),
    ("schema_version", .str "0.3"),
    ("content_id", .str "content://example"),
    ("operation", .str "connector_fetch"),
    ("purpose", .str "external_fetch"),
    ("origin_binding_ref", .str "origin://example"),
    ("destination_binding_ref", .str "binding://example"),
    ("response_fingerprint", .str "0000000000000000000000000000000000000000000000000000000000000000"),
    ("terminal_response_fingerprint", .str "0000000000000000000000000000000000000000000000000000000000000000"),
    ("observed_content_type", .str "text/plain"),
    ("response_size_bytes", .int 0),
    ("initial_classification", .str "EXTERNAL_UNTRUSTED_CONTENT"),
    ("trust_state", .str "UNTRUSTED"),
    ("history_start_state", .str "NOT_APPLICABLE"),
    ("history_terminal_state", .str state),
    ("admission_state", .str state),
    ("retrieval_visibility", .str visibility),
    ("canonical_or_control_influence_prohibited", .bool true),
    ("admission_predicate", examplePredicate.toVal),
    ("transitions", .list (transitions.map Dict.toVal)),
    ("authority_manifest_fingerprint", .str "0000000000000000000000000000000000000000000000000000000000000000")]

theorem transitionTo_fields (sequence : Nat) (source target event observedAt : String) :
    (transitionTo sequence source target event observedAt).get "sequence" = .int sequence ∧
      (transitionTo sequence source target event observedAt).get "from_state" = .str source ∧
      (transitionTo sequence source target event observedAt).get "to_state" = .str target ∧
      (transitionTo sequence source target event observedAt).get "event" = .str event ∧
      (transitionTo sequence source target event observedAt).get "observed_at" = .str observedAt ∧
      (transitionTo sequence source target event observedAt).get "reason_class" = .str "NONE" := by
  simp [transitionTo, Dict.get_insert, Dict.ofItems]

theorem transitionInstant_transitionTo {sequence : Nat} {source target event observedAt : String} :
    transitionInstant (transitionTo sequence source target event observedAt) =
      (fromisoformat (expandZ observedAt)).bind DateTime.instant? := by
  rw [transitionInstant, (transitionTo_fields sequence source target event observedAt).2.2.2.2.1]

theorem typed_transitionTo (sequence : Nat) (source target event observedAt : String) :
    TypedTransition (transitionTo sequence source target event observedAt).toVal := by
  obtain ⟨hsequence, hsource, htarget, hevent, htime, hreason⟩ := transitionTo_fields sequence source target event observedAt
  have hkeys : (transitionTo sequence source target event observedAt).keysAre transitionFields = true :=
    Dict.keysAre_iff.mpr fun _ => Dict.mem_keys_ofItems
  exact ⟨_, Val.asDict_toVal _, hkeys, ⟨_, hsequence⟩, ⟨_, hsource⟩, ⟨_, htarget⟩, ⟨_, hevent⟩, ⟨_, htime⟩, "NONE", by decide,
    hreason⟩

section

variable [Runtime]

def lifecycleTo (state visibility : String) (transitions : List Dict) : Dict :=
  (fetchedTo state visibility transitions).insert "lifecycle_fingerprint"
    (.str (sha256Json (fetchedTo state visibility transitions).toVal))

variable {state visibility : String} {transitions : List Dict}

theorem get_lifecycleTo {key : String} (h : key ≠ "lifecycle_fingerprint") :
    (lifecycleTo state visibility transitions).get key = (fetchedTo state visibility transitions).get key := by
  rw [lifecycleTo, Dict.get_insert, if_neg h]

theorem lifecycleTo_fields :
    (lifecycleTo state visibility transitions).get "record_type" = .str "PMIRI_D2_FETCHED_CONTENT_LIFECYCLE" ∧
      (lifecycleTo state visibility transitions).get "schema_version" = .str "0.3" ∧
      (lifecycleTo state visibility transitions).get "content_id" = .str "content://example" ∧
      (lifecycleTo state visibility transitions).get "operation" = .str "connector_fetch" ∧
      (lifecycleTo state visibility transitions).get "purpose" = .str "external_fetch" ∧
      (lifecycleTo state visibility transitions).get "origin_binding_ref" = .str "origin://example" ∧
      (lifecycleTo state visibility transitions).get "destination_binding_ref" = .str "binding://example" ∧
      (lifecycleTo state visibility transitions).get "response_fingerprint" =
        .str "0000000000000000000000000000000000000000000000000000000000000000" ∧
      (lifecycleTo state visibility transitions).get "terminal_response_fingerprint" =
        .str "0000000000000000000000000000000000000000000000000000000000000000" ∧
      (lifecycleTo state visibility transitions).get "observed_content_type" = .str "text/plain" ∧
      (lifecycleTo state visibility transitions).get "response_size_bytes" = .int 0 ∧
      (lifecycleTo state visibility transitions).get "initial_classification" = .str "EXTERNAL_UNTRUSTED_CONTENT" ∧
      (lifecycleTo state visibility transitions).get "history_start_state" = .str "NOT_APPLICABLE" ∧
      (lifecycleTo state visibility transitions).get "history_terminal_state" = .str state ∧
      (lifecycleTo state visibility transitions).get "admission_state" = .str state ∧
      (lifecycleTo state visibility transitions).get "retrieval_visibility" = .str visibility ∧
      (lifecycleTo state visibility transitions).get "canonical_or_control_influence_prohibited" = .bool true ∧
      (lifecycleTo state visibility transitions).get "admission_predicate" = examplePredicate.toVal ∧
      (lifecycleTo state visibility transitions).get "transitions" = .list (transitions.map Dict.toVal) ∧
      (lifecycleTo state visibility transitions).get "authority_manifest_fingerprint" =
        .str "0000000000000000000000000000000000000000000000000000000000000000" := by
  simp [get_lifecycleTo, fetchedTo, Dict.get_insert, Dict.ofItems]

theorem mem_keys_lifecycleTo {k : String} :
    k ∈ (lifecycleTo state visibility transitions).keys ↔ k ∈ lifecycleFields ∨ k = "admission_predicate" := by
  have hperm : List.Perm ((lifecycleFields.take 18 ++ "admission_predicate" :: (lifecycleFields.drop 18).take 2) ++
      ["lifecycle_fingerprint"]) (lifecycleFields ++ ["admission_predicate"]) := by
    decide
  rw [lifecycleTo, Dict.mem_keys_insert, fetchedTo, Dict.mem_keys_ofItems, ← List.mem_singleton, ← List.mem_append,
    ← List.mem_singleton (b := "admission_predicate"), ← List.mem_append, ← hperm.mem_iff]
  rfl

/-- Content that was rejected, discarded or aborted, or is in quarantine. -/
theorem lifecycleTo_record (hended : state ∈ "QUARANTINED" :: finalStates) (hseen : visibilityOf (.str state) = .str visibility) :
    LifecycleRecord (lifecycleTo state visibility transitions) := by
  obtain ⟨hrecord, hschema, hcontent, hoperation, hpurpose, horigin, hdestination, hresponse, hterminal, htype, hsize, hclass,
    hstart, hstate, hadmission, hvisibility, hinert, hpredicate, -, hauthority⟩ :=
      @lifecycleTo_fields _ state visibility transitions
  have hzero : isSha256 (.str "0000000000000000000000000000000000000000000000000000000000000000") = true := by decide
  have hknown : ∀ x ∈ "QUARANTINED" :: finalStates, x ∈ LIFECYCLES ∧ x ≠ "NOT_APPLICABLE" ∧ x ≠ "ADMITTED_TYPED_DATA" := by decide
  obtain ⟨hlifecycle, happlicable, hadmitted⟩ := hknown state hended
  refine ⟨fun f hf => Dict.contains_iff.mpr (mem_keys_lifecycleTo.mpr (.inl hf)), fun k hk => ?_, hrecord, hschema, ?_,
    ⟨_, by decide, hoperation⟩, ⟨_, by decide, hpurpose⟩, hstart, ⟨_, hlifecycle, hstate⟩, by rw [hadmission, hstate],
    by rw [hresponse]; exact hzero, by rw [hterminal, hresponse], by rw [hauthority]; exact hzero, by rw [hsize]; rfl,
    by rw [hinert]; rfl, ?_, fun _ => ?_, fun he => ?_⟩
  · rcases mem_keys_lifecycleTo.mp hk with hk | rfl
    · exact List.mem_append_left _ hk
    · decide
  · simp [lifecycleIdentity, hcontent, horigin, hdestination, htype, hclass]
  · rw [SelfFingerprint, lifecycleTo, Dict.get_insert_self, Dict.without_insert]
    rw [fetchedTo, Dict.mem_keys_ofItems]
    simp
  · have hkeys : examplePredicate.keysAre predicateFields = true := Dict.keysAre_iff.mpr fun _ => Dict.mem_keys_ofItems
    have hall : ∀ f ∈ predicateFields, examplePredicate.contains f = true :=
      List.all_eq_true.mp (Bool.and_eq_true_iff.mp hkeys).2
    have hfields : examplePredicate.get "explicit_operation" = .str "connector_fetch" ∧
        examplePredicate.get "origin_bound" = .bool true ∧
        examplePredicate.get "instruction_influence_prohibited" = .bool true ∧
        examplePredicate.get "control_influence_prohibited" = .bool true := by
      simp [examplePredicate, Dict.get_insert, Dict.ofItems]
    have habsent : (lifecycleTo state visibility transitions).contains "typed_data_schema_ref" = false ∧
        (lifecycleTo state visibility transitions).contains "typed_data_fingerprint" = false := by
      constructor <;> rw [← Bool.not_eq_true, Dict.contains_iff, mem_keys_lifecycleTo] <;> decide
    simp only [checkAdmission, hpredicate, Val.asDict_toVal, seq_ok, raiseIf_ok, required_ok, hkeys, hfields, hoperation, hstate,
      hvisibility, hseen, habsent, Val.eq_refl, differs]
    exact ⟨rfl, hall, rfl, rfl, rfl, by simp [hadmitted], by simp⟩
  · rw [hstate] at he
    exact absurd (Val.str.inj he) happlicable

theorem transitionsOf_lifecycleTo : transitionsOf (lifecycleTo state visibility transitions) = transitions := by
  obtain ⟨-, -, -, -, -, -, -, -, -, -, -, -, -, -, -, -, -, -, htransitions, -⟩ := @lifecycleTo_fields _ state visibility transitions
  rw [transitionsOf, htransitions]
  simp [Val.asDict_toVal]

theorem wellTyped_lifecycleTo (h : ∀ t ∈ transitions, TypedTransition t.toVal) :
    WellTyped (lifecycleTo state visibility transitions) := by
  obtain ⟨-, -, -, -, -, -, -, -, -, -, -, -, -, -, -, -, -, -, htransitions, -⟩ := @lifecycleTo_fields _ state visibility transitions
  exact ⟨_, htransitions, List.forall_mem_map.mpr h⟩

end

/-! Content in quarantine. -/

def exampleTransition : Dict :=
  transitionTo 0 "NOT_APPLICABLE" "QUARANTINED" "FETCH_COMPLETED" "2026-01-01T00:00:00Z"

section

variable [Runtime]

/-- A lifecycle record of a fetch whose content is in quarantine. -/
abbrev exampleLifecycle : Dict := lifecycleTo "QUARANTINED" "QUARANTINE_ONLY" [exampleTransition]

theorem exampleLifecycle_history : LegalHistory exampleLifecycle := by
  obtain ⟨hsequence, hfrom, hto, hevent, -⟩ :=
    transitionTo_fields 0 "NOT_APPLICABLE" "QUARANTINED" "FETCH_COMPLETED" "2026-01-01T00:00:00Z"
  obtain ⟨-, -, -, -, -, -, -, -, -, -, -, -, -, hstate, -⟩ :=
    @lifecycleTo_fields _ "QUARANTINED" "QUARANTINE_ONLY" [exampleTransition]
  have hlegal : LEGAL_TRANSITIONS.lookup ("NOT_APPLICABLE", "QUARANTINED") = some "FETCH_COMPLETED" := by decide
  have hinstant : transitionInstant exampleTransition = some 63902822400000000 := by
    rw [exampleTransition, transitionInstant_transitionTo]
    decide +kernel
  refine ⟨?_, ⟨_, hstate, ?_⟩, ?_, ?_, ?_⟩
  all_goals rw [transitionsOf_lifecycleTo]
  · intro i t ht
    cases i with
    | zero =>
      obtain rfl := Option.some.inj ht
      exact hsequence
    | succ i => simp at ht
  · exact .cons hlegal hfrom hto hevent (.nil _)
  · intro t ht
    rw [List.mem_singleton.mp ht, hinstant]
    rfl
  · rw [List.filterMap_cons_some hinstant]
    exact List.IsChain.singleton _
  · simp [hstate]

theorem exampleLifecycle_valid : Lifecycle exampleLifecycle := by
  have hrecord : LifecycleRecord exampleLifecycle := lifecycleTo_record (by decide) rfl
  have htyped : WellTyped exampleLifecycle := wellTyped_lifecycleTo fun t ht => by
    rw [List.mem_singleton.mp ht]
    exact typed_transitionTo ..
  exact ⟨hrecord, (checkHistory_ok hrecord.terminal htyped).mpr exampleLifecycle_history⟩

end

/-! Content that is admitted out of quarantine, and discarded. -/

def discardedTransitions : List Dict := [
  transitionTo 0 "NOT_APPLICABLE" "QUARANTINED" "FETCH_COMPLETED" "2026-01-01T00:00:00Z",
  transitionTo 1 "QUARANTINED" "ADMITTED_TYPED_DATA" "ADMISSION_APPROVED" "2026-01-01T00:00:30Z",
  transitionTo 2 "ADMITTED_TYPED_DATA" "DISCARDED" "DISCARDED" "2026-01-01T00:00:30Z"]

theorem discardedTransitions_instants :
    discardedTransitions.map transitionInstant = [some 63902822400000000, some 63902822430000000, some 63902822430000000] := by
  simp only [discardedTransitions, List.map_cons, List.map_nil, transitionInstant_transitionTo]
  decide +kernel

theorem discarded_history [Runtime] : LegalHistory (lifecycleTo "DISCARDED" "NONE" discardedTransitions) := by
  obtain ⟨-, -, -, -, -, -, -, -, -, -, -, -, -, hstate, -⟩ := @lifecycleTo_fields _ "DISCARDED" "NONE" discardedTransitions
  have hinstants := discardedTransitions_instants
  refine ⟨?_, ⟨_, hstate, ?_⟩, ?_, ?_, ?_⟩
  all_goals rw [transitionsOf_lifecycleTo]
  · intro i t ht
    have hi : i < 3 := (List.getElem?_eq_some_iff.mp ht).1
    obtain rfl | rfl | rfl : i = 0 ∨ i = 1 ∨ i = 2 := by omega
    all_goals
      obtain rfl := Option.some.inj ht
      exact (transitionTo_fields ..).1
  · have edge (n : Nat) (s s' e o : String) := transitionTo_fields n s s' e o
    refine .cons (by decide) (edge ..).2.1 (edge ..).2.2.1 (edge ..).2.2.2.1 ?_
    refine .cons (by decide) (edge ..).2.1 (edge ..).2.2.1 (edge ..).2.2.2.1 ?_
    exact .cons (by decide) (edge ..).2.1 (edge ..).2.2.1 (edge ..).2.2.2.1 (.nil _)
  · intro t ht
    have hmem := List.mem_map_of_mem (f := transitionInstant) ht
    rw [hinstants] at hmem
    simp only [List.mem_cons, List.not_mem_nil, or_false] at hmem
    rcases hmem with h | h | h <;> rw [h] <;> rfl
  · rw [← Function.id_comp transitionInstant, ← List.filterMap_map, hinstants]
    decide
  · rw [hstate]
    exact iff_of_false (List.cons_ne_nil _ _) (by simp)

theorem validateLifecycle_iff_legal_example :
    letI := asciiRuntime
    validateLifecycle (lifecycleTo "DISCARDED" "NONE" discardedTransitions) = .ok () ∧
      ∀ (i : Nat) (t : Dict), discardedTransitions[i]? = some t → (∃ x ∈ finalStates, t.get "to_state" = .str x) →
        i + 1 = discardedTransitions.length := by
  let := asciiRuntime
  have htyped : WellTyped (lifecycleTo "DISCARDED" "NONE" discardedTransitions) := wellTyped_lifecycleTo fun t ht => by
    simp only [discardedTransitions, List.mem_cons, List.not_mem_nil, or_false] at ht
    rcases ht with rfl | rfl | rfl <;> exact typed_transitionTo ..
  obtain ⟨hiff, hlast⟩ := validateLifecycle_iff_legal (lifecycleTo_record (by decide) rfl) htyped
  have hvalid := hiff.mpr discarded_history
  rw [transitionsOf_lifecycleTo] at hlast
  exact ⟨hvalid, hlast hvalid⟩

end Pmiri
