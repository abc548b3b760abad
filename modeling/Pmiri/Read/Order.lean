import Pmiri.Read.Context
import Pmiri.Store.Currency

/-!
# The order of registrations

Registrations can be made in any order exactly if those of one version agree
on what is kept of it. A version that is registered again with another capture
time or other metadata keeps what came first.
-/

namespace Pmiri

open Py

section

variable [Runtime]

/-- Two stores list the same, have the same canonical fingerprint, and answer
every query alike. -/
structure AnswerAlike {σ : Type} [SourceStore σ] (canonicalFingerprint : σ → Except Exc String) (s s' : σ) : Prop where
  listed : ∀ project includeHistory,
    SourceStore.listSources s project includeHistory = SourceStore.listSources s' project includeHistory
  fingerprint : canonicalFingerprint s = canonicalFingerprint s'
  answered : ∀ compiler request,
    (LocalEvidenceRuntime.mk s compiler).query request = (LocalEvidenceRuntime.mk s' compiler).query request

theorem AnswerAlike.of_listed {σ : Type} [SourceStore σ] {canonicalFingerprint : σ → Except Exc String} {s s' : σ}
    (hlisted : ∀ project includeHistory,
      SourceStore.listSources s project includeHistory = SourceStore.listSources s' project includeHistory)
    (hfingerprint : canonicalFingerprint s = canonicalFingerprint s') : AnswerAlike canonicalFingerprint s s' :=
  ⟨hlisted, hfingerprint, fun _ _ => LocalEvidenceRuntime.query_congr rfl (hlisted _ _)⟩

namespace Catalog

omit [Runtime] in
/-- If every order of the calls lists the same, the records agree: each of them
is what is kept of its version in an order in which it comes first. -/
theorem agree_of_perm {record : RegisterCall → Option SourceRecord} {calls : List RegisterCall}
    (h : ∀ calls', calls.Perm calls' →
      sources (calls.filterMap record) none true = sources (calls'.filterMap record) none true) :
    Agree (calls.filterMap record) := by
  have hmem : ∀ r ∈ calls.filterMap record,
      { r with toSourceEntry := r.toSourceEntry.stored } ∈ sources (calls.filterMap record) none true := by
    intro r hr
    obtain ⟨c, hc, hrecord⟩ := List.mem_filterMap.mp hr
    obtain ⟨before, later, rfl⟩ := List.append_of_mem hc
    rw [h _ List.perm_middle, List.filterMap_cons, hrecord]
    exact mem_sources_cons r _
  exact ⟨fun a ha b hb => (sources_unique (hmem a ha) (hmem b hb)).1, fun a ha b hb => (sources_unique (hmem a ha) (hmem b hb)).2⟩

end Catalog

/-! ## Local stores -/

namespace LocalStore

theorem answerAlike_iff (calls : List RegisterCall) :
    (∀ calls', calls.Perm calls' → AnswerAlike canonicalFingerprint (after calls) (after calls')) ↔
      Catalog.Agree (accepted calls) := by
  have hlist : ∀ calls project includeHistory,
      (after calls).listSources project includeHistory = .ok (Catalog.sources (accepted calls) project includeHistory) :=
    fun calls => (holds_after calls).listSources
  constructor
  · intro h
    refine Catalog.agree_of_perm fun calls' hperm => ?_
    have hlisted : (after calls).listSources none true = (after calls').listSources none true := (h calls' hperm).listed none true
    rw [hlist, hlist] at hlisted
    exact Except.ok.inj hlisted
  · intro h calls' hperm
    have hrecs : (accepted calls).Perm (accepted calls') := hperm.filterMap _
    refine .of_listed (fun project includeHistory => ?_) ?_
    · rw [show SourceStore.listSources (after calls) project includeHistory = _ from hlist ..,
        Catalog.sources_perm h hrecs, ← hlist]
      rfl
    · rw [(holds_after calls).canonicalFingerprint, (holds_after calls').canonicalFingerprint,
        Catalog.fingerprint_perm h hrecs]

end LocalStore

/-! ## SQLite stores -/

namespace SQLiteStore

/-- The call comes as far as to connect to the database. -/
def connects (c : RegisterCall) : Bool :=
  match c.checked with
  | .ok record => isStringMap record.metadata
  | .error _ => false

omit [Runtime] in
theorem connected_connected (d : Database) : d.connected.connected = d.connected := by
  cases d <;> rfl

theorem step_of_refused {s : SQLiteStore} {recs : List SourceRecord} (h : s.Holds recs) {c : RegisterCall}
    (hc : (outcome s.blobCipher c).toOption = none) :
    s.step c = { s with database := if connects c then s.database.connected else s.database } := by
  obtain ⟨blobs, hschema, -⟩ := h.ensureSchema
  rcases hr : c.checked with e | r
  · simp only [step, registerBytes, hr, connects, Bool.false_eq_true, ↓reduceIte]
  cases hs : isStringMap r.metadata with
  | false => simp only [step, registerBytes, hr, hs, connects, Bool.not_false, Bool.false_eq_true, ↓reduceIte]
  | true =>
    rcases he : encrypted s.blobCipher r.contentFingerprint r.content.toUTF8 with e | stored
    · simp only [step, registerBytes, hr, hs, hschema, he, connects, Bool.not_true, Bool.false_eq_true, ↓reduceIte]
    · simp only [outcome, hr, ok_bind, hs, Bool.not_true, raiseIf, Bool.false_eq_true, ↓reduceIte, he, pure, Except.pure,
        Except.toOption, reduceCtorEq] at hc

/-- Where no call is accepted, a run leaves nothing but the file. -/
theorem run_of_refused {s : SQLiteStore} {recs : List SourceRecord} (h : s.Holds recs) {calls : List RegisterCall}
    (hc : ∀ c ∈ calls, (outcome s.blobCipher c).toOption = none) :
    Machine.run step s calls = { s with database := if calls.any connects then s.database.connected else s.database } := by
  induction calls generalizing s with
  | nil => rfl
  | cons c calls ih =>
    rw [List.forall_mem_cons] at hc
    have hstep := step_of_refused h hc.1
    have hholds := (h.step c).1
    rw [hc.1, Option.toList_none, List.append_nil, hstep] at hholds
    rw [Machine.run_cons, hstep, ih hholds hc.2, List.any_cons]
    cases connects c <;> cases calls.any connects <;> simp [connected_connected]

theorem after_perm_of_refused {cipher : Option BlobCipher} {calls calls' : List RegisterCall} (hperm : calls.Perm calls')
    (h : accepted cipher calls = []) : after cipher calls = after cipher calls' := by
  have hc : ∀ c ∈ calls, (outcome cipher c).toOption = none := List.filterMap_eq_nil_iff.mp h
  rw [after, after, run_of_refused (holds_fresh cipher) hc,
    run_of_refused (holds_fresh cipher) fun c hc' => hc c (hperm.mem_iff.mpr hc'), hperm.any_eq]

theorem answerAlike_iff (cipher : Option BlobCipher) (calls : List RegisterCall) :
    (∀ calls', calls.Perm calls' → AnswerAlike canonicalFingerprint (after cipher calls) (after cipher calls')) ↔
      Catalog.Agree (accepted cipher calls) := by
  by_cases hne : accepted cipher calls = []
  · refine iff_of_true (fun calls' hperm => ?_) ?_
    · rw [after_perm_of_refused hperm hne]
      exact .of_listed (fun _ _ => rfl) rfl
    · rw [hne]
      exact ⟨by simp, by simp⟩
  have hreadable : ∀ {calls'}, calls.Perm calls' → (after cipher calls').Readable := fun hperm =>
    (holds_after cipher _).readable fun h => hne (List.Perm.eq_nil (h ▸ hperm.filterMap _))
  have hself := hreadable (List.Perm.refl calls)
  constructor
  · intro h
    refine Catalog.agree_of_perm fun calls' hperm => ?_
    have hlisted : (after cipher calls).listSources none true = (after cipher calls').listSources none true :=
      (h calls' hperm).listed none true
    rw [(holds_after cipher calls).listSources hself, (holds_after cipher calls').listSources (hreadable hperm)] at hlisted
    exact Except.ok.inj hlisted
  · intro h calls' hperm
    have hrecs : (accepted cipher calls).Perm (accepted cipher calls') := hperm.filterMap _
    refine .of_listed (fun project includeHistory => ?_) ?_
    · rw [show SourceStore.listSources (after cipher calls) project includeHistory = _ from
          (holds_after cipher calls).listSources hself ..,
        Catalog.sources_perm h hrecs, ← (holds_after cipher calls').listSources (hreadable hperm)]
      rfl
    · rw [(holds_after cipher calls).canonicalFingerprint hself,
        (holds_after cipher calls').canonicalFingerprint (hreadable hperm), Catalog.fingerprint_perm h hrecs]

end SQLiteStore

/-- The order of registrations does not matter, on either store, exactly if
the accepted ones agree on what is kept of each version. -/
theorem registration_order_iff (calls : List RegisterCall) :
    ((∀ calls', calls.Perm calls' →
        AnswerAlike LocalStore.canonicalFingerprint (LocalStore.after calls) (LocalStore.after calls')) ↔
      Catalog.Agree (LocalStore.accepted calls)) ∧
    ∀ cipher, (∀ calls', calls.Perm calls' →
        AnswerAlike SQLiteStore.canonicalFingerprint (SQLiteStore.after cipher calls) (SQLiteStore.after cipher calls')) ↔
      Catalog.Agree (SQLiteStore.accepted cipher calls) :=
  ⟨LocalStore.answerAlike_iff calls, fun cipher => SQLiteStore.answerAlike_iff cipher calls⟩

end

/-- Of one content with two capture times a local store keeps the one that
comes first. -/
theorem order_matters :
    letI := asciiRuntime
    let first := exampleRegistration "A" "2026-01-01T00:00:00Z"
    let second := exampleRegistration "A" "2026-01-02T00:00:00Z"
    [first, second].Perm [second, first] ∧
      (LocalStore.after [first, second]).listSources none true ≠ (LocalStore.after [second, first]).listSources none true := by
  let := asciiRuntime
  have haccepted : ∀ t t' : String, LocalStore.accepted [exampleRegistration "A" t, exampleRegistration "A" t'] =
      [(exampleRegistration "A" t).record "A", (exampleRegistration "A" t').record "A"] := by
    intro t t'
    simp only [LocalStore.accepted, List.filterMap_cons, List.filterMap_nil,
      exampleCall_checked (show '\r' ∉ "A".toList by decide), Except.toOption]
  have hlist : ∀ t t' : String, (LocalStore.after [exampleRegistration "A" t, exampleRegistration "A" t']).listSources none true =
      .ok (Catalog.sources [(exampleRegistration "A" t).record "A", (exampleRegistration "A" t').record "A"] none true) := by
    intro t t'
    rw [(LocalStore.holds_after _).listSources, haccepted]
  refine ⟨List.Perm.swap .., fun h => ?_⟩
  rw [hlist, hlist] at h
  have hfirst := Catalog.mem_sources_cons ((exampleRegistration "A" "2026-01-01T00:00:00Z").record "A")
    [(exampleRegistration "A" "2026-01-02T00:00:00Z").record "A"]
  have hsecond := Catalog.mem_sources_cons ((exampleRegistration "A" "2026-01-02T00:00:00Z").record "A")
    [(exampleRegistration "A" "2026-01-01T00:00:00Z").record "A"]
  rw [Except.ok.inj h] at hfirst
  have htime := congrArg (fun e => e.captureTime) ((Catalog.sources_unique hfirst hsecond).1 rfl)
  exact absurd htime (by decide)

end Pmiri
