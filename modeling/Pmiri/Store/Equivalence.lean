import Pmiri.Store.Currency

/-!
# The two stores

A local store and a SQLite store that are given the same registrations hold
the same catalog, and answer alike.
-/

namespace Pmiri

open Py

variable [Runtime]

/-- The metadata of a call are strings. -/
def RegisterCall.StringMetadata (c : RegisterCall) : Prop := isStringMap (c.metadata.getD .empty) = true

/-- A cipher whose encryption does not raise, or no cipher. -/
def NeverFails (cipher : Option BlobCipher) : Prop :=
  ∀ fingerprint content, ∃ stored, encrypted cipher fingerprint content = .ok stored

/-- On string metadata and with such a cipher a call is accepted as on a local
store. -/
theorem SQLiteStore.outcome_eq_checked {cipher : Option BlobCipher} (hc : NeverFails cipher) {c : RegisterCall}
    (hm : c.StringMetadata) : outcome cipher c = c.checked := by
  rcases hr : c.checked with e | r
  · simp only [outcome, hr, bind, Except.bind]
  · obtain ⟨-, content, -, rfl⟩ := RegisterCall.checked_ok.mp hr
    have hstrings : isStringMap (c.record content).metadata = true := hm
    obtain ⟨stored, hs⟩ := hc (c.record content).contentFingerprint (c.record content).content.toUTF8
    simp only [outcome, hr, ok_bind, hstrings, Bool.not_true, raiseIf, Bool.false_eq_true, ↓reduceIte, hs]
    rfl

theorem SQLiteStore.accepted_eq {cipher : Option BlobCipher} (hc : NeverFails cipher) {calls : List RegisterCall}
    (hm : ∀ c ∈ calls, c.StringMetadata) : accepted cipher calls = LocalStore.accepted calls :=
  List.filterMap_congr fun c hcall => by rw [outcome_eq_checked hc (hm c hcall)]

/-- After the same registrations the stores answer alike, and they answered
every registration alike. -/
theorem stores_agree {cipher : Option BlobCipher} (hc : NeverFails cipher) {calls : List RegisterCall}
    (hm : ∀ c ∈ calls, c.StringMetadata) :
    (∀ project includeHistory, (LocalStore.after calls).listSources project includeHistory =
      (SQLiteStore.after cipher calls).listSources project includeHistory) ∧
    (∀ sourceId versionId, (LocalStore.after calls).getSource sourceId versionId =
      (SQLiteStore.after cipher calls).getSource sourceId versionId) ∧
    (LocalStore.after calls).canonicalFingerprint = (SQLiteStore.after cipher calls).canonicalFingerprint ∧
    ∀ before c later, calls = before ++ c :: later →
      ((LocalStore.after before).registerBytes c).1 = ((SQLiteStore.after cipher before).registerBytes c).1 := by
  have hlocal := LocalStore.holds_after calls
  have hsqlite := SQLiteStore.holds_after cipher calls
  rw [SQLiteStore.accepted_eq hc hm] at hsqlite
  have hreadable : (SQLiteStore.after cipher calls).Readable := by
    refine SQLiteStore.readable_run (SQLiteStore.holds_fresh cipher) Database.noConfusion (fun f b e he => ?_) calls
    obtain ⟨stored, hs⟩ := hc f b
    rw [hs] at he
    cases he
  have hlist : ∀ project includeHistory, (LocalStore.after calls).listSources project includeHistory =
      (SQLiteStore.after cipher calls).listSources project includeHistory := fun project includeHistory =>
    (hlocal.listSources project includeHistory).trans (hsqlite.listSources hreadable project includeHistory).symm
  refine ⟨hlist, fun sourceId versionId => ?_, ?_, ?_⟩
  · rw [LocalStore.getSource, SQLiteStore.getSource, hlist]
  · rw [hlocal.canonicalFingerprint, hsqlite.canonicalFingerprint hreadable]
  · rintro before c later rfl
    have hcipher : (SQLiteStore.after cipher before).blobCipher = cipher := ((SQLiteStore.holds_fresh cipher).run before).2
    rw [(LocalStore.holds_after before).registerBytes_fst c, (SQLiteStore.holds_after cipher before).registerBytes_fst c,
      hcipher, SQLiteStore.outcome_eq_checked hc (hm c (by simp))]

omit [Runtime] in
theorem stores_agree_example :
    letI := asciiRuntime
    (LocalStore.after exampleReturnCalls).canonicalFingerprint =
      (SQLiteStore.after none exampleReturnCalls).canonicalFingerprint := by
  let := asciiRuntime
  refine (stores_agree (fun _ content => ⟨content, rfl⟩) (fun c hc => ?_)).2.2.1
  rcases List.mem_cons.mp hc with rfl | hc
  · rfl
  rcases List.mem_cons.mp hc with rfl | hc
  · rfl
  obtain rfl := List.mem_singleton.mp hc
  rfl

end Pmiri
