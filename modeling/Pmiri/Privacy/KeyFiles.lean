import Pmiri.Privacy.Traces
import Pmiri.Runs

/-!
# Key files

`DpapiKeyProvider.get_key` of several threads and processes on one directory.
A call works under the lock of its key file; what it finds there it opens, and
if there is none it makes a key and puts its record in place in one step. A
process may stop at any point; the system then takes its lock from it. A call
whose release of the lock raises does not close the file either, and its
process keeps the lock; one whose file cannot be closed has given the lock back.
-/

namespace Pmiri

open Py

/-- The data protection of the system: `CryptProtectData`, which chooses a salt, and `CryptUnprotectData`; `none` where
they fail. -/
class Dpapi where
  available : Bool
  protect : (salt plaintext entropy : ByteArray) → Option ByteArray
  unprotect : (ciphertext entropy : ByteArray) → Option ByteArray
  unprotect_protect : ∀ {salt plaintext entropy ciphertext : ByteArray},
    protect salt plaintext entropy = some ciphertext → unprotect ciphertext entropy = some plaintext

/-- `secrets.token_bytes(32)` -/
structure Key where
  bytes : ByteArray
  size : bytes.size = 32

/-- A key file, or what reading and `json.loads` raise for it. -/
inductive KeyFile where
  | unreadable (e : Exc)
  | holds (v : Val)

namespace TraceError

/-- The `except` clause of `get_key`. -/
def onKeyRecord : TraceError → TraceError
  | .permissionError _ => .keyManagementError "key_record_invalid"
  | .keyManagementError msg => .keyManagementError msg
  | .raised e =>
    match e with
    | .osError _ | .valueError .. | .keyError _ | .typeError _ => .keyManagementError "key_record_invalid"
    | _ => .raised e

end TraceError

namespace DpapiKeyProvider

/-! ## Records -/

section

variable [Runtime] [Dpapi]

omit [Dpapi] in
/-- `_entropy` -/
def entropy (domainId : String) : ByteArray :=
  (sha256Json (Dict.ofItems [("pmiri_key_domain", .str domainId)]).toVal).toUTF8

omit [Runtime] in
/-- `_protect` -/
def protect (salt plaintext entropy : ByteArray) : Except TraceError ByteArray :=
  if !Dpapi.available then .error (.keyManagementError "dpapi_unavailable")
  else
    match Dpapi.protect salt plaintext entropy with
    | none => .error (.keyManagementError "dpapi_protect_failed")
    | some ciphertext => .ok ciphertext

omit [Runtime] in
/-- `_unprotect` -/
def unprotect (ciphertext entropy : ByteArray) : Except TraceError ByteArray :=
  if !Dpapi.available then .error (.keyManagementError "dpapi_unavailable")
  else
    match Dpapi.unprotect ciphertext entropy with
    | none => .error (.keyManagementError "dpapi_unprotect_failed")
    | some plaintext => .ok plaintext

omit [Dpapi] in
/-- The record of a key. -/
def keyRecord (domainId : String) (ciphertext : ByteArray) : Dict :=
  .ofItems [
    ("version", .str "0.1"),
    ("domain_id", .str domainId),
    ("scope", .str "CURRENT_USER"),
    ("algorithm", .str "DPAPI_USER_SCOPE"),
    ("protected_key", .str (Py.b64encode ciphertext)),
    ("ciphertext_sha256", .str (sha256Bytes ciphertext))]

/-- The checks of `get_key` on a record, and the key that it protects. -/
def openKeyRecord (record : Dict) (domainId : String) : Except TraceError ByteArray := do
  raiseTraceIf (differs record "version" "0.1" || differs record "domain_id" domainId ||
      differs record "scope" "CURRENT_USER" || differs record "algorithm" "DPAPI_USER_SCOPE" ||
      !isSha256 (record.get "ciphertext_sha256"))
    (.keyManagementError "key_record_invalid")
  let ciphertext ← raising (decodedField record "protected_key")
  raiseTraceIf (differs record "ciphertext_sha256" (sha256Bytes ciphertext))
    (.keyManagementError "key_record_fingerprint_mismatch")
  unprotect ciphertext (entropy domainId)

/-- The body of the `try` of `get_key`. -/
def openKeyFile (file : KeyFile) (domainId : String) : Except TraceError ByteArray :=
  match file with
  | .unreadable e => .error (.raised e)
  | .holds v =>
    match v.asDict with
    | none => .error (.raised (.attributeError "object has no attribute 'get'"))
    | some record => openKeyRecord record domainId

/-- `get_key` where the key file exists. -/
def readKey (file : KeyFile) (domainId : String) : Except TraceError ByteArray :=
  match openKeyFile file domainId with
  | .error e => .error e.onKeyRecord
  | .ok key => if key.size = 32 then .ok key else .error (.keyManagementError "key_length_invalid")

omit [Dpapi] in
/-- The file that the record of a key is written to. -/
def keyFile (domainId : String) (ciphertext : ByteArray) : KeyFile := .holds (keyRecord domainId ciphertext).sortKeys.toVal

omit [Runtime] in
theorem unprotect_of_protect {salt plaintext entropy ciphertext : ByteArray}
    (h : protect salt plaintext entropy = .ok ciphertext) : unprotect ciphertext entropy = .ok plaintext := by
  rw [protect] at h
  split at h
  · cases h
  · rename_i havailable
    split at h
    · cases h
    · rename_i c hc
      obtain rfl := Except.ok.inj h
      rw [unprotect, if_neg havailable, Dpapi.unprotect_protect hc]

omit [Dpapi] in
theorem get_keyRecord (domainId : String) (ciphertext : ByteArray) {field s : String}
    (h : (keyRecord domainId ciphertext).get field = .str s) : (keyRecord domainId ciphertext).sortKeys.get field = .str s := by
  rw [Dict.get_sortKeys, h, Val.sortKeys]

theorem openKeyRecord_keyRecord {plaintext salt ciphertext : ByteArray} {domainId : String}
    (h : protect salt plaintext (entropy domainId) = .ok ciphertext) :
    openKeyRecord (keyRecord domainId ciphertext).sortKeys domainId = .ok plaintext := by
  have hfields {field s : String} := @get_keyRecord _ domainId ciphertext field s
  generalize (keyRecord domainId ciphertext).sortKeys = record at hfields
  have hversion : record.get "version" = .str "0.1" := hfields (by simp [keyRecord, Dict.ofItems, Dict.get_insert])
  have hdomain : record.get "domain_id" = .str domainId := hfields (by simp [keyRecord, Dict.ofItems, Dict.get_insert])
  have hscope : record.get "scope" = .str "CURRENT_USER" := hfields (by simp [keyRecord, Dict.ofItems, Dict.get_insert])
  have halgorithm : record.get "algorithm" = .str "DPAPI_USER_SCOPE" :=
    hfields (by simp [keyRecord, Dict.ofItems, Dict.get_insert])
  have hprotected : record.get "protected_key" = .str (Py.b64encode ciphertext) :=
    hfields (by simp [keyRecord, Dict.ofItems, Dict.get_insert])
  have hfingerprint : record.get "ciphertext_sha256" = .str (sha256Bytes ciphertext) :=
    hfields (by simp [keyRecord, Dict.ofItems])
  have hdecoded : decodedField record "protected_key" = .ok ciphertext := by
    simp only [decodedField, Dict.item_of_contains (Dict.contains_of_str hprotected), hprotected, ok_bind, b64decode_b64encode]
  simp only [openKeyRecord, differs_false.mpr hversion, differs_false.mpr hdomain, differs_false.mpr hscope,
    differs_false.mpr halgorithm, hfingerprint, isSha256_sha256Bytes, hdecoded, differs_false.mpr hfingerprint, raising,
    raiseTraceIf, Bool.or_self, Bool.not_true, Bool.false_eq_true, ↓reduceIte, ok_bind, unprotect_of_protect h]

/-- The key is read back from its record. -/
theorem readKey_keyFile {key : Key} {salt ciphertext : ByteArray} {domainId : String}
    (h : protect salt key.bytes (entropy domainId) = .ok ciphertext) :
    readKey (keyFile domainId ciphertext) domainId = .ok key.bytes := by
  simp only [readKey, openKeyFile, keyFile, Val.asDict_toVal, openKeyRecord_keyRecord h, key.size, ↓reduceIte]

theorem size_of_readKey {file : KeyFile} {domainId : String} {key : ByteArray} (h : readKey file domainId = .ok key) :
    key.size = 32 := by
  rw [readKey] at h
  split at h
  · cases h
  · split at h
    · rename_i hsize
      exact Except.ok.inj h ▸ hsize
    · cases h

end

/-! ## Processes -/

/-- How far a call is that has its path. -/
inductive Phase
  | entered
  | locked
  | found
  | made (key : Key) (ciphertext : ByteArray)
  | finished (result : Except TraceError ByteArray)
  | returned (result : Except TraceError ByteArray)
  /-- The release of the lock raised: the call is over, and the lock is still there. -/
  | stranded (msg : String)
  | crashed

/-- The call has the lock of its key file. -/
def Phase.Critical : Phase → Prop
  | .locked | .found | .made .. | .finished _ | .stranded _ => True
  | .entered | .returned _ | .crashed => False

/-- The call is between taking the lock and giving it back. -/
def Phase.Working : Phase → Prop
  | .locked | .found | .made .. | .finished _ => True
  | .entered | .returned _ | .stranded _ | .crashed => False

/-- How many steps a call still has in its critical section. -/
def Phase.rank : Phase → Nat
  | .locked => 3
  | .found | .made .. => 2
  | .finished _ => 1
  | .entered | .returned _ | .stranded _ | .crashed => 0

/-- What the call returns or raises, once that is known. -/
def Phase.result? : Phase → Option (Except TraceError ByteArray)
  | .finished result | .returned result => some result
  | .stranded msg => some (.error (.raised (.osError msg)))
  | .entered | .locked | .found | .made .. | .crashed => none

/-- A call of `get_key` with a domain that has a path. -/
structure KeyCall [Runtime] [CharacterCases] where
  provider : DpapiKeyProvider
  domainId : String
  path : String
  located : provider.path domainId = .ok path
  phase : Phase := .entered

/-- The key files, who has the lock of each, and the calls. -/
structure KeyProcesses [Runtime] [CharacterCases] where
  files : String → Option KeyFile
  holder : String → Option Nat := fun _ => none
  calls : List KeyCall := []

/-- `get_key` is called, a call takes its next step, its next step raises an `OSError`, the closing of the lock file raises
one when the lock is given back, or its process stops. -/
inductive KeyOp
  | call (provider : DpapiKeyProvider) (domainId : String)
  | proceed (n : Nat) (key : Key) (salt : ByteArray)
  | fail (n : Nat) (msg : String)
  | failClose (n : Nat) (msg : String)
  | crash (n : Nat)

namespace KeyProcesses

variable [Runtime] [CharacterCases]

/-- The call goes on with a phase. -/
def become (s : KeyProcesses) (n : Nat) (c : KeyCall) (phase : Phase) : KeyProcesses :=
  { s with calls := s.calls.set n { c with phase := phase } }

/-- The next step of a call; the key and the salt are what it gets if it asks for them. -/
def proceed [Dpapi] (s : KeyProcesses) (n : Nat) (c : KeyCall) (key : Key) (salt : ByteArray) : KeyProcesses :=
  match c.phase with
  | .entered =>
    if (s.holder c.path).isSome then s
    else { s with holder := Function.update s.holder c.path (some n) }.become n c .locked
  | .locked => s.become n c (
      if (s.files c.path).isSome then .found
      else
        match protect salt key.bytes (entropy c.domainId) with
        | .error e => .finished (.error e)
        | .ok ciphertext => .made key ciphertext)
  | .found => s.become n c (.finished (
      match s.files c.path with
      | none => .error (.keyManagementError "key_record_invalid")
      | some file => readKey file c.domainId))
  | .made key ciphertext =>
    { s with files := Function.update s.files c.path (some (keyFile c.domainId ciphertext)) }.become n c
      (.finished (.ok key.bytes))
  | .finished result => { s with holder := Function.update s.holder c.path none }.become n c (.returned result)
  | .returned _ | .stranded _ | .crashed => s

/-- An `OSError` is raised instead of the next step. -/
def fail (s : KeyProcesses) (n : Nat) (c : KeyCall) (msg : String) : KeyProcesses :=
  match c.phase with
  | .entered => s.become n c (.returned (.error (.raised (.osError msg))))
  | .locked | .made .. => s.become n c (.finished (.error (.raised (.osError msg))))
  | .found => s.become n c (.finished (.error (.keyManagementError "key_record_invalid")))
  | .finished _ => s.become n c (.stranded msg)
  | .returned _ | .stranded _ | .crashed => s

/-- The lock is given back, and `os.close` raises an `OSError`: what the call had to return is lost. -/
def failClose (s : KeyProcesses) (n : Nat) (c : KeyCall) (msg : String) : KeyProcesses :=
  match c.phase with
  | .finished _ =>
    { s with holder := Function.update s.holder c.path none }.become n c (.returned (.error (.raised (.osError msg))))
  | _ => s

/-- The process of the call stops. -/
def crash (s : KeyProcesses) (n : Nat) (c : KeyCall) : KeyProcesses :=
  { s with holder := if s.holder c.path = some n then Function.update s.holder c.path none else s.holder }.become n c .crashed

def step [Dpapi] (s : KeyProcesses) : KeyOp → KeyProcesses
  | .call provider domainId =>
    match h : provider.path domainId with
    | .error _ => s
    | .ok path => { s with calls := s.calls ++ [⟨provider, domainId, path, h, .entered⟩] }
  | .proceed n key salt => (s.calls[n]?).elim s fun c => s.proceed n c key salt
  | .fail n msg => (s.calls[n]?).elim s fun c => s.fail n c msg
  | .failClose n msg => (s.calls[n]?).elim s fun c => s.failClose n c msg
  | .crash n => (s.calls[n]?).elim s fun c => s.crash n c

/-! ## What every state has -/

variable [Dpapi]

structure Sound (s : KeyProcesses) : Prop where
  holds : ∀ (n : Nat) (c : KeyCall), s.calls[n]? = some c → c.phase.Critical → s.holder c.path = some n
  owned : ∀ (path : String) (n : Nat), s.holder path = some n → ∃ c : KeyCall, s.calls[n]? = some c ∧ c.path = path ∧ c.phase.Critical
  made : ∀ (n : Nat) (c : KeyCall) (key : Key) (ciphertext : ByteArray), s.calls[n]? = some c → c.phase = .made key ciphertext →
    s.files c.path = none ∧ readKey (keyFile c.domainId ciphertext) c.domainId = .ok key.bytes
  served : ∀ (n : Nat) (c : KeyCall) (key : ByteArray), s.calls[n]? = some c → c.phase.result? = some (.ok key) →
    ∃ file, s.files c.path = some file ∧ readKey file c.domainId = .ok key

/-- What a call in a phase does to the lock: a critical phase has it, any other has given it up. -/
structure Hands (s : KeyProcesses) (n : Nat) (c : KeyCall) (phase : Phase) (holder : String → Option Nat) : Prop where
  other : ∀ path, path ≠ c.path → holder path = s.holder path
  free : phase.Critical → c.phase.Critical ∨ s.holder c.path = none
  taken : phase.Critical → holder c.path = some n
  given : ¬ phase.Critical → holder c.path = if s.holder c.path = some n then none else s.holder c.path

/-- The key file is made at most once. -/
def Fills (s : KeyProcesses) (c : KeyCall) (files : String → Option KeyFile) : Prop :=
  files = s.files ∨ ∃ file, s.files c.path = none ∧ c.phase.Critical ∧ files = Function.update s.files c.path (some file)

omit [Dpapi] in
theorem calls_become {s : KeyProcesses} {n : Nat} {c : KeyCall} (hn : s.calls[n]? = some c) (phase : Phase) (m : Nat) :
    (s.calls.set n { c with phase := phase })[m]? = if m = n then some { c with phase := phase } else s.calls[m]? := by
  have hlt : n < s.calls.length := (List.getElem?_eq_some_iff.mp hn).1
  by_cases hmn : m = n
  · rw [if_pos hmn, hmn, List.getElem?_set_self hlt]
  · rw [if_neg hmn, List.getElem?_set_ne (Ne.symm hmn)]

/-- A call that goes on, with the lock handed as its phases say, keeps the state sound. -/
theorem Sound.become {s : KeyProcesses} (h : s.Sound) {n : Nat} {c : KeyCall} (hn : s.calls[n]? = some c) {phase : Phase}
    {files : String → Option KeyFile} {holder : String → Option Nat} (hfiles : s.Fills c files) (hholder : s.Hands n c phase holder)
    (hmade : ∀ key ciphertext, phase = .made key ciphertext →
      files c.path = none ∧ readKey (keyFile c.domainId ciphertext) c.domainId = .ok key.bytes)
    (hserved : ∀ key, phase.result? = some (.ok key) → ∃ file, files c.path = some file ∧ readKey file c.domainId = .ok key) :
    Sound ⟨files, holder, s.calls.set n { c with phase := phase }⟩ := by
  constructor
  case holds =>
    intro m c' hm hcritical
    dsimp only at hm ⊢
    rw [calls_become hn] at hm
    split at hm
    · rename_i hmn
      obtain rfl := Option.some.inj hm
      rw [hmn]
      exact hholder.taken hcritical
    · rename_i hmn
      have hheld := h.holds m c' hm hcritical
      by_cases hpath : c'.path = c.path
      · rw [hpath] at hheld ⊢
        have hnot : ¬ phase.Critical := by
          intro hphase
          rcases hholder.free hphase with hc | hnone
          · have := h.holds n c hn hc
            rw [hheld] at this
            exact hmn (Option.some.inj this)
          · rw [hnone] at hheld
            cases hheld
        rw [hholder.given hnot, hheld, if_neg]
        exact fun e => hmn (Option.some.inj e)
      · rw [hholder.other _ hpath, hheld]
  case owned =>
    intro path m hheld
    dsimp only at hheld ⊢
    simp only [calls_become hn]
    have hbefore (hsame : s.holder path = some m) (hmn : m ≠ n) : ∃ c' : KeyCall,
        (if m = n then some { c with phase := phase } else s.calls[m]?) = some c' ∧ c'.path = path ∧ c'.phase.Critical := by
      rw [if_neg hmn]
      exact h.owned path m hsame
    by_cases hpath : path = c.path
    · subst hpath
      by_cases hphase : phase.Critical
      · rw [hholder.taken hphase] at hheld
        obtain rfl := Option.some.inj hheld
        exact ⟨{ c with phase := phase }, if_pos rfl, rfl, hphase⟩
      · rw [hholder.given hphase] at hheld
        split at hheld
        · cases hheld
        · rename_i hne
          exact hbefore hheld fun e => hne (e ▸ hheld)
    · rw [hholder.other _ hpath] at hheld
      refine hbefore hheld fun e => ?_
      obtain ⟨c', hc', hpath', -⟩ := h.owned path m hheld
      subst e
      obtain rfl := Option.some.inj (hn.symm.trans hc')
      exact hpath hpath'.symm
  case made =>
    intro m c' key ciphertext hm hphase
    dsimp only at hm ⊢
    rw [calls_become hn] at hm
    split at hm
    · obtain rfl := Option.some.inj hm
      exact hmade key ciphertext hphase
    · rename_i hmn
      obtain ⟨hnone, hread⟩ := h.made m c' key ciphertext hm hphase
      refine ⟨?_, hread⟩
      rcases hfiles with rfl | ⟨file, -, hcritical, rfl⟩
      · exact hnone
      · rw [Function.update_of_ne _ _ _, hnone]
        intro hpath
        have hheld := h.holds m c' hm (by rw [hphase]; trivial)
        rw [hpath, h.holds n c hn hcritical] at hheld
        exact hmn (Option.some.inj hheld).symm
  case served =>
    intro m c' key hm hresult
    dsimp only at hm ⊢
    rw [calls_become hn] at hm
    split at hm
    · obtain rfl := Option.some.inj hm
      exact hserved key hresult
    · obtain ⟨file, hfile, hread⟩ := h.served m c' key hm hresult
      refine ⟨file, ?_, hread⟩
      rcases hfiles with rfl | ⟨file', hnone, -, rfl⟩
      · exact hfile
      · rw [Function.update_of_ne _ _ _, hfile]
        intro hpath
        rw [hpath, hnone] at hfile
        cases hfile

theorem Sound.call {s : KeyProcesses} (h : s.Sound) (c : KeyCall) (hc : c.phase = .entered) :
    Sound { s with calls := s.calls ++ [c] } := by
  have hcalls (n : Nat) (c' : KeyCall) (hn : (s.calls ++ [c])[n]? = some c') (hphase : c'.phase ≠ .entered) :
      s.calls[n]? = some c' := by
    by_cases hlt : n < s.calls.length
    · rwa [List.getElem?_append_left hlt] at hn
    · rw [List.getElem?_append_right (not_lt.mp hlt)] at hn
      obtain rfl := List.mem_singleton.mp (List.mem_of_getElem? hn)
      exact absurd hc hphase
  constructor
  case holds =>
    intro n c' hn hcritical
    refine h.holds n c' (hcalls n c' hn ?_) hcritical
    intro hphase
    rw [hphase] at hcritical
    exact hcritical
  case owned =>
    intro path n hheld
    obtain ⟨c', hc', hpath, hcritical⟩ := h.owned path n hheld
    refine ⟨c', ?_, hpath, hcritical⟩
    dsimp only
    rw [List.getElem?_append_left (List.getElem?_eq_some_iff.mp hc').1, hc']
  case made =>
    intro n c' key ciphertext hn hphase
    exact h.made n c' key ciphertext (hcalls n c' hn (by simp [hphase])) hphase
  case served =>
    intro n c' key hn hresult
    refine h.served n c' key (hcalls n c' hn ?_) hresult
    intro hphase
    rw [hphase] at hresult
    cases hresult

omit [Dpapi] in
theorem fills_refl (s : KeyProcesses) (c : KeyCall) : s.Fills c s.files := .inl rfl

omit [Dpapi] in
/-- A call goes on in its critical section. -/
theorem hands_keep {s : KeyProcesses} {n : Nat} {c : KeyCall} {phase : Phase} (hheld : s.holder c.path = some n)
    (hc : c.phase.Critical) (hphase : phase.Critical) : s.Hands n c phase s.holder :=
  ⟨fun _ _ => rfl, fun _ => .inl hc, fun _ => hheld, fun hnot => absurd hphase hnot⟩

omit [Dpapi] in
/-- A call gives its lock back. -/
theorem hands_back {s : KeyProcesses} {n : Nat} {c : KeyCall} {phase : Phase} (hheld : s.holder c.path = some n)
    (hphase : ¬ phase.Critical) : s.Hands n c phase (Function.update s.holder c.path none) where
  other _ hpath := Function.update_of_ne hpath _ _
  free hcritical := absurd hcritical hphase
  taken hcritical := absurd hcritical hphase
  given _ := by rw [Function.update_self, if_pos hheld]

theorem Sound.proceed {s : KeyProcesses} (h : s.Sound) {n : Nat} {c : KeyCall} (hn : s.calls[n]? = some c) (key : Key)
    (salt : ByteArray) : (s.proceed n c key salt).Sound := by
  have hheld := h.holds n c hn
  rw [KeyProcesses.proceed]
  cases hphase : c.phase with
  | entered =>
    dsimp only
    split
    · exact h
    · rename_i hfree
      rw [Option.not_isSome_iff_eq_none] at hfree
      refine h.become hn (fills_refl s c) ⟨?_, fun _ => .inr hfree, fun _ => Function.update_self .., fun hnot => absurd trivial hnot⟩
        (by simp) (by simp [Phase.result?])
      exact fun path hpath => Function.update_of_ne hpath _ _
  | locked =>
    have hcritical : c.phase.Critical := by rw [hphase]; trivial
    dsimp only
    split
    · exact h.become hn (fills_refl s c) (hands_keep (hheld hcritical) hcritical trivial) (by simp) (by simp [Phase.result?])
    · rename_i hnone
      rw [Option.not_isSome_iff_eq_none] at hnone
      cases hprotect : protect salt key.bytes (entropy c.domainId) with
      | error e =>
        exact h.become hn (fills_refl s c) (hands_keep (hheld hcritical) hcritical trivial) (by simp) (by simp [Phase.result?])
      | ok ciphertext =>
        refine h.become hn (fills_refl s c) (hands_keep (hheld hcritical) hcritical trivial) ?_ (by simp [Phase.result?])
        intro key' ciphertext' hmade
        cases hmade
        exact ⟨hnone, readKey_keyFile hprotect⟩
  | found =>
    have hcritical : c.phase.Critical := by rw [hphase]; trivial
    refine h.become hn (fills_refl s c) (hands_keep (hheld hcritical) hcritical trivial) (by simp) ?_
    intro key' hresult
    cases hfile : s.files c.path with
    | none => simp [Phase.result?, hfile] at hresult
    | some file =>
      simp only [Phase.result?, hfile, Option.some.injEq] at hresult
      exact ⟨file, rfl, hresult⟩
  | made key' ciphertext =>
    have hcritical : c.phase.Critical := by rw [hphase]; trivial
    obtain ⟨hnone, hread⟩ := h.made n c key' ciphertext hn hphase
    refine h.become hn (.inr ⟨_, hnone, hcritical, rfl⟩) (hands_keep (hheld hcritical) hcritical trivial) (by simp) ?_
    intro key'' hresult
    simp only [Phase.result?, Option.some.injEq, Except.ok.injEq] at hresult
    subst hresult
    exact ⟨_, Function.update_self .., hread⟩
  | finished result =>
    have hcritical : c.phase.Critical := by rw [hphase]; trivial
    refine h.become hn (fills_refl s c) (hands_back (hheld hcritical) id) (by simp) ?_
    intro key' hresult
    exact h.served n c key' hn (by rw [hphase]; exact hresult)
  | returned | stranded | crashed => exact h

theorem Sound.fail {s : KeyProcesses} (h : s.Sound) {n : Nat} {c : KeyCall} (hn : s.calls[n]? = some c) (msg : String) :
    (s.fail n c msg).Sound := by
  have hheld := h.holds n c hn
  rw [KeyProcesses.fail]
  cases hphase : c.phase with
  | entered =>
    refine h.become hn (fills_refl s c) ⟨fun _ _ => rfl, fun hnot => hnot.elim, fun hnot => hnot.elim, fun _ => ?_⟩ (by simp)
      (by simp [Phase.result?])
    rw [if_neg]
    intro hmine
    obtain ⟨c', hc', -, hcritical⟩ := h.owned c.path n hmine
    obtain rfl := Option.some.inj (hn.symm.trans hc')
    rw [hphase] at hcritical
    exact hcritical
  | locked | found | made | finished =>
    have hcritical : c.phase.Critical := by rw [hphase]; trivial
    exact h.become hn (fills_refl s c) (hands_keep (hheld hcritical) hcritical trivial) (by simp) (by simp [Phase.result?])
  | returned | stranded | crashed => exact h

theorem Sound.failClose {s : KeyProcesses} (h : s.Sound) {n : Nat} {c : KeyCall} (hn : s.calls[n]? = some c) (msg : String) :
    (s.failClose n c msg).Sound := by
  rw [KeyProcesses.failClose]
  cases hphase : c.phase with
  | finished result =>
    have hheld : s.holder c.path = some n := h.holds n c hn (by rw [hphase]; trivial)
    exact h.become hn (fills_refl s c) (hands_back hheld id) (by simp) (by simp [Phase.result?])
  | _ => exact h

theorem Sound.crash {s : KeyProcesses} (h : s.Sound) {n : Nat} {c : KeyCall} (hn : s.calls[n]? = some c) :
    (s.crash n c).Sound := by
  rw [KeyProcesses.crash]
  refine h.become hn (fills_refl s c) ⟨?_, fun hnot => hnot.elim, fun hnot => hnot.elim, fun _ => ?_⟩ (by simp)
    (by simp [Phase.result?])
  · intro path hpath
    split
    · exact Function.update_of_ne hpath _ _
    · rfl
  · split
    · exact Function.update_self ..
    · rfl

theorem Sound.step {s : KeyProcesses} (h : s.Sound) (op : KeyOp) : (s.step op).Sound := by
  cases op with
  | call provider domainId =>
    rw [KeyProcesses.step]
    split
    · exact h
    · exact h.call _ rfl
  | proceed n key salt =>
    rw [KeyProcesses.step]
    cases hn : s.calls[n]? with
    | none => exact h
    | some c => exact h.proceed hn key salt
  | fail n msg =>
    rw [KeyProcesses.step]
    cases hn : s.calls[n]? with
    | none => exact h
    | some c => exact h.fail hn msg
  | failClose n msg =>
    rw [KeyProcesses.step]
    cases hn : s.calls[n]? with
    | none => exact h
    | some c => exact h.failClose hn msg
  | crash n =>
    rw [KeyProcesses.step]
    cases hn : s.calls[n]? with
    | none => exact h
    | some c => exact h.crash hn

/-- Before the first call. -/
def fresh (files : String → Option KeyFile) : KeyProcesses := { files := files }

theorem sound_run (files : String → Option KeyFile) (ops : List KeyOp) : (Machine.run step (fresh files) ops).Sound := by
  have hfresh : (fresh files).Sound := by
    constructor
    all_goals simp [fresh]
  have hall : Machine.Along step (fun _ _ => True) (fresh files) ops := Machine.along_of_forall step fun _ _ => trivial
  exact Machine.run_invariant step Sound (fun s op hs _ => hs.step op) hfresh hall

/-! ## One key -/

/-- A key file that is there stays as it is. -/
theorem files_step {s : KeyProcesses} (h : s.Sound) (op : KeyOp) {path : String} {file : KeyFile} (hfile : s.files path = some file) :
    (s.step op).files path = some file := by
  cases op with
  | call provider domainId =>
    rw [KeyProcesses.step]
    split <;> exact hfile
  | proceed n key salt =>
    rw [KeyProcesses.step]
    cases hn : s.calls[n]? with
    | none => exact hfile
    | some c =>
      simp only [Option.elim, KeyProcesses.proceed]
      cases hphase : c.phase with
      | made key' ciphertext =>
        obtain ⟨hnone, -⟩ := h.made n c key' ciphertext hn hphase
        dsimp only [KeyProcesses.become]
        rw [Function.update_of_ne, hfile]
        intro hpath
        rw [hpath, hnone] at hfile
        cases hfile
      | entered =>
        dsimp only
        split <;> exact hfile
      | _ => exact hfile
  | fail n msg =>
    rw [KeyProcesses.step]
    cases hn : s.calls[n]? with
    | none => exact hfile
    | some c =>
      simp only [Option.elim, KeyProcesses.fail]
      split <;> exact hfile
  | failClose n msg =>
    rw [KeyProcesses.step]
    cases hn : s.calls[n]? with
    | none => exact hfile
    | some c =>
      simp only [Option.elim, KeyProcesses.failClose]
      split <;> exact hfile
  | crash n =>
    rw [KeyProcesses.step]
    cases hn : s.calls[n]? <;> exact hfile

theorem files_run {s : KeyProcesses} (h : s.Sound) (ops : List KeyOp) {path : String} {file : KeyFile}
    (hfile : s.files path = some file) : (Machine.run step s ops).files path = some file := by
  induction ops generalizing s with
  | nil => exact hfile
  | cons op ops ih => exact ih (h.step op) (files_step h op hfile)

omit [Dpapi] in
theorem path_eq {c c' : KeyCall} (hprovider : c'.provider = c.provider) (hdomain : c'.domainId = c.domainId) : c'.path = c.path := by
  have hlocated := c'.located
  rw [hprovider, hdomain, c.located] at hlocated
  exact (Except.ok.inj hlocated).symm

/-- In every interleaving of calls, whatever the directory had at first, whichever calls fail and whichever processes stop:
the key that a call returns is that of its domain for good. It has 32 bytes, it is read from the key file from then on,
and every other call with the domain that returns a key returns this one. -/
theorem one_key (files : String → Option KeyFile) (ops : List KeyOp) {n : Nat} {c : KeyCall} {key : ByteArray}
    (hn : (Machine.run step (fresh files) ops).calls[n]? = some c) (hkey : c.phase = .returned (.ok key)) (later : List KeyOp) :
    let s := Machine.run step (fresh files) (ops ++ later)
    key.size = 32 ∧ (∃ file, s.files c.path = some file ∧ readKey file c.domainId = .ok key) ∧
      ∀ (m : Nat) (c' : KeyCall) (key' : ByteArray), s.calls[m]? = some c' → c'.provider = c.provider → c'.domainId = c.domainId →
        c'.phase = .returned (.ok key') → key' = key := by
  intro s
  have hrun := sound_run files ops
  obtain ⟨file, hfile, hread⟩ := hrun.served n c key hn (by simp [hkey, Phase.result?])
  have hlater : s.files c.path = some file := by
    show (Machine.run step (fresh files) (ops ++ later)).files c.path = some file
    rw [Machine.run_append]
    exact files_run hrun later hfile
  refine ⟨size_of_readKey hread, ⟨file, hlater, hread⟩, ?_⟩
  intro m c' key' hm hprovider hdomain hkey'
  obtain ⟨file', hfile', hread'⟩ := (sound_run files (ops ++ later)).served m c' key' hm (by simp [hkey', Phase.result?])
  rw [path_eq hprovider hdomain] at hfile'
  obtain rfl := Option.some.inj (hlater.symm.trans hfile')
  rw [hdomain] at hread'
  exact Except.ok.inj (hread'.symm.trans hread)

/-! ## Progress -/

/-- A step of a call that works under the lock brings it nearer to the end. -/
theorem proceed_working (s : KeyProcesses) (n : Nat) {c : KeyCall} (hworking : c.phase.Working) (key : Key) (salt : ByteArray) :
    ∃ phase, (s.proceed n c key salt).calls = s.calls.set n { c with phase := phase } ∧
      ((phase.Working ∧ phase.rank < c.phase.rank) ∨
        (∃ result, phase = .returned result) ∧ (s.proceed n c key salt).holder c.path = none) := by
  rw [KeyProcesses.proceed]
  cases hphase : c.phase with
  | locked =>
    dsimp only
    split
    · exact ⟨_, rfl, .inl ⟨trivial, by decide⟩⟩
    · split <;> exact ⟨_, rfl, .inl ⟨trivial, by simp [Phase.rank]⟩⟩
  | found => exact ⟨_, rfl, .inl ⟨trivial, by simp [Phase.rank]⟩⟩
  | made key' ciphertext => exact ⟨_, rfl, .inl ⟨trivial, by simp [Phase.rank]⟩⟩
  | finished result => exact ⟨_, rfl, .inr ⟨⟨_, rfl⟩, Function.update_self ..⟩⟩
  | entered | returned | stranded | crashed =>
    rw [hphase] at hworking
    exact hworking.elim

theorem step_proceed {s : KeyProcesses} {n : Nat} {c : KeyCall} (hn : s.calls[n]? = some c) (key : Key) (salt : ByteArray) :
    s.step (.proceed n key salt) = s.proceed n c key salt := by
  rw [KeyProcesses.step, hn, Option.elim]

/-- A call that works under the lock gets to the end of it by its own steps, and the lock is free then. -/
theorem leaves {s : KeyProcesses} {n : Nat} {c : KeyCall} (hn : s.calls[n]? = some c) (hworking : c.phase.Working) (key : Key)
    (salt : ByteArray) :
    ∃ ops, (∀ op ∈ ops, op = .proceed n key salt) ∧
      (∃ result, (Machine.run step s ops).calls[n]? = some { c with phase := .returned result }) ∧
      (Machine.run step s ops).holder c.path = none ∧ ∀ m, m ≠ n → (Machine.run step s ops).calls[m]? = s.calls[m]? := by
  induction hrank : c.phase.rank using Nat.strong_induction_on generalizing s c with
  | _ rank ih =>
    obtain ⟨phase, hcalls, hphase⟩ := proceed_working s n hworking key salt
    have hstep := step_proceed hn key salt
    have hn' : (s.step (.proceed n key salt)).calls[n]? = some { c with phase := phase } := by
      rw [hstep, hcalls, calls_become hn, if_pos rfl]
    have hothers (m : Nat) (hm : m ≠ n) : (s.step (.proceed n key salt)).calls[m]? = s.calls[m]? := by
      rw [hstep, hcalls, calls_become hn, if_neg hm]
    rcases hphase with ⟨hworking', hlt⟩ | ⟨⟨result, hresult⟩, hfree⟩
    · obtain ⟨ops, hops, hreturned, hfree, hothers'⟩ := ih phase.rank (hrank ▸ hlt) hn' hworking' rfl
      refine ⟨.proceed n key salt :: ops, List.forall_mem_cons.mpr ⟨rfl, hops⟩, hreturned, hfree, fun m hm => ?_⟩
      rw [Machine.run_cons, hothers' m hm, hothers m hm]
    · refine ⟨[.proceed n key salt], by simp, ⟨result, ?_⟩, ?_, ?_⟩
      · rw [Machine.run_cons, Machine.run_nil, hn', hresult]
      · rw [Machine.run_cons, Machine.run_nil, hstep, hfree]
      · exact hothers

/-- A call that finds the lock free takes it, and goes through its critical section. -/
theorem enters {s : KeyProcesses} {n : Nat} {c : KeyCall} (hn : s.calls[n]? = some c) (hphase : c.phase = .entered)
    (hfree : s.holder c.path = none) (key : Key) (salt : ByteArray) :
    ∃ ops, (∀ op ∈ ops, op = .proceed n key salt) ∧
      ∃ result, (Machine.run step s ops).calls[n]? = some { c with phase := .returned result } := by
  have hlocked : (s.step (.proceed n key salt)).calls[n]? = some { c with phase := .locked } := by
    rw [step_proceed hn]
    simp only [KeyProcesses.proceed, hphase, hfree, Option.isSome_none, Bool.false_eq_true, ↓reduceIte, KeyProcesses.become]
    rw [calls_become hn, if_pos rfl]
  obtain ⟨ops, hops, hreturned, -⟩ := leaves hlocked trivial key salt
  exact ⟨.proceed n key salt :: ops, List.forall_mem_cons.mpr ⟨rfl, hops⟩, hreturned⟩

/-- In every state of every interleaving a lock that is held belongs to a call that is between taking it and giving it back, or
to one whose release of it raised: never to a call that has returned or whose process has stopped. From every such state a call
whose process has not stopped has raised because its release did, or returns after some steps of its own and of the call that
has its lock, unless that call is one whose release raised. -/
theorem can_return (files : String → Option KeyFile) (ops : List KeyOp) (key : Key) (salt : ByteArray) :
    let s := Machine.run step (fresh files) ops
    (∀ path m, s.holder path = some m → ∃ c, s.calls[m]? = some c ∧ c.path = path ∧
      (c.phase.Working ∨ ∃ msg, c.phase = .stranded msg)) ∧
    ∀ n c, s.calls[n]? = some c → c.phase ≠ .crashed → (∀ msg, c.phase ≠ .stranded msg) →
      (∀ m c' msg, s.holder c.path = some m → s.calls[m]? = some c' → c'.phase ≠ .stranded msg) →
      ∃ more, (∀ op ∈ more, op = .proceed n key salt ∨ ∃ m, s.holder c.path = some m ∧ op = .proceed m key salt) ∧
        ∃ result, (Machine.run step s more).calls[n]? = some { c with phase := .returned result } := by
  intro s
  have hrun : s.Sound := sound_run files ops
  have howned (path : String) (m : Nat) (hheld : s.holder path = some m) : ∃ c, s.calls[m]? = some c ∧ c.path = path ∧
      (c.phase.Working ∨ ∃ msg, c.phase = .stranded msg) := by
    obtain ⟨c, hc, hpath, hcritical⟩ := hrun.owned path m hheld
    refine ⟨c, hc, hpath, ?_⟩
    cases hphase : c.phase with
    | stranded msg => exact .inr ⟨msg, rfl⟩
    | locked | found | made | finished => exact .inl trivial
    | entered | returned | crashed =>
      rw [hphase] at hcritical
      exact hcritical.elim
  refine ⟨howned, fun n c hn halive hreleased hholder => ?_⟩
  by_cases hworking : c.phase.Working
  · obtain ⟨more, hmore, hreturned, -⟩ := leaves hn hworking key salt
    exact ⟨more, fun op hop => .inl (hmore op hop), hreturned⟩
  · cases hphase : c.phase with
    | entered =>
      cases hheld : s.holder c.path with
      | none =>
        obtain ⟨more, hmore, hreturned⟩ := enters hn hphase hheld key salt
        exact ⟨more, fun op hop => .inl (hmore op hop), hreturned⟩
      | some m =>
        obtain ⟨c', hc', hpath, hworking' | ⟨msg, hstranded⟩⟩ := howned c.path m hheld
        · have hne : n ≠ m := by
            intro e
            subst e
            obtain rfl := Option.some.inj (hn.symm.trans hc')
            exact hworking hworking'
          obtain ⟨first, hfirst, -, hfree, hothers⟩ := leaves hc' hworking' key salt
          obtain ⟨more, hmore, hreturned⟩ := enters ((hothers n hne).trans hn) hphase (hpath ▸ hfree) key salt
          refine ⟨first ++ more, fun op hop => ?_, by rwa [Machine.run_append]⟩
          rcases List.mem_append.mp hop with hop | hop
          · exact .inr ⟨m, rfl, hfirst op hop⟩
          · exact .inl (hmore op hop)
        · exact absurd hstranded (hholder m c' msg hheld hc')
    | returned result =>
      refine ⟨[], by simp, result, ?_⟩
      rw [Machine.run_nil, hn, ← hphase]
    | stranded msg => exact absurd hphase (hreleased msg)
    | crashed => exact absurd hphase halive
    | locked | found | made | finished =>
      rw [hphase] at hworking
      exact absurd trivial hworking

/-! Two calls for a domain that has no key file yet, the first one in its critical section when the second enters. -/

theorem step_call {provider : DpapiKeyProvider} {domainId path : String} (h : provider.path domainId = .ok path) (s : KeyProcesses) :
    s.step (.call provider domainId) = { s with calls := s.calls ++ [⟨provider, domainId, path, h, .entered⟩] } := by
  rw [KeyProcesses.step]
  split
  · rename_i e he
    cases he.symm.trans h
  · rename_i path' hpath'
    obtain rfl := Except.ok.inj (hpath'.symm.trans h)
    rfl

/-- The first call has the lock; the second one tries to take it. -/
def competing (provider : DpapiKeyProvider) (domainId : String) (key : Key) (salt : ByteArray) : List KeyOp :=
  [.call provider domainId, .proceed 0 key salt, .call provider domainId, .proceed 1 key salt]

theorem run_competing {provider : DpapiKeyProvider} {domainId path : String} (h : provider.path domainId = .ok path) (key : Key)
    (salt : ByteArray) :
    Machine.run step (fresh fun _ => none) (competing provider domainId key salt) =
      ⟨fun _ => none, Function.update (fun _ => none) path (some 0),
        [⟨provider, domainId, path, h, .locked⟩, ⟨provider, domainId, path, h, .entered⟩]⟩ := by
  simp only [competing, Machine.run_cons, Machine.run_nil, step_call h, fresh, List.nil_append]
  simp only [KeyProcesses.step, KeyProcesses.proceed, KeyProcesses.become, List.getElem?_cons_zero, List.getElem?_cons_succ,
    List.set_cons_zero, List.cons_append, List.nil_append, Option.elim, Option.isSome_none, Option.isSome_some, Bool.false_eq_true,
    ↓reduceIte, Function.update_self]

/-- The first call puts its key in place and returns, and the second one reads it. -/
def settling (key other : Key) (salt : ByteArray) : List KeyOp :=
  List.replicate 3 (.proceed 0 key salt) ++ List.replicate 4 (.proceed 1 other salt)

theorem run_settling {provider : DpapiKeyProvider} {domainId path : String} (h : provider.path domainId = .ok path) {key : Key}
    {salt ciphertext : ByteArray} (hprotect : protect salt key.bytes (entropy domainId) = .ok ciphertext) (other : Key) :
    (Machine.run step (fresh fun _ => none) (competing provider domainId key salt ++ settling key other salt)).calls =
      [⟨provider, domainId, path, h, .returned (.ok key.bytes)⟩, ⟨provider, domainId, path, h, .returned (.ok key.bytes)⟩] := by
  rw [Machine.run_append, run_competing h]
  simp only [settling, List.replicate, List.cons_append, List.nil_append, Machine.run_cons, Machine.run_nil]
  simp only [KeyProcesses.step, KeyProcesses.proceed, KeyProcesses.become, hprotect, readKey_keyFile hprotect,
    List.getElem?_cons_zero, List.getElem?_cons_succ, List.set_cons_zero, List.set_cons_succ, Option.elim, Option.isSome_none,
    Option.isSome_some, Bool.false_eq_true, ↓reduceIte, Function.update_self, Function.update_idem]

end KeyProcesses

/-- A protection that keeps the text as it is. -/
@[reducible] def plainDpapi : Dpapi where
  available := true
  protect _ plaintext _ := some plaintext
  unprotect ciphertext _ := some ciphertext
  unprotect_protect h := h.symm

theorem size_exampleDpapiKey : AesGcmBlobCipher.exampleKey.size = 32 := rfl

def exampleDpapiKey : Key := ⟨AesGcmBlobCipher.exampleKey, size_exampleDpapiKey⟩

theorem validDomain_trace : @validDomain asciiCases "TRACE" = true := rfl

def otherDpapiKey : Key := ⟨⟨Array.replicate 32 7⟩, rfl⟩

open KeyProcesses in
theorem one_key_example :
    letI := asciiRuntime
    letI := asciiCases
    letI := plainDpapi
    ∃ c c' : KeyCall,
      (Machine.run step (fresh fun _ => none)
        (competing ⟨"/keys"⟩ "TRACE" exampleDpapiKey .empty ++ settling exampleDpapiKey otherDpapiKey .empty)).calls = [c, c'] ∧
      ∀ key, c'.phase = .returned (.ok key) → key = AesGcmBlobCipher.exampleKey := by
  let := asciiRuntime
  let := asciiCases
  let := plainDpapi
  obtain ⟨path, hpath⟩ := (DpapiKeyProvider.path_ok ⟨"/keys"⟩ "TRACE").mpr validDomain_trace
  have hcalls := run_settling hpath (show protect .empty exampleDpapiKey.bytes (entropy "TRACE") = .ok AesGcmBlobCipher.exampleKey from rfl)
    otherDpapiKey
  refine ⟨_, _, hcalls, fun key hkey => ?_⟩
  obtain ⟨-, -, hone⟩ := one_key (fun _ => none) (competing ⟨"/keys"⟩ "TRACE" exampleDpapiKey .empty ++
    settling exampleDpapiKey otherDpapiKey .empty) (n := 0) (by rw [hcalls]; rfl) rfl []
  rw [List.append_nil, hcalls] at hone
  exact hone 1 _ key rfl rfl rfl hkey

open KeyProcesses in
theorem can_return_example :
    letI := asciiRuntime
    letI := asciiCases
    letI := plainDpapi
    let s := Machine.run step (fresh fun _ => none) (competing ⟨"/keys"⟩ "TRACE" exampleDpapiKey .empty)
    ∃ c more result, s.calls[1]? = some c ∧ c.phase = .entered ∧ (s.holder c.path).isSome ∧
      (Machine.run step s more).calls[1]? = some { c with phase := .returned result } := by
  let := asciiRuntime
  let := asciiCases
  let := plainDpapi
  intro s
  obtain ⟨path, hpath⟩ := (DpapiKeyProvider.path_ok ⟨"/keys"⟩ "TRACE").mpr validDomain_trace
  have hs : s = _ := run_competing hpath exampleDpapiKey .empty
  have hfirst : s.calls[0]? = some ⟨⟨"/keys"⟩, "TRACE", path, hpath, .locked⟩ := by rw [hs]; rfl
  have hsecond : s.calls[1]? = some ⟨⟨"/keys"⟩, "TRACE", path, hpath, .entered⟩ := by rw [hs]; rfl
  have hheld : s.holder path = some 0 := by
    rw [hs]
    show Function.update (fun _ => none) path (some 0) path = some 0
    rw [Function.update_self]
  obtain ⟨more, -, result, hreturned⟩ := (can_return (fun _ => none) (competing ⟨"/keys"⟩ "TRACE" exampleDpapiKey .empty)
    otherDpapiKey .empty).2 1 _ hsecond (by simp) (by simp) (by
      intro m c' msg hm hc'
      obtain rfl := Option.some.inj (hheld.symm.trans hm)
      obtain rfl := Option.some.inj (hfirst.symm.trans hc')
      simp)
  exact ⟨_, more, result, hsecond, rfl, Option.isSome_iff_exists.mpr ⟨0, hheld⟩, hreturned⟩

end DpapiKeyProvider

end Pmiri
