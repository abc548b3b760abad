import Pmiri.Crypto.KeyReferences
import Pmiri.Python.Isoformat
import Pmiri.RequestAuth.Principal

/-!
# Encrypted traces

`privacy.py`: the store that keeps payloads encrypted, each in a file named by
its trace id. What is encrypted is authenticated together with the key domain,
the time of capture and the expiry; the trace id is not among these.

Others may write into the directory what they like; a file is what `json.loads`
gives for its text.
-/

namespace Pmiri

open Py

/-- What `capture` and `read` raise; a `KeyManagementError` is a `RuntimeError`, a `PermissionError` an `OSError`. -/
inductive TraceError where
  | permissionError (msg : String)
  | keyManagementError (msg : String)
  | raised (e : Exc)
deriving DecidableEq

namespace TraceError

/-- The reason of a blocked capture: what `except (OSError, TypeError, ValueError, KeyManagementError)` catches. -/
def blocks : TraceError → Option String
  | .permissionError msg => some ("PermissionError:" ++ msg)
  | .keyManagementError msg => some ("KeyManagementError:" ++ msg)
  | .raised e =>
    match e with
    | .osError _ | .typeError _ | .valueError .. => some (excName e ++ ":" ++ e.message)
    | _ => none

/-- The `except` clauses of `read`, after the file was found. -/
def onRead : TraceError → TraceError
  | .raised (.osError _) | .raised (.keyError _) | .raised (.typeError _) | .raised (.valueError ..) =>
    .raised (valueError "trace_record_invalid")
  | e => e

end TraceError

/-- The value of a call that raises nothing of this module's own. -/
def raising (x : Except Exc α) : Except TraceError α :=
  match x with
  | .ok a => .ok a
  | .error e => .error (.raised e)

def raiseTraceIf (c : Bool) (e : TraceError) : Except TraceError Unit := if c then .error e else .ok ()

@[simp] theorem raising_ok {x : Except Exc α} {a : α} : raising x = .ok a ↔ x = .ok a := by
  cases x <;> simp [raising]

@[simp] theorem raiseTraceIf_ok {c : Bool} {e : TraceError} : raiseTraceIf c e = .ok () ↔ c = false := by
  cases c <;> simp [raiseTraceIf]

structure TraceRetentionPolicy where
  captureEnabled : Bool := false
  ttlSeconds : Int := 0
  keyDomain : String := "TRACE"
  allowedAccessRoles : List String := ["independent_reviewer"]

def TraceRetentionPolicy.validate [CharacterCases] (p : TraceRetentionPolicy) : Except Exc Unit := do
  raiseIf (p.captureEnabled && !decide (1 ≤ p.ttlSeconds ∧ p.ttlSeconds ≤ 30 * 24 * 60 * 60)) (valueError "trace_ttl_invalid")
  raiseIf (!validDomain p.keyDomain) (valueError "trace_key_domain_invalid")
  raiseIf (p.allowedAccessRoles.isEmpty || p.allowedAccessRoles.any fun role => role == "")
    (valueError "trace_access_roles_invalid")

structure TraceCaptureResult where
  status : String
  reason : String
  traceId : Option String := none
  payloadFingerprint : Option String := none
  expiresAt : Option String := none
deriving DecidableEq

/-- A store and its policy, which is valid. -/
structure EncryptedTraceStore [CharacterCases] where
  keyProvider : String → Except TraceError ByteArray
  policy : TraceRetentionPolicy
  valid : policy.validate = .ok ()

/-- `[0-9a-f]{32}`, of `secrets.token_hex(16)`. -/
structure Token where
  text : String
  isHex : isHex 32 text = true

/-- `trace_[0-9a-f]{32}` -/
def isTraceId (s : String) : Bool := "trace_".toList.isPrefixOf s.toList && isHex 32 (String.ofList (s.toList.drop 6))

def Token.traceId (t : Token) : String := "trace_" ++ t.text

theorem Token.isTraceId (t : Token) : isTraceId t.traceId = true := by
  have hdrop : String.ofList (t.traceId.toList.drop 6) = t.text := by
    rw [Token.traceId, String.toList_append]
    exact String.ofList_toList
  have hstart : "trace_".toList.isPrefixOf t.traceId.toList = true := by
    rw [Token.traceId, String.toList_append, List.isPrefixOf_iff_prefix]
    exact List.prefix_append _ _
  rw [Pmiri.isTraceId, hdrop, hstart, t.isHex]
  rfl

/-- `utc.isoformat()` of an instant, its offset written `Z`. -/
def instantText (t : Int) : String := String.ofList (isoMicros t.toNat ++ ['Z'])

/-- The text of an instant is read back. -/
theorem parseTime_instantText {t : Int} (h : inRange t = true) : parseTime (instantText t) = .ok t := by
  have hexpand : expandZ (instantText t) = String.ofList (isoMicros t.toNat ++ "+00:00".toList) := by
    simp [expandZ, instantText]
  have hbounds := h
  rw [inRange, Bool.and_eq_true, decide_eq_true_eq, decide_eq_true_eq, dayMicros] at hbounds
  have hnat : ((t.toNat : Nat) : Int) = t := by omega
  have hlt : t.toNat < maxDays * 86400 * 1000000 := by omega
  rw [parseTime, hexpand, fromisoformat_isoMicros hlt, hnat]
  simp only [DateTime.instant?, Option.map_some, Int.sub_zero, h, ↓reduceIte]

section

variable [FloatText]

/-- A payload that JSON has a text for. -/
structure TracePayload where
  dict : Dict
  readable : dict.toVal.Readable

/-- A file of the directory, or what reading and `json.loads` raise for it. -/
inductive TraceFile where
  | unreadable (e : TraceError)
  | holds (v : Val) (readable : v.Readable)

def TracePayload.plaintext (p : TracePayload) : ByteArray := canonicalJson p.dict.toVal

end

/-- The authenticated data of a record. -/
def traceAad (keyDomain : String) (capturedAt expiresAt : Val) : ByteArray :=
  canonicalJson (Dict.ofItems [("domain_id", .str keyDomain), ("captured_at", capturedAt), ("expires_at", expiresAt)]).toVal

section

variable [CharacterCases] [AesGcm] [FloatText]

namespace EncryptedTraceStore

/-- The instant at which a trace expires. -/
def deadline (store : EncryptedTraceStore) (capturedAt : String) : Except Exc Int := do
  let expires := (← parseTime capturedAt) + store.policy.ttlSeconds * 1000000
  if inRange expires then .ok expires else .error (.overflowError "date value out of range")

end EncryptedTraceStore

/-- A payload that a store has encrypted, and what it was encrypted with. -/
structure SealedTrace (store : EncryptedTraceStore) where
  token : Token
  payload : TracePayload
  capturedAt : String
  expires : Int
  deadline : store.deadline capturedAt = .ok expires
  key : ByteArray
  keyProvided : store.keyProvider store.policy.keyDomain = .ok key
  keySize : key.size = 32
  nonce : Nonce
  ciphertext : ByteArray
  encrypted : AesGcm.encrypt key nonce.bytes payload.plaintext
    (traceAad store.policy.keyDomain (.str capturedAt) (.str (instantText expires))) = .ok ciphertext

namespace SealedTrace

variable {store : EncryptedTraceStore}

def traceId (c : SealedTrace store) : String := c.token.traceId
def expiresAt (c : SealedTrace store) : String := instantText c.expires
def aad (c : SealedTrace store) : ByteArray := traceAad store.policy.keyDomain (.str c.capturedAt) (.str c.expiresAt)

/-- The record of a trace. -/
def record [Runtime] (c : SealedTrace store) : Dict :=
  .ofItems [
    ("version", .str "0.1"),
    ("trace_id", .str c.traceId),
    ("key_domain", .str store.policy.keyDomain),
    ("captured_at", .str c.capturedAt),
    ("expires_at", .str c.expiresAt),
    ("payload_fingerprint", .str (sha256Bytes c.payload.plaintext)),
    ("algorithm", .str "AES-256-GCM"),
    ("nonce", .str (Py.b64encode c.nonce.bytes)),
    ("aad_fingerprint", .str (sha256Bytes c.aad)),
    ("ciphertext", .str (Py.b64encode c.ciphertext))]

end SealedTrace

/-- The directory of a store. What the store has encrypted so far, and what of it has got a file, is kept for the
statements about it. -/
structure TraceRoot (store : EncryptedTraceStore) where
  files : (traceId : String) → Option TraceFile
  encrypted : List (SealedTrace store) := []
  recorded : List (SealedTrace store) := []

namespace EncryptedTraceStore

variable [Runtime]

omit [Runtime] in
/-- The part of `capture` up to the encryption. -/
def sealTrace (store : EncryptedTraceStore) (payload : TracePayload) (capturedAt : String) (nonce : Nonce) (token : Token) :
    Except TraceError (SealedTrace store) :=
  match hd : store.deadline capturedAt with
  | .error e => .error (.raised e)
  | .ok expires =>
    match hk : store.keyProvider store.policy.keyDomain with
    | .error e => .error e
    | .ok key =>
      if hs : key.size = 32 then
        match he : AesGcm.encrypt key nonce.bytes payload.plaintext
            (traceAad store.policy.keyDomain (.str capturedAt) (.str (instantText expires))) with
        | .error e => .error (.raised e)
        | .ok ciphertext => .ok ⟨token, payload, capturedAt, expires, hd, key, hk, hs, nonce, ciphertext, he⟩
      else .error (.keyManagementError "key_length_invalid")

theorem readable_record {store : EncryptedTraceStore} (c : SealedTrace store) : c.record.sortKeys.toVal.Readable := by
  rw [← Dict.toVal_sortKeys]
  refine Val.readable_sortKeys (Val.readable_ofItems fun kv hkv => ?_)
  simp only [List.mem_cons, List.not_mem_nil, or_false] at hkv
  rcases hkv with rfl | rfl | rfl | rfl | rfl | rfl | rfl | rfl | rfl | rfl <;> trivial

/-- The file that a trace is written to. -/
def fileOf {store : EncryptedTraceStore} (c : SealedTrace store) : TraceFile := .holds c.record.sortKeys.toVal (readable_record c)

/-- The directory after a trace is encrypted. -/
def withEncrypted {store : EncryptedTraceStore} (root : TraceRoot store) (c : SealedTrace store) : TraceRoot store :=
  { root with encrypted := root.encrypted ++ [c] }

/-- The directory after the file of a trace is written. -/
def withFile {store : EncryptedTraceStore} (root : TraceRoot store) (c : SealedTrace store) : TraceRoot store :=
  { root with files := Function.update root.files c.traceId (some (fileOf c)), recorded := root.recorded ++ [c] }

/-- The `except` clause of `capture`. -/
def blocked (e : TraceError) : Except TraceError TraceCaptureResult :=
  match e.blocks with
  | some reason => .ok { status := "BLOCKED", reason := reason }
  | none => .error e

/-- `capture`, and the directory after it; `written` is how the writing of the file ends. -/
def capture (store : EncryptedTraceStore) (root : TraceRoot store) (payload : TracePayload) (actorRole : String)
    (capturedAt : Option String) (clock : Instant) (nonce : Nonce) (token : Token) (written : Except Exc Unit) :
    Except TraceError TraceCaptureResult × TraceRoot store :=
  if !store.policy.captureEnabled then
    (.ok { status := "DISABLED", reason := "raw_trace_capture_disabled_by_policy" }, root)
  else if !store.policy.allowedAccessRoles.contains actorRole then
    (.ok { status := "DENIED", reason := "trace_capture_role_not_authorized" }, root)
  else
    match store.sealTrace payload (orNow capturedAt clock) nonce token with
    | .error e => (blocked e, root)
    | .ok c =>
      let root := withEncrypted root c
      match written with
      | .error e => (blocked (.raised e), root)
      | .ok () =>
        (.ok {
          status := "RECORDED"
          reason := "encrypted_trace_recorded"
          traceId := some c.traceId
          payloadFingerprint := some (sha256Bytes c.payload.plaintext)
          expiresAt := some c.expiresAt },
        withFile root c)

/-- `_parse_time(record[field])` -/
def timeField (record : Dict) (field : String) : Except Exc Int := do
  match ← record.item field with
  | .str s => parseTime s
  | _ => .error (valueError "timestamp_invalid")

/-- The body of the `try` of `read`, once the file is read. -/
def openRecord (store : EncryptedTraceStore) (record : Dict) (traceId now : String) : Except TraceError Dict := do
  raiseTraceIf (differs record "trace_id" traceId || differs record "key_domain" store.policy.keyDomain)
    (.raised (valueError "trace_record_invalid"))
  let current ← raising (parseTime now)
  let expires ← raising (timeField record "expires_at")
  raiseTraceIf (decide (expires ≤ current)) (.permissionError "trace_expired")
  let keyDomain := (record.get "key_domain").strText
  let capturedAt ← raising (record.item "captured_at")
  let aad := traceAad keyDomain capturedAt (record.get "expires_at")
  raiseTraceIf (differs record "aad_fingerprint" (sha256Bytes aad)) (.raised (valueError "trace_aad_fingerprint_mismatch"))
  let ciphertext ← raising (decodedField record "ciphertext")
  let key ← store.keyProvider keyDomain
  let nonce ← raising (decodedField record "nonce")
  match AesGcm.decrypt key nonce ciphertext aad with
  | none => .error (.raised (valueError "InvalidTag"))
  | some plaintext =>
    raiseTraceIf (differs record "payload_fingerprint" (sha256Bytes plaintext))
      (.raised (valueError "trace_payload_fingerprint_mismatch"))
    let payload ← raising (jsonLoadsBytes plaintext)
    raising (dictOr payload (valueError "trace_payload_invalid"))

def readFile (store : EncryptedTraceStore) (file : TraceFile) (traceId now : String) : Except TraceError Dict :=
  match file with
  | .unreadable e => .error e
  | .holds v _ =>
    match v.asDict with
    | none => .error (.raised (.attributeError "object has no attribute 'get'"))
    | some record => store.openRecord record traceId now

def read (store : EncryptedTraceStore) (root : TraceRoot store) (traceId actorRole : String) (now : Option String)
    (clock : Instant) : Except TraceError Dict :=
  if !store.policy.allowedAccessRoles.contains actorRole then .error (.permissionError "trace_access_denied")
  else if !isTraceId traceId then .error (.raised (valueError "trace_id_invalid"))
  else
    match root.files traceId with
    | none => .error (.raised (.keyError "trace_not_found"))
    | some file =>
      match store.readFile file traceId (orNow now clock) with
      | .ok payload => .ok payload
      | .error e => .error e.onRead

end EncryptedTraceStore

end

end Pmiri
