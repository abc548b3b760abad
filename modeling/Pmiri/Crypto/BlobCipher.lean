import Mathlib.Data.Finset.Insert
import Pmiri.Crypto.AesGcm
import Pmiri.Python.Base64
import Pmiri.Python.JsonRead
import Pmiri.Python.Sha256
import Pmiri.Runs
import Pmiri.Store.Sqlite

/-!
# The blob cipher

`storage_crypto.py`: AES-256-GCM with versioned keys. A rotation makes a new
version the current one after the provider has a key for it and the escrow has
accepted it; the versions that were current before stay accepted, so what was
encrypted once is decrypted in every later state.
-/

namespace Pmiri

open Py

/-- `base64.b64decode(record[field], validate=True)` -/
def decodedField (record : Dict) (field : String) : Except Exc ByteArray := do
  match ← record.item field with
  | .str s =>
    match b64decode s with
    | some b => .ok b
    | none => .error (.valueError "binascii.Error" "Incorrect padding")
  | _ => .error (.typeError "argument should be a bytes-like object or ASCII string")

/-- A character of a key version after the first. -/
def isKeyChar (c : Char) : Bool := isAsciiUpper c || isAsciiDigit c || c == '_' || c == '-'

/-- `[A-Z][A-Z0-9_-]{0,15}` -/
def isKeyVersion (version : String) : Bool :=
  match version.toList with
  | [] => false
  | c :: cs => isAsciiUpper c && cs.all isKeyChar && decide (cs.length ≤ 15)

/-- `[A-Z][A-Z0-9_-]*`, of 48 characters at most. -/
def isKeyDomain (domainId : String) : Bool :=
  match domainId.toList with
  | [] => false
  | c :: cs => isAsciiUpper c && cs.all isKeyChar && decide (cs.length < 48)

/-- What a cipher is configured with, and its versions. -/
structure AesGcmBlobCipher where
  keyProvider : String → Except Exc ByteArray
  keyEscrow : Bool
  domainId : String
  currentKeyVersion : String
  acceptedKeyVersions : Finset String

/-- `secrets.token_bytes(12)` -/
structure Nonce where
  bytes : ByteArray
  size : bytes.size = 12

namespace AesGcmBlobCipher

def VERSION : String := "0.1"
def ALGORITHM : String := "AES-256-GCM"

/-- `_validate_version` -/
def validateVersion (version : String) : Except Exc Unit :=
  raiseIf (!isKeyVersion version) (storageEncryptionError "storage_key_version_invalid")

/-- `AesGcmBlobCipher(...)` -/
def create (keyProvider : String → Except Exc ByteArray) (keyEscrow : Bool) (domainId currentKeyVersion : String)
    (acceptedKeyVersions : Option (List String)) : Except Exc AesGcmBlobCipher := do
  validateVersion currentKeyVersion
  let accepted := acceptedKeyVersions.getD [] ++ [currentKeyVersion]
  forEach accepted validateVersion
  raiseIf (!isKeyDomain domainId) (storageEncryptionError "storage_key_domain_invalid")
  return {
    keyProvider := keyProvider
    keyEscrow := keyEscrow
    domainId := domainId
    currentKeyVersion := currentKeyVersion
    acceptedKeyVersions := accepted.toFinset }

/-- The reference under which the provider is asked for a key. -/
def keyRef (domainId version : String) : String := domainId ++ "_" ++ version

/-- `_key` -/
def key (c : AesGcmBlobCipher) (version : String) : Except Exc ByteArray :=
  match c.keyProvider (keyRef c.domainId version) with
  | .error _ => .error (storageEncryptionError "storage_key_unavailable")
  | .ok key => if key.size = 32 then .ok key else .error (storageEncryptionError "storage_key_length_invalid")

/-- `rotate`, and the cipher after it; `escrowed` is how the escrow answers, if there is one and it is asked. -/
def rotate (c : AesGcmBlobCipher) (newKeyVersion : String) (escrowed : Except Exc Unit) : Except Exc Unit × AesGcmBlobCipher :=
  match validateVersion newKeyVersion with
  | .error e => (.error e, c)
  | .ok () =>
    match c.key newKeyVersion with
    | .error e => (.error e, c)
    | .ok _ =>
      if c.keyEscrow = true ∧ escrowed ≠ .ok () then (.error (storageEncryptionError "storage_key_escrow_failed"), c)
      else
        let c := { c with currentKeyVersion := newKeyVersion }
        let c := { c with acceptedKeyVersions := insert newKeyVersion c.acceptedKeyVersions }
        (.ok (), c)

/-- The authenticated data. -/
def aad (c : AesGcmBlobCipher) (version fingerprint : String) : ByteArray :=
  canonicalJson (Dict.ofItems [
    ("domain_id", .str c.domainId), ("key_version", .str version), ("fingerprint", .str fingerprint)]).toVal

/-- The envelope of a ciphertext. -/
def envelope (c : AesGcmBlobCipher) (version fingerprint : String) (nonce ciphertext : ByteArray) : Dict :=
  .ofItems [
    ("version", .str VERSION),
    ("algorithm", .str ALGORITHM),
    ("domain_id", .str c.domainId),
    ("key_version", .str version),
    ("fingerprint", .str fingerprint),
    ("nonce", .str (Py.b64encode nonce)),
    ("ciphertext", .str (Py.b64encode ciphertext))]

section

variable [Runtime] [AesGcm] [FloatText]

omit [Runtime] [FloatText] in
def encrypt (c : AesGcmBlobCipher) (fingerprint : String) (plaintext : ByteArray) (nonce : Nonce) : Except Exc ByteArray := do
  raiseIf (fingerprint.length != 64) (storageEncryptionError "storage_plaintext_fingerprint_invalid")
  let key ← c.key c.currentKeyVersion
  let ciphertext ← AesGcm.encrypt key nonce.bytes plaintext (c.aad c.currentKeyVersion fingerprint)
  return canonicalJson (c.envelope c.currentKeyVersion fingerprint nonce.bytes ciphertext).toVal

/-- The body of the `try` of `decrypt`. -/
def decryptEnvelope (c : AesGcmBlobCipher) (fingerprint : String) (ciphertext : ByteArray) : Except Exc ByteArray := do
  let envelope ← dictOr (← jsonLoadsBytes ciphertext) (storageEncryptionError "storage_envelope_invalid")
  raiseIf (differs envelope "version" VERSION || differs envelope "algorithm" ALGORITHM)
    (storageEncryptionError "storage_envelope_invalid")
  raiseIf (differs envelope "domain_id" c.domainId || differs envelope "fingerprint" fingerprint)
    (storageEncryptionError "storage_envelope_binding_mismatch")
  let version := (envelope.get "key_version").strText
  raiseIfM (pyNot (keyAccepted c (envelope.get "key_version"))) (storageEncryptionError "storage_key_version_not_accepted")
  let nonce ← decodedField envelope "nonce"
  let encoded ← decodedField envelope "ciphertext"
  raiseIf (nonce.size != 12) (storageEncryptionError "storage_nonce_invalid")
  let key ← c.key version
  match AesGcm.decrypt key nonce encoded (c.aad version fingerprint) with
  | none => .error (storageEncryptionError "storage_ciphertext_invalid")
  | some plaintext =>
    raiseIf (sha256Bytes plaintext != fingerprint) (storageEncryptionError "storage_plaintext_fingerprint_mismatch")
    return plaintext
where
  /-- `version in self.accepted_key_versions` -/
  keyAccepted (c : AesGcmBlobCipher) (version : Val) : Except Exc Bool :=
    match version with
    | .str s => .ok (decide (s ∈ c.acceptedKeyVersions))
    | v => v.isIn []

/-- `decrypt`; an exception of another kind becomes a `StorageEncryptionError`. -/
def decrypt (c : AesGcmBlobCipher) (fingerprint : String) (ciphertext : ByteArray) : Except Exc ByteArray :=
  match c.decryptEnvelope fingerprint ciphertext with
  | .ok plaintext => .ok plaintext
  | .error (.valueError "StorageEncryptionError" msg) => .error (storageEncryptionError msg)
  | .error e => if e.isTypeValueOrKeyError then .error (storageEncryptionError "storage_ciphertext_invalid") else .error e

end

/-! ## Steps -/

theorem key_size {c : AesGcmBlobCipher} {version : String} {key : ByteArray} (h : c.key version = .ok key) : key.size = 32 := by
  rw [AesGcmBlobCipher.key] at h
  split at h
  · cases h
  · split at h
    · rename_i hsize
      exact Except.ok.inj h ▸ hsize
    · cases h

/-- A rotation that fails changes nothing; one that succeeds changes the versions. -/
theorem rotate_cases (c : AesGcmBlobCipher) (newKeyVersion : String) (escrowed : Except Exc Unit) :
    (∃ e, c.rotate newKeyVersion escrowed = (.error e, c)) ∨
      isKeyVersion newKeyVersion = true ∧ c.rotate newKeyVersion escrowed = (.ok (), { c with
        currentKeyVersion := newKeyVersion
        acceptedKeyVersions := insert newKeyVersion c.acceptedKeyVersions }) := by
  rw [rotate]
  split
  · exact .inl ⟨_, rfl⟩
  · rename_i hversion
    rw [validateVersion, raiseIf_ok, Bool.not_eq_false'] at hversion
    split
    · exact .inl ⟨_, rfl⟩
    · split
      · exact .inl ⟨_, rfl⟩
      · exact .inr ⟨hversion, rfl⟩

/-- A later state of a cipher: another current version, and more accepted versions. -/
structure Later (c d : AesGcmBlobCipher) : Prop where
  keyProvider : d.keyProvider = c.keyProvider
  domainId : d.domainId = c.domainId
  accepted : c.acceptedKeyVersions ⊆ d.acceptedKeyVersions
  current : d.currentKeyVersion ∈ d.acceptedKeyVersions

theorem later_refl {c : AesGcmBlobCipher} (h : c.currentKeyVersion ∈ c.acceptedKeyVersions) : Later c c :=
  ⟨rfl, rfl, Finset.Subset.refl _, h⟩

theorem Later.trans {c d e : AesGcmBlobCipher} (h : Later c d) (h' : Later d e) : Later c e :=
  ⟨h'.keyProvider.trans h.keyProvider, h'.domainId.trans h.domainId, h.accepted.trans h'.accepted, h'.current⟩

theorem later_rotate {c : AesGcmBlobCipher} (h : c.currentKeyVersion ∈ c.acceptedKeyVersions) (newKeyVersion : String)
    (escrowed : Except Exc Unit) : Later c (c.rotate newKeyVersion escrowed).2 := by
  rcases c.rotate_cases newKeyVersion escrowed with ⟨e, he⟩ | ⟨-, hok⟩
  · rw [he]
    exact later_refl h
  · rw [hok]
    exact ⟨rfl, rfl, Finset.subset_insert _ _, Finset.mem_insert_self _ _⟩

theorem create_ok {keyProvider : String → Except Exc ByteArray} {keyEscrow : Bool} {domainId currentKeyVersion : String}
    {acceptedKeyVersions : Option (List String)} {c : AesGcmBlobCipher}
    (h : create keyProvider keyEscrow domainId currentKeyVersion acceptedKeyVersions = .ok c) :
    c.currentKeyVersion ∈ c.acceptedKeyVersions ∧ isKeyDomain c.domainId = true ∧
      ∀ v ∈ c.acceptedKeyVersions, isKeyVersion v = true := by
  obtain ⟨-, h⟩ := seq_ok.mp h
  obtain ⟨haccepted, h⟩ := seq_ok.mp h
  obtain ⟨hdomain, h⟩ := seq_ok.mp h
  obtain rfl := Except.ok.inj h
  refine ⟨by simp, by simpa using hdomain, fun v hv => ?_⟩
  have hversion := forEach_ok.mp haccepted v (List.mem_toFinset.mp hv)
  simpa [validateVersion] using hversion

/-! ## Runs -/

/-- A call on a cipher: the escrow's answer and the nonce are what happens in it. -/
inductive Call where
  | rotate (newKeyVersion : String) (escrowed : Except Exc Unit)
  | encrypt (fingerprint : String) (plaintext : ByteArray) (nonce : Nonce)

/-- The cipher after a call. -/
def step (c : AesGcmBlobCipher) : Call → AesGcmBlobCipher
  | .rotate newKeyVersion escrowed => (c.rotate newKeyVersion escrowed).2
  | .encrypt _ _ _ => c

theorem later_run {c : AesGcmBlobCipher} (h : c.currentKeyVersion ∈ c.acceptedKeyVersions) (calls : List Call) :
    Later c (Machine.run step c calls) := by
  induction calls generalizing c with
  | nil => exact later_refl h
  | cons call calls ih =>
    have hstep : Later c (step c call) := by
      cases call with
      | rotate newKeyVersion escrowed => exact later_rotate h newKeyVersion escrowed
      | encrypt fingerprint plaintext nonce => exact later_refl h
    exact hstep.trans (ih hstep.current)

section

variable [Runtime] [AesGcm] [FloatText]

omit [AesGcm] [FloatText] in
theorem length_sha256Bytes (b : ByteArray) : (sha256Bytes b).length = 64 := by
  have h := Runtime.sha256_hex b
  rw [isHex, Bool.and_eq_true, beq_iff_eq] at h
  exact h.1

omit [Runtime] [AesGcm] in
/-- What `json.loads` reads of a canonical text. -/
theorem jsonLoadsBytes_canonicalJson {v : Val} (h : v.Readable) : jsonLoadsBytes (canonicalJson v) = .ok v.sortKeys := by
  rw [jsonLoadsBytes, canonicalJson, fromUTF8?_toUTF8]
  exact jsonLoads_json h

omit [Runtime] [AesGcm] in
/-- The envelope that is read of a ciphertext. -/
theorem dictOr_envelope (c : AesGcmBlobCipher) (version fingerprint : String) (nonce ciphertext : ByteArray) (e : Exc) :
    (jsonLoadsBytes (canonicalJson (c.envelope version fingerprint nonce ciphertext).toVal) >>= fun v => dictOr v e) =
      .ok (c.envelope version fingerprint nonce ciphertext).sortKeys := by
  have hreadable : (c.envelope version fingerprint nonce ciphertext).toVal.Readable := by
    refine Val.readable_ofItems fun kv hkv => ?_
    simp only [List.mem_cons, List.not_mem_nil, or_false] at hkv
    rcases hkv with rfl | rfl | rfl | rfl | rfl | rfl | rfl <;> trivial
  rw [jsonLoadsBytes_canonicalJson hreadable, Dict.toVal_sortKeys, ok_bind]
  exact dictOr_ok.mpr (Val.asDict_toVal _)

omit [Runtime] [AesGcm] [FloatText] in
theorem get_envelope (c : AesGcmBlobCipher) (version fingerprint : String) (nonce ciphertext : ByteArray) :
    let e := (c.envelope version fingerprint nonce ciphertext).sortKeys
    e.get "version" = .str VERSION ∧ e.get "algorithm" = .str ALGORITHM ∧ e.get "domain_id" = .str c.domainId ∧
      e.get "key_version" = .str version ∧ e.get "fingerprint" = .str fingerprint ∧
      e.item "nonce" = .ok (.str (Py.b64encode nonce)) ∧ e.item "ciphertext" = .ok (.str (Py.b64encode ciphertext)) := by
  have hitem {k s : String} (h : (c.envelope version fingerprint nonce ciphertext).get k = .str s) :
      (c.envelope version fingerprint nonce ciphertext).sortKeys.item k = .ok (.str s) := by
    have hget : (c.envelope version fingerprint nonce ciphertext).sortKeys.get k = .str s := by
      rw [Dict.get_sortKeys, h, Val.sortKeys]
    rw [Dict.item_of_contains (Dict.contains_of_str hget), hget]
  simp only [Dict.get_sortKeys]
  refine ⟨?_, ?_, ?_, ?_, ?_, hitem ?_, hitem ?_⟩ <;>
    simp [envelope, Dict.ofItems, Dict.get_insert, Val.sortKeys]

/-- What was encrypted under the fingerprint of its plaintext is decrypted in every later state. -/
theorem decrypt_of_encrypt {c d : AesGcmBlobCipher} (h : Later c d) (hcurrent : c.currentKeyVersion ∈ c.acceptedKeyVersions)
    {plaintext ciphertext : ByteArray} {nonce : Nonce}
    (he : c.encrypt (sha256Bytes plaintext) plaintext nonce = .ok ciphertext) :
    d.decrypt (sha256Bytes plaintext) ciphertext = .ok plaintext := by
  obtain ⟨-, he⟩ := seq_ok.mp he
  obtain ⟨key, hkey, he⟩ := bind_ok.mp he
  obtain ⟨encoded, hencoded, he⟩ := bind_ok.mp he
  obtain rfl := Except.ok.inj he
  obtain ⟨hversion, halgorithm, hdomain, hkeyVersion, hfingerprint, hnonce, hcipher⟩ :=
    c.get_envelope c.currentKeyVersion (sha256Bytes plaintext) nonce.bytes encoded
  have hkey' : d.key c.currentKeyVersion = .ok key := by
    rw [← hkey, AesGcmBlobCipher.key, AesGcmBlobCipher.key, h.keyProvider, h.domainId]
  have haad : d.aad c.currentKeyVersion (sha256Bytes plaintext) = c.aad c.currentKeyVersion (sha256Bytes plaintext) := by
    rw [aad, aad, h.domainId]
  have haccepted : decryptEnvelope.keyAccepted d (.str c.currentKeyVersion) = .ok true := by
    rw [decryptEnvelope.keyAccepted, decide_eq_true (h.accepted hcurrent)]
  have hdecrypt := AesGcm.decrypt_encrypt (key_size hkey) nonce.size hencoded
  have hdomain' : (c.envelope c.currentKeyVersion (sha256Bytes plaintext) nonce.bytes encoded).sortKeys.get "domain_id" =
      .str d.domainId := by
    rw [hdomain, h.domainId]
  have hsize : (nonce.bytes.size != 12) = false := by rw [nonce.size]; rfl
  have hopen : d.decryptEnvelope (sha256Bytes plaintext)
      (canonicalJson (c.envelope c.currentKeyVersion (sha256Bytes plaintext) nonce.bytes encoded).toVal) = .ok plaintext := by
    rw [decryptEnvelope, ← bind_assoc, dictOr_envelope, ok_bind]
    simp only [differs_false.mpr hversion, differs_false.mpr halgorithm, differs_false.mpr hdomain',
      differs_false.mpr hfingerprint, hkeyVersion, Val.strText, haccepted, decodedField, hnonce, hcipher, ok_bind,
      b64decode_b64encode, hsize, hkey', haad, hdecrypt, pyNot, Except.map, Bool.not_true, raiseIfM, raiseIf,
      Bool.or_self, Bool.false_eq_true, ↓reduceIte, bne_self_eq_false, Except.bind]
    rfl
  rw [decrypt, hopen]

omit [FloatText] in
theorem encrypt_sha256 {c : AesGcmBlobCipher} {key plaintext encoded : ByteArray} {nonce : Nonce}
    (hkey : c.key c.currentKeyVersion = .ok key)
    (he : AesGcm.encrypt key nonce.bytes plaintext (c.aad c.currentKeyVersion (sha256Bytes plaintext)) = .ok encoded) :
    c.encrypt (sha256Bytes plaintext) plaintext nonce =
      .ok (canonicalJson (c.envelope c.currentKeyVersion (sha256Bytes plaintext) nonce.bytes encoded).toVal) := by
  have hlength : ((sha256Bytes plaintext).length != 64) = false := by rw [length_sha256Bytes]; rfl
  simp only [encrypt, hlength, raiseIf, hkey, he, Bool.false_eq_true, ↓reduceIte, ok_bind]
  rfl

/-- A ciphertext is rejected under every other fingerprint. -/
theorem decrypt_other {c d : AesGcmBlobCipher} {fingerprint other : String} (hne : other ≠ fingerprint)
    {plaintext ciphertext : ByteArray} {nonce : Nonce} (he : c.encrypt fingerprint plaintext nonce = .ok ciphertext) :
    d.decrypt other ciphertext = .error (storageEncryptionError "storage_envelope_binding_mismatch") := by
  obtain ⟨-, he⟩ := seq_ok.mp he
  obtain ⟨key, hkey, he⟩ := bind_ok.mp he
  obtain ⟨encoded, hencoded, he⟩ := bind_ok.mp he
  obtain rfl := Except.ok.inj he
  obtain ⟨hversion, halgorithm, -, -, hfingerprint, -, -⟩ :=
    c.get_envelope c.currentKeyVersion fingerprint nonce.bytes encoded
  have hother : differs (c.envelope c.currentKeyVersion fingerprint nonce.bytes encoded).sortKeys "fingerprint" other = true := by
    rw [differs_true, hfingerprint]
    exact fun h => hne (Val.str.inj h).symm
  have hopen : d.decryptEnvelope other (canonicalJson (c.envelope c.currentKeyVersion fingerprint nonce.bytes encoded).toVal) =
      .error (storageEncryptionError "storage_envelope_binding_mismatch") := by
    rw [decryptEnvelope, ← bind_assoc, dictOr_envelope, ok_bind]
    simp only [differs_false.mpr hversion, differs_false.mpr halgorithm, hother, Bool.or_self, Bool.or_true, raiseIf,
      Bool.false_eq_true, ↓reduceIte, ok_bind]
    rfl
  rw [decrypt, hopen]
  rfl

/-- A cipher as the store uses it, with the nonce that is drawn for each blob. -/
def blobCipher (c : AesGcmBlobCipher) (h : c.currentKeyVersion ∈ c.acceptedKeyVersions) (nonces : String → ByteArray → Nonce) :
    BlobCipher where
  encrypt fingerprint plaintext := c.encrypt fingerprint plaintext (nonces fingerprint plaintext)
  decrypt := c.decrypt
  decrypt_encrypt := by
    rintro fingerprint plaintext ciphertext rfl he
    exact decrypt_of_encrypt (later_refl h) h he

/-- In every state that a run of rotations and encryptions reaches: what is encrypted is decrypted in every later state,
and under its own fingerprint only; a rotation that fails changes nothing; the current version is accepted, and what is
accepted stays so. -/
theorem survives_rotation {keyProvider : String → Except Exc ByteArray} {keyEscrow : Bool}
    {domainId currentKeyVersion : String} {acceptedKeyVersions : Option (List String)} {c : AesGcmBlobCipher}
    (h : create keyProvider keyEscrow domainId currentKeyVersion acceptedKeyVersions = .ok c) (before after : List Call) :
    let s := Machine.run step c before
    let t := Machine.run step s after
    (∀ plaintext ciphertext nonce, s.encrypt (sha256Bytes plaintext) plaintext nonce = .ok ciphertext →
      t.decrypt (sha256Bytes plaintext) ciphertext = .ok plaintext ∧
        ∀ other ≠ sha256Bytes plaintext,
          t.decrypt other ciphertext = .error (storageEncryptionError "storage_envelope_binding_mismatch")) ∧
      (∀ version escrowed e, (s.rotate version escrowed).1 = .error e → (s.rotate version escrowed).2 = s) ∧
      s.currentKeyVersion ∈ s.acceptedKeyVersions ∧ s.acceptedKeyVersions ⊆ t.acceptedKeyVersions := by
  intro s t
  have hs : Later c s := later_run (create_ok h).1 before
  have ht : Later s t := later_run hs.current after
  refine ⟨fun plaintext ciphertext nonce he => ?_, fun version escrowed e he => ?_, hs.current, ht.accepted⟩
  · exact ⟨decrypt_of_encrypt ht hs.current he, fun other hne => decrypt_other hne he⟩
  · rcases s.rotate_cases version escrowed with ⟨e', hfail⟩ | ⟨-, hok⟩
    · rw [hfail]
    · rw [hok] at he
      cases he

end

/-! A blob encrypted before a rotation and read after it. -/

def exampleBlob : ByteArray := "x\n".toUTF8

def exampleNonce : Nonce := ⟨⟨Array.replicate 12 7⟩, by simp [ByteArray.size]⟩

def exampleKey : ByteArray := ⟨Array.replicate 32 1⟩

def exampleCipher : AesGcmBlobCipher := ⟨fun _ => .ok exampleKey, true, "STORE_BLOB", "V1", {"V1"}⟩

theorem survives_rotation_example :
    letI := asciiRuntime
    letI := aes256Gcm
    letI := withoutFloats
    create (fun _ => .ok exampleKey) true "STORE_BLOB" "V1" none = .ok exampleCipher ∧
      (exampleCipher.rotate "V2" (.ok ())).2.currentKeyVersion = "V2" ∧
      ∃ ciphertext, exampleCipher.encrypt (sha256Bytes exampleBlob) exampleBlob exampleNonce = .ok ciphertext ∧
        (exampleCipher.rotate "V2" (.ok ())).2.decrypt (sha256Bytes exampleBlob) ciphertext = .ok exampleBlob := by
  let := asciiRuntime
  let := aes256Gcm
  let := withoutFloats
  have hcreate : create (fun _ => .ok exampleKey) true "STORE_BLOB" "V1" none = .ok exampleCipher := rfl
  have hsize : ¬ (2 ^ 31 - 1 < exampleBlob.size ∨ 2 ^ 31 - 1 < (exampleCipher.aad "V1" (sha256Bytes exampleBlob)).size) := by
    decide +kernel
  have hencrypt : exampleCipher.encrypt (sha256Bytes exampleBlob) exampleBlob exampleNonce = .ok _ :=
    encrypt_sha256 rfl (if_neg hsize)
  refine ⟨hcreate, rfl, _, hencrypt, ?_⟩
  exact ((survives_rotation hcreate [] [.rotate "V2" (.ok ())]).1 exampleBlob _ exampleNonce hencrypt).1

end AesGcmBlobCipher

end Pmiri
