import Mathlib.Logic.Function.Basic
import Pmiri.Privacy.Traces

/-!
# Traces under tampering

Whose payload a read returns when others have written into the directory. The
cipher is taken to be ideal: what decrypts under the store's key was encrypted
by a capture. A read then returns the payload of some capture, and of the one
under its trace id only as far as the file is not put together from the parts
of another: the trace id is not authenticated.
-/

namespace Pmiri

open Py

namespace EncryptedTraceStore

section

variable [CharacterCases] [AesGcm] [FloatText] [Runtime] {store : EncryptedTraceStore}

/-- A record that goes as that of a trace under `traceId`: its authenticated parts are those of the trace, and the rest
fits. -/
structure Presents (record : Dict) (traceId : String) (c : SealedTrace store) : Prop where
  traceId : record.get "trace_id" = .str traceId
  keyDomain : record.get "key_domain" = .str store.policy.keyDomain
  capturedAt : record.get "captured_at" = .str c.capturedAt
  expiresAt : record.get "expires_at" = .str c.expiresAt
  aadFingerprint : record.get "aad_fingerprint" = .str (sha256Bytes c.aad)
  payloadFingerprint : record.get "payload_fingerprint" = .str (sha256Bytes c.payload.plaintext)
  nonce : decodedField record "nonce" = .ok c.nonce.bytes
  ciphertext : decodedField record "ciphertext" = .ok c.ciphertext

/-- The authenticated data that a record asks for. -/
def recordAad (store : EncryptedTraceStore) (record : Dict) : ByteArray :=
  traceAad store.policy.keyDomain (record.get "captured_at") (record.get "expires_at")

/-- What the record holds and decrypts was encrypted by the store. -/
def Authentic (traces : List (SealedTrace store)) (record : Dict) : Prop :=
  ∀ key nonce ciphertext plaintext, store.keyProvider store.policy.keyDomain = .ok key →
    decodedField record "nonce" = .ok nonce → decodedField record "ciphertext" = .ok ciphertext →
    AesGcm.decrypt key nonce ciphertext (recordAad store record) = some plaintext →
    ∃ c ∈ traces, c.nonce.bytes = nonce ∧ c.ciphertext = ciphertext ∧ c.aad = recordAad store record

/-- The file of a trace id holds a record. -/
def FileHolds (root : TraceRoot store) (traceId : String) (record : Dict) : Prop :=
  ∃ v hv, root.files traceId = some (.holds v hv) ∧ v.asDict = some record

/-- No file holds a forgery. -/
def Unforged (root : TraceRoot store) : Prop := ∀ traceId record, FileHolds root traceId record → Authentic root.encrypted record

omit [Runtime] [AesGcm] [CharacterCases] in
/-- The authenticated data say what they are of. -/
theorem traceAad_inj {keyDomain capturedAt expiresAt : String} {v w : Val} (hv : v.Readable) (hw : w.Readable)
    (h : traceAad keyDomain (.str capturedAt) (.str expiresAt) = traceAad keyDomain v w) :
    v = .str capturedAt ∧ w = .str expiresAt := by
  have hreadable {x y : Val} (hx : x.Readable) (hy : y.Readable) :
      (Dict.ofItems [("domain_id", .str keyDomain), ("captured_at", x), ("expires_at", y)]).toVal.Readable := by
    refine Val.readable_ofItems fun kv hkv => ?_
    simp only [List.mem_cons, List.not_mem_nil, or_false] at hkv
    rcases hkv with rfl | rfl | rfl
    · trivial
    · exact hx
    · exact hy
  have hstr (s : String) : (Val.str s).Readable := trivial
  have hsame := sortKeys_eq_of_json (hreadable (hstr _) (hstr _)) (hreadable hv hw) (canonicalJson_inj h)
  rw [Dict.toVal_sortKeys, Dict.toVal_sortKeys] at hsame
  have hget (k : String) := congrArg (fun d : Dict => d.get k) (Dict.toVal_inj hsame)
  simp only [Dict.get_sortKeys] at hget
  have hcaptured := hget "captured_at"
  have hexpires := hget "expires_at"
  simp only [Dict.ofItems, List.foldl_cons, List.foldl_nil, Dict.get_insert] at hcaptured hexpires
  simp only [String.reduceEq, ↓reduceIte] at hcaptured hexpires
  exact ⟨Val.sortKeys_eq_str.mp hcaptured.symm, Val.sortKeys_eq_str.mp hexpires.symm⟩

omit [Runtime] in
/-- What a trace was encrypted with decrypts it. -/
theorem decrypt_trace (c : SealedTrace store) {key : ByteArray} (h : store.keyProvider store.policy.keyDomain = .ok key) :
    AesGcm.decrypt key c.nonce.bytes c.ciphertext c.aad = some c.payload.plaintext := by
  obtain rfl := Except.ok.inj (c.keyProvided.symm.trans h)
  exact AesGcm.decrypt_encrypt c.keySize c.nonce.size c.encrypted

omit [Runtime] in
theorem inRange_expires (c : SealedTrace store) : inRange c.expires = true := by
  obtain ⟨t, -, h⟩ := bind_ok.mp c.deadline
  dsimp only at h
  split at h
  · rename_i hrange
    exact Except.ok.inj h ▸ hrange
  · cases h

theorem timeField_expires {record : Dict} {traceId : String} {c : SealedTrace store} (h : Presents record traceId c) :
    timeField record "expires_at" = .ok c.expires := by
  have hitem : record.item "expires_at" = .ok (.str c.expiresAt) := by
    rw [Dict.item_of_contains (Dict.contains_of_str h.expiresAt), h.expiresAt]
  have hparse : parseTime c.expiresAt = .ok c.expires := parseTime_instantText (inRange_expires c)
  simp only [timeField, hitem, ok_bind, hparse]

/-- A record that goes as that of a trace is opened until the trace expires, whichever the trace id is. -/
theorem openRecord_of_presents {record : Dict} {traceId now : String} {c : SealedTrace store} {t : Int}
    (h : Presents record traceId c) (hnow : parseTime now = .ok t) (ht : t < c.expires) :
    store.openRecord record traceId now = .ok c.payload.dict.sortKeys := by
  have hitem : record.item "captured_at" = .ok (.str c.capturedAt) := by
    rw [Dict.item_of_contains (Dict.contains_of_str h.capturedAt), h.capturedAt]
  have haad : traceAad store.policy.keyDomain (.str c.capturedAt) (record.get "expires_at") = c.aad := by
    rw [h.expiresAt]
    rfl
  have hloads : jsonLoadsBytes c.payload.plaintext = .ok c.payload.dict.sortKeys.toVal := by
    rw [TracePayload.plaintext, AesGcmBlobCipher.jsonLoadsBytes_canonicalJson c.payload.readable, Dict.toVal_sortKeys]
  have hdict (e : Exc) : dictOr c.payload.dict.sortKeys.toVal e = .ok c.payload.dict.sortKeys :=
    dictOr_ok.mpr (Val.asDict_toVal _)
  have hfuture : decide (c.expires ≤ t) = false := decide_eq_false (by omega)
  simp only [openRecord, differs_false.mpr h.traceId, differs_false.mpr h.keyDomain, hnow, timeField_expires h, hfuture,
    h.keyDomain, Val.strText, hitem, haad, differs_false.mpr h.aadFingerprint, h.ciphertext, c.keyProvided, h.nonce,
    decrypt_trace c c.keyProvided, differs_false.mpr h.payloadFingerprint, hloads, hdict, raising, raiseTraceIf, Bool.or_self,
    Bool.false_eq_true, ↓reduceIte, ok_bind]

/-- A record that is opened goes as that of a trace, if it is no forgery. -/
theorem presents_of_openRecord {traces : List (SealedTrace store)} {record payload : Dict} {traceId now : String}
    (hauthentic : Authentic traces record) (hreadable : record.toVal.Readable)
    (h : store.openRecord record traceId now = .ok payload) :
    ∃ c ∈ traces, Presents record traceId c ∧ payload = c.payload.dict.sortKeys ∧ ∃ t, parseTime now = .ok t ∧ t < c.expires := by
  have hopened := h
  obtain ⟨hnames, h⟩ := seq_ok.mp h
  obtain ⟨t, hnow, h⟩ := bind_ok.mp h
  obtain ⟨expires, hexpires, h⟩ := bind_ok.mp h
  obtain ⟨hfuture, h⟩ := seq_ok.mp h
  obtain ⟨capturedAt, hcapturedAt, h⟩ := bind_ok.mp h
  obtain ⟨haad, h⟩ := seq_ok.mp h
  obtain ⟨ciphertext, hciphertext, h⟩ := bind_ok.mp h
  obtain ⟨key, hkey, h⟩ := bind_ok.mp h
  obtain ⟨nonce, hnonce, h⟩ := bind_ok.mp h
  simp only [raiseTraceIf_ok, Bool.or_eq_false_iff, differs_false, decide_eq_false_iff_not, not_le, raising_ok]
    at hnames hnow hexpires hfuture hcapturedAt haad hciphertext hnonce
  obtain ⟨htraceId, hkeyDomain⟩ := hnames
  obtain rfl := Dict.get_of_item hcapturedAt
  simp only [hkeyDomain, Val.strText] at h haad hkey
  split at h
  · cases h
  · rename_i plaintext hdecrypt
    obtain ⟨hfingerprint, -⟩ := seq_ok.mp h
    rw [raiseTraceIf_ok, differs_false] at hfingerprint
    obtain ⟨c, hc, rfl, rfl, hcaad⟩ := hauthentic key nonce ciphertext plaintext hkey hnonce hciphertext hdecrypt
    obtain ⟨hcaptured, hexpiresAt⟩ := traceAad_inj (Val.readable_get hreadable _) (Val.readable_get hreadable _) hcaad
    have hplaintext : plaintext = c.payload.plaintext := by
      have := decrypt_trace c hkey
      rw [hcaad] at this
      exact Option.some.inj (hdecrypt.symm.trans this)
    subst hplaintext
    have hpresents : Presents record traceId c :=
      ⟨htraceId, hkeyDomain, hcaptured, hexpiresAt, by rw [haad, hcaad]; rfl, hfingerprint, hnonce, hciphertext⟩
    obtain rfl := Except.ok.inj ((timeField_expires hpresents).symm.trans hexpires)
    have hopen := openRecord_of_presents hpresents hnow hfuture
    exact ⟨c, hc, hpresents, Except.ok.inj (hopened.symm.trans hopen), t, hnow, hfuture⟩

/-! ## Reads -/

/-- What a read with an allowed role returns: the payload of a trace that has not expired, and that the file of the trace
id goes as. -/
theorem read_ok_iff {root : TraceRoot store} (h : Unforged root) {traceId actorRole : String} {now : Option String}
    {clock : Instant} (hrole : actorRole ∈ store.policy.allowedAccessRoles) (payload : Dict) :
    store.read root traceId actorRole now clock = .ok payload ↔
      isTraceId traceId = true ∧ ∃ record, FileHolds root traceId record ∧ ∃ c ∈ root.encrypted, Presents record traceId c ∧
        payload = c.payload.dict.sortKeys ∧ ∃ t, parseTime (orNow now clock) = .ok t ∧ t < c.expires := by
  have hallowed : (!store.policy.allowedAccessRoles.contains actorRole) = false := by
    simpa using hrole
  rw [read, hallowed, if_neg (by decide)]
  cases hid : isTraceId traceId with
  | false => simp
  | true =>
    rw [if_neg (by decide)]
    constructor
    · intro hread
      split at hread
      · cases hread
      · rename_i file hfile
        split at hread
        · rename_i p hp
          obtain rfl := Except.ok.inj hread
          cases file with
          | unreadable e => cases hp
          | holds v hv =>
            rw [readFile] at hp
            split at hp
            · cases hp
            · rename_i record hrecord
              have hholds : FileHolds root traceId record := ⟨v, hv, hfile, hrecord⟩
              exact ⟨rfl, record, hholds, presents_of_openRecord (h traceId record hholds) (Val.readable_asDict hv hrecord) hp⟩
        · cases hread
    · rintro ⟨-, record, ⟨v, hv, hfile, hrecord⟩, c, -, hpresents, rfl, t, hnow, ht⟩
      simp only [hfile, readFile, hrecord, openRecord_of_presents hpresents hnow ht]

/-- The trace is that of the id: its payload is the one returned, and it has not expired. -/
def IsOwn (root : TraceRoot store) (traceId now : String) (payload : Dict) : Prop :=
  ∃ c ∈ root.recorded, c.traceId = traceId ∧ c.payload.dict.sortKeys = payload ∧ ∃ t, parseTime now = .ok t ∧ t < c.expires

/-- Whatever trace the file of the id goes as, as long as it has not expired, a trace captured under the id has the same
payload and has not expired either. -/
def KeepsToItsOwn (root : TraceRoot store) (traceId now : String) : Prop :=
  ∀ record c t, FileHolds root traceId record → c ∈ root.encrypted → Presents record traceId c → parseTime now = .ok t →
    t < c.expires →
    ∃ c' ∈ root.recorded, c'.traceId = traceId ∧ c'.payload.dict.sortKeys = c.payload.dict.sortKeys ∧ t < c'.expires

/-! ## Runs -/

/-- What happens to the directory of a store: a capture, or others write the file of a trace id or remove it. -/
inductive Event where
  | capture (payload : TracePayload) (actorRole : String) (capturedAt : Option String) (clock : Instant) (nonce : Nonce)
      (token : Token) (written : Except Exc Unit)
  | tamper (traceId : String) (file : Option TraceFile)

def step (root : TraceRoot store) : Event → TraceRoot store
  | .capture payload actorRole capturedAt clock nonce token written =>
    (store.capture root payload actorRole capturedAt clock nonce token written).2
  | .tamper traceId file => { root with files := Function.update root.files traceId file }

/-- The directory before the first capture. -/
def emptyRoot (store : EncryptedTraceStore) : TraceRoot store := { files := fun _ => none }

/-! ## Records of the store -/

omit [AesGcm] [CharacterCases] [FloatText] [Runtime] in
theorem decodedField_of_get {record : Dict} {field : String} {b : ByteArray} (h : record.get field = .str (Py.b64encode b)) :
    decodedField record field = .ok b := by
  simp only [decodedField, Dict.item_of_contains (Dict.contains_of_str h), h, ok_bind, b64decode_b64encode]

theorem get_record (c : SealedTrace store) {field s : String} (h : c.record.get field = .str s) :
    c.record.sortKeys.get field = .str s := by
  rw [Dict.get_sortKeys, h, Val.sortKeys]

/-- The record of a trace goes as that of the trace under its id. -/
theorem presents_record (c : SealedTrace store) : Presents c.record.sortKeys c.traceId c := by
  constructor
  case nonce => exact decodedField_of_get (get_record c (by simp [SealedTrace.record, Dict.ofItems, Dict.get_insert]))
  case ciphertext => exact decodedField_of_get (get_record c (by simp [SealedTrace.record, Dict.ofItems]))
  all_goals
    apply get_record
    simp [SealedTrace.record, Dict.ofItems, Dict.get_insert]

/-- A record that goes as that of an encrypted trace is no forgery. -/
theorem authentic_of_presents {traces : List (SealedTrace store)} {record : Dict} {traceId : String} {c : SealedTrace store}
    (hc : c ∈ traces) (h : Presents record traceId c) : Authentic traces record := by
  intro key nonce ciphertext plaintext hkey hnonce hciphertext hdecrypt
  refine ⟨c, hc, Except.ok.inj (h.nonce.symm.trans hnonce), Except.ok.inj (h.ciphertext.symm.trans hciphertext), ?_⟩
  rw [recordAad, h.capturedAt, h.expiresAt]
  rfl

omit [Runtime] in
/-- A trace is what the capture that encrypted it makes. -/
theorem sealTrace_eq (c : SealedTrace store) : store.sealTrace c.payload c.capturedAt c.nonce c.token = .ok c := by
  obtain ⟨token, payload, capturedAt, expires, hdeadline, key, hkey, hsize, nonce, ciphertext, hencrypted⟩ := c
  unfold sealTrace
  dsimp only
  split
  · rename_i e he
    exact nomatch he.symm.trans hdeadline
  · rename_i expires' hdeadline'
    obtain rfl := Except.ok.inj (hdeadline.symm.trans hdeadline')
    split
    · rename_i e he
      exact nomatch he.symm.trans hkey
    · rename_i key' hkey'
      obtain rfl := Except.ok.inj (hkey.symm.trans hkey')
      rw [dif_pos hsize]
      split
      · rename_i e he
        exact nomatch he.symm.trans hencrypted
      · rename_i ciphertext' he
        obtain rfl := Except.ok.inj (hencrypted.symm.trans he)
        rfl

/-- Records that go as two traces make the traces one, up to the order of the payload. -/
theorem presents_unique {record : Dict} {traceId traceId' : String} {c c' : SealedTrace store} (h : Presents record traceId c)
    (h' : Presents record traceId' c') : c.payload.dict.sortKeys = c'.payload.dict.sortKeys ∧ c.expires = c'.expires := by
  have hexpires := Except.ok.inj ((timeField_expires h).symm.trans (timeField_expires h'))
  have hcaptured := Val.str.inj (h.capturedAt.symm.trans h'.capturedAt)
  have haad : c.aad = c'.aad := by
    rw [SealedTrace.aad, SealedTrace.aad, hcaptured, SealedTrace.expiresAt, SealedTrace.expiresAt, hexpires]
  have hdecrypt := decrypt_trace c c'.keyProvided
  rw [Except.ok.inj (h.nonce.symm.trans h'.nonce), Except.ok.inj (h.ciphertext.symm.trans h'.ciphertext), haad,
    decrypt_trace c' c'.keyProvided, Option.some.injEq] at hdecrypt
  refine ⟨Dict.toVal_inj ?_, hexpires⟩
  rw [← Dict.toVal_sortKeys, ← Dict.toVal_sortKeys]
  exact sortKeys_eq_of_json c.payload.readable c'.payload.readable (canonicalJson_inj hdecrypt.symm)

/-- Without tampering a file is that of a trace recorded under its id. -/
structure Kept (root : TraceRoot store) : Prop where
  own : ∀ traceId file, root.files traceId = some file → ∃ c ∈ root.recorded, c.traceId = traceId ∧ file = fileOf c
  encrypted : ∀ c ∈ root.recorded, c ∈ root.encrypted

theorem kept_record {root : TraceRoot store} (h : Kept root) {traceId : String} {record : Dict}
    (hholds : FileHolds root traceId record) :
    ∃ c ∈ root.recorded, c.traceId = traceId ∧ record = c.record.sortKeys := by
  obtain ⟨v, hv, hfile, hrecord⟩ := hholds
  obtain ⟨c, hc, hid, hfileOf⟩ := h.own traceId _ hfile
  cases hfileOf
  rw [Val.asDict_toVal, Option.some.injEq] at hrecord
  exact ⟨c, hc, hid, hrecord.symm⟩

theorem unforged_of_kept {root : TraceRoot store} (h : Kept root) : Unforged root := by
  intro traceId record hholds
  obtain ⟨c, hc, -, rfl⟩ := kept_record h hholds
  exact authentic_of_presents (h.encrypted c hc) (presents_record c)

theorem keepsToItsOwn_of_kept {root : TraceRoot store} (h : Kept root) (traceId now : String) : KeepsToItsOwn root traceId now := by
  intro record c t hholds _ hpresents _ ht
  obtain ⟨c', hc', hid, rfl⟩ := kept_record h hholds
  obtain ⟨hpayload, hexpires⟩ := presents_unique hpresents (presents_record c')
  exact ⟨c', hc', hid, hpayload.symm, hexpires ▸ ht⟩

/-- What a capture does to the directory. -/
theorem capture_cases (root : TraceRoot store) (payload : TracePayload) (actorRole : String) (capturedAt : Option String)
    (clock : Instant) (nonce : Nonce) (token : Token) (written : Except Exc Unit) :
    (store.capture root payload actorRole capturedAt clock nonce token written).2 = root ∨
      ∃ c, (store.capture root payload actorRole capturedAt clock nonce token written).2 = withEncrypted root c ∨
        (store.capture root payload actorRole capturedAt clock nonce token written).2 = withFile (withEncrypted root c) c := by
  rw [capture]
  split
  · exact .inl rfl
  · split
    · exact .inl rfl
    · split
      · exact .inl rfl
      · rename_i c _
        dsimp only
        split
        · exact .inr ⟨c, .inl rfl⟩
        · exact .inr ⟨c, .inr rfl⟩

theorem files_withFile (root : TraceRoot store) (c : SealedTrace store) (traceId : String) :
    (withFile root c).files traceId = if traceId = c.traceId then some (fileOf c) else root.files traceId := by
  exact Function.update_apply root.files c.traceId (some (fileOf c)) traceId

theorem kept_withEncrypted {root : TraceRoot store} (h : Kept root) (c : SealedTrace store) : Kept (withEncrypted root c) :=
  ⟨h.own, fun c' hc' => List.mem_append_left _ (h.encrypted c' hc')⟩

theorem kept_withFile {root : TraceRoot store} (h : Kept root) {c : SealedTrace store} (hc : c ∈ root.encrypted) :
    Kept (withFile root c) := by
  constructor
  · intro traceId file hfile
    rw [files_withFile] at hfile
    split at hfile
    · rename_i hid
      exact ⟨c, List.mem_append_right _ List.mem_cons_self, hid.symm, (Option.some.inj hfile).symm⟩
    · obtain ⟨c', hc', hown⟩ := h.own traceId file hfile
      exact ⟨c', List.mem_append_left _ hc', hown⟩
  · intro c' hc'
    rcases List.mem_append.mp hc' with hc' | hc'
    · exact h.encrypted c' hc'
    · obtain rfl := List.mem_singleton.mp hc'
      exact hc

theorem kept_capture {root : TraceRoot store} (h : Kept root) (payload : TracePayload) (actorRole : String)
    (capturedAt : Option String) (clock : Instant) (nonce : Nonce) (token : Token) (written : Except Exc Unit) :
    Kept (store.capture root payload actorRole capturedAt clock nonce token written).2 := by
  rcases capture_cases root payload actorRole capturedAt clock nonce token written with hroot | ⟨c, hroot | hroot⟩
  · rw [hroot]
    exact h
  · rw [hroot]
    exact kept_withEncrypted h c
  · rw [hroot]
    exact kept_withFile (kept_withEncrypted h c) (List.mem_append_right _ List.mem_cons_self)

def Event.IsCapture : Event → Prop
  | .capture .. => True
  | .tamper .. => False

theorem kept_run {events : List Event} (h : ∀ event ∈ events, event.IsCapture) :
    Kept (Machine.run step (emptyRoot store) events) := by
  have hempty : Kept (emptyRoot store) := ⟨nofun, nofun⟩
  have hstep (root : TraceRoot store) (event : Event) (hroot : Kept root) : event.IsCapture → Kept (step root event) := by
    intro hevent
    cases event with
    | capture payload actorRole capturedAt clock nonce token written => exact kept_capture hroot _ _ _ _ _ _ _
    | tamper traceId file => exact hevent.elim
  exact Machine.run_invariant step Kept hstep hempty (Machine.along_of_forall step h)

/-- Without tampering every read returns what was captured under its trace id, before the expiry. -/
theorem reads_own_untampered {events : List Event} (h : ∀ event ∈ events, event.IsCapture) {traceId actorRole : String}
    {now : Option String} {clock : Instant} (hrole : actorRole ∈ store.policy.allowedAccessRoles) {payload : Dict}
    (hread : store.read (Machine.run step (emptyRoot store) events) traceId actorRole now clock = .ok payload) :
    IsOwn (Machine.run step (emptyRoot store) events) traceId (orNow now clock) payload := by
  have hkept : Kept (Machine.run step (emptyRoot store) events) := kept_run h
  obtain ⟨-, record, hholds, c, hc, hpresents, rfl, t, hnow, ht⟩ := (read_ok_iff (unforged_of_kept hkept) hrole payload).mp hread
  obtain ⟨c', hc', hid, hpayload, ht'⟩ := keepsToItsOwn_of_kept hkept traceId _ record c t hholds hc hpresents hnow ht
  exact ⟨c', hc', hid, hpayload, t, hnow, ht'⟩

/-! ## Exchanged records -/

/-- The capture that a trace is of. -/
def captureOf (c : SealedTrace store) (actorRole : String) (clock : Instant) : Event :=
  .capture c.payload actorRole (some c.capturedAt) clock c.nonce c.token (.ok ())

theorem step_captureOf (henabled : store.policy.captureEnabled = true) {actorRole : String}
    (hrole : actorRole ∈ store.policy.allowedAccessRoles) (root : TraceRoot store) (c : SealedTrace store) (clock : Instant) :
    step root (captureOf c actorRole clock) = withFile (withEncrypted root c) c := by
  have hallowed : (!store.policy.allowedAccessRoles.contains actorRole) = false := by
    simpa using hrole
  have hnow : orNow (some c.capturedAt) clock = c.capturedAt := by
    refine nowOr_some (fun hempty => ?_) _
    have hdeadline := c.deadline
    rw [hempty, deadline, show parseTime "" = .error (valueError "Invalid isoformat string") from rfl] at hdeadline
    cases hdeadline
  simp only [step, captureOf, capture, henabled, hallowed, hnow, sealTrace_eq, Bool.not_true, Bool.false_eq_true, ↓reduceIte]

/-- A record with another trace id written into it. -/
def renamed (record : Dict) (traceId : String) : Dict := record.insert "trace_id" (.str traceId)

omit [AesGcm] [FloatText] [CharacterCases] [Runtime] in
theorem decodedField_renamed (record : Dict) (traceId : String) {field : String} (hne : field ≠ "trace_id") :
    decodedField (renamed record traceId) field = decodedField record field := by
  have hitem : (renamed record traceId).item field = record.item field := by
    rw [renamed, Dict.item, Dict.get?_insert, if_neg hne, Dict.item]
  rw [decodedField, decodedField, hitem]

/-- It goes as that of the same trace. -/
theorem presents_renamed {record : Dict} {traceId : String} {c : SealedTrace store} (h : Presents record traceId c)
    (traceId' : String) : Presents (renamed record traceId') traceId' c := by
  have hget {field : String} (hne : field ≠ "trace_id") : (renamed record traceId').get field = record.get field := by
    rw [renamed, Dict.get_insert, if_neg hne]
  exact {
    traceId := Dict.get_insert_self _ _ _
    keyDomain := (hget (by decide)).trans h.keyDomain
    capturedAt := (hget (by decide)).trans h.capturedAt
    expiresAt := (hget (by decide)).trans h.expiresAt
    aadFingerprint := (hget (by decide)).trans h.aadFingerprint
    payloadFingerprint := (hget (by decide)).trans h.payloadFingerprint
    nonce := (decodedField_renamed record traceId' (by decide)).trans h.nonce
    ciphertext := (decodedField_renamed record traceId' (by decide)).trans h.ciphertext }

/-- The file of a trace, copied under another trace id. -/
def renamedFile (c : SealedTrace store) (traceId : String) : TraceFile :=
  .holds (renamed c.record.sortKeys traceId).toVal (by
    refine Val.readable_toVal.mpr fun kv hkv => ?_
    rcases Dict.mem_insert_items hkv with hkv | rfl
    · exact Val.readable_toVal.mp (readable_record c) kv hkv
    · trivial)

/-- Two captures, and the file of the second is copied over that of the first. -/
def exchange (a b : SealedTrace store) (actorRole : String) (clock : Instant) : List Event :=
  [captureOf a actorRole clock, captureOf b actorRole clock, .tamper a.traceId (some (renamedFile b a.traceId))]

theorem fileHolds_tamper {root : TraceRoot store} {traceId traceId' : String} {file : TraceFile} {record : Dict} :
    FileHolds (step root (.tamper traceId (some file))) traceId' record ↔
      if traceId' = traceId then ∃ v hv, file = .holds v hv ∧ v.asDict = some record else FileHolds root traceId' record := by
  have hfile : (step root (.tamper traceId (some file))).files traceId' =
      if traceId' = traceId then some file else root.files traceId' :=
    Function.update_apply root.files traceId (some file) traceId'
  rw [FileHolds, hfile]
  split
  · simp only [Option.some.injEq]
  · rfl

/-- The directory before the file is copied. -/
def captured (a b : SealedTrace store) : TraceRoot store :=
  withFile (withEncrypted (withFile (withEncrypted (emptyRoot store) a) a) b) b

theorem kept_captured (a b : SealedTrace store) : Kept (captured a b) := by
  have hempty : Kept (emptyRoot store) := ⟨nofun, nofun⟩
  have ha : Kept (withFile (withEncrypted (emptyRoot store) a) a) :=
    kept_withFile (kept_withEncrypted hempty a) (List.mem_append_right _ List.mem_cons_self)
  exact kept_withFile (kept_withEncrypted ha b) (List.mem_append_right _ List.mem_cons_self)

theorem run_exchange (henabled : store.policy.captureEnabled = true) {actorRole : String}
    (hrole : actorRole ∈ store.policy.allowedAccessRoles) (a b : SealedTrace store) (clock : Instant) :
    Machine.run step (emptyRoot store) (exchange a b actorRole clock) =
      step (captured a b) (.tamper a.traceId (some (renamedFile b a.traceId))) := by
  simp only [exchange, Machine.run, List.foldl_cons, List.foldl_nil, step_captureOf henabled hrole, captured]

/-- The file of the second trace has been left alone. -/
theorem keepsToItsOwn_exchanged (henabled : store.policy.captureEnabled = true) {actorRole : String}
    (hrole : actorRole ∈ store.policy.allowedAccessRoles) {a b : SealedTrace store} (hne : b.traceId ≠ a.traceId)
    (clock : Instant) (now : String) :
    KeepsToItsOwn (Machine.run step (emptyRoot store) (exchange a b actorRole clock)) b.traceId now := by
  rw [run_exchange henabled hrole]
  intro record c t hholds _ hpresents _ ht
  rw [fileHolds_tamper, if_neg hne] at hholds
  obtain ⟨c', hc', hid, rfl⟩ := kept_record (kept_captured a b) hholds
  obtain ⟨hpayload, hexpires⟩ := presents_unique hpresents (presents_record c')
  exact ⟨c', hc', hid, hpayload.symm, hexpires ▸ ht⟩

/-- No file is forged, and under the id of the first trace the payload of the second is read. -/
theorem read_exchanged (henabled : store.policy.captureEnabled = true) {actorRole : String}
    (hrole : actorRole ∈ store.policy.allowedAccessRoles) (a b : SealedTrace store) {now : Option String} {clock : Instant}
    {t : Int} (hnow : parseTime (orNow now clock) = .ok t) (ht : t < b.expires) :
    let root := Machine.run step (emptyRoot store) (exchange a b actorRole clock)
    Unforged root ∧ root.recorded = [a, b] ∧
      store.read root a.traceId actorRole now clock = .ok b.payload.dict.sortKeys := by
  intro root
  have hroot : root = step (captured a b) (.tamper a.traceId (some (renamedFile b a.traceId))) := run_exchange henabled hrole a b clock
  have hmem : b ∈ root.encrypted := by
    rw [hroot]
    exact List.mem_cons_of_mem _ List.mem_cons_self
  have hpresents : Presents (renamed b.record.sortKeys a.traceId) a.traceId b := presents_renamed (presents_record b) a.traceId
  have hunforged : Unforged root := by
    intro traceId record hholds
    rw [hroot, fileHolds_tamper] at hholds
    split at hholds
    · obtain ⟨v, hv, hfile, hrecord⟩ := hholds
      cases hfile
      rw [Val.asDict_toVal, Option.some.injEq] at hrecord
      subst hrecord
      exact authentic_of_presents hmem hpresents
    · rw [hroot]
      exact unforged_of_kept (kept_captured a b) traceId record hholds
  have hholds : FileHolds root a.traceId (renamed b.record.sortKeys a.traceId) := by
    rw [hroot, fileHolds_tamper, if_pos rfl]
    exact ⟨_, _, rfl, Val.asDict_toVal _⟩
  refine ⟨hunforged, by rw [hroot]; rfl, ?_⟩
  exact (read_ok_iff hunforged hrole _).mpr ⟨a.token.isTraceId, _, hholds, b, hmem, hpresents, rfl, t, hnow, ht⟩

/-! ## Tampered runs -/

/-- After any captures and any tampering with the files, under an ideal cipher: a read returns nothing but what was
captured under its trace id, and only before the expiry, exactly when the file of the id keeps to its own. -/
theorem reads_own_iff (events : List Event) (h : Unforged (Machine.run step (emptyRoot store) events)) {actorRole : String}
    (hrole : actorRole ∈ store.policy.allowedAccessRoles) (traceId : String) (now : Option String) (clock : Instant) :
    let root := Machine.run step (emptyRoot store) events
    (∀ payload, store.read root traceId actorRole now clock = .ok payload → IsOwn root traceId (orNow now clock) payload) ↔
      (isTraceId traceId = true → KeepsToItsOwn root traceId (orNow now clock)) := by
  intro root
  constructor
  · intro hreads hid record c t hholds hc hpresents hnow ht
    have hread := (read_ok_iff h hrole _).mpr ⟨hid, record, hholds, c, hc, hpresents, rfl, t, hnow, ht⟩
    obtain ⟨c', hc', hid', hpayload, t', hnow', ht'⟩ := hreads _ hread
    obtain rfl := Except.ok.inj (hnow.symm.trans hnow')
    exact ⟨c', hc', hid', hpayload, ht'⟩
  · intro hkeeps payload hread
    obtain ⟨hid, record, hholds, c, hc, hpresents, rfl, t, hnow, ht⟩ := (read_ok_iff h hrole payload).mp hread
    obtain ⟨c', hc', hid', hpayload, ht'⟩ := hkeeps hid record c t hholds hc hpresents hnow ht
    exact ⟨c', hc', hid', hpayload, t, hnow, ht'⟩

end

/-! Two traces, the second read under the id of the first. -/

def exampleTracePolicy : TraceRetentionPolicy := { captureEnabled := true, ttlSeconds := 60 }

def exampleTraceStore [CharacterCases] : EncryptedTraceStore where
  keyProvider _ := .ok AesGcmBlobCipher.exampleKey
  policy := exampleTracePolicy
  valid := rfl

def exampleTracePayload [FloatText] (query : String) : TracePayload where
  dict := .ofItems [("query", .str query)]
  readable := Val.readable_ofItems (List.forall_mem_singleton.mpr trivial)

/-- A trace captured at a time. -/
def exampleTrace (token : Token) (payload : @TracePayload withoutFloats) (capturedAt : String) (expires : Int)
    (hdeadline : letI := asciiCases; exampleTraceStore.deadline capturedAt = .ok expires)
    (hsize : ¬ (2 ^ 31 - 1 < (@TracePayload.plaintext withoutFloats payload).size ∨
      2 ^ 31 - 1 < (traceAad "TRACE" (.str capturedAt) (.str (instantText expires))).size)) :
    letI := asciiCases
    letI := aes256Gcm
    letI := withoutFloats
    SealedTrace exampleTraceStore :=
  letI := asciiCases
  letI := aes256Gcm
  letI := withoutFloats
  { token := token
    payload := payload
    capturedAt := capturedAt
    expires := expires
    deadline := hdeadline
    key := AesGcmBlobCipher.exampleKey
    keyProvided := rfl
    keySize := rfl
    nonce := AesGcmBlobCipher.exampleNonce
    ciphertext := _
    encrypted := if_neg hsize }

def exampleClock : Instant := .first

def firstTrace : @SealedTrace asciiCases aes256Gcm withoutFloats (@exampleTraceStore asciiCases) :=
  letI := withoutFloats
  exampleTrace ⟨String.ofList (List.replicate 32 '0'), rfl⟩ (exampleTracePayload "first") "2026-01-01T00:00:00Z" 63902822460000000 rfl
    (by decide +kernel)

def secondTrace : @SealedTrace asciiCases aes256Gcm withoutFloats (@exampleTraceStore asciiCases) :=
  letI := withoutFloats
  exampleTrace ⟨String.ofList (List.replicate 32 '1'), rfl⟩ (exampleTracePayload "second") "2026-01-01T00:00:00Z" 63902822460000000 rfl
    (by decide +kernel)

theorem orNow_example : orNow (some "2026-01-01T00:00:30Z") exampleClock = "2026-01-01T00:00:30Z" :=
  nowOr_some (by decide) _

theorem parseTime_exampleHalfMinute : parseTime "2026-01-01T00:00:30Z" = .ok 63902822430000000 := rfl

/-- The file of the first trace has been overwritten, and the second is read as its own. -/
theorem reads_own_iff_example :
    letI := asciiRuntime
    letI := asciiCases
    letI := aes256Gcm
    letI := withoutFloats
    let root := Machine.run step (emptyRoot exampleTraceStore) (exchange firstTrace secondTrace "independent_reviewer" exampleClock)
    let now := "2026-01-01T00:00:30Z"
    (∀ payload, exampleTraceStore.read root secondTrace.traceId "independent_reviewer" (some now) exampleClock = .ok payload →
      IsOwn root secondTrace.traceId (orNow (some now) exampleClock) payload) ∧
    ∃ payload, exampleTraceStore.read root secondTrace.traceId "independent_reviewer" (some now) exampleClock = .ok payload := by
  let := asciiRuntime
  let := asciiCases
  let := aes256Gcm
  let := withoutFloats
  intro root now
  have henabled : exampleTraceStore.policy.captureEnabled = true := rfl
  have hrole : "independent_reviewer" ∈ exampleTraceStore.policy.allowedAccessRoles := List.mem_cons_self
  have hnow : parseTime (orNow (some now) exampleClock) = .ok 63902822430000000 :=
    (congrArg parseTime orNow_example).trans parseTime_exampleHalfMinute
  have hlater : (63902822430000000 : Int) < secondTrace.expires := show (63902822430000000 : Int) < 63902822460000000 by decide
  have hne : secondTrace.traceId ≠ firstTrace.traceId := by decide
  obtain ⟨hunforged, -, -⟩ := read_exchanged henabled hrole firstTrace secondTrace hnow hlater
  have hkeeps := keepsToItsOwn_exchanged henabled hrole hne exampleClock (orNow (some now) exampleClock)
  refine ⟨(reads_own_iff (exchange firstTrace secondTrace "independent_reviewer" exampleClock) hunforged hrole
    secondTrace.traceId (some now) exampleClock).mpr fun _ => hkeeps, ?_⟩
  have hroot : root = _ := run_exchange henabled hrole firstTrace secondTrace exampleClock
  have hmem : secondTrace ∈ root.encrypted := by
    rw [hroot]
    exact List.mem_cons_of_mem _ List.mem_cons_self
  have hholds : FileHolds root secondTrace.traceId secondTrace.record.sortKeys := by
    rw [hroot, fileHolds_tamper, if_neg hne]
    exact ⟨_, readable_record secondTrace, (files_withFile _ _ _).trans (if_pos rfl), Val.asDict_toVal _⟩
  exact ⟨_, (read_ok_iff hunforged hrole _).mpr
    ⟨secondTrace.token.isTraceId, _, hholds, secondTrace, hmem, presents_record secondTrace, rfl, _, hnow, hlater⟩⟩

theorem read_of_another :
    letI := asciiRuntime
    letI := asciiCases
    letI := aes256Gcm
    letI := withoutFloats
    let root := Machine.run step (emptyRoot exampleTraceStore) (exchange firstTrace secondTrace "independent_reviewer" exampleClock)
    let now := "2026-01-01T00:00:30Z"
    let payload := (exampleTracePayload "second").dict.sortKeys
    Unforged root ∧
      exampleTraceStore.read root firstTrace.traceId "independent_reviewer" (some now) exampleClock = .ok payload ∧
      ¬ IsOwn root firstTrace.traceId now payload := by
  let := asciiRuntime
  let := asciiCases
  let := aes256Gcm
  let := withoutFloats
  intro root now payload
  have hnow : parseTime (orNow (some "2026-01-01T00:00:30Z") exampleClock) = .ok 63902822430000000 := by
    rw [orNow_example, parseTime_exampleHalfMinute]
  have henabled : exampleTraceStore.policy.captureEnabled = true := rfl
  have hrole : "independent_reviewer" ∈ exampleTraceStore.policy.allowedAccessRoles := List.mem_cons_self
  have hlater : (63902822430000000 : Int) < secondTrace.expires := show (63902822430000000 : Int) < 63902822460000000 by decide
  obtain ⟨hunforged, hrecorded, hread⟩ := read_exchanged henabled hrole firstTrace secondTrace hnow hlater
  refine ⟨hunforged, hread, ?_⟩
  rintro ⟨c, hc, hid, hpayload, -⟩
  rw [hrecorded, List.mem_cons, List.mem_singleton] at hc
  rcases hc with rfl | rfl
  · have hget := congrArg (fun d : Dict => d.get "query") hpayload
    simp only [Dict.get_sortKeys] at hget
    exact absurd (Val.str.inj hget) (by decide)
  · exact absurd hid (by decide)

end EncryptedTraceStore

end Pmiri
