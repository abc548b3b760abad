import Pmiri.GateD.Endpoint
import Pmiri.RequestAuth.Bindings
import Pmiri.Runs

/-!
# Credential boundaries

`credentials.py`: the public boundary of a connector credential, the opaque
handles that a manager gives out for it, and the transports that a handle is
given to. A secret is in the requests of those transports and nowhere else, and
a handle is given out only where the boundary grants it.
-/

namespace Pmiri

open Py

def INJECTION_CHANNELS : List String :=
  ["PROCESS_MEMORY_HANDLE", "SIDECAR_SECRET_MOUNT", "DELEGATED_TOKEN_EXCHANGE", "EXPLICIT_PROXY_CREDENTIAL"]

def VISIBILITY_PROHIBITIONS : List String := [
  "SECRET_VALUE_TO_PROVIDER_MODEL",
  "SECRET_VALUE_TO_FETCHED_CONTENT",
  "SECRET_VALUE_TO_CALLER_CONTENT",
  "SECRET_VALUE_TO_LOGS",
  "SECRET_VALUE_TO_ERROR_PAYLOAD",
  "SECRET_VALUE_TO_CANONICAL_ARTIFACT"]

/-- `CredentialBoundaryViolation(msg)` -/
def credentialBoundaryViolation (msg : String) : Exc := .valueError "CredentialBoundaryViolation" msg

/-! ## Boundaries -/

/-- What a boundary is made of. -/
structure CredentialBoundaryFields where
  boundaryId : String
  connectorSubjectRef : String
  operation : String
  connectorProcessRef : String
  destinationRef : String
  operationScope : List String
  injectionChannel : String
  visibilityProhibitions : List String
  validFrom : String
  validUntil : String
  credentialEpoch : Int
  rotationRef : String
  revocationRef : String
  sourceRef : String
  authorityManifestFingerprint : String
  status : String := ACTIVE

/-- `__post_init__` -/
def CredentialBoundaryFields.postInit (b : CredentialBoundaryFields) : Except Exc Unit := do
  raiseIf (!OPERATIONS.contains b.operation || !b.operationScope.all OPERATIONS.contains)
    (credentialBoundaryViolation "operation_scope_invalid")
  raiseIf (!b.operationScope.contains b.operation) (credentialBoundaryViolation "boundary_operation_not_in_scope")
  raiseIf (!INJECTION_CHANNELS.contains b.injectionChannel) (credentialBoundaryViolation "injection_channel_invalid")
  raiseIf (!(b.visibilityProhibitions.all VISIBILITY_PROHIBITIONS.contains &&
      VISIBILITY_PROHIBITIONS.all b.visibilityProhibitions.contains))
    (credentialBoundaryViolation "visibility_prohibitions_incomplete")
  raiseIf (decide (b.credentialEpoch < 0) || !(["ACTIVE", "EXPIRED", "REVOKED", "INVALID"].contains b.status))
    (credentialBoundaryViolation "credential_lifecycle_invalid")
  raiseIf (!isSha256 (.str b.authorityManifestFingerprint))
    (credentialBoundaryViolation "authority_manifest_fingerprint_invalid")

structure ConnectorCredentialBoundary extends CredentialBoundaryFields where
  checked : toCredentialBoundaryFields.postInit = .ok ()

/-- What a credential is asked for. -/
structure CredentialRequest where
  operation : String
  connectorProcessRef : String
  destinationRef : String
  currentEpoch : Int
  now : String

namespace ConnectorCredentialBoundary

/-- The items of `public_record(include_fingerprint=False)`. -/
def publicItems (b : ConnectorCredentialBoundary) : List (String × Val) := [
  ("record_type", .str "PMIRI_D2_CONNECTOR_CREDENTIAL_BOUNDARY"),
  ("schema_version", .str "0.2"),
  ("boundary_id", .str b.boundaryId),
  ("connector_subject_ref", .str b.connectorSubjectRef),
  ("operation", .str b.operation),
  ("audience", (Dict.ofItems [
    ("connector_process_ref", .str b.connectorProcessRef),
    ("destination_ref", .str b.destinationRef)]).toVal),
  ("operation_scope", strList b.operationScope),
  ("injection_channel", .str b.injectionChannel),
  ("visibility_prohibitions", strList b.visibilityProhibitions),
  ("valid_from", .str b.validFrom),
  ("valid_until", .str b.validUntil),
  ("credential_epoch", .int b.credentialEpoch),
  ("rotation_ref", .str b.rotationRef),
  ("revocation_ref", .str b.revocationRef),
  ("source_ref", .str b.sourceRef),
  ("authority_manifest_fingerprint", .str b.authorityManifestFingerprint),
  ("status", .str b.status)]

def authorize (b : ConnectorCredentialBoundary) (request : CredentialRequest) : Except Exc (Bool × String) := do
  if b.status ≠ "ACTIVE" then return (false, "CREDENTIAL_SCOPE_INVALID")
  if request.operation ≠ b.operation ∨ request.operation ∉ b.operationScope then return (false, "CREDENTIAL_SCOPE_INVALID")
  if request.connectorProcessRef ≠ b.connectorProcessRef ∨ request.destinationRef ≠ b.destinationRef then
    return (false, "CREDENTIAL_SCOPE_INVALID")
  if request.currentEpoch ≠ b.credentialEpoch then return (false, "POLICY_EPOCH_CHANGED")
  if !(← validInterval b.validFrom b.validUntil request.now) then return (false, "CREDENTIAL_SCOPE_INVALID")
  return (true, "NONE")

/-- The boundary grants what is asked for: it is active, it is asked for its own operation by its own audience, in its
epoch, and within its time. -/
structure Grants (b : ConnectorCredentialBoundary) (request : CredentialRequest) : Prop where
  active : b.status = "ACTIVE"
  operation : request.operation = b.operation
  scope : request.operation ∈ b.operationScope
  process : request.connectorProcessRef = b.connectorProcessRef
  destination : request.destinationRef = b.destinationRef
  epoch : request.currentEpoch = b.credentialEpoch
  valid : ∃ validFrom now validUntil, parseTime b.validFrom = .ok validFrom ∧ parseTime request.now = .ok now ∧
    parseTime b.validUntil = .ok validUntil ∧ validFrom ≤ now ∧ now ≤ validUntil

theorem authorize_true {b : ConnectorCredentialBoundary} {request : CredentialRequest} {reason : String} :
    b.authorize request = .ok (true, reason) ↔ b.Grants request ∧ reason = "NONE" := by
  rw [authorize]
  constructor
  · intro h
    split at h
    · cases h
    rename_i hactive
    split at h
    · cases h
    rename_i hoperation
    split at h
    · cases h
    rename_i haudience
    split at h
    · cases h
    rename_i hepoch
    obtain ⟨valid, hvalid, h⟩ := bind_ok.mp h
    cases valid with
    | false => cases h
    | true =>
      simp only [ne_eq, not_not, not_or] at hactive hoperation haudience hepoch
      cases h
      exact ⟨⟨hactive, hoperation.1, hoperation.2, haudience.1, haudience.2, hepoch, validInterval_true.mp hvalid⟩, rfl⟩
  · rintro ⟨h, rfl⟩
    have hvalid := validInterval_true.mpr h.valid
    simp only [h.active, h.operation ▸ h.scope, h.operation, h.process, h.destination, h.epoch, hvalid, ne_eq, not_true,
      or_self, if_false, ok_bind]
    rfl

end ConnectorCredentialBoundary

/-! ## Handles -/

/-- A handle on a secret, which cannot be empty. -/
structure OpaqueCredential where
  secret : List UInt8
  boundaryFingerprint : String
  nonempty : secret ≠ []

namespace OpaqueCredential

/-- `OpaqueCredential(secret, boundary_fingerprint)` -/
def create (secret : List UInt8) (boundaryFingerprint : String) : Except Exc OpaqueCredential :=
  if h : secret = [] then .error (credentialBoundaryViolation "secret_missing") else .ok ⟨secret, boundaryFingerprint, h⟩

/-- `__repr__` -/
def repr (_ : OpaqueCredential) : String := "OpaqueCredential(<redacted>)"

end OpaqueCredential

structure CredentialBindingResult where
  actionResult : String
  reasonClass : String
  handle : Option OpaqueCredential
  boundaryFingerprint : String

def CredentialBindingResult.publicDict (r : CredentialBindingResult) : Dict := .ofItems [
  ("action_result", .str r.actionResult),
  ("reason_class", .str r.reasonClass),
  ("handle", if r.handle.isSome then .str "OPAQUE_HANDLE" else .none),
  ("boundary_fingerprint", .str r.boundaryFingerprint)]

section

variable [Runtime]

namespace ConnectorCredentialBoundary

def fingerprint (b : ConnectorCredentialBoundary) : String := sha256Json (Dict.ofItems b.publicItems).toVal

/-- `public_record` -/
def publicRecord (b : ConnectorCredentialBoundary) : Dict :=
  (Dict.ofItems b.publicItems).insert "boundary_fingerprint" (.str b.fingerprint)

end ConnectorCredentialBoundary

/-- `CredentialManager.bind` -/
def bindCredential (boundary : ConnectorCredentialBoundary) (secret : List UInt8) (request : CredentialRequest) :
    Except Exc CredentialBindingResult := do
  let (allowed, reason) ← boundary.authorize request
  if !allowed then return ⟨"DENY", reason, none, boundary.fingerprint⟩
  let handle ← OpaqueCredential.create secret boundary.fingerprint
  return ⟨"ALLOW", "NONE", some handle, boundary.fingerprint⟩

/-- A handle is given out on the secret that was bound, and only where the boundary grants it. -/
theorem bindCredential_handle {boundary : ConnectorCredentialBoundary} {secret : List UInt8} {request : CredentialRequest}
    {result : CredentialBindingResult} {handle : OpaqueCredential} (h : bindCredential boundary secret request = .ok result)
    (hhandle : result.handle = some handle) : handle.secret = secret ∧ boundary.Grants request := by
  obtain ⟨⟨allowed, reason⟩, hauthorize, h⟩ := bind_ok.mp h
  cases allowed with
  | false =>
    cases h
    cases hhandle
  | true =>
    refine ⟨?_, (ConnectorCredentialBoundary.authorize_true.mp hauthorize).1⟩
    obtain ⟨created, hcreated, h⟩ := bind_ok.mp h
    cases h
    obtain rfl := Option.some.inj hhandle
    rw [OpaqueCredential.create] at hcreated
    split at hcreated
    · cases hcreated
    · cases hcreated
      rfl

/-! ## Sessions -/

variable [Idna]

/-- What is done with credentials: one is bound, with the secret that has a name; a result of a binding, or a boundary, is
looked at; or a transport that was given the handle of a result makes a request. -/
inductive CredentialOp where
  | bind (boundary : ConnectorCredentialBoundary) (name : Nat) (request : CredentialRequest)
  | inspect (n : Nat)
  | publish (boundary : ConnectorCredentialBoundary)
  | send (operation : String) (transport : AuthorizedHttpsTransport operation) (n : Nat) (method : String)
    (body : Option (List UInt8)) (extra : Dict)

omit [Runtime] [Idna] in
/-- What is given for an operation; of a request also whether its transport was given a handle. -/
inductive CredentialOutput where
  | result (record : Dict)
  | inspected (record : Dict) (handle : Option String)
  | published (record : Dict)
  | sent (request : HttpsRequest) (given : Bool)
  | nothing

/-- A transport that was given the handle of a result, if it has one. -/
def AuthorizedHttpsTransport.given {operation : String} (t : AuthorizedHttpsTransport operation)
    (result : CredentialBindingResult) : AuthorizedHttpsTransport operation :=
  { t with credential := result.handle.map OpaqueCredential.secret }

namespace CredentialSession

/-- What an operation gives, after the bindings that returned a result. -/
def respond (secrets : Nat → List UInt8) (results : List CredentialBindingResult) :
    CredentialOp → Except Exc CredentialOutput × List CredentialBindingResult
  | .bind boundary name request =>
    match bindCredential boundary (secrets name) request with
    | .error e => (.error e, results)
    | .ok result => (.ok (.result result.publicDict), results ++ [result])
  | .inspect n =>
    match results[n]? with
    | none => (.ok .nothing, results)
    | some result => (.ok (.inspected result.publicDict (result.handle.map OpaqueCredential.repr)), results)
  | .publish boundary => (.ok (.published boundary.publicRecord), results)
  | .send _ transport n method body extra =>
    match results[n]? with
    | none => (.ok .nothing, results)
    | some result => (.ok (.sent ((transport.given result).outgoing method body extra) result.handle.isSome), results)

def step (secrets : Nat → List UInt8) (results : List CredentialBindingResult) (op : CredentialOp) :
    List CredentialBindingResult := (respond secrets results op).2

/-! ## Who gets a secret -/

/-- The handle is on a secret that was bound where the boundary granted it. -/
def Backed (secrets : Nat → List UInt8) (ops : List CredentialOp) (handle : OpaqueCredential) : Prop :=
  ∃ boundary name request, .bind boundary name request ∈ ops ∧ boundary.Grants request ∧ handle.secret = secrets name

theorem backed_step {secrets : Nat → List UInt8} {ops : List CredentialOp} {results : List CredentialBindingResult}
    (h : ∀ result ∈ results, ∀ handle, result.handle = some handle → Backed secrets ops handle) {op : CredentialOp} (hop : op ∈ ops) :
    ∀ result ∈ step secrets results op, ∀ handle, result.handle = some handle → Backed secrets ops handle := by
  intro result hresult handle hhandle
  cases op with
  | bind boundary name request =>
    simp only [step, respond] at hresult
    split at hresult
    · exact h result hresult handle hhandle
    · rename_i bound hbound
      rcases List.mem_append.mp hresult with hresult | hresult
      · exact h result hresult handle hhandle
      · obtain rfl := List.mem_singleton.mp hresult
        obtain ⟨hsecret, hgrants⟩ := bindCredential_handle hbound hhandle
        exact ⟨boundary, name, request, hop, hgrants, hsecret⟩
  | inspect n =>
    simp only [step, respond] at hresult
    split at hresult <;> exact h result hresult handle hhandle
  | publish boundary => exact h result hresult handle hhandle
  | send operation transport n method body extra =>
    simp only [step, respond] at hresult
    split at hresult <;> exact h result hresult handle hhandle

theorem backed_run (secrets : Nat → List UInt8) (ops : List CredentialOp) :
    ∀ result ∈ Machine.run (step secrets) [] ops, ∀ handle, result.handle = some handle → Backed secrets ops handle :=
  Machine.run_invariant (step secrets) (fun results => ∀ result ∈ results, ∀ handle, result.handle = some handle →
    Backed secrets ops handle) (fun _ _ h hop => backed_step h hop) (List.forall_mem_nil _)
    (Machine.along_of_forall (step secrets) fun _ hop => hop)

/-- The request of a transport without a credential. -/
def bare {operation : String} (transport : AuthorizedHttpsTransport operation) (method : String) (body : Option (List UInt8))
    (extra : Dict) : HttpsRequest := { transport with credential := none }.outgoing method body extra

/-- A request is the one without a credential, but for the header with the secret that it carries. -/
def Carries (request bare : HttpsRequest) (secret : List UInt8) : Prop :=
  request = { bare with headers := bare.headers.insert "Authorization" (.str ("Bearer " ++ String.ofList (Base64.encode secret))) }

theorem outgoing_given {operation : String} (transport : AuthorizedHttpsTransport operation) (result : CredentialBindingResult)
    (method : String) (body : Option (List UInt8)) (extra : Dict) :
    (result.handle = none ∧ (transport.given result).outgoing method body extra = bare transport method body extra) ∨
      ∃ handle, result.handle = some handle ∧
        Carries ((transport.given result).outgoing method body extra) (bare transport method body extra) handle.secret := by
  cases hhandle : result.handle with
  | none =>
    refine .inl ⟨rfl, ?_⟩
    rw [AuthorizedHttpsTransport.given, hhandle]
    rfl
  | some handle =>
    refine .inr ⟨handle, rfl, ?_⟩
    rw [AuthorizedHttpsTransport.given, hhandle]
    rfl

/-- In every session, a request that goes out to a bound endpoint is the one without a credential, or carries a secret
that was bound before where the boundary granted it: to its own operation and audience, in its epoch, and in its time. -/
theorem sends_granted (secrets : Nat → List UInt8) (ops : List CredentialOp) {operation : String}
    (transport : AuthorizedHttpsTransport operation) (n : Nat) (method : String) (body : Option (List UInt8)) (extra : Dict)
    {request : HttpsRequest} {given : Bool}
    (h : (respond secrets (Machine.run (step secrets) [] ops) (.send operation transport n method body extra)).1 =
      .ok (.sent request given)) :
    request = bare transport method body extra ∨
      ∃ boundary name asked, .bind boundary name asked ∈ ops ∧ boundary.Grants asked ∧
        Carries request (bare transport method body extra) (secrets name) := by
  simp only [respond] at h
  split at h
  · cases h
  · rename_i result hresult
    cases h
    rcases outgoing_given transport result method body extra with ⟨-, hbare⟩ | ⟨handle, hhandle, hcarries⟩
    · exact .inl hbare
    · obtain ⟨boundary, name, asked, hop, hgrants, hsecret⟩ :=
        backed_run secrets ops result (List.mem_of_getElem? hresult) handle hhandle
      exact .inr ⟨boundary, name, asked, hop, hgrants, hsecret ▸ hcarries⟩

/-! ## Who does not -/

/-- A request without its authorization. -/
def redactedRequest (request : HttpsRequest) : HttpsRequest :=
  { request with headers := request.headers.without "Authorization" }

/-- What others see of an output: a request goes without its authorization if its transport was given a handle. -/
def redacted : Except Exc CredentialOutput → Except Exc CredentialOutput
  | .ok (.sent request true) => .ok (.sent (redactedRequest request) true)
  | output => output

/-- Two results are alike but for the secret. -/
structure Alike (r r' : CredentialBindingResult) : Prop where
  actionResult : r.actionResult = r'.actionResult
  reasonClass : r.reasonClass = r'.reasonClass
  handle : r.handle.isSome = r'.handle.isSome
  boundaryFingerprint : r.boundaryFingerprint = r'.boundaryFingerprint

omit [Runtime] [Idna] in
theorem Alike.publicDict {r r' : CredentialBindingResult} (h : Alike r r') : r.publicDict = r'.publicDict := by
  rw [CredentialBindingResult.publicDict, CredentialBindingResult.publicDict, h.actionResult, h.reasonClass, h.handle,
    h.boundaryFingerprint]

theorem redacted_given {operation : String} (transport : AuthorizedHttpsTransport operation) (result : CredentialBindingResult)
    (method : String) (body : Option (List UInt8)) (extra : Dict) :
    redacted (.ok (.sent ((transport.given result).outgoing method body extra) result.handle.isSome)) =
      redacted (.ok (.sent (bare transport method body extra) result.handle.isSome)) := by
  rcases outgoing_given transport result method body extra with ⟨-, hbare⟩ | ⟨handle, hhandle, hcarries⟩
  · rw [hbare]
  · rw [hhandle, hcarries, Option.isSome_some, redacted, redacted, redactedRequest, redactedRequest]
    dsimp only
    rw [Dict.without, Dict.filterKeys_insert (by simp)]
    rfl

omit [Idna] in
/-- Bindings of two secrets, both there or both missing, fail alike or give results that are alike. -/
theorem alike_bindCredential (boundary : ConnectorCredentialBoundary) (request : CredentialRequest) {secret secret' : List UInt8}
    (hsecret : secret = [] ↔ secret' = []) :
    (∃ e, bindCredential boundary secret request = .error e ∧ bindCredential boundary secret' request = .error e) ∨
      ∃ r r', bindCredential boundary secret request = .ok r ∧ bindCredential boundary secret' request = .ok r' ∧ Alike r r' := by
  rw [bindCredential, bindCredential]
  cases boundary.authorize request with
  | error e => exact .inl ⟨e, rfl, rfl⟩
  | ok outcome =>
    obtain ⟨allowed, reason⟩ := outcome
    cases allowed with
    | false => exact .inr ⟨_, _, rfl, rfl, rfl, rfl, rfl, rfl⟩
    | true =>
      simp only [ok_bind, OpaqueCredential.create]
      by_cases hempty : secret = []
      · rw [dif_pos hempty, dif_pos (hsecret.mp hempty)]
        exact .inl ⟨_, rfl, rfl⟩
      · rw [dif_neg hempty, dif_neg (fun h => hempty (hsecret.mpr h))]
        exact .inr ⟨_, _, rfl, rfl, rfl, rfl, rfl, rfl⟩

omit [Runtime] [Idna] in
theorem alike_getElem? {results results' : List CredentialBindingResult} (h : List.Forall₂ Alike results results') (n : Nat) :
    (results[n]? = none ∧ results'[n]? = none) ∨ ∃ r r', results[n]? = some r ∧ results'[n]? = some r' ∧ Alike r r' := by
  induction h generalizing n with
  | nil => exact .inl ⟨rfl, rfl⟩
  | cons hr _ ih =>
    cases n with
    | zero => exact .inr ⟨_, _, rfl, rfl, hr⟩
    | succ n =>
      simp only [List.getElem?_cons_succ]
      exact ih n

theorem respond_alike {secrets secrets' : Nat → List UInt8} (hsecrets : ∀ name, secrets name = [] ↔ secrets' name = [])
    {results results' : List CredentialBindingResult} (h : List.Forall₂ Alike results results') (op : CredentialOp) :
    redacted (respond secrets results op).1 = redacted (respond secrets' results' op).1 ∧
      List.Forall₂ Alike (respond secrets results op).2 (respond secrets' results' op).2 := by
  cases op with
  | bind boundary name request =>
    rcases alike_bindCredential boundary request (hsecrets name) with ⟨e, he, he'⟩ | ⟨r, r', hr, hr', halike⟩
    · simp only [respond, he, he']
      exact ⟨trivial, h⟩
    · simp only [respond, hr, hr', halike.publicDict]
      exact ⟨trivial, List.rel_append h (.cons halike .nil)⟩
  | inspect n =>
    rcases alike_getElem? h n with ⟨hn, hn'⟩ | ⟨r, r', hr, hr', halike⟩
    · simp only [respond, hn, hn']
      exact ⟨trivial, h⟩
    · simp only [respond, hr, hr', halike.publicDict]
      refine ⟨?_, h⟩
      have hhandle := halike.handle
      cases hleft : r.handle with
      | none =>
        rw [hleft] at hhandle
        rw [Option.not_isSome_iff_eq_none.mp (Bool.eq_false_iff.mp hhandle.symm)]
      | some handle =>
        rw [hleft] at hhandle
        obtain ⟨handle', hright⟩ := Option.isSome_iff_exists.mp hhandle.symm
        rw [hright]
        rfl
  | publish boundary => exact ⟨rfl, h⟩
  | send operation transport n method body extra =>
    rcases alike_getElem? h n with ⟨hn, hn'⟩ | ⟨r, r', hr, hr', halike⟩
    · simp only [respond, hn, hn']
      exact ⟨trivial, h⟩
    · simp only [respond, hr, hr', redacted_given]
      exact ⟨by rw [halike.handle], h⟩

/-- A session shows the same whatever the secrets are, but for the authorization of the requests of transports that were
given a handle: results, records, texts of handles, errors and all else in the requests do not depend on them. -/
theorem secrets_do_not_show {secrets secrets' : Nat → List UInt8} (hsecrets : ∀ name, secrets name = [] ↔ secrets' name = [])
    (ops : List CredentialOp) :
    (Machine.outputs (respond secrets) [] ops).map redacted = (Machine.outputs (respond secrets') [] ops).map redacted :=
  Machine.outputs_eq_of_simulation (List.Forall₂ Alike) (fun _ => True) (fun _ _ op h _ => respond_alike hsecrets h op) .nil
    fun _ _ => trivial

/-! ## A credential that is bound and used -/

omit [Runtime] [Idna] in
def exampleBoundaryFields : CredentialBoundaryFields where
  boundaryId := "boundary://1"
  connectorSubjectRef := "connector://1"
  operation := "connector_fetch"
  connectorProcessRef := "process://1"
  destinationRef := "destination://1"
  operationScope := ["connector_fetch"]
  injectionChannel := "PROCESS_MEMORY_HANDLE"
  visibilityProhibitions := VISIBILITY_PROHIBITIONS
  validFrom := "2026-01-01T00:00:00Z"
  validUntil := "2026-12-31T00:00:00Z"
  credentialEpoch := 0
  rotationRef := "rotation://1"
  revocationRef := "revocation://1"
  sourceRef := "authority://1"
  authorityManifestFingerprint := "0000000000000000000000000000000000000000000000000000000000000000"

omit [Runtime] [Idna] in
theorem checked_exampleBoundary : exampleBoundaryFields.postInit = .ok () := by decide +kernel

omit [Runtime] [Idna] in
def exampleBoundary : ConnectorCredentialBoundary := ⟨exampleBoundaryFields, checked_exampleBoundary⟩

omit [Runtime] [Idna] in
def exampleAsked : CredentialRequest where
  operation := "connector_fetch"
  connectorProcessRef := "process://1"
  destinationRef := "destination://1"
  currentEpoch := 0
  now := "2026-01-01T00:00:00Z"

omit [Runtime] [Idna] in
theorem exampleBoundary_grants : exampleBoundary.Grants exampleAsked :=
  ⟨rfl, rfl, List.mem_cons_self, rfl, rfl, rfl, _, _, _, parseTime_exampleNow, parseTime_exampleNow, parseTime_exampleUntil,
    le_rfl, by decide⟩

omit [Idna] in
theorem bindCredential_of_grants {boundary : ConnectorCredentialBoundary} {secret : List UInt8} {request : CredentialRequest}
    (h : boundary.Grants request) (hsecret : secret ≠ []) :
    bindCredential boundary secret request =
      .ok ⟨"ALLOW", "NONE", some ⟨secret, boundary.fingerprint, hsecret⟩, boundary.fingerprint⟩ := by
  rw [bindCredential, ConnectorCredentialBoundary.authorize_true.mpr ⟨h, rfl⟩]
  simp only [ok_bind, OpaqueCredential.create, dif_neg hsecret]
  rfl

def exampleSession (transport : HttpsConnectorTransport) : List CredentialOp :=
  [.bind exampleBoundary 0 exampleAsked, .send "connector_fetch" transport 0 "GET" none .empty]

theorem run_bound {secrets : Nat → List UInt8} (hsecret : secrets 0 ≠ []) :
    Machine.run (step secrets) [] [.bind exampleBoundary 0 exampleAsked] =
      [⟨"ALLOW", "NONE", some ⟨secrets 0, exampleBoundary.fingerprint, hsecret⟩, exampleBoundary.fingerprint⟩] := by
  rw [Machine.run_cons, Machine.run_nil, step, respond, bindCredential_of_grants exampleBoundary_grants hsecret]
  rfl

/-- A request of a transport that was given a handle is not the one without a credential. -/
theorem carries_ne_bare {operation : String} {transport : AuthorizedHttpsTransport operation} {handle : OpaqueCredential}
    {result : CredentialBindingResult} (h : result.handle = some handle) (method : String) (body : Option (List UInt8)) :
    (transport.given result).outgoing method body .empty ≠ bare transport method body .empty := by
  intro hsame
  have hget := congrArg (fun request : HttpsRequest => request.headers.get "Authorization") hsame
  rcases outgoing_given transport result method body .empty with ⟨hnone, -⟩ | ⟨_, -, hcarries⟩
  · rw [h] at hnone
    cases hnone
  · have hbare : (bare transport method body .empty).headers.get "Authorization" = .none := rfl
    rw [hcarries, hbare] at hget
    dsimp only at hget
    rw [Dict.get_insert_self] at hget
    cases hget

end CredentialSession

end

open CredentialSession in
/-- The credential is bound, and the request of the transport that is given its handle carries the secret. -/
theorem sends_granted_example :
    letI := asciiRuntime
    letI : Idna := ⟨none⟩
    let transport := transportTo sniOf_example
    ∃ request, (respond (fun _ => [1]) (Machine.run (step fun _ => [1]) [] [.bind exampleBoundary 0 exampleAsked])
        (.send "connector_fetch" transport 0 "GET" none .empty)).1 = .ok (.sent request true) ∧
      Carries request (bare transport "GET" none .empty) [1] := by
  let := asciiRuntime
  let : Idna := ⟨none⟩
  intro transport
  have hsecret : ([1] : List UInt8) ≠ [] := List.cons_ne_nil _ _
  let result : CredentialBindingResult :=
    ⟨"ALLOW", "NONE", some ⟨[1], exampleBoundary.fingerprint, hsecret⟩, exampleBoundary.fingerprint⟩
  have hrun : Machine.run (step fun _ => [1]) [] [.bind exampleBoundary 0 exampleAsked] = [result] := run_bound hsecret
  have hsent : (respond (fun _ => [1]) (Machine.run (step fun _ => [1]) [] [.bind exampleBoundary 0 exampleAsked])
      (.send "connector_fetch" transport 0 "GET" none .empty)).1 =
        .ok (.sent ((transport.given result).outgoing "GET" none .empty) true) := by
    rw [hrun]
    rfl
  refine ⟨_, hsent, ?_⟩
  rcases sends_granted _ _ transport 0 "GET" none .empty hsent with hbare | ⟨_, _, _, -, -, hcarries⟩
  · exact absurd hbare (carries_ne_bare rfl _ _)
  · exact hcarries

open CredentialSession in
theorem secrets_do_not_show_example :
    letI := asciiRuntime
    letI : Idna := ⟨none⟩
    let session := exampleSession (transportTo sniOf_example)
    (Machine.outputs (respond fun _ => [1]) [] session).map redacted = (Machine.outputs (respond fun _ => [2]) [] session).map redacted := by
  let := asciiRuntime
  let : Idna := ⟨none⟩
  exact secrets_do_not_show (fun _ => by simp) _

end Pmiri
