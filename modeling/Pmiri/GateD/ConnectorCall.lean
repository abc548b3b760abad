import Pmiri.Decisions.Paths
import Pmiri.GateD.Connector
import Pmiri.GateD.Constraints

/-!
# The way of a fetch through the fence

What the engine decides on a validated connection constructs a transport, and
the fence accepts a content operation together with its lifecycle; one fetch.
-/

namespace Pmiri

open Py

section

variable [Runtime]

namespace GateDDecisionEngine

variable {g : GateDDecisionEngine} [Idna]

omit [Runtime] [Idna] g in
/-- A public answer of the resolver has a text. -/
theorem resolutionEntry_ip_ne_empty {address : String} (h : (resolutionEntry address).policyStatus = "ALLOWLISTED_PUBLIC")
    (hread : ReadsBack address) : (resolutionEntry address).ip ≠ "" := by
  rcases hr : IpAddress.read address with _ | p
  · rw [show resolutionEntry address = ⟨address, "IPv4", "DENIED_UNALLOWLISTED"⟩ by rw [resolutionEntry, hr]] at h
    simp at h
  · rw [show resolutionEntry address = ⟨p.print, familyOf p, classifyAddress p.print⟩ by rw [resolutionEntry, hr]]
    intro he
    have hempty := hread p hr
    rw [show p.print = "" from he] at hempty
    exact absurd hempty (by simp [show IpAddress.read "" = none by decide])

/-- What the engine decides on a validated connection, and the binding it
decides it for, construct a transport. -/
theorem validateBinding_of_evaluated {i : NetworkInput} {target : NormalizedTarget} {n : Dict}
    (h : ValidatedConnection i target) (hexec : g.networkExecutionEnabled = true) (hn : g.evaluateNetwork i = .ok n) :
    ∃ binding, validateBinding i.url n i.operation binding = .ok target := by
  obtain ⟨start, f, b, -, hf, hb, -, hrecord⟩ := g.evaluateNetwork_ok.mp hn
  obtain ⟨f', hf', hnormalized, hstatus, haction, -, hip, hfamily⟩ := h.networkFindings hexec
  obtain rfl : f = f' := Except.ok.inj (hf.symm.trans hf')
  obtain ⟨a, rest, ha⟩ := List.exists_cons_of_ne_nil h.resolved
  have hmem : a ∈ i.addresses := by rw [ha]; exact List.mem_cons_self
  rw [ha, List.head?_cons, Option.map_some] at hip hfamily
  have hview := h.connectionView hexec f
  have hvalid : validateConnectionBinding ((g.bindingInput i f).record target) = .ok () := h.validate_record f
  obtain ⟨hdestination, -, -, -, hselected, -, -, -, hconnection, hinvalidation, -⟩ :=
    (g.bindingInput i f).record_fields target
  have hprofile : ((g.bindingInput i f).record target).get "canonicalization_profile_id" = .str CANONICALIZATION_PROFILE_ID ∧
      ((g.bindingInput i f).record target).get "canonicalization_profile_fingerprint" =
        .str CANONICALIZATION_PROFILE_FINGERPRINT := by
    simp [BindingInput.get_record, BindingInput.unsealed, Dict.get_insert, Dict.ofItems]
  have hpublic : (g.bindingInput i f).allPublic = true := by
    rw [BindingInput.allPublic, bindingInput, List.isEmpty_eq_false_iff.mpr h.resolved, h.all_addresses]
    rfl
  have hselection : (g.bindingInput i f).selected target = (BindingInput.selection target (resolutionEntry a)).toVal := by
    rw [BindingInput.selected, show (g.bindingInput i f).addresses = i.addresses from rfl, ha, List.map_cons]
    simp only [hpublic, ↓reduceIte]
  have hdest : (g.bindingInput i f).destination target = ref "destination" f.normalized.toVal := by
    have hr : ref "destination" f.normalized.toVal ≠ "" := ref_ne_empty (by decide) _
    simp only [BindingInput.destination, bindingInput, if_neg hr]
  have haddress := resolutionEntry_ip_ne_empty (h.addresses a hmem).1 (h.addresses a hmem).2
  obtain rfl : b = some ((g.bindingInput i f).record target) := Except.ok.inj (hb.symm.trans (h.networkBinding f))
  generalize (g.bindingInput i f).record target = binding at *
  obtain ⟨hid, hfingerprint, hset, hstate, hfinal, hsequence, htlsStatus, htlsFingerprint, href, hconnectionFingerprint,
    hidentity, hselectedRef, hselectedIp, hselectedFamily, hepoch, htarget⟩ :=
    g.networkRecord_transport i f (g.connectionView i f (some binding)) start
  obtain ⟨hoperation, -, hallow, -, -, hinvalid⟩ := g.networkRecord_fields i f (g.connectionView i f (some binding)) start
  rw [← hrecord] at *
  refine ⟨binding.toVal, bind_ok.mpr ⟨target, orUnauthorized_ok.mpr h.url, seq_ok.mpr ⟨?_, bind_ok.mpr ⟨binding, ?_,
    seq_ok.mpr ⟨orUnauthorized_ok.mpr hvalid, seq_ok.mpr ⟨?_, seq_ok.mpr ⟨?_, seq_ok.mpr ⟨?_, rfl⟩⟩⟩⟩⟩⟩⟩⟩
  · simp only [checkTransportDecision, seq_ok, raiseIf_ok, raiseIfM_ok, Bool.or_eq_false_iff, differs_false,
      Val.notIn_ok_false, hid, hset, hstate, hfinal, htlsStatus, hstatus, hallow, haction, hoperation, hfingerprint,
      hview, h.tls, ↓reduceIte, and_self, and_true]
    exact ⟨"ALLOW", by decide, rfl⟩
  · rw [requiredBinding, Val.asDict_toVal]
  · simp only [checkTransportConnection, seq_ok, raiseIf_ok, Dict.agrees, href, hconnectionFingerprint, hidentity,
      hdestination, hprofile, hid, hfingerprint, htlsFingerprint, hsequence, hfinal, hepoch, hinvalid, hconnection,
      hinvalidation, connectionView, Val.eq_refl, Bool.not_true, Bool.or_self, true_and,
      hdest, hselected, hselection, checkSelectedTarget, Val.asDict_toVal, Option.getD_some]
    obtain ⟨hentryIp, hentryFamily, -⟩ := BindingInput.selection_fields target (resolutionEntry a)
    simp [selectedTargetFields, hselectedRef, hselectedIp, hselectedFamily, hip, hfamily, hentryIp, hentryFamily, connectionView,
      hselected, hselection, Val.asDict_toVal, optStr, Val.eq_refl]
    exact ⟨rfl, rfl⟩
  · simp only [checkTransportTarget, htarget, hnormalized, Val.asDict_toVal, raiseIf_ok, Bool.or_eq_false_iff, differs_false]
    simp [normalizedTarget, Dict.get_insert, Dict.ofItems]
  · rw [raiseIf_ok, Bool.not_eq_false', hselectedIp, hip]
    simpa [optStr] using haddress

end GateDDecisionEngine

end

/-! ## A fetch -/

section

variable [Runtime]

def exampleFetch : NetworkInput where
  operation := "connector_fetch"
  purpose := "external_fetch"
  url := "https://example.com/"
  addresses := ["93.184.216.34"]
  contentLifecycle := "QUARANTINED"
  lifecycle := some exampleLifecycle
  lifecycleRef := some "lifecycle://example"

theorem exampleFetch_connection [Idna] : GateDDecisionEngine.ValidatedConnection exampleFetch exampleTarget :=
  let h := exampleNetwork_validated.connection
  ⟨h.url, h.sni, h.resolved, h.addresses, h.tls, h.revalidated⟩

/-- The engine allows the fetch. -/
theorem exampleFetch_evaluated [Idna] (epoch : Nat) :
    ∃ n, (exampleEngine epoch).evaluateNetwork exampleFetch = .ok n ∧ OutboundDecision n ∧
      n.get "operation" = .str "connector_fetch" ∧ n.get "purpose" = .str "external_fetch" ∧
      n.get "action_result" = .str "ALLOW" := by
  have hconnection := exampleFetch_connection
  obtain ⟨f, hf, hnormalized, hstatus, haction, hreason, -⟩ := hconnection.networkFindings (g := exampleEngine epoch) rfl
  obtain ⟨-, -, -, hoperation, hpurpose, horigin, hdestination, -, hterminal, -, -, -, -, hstate, hadmission, hvisibility, -⟩ :=
    @lifecycleTo_fields _ "QUARANTINED" "QUARANTINE_ONLY" [exampleTransition]
  have hstart : startingLifecycle exampleFetch = .ok "QUARANTINED" := by
    simp [startingLifecycle, exampleFetch, validateLifecycle_ok.mpr exampleLifecycle_valid, hoperation, hpurpose, hadmission, differs,
      raiseIf, bind, Except.bind, pure, Except.pure]
  let view := (exampleEngine epoch).connectionView exampleFetch f
    (some (((exampleEngine epoch).bindingInput exampleFetch f).record exampleTarget))
  have hview : view.bindingStatus = .str "VALIDATED" ∧ view.eventResult = .str "MATCHED" := hconnection.connectionView rfl f
  obtain ⟨hop, hp, ha, -⟩ := (exampleEngine epoch).networkRecord_fields exampleFetch f view "QUARANTINED"
  have hreason : ((exampleEngine epoch).networkRecord exampleFetch f view "QUARANTINED").get "reason_class" = .str "NONE" := by
    simp [GateDDecisionEngine.networkRecord, GateDDecisionEngine.lifecycleFields, get_finalize, Dict.get_insert, Dict.ofItems, hreason]
  have hlifecycle : ((exampleEngine epoch).networkRecord exampleFetch f view "QUARANTINED").get "content_lifecycle" =
      .str "QUARANTINED" := by
    simp [GateDDecisionEngine.networkRecord, GateDDecisionEngine.lifecycleFields, get_finalize, Dict.get_insert, Dict.ofItems,
      GateDDecisionEngine.decidedLifecycle]
  have hallow : ∀ kv ∈ allowRequires, ((exampleEngine epoch).networkRecord exampleFetch f view "QUARANTINED").get kv.1 = .str kv.2 := by
    obtain ⟨-, -, hset, hstate, hfinal, -, htls, -⟩ := (exampleEngine epoch).networkRecord_transport exampleFetch f view "QUARANTINED"
    simp only [allowRequires, List.forall_mem_cons, List.not_mem_nil, false_imp_iff, implies_true, hset, hstate, hfinal,
      htls, hstatus, hview, hconnection.tls, ↓reduceIte, and_self]
  have hprojection : (∀ f' ∈ lifecycleProjection,
        ((exampleEngine epoch).networkRecord exampleFetch f view "QUARANTINED").get f' ≠ .none) ∧
      isSha256 (((exampleEngine epoch).networkRecord exampleFetch f view "QUARANTINED").get
        "fetched_content_lifecycle_fingerprint") = true ∧
      isSha256 (((exampleEngine epoch).networkRecord exampleFetch f view "QUARANTINED").get
        "fetched_content_terminal_response_fingerprint") = true := by
    have hfingerprint : exampleLifecycle.get "lifecycle_fingerprint" =
        .str (sha256Json (fetchedTo "QUARANTINED" "QUARANTINE_ONLY" [exampleTransition]).toVal) :=
      Dict.get_insert_self ..
    have hzero : isSha256 (.str "0000000000000000000000000000000000000000000000000000000000000000") = true := by decide
    simp only [lifecycleProjection, List.forall_mem_cons, List.not_mem_nil, false_imp_iff, implies_true, and_true]
    simp [GateDDecisionEngine.networkRecord, GateDDecisionEngine.lifecycleFields, get_finalize, Dict.get_insert, Dict.ofItems,
      GateDDecisionEngine.resolvedLifecycleRef, exampleFetch, optStr, horigin, hdestination, hadmission, hvisibility, hstate,
      hterminal, hfingerprint, hzero]
  have hvalid : OutboundDecision ((exampleEngine epoch).networkRecord exampleFetch f view "QUARANTINED") := by
    refine ⟨⟨"connector_fetch", by decide, hop⟩, ⟨"external_fetch", by decide, hp⟩, ⟨"NONE", by decide, hreason⟩, ⟨"ALLOW", by decide, by rw [ha, haction]⟩,
      ⟨_, by decide, hlifecycle⟩, fun he => ?_, fun _ => ⟨hprojection.1, hprojection.2.1, hprojection.2.2, ?_⟩, fun _ => hallow,
      fun _ => finalize_fingerprint _⟩
    · rw [hop] at he
      exact absurd (Val.str.inj he) (by simp [exampleFetch])
    · rw [hlifecycle]
      simp
  exact ⟨_, (exampleEngine epoch).evaluateNetwork_ok.mpr ⟨_, f, _, hstart, hf, hconnection.networkBinding f, hvalid, rfl⟩,
    hvalid, hop, hp, by rw [ha, haction]⟩

/-! A request for the fetch, and a binding that carries it. -/

def exampleFetchRequest : Dict :=
  .ofItems [
    ("request_id", .str "request"),
    ("project_constraint", .str "project"),
    ("query", .str "query"),
    ("purpose", .str "external_fetch"),
    ("operation", .str "connector_fetch")]

def exampleFetchQuery : QueryRequest where
  requestId := "request"
  projectConstraint := "project"
  query := "query"
  purpose := "external_fetch"

theorem exampleFetchRequest_query : requestFromMapping exampleFetchRequest = some exampleFetchQuery := by
  have hall : requestMappingFields.all exampleFetchRequest.contains = true := by decide
  have hmax : exampleFetchRequest.getD "max_results" (.int 20) = .int 20 := rfl
  rw [requestFromMapping, hall, hmax]
  rfl

/-- The envelope over some decisions for the fetch. -/
def exampleFetchCall (t c n : Dict) (b : RequestAuthorizationBinding) : EnvelopeInput where
  request := exampleFetchRequest
  trustDecision := t
  capabilityDecision := c
  networkDecision := some n
  authorizationBinding := some b

theorem exampleFetch_carried :
    ∃ b, ∀ t c n, (exampleEngine 0).Carries (exampleFetchCall t c n b) b exampleFetchQuery := by
  have hnormalized : exampleFetchQuery.normalized = .ok exampleFetchQuery.asDict := by
    refine QueryRequest.normalized_ok.mpr ⟨?_, by simp [exampleFetchQuery], by simp [exampleFetchQuery], rfl⟩
    decide
  obtain ⟨b, hb⟩ := @RequestAuthorizationService.buildBinding_of_chained _ "connector_fetch" exampleFetchQuery (examplePrincipal 0)
    (by constructor <;> simp [examplePrincipal]) (by simp [exampleFetchQuery]) ⟨_, hnormalized⟩ (List.mem_singleton.mpr rfl)
    "2026-01-01T00:00:00Z"
  have hi := RequestAuthorizationService.buildBinding_issued hb
  have hvalid : b.isValid "2026-01-01T00:00:00Z" 0 = .ok true := by
    refine RequestAuthorizationBinding.isValid_true.mpr ⟨hi.principal.2.2.1, ?_⟩
    rw [hi.validity.1, hi.validity.2]
    exact validInterval_example
  exact ⟨b, fun t c n => ⟨rfl, hvalid, hi.scope.1, hi.scope.2.1, hi.principal.2.2.2, exampleFetchRequest_query, hi.integrityValid⟩⟩

/-- The fence accepts the fetch with what it was decided from. -/
theorem exampleFetch_accepted [Idna] :
    ∃ i n, (exampleEngine 0).evaluateNetwork exampleFetch = .ok n ∧ i.networkDecision = some n ∧
      (exampleEngine 0).FenceAccepts i := by
  obtain ⟨t, -, ht, hta⟩ := exampleTrust_evaluated 0 "external_fetch"
  obtain ⟨c, -, hc, hca, -⟩ := exampleCapability_evaluated 0 "external_fetch"
  obtain ⟨n, hn, hvalid, hoperation, hpurpose, hna⟩ := exampleFetch_evaluated 0
  obtain ⟨b, hcarries⟩ := exampleFetch_carried
  have hb := hcarries t c n
  obtain ⟨e, he, haction⟩ := (exampleEngine 0).buildIntegratedEnvelope_of_permitting
    (i := exampleFetchCall t c n b) rfl ht ⟨"ALLOW", by decide, hta⟩ hc ⟨"ALLOW", by decide, hca⟩ rfl hvalid
    ⟨"ALLOW", by decide, hna⟩ hoperation hpurpose hb
  have habsent : exampleFetchRequest.get? "destination_binding_ref" = none := by decide
  have hpermitted : (exampleEngine 0).Permitted (exampleFetchCall t c n b) n e :=
    ⟨rfl, hvalid, rfl, he, ⟨_, GateDDecisionEngine.jointAction_mem t n, haction⟩, hoperation, hpurpose,
      fun v hv => absurd (habsent.symm.trans hv) (by simp)⟩
  have hready : GateDDecisionEngine.FenceReady (exampleFetchCall t c n b) n exampleFetch.lifecycle :=
    (GateDDecisionEngine.fenceReady_of_evaluated hn ⟨"ALLOW", by decide, hna⟩ fun _ => rfl).mpr (by
      rw [show (exampleFetchCall t c n b).trustDecision = t from rfl, hta]
      simp)
  let revalidate : Revalidator := fun _ _ _ => .ok true
  have haccepting : ∀ b' query, (exampleEngine 0).Carries (exampleFetchCall t c n b) b' query →
      revalidate query b' (exampleEngine 0).now = .ok true := fun _ _ _ => rfl
  exact ⟨_, n, hn, rfl, (hpermitted.fenceAccepts_iff _ haccepting).mpr hready⟩

/-- A connector over the decision, whose connections answer with no content. -/
theorem exampleFetch_connector [Idna] {n : Dict} (hn : (exampleEngine 0).evaluateNetwork exampleFetch = .ok n) :
    ∃ c : HttpsConnectorTransport, c.networkDecision = n ∧ c.fetch "https://example.com/" = .ok [] := by
  obtain ⟨binding, hbinding⟩ := GateDDecisionEngine.validateBinding_of_evaluated exampleFetch_connection rfl hn
  let c : HttpsConnectorTransport := {
    endpoint := "https://example.com/"
    networkDecision := n
    connectionBinding := binding
    connect := fun _ => .ok ⟨200, some "text/plain", [], []⟩
    target := exampleTarget
    bound := hbinding }
  have haccept : c.accept ⟨200, some "text/plain", [], []⟩ = .ok ⟨200, "text/plain", [], sha256Bytes ⟨#[]⟩⟩ := rfl
  refine ⟨c, rfl, ?_⟩
  simp only [HttpsConnectorTransport.fetch, normalizeUrl_example, ok_bind, AuthorizedHttpsTransport.request, c, bne_self_eq_false]
  simp only [c] at haccept
  rw [haccept]
  rfl

end

end Pmiri
