import Pmiri.GateD.ConnectorCall
import Pmiri.Collisions

/-!
# Where a connector fetches

An HTTPS connector is bound to the network decision that the fence has
accepted, and it compares what it is asked for with its own target. The
in-memory connector fetches whatever it is asked for.
-/

namespace Pmiri

open Py

/-- The `normalized_target` of a decision has the authority and the request
target of `t`. -/
def DecidedTarget (decision : Dict) (t : NormalizedTarget) : Prop :=
  ∃ items, decision.get "normalized_target" = .dict items ∧ ("scheme", .str "HTTPS") ∈ items ∧
    ("authority", .str t.authority) ∈ items ∧ ("path_class", .str t.requestTarget) ∈ items

/-- An item of a dictionary whose value is a string is an item of every equal one. -/
theorem mem_of_eqItems {k s : String} {xs ys : List (String × Val)} (h : Val.eqItems xs ys = true) (hk : (k, .str s) ∈ xs) :
    (k, .str s) ∈ ys := by
  induction xs with
  | nil => cases hk
  | cons x xs ih =>
    obtain ⟨k', v⟩ := x
    rw [Val.eqItems, Bool.and_eq_true, List.any_eq_true] at h
    obtain ⟨⟨kw, hkw, heq⟩, hrest⟩ := h
    rcases List.mem_cons.mp hk with he | hk
    · obtain ⟨rfl, rfl⟩ := Prod.mk.inj he
      obtain ⟨hkey, hvalue⟩ := Bool.and_eq_true_iff.mp heq
      rw [beq_iff_eq.mp hkey, ← Val.str_eq.mp hvalue]
      exact hkw
    · exact ih hrest hk

/-- Decisions that agree on `normalized_target` have the same target. -/
theorem DecidedTarget.of_agrees {a b : Dict} {t : NormalizedTarget} (h : DecidedTarget a t)
    (hab : a.agrees "normalized_target" b "normalized_target" = true) : DecidedTarget b t := by
  obtain ⟨items, ha, hscheme, hauthority, hpath⟩ := h
  rw [Dict.agrees, ha] at hab
  rcases hb : b.get "normalized_target" with _ | _ | _ | _ | _ | _ | items'
  all_goals rw [hb, Val.eq] at hab
  case dict =>
    obtain ⟨-, hitems⟩ := Bool.and_eq_true_iff.mp hab
    exact ⟨items', hb, mem_of_eqItems hitems hscheme, mem_of_eqItems hitems hauthority, mem_of_eqItems hitems hpath⟩
  all_goals cases hab

/-- Targets of one payload have one authority and one request target. -/
theorem requestTarget_of_payload {t u : NormalizedTarget} (h : t.payload.sortKeys = u.payload.sortKeys) :
    t.authority = u.authority ∧ t.requestTarget = u.requestTarget := by
  have hget : ∀ k, (t.payload.get k).sortKeys = (u.payload.get k).sortKeys := fun k => by
    rw [← Dict.get_sortKeys, ← Dict.get_sortKeys, h]
  have hauthority := hget "authority"
  have hpath := hget "path"
  have hquery := hget "query"
  simp only [NormalizedTarget.payload, Dict.ofItems, List.foldl_cons, List.foldl_nil, Dict.get_insert, String.reduceEq,
    ↓reduceIte] at hauthority hpath hquery
  refine ⟨by simpa [Val.sortKeys] using hauthority, ?_⟩
  have hq : t.query = u.query := by
    cases ht : t.query <;> cases hu : u.query <;> simp_all [optStr, Val.sortKeys]
  rw [NormalizedTarget.requestTarget, NormalizedTarget.requestTarget, hq, show t.path = u.path by simpa [Val.sortKeys] using hpath]

theorem printed_payload (t : NormalizedTarget) (reads : String → Rat) : t.payload.toVal.Printed reads := by
  refine Val.printed_toVal.mpr fun kv hkv => ?_
  have hmem := Dict.mem_ofItems hkv
  simp only [List.mem_cons, List.not_mem_nil, or_false] at hmem
  rcases hmem with rfl | rfl | rfl | rfl
  · trivial
  · trivial
  · trivial
  · cases t.query <;> trivial

section

variable [Runtime]

/-- Targets with one fingerprint are one target, or their payloads collide. -/
theorem requestTarget_of_fingerprint [Idna] {url url' : String} {t u : NormalizedTarget} (ht : normalizeUrl url = .ok t)
    (hu : normalizeUrl url' = .ok u) (h : t.fingerprint = u.fingerprint) :
    t.authority = u.authority ∧ t.requestTarget = u.requestTarget ∨ Collide t.payload.toVal u.payload.toVal := by
  rw [normalizeUrl_fingerprint ht, normalizeUrl_fingerprint hu] at h
  by_cases hcanonical : canonicalJson t.payload.toVal = canonicalJson u.payload.toVal
  · have hsame := Val.json_injective (printed_payload t fun _ => 0) (printed_payload u fun _ => 0) (canonicalJson_inj hcanonical)
    rw [Dict.toVal_sortKeys, Dict.toVal_sortKeys] at hsame
    exact .inl (requestTarget_of_payload (Dict.toVal_inj hsame))
  · exact .inr ⟨hcanonical, h⟩

variable [Idna]

/-- A constructed transport has its operation and its target from its decision. -/
theorem validateBinding_ok {endpoint operation : String} {decision : Dict} {binding : Val} {t : NormalizedTarget}
    (h : validateBinding endpoint decision operation binding = .ok t) :
    normalizeUrl endpoint = .ok t ∧ decision.get "operation" = .str operation ∧ DecidedTarget decision t := by
  obtain ⟨target, hurl, h⟩ := bind_ok.mp h
  obtain ⟨hdecision, h⟩ := seq_ok.mp h
  obtain ⟨b, -, h⟩ := bind_ok.mp h
  obtain ⟨-, h⟩ := seq_ok.mp h
  obtain ⟨-, h⟩ := seq_ok.mp h
  obtain ⟨htarget, h⟩ := seq_ok.mp h
  obtain ⟨-, h⟩ := seq_ok.mp h
  obtain rfl : target = t := Except.ok.inj h
  refine ⟨orUnauthorized_ok.mp hurl, ?_, ?_⟩
  · obtain ⟨-, hdecision⟩ := seq_ok.mp hdecision
    obtain ⟨hoperation, -⟩ := seq_ok.mp hdecision
    exact differs_false.mp (raiseIf_ok.mp hoperation)
  · unfold checkTransportTarget at htarget
    split at htarget
    · cases htarget
    · rename_i normalized hn
      simp only [raiseIf_ok, Bool.or_eq_false_iff, differs_false] at htarget
      obtain ⟨⟨hscheme, hauthority⟩, hpath⟩ := htarget
      rcases hd : decision.get "normalized_target" with _ | _ | _ | _ | _ | _ | items
      all_goals rw [hd, Val.asDict] at hn
      case dict =>
        obtain rfl := Option.some.inj hn
        have hmem : ∀ {k s}, (Dict.ofItems items).get k = .str s → (k, .str s) ∈ items := fun {k s} hk => by
          refine Dict.mem_ofItems (Dict.mem_items_iff.mpr ?_)
          rw [Dict.get?_of_contains (Dict.contains_of_str hk), hk]
        exact ⟨items, hd, hmem hscheme, hmem hauthority, hmem hpath⟩
      all_goals cases hn

theorem HttpsConnectorTransport.fetch_ok {c : HttpsConnectorTransport} {target : String} {body : List UInt8}
    (h : c.fetch target = .ok body) :
    ∃ t response, normalizeUrl target = .ok t ∧ t.fingerprint = c.target.fingerprint ∧ c.connect c.fetchRequest = .ok response := by
  obtain ⟨t, ht, h⟩ := bind_ok.mp h
  obtain ⟨hfingerprint, h⟩ := seq_ok.mp h
  obtain ⟨accepted, hrequest, -⟩ := bind_ok.mp h
  obtain ⟨response, hconnect, -⟩ := bind_ok.mp hrequest
  exact ⟨t, response, ht, by simpa using hfingerprint, hconnect⟩

/-- An executed fetch of an HTTPS connector is one of the operation that the
fence has accepted, and what is asked for and what is requested on the wire are
the network decision's target; the former only up to a collision of SHA-256. -/
theorem executeConnector_authorized (r : EnforcedTransportRuntime) (g : GateDDecisionEngine) (i : EmissionInput)
    (target : String) (c : HttpsConnectorTransport) (hconnector : r.connector = some c.transport)
    (hexecuted : (r.executeConnector g i target).executed) :
    ∃ n t response, i.networkDecision = some n ∧
      i.envelope.get "operation" = .str "connector_fetch" ∧ n.get "operation" = .str "connector_fetch" ∧
      normalizeUrl target = .ok t ∧ (DecidedTarget n t ∨ Collide t.payload.toVal c.target.payload.toVal) ∧
      c.connect c.fetchRequest = .ok response ∧ c.fetchRequest.host = c.target.host ∧
      c.fetchRequest.requestTarget = c.target.requestTarget ∧ DecidedTarget n c.target := by
  obtain ⟨transport, output, hreleased, hcall⟩ := EnforcedTransportRuntime.execute_executed.mp hexecuted
  obtain rfl : c.transport = transport := Option.some.inj (hconnector.symm.trans hreleased.configured)
  obtain ⟨hurl, hoperation, hdecided⟩ := validateBinding_ok c.bound
  obtain ⟨-, -, n, hn⟩ := hreleased.fence
  have hbound := hreleased.bound
  rw [transportBindingMatches, show c.transport.networkDecision.asDict = some c.networkDecision from Val.asDict_toVal _,
    hn.network, Option.getD_some] at hbound
  have hagrees : ∀ f ∈ transportBindingFields, c.networkDecision.agrees f n f = true := List.all_eq_true.mp hbound
  have hnetworkOperation : n.get "operation" = .str "connector_fetch" := by
    have h := hagrees "operation" (by decide)
    rwa [Dict.agrees, hoperation, Val.str_eq] at h
  have hnetwork : DecidedTarget n c.target := hdecided.of_agrees (hagrees "normalized_target" (by decide))
  obtain ⟨body, hfetch⟩ : ∃ body, c.fetch target = .ok body := by
    rw [show c.transport.call target = (c.fetch target).map _ from rfl] at hcall
    rcases hf : c.fetch target with e | body
    · rw [hf] at hcall
      cases hcall
    · exact ⟨body, rfl⟩
  obtain ⟨t, response, ht, hfingerprint, hconnect⟩ := c.fetch_ok hfetch
  refine ⟨n, t, response, hn.network, ?_, hnetworkOperation, ht, ?_, hconnect, rfl, rfl, hnetwork⟩
  · rw [hn.emission.same "operation" (by simp), hnetworkOperation]
  · apply (requestTarget_of_fingerprint ht hurl hfingerprint).imp_left
    intro hsame
    obtain ⟨hauthority, hrequest⟩ := hsame
    rw [DecidedTarget, hauthority, hrequest]
    exact hnetwork

end

/-- An in-memory connector. -/
def inMemoryConnector [Runtime] (response : List UInt8) : Transport String := connectorTransport true .none fun _ => .ok response

/-- A provider call lets the in-memory connector fetch a target that does not
even normalize. -/
theorem inMemory_fetches_elsewhere :
    letI := asciiRuntime
    letI : Idna := ⟨none⟩
    ∃ r g i, r.connector = some (inMemoryConnector []) ∧
      (EnforcedTransportRuntime.executeConnector r g i "http://elsewhere.example/").executed ∧
      i.envelope.get "operation" = .str "provider_call" ∧
      normalizeUrl "http://elsewhere.example/" = .error (networkBoundaryError "SCHEME_NOT_ALLOWED") := by
  let := asciiRuntime
  let : Idna := ⟨none⟩
  obtain ⟨t, -, ht, hta⟩ := exampleTrust_evaluated 0 "provider_call"
  obtain ⟨c, -, hc, hca, -⟩ := exampleCapability_evaluated 0 "provider_call"
  obtain ⟨n, -, hvalid, hshape, hoperation, hpurpose, hna, hdestination⟩ :=
    (exampleEngine 0).evaluateNetwork_validated exampleNetwork_validated rfl
  obtain ⟨b, e, -, haccepts⟩ := exampleCall_accepted 0 ht hta hc hca hvalid hshape hoperation hpurpose hna hdestination
  refine ⟨{ connector := some (inMemoryConnector []) }, exampleEngine 0, examplePresented 0 t c n e b, rfl, ?_, ?_, rfl⟩
  · exact EnforcedTransportRuntime.execute_executed.mpr ⟨_, _, ⟨haccepts, rfl, .inl rfl, rfl⟩, rfl⟩
  · obtain ⟨-, -, m, hm⟩ := haccepts
    obtain rfl : n = m := Option.some.inj hm.network
    rw [hm.emission.same "operation" (by simp), hoperation]
    rfl

/-- A fetch over the engine's own decision. -/
theorem executeConnector_authorized_example :
    letI := asciiRuntime
    letI : Idna := ⟨none⟩
    ∃ r i, ∃ c : HttpsConnectorTransport, r.connector = some c.transport ∧
      (EnforcedTransportRuntime.executeConnector r (exampleEngine 0) i "https://example.com/").executed ∧
      ∃ n t response, i.networkDecision = some n ∧
        i.envelope.get "operation" = .str "connector_fetch" ∧ n.get "operation" = .str "connector_fetch" ∧
        normalizeUrl "https://example.com/" = .ok t ∧ (DecidedTarget n t ∨ Collide t.payload.toVal c.target.payload.toVal) ∧
        c.connect c.fetchRequest = .ok response ∧ c.fetchRequest.host = c.target.host ∧
        c.fetchRequest.requestTarget = c.target.requestTarget ∧ DecidedTarget n c.target := by
  let := asciiRuntime
  let : Idna := ⟨none⟩
  obtain ⟨i, n, hn, hnetwork, haccepts⟩ := exampleFetch_accepted
  obtain ⟨c, hdecision, hfetch⟩ := exampleFetch_connector hn
  let r : EnforcedTransportRuntime := { connector := some c.transport, externalExecutionAuthorized := true }
  have hbound : transportBindingMatches c.transport (i.networkDecision.getD .empty) = true := by
    rw [transportBindingMatches, show c.transport.networkDecision.asDict = some c.networkDecision from Val.asDict_toVal _, hnetwork,
      Option.getD_some, hdecision]
    exact List.all_eq_true.mpr fun f _ => by rw [Dict.agrees, Val.eq_refl]
  obtain ⟨output, hcall⟩ : ∃ output, c.transport.call "https://example.com/" = .ok output :=
    ⟨_, congrArg (Except.map _) hfetch⟩
  have hexecuted : (r.executeConnector (exampleEngine 0) i "https://example.com/").executed :=
    EnforcedTransportRuntime.execute_executed.mpr ⟨c.transport, output, ⟨haccepts, rfl, .inr rfl, hbound⟩, hcall⟩
  exact ⟨r, i, c, rfl, hexecuted, executeConnector_authorized r (exampleEngine 0) i "https://example.com/" c rfl hexecuted⟩

end Pmiri
