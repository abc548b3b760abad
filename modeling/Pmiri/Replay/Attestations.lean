import Pmiri.Python.Sha256
import Pmiri.Python.InOrder
import Pmiri.Python.Comprehension
import Pmiri.Python.SortedSet
import Pmiri.Replay.CleanRoom

/-!
# Attestations that are written and loaded

`create_attestation` records what was observed in every domain, `write_attestation`
stores the record, and `load_attestation` computes its digest, status and outcome
again. The loader asks more of an observation than the creator: a known result and
texts that are not empty, under the name of the domain.
-/

namespace Pmiri

open Py

/-- The arguments of `create_attestation`, with the time it reads. -/
structure AttestationInput where
  authorizationId : String
  caseId : String
  launcher : Dict
  fingerprints : Dict
  observations : Isolation
  keyed : (observations.map Prod.fst).Nodup
  caseRootPolicy : String
  caseRootFingerprint : Option String
  clock : Instant

/-- What a record holds of an observation. -/
def domainEntry (observation : IsolationObservation) : Dict := .ofItems [
  ("result", .str observation.result),
  ("evidence_ref", .str observation.evidenceRef),
  ("observation", .str observation.observation)]

/-- The entries of a record, domain by domain. -/
def domainEntries (observations : Isolation) : List String → Except Exc (List (String × Val))
  | [] => .ok []
  | domain :: domains =>
    match observations.lookup domain with
    | none => .error (.keyError domain)
    | some observation => do
      let rest ← domainEntries observations domains
      return (domain, (domainEntry observation).toVal) :: rest

namespace AttestationInput

variable (i : AttestationInput)

/-- `ready`, once the policy of the case root is looked at. -/
def ready : Bool := (verifyAttestation i.observations).1 && i.caseRootPolicy == "FRESH_CASE_ROOT"

def outcome : String :=
  if (verifyAttestation i.observations).1 && i.caseRootPolicy != "FRESH_CASE_ROOT" then "BLOCKED"
  else (verifyAttestation i.observations).2

def status : String :=
  if i.ready then "VERIFIED" else if i.outcome = "ISOLATION_VIOLATION" then "FAILED" else "UNVERIFIED"

/-- `dict(sorted(fingerprints.items()))` -/
def sortedFingerprints : Val := .dict (sortItems i.fingerprints.items)

section

variable [Runtime]

def rootFingerprint : String :=
  i.caseRootFingerprint.getD (sha256Json (Dict.ofItems [
    ("case_id", .str i.caseId), ("root_policy", .str i.caseRootPolicy)]).toVal)

def attestationId : String :=
  "att_" ++ String.ofList ((sha256Json (Dict.ofItems [
    ("authorization_id", .str i.authorizationId), ("case_id", .str i.caseId),
    ("fingerprints", i.sortedFingerprints)]).toVal).toList.take 32)

/-- The fields of the record before those of the domains. -/
def attestationFields : List (String × Val) := [
  ("attestation_id", .str i.attestationId),
  ("version", .str "0.1"),
  ("status", .str i.status),
  ("launcher", (Dict.ofItems [("launcher_id", .str LAUNCHER_ID), ("launcher_version", .str LAUNCHER_VERSION)]).toVal),
  ("case", (Dict.ofItems [
    ("case_id", .str i.caseId), ("root_policy", .str i.caseRootPolicy),
    ("root_fingerprint", .str i.rootFingerprint)]).toVal),
  ("authorization_id", .str i.authorizationId),
  ("fingerprints", i.sortedFingerprints),
  ("outcome", .str i.outcome),
  ("captured_at", .str (utcNow i.clock))]

/-- The items of the record, but for its digest. -/
def unsignedItems (entries : List (String × Val)) : List (String × Val) :=
  i.attestationFields ++ entries ++ if i.ready then [] else [("failure_reason", .str "isolation_evidence_not_ready")]

end

end AttestationInput

section

variable [Runtime]

def createAttestation (i : AttestationInput) : Except Exc Dict := do
  raiseIf (i.authorizationId == "" || i.caseId == "") (attestationError "attestation_identity_missing")
  raiseIf (!i.launcher.keysAre ["launcher_id", "launcher_version"]) (attestationError "launcher_shape_invalid")
  raiseIf (differs i.launcher "launcher_id" LAUNCHER_ID || differs i.launcher "launcher_version" LAUNCHER_VERSION)
    (attestationError "launcher_identity_invalid")
  raiseIf (!(["FRESH_CASE_ROOT", "UNVERIFIED"].contains i.caseRootPolicy)) (attestationError "case_root_policy_invalid")
  raiseIf (!isSha256 (.str i.rootFingerprint)) (attestationError "case_root_fingerprint_invalid")
  raiseIf (!i.fingerprints.keysAre ATTESTATION_FINGERPRINTS) (attestationError "attestation_fingerprint_set_invalid")
  raiseIf (ATTESTATION_FINGERPRINTS.any fun key => !isSha256 (i.fingerprints.get key))
    (attestationError "attestation_fingerprint_missing_or_invalid")
  raiseIf (!((i.observations.map Prod.fst).all DOMAINS.contains && DOMAINS.all (i.observations.map Prod.fst).contains))
    (attestationError "attestation_domains_incomplete")
  let entries ← domainEntries i.observations DOMAINS
  let unsigned := Dict.ofItems (i.unsignedItems entries)
  return unsigned.insert "attestation_sha256" (.str (sha256Json (unsigned.without "attestation_sha256").toVal))

/-- What reading the text gives that `write_attestation` writes. -/
def writeAttestation (record : Dict) : Except Exc Val := .ok record.toVal.sortKeys

end

/-! ## Observations that the loader takes -/

/-- The results that `normalize_observation` knows. -/
def KNOWN_RESULTS : List String := ["VERIFIED", "DENIED", "ALLOWLIST_VERIFIED", "AVAILABLE", "UNVERIFIED", "FAILED"]

/-- `normalize_observation` takes what the observation says. -/
structure IsolationObservation.Normal (observation : IsolationObservation) : Prop where
  result : observation.result ∈ KNOWN_RESULTS
  evidence : observation.evidenceRef ≠ ""
  observed : observation.observation ≠ ""

theorem normalizeObservation_ok {raw : Dict} {o : IsolationObservation} :
    normalizeObservation raw = .ok o ↔
      raw.get "domain" = .str o.domain ∧ raw.get "result" = .str o.result ∧ raw.get "evidence_ref" = .str o.evidenceRef ∧
        raw.get "observation" = .str o.observation ∧ o.domain ∈ DOMAINS ∧ o.Normal := by
  constructor
  · intro h
    unfold normalizeObservation at h
    obtain ⟨hdomain, h⟩ := seq_ok.mp h
    obtain ⟨hresult, h⟩ := seq_ok.mp h
    obtain ⟨htexts, h⟩ := seq_ok.mp h
    simp only [raiseIf_ok, Bool.not_eq_false', List.any_eq_true, Val.eq_str] at hdomain
    obtain ⟨domain, hmem, hdomain⟩ := hdomain
    obtain ⟨result, hknown, hresult⟩ := Val.notIn_ok_false.mp (raiseIfM_ok.mp hresult)
    rw [raiseIf_ok, Bool.or_eq_false_iff, Bool.not_eq_false', Bool.not_eq_false', Val.isNonemptyStr_iff, Val.isNonemptyStr_iff] at htexts
    obtain ⟨⟨evidence, hevidence, hev⟩, observed, hobserved, hob⟩ := htexts
    rw [hdomain, hresult, hev, hob] at h ⊢
    obtain rfl := Except.ok.inj h
    exact ⟨rfl, rfl, rfl, rfl, hmem, hknown, hevidence, hobserved⟩
  · intro h
    obtain ⟨hdomain, hresult, hev, hob, hmem, hnormal⟩ := h
    unfold normalizeObservation
    rw [hdomain, hresult, hev, hob]
    refine seq_ok.mpr ⟨?_, seq_ok.mpr ⟨raiseIfM_ok.mpr (Val.notIn_ok_false.mpr ⟨_, hnormal.result, rfl⟩), seq_ok.mpr ⟨?_, rfl⟩⟩⟩
    · rw [raiseIf_ok, Bool.not_eq_false', List.any_eq_true]
      exact ⟨o.domain, hmem, Val.eq_refl _⟩
    · rw [raiseIf_ok, Bool.or_eq_false_iff, Bool.not_eq_false', Bool.not_eq_false', Val.isNonemptyStr_iff, Val.isNonemptyStr_iff]
      exact ⟨⟨_, hnormal.evidence, rfl⟩, _, hnormal.observed, rfl⟩

theorem get?_domainEntry (o : IsolationObservation) (k : String) :
    (domainEntry o).get? k =
      [("result", Val.str o.result), ("evidence_ref", .str o.evidenceRef), ("observation", .str o.observation)].lookup k :=
  Dict.get?_ofItems (by simp) k

/-- An entry that is read back is normalized under the name of the domain that it is read for. -/
theorem normalizeObservation_entry {domain : String} (hdomain : domain ∈ DOMAINS) {o o' : IsolationObservation} :
    normalizeObservation ((Dict.ofItems [("domain", .str domain)]).merge (domainEntry o).sortKeys) = .ok o' ↔
      o.Normal ∧ o' = { o with domain := domain } := by
  have hget : ∀ k, ((Dict.ofItems [("domain", .str domain)]).merge (domainEntry o).sortKeys).get k =
      ((((domainEntry o).get? k).map Val.sortKeys).or ([("domain", Val.str domain)].lookup k)).getD .none := by
    intro k
    rw [Dict.get, Dict.get?_merge, Dict.get?_sortKeys, Dict.get?_ofItems (by simp)]
  rw [normalizeObservation_ok, hget, hget, hget, hget]
  simp only [get?_domainEntry, Py.lookup_cons_ite, List.lookup_nil, String.reduceEq, ↓reduceIte, Option.map_some, Option.map_none,
    Option.some_or, Option.none_or, Option.getD_some, Val.sortKeys, Val.str.injEq]
  constructor
  · intro h
    obtain ⟨hdomain', hresult, hevidence, hobservation, -, hnormal⟩ := h
    obtain ⟨domain', result', evidence', observation'⟩ := o'
    simp only at hdomain' hresult hevidence hobservation
    subst hdomain' hresult hevidence hobservation
    exact ⟨⟨hnormal.result, hnormal.evidence, hnormal.observed⟩, rfl⟩
  · intro h
    obtain ⟨hnormal, rfl⟩ := h
    exact ⟨rfl, rfl, rfl, rfl, hdomain, hnormal.result, hnormal.evidence, hnormal.observed⟩

theorem keysWithin_domainEntry (o : IsolationObservation) :
    (domainEntry o).sortKeys.keysWithin ["result", "evidence_ref", "observation", "observed_at"] = true := by
  refine Dict.keysWithin_iff.mpr fun k hk => ?_
  have hkeys : k ∈ ["result", "evidence_ref", "observation"] := Dict.mem_keys_ofItems.mp (Dict.mem_keys_sortKeys.mp hk)
  exact List.sublist_append_left ["result", "evidence_ref", "observation"] ["observed_at"] |>.subset hkeys

/-- What is loaded for a domain is what was observed of it, under its name. -/
def ReadAs (observations : Isolation) (domain : String) (loaded : String × IsolationObservation) : Prop :=
  ∃ o : IsolationObservation, observations.lookup domain = some o ∧ o.Normal ∧ loaded = (domain, { o with domain := domain })

/-- What is read of a record which holds the entry of every domain. -/
theorem readObservations_entries [Runtime] {record : Dict} {observations : Isolation} {domains : List String}
    (hdomains : ∀ domain ∈ domains, domain ∈ DOMAINS)
    (hentries : ∀ domain ∈ domains, ∃ o, observations.lookup domain = some o ∧
      record.get domain = (domainEntry o).sortKeys.toVal) {loaded : Isolation} :
    readObservations record domains = .ok loaded ↔ List.Forall₂ (ReadAs observations) domains loaded := by
  induction domains generalizing loaded with
  | nil => simp [readObservations, eq_comm]
  | cons domain domains ih =>
    obtain ⟨o, hlookup, hget⟩ := hentries domain List.mem_cons_self
    have ih : ∀ loaded, readObservations record domains = .ok loaded ↔ List.Forall₂ (ReadAs observations) domains loaded :=
      fun _ => ih (fun d hd => hdomains d (List.mem_cons_of_mem _ hd)) fun d hd => hentries d (List.mem_cons_of_mem _ hd)
    have hkeys : raiseIf (!(domainEntry o).sortKeys.keysWithin ["result", "evidence_ref", "observation", "observed_at"])
        (attestationError ("attestation_domain_shape_invalid:" ++ domain)) = .ok () := by
      rw [keysWithin_domainEntry]
      rfl
    unfold readObservations
    rw [hget, dictOr_ok.mpr (Val.asDict_toVal _), ok_bind, hkeys]
    constructor
    · intro h
      obtain ⟨-, h⟩ := seq_ok.mp h
      obtain ⟨o', ho', h⟩ := bind_ok.mp h
      obtain ⟨rest, hrest, h⟩ := bind_ok.mp h
      obtain ⟨hnormal, rfl⟩ := (normalizeObservation_entry (hdomains domain List.mem_cons_self)).mp ho'
      obtain rfl := Except.ok.inj h
      exact .cons ⟨o, hlookup, hnormal, rfl⟩ ((ih rest).mp hrest)
    · intro h
      cases h with
      | cons hread hrest =>
        obtain ⟨o', ho', hnormal, rfl⟩ := hread
        obtain rfl := Option.some.inj (hlookup.symm.trans ho')
        refine seq_ok.mpr ⟨rfl, bind_ok.mpr ⟨_, (normalizeObservation_entry (hdomains domain List.mem_cons_self)).mpr
          ⟨hnormal, rfl⟩, bind_ok.mpr ⟨_, (ih _).mpr hrest, rfl⟩⟩⟩

theorem keys_of_readAs {observations loaded : Isolation} {domains : List String}
    (h : List.Forall₂ (ReadAs observations) domains loaded) : loaded.map Prod.fst = domains := by
  induction h with
  | nil => rfl
  | cons hread _ ih =>
    obtain ⟨o, -, -, rfl⟩ := hread
    rw [List.map_cons, ih]

theorem lookup_of_readAs {observations loaded : Isolation} {domains : List String}
    (h : List.Forall₂ (ReadAs observations) domains loaded) {domain : String} (hdomain : domain ∈ domains) :
    ∃ o : IsolationObservation, observations.lookup domain = some o ∧ o.Normal ∧
      loaded.lookup domain = some { o with domain := domain } := by
  induction h with
  | nil => cases hdomain
  | @cons d p domains loaded hread _ ih =>
    obtain ⟨o, hlookup, hnormal, rfl⟩ := hread
    rw [Py.lookup_cons_ite]
    by_cases heq : domain = d
    · subst heq
      exact ⟨o, hlookup, hnormal, if_pos rfl⟩
    · rw [if_neg heq]
      exact ih ((List.mem_cons.mp hdomain).resolve_left heq)

/-- Evidence with the same results is verified alike. -/
theorem verifyDomains_congr {evidence evidence' : Isolation} {domains : List String}
    (h : ∀ domain ∈ domains, (evidence.lookup domain).map (·.result) = (evidence'.lookup domain).map (·.result)) :
    verifyDomains evidence domains = verifyDomains evidence' domains := by
  induction domains with
  | nil => rfl
  | cons domain domains ih =>
    have ih := ih fun d hd => h d (List.mem_cons_of_mem _ hd)
    have hhead := h domain List.mem_cons_self
    rw [verifyDomains, verifyDomains, ih]
    cases he : evidence.lookup domain with
    | none =>
      rw [he] at hhead
      rw [Option.map_eq_none_iff.mp hhead.symm]
    | some o =>
      rw [he] at hhead
      obtain ⟨o', ho', hresult⟩ := Option.map_eq_some_iff.mp hhead.symm
      rw [ho']
      simp only [hresult]

theorem verifyDomains_ready {evidence : Isolation} {domains : List String} (h : (verifyDomains evidence domains).1 = true) :
    (verifyDomains evidence domains).2 = "READY_FOR_REPLAY" := by
  induction domains with
  | nil => rfl
  | cons domain domains ih =>
    unfold verifyDomains at h ⊢
    split
    · rename_i hlookup
      rw [hlookup] at h
      cases h
    · rename_i o hlookup
      simp only [hlookup] at h
      split at h
      · cases h
      · rename_i hfailed
        rw [if_neg hfailed]
        split at h
        · cases h
        · rename_i hexpected
          rw [if_neg hexpected]
          exact ih h

theorem verifyAttestation_ready {evidence : Isolation} (h : (verifyAttestation evidence).1 = true) :
    (verifyAttestation evidence).2 = "READY_FOR_REPLAY" := by
  unfold verifyAttestation at h ⊢
  split at h
  · rename_i hdomains
    rw [if_pos hdomains]
    exact verifyDomains_ready h
  · cases h

/-- The loader verifies what it reads as the creator verified what was observed. -/
theorem verifyAttestation_of_readAs {observations loaded : Isolation} (h : List.Forall₂ (ReadAs observations) DOMAINS loaded)
    (hdomains : ∀ domain, domain ∈ observations.map Prod.fst ↔ domain ∈ DOMAINS) :
    verifyAttestation loaded = verifyAttestation observations := by
  have hall : ∀ evidence : Isolation, (∀ domain, domain ∈ evidence.map Prod.fst ↔ domain ∈ DOMAINS) →
      verifyAttestation evidence = verifyDomains evidence DOMAINS := by
    intro evidence hevidence
    refine if_pos ?_
    rw [Bool.and_eq_true, List.all_eq_true, List.all_eq_true]
    simp only [List.contains_iff_mem]
    exact ⟨fun d hd => (hevidence d).mp hd, fun d hd => (hevidence d).mpr hd⟩
  rw [hall loaded (fun _ => by rw [keys_of_readAs h]), hall observations hdomains]
  refine verifyDomains_congr fun domain hdomain => ?_
  obtain ⟨o, hlookup, -, hloaded⟩ := lookup_of_readAs h hdomain
  rw [hlookup, hloaded]
  rfl

/-! ## The record -/

theorem domainEntries_ok {observations : Isolation} {domains : List String} {entries : List (String × Val)}
    (h : domainEntries observations domains = .ok entries) :
    List.Forall₂ (fun domain entry => ∃ o, observations.lookup domain = some o ∧ entry = (domain, (domainEntry o).toVal))
      domains entries := by
  induction domains generalizing entries with
  | nil =>
    obtain rfl := Except.ok.inj h
    exact .nil
  | cons domain domains ih =>
    unfold domainEntries at h
    split at h
    · cases h
    · rename_i o hlookup
      obtain ⟨rest, hrest, h⟩ := bind_ok.mp h
      obtain rfl := Except.ok.inj h
      exact .cons ⟨o, hlookup, rfl⟩ (ih hrest)

theorem keys_domainEntries {observations : Isolation} {domains : List String} {entries : List (String × Val)}
    (h : domainEntries observations domains = .ok entries) : entries.map Prod.fst = domains := by
  have hall := domainEntries_ok h
  clear h
  induction hall with
  | nil => rfl
  | cons hentry _ ih =>
    obtain ⟨o, -, rfl⟩ := hentry
    rw [List.map_cons, ih]

theorem mem_domainEntries {observations : Isolation} {domains : List String} {entries : List (String × Val)}
    (h : domainEntries observations domains = .ok entries) {domain : String} (hdomain : domain ∈ domains) :
    ∃ o, observations.lookup domain = some o ∧ (domain, (domainEntry o).toVal) ∈ entries := by
  have hall := domainEntries_ok h
  clear h
  induction hall with
  | nil => cases hdomain
  | cons hentry _ ih =>
    obtain ⟨o, hlookup, rfl⟩ := hentry
    cases hdomain with
    | head => exact ⟨o, hlookup, List.mem_cons_self⟩
    | tail _ hdomain =>
      obtain ⟨o', hlookup', hmem⟩ := ih hdomain
      exact ⟨o', hlookup', List.mem_cons_of_mem _ hmem⟩

namespace AttestationInput

variable [Runtime] {i : AttestationInput} {entries : List (String × Val)}

/-- What `create_attestation` asks of its arguments. -/
structure Accepted (i : AttestationInput) : Prop where
  policy : i.caseRootPolicy ∈ ["FRESH_CASE_ROOT", "UNVERIFIED"]
  root : isSha256 (.str i.rootFingerprint) = true
  fingerprints : i.fingerprints.keysAre ATTESTATION_FINGERPRINTS = true
  hashes : ∀ key ∈ ATTESTATION_FINGERPRINTS, isSha256 (i.fingerprints.get key) = true
  domains : ∀ domain, domain ∈ i.observations.map Prod.fst ↔ domain ∈ DOMAINS

/-- The record without its digest. -/
def unsigned (i : AttestationInput) (entries : List (String × Val)) : Dict := .ofItems (i.unsignedItems entries)

theorem keys_attestationFields : i.attestationFields.map Prod.fst = ["attestation_id", "version", "status", "launcher", "case",
    "authorization_id", "fingerprints", "outcome", "captured_at"] := rfl

theorem nodup_unsignedItems (h : entries.map Prod.fst = DOMAINS) :
    ((i.unsignedItems entries).map Prod.fst).Nodup ∧ "attestation_sha256" ∉ (i.unsignedItems entries).map Prod.fst := by
  rw [unsignedItems, List.map_append, List.map_append, h, keys_attestationFields]
  cases i.ready <;> exact ⟨by decide, by decide⟩

theorem get_unsigned (h : entries.map Prod.fst = DOMAINS) {k : String} {v : Val} (hmem : (k, v) ∈ i.unsignedItems entries) :
    (i.unsigned entries).get k = v := by
  have hnodup := (nodup_unsignedItems (i := i) h).1
  have hget : (i.unsigned entries).get? k = some v := by
    rw [← Dict.mem_items_iff, unsigned, Dict.ofItems_items hnodup]
    exact hmem
  rw [Dict.get, hget]
  rfl

end AttestationInput

theorem createAttestation_ok [Runtime] {i : AttestationInput} {record : Dict} (h : createAttestation i = .ok record) :
    i.Accepted ∧ ∃ entries, domainEntries i.observations DOMAINS = .ok entries ∧
      record = (i.unsigned entries).insert "attestation_sha256" (.str (sha256Json (i.unsigned entries).toVal)) := by
  unfold createAttestation at h
  obtain ⟨-, h⟩ := seq_ok.mp h
  obtain ⟨-, h⟩ := seq_ok.mp h
  obtain ⟨-, h⟩ := seq_ok.mp h
  obtain ⟨hpolicy, h⟩ := seq_ok.mp h
  obtain ⟨hroot, h⟩ := seq_ok.mp h
  obtain ⟨hset, h⟩ := seq_ok.mp h
  obtain ⟨hhashes, h⟩ := seq_ok.mp h
  obtain ⟨hdomains, h⟩ := seq_ok.mp h
  obtain ⟨entries, hentries, h⟩ := bind_ok.mp h
  have hkeys := keys_domainEntries hentries
  have hwithout : (Dict.ofItems (i.unsignedItems entries)).without "attestation_sha256" = Dict.ofItems (i.unsignedItems entries) := by
    refine Dict.filterKeys_self fun k hk => bne_iff_ne.mpr ?_
    rintro rfl
    exact (AttestationInput.nodup_unsignedItems hkeys).2 (Dict.mem_keys_ofItems.mp hk)
  simp only [raiseIf_ok, Bool.not_eq_false', List.contains_iff_mem, List.any_eq_false, Bool.not_eq_true', Bool.not_eq_false,
    Bool.and_eq_true, List.all_eq_true] at hpolicy hroot hset hhashes hdomains
  refine ⟨⟨hpolicy, hroot, hset, hhashes, fun d => ⟨hdomains.1 d, hdomains.2 d⟩⟩, entries, hentries, ?_⟩
  rw [← Except.ok.inj h, hwithout, AttestationInput.unsigned]

theorem status_createAttestation [Runtime] {i : AttestationInput} {record : Dict} (h : createAttestation i = .ok record) :
    record.get "status" = .str i.status := by
  obtain ⟨-, entries, hentries, rfl⟩ := createAttestation_ok h
  have hmem : ("status", Val.str i.status) ∈ i.unsignedItems entries :=
    List.mem_append_left _ (List.mem_append_left _ (by simp [AttestationInput.attestationFields]))
  rw [Dict.get_insert, if_neg (by decide), AttestationInput.get_unsigned (keys_domainEntries hentries) hmem]

/-! ## Loading what was written -/

theorem AttestationInput.sortKeys_sortedFingerprints (i : AttestationInput) :
    i.sortedFingerprints.sortKeys = i.fingerprints.sortKeys.toVal := by
  have hsorted : sortItems (sortItems i.fingerprints.items) = sortItems i.fingerprints.items :=
    (Val.pairwise_sortItems _).insertionSort_eq
  rw [← Dict.toVal_sortKeys, sortedFingerprints, Dict.toVal, Val.sortKeys, Val.sortKeys, Val.sortKeysItems_eq_map,
    Val.sortKeysItems_eq_map, Val.sortItems_map, Val.sortItems_map, hsorted]

section

variable [Runtime] {i : AttestationInput} {entries : List (String × Val)}

/-- The loader's status and outcome are those of the record. -/
theorem AttestationInput.status_of_readAs (haccepted : i.Accepted) {loaded : Isolation}
    (h : List.Forall₂ (ReadAs i.observations) DOMAINS loaded) :
    let ready := (verifyAttestation loaded).1 && (Val.str i.caseRootPolicy).eq (.str "FRESH_CASE_ROOT")
    i.status = (if ready then "VERIFIED" else if (verifyAttestation loaded).2 = "ISOLATION_VIOLATION" then "FAILED" else "UNVERIFIED") ∧
      i.outcome = (if ready then "READY_FOR_REPLAY" else if (verifyAttestation loaded).1 then "BLOCKED" else (verifyAttestation loaded).2) := by
  have hpolicy : (Val.str i.caseRootPolicy).eq (.str "FRESH_CASE_ROOT") = (i.caseRootPolicy == "FRESH_CASE_ROOT") := by
    rw [Bool.eq_iff_iff, Val.eq_str, beq_iff_eq, Val.str.injEq]
  intro ready
  simp only [ready, hpolicy, verifyAttestation_of_readAs h haccepted.domains, status, outcome, AttestationInput.ready, bne]
  by_cases hverified : (verifyAttestation i.observations).1 = true
  · have hready := verifyAttestation_ready hverified
    by_cases hfresh : i.caseRootPolicy = "FRESH_CASE_ROOT" <;> simp [hverified, hready, hfresh]
  · simp [hverified]

/-- What a record that was written for the arguments holds when it is read. -/
structure AttestationInput.Stored (i : AttestationInput) (written : Dict) : Prop where
  version : written.get "version" = .str "0.1"
  status : written.get "status" = .str i.status
  outcome : written.get "outcome" = .str i.outcome
  launcher : written.get "launcher" =
    (Dict.ofItems [("launcher_id", .str LAUNCHER_ID), ("launcher_version", .str LAUNCHER_VERSION)]).sortKeys.toVal
  case : written.get "case" = (Dict.ofItems [("case_id", .str i.caseId), ("root_policy", .str i.caseRootPolicy),
    ("root_fingerprint", .str i.rootFingerprint)]).sortKeys.toVal
  fingerprints : written.get "fingerprints" = i.fingerprints.sortKeys.toVal
  digest : written.get "attestation_sha256" = .str (sha256Json (written.without "attestation_sha256").toVal)
  entries : ∀ domain ∈ DOMAINS, ∃ o, i.observations.lookup domain = some o ∧ written.get domain = (domainEntry o).sortKeys.toVal

theorem AttestationInput.stored_written (hentries : domainEntries i.observations DOMAINS = .ok entries) :
    i.Stored ((i.unsigned entries).insert "attestation_sha256" (.str (sha256Json (i.unsigned entries).toVal))).sortKeys := by
  have hkeys := keys_domainEntries hentries
  obtain ⟨hnodup, hnew⟩ := nodup_unsignedItems (i := i) hkeys
  have hnot : "attestation_sha256" ∉ (i.unsigned entries).keys := fun hmem => hnew (Dict.mem_keys_ofItems.mp hmem)
  generalize hwritten : ((i.unsigned entries).insert "attestation_sha256" (.str (sha256Json (i.unsigned entries).toVal))).sortKeys = written
  have hget : ∀ k v, (k, v) ∈ i.unsignedItems entries → written.get k = v.sortKeys := by
    intro k v hmem
    have hne : k ≠ "attestation_sha256" := by
      rintro rfl
      exact hnew (List.mem_map_of_mem hmem)
    rw [← hwritten, Dict.get_sortKeys, Dict.get_insert, if_neg hne, get_unsigned hkeys hmem]
  have hfield : ∀ k v, (k, v) ∈ i.attestationFields → written.get k = v.sortKeys := by
    intro k v hmem
    exact hget k v (List.mem_append_left _ (List.mem_append_left _ hmem))
  have hdigest : written.get "attestation_sha256" = .str (sha256Json (i.unsigned entries).toVal) := by
    rw [← hwritten, Dict.get_sortKeys, Dict.get_insert_self, Val.sortKeys]
  have hwithout : written.without "attestation_sha256" = (i.unsigned entries).sortKeys := by
    rw [← hwritten, Dict.without, Dict.filterKeys_sortKeys, ← Dict.without, Dict.without_insert hnot]
  refine ⟨?_, ?_, ?_, ?_, ?_, ?_, ?_, fun domain hdomain => ?_⟩
  · rw [hfield "version" (.str "0.1") (by simp [attestationFields]), Val.sortKeys]
  · rw [hfield "status" (.str i.status) (by simp [attestationFields]), Val.sortKeys]
  · rw [hfield "outcome" (.str i.outcome) (by simp [attestationFields]), Val.sortKeys]
  · rw [← Dict.toVal_sortKeys]
    exact hfield "launcher" _ (by simp [attestationFields])
  · rw [← Dict.toVal_sortKeys]
    exact hfield "case" _ (by simp [attestationFields])
  · rw [← i.sortKeys_sortedFingerprints]
    exact hfield "fingerprints" _ (by simp [attestationFields])
  · rw [hdigest, hwithout, ← Dict.toVal_sortKeys, sha256Json_sortKeys]
  · obtain ⟨o, hlookup, hmem⟩ := mem_domainEntries hentries hdomain
    refine ⟨o, hlookup, ?_⟩
    rw [hget domain _ (List.mem_append_left _ (List.mem_append_right _ hmem)), Dict.toVal_sortKeys]

/-- Of a record that was written, exactly the observations are loaded that the loader normalizes. -/
theorem loadAttestation_stored (haccepted : i.Accepted) {written : Dict} (hstored : i.Stored written) {record : Dict}
    {loaded : Isolation} :
    loadAttestation (.ok written.toVal) = .ok (record, loaded) ↔
      record = written ∧ List.Forall₂ (ReadAs i.observations) DOMAINS loaded := by
  have hread : readObservations written DOMAINS = .ok loaded ↔ List.Forall₂ (ReadAs i.observations) DOMAINS loaded :=
    readObservations_entries (fun _ hd => hd) hstored.entries
  have hgetD : ∀ k d, written.get k = Dict.toVal d → written.getD k (.dict []) = d.toVal := by
    intro k d h
    rw [Dict.getD_of_contains _ (Dict.contains_of_get (by rw [h, Dict.toVal]; exact Val.noConfusion)), h]
  constructor
  · intro h
    unfold loadAttestation at h
    obtain ⟨content, hcontent, h⟩ := bind_ok.mp h
    obtain rfl := Except.ok.inj hcontent
    obtain ⟨record', hrecord, h⟩ := bind_ok.mp h
    rw [dictOr_ok, Val.asDict_toVal, Option.some.injEq] at hrecord
    subst hrecord
    iterate 5 obtain ⟨-, h⟩ := seq_ok.mp h
    obtain ⟨rootPolicy, -, h⟩ := bind_ok.mp h
    iterate 3 obtain ⟨-, h⟩ := seq_ok.mp h
    obtain ⟨observations, hobservations, h⟩ := bind_ok.mp h
    obtain ⟨-, h⟩ := seq_ok.mp h
    obtain ⟨rfl, rfl⟩ := Prod.mk.inj (Except.ok.inj h)
    exact ⟨rfl, hread.mp hobservations⟩
  · intro h
    obtain ⟨rfl, hloaded⟩ := h
    obtain ⟨hstatus, houtcome⟩ := AttestationInput.status_of_readAs haccepted hloaded
    have hkeysAre : ∀ k items names, record.get k = (Dict.ofItems items).sortKeys.toVal →
        (Dict.ofItems items).keysAre names = true → elementsAre (record.getD k (.dict [])) names = .ok true := by
      intro k items names h hnames
      rw [hgetD k _ h, elementsAre_toVal, Dict.keysAre_sortKeys, hnames]
    have hgetOf : ∀ k l (d : Dict), record.get k = d.sortKeys.toVal → (record.getD k (.dict [])).getOf l = .ok (d.get l).sortKeys := by
      intro k l d h
      rw [hgetD k _ h, ← Dict.get_sortKeys]
      exact Val.getOf_ok.mpr ⟨_, Val.asDict_toVal _, rfl⟩
    unfold loadAttestation
    refine bind_ok.mpr ⟨_, rfl, bind_ok.mpr ⟨_, dictOr_ok.mpr (Val.asDict_toVal _), ?_⟩⟩
    refine seq_ok.mpr ⟨raiseIf_ok.mpr (differs_false.mpr hstored.version), ?_⟩
    refine seq_ok.mpr ⟨?digest, seq_ok.mpr ⟨?launcher, seq_ok.mpr ⟨?identity, seq_ok.mpr ⟨?case, bind_ok.mpr ⟨_, hgetOf _ _ _ hstored.case,
      seq_ok.mpr ⟨?root, seq_ok.mpr ⟨?fingerprints, seq_ok.mpr ⟨?hashes, bind_ok.mpr ⟨loaded, hread.mpr hloaded,
        seq_ok.mpr ⟨?status, rfl⟩⟩⟩⟩⟩⟩⟩⟩⟩⟩
    case digest =>
      rw [hstored.digest, isSha256_sha256Json, Val.eq_refl]
      rfl
    case launcher => exact raiseIfM_ok.mpr (pyNot_ok.mpr (hkeysAre _ _ _ hstored.launcher (by decide)))
    case identity =>
      refine raiseIfM_ok.mpr (pyOr_ok_false.mpr ⟨fieldDiffers_ok_false.mpr ?_, fieldDiffers_ok_false.mpr ?_⟩)
      · exact hgetOf _ _ _ hstored.launcher
      · exact hgetOf _ _ _ hstored.launcher
    case case => exact raiseIfM_ok.mpr (pyNot_ok.mpr (hkeysAre _ _ _ hstored.case rfl))
    case root =>
      refine raiseIfM_ok.mpr (pyOr_ok_false.mpr ⟨Val.notIn_ok_false.mpr ⟨_, haccepted.policy, rfl⟩, bind_ok.mpr ⟨_, hgetOf _ _ _ hstored.case, ?_⟩⟩)
      exact congrArg (fun b => Except.ok !b) ((isSha256_sortKeys _).trans haccepted.root)
    case fingerprints =>
      refine raiseIfM_ok.mpr (pyNot_ok.mpr ?_)
      rw [hgetD _ _ hstored.fingerprints, elementsAre_toVal, Dict.keysAre_sortKeys, haccepted.fingerprints]
      rfl
    case hashes =>
      refine raiseIfM_ok.mpr (anyM_ok_false.mpr fun key hkey => bind_ok.mpr ⟨_, hgetOf _ _ _ hstored.fingerprints, ?_⟩)
      rw [isSha256_sortKeys, haccepted.hashes key hkey]
      rfl
    case status =>
      rw [raiseIf_ok, Bool.or_eq_false_iff, differs_false, differs_false]
      exact ⟨hstored.status.trans (congrArg Val.str hstatus), hstored.outcome.trans (congrArg Val.str houtcome)⟩

/-- A record that was created is loaded as it is, with the observations that were handed in, exactly
if each of these is one of its domain that the loader normalizes. -/
theorem loadAttestation_writeAttestation_iff {record : Dict} (h : createAttestation i = .ok record) :
    (∃ record' loaded, loadAttestation (writeAttestation record) = .ok (record', loaded) ∧
        record'.toVal.eq record.toVal = true ∧ ∀ domain, loaded.lookup domain = i.observations.lookup domain) ↔
      ∀ domain o, (domain, o) ∈ i.observations → o.domain = domain ∧ o.Normal := by
  obtain ⟨haccepted, entries, hentries, rfl⟩ := createAttestation_ok h
  have hstored := AttestationInput.stored_written hentries
  have hlookup : ∀ domain o, (domain, o) ∈ i.observations → i.observations.lookup domain = some o := by
    intro domain o hmem
    obtain ⟨o', ho', -⟩ := mem_domainEntries hentries ((haccepted.domains domain).mp (List.mem_map_of_mem hmem))
    have heq : (domain, o') = (domain, o) := List.inj_on_of_nodup_map i.keyed (Py.mem_of_lookup ho') hmem rfl
    rw [ho', (Prod.mk.inj heq).2]
  rw [writeAttestation, Dict.toVal_sortKeys]
  constructor
  · intro h domain o hmem
    obtain ⟨record', loaded, hload, -, hsame⟩ := h
    obtain ⟨rfl, hloaded⟩ := (loadAttestation_stored haccepted hstored).mp hload
    obtain ⟨o', ho', hnormal, hread⟩ := lookup_of_readAs hloaded ((haccepted.domains domain).mp (List.mem_map_of_mem hmem))
    obtain rfl := Option.some.inj ((hlookup domain o hmem).symm.trans ho')
    have hdomain : { o with domain := domain } = o := Option.some.inj (hread.symm.trans ((hsame domain).trans ho'))
    exact ⟨(congrArg IsolationObservation.domain hdomain).symm, hnormal⟩
  · intro hall
    have hnormal : ∀ domain ∈ DOMAINS, ∃ o : IsolationObservation, i.observations.lookup domain = some o ∧ o.Normal := by
      intro domain hdomain
      obtain ⟨o, ho, -⟩ := mem_domainEntries hentries hdomain
      exact ⟨o, ho, (hall domain o (Py.mem_of_lookup ho)).2⟩
    have hexists : ∀ domain ∈ DOMAINS, ∃ p, ReadAs i.observations domain p := by
      intro domain hdomain
      obtain ⟨o, ho, hnormal⟩ := hnormal domain hdomain
      exact ⟨_, o, ho, hnormal, rfl⟩
    obtain ⟨loaded, hloaded⟩ := exists_forall₂ hexists
    refine ⟨_, loaded, (loadAttestation_stored haccepted hstored).mpr ⟨rfl, hloaded⟩, ?_, fun domain => ?_⟩
    · rw [← Dict.toVal_sortKeys]
      exact Val.eq_of_sortKeys _
    by_cases hdomain : domain ∈ DOMAINS
    · obtain ⟨o, ho, -, hread⟩ := lookup_of_readAs hloaded hdomain
      rw [hread, ho, ← (hall domain o (Py.mem_of_lookup ho)).1]
    · have hnone : ∀ evidence : Isolation, domain ∉ evidence.map Prod.fst → evidence.lookup domain = none := by
        intro evidence hnot
        rw [List.lookup_eq_none_iff]
        intro p hp
        rw [bne_iff_ne]
        rintro rfl
        exact hnot (List.mem_map_of_mem hp)
      rw [hnone loaded (by rwa [keys_of_readAs hloaded]), hnone i.observations (by rwa [haccepted.domains])]

end

/-- An isolation in which every domain is as expected, shown by `evidenceRef`. -/
def expectedIsolation (evidenceRef : String) : Isolation :=
  DOMAINS.map fun domain => (domain, ⟨domain, expectedResult domain, evidenceRef, "observed"⟩)

/-- An attestation of an isolation in which every domain is as expected. -/
def expectedAttestation (evidenceRef : String) : AttestationInput where
  authorizationId := "authorization-1"
  caseId := "R-FC-01-P"
  launcher := .ofItems [("launcher_id", .str LAUNCHER_ID), ("launcher_version", .str LAUNCHER_VERSION)]
  fingerprints := .ofItems (ATTESTATION_FINGERPRINTS.map fun name => (name, .str (String.ofList (List.replicate 64 'a'))))
  observations := expectedIsolation evidenceRef
  keyed := by
    rw [expectedIsolation, List.map_map]
    exact (by decide : (DOMAINS.map id).Nodup)
  caseRootPolicy := "FRESH_CASE_ROOT"
  caseRootFingerprint := none
  clock := Instant.first

section

variable [Runtime]

theorem createAttestation_expected (evidenceRef : String) :
    ∃ record, createAttestation (expectedAttestation evidenceRef) = .ok record := by
  have hroot : raiseIf (!isSha256 (.str (expectedAttestation evidenceRef).rootFingerprint))
      (attestationError "case_root_fingerprint_invalid") = .ok () := by
    rw [AttestationInput.rootFingerprint, expectedAttestation, Option.getD_none, isSha256_sha256Json]
    rfl
  obtain ⟨entries, hentries⟩ : ∃ entries, domainEntries (expectedAttestation evidenceRef).observations DOMAINS = .ok entries :=
    ⟨_, rfl⟩
  let unsigned := Dict.ofItems ((expectedAttestation evidenceRef).unsignedItems entries)
  refine ⟨unsigned.insert "attestation_sha256" (.str (sha256Json (unsigned.without "attestation_sha256").toVal)), ?_⟩
  unfold createAttestation
  refine seq_ok.mpr ⟨rfl, seq_ok.mpr ⟨rfl, seq_ok.mpr ⟨rfl, seq_ok.mpr ⟨rfl, seq_ok.mpr ⟨hroot, ?_⟩⟩⟩⟩⟩
  exact seq_ok.mpr ⟨rfl, seq_ok.mpr ⟨rfl, seq_ok.mpr ⟨rfl, bind_ok.mpr ⟨entries, hentries, rfl⟩⟩⟩⟩

omit [Runtime] in
theorem status_expected (evidenceRef : String) : (expectedAttestation evidenceRef).status = "VERIFIED" := rfl

theorem not_loaded_expected {record : Dict} (h : createAttestation (expectedAttestation "") = .ok record) :
    ¬ ∃ loaded, loadAttestation (writeAttestation record) = .ok loaded := by
  intro hload
  obtain ⟨⟨record', loaded⟩, hload⟩ := hload
  obtain ⟨haccepted, entries, hentries, rfl⟩ := createAttestation_ok h
  rw [writeAttestation, Dict.toVal_sortKeys] at hload
  obtain ⟨-, hread⟩ := (loadAttestation_stored haccepted (AttestationInput.stored_written hentries)).mp hload
  obtain ⟨o, hlookup, hnormal, -⟩ := lookup_of_readAs hread (List.mem_cons_self (a := "network"))
  obtain rfl : (⟨"network", "DENIED", "", "observed"⟩ : IsolationObservation) = o := Option.some.inj hlookup
  exact hnormal.evidence rfl

end

theorem loadAttestation_writeAttestation_iff_example :
    letI := asciiRuntime
    ∃ record, createAttestation (expectedAttestation "evidence://example") = .ok record ∧
      ((∃ record' loaded, loadAttestation (writeAttestation record) = .ok (record', loaded) ∧
          record'.toVal.eq record.toVal = true ∧
          ∀ domain, loaded.lookup domain = (expectedAttestation "evidence://example").observations.lookup domain) ↔
        ∀ domain o, (domain, o) ∈ (expectedAttestation "evidence://example").observations → o.domain = domain ∧ o.Normal) := by
  let := asciiRuntime
  obtain ⟨record, hrecord⟩ := createAttestation_expected "evidence://example"
  exact ⟨record, hrecord, loadAttestation_writeAttestation_iff hrecord⟩

/-- Nothing was shown for any domain: the record is `VERIFIED`, and it is not loaded. -/
theorem verified_without_evidence :
    letI := asciiRuntime
    ∃ record, createAttestation (expectedAttestation "") = .ok record ∧ record.get "status" = .str "VERIFIED" ∧
      ¬ ∃ loaded, loadAttestation (writeAttestation record) = .ok loaded := by
  let := asciiRuntime
  obtain ⟨record, hrecord⟩ := createAttestation_expected ""
  exact ⟨record, hrecord, (status_createAttestation hrecord).trans (congrArg Val.str (status_expected "")), not_loaded_expected hrecord⟩

end Pmiri
