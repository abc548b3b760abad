import Pmiri.ControlPlane.Registries

/-!
# Rewritten payloads

Whoever can write to the database can replace the text in `payload_json`. A text
is accepted that is consistent in itself, whichever row it stands in: nothing
compares it with the fingerprint in the row.
-/

namespace Pmiri

open Py

/-! ## What happens to the table -/

inductive TableOp where
  | register (p : AuthenticatedPrincipal)
  | revoke (authenticationRef : String) (time : Rat)
  /-- `UPDATE authenticated_principals SET payload_json=? WHERE authentication_ref=?`, with what is
  read from the text. -/
  | rewrite (authenticationRef : String) (payloadJson : Option Val)

def StoredRow.rewritten (authenticationRef : String) (payloadJson : Option Val) (row : StoredRow) : StoredRow :=
  if row.authenticationRef == authenticationRef then { row with payloadJson } else row

namespace PrincipalTable

/-- A registration that is rejected leaves the table as it is. -/
def step (t : PrincipalTable) : TableOp → PrincipalTable
  | .register p => (answerOf t (t.register p)).2
  | .revoke authenticationRef time => t.revoke authenticationRef time
  | .rewrite authenticationRef payloadJson => ⟨t.rows.map (StoredRow.rewritten authenticationRef payloadJson)⟩

end PrincipalTable

/-- The principal that was registered for a reference: the first one. -/
def registeredFor (ops : List TableOp) (authenticationRef : String) : Option AuthenticatedPrincipal :=
  ops.findSome? fun
    | .register p => if p.authenticationRef = authenticationRef then some p else none
    | _ => none

/-! ## Rows of a run -/

theorem registeredFor_mem {ops : List TableOp} {authenticationRef : String} {p : AuthenticatedPrincipal}
    (h : registeredFor ops authenticationRef = some p) : .register p ∈ ops ∧ p.authenticationRef = authenticationRef := by
  obtain ⟨op, hop, h⟩ := List.exists_of_findSome?_eq_some h
  split at h
  · split at h
    · rename_i href
      obtain rfl := Option.some.inj h
      exact ⟨hop, href⟩
    · cases h
  · cases h

theorem registeredFor_append (ops : List TableOp) (op : TableOp) (authenticationRef : String) :
    registeredFor (ops ++ [op]) authenticationRef = (registeredFor ops authenticationRef).or (registeredFor [op] authenticationRef) :=
  List.findSome?_append

namespace PrincipalTable

theorem row_revoke (t : PrincipalTable) (a authenticationRef : String) (time : Rat) :
    (t.revoke a time).row authenticationRef = (t.row authenticationRef).map (StoredRow.revoked a time) := by
  have hkey (row : StoredRow) : (row.revoked a time).authenticationRef = row.authenticationRef := by
    unfold StoredRow.revoked
    split <;> rfl
  simp only [revoke, row, List.find?_map, Function.comp_def, hkey]

theorem row_rewrite (t : PrincipalTable) (a authenticationRef : String) (payloadJson : Option Val) :
    (t.step (.rewrite a payloadJson)).row authenticationRef = (t.row authenticationRef).map (StoredRow.rewritten a payloadJson) := by
  have hkey (row : StoredRow) : (row.rewritten a payloadJson).authenticationRef = row.authenticationRef := by
    unfold StoredRow.rewritten
    split <;> rfl
  simp only [step, row, List.find?_map, Function.comp_def, hkey]

/-- A registration adds a row where there is none, and changes none. -/
theorem row_register (t : PrincipalTable) (p : AuthenticatedPrincipal) (authenticationRef : String) :
    (t.step (.register p)).row authenticationRef = (t.row authenticationRef).or
      (if p.authenticationRef = authenticationRef then
        some ⟨p.authenticationRef, p.fingerprint, some (principalPayload p).toVal.sortKeys, none⟩ else none) := by
  rw [step, register]
  rcases hrow : t.row p.authenticationRef with _ | row
  · exact t.row_append _ _
  · have hsame : (t.row authenticationRef).or (if p.authenticationRef = authenticationRef then
        some ⟨p.authenticationRef, p.fingerprint, some (principalPayload p).toVal.sortKeys, none⟩ else none) =
        t.row authenticationRef := by
      split
      · rename_i href
        rw [← href, hrow, Option.some_or]
      · rw [Option.or_none]
    rw [hsame]
    dsimp only
    split
    · rfl
    · split <;> rfl

end PrincipalTable

/-- What a row holds after some operations: the fingerprint of the principal that was
registered for it, and the text of that principal or one that was written. -/
structure StoredRow.From (ops : List TableOp) (row : StoredRow) (p : AuthenticatedPrincipal) : Prop where
  fingerprint : row.principalFingerprint = p.fingerprint
  payloadJson : ∀ payload, row.payloadJson = some payload →
    payload = (principalPayload p).toVal.sortKeys ∨ ∃ a, .rewrite a (some payload) ∈ ops

theorem StoredRow.From.append {ops : List TableOp} {row : StoredRow} {p : AuthenticatedPrincipal} (h : row.From ops p)
    (op : TableOp) : row.From (ops ++ [op]) p :=
  ⟨h.fingerprint, fun payload hp => (h.payloadJson payload hp).imp id fun ⟨a, ha⟩ => ⟨a, List.mem_append_left _ ha⟩⟩

/-- The rows of a run are those of the principals that were registered. -/
theorem row_of_run (ops : List TableOp) (authenticationRef : String) :
    ((Machine.run PrincipalTable.step {} ops).row authenticationRef = none ∧ registeredFor ops authenticationRef = none) ∨
      ∃ row p, (Machine.run PrincipalTable.step {} ops).row authenticationRef = some row ∧
        registeredFor ops authenticationRef = some p ∧ row.From ops p := by
  induction ops using List.reverseRecOn with
  | nil => exact .inl ⟨rfl, rfl⟩
  | append_singleton ops op ih =>
    rw [Machine.run_append, Machine.run_cons, Machine.run_nil, registeredFor_append]
    cases op with
    | register p =>
      rw [PrincipalTable.row_register]
      rcases ih with ⟨hrow, hregistered⟩ | ⟨row, q, hrow, hregistered, hfrom⟩
      · rw [hrow, hregistered, Option.none_or, Option.none_or]
        by_cases href : p.authenticationRef = authenticationRef
        · refine .inr ⟨_, p, if_pos href, by simp [registeredFor, href], rfl, fun payload hpayload => .inl ?_⟩
          exact (Option.some.inj hpayload).symm
        · exact .inl ⟨if_neg href, by simp [registeredFor, href]⟩
      · rw [hrow, hregistered, Option.some_or, Option.some_or]
        exact .inr ⟨row, q, rfl, rfl, hfrom.append _⟩
    | revoke a time =>
      rw [show registeredFor [.revoke a time] authenticationRef = none from rfl, Option.or_none, PrincipalTable.step,
        PrincipalTable.row_revoke]
      rcases ih with ⟨hrow, hregistered⟩ | ⟨row, q, hrow, hregistered, hfrom⟩
      · exact .inl ⟨by rw [hrow]; rfl, hregistered⟩
      · refine .inr ⟨row.revoked a time, q, by rw [hrow]; rfl, hregistered, ?_⟩
        unfold StoredRow.revoked
        split
        · exact ⟨hfrom.fingerprint, (hfrom.append _).payloadJson⟩
        · exact hfrom.append _
    | rewrite a payloadJson =>
      rw [show registeredFor [.rewrite a payloadJson] authenticationRef = none from rfl, Option.or_none, PrincipalTable.row_rewrite]
      rcases ih with ⟨hrow, hregistered⟩ | ⟨row, q, hrow, hregistered, hfrom⟩
      · exact .inl ⟨by rw [hrow]; rfl, hregistered⟩
      · refine .inr ⟨row.rewritten a payloadJson, q, by rw [hrow]; rfl, hregistered, ?_⟩
        unfold StoredRow.rewritten
        split
        · refine ⟨hfrom.fingerprint, fun payload hpayload => .inr ⟨a, ?_⟩⟩
          rw [← show payloadJson = some payload from hpayload]
          exact List.mem_append_right _ List.mem_cons_self
        · exact hfrom.append _

/-! ## Swapped principals -/

section

variable [Runtime]

/-- The text of a row is not JSON, or a payload that is refused with an error that `resolve`
catches, or one that carries the fingerprint in the row, of a genuine principal. -/
def StoredRow.Keeps (row : StoredRow) (p : AuthenticatedPrincipal) : Prop :=
  ∀ payload, row.payloadJson = some payload →
    OnlyRaises Exc.isTypeValueOrKeyError (StoredPrincipal.fromPayload payload) ∧
    ∀ q, StoredPrincipal.fromPayload payload = .ok q →
      (∃ d, payload.asDict = some d ∧ d.get "fingerprint" = .str row.principalFingerprint) ∧ p.Genuine

/-- Of an unrevoked row, the principal that was registered is resolved or none, exactly if its
text keeps it. -/
theorem StoredRow.From.resolved {reads : String → Rat} {ops : List TableOp} {row : StoredRow} {p : AuthenticatedPrincipal}
    (h : row.From ops p) (hp : .register p ∈ ops) (hprinted : ∀ a payload, .rewrite a (some payload) ∈ ops → payload.Printed reads)
    (hdistinguished : ∀ a payload q p, .rewrite a (some payload) ∈ ops → StoredPrincipal.fromPayload payload = .ok q →
      .register p ∈ ops → Distinguished q p.stored) (hrevoked : row.revokedAt = none) :
    (PrincipalTable.principalOfRow row = .ok none ∨ PrincipalTable.principalOfRow row = .ok (some p.stored)) ↔ row.Keeps p := by
  rcases hpayload : row.payloadJson with _ | payload
  · simp [PrincipalTable.principalOfRow, hrevoked, hpayload, StoredRow.Keeps]
  simp only [PrincipalTable.principalOfRow, hrevoked, hpayload, Option.isSome_none, Bool.false_eq_true, ↓reduceIte, StoredRow.Keeps,
    Option.some.injEq, forall_eq']
  rcases hfrom : StoredPrincipal.fromPayload payload with e | q
  · simp only [onlyRaises_error, reduceCtorEq, false_implies, implies_true, and_true]
    by_cases he : e.isTypeValueOrKeyError = true <;> simp [he]
  · simp only [onlyRaises_ok, true_and, Except.ok.injEq, forall_eq', Option.some.injEq, reduceCtorEq, false_or]
    obtain ⟨d, hd, -, hfingerprint, -⟩ := StoredPrincipal.fromPayload_ok hfrom
    constructor
    · rintro rfl
      refine ⟨⟨d, hd, ?_⟩, genuine_of_fromPayload hfrom⟩
      rw [hfingerprint, h.fingerprint]
      rfl
    · rintro ⟨⟨d', hd', hsame⟩, hgenuine⟩
      obtain rfl := Option.some.inj (hd.symm.trans hd')
      rw [hfingerprint, h.fingerprint] at hsame
      rcases h.payloadJson payload hpayload with rfl | ⟨a, ha⟩
      · exact Except.ok.inj (hfrom.symm.trans hgenuine.fromPayload)
      · exact StoredPrincipal.eq_of_fingerprint hfrom hgenuine
          (StoredPrincipal.printed_of_fromPayload hfrom (hprinted a payload ha)) (hdistinguished a payload q p ha hfrom hp) hsame

theorem PrincipalTable.resolve_row {t : PrincipalTable} {a : String} {row : StoredRow} (hne : a ≠ "") (h : t.row a = some row) :
    t.resolve (some a) = principalOfRow row := by
  simp only [resolve, if_neg hne, h]

theorem PrincipalTable.resolve_absent {t : PrincipalTable} {a : String} (h : t.row a = none) : t.resolve (some a) = .ok none := by
  simp only [resolve, h, ite_self]

/-- After any registrations, revocations and rewritings of texts, a reference resolves to none or
to the principal that was registered for it exactly if the text in its unrevoked row keeps that
principal. -/
theorem resolve_registered_iff (reads : String → Rat) (ops : List TableOp) (authenticationRef : Option String)
    (hprinted : ∀ a payload, .rewrite a (some payload) ∈ ops → payload.Printed reads)
    (hdistinguished : ∀ a payload q p, .rewrite a (some payload) ∈ ops → StoredPrincipal.fromPayload payload = .ok q →
      .register p ∈ ops → Distinguished q p.stored) :
    let t := Machine.run PrincipalTable.step {} ops
    (t.resolve authenticationRef = .ok none ∨ ∃ a p, authenticationRef = some a ∧ registeredFor ops a = some p ∧
        t.resolve authenticationRef = .ok (some p.stored)) ↔
      ∀ a row p, authenticationRef = some a → a ≠ "" → t.row a = some row → row.revokedAt = none →
        registeredFor ops a = some p → row.Keeps p := by
  intro t
  cases authenticationRef with
  | none => exact iff_of_true (.inl rfl) fun a row p h => nomatch h
  | some a =>
    by_cases hempty : a = ""
    · refine iff_of_true (.inl (if_pos hempty)) fun a' row p h hne => ?_
      obtain rfl := Option.some.inj h
      exact absurd hempty hne
    rcases row_of_run ops a with ⟨hrow, hregistered⟩ | ⟨row, p, hrow, hregistered, hfrom⟩
    · refine iff_of_true (.inl (PrincipalTable.resolve_absent hrow)) fun a' row' p' h _ hrow' => ?_
      obtain rfl := Option.some.inj h
      rw [hrow] at hrow'
      cases hrow'
    rw [PrincipalTable.resolve_row hempty hrow]
    have hleft : (PrincipalTable.principalOfRow row = .ok none ∨ ∃ a' p', some a = some a' ∧ registeredFor ops a' = some p' ∧
        PrincipalTable.principalOfRow row = .ok (some p'.stored)) ↔
        (PrincipalTable.principalOfRow row = .ok none ∨ PrincipalTable.principalOfRow row = .ok (some p.stored)) := by
      refine or_congr_right ⟨?_, fun h => ⟨a, p, rfl, hregistered, h⟩⟩
      rintro ⟨a', p', ha, hp', h⟩
      obtain rfl := Option.some.inj ha
      obtain rfl := Option.some.inj (hregistered.symm.trans hp')
      exact h
    rw [hleft]
    by_cases hrevoked : row.revokedAt = none
    · rw [hfrom.resolved (registeredFor_mem hregistered).1 hprinted hdistinguished hrevoked]
      refine ⟨fun h a' row' p' ha _ hrow' _ hp' => ?_, fun h => h a row p rfl hempty hrow hrevoked hregistered⟩
      obtain rfl := Option.some.inj ha
      obtain rfl := Option.some.inj (hrow.symm.trans hrow')
      obtain rfl := Option.some.inj (hregistered.symm.trans hp')
      exact h
    · refine iff_of_true (.inl ?_) fun a' row' p' ha _ hrow' hrevoked' => ?_
      · rw [PrincipalTable.principalOfRow, if_pos (Option.ne_none_iff_isSome.mp hrevoked)]
      · obtain rfl := Option.some.inj ha
        obtain rfl := Option.some.inj (hrow.symm.trans hrow')
        exact absurd hrevoked' hrevoked

omit [Runtime] in
theorem row_of_rewritten (p : AuthenticatedPrincipal) (payloadJson : Option Val) :
    (Machine.run PrincipalTable.step {} [.register p, .rewrite p.authenticationRef payloadJson]).row p.authenticationRef =
      some ⟨p.authenticationRef, p.fingerprint, payloadJson, none⟩ := by
  rw [Machine.run_cons, Machine.run_cons, Machine.run_nil, PrincipalTable.row_rewrite, PrincipalTable.row_register, if_pos rfl]
  simp [PrincipalTable.row, StoredRow.rewritten]

/-- Any genuine principal can be put into the row of another. -/
theorem resolve_swapped {p q : AuthenticatedPrincipal} (hq : q.Genuine) (hne : p.authenticationRef ≠ "") :
    (Machine.run PrincipalTable.step {} [.register p,
        .rewrite p.authenticationRef (some (principalPayload q).toVal.sortKeys)]).resolve (some p.authenticationRef) =
      .ok (some q.stored) := by
  rw [PrincipalTable.resolve_row hne (row_of_rewritten p _)]
  simp [PrincipalTable.principalOfRow, hq.fromPayload]

/-- A text that is JSON but no object makes `resolve` raise. -/
theorem resolve_list {p : AuthenticatedPrincipal} (hne : p.authenticationRef ≠ "") :
    (Machine.run PrincipalTable.step {} [.register p, .rewrite p.authenticationRef (some (.list []))]).resolve
        (some p.authenticationRef) = .error (.attributeError "object has no attribute 'get'") := by
  have hfrom : StoredPrincipal.fromPayload (.list []) = .error (.attributeError "object has no attribute 'get'") := rfl
  rw [PrincipalTable.resolve_row hne (row_of_rewritten p _)]
  simp [PrincipalTable.principalOfRow, hfrom, Exc.isTypeValueOrKeyError]

omit [Runtime] in
theorem printed_principalPayload {reads : String → Rat} (p : AuthenticatedPrincipal) :
    (principalPayload p).toVal.sortKeys.Printed reads := by
  have hattestation : ∀ kv ∈ (attestationPayload p.trustZoneAttestation).items, kv.2.Printed reads := by
    refine forall_mem_ofItems ?_
    simp only [List.forall_mem_cons]
    exact ⟨trivial, trivial, trivial, trivial, Val.printed_strList _, trivial, trivial, trivial, trivial, nofun⟩
  have hpayload : ∀ kv ∈ (principalPayload p).items, kv.2.Printed reads := by
    rw [principalPayload]
    refine forall_mem_ofItems ?_
    simp only [List.forall_mem_cons]
    refine ⟨trivial, trivial, trivial, trivial, printed_optStr _, printed_optStr _, ?_, Val.printed_strList _, Val.printed_strList _,
      Val.printed_strList _, Val.printed_strList _, trivial, trivial, trivial, trivial, trivial, trivial, trivial, nofun⟩
    rw [Val.printed_toVal]
    exact hattestation
  exact Val.printed_sortKeys (Val.printed_toVal.mpr hpayload)

end

/-- The payload of another principal is resolved in place of the one that was registered, and a
text that is no object makes `resolve` raise, where nothing collides. -/
theorem resolve_rewritten :
    letI := asciiRuntime
    (∃ p q : AuthenticatedPrincipal, p.Genuine ∧ q.Genuine ∧ p.stored ≠ q.stored ∧
      registeredFor [.register p, .rewrite "auth://example" (some (principalPayload q).toVal.sortKeys)] "auth://example" = some p ∧
      (Machine.run PrincipalTable.step {} [.register p, .rewrite "auth://example" (some (principalPayload q).toVal.sortKeys)]).resolve
        (some "auth://example") = .ok (some q.stored)) ∧
    ¬ ∀ (ops : List TableOp) (authenticationRef : Option String),
      (∀ a payload q p, .rewrite a (some payload) ∈ ops → StoredPrincipal.fromPayload payload = .ok q → .register p ∈ ops →
        Distinguished q p.stored) →
      (Machine.run PrincipalTable.step {} ops).resolve authenticationRef = .ok none ∨
        ∃ a p, authenticationRef = some a ∧ registeredFor ops a = some p ∧
          (Machine.run PrincipalTable.step {} ops).resolve authenticationRef = .ok (some p.stored) := by
  let := asciiRuntime
  obtain ⟨p, hp, hpref, hpversion⟩ := exists_genuine "local-policy-0.1" (by decide)
  obtain ⟨q, hq, -, hqversion⟩ := exists_genuine "local-policy-0.2" (by decide)
  have hne : p.authenticationRef ≠ "" := by rw [hpref]; decide
  refine ⟨⟨p, q, hp, hq, fun h => ?_, by simp [registeredFor, hpref], ?_⟩, fun h => ?_⟩
  · have hversion := Val.str.inj (congrArg StoredPrincipal.policyVersion h)
    rw [hpversion, hqversion] at hversion
    revert hversion
    decide
  · rw [← hpref]
    exact resolve_swapped hq hne
  · have hlist := resolve_list hne
    have hresolved := h [.register p, .rewrite p.authenticationRef (some (.list []))] (some p.authenticationRef)
      fun a payload q r ha hfrom _ => by
        simp only [List.mem_cons, TableOp.rewrite.injEq, Option.some.injEq, reduceCtorEq, List.not_mem_nil, or_false, false_or] at ha
        obtain ⟨-, rfl⟩ := ha
        cases hfrom
    rcases hresolved with hnone | ⟨a, r, -, -, hsome⟩
    · rw [hlist] at hnone
      cases hnone
    · rw [hlist] at hsome
      cases hsome

/-- The text of a principal that is written again. -/
theorem resolve_registered_iff_example :
    letI := asciiRuntime
    ∃ p : AuthenticatedPrincipal, p.authenticationRef = "auth://example" ∧
      let ops := [.register p, .rewrite "auth://example" (some (principalPayload p).toVal.sortKeys)]
      ((Machine.run PrincipalTable.step {} ops).resolve (some "auth://example") = .ok none ∨
        ∃ a q, some "auth://example" = some a ∧ registeredFor ops a = some q ∧
          (Machine.run PrincipalTable.step {} ops).resolve (some "auth://example") = .ok (some q.stored)) := by
  let := asciiRuntime
  obtain ⟨p, hp, hpref, -⟩ := exists_genuine "local-policy-0.1" (by decide)
  refine ⟨p, hpref, ?_⟩
  have hmem {a : String} {payload : Val} (h : .rewrite a (some payload) ∈
      [TableOp.register p, .rewrite "auth://example" (some (principalPayload p).toVal.sortKeys)]) :
      payload = (principalPayload p).toVal.sortKeys := by
    simp only [List.mem_cons, TableOp.rewrite.injEq, Option.some.injEq, reduceCtorEq, List.not_mem_nil, or_false, false_or] at h
    exact h.2
  refine (resolve_registered_iff (fun _ => 0) _ _ ?_ ?_).mpr ?_
  · intro a payload h
    rw [hmem h]
    exact printed_principalPayload p
  · intro a payload q r h hq hr
    simp only [List.mem_cons, TableOp.register.injEq, reduceCtorEq, List.not_mem_nil, or_false] at hr
    rw [hmem h, hp.fromPayload] at hq
    rw [hr, ← Except.ok.inj hq]
    exact distinguished_self p.stored
  · intro a row q ha hne hrow hrevoked hq payload hpayload
    obtain rfl := Option.some.inj ha
    have hrow' := row_of_rewritten p (some (principalPayload p).toVal.sortKeys)
    rw [hpref] at hrow'
    obtain rfl := Option.some.inj (hrow.symm.trans hrow')
    obtain rfl := Option.some.inj hpayload
    simp only [registeredFor, List.findSome?_cons, hpref, ↓reduceIte, Option.some.injEq] at hq
    subst hq
    rw [hp.fromPayload]
    refine ⟨onlyRaises_ok _, fun q hq => ⟨?_, hp⟩⟩
    obtain ⟨d, hd, -, hfingerprint, -⟩ := StoredPrincipal.fromPayload_ok hp.fromPayload
    exact ⟨d, hd, hfingerprint⟩

end Pmiri
