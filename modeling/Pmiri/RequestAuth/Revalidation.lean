import Pmiri.RequestAuth.Replay

/-!
# Revalidation

A service accepts only the binding that it would issue itself to the principal
that the binding names, and it accepts what it issued as long as nothing has
changed.
-/

namespace Pmiri

open Py

section

variable [Runtime] {κ ρ γ : Type} [RegistryPort κ] [RatePort ρ] [ReplayPort γ]

/-- The principal is registered under the reference of the binding, it is
active, current and within its interval, it may do what the request asks for,
and the binding is the one the service builds for it. -/
structure Backed (s : RequestAuthorizationService κ ρ γ) (request : QueryRequest) (b : RequestAuthorizationBinding)
    (current : String) (p : AuthenticatedPrincipal) : Prop where
  registered : resolve s.registry (some b.authenticationRef) = .ok (some p)
  active : p.status = ACTIVE
  epoch : p.policyEpoch = s.policyEpoch
  interval : validInterval p.issuedAt p.validUntil current = .ok true
  attested : p.isValid current s.policyEpoch = .ok true
  scope : request.projectConstraint ∈ p.allowedProjects ∧ s.operation ∈ p.allowedOperations ∧
    request.purpose ∈ p.allowedPurposes
  built : RequestAuthorizationService.buildBinding s.operation request p b.issuedAt = .ok b

omit [RatePort ρ] [ReplayPort γ] in
/-- A backed binding grants nothing that its principal may not do. -/
theorem Backed.within {s : RequestAuthorizationService κ ρ γ} {request : QueryRequest} {b : RequestAuthorizationBinding}
    {current : String} {p : AuthenticatedPrincipal} (h : Backed s request b current p) :
    b.principalRef = p.principalRef ∧ b.projectConstraint ∈ p.allowedProjects ∧ b.operation ∈ p.allowedOperations ∧
      b.purpose ∈ p.allowedPurposes ∧ b.validUntil = p.validUntil := by
  have hi := RequestAuthorizationService.buildBinding_issued h.built
  obtain ⟨hoperation, hpurpose, hproject⟩ := hi.scope
  rw [hoperation, hpurpose, hproject]
  exact ⟨hi.principal.2.1, h.scope.1, h.scope.2.1, h.scope.2.2, hi.validity.2⟩

omit [RatePort ρ] [ReplayPort γ] in
theorem backed_of_revalidate {s : RequestAuthorizationService κ ρ γ} {request : QueryRequest}
    {b : RequestAuthorizationBinding} {current : String} (h : s.revalidate request b current = .ok true) :
    ∃ p, Backed s request b current p := by
  rw [RequestAuthorizationService.revalidate, falseOn_true] at h
  obtain ⟨d, -, h⟩ := bind_ok.mp h
  obtain ⟨found, hfound, h⟩ := bind_ok.mp h
  rcases found with _ | p
  · cases h
  obtain ⟨⟨hvalid, hscope⟩, -, hbuilt, -⟩ := RequestAuthorizationService.revalidatePrincipal_ok.mp h
  obtain ⟨hactive, hepoch, hinterval⟩ := AuthenticatedPrincipal.isValid_true hvalid
  exact ⟨p, hfound, hactive, hepoch, hinterval, hvalid, hscope, hbuilt⟩

/-- What was just issued is valid. -/
theorem isValid_of_admits {s : RequestAuthorizationService κ ρ γ} {request : QueryRequest} {a : Option String}
    {current : String} {clock : Rat} {p : AuthenticatedPrincipal} {b : RequestAuthorizationBinding} {guard : γ}
    (h : s.Admits request a current clock p b guard) : b.isValid current s.policyEpoch = .ok true := by
  obtain ⟨-, -, hp, -⟩ := RequestAuthorizationService.screen_ok.mp h.screened
  obtain ⟨-, hepoch, hinterval⟩ := AuthenticatedPrincipal.isValid_true hp
  have hi := RequestAuthorizationService.buildBinding_issued h.built
  obtain ⟨_, t, e, -, ht, he, -, hle⟩ := validInterval_true.mp hinterval
  rw [RequestAuthorizationBinding.isValid_true, hi.principal.2.2.1, hi.validity.1, hi.validity.2]
  exact ⟨hepoch, validInterval_true.mpr ⟨t, t, e, ht, ht, he, le_rfl, hle⟩⟩

/-- A binding that is revalidated is backed by a principal; and what an
evaluation allows is revalidated, over the same registry and in the same epoch.
The first half holds over any registry, the second over those that
registrations and revocations lead to: only there a principal is found under
its own reference. -/
theorem revalidation_sound_and_complete (s : RequestAuthorizationService κ ρ γ) (request : QueryRequest) (current : String) :
    (∀ b, s.revalidate request b current = .ok true → ∃ p, Backed s request b current p ∧
      b.principalRef = p.principalRef ∧ b.projectConstraint ∈ p.allowedProjects ∧ b.operation ∈ p.allowedOperations ∧
        b.purpose ∈ p.allowedPurposes ∧ b.validUntil = p.validUntil) ∧
      ∀ a clock ev s', RegistryPort.Reached s.registry → s.evaluate request a current clock = (.ok ev, s') →
        ev.allowed = true → ∃ b, ev.binding = some b ∧ ∀ t : RequestAuthorizationService κ ρ γ,
          t.registry = s.registry → t.policyEpoch = s.policyEpoch → t.operation = s.operation →
            t.revalidate request b current = .ok true := by
  refine ⟨fun b h => ?_, fun a clock ev s' hreached h hev => ?_⟩
  · obtain ⟨p, hp⟩ := backed_of_revalidate h
    exact ⟨p, hp, hp.within⟩
  · obtain ⟨p, b, rfl, hadmits⟩ := RequestAuthorizationService.evaluate_allow h hev
    refine ⟨b, rfl, fun t hregistry hepoch hoperation => ?_⟩
    obtain ⟨hd, hresolve, hp, hscope⟩ := RequestAuthorizationService.screen_ok.mp hadmits.screened
    have hscreen : t.screen request (some p.authenticationRef) current = .ok (.ok p) := by
      rw [RequestAuthorizationService.screen_ok, hregistry, hepoch, hoperation, ← resolve_some hreached hresolve]
      exact ⟨hd, hresolve, hp, hscope⟩
    exact RequestAuthorizationService.revalidate_of_built hscreen (hoperation ▸ hadmits.built)
      (hepoch ▸ isValid_of_admits hadmits)

end

/-- The first call of the principal, with an empty guard, is admitted. -/
theorem exampleEvaluate_admits [Runtime] : ∃ b guard,
    (exampleEvaluate ({} : ReplayGuard) 0 "request" "2026-01-01T00:00:00Z").service.Admits (exampleQuery "request")
      (some "auth://example") "2026-01-01T00:00:00Z" 0 (examplePrincipal 0) b guard := by
  have hid : "request" ≠ "" := by decide
  obtain ⟨b, hb⟩ := exampleService_builds 0 "2026-01-01T00:00:00Z" hid
  have huntil : b.validUntil = "2026-12-31T00:00:00Z" := (RequestAuthorizationService.buildBinding_issued hb).validity.2
  refine ⟨b, ⟨100000, [("request", b.fingerprint, 63934272000000000)], ["request"]⟩,
    exampleService_screens 0 ({} : ReplayGuard) hid validInterval_example, exampleLimiter_admits (show 0 < 60 by decide), hb, ?_⟩
  rw [huntil]
  exact (ReplayGuard.consume_eq parseTime_exampleNow parseTime_exampleUntil).trans rfl

theorem revalidation_sound_and_complete_example :
    letI := asciiRuntime
    ∃ b p, (exampleEvaluate ({} : ReplayGuard) 0 "request" "2026-01-01T00:00:00Z").service.revalidate (exampleQuery "request")
        b "2026-01-01T00:00:00Z" = .ok true ∧
      Backed (exampleEvaluate ({} : ReplayGuard) 0 "request" "2026-01-01T00:00:00Z").service (exampleQuery "request") b
        "2026-01-01T00:00:00Z" p := by
  let := asciiRuntime
  obtain ⟨b, guard, hadmits⟩ := exampleEvaluate_admits
  have hspec := revalidation_sound_and_complete (exampleEvaluate ({} : ReplayGuard) 0 "request" "2026-01-01T00:00:00Z").service
    (exampleQuery "request") "2026-01-01T00:00:00Z"
  have hreached : AuthenticationRegistry.Reachable (exampleService 0 ({} : ReplayGuard)).registry :=
    .register .fresh (show AuthenticationRegistry.register ⟨[]⟩ (examplePrincipal 0) = _ from rfl)
  obtain ⟨b', -, hvalid⟩ := hspec.2 (some "auth://example") 0 _ _ hreached
    (RequestAuthorizationService.evaluate_of_admits hadmits) rfl
  have hvalid := hvalid _ rfl rfl rfl
  obtain ⟨p, hp, -⟩ := hspec.1 b' hvalid
  exact ⟨b', p, hvalid, hp⟩

end Pmiri
