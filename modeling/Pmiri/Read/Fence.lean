import Pmiri.Read.Cursors

/-!
# The emission fence

A fence accepts an envelope exactly if its operation, its projection and its
typed result are those that the fence was created from, and the typed result
agrees with the projection. Every response that is built passes its own fence.
-/

namespace Pmiri

open Py

section

variable [Runtime]

/-! ## What a fence accepts -/

/-- The typed result says of the projection what the projection says, which has
this result and this lineage. -/
structure Agreeing (operation : String) (projection typedResult result lineage : Dict) : Prop where
  operation : typedResult.get "operation" = .str operation
  hasResult : (projection.get "result").asDict = some result
  hasLineage : (projection.get "lineage").asDict = some lineage
  fingerprint : typedResult.get "projection_fingerprint" = .str (disclosureFingerprint projection)
  disposition : (typedResult.get "disposition").eq (result.get "disposition") = true
  coverage : (typedResult.get "coverage").eq (result.get "coverage") = true
  authorization : (typedResult.get "authorization_ref").eq (lineage.get "authorization_ref") = true
  evidence : ∃ refs, (lineage.getD "evidence_refs" (.list [])).elements = .ok refs ∧
    (typedResult.get "evidence_refs").eq (.list refs) = true

/-- The envelope carries the operation, the projection and the typed result, up
to the order of keys in objects, and they agree. -/
structure FencedEnvelope (operation : String) (projection typedResult envelope : Dict) : Prop where
  named : envelope.get "operation" = .str operation
  parts : ∃ p t, (envelope.get "projection").asDict = some p ∧ (envelope.get "typed_result").asDict = some t ∧
    p.sortKeys = projection.sortKeys ∧ t.sortKeys = typedResult.sortKeys ∧ ∃ result lineage, Agreeing operation p t result lineage

namespace ExternalReadEmissionFence

theorem create_ok {operation : String} {projection typedResult : Dict} {f : ExternalReadEmissionFence} :
    create operation projection typedResult = .ok f ↔ operation ∈ READ_OPERATIONS ∧
      f = ⟨operation, disclosureFingerprint projection, sha256Json typedResult.toVal, "EMIT_VALID"⟩ := by
  simp only [create, seq_ok, raiseIf_ok, Bool.not_eq_false', List.contains_eq_mem, decide_eq_true_eq, pure, Except.pure,
    Except.ok.injEq, eq_comm (a := f)]

theorem assertAuthoritative_ok {f : ExternalReadEmissionFence} {projection typedResult : Dict}
    (hf : f.projectionFingerprint = disclosureFingerprint projection) :
    typedResult.get "operation" = .str f.operation ∧ f.assertAuthoritative projection typedResult = .ok () ↔
      ∃ result lineage, Agreeing f.operation projection typedResult result lineage := by
  constructor
  · rintro ⟨hoperation, h⟩
    unfold assertAuthoritative at h
    split at h
    · rename_i result lineage hresult hlineage
      simp only [seq_ok, raiseIf_ok, differs_false, Bool.not_eq_false', Dict.agrees] at h
      obtain ⟨hfingerprint, hdisposition, hcoverage, hauthorization, h⟩ := h
      obtain ⟨refs, hrefs, h⟩ := bind_ok.mp h
      rw [raiseIf_ok, Bool.not_eq_false'] at h
      exact ⟨result, lineage, hoperation, hresult, hlineage, hf ▸ hfingerprint, hdisposition, hcoverage, hauthorization, refs, hrefs, h⟩
    · cases h
  · rintro ⟨result, lineage, h⟩
    obtain ⟨refs, hrefs, hevidence⟩ := h.evidence
    refine ⟨h.operation, ?_⟩
    simp only [assertAuthoritative, h.hasResult, h.hasLineage, seq_ok, raiseIf_ok, differs_false, Bool.not_eq_false', Dict.agrees, hf]
    exact ⟨h.fingerprint, h.disposition, h.coverage, h.authorization, bind_ok.mpr ⟨refs, hrefs, by simp [raiseIf_ok, hevidence]⟩⟩

variable {operation : String} {projection typedResult envelope : Dict} {f : ExternalReadEmissionFence}

/-- What passes the checks of a fence that was created is what was fenced. -/
theorem assertValid_iff (hf : create operation projection typedResult = .ok f) {reads : String → Rat}
    (hprinted : ∀ v ∈ [projection.toVal, typedResult.toVal, envelope.toVal], v.Printed reads)
    (hcollideProjection : NoneCollide [projection.toVal, (itemDict envelope "projection").toVal])
    (hcollideTyped : NoneCollide [typedResult.toVal, (itemDict envelope "typed_result").toVal]) :
    f.assertValid envelope = .ok () ↔ FencedEnvelope operation projection typedResult envelope := by
  obtain ⟨-, rfl⟩ := create_ok.mp hf
  simp only [List.forall_mem_cons] at hprinted
  obtain ⟨hprojection, htyped, henvelope, -⟩ := hprinted
  rw [assertValid, seq_ok, raiseIf_ok]
  constructor
  · rintro ⟨-, h⟩
    obtain ⟨hoperation, h⟩ := seq_ok.mp h
    split at h
    · rename_i p t hp ht
      simp only [seq_ok, raiseIf_ok, bne_eq_false_iff_eq, differs_false] at h
      obtain ⟨hsameProjection, hsameTyped, htypedOperation, hauthoritative⟩ := h
      have hitemProjection : itemDict envelope "projection" = p := by rw [itemDict, hp, Option.getD_some]
      have hitemTyped : itemDict envelope "typed_result" = t := by rw [itemDict, ht, Option.getD_some]
      rw [hitemProjection] at hcollideProjection
      rw [hitemTyped] at hcollideTyped
      have hprintedProjection := Val.printed_asDict (Val.printed_get henvelope "projection") hp
      have hprintedTyped := Val.printed_asDict (Val.printed_get henvelope "typed_result") ht
      exact ⟨differs_false.mp (raiseIf_ok.mp hoperation), p, t, hp, ht,
        hcollideProjection.dict_eq (by simp) (by simp) hprintedProjection hprojection hsameProjection,
        hcollideTyped.dict_eq (by simp) (by simp) hprintedTyped htyped hsameTyped,
        (assertAuthoritative_ok hsameProjection.symm).mp ⟨htypedOperation, hauthoritative⟩⟩
    · cases h
  · rintro ⟨hoperation, p, t, hp, ht, hsameProjection, hsameTyped, hagreeing⟩
    have hfingerprint := sha256Json_congr hsameProjection
    have hauthoritative := (assertAuthoritative_ok (f := ⟨operation, disclosureFingerprint projection,
      sha256Json typedResult.toVal, "EMIT_VALID"⟩) hfingerprint.symm).mpr hagreeing
    refine ⟨by simp, seq_ok.mpr ⟨raiseIf_ok.mpr (differs_false.mpr hoperation), ?_⟩⟩
    simp only [hp, ht, seq_ok, raiseIf_ok, bne_eq_false_iff_eq, differs_false]
    exact ⟨hfingerprint, sha256Json_congr hsameTyped, hauthoritative⟩

/-- Nothing else in an envelope is looked at. -/
theorem assertValid_congr (f : ExternalReadEmissionFence) {envelope' : Dict}
    (h : ∀ k ∈ ["operation", "projection", "typed_result"], envelope.get k = envelope'.get k) :
    f.assertValid envelope = f.assertValid envelope' := by
  simp only [List.forall_mem_cons] at h
  simp only [assertValid, differs, h.1, h.2.1, h.2.2.1]

end ExternalReadEmissionFence

/-! ## What is emitted -/

variable {σ κ ρ γ : Type} [SourceStore σ] [RegistryPort κ] [RatePort ρ] [ReplayPort γ]

/-- In every mode a response can be made of what the projection service returns. -/
theorem projected_of_project {s : ReadProjectionService σ κ ρ γ} {adapter : Adapter} {authorized : Option Bool} {call : ReadCall}
    {projection : Dict} (h : (s.project adapter authorized call).1 = .ok projection) : Projected projection := by
  obtain ⟨r, authorization⟩ := s
  rcases authorization with _ | a
  · rw [project_none] at h
    obtain ⟨-, h⟩ := seq_ok.mp h
    obtain ⟨p, hp, h⟩ := bind_ok.mp h
    obtain ⟨refs, hbound⟩ := boundProjection_of_answerFor (ProjectionRequest.normalized_of_fromMapping hp) h
    exact hbound.projected
  have h : ((ReadProjectionService.mk r (some a)).handleAuthenticated call).1 = .ok projection := by
    cases authorized with
    | some _ => cases h
    | none => cases adapter <;> exact h
  rcases hp : ProjectionRequest.fromMapping call.raw with e | p
  · rw [ReadProjectionService.handleAuthenticated_of_error call hp] at h
    cases h
  obtain ⟨verdict, hverdict⟩ := verdict_of_handleAuthenticated call hp h
  rw [handleAuthenticated_of_verdict call hp hverdict] at h
  obtain ⟨result, -, h⟩ := bind_ok.mp h
  obtain ⟨binding, -, h⟩ := bind_ok.mp h
  exact projected_of_disclose h

/-- The envelope of a projection for an operation. -/
def envelopeOf (operation : String) (projection : Dict) : Dict :=
  .ofItems [("operation", .str operation), ("projection", projection.toVal),
    ("typed_result", (typedResultOf operation projection).toVal)]

/-- A fence accepts exactly what was fenced, and the envelope of whatever
projection is executed for passes its own fence, which is the one in the
response. -/
theorem emission_fence_exact :
    (∀ operation projection typedResult envelope f reads,
      ExternalReadEmissionFence.create operation projection typedResult = .ok f →
      (∀ v ∈ [projection.toVal, typedResult.toVal, envelope.toVal], v.Printed reads) →
      NoneCollide [projection.toVal, (itemDict envelope "projection").toVal] →
      NoneCollide [typedResult.toVal, (itemDict envelope "typed_result").toVal] →
      (f.assertValid envelope = .ok () ↔ FencedEnvelope operation projection typedResult envelope)) ∧
    (∀ (s : ReadOperationService σ κ ρ γ) operation adapter authorized (call : ReadCall) payload projection,
      stripTransportOperation operation call.raw = .ok payload →
      (s.projection.project adapter authorized { call with raw := payload.toVal }).1 = .ok projection →
      ∃ cursor f, operationCursor operation projection = .ok cursor ∧
        let sent := projection.insert "continuation" (.str cursor)
        ExternalReadEmissionFence.create operation sent (typedResultOf operation sent) = .ok f ∧
          f.assertValid (envelopeOf operation sent) = .ok ()) ∧
    ∀ (s : ReadOperationService σ κ ρ γ) operation adapter authorized (call : ReadCall) response,
      (s.execute operation adapter authorized call).1 = .ok response →
      ∃ f, ExternalReadEmissionFence.create operation (itemDict response "projection") (itemDict response "typed_result") = .ok f ∧
        response.get "emission_fence" = f.structured.toVal ∧ f.assertValid response = .ok () := by
  refine ⟨fun operation projection typedResult envelope f reads hf hprinted hprojection htyped =>
    ExternalReadEmissionFence.assertValid_iff hf hprinted hprojection htyped, ?_, ?_⟩
  · intro s operation adapter authorized call payload projection hpayload hprojection
    have hprojected := projected_of_project hprojection
    exact ⟨_, _, operationCursor_of_projected hprojected,
      ExternalReadEmissionFence.create_ok.mpr ⟨mem_of_stripped hpayload, rfl⟩,
      assertValid_of_projected (hprojected.insert_continuation _)⟩
  · intro s operation adapter authorized call response h
    simp only [ReadOperationService.execute] at h
    split at h
    · cases h
    · rename_i payload hpayload
      obtain ⟨projection, hprojection, h⟩ := bind_ok.mp h
      have hprojected := projected_of_project hprojection
      rw [respond_eq (mem_of_stripped hpayload) hprojected] at h
      split at h
      · cases h
      · obtain rfl := Except.ok.inj h
        let sent := projection.insert "continuation" (.str (cursorOf operation projection))
        have htyped : itemDict (responseOf operation projection) "typed_result" = typedResultOf operation sent :=
          itemDict_of_get (by simp [responseOf, Dict.ofItems, Dict.get_insert, sent])
        refine ⟨_, ExternalReadEmissionFence.create_ok.mpr ⟨mem_of_stripped hpayload, rfl⟩, ?_, ?_⟩
        · rw [itemDict_responseOf, htyped, responseOf, Dict.get_insert_self]
        · rw [itemDict_responseOf, htyped, ← assertValid_of_projected (hprojected.insert_continuation _)]
          refine ExternalReadEmissionFence.assertValid_congr _ fun k hk => ?_
          rw [responseOf, Dict.get_insert, if_neg (by rintro rfl; simp at hk)]

end

section

variable [Runtime]

omit [Runtime] in
/-- A projection without evidence. -/
def exampleFenced : Dict :=
  .ofItems [
    ("result", (Dict.ofItems [("disposition", .str "EMPTY"), ("coverage", .str "unknown")]).toVal),
    ("lineage", (Dict.ofItems [("authorization_ref", .str "auth_example"), ("evidence_refs", strList [])]).toVal),
    ("continuation", .str "cursor_example")]

omit [Runtime] in
theorem exampleFenced_projected : Projected exampleFenced := ⟨⟨_, rfl⟩, ⟨_, [], rfl, rfl⟩, ⟨_, rfl⟩⟩

theorem exampleFenced_printed (reads : String → Rat) :
    ∀ v ∈ [exampleFenced.toVal, (typedResultOf "search" exampleFenced).toVal, (envelopeOf "search" exampleFenced).toVal],
      v.Printed reads := by
  have hprojection : exampleFenced.toVal.Printed reads := by
    refine Val.printed_ofItems ?_
    simp only [List.forall_mem_cons]
    refine ⟨Val.printed_ofItems ?_, Val.printed_ofItems ?_, trivial, nofun⟩ <;> simp only [List.forall_mem_cons]
    · exact ⟨trivial, trivial, nofun⟩
    · exact ⟨trivial, Val.printed_strList [], nofun⟩
  have htyped : (typedResultOf "search" exampleFenced).toVal.Printed reads := by
    refine Val.printed_ofItems ?_
    simp only [List.forall_mem_cons]
    exact ⟨trivial, trivial, trivial, trivial, trivial, trivial, Val.printed_strList [], trivial, nofun⟩
  simp only [List.forall_mem_cons]
  refine ⟨hprojection, htyped, Val.printed_ofItems ?_, nofun⟩
  simp only [List.forall_mem_cons]
  exact ⟨trivial, hprojection, htyped, nofun⟩

end

theorem emission_fence_exact_example :
    letI := asciiRuntime
    FencedEnvelope "search" exampleFenced (typedResultOf "search" exampleFenced) (envelopeOf "search" exampleFenced) := by
  let := asciiRuntime
  have hself : ∀ v : Val, NoneCollide [v, v] := by simp [NoneCollide, Collide]
  have hprojection : itemDict (envelopeOf "search" exampleFenced) "projection" = exampleFenced :=
    itemDict_of_get (by simp [envelopeOf, Dict.ofItems, Dict.get_insert])
  have htyped : itemDict (envelopeOf "search" exampleFenced) "typed_result" = typedResultOf "search" exampleFenced :=
    itemDict_of_get (by simp [envelopeOf, Dict.ofItems])
  obtain ⟨haccepts, -⟩ := emission_fence_exact (σ := LocalStore) (κ := AuthenticationRegistry) (ρ := FixedWindowRateLimiter)
    (γ := ReplayGuard)
  refine (haccepts "search" exampleFenced (typedResultOf "search" exampleFenced) (envelopeOf "search" exampleFenced) _ (fun _ => 0)
    (ExternalReadEmissionFence.create_ok.mpr ⟨by decide, rfl⟩) (exampleFenced_printed _) ?_ ?_).mp
      (assertValid_of_projected exampleFenced_projected)
  · rw [hprojection]
    exact hself _
  · rw [htyped]
    exact hself _

end Pmiri
