import Pmiri.Network.DotSegments
import Pmiri.Python.Comprehension
import Pmiri.Python.Sha256

/-!
# Redirect chains

`NetworkBoundary.validate_redirects`. The texts of the URLs are compared
before they are normalized, so that a chain may come back to a target in
another spelling.
-/

namespace Pmiri

open Py

section

variable [Runtime] [Idna]

/-- `NetworkBoundary.validate_redirects` -/
def validateRedirects (urls : List String) (maxHops : Int) : Except Exc (List NormalizedTarget) := do
  raiseIf (decide (maxHops + 1 < urls.length) || !decide urls.Nodup) (networkBoundaryError "REDIRECT_UNAUTHORIZED")
  let targets ← urls.mapM normalizeUrl
  raiseIf ((targets.zip targets.tail).any fun hop => hop.1.scheme != hop.2.scheme)
    (networkBoundaryError "REDIRECT_UNAUTHORIZED")
  return targets

/-- Two URLs name one place: their hosts, their paths and their queries have the same canonical form. -/
structure SamePlace (p q : SplitResult) : Prop where
  host : ∃ h k name, p.hostname = some h ∧ q.hostname = some k ∧ canonicalHost h = .ok name ∧ canonicalHost k = .ok name
  path : ∃ result, canonicalPath (if p.path.isEmpty then ['/'] else p.path) = .ok result ∧
    canonicalPath (if q.path.isEmpty then ['/'] else q.path) = .ok result
  query : ∃ result, canonicalizePercentEncoding p.query = .ok result ∧ canonicalizePercentEncoding q.query = .ok result

/-- Two texts are URLs of one place. -/
def Respelled (url url' : String) : Prop :=
  ∃ p q, urlsplit url.toList = some p ∧ urlsplit url'.toList = some q ∧ SamePlace p q

theorem validateRedirects_ok {urls : List String} {maxHops : Int} {targets : List NormalizedTarget}
    (h : validateRedirects urls maxHops = .ok targets) :
    (urls.length : Int) ≤ maxHops + 1 ∧ urls.Nodup ∧ urls.mapM normalizeUrl = .ok targets := by
  unfold validateRedirects at h
  obtain ⟨hguard, h⟩ := seq_ok.mp h
  obtain ⟨targets', htargets, h⟩ := bind_ok.mp h
  obtain ⟨-, h⟩ := seq_ok.mp h
  obtain rfl := Except.ok.inj h
  rw [raiseIf_ok, Bool.or_eq_false_iff, decide_eq_false_iff_not, Int.not_lt, Bool.not_eq_false', decide_eq_true_eq] at hguard
  exact ⟨hguard.1, hguard.2, htargets⟩

omit [Runtime] [Idna] in
theorem canonicalPath_ok {path result : List Char} :
    canonicalPath path = .ok result ↔ ∃ encoded, canonicalizePercentEncoding path = .ok encoded ∧
      result = removeDotSegments encoded := by
  constructor
  · exact exceptMap_ok
  · rintro ⟨encoded, hencoded, rfl⟩
    rw [canonicalPath, hencoded]
    rfl

/-- The path of a target is the canonical path of its URL. -/
theorem Reading.path_eq {parsed : SplitResult} {t : NormalizedTarget} (h : Reading parsed t) :
    Pmiri.canonicalPath (if parsed.path.isEmpty then ['/'] else parsed.path) = .ok t.path.toList := by
  obtain ⟨encoded, hencoded, hpath⟩ := h.path
  rw [hpath, String.toList_ofList]
  exact canonicalPath_ok.mpr ⟨encoded, hencoded, rfl⟩

/-- The query of a target is the query of its URL in canonical encoding, if that is not empty. -/
theorem Reading.query_eq {parsed : SplitResult} {t : NormalizedTarget} (h : Reading parsed t) :
    ∃ result, canonicalizePercentEncoding parsed.query = .ok result ∧
      t.query = if result.isEmpty then none else some (String.ofList result) := by
  have hquery := h.query
  split at hquery
  · rename_i hempty
    refine ⟨[], ?_, (Except.ok.inj hquery).symm⟩
    rw [List.isEmpty_iff.mp hempty, canonicalizePercentEncoding]
  · rename_i hempty
    obtain ⟨result, hresult, hq⟩ := exceptMap_ok hquery
    refine ⟨result, hresult, ?_⟩
    rw [hq, if_neg]
    intro hnil
    exact hempty (List.isEmpty_iff.mpr ((encoded_of_canonicalize hresult).2.2 (List.isEmpty_iff.mp hnil)))

omit [Runtime] [Idna] in
theorem optionQuery_inj {a b : List Char}
    (h : (if a.isEmpty then none else some (String.ofList a)) = if b.isEmpty then none else some (String.ofList b)) : a = b := by
  cases a with
  | nil =>
    cases b with
    | nil => rfl
    | cons => cases h
  | cons =>
    cases b with
    | nil => cases h
    | cons => exact String.ofList_injective (Option.some.inj h)

/-- Two targets are the same exactly if they come from URLs of one place. -/
theorem Reading.eq_iff {p q : SplitResult} {s t : NormalizedTarget} (hp : Reading p s) (hq : Reading q t) :
    s = t ↔ SamePlace p q := by
  obtain ⟨h, name, hhost, hname, hs⟩ := hp.host
  obtain ⟨k, name', khost, hname', ht⟩ := hq.host
  obtain ⟨query, hquery, hsq⟩ := hp.query_eq
  obtain ⟨query', hquery', htq⟩ := hq.query_eq
  constructor
  · rintro rfl
    obtain rfl : name = name' := String.ofList_injective (hs.symm.trans ht)
    obtain rfl : query = query' := optionQuery_inj (hsq.symm.trans htq)
    exact ⟨⟨h, k, name, hhost, khost, hname, hname'⟩, ⟨_, hp.path_eq, hq.path_eq⟩, ⟨query, hquery, hquery'⟩⟩
  · rintro ⟨⟨h', k', name'', hh, hk, hn, hn'⟩, ⟨path, hpath, hpath'⟩, ⟨query'', hqy, hqy'⟩⟩
    obtain rfl := Option.some.inj (hhost.symm.trans hh)
    obtain rfl := Option.some.inj (khost.symm.trans hk)
    obtain rfl := Except.ok.inj (hname.symm.trans hn)
    obtain rfl := Except.ok.inj (hname'.symm.trans hn')
    obtain rfl := Except.ok.inj (hquery.symm.trans hqy)
    obtain rfl := Except.ok.inj (hquery'.symm.trans hqy')
    have hpaths : s.path = t.path := by
      have h₁ := Except.ok.inj (hp.path_eq.symm.trans hpath)
      have h₂ := Except.ok.inj (hq.path_eq.symm.trans hpath')
      exact String.toList_injective (h₁.trans h₂.symm)
    have hpayload : s.payload = t.payload := by
      rw [NormalizedTarget.payload, NormalizedTarget.payload, NormalizedTarget.authority, NormalizedTarget.authority, hs, ht,
        hpaths, hsq, htq]
    have hfp : s.fingerprint = t.fingerprint := by rw [hp.fingerprint, hq.fingerprint, hpayload]
    obtain ⟨scheme, port⟩ := hp.scheme_port
    obtain ⟨scheme', port'⟩ := hq.scheme_port
    cases s
    cases t
    simp only at scheme port scheme' port' hs ht hpaths hsq htq hfp
    subst scheme port scheme' port' hs ht hpaths hsq htq hfp
    rfl

theorem normalizeUrl_eq_iff {u v : String} {s t : NormalizedTarget} (hu : normalizeUrl u = .ok s)
    (hv : normalizeUrl v = .ok t) : s = t ↔ Respelled u v := by
  obtain ⟨-, p, hp, hps⟩ := normalizeUrl_ok.mp hu
  obtain ⟨-, q, hq, hqt⟩ := normalizeUrl_ok.mp hv
  rw [hps.eq_iff hqt]
  constructor
  · exact fun h => ⟨p, q, hp, hq, h⟩
  · rintro ⟨p', q', hp', hq', h⟩
    obtain rfl := Option.some.inj (hp.symm.trans hp')
    obtain rfl := Option.some.inj (hq.symm.trans hq')
    exact h

/-- An accepted chain has no loop exactly if no two of its URLs spell one place. -/
theorem validateRedirects_noLoop_iff {urls : List String} {maxHops : Int} {targets : List NormalizedTarget}
    (h : validateRedirects urls maxHops = .ok targets) :
    (targets.Nodup ∧ (targets.length : Int) ≤ maxHops + 1) ↔ urls.Pairwise fun u v => ¬ Respelled u v := by
  obtain ⟨hlen, -, hmap⟩ := validateRedirects_ok h
  rw [length_mapM hmap, and_iff_left hlen]
  refine (pairwise_mapM ?_ hmap).symm
  intro u v s t hu hv
  exact (not_congr (normalizeUrl_eq_iff hu hv)).symm

theorem normalizeUrl_noPath : normalizeUrl "https://example.com" = .ok exampleTarget := by
  obtain ⟨-, p, hp, hr⟩ := normalizeUrl_ok.mp normalizeUrl_example
  obtain rfl := Option.some.inj (urlsplit_example.symm.trans hp)
  refine normalizeUrl_ok.mpr ⟨⟨by decide, by simp⟩, ⟨"https".toList, "example.com".toList, [], [], []⟩, rfl, ?_⟩
  exact ⟨hr.port, hr.scheme, hr.userinfo, hr.fragment, hr.host, ⟨List.not_mem_nil, List.not_mem_nil⟩, hr.path, hr.query,
    hr.scheme_port, hr.fingerprint⟩

theorem validateRedirects_example :
    validateRedirects ["https://example.com/", "https://example.com"] 5 = .ok [exampleTarget, exampleTarget] := by
  have hmap : ["https://example.com/", "https://example.com"].mapM normalizeUrl = .ok [exampleTarget, exampleTarget] := by
    rw [mapM_cons_ok]
    refine ⟨_, _, normalizeUrl_example, mapM_cons_ok.mpr ⟨_, _, normalizeUrl_noPath, rfl, rfl⟩, rfl⟩
  unfold validateRedirects
  rw [hmap]
  simp [raiseIf]

end

/-- The chain of one URL and the same without its slash. -/
theorem validateRedirects_noLoop_iff_example :
    letI := asciiRuntime
    letI : Idna := ⟨none⟩
    (([exampleTarget, exampleTarget].Nodup ∧ (([exampleTarget, exampleTarget].length : Int) ≤ 5 + 1)) ↔
      ["https://example.com/", "https://example.com"].Pairwise fun u v => ¬ Respelled u v) := by
  let := asciiRuntime
  let _ : Idna := ⟨none⟩
  exact validateRedirects_noLoop_iff validateRedirects_example

/-- A chain that comes back to its first target is accepted. -/
theorem validateRedirects_loop :
    letI := asciiRuntime
    letI : Idna := ⟨none⟩
    ∃ targets, validateRedirects ["https://example.com/", "https://example.com"] 5 = .ok targets ∧ ¬ targets.Nodup := by
  let := asciiRuntime
  let _ : Idna := ⟨none⟩
  exact ⟨_, validateRedirects_example, by simp⟩

end Pmiri
