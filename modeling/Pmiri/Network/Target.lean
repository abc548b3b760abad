import Pmiri.Canonical
import Pmiri.Python.Url

/-!
# Normalized targets

`network.py`: the canonical form of a URL, and the class of an address. A
host that is not ASCII goes through the `idna` package, which may be missing.
-/

namespace Pmiri

open Py

/-- `NetworkBoundaryError(msg)` -/
def networkBoundaryError (msg : String) : Exc := .valueError "NetworkBoundaryError" msg

/-- The `idna` package. -/
class Idna where
  /-- `idna.encode(host, uts46=True, std3_rules=True, transitional=False)`;
  the outer `none` where the package is missing, the inner where it raises. -/
  encode : Option (List Char → Option (List Char))

/-! ## Paths -/

def isUnreserved (c : Char) : Bool := isAsciiAlpha c || isAsciiDigit c || c == '-' || c == '.' || c == '_' || c == '~'

/-- `_canonicalize_percent_encoding` -/
def canonicalizePercentEncoding : List Char → Except Exc (List Char)
  | [] => .ok []
  | c :: rest =>
    if c != '%' then (canonicalizePercentEncoding rest).map (c :: ·)
    else
      match rest with
      | a :: b :: rest =>
        match hexValue a, hexValue b with
        | some x, some y =>
          let byte := x * 16 + y
          if byte = 0x2F || byte = 0x5C then .error (networkBoundaryError "ENCODED_DELIMITER_FORBIDDEN")
          else
            let decoded := Char.ofNat byte
            let output := if isUnreserved decoded then [decoded] else ['%', upperAscii a, upperAscii b]
            (canonicalizePercentEncoding rest).map (output ++ ·)
        | _, _ => .error (networkBoundaryError "MALFORMED_PERCENT_ENCODING")
      | _ => .error (networkBoundaryError "MALFORMED_PERCENT_ENCODING")

/-- `input.startswith(p)` -/
def startsWith (input : List Char) (p : String) : Bool := p.toList.isPrefixOf input

theorem length_le_of_startsWith {input : List Char} {p : String} (h : startsWith input p = true) :
    p.toList.length ≤ input.length := (List.isPrefixOf_iff_prefix.mp h).length_le

theorem length_drop_lt {input : List Char} {p : String} {n : Nat} (h : startsWith input p = true)
    (hp : n ≤ p.toList.length) (hn : 0 < n) : (input.drop n).length < input.length := by
  have := length_le_of_startsWith h
  rw [List.length_drop]
  omega

/-- The input up to the next slash after its first character, and the rest. -/
def firstSegment : List Char → List Char × List Char
  | [] => ([], [])
  | c :: cs => (c :: cs.takeWhile (· != '/'), cs.dropWhile (· != '/'))

theorem length_firstSegment_lt {input : List Char} (h : input ≠ []) : (firstSegment input).2.length < input.length := by
  cases input with
  | nil => exact absurd rfl h
  | cons c cs => exact Nat.lt_succ_of_le (List.dropWhile_sublist _).length_le

/-- The loop of `_remove_dot_segments`: the segments put out so far, and those
that the rest of the input gives. -/
def removeDots (input : List Char) (output : List (List Char)) : List (List Char) :=
  if input = [] then output
  else if startsWith input "../" then removeDots (input.drop 3) output
  else if startsWith input "./" then removeDots (input.drop 2) output
  else if startsWith input "/./" then removeDots (input.drop 2) output
  else if input = ['/', '.'] then removeDots ['/'] output
  else if startsWith input "/../" then removeDots (input.drop 3) output.dropLast
  else if input = ['/', '.', '.'] then removeDots ['/'] output.dropLast
  else if input = ['.'] || input = ['.', '.'] then output
  else removeDots (firstSegment input).2 (output ++ [(firstSegment input).1])
termination_by input.length
decreasing_by
  · exact length_drop_lt ‹_› (by decide) (by decide)
  · exact length_drop_lt ‹_› (by decide) (by decide)
  · exact length_drop_lt ‹_› (by decide) (by decide)
  · subst input; decide
  · exact length_drop_lt ‹_› (by decide) (by decide)
  · subst input; decide
  · exact length_firstSegment_lt ‹_›

/-- `_remove_dot_segments` -/
def removeDotSegments (path : List Char) : List Char :=
  let normalized := (removeDots (if startsWith path "/" then path else '/' :: path) []).flatten
  if startsWith normalized "/" then normalized else ['/']

/-! ## Targets -/

structure NormalizedTarget where
  scheme : String
  host : String
  port : Nat
  path : String
  query : Option String
  fingerprint : String
deriving DecidableEq

/-- A host as it stands in a URL: an IPv6 address in brackets. -/
def bracketed (host : String) : String :=
  if host.toList.contains ':' && !startsWith host.toList "[" then "[" ++ host ++ "]" else host

namespace NormalizedTarget

def authority (t : NormalizedTarget) : String := bracketed t.host

/-- The canonical path and query. -/
def requestTarget (t : NormalizedTarget) : String :=
  t.path ++ (match t.query with
    | some q => "?" ++ q
    | none => "")

def safeUrl (t : NormalizedTarget) : String :=
  String.ofList (t.scheme.toList.map lowerAscii) ++ "://" ++ t.authority ++ t.requestTarget

end NormalizedTarget

/-- A label of a host name that is not acceptable. -/
def badLabel (label : List Char) : Bool :=
  label.isEmpty || 63 < label.length || label.head? == some '-' || label.getLast? == some '-' ||
    label.any fun c => !(isAsciiLower c || isAsciiDigit c || c == '-')

section Normalization

variable [Runtime] [Idna]

/-- The canonical form of a host name that is not an address. -/
def hostAscii (host : List Char) : Except Exc (List Char) := do
  let name ←
    if isAscii host then .ok (rstrip (· == '.') (casefold host))
    else
      match Idna.encode with
      | none => .error (networkBoundaryError "IDNA_VALIDATOR_UNAVAILABLE")
      | some encode =>
        match encode host with
        | none => .error (networkBoundaryError "HOST_INVALID")
        | some ascii => .ok (rstrip (· == '.') (casefold ascii))
  raiseIf (name.isEmpty || (splitOn '.' name).any badLabel) (networkBoundaryError "HOST_INVALID")
  return name

/-- The canonical form of a host. -/
def canonicalHost (host : List Char) : Except Exc (List Char) :=
  match IpAddress.read (String.ofList host) with
  | some address => .ok address.print.toList
  | none => hostAscii host

def normalizeUrl (url : String) : Except Exc NormalizedTarget := do
  raiseIf (8192 < url.toList.length || url.toList.any (·.toNat < 0x20)) (networkBoundaryError "URL_INVALID")
  match urlsplit url.toList with
  | none => .error (networkBoundaryError "URL_INVALID")
  | some parsed =>
    match parsed.port with
    | none => .error (networkBoundaryError "URL_INVALID")
    | some port =>
      raiseIf (casefold parsed.scheme != "https".toList) (networkBoundaryError "SCHEME_NOT_ALLOWED")
      raiseIf (parsed.userinfo.1.isSome || parsed.userinfo.2.isSome) (networkBoundaryError "URL_USERINFO_FORBIDDEN")
      match parsed.hostname with
      | none => .error (networkBoundaryError "URL_AUTHORITY_OR_FRAGMENT_INVALID")
      | some host =>
        raiseIf (!parsed.fragment.isEmpty) (networkBoundaryError "URL_AUTHORITY_OR_FRAGMENT_INVALID")
        let hostAscii := String.ofList (← canonicalHost host)
        raiseIf (port.getD 443 != 443) (networkBoundaryError "PORT_NOT_ALLOWED")
        raiseIf (parsed.path.contains '\\' || parsed.query.contains '\\') (networkBoundaryError "AMBIGUOUS_AUTHORITY")
        let encoded ← canonicalizePercentEncoding (if parsed.path.isEmpty then ['/'] else parsed.path)
        let path := String.ofList (removeDotSegments encoded)
        let query ← if parsed.query.isEmpty then .ok none
          else (canonicalizePercentEncoding parsed.query).map fun q => some (String.ofList q)
        let payload := Dict.ofItems [
          ("scheme", .str "HTTPS"),
          ("authority", .str (bracketed hostAscii)),
          ("path", .str path),
          ("query", match query with
            | some q => .str q
            | none => .none)]
        return ⟨"HTTPS", hostAscii, 443, path, query, sha256Json payload.toVal⟩

/-- What the fingerprint of a target is computed from. -/
def NormalizedTarget.payload (t : NormalizedTarget) : Dict :=
  .ofItems [
    ("scheme", .str "HTTPS"),
    ("authority", .str t.authority),
    ("path", .str t.path),
    ("query", optStr t.query)]

/-- What a target takes from the parts of a URL. -/
structure Reading (parsed : SplitResult) (t : NormalizedTarget) : Prop where
  port : ∃ port, parsed.port = some port ∧ port.getD 443 = 443
  scheme : casefold parsed.scheme = "https".toList
  userinfo : parsed.userinfo = (none, none)
  fragment : parsed.fragment = []
  host : ∃ host name, parsed.hostname = some host ∧ canonicalHost host = .ok name ∧ t.host = String.ofList name
  backslash : '\\' ∉ parsed.path ∧ '\\' ∉ parsed.query
  path : ∃ encoded, canonicalizePercentEncoding (if parsed.path.isEmpty then ['/'] else parsed.path) = .ok encoded ∧
    t.path = String.ofList (removeDotSegments encoded)
  query : (if parsed.query.isEmpty then .ok none
    else (canonicalizePercentEncoding parsed.query).map fun q => some (String.ofList q)) = Except.ok t.query
  scheme_port : t.scheme = "HTTPS" ∧ t.port = 443
  fingerprint : t.fingerprint = sha256Json t.payload.toVal

theorem normalizeUrl_ok {url : String} {t : NormalizedTarget} :
    normalizeUrl url = .ok t ↔ (url.toList.length ≤ 8192 ∧ ∀ c ∈ url.toList, 0x20 ≤ c.toNat) ∧
      ∃ parsed, urlsplit url.toList = some parsed ∧ Reading parsed t := by
  have hguard : raiseIf (8192 < url.toList.length || url.toList.any (·.toNat < 0x20)) (networkBoundaryError "URL_INVALID") =
      .ok () ↔ url.toList.length ≤ 8192 ∧ ∀ c ∈ url.toList, 0x20 ≤ c.toNat := by
    simp only [raiseIf_ok, Bool.or_eq_false_iff, decide_eq_false_iff_not, Nat.not_lt, List.any_eq_false, decide_eq_true_eq]
  constructor
  · intro h
    unfold normalizeUrl at h
    obtain ⟨hg, h⟩ := seq_ok.mp h
    split at h
    · cases h
    rename_i parsed hparsed
    split at h
    · cases h
    rename_i port hport
    obtain ⟨hscheme, h⟩ := seq_ok.mp h
    obtain ⟨huser, h⟩ := seq_ok.mp h
    split at h
    · cases h
    rename_i host hhost
    obtain ⟨hfragment, h⟩ := seq_ok.mp h
    obtain ⟨name, hname, h⟩ := bind_ok.mp h
    obtain ⟨hport', h⟩ := seq_ok.mp h
    obtain ⟨hback, h⟩ := seq_ok.mp h
    obtain ⟨encoded, hencoded, h⟩ := bind_ok.mp h
    extract_lets path jp at h
    obtain ⟨query, hquery, h⟩ : ∃ query, (if parsed.query.isEmpty then .ok none
        else (canonicalizePercentEncoding parsed.query).map fun q => some (String.ofList q)) = Except.ok query ∧
          jp query = .ok t := by
      split at h
      · rename_i hq
        exact ⟨none, if_pos hq, h⟩
      · rename_i hq
        obtain ⟨query, hquery, h⟩ := bind_ok.mp h
        exact ⟨query, (if_neg hq).trans hquery, h⟩
    obtain rfl := Except.ok.inj h
    simp only [raiseIf_ok, bne_eq_false_iff_eq, Bool.or_eq_false_iff, Bool.not_eq_false', Option.isSome_eq_false_iff,
      Option.isNone_iff_eq_none, List.isEmpty_iff, List.contains_eq_mem, decide_eq_false_iff_not]
      at hscheme huser hfragment hport' hback
    exact ⟨hguard.mp hg, parsed, hparsed, ⟨port, hport, hport'⟩, hscheme, Prod.ext huser.1 huser.2, hfragment,
      ⟨host, name, hhost, hname, rfl⟩, hback, ⟨encoded, hencoded, rfl⟩, hquery, ⟨rfl, rfl⟩, rfl⟩
  · rintro ⟨hg, parsed, hparsed, hr⟩
    obtain ⟨port, hport, hport'⟩ := hr.port
    obtain ⟨host, name, hhost, hname, ht⟩ := hr.host
    obtain ⟨encoded, hencoded, hpath⟩ := hr.path
    have hback := hr.backslash
    have hquery := hr.query
    have hfp := hr.fingerprint
    obtain ⟨hs, hp⟩ := hr.scheme_port
    obtain ⟨scheme, thost, tport, tpath, tquery, fingerprint⟩ := t
    obtain rfl : scheme = "HTTPS" := hs
    obtain rfl : thost = String.ofList name := ht
    obtain rfl : tport = 443 := hp
    obtain rfl : tpath = String.ofList (removeDotSegments encoded) := hpath
    unfold normalizeUrl
    rw [hguard.mpr hg]
    simp only [ok_bind, hparsed, hport, hr.scheme, hr.userinfo, hhost, hr.fragment, hname, hport', hencoded]
    have hback' : (parsed.path.contains '\\' || parsed.query.contains '\\') = false := by
      simpa only [Bool.or_eq_false_iff, List.contains_eq_mem, decide_eq_false_iff_not] using hback
    have htrue : ∀ msg, raiseIf false (networkBoundaryError msg) = .ok () := fun msg => rfl
    simp only [hback', bne_self_eq_false, Option.isSome_none, Bool.or_self, List.isEmpty_nil, Bool.not_true, htrue, ok_bind]
    by_cases hq : parsed.query.isEmpty = true
    · rw [if_pos hq] at hquery ⊢
      obtain rfl := Except.ok.inj hquery
      rw [show fingerprint = _ from hfp]
      rfl
    · rw [if_neg hq] at hquery ⊢
      rw [hquery, show fingerprint = _ from hfp]
      rfl

theorem normalizeUrl_fingerprint {url : String} {t : NormalizedTarget} (h : normalizeUrl url = .ok t) :
    t.fingerprint = sha256Json t.payload.toVal := by
  obtain ⟨-, parsed, -, hr⟩ := normalizeUrl_ok.mp h
  exact hr.fingerprint

end Normalization

/-! ## Addresses -/

/-- `classify_address` of a text that is an address. -/
def classifyIp (address : IpAddress) : String :=
  if address.isPrivate || address.isLoopback || address.isLinkLocal || address.isUnspecified then "DENIED_PRIVATE"
  else if address.isMulticast || address.isReserved || !address.isGlobal then "DENIED_RESERVED"
  else "ALLOWLISTED_PUBLIC"

def classifyAddress (value : String) : String :=
  match IpAddress.read value with
  | none => "INVALID"
  | some address => classifyIp address

/-- `"IPv6" if parsed.version == 6 else "IPv4"` -/
def familyOf (address : IpAddress) : String := if address.version = 6 then "IPv6" else "IPv4"

theorem removeDotSegments_root : removeDotSegments ['/'] = ['/'] := by
  simp [removeDotSegments, removeDots, startsWith, firstSegment]

example : removeDotSegments "/a/b/../c/./d".toList = "/a/c/d".toList := by
  simp [removeDotSegments, removeDots, startsWith, firstSegment]

/-! ## A URL in canonical form -/

section

variable [Runtime]

/-- `https://example.com/` -/
def exampleTarget : NormalizedTarget :=
  ⟨"HTTPS", "example.com", 443, "/", none, sha256Json (Dict.ofItems [
    ("scheme", .str "HTTPS"),
    ("authority", .str "example.com"),
    ("path", .str "/"),
    ("query", .none)]).toVal⟩

theorem authority_example : exampleTarget.authority = "example.com" := by
  show bracketed "example.com" = "example.com"
  decide

theorem urlsplit_example : urlsplit "https://example.com/".toList =
    some ⟨"https".toList, "example.com".toList, "/".toList, [], []⟩ := rfl

theorem canonicalHost_example [Idna] : canonicalHost "example.com".toList = .ok "example.com".toList := by
  rw [canonicalHost, show IpAddress.read (String.ofList "example.com".toList) = none by decide]
  rfl

theorem normalizeUrl_example [Idna] : normalizeUrl "https://example.com/" = .ok exampleTarget := by
  have hshort : (decide (8192 < "https://example.com/".toList.length) ||
      "https://example.com/".toList.any (decide <| ·.toNat < 0x20)) = false := by decide
  have hpath : canonicalizePercentEncoding ['/'] = .ok ['/'] := rfl
  have hport : (SplitResult.mk "https".toList "example.com".toList "/".toList [] []).port = some none := rfl
  have hhost : (SplitResult.mk "https".toList "example.com".toList "/".toList [] []).hostname =
    some "example.com".toList := rfl
  have hscheme : casefold "https".toList = "https".toList := rfl
  have huser : (SplitResult.mk "https".toList "example.com".toList "/".toList [] []).userinfo = (none, none) := rfl
  simp only [normalizeUrl, hshort, urlsplit_example, hport, hhost, canonicalHost_example, hscheme, huser, ok_bind]
  simp [hpath, removeDotSegments_root, raiseIf, exampleTarget, bracketed, startsWith, pure, Except.pure, bind,
    Except.bind]

end

end Pmiri
