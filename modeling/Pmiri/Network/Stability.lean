import Pmiri.Network.CanonicalPath
import Pmiri.Network.Host
import Pmiri.Python.Sha256
import Pmiri.Python.UrlText

/-!
# Targets are stable

The URL of a target is read as the target again, where it is no longer than
what `normalizeUrl` reads. Splitting undoes the putting together; the host is
read back out of the authority; and path and query are canonical already.
-/

namespace Pmiri

open Py

/-! ## Authorities -/

/-- A host that is neither in brackets nor needs them. -/
def PlainHost (name : List Char) : Prop := name ≠ [] ∧ ∀ c ∈ name, c = '.' ∨ IsLabelChar c

/-- The zone of an address can stand in an authority. -/
def ZoneOk [Runtime] (n : Nat) (zone : List Char) : Prop :=
  (∀ c ∈ zone, 0x20 ≤ c.toNat ∧ c ≠ '/' ∧ c ≠ '?' ∧ c ≠ '#' ∧ c ≠ '@' ∧ c ≠ ']') ∧
    netlocOk ('[' :: (IpAddress.text6 n ++ '%' :: (zone ++ [']']))) = true

/-- A host that can be read back. -/
inductive HostText [Runtime] : List Char → Prop
  | plain {name : List Char} (h : PlainHost name) : HostText name
  | address {p : IpAddress} {n : Nat} {scope : Option (List Char)} (hp : p = .v6 n scope)
      (hread : IpAddress.read p.print = some p) (hzone : ∀ zone, scope = some zone → ZoneOk n zone) :
      HostText p.print.toList

theorem isLabelChar_of_isDigitChar {c : Char} (h : IpAddress.IsDigitChar c) : IsLabelChar c := by
  have hall : ∀ d < 16, IsLabelChar (Nat.digitChar d) := by decide
  obtain ⟨d, hd, rfl⟩ := h
  exact hall d hd

theorem plainHost_v4 (n : Nat) : PlainHost (IpAddress.print (.v4 n)).toList := by
  have htext : (IpAddress.print (.v4 n)).toList = joinWith '.' (IpAddress.octets n) := String.toList_ofList
  rw [htext]
  refine ⟨by simp [IpAddress.octets, joinWith], fun c hc => ?_⟩
  rcases mem_joinWith hc with rfl | ⟨part, hp, hc⟩
  · exact .inl rfl
  · exact .inr (isLabelChar_of_isDigitChar (IpAddress.isDigitChar_of_mem_octets hp hc))

theorem isAscii_text6 (n : Nat) : ∀ c ∈ IpAddress.text6 n, c.toNat < 128 ∧ lowerAscii c = c := by
  intro c hc
  rcases IpAddress.mem_text6 hc with rfl | hc
  · decide
  · exact (isLabelChar_of_isDigitChar hc).ascii

section

variable [Runtime]

/-- The zone of a host stands behind a percent sign in the network location,
before the closing bracket. -/
theorem zone_of_hostname (hk : DelimitersKept) {parsed : SplitResult} (hat : '@' ∉ parsed.netloc) {host : List Char}
    (hhost : parsed.hostname = some host) {n : Nat} {zone : List Char}
    (hread : IpAddress.read (String.ofList host) = some (.v6 n (some zone))) :
    ∃ before after, parsed.netloc = before ++ '%' :: (zone ++ after) ∧ ']' ∉ zone ∧
      (after = [] ∨ after.head? = some ']') := by
  obtain ⟨addr, hcolon, hpercent, htext⟩ := read_v6 hread
  rw [String.toList_ofList] at htext
  rw [SplitResult.hostname] at hhost
  split at hhost
  · cases hhost
  have hhost' := Option.some.inj hhost
  rcases partition_cases '%' parsed.hostinfo.1 with ⟨hnot, hp⟩ | ⟨name, zone', hnot, hinfo, hp⟩
  · -- a percent sign would come out of lower-casing
    simp only [hp, Bool.false_eq_true, ↓reduceIte, List.append_nil] at hhost'
    refine absurd (hk.mem_lower (.inr rfl) ?_) hnot
    rw [hhost', htext]
    simp
  · simp only [hp, ↓reduceIte] at hhost'
    have hlower : '%' ∉ lower name := fun hc => hnot (hk.mem_lower (.inr rfl) hc)
    have hcut := partition_append hlower zone'
    rw [hhost', htext, Option.map_some, Option.getD_some, partition_append hpercent] at hcut
    obtain ⟨haddr, hzone⟩ := Prod.mk.inj hcut
    obtain rfl : zone = zone' := (Prod.mk.inj hzone).1
    have hcolon' : ':' ∈ parsed.hostinfo.1 := by
      rw [hinfo]
      exact List.mem_append_left _ (hk.mem_lower (.inl rfl) (haddr ▸ hcolon))
    rcases SplitResult.hostinfo_host hat with ⟨-, hc⟩ | ⟨before, after, hnet, hclose, hafter⟩
    · exact absurd hcolon' hc
    · rw [hinfo] at hnet hclose
      refine ⟨before ++ '[' :: name, after, by simp [hnet], fun hc => hclose ?_, hafter⟩
      simp [hc]

theorem zoneOk_of_hostname (hk : DelimitersKept) {url : List Char} {parsed : SplitResult} (hs : SplitOf url parsed)
    (hspace : ∀ c ∈ url, 0x20 ≤ c.toNat) (hat : '@' ∉ parsed.netloc) {host : List Char}
    (hhost : parsed.hostname = some host) {n : Nat} {zone : List Char}
    (hread : IpAddress.read (String.ofList host) = some (.v6 n (some zone))) : ZoneOk n zone := by
  obtain ⟨before, after, hnet, hclose, hafter⟩ := zone_of_hostname hk hat hhost hread
  have hmem : ∀ c ∈ zone, c ∈ parsed.netloc := fun c hc => by simp [hnet, hc]
  constructor
  · intro c hc
    obtain ⟨hslash, hquery, hhash⟩ := hs.netloc c (hmem c hc)
    refine ⟨hspace c (hs.chars c (.inl (hmem c hc))), hslash, hquery, hhash, ?_, ?_⟩
    · rintro rfl
      exact hat (hmem _ hc)
    · rintro rfl
      exact hclose hc
  · have hok := hs.netlocOk
    have hslash : '/' ∉ parsed.netloc := fun hc => (hs.netloc _ hc).1 rfl
    rw [hnet] at hok hslash
    have hhead : isAscii ('[' :: IpAddress.text6 n) = true := by
      refine List.all_eq_true.mpr fun c hc => decide_eq_true ?_
      rcases List.mem_cons.mp hc with rfl | hc
      · decide
      · exact (isAscii_text6 n c hc).1
    have hhead' : '/' ∉ '[' :: IpAddress.text6 n := by
      rw [List.mem_cons, not_or]
      exact ⟨by decide, IpAddress.not_mem_text6 (by decide) fun h => h.ne.2.2.1 rfl⟩
    exact netlocOk_of_scope hk hslash hafter hok hhead hhead'

end

/-- An authority that the host is read out of. -/
structure AuthorityOf [Runtime] (name netloc : List Char) : Prop where
  chars : ∀ c ∈ netloc, 0x20 ≤ c.toNat ∧ c ≠ '/' ∧ c ≠ '?' ∧ c ≠ '#' ∧ c ≠ '@'
  brackets : Bracketed netloc
  accepted : netlocOk netloc = true
  hostinfo : ∀ r : SplitResult, r.netloc = netloc → r.hostinfo = (name, none)
  hostname : ∀ r : SplitResult, r.netloc = netloc → r.hostname = some name

section

variable [Runtime]

omit [Runtime] in
theorem PlainHost.not_mem {name : List Char} (h : PlainHost name) {d : Char} (hdot : d ≠ '.') (hlabel : ¬ IsLabelChar d) :
    d ∉ name :=
  fun hc => (h.2 d hc).elim hdot hlabel

omit [Runtime] in
theorem PlainHost.char {name : List Char} (h : PlainHost name) {c : Char} (hc : c ∈ name) :
    0x20 ≤ c.toNat ∧ c.toNat < 128 ∧ lowerAscii c = c := by
  rcases h.2 c hc with rfl | hl
  · decide
  · refine ⟨?_, hl.ascii⟩
    rcases hl with hl | hl | rfl
    · simp only [isAsciiLower, Bool.and_eq_true, decide_eq_true_eq] at hl
      omega
    · simp only [isAsciiDigit, Bool.and_eq_true, decide_eq_true_eq] at hl
      omega
    · decide

theorem PlainHost.authorityOf {name : List Char} (h : PlainHost name) : AuthorityOf name name := by
  have hne : ∀ {d : Char}, d ≠ '.' → ¬ IsLabelChar d → ∀ c ∈ name, c ≠ d := by
    rintro d hdot hlabel c hc rfl
    exact h.not_mem hdot hlabel hc
  have hinfo : ∀ r : SplitResult, r.netloc = name → r.hostinfo = (name, none) := by
    rintro r rfl
    exact SplitResult.hostinfo_plain fun c hc =>
      ⟨hne (by decide) (by decide) c hc, hne (by decide) (by decide) c hc, hne (by decide) (by decide) c hc⟩
  refine ⟨?_, ?_, ?_, hinfo, ?_⟩
  · exact fun c hc => ⟨(h.char hc).1, hne (by decide) (by decide) c hc, hne (by decide) (by decide) c hc,
      hne (by decide) (by decide) c hc, hne (by decide) (by decide) c hc⟩
  · have hopen : name.contains '[' = false := by simpa using h.not_mem (d := '[') (by decide) (by decide)
    have hclose : name.contains ']' = false := by simpa using h.not_mem (d := ']') (by decide) (by decide)
    exact ⟨hopen.trans hclose.symm, fun ho => absurd (hopen.symm.trans ho) Bool.false_ne_true⟩
  · exact if_pos (List.all_eq_true.mpr fun c hc => decide_eq_true (h.char hc).2.1)
  · intro r hr
    have hpercent : partition '%' name = (name, [], false) := partition_self (h.not_mem (by decide) (by decide))
    rw [SplitResult.hostname, hinfo r hr, if_neg (by simpa using h.1)]
    simp [hpercent, lower_of_ascii fun c hc => (h.char hc).2]

omit [Runtime] in
/-- The text of an address is its digits and its zone. -/
theorem print_v6 (n : Nat) (scope : Option (List Char)) :
    (IpAddress.print (.v6 n scope)).toList = IpAddress.text6 n ++ (scope.map ('%' :: ·)).getD [] := by
  cases scope with
  | none => simp [IpAddress.print, IpAddress.text6]
  | some zone => simp [IpAddress.print, IpAddress.text6]

omit [Runtime] in
theorem bracketedHostOk_print {n : Nat} {scope : Option (List Char)}
    (hread : IpAddress.read (IpAddress.print (.v6 n scope)) = some (.v6 n scope)) :
    bracketedHostOk (IpAddress.print (.v6 n scope)).toList = true := by
  unfold bracketedHostOk
  split
  · rename_i rest hv
    have hall : ∀ d < 16, 'v' ≠ Nat.digitChar d := by decide
    rcases head_print hv with hc | ⟨d, hd, hc⟩
    · cases hc
    · exact absurd hc (hall d hd)
  · rw [String.ofList_toList, hread]

theorem authorityOf_address {n : Nat} {scope : Option (List Char)}
    (hread : IpAddress.read (IpAddress.print (.v6 n scope)) = some (.v6 n scope))
    (hzone : ∀ zone, scope = some zone → ZoneOk n zone) :
    AuthorityOf (IpAddress.print (.v6 n scope)).toList ('[' :: ((IpAddress.print (.v6 n scope)).toList ++ [']'])) := by
  have hchar : ∀ c ∈ (IpAddress.print (.v6 n scope)).toList,
      0x20 ≤ c.toNat ∧ c ≠ '/' ∧ c ≠ '?' ∧ c ≠ '#' ∧ c ≠ '@' ∧ c ≠ ']' := by
    intro c hc
    rw [print_v6, List.mem_append] at hc
    rcases hc with hc | hc
    · have hall : ∀ d < 16, 0x20 ≤ (Nat.digitChar d).toNat ∧ Nat.digitChar d ≠ '/' ∧ Nat.digitChar d ≠ '?' ∧
          Nat.digitChar d ≠ '#' ∧ Nat.digitChar d ≠ '@' ∧ Nat.digitChar d ≠ ']' := by decide
      rcases IpAddress.mem_text6 hc with rfl | ⟨d, hd, rfl⟩
      · decide
      · exact hall d hd
    · cases scope with
      | none => cases hc
      | some zone =>
        rcases List.mem_cons.mp hc with rfl | hc
        · decide
        · exact (hzone zone rfl).1 c hc
  have hat : '@' ∉ (IpAddress.print (.v6 n scope)).toList := fun hc => (hchar _ hc).2.2.2.2.1 rfl
  have hclose : ']' ∉ (IpAddress.print (.v6 n scope)).toList := fun hc => (hchar _ hc).2.2.2.2.2 rfl
  have hinfo : ∀ r : SplitResult, r.netloc = '[' :: ((IpAddress.print (.v6 n scope)).toList ++ [']']) →
      r.hostinfo = ((IpAddress.print (.v6 n scope)).toList, none) :=
    fun r hr => SplitResult.hostinfo_bracketed hr hat hclose
  refine ⟨?_, ?_, ?_, hinfo, ?_⟩
  · intro c hc
    simp only [List.mem_cons, List.mem_append, List.not_mem_nil, or_false] at hc
    rcases hc with rfl | hc | rfl
    · decide
    · obtain ⟨hspace, hslash, hquery, hhash, hat', -⟩ := hchar c hc
      exact ⟨hspace, hslash, hquery, hhash, hat'⟩
    · decide
  · have hopen : ∀ cs, partition '[' ('[' :: cs) = ([], cs, true) := fun cs => by simp [partition]
    refine ⟨by simp, fun _ => ?_⟩
    rw [hopen, partition_append hclose]
    exact bracketedHostOk_print hread
  · cases scope with
    | none =>
      refine if_pos (List.all_eq_true.mpr fun c hc => decide_eq_true ?_)
      rw [print_v6, Option.map_none, Option.getD_none, List.append_nil] at hc
      simp only [List.mem_cons, List.mem_append, List.not_mem_nil, or_false] at hc
      rcases hc with rfl | hc | rfl
      · decide
      · exact (isAscii_text6 n c hc).1
      · decide
    | some zone =>
      rw [print_v6, Option.map_some, Option.getD_some, List.append_assoc, List.cons_append]
      exact (hzone zone rfl).2
  · intro r hr
    have hpercent : '%' ∉ IpAddress.text6 n := IpAddress.not_mem_text6 (by decide) fun h => h.ne.2.2.2 rfl
    have hne : (IpAddress.print (.v6 n scope)).toList ≠ [] := by
      rw [print_v6]
      exact List.append_ne_nil_of_left_ne_nil (List.ne_nil_of_mem (IpAddress.colon_mem_text6 n)) _
    rw [SplitResult.hostname, hinfo r hr, if_neg (by simpa using hne), print_v6]
    cases scope with
    | none =>
      rw [Option.map_none, Option.getD_none, List.append_nil, partition_self hpercent]
      simp [lower_of_ascii (isAscii_text6 n)]
    | some zone =>
      rw [Option.map_some, Option.getD_some, partition_append hpercent]
      simp [lower_of_ascii (isAscii_text6 n)]

theorem HostText.authorityOf {name : List Char} (h : HostText name) :
    AuthorityOf name (bracketed (String.ofList name)).toList := by
  cases h with
  | plain h =>
    have hcolon : name.contains ':' = false := by simpa using h.not_mem (d := ':') (by decide) (by decide)
    rw [bracketed, String.toList_ofList, hcolon]
    simpa using h.authorityOf
  | @address p n scope hp hread hzone =>
    subst hp
    have hcolon : (IpAddress.print (.v6 n scope)).toList.contains ':' = true := by
      rw [List.contains_iff_mem, print_v6]
      exact List.mem_append_left _ (IpAddress.colon_mem_text6 n)
    rw [bracketed, String.ofList_toList, hcolon, startsWith_print]
    simpa using authorityOf_address hread hzone

end

section

variable [Runtime] [Idna]

/-- The canonical host of an accepted URL can be read back. -/
theorem hostText_of_reading (hk : DelimitersKept) {url : List Char} {parsed : SplitResult} (hs : SplitOf url parsed)
    (hspace : ∀ c ∈ url, 0x20 ≤ c.toNat) (huser : parsed.userinfo = (none, none)) {host name : List Char}
    (hhost : parsed.hostname = some host) (hname : canonicalHost host = .ok name) : HostText name := by
  rcases canonicalHost_ok hname with ⟨p, hp, rfl⟩ | hn
  · cases p with
    | v4 n => exact .plain (plainHost_v4 n)
    | v6 n scope =>
      refine .address rfl (IpAddress.read_print hp) ?_
      rintro zone rfl
      exact zoneOk_of_hostname hk hs hspace (SplitResult.userinfo_none.mp huser) hhost hp
  · exact .plain ⟨hn.1, fun c hc => hn.mem hc⟩

end

/-! ## Paths and queries -/

/-- A character of a path or a query that is put back into a URL. -/
def UrlChar (c : Char) : Prop := 0x20 ≤ c.toNat ∧ c ≠ '#' ∧ c ≠ '\\'

instance (c : Char) : Decidable (UrlChar c) := inferInstanceAs (Decidable (_ ∧ _ ∧ _))

theorem urlChar_of_unreserved {c : Char} (h : isUnreserved c = true) : UrlChar c ∧ c ≠ '?' := by
  have hall : ∀ k < 128, isUnreserved (Char.ofNat k) = true →
      (0x20 ≤ (Char.ofNat k).toNat ∧ Char.ofNat k ≠ '#' ∧ Char.ofNat k ≠ '\\') ∧ Char.ofNat k ≠ '?' := by
    decide +kernel
  have hlt : c.toNat < 128 := by
    simp only [isUnreserved, isAsciiAlpha, isAsciiUpper, isAsciiLower, isAsciiDigit, Bool.or_eq_true, Bool.and_eq_true,
      decide_eq_true_eq, beq_iff_eq] at h
    rcases h with ((((h | h) | rfl) | rfl) | rfl) | rfl
    · omega
    · omega
    · decide
    · decide
    · decide
    · decide
  have hc := hall c.toNat hlt
  rw [Char.ofNat_toNat] at hc
  exact hc h

theorem safeUrl_toList {t : NormalizedTarget} (hs : t.scheme = "HTTPS") (hq : ∀ q, t.query = some q → q.toList ≠ []) :
    t.safeUrl.toList = httpsUrl t.authority.toList t.path.toList ((t.query.map String.toList).getD []) := by
  have hlower : "HTTPS".toList.map lowerAscii = "https".toList := by decide
  rw [NormalizedTarget.safeUrl, NormalizedTarget.requestTarget, hs, hlower]
  cases hq' : t.query with
  | none => simp [httpsUrl, pathQuery]
  | some q => simp [httpsUrl, pathQuery, hq q hq']

section

variable [Runtime] [Idna]

/-- The path of a target is canonical. -/
theorem Reading.canonicalPath {url : List Char} {parsed : SplitResult} {t : NormalizedTarget} (hr : Reading parsed t)
    (hs : SplitOf url parsed) (hspace : ∀ c ∈ url, 0x20 ≤ c.toNat) :
    CanonicalPath (fun c => UrlChar c ∧ c ≠ '?') t.path.toList := by
  obtain ⟨encoded, hencoded, hpath⟩ := hr.path
  obtain ⟨he, hmem, -⟩ := encoded_of_canonicalize hencoded
  rw [hpath, String.toList_ofList]
  refine canonicalPath_removeDotSegments (by decide) he ?_
  intro c hc
  rcases hmem c hc with hc | hc
  · split at hc
    · obtain rfl := List.mem_singleton.mp hc
      decide
    · refine ⟨⟨hspace c (hs.chars c (.inr (.inl hc))), ?_, ?_⟩, ?_⟩
      · rintro rfl
        exact hs.path.2 hc
      · rintro rfl
        exact hr.backslash.1 hc
      · rintro rfl
        exact hs.path.1 hc
  · exact urlChar_of_unreserved hc

/-- The query of a target, where it has one, is canonical and not empty. -/
theorem Reading.canonicalQuery {url : List Char} {parsed : SplitResult} {t : NormalizedTarget} (hr : Reading parsed t)
    (hs : SplitOf url parsed) (hspace : ∀ c ∈ url, 0x20 ≤ c.toNat) {q : String} (hq : t.query = some q) :
    q.toList ≠ [] ∧ Encoded q.toList ∧ ∀ c ∈ q.toList, UrlChar c := by
  have hquery := hr.query
  split at hquery
  · rw [hq] at hquery
    cases hquery
  · rename_i hne
    obtain ⟨out, hout, he⟩ := exceptMap_ok hquery
    obtain rfl := Option.some.inj (hq.symm.trans he)
    obtain ⟨henc, hmem, hnil⟩ := encoded_of_canonicalize hout
    rw [String.toList_ofList]
    refine ⟨fun h => hne (by rw [hnil h]; rfl), henc, fun c hc => ?_⟩
    rcases hmem c hc with hc | hc
    · refine ⟨hspace c (hs.chars c (.inr (.inr hc))), ?_, ?_⟩
      · rintro rfl
        exact hs.query hc
      · rintro rfl
        exact hr.backslash.2 hc
    · exact (urlChar_of_unreserved hc).1

/-- The URL of a target is split into its authority, path and query, out of
which the target is read. -/
theorem Reading.safeUrl (hk : DelimitersKept) {url : List Char} {parsed : SplitResult} {t : NormalizedTarget}
    (hr : Reading parsed t) (hs : SplitOf url parsed) (hspace : ∀ c ∈ url, 0x20 ≤ c.toNat) :
    (∀ c ∈ t.safeUrl.toList, 0x20 ≤ c.toNat) ∧ ∃ r, urlsplit t.safeUrl.toList = some r ∧ Reading r t := by
  obtain ⟨host, name, hhost, hname, ht⟩ := hr.host
  have hauth : AuthorityOf name t.authority.toList := by
    rw [NormalizedTarget.authority, ht]
    exact (hostText_of_reading hk hs hspace hr.userinfo hhost hname).authorityOf
  have hpath := hr.canonicalPath hs hspace
  obtain ⟨query, hquery⟩ : ∃ query, (t.query.map String.toList).getD [] = query := ⟨_, rfl⟩
  have hq : ∀ c ∈ query, UrlChar c := by
    cases htq : t.query with
    | none =>
      rw [htq] at hquery
      obtain rfl : [] = query := hquery
      exact fun c hc => (by cases hc)
    | some q =>
      rw [htq] at hquery
      exact hquery ▸ (hr.canonicalQuery hs hspace htq).2.2
  rw [safeUrl_toList hr.scheme_port.1 fun q hq => (hr.canonicalQuery hs hspace hq).1, hquery]
  have hchars : ∀ c, c ∈ t.authority.toList ∨ c ∈ t.path.toList ∨ c ∈ query → 0x20 ≤ c.toNat := by
    rintro c (hc | hc | hc)
    · exact (hauth.chars c hc).1
    · exact (hpath.chars c hc).1.1
    · exact (hq c hc).1
  refine ⟨fun c => httpsUrl_chars hchars, _, urlsplit_httpsUrl hchars ?_ ?_ ?_ ?_ hauth.brackets hauth.accepted, ?_⟩
  · intro c hc
    obtain ⟨-, hslash, hquery', hhash, -⟩ := hauth.chars c hc
    exact ⟨hslash, hquery', hhash⟩
  · obtain ⟨rest, hrest⟩ := hpath.rooted
    exact .inr (by rw [hrest]; rfl)
  · exact ⟨fun hc => (hpath.chars _ hc).2 rfl, fun hc => (hpath.chars _ hc).1.2.1 rfl⟩
  · exact fun hc => (hq _ hc).2.1 rfl
  · constructor
    · exact ⟨none, by rw [SplitResult.port, hauth.hostinfo _ rfl], rfl⟩
    · rfl
    · exact SplitResult.userinfo_none.mpr fun hc => (hauth.chars _ hc).2.2.2.2 rfl
    · rfl
    · exact ⟨name, name, hauth.hostname _ rfl, canonicalHost_canonical hname, ht⟩
    · exact ⟨fun hc => (hpath.chars _ hc).1.2.2 rfl, fun hc => (hq _ hc).2.2 rfl⟩
    · obtain ⟨rest, hrest⟩ := hpath.rooted
      have hne : t.path.toList.isEmpty = false := by rw [hrest]; rfl
      refine ⟨t.path.toList, ?_, by rw [hpath.removeDotSegments, String.ofList_toList]⟩
      rw [hne]
      exact hpath.encoded.canonicalize
    · cases htq : t.query with
      | none =>
        rw [htq] at hquery
        obtain rfl : [] = query := hquery
        rfl
      | some q =>
        rw [htq] at hquery
        obtain rfl : q.toList = query := hquery
        obtain ⟨hne, henc, -⟩ := hr.canonicalQuery hs hspace htq
        rw [if_neg (by simpa using hne), henc.canonicalize, Except.map, String.ofList_toList]
    · exact hr.scheme_port
    · exact hr.fingerprint

theorem normalizeUrl_long {url : String} (h : 8192 < url.toList.length) :
    normalizeUrl url = .error (networkBoundaryError "URL_INVALID") := by
  have hlong : (decide (8192 < url.toList.length) || url.toList.any (·.toNat < 0x20)) = true := by
    rw [decide_eq_true h, Bool.true_or]
  rw [normalizeUrl, raiseIf, if_pos hlong]
  rfl

/-- The URL of a target is read as the target, unless it is too long. -/
theorem normalizeUrl_safeUrl (hk : DelimitersKept) {url : String} {t : NormalizedTarget} (h : normalizeUrl url = .ok t) :
    normalizeUrl t.safeUrl =
      if t.safeUrl.toList.length ≤ 8192 then .ok t else .error (networkBoundaryError "URL_INVALID") := by
  obtain ⟨⟨-, hspace⟩, parsed, hparsed, hr⟩ := normalizeUrl_ok.mp h
  obtain ⟨hspace', r, hsplit, hread⟩ := hr.safeUrl hk (splitOf_urlsplit hparsed) hspace
  split
  · rename_i hlen
    exact normalizeUrl_ok.mpr ⟨⟨hlen, hspace'⟩, r, hsplit, hread⟩
  · rename_i hlen
    exact normalizeUrl_long (by omega)

end

theorem delimitersKept_ascii : @DelimitersKept asciiRuntime := by
  let := asciiRuntime
  have hnfkc : ∀ cs, nfkc cs = cs := fun cs => ite_self cs
  refine ⟨fun cs c _ hc => hc, fun d _ before after => ?_⟩
  rw [hnfkc, hnfkc, hnfkc]

theorem normalizeUrl_safeUrl_example :
    letI := asciiRuntime
    letI : Idna := ⟨none⟩
    DelimitersKept ∧ normalizeUrl "https://example.com/" = .ok exampleTarget ∧
      normalizeUrl exampleTarget.safeUrl =
        if exampleTarget.safeUrl.toList.length ≤ 8192 then .ok exampleTarget
        else .error (networkBoundaryError "URL_INVALID") := by
  let := asciiRuntime
  let _ : Idna := ⟨none⟩
  exact ⟨delimitersKept_ascii, normalizeUrl_example, normalizeUrl_safeUrl delimitersKept_ascii normalizeUrl_example⟩

/-! ## A URL without a path -/

section

variable [Runtime] [Idna]

/-- `https://h?qq…` -/
def queryUrl (n : Nat) : String := String.ofList (httpsUrl ['h'] [] (List.replicate n 'q'))

def queryTarget (n : Nat) : NormalizedTarget :=
  ⟨"HTTPS", "h", 443, "/", some (String.ofList (List.replicate n 'q')), sha256Json (Dict.ofItems [
    ("scheme", .str "HTTPS"),
    ("authority", .str "h"),
    ("path", .str "/"),
    ("query", .str (String.ofList (List.replicate n 'q')))]).toVal⟩

omit [Idna] in
theorem authority_queryTarget (n : Nat) : (queryTarget n).authority = "h" := by
  show bracketed "h" = "h"
  decide

theorem normalizeUrl_queryUrl {n : Nat} (hn : n ≠ 0) (hlen : n ≤ 8182) :
    normalizeUrl (queryUrl n) = .ok (queryTarget n) := by
  have hhost : IsHostName ['h'] := ⟨by decide, by decide⟩
  have hplain : PlainHost ['h'] := ⟨by decide, List.all_iff_forall_prop.mp (by decide)⟩
  have hauth : AuthorityOf ['h'] ['h'] := hplain.authorityOf
  have hnetloc : ∀ c ∈ ['h'], 0x20 ≤ c.toNat ∧ c ≠ '/' ∧ c ≠ '?' ∧ c ≠ '#' := List.all_iff_forall_prop.mp (by decide)
  have hq : ∀ d : Char, d ≠ 'q' → d ∉ List.replicate n 'q' := fun d hd hm => hd (List.eq_of_mem_replicate hm)
  have hchars : ∀ c, c ∈ ['h'] ∨ c ∈ [] ∨ c ∈ List.replicate n 'q' → 0x20 ≤ c.toNat := by
    rintro c (hc | hc | hc)
    · exact (hnetloc c hc).1
    · cases hc
    · rw [List.eq_of_mem_replicate hc]
      decide
  have htext : (queryUrl n).toList = httpsUrl ['h'] [] (List.replicate n 'q') := String.toList_ofList
  refine normalizeUrl_ok.mpr ⟨⟨?_, ?_⟩, ⟨"https".toList, ['h'], [], List.replicate n 'q', []⟩, ?_, ?_⟩
  · rw [htext]
    simp [httpsUrl, pathQuery, hn]
    omega
  · rw [htext]
    exact fun c => httpsUrl_chars hchars
  · rw [htext]
    exact urlsplit_httpsUrl hchars (fun c hc => (hnetloc c hc).2) (.inl rfl) ⟨by decide, by decide⟩
      (hq '#' (by decide)) hauth.brackets hauth.accepted
  · have hencoded : canonicalizePercentEncoding (List.replicate n 'q') = .ok (List.replicate n 'q') :=
      (encoded_of_not_mem (hq '%' (by decide))).canonicalize
    refine ⟨⟨none, ?_, rfl⟩, rfl, SplitResult.userinfo_none.mpr (show '@' ∉ ['h'] by decide), rfl,
      ⟨['h'], ['h'], hauth.hostname _ rfl, canonicalHost_name hhost, rfl⟩, ⟨List.not_mem_nil, hq '\\' (by decide)⟩,
      ⟨['/'], rfl, ?_⟩, ?_, ⟨rfl, rfl⟩, ?_⟩
    · rw [SplitResult.port, hauth.hostinfo _ rfl]
    · rw [removeDotSegments_root]
      rfl
    · rw [if_neg (by simpa using hn), hencoded]
      rfl
    · rw [NormalizedTarget.payload, authority_queryTarget]
      rfl

omit [Idna] in
/-- The URL of the target has a path, of one character. -/
theorem length_queryTarget {n : Nat} (hn : n ≠ 0) : (queryTarget n).safeUrl.toList.length = n + 11 := by
  have hq : ∀ q, (queryTarget n).query = some q → q.toList ≠ [] := by
    intro q hq
    rw [← Option.some.inj hq, String.toList_ofList]
    simpa using hn
  rw [safeUrl_toList rfl hq, authority_queryTarget]
  simp [queryTarget, httpsUrl, pathQuery, hn]

end

/-- The URL of an accepted target is refused: it is one character too long. -/
theorem safeUrl_refused :
    letI := asciiRuntime
    letI : Idna := ⟨none⟩
    ∃ t, normalizeUrl (queryUrl 8182) = .ok t ∧ normalizeUrl t.safeUrl = .error (networkBoundaryError "URL_INVALID") := by
  let := asciiRuntime
  let _ : Idna := ⟨none⟩
  refine ⟨_, normalizeUrl_queryUrl (by decide) (by decide), normalizeUrl_long ?_⟩
  rw [length_queryTarget (by decide)]
  decide

end Pmiri
