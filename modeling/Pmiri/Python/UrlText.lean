import Pmiri.Python.Url

/-!
# Splitting a URL and putting it together

What `urlsplit` gives, character by character, and that an `https` URL put
together from a network location, a path and a query is split into them. What
NFKC may bring into a network location is followed across `%` and `]`, which
no normalization changes and no character combines with.
-/

namespace Py

/-! ## NFKC -/

section

variable [Runtime]

/-- `unicodedata.normalize("NFKC", s)` -/
def nfkc (cs : List Char) : List Char := if isAscii cs then cs else Runtime.nfkc cs

/-- What is used of the Unicode database: no lower case brings in a colon or a
percent sign, and a percent sign or a closing bracket is neither changed by
NFKC nor combined with what stands before or after it. -/
structure DelimitersKept : Prop where
  lower_mem : ∀ cs c, c = ':' ∨ c = '%' → c ∈ Runtime.lower cs → c ∈ cs
  nfkc_append : ∀ d, d = '%' ∨ d = ']' → ∀ before after, nfkc (before ++ d :: after) = nfkc before ++ d :: nfkc after

omit [Runtime] in
theorem eq_of_lowerAscii {c d : Char} (hd : d = ':' ∨ d = '%') (h : lowerAscii c = d) : c = d := by
  have hall : ∀ k < 128, (lowerAscii (Char.ofNat k) = ':' → Char.ofNat k = ':') ∧
      (lowerAscii (Char.ofNat k) = '%' → Char.ofNat k = '%') := by decide +kernel
  by_cases hc : c.toNat < 128
  · have hk := hall c.toNat hc
    rw [Char.ofNat_toNat] at hk
    rcases hd with rfl | rfl
    · exact hk.1 h
    · exact hk.2 h
  · rw [lowerAscii, if_neg] at h
    · exact h
    · simp only [isAsciiUpper, Bool.and_eq_true, decide_eq_true_eq]
      omega

theorem DelimitersKept.mem_lower (hk : DelimitersKept) {cs : List Char} {c : Char} (hc : c = ':' ∨ c = '%')
    (h : c ∈ lower cs) : c ∈ cs := by
  rw [lower] at h
  split at h
  · obtain ⟨d, hd, he⟩ := List.mem_map.mp h
    exact eq_of_lowerAscii hc he ▸ hd
  · exact hk.lower_mem cs c hc h

theorem nfkc_of_ascii {cs : List Char} (h : isAscii cs = true) : nfkc cs = cs := if_pos h

/-! ## Network locations -/

/-- A character that NFKC may not bring into a network location. -/
def isNetlocDelimiter (c : Char) : Bool := ['/', '?', '#', '@', ':'].contains c

/-- A network location without the delimiters it may contain itself. -/
def bare (netloc : List Char) : List Char := netloc.filter fun c => !(['@', ':', '#', '?'].contains c)

omit [Runtime] in
theorem bare_append (cs ds : List Char) : bare (cs ++ ds) = bare cs ++ bare ds := List.filter_append ..

omit [Runtime] in
theorem isAscii_bare (netloc : List Char) : isAscii (bare netloc) = isAscii netloc := by
  induction netloc with
  | nil => rfl
  | cons c cs ih =>
    rw [bare, List.filter_cons]
    split
    · rw [isAscii, List.all_cons, isAscii, List.all_cons]
      exact congrArg _ ih
    · rename_i hc
      have hascii : c.toNat < 128 := by
        simp only [Bool.not_eq_true', Bool.not_eq_false, List.contains_iff_mem, List.mem_cons, List.not_mem_nil,
          or_false] at hc
        rcases hc with rfl | rfl | rfl | rfl <;> decide
      have hcons : isAscii (c :: cs) = isAscii cs := by simp [isAscii, hascii]
      rw [hcons]
      exact ih

omit [Runtime] in
theorem not_delimiter_of_mem_bare {netloc : List Char} (hslash : '/' ∉ netloc) {c : Char} (hc : c ∈ bare netloc) :
    isNetlocDelimiter c = false := by
  obtain ⟨hm, hf⟩ := List.mem_filter.mp hc
  have hne : c ≠ '/' := fun he => hslash (he ▸ hm)
  rw [← Bool.not_eq_true, isNetlocDelimiter, List.contains_iff_mem]
  simp only [Bool.not_eq_true', ← Bool.not_eq_true, List.contains_iff_mem, List.mem_cons, List.not_mem_nil, or_false,
    not_or] at hf ⊢
  exact ⟨hne, hf.2.2.2, hf.2.2.1, hf.1, hf.2.1⟩

/-- A network location without a slash is accepted exactly if NFKC brings no
delimiter into it. -/
theorem netlocOk_iff {netloc : List Char} (hslash : '/' ∉ netloc) :
    netlocOk netloc = true ↔ ∀ c ∈ nfkc (bare netloc), isNetlocDelimiter c = false := by
  by_cases ha : isAscii netloc = true
  · rw [nfkc_of_ascii (by rw [isAscii_bare, ha]), netlocOk, if_pos ha]
    exact iff_of_true rfl fun c => not_delimiter_of_mem_bare hslash
  · have hn : nfkc (bare netloc) = Runtime.nfkc (bare netloc) := if_neg (by rw [isAscii_bare]; exact ha)
    have hany : (!(Runtime.nfkc (bare netloc)).any isNetlocDelimiter) = true ↔
        ∀ c ∈ Runtime.nfkc (bare netloc), isNetlocDelimiter c = false := by
      simp [List.any_eq_false]
    have hok : netlocOk netloc = (bare netloc == Runtime.nfkc (bare netloc) ||
        !(Runtime.nfkc (bare netloc)).any isNetlocDelimiter) := by
      rw [netlocOk, if_neg ha]
      rfl
    rw [hok, hn, Bool.or_eq_true, hany, beq_iff_eq]
    refine ⟨fun h => ?_, .inr⟩
    rcases h with h | h
    · rw [← h]
      exact fun c => not_delimiter_of_mem_bare hslash
    · exact h

/-- The part of a network location from a percent sign on can stand in
brackets behind other text. -/
theorem netlocOk_of_scope (hk : DelimitersKept) {before scope after head : List Char}
    (hslash : '/' ∉ before ++ '%' :: (scope ++ after)) (hafter : after = [] ∨ after.head? = some ']')
    (hok : netlocOk (before ++ '%' :: (scope ++ after)) = true) (hhead : isAscii head = true) (hhead' : '/' ∉ head) :
    netlocOk (head ++ '%' :: (scope ++ [']'])) = true := by
  have hbare : ∀ cs ds : List Char, bare (cs ++ '%' :: ds) = bare cs ++ '%' :: bare ds := fun cs ds => bare_append cs _
  have hclose : ∀ cs : List Char, bare (scope ++ ']' :: cs) = bare scope ++ ']' :: bare cs := fun cs => bare_append scope _
  have hscope : '/' ∉ scope := fun hm => hslash (by simp [hm])
  rw [netlocOk_iff hslash, hbare, hk.nfkc_append _ (.inl rfl)] at hok
  rw [netlocOk_iff (by simp [hhead', hscope]), hbare, hk.nfkc_append _ (.inl rfl), hclose, hk.nfkc_append _ (.inr rfl),
    nfkc_of_ascii (by rw [isAscii_bare, hhead])]
  have hmem : ∀ c ∈ nfkc (bare scope), isNetlocDelimiter c = false := by
    intro c hc
    refine hok c (List.mem_append_right _ (List.mem_cons_of_mem _ ?_))
    rcases hafter with rfl | hafter
    · rw [List.append_nil]
      exact hc
    · obtain ⟨rest, rfl⟩ : ∃ rest, after = ']' :: rest := by
        cases after with
        | nil => cases hafter
        | cons c rest => exact ⟨rest, by simpa using hafter⟩
      rw [hclose, hk.nfkc_append _ (.inr rfl)]
      exact List.mem_append_left _ hc
  intro c hc
  simp only [List.mem_append, List.mem_cons] at hc
  rcases hc with hc | rfl | hc | rfl | hc
  · exact not_delimiter_of_mem_bare hhead' hc
  · rfl
  · exact hmem c hc
  · rfl
  · cases hc

/-! ## Splitting -/

/-- What `urlsplit` gives. -/
structure SplitOf (url : List Char) (r : SplitResult) : Prop where
  chars : ∀ c, c ∈ r.netloc ∨ c ∈ r.path ∨ c ∈ r.query → c ∈ url
  netloc : ∀ c ∈ r.netloc, c ≠ '/' ∧ c ≠ '?' ∧ c ≠ '#'
  path : '?' ∉ r.path ∧ '#' ∉ r.path
  query : '#' ∉ r.query
  rooted : r.netloc ≠ [] → r.path = [] ∨ r.path.head? = some '/'
  netlocOk : netlocOk r.netloc = true

omit [Runtime] in
theorem mem_of_partition {sep c : Char} {cs : List Char} (h : c ∈ (partition sep cs).1 ∨ c ∈ (partition sep cs).2.1) :
    c ∈ cs := by
  rcases partition_cases sep cs with ⟨-, hp⟩ | ⟨before, after, -, rfl, hp⟩
  · rw [hp] at h
    exact h.resolve_right List.not_mem_nil
  · rw [hp] at h
    rcases h with h | h
    · exact List.mem_append_left _ h
    · exact List.mem_append_right _ (List.mem_cons_of_mem _ h)

omit [Runtime] in
theorem not_mem_partition (sep : Char) (cs : List Char) : sep ∉ (partition sep cs).1 := by
  rcases partition_cases sep cs with ⟨h, hp⟩ | ⟨before, after, h, -, hp⟩
  · rw [hp]
    exact h
  · rw [hp]
    exact h

omit [Runtime] in
/-- A network location and what follows it. -/
theorem splitNetloc_ok {cs netloc rest : List Char} (h : splitNetloc cs = (netloc, rest)) :
    (∀ c, c ∈ netloc ∨ c ∈ rest → c ∈ cs) ∧ (∀ c ∈ netloc, c ≠ '/' ∧ c ≠ '?' ∧ c ≠ '#') ∧
      (rest = [] ∨ rest.head? = some '/' ∨ rest.head? = some '?' ∨ rest.head? = some '#') := by
  obtain ⟨rfl, rfl⟩ := Prod.mk.inj h
  refine ⟨fun c hc => ?_, fun c hc => ?_, ?_⟩
  · rcases hc with hc | hc
    · exact (List.takeWhile_sublist _).subset hc
    · exact (List.dropWhile_sublist _).subset hc
  · have hall := List.all_eq_true.mp List.all_takeWhile c hc
    simpa [not_or] using hall
  · rcases hd : cs.dropWhile (fun c => !(['/', '?', '#'].contains c)) with _ | ⟨c, rest⟩
    · exact .inl rfl
    · have hc : (!(['/', '?', '#'].contains c)) = false := by
        have hhead := List.head?_dropWhile_not (fun c => !(['/', '?', '#'].contains c)) cs
        rw [hd] at hhead
        exact hhead
      rw [Bool.not_eq_false', List.contains_iff_mem] at hc
      simp only [List.mem_cons, List.not_mem_nil, or_false] at hc
      rcases hc with rfl | rfl | rfl
      · exact .inr (.inl rfl)
      · exact .inr (.inr (.inl rfl))
      · exact .inr (.inr (.inr rfl))

theorem splitOf_urlsplit {url : List Char} {r : SplitResult} (h : urlsplit url = some r) : SplitOf url r := by
  unfold urlsplit at h
  extract_lets text at h
  have htext : ∀ c ∈ text, c ∈ url := fun c hc =>
    (List.dropWhile_sublist _).subset (List.mem_of_mem_filter hc)
  split at h
  rename_i scheme rest hscheme
  have hrest : ∀ c ∈ rest, c ∈ url := by
    intro c hc
    split at hscheme
    · rename_i s tail hp
      split at hscheme
      · obtain ⟨-, rfl⟩ := Prod.mk.inj hscheme
        have hm : c ∈ (partition ':' text).2.1 := by
          rw [hp]
          exact hc
        exact htext c (mem_of_partition (.inr hm))
      · obtain ⟨-, rfl⟩ := Prod.mk.inj hscheme
        exact htext c hc
    · obtain ⟨-, rfl⟩ := Prod.mk.inj hscheme
      exact htext c hc
  split at h
  rename_i netloc tail hnetloc
  extract_lets openBr closeBr host at h
  split at h
  · cases h
  have hsplit : (∀ c, c ∈ netloc ∨ c ∈ tail → c ∈ rest) ∧ (∀ c ∈ netloc, c ≠ '/' ∧ c ≠ '?' ∧ c ≠ '#') ∧
      (netloc ≠ [] → tail = [] ∨ tail.head? = some '/' ∨ tail.head? = some '?' ∨ tail.head? = some '#') := by
    split at hnetloc
    · obtain ⟨hmem, hnet, hhead⟩ := splitNetloc_ok hnetloc
      exact ⟨fun c hc => List.drop_subset _ _ (hmem c hc), hnet, fun _ => hhead⟩
    · obtain ⟨rfl, rfl⟩ := Prod.mk.inj hnetloc
      exact ⟨fun c hc => hc.resolve_left List.not_mem_nil, fun c hc => (by cases hc), fun hne => absurd rfl hne⟩
  obtain ⟨hmem, hnet, hhead⟩ := hsplit
  split at h
  rename_i upTo fragment _ hfragment
  split at h
  rename_i path query _ hquery
  split at h
  · rename_i hok
    obtain rfl := Option.some.inj h
    have hupTo : upTo = (partition '#' tail).1 := by rw [hfragment]
    have hpath : path = (partition '?' upTo).1 := by rw [hquery]
    have hquery' : query = (partition '?' upTo).2.1 := by rw [hquery]
    have hfrag : '#' ∉ upTo := hupTo ▸ not_mem_partition '#' tail
    refine ⟨?_, hnet, ⟨hpath ▸ not_mem_partition '?' upTo, ?_⟩, ?_, ?_, hok⟩
    · intro c hc
      refine hrest c (hmem c ?_)
      rcases hc with hc | hc | hc
      · exact .inl hc
      · exact .inr (mem_of_partition (.inl (hupTo ▸ mem_of_partition (.inl (hpath ▸ hc)))))
      · exact .inr (mem_of_partition (.inl (hupTo ▸ mem_of_partition (.inr (hquery' ▸ hc)))))
    · exact fun hc => hfrag (mem_of_partition (.inl (hpath ▸ hc)))
    · exact fun hc => hfrag (mem_of_partition (.inr (hquery' ▸ hc)))
    · intro hne
      show path = [] ∨ path.head? = some '/'
      rw [hpath, hupTo]
      rcases tail with _ | ⟨c, tail⟩
      · exact .inl rfl
      · have hc : c = '/' ∨ c = '?' ∨ c = '#' := by simpa using hhead hne
        rcases hc with rfl | rfl | rfl
        · exact .inr (by simp [partition])
        · exact .inl (by simp [partition])
        · exact .inl (by simp [partition])
  · cases h

/-! ## Putting together -/

/-- What follows the network location in a URL without a fragment. -/
def pathQuery (path query : List Char) : List Char := path ++ (if query = [] then [] else '?' :: query)

/-- An `https` URL. -/
def httpsUrl (netloc path query : List Char) : List Char :=
  "https".toList ++ ':' :: '/' :: '/' :: (netloc ++ pathQuery path query)

/-- Brackets stand around a literal address. -/
def Bracketed (netloc : List Char) : Prop :=
  netloc.contains '[' = netloc.contains ']' ∧
    (netloc.contains '[' = true → bracketedHostOk (partition ']' (partition '[' netloc).2.1).1 = true)

omit [Runtime] in
theorem mem_pathQuery {path query : List Char} {c : Char} (h : c ∈ pathQuery path query) :
    c ∈ path ∨ c = '?' ∨ c ∈ query := by
  rw [pathQuery, List.mem_append] at h
  refine h.imp_right fun h => ?_
  split at h
  · cases h
  · exact List.mem_cons.mp h

omit [Runtime] in
theorem partition_pathQuery {path query : List Char} (h : '?' ∉ path) :
    (partition '?' (pathQuery path query)).1 = path ∧ (partition '?' (pathQuery path query)).2.1 = query := by
  rw [pathQuery]
  split
  · rename_i hq
    rw [List.append_nil, partition_self h, hq]
    exact ⟨rfl, rfl⟩
  · rw [partition_append h]
    exact ⟨rfl, rfl⟩

omit [Runtime] in
theorem splitNetloc_append {netloc rest : List Char} (h : ∀ c ∈ netloc, c ≠ '/' ∧ c ≠ '?' ∧ c ≠ '#')
    (hr : rest = [] ∨ rest.head? = some '/' ∨ rest.head? = some '?') :
    splitNetloc (netloc ++ rest) = (netloc, rest) := by
  have hall : ∀ c ∈ netloc, (!(['/', '?', '#'].contains c)) = true := by
    intro c hc
    simpa [not_or] using h c hc
  rw [splitNetloc, List.takeWhile_append_of_pos hall, List.dropWhile_append_of_pos hall]
  rcases rest with _ | ⟨c, rest⟩
  · simp
  · have hc : c = '/' ∨ c = '?' := by simpa using hr
    rcases hc with rfl | rfl <;> simp

omit [Runtime] in
theorem httpsUrl_chars {netloc path query : List Char}
    (hchars : ∀ c, c ∈ netloc ∨ c ∈ path ∨ c ∈ query → 0x20 ≤ c.toNat) {c : Char} (hc : c ∈ httpsUrl netloc path query) :
    0x20 ≤ c.toNat := by
  simp only [httpsUrl, List.mem_append, List.mem_cons] at hc
  rcases hc with hc | rfl | rfl | rfl | hc | hc
  · have hall : ∀ c ∈ "https".toList, 0x20 ≤ c.toNat := List.all_iff_forall_prop.mp (by decide)
    exact hall c hc
  · decide
  · decide
  · decide
  · exact hchars c (.inl hc)
  · rcases mem_pathQuery hc with hc | rfl | hc
    · exact hchars c (.inr (.inl hc))
    · decide
    · exact hchars c (.inr (.inr hc))

/-- A URL is split into what it was put together from. -/
theorem urlsplit_httpsUrl {netloc path query : List Char}
    (hchars : ∀ c, c ∈ netloc ∨ c ∈ path ∨ c ∈ query → 0x20 ≤ c.toNat)
    (hnet : ∀ c ∈ netloc, c ≠ '/' ∧ c ≠ '?' ∧ c ≠ '#') (hroot : path = [] ∨ path.head? = some '/')
    (hpath : '?' ∉ path ∧ '#' ∉ path) (hquery : '#' ∉ query) (hbr : Bracketed netloc) (hok : netlocOk netloc = true) :
    urlsplit (httpsUrl netloc path query) = some ⟨"https".toList, netloc, path, query, []⟩ := by
  have htail : pathQuery path query = [] ∨ (pathQuery path query).head? = some '/' ∨
      (pathQuery path query).head? = some '?' := by
    rcases hroot with rfl | hroot
    · rw [pathQuery]
      split
      · exact .inl rfl
      · exact .inr (.inr rfl)
    · rw [pathQuery, List.head?_append, hroot]
      exact .inr (.inl rfl)
  have htext : (lstrip (fun c => c.toNat ≤ 32) (httpsUrl netloc path query)).filter
      (fun c => c != '\t' && c != '\r' && c != '\n') = httpsUrl netloc path query := by
    have hstrip : lstrip (fun c => c.toNat ≤ 32) (httpsUrl netloc path query) = httpsUrl netloc path query := by
      simp [lstrip, httpsUrl]
    rw [hstrip, List.filter_eq_self]
    intro c hc
    have hspace := httpsUrl_chars hchars hc
    have hne : ∀ d : Char, d.toNat < 0x20 → (c != d) = true := by
      intro d hd
      rw [bne_iff_ne]
      rintro rfl
      omega
    rw [hne _ (by decide), hne _ (by decide), hne _ (by decide)]
    rfl
  have hcolon : partition ':' (httpsUrl netloc path query) =
      ("https".toList, '/' :: '/' :: (netloc ++ pathQuery path query), true) := partition_append (by decide) _
  have hhash : partition '#' (pathQuery path query) = (pathQuery path query, [], false) := by
    refine partition_self fun hc => ?_
    rcases mem_pathQuery hc with hc | hc | hc
    · exact hpath.2 hc
    · cases hc
    · exact hquery hc
  have hbr' : (netloc.contains '[' != netloc.contains ']' || (netloc.contains '[' && netloc.contains ']' &&
      !bracketedHostOk (partition ']' (partition '[' netloc).2.1).1)) = false := by
    rw [← hbr.1]
    cases ho : netloc.contains '['
    · rfl
    · rw [hbr.2 ho]
      rfl
  have hscheme : (("https".toList.head?.map isAsciiAlpha).getD false && "https".toList.all isSchemeChar) = true := by
    decide
  have hslashes : (('/' :: '/' :: (netloc ++ pathQuery path query)).take 2 == ['/', '/']) = true := by simp
  have hdrop : ('/' :: '/' :: (netloc ++ pathQuery path query)).drop 2 = netloc ++ pathQuery path query := rfl
  unfold urlsplit
  rw [htext]
  simp only [hcolon, hscheme, ↓reduceIte, hslashes, hdrop, splitNetloc_append hnet htail, hbr', hhash, hok,
    Bool.false_eq_true, partition_pathQuery hpath.1]
  rfl

end

/-! ## Hosts -/

theorem rpartition_self {sep : Char} {cs : List Char} (h : sep ∉ cs) : rpartition sep cs = ([], cs, false) := by
  rw [rpartition, partition_self (by simpa using h)]
  simp

namespace SplitResult

variable {r : SplitResult}

/-- Without user information there is no `@`. -/
theorem userinfo_none : r.userinfo = (none, none) ↔ '@' ∉ r.netloc := by
  constructor
  · intro h hat
    rw [userinfo, rpartition] at h
    rcases partition_cases '@' r.netloc.reverse with ⟨hnot, -⟩ | ⟨before, after, -, -, hp⟩
    · exact hnot (List.mem_reverse.mpr hat)
    · rw [hp] at h
      rcases partition_cases ':' after.reverse with ⟨-, hq⟩ | ⟨user, password, -, -, hq⟩
      · simp [hq] at h
      · simp [hq] at h
  · intro h
    rw [userinfo, rpartition_self h]

/-- The host is what stands in the brackets, or what stands before a colon. -/
theorem hostinfo_host (h : '@' ∉ r.netloc) :
    ('[' ∉ r.netloc ∧ ':' ∉ r.hostinfo.1) ∨
      ∃ before after, r.netloc = before ++ '[' :: (r.hostinfo.1 ++ after) ∧ ']' ∉ r.hostinfo.1 ∧
        (after = [] ∨ after.head? = some ']') := by
  simp only [hostinfo, rpartition_self h]
  rcases partition_cases '[' r.netloc with ⟨hnot, hp⟩ | ⟨before, inner, -, hnet, hp⟩
  · rw [hp]
    exact .inl ⟨hnot, not_mem_partition ':' r.netloc⟩
  · simp only [hp]
    rw [hnet]
    refine .inr ⟨before, ?_⟩
    rcases partition_cases ']' inner with ⟨hnot', hq⟩ | ⟨host, after, hnot', rfl, hq⟩
    · rw [hq]
      exact ⟨[], by simp, hnot', .inl rfl⟩
    · rw [hq]
      exact ⟨']' :: after, rfl, hnot', .inr rfl⟩

theorem hostinfo_plain (h : ∀ c ∈ r.netloc, c ≠ '@' ∧ c ≠ '[' ∧ c ≠ ':') : r.hostinfo = (r.netloc, none) := by
  rw [hostinfo, rpartition_self fun hc => (h _ hc).1 rfl]
  simp only [partition_self fun hc => (h _ hc).2.1 rfl, partition_self fun hc => (h _ hc).2.2 rfl]
  rfl

theorem hostinfo_bracketed {host : List Char} (hnet : r.netloc = '[' :: (host ++ [']'])) (hat : '@' ∉ host)
    (hclose : ']' ∉ host) : r.hostinfo = (host, none) := by
  have hopen : partition '[' r.netloc = ([], host ++ [']'], true) := by
    rw [hnet]
    rfl
  rw [hostinfo, rpartition_self (by simp [hnet, hat])]
  simp only [hopen, partition_append hclose]
  rfl

end SplitResult

end Py
