import Pmiri.Crypto.BlobCipher

/-!
# Key references

The reference under which a cipher asks its provider for a key
(`storage_crypto.py`), and the key domains that `DpapiKeyProvider` accepts
(`privacy.py`). The reference joins the domain and the version with a character
that both may have in them, and its limit is one character too short.
-/

namespace Pmiri

open Py

/-! ## Key domains -/

/-- What the Unicode database says of a character that is not ASCII. -/
class CharacterCases where
  upper : Char → Bool
  digit : Char → Bool

/-- For text that is ASCII. -/
@[reducible] def asciiCases : CharacterCases where
  upper _ := false
  digit _ := false

section

variable [CharacterCases]

/-- `ch.isupper()` -/
def isUpper (c : Char) : Bool := if c.toNat < 128 then isAsciiUpper c else CharacterCases.upper c

/-- `ch.isdigit()` -/
def isDigit (c : Char) : Bool := if c.toNat < 128 then isAsciiDigit c else CharacterCases.digit c

/-- `_valid_domain` -/
def validDomain (domainId : String) : Bool :=
  decide (1 ≤ domainId.length ∧ domainId.length ≤ 64) &&
    domainId.toList.all fun ch => isUpper ch || isDigit ch || ch == '_' || ch == '-'

end

/-- `KeyManagementError` -/
structure KeyManagementError where
  message : String
deriving DecidableEq

structure DpapiKeyProvider where
  root : String

/-- `DpapiKeyProvider._path` -/
def DpapiKeyProvider.path [Runtime] [CharacterCases] (p : DpapiKeyProvider) (domainId : String) :
    Except KeyManagementError String :=
  if !validDomain domainId then .error ⟨"key_domain_invalid"⟩
  else
    let digest := sha256Json (Dict.ofItems [("domain", .str domainId)]).toVal
    .ok (p.root ++ "/" ++ "dpapi-" ++ String.ofList (digest.toList.take 32) ++ ".json")

theorem DpapiKeyProvider.path_ok [Runtime] [CharacterCases] (p : DpapiKeyProvider) (domainId : String) :
    (∃ path, p.path domainId = .ok path) ↔ validDomain domainId = true := by
  rw [DpapiKeyProvider.path]
  cases validDomain domainId <;> simp

/-! ## Key names -/

/-- A key domain and a key version that a cipher accepts. -/
structure KeyName where
  domainId : String
  version : String
  isKeyDomain : isKeyDomain domainId = true
  isKeyVersion : isKeyVersion version = true

namespace KeyName

/-- The reference to the key. -/
def ref (k : KeyName) : String := AesGcmBlobCipher.keyRef k.domainId k.version

@[ext] theorem ext {k k' : KeyName} (hd : k.domainId = k'.domainId) (hv : k.version = k'.version) : k = k' := by
  obtain ⟨d, v, _, _⟩ := k
  obtain ⟨d', v', _, _⟩ := k'
  obtain rfl : d = d' := hd
  obtain rfl : v = v' := hv
  rfl

end KeyName

namespace AesGcmBlobCipher

/-- The names are those that a new cipher is configured with. -/
theorem create_iff (keyProvider : String → Except Exc ByteArray) (keyEscrow : Bool) (domainId version : String) :
    (∃ c, create keyProvider keyEscrow domainId version none = .ok c) ↔
      ∃ k : KeyName, k.domainId = domainId ∧ k.version = version := by
  constructor
  · rintro ⟨c, h⟩
    obtain ⟨hversion, h⟩ := seq_ok.mp h
    obtain ⟨-, h⟩ := seq_ok.mp h
    obtain ⟨hdomain, -⟩ := seq_ok.mp h
    simp only [validateVersion, raiseIf_ok, Bool.not_eq_false'] at hversion hdomain
    exact ⟨⟨domainId, version, hdomain, hversion⟩, rfl, rfl⟩
  · rintro ⟨k, rfl, rfl⟩
    have hversion : validateVersion k.version = .ok () := by simp [validateVersion, raiseIf, k.isKeyVersion]
    refine ⟨⟨keyProvider, keyEscrow, k.domainId, k.version, {k.version}⟩, ?_⟩
    simp [create, hversion, forEach, raiseIf, k.isKeyDomain]

/-- The domain and the versions of a cipher make names. -/
def Named (c : AesGcmBlobCipher) : Prop :=
  ∀ version ∈ c.acceptedKeyVersions, ∃ k : KeyName, k.domainId = c.domainId ∧ k.version = version

theorem named_create {keyProvider : String → Except Exc ByteArray} {keyEscrow : Bool} {domainId currentKeyVersion : String}
    {acceptedKeyVersions : Option (List String)} {c : AesGcmBlobCipher}
    (h : create keyProvider keyEscrow domainId currentKeyVersion acceptedKeyVersions = .ok c) : c.Named := by
  obtain ⟨-, hdomain, hversions⟩ := create_ok h
  exact fun version hv => ⟨⟨c.domainId, version, hdomain, hversions version hv⟩, rfl, rfl⟩

theorem named_rotate {c : AesGcmBlobCipher} (h : c.Named) (hcurrent : c.currentKeyVersion ∈ c.acceptedKeyVersions)
    (newKeyVersion : String) (escrowed : Except Exc Unit) : (c.rotate newKeyVersion escrowed).2.Named := by
  rcases c.rotate_cases newKeyVersion escrowed with ⟨e, he⟩ | ⟨hversion, hok⟩
  · rw [he]
    exact h
  · rw [hok]
    intro version hv
    rcases Finset.mem_insert.mp hv with rfl | hv
    · obtain ⟨k, hk, -⟩ := h _ hcurrent
      exact ⟨⟨c.domainId, version, hk ▸ k.isKeyDomain, hversion⟩, rfl, rfl⟩
    · exact h version hv

/-- Every version that a cipher accepts after some rotations makes a name in its domain. -/
theorem named_run {keyProvider : String → Except Exc ByteArray} {keyEscrow : Bool} {domainId currentKeyVersion : String}
    {acceptedKeyVersions : Option (List String)} {c : AesGcmBlobCipher}
    (h : create keyProvider keyEscrow domainId currentKeyVersion acceptedKeyVersions = .ok c) (calls : List Call) :
    (Machine.run step c calls).Named := by
  let inv (c : AesGcmBlobCipher) : Prop := c.Named ∧ c.currentKeyVersion ∈ c.acceptedKeyVersions
  have hstep (c : AesGcmBlobCipher) (call : Call) (hc : inv c) : True → inv (step c call) := by
    intro _
    cases call with
    | rotate newKeyVersion escrowed =>
      exact ⟨named_rotate hc.1 hc.2 newKeyVersion escrowed, (later_rotate hc.2 newKeyVersion escrowed).current⟩
    | encrypt fingerprint plaintext nonce => exact hc
  have hcreated : inv c := ⟨named_create h, (create_ok h).1⟩
  have hall : Machine.Along step (fun _ _ => True) c calls := Machine.along_of_forall step fun _ _ => trivial
  exact (Machine.run_invariant step inv hstep hcreated hall).1

end AesGcmBlobCipher

namespace KeyName

section

variable [CharacterCases]

theorem validChar_of_isKeyChar {c : Char} (h : isKeyChar c = true) : (isUpper c || isDigit c || c == '_' || c == '-') = true := by
  simp only [isKeyChar, Bool.or_eq_true] at h ⊢
  rcases h with ((h | h) | h) | h
  · have hascii : c.toNat < 128 := by
      simp only [isAsciiUpper, Bool.and_eq_true, decide_eq_true_eq] at h
      omega
    rw [isUpper, if_pos hascii]
    exact .inl (.inl (.inl h))
  · have hascii : c.toNat < 128 := by
      simp only [isAsciiDigit, Bool.and_eq_true, decide_eq_true_eq] at h
      omega
    rw [isDigit, if_pos hascii]
    exact .inl (.inl (.inr h))
  · exact .inl (.inr h)
  · exact .inr h

omit [CharacterCases] in
/-- What a key domain and a key version are made of. -/
theorem keyChars (k : KeyName) :
    (∀ c ∈ k.domainId.toList, isKeyChar c = true) ∧ (∀ c ∈ k.version.toList, isKeyChar c = true) ∧
      1 ≤ k.domainId.length ∧ 1 ≤ k.version.length := by
  have hd := k.isKeyDomain
  have hv := k.isKeyVersion
  rw [Pmiri.isKeyDomain] at hd
  rw [Pmiri.isKeyVersion] at hv
  rw [← String.length_toList, ← String.length_toList]
  cases hd' : k.domainId.toList with
  | nil => simp [hd'] at hd
  | cons c cs =>
    cases hv' : k.version.toList with
    | nil => simp [hv'] at hv
    | cons c' cs' =>
      simp only [hd', hv', Bool.and_eq_true, List.all_eq_true] at hd hv
      refine ⟨?_, ?_, by simp, by simp⟩
      · rintro x (_ | ⟨_, hx⟩)
        · simp [isKeyChar, hd.1.1]
        · exact hd.1.2 x hx
      · rintro x (_ | ⟨_, hx⟩)
        · simp [isKeyChar, hv.1.1]
        · exact hv.1.2 x hx

omit [CharacterCases] in
theorem toList_ref (k : KeyName) : k.ref.toList = k.domainId.toList ++ '_' :: k.version.toList := by
  simp [ref, AesGcmBlobCipher.keyRef]

omit [CharacterCases] in
theorem length_ref (k : KeyName) : k.ref.length = k.domainId.length + k.version.length + 1 := by
  rw [← String.length_toList, toList_ref, ← String.length_toList, ← String.length_toList]
  simp only [List.length_append, List.length_cons]
  omega

/-- A reference is a key domain if it is not too long. -/
theorem validDomain_ref (k : KeyName) : validDomain k.ref = true ↔ k.domainId.length + k.version.length ≤ 63 := by
  obtain ⟨hd, hv, -, -⟩ := k.keyChars
  have hall : (k.ref.toList.all fun ch => isUpper ch || isDigit ch || ch == '_' || ch == '-') = true := by
    rw [List.all_eq_true, toList_ref]
    intro c hc
    rcases List.mem_append.mp hc with hc | hc
    · exact validChar_of_isKeyChar (hd c hc)
    · rcases List.mem_cons.mp hc with rfl | hc
      · exact validChar_of_isKeyChar rfl
      · exact validChar_of_isKeyChar (hv c hc)
  rw [validDomain, hall, Bool.and_true, decide_eq_true_eq, length_ref]
  omega

end

/-- The second name's domain goes on into the first one's version. -/
def RunsInto (k k' : KeyName) : Prop :=
  ∃ w, k'.domainId = k.domainId ++ "_" ++ w ∧ k.version = w ++ "_" ++ k'.version

theorem eq_or_runsInto {k k' : KeyName} {w : List Char} (hd : k'.domainId.toList = k.domainId.toList ++ w)
    (hv : '_' :: k.version.toList = w ++ '_' :: k'.version.toList) : k = k' ∨ k.RunsInto k' := by
  cases w with
  | nil =>
    left
    rw [List.append_nil] at hd
    rw [List.nil_append, List.cons_inj_right] at hv
    exact KeyName.ext (String.toList_inj.mp hd.symm) (String.toList_inj.mp hv)
  | cons c w =>
    right
    rw [List.cons_append, List.cons.injEq] at hv
    obtain ⟨rfl, hv⟩ := hv
    refine ⟨String.ofList w, String.toList_inj.mp ?_, String.toList_inj.mp ?_⟩
    · simpa using hd
    · simpa using hv

/-- Two references are one only if the names are, or one runs into the other. -/
theorem ref_eq_iff (k k' : KeyName) : k.ref = k'.ref ↔ k = k' ∨ k.RunsInto k' ∨ k'.RunsInto k := by
  constructor
  · intro h
    rw [← String.toList_inj, toList_ref, toList_ref, List.append_eq_append_iff] at h
    rcases h with ⟨w, hd, hv⟩ | ⟨w, hd, hv⟩
    · exact (eq_or_runsInto hd hv).imp_right .inl
    · rcases eq_or_runsInto hd hv with rfl | hruns
      · exact .inl rfl
      · exact .inr (.inr hruns)
  · rintro (rfl | ⟨w, hd, hv⟩ | ⟨w, hd, hv⟩)
    · rfl
    · simp only [ref, AesGcmBlobCipher.keyRef, hd, hv, String.append_assoc]
    · simp only [ref, AesGcmBlobCipher.keyRef, hd, hv, String.append_assoc]

/-- A version without `_` runs out of no domain, so its references are its own. -/
theorem not_runsInto {k : KeyName} (h : '_' ∉ k.version.toList) (k' : KeyName) : ¬ k.RunsInto k' := by
  rintro ⟨w, -, hv⟩
  apply h
  rw [hv]
  simp

/-- The references of one domain are told apart by their versions. -/
theorem eq_of_domainId {k k' : KeyName} (hd : k.domainId = k'.domainId) (h : k.ref = k'.ref) : k = k' := by
  have hlist : k.ref.toList = k'.ref.toList := by rw [h]
  rw [toList_ref, toList_ref, hd, List.append_cancel_left_eq, List.cons_inj_right] at hlist
  exact KeyName.ext hd (String.toList_inj.mp hlist)

theorem ne_of_runsInto {k k' : KeyName} (h : k.RunsInto k') : k ≠ k' := by
  rintro rfl
  obtain ⟨w, hd, -⟩ := h
  have hlength := congrArg String.length hd
  simp only [String.length_append] at hlength
  have : "_".length = 1 := rfl
  omega

/-- The provider takes the references of two names, and tells them apart, exactly when neither is too long and neither
runs into the other. -/
theorem separate_iff [Runtime] [CharacterCases] (provider : DpapiKeyProvider) (k k' : KeyName) :
    ((∃ path, provider.path k.ref = .ok path) ∧ (∃ path, provider.path k'.ref = .ok path) ∧ (k ≠ k' → k.ref ≠ k'.ref)) ↔
      k.domainId.length + k.version.length ≤ 63 ∧ k'.domainId.length + k'.version.length ≤ 63 ∧
        ¬ k.RunsInto k' ∧ ¬ k'.RunsInto k := by
  have hapart : (k ≠ k' → k.ref ≠ k'.ref) ↔ ¬ k.RunsInto k' ∧ ¬ k'.RunsInto k := by
    constructor
    · intro h
      exact ⟨fun hr => h (ne_of_runsInto hr) ((ref_eq_iff k k').mpr (.inr (.inl hr))),
        fun hr => h (ne_of_runsInto hr).symm ((ref_eq_iff k k').mpr (.inr (.inr hr)))⟩
    · rintro ⟨h, h'⟩ hne href
      rcases (ref_eq_iff k k').mp href with heq | hr | hr
      · exact hne heq
      · exact h hr
      · exact h' hr
  rw [provider.path_ok, provider.path_ok, validDomain_ref, validDomain_ref, hapart]

end KeyName

/-! The longest domain with the longest version, and two names with one reference. -/

def longestName : KeyName := ⟨String.ofList (List.replicate 48 'A'), String.ofList (List.replicate 16 'V'), rfl, rfl⟩

def innerName : KeyName := ⟨"STORE", "BLOB_V1", rfl, rfl⟩

def outerName : KeyName := ⟨"STORE_BLOB", "V1", rfl, rfl⟩

theorem references_clash :
    letI := asciiRuntime
    letI := asciiCases
    DpapiKeyProvider.path ⟨"/keys"⟩ longestName.ref = .error ⟨"key_domain_invalid"⟩ ∧
      innerName ≠ outerName ∧ innerName.ref = outerName.ref := by
  let := asciiRuntime
  let := asciiCases
  refine ⟨?_, ?_, rfl⟩
  · have hlong : validDomain longestName.ref = false := rfl
    simp [DpapiKeyProvider.path, hlong]
  · intro h
    have : innerName.domainId = outerName.domainId := by rw [h]
    exact absurd this (by decide)

end Pmiri
