import Pmiri.Python.Text
import Pmiri.Python.Isoformat
import Pmiri.Python.Json

/-!
# Canonical serialization and fingerprints

`canonical.py`: fingerprints are SHA-256 over UTF-8 JSON with sorted keys and
compact separators, written as 64 lower-case hexadecimal digits; source text
is strict UTF-8 with line endings normalized to LF.
-/

namespace Pmiri

open Py

section Fingerprints

variable [Runtime]

def canonicalJson (value : Val) : ByteArray := value.json.toUTF8

def sha256Bytes (value : ByteArray) : String := Runtime.sha256 value

def sha256Json (value : Val) : String := sha256Bytes (canonicalJson value)

theorem sha256Json_sortKeys (v : Val) : sha256Json v.sortKeys = sha256Json v := by
  rw [sha256Json, canonicalJson, Val.json_sortKeys, sha256Json, canonicalJson]

/-- `f"{kind}://{sha256_json(value)[:32]}"` -/
def ref (kind : String) (value : Val) : String :=
  kind ++ "://" ++ String.ofList ((sha256Json value).toList.take 32)

end Fingerprints

def isSha256 : Val → Bool
  | .str s => isHex 64 s
  | _ => false

theorem isSha256_sortKeys (v : Val) : isSha256 v.sortKeys = isSha256 v := by
  cases v <;> simp [Val.sortKeys, isSha256]

@[simp] theorem isSha256_sha256Bytes [Runtime] (b : ByteArray) : isSha256 (.str (sha256Bytes b)) = true :=
  Runtime.sha256_hex b

@[simp] theorem isSha256_sha256Json [Runtime] (v : Val) : isSha256 (.str (sha256Json v)) = true :=
  isSha256_sha256Bytes _

theorem isSha256_str {v : Val} (h : isSha256 v = true) : ∃ s, v = .str s ∧ isHex 64 s = true := by
  cases v with
  | str s => exact ⟨s, rfl, h⟩
  | _ => cases h

/-- A value that equals a fingerprint is that fingerprint. -/
theorem eq_of_isSha256 {v w : Val} (hw : isSha256 w = true) (h : v.eq w = true) : v = w := by
  obtain ⟨s, rfl, -⟩ := isSha256_str hw
  exact Val.eq_str.mp h

/-- A fingerprint is not empty. -/
theorem isSha256_truthy {v : Val} (h : isSha256 v = true) : v.truthy = true := by
  obtain ⟨s, rfl, hs⟩ := isSha256_str h
  rw [Val.truthy, bne_iff_ne]
  rintro rfl
  exact absurd hs (by decide)

/-- A reference is not empty. -/
theorem ref_ne_empty [Runtime] {kind : String} (h : kind ≠ "") (v : Val) : ref kind v ≠ "" := by
  intro e
  have := congrArg String.toList e
  rw [ref, String.toList_append, String.toList_append] at this
  simp [h] at this

/-! ## Times -/

/-- `value[:-1] + "+00:00" if value.endswith("Z") else value` -/
def expandZ (value : String) : String :=
  let cs := value.toList
  if cs.getLast? = some 'Z' then String.ofList (cs.dropLast ++ "+00:00".toList) else value

/-- `utc_now()` when the clock shows `clock`; the offset `+00:00` is written `Z`. -/
def utcNow (clock : Instant) : String := String.ofList (isoText clock.seconds ++ ['Z'])

/-- `time or utc_now()`, with what `utc_now()` gives. -/
def nowOr (time : Option String) (utcNow : String) : String :=
  match time with
  | some s => if s = "" then utcNow else s
  | none => utcNow

/-- `time or utc_now()` when the clock shows `clock`. -/
def orNow (time : Option String) (clock : Instant) : String := nowOr time (utcNow clock)

theorem nowOr_some {s : String} (h : s ≠ "") (utcNow : String) : nowOr (some s) utcNow = s := if_neg h

theorem nowOr_ne_empty {utcNow : String} (h : utcNow ≠ "") (time : Option String) : nowOr time utcNow ≠ "" := by
  unfold nowOr
  split
  · split
    · exact h
    · assumption
  · exact h

theorem utcNow_ne_empty (clock : Instant) : utcNow clock ≠ "" := by
  intro e
  have := congrArg String.toList e
  simp [utcNow] at this

theorem orNow_ne_empty (time : Option String) (clock : Instant) : orNow time clock ≠ "" :=
  nowOr_ne_empty (utcNow_ne_empty clock) time

theorem expandZ_utcNow (clock : Instant) : expandZ (utcNow clock) = String.ofList (isoText clock.seconds ++ "+00:00".toList) := by
  simp [expandZ, utcNow]

/-! ## Source text -/

/-- `text.replace("\r\n", "\n").replace("\r", "\n")`; `afterCr` when the
character before was a carriage return, which takes a line feed after it along. -/
def unifyFrom (afterCr : Bool) : List Char → List Char
  | [] => []
  | c :: cs =>
    if afterCr && c == '\n' then unifyFrom false cs
    else if c = '\r' then '\n' :: unifyFrom true cs
    else c :: unifyFrom false cs

def normalizeText (raw : ByteArray) : Except Exc String :=
  match String.fromUTF8? raw with
  | some text => .ok (String.ofList (unifyFrom false text.toList))
  | none => .error (.valueError "UnicodeDecodeError" "utf-8")

theorem not_mem_unifyFrom (afterCr : Bool) (cs : List Char) : '\r' ∉ unifyFrom afterCr cs := by
  induction cs generalizing afterCr with
  | nil => simp [unifyFrom]
  | cons c cs ih =>
    rw [unifyFrom]
    split
    · exact ih false
    · split <;> rename_i h
      · simpa using ih true
      · simpa [ih false] using Ne.symm h

theorem unifyFrom_of_not_mem {cs : List Char} (h : '\r' ∉ cs) : unifyFrom false cs = cs := by
  induction cs with
  | nil => rfl
  | cons c cs ih =>
    rw [List.mem_cons, not_or] at h
    rw [unifyFrom, Bool.false_and, if_neg Bool.false_ne_true, if_neg (Ne.symm h.1), ih h.2]

theorem fromUTF8?_toUTF8 (s : String) : String.fromUTF8? s.toUTF8 = some s := by
  have h : s.toUTF8.IsValidUTF8 := s.isValidUTF8
  rw [String.fromUTF8?, dif_pos h]
  rfl

theorem canonicalJson_inj {v w : Val} (h : canonicalJson v = canonicalJson w) : v.json = w.json := by
  have htext := congrArg String.fromUTF8? h
  simp only [canonicalJson, fromUTF8?_toUTF8, Option.some.injEq] at htext
  exact htext

/-- Normalized text is stored and read back as it is. -/
theorem normalizeText_toUTF8 {raw : ByteArray} {text : String} (h : normalizeText raw = .ok text) :
    normalizeText text.toUTF8 = .ok text := by
  have hr : '\r' ∉ text.toList := by
    rw [normalizeText] at h
    split at h <;> cases h
    simpa using not_mem_unifyFrom _ _
  simp only [normalizeText, fromUTF8?_toUTF8, unifyFrom_of_not_mem hr, String.ofList_toList]

end Pmiri
