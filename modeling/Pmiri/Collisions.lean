import Pmiri.Canonical
import Pmiri.Python.JsonText
import Mathlib.Data.Fintype.Pigeonhole
import Mathlib.Data.Set.Finite.List

/-!
# Collisions

Of two values with one fingerprint either the canonical texts are the same, and
then the values are up to the order of keys, or SHA-256 collides on them.
-/

namespace Pmiri

open Py

variable [Runtime]

/-- Two values with different canonical texts and one fingerprint. -/
def Collide (v w : Val) : Prop := canonicalJson v ≠ canonicalJson w ∧ sha256Json v = sha256Json w

/-- No two of the values collide. -/
def NoneCollide (values : List Val) : Prop := ∀ v ∈ values, ∀ w ∈ values, ¬ Collide v w

theorem noneCollide_pair {v w : Val} (h : ¬ Collide v w) : NoneCollide [v, w] := by
  simp only [NoneCollide, List.forall_mem_cons, List.not_mem_nil, false_implies, implies_true, and_true]
  exact ⟨⟨fun hv => hv.1 rfl, h⟩, fun hw => h ⟨hw.1.symm, hw.2.symm⟩, fun hw => hw.1 rfl⟩

theorem NoneCollide.canonicalJson_eq {values : List Val} (h : NoneCollide values) {v w : Val} (hv : v ∈ values) (hw : w ∈ values)
    (hfingerprint : sha256Json v = sha256Json w) : canonicalJson v = canonicalJson w :=
  not_not.mp fun hne => h v hv w hw ⟨hne, hfingerprint⟩

/-- The order of keys does not show in a fingerprint. -/
theorem sha256Json_congr {d e : Dict} (h : d.sortKeys = e.sortKeys) : sha256Json d.toVal = sha256Json e.toVal := by
  rw [sha256Json, sha256Json, canonicalJson, canonicalJson, ← Val.json_sortKeys d.toVal, ← Val.json_sortKeys e.toVal,
    Dict.toVal_sortKeys, Dict.toVal_sortKeys, h]

theorem NoneCollide.dict_eq {values : List Val} (h : NoneCollide values) {reads : String → Rat}
    {d e : Dict} (hd : d.toVal ∈ values) (he : e.toVal ∈ values) (hprinted : d.toVal.Printed reads) (hprinted' : e.toVal.Printed reads)
    (hfingerprint : sha256Json d.toVal = sha256Json e.toVal) : d.sortKeys = e.sortKeys := by
  have hsame := Val.json_injective hprinted hprinted' (canonicalJson_inj (h.canonicalJson_eq hd he hfingerprint))
  rw [Dict.toVal_sortKeys, Dict.toVal_sortKeys] at hsame
  exact Dict.toVal_inj hsame

/-- Dictionaries with one fingerprint have the same values. -/
theorem NoneCollide.get_eq {values : List Val} (h : NoneCollide values) {reads : String → Rat}
    (hprinted : ∀ v ∈ values, v.Printed reads) {d e : Dict} (hd : d.toVal ∈ values) (he : e.toVal ∈ values)
    (hfingerprint : sha256Json d.toVal = sha256Json e.toVal) (k : String) : (d.get k).sortKeys = (e.get k).sortKeys := by
  rw [← Dict.get_sortKeys, ← Dict.get_sortKeys, h.dict_eq hd he (hprinted _ hd) (hprinted _ he) hfingerprint]

/-- Two dictionaries with one fingerprint have the same values, unless they collide. -/
theorem get_eq_of_fingerprint {reads : String → Rat} {d e : Dict} (hd : ∀ kv ∈ d.items, kv.2.Printed reads)
    (he : ∀ kv ∈ e.items, kv.2.Printed reads) (hcollide : ¬ Collide d.toVal e.toVal)
    (hfingerprint : sha256Json d.toVal = sha256Json e.toVal) (k : String) : (d.get k).sortKeys = (e.get k).sortKeys := by
  rw [← Dict.get_sortKeys, ← Dict.get_sortKeys, (noneCollide_pair hcollide).dict_eq List.mem_cons_self
    (List.mem_cons_of_mem _ List.mem_cons_self) (Val.printed_toVal.mpr hd) (Val.printed_toVal.mpr he) hfingerprint]

/-! ## There are collisions -/

omit [Runtime] in
theorem finite_isHex (n : Nat) : {s : String | isHex n s = true}.Finite := by
  have hdigits : {c : Char | isHexDigit c = true}.Finite :=
    (List.finite_toSet "0123456789abcdef".toList).subset fun c hc => by simpa [isHexDigit] using hc
  have := hdigits.to_subtype
  refine ((List.finite_length_eq {c : Char | isHexDigit c = true} n).image fun l => String.ofList (l.map Subtype.val)).subset ?_
  intro s hs
  obtain ⟨hlength, hall⟩ := Bool.and_eq_true_iff.mp hs
  refine ⟨s.toList.attachWith (· ∈ {c : Char | isHexDigit c = true}) (List.all_eq_true.mp hall), ?_, ?_⟩
  · exact (List.length_attachWith ..).trans (String.length_toList.trans (beq_iff_eq.mp hlength))
  · exact (congrArg String.ofList (List.attachWith_map_subtype_val _)).trans String.ofList_toList

/-- Of infinitely many values two have one fingerprint. -/
theorem exists_sha256Json_eq (f : Nat → Val) : ∃ m n, m ≠ n ∧ sha256Json (f m) = sha256Json (f n) := by
  have := (finite_isHex 64).to_subtype
  obtain ⟨m, n, hne, heq⟩ := Finite.exists_ne_map_eq_of_infinite fun n : Nat =>
    (⟨sha256Json (f n), Runtime.sha256_hex _⟩ : {s : String | isHex 64 s = true})
  exact ⟨m, n, hne, congrArg Subtype.val heq⟩

end Pmiri
