import Pmiri.Schema.Subset
import Pmiri.Schema.Draft

/-!
# The subset validator and the standard

Where the validator has no issue exactly if the value is valid by the standard: in
every validation that comes to none of the steps at which the two differ.
-/

namespace Pmiri

open Py Draft

/-! ## Issues and verdicts -/

/-- A check ends, and has no issue exactly if the verdict is that the value is valid. -/
def Settles (check : Except SchemaFault (List ValidationIssue)) (valid : Bool) : Prop :=
  ∃ issues, check = .ok issues ∧ issues.isEmpty = valid

/-- Whatever the path is, the validation settles an application as the verdict is. -/
def Follows (validate : Validation) (document : Val) (a : Application) (valid : Bool) : Prop :=
  ∀ path, Settles (validate a.value a.schema path document) valid

theorem isEmpty_issueIf (c : Bool) (path message : String) : (issueIf c path message).isEmpty = !c := by
  cases c <;> rfl

theorem settles_ok (issues : List ValidationIssue) : Settles (.ok issues) issues.isEmpty := ⟨issues, rfl, rfl⟩

theorem isEmpty_append {α : Type} (xs ys : List α) : (xs ++ ys).isEmpty = (xs.isEmpty && ys.isEmpty) := by
  cases xs <;> rfl

theorem isEmpty_flatMap {α β : Type} (f : α → List β) (xs : List α) : (xs.flatMap f).isEmpty = xs.all fun x => (f x).isEmpty := by
  induction xs with
  | nil => rfl
  | cons x xs ih => rw [List.flatMap_cons, isEmpty_append, ih, List.all_cons]

theorem settles_allIssues_nil : Settles (allIssues []) true := ⟨[], rfl, rfl⟩

theorem settles_allIssues_cons {check : Except SchemaFault (List ValidationIssue)}
    {checks : List (Except SchemaFault (List ValidationIssue))} {valid valid' : Bool} (h : Settles check valid)
    (h' : Settles (allIssues checks) valid') : Settles (allIssues (check :: checks)) (valid && valid') := by
  obtain ⟨issues, rfl, rfl⟩ := h
  obtain ⟨issues', hissues', rfl⟩ := h'
  obtain ⟨parts, hparts, hflat⟩ := bind_ok.mp hissues'
  obtain rfl := Except.ok.inj hflat
  refine ⟨issues ++ parts.flatten, ?_, isEmpty_append issues parts.flatten⟩
  rw [allIssues, List.mapM_cons, id, ok_bind, hparts]
  rfl

theorem settles_allIssues_map {α : Type} {check : α → Except SchemaFault (List ValidationIssue)} {valid : α → Bool} {xs : List α}
    (h : ∀ x ∈ xs, Settles (check x) (valid x)) : Settles (allIssues (xs.map check)) (xs.all valid) := by
  induction xs with
  | nil => exact settles_allIssues_nil
  | cons x xs ih =>
    rw [List.forall_mem_cons] at h
    exact settles_allIssues_cons h.1 (ih h.2)

theorem settles_mapM {α : Type} {check : α → Except SchemaFault (List ValidationIssue)} {valid : α → Bool} {xs : List α}
    (h : ∀ x ∈ xs, Settles (check x) (valid x)) :
    ∃ branches, xs.mapM check = .ok branches ∧ (branches.filter List.isEmpty).length = (xs.filter valid).length := by
  induction xs with
  | nil => exact ⟨[], rfl, rfl⟩
  | cons x xs ih =>
    rw [List.forall_mem_cons] at h
    obtain ⟨issues, hcheck, hvalid⟩ := h.1
    obtain ⟨branches, hbranches, hlength⟩ := ih h.2
    refine ⟨issues :: branches, by rw [List.mapM_cons, hcheck, ok_bind, hbranches]; rfl, ?_⟩
    rw [List.filter_cons, List.filter_cons, hvalid]
    split
    · rw [List.length_cons, List.length_cons, hlength]
    · exact hlength

/-! ## Keyword by keyword -/

section

variable {validate : Validation} {document : Val} {a : Application} {schema : SchemaObject} {verdict : Application → Bool}
  {path : String}

theorem notIssues_settles (h : ∀ b ∈ negations a schema, Follows validate document b (verdict b)) :
    Settles (notIssues validate schema a.value path document) ((negations a schema).all fun b => !verdict b) := by
  unfold notIssues negations at *
  cases hnot : schema.negated with
  | none => exact ⟨[], rfl, rfl⟩
  | some inner =>
    rw [hnot] at h
    obtain ⟨inverse, hinverse, hvalid⟩ := h _ (List.mem_singleton_self _) path
    refine ⟨issueIf inverse.isEmpty path "not_failed", ?_, ?_⟩
    · exact bind_ok.mpr ⟨inverse, hinverse, rfl⟩
    · rw [isEmpty_issueIf, hvalid]
      exact (Bool.and_true _).symm

theorem allOfIssues_settles (h : ∀ b ∈ parts a schema.allOf, Follows validate document b (verdict b)) :
    Settles (allOfIssues validate schema a.value path document) ((parts a schema.allOf).all verdict) := by
  unfold allOfIssues
  rw [parts, List.all_map]
  refine settles_allIssues_map fun inner hinner => ?_
  exact h (a.to inner a.value) (List.mem_map.mpr ⟨inner, hinner, rfl⟩) path

theorem branchIssues_settles {schemas : Option (List Val)} {enough : Nat → Bool} {message : String}
    (h : ∀ b ∈ parts a schemas, Follows validate document b (verdict b)) :
    Settles (branchIssues validate a.value path document schemas enough message)
      (schemas.all fun _ => enough ((parts a schemas).filter verdict).length) := by
  unfold branchIssues
  cases schemas with
  | none => exact ⟨[], rfl, rfl⟩
  | some schemas =>
    have hinner : ∀ inner ∈ schemas, Settles (validate a.value inner path document) (verdict (a.to inner a.value)) :=
      fun inner hinner => h (a.to inner a.value) (List.mem_map.mpr ⟨inner, hinner, rfl⟩) path
    obtain ⟨branches, hbranches, hlength⟩ := settles_mapM hinner
    refine ⟨_, bind_ok.mpr ⟨branches, hbranches, rfl⟩, ?_⟩
    rw [isEmpty_issueIf, Bool.not_not, hlength, Option.all_some, parts, Option.getD_some, List.filter_map, List.length_map]
    rfl

theorem one_le_filter (xs : List Application) : decide (1 ≤ (xs.filter verdict).length) = xs.any verdict := by
  rw [Bool.eq_iff_iff, decide_eq_true_iff, List.any_eq_true, Nat.one_le_iff_ne_zero, ne_eq, List.length_eq_zero_iff,
    List.filter_eq_nil_iff]
  push Not
  rfl

theorem constIssues_isEmpty (h : ∀ c, schema.const = some c → a.value.eq c = same a.value c) :
    (constIssues schema path a.value).isEmpty = schema.const.all (same a.value) := by
  rw [constIssues, isEmpty_issueIf]
  cases hconst : schema.const with
  | none => rfl
  | some c => rw [Option.any_some, Option.all_some, Bool.not_not, h c hconst]

theorem enumIssues_isEmpty (h : ∀ members, schema.enum = some members → members.any a.value.eq = members.any (same a.value)) :
    (enumIssues schema path a.value).isEmpty = schema.enum.all fun members => members.any (same a.value) := by
  rw [enumIssues, isEmpty_issueIf]
  cases henum : schema.enum with
  | none => rfl
  | some members => rw [Option.any_some, Option.all_some, Bool.not_not, h members henum]

theorem conditionalIssues_settles (h : ∀ b ∈ conditional a schema verdict, Follows validate document b (verdict b))
    (hnull : ∀ b ∈ conditional a schema verdict, b.schema ≠ .none) :
    Settles (conditionalIssues validate schema a.value path document) (conditionalHolds a schema verdict) := by
  unfold conditionalIssues conditionalHolds
  cases hcondition : schema.condition with
  | none => exact ⟨[], rfl, rfl⟩
  | some condition =>
    simp only [conditional, hcondition] at h hnull
    obtain ⟨issues, hissues, hvalid⟩ := h _ List.mem_cons_self path
    rw [Option.all_some, branch, ← hvalid]
    rw [branch, ← hvalid] at h hnull
    cases hbranch : (if issues.isEmpty = true then schema.consequent else schema.alternative) with
    | none => exact ⟨[], bind_ok.mpr ⟨issues, hissues, by rw [hbranch]; rfl⟩, rfl⟩
    | some inner =>
      rw [hbranch] at h hnull
      have hmem : a.to inner a.value ∈
          a.to condition a.value :: (some inner).toList.map fun inner => a.to inner a.value :=
        List.mem_cons_of_mem _ (List.mem_singleton_self _)
      obtain ⟨issues', hissues', hvalid'⟩ := h _ hmem path
      refine ⟨issues', bind_ok.mpr ⟨issues, hissues, ?_⟩, hvalid'⟩
      rw [hbranch]
      split
      · rename_i hinner
        exact absurd (Option.some.inj hinner) (hnull _ hmem)
      · rename_i hinner
        obtain rfl := Option.some.inj hinner
        exact hissues'
      · rename_i hinner
        cases hinner

/-! ## Values of their types -/

theorem decide_lt (m n : Rat) : decide (m < n) = !decide (n ≤ m) := by
  rw [← decide_not, decide_eq_decide]
  exact Rat.not_le.symm

theorem not_isBelow (n : Rat) (limit : Option Rat) : (!isBelow n limit) = limit.all fun m => m ≤ n := by
  cases limit with
  | none => rfl
  | some m => simp [isBelow, decide_lt]

theorem not_isAbove (n : Rat) (limit : Option Rat) : (!isAbove n limit) = limit.all fun m => n ≤ m := by
  cases limit with
  | none => rfl
  | some m => simp [isAbove, decide_lt]

theorem numberIssues_isEmpty (n : Rat) : (numberIssues schema path n).isEmpty = numberHolds schema n := by
  have hmin : (!schema.exclusiveMinimum.any fun m => n ≤ m) = schema.exclusiveMinimum.all fun m => m < n := by
    cases schema.exclusiveMinimum <;> simp [decide_lt]
  have hmax : (!schema.exclusiveMaximum.any fun m => m ≤ n) = schema.exclusiveMaximum.all fun m => n < m := by
    cases schema.exclusiveMaximum <;> simp [decide_lt]
  simp only [numberIssues, isEmpty_append, isEmpty_issueIf, not_isBelow, not_isAbove, hmin, hmax, numberHolds]

theorem textIssues_isEmpty [Runtime] {search found : String → String → Bool} {text : String} (hformat : schema.format ≠ some "date-time")
    (h : ∀ pattern, schema.pattern = some pattern → search pattern text = found pattern text) :
    (textIssues schema path search text).isEmpty = textHolds schema found text := by
  have hpattern : (!schema.pattern.any fun pattern => !search pattern text) = schema.pattern.all fun pattern => found pattern text := by
    cases hpattern : schema.pattern with
    | none => rfl
    | some pattern => rw [Option.any_some, Option.all_some, Bool.not_not, h pattern hpattern]
  have hdate : (schema.format == some "date-time" && !isDateTime text) = false := by
    rw [beq_eq_false_iff_ne.mpr hformat, Bool.false_and]
  simp only [textIssues, isEmpty_append, isEmpty_issueIf, not_isBelow, not_isAbove, hpattern, hdate, Bool.not_false, Bool.and_true,
    textHolds]

theorem nodup_json {xs : List Val} (h : ∀ x ∈ xs, ∀ y ∈ xs, x.json = y.json ↔ same x y = true) :
    decide (xs.map Val.json).Nodup = unique xs := by
  induction xs with
  | nil => rfl
  | cons x xs ih =>
    have hfirst : decide (x.json ∉ xs.map Val.json) = !xs.any (same x) := by
      rw [Bool.eq_iff_iff, decide_eq_true_iff, Bool.not_eq_true', ← Bool.not_eq_true, List.any_eq_true, List.mem_map]
      refine not_congr ⟨fun hx => ?_, fun hx => ?_⟩
      · obtain ⟨y, hy, e⟩ := hx
        exact ⟨y, hy, (h x List.mem_cons_self y (List.mem_cons_of_mem _ hy)).mp e.symm⟩
      · obtain ⟨y, hy, e⟩ := hx
        exact ⟨y, hy, ((h x List.mem_cons_self y (List.mem_cons_of_mem _ hy)).mpr e).symm⟩
    rw [unique, ← hfirst, ← ih fun y hy z hz => h y (List.mem_cons_of_mem _ hy) z (List.mem_cons_of_mem _ hz), ← Bool.decide_and]
    simp only [List.map_cons, List.nodup_cons]

theorem arrayIssues_isEmpty {xs : List Val}
    (h : schema.uniqueItems = some true → ∀ x ∈ xs, ∀ y ∈ xs, x.json = y.json ↔ same x y = true) :
    (arrayIssues schema path xs).isEmpty =
      (schema.minItems.all (fun m => m ≤ (xs.length : Rat)) && schema.maxItems.all (fun m => (xs.length : Rat) ≤ m) &&
        (!schema.uniqueItems.getD false || unique xs)) := by
  have hunique : (!(schema.uniqueItems.getD false && !decide (xs.map Val.json).Nodup)) =
      (!schema.uniqueItems.getD false || unique xs) := by
    rcases hflag : schema.uniqueItems with _ | _ | _
    · rfl
    · rfl
    · rw [nodup_json (h hflag), Option.getD_some, Bool.true_and, Bool.not_not, Bool.not_true, Bool.false_or]
  simp only [arrayIssues, isEmpty_append, isEmpty_issueIf, not_isBelow, not_isAbove, hunique]

theorem keyIssues_isEmpty (fields : List (String × Val)) :
    (keyIssues schema path fields).isEmpty =
      ((schema.required.getD []).all (fun name => (fields.lookup name).isSome) &&
        schema.minProperties.all (fun m => m ≤ (fields.length : Rat)) &&
        schema.maxProperties.all (fun m => (fields.length : Rat) ≤ m)) := by
  simp only [keyIssues, isEmpty_append, isEmpty_flatMap, isEmpty_issueIf, not_isBelow, not_isAbove, Bool.not_not, hasKey]

theorem dependencyIssues_isEmpty (fields : List (String × Val)) :
    (dependencyIssues schema path fields).isEmpty =
      (schema.dependentRequired.getD []).all fun dependency =>
        !(fields.lookup dependency.1).isSome || dependency.2.all fun name => (fields.lookup name).isSome := by
  rw [dependencyIssues, isEmpty_flatMap]
  refine congrArg _ (funext fun dependency => ?_)
  unfold hasKey
  cases (fields.lookup dependency.1).isSome with
  | false => rfl
  | true => simp only [if_true, isEmpty_flatMap, isEmpty_issueIf, Bool.not_not, Bool.not_true, Bool.false_or]

/-! ## What is validated inside -/

/-- The schema that a property is validated with: additional properties that are allowed or forbidden as such are not validated. -/
def ownSchema (schema : SchemaObject) (key : String) : Option Val :=
  ((schema.properties.getD []).lookup key).orElse fun _ => schema.additionalProperties.filter Val.isMapping

def ownProperties (a : Application) (schema : SchemaObject) (fields : List (String × Val)) : List Application :=
  fields.filterMap fun item => (ownSchema schema item.1).map fun inner => a.to inner item.2

/-- The elements up to the first that passes, and it. -/
def untilFirst (verdict : Application → Bool) : List Application → List Application
  | [] => []
  | b :: rest => if verdict b then [b] else b :: untilFirst verdict rest

/-- The applications that the validator makes for a schema without a reference: where the type is another, those before it only. -/
def visited (a : Application) (schema : SchemaObject) (verdict : Application → Bool) : List Application :=
  inPlace a schema ++
    if typeHolds schema a.value then
      conditional a schema verdict ++
        match a.value with
        | .dict fields => ownProperties a schema fields
        | .list xs => untilFirst verdict (elements a schema.contains xs) ++ elements a schema.items xs
        | _ => []
    else []

theorem untilFirst_subset (xs : List Application) : untilFirst verdict xs ⊆ xs := by
  induction xs with
  | nil => exact List.Subset.refl []
  | cons b xs ih =>
    rw [untilFirst]
    split
    · exact List.cons_subset_cons b (List.nil_subset xs)
    · exact List.cons_subset_cons b ih

theorem propertySchema_of_ownSchema {key : String} {inner : Val} (h : ownSchema schema key = some inner) :
    propertySchema schema key = some inner := by
  unfold ownSchema at h
  unfold propertySchema
  cases hlookup : (schema.properties.getD []).lookup key with
  | some child =>
    rw [hlookup] at h
    exact h
  | none =>
    rw [hlookup, Option.orElse_none] at h
    exact (Option.filter_eq_some_iff.mp h).1

theorem ownProperties_subset (fields : List (String × Val)) : ownProperties a schema fields ⊆ Draft.properties a schema fields := by
  intro b hb
  obtain ⟨item, hitem, hown⟩ := List.mem_filterMap.mp hb
  obtain ⟨inner, hinner, rfl⟩ := Option.map_eq_some_iff.mp hown
  exact List.mem_filterMap.mpr ⟨item, hitem, Option.map_eq_some_iff.mpr ⟨inner, propertySchema_of_ownSchema hinner, rfl⟩⟩

theorem visited_subset (others : List Application) : visited a schema verdict ⊆ applications a schema verdict others := by
  have hplace : inPlace a schema ⊆ others ++ inPlace a schema ++ conditional a schema verdict :=
    fun b hb => List.mem_append_left _ (List.mem_append_right _ hb)
  have hconditional : conditional a schema verdict ⊆ others ++ inPlace a schema ++ conditional a schema verdict :=
    List.subset_append_right _ _
  unfold visited applications
  refine List.append_subset.mpr ⟨fun b hb => List.mem_append_left _ (hplace hb), ?_⟩
  split
  · refine List.append_subset.mpr ⟨fun b hb => List.mem_append_left _ (hconditional hb), fun b hb => List.mem_append_right _ ?_⟩
    cases hvalue : a.value with
    | dict fields =>
      rw [hvalue] at hb
      exact ownProperties_subset fields hb
    | list xs =>
      rw [hvalue] at hb
      rcases List.mem_append.mp hb with hb | hb
      · exact List.mem_append_left _ (untilFirst_subset _ hb)
      · exact List.mem_append_right _ hb
    | _ =>
      rw [hvalue] at hb
      cases hb
  · exact List.nil_subset _

variable {registry : SchemaRegistry} {found : String → String → Bool}

theorem evaluates_schema {b : Application} {valid : Bool} (h : Evaluates registry found b valid) :
    b.schema = .bool valid ∨ b.schema.isMapping = true := by
  cases h with
  | flag document value valid => exact .inl rfl
  | object verdict hfields _ _ _ =>
    right
    cases hschema : b.schema with
    | dict items => rfl
    | _ => rw [hschema] at hfields; cases hfields

theorem propertyIssues_settles {item : String × Val}
    (hown : ∀ inner, ownSchema schema item.1 = some inner → Follows validate document (a.to inner item.2) (verdict (a.to inner item.2)))
    (hschema : ∀ inner, propertySchema schema item.1 = some inner →
      inner = .bool (verdict (a.to inner item.2)) ∨ inner.isMapping = true) :
    Settles (propertyIssues validate schema path document item)
      (((propertySchema schema item.1).map fun inner => a.to inner item.2).all verdict) := by
  unfold propertyIssues propertySchema at *
  unfold ownSchema at hown
  cases hlookup : (schema.properties.getD []).lookup item.1 with
  | some child =>
    rw [hlookup] at hown
    exact hown child rfl _
  | none =>
    rw [hlookup, Option.orElse_none] at hschema hown
    rw [Option.orElse_none]
    cases hadditional : schema.additionalProperties with
    | none => exact ⟨[], rfl, rfl⟩
    | some inner =>
      rw [hadditional] at hschema hown
      rw [Option.map_some, Option.all_some]
      cases inner with
      | dict fields => exact hown _ rfl _
      | bool allowed =>
        -- allowed or forbidden as such
        have hvalid : verdict (a.to (.bool allowed) item.2) = allowed := by
          rcases hschema _ rfl with h | h
          · exact (Val.bool.inj h).symm
          · cases h
        rw [hvalid]
        cases allowed with
        | false => exact ⟨_, rfl, rfl⟩
        | true => exact ⟨[], rfl, rfl⟩
      | _ => rcases hschema _ rfl with h | h <;> cases h

theorem properties_all (a : Application) (schema : SchemaObject) (verdict : Application → Bool) (fields : List (String × Val)) :
    (Draft.properties a schema fields).all verdict =
      fields.all fun item => ((propertySchema schema item.1).map fun inner => a.to inner item.2).all verdict := by
  rw [Draft.properties, List.all_filterMap]
  refine congrArg _ (funext fun item => ?_)
  cases propertySchema schema item.1 with
  | none => rfl
  | some inner => rfl

theorem anyPasses_ok {inner : Val} {xs : List Val}
    (h : ∀ b ∈ untilFirst verdict (xs.map fun x => a.to inner x), Follows validate document b (verdict b)) :
    anyPasses validate document inner xs = .ok ((xs.map fun x => a.to inner x).any verdict) := by
  induction xs with
  | nil => rfl
  | cons x xs ih =>
    rw [List.map_cons, untilFirst] at h
    rw [List.map_cons, List.any_cons, anyPasses]
    cases hverdict : verdict (a.to inner x) with
    | true =>
      rw [hverdict, if_pos rfl] at h
      obtain ⟨issues, hissues, hvalid⟩ := h _ (List.mem_singleton_self _) "$"
      rw [hverdict] at hvalid
      exact bind_ok.mpr ⟨issues, hissues, by rw [if_pos hvalid]; rfl⟩
    | false =>
      rw [hverdict, if_neg Bool.false_ne_true] at h
      obtain ⟨issues, hissues, hvalid⟩ := h _ List.mem_cons_self "$"
      rw [hverdict] at hvalid
      refine bind_ok.mpr ⟨issues, hissues, ?_⟩
      rw [if_neg (Bool.eq_false_iff.mp hvalid), ih fun b hb => h b (List.mem_cons_of_mem _ hb), Bool.false_or]

theorem containsIssues_settles {xs : List Val}
    (h : ∀ b ∈ untilFirst verdict (elements a schema.contains xs), Follows validate document b (verdict b)) :
    Settles (containsIssues validate schema path document xs)
      (schema.contains.all fun _ => (elements a schema.contains xs).any verdict) := by
  unfold containsIssues
  cases hcontains : schema.contains with
  | none => exact ⟨[], rfl, rfl⟩
  | some inner =>
    have helements : elements a (some inner) xs = xs.map fun x => a.to inner x := List.flatMap_singleton _ _
    rw [hcontains, helements] at h
    refine ⟨_, bind_ok.mpr ⟨_, anyPasses_ok h, rfl⟩, ?_⟩
    rw [isEmpty_issueIf, Bool.not_not, helements, Option.all_some]

theorem itemIssues_settles {xs : List Val} (h : ∀ b ∈ elements a schema.items xs, Follows validate document b (verdict b)) :
    Settles (itemIssues validate schema path document xs) ((elements a schema.items xs).all verdict) := by
  unfold itemIssues
  cases hitems : schema.items with
  | none => exact ⟨[], rfl, rfl⟩
  | some inner =>
    have helements : elements a (some inner) xs = xs.map fun x => a.to inner x := List.flatMap_singleton _ _
    rw [hitems, helements] at h
    have hall : (xs.map fun x => a.to inner x).all verdict = xs.zipIdx.all fun element => verdict (a.to inner element.1) := by
      rw [← List.zipIdx_map_fst 0 xs, List.all_map, List.all_map, List.zipIdx_map_fst]
      rfl
    rw [helements, hall]
    refine settles_allIssues_map fun element helement => h _ (List.mem_map.mpr ⟨element.1, ?_, rfl⟩) _
    rw [← List.zipIdx_map_fst 0 xs]
    exact List.mem_map_of_mem helement

/-! ## Where the two agree -/

variable [Runtime] {search : String → String → Bool}

/-- The validator does what the standard says with a schema, given the document that it takes it to be in.
A reference has no other keywords next to it, and leads to the same schema. No comparison takes a boolean for a number.
A number without a fraction is not refused as an integer. Elements that must differ are written alike exactly if they
are equal. Patterns are found alike. -/
structure Faithful (registry : SchemaRegistry) (search found : String → String → Bool) (a : Application) (current : Val)
    (schema : SchemaObject) : Prop where
  alone : ∀ reference, schema.ref = some reference → schema = { ref := some reference }
  resolves : ∀ reference t, schema.ref = some reference → target registry a.document reference = some t →
    registry.resolve reference (some current) = .ok t.2
  const : ∀ c, schema.const = some c → a.value.eq c = same a.value c
  enum : ∀ members, schema.enum = some members → members.any a.value.eq = members.any (same a.value)
  type : typeHolds schema a.value = typeIsOne a schema
  unique : typeHolds schema a.value = true → ∀ xs, a.value = .list xs → schema.uniqueItems = some true →
    ∀ x ∈ xs, ∀ y ∈ xs, x.json = y.json ↔ same x y = true
  pattern : typeHolds schema a.value = true → ∀ text pattern, a.value = .str text → schema.pattern = some pattern →
    search pattern text = found pattern text
  format : schema.format ≠ some "date-time"

theorem valueIssues_settles (hfaithful : Faithful registry search found a document schema) (htype : typeHolds schema a.value = true)
    (hinside : ∀ b ∈ applications a schema verdict [], Evaluates registry found b (verdict b))
    (hvisited : ∀ b ∈ visited a schema verdict, Follows validate document b (verdict b)) :
    Settles (valueIssues validate schema a.value path document search) (valueHolds a schema verdict found) := by
  unfold visited at hvisited
  unfold applications at hinside
  rw [if_pos htype] at hvisited
  unfold valueIssues valueHolds
  have hunique := hfaithful.unique htype
  have hpattern := hfaithful.pattern htype
  cases hvalue : a.value with
  | dict fields =>
    simp only [hvalue] at hvisited hinside ⊢
    have hown : ∀ b ∈ ownProperties a schema fields, Follows validate document b (verdict b) :=
      fun b hb => hvisited b (List.mem_append_right _ (List.mem_append_right _ hb))
    have heval : ∀ b ∈ Draft.properties a schema fields, Evaluates registry found b (verdict b) :=
      fun b hb => hinside b (List.mem_append_right _ hb)
    have hproperties : Settles (allIssues (fields.map (propertyIssues validate schema path document)))
        ((Draft.properties a schema fields).all verdict) := by
      rw [properties_all]
      refine settles_allIssues_map fun item hitem => propertyIssues_settles (fun inner hinner => ?_) (fun inner hinner => ?_)
      · exact hown _ (List.mem_filterMap.mpr ⟨item, hitem, by rw [hinner]; rfl⟩)
      · exact evaluates_schema (heval _ (List.mem_filterMap.mpr ⟨item, hitem, by rw [hinner]; rfl⟩))
    have hkeys := settles_ok (keyIssues schema path fields)
    have hdependencies := settles_ok (dependencyIssues schema path fields)
    rw [keyIssues_isEmpty] at hkeys
    rw [dependencyIssues_isEmpty] at hdependencies
    have hall := settles_allIssues_cons hkeys (settles_allIssues_cons hproperties (settles_allIssues_cons hdependencies settles_allIssues_nil))
    rw [objectHolds]
    simpa only [Bool.and_assoc, Bool.and_true] using hall
  | list xs =>
    simp only [hvalue] at hvisited hinside ⊢
    have hinside' := fun b hb => hvisited b (List.mem_append_right _ (List.mem_append_right _ hb))
    have harray := settles_ok (arrayIssues schema path xs)
    rw [arrayIssues_isEmpty (hunique xs hvalue)] at harray
    have hcontains : Settles (containsIssues validate schema path document xs) _ :=
      containsIssues_settles fun b hb => hinside' b (List.mem_append_left _ hb)
    have hitems : Settles (itemIssues validate schema path document xs) _ :=
      itemIssues_settles fun b hb => hinside' b (List.mem_append_right _ hb)
    have hall := settles_allIssues_cons harray (settles_allIssues_cons hcontains (settles_allIssues_cons hitems settles_allIssues_nil))
    rw [arrayHolds]
    simpa only [Bool.and_assoc, Bool.and_true] using hall
  | str text =>
    have htext := settles_ok (textIssues schema path search text)
    rwa [textIssues_isEmpty hfaithful.format fun pattern => hpattern text pattern hvalue] at htext
  | int i =>
    have hnumber := settles_ok (numberIssues schema path i)
    rwa [numberIssues_isEmpty] at hnumber
  | float f =>
    have hnumber := settles_ok (numberIssues schema path f.value)
    rwa [numberIssues_isEmpty] at hnumber
  | none => exact ⟨[], rfl, rfl⟩
  | bool b => exact ⟨[], rfl, rfl⟩

/-- Keywords next to one another are as the standard says, if the schemas inside are. -/
theorem objectIssues_settles (hfaithful : Faithful registry search found a document schema)
    (hinside : ∀ b ∈ applications a schema verdict [], Evaluates registry found b (verdict b))
    (hvisited : ∀ b ∈ visited a schema verdict, Follows validate document b (verdict b)) :
    Settles (objectIssues validate schema a.value path document search) (judge a schema verdict found []) := by
  have hplace : ∀ b ∈ inPlace a schema, Follows validate document b (verdict b) := fun b hb => hvisited b (List.mem_append_left _ hb)
  simp only [inPlace, List.mem_append] at hplace
  have hconst := settles_ok (constIssues schema path a.value)
  have henum := settles_ok (enumIssues schema path a.value)
  rw [constIssues_isEmpty hfaithful.const] at hconst
  rw [enumIssues_isEmpty hfaithful.enum] at henum
  have hnot : Settles (notIssues validate schema a.value path document) _ :=
    notIssues_settles fun b hb => hplace b (.inl (.inl (.inl hb)))
  have hallOf : Settles (allOfIssues validate schema a.value path document) _ :=
    allOfIssues_settles fun b hb => hplace b (.inl (.inl (.inr hb)))
  have hanyOf : Settles (branchIssues validate a.value path document schema.anyOf (1 ≤ ·) "anyOf_failed") _ :=
    branchIssues_settles fun b hb => hplace b (.inl (.inr hb))
  have honeOf : Settles (branchIssues validate a.value path document schema.oneOf (· == 1) "oneOf_failed") _ :=
    branchIssues_settles fun b hb => hplace b (.inr hb)
  have hall := settles_allIssues_cons hnot (settles_allIssues_cons hallOf (settles_allIssues_cons hanyOf
    (settles_allIssues_cons honeOf (settles_allIssues_cons hconst (settles_allIssues_cons henum settles_allIssues_nil)))))
  simp only [one_le_filter] at hall
  obtain ⟨issues, hissues, hvalid⟩ := hall
  have hjudge : judge a schema verdict found [] =
      (issues.isEmpty && typeHolds schema a.value && conditionalHolds a schema verdict && valueHolds a schema verdict found) := by
    simp only [judge, inPlaceHolds, List.all_nil, Bool.true_and, hvalid, hfaithful.type, Bool.and_true, Bool.and_assoc]
  rw [hjudge]
  unfold objectIssues
  cases htype : typeHolds schema a.value with
  | false =>
    refine ⟨issues ++ [⟨path, "type_mismatch"⟩], bind_ok.mpr ⟨issues, hissues, rfl⟩, ?_⟩
    have hmismatch : [(⟨path, "type_mismatch"⟩ : ValidationIssue)].isEmpty = false := rfl
    rw [isEmpty_append, hmismatch, Bool.and_false, Bool.false_and, Bool.false_and]
  | true =>
    have hconditional : ∀ b ∈ conditional a schema verdict, Follows validate document b (verdict b) := by
      intro b hb
      refine hvisited b (List.mem_append_right _ ?_)
      rw [if_pos htype]
      exact List.mem_append_left _ hb
    have hnull : ∀ b ∈ conditional a schema verdict, b.schema ≠ .none := by
      intro b hb hnone
      rcases evaluates_schema (hinside b (List.mem_append_left _ (List.mem_append_right _ hb))) with h | h
      · rw [hnone] at h
        cases h
      · rw [hnone] at h
        cases h
    have hfirst : Settles (conditionalIssues validate schema a.value path document) _ := conditionalIssues_settles hconditional hnull
    have hsecond : Settles (valueIssues validate schema a.value path document search) _ :=
      valueIssues_settles hfaithful htype hinside hvisited
    obtain ⟨rest, hrest, hvalid'⟩ := settles_allIssues_cons hfirst (settles_allIssues_cons hsecond settles_allIssues_nil)
    refine ⟨issues ++ rest, bind_ok.mpr ⟨issues, hissues, ?_⟩, ?_⟩
    · rw [Bool.not_true, if_neg Bool.false_ne_true]
      exact bind_ok.mpr ⟨rest, hrest, rfl⟩
    · rw [isEmpty_append, hvalid', Bool.and_true, Bool.and_true, Bool.and_assoc]

end

end Pmiri
