import Pmiri.Schema.Agreement
import Pmiri.Python.Sha256

/-!
# Whole validations

From one step to a validation of any depth: the validator follows the standard in
every validation that comes to no step at which the two differ.
-/

namespace Pmiri

open Py Draft

/-- Finitely many things that are so from some depth on are all so from some depth on. -/
theorem exists_depth {α : Type} {P : Nat → α → Prop} {xs : List α} (h : ∀ x ∈ xs, ∃ depth, ∀ n, depth ≤ n → P n x) :
    ∃ depth, ∀ n, depth ≤ n → ∀ x ∈ xs, P n x := by
  induction xs with
  | nil => exact ⟨0, fun _ _ => nofun⟩
  | cons x xs ih =>
    rw [List.forall_mem_cons] at h
    obtain ⟨first, hfirst⟩ := h.1
    obtain ⟨rest, hrest⟩ := ih h.2
    refine ⟨max first rest, fun n hn => List.forall_mem_cons.mpr ⟨?_, ?_⟩⟩
    · exact hfirst n ((Nat.le_max_left _ _).trans hn)
    · exact hrest n ((Nat.le_max_right _ _).trans hn)

section

variable [Runtime] {registry : SchemaRegistry} {search found : String → String → Bool}

/-- A validation comes from one application to another. With each goes the document that the validator takes its schema
to be in: what a reference leads to, if that is an object. -/
inductive Reaches (registry : SchemaRegistry) (found : String → String → Bool) : Application → Val → Application → Val → Prop
  | self (a : Application) (current : Val) : Reaches registry found a current a current
  | referred {a b : Application} {current last : Val} {fields : Dict} {schema : SchemaObject} {reference : String} {t : Val × Val}
      (hfields : a.schema.asDict = some fields) (hschema : SchemaObject.ofDict fields = some schema)
      (href : schema.ref = some reference) (ht : target registry a.document reference = some t)
      (h : Reaches registry found ⟨t.1, t.2, a.value⟩ (if t.2.isMapping then t.2 else current) b last) :
      Reaches registry found a current b last
  | inside {a b c : Application} {current last : Val} {fields : Dict} {schema : SchemaObject} (verdict : Application → Bool)
      (hfields : a.schema.asDict = some fields) (hschema : SchemaObject.ofDict fields = some schema) (href : schema.ref = none)
      (hverdict : ∀ b ∈ applications a schema verdict [], Evaluates registry found b (verdict b))
      (hb : b ∈ visited a schema verdict) (h : Reaches registry found b current c last) : Reaches registry found a current c last

/-- The validator does what the standard says with an application: its schema is not `true`, and its keywords are taken as
they are meant. -/
def FaithfulAt (registry : SchemaRegistry) (search found : String → String → Bool) (a : Application) (current : Val) : Prop :=
  a.schema ≠ .bool true ∧ ∀ fields schema, a.schema.asDict = some fields → SchemaObject.ofDict fields = some schema →
    Faithful registry search found a current schema

/-- No step of a validation is one at which the validator and the standard differ. -/
def FaithfulThroughout (registry : SchemaRegistry) (search found : String → String → Bool) (a : Application) (current : Val) : Prop :=
  ∀ b last, Reaches registry found a current b last → FaithfulAt registry search found b last

omit [Runtime] in
/-- A reference without other keywords has the verdict of what it leads to. -/
theorem judge_reference (a : Application) (reference : String) (verdict : Application → Bool) (others : List Application) :
    judge a { ref := some reference } verdict found others = others.all verdict := by
  unfold judge
  have hvalue : valueHolds a { ref := some reference } verdict found = true := by
    unfold valueHolds
    split
    · simp [objectHolds, Draft.properties, propertySchema]
    · simp [arrayHolds, elements]
    · rfl
    · cases numberOf a.value with
      | none => rfl
      | some n => rfl
  have hrest : (inPlaceHolds a { ref := some reference } verdict && typeIsOne a { ref := some reference } &&
      conditionalHolds a { ref := some reference } verdict) = true := rfl
  rw [hvalue, Bool.and_true, Bool.and_assoc, Bool.and_assoc, ← Bool.and_assoc (inPlaceHolds _ _ _), hrest, Bool.and_true]

/-- From some depth on, the validation of an application that has a verdict ends and is as the verdict says. -/
theorem validateAt_follows {a : Application} {valid : Bool} (h : Evaluates registry found a valid) {current : Val}
    (hfaithful : FaithfulThroughout registry search found a current) :
    ∃ depth, ∀ n, depth ≤ n → Follows (validateAt registry search n) current a valid := by
  induction h generalizing current with
  | flag document value b =>
    have hb : b = false := by
      cases b with
      | false => rfl
      | true => exact absurd rfl (hfaithful _ _ (.self _ _)).1
    refine ⟨1, fun n hn path => ?_⟩
    obtain ⟨m, rfl⟩ := Nat.exists_eq_add_of_le hn
    rw [hb, Nat.add_comm]
    exact ⟨_, rfl, rfl⟩
  | @object a fields schema others verdict hfields hschema hothers hinside ih =>
    have hself := (hfaithful _ _ (.self _ _)).2 fields schema hfields hschema
    cases href : schema.ref with
    | some reference =>
      -- the reference is followed, and the document becomes what it leads to
      simp only [Draft.referred, href] at hothers
      obtain ⟨t, ht, rfl⟩ := Option.map_eq_some_iff.mp hothers
      have hmem : (⟨t.1, t.2, a.value⟩ : Application) ∈ applications a schema verdict [⟨t.1, t.2, a.value⟩] :=
        List.mem_append_left _ (List.mem_append_left _ (List.mem_append_left _ (List.mem_singleton_self _)))
      obtain ⟨depth, hdepth⟩ := ih _ hmem fun b last hb => hfaithful b last (.referred hfields hschema href ht hb)
      refine ⟨depth + 1, fun n hn path => ?_⟩
      obtain ⟨m, rfl⟩ := Nat.exists_eq_add_of_le hn
      obtain ⟨issues, hissues, hvalid⟩ := hdepth (depth + m) (Nat.le_add_right _ _) path
      refine ⟨issues, ?_, ?_⟩
      · rw [Nat.add_right_comm, validateAt, validateStep, hfields]
        simp only [hschema, href, hself.resolves reference t href ht]
        exact hissues
      · rw [hself.alone reference href, judge_reference, List.all_cons, List.all_nil, Bool.and_true]
        exact hvalid
    | none =>
      simp only [Draft.referred, href, Option.some.injEq] at hothers
      subst hothers
      obtain ⟨depth, hdepth⟩ := exists_depth fun b (hb : b ∈ visited a schema verdict) =>
        ih b (visited_subset [] hb) fun c last hc => hfaithful c last (.inside verdict hfields hschema href hinside hb hc)
      refine ⟨depth + 1, fun n hn path => ?_⟩
      obtain ⟨m, rfl⟩ := Nat.exists_eq_add_of_le hn
      have hobject : Settles (objectIssues (validateAt registry search (depth + m)) schema a.value path current search)
          (judge a schema verdict found []) :=
        objectIssues_settles hself hinside fun b hb => hdepth (depth + m) (Nat.le_add_right _ _) b hb
      rw [Nat.add_right_comm, validateAt]
      unfold validateStep
      simp only [hfields, hschema, href]
      exact hobject

/-- Where no step is one at which the two differ, the subset validator reports no issue exactly if the value is valid. -/
theorem subset_agrees {a : Application} {schemaRef : String} {valid : Bool}
    (hresolve : registry.resolve schemaRef none = .ok a.schema) (hvalid : Evaluates registry found a valid)
    (hfaithful : FaithfulThroughout registry search found a a.schema) :
    ∃ depth, ∀ n, depth ≤ n → ∃ issues, registry.validate search n a.value schemaRef = .ok (.ok issues) ∧
      (issues = [] ↔ valid = true) := by
  obtain ⟨depth, hdepth⟩ := validateAt_follows hvalid hfaithful
  refine ⟨depth, fun n hn => ?_⟩
  obtain ⟨issues, hissues, hempty⟩ := hdepth n hn "$"
  refine ⟨issues, ?_, by rw [← hempty, List.isEmpty_iff]⟩
  rw [SchemaRegistry.validate, hresolve, ok_bind, hissues]
  rfl

end

/-! ## An example -/

section

variable {registry : SchemaRegistry} {search found : String → String → Bool} {a b : Application} {current last : Val}
  {schema : SchemaObject}

theorem evaluates_of_read (a : Application) (schema : SchemaObject) (others : List Application) (verdict : Application → Bool)
    (hread : a.schema.asDict.bind SchemaObject.ofDict = some schema) (hothers : referred registry a schema = some others)
    (hinside : ∀ b ∈ applications a schema verdict others, Evaluates registry found b (verdict b)) :
    Evaluates registry found a (judge a schema verdict found others) := by
  obtain ⟨fields, hfields, hschema⟩ := Option.bind_eq_some_iff.mp hread
  exact .object verdict hfields hschema hothers hinside

/-- From a schema without a reference a validation comes to the schemas inside. -/
theorem reaches_cases (hread : a.schema.asDict.bind SchemaObject.ofDict = some schema) (href : schema.ref = none)
    (h : Reaches registry found a current b last) :
    (b = a ∧ last = current) ∨ ∃ verdict, ∃ c ∈ visited a schema verdict, Reaches registry found c current b last := by
  obtain ⟨fields, hfields, hschema⟩ := Option.bind_eq_some_iff.mp hread
  cases h with
  | self => exact .inl ⟨rfl, rfl⟩
  | referred hfields' hschema' href' _ _ =>
    obtain rfl := Option.some.inj (hfields.symm.trans hfields')
    obtain rfl := Option.some.inj (hschema.symm.trans hschema')
    rw [href] at href'
    cases href'
  | inside verdict hfields' hschema' _ _ hb h =>
    obtain rfl := Option.some.inj (hfields.symm.trans hfields')
    obtain rfl := Option.some.inj (hschema.symm.trans hschema')
    exact .inr ⟨verdict, _, hb, h⟩

theorem faithfulAt_of_read [Runtime] (hread : a.schema.asDict.bind SchemaObject.ofDict = some schema)
    (h : Faithful registry search found a current schema) : FaithfulAt registry search found a current := by
  obtain ⟨fields, hfields, hschema⟩ := Option.bind_eq_some_iff.mp hread
  refine ⟨fun e => ?_, fun fields' schema' hfields' hschema' => ?_⟩
  · rw [e] at hfields
    cases hfields
  · obtain rfl := Option.some.inj (hfields.symm.trans hfields')
    obtain rfl := Option.some.inj (hschema.symm.trans hschema')
    exact h

/-- A schema of types, properties and required names is taken as it is meant where no type is `integer` for a float. -/
theorem faithful_of_plain [Runtime] {type : Option (List String)} {required : Option (List String)} {properties : Option (List (String × Val))}
    (h : typeHolds { type := type } a.value = typeIsOne a { type := type }) :
    Faithful registry search found a current { type := type, required := required, properties := properties } where
  alone _ href := by cases href
  resolves _ _ href := by cases href
  const _ hconst := by cases hconst
  enum _ henum := by cases henum
  type := h
  unique _ _ _ hunique := by cases hunique
  pattern _ _ _ _ hpattern := by cases hpattern
  format hformat := by cases hformat

end

/-- A registry with one document. -/
def oneSchema (fields : List (String × Val)) : SchemaRegistry :=
  ⟨[("pmiri://schema", .dict (("$id", .str "pmiri://schema") :: fields))]⟩

/-- The document, applied to a value. -/
def applied (fields : List (String × Val)) (value : Val) : Application :=
  let document := .dict (("$id", .str "pmiri://schema") :: fields)
  ⟨document, document, value⟩

/-- An object with a property that must be an integer. -/
theorem subset_agrees_example :
    letI := asciiRuntime
    let fields := [("required", .list [.str "a"]), ("properties", .dict [("a", .dict [("type", .str "integer")])])]
    ∃ depth, ∀ n, depth ≤ n → ∃ issues,
      (oneSchema fields).validate (fun _ _ => true) n (.dict [("a", .int 1)]) "pmiri://schema" = .ok (.ok issues) ∧
        (issues = [] ↔ true = true) := by
  let := asciiRuntime
  intro fields
  let object : SchemaObject := { required := some ["a"], properties := some [("a", .dict [("type", .str "integer")])] }
  let integer : SchemaObject := { type := some ["integer"] }
  let whole := applied fields (.dict [("a", .int 1)])
  let property := whole.to (.dict [("type", .str "integer")]) (.int 1)
  have hproperty : Evaluates (oneSchema fields) (fun _ _ => true) property true :=
    evaluates_of_read property integer [] (fun _ => true) rfl rfl fun _ hb => by cases hb
  have hvalid : Evaluates (oneSchema fields) (fun _ _ => true) whole true := by
    refine evaluates_of_read whole object [] (fun _ => true) rfl rfl fun b hb => ?_
    obtain rfl := List.mem_singleton.mp hb
    exact hproperty
  have hfaithful : FaithfulThroughout (oneSchema fields) (fun _ _ => true) (fun _ _ => true) whole whole.schema := by
    intro b last hreach
    rcases reaches_cases (show whole.schema.asDict.bind SchemaObject.ofDict = some object from rfl) rfl hreach with
      ⟨rfl, rfl⟩ | ⟨verdict, c, hc, hreach⟩
    · exact faithfulAt_of_read (show whole.schema.asDict.bind SchemaObject.ofDict = some object from rfl) (faithful_of_plain rfl)
    · obtain rfl := List.mem_singleton.mp hc
      rcases reaches_cases (show property.schema.asDict.bind SchemaObject.ofDict = some integer from rfl) rfl hreach with
        ⟨rfl, rfl⟩ | ⟨verdict, c, hc, -⟩
      · exact faithfulAt_of_read (show property.schema.asDict.bind SchemaObject.ofDict = some integer from rfl) (faithful_of_plain rfl)
      · cases hc
  exact subset_agrees (a := whole) rfl hvalid hfaithful

/-! ## Where the two differ -/

theorem evaluates_empty {registry : SchemaRegistry} {found : String → String → Bool} (document : Val) (i : Int) :
    Evaluates registry found ⟨document, .dict [], .int i⟩ true :=
  evaluates_of_read ⟨document, .dict [], .int i⟩ {} [] (fun _ => true) rfl rfl fun _ hb => by cases hb

/-- `true` is not the constant 1, but has no issues; what is said next to a reference is not looked at; and a reference
behind a reference is looked up in what the first leads to. -/
theorem subset_differs :
    letI := asciiRuntime
    let besides := [("$ref", .str "#/$defs/any"), ("type", .str "string"), ("$defs", .dict [("any", .dict [])])]
    let behind := [("$ref", .str "#/$defs/first"),
      ("$defs", .dict [("first", .dict [("$ref", .str "#/$defs/second")]), ("second", .dict [])])]
    (∀ found, Evaluates (oneSchema [("const", .int 1)]) found (applied [("const", .int 1)] (.bool true)) false) ∧
      (oneSchema [("const", .int 1)]).validate (fun _ _ => true) 9 (.bool true) "pmiri://schema" = .ok (.ok []) ∧
    (∀ found, Evaluates (oneSchema besides) found (applied besides (.int 1)) false) ∧
      (oneSchema besides).validate (fun _ _ => true) 9 (.int 1) "pmiri://schema" = .ok (.ok []) ∧
    (∀ found, Evaluates (oneSchema behind) found (applied behind (.int 1)) true) ∧
      (oneSchema behind).validate (fun _ _ => true) 9 (.int 1) "pmiri://schema" =
        .ok (.ok [⟨"$", "unresolved_json_pointer:#/$defs/second"⟩]) := by
  intro besides behind
  have hany : decoded "/$defs/any".toList = some "/$defs/any".toList := by decide +kernel
  have hfirst : decoded "/$defs/first".toList = some "/$defs/first".toList := by decide +kernel
  have hsecond : decoded "/$defs/second".toList = some "/$defs/second".toList := by decide +kernel
  refine ⟨fun found => ?_, rfl, fun found => ?_, rfl, fun found => ?_, rfl⟩
  · exact evaluates_of_read (applied [("const", .int 1)] (.bool true)) { const := some (.int 1) } [] (fun _ => true) rfl rfl
      fun _ hb => by cases hb
  · refine evaluates_of_read (applied besides (.int 1)) { ref := some "#/$defs/any", type := some ["string"] }
      [(applied besides (.int 1)).to (.dict []) (.int 1)] (fun _ => true) rfl
      (congrArg (Option.map _) (target_local rfl hany rfl)) fun b hb => ?_
    obtain rfl := List.mem_singleton.mp hb
    exact evaluates_empty _ 1
  · refine evaluates_of_read (applied behind (.int 1)) { ref := some "#/$defs/first" }
      [(applied behind (.int 1)).to (.dict [("$ref", .str "#/$defs/second")]) (.int 1)] (fun _ => true) rfl
      (congrArg (Option.map _) (target_local rfl hfirst rfl)) fun b hb => ?_
    obtain rfl := List.mem_singleton.mp hb
    refine evaluates_of_read ((applied behind (.int 1)).to (.dict [("$ref", .str "#/$defs/second")]) (.int 1))
      { ref := some "#/$defs/second" } [(applied behind (.int 1)).to (.dict []) (.int 1)] (fun _ => true) rfl
      (congrArg (Option.map _) (target_local rfl hsecond rfl)) fun b hb => ?_
    obtain rfl := List.mem_singleton.mp hb
    exact evaluates_empty _ 1

end Pmiri
