import Pmiri.Schema.Objects
import Pmiri.Python.Text

/-!
# Draft 2020-12

What the keywords mean by the standard. A schema is applied to a value; the verdict
depends on those of the schemas inside, applied to the same value or to parts of it.
-/

namespace Pmiri.Draft

open Py

/-! ## Equality and types -/

mutual
/-- Equality of JSON values: numbers are equal if they are the same number, and booleans are no numbers. -/
def same : Val → Val → Bool
  | .none, .none => true
  | .bool a, .bool b => a == b
  | .str a, .str b => a == b
  | .list a, .list b => sameElements a b
  | .dict a, .dict b => a.length == b.length && sameFields a b
  | .int a, b => numberOf b == some (a : Rat)
  | .float a, b => numberOf b == some a.value
  | _, _ => false
def sameElements : List Val → List Val → Bool
  | [], [] => true
  | a :: as, b :: bs => same a b && sameElements as bs
  | _, _ => false
def sameFields : List (String × Val) → List (String × Val) → Bool
  | [], _ => true
  | (k, v) :: as, bs => bs.any (fun kw => k == kw.1 && same v kw.2) && sameFields as bs
end

/-- A value has a type: a number without a fraction is an integer, however it is written. -/
def hasType (value : Val) (name : String) : Bool :=
  match name with
  | "object" => value.isMapping
  | "array" => (listOf value).isSome
  | "string" => value.isStr
  | "integer" => (numberOf value).any fun n => n.den == 1
  | "number" => (numberOf value).isSome
  | "boolean" => (flagOf value).isSome
  | "null" => value.isNone
  | _ => false

/-! ## References -/

/-- A fragment without its percent encoding, in UTF-8. -/
def decodedBytes : List Char → Option (List UInt8)
  | [] => some []
  | '%' :: a :: b :: rest => do
    let high ← hexValue a
    let low ← hexValue b
    return UInt8.ofNat (high * 16 + low) :: (← decodedBytes rest)
  | '%' :: _ => none
  | c :: rest => do return c.toString.toUTF8.toList ++ (← decodedBytes rest)

def decoded (fragment : List Char) : Option (List Char) := do
  let bytes ← decodedBytes fragment
  let text ← String.fromUTF8? ⟨bytes.toArray⟩
  return text.toList

/-- A token of a JSON pointer without its escapes. -/
def unescaped : List Char → Option (List Char)
  | [] => some []
  | '~' :: '0' :: rest => do return '~' :: (← unescaped rest)
  | '~' :: '1' :: rest => do return '/' :: (← unescaped rest)
  | '~' :: _ => none
  | c :: rest => do return c :: (← unescaped rest)

/-- The index of an element: decimal digits without leading zeros. -/
def indexOf (token : List Char) : Option Nat :=
  if token == ['0'] then some 0
  else if !token.isEmpty && token.all isAsciiDigit && token.head? != some '0' then some (decNumber token)
  else none

/-- The part of a value that a token refers to. -/
def part (current : Val) (token : List Char) : Option Val := do
  let key ← unescaped token
  match current with
  | .dict items => (Dict.ofItems items).get? (String.ofList key)
  | .list xs => (indexOf key).bind fun n => xs[n]?
  | _ => none

/-- The part of a document that a JSON pointer refers to. -/
def pointed (document : Val) : List Char → Option Val
  | [] => some document
  | '/' :: pointer => (splitOn '/' pointer).foldlM part document
  | _ => none

/-- What a reference in a document refers to, with the document that it is in: the document itself, or one with a URI. -/
def target (registry : SchemaRegistry) (document : Val) (reference : String) : Option (Val × Val) := do
  let (base, fragment, _) := partition '#' reference.toList
  let owner ← if base.isEmpty then some document else registry.resources.lookup (String.ofList base)
  let pointer ← decoded fragment
  let schema ← pointed owner pointer
  return (owner, schema)

/-- A reference without a URI leads into the document that it is in. -/
theorem target_local {registry : SchemaRegistry} {document schema : Val} {reference : String} {fragment pointer : List Char}
    (hparts : partition '#' reference.toList = ([], fragment, true)) (hfragment : decoded fragment = some pointer)
    (hpointer : pointed document pointer = some schema) : target registry document reference = some (document, schema) := by
  simp only [target, hparts, List.isEmpty_nil, if_true, hfragment, Option.bind_eq_bind, Option.bind_some, hpointer]
  rfl

/-! ## Applications -/

/-- A schema in a document, applied to a value. -/
structure Application where
  document : Val
  schema : Val
  value : Val

/-- Another schema of the document, applied to another value. -/
def Application.to (a : Application) (schema value : Val) : Application := ⟨a.document, schema, value⟩

/-- What the schema refers to, applied to the value. -/
def referred (registry : SchemaRegistry) (a : Application) (schema : SchemaObject) : Option (List Application) :=
  match schema.ref with
  | none => some []
  | some reference => (target registry a.document reference).map fun t => [⟨t.1, t.2, a.value⟩]

section

variable (a : Application) (schema : SchemaObject) (verdict : Application → Bool)

def negations : List Application := schema.negated.toList.map fun inner => a.to inner a.value

def parts (schemas : Option (List Val)) : List Application := (schemas.getD []).map fun inner => a.to inner a.value

def inPlace : List Application :=
  negations a schema ++ parts a schema.allOf ++ parts a schema.anyOf ++ parts a schema.oneOf

/-- The branch of a condition that counts. -/
def branch (condition : Val) : Option Val := if verdict (a.to condition a.value) then schema.consequent else schema.alternative

def conditional : List Application :=
  match schema.condition with
  | none => []
  | some condition => a.to condition a.value :: ((branch a schema verdict condition).toList.map fun inner => a.to inner a.value)

/-- The schema of a property. -/
def propertySchema (key : String) : Option Val :=
  ((schema.properties.getD []).lookup key).orElse fun _ => schema.additionalProperties

def properties (fields : List (String × Val)) : List Application :=
  fields.filterMap fun item => (propertySchema schema item.1).map fun inner => a.to inner item.2

/-- A schema for the elements, applied to each. -/
def elements (inner : Option Val) (xs : List Val) : List Application :=
  inner.toList.flatMap fun inner => xs.map fun x => a.to inner x

/-- The applications that a verdict depends on. -/
def applications (referred : List Application) : List Application :=
  referred ++ inPlace a schema ++ conditional a schema verdict ++
    match a.value with
    | .dict fields => properties a schema fields
    | .list xs => elements a schema.contains xs ++ elements a schema.items xs
    | _ => []

/-! ## Verdicts -/

def inPlaceHolds : Bool :=
  (negations a schema).all (fun b => !verdict b) &&
  (parts a schema.allOf).all verdict &&
  schema.anyOf.all (fun _ => (parts a schema.anyOf).any verdict) &&
  schema.oneOf.all (fun _ => ((parts a schema.oneOf).filter verdict).length == 1) &&
  schema.const.all (same a.value) &&
  schema.enum.all (fun members => members.any (same a.value))

def typeIsOne : Bool := schema.type.all fun names => names.any (hasType a.value)

def conditionalHolds : Bool :=
  schema.condition.all fun condition => (branch a schema verdict condition).all fun inner => verdict (a.to inner a.value)

def objectHolds (fields : List (String × Val)) : Bool :=
  (schema.required.getD []).all (fun name => (fields.lookup name).isSome) &&
  schema.minProperties.all (fun m => m ≤ (fields.length : Rat)) &&
  schema.maxProperties.all (fun m => (fields.length : Rat) ≤ m) &&
  (properties a schema fields).all verdict &&
  (schema.dependentRequired.getD []).all (fun dependency =>
    !(fields.lookup dependency.1).isSome || dependency.2.all fun name => (fields.lookup name).isSome)

/-- No two elements are equal. -/
def unique : List Val → Bool
  | [] => true
  | x :: xs => !xs.any (same x) && unique xs

def arrayHolds (xs : List Val) : Bool :=
  schema.minItems.all (fun m => m ≤ (xs.length : Rat)) &&
  schema.maxItems.all (fun m => (xs.length : Rat) ≤ m) &&
  (!schema.uniqueItems.getD false || unique xs) &&
  schema.contains.all (fun _ => (elements a schema.contains xs).any verdict) &&
  (elements a schema.items xs).all verdict

/-- A text is valid, where `found` tells whether a pattern is found in a text. -/
def textHolds (found : String → String → Bool) (text : String) : Bool :=
  schema.minLength.all (fun m => m ≤ (text.length : Rat)) &&
  schema.maxLength.all (fun m => (text.length : Rat) ≤ m) &&
  schema.pattern.all (fun pattern => found pattern text)

def numberHolds (n : Rat) : Bool :=
  schema.minimum.all (fun m => m ≤ n) &&
  schema.maximum.all (fun m => n ≤ m) &&
  schema.exclusiveMinimum.all (fun m => m < n) &&
  schema.exclusiveMaximum.all (fun m => n < m)

def valueHolds (found : String → String → Bool) : Bool :=
  match a.value with
  | .dict fields => objectHolds a schema verdict fields
  | .list xs => arrayHolds a schema verdict xs
  | .str text => textHolds schema found text
  | v => (numberOf v).all (numberHolds schema)

/-- The verdict on an application: every keyword holds, a reference next to the others. -/
def judge (found : String → String → Bool) (referred : List Application) : Bool :=
  referred.all verdict && inPlaceHolds a schema verdict && typeIsOne a schema && conditionalHolds a schema verdict &&
    valueHolds a schema verdict found

end

/-- An application has a verdict. A schema that refers to itself without end has none. -/
inductive Evaluates (registry : SchemaRegistry) (found : String → String → Bool) : Application → Bool → Prop
  | flag (document value : Val) (b : Bool) : Evaluates registry found ⟨document, .bool b, value⟩ b
  | object {a : Application} {fields : Dict} {schema : SchemaObject} {others : List Application} (verdict : Application → Bool)
      (hfields : a.schema.asDict = some fields) (hschema : SchemaObject.ofDict fields = some schema)
      (hothers : referred registry a schema = some others)
      (hinside : ∀ b ∈ applications a schema verdict others, Evaluates registry found b (verdict b)) :
      Evaluates registry found a (judge a schema verdict found others)

/-! ## One verdict -/

section

variable {a : Application} {schema : SchemaObject} {verdict verdict' : Application → Bool}

/-- `List.all_congr`, of verdicts that agree on the applications of the list only. -/
theorem all_of_agree {f g : Application → Bool} {xs : List Application} (h : ∀ x ∈ xs, f x = g x) : xs.all f = xs.all g := by
  rw [← Function.id_comp f, ← Function.id_comp g, ← List.all_map, ← List.all_map, List.map_congr_left h]

/-- `List.any_congr`, of verdicts that agree on the applications of the list only. -/
theorem any_of_agree {f g : Application → Bool} {xs : List Application} (h : ∀ x ∈ xs, f x = g x) : xs.any f = xs.any g := by
  rw [← Function.id_comp f, ← Function.id_comp g, ← List.any_map, ← List.any_map, List.map_congr_left h]

theorem mem_conditional {condition : Val} (h : schema.condition = some condition) :
    a.to condition a.value ∈ conditional a schema verdict := by
  simp only [conditional, h]
  exact List.mem_cons_self

/-- Which applications count depends on the verdict on the condition only. -/
theorem applications_congr {others : List Application}
    (h : ∀ condition, schema.condition = some condition → verdict (a.to condition a.value) = verdict' (a.to condition a.value)) :
    applications a schema verdict others = applications a schema verdict' others := by
  unfold applications conditional branch
  cases hcondition : schema.condition with
  | none => rfl
  | some condition => simp only [h condition hcondition]

/-- What the verdict on an application depends on are the verdicts inside. -/
theorem judge_congr {found : String → String → Bool} {others : List Application}
    (h : ∀ b ∈ applications a schema verdict others, verdict b = verdict' b) :
    judge a schema verdict found others = judge a schema verdict' found others := by
  simp only [applications, inPlace, List.mem_append] at h
  have hothers := all_of_agree fun b hb => h b (.inl (.inl (.inl hb)))
  have hplace := fun b hb => h b (.inl (.inl (.inr hb)))
  have hnot : (negations a schema).all (fun b => !verdict b) = (negations a schema).all fun b => !verdict' b :=
    all_of_agree fun b hb => congrArg _ (hplace b (.inl (.inl (.inl hb))))
  have hall := all_of_agree fun b hb => hplace b (.inl (.inl (.inr hb)))
  have hany := any_of_agree fun b hb => hplace b (.inl (.inr hb))
  have hone : (parts a schema.oneOf).filter verdict = (parts a schema.oneOf).filter verdict' :=
    List.filter_congr fun b hb => hplace b (.inr hb)
  have hcases := fun b hb => h b (.inl (.inr hb))
  have hconditional : conditionalHolds a schema verdict = conditionalHolds a schema verdict' := by
    unfold conditionalHolds
    unfold conditional branch at hcases
    unfold branch
    cases hcondition : schema.condition with
    | none => rfl
    | some condition =>
      simp only [hcondition] at hcases
      rw [Option.all_some, Option.all_some, ← hcases _ List.mem_cons_self]
      cases hbranch : (if verdict (a.to condition a.value) = true then schema.consequent else schema.alternative) with
      | none => rfl
      | some inner =>
        rw [hbranch] at hcases
        exact hcases _ (List.mem_cons_of_mem _ (List.mem_singleton_self _))
  have hvalue : valueHolds a schema verdict found = valueHolds a schema verdict' found := by
    unfold valueHolds
    cases hvalue : a.value with
    | dict fields =>
      simp only [hvalue] at h
      simp only [objectHolds, all_of_agree fun b hb => h b (.inr hb)]
    | list xs =>
      simp only [hvalue, List.mem_append] at h
      simp only [arrayHolds, any_of_agree fun b hb => h b (.inr (.inl hb)), all_of_agree fun b hb => h b (.inr (.inr hb))]
    | _ => rfl
  simp only [judge, inPlaceHolds, hothers, hnot, hall, hany, hone, hconditional, hvalue]

end

/-- An application has at most one verdict. -/
theorem Evaluates.unique {registry : SchemaRegistry} {found : String → String → Bool} {a : Application} {valid valid' : Bool}
    (h : Evaluates registry found a valid) (h' : Evaluates registry found a valid') : valid = valid' := by
  induction h generalizing valid' with
  | flag document value b =>
    cases h' with
    | flag => rfl
    | object _ hfields => cases hfields
  | @object a fields schema others verdict hfields hschema hothers hinside ih =>
    cases h' with
    | flag => cases hfields
    | @object _ fields' schema' others' verdict' hfields' hschema' hothers' hinside' =>
      obtain rfl := Option.some.inj (hfields.symm.trans hfields')
      obtain rfl := Option.some.inj (hschema.symm.trans hschema')
      obtain rfl := Option.some.inj (hothers.symm.trans hothers')
      have hcondition : ∀ condition, schema.condition = some condition →
          verdict (a.to condition a.value) = verdict' (a.to condition a.value) := by
        intro condition hcondition
        refine ih _ ?_ (hinside' _ ?_)
        · exact List.mem_append_left _ (List.mem_append_right _ (mem_conditional hcondition))
        · exact List.mem_append_left _ (List.mem_append_right _ (mem_conditional hcondition))
      exact judge_congr fun b hb => ih b hb (hinside' b (applications_congr hcondition ▸ hb))

end Pmiri.Draft
