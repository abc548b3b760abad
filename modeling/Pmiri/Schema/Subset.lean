import Pmiri.Schema.Objects
import Pmiri.Python.Replace
import Pmiri.Python.Datetime

/-!
# The subset validator

`schema.py` with `backend="subset"`: `_validate` appends an issue for everything that
is wrong with a value. Each keyword here returns the issues that it appends.
-/

namespace Pmiri

open Py

structure ValidationIssue where
  path : String
  message : String
deriving DecidableEq

/-- Why the model says nothing of a validation: the recursion is deeper than asked for, or a keyword has a value of a
type that it should not have. -/
inductive SchemaFault where
  | tooDeep
  | malformed
deriving DecidableEq

def issueIf (c : Bool) (path message : String) : List ValidationIssue := if c then [⟨path, message⟩] else []

/-! ## References -/

section

variable [Runtime]

/-- `key.isdigit() and int(key) < len(current)`, with the element there. -/
def elementUnder (xs : List Val) (key : List Char) : Option Val :=
  if key.isEmpty then none
  else (key.mapM digitValue).bind fun digits => xs[digits.foldl (fun acc d => acc * 10 + d) 0]?

/-- One round of the loop of `_resolve_pointer`. -/
def stepPointer (current : Val) (raw : List Char) : Option Val :=
  let key := replace "~0".toList "~".toList (replace "~1".toList "/".toList raw)
  match current with
  | .dict items => (Dict.ofItems items).get? (String.ofList key)
  | .list xs => elementUnder xs key
  | _ => none

/-- `_resolve_pointer` -/
def resolvePointer (document : Val) (reference : List Char) : Except String Val :=
  match reference with
  | [] | ['#'] => .ok document
  | '#' :: '/' :: pointer =>
    match (splitOn '/' pointer).foldlM stepPointer document with
    | some target => .ok target
    | none => .error ("unresolved_json_pointer:" ++ String.ofList reference)
  | _ => .error ("invalid_json_pointer:" ++ String.ofList reference)

/-- `SchemaRegistry.resolve`: what is returned, or the message of the `SchemaValidationError`. -/
def SchemaRegistry.resolve (registry : SchemaRegistry) (reference : String) (current : Option Val) : Except String Val :=
  if reference.toList.head? == some '#' then
    match current with
    | none => .error "local_ref_without_schema"
    | some document => resolvePointer document reference.toList
  else if !"pmiri://".toList.isPrefixOf reference.toList then .error ("relative_ref_forbidden:" ++ reference)
  else
    let (base, fragment, _) := partition '#' reference.toList
    match registry.resources.lookup (String.ofList base) with
    | none => .error ("unknown_schema_ref:" ++ String.ofList base)
    | some document => resolvePointer document (if fragment.isEmpty then ['#'] else '#' :: fragment)

end

/-! ## Keywords without schemas -/

/-- `_type_matches` -/
def typeMatches (value : Val) (name : String) : Bool :=
  match name with
  | "object" => value.isMapping
  | "array" => (listOf value).isSome
  | "string" => value.isStr
  | "integer" => match value with
    | .int _ => true
    | _ => false
  | "number" => (numberOf value).isSome
  | "boolean" => (flagOf value).isSome
  | "null" => value.isNone
  | _ => false

/-- `key in value` -/
def hasKey (fields : List (String × Val)) (key : String) : Bool := (fields.lookup key).isSome

/-- `limit in schema and n < schema[limit]` -/
def isBelow (n : Rat) (limit : Option Rat) : Bool := limit.any fun m => n < m

/-- `limit in schema and n > schema[limit]` -/
def isAbove (n : Rat) (limit : Option Rat) : Bool := limit.any fun m => m < n

section

variable (schema : SchemaObject) (path : String)

def constIssues (value : Val) : List ValidationIssue := issueIf (schema.const.any fun c => !value.eq c) path "const_mismatch"

def enumIssues (value : Val) : List ValidationIssue :=
  issueIf (schema.enum.any fun members => !members.any value.eq) path "enum_mismatch"

/-- `any(_type_matches(value, item) for item in types)`, where there is a `type`. -/
def typeHolds (value : Val) : Bool := schema.type.all fun names => names.any (typeMatches value)

/-- What is wrong with the keys of an object, apart from their values. -/
def keyIssues (fields : List (String × Val)) : List ValidationIssue :=
  ((schema.required.getD []).flatMap fun name => issueIf (!hasKey fields name) path ("required:" ++ name)) ++
  issueIf (isBelow fields.length schema.minProperties) path "min_properties" ++
  issueIf (isAbove fields.length schema.maxProperties) path "max_properties"

def dependencyIssues (fields : List (String × Val)) : List ValidationIssue :=
  (schema.dependentRequired.getD []).flatMap fun dependency =>
    if hasKey fields dependency.1 then
      dependency.2.flatMap fun name =>
        issueIf (!hasKey fields name) path ("dependent_required:" ++ dependency.1 ++ ":" ++ name)
    else []

/-- What is wrong with an array, apart from its elements. -/
def arrayIssues (xs : List Val) : List ValidationIssue :=
  issueIf (isBelow xs.length schema.minItems) path "min_items" ++
  issueIf (isAbove xs.length schema.maxItems) path "max_items" ++
  issueIf (schema.uniqueItems.getD false && !decide (xs.map Val.json).Nodup) path "unique_items"

/-- `parsed.tzinfo` is set, for `parsed = datetime.fromisoformat(timestamp)`. -/
def isDateTime [Runtime] (value : String) : Bool :=
  let timestamp := if value.toList.getLast? == some 'Z' then String.ofList value.toList.dropLast ++ "+00:00" else value
  (fromisoformat timestamp).any fun parsed => parsed.offset.isSome

def textIssues [Runtime] (search : String → String → Bool) (value : String) : List ValidationIssue :=
  issueIf (isBelow value.length schema.minLength) path "min_length" ++
  issueIf (isAbove value.length schema.maxLength) path "max_length" ++
  issueIf (schema.pattern.any fun pattern => !search pattern value) path "pattern_mismatch" ++
  issueIf (schema.format == some "date-time" && !isDateTime value) path "date_time_invalid"

def numberIssues (n : Rat) : List ValidationIssue :=
  issueIf (isBelow n schema.minimum) path "minimum" ++
  issueIf (isAbove n schema.maximum) path "maximum" ++
  issueIf (schema.exclusiveMinimum.any fun m => n ≤ m) path "exclusive_minimum" ++
  issueIf (schema.exclusiveMaximum.any fun m => m ≤ n) path "exclusive_maximum"

end

/-! ## Keywords with schemas -/

/-- `_validate`, for the schemas inside: the issues of a value, given a schema, a path and a document. -/
abbrev Validation := Val → Val → String → Val → Except SchemaFault (List ValidationIssue)

/-- Issues of several checks, one after the other. -/
def allIssues (checks : List (Except SchemaFault (List ValidationIssue))) : Except SchemaFault (List ValidationIssue) := do
  let issues ← checks.mapM id
  return issues.flatten

section

variable (validate : Validation) (schema : SchemaObject) (value : Val) (path : String) (document : Val)

def notIssues : Except SchemaFault (List ValidationIssue) :=
  match schema.negated with
  | none => .ok []
  | some inner => do
    let inverse ← validate value inner path document
    return issueIf inverse.isEmpty path "not_failed"

def allOfIssues : Except SchemaFault (List ValidationIssue) :=
  allIssues ((schema.allOf.getD []).map fun part => validate value part path document)

/-- `anyOf` and `oneOf`: how many of the parts have no issues. -/
def branchIssues (parts : Option (List Val)) (enough : Nat → Bool) (message : String) :
    Except SchemaFault (List ValidationIssue) :=
  match parts with
  | none => .ok []
  | some parts => do
    let branches ← parts.mapM fun part => validate value part path document
    return issueIf (!enough (branches.filter List.isEmpty).length) path message

def conditionalIssues : Except SchemaFault (List ValidationIssue) :=
  match schema.condition with
  | none => .ok []
  | some condition => do
    let conditionIssues ← validate value condition path document
    match if conditionIssues.isEmpty then schema.consequent else schema.alternative with
    | some .none => return []
    | some branch => validate value branch path document
    | none => return []

/-- A property, by its own schema or by that of additional properties. -/
def propertyIssues (item : String × Val) : Except SchemaFault (List ValidationIssue) :=
  match (schema.properties.getD []).lookup item.1 with
  | some child => validate item.2 child (path ++ "." ++ item.1) document
  | none =>
    match schema.additionalProperties with
    | some (.bool false) => .ok [⟨path, "additional_property:" ++ item.1⟩]
    | some (.dict fields) => validate item.2 (.dict fields) (path ++ "." ++ item.1) document
    | _ => .ok []

/-- `any(not self._branch_issues(item, schema["contains"], document) for item in value)` -/
def anyPasses (part : Val) : List Val → Except SchemaFault Bool
  | [] => .ok false
  | item :: rest => do
    let issues ← validate item part "$" document
    if issues.isEmpty then return true else anyPasses part rest

def containsIssues (xs : List Val) : Except SchemaFault (List ValidationIssue) :=
  match schema.contains with
  | none => .ok []
  | some part => do
    let passes ← anyPasses validate document part xs
    return issueIf (!passes) path "contains_failed"

def itemIssues (xs : List Val) : Except SchemaFault (List ValidationIssue) :=
  match schema.items with
  | none => .ok []
  | some part =>
    allIssues (xs.zipIdx.map fun element => validate element.1 part (path ++ "[" ++ toString element.2 ++ "]") document)

variable [Runtime] (search : String → String → Bool)

/-- What is wrong with a value of its type. -/
def valueIssues : Except SchemaFault (List ValidationIssue) :=
  match value with
  | .dict fields => allIssues [
      .ok (keyIssues schema path fields),
      allIssues (fields.map (propertyIssues validate schema path document)),
      .ok (dependencyIssues schema path fields)]
  | .list xs => allIssues [
      .ok (arrayIssues schema path xs),
      containsIssues validate schema path document xs,
      itemIssues validate schema path document xs]
  | .str text => .ok (textIssues schema path search text)
  | _ => .ok ((numberOf value).elim [] (numberIssues schema path))

/-- The keywords next to one another. -/
def objectIssues : Except SchemaFault (List ValidationIssue) := do
  let inPlace ← allIssues [
    notIssues validate schema value path document,
    allOfIssues validate schema value path document,
    branchIssues validate value path document schema.anyOf (1 ≤ ·) "anyOf_failed",
    branchIssues validate value path document schema.oneOf (· == 1) "oneOf_failed",
    .ok (constIssues schema path value),
    .ok (enumIssues schema path value)]
  if !typeHolds schema value then return inPlace ++ [⟨path, "type_mismatch"⟩]
  else
    let rest ← allIssues [
      conditionalIssues validate schema value path document,
      valueIssues validate schema value path document search]
    return inPlace ++ rest

end

section

variable [Runtime] (registry : SchemaRegistry) (search : String → String → Bool)

/-- `_validate`, given what it does for the schemas inside. -/
def validateStep (validate : Validation) : Validation := fun value schema path document =>
  match schema.asDict with
  | none => .ok [⟨path, "schema_not_object"⟩]
  | some fields =>
    match SchemaObject.ofDict fields with
    | none => .error .malformed
    | some schema =>
      match schema.ref with
      | some reference =>
        match registry.resolve reference (some document) with
        | .error message => .ok [⟨path, message⟩]
        | .ok target => validate value target path (if target.isMapping then target else document)
      | none => objectIssues validate schema value path document search

/-- `_validate`, with so many calls inside one another. -/
def validateAt : Nat → Validation
  | 0 => fun _ _ _ _ => .error .tooDeep
  | depth + 1 => validateStep registry search (validateAt depth)

/-- `SchemaRegistry.validate`: the issues, or the message of the `SchemaValidationError`. -/
def SchemaRegistry.validate (depth : Nat) (instance_ : Val) (schemaRef : String) :
    Except String (Except SchemaFault (List ValidationIssue)) := do
  let schema ← registry.resolve schemaRef none
  return validateAt registry search depth instance_ schema "$" schema

end

end Pmiri
