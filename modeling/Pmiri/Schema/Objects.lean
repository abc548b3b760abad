import Pmiri.Canonical
import Pmiri.Python.Dict

/-!
# Schema objects

The keywords of a JSON schema that `schema.py` handles, with values of the types
that the metaschema gives them.
-/

namespace Pmiri

open Py

/-! ## Values of one type -/

def listOf : Val → Option (List Val)
  | .list xs => some xs
  | _ => none

def textOf : Val → Option String
  | .str s => some s
  | _ => none

/-- The number a value is, if it is an `int` or a `float` and no `bool`. -/
def numberOf : Val → Option Rat
  | .int i => some i
  | .float f => some f.value
  | _ => none

def flagOf : Val → Option Bool
  | .bool b => some b
  | _ => none

def textsOf (v : Val) : Option (List String) := (listOf v).bind fun xs => xs.mapM textOf

/-- The names that `type` allows: one, or a list of them. -/
def typesOf : Val → Option (List String)
  | .str name => some [name]
  | v => textsOf v

def itemsOf (v : Val) : Option (List (String × Val)) := v.asDict.map Dict.items

def dependenciesOf (v : Val) : Option (List (String × List String)) :=
  (itemsOf v).bind fun items => items.mapM fun item => (textsOf item.2).map (item.1, ·)

/-- The value under a key, read as it should be, if there is one. -/
def keyword {α : Type} (fields : Dict) (key : String) (read : Val → Option α) : Option (Option α) :=
  match fields.get? key with
  | some v => (read v).map some
  | none => some none

/-! ## Objects -/

/-- The keywords of a schema. -/
structure SchemaObject where
  ref : Option String := none
  negated : Option Val := none
  allOf : Option (List Val) := none
  anyOf : Option (List Val) := none
  oneOf : Option (List Val) := none
  const : Option Val := none
  enum : Option (List Val) := none
  type : Option (List String) := none
  condition : Option Val := none
  consequent : Option Val := none
  alternative : Option Val := none
  required : Option (List String) := none
  minProperties : Option Rat := none
  maxProperties : Option Rat := none
  properties : Option (List (String × Val)) := none
  additionalProperties : Option Val := none
  dependentRequired : Option (List (String × List String)) := none
  minItems : Option Rat := none
  maxItems : Option Rat := none
  uniqueItems : Option Bool := none
  contains : Option Val := none
  items : Option Val := none
  minLength : Option Rat := none
  maxLength : Option Rat := none
  pattern : Option String := none
  format : Option String := none
  minimum : Option Rat := none
  maximum : Option Rat := none
  exclusiveMinimum : Option Rat := none
  exclusiveMaximum : Option Rat := none

/-- The keywords of a dictionary, if their values have the types they should have. -/
def SchemaObject.ofDict (fields : Dict) : Option SchemaObject := do
  let ref ← keyword fields "$ref" textOf
  let negated ← keyword fields "not" some
  let allOf ← keyword fields "allOf" listOf
  let anyOf ← keyword fields "anyOf" listOf
  let oneOf ← keyword fields "oneOf" listOf
  let const ← keyword fields "const" some
  let enum ← keyword fields "enum" listOf
  let type ← keyword fields "type" typesOf
  let condition ← keyword fields "if" some
  let consequent ← keyword fields "then" some
  let alternative ← keyword fields "else" some
  let required ← keyword fields "required" textsOf
  let minProperties ← keyword fields "minProperties" numberOf
  let maxProperties ← keyword fields "maxProperties" numberOf
  let properties ← keyword fields "properties" itemsOf
  let additionalProperties ← keyword fields "additionalProperties" some
  let dependentRequired ← keyword fields "dependentRequired" dependenciesOf
  let minItems ← keyword fields "minItems" numberOf
  let maxItems ← keyword fields "maxItems" numberOf
  let uniqueItems ← keyword fields "uniqueItems" flagOf
  let contains ← keyword fields "contains" some
  let items ← keyword fields "items" some
  let minLength ← keyword fields "minLength" numberOf
  let maxLength ← keyword fields "maxLength" numberOf
  let pattern ← keyword fields "pattern" textOf
  let format ← keyword fields "format" textOf
  let minimum ← keyword fields "minimum" numberOf
  let maximum ← keyword fields "maximum" numberOf
  let exclusiveMinimum ← keyword fields "exclusiveMinimum" numberOf
  let exclusiveMaximum ← keyword fields "exclusiveMaximum" numberOf
  return {
    ref, negated, allOf, anyOf, oneOf, const, enum, type, condition, consequent, alternative, required, minProperties,
    maxProperties, properties, additionalProperties, dependentRequired, minItems, maxItems, uniqueItems, contains, items,
    minLength, maxLength, pattern, format, minimum, maximum, exclusiveMinimum, exclusiveMaximum }

/-- The registered documents, by their URIs. -/
structure SchemaRegistry where
  resources : List (String × Val)

end Pmiri
