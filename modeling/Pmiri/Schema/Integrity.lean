import Pmiri.Schema.Subset
import Pmiri.Python.Order
import Pmiri.Python.Tree
import Pmiri.Python.Sha256
import Pmiri.Security

/-!
# Integrity of the documentation bundle

`integrity.py`, over the JSON files of the archive, and the loading of the schema
registry in `schema.py`. The report looks at the references where they stand; the
validator follows them. If the report has nothing to object to, the validator
comes to no reference that it cannot resolve.
-/

namespace Pmiri

open Py

/-- The archive: its `*.json` files in order, and of every path what reading it as JSON gives, unless that raises an
`OSError`, a `UnicodeDecodeError` or a `JSONDecodeError`. -/
structure DocumentationFiles where
  root : List String
  jsonPaths : List (List String)
  read : List String → Option Val
  pathExists : List String → Bool

/-- `SchemaValidationError(msg)` -/
def schemaValidationError (msg : String) : Exc := .valueError "SchemaValidationError" msg

/-- `v.get(key, default)`, for a value that may not be a dictionary. -/
def getOfD (v : Val) (key : String) (default : Val) : Except Exc Val :=
  match v.asDict with
  | some d => .ok (d.getD key default)
  | none => .error (.attributeError "object has no attribute 'get'")

namespace DocumentationFiles

variable (files : DocumentationFiles)

def directory : List String := files.root ++ ["GATE-D-R2"]

def registryPath : List String := files.directory ++ ["PMIRI_GD-R2_SCHEMA_RESOURCE_REGISTRY_v0.1.json"]

def matrixPath : List String := files.directory ++ ["PMIRI_GD-R2-05_ADVERSARIAL_SCENARIO_MATRIX.json"]

/-! ## Loading the registry -/

/-- `json.loads(path.read_text(encoding="utf-8"))` -/
def load (path : List String) : Except Exc Val :=
  match files.read path with
  | some v => .ok v
  | none => .error (.osError "unreadable")

/-- `item[key]` -/
def fieldOf (item : Val) (key : String) : Except Exc Val :=
  match item.asDict with
  | some d => d.item key
  | none => .error (.typeError "indices must be integers")

/-- One item of the registry: its URI, if that is a text, with the document. -/
def loadResource (item : Val) : Except Exc (Option (String × Val)) := do
  let uri ← fieldOf item "uri"
  let filename ← fieldOf item "file"
  match filename with
  | .str filename =>
    let document ← files.load (joinPath files.directory filename)
    let id ← document.getOf "$id"
    raiseIf (!id.eq uri) (schemaValidationError ("schema_id_mismatch:" ++ filename))
    match uri with
    | .str uri => return some (uri, document)
    | .list _ | .dict _ => .error (.typeError "unhashable type")
    | _ => return none
  | _ => .error (.typeError "unsupported operand type")

inductive SchemaBackend where
  | standards
  | subset
deriving DecidableEq

/-- `SchemaRegistry(project_root, backend=backend)`; a later resource replaces an earlier one with its URI. -/
def loadSchemaRegistry (jsonschema : Bool) (backend : SchemaBackend) : Except Exc SchemaRegistry := do
  raiseIf (backend == .standards && !jsonschema) (schemaValidationError "standards_validator_unavailable")
  let registry ← files.load files.registryPath
  let resources ← (← getOfD registry "resources" (.list [])).elements
  let loaded ← resources.mapM files.loadResource
  return ⟨(loaded.filterMap id).reverse⟩

/-! ## The report -/

/-- `parsed.get(path)` -/
def parsed (path : List String) : Option Val := if files.jsonPaths.contains path then files.read path else none

/-- `path.relative_to(root).as_posix()` -/
def relative (path : List String) : String := "/".intercalate (path.drop files.root.length)

/-- The paths of the schemas, with what they hold. -/
def schemas : List (List String × Val) :=
  files.jsonPaths.filterMap fun path => do
    let document ← files.read path
    guard (".schema.json".toList.isSuffixOf (path.getLast?.getD "").toList)
    return (path, document)

/-- The identifier of a schema that has one. -/
def identifier (document : Val) : Option String := do
  let d ← document.asDict
  textOf (d.get "$id")

/-- `by_id`, as far as more than one schema has an identifier. -/
def duplicateIds : List String :=
  let ids := files.schemas.filterMap fun schema => identifier schema.2
  (sortedSet ids).filter fun id => ids.count id ≠ 1

/-- The items of the registry with their texts. -/
def registered (resources : List Val) : Except Exc (List (String × String)) := do
  let items ← resources.mapM fun resource => do
    let uri ← resource.getOf "uri"
    let filename ← resource.getOf "file"
    return match uri, filename with
      | .str uri, .str filename => some (uri, filename)
      | _, _ => none
  return items.filterMap id

def target (filename : String) : List String := joinPath files.directory filename

/-- The registered files that are not there. -/
def missing (entries : List (String × String)) : List String :=
  (entries.filter fun entry => !files.pathExists (files.target entry.2)).map Prod.snd

/-- The registered files that are there, and have another identifier. -/
def mismatches (entries : List (String × String)) : Except Exc (List String) := do
  let found ← (entries.filter fun entry => files.pathExists (files.target entry.2)).mapM fun entry => do
    let id ← ((files.parsed (files.target entry.2)).getD (.dict [])).getOf "$id"
    return if id.eq (.str entry.1) then none else some entry.2
  return found.filterMap id

end DocumentationFiles

/-! ## References -/

mutual
/-- `_walk`: every key in a value, with what is under it. -/
def walkValue : Val → List (String × Val)
  | .dict items => walkItems items
  | .list xs => walkElements xs
  | _ => []
def walkItems : List (String × Val) → List (String × Val)
  | [] => []
  | item :: rest => item :: (walkValue item.2 ++ walkItems rest)
def walkElements : List Val → List (String × Val)
  | [] => []
  | x :: xs => walkValue x ++ walkElements xs
end

section

variable [Runtime]

/-- `_pointer` -/
def pointer (document : Val) : List Char → Bool
  | [] => true
  | '#' :: '/' :: parts => ((splitOn '/' parts).foldlM stepPointer document).isSome
  | _ => false

namespace DocumentationFiles

variable (files : DocumentationFiles)

/-- A reference that the report lists: it is no registered URI, or the fragment leads nowhere in the document. -/
def isUnresolved (entries : List (String × String)) (reference : String) : Bool :=
  if !"pmiri://".toList.isPrefixOf reference.toList then true
  else
    let (base, fragment, _) := partition '#' reference.toList
    match entries.reverse.lookup (String.ofList base) with
    | none => true
    | some filename =>
      match files.parsed (files.target filename) with
      | none => true
      | some document => !pointer document (if fragment.isEmpty then [] else '#' :: fragment)

/-- The references of the D2 schemas that are listed. -/
def unresolved (entries : List (String × String)) : List String :=
  files.schemas.flatMap fun schema =>
    if schema.1.dropLast.getLast? ≠ some "GATE-D-R2" then []
    else
      (walkValue schema.2).filterMap fun item =>
        match item.1 == "$ref", item.2 with
        | true, .str reference =>
          if files.isUnresolved entries reference then some (schema.1.getLast?.getD "" ++ ":" ++ reference) else none
        | _, _ => none

end DocumentationFiles

end

/-- `len(v)` -/
def lengthOf : Val → Except Exc Nat
  | .list xs => .ok xs.length
  | .str s => .ok s.length
  | .dict items => .ok (Dict.ofItems items).items.length
  | _ => .error (.typeError "object has no len()")

structure IntegrityReport where
  jsonFiles : Nat
  schemaFiles : Nat
  parseErrors : List String
  duplicateSchemaIds : List String
  missingRegistryFiles : List String
  idMismatches : List String
  unresolvedRefs : List String
  scenarioCount : Nat
  requiredRFcClasses : Nat
  schemaBackend : String

def IntegrityReport.ok (r : IntegrityReport) : Bool :=
  r.parseErrors.isEmpty && r.duplicateSchemaIds.isEmpty && r.missingRegistryFiles.isEmpty && r.idMismatches.isEmpty &&
    r.unresolvedRefs.isEmpty && r.schemaBackend == "standards"

def sortedTexts (texts : List String) : List String := texts.insertionSort (· ≤ ·)

/-- `SchemaRegistry(project_root).backend`, or `UNAVAILABLE`. -/
def backendOf (registry : Except Exc SchemaRegistry) : Except Exc String :=
  match registry with
  | .ok _ => .ok "standards"
  | .error (.osError _) | .error (.valueError ..) => .ok "UNAVAILABLE"
  | .error e => .error e

/-- `v.get(key, [])` if `v` is a dictionary, and else `[]`. -/
def listUnder (v : Option Val) (key : String) : Val :=
  match v.bind Val.asDict with
  | some d => d.getD key (.list [])
  | none => .list []

/-- `validate_documentation_bundle` -/
def validateDocumentationBundle [Runtime] (files : DocumentationFiles) (jsonschema : Bool) : Except Exc IntegrityReport := do
  let resources ← (listUnder (files.parsed files.registryPath) "resources").elements
  let entries ← DocumentationFiles.registered resources
  let idMismatches ← files.mismatches entries
  let schemaBackend ← backendOf (files.loadSchemaRegistry jsonschema .standards)
  let scenarioCount ← lengthOf (listUnder (files.parsed files.matrixPath) "scenarios")
  let requiredRFcClasses ← lengthOf (listUnder (files.parsed files.matrixPath) "coverage_requirements")
  return {
    jsonFiles := files.jsonPaths.length
    schemaFiles := files.schemas.length
    parseErrors := sortedTexts ((files.jsonPaths.filter fun path => (files.read path).isNone).map files.relative)
    duplicateSchemaIds := files.duplicateIds
    missingRegistryFiles := sortedTexts (files.missing entries)
    idMismatches := sortedTexts idMismatches
    unresolvedRefs := sortedTexts (files.unresolved entries)
    scenarioCount
    requiredRFcClasses
    schemaBackend }

/-! ## What is in a value -/

theorem walk_item {item : String × Val} {items : List (String × Val)} (h : item ∈ items) :
    item ∈ walkValue (.dict items) ∧ walkValue item.2 ⊆ walkValue (.dict items) := by
  rw [walkValue]
  induction items with
  | nil => cases h
  | cons first rest ih =>
    rw [walkItems]
    rcases List.mem_cons.mp h with rfl | h
    · exact ⟨List.mem_cons_self, fun p hp => List.mem_cons_of_mem _ (List.mem_append_left _ hp)⟩
    · obtain ⟨hmem, hsub⟩ := ih h
      exact ⟨List.mem_cons_of_mem _ (List.mem_append_right _ hmem),
        fun p hp => List.mem_cons_of_mem _ (List.mem_append_right _ (hsub hp))⟩

theorem walk_element {x : Val} {xs : List Val} (h : x ∈ xs) : walkValue x ⊆ walkValue (.list xs) := by
  rw [walkValue]
  induction xs with
  | nil => cases h
  | cons first rest ih =>
    rw [walkElements]
    rcases List.mem_cons.mp h with rfl | h
    · exact List.subset_append_left ..
    · exact List.Subset.trans (ih h) (List.subset_append_right ..)

theorem mem_of_get?_ofItems {items : List (String × Val)} {key : String} {v : Val} (h : (Dict.ofItems items).get? key = some v) :
    (key, v) ∈ items := Dict.mem_ofItems (Dict.mem_items_iff.mpr h)

/-- What is under a key of a dictionary is in it, with all that is in it. -/
theorem walk_get {v w : Val} {d : Dict} {key : String} (hd : v.asDict = some d) (h : d.get? key = some w) :
    (key, w) ∈ walkValue v ∧ walkValue w ⊆ walkValue v := by
  cases v with
  | dict items =>
    obtain rfl := Option.some.inj hd
    exact walk_item (mem_of_get?_ofItems h)
  | _ => cases hd

section

variable [Runtime]

theorem walk_stepPointer {current next : Val} {raw : List Char} (h : stepPointer current raw = some next) :
    walkValue next ⊆ walkValue current := by
  simp only [stepPointer] at h
  split at h
  · exact (walk_item (mem_of_get?_ofItems h)).2
  · rename_i xs
    rw [elementUnder] at h
    split at h
    · cases h
    · obtain ⟨digits, -, h⟩ := Option.bind_eq_some_iff.mp h
      exact walk_element (List.mem_of_getElem? h)
  · cases h

theorem walk_foldlM {current next : Val} {parts : List (List Char)} (h : parts.foldlM stepPointer current = some next) :
    walkValue next ⊆ walkValue current := by
  induction parts generalizing current with
  | nil =>
    obtain rfl := Option.some.inj h
    exact List.Subset.refl _
  | cons part parts ih =>
    rw [List.foldlM_cons] at h
    obtain ⟨middle, hmiddle, h⟩ := Option.bind_eq_some_iff.mp h
    exact List.Subset.trans (ih h) (walk_stepPointer hmiddle)

/-- Where the report finds something, so does the registry, and it is in the document. -/
theorem resolvePointer_of_pointer {document : Val} {fragment : List Char}
    (h : pointer document (if fragment.isEmpty then [] else '#' :: fragment) = true) :
    ∃ found, resolvePointer document (if fragment.isEmpty then ['#'] else '#' :: fragment) = .ok found ∧
      walkValue found ⊆ walkValue document := by
  cases fragment with
  | nil => exact ⟨document, rfl, List.Subset.refl _⟩
  | cons c rest =>
    simp only [List.isEmpty_cons, Bool.false_eq_true, if_false] at h ⊢
    unfold pointer at h
    split at h
    · rename_i heq
      cases heq
    · rename_i parts heq
      obtain ⟨rfl, rfl⟩ : c = '/' ∧ rest = parts := by
        obtain ⟨-, hrest⟩ := List.cons.inj heq
        exact List.cons.inj hrest
      obtain ⟨found, hfound⟩ := Option.isSome_iff_exists.mp h
      refine ⟨found, ?_, walk_foldlM hfound⟩
      simp only [resolvePointer, hfound]
    · cases h

/-! ## References that lead somewhere -/

/-- How the messages begin that `resolve` raises. -/
def referenceErrors : List String :=
  ["local_ref_without_schema", "relative_ref_forbidden:", "unknown_schema_ref:", "invalid_json_pointer:", "unresolved_json_pointer:"]

omit [Runtime] in
def isReferenceError (message : String) : Bool := referenceErrors.any fun start => start.toList.isPrefixOf message.toList

omit [Runtime] in
theorem isReferenceError_append {start : String} (h : start ∈ referenceErrors) (rest : String) : isReferenceError (start ++ rest) = true := by
  rw [isReferenceError, List.any_eq_true]
  refine ⟨start, h, ?_⟩
  rw [List.isPrefixOf_iff_prefix, String.toList_append]
  exact List.prefix_append ..

theorem isReferenceError_of_resolvePointer {document : Val} {reference : List Char} {message : String}
    (h : resolvePointer document reference = .error message) : isReferenceError message = true := by
  unfold resolvePointer at h
  split at h
  · cases h
  · cases h
  · split at h
    · cases h
    · cases h
      exact isReferenceError_append (by simp [referenceErrors]) _
  · cases h
    exact isReferenceError_append (by simp [referenceErrors]) _

theorem isReferenceError_of_resolve {registry : SchemaRegistry} {reference message : String} {current : Option Val}
    (h : registry.resolve reference current = .error message) : isReferenceError message = true := by
  unfold SchemaRegistry.resolve at h
  split at h
  · split at h
    · cases h
      rfl
    · exact isReferenceError_of_resolvePointer h
  · split at h
    · cases h
      exact isReferenceError_append (by simp [referenceErrors]) _
    · dsimp only at h
      split at h
      · cases h
        exact isReferenceError_append (by simp [referenceErrors]) _
      · exact isReferenceError_of_resolvePointer h

/-- A schema is part of a registered document. -/
def Covered (registry : SchemaRegistry) (schema : Val) : Prop :=
  ∃ uri document, registry.resources.lookup uri = some document ∧ walkValue schema ⊆ walkValue document

omit [Runtime] in
theorem Covered.of_subset {registry : SchemaRegistry} {schema inner : Val} (h : Covered registry schema)
    (hinner : walkValue inner ⊆ walkValue schema) : Covered registry inner := by
  obtain ⟨uri, document, hdocument, hsub⟩ := h
  exact ⟨uri, document, hdocument, List.Subset.trans hinner hsub⟩

/-- What a reference from outside leads to is part of a registered document. -/
theorem covered_of_resolve {registry : SchemaRegistry} {reference : String} {schema : Val}
    (h : registry.resolve reference none = .ok schema) : Covered registry schema := by
  unfold SchemaRegistry.resolve at h
  split at h
  · cases h
  · split at h
    · cases h
    · dsimp only at h
      split at h
      · cases h
      · rename_i document hdocument
        refine ⟨_, document, hdocument, ?_⟩
        unfold resolvePointer at h
        split at h
        · cases h
          exact List.Subset.refl _
        · cases h
          exact List.Subset.refl _
        · split at h
          · rename_i target htarget
            cases h
            exact walk_foldlM htarget
          · cases h
        · cases h

/-- Every reference in a registered document leads to a part of one. -/
def ResolvesAll (registry : SchemaRegistry) : Prop :=
  ∀ uri document, registry.resources.lookup uri = some document → ∀ reference, ("$ref", .str reference) ∈ walkValue document →
    ∃ found, (∀ current, registry.resolve reference current = .ok found) ∧ Covered registry found

theorem Covered.resolve {registry : SchemaRegistry} (hall : ResolvesAll registry) {schema : Val} {d : Dict} {reference : String}
    (h : Covered registry schema) (hd : schema.asDict = some d) (href : d.get? "$ref" = some (.str reference)) :
    ∃ found, (∀ current, registry.resolve reference current = .ok found) ∧ Covered registry found := by
  obtain ⟨uri, document, hdocument, hsub⟩ := h
  exact hall uri document hdocument reference (hsub (walk_get hd href).1)

/-- What a validation against a schema reference can come to: what the reference leads to, whatever stands in that under
any keyword (`not`, `anyOf`, `if` and `contains` no less than `properties`), and what the references in there lead to. -/
inductive SchemaRegistry.Reaches (registry : SchemaRegistry) (schemaRef : String) : Val → Prop where
  | start {schema : Val} (hfound : registry.resolve schemaRef none = .ok schema) : Reaches registry schemaRef schema
  | field {items : List (String × Val)} {item : String × Val} (h : Reaches registry schemaRef (.dict items)) (hitem : item ∈ items) :
    Reaches registry schemaRef item.2
  | element {xs : List Val} {x : Val} (h : Reaches registry schemaRef (.list xs)) (hx : x ∈ xs) : Reaches registry schemaRef x
  | reference {items : List (String × Val)} {reference : String} {current : Option Val} {found : Val}
    (h : Reaches registry schemaRef (.dict items)) (hreference : ("$ref", .str reference) ∈ items)
    (hfound : registry.resolve reference current = .ok found) : Reaches registry schemaRef found

theorem SchemaRegistry.Reaches.covered {registry : SchemaRegistry} (hall : ResolvesAll registry) {schemaRef : String} {schema : Val}
    (h : registry.Reaches schemaRef schema) : Covered registry schema := by
  induction h with
  | start hfound => exact covered_of_resolve hfound
  | field _ hitem ih => exact ih.of_subset (walk_item hitem).2
  | element _ hx ih => exact ih.of_subset (walk_element hx)
  | reference _ hreference hfound ih =>
    obtain ⟨uri, document, hdocument, hsub⟩ := ih
    obtain ⟨found, hresolves, hcovered⟩ := hall uri document hdocument _ (hsub (walk_item hreference).1)
    obtain rfl := Except.ok.inj ((hresolves _).symm.trans hfound)
    exact hcovered

/-- A reference that is reached leads somewhere, wherever it is resolved from. -/
theorem SchemaRegistry.Reaches.resolves {registry : SchemaRegistry} (hall : ResolvesAll registry) {schemaRef reference : String}
    {items : List (String × Val)} (h : registry.Reaches schemaRef (.dict items)) (hreference : ("$ref", .str reference) ∈ items) :
    ∃ found, ∀ current, registry.resolve reference current = .ok found := by
  obtain ⟨uri, document, hdocument, hsub⟩ := h.covered hall
  obtain ⟨found, hresolves, -⟩ := hall uri document hdocument reference (hsub (walk_item hreference).1)
  exact ⟨found, hresolves⟩

/-! ## The validator over such references -/

end

/-- No issue says that a reference leads nowhere. -/
def Quiet (issues : List ValidationIssue) : Prop := ∀ issue ∈ issues, isReferenceError issue.message = false

theorem quiet_nil : Quiet [] := List.forall_mem_nil _

theorem Quiet.append {xs ys : List ValidationIssue} (h : Quiet xs) (h' : Quiet ys) : Quiet (xs ++ ys) := by
  intro issue hissue
  rcases List.mem_append.mp hissue with hissue | hissue
  · exact h issue hissue
  · exact h' issue hissue

theorem quiet_flatMap {α : Type} {f : α → List ValidationIssue} {xs : List α} (h : ∀ x ∈ xs, Quiet (f x)) : Quiet (xs.flatMap f) := by
  intro issue hissue
  obtain ⟨x, hx, hissue⟩ := List.mem_flatMap.mp hissue
  exact h x hx issue hissue

theorem quiet_issueIf {c : Bool} {path message : String} (h : isReferenceError message = false) : Quiet (issueIf c path message) := by
  intro issue hissue
  rw [issueIf] at hissue
  split at hissue
  · obtain rfl := List.mem_singleton.mp hissue
    exact h
  · cases hissue

theorem quiet_singleton {path message : String} (h : isReferenceError message = false) : Quiet [⟨path, message⟩] := by
  intro issue hissue
  obtain rfl := List.mem_singleton.mp hissue
  exact h

/-- A check finds nothing wrong with a reference. -/
def QuietCheck (check : Except SchemaFault (List ValidationIssue)) : Prop := ∀ issues, check = .ok issues → Quiet issues

theorem quietCheck_ok {issues : List ValidationIssue} (h : Quiet issues) : QuietCheck (.ok issues) := by
  intro issues' hissues
  cases hissues
  exact h

theorem quietCheck_allIssues {checks : List (Except SchemaFault (List ValidationIssue))} (h : ∀ check ∈ checks, QuietCheck check) :
    QuietCheck (allIssues checks) := by
  intro issues hissues
  obtain ⟨all, hall, hissues⟩ := bind_ok.mp hissues
  cases hissues
  clear hissues
  induction checks generalizing all with
  | nil =>
    cases hall
    exact quiet_nil
  | cons check checks ih =>
    rw [List.mapM_cons] at hall
    obtain ⟨first, hfirst, hall⟩ := bind_ok.mp hall
    obtain ⟨rest, hrest, hall⟩ := bind_ok.mp hall
    cases hall
    rw [List.flatten_cons]
    exact (h check List.mem_cons_self first hfirst).append (ih (fun c hc => h c (List.mem_cons_of_mem _ hc)) rest hrest)

/-- The keywords of a dictionary, as far as what is inside them is reported. -/
structure ReadFrom (fields : Dict) (schema : SchemaObject) : Prop where
  ref : keyword fields "$ref" textOf = some schema.ref
  allOf : keyword fields "allOf" listOf = some schema.allOf
  consequent : keyword fields "then" some = some schema.consequent
  alternative : keyword fields "else" some = some schema.alternative
  properties : keyword fields "properties" itemsOf = some schema.properties
  additionalProperties : keyword fields "additionalProperties" some = some schema.additionalProperties
  items : keyword fields "items" some = some schema.items

theorem readFrom_ofDict {fields : Dict} {schema : SchemaObject} (h : SchemaObject.ofDict fields = some schema) : ReadFrom fields schema := by
  unfold SchemaObject.ofDict at h
  obtain ⟨_, href, h⟩ := Option.bind_eq_some_iff.mp h
  obtain ⟨_, -, h⟩ := Option.bind_eq_some_iff.mp h
  obtain ⟨_, hallOf, h⟩ := Option.bind_eq_some_iff.mp h
  obtain ⟨_, -, h⟩ := Option.bind_eq_some_iff.mp h
  obtain ⟨_, -, h⟩ := Option.bind_eq_some_iff.mp h
  obtain ⟨_, -, h⟩ := Option.bind_eq_some_iff.mp h
  obtain ⟨_, -, h⟩ := Option.bind_eq_some_iff.mp h
  obtain ⟨_, -, h⟩ := Option.bind_eq_some_iff.mp h
  obtain ⟨_, -, h⟩ := Option.bind_eq_some_iff.mp h
  obtain ⟨_, hconsequent, h⟩ := Option.bind_eq_some_iff.mp h
  obtain ⟨_, halternative, h⟩ := Option.bind_eq_some_iff.mp h
  obtain ⟨_, -, h⟩ := Option.bind_eq_some_iff.mp h
  obtain ⟨_, -, h⟩ := Option.bind_eq_some_iff.mp h
  obtain ⟨_, -, h⟩ := Option.bind_eq_some_iff.mp h
  obtain ⟨_, hproperties, h⟩ := Option.bind_eq_some_iff.mp h
  obtain ⟨_, hadditional, h⟩ := Option.bind_eq_some_iff.mp h
  obtain ⟨_, -, h⟩ := Option.bind_eq_some_iff.mp h
  obtain ⟨_, -, h⟩ := Option.bind_eq_some_iff.mp h
  obtain ⟨_, -, h⟩ := Option.bind_eq_some_iff.mp h
  obtain ⟨_, -, h⟩ := Option.bind_eq_some_iff.mp h
  obtain ⟨_, -, h⟩ := Option.bind_eq_some_iff.mp h
  obtain ⟨_, hitems, h⟩ := Option.bind_eq_some_iff.mp h
  obtain ⟨_, -, h⟩ := Option.bind_eq_some_iff.mp h
  obtain ⟨_, -, h⟩ := Option.bind_eq_some_iff.mp h
  obtain ⟨_, -, h⟩ := Option.bind_eq_some_iff.mp h
  obtain ⟨_, -, h⟩ := Option.bind_eq_some_iff.mp h
  obtain ⟨_, -, h⟩ := Option.bind_eq_some_iff.mp h
  obtain ⟨_, -, h⟩ := Option.bind_eq_some_iff.mp h
  obtain ⟨_, -, h⟩ := Option.bind_eq_some_iff.mp h
  obtain ⟨_, -, h⟩ := Option.bind_eq_some_iff.mp h
  cases h
  exact ⟨href, hallOf, hconsequent, halternative, hproperties, hadditional, hitems⟩

theorem get?_of_keyword {α : Type} {fields : Dict} {key : String} {read : Val → Option α} {a : α}
    (h : keyword fields key read = some (some a)) : ∃ v, fields.get? key = some v ∧ read v = some a := by
  rw [keyword] at h
  split at h
  · rename_i v hv
    obtain ⟨b, hb, hab⟩ := Option.map_eq_some_iff.mp h
    obtain rfl := Option.some.inj hab
    exact ⟨v, hv, hb⟩
  · cases h

/-- The schemas inside, as far as their issues are reported, are parts of registered documents. -/
structure Encloses (registry : SchemaRegistry) (schema : SchemaObject) : Prop where
  allOf : ∀ parts, schema.allOf = some parts → ∀ part ∈ parts, Covered registry part
  consequent : ∀ v, schema.consequent = some v → Covered registry v
  alternative : ∀ v, schema.alternative = some v → Covered registry v
  properties : ∀ items, schema.properties = some items → ∀ item ∈ items, Covered registry item.2
  additionalProperties : ∀ v, schema.additionalProperties = some v → Covered registry v
  items : ∀ v, schema.items = some v → Covered registry v

theorem encloses_of_covered {registry : SchemaRegistry} {v : Val} {fields : Dict} {schema : SchemaObject} (h : Covered registry v)
    (hfields : v.asDict = some fields) (hschema : ReadFrom fields schema) : Encloses registry schema := by
  have hkey {key : String} {inner : Val} (hinner : keyword fields key some = some (some inner)) : Covered registry inner := by
    obtain ⟨w, hw, hwinner⟩ := get?_of_keyword hinner
    obtain rfl := Option.some.inj hwinner
    exact h.of_subset (walk_get hfields hw).2
  constructor
  · intro parts hparts part hpart
    obtain ⟨w, hw, hlist⟩ := get?_of_keyword (hschema.allOf.trans (congrArg some hparts))
    cases w with
    | list xs =>
      obtain rfl := Option.some.inj hlist
      exact h.of_subset (List.Subset.trans (walk_element hpart) (walk_get hfields hw).2)
    | _ => cases hlist
  · exact fun inner hinner => hkey (hschema.consequent.trans (congrArg some hinner))
  · exact fun inner hinner => hkey (hschema.alternative.trans (congrArg some hinner))
  · intro items hitems item hitem
    obtain ⟨w, hw, hread⟩ := get?_of_keyword (hschema.properties.trans (congrArg some hitems))
    obtain ⟨d, hd, rfl⟩ := Option.map_eq_some_iff.mp hread
    exact h.of_subset (List.Subset.trans (walk_get hd (Dict.mem_items_iff.mp hitem)).2 (walk_get hfields hw).2)
  · exact fun inner hinner => hkey (hschema.additionalProperties.trans (congrArg some hinner))
  · exact fun inner hinner => hkey (hschema.items.trans (congrArg some hinner))

section

variable {registry : SchemaRegistry} {validate : Validation} {schema : SchemaObject} {value : Val} {path : String} {document : Val}

theorem quiet_notIssues : QuietCheck (notIssues validate schema value path document) := by
  intro issues h
  rw [notIssues] at h
  split at h
  · cases h
    exact quiet_nil
  · obtain ⟨inverse, -, h⟩ := bind_ok.mp h
    cases h
    exact quiet_issueIf rfl

theorem quiet_branchIssues {parts : Option (List Val)} {enough : Nat → Bool} {message : String} (hmessage : isReferenceError message = false) :
    QuietCheck (branchIssues validate value path document parts enough message) := by
  intro issues h
  unfold branchIssues at h
  split at h
  · cases h
    exact quiet_nil
  · obtain ⟨branches, -, h⟩ := bind_ok.mp h
    cases h
    exact quiet_issueIf hmessage

theorem quiet_containsIssues {xs : List Val} : QuietCheck (containsIssues validate schema path document xs) := by
  intro issues h
  rw [containsIssues] at h
  split at h
  · cases h
    exact quiet_nil
  · obtain ⟨passes, -, h⟩ := bind_ok.mp h
    cases h
    exact quiet_issueIf rfl

theorem quiet_constIssues : Quiet (constIssues schema path value) := quiet_issueIf rfl

theorem quiet_enumIssues : Quiet (enumIssues schema path value) := quiet_issueIf rfl

theorem quiet_keyIssues {fields : List (String × Val)} : Quiet (keyIssues schema path fields) := by
  rw [keyIssues]
  refine Quiet.append (Quiet.append (quiet_flatMap fun name _ => quiet_issueIf ?_) (quiet_issueIf rfl)) (quiet_issueIf rfl)
  rw [isReferenceError, String.toList_append]
  rfl

theorem quiet_dependencyIssues {fields : List (String × Val)} : Quiet (dependencyIssues schema path fields) := by
  rw [dependencyIssues]
  refine quiet_flatMap fun dependency _ => ?_
  split
  · refine quiet_flatMap fun name _ => quiet_issueIf ?_
    rw [isReferenceError, String.toList_append, String.toList_append, String.toList_append, List.append_assoc, List.append_assoc]
    rfl
  · exact quiet_nil

theorem quiet_arrayIssues {xs : List Val} : Quiet (arrayIssues schema path xs) :=
  ((quiet_issueIf rfl).append (quiet_issueIf rfl)).append (quiet_issueIf rfl)

theorem quiet_numberIssues {n : Rat} : Quiet (numberIssues schema path n) :=
  (((quiet_issueIf rfl).append (quiet_issueIf rfl)).append (quiet_issueIf rfl)).append (quiet_issueIf rfl)

theorem quiet_textIssues [Runtime] {search : String → String → Bool} {text : String} : Quiet (textIssues schema path search text) :=
  (((quiet_issueIf rfl).append (quiet_issueIf rfl)).append (quiet_issueIf rfl)).append (quiet_issueIf rfl)

variable (hvalidate : ∀ value schema path document, Covered registry schema → QuietCheck (validate value schema path document))
  (hschema : Encloses registry schema)

include hvalidate hschema

theorem quiet_allOfIssues : QuietCheck (allOfIssues validate schema value path document) := by
  rw [allOfIssues]
  refine quietCheck_allIssues fun check hcheck => ?_
  obtain ⟨part, hpart, rfl⟩ := List.mem_map.mp hcheck
  cases hparts : schema.allOf with
  | none =>
    rw [hparts] at hpart
    cases hpart
  | some parts =>
    rw [hparts] at hpart
    exact hvalidate _ _ _ _ (hschema.allOf parts hparts part hpart)

theorem quiet_conditionalIssues : QuietCheck (conditionalIssues validate schema value path document) := by
  intro issues h
  rw [conditionalIssues] at h
  split at h
  · cases h
    exact quiet_nil
  · obtain ⟨conditionIssues, -, h⟩ := bind_ok.mp h
    split at h
    · cases h
      exact quiet_nil
    · rename_i branch hbranch
      refine hvalidate _ _ _ _ ?_ issues h
      split at hbranch
      · exact hschema.consequent _ hbranch
      · exact hschema.alternative _ hbranch
    · cases h
      exact quiet_nil

theorem quiet_propertyIssues {item : String × Val} : QuietCheck (propertyIssues validate schema path document item) := by
  rw [propertyIssues]
  split
  · rename_i child hchild
    refine hvalidate _ _ _ _ ?_
    cases hproperties : schema.properties with
    | none =>
      rw [hproperties] at hchild
      cases hchild
    | some items =>
      rw [hproperties] at hchild
      exact hschema.properties items hproperties _ (mem_of_lookup hchild)
  · split
    · refine quietCheck_ok (quiet_singleton ?_)
      rw [isReferenceError, String.toList_append]
      rfl
    · rename_i fields hfields
      exact hvalidate _ _ _ _ (hschema.additionalProperties _ hfields)
    · exact quietCheck_ok quiet_nil

theorem quiet_itemIssues {xs : List Val} : QuietCheck (itemIssues validate schema path document xs) := by
  rw [itemIssues]
  split
  · exact quietCheck_ok quiet_nil
  · rename_i part hpart
    refine quietCheck_allIssues fun check hcheck => ?_
    obtain ⟨element, -, rfl⟩ := List.mem_map.mp hcheck
    exact hvalidate _ _ _ _ (hschema.items part hpart)

theorem quiet_valueIssues [Runtime] {search : String → String → Bool} :
    QuietCheck (valueIssues validate schema value path document search) := by
  unfold valueIssues
  split
  · refine quietCheck_allIssues ?_
    simp only [List.forall_mem_cons, List.not_mem_nil, false_imp_iff, implies_true, and_true]
    refine ⟨quietCheck_ok quiet_keyIssues, quietCheck_allIssues fun check hcheck => ?_, quietCheck_ok quiet_dependencyIssues⟩
    obtain ⟨item, -, rfl⟩ := List.mem_map.mp hcheck
    exact quiet_propertyIssues hvalidate hschema
  · refine quietCheck_allIssues ?_
    simp only [List.forall_mem_cons, List.not_mem_nil, false_imp_iff, implies_true, and_true]
    exact ⟨quietCheck_ok quiet_arrayIssues, quiet_containsIssues, quiet_itemIssues hvalidate hschema⟩
  · exact quietCheck_ok quiet_textIssues
  · refine quietCheck_ok ?_
    cases numberOf value with
    | none => exact quiet_nil
    | some n => exact quiet_numberIssues

theorem quiet_objectIssues [Runtime] {search : String → String → Bool} :
    QuietCheck (objectIssues validate schema value path document search) := by
  intro issues h
  rw [objectIssues] at h
  obtain ⟨inPlace, hinPlace, h⟩ := bind_ok.mp h
  have hquiet : Quiet inPlace := by
    refine quietCheck_allIssues ?_ inPlace hinPlace
    simp only [List.forall_mem_cons, List.not_mem_nil, false_imp_iff, implies_true, and_true]
    exact ⟨quiet_notIssues, quiet_allOfIssues hvalidate hschema, quiet_branchIssues rfl, quiet_branchIssues rfl,
      quietCheck_ok quiet_constIssues, quietCheck_ok quiet_enumIssues⟩
  split at h
  · cases h
    exact hquiet.append (quiet_singleton rfl)
  · obtain ⟨rest, hrest, h⟩ := bind_ok.mp h
    cases h
    refine hquiet.append (quietCheck_allIssues ?_ rest hrest)
    simp only [List.forall_mem_cons, List.not_mem_nil, false_imp_iff, implies_true, and_true]
    exact ⟨quiet_conditionalIssues hvalidate hschema, quiet_valueIssues hvalidate hschema⟩

end

section

variable [Runtime] {registry : SchemaRegistry}

/-- Over a registry in which every reference leads somewhere, the validator never says that one does not. -/
theorem quiet_validateAt (hall : ResolvesAll registry) (search : String → String → Bool) (depth : Nat) (value schema : Val)
    (path : String) (document : Val) (h : Covered registry schema) :
    QuietCheck (validateAt registry search depth value schema path document) := by
  induction depth generalizing value schema path document with
  | zero =>
    intro issues hissues
    cases hissues
  | succ depth ih =>
    rw [validateAt]
    simp only [validateStep]
    split
    · exact quietCheck_ok (quiet_singleton rfl)
    · rename_i fields hfields
      split
      · intro issues hissues
        cases hissues
      · rename_i object hobject
        have hread := readFrom_ofDict hobject
        split
        · rename_i reference href
          obtain ⟨w, hw, htext⟩ := get?_of_keyword (hread.ref.trans (congrArg some href))
          cases w with
          | str text =>
            obtain rfl := Option.some.inj htext
            obtain ⟨found, hfound, hcovered⟩ := h.resolve hall hfields hw
            rw [hfound]
            exact ih _ _ _ _ hcovered
          | _ => cases htext
        · exact quiet_objectIssues (fun value schema path document h => ih value schema path document h)
            (encloses_of_covered h hfields hread)

end

/-! ## The registry of an intact bundle -/

namespace DocumentationFiles

variable {files : DocumentationFiles}

/-- The registry is listed, and every file that it registers is a schema next to it. -/
structure PlainRegistry (files : DocumentationFiles) : Prop where
  listed : files.registryPath ∈ files.jsonPaths
  plain : ∀ registry resources, files.read files.registryPath = some registry →
    (listUnder (some registry) "resources").elements = .ok resources → ∀ resource ∈ resources, ∀ filename,
    resource.getOf "file" = .ok (.str filename) →
      ∃ name, files.target filename = files.directory ++ [name] ∧ ".schema.json".toList.isSuffixOf name.toList = true

/-- What loading a resource and looking at it in the report have in common. -/
theorem loadResource_registered {resource : Val} {loaded : Option (String × Val)} {entry : Option (String × String)}
    (hloaded : files.loadResource resource = .ok loaded)
    (hentry : (do
      let uri ← resource.getOf "uri"
      let filename ← resource.getOf "file"
      return match uri, filename with
        | .str uri, .str filename => some (uri, filename)
        | _, _ => none : Except Exc (Option (String × String))) = .ok entry) :
    (loaded = none ∧ entry = none) ∨ ∃ uri filename document, loaded = some (uri, document) ∧ entry = some (uri, filename) ∧
      files.read (files.target filename) = some document ∧ resource.getOf "file" = .ok (.str filename) := by
  obtain ⟨uri, huri, hloaded⟩ := bind_ok.mp hloaded
  obtain ⟨filename, hfilename, hloaded⟩ := bind_ok.mp hloaded
  have hget {key : String} {v : Val} (h : fieldOf resource key = .ok v) : resource.getOf key = .ok v := by
    rw [fieldOf] at h
    split at h
    · rename_i d hd
      rw [Dict.item] at h
      split at h
      · rename_i w hw
        cases h
        simp only [Val.getOf, hd, Dict.get, hw, Option.getD_some]
      · cases h
    · cases h
  rw [hget huri, hget hfilename, ok_bind, ok_bind] at hentry
  cases filename with
  | str filename =>
    obtain ⟨document, hdocument, hloaded⟩ := bind_ok.mp hloaded
    obtain ⟨id, -, hloaded⟩ := bind_ok.mp hloaded
    obtain ⟨-, hloaded⟩ := seq_ok.mp hloaded
    have hread : files.read (files.target filename) = some document := by
      rw [load] at hdocument
      split at hdocument
      · rename_i v hv
        cases hdocument
        exact hv
      · cases hdocument
    cases uri with
    | str uri =>
      cases hloaded
      cases hentry
      exact .inr ⟨uri, filename, document, rfl, rfl, hread, hget hfilename⟩
    | list xs => cases hloaded
    | dict items => cases hloaded
    | _ =>
      cases hloaded
      cases hentry
      exact .inl ⟨rfl, rfl⟩
  | _ => cases hloaded

/-- The loaded documents are those at the registered files. -/
theorem loaded_eq {resources : List Val} {loaded : List (Option (String × Val))} {entries : List (String × String)}
    (hloaded : resources.mapM files.loadResource = .ok loaded) (hentries : registered resources = .ok entries) :
    loaded.filterMap id = entries.map (fun entry => (entry.1, (files.read (files.target entry.2)).getD .none)) ∧
      ∀ entry ∈ entries, (files.read (files.target entry.2)).isSome ∧
        ∃ resource ∈ resources, resource.getOf "file" = .ok (.str entry.2) := by
  obtain ⟨items, hitems, hentries⟩ := bind_ok.mp hentries
  cases hentries
  clear hentries
  induction resources generalizing loaded items with
  | nil =>
    cases hloaded
    cases hitems
    exact ⟨rfl, List.forall_mem_nil _⟩
  | cons resource resources ih =>
    rw [List.mapM_cons] at hloaded hitems
    obtain ⟨first, hfirst, hloaded⟩ := bind_ok.mp hloaded
    obtain ⟨rest, hrest, hloaded⟩ := bind_ok.mp hloaded
    cases hloaded
    obtain ⟨item, hitem, hitems⟩ := bind_ok.mp hitems
    obtain ⟨items', hitems', hitems⟩ := bind_ok.mp hitems
    cases hitems
    obtain ⟨heq, hentries⟩ := ih hrest items' hitems'
    have hlater : ∀ entry ∈ items'.filterMap id, (files.read (files.target entry.2)).isSome ∧
        ∃ r ∈ resource :: resources, r.getOf "file" = .ok (.str entry.2) := by
      intro entry hentry
      obtain ⟨hread, r, hr, hfile⟩ := hentries entry hentry
      exact ⟨hread, r, List.mem_cons_of_mem _ hr, hfile⟩
    rcases loadResource_registered hfirst hitem with ⟨rfl, rfl⟩ | ⟨uri, filename, document, rfl, rfl, hread, hfile⟩
    · exact ⟨heq, hlater⟩
    · simp only [List.filterMap_cons, id, List.map_cons, hread, Option.getD_some, List.cons.injEq, true_and, List.forall_mem_cons,
        Option.isSome_some]
      exact ⟨heq, ⟨resource, List.mem_cons_self, hfile⟩, hlater⟩

theorem lookup_mapValue {α β : Type} (g : α → β) {l : List (String × α)} {key : String} {a : α} (h : l.lookup key = some a) :
    (l.map fun p => (p.1, g p.2)).lookup key = some (g a) := by
  induction l with
  | nil => cases h
  | cons p l ih =>
    rw [List.lookup_cons] at h
    rw [List.map_cons, List.lookup_cons]
    split at h
    · cases h
      rfl
    · exact ih h

variable [Runtime]

/-- A bundle that the report finds intact, and whose registry is plain. -/
structure Intact (files : DocumentationFiles) (jsonschema : Bool) (entries : List (String × String)) (registry : SchemaRegistry) : Prop where
  loaded : files.loadSchemaRegistry jsonschema .subset = .ok registry
  resources : registry.resources =
    (entries.map fun entry => (entry.1, (files.read (files.target entry.2)).getD .none)).reverse
  parsed : ∀ entry ∈ entries, ∃ document, files.parsed (files.target entry.2) = some document
  plain : ∀ entry ∈ entries, ∃ name, files.target entry.2 = files.directory ++ [name] ∧
    ".schema.json".toList.isSuffixOf name.toList = true
  resolved : files.unresolved entries = []

omit [Runtime] in
theorem sortedTexts_eq_nil {texts : List String} (h : (sortedTexts texts).isEmpty = true) : texts = [] := by
  rw [List.isEmpty_iff, sortedTexts] at h
  exact List.length_eq_zero_iff.mp (by rw [← List.length_insertionSort (· ≤ ·) texts, h]; rfl)

omit [Runtime] in
theorem parsed_of_mismatches {entries : List (String × String)} (hmissing : files.missing entries = [])
    (hmismatches : files.mismatches entries = .ok []) :
    ∀ entry ∈ entries, ∃ document, files.parsed (files.target entry.2) = some document := by
  intro entry hentry
  have hexists : files.pathExists (files.target entry.2) = true := by
    by_contra hnot
    have hmem : entry.2 ∈ files.missing entries :=
      List.mem_map.mpr ⟨entry, List.mem_filter.mpr ⟨hentry, by simpa using hnot⟩, rfl⟩
    rw [hmissing] at hmem
    cases hmem
  obtain ⟨found, hfound, hnone⟩ := bind_ok.mp hmismatches
  have hall : ∀ x ∈ found, x = none := by
    intro x hx
    cases x with
    | none => rfl
    | some filename =>
      have hmem : filename ∈ found.filterMap id := List.mem_filterMap.mpr ⟨_, hx, rfl⟩
      rw [Except.ok.inj hnone] at hmem
      cases hmem
  have hchecked : ∀ (l : List (String × String)) (found : List (Option String)), (l.mapM fun entry => do
      let id ← ((files.parsed (files.target entry.2)).getD (.dict [])).getOf "$id"
      return if id.eq (.str entry.1) then none else some entry.2 : Except Exc (List (Option String))) = .ok found →
      (∀ x ∈ found, x = none) → ∀ entry ∈ l, ∃ document, files.parsed (files.target entry.2) = some document := by
    intro l
    induction l with
    | nil => exact fun _ _ _ => List.forall_mem_nil _
    | cons first rest ih =>
      intro found hfound hall
      rw [List.mapM_cons] at hfound
      obtain ⟨x, hx, hfound⟩ := bind_ok.mp hfound
      obtain ⟨xs, hxs, hfound⟩ := bind_ok.mp hfound
      cases hfound
      refine List.forall_mem_cons.mpr ⟨?_, ih xs hxs fun y hy => hall y (List.mem_cons_of_mem _ hy)⟩
      obtain ⟨id, hid, hx⟩ := bind_ok.mp hx
      cases hparsed : files.parsed (files.target first.2) with
      | some document => exact ⟨document, rfl⟩
      | none =>
        rw [hparsed] at hid
        cases hid
        cases hx
        have hx : (if ((Dict.ofItems []).get "$id").eq (.str first.1) then none else some first.2) = none := hall _ List.mem_cons_self
        rw [show ((Dict.ofItems []).get "$id").eq (.str first.1) = false from rfl] at hx
        cases hx
  exact hchecked _ found hfound hall entry (List.mem_filter.mpr ⟨hentry, hexists⟩)

theorem intact_of_report {jsonschema : Bool} {report : IntegrityReport} (hplain : PlainRegistry files)
    (hreport : validateDocumentationBundle files jsonschema = .ok report) (hok : report.ok = true) :
    ∃ entries registry, Intact files jsonschema entries registry := by
  obtain ⟨resources, hresources, hreport⟩ := bind_ok.mp hreport
  obtain ⟨entries, hentries, hreport⟩ := bind_ok.mp hreport
  obtain ⟨idMismatches, hmismatches, hreport⟩ := bind_ok.mp hreport
  obtain ⟨schemaBackend, hbackend, hreport⟩ := bind_ok.mp hreport
  obtain ⟨scenarioCount, -, hreport⟩ := bind_ok.mp hreport
  obtain ⟨requiredRFcClasses, -, hreport⟩ := bind_ok.mp hreport
  cases hreport
  simp only [IntegrityReport.ok, Bool.and_eq_true, beq_iff_eq] at hok
  obtain ⟨⟨⟨⟨-, hmissing⟩, hid⟩, hunresolved⟩, hstandards⟩ := hok
  obtain rfl := sortedTexts_eq_nil hid
  unfold backendOf at hbackend
  split at hbackend
  · rename_i registry hregistry
    obtain ⟨-, hloaded⟩ := seq_ok.mp hregistry
    obtain ⟨value, hvalue, hloaded⟩ := bind_ok.mp hloaded
    obtain ⟨list, hlist, hloaded⟩ := bind_ok.mp hloaded
    obtain ⟨resources', hresources', hloaded⟩ := bind_ok.mp hloaded
    obtain ⟨loaded, hmap, hloaded⟩ := bind_ok.mp hloaded
    cases hloaded
    have hread : files.read files.registryPath = some value := by
      rw [load] at hvalue
      split at hvalue
      · rename_i v hv
        cases hvalue
        exact hv
      · cases hvalue
    have hparsed : files.parsed files.registryPath = some value := by
      rw [parsed, if_pos (List.contains_iff_mem.mpr hplain.listed), hread]
    have hunder : listUnder (some value) "resources" = list := by
      rw [getOfD] at hlist
      split at hlist
      · rename_i d hd
        cases hlist
        simp only [listUnder, Option.bind_some, hd]
      · cases hlist
    rw [hparsed, hunder] at hresources
    obtain rfl := Except.ok.inj (hresources.symm.trans hresources')
    obtain ⟨heq, hfiles⟩ := loaded_eq hmap hentries
    have hsubset : files.loadSchemaRegistry jsonschema .subset = .ok ⟨(loaded.filterMap id).reverse⟩ := by
      rw [loadSchemaRegistry, hvalue, ok_bind, hlist, ok_bind, hresources', ok_bind, hmap]
      rfl
    refine ⟨entries, _, hsubset, congrArg List.reverse heq, parsed_of_mismatches (sortedTexts_eq_nil hmissing) hmismatches, ?_,
      sortedTexts_eq_nil hunresolved⟩
    intro entry hentry
    obtain ⟨-, resource, hresource, hfile⟩ := hfiles entry hentry
    exact hplain.plain value resources hread (hunder ▸ hresources) resource hresource entry.2 hfile
  · exact absurd (Except.ok.inj (hbackend.trans (congrArg Except.ok hstandards))) (by decide)
  · exact absurd (Except.ok.inj (hbackend.trans (congrArg Except.ok hstandards))) (by decide)
  · cases hbackend

/-- A registered document is among the schemas that the report looks at. -/
theorem Intact.mem_schemas {jsonschema : Bool} {entries : List (String × String)} {registry : SchemaRegistry}
    (h : Intact files jsonschema entries registry) {uri : String} {document : Val}
    (hlookup : registry.resources.lookup uri = some document) :
    ∃ name, (files.directory ++ [name], document) ∈ files.schemas := by
  have hmem := mem_of_lookup hlookup
  rw [h.resources, List.mem_reverse] at hmem
  obtain ⟨entry, hentry, heq⟩ := List.mem_map.mp hmem
  obtain ⟨found, hfound⟩ := h.parsed entry hentry
  obtain ⟨name, hname, hsuffix⟩ := h.plain entry hentry
  obtain ⟨hlisted, hread⟩ := Option.ite_none_right_eq_some.mp hfound
  obtain rfl : found = document := by
    rw [hread, Option.getD_some] at heq
    exact (Prod.mk.inj heq).2
  rw [hname] at hlisted hread
  refine ⟨name, List.mem_filterMap.mpr ⟨_, List.contains_iff_mem.mp hlisted, ?_⟩⟩
  rw [hread, Option.bind_eq_bind, Option.bind_some, List.getLast?_concat, Option.getD_some, guard, if_pos hsuffix]
  rfl

theorem resolve_of_isUnresolved {jsonschema : Bool} {entries : List (String × String)} {registry : SchemaRegistry}
    (h : Intact files jsonschema entries registry) {reference : String} (hresolved : files.isUnresolved entries reference = false) :
    ∃ found, (∀ current, registry.resolve reference current = .ok found) ∧ Covered registry found := by
  unfold isUnresolved at hresolved
  split at hresolved
  · cases hresolved
  · rename_i hprefix
    dsimp only at hresolved
    split at hresolved
    · cases hresolved
    · rename_i filename hfilename
      split at hresolved
      · cases hresolved
      · rename_i document hdocument
        obtain ⟨found, hfound, hsub⟩ := resolvePointer_of_pointer ((Bool.not_eq_false' _).mp hresolved)
        have hread : files.read (files.target filename) = some document := (Option.ite_none_right_eq_some.mp hdocument).2
        have hlookup : registry.resources.lookup (String.ofList (partition '#' reference.toList).1) = some document := by
          have hmapped := lookup_mapValue (fun name => (files.read (files.target name)).getD .none) hfilename
          rw [hread, Option.getD_some] at hmapped
          rw [h.resources, ← List.map_reverse]
          exact hmapped
        refine ⟨found, fun current => ?_, _, document, hlookup, hsub⟩
        have hhead : (reference.toList.head? == some '#') = false := by
          rw [Bool.not_eq_true', Bool.not_eq_false] at hprefix
          obtain ⟨rest, hrest⟩ := List.isPrefixOf_iff_prefix.mp hprefix
          rw [← hrest]
          rfl
        unfold SchemaRegistry.resolve
        rw [hhead, if_neg Bool.false_ne_true, if_neg hprefix]
        dsimp only
        rw [hlookup]
        exact hfound

theorem Intact.resolvesAll {jsonschema : Bool} {entries : List (String × String)} {registry : SchemaRegistry}
    (h : Intact files jsonschema entries registry) : ResolvesAll registry := by
  intro uri document hlookup reference hreference
  obtain ⟨name, hname⟩ := h.mem_schemas hlookup
  refine resolve_of_isUnresolved h ?_
  by_contra hunresolved
  have hmem : (files.directory ++ [name]).getLast?.getD "" ++ ":" ++ reference ∈ files.unresolved entries := by
    refine List.mem_flatMap.mpr ⟨_, hname, ?_⟩
    rw [List.dropLast_concat, directory, List.getLast?_concat, if_neg (not_not.mpr rfl)]
    refine List.mem_filterMap.mpr ⟨_, hreference, ?_⟩
    rw [Bool.not_eq_false] at hunresolved
    simp only [beq_self_eq_true, hunresolved, if_true]
  rw [h.resolved] at hmem
  cases hmem

/-- If the report has nothing to object to, then the validator loads the schemas, every reference that it can come to
leads somewhere, also where its outcome is only tested and no issue of it is reported, and no issue says that one does not. -/
theorem intact_bundle_resolves (files : DocumentationFiles) (jsonschema : Bool) (report : IntegrityReport)
    (hplain : PlainRegistry files) (hreport : validateDocumentationBundle files jsonschema = .ok report) (hok : report.ok = true) :
    ∃ registry, files.loadSchemaRegistry jsonschema .subset = .ok registry ∧
      (∀ schemaRef items, registry.Reaches schemaRef (.dict items) → ∀ reference, ("$ref", .str reference) ∈ items →
        ∃ found, ∀ current, registry.resolve reference current = .ok found) ∧
      ∀ search depth value schemaRef issues, registry.validate search depth value schemaRef = .ok (.ok issues) →
        ∀ issue ∈ issues, ∀ reference current, registry.resolve reference current ≠ .error issue.message := by
  obtain ⟨entries, registry, hintact⟩ := intact_of_report hplain hreport hok
  refine ⟨registry, hintact.loaded, fun schemaRef items hreached reference => hreached.resolves hintact.resolvesAll, ?_⟩
  intro search depth value schemaRef issues hissues issue hissue reference current hresolve
  obtain ⟨schema, hschema, hissues⟩ := bind_ok.mp hissues
  have hquiet := quiet_validateAt hintact.resolvesAll search depth value schema "$" schema (covered_of_resolve hschema) issues
    (Except.ok.inj hissues)
  have hmessage := isReferenceError_of_resolve hresolve
  rw [hquiet issue hissue] at hmessage
  cases hmessage

/-- A bundle of one schema, which refers to a part of itself. -/
def exampleBundle : DocumentationFiles where
  root := ["archive"]
  jsonPaths := [
    ["archive", "GATE-D-R2", "PMIRI_GD-R2_SCHEMA_RESOURCE_REGISTRY_v0.1.json"],
    ["archive", "GATE-D-R2", "profile.schema.json"]]
  read path :=
    if path = ["archive", "GATE-D-R2", "profile.schema.json"] then
      some (.dict [
        ("$id", .str "pmiri://profile"),
        ("properties", .dict [("name", .dict [("$ref", .str "pmiri://profile#/$defs/text")])]),
        ("$defs", .dict [("text", .dict [("type", .str "string")])])])
    else some (.dict [("resources", .list [.dict [("uri", .str "pmiri://profile"), ("file", .str "profile.schema.json")]])])
  pathExists _ := true

omit [Runtime] in
theorem intact_bundle_resolves_example :
    letI := asciiRuntime
    ∃ registry, exampleBundle.loadSchemaRegistry true .subset = .ok registry ∧
      (∀ schemaRef items, registry.Reaches schemaRef (.dict items) → ∀ reference, ("$ref", .str reference) ∈ items →
        ∃ found, ∀ current, registry.resolve reference current = .ok found) ∧
      ∀ search depth value schemaRef issues, registry.validate search depth value schemaRef = .ok (.ok issues) →
        ∀ issue ∈ issues, ∀ reference current, registry.resolve reference current ≠ .error issue.message := by
  let := asciiRuntime
  have hplain : PlainRegistry exampleBundle := by
    refine ⟨List.mem_cons_self, ?_⟩
    intro registry resources hregistry hresources resource hresource filename hfilename
    cases hregistry
    cases hresources
    obtain rfl := List.mem_singleton.mp hresource
    cases hfilename
    exact ⟨"profile.schema.json", rfl, rfl⟩
  exact intact_bundle_resolves exampleBundle true ⟨2, 1, [], [], [], [], [], 0, 0, "standards"⟩ hplain rfl rfl

end DocumentationFiles

end Pmiri
