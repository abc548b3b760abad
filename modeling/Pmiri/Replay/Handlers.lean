import Pmiri.Canonical
import Pmiri.Python.Comprehension
import Pmiri.Python.Order

/-!
# The handler contract

`r_fc.py`: the handlers that run the cases, and the manifest that binds them
to one module by its digest. What Python's `inspect` and the file system say
of a handler is part of it.
-/

namespace Pmiri

open Py

/-- A callable that implements a case under test, with what is known of it. -/
structure CaseHandler where
  callable : Bool
  /-- `getattr(handler, "__module__", None)` -/
  moduleId : Val
  /-- `getattr(handler, "__qualname__", None)` -/
  qualifiedName : Val
  /-- `inspect.getsourcefile(handler) or inspect.getfile(handler)` -/
  sourceName : Except Exc String

/-- The handlers by case. -/
structure HandlerRegistry where
  items : List (String × CaseHandler)
  nodup : (items.map Prod.fst).Nodup

/-- What the file system says of source files. -/
structure SourceFiles where
  /-- `Path(name).resolve()` -/
  resolve : String → Except Exc String
  /-- `root / name`, for a name that is not absolute -/
  underRoot : String → String
  /-- `path.suffix.casefold() == ".py" and path.is_file()` -/
  isPython : String → Bool
  readBytes : String → Except Exc ByteArray

/-- The module, the source file and the symbol of a handler. -/
structure HandlerSource where
  moduleId : String
  path : String
  symbol : String

def HANDLER_MANIFEST_KIND : String := "PMIRI-GC-C1-R-FC-HANDLER-MANIFEST"
def HANDLER_MANIFEST_VERSION : String := "0.1"

def handlerManifestFields : List String :=
  ["artifact_kind", "version", "status", "module", "case_ids", "handlers", "handler_manifest_sha256"]

/-- `except (OSError, TypeError)` -/
def isInspectionFailure : Exc → Bool
  | .osError _ | .typeError _ => true
  | _ => false

/-- `except (OSError, TypeError, ValueError)` -/
def isContractFailure : Exc → Bool
  | .osError _ | .typeError _ | .valueError .. => true
  | _ => false

/-- `_handler_source` -/
def handlerSource (files : SourceFiles) (handler : CaseHandler) : Except Exc HandlerSource := do
  raiseIf (!handler.moduleId.isNonemptyStr) (.valueError "ValueError" "handler_module_id_missing")
  raiseIf (!handler.qualifiedName.isNonemptyStr) (.valueError "ValueError" "handler_qualified_name_missing")
  let sourceName ← handler.sourceName.mapError fun e =>
    if isInspectionFailure e then .valueError "ValueError" "handler_source_unavailable" else e
  let path ← files.resolve sourceName
  raiseIf (!files.isPython path) (.valueError "ValueError" "handler_source_not_python")
  return ⟨handler.moduleId.strText, path, handler.moduleId.strText ++ ":" ++ handler.qualifiedName.strText⟩

/-- `vs == sorted(set(vs))` -/
def isSortedSet (vs : List Val) : Except Exc Bool :=
  if !vs.all Val.hashable then .error (.typeError "unhashable type")
  else if vs.all Val.isStr then .ok (decide ((vs.map Val.strText).Pairwise (· < ·)))
  else if vs.all (·.num?.isSome) then .ok (decide ((vs.filterMap Val.num?).Pairwise (· < ·)))
  else if vs.all fun v => vs.all v.eq then .ok (vs.length = 1)
  else .error (.typeError "'<' not supported")

section

variable [Runtime]

/-- The symbols that the handlers have and the manifest does not. -/
def symbolMismatch (symbols : Dict) : List (String × HandlerSource) → Option String
  | [] => none
  | (caseId, source) :: rest =>
    if (symbols.get caseId).eq (.str source.symbol) then symbolMismatch symbols rest
    else some ("handler_symbol_mismatch:" ++ caseId)

/-- The checks of the sources against the module of the manifest. -/
def sourceContract (files : SourceFiles) (module symbols : Dict) (sources : List (String × HandlerSource)) :
    Except Exc (Option String) := do
  if sources.any fun s => !(module.get "module_id").eq (.str s.2.moduleId) then return some "handler_module_mismatch"
  match sources with
  | [] => return some "handler_source_file_mismatch"
  | (_, first) :: rest =>
    if rest.any fun s => s.2.path != first.path then return some "handler_source_file_mismatch"
    let declared ← files.resolve (files.underRoot (module.get "source_path").strText)
    if declared != first.path then return some "handler_source_path_mismatch"
    let content ← files.readBytes first.path
    if !(module.get "source_fingerprint").eq (.str (sha256Bytes content)) then
      return some "handler_source_fingerprint_mismatch"
    return symbolMismatch symbols sources

/-- The checks of the manifest and of the handlers that it declares. -/
def handlerContract (files : SourceFiles) (manifest : Dict) (handlers : List (String × CaseHandler))
    (selectedIds : List String) : Except Exc (Option String) := do
  if !manifest.keysAre handlerManifestFields then return some "handler_manifest_fields_invalid"
  let claimed := manifest.get "handler_manifest_sha256"
  if !isSha256 claimed || !claimed.eq (.str (sha256Json (manifest.without "handler_manifest_sha256").toVal)) then
    return some "handler_manifest_digest_mismatch"
  if differs manifest "artifact_kind" HANDLER_MANIFEST_KIND || differs manifest "version" HANDLER_MANIFEST_VERSION ||
      differs manifest "status" "READY_FOR_REPLAY" then return some "handler_manifest_identity_invalid"
  match (manifest.get "module").asDict with
  | none => return some "handler_manifest_module_invalid"
  | some module =>
    if differs module "entrypoint" "HANDLERS" then return some "handler_manifest_module_invalid"
    match manifest.get "case_ids", (manifest.get "handlers").asDict with
    | .list manifestIds, some symbols =>
      let sorted ← isSortedSet manifestIds
      if !sorted then return some "handler_manifest_cases_invalid"
      let covered ← Val.sameSet (symbols.keys.map .str) manifestIds
      if !covered then return some "handler_manifest_cases_invalid"
      if selectedIds.any fun caseId => !manifestIds.any (Val.str caseId).eq then return some "handler_manifest_case_missing"
      if selectedIds.any fun caseId => (handlers.lookup caseId).isNone then return some "case_handler_missing"
      if handlers.any fun h => !manifestIds.any (Val.str h.1).eq then return some "handler_case_not_declared"
      if !(module.get "module_id").isNonemptyStr || !(module.get "source_path").isNonemptyStr ||
          !isSha256 (module.get "source_fingerprint") then return some "handler_manifest_source_invalid"
      let sources ← handlers.mapM fun h => do return (h.1, ← handlerSource files h.2)
      if handlers.any fun h => !h.2.callable then return some "case_handler_not_callable"
      sourceContract files module symbols sources
    | .list manifestIds, none => do
      let _ ← isSortedSet manifestIds
      return some "handler_manifest_cases_invalid"
    | _, _ => return some "handler_manifest_cases_invalid"

/-- `_validate_handler_contract`: the reason why the handlers may not run. -/
def validateHandlerContract (files : SourceFiles) (manifest : Option Dict) (handlers : Option HandlerRegistry)
    (selectedIds : List String) : Except Exc (Option String) :=
  match manifest with
  | none => .ok (some "handler_manifest_absent")
  | some manifest =>
    match handlerContract files manifest ((handlers.map (·.items)).getD []) selectedIds with
    | .ok reason => .ok reason
    | .error e => if isContractFailure e then .ok (some "handler_manifest_validation_error") else .error e

end

end Pmiri
