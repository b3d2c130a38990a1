import WasmSandbox.Proofs.Boundary.Exposure
import WasmSandbox.Proofs.Context.ExportTypes
import WasmSandbox.Proofs.Environment.Cache

/-!
Contract: what compiling says of a module that the engine accepts.

Owns:
- that compiling succeeds exactly if all items of the module can cross, and then lists all of
  them with their types, and finds each export by its name and nothing by another name;
- that it fails otherwise, for the first item that cannot cross, and keeps nothing.

The artifact may be one that was kept.  It is then one of the same module, as long as no other
input that was compiled has the digest of this one.

Does not own: which artifact is handed out, and how long it is kept.
-/

namespace WasmSandbox

/-! ## Exports by name -/

/-- Where names are distinct, an export is found by its name. -/
theorem Artifact.export?_eq_some_iff {artifact : Artifact}
    (distinct : (artifact.exports.map ExportDecl.name).Nodup) {name : String}
    {declared : ExportDecl} :
    artifact.export? name = some declared ↔ declared ∈ artifact.exports ∧ declared.name = name := by
  constructor
  · intro found
    exact ⟨List.mem_of_find?_eq_some found, by simpa using List.find?_some found⟩
  · rintro ⟨member, rfl⟩
    exact find?_of_nodup distinct member

theorem Artifact.export?_eq_none_iff {artifact : Artifact} {name : String} :
    artifact.export? name = none ↔ name ∉ artifact.exports.map ExportDecl.name := by
  simp [export?]

/-- Where each name leads in the list of exports.  Of two exports with one name the later one
would count. -/
def Artifact.exportIndex (artifact : Artifact) : Std.HashMap String Nat :=
  .ofList (artifact.exports.map ExportDecl.name).zipIdx

/-- Where names are distinct, going by the index finds what a search of the list finds. -/
theorem Artifact.export?_eq_index {artifact : Artifact}
    (distinct : (artifact.exports.map ExportDecl.name).Nodup) (name : String) :
    artifact.export? name =
      artifact.exportIndex[name]?.bind fun position => artifact.exports[position]? := by
  by_cases declares : name ∈ artifact.exports.map ExportDecl.name
  · obtain ⟨declared, member, rfl⟩ := List.mem_map.1 declares
    obtain ⟨position, isThere⟩ := List.getElem?_of_mem member
    have apart : (artifact.exports.map ExportDecl.name).zipIdx.Pairwise
        fun one other => one.1 ≠ other.1 :=
      List.pairwise_map.1 (by rwa [List.zipIdx_map_fst])
    have indexed : artifact.exportIndex[declared.name]? = some position := by
      refine Std.HashMap.getElem?_ofList_of_mem (beq_self_eq_true declared.name)
        (apart.imp fun differ => beq_false_of_ne differ) ?_
      rw [List.mk_mem_zipIdx_iff_getElem?, List.getElem?_map, isThere, Option.map_some]
    rw [(Artifact.export?_eq_some_iff distinct).2 ⟨member, rfl⟩, indexed, Option.bind_some, isThere]
  · have indexed : artifact.exportIndex[name]? = none := by
      refine Std.HashMap.getElem?_ofList_of_contains_eq_false ?_
      rw [List.zipIdx_map_fst]
      simpa using declares
    rw [Artifact.export?_eq_none_iff.2 declares, indexed, Option.bind_none]

/-- Declared exports have the names of the exports that they declare. -/
theorem names_of_declares {module : Wasm.Module} {items : List Wasm.Export}
    {declareds : List ExportDecl}
    (declares : List.Forall₂ (DeclaresExport module) items declareds) :
    declareds.map ExportDecl.name = items.map Wasm.Export.name := by
  induction declares with
  | nil => rfl
  | cons declared _ inductionHypothesis =>
      rw [List.map_cons, List.map_cons, declared.1, inductionHypothesis]

namespace Environment

/-! ## Compiling -/

/-- What compiling says of an accepted module. -/
structure ExtractsSurface (environment : Environment) (input : List UInt8)
    (module : Wasm.Module) : Prop where
  /-- It succeeds exactly if every import and every export can cross. -/
  succeeds_iff : (∃ artifact after, environment.compile input = .ok (artifact, after)) ↔
    (∀ item ∈ module.imports, item.shape.Crosses) ∧ ∀ item ∈ module.exports, module.CanShow item
  /-- After a success all imports and exports are listed in order, with their types. -/
  listed : ∀ artifact after, environment.compile input = .ok (artifact, after) →
    List.Forall₂ DeclaresImport module.imports artifact.imports ∧
      List.Forall₂ (DeclaresExport module) module.exports artifact.exports
  /-- Each listed export is found by its name, and nothing by any other name. -/
  found : ∀ artifact after, environment.compile input = .ok (artifact, after) → ∀ name,
    (∀ declared, artifact.export? name = some declared ↔
      declared ∈ artifact.exports ∧ declared.name = name) ∧
    (artifact.export? name = none ↔ ∀ item ∈ module.exports, item.name ≠ name)
  /-- A failure is about the first import that cannot cross, or, if all imports can, about the
  first export that cannot. -/
  stays : ∀ error, environment.compile input = .error error →
    FirstOffender (fun item => item.shape.Crosses) ImportStays module.imports error ∨
      (∀ item ∈ module.imports, item.shape.Crosses) ∧
        FirstOffender module.CanShow (ExportStays module) module.exports error
  /-- Nothing is kept after a failure: neither was there anything for the input, nor is there. -/
  keepsNothing : ∀ error, environment.compile input = .error error →
    environment.act (.compile input) = environment ∧
      environment.cached? (Blake3.digest input) = none

variable {environment : Environment} {input : List UInt8} {module : Wasm.Module}

theorem describe_of_accepted {config : Config}
    (accepted : Wasm.Module.ofBytes (features config) input = .ok module) :
    config.describe input = (Surface.ofModule module).map fun surface =>
      ⟨surface.imports, surface.exports, module.name, Blake3.digest input⟩ := by
  rw [Config.describe, accepted]
  show (Surface.ofModule module >>= fun surface => pure _) = _
  cases Surface.ofModule module with
  | error error => rfl
  | ok surface => rfl

/-- Compiling comes to what the module shows of itself. -/
theorem compile_of_shown
    (accepted : Wasm.Module.ofBytes (features environment.config) input = .ok module)
    (shown : environment.shown input = environment.config.describe input) :
    (∃ artifact after surface, environment.compile input = .ok (artifact, after) ∧
        Surface.ofModule module = .ok surface ∧ artifact.imports = surface.imports ∧
          artifact.exports = surface.exports) ∨
      ∃ error, environment.compile input = .error error ∧
        Surface.ofModule module = .error error := by
  rw [describe_of_accepted accepted, Environment.shown] at shown
  cases compiled : environment.compile input with
  | error error =>
      cases extracted : Surface.ofModule module with
      | error reason =>
          rw [compiled, extracted] at shown
          cases shown
          exact .inr ⟨error, rfl, rfl⟩
      | ok surface =>
          rw [compiled, extracted] at shown
          contradiction
  | ok made =>
      cases extracted : Surface.ofModule module with
      | error reason =>
          rw [compiled, extracted] at shown
          contradiction
      | ok surface =>
          rw [compiled, extracted] at shown
          have same := Except.ok.inj shown
          exact .inl ⟨made.1, made.2, surface, rfl, rfl, congrArg Description.imports same,
            congrArg Description.exports same⟩

/-- Where the outcome is a list of all items, it is one for an accepted module. -/
theorem extracts_of_listed {artifact : Artifact} {after : Environment}
    (compiled : environment.compile input = .ok (artifact, after)) (valid : module.Valid)
    (importsCross : ∀ item ∈ module.imports, item.shape.Crosses)
    (exportsCross : ∀ item ∈ module.exports, module.CanShow item)
    (imports : List.Forall₂ DeclaresImport module.imports artifact.imports)
    (exports : List.Forall₂ (DeclaresExport module) module.exports artifact.exports) :
    environment.ExtractsSurface input module := by
  have names := names_of_declares exports
  have distinct : (artifact.exports.map ExportDecl.name).Nodup := by
    rw [names]
    exact valid.orderly.names
  refine ⟨⟨fun _ => ⟨importsCross, exportsCross⟩, fun _ => ⟨artifact, after, compiled⟩⟩,
    ?listed, ?found, ?stays, ?keepsNothing⟩
  case listed =>
    intro other later isOther
    obtain ⟨rfl, rfl⟩ := Prod.mk.inj (Except.ok.inj (compiled.symm.trans isOther))
    exact ⟨imports, exports⟩
  case found =>
    intro other later isOther name
    obtain ⟨rfl, rfl⟩ := Prod.mk.inj (Except.ok.inj (compiled.symm.trans isOther))
    refine ⟨fun declared => Artifact.export?_eq_some_iff distinct, ?_⟩
    rw [Artifact.export?_eq_none_iff, names]
    simp
  case stays =>
    intro error failed
    rw [compiled] at failed
    contradiction
  case keepsNothing =>
    intro error failed
    rw [compiled] at failed
    contradiction

/-- Where the outcome is a failure, it is one for an accepted module. -/
theorem extracts_of_failed {error : CompileError}
    (failed : environment.compile input = .error error)
    (stays : FirstOffender (fun item => item.shape.Crosses) ImportStays module.imports error ∨
      (∀ item ∈ module.imports, item.shape.Crosses) ∧
        FirstOffender module.CanShow (ExportStays module) module.exports error) :
    environment.ExtractsSurface input module := by
  have noSuccess : ∀ artifact after, environment.compile input ≠ .ok (artifact, after) := by
    intro artifact after compiled
    rw [failed] at compiled
    contradiction
  refine ⟨?succeeds, fun artifact after compiled => absurd compiled (noSuccess artifact after),
    fun artifact after compiled => absurd compiled (noSuccess artifact after), ?stays,
    ?keepsNothing⟩
  case succeeds =>
    constructor
    · rintro ⟨artifact, after, compiled⟩
      exact absurd compiled (noSuccess artifact after)
    · rintro ⟨importsCross, exportsCross⟩
      rcases stays with first | ⟨-, first⟩
      · obtain ⟨item, member, isBlamed⟩ := first.exists_blamed
        exact absurd (importsCross item member) isBlamed.1
      · obtain ⟨item, member, isBlamed⟩ := first.exists_blamed
        exact absurd (exportsCross item member) isBlamed.1
  case stays =>
    intro other alsoFailed
    obtain rfl := Except.error.inj (failed.symm.trans alsoFailed)
    exact stays
  case keepsNothing =>
    intro other alsoFailed
    refine ⟨act_of_error alsoFailed, ?_⟩
    have compiled := environment.compile_compiled input
    rw [alsoFailed] at compiled
    cases compiled with
    | failed absent fresh => exact absent

/-- An environment extracts the surface of a module of which it shows what its configuration
says. -/
theorem extracts_of_shown
    (accepted : Wasm.Module.ofBytes (features environment.config) input = .ok module)
    (shown : environment.shown input = environment.config.describe input) :
    environment.ExtractsSurface input module := by
  have valid := Wasm.Module.valid_of_ofBytes accepted
  have extraction := Surface.ofModule_extraction valid (Wasm.Module.fits_of_ofBytes accepted)
  rcases compile_of_shown accepted shown with
    ⟨artifact, after, surface, compiled, isSurface, sameImports, sameExports⟩ |
      ⟨error, failed, isError⟩
  · rw [isSurface] at extraction
    cases extraction with
    | complete _ importsCross exportsCross imports exports =>
        exact extracts_of_listed compiled valid importsCross exportsCross
          (by rw [sameImports]; exact imports) (by rw [sameExports]; exact exports)
  · rw [isError] at extraction
    cases extraction with
    | importStays _ first => exact extracts_of_failed failed (.inl first)
    | exportStays _ importsCross first =>
        exact extracts_of_failed failed (.inr ⟨importsCross, first⟩)

/-- Whatever was compiled, evicted or cleared before, an environment extracts the surface of
every module that the engine accepts, as long as no other input that was compiled has the
digest of this one. -/
theorem extractsSurface {id : EnvironmentId} {config : Config}
    (created : create id config = .ok environment) (acts : List CacheAct)
    (accepted : Wasm.Module.ofBytes (features config) input = .ok module)
    (unique : ∀ used ∈ acts.filterMap CacheAct.input?,
      Blake3.digest used = Blake3.digest input → used = input) :
    (environment.after acts).ExtractsSurface input module := by
  obtain ⟨sameConfig, faithful⟩ := faithful_of_create created acts
  exact extracts_of_shown (by rw [sameConfig]; exact accepted) (faithful.shown_of_unique unique)

/-! ## Two texts -/

/-- A module that exports a memory. -/
def memoryText : List UInt8 := "(memory (export \"m\") 1)".toUTF8.toList

/-- A module with an imported global whose content cannot cross. -/
def externText : List UInt8 := "(import \"e\" \"g\" (global externref))".toUTF8.toList

/-- An input that the engine accepts has a module. -/
theorem exists_of_accepted {limits : Wasm.Features} {text : List UInt8}
    (accepted : (Wasm.Module.ofBytes limits text).toBool = true) :
    ∃ module, Wasm.Module.ofBytes limits text = .ok module := by
  cases read : Wasm.Module.ofBytes limits text with
  | error diagnostic =>
      rw [read] at accepted
      contradiction
  | ok module => exact ⟨module, rfl⟩

/-- An environment that compiled the first text. -/
def compiledOnce : Environment := ofDefaults.after [.compile memoryText]

/-- The first module is found among what is kept, and the second one is refused. -/
theorem extractsSurface_of_texts :
    create ⟨0⟩ {} = .ok ofDefaults ∧ (compiledOnce.cached? (Blake3.digest memoryText)).isSome ∧
      (∃ module, Wasm.Module.ofBytes (features {}) memoryText = .ok module ∧
        compiledOnce.ExtractsSurface memoryText module) ∧
      ∃ module, Wasm.Module.ofBytes (features {}) externText = .ok module ∧
        compiledOnce.ExtractsSurface externText module := by
  have created : create ⟨0⟩ {} = .ok ofDefaults := rfl
  have isKept : (compiledOnce.cached? (Blake3.digest memoryText)).isSome := by decide +kernel
  refine ⟨created, isKept, ?found, ?refused⟩
  case found =>
    obtain ⟨module, accepted⟩ :=
      @exists_of_accepted (features {}) memoryText (by decide +kernel)
    exact ⟨module, accepted, extractsSurface created _ accepted (by decide +kernel)⟩
  case refused =>
    obtain ⟨module, accepted⟩ :=
      @exists_of_accepted (features {}) externText (by decide +kernel)
    exact ⟨module, accepted, extractsSurface created _ accepted (by decide +kernel)⟩

end Environment

end WasmSandbox
