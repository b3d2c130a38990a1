import WasmSandbox.Boundary.Surface
import WasmSandbox.Bytes.Hex
import WasmSandbox.Config
import WasmSandbox.Digest.Blake3
import WasmSandbox.Wasm.Form

/-!
Contract: environments, which compile modules to artifacts and keep the artifacts
they have given out.

Owns:
- artifacts with their identity: the environment, and a number within it;
- environments, the switches of the engine that follow from a configuration, and
  the configurations the engine refuses;
- the cache by digest of the input: hits, eviction and clearing.

Numbers of artifacts are never used twice, so an artifact that was evicted differs
from every later one.

Does not own: which modules are valid, and what they show of themselves.
-/

namespace WasmSandbox

/-- The identity of an environment. -/
structure EnvironmentId where
  number : Nat
deriving DecidableEq, Repr

/-- A compiled module.  Its surface is what the module shows of itself. -/
structure Artifact where
  environment : EnvironmentId
  /-- The number of the compilation within the environment. -/
  serial : Nat
  module : Wasm.Module
  digest : List UInt8
  surface : Surface
  surface_eq : Surface.ofModule module = .ok surface
deriving Repr

namespace Artifact

def name (artifact : Artifact) : Option String := artifact.module.name

/-- The declared imports, in order. -/
def imports (artifact : Artifact) : List ImportDecl := artifact.surface.imports

/-- The declared exports, in order. -/
def exports (artifact : Artifact) : List ExportDecl := artifact.surface.exports

/-- The declared export of a name.  A search of the list stands for an index from names
to positions in it: the names of the exports of a valid module are distinct, so the two
find the same (`WasmSandbox.Artifact.export?_eq_index`). -/
def export? (artifact : Artifact) (name : String) : Option ExportDecl :=
  artifact.exports.find? fun item => item.name == name

def digestText (artifact : Artifact) : String := Hex.encode artifact.digest

/-- Whether two artifacts come from the same compilation. -/
def same (a b : Artifact) : Bool :=
  a.environment = b.environment && a.serial = b.serial

/-- The text of an artifact: its digest, and how many items it has. -/
def text (artifact : Artifact) : String :=
  "Artifact \x7b digest: \"" ++ artifact.digestText ++ "\", imports: " ++
    toString artifact.imports.length ++ ", exports: " ++ toString artifact.exports.length ++ " \x7d"

end Artifact

/-- An environment: its configuration, and the artifacts it keeps, each under the
digest of its input. -/
structure Environment where
  id : EnvironmentId
  config : Config
  cache : List (List UInt8 × Artifact) := []
  nextSerial : Nat := 0

namespace Environment

/-- The proposals that the engine accepts.  Those whose results may differ between
machines are refused where results must be deterministic. -/
def features (config : Config) : Wasm.Features :=
  ⟨!config.deterministic, !config.deterministic, !config.deterministic⟩

/-- A fresh environment.  The engine refuses to run without a stack. -/
def create (id : EnvironmentId) (config : Config) : Except CompileError Environment :=
  if config.maxWasmStack = 0 then .error (.config "max_wasm_stack size cannot be zero")
  else .ok { id := id, config := config }

variable (environment : Environment)

def cached? (digest : List UInt8) : Option Artifact :=
  if environment.config.cacheArtifacts then environment.cache.lookup digest else none

/-- A compilation that ignores the cache. -/
def compileFresh (input digest : List UInt8) : Except CompileError Artifact := do
  let module ←
    match Wasm.Module.ofBytes (features environment.config) input with
    | .ok module => pure module
    | .error diagnostic => throw (.malformed diagnostic)
  match described : Surface.ofModule module with
  | .ok surface =>
      return ⟨environment.id, environment.nextSerial, module, digest, surface, described⟩
  | .error error => throw error

/-- Compiles a module from its binary or its text form.  The same input gives the
same artifact as long as it is kept. -/
def compile (input : List UInt8) : Except CompileError (Artifact × Environment) := do
  let digest := Blake3.digest input
  match environment.cached? digest with
  | some artifact => return (artifact, environment)
  | none =>
      let artifact ← environment.compileFresh input digest
      let kept := { environment with nextSerial := environment.nextSerial + 1 }
      if environment.config.cacheArtifacts then
        return (artifact, { kept with cache := (digest, artifact) :: environment.cache })
      else return (artifact, kept)

/-- Drops an artifact, if it is the one that is kept under its digest, and says
whether it was. -/
def evict (artifact : Artifact) : Bool × Environment :=
  match environment.cached? artifact.digest with
  | some kept =>
      if kept.same artifact then
        (true, { environment with
          cache := environment.cache.filter fun entry => entry.1 ≠ artifact.digest })
      else (false, environment)
  | none => (false, environment)

def clearCache : Environment :=
  { environment with cache := [] }

def cachedArtifacts : Nat := environment.cache.length

def text : String :=
  "Environment \x7b config: " ++ environment.config.text ++ ", cached_artifacts: " ++
    toString environment.cachedArtifacts ++ " \x7d"

end Environment

end WasmSandbox
