/-!
Contract: the class every failure of the sandbox belongs to.

Owns:
- the eight classes and their names.

Does not own: the failures themselves, or the rule that classifies them.
-/

namespace WasmSandbox

/-- What a failure is about, whichever operation reports it. -/
inductive FailureKind where
  /-- A configuration or module that cannot be compiled. -/
  | compile
  /-- Imports that do not satisfy an artifact, or an instantiation that failed. -/
  | link
  /-- A fault of guest code. -/
  | trap
  /-- A host closure that refused. -/
  | host
  /-- Arguments that do not fit a signature. -/
  | typeMismatch
  /-- Results that do not fit a signature. -/
  | contract
  /-- A handle used with a context that does not own it. -/
  | foreignHandle
  /-- Everything else. -/
  | internal
deriving DecidableEq, Repr

def FailureKind.name : FailureKind → String
  | compile => "compile"
  | link => "link"
  | trap => "trap"
  | host => "host"
  | typeMismatch => "type-mismatch"
  | contract => "contract"
  | foreignHandle => "foreign-handle"
  | internal => "internal"

end WasmSandbox
