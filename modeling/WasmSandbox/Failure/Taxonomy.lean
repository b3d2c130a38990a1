import WasmSandbox.Boundary.Item
import WasmSandbox.Failure.Kind
import WasmSandbox.Failure.Trap

/-!
Contract: the taxonomy of failures, one type for each sort of operation.

Owns:
- the failures of compilation, linking, calls, memories and host closures, and
  the one type that holds any of them;
- the class, the text and the cause of every failure;
- the chain of causes of a failure.

A failure that only forwards another one (`SandboxError` in all but one case,
and mismatches and traps under `CallError`) has the text and the cause of what
it holds.  A failure that holds its cause shows the text of the cause at the end
of its own.

Does not own: where failures are raised.
-/

namespace WasmSandbox

/-- Compilation failed, and nothing was produced. -/
inductive CompileError where
  | config (diagnostic : String)
  | malformed (diagnostic : String)
  | unsupported (item reason : String)
deriving DecidableEq, Repr

def CompileError.message : CompileError → String
  | config diagnostic => "engine configuration rejected: " ++ diagnostic
  | malformed diagnostic => "malformed module: " ++ diagnostic
  | unsupported item reason => "unsupported " ++ item ++ ": " ++ reason

/-- An access to a linear memory, or its creation, failed. -/
inductive MemoryError where
  | outOfBounds (offset length size : Nat)
  | foreignHandle
  | grow (reason : String)
  | limits (reason : String)
deriving DecidableEq, Repr

def MemoryError.message : MemoryError → String
  | outOfBounds offset length size =>
      "access [" ++ toString offset ++ ", " ++ toString offset ++ "+" ++ toString length ++
        ") out of bounds of " ++ toString size ++ "-byte memory"
  | foreignHandle => "memory does not belong to this execution context"
  | grow reason => "memory grow failed: " ++ reason
  | limits reason => "invalid memory limits: " ++ reason

mutual

/-- A host closure refused a call, by itself or because of a nested failure. -/
inductive HostError where
  | failed (message : String)
  | reentrant (cause : Failure)

/-- An invocation failed.  The context stays usable. -/
inductive CallError where
  | typeMismatch (mismatch : TypeMismatch)
  | trap (trap : Trap)
  | host (cause : HostError)
  | contract (violation : ContractViolation)
  | foreignHandle
  | internal (reason : String)

/-- An instantiation failed, and no instance was registered. -/
inductive LinkError where
  | environmentMismatch
  | missingImport (index : Nat) (module name : String) (expected : ItemType)
  | unexpectedImports (declared provided : Nat)
  | foreignImport (module name : String)
  | kindMismatch (module name : String) (expected provided : ItemKind)
  | signatureMismatch (module name : String) (expected provided : Signature)
  | incompatibleType (module name : String) (expected provided : ItemType)
  | duplicate (module name : String)
  | trapped (cause : CallError)
  | instantiate (reason : String)

/-- Any failure of the sandbox. -/
inductive SandboxError where
  | compile (error : CompileError)
  | link (error : LinkError)
  | call (error : CallError)
  | memory (error : MemoryError)
  | fuelDisabled

/-- A failure of any type, as a cause of another one. -/
inductive Failure where
  | mismatch (mismatch : TypeMismatch)
  | violation (violation : ContractViolation)
  | trap (trap : Trap)
  | host (error : HostError)
  | compile (error : CompileError)
  | link (error : LinkError)
  | call (error : CallError)
  | memory (error : MemoryError)
  | sandbox (error : SandboxError)

end

/-! ## Texts -/

mutual

def HostError.message : HostError → String
  | .failed message => message
  | .reentrant cause => "re-entrant call failed: " ++ cause.message

def CallError.message : CallError → String
  | .typeMismatch mismatch => mismatch.message
  | .trap trap => trap.message
  | .host cause => "host function failed: " ++ cause.message
  | .contract violation => "host function broke its result contract: " ++ violation.message
  | .foreignHandle => "handle does not belong to this execution context"
  | .internal reason => "internal runtime error: " ++ reason

def LinkError.message : LinkError → String
  | .environmentMismatch =>
      "artifact was compiled by a different environment than the context"
  | .missingImport index module name expected =>
      "missing import #" ++ toString index ++ " `" ++ module ++ "::" ++ name ++
        "`: expected " ++ expected.text
  | .unexpectedImports declared provided =>
      "artifact declares " ++ toString declared ++ " imports but " ++ toString provided ++
        " were provided"
  | .foreignImport module name =>
      "import `" ++ module ++ "::" ++ name ++ "` belongs to another execution context"
  | .kindMismatch module name expected provided =>
      "import `" ++ module ++ "::" ++ name ++ "`: expected " ++ expected.name ++
        ", provided " ++ provided.name
  | .signatureMismatch module name expected provided =>
      "import `" ++ module ++ "::" ++ name ++ "`: expected signature " ++ expected.text ++
        ", provided " ++ provided.text
  | .incompatibleType module name expected provided =>
      "import `" ++ module ++ "::" ++ name ++ "`: expected " ++ expected.text ++
        ", provided " ++ provided.text
  | .duplicate module name => "`" ++ module ++ "::" ++ name ++ "` is already defined"
  | .trapped cause => "instantiation aborted: " ++ cause.message
  | .instantiate reason => "instantiation failed: " ++ reason

def SandboxError.message : SandboxError → String
  | .compile error => error.message
  | .link error => error.message
  | .call error => error.message
  | .memory error => error.message
  | .fuelDisabled => "fuel metering is disabled for this environment"

def Failure.message : Failure → String
  | .mismatch mismatch => mismatch.message
  | .violation violation => violation.message
  | .trap trap => trap.message
  | .host error => error.message
  | .compile error => error.message
  | .link error => error.message
  | .call error => error.message
  | .memory error => error.message
  | .sandbox error => error.message

end

/-! ## Causes -/

namespace HostError

def cause? : HostError → Option Failure
  | failed _ => none
  | reentrant cause => some cause

/-- The refusal of a closure that passes on the failure of a nested call. -/
def ofCall (error : CallError) : HostError :=
  reentrant (.call error)

end HostError

/-- What a failed invocation rests on.  Mismatches and traps are forwarded and
add no cause. -/
def CallError.cause? : CallError → Option Failure
  | host cause => some (.host cause)
  | contract violation => some (.violation violation)
  | _ => none

/-- What a failed instantiation rests on. -/
def LinkError.cause? : LinkError → Option Failure
  | trapped cause => some (.call cause)
  | _ => none

/-- What any failure of the sandbox rests on; the wrapper adds nothing. -/
def SandboxError.cause? : SandboxError → Option Failure
  | link error => error.cause?
  | call error => error.cause?
  | _ => none

/-- What a failure rests on. -/
def Failure.cause? : Failure → Option Failure
  | host error => error.cause?
  | link error => error.cause?
  | call error => error.cause?
  | sandbox error => error.cause?
  | _ => none

mutual

/-- The causes of a refusal, the nearest first. -/
def HostError.chain : HostError → List Failure
  | .failed _ => []
  | .reentrant cause => cause :: cause.chain

/-- The causes of a failed invocation, the nearest first. -/
def CallError.chain : CallError → List Failure
  | .host cause => .host cause :: cause.chain
  | .contract violation => [.violation violation]
  | _ => []

/-- The causes of a failed instantiation, the nearest first. -/
def LinkError.chain : LinkError → List Failure
  | .trapped cause => .call cause :: cause.chain
  | _ => []

/-- The causes of any failure of the sandbox, the nearest first. -/
def SandboxError.chain : SandboxError → List Failure
  | .link error => error.chain
  | .call error => error.chain
  | _ => []

/-- The causes of a failure, the nearest first. -/
def Failure.chain : Failure → List Failure
  | .host error => error.chain
  | .link error => error.chain
  | .call error => error.chain
  | .sandbox error => error.chain
  | _ => []

end

/-! ## Classes -/

/-- The class of a failed invocation is that of what it holds. -/
def CallError.kind : CallError → FailureKind
  | typeMismatch _ => .typeMismatch
  | trap _ => .trap
  | host _ => .host
  | contract _ => .contract
  | foreignHandle => .foreignHandle
  | internal _ => .internal

/-- The class of any failure of the sandbox.  Of the memory failures only the
use of a foreign handle has a class of its own. -/
def SandboxError.kind : SandboxError → FailureKind
  | compile _ => .compile
  | link _ => .link
  | call error => error.kind
  | memory .foreignHandle => .foreignHandle
  | memory _ => .internal
  | fuelDisabled => .internal

/-- The trap that aborted an invocation, if that is why it failed. -/
def CallError.trap? : CallError → Option Trap
  | trap fault => some fault
  | _ => none

/-- The trap that aborted an instantiation, if that is why it failed. -/
def LinkError.trap? : LinkError → Option Trap
  | trapped cause => cause.trap?
  | _ => none

/-- The module and name of the import at fault, for the failures that have one. -/
def LinkError.import? : LinkError → Option (String × String)
  | missingImport _ module name _ => some (module, name)
  | foreignImport module name => some (module, name)
  | kindMismatch module name _ _ => some (module, name)
  | signatureMismatch module name _ _ => some (module, name)
  | incompatibleType module name _ _ => some (module, name)
  | duplicate module name => some (module, name)
  | _ => none

end WasmSandbox
