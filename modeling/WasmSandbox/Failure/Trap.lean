/-!
Contract: runtime faults of guest code.

Owns:
- the reasons a trap can have, and their texts;
- the trap record: reason, explanation, and whether a backtrace was captured;
- the faults the engine tells apart, with their explanations, and the reason
  each of them is reported under.

Does not own: the text of backtraces.
-/

namespace WasmSandbox

/-- The reason of a trap. -/
inductive TrapCode where
  | memoryOutOfBounds
  | misalignedAccess
  | tableOutOfBounds
  | indirectCallToNull
  | indirectCallTypeMismatch
  | nullReference
  | integerOverflow
  | integerDivisionByZero
  | badConversionToInteger
  | unreachable
  | stackOverflow
  | outOfFuel
  | interrupt
  | callDepthExceeded
  | other
deriving DecidableEq, Repr

namespace TrapCode

def text : TrapCode → String
  | memoryOutOfBounds => "memory out of bounds"
  | misalignedAccess => "misaligned memory access"
  | tableOutOfBounds => "table out of bounds"
  | indirectCallToNull => "indirect call to null"
  | indirectCallTypeMismatch => "indirect call type mismatch"
  | nullReference => "null reference"
  | integerOverflow => "integer overflow"
  | integerDivisionByZero => "integer division by zero"
  | badConversionToInteger => "invalid conversion to integer"
  | unreachable => "unreachable"
  | stackOverflow => "stack overflow"
  | outOfFuel => "out of fuel"
  | interrupt => "interrupted"
  | callDepthExceeded => "call depth exceeded"
  | other => "trap"

def name : TrapCode → String
  | memoryOutOfBounds => "MemoryOutOfBounds"
  | misalignedAccess => "MisalignedAccess"
  | tableOutOfBounds => "TableOutOfBounds"
  | indirectCallToNull => "IndirectCallToNull"
  | indirectCallTypeMismatch => "IndirectCallTypeMismatch"
  | nullReference => "NullReference"
  | integerOverflow => "IntegerOverflow"
  | integerDivisionByZero => "IntegerDivisionByZero"
  | badConversionToInteger => "BadConversionToInteger"
  | unreachable => "Unreachable"
  | stackOverflow => "StackOverflow"
  | outOfFuel => "OutOfFuel"
  | interrupt => "Interrupt"
  | callDepthExceeded => "CallDepthExceeded"
  | other => "Other"

end TrapCode

/-- A fault that aborted one call or instantiation. -/
structure Trap where
  code : TrapCode
  explanation : String
  backtrace : Bool
deriving DecidableEq, Repr

/-- The text of a trap gives its reason and its explanation. -/
def Trap.message (trap : Trap) : String :=
  "trap (" ++ trap.code.text ++ "): " ++ trap.explanation

/-- The faults the engine tells apart. -/
inductive GuestFault where
  | stackOverflow
  | memoryOutOfBounds
  | misaligned
  | tableOutOfBounds
  | indirectCallToNull
  | badSignature
  | integerOverflow
  | integerDivisionByZero
  | badConversionToInteger
  | unreachable
  | interrupt
  | alwaysTrapAdapter
  | outOfFuel
  | atomicWaitNonSharedMemory
  | nullReference
  | arrayOutOfBounds
  | allocationTooLarge
  | castFailure
  | cannotEnterComponent
  | noAsyncResult
deriving DecidableEq, Repr

namespace GuestFault

/-- The reason under which a fault is reported.  Faults of features that are
switched off have no reason of their own. -/
def code : GuestFault → TrapCode
  | stackOverflow => .stackOverflow
  | memoryOutOfBounds => .memoryOutOfBounds
  | misaligned => .misalignedAccess
  | tableOutOfBounds => .tableOutOfBounds
  | indirectCallToNull => .indirectCallToNull
  | badSignature => .indirectCallTypeMismatch
  | integerOverflow => .integerOverflow
  | integerDivisionByZero => .integerDivisionByZero
  | badConversionToInteger => .badConversionToInteger
  | unreachable => .unreachable
  | interrupt => .interrupt
  | outOfFuel => .outOfFuel
  | nullReference => .nullReference
  | _ => .other

/-- What a fault means. -/
def description : GuestFault → String
  | stackOverflow => "call stack exhausted"
  | memoryOutOfBounds => "out of bounds memory access"
  | misaligned => "unaligned atomic"
  | tableOutOfBounds => "undefined element: out of bounds table access"
  | indirectCallToNull => "uninitialized element"
  | badSignature => "indirect call type mismatch"
  | integerOverflow => "integer overflow"
  | integerDivisionByZero => "integer divide by zero"
  | badConversionToInteger => "invalid conversion to integer"
  | unreachable => "wasm `unreachable` instruction executed"
  | interrupt => "interrupt"
  | alwaysTrapAdapter => "degenerate component adapter called"
  | outOfFuel => "all fuel consumed by WebAssembly"
  | atomicWaitNonSharedMemory => "atomic wait on non-shared memory"
  | nullReference => "null reference"
  | arrayOutOfBounds => "out of bounds array access"
  | allocationTooLarge => "allocation size too large"
  | castFailure => "cast failure"
  | cannotEnterComponent => "cannot enter component instance"
  | noAsyncResult => "async-lifted export failed to produce a result"

def name : GuestFault → String
  | stackOverflow => "StackOverflow"
  | memoryOutOfBounds => "MemoryOutOfBounds"
  | misaligned => "HeapMisaligned"
  | tableOutOfBounds => "TableOutOfBounds"
  | indirectCallToNull => "IndirectCallToNull"
  | badSignature => "BadSignature"
  | integerOverflow => "IntegerOverflow"
  | integerDivisionByZero => "IntegerDivisionByZero"
  | badConversionToInteger => "BadConversionToInteger"
  | unreachable => "UnreachableCodeReached"
  | interrupt => "Interrupt"
  | alwaysTrapAdapter => "AlwaysTrapAdapter"
  | outOfFuel => "OutOfFuel"
  | atomicWaitNonSharedMemory => "AtomicWaitNonSharedMemory"
  | nullReference => "NullReference"
  | arrayOutOfBounds => "ArrayOutOfBounds"
  | allocationTooLarge => "AllocationTooLarge"
  | castFailure => "CastFailure"
  | cannotEnterComponent => "CannotEnterComponent"
  | noAsyncResult => "NoAsyncResult"

/-- All faults, in the order of their declaration. -/
def all : List GuestFault :=
  [stackOverflow, memoryOutOfBounds, misaligned, tableOutOfBounds, indirectCallToNull,
   badSignature, integerOverflow, integerDivisionByZero, badConversionToInteger, unreachable,
   interrupt, alwaysTrapAdapter, outOfFuel, atomicWaitNonSharedMemory, nullReference,
   arrayOutOfBounds, allocationTooLarge, castFailure, cannotEnterComponent, noAsyncResult]

def ofName? (text : String) : Option GuestFault :=
  all.find? fun fault => fault.name == text

/-- The text of a fault. -/
def text (fault : GuestFault) : String := "wasm trap: " ++ fault.description

/-- The trap a fault is reported as. -/
def trap (fault : GuestFault) (backtrace : Bool) : Trap :=
  ⟨fault.code, fault.text, backtrace⟩

end GuestFault

end WasmSandbox
