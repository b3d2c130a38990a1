import WasmSandbox.Context.Item
import WasmSandbox.Environment

/-!
Contract: what a host closure can do while it runs.

Owns:
- requests: what a closure can ask of its context without calling anything;
- closures as trees of interactions, which end with filled slots, with a refusal,
  or in a panic, and which may register functions, call, and link on the way.

A closure reaches its context through these interactions alone.  Its result slots
are a function of their position, so it can neither add nor remove one.

Does not own: what the interactions do.
-/

namespace WasmSandbox

/-- What a closure can ask of a context with host data `σ`. -/
inductive Request (σ : Type) where
  | id
  | data
  | modify (change : σ → σ)
  | fuel
  | signature (func : FuncHandle)
  | isHost (func : FuncHandle)
  | createMemory (type : MemoryType)
  | memoryType (memory : MemoryHandle)
  | memoryPages (memory : MemoryHandle)
  | memorySize (memory : MemoryHandle)
  | readMemory (memory : MemoryHandle) (offset : UInt64) (length : Nat)
  | writeMemory (memory : MemoryHandle) (offset : UInt64) (bytes : List UInt8)
  | readWord (memory : MemoryHandle) (offset : UInt64)
  | writeWord (memory : MemoryHandle) (offset : UInt64) (value : UInt32)
  | growMemory (memory : MemoryHandle) (delta : UInt64)
  | tableType (table : TableHandle)
  | tableSize (table : TableHandle)
  | createGlobal (type : GlobalType) (value : Val)
  | getGlobal (global : GlobalHandle)
  | setGlobal (global : GlobalHandle) (value : Val)
  | lookup (inst : InstanceHandle) (name : String)
  | exports (inst : InstanceHandle)
  | artifact (inst : InstanceHandle)

/-- The type of the answer to a request. -/
@[reducible]
def Request.Answer {σ : Type} : Request σ → Type
  | id => ContextId
  | data => σ
  | modify _ => Unit
  | fuel => Option Nat
  | signature _ => Option Signature
  | isHost _ => Option Bool
  | createMemory _ => Except MemoryError MemoryHandle
  | memoryType _ => Except MemoryError MemoryType
  | memoryPages _ => Except MemoryError Nat
  | memorySize _ => Except MemoryError Nat
  | readMemory _ _ _ => Except MemoryError (List UInt8)
  | writeMemory _ _ _ => Except MemoryError Unit
  | readWord _ _ => Except MemoryError UInt32
  | writeWord _ _ _ => Except MemoryError Unit
  | growMemory _ _ => Except MemoryError Nat
  | tableType _ => Option TableType
  | tableSize _ => Option Nat
  | createGlobal _ _ => Except CallError GlobalHandle
  | getGlobal _ => Except CallError Val
  | setGlobal _ _ => Except CallError Unit
  | lookup _ _ => Option Item
  | exports _ => List (String × Item)
  | artifact _ => Option Artifact

/-- The result slots of a closure: by position, what it wrote there. -/
abbrev Slots := Nat → Option Val

def Slots.empty : Slots := fun _ => none

def Slots.set (slots : Slots) (index : Nat) (value : Option Val) : Slots :=
  fun position => if position = index then value else slots position

/-- What is left of a closure that is running. -/
inductive Proc (σ : Type) where
  /-- The closure returns success. -/
  | finish (slots : Slots)
  /-- The closure returns a refusal. -/
  | fail (error : HostError)
  /-- The closure panics. -/
  | panic
  /-- The closure asks something of its context. -/
  | ask (request : Request σ) (next : request.Answer → Proc σ)
  /-- The closure registers a host function. -/
  | register (signature : Signature) (body : List Val → Proc σ) (next : FuncHandle → Proc σ)
  /-- The closure calls a function. -/
  | call (func : FuncHandle) (args : List Val) (next : Except CallError (List Val) → Proc σ)
  /-- The closure links an artifact. -/
  | link (artifact : Artifact) (imports : List Item)
      (next : Except LinkError InstanceHandle → Proc σ)

/-- A host closure: what it does with its arguments. -/
abbrev Closure (σ : Type) := List Val → Proc σ

end WasmSandbox
