import WasmSandbox.Context.Closure
import WasmSandbox.Context.FuncTable
import WasmSandbox.Wasm.Store

/-!
Contract: the state of a context.

Owns:
- the state: identity, host data, function table, instances, the number of nested
  calls, and the engine's state;
- handles of functions: new ones for host functions, and ones for guest functions
  that are first seen;
- values on their way into the engine and out of it.

Does not own: calls and linking.
-/

namespace WasmSandbox

open Wasm

/-- An instance that was linked: its number in the engine, and the artifact it was
made from.  Answers to look-ups of exports are not kept here. -/
structure InstanceEntry where
  owner : Nat
  artifact : Artifact

/-- An isolated context with host data `σ`. -/
structure Context (σ : Type) where
  id : ContextId
  environment : EnvironmentId
  data : σ
  funcs : FuncTable := {}
  instances : Array InstanceEntry := #[]
  /-- The number of calls in progress that went through the call routine. -/
  depth : Nat := 0
  store : Store (Closure σ)

namespace Context

variable {σ : Type}

/-- A fresh context of an environment. -/
def create (id : ContextId) (environment : Environment) (data : σ) : Context σ where
  id := id
  environment := environment.id
  data := data
  store :=
    { config := environment.config
      fuel := environment.config.fuelLimit.map fun fuel => (fuel.toNat : Int) }

variable (context : Context σ)

def config : Config := context.store.config

/-- The fuel that is left, where it is metered. -/
def fuel : Option Nat := context.store.fuelLeft

/-- The context with its fuel set anew, if it is metered. -/
def setFuel (fuel : UInt64) : Except SandboxError (Context σ) :=
  match context.config.fuelLimit with
  | some _ => .ok { context with store := { context.store with fuel := some fuel.toNat } }
  | none => .error .fuelDisabled

/-- The number of functions that have a handle. -/
def funcCount : Nat := context.funcs.count

def instanceCount : Nat := context.instances.size

/-! ## Functions -/

/-- The entry of a function, unless its handle belongs to another context. -/
def funcEntry? (func : FuncHandle) : Option FuncEntry :=
  if func.context = context.id then context.funcs.entry? func.index else none

def signature? (func : FuncHandle) : Option Signature :=
  (context.funcEntry? func).map FuncEntry.signature

def isHost? (func : FuncHandle) : Option Bool :=
  (context.funcEntry? func).map FuncEntry.isHost

/-- A new entry of the function table, with its handle. -/
def enterFunc (entry : FuncEntry) : FuncHandle × Context σ :=
  (⟨context.id, context.funcs.count⟩, { context with funcs := context.funcs.push entry })

/-- A new host function. -/
def createFunc (signature : Signature) (body : Closure σ) : FuncHandle × Context σ :=
  let (key, store) := context.store.addHost signature body
  { context with store := store }.enterFunc ⟨signature, key, key, true⟩

/-- The signature of a function that the engine hands out: `declared`, where it is
known, and what its type shows at the boundary otherwise. -/
def describeFunc (key : FuncKey) (declared : Option Signature) : Except String Signature :=
  match declared with
  | some signature => .ok signature
  | none =>
      match context.store.funcType? key with
      | some type => Signature.ofGuest type
      | none => .error "unknown function"

/-- The handle of a function that the engine hands out.  A function that is seen for
the first time gets one if its signature can cross the boundary; `declared` is that
signature, where it is known. -/
def handleOf (origin : FuncKey) (declared : Option Signature) :
    Except String FuncHandle × Context σ :=
  let (key, store) := context.store.emerge origin
  let context := { context with store := store }
  match context.funcs.find? key with
  | some index => (.ok ⟨context.id, index⟩, context)
  | none =>
      match context.describeFunc key declared with
      | .ok signature =>
          let (func, context) := context.enterFunc ⟨signature, key, origin, false⟩
          (.ok func, context)
      | .error reason => (.error reason, context)

/-! ## Values -/

/-- The reference that stands for a function in the engine.  Once references of its
type last, the one it came from is as good as its own, and is taken. -/
def reference (entry : FuncEntry) : FuncKey :=
  if context.store.isAdapted entry.signature then entry.origin else entry.key

/-- A value on its way into the engine. -/
def lower (value : Val) : Except CallError Value :=
  match value with
  | .i32 bits => .ok (.i32 bits)
  | .i64 bits => .ok (.i64 bits)
  | .f32 bits => .ok (.f32 bits)
  | .f64 bits => .ok (.f64 bits)
  | .funcRef none => .ok (.funcRef none)
  | .funcRef (some func) =>
      match context.funcEntry? func with
      | some entry => .ok (.funcRef (some (context.reference entry)))
      | none => .error .foreignHandle

/-- A value of the given kind on its way out of the engine. -/
def lift (value : Value) (kind : ValueKind) : Except CallError Val × Context σ :=
  match value, kind with
  | .i32 bits, .i32 => (.ok (.i32 bits), context)
  | .i64 bits, .i64 => (.ok (.i64 bits), context)
  | .f32 bits, .f32 => (.ok (.f32 bits), context)
  | .f64 bits, .f64 => (.ok (.f64 bits), context)
  | .funcRef none, .funcRef => (.ok (.funcRef none), context)
  | .funcRef (some key), .funcRef =>
      match context.handleOf key none with
      | (.ok func, context) => (.ok (.funcRef (some func)), context)
      | (.error reason, context) => (.error (.internal reason), context)
  | value, kind =>
      (.error (.internal
        ("engine produced " ++ value.shown ++ " where " ++ kind.name ++ " was declared")),
        context)

/-- Values of the given kinds on their way out of the engine, up to the first one
that cannot go. -/
def liftAll (context : Context σ) :
    List Value → List ValueKind → Except CallError (List Val) × Context σ
  | value :: values, kind :: kinds =>
      match context.lift value kind with
      | (.error error, context) => (.error error, context)
      | (.ok first, context) =>
          match liftAll context values kinds with
          | (.error error, context) => (.error error, context)
          | (.ok rest, context) => (.ok (first :: rest), context)
  | _, _ => (.ok [], context)

/-! ## Instances -/

/-- The instance behind a handle, unless it belongs to another context. -/
def instanceEntry? (inst : InstanceHandle) : Option InstanceEntry :=
  if inst.context = context.id then context.instances[inst.index]? else none

/-- A new instance at the end of the list. -/
def addInstance (entry : InstanceEntry) : InstanceHandle × Context σ :=
  (⟨context.id, context.instances.size⟩,
    { context with instances := context.instances.push entry })

def artifact? (inst : InstanceHandle) : Option Artifact :=
  (context.instanceEntry? inst).map InstanceEntry.artifact

end Context

end WasmSandbox
