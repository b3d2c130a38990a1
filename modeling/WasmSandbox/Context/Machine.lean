import WasmSandbox.Context.Linking
import WasmSandbox.Failure.Engine
import WasmSandbox.Wasm.Activation

/-!
Contract: calls, in both directions and to any depth, one step at a time.

Owns:
- what waits for a host closure, for guest code, for a call, and for a link to end;
- the states of a run, and the step from one to the next;
- the call routine with its checks, the check of result slots, and the way of a
  failure through frames of the guest and of the host: into an error of the engine where
  a closure is called as an import, and out of it where a call or a link began.

Only the call routine counts as a nested call: calls by the embedder and by
closures.  Guest code that calls an import, and start functions, do not count.  A
panic ends the run at once, and no count is taken back.

Does not own: runs of many steps (`WasmSandbox.Context.Call`).
-/

namespace WasmSandbox

open Wasm

/-! ## What waits -/

mutual

/-- What waits for a host closure. -/
inductive HostCont (σ : Type) where
  /-- The call routine entered the closure of a function. -/
  | called (func : FuncHandle) (signature : Signature) (wait : CallWait σ)
  /-- Guest code called the closure as an import. -/
  | imported (signature : Signature) (below : GuestCont σ)

/-- What waits for the values of guest code. -/
inductive GuestCont (σ : Type) where
  /-- Other guest code. -/
  | frame (activation : Activation) (below : GuestCont σ)
  /-- The call routine entered the guest code of a function. -/
  | called (func : FuncHandle) (signature : Signature) (wait : CallWait σ)
  /-- The code is the start function of an instance that is being linked. -/
  | starting (made : InstanceEntry) (wait : LinkWait σ)

/-- What waits for the call routine: the embedder, or a closure. -/
inductive CallWait (σ : Type) where
  | embedder
  | closure (next : Except CallError (List Val) → Proc σ) (below : HostCont σ)

/-- What waits for a link: the embedder, or a closure. -/
inductive LinkWait (σ : Type) where
  | embedder
  | closure (next : Except LinkError InstanceHandle → Proc σ) (below : HostCont σ)

end

mutual

def HostCont.level {σ : Type} : HostCont σ → Nat
  | .called _ _ wait => wait.level
  | .imported _ below => below.level

/-- The number of activations that wait. -/
def GuestCont.level {σ : Type} : GuestCont σ → Nat
  | .frame activation _ => activation.level + 1
  | .called _ _ wait => wait.level
  | .starting _ wait => wait.level

def CallWait.level {σ : Type} : CallWait σ → Nat
  | .embedder => 0
  | .closure _ below => below.level

def LinkWait.level {σ : Type} : LinkWait σ → Nat
  | .embedder => 0
  | .closure _ below => below.level

end

def HostCont.signature {σ : Type} : HostCont σ → Signature
  | .called _ signature _ => signature
  | .imported signature _ => signature

/-- Where a run is. -/
inductive RunState (σ : Type) where
  /-- A closure is about to start on its arguments. -/
  | invoking (body : Closure σ) (args : List Val) (cont : HostCont σ)
  /-- A closure is running. -/
  | closure (proc : Proc σ) (cont : HostCont σ)
  /-- Guest code is running. -/
  | guest (activation : Activation) (cont : GuestCont σ)
  /-- A function of the engine is about to run. -/
  | entering (func : FuncKey) (args : List Value) (cont : GuestCont σ)
  /-- Values go to what waits for guest code. -/
  | returning (values : List Value) (cont : GuestCont σ)
  /-- An error of the engine goes to what waits for guest code. -/
  | raising (error : EngineError) (cont : GuestCont σ)
  /-- The call routine, which counted the call of a function, is about to return. -/
  | leaving (func : FuncHandle) (signature : Signature)
      (result : Except CallError (List Val)) (wait : CallWait σ)
  /-- A call of the embedder is over. -/
  | called (result : Except CallError (List Val))
  /-- A link of the embedder is over. -/
  | linked (result : Except LinkError InstanceHandle)
  /-- A closure or the engine panicked. -/
  | panicked

/-- A context, and where its run is. -/
abbrev Run (σ : Type) := Context σ × RunState σ

namespace Context

variable {σ : Type} (context : Context σ)

/-! ## Ends -/

/-- The result of a call goes to what waits for it. -/
def deliverCall (result : Except CallError (List Val)) : CallWait σ → Run σ
  | .embedder => (context, .called result)
  | .closure next below => (context, .closure (next result) below)

/-- The result of a link goes to what waits for it. -/
def deliverLink (result : Except LinkError InstanceHandle) : LinkWait σ → Run σ
  | .embedder => (context, .linked result)
  | .closure next below => (context, .closure (next result) below)

/-- A call that was counted is over. -/
def endCall (result : Except CallError (List Val)) (wait : CallWait σ) : Run σ :=
  { context with depth := context.depth - 1 }.deliverCall result wait

/-- An instance is linked. -/
def finishLink (made : InstanceEntry) (wait : LinkWait σ) : Run σ :=
  let (inst, context) := context.addInstance made
  context.deliverLink (.ok inst) wait

/-! ## Host closures -/

/-- The slots of a closure honour the signature when each holds a value of the
declared kind that belongs to the context. -/
def checkSlots (signature : Signature) (slots : Slots) : Except CallError (List Val) :=
  let written := (List.range signature.results.length).map slots
  match signature.checkResults (written.map fun slot => slot.map Val.kind) with
  | .error violation => .error (.contract violation)
  | .ok () =>
      match written.findIdx? fun slot => slot.any fun value => !value.belongsTo context.id with
      | some index => .error (.contract (.foreignReference index))
      | none => .ok written.reduceOption

/-- The end of a closure, with a result that was checked.  Guest code takes the
values of an import as the engine's own, and a failure as an error of the engine. -/
def finishClosure (result : Except CallError (List Val)) : HostCont σ → Run σ
  | .called func signature wait => (context, .leaving func signature result wait)
  | .imported _ below =>
      match result with
      | .error error => (context, .raising (.box error) below)
      | .ok values =>
          match values.mapM context.lower with
          | .ok values => (context, .returning values below)
          | .error error => (context, .raising (.box error) below)

/-! ## Calls -/

/-- The checks of the call routine, in their order: the function belongs to the
context, the arguments fit its signature, references among them belong to the
context, and there are not too many nested calls. -/
def checkCall (func : FuncHandle) (args : List Val) : Except CallError FuncEntry :=
  match context.funcEntry? func with
  | none => .error .foreignHandle
  | some entry =>
      match entry.signature.checkParams (args.map Val.kind) with
      | .error mismatch => .error (.typeMismatch mismatch)
      | .ok () =>
          if args.any fun value => !value.belongsTo context.id then .error .foreignHandle
          else if context.depth ≥ context.config.maxCallDepth.toNat then
            .error (.trap ⟨.callDepthExceeded,
              "more than " ++ toString context.config.maxCallDepth ++ " nested calls", false⟩)
          else .ok entry

def hostBody? (entry : FuncEntry) : Option (Closure σ) :=
  match entry.key with
  | .host number => if entry.isHost then (context.store.hosts[number]?).map HostFunc.body else none
  | .guest _ _ => none

/-- The call routine: after the checks the call is counted, and a closure or guest
code runs. -/
def beginCall (func : FuncHandle) (args : List Val) (wait : CallWait σ) : Run σ :=
  match context.checkCall func args with
  | .error error => context.deliverCall (.error error) wait
  | .ok entry =>
      let counted := { context with depth := context.depth + 1 }
      match context.hostBody? entry with
      | some body => (counted, .invoking body args (.called func entry.signature wait))
      | none =>
          match args.mapM context.lower with
          | .ok values => (counted, .entering entry.key values (.called func entry.signature wait))
          | .error error => (counted, .leaving func entry.signature (.error error) wait)

/-- The bytes of stack that an activation of guest code is taken to need. -/
def activationBytes : Nat := 48

/-- Whether one more activation on top of `level` others fits on the stack. -/
def fitsStack (level : Nat) : Bool :=
  (level + 1) * activationBytes ≤ context.config.maxWasmStack.toNat

/-- A fault of guest code as an error of the engine.  Its first frame is the code that it
happened in. -/
def faultError (fault : GuestFault) : EngineError :=
  (EngineError.ofPart (.fault fault)).traced context.config.captureBacktraces

/-- Why guest code cannot go on that valid code never reaches. -/
def stuckError : EngineError := .ofPart (.note "guest code cannot go on")

def afterAdvance (cont : GuestCont σ) : Advance → Run σ
  | .running activation => (context, .guest activation cont)
  | .calling func args activation => (context, .entering func args (.frame activation cont))
  | .handingOver func args => (context, .entering func args cont)
  | .returning values => (context, .returning values cont)
  | .halted (.fault fault) => (context, .raising (context.faultError fault) cont)
  | .halted .stuck => (context, .raising stuckError cont)

/-- A step of the engine, whose state is handed over to it. -/
def onStore {α : Type} (context : Context σ)
    (step : Wasm.Store (Closure σ) → α × Wasm.Store (Closure σ)) : α × Context σ :=
  match context with
  | ⟨id, environment, data, funcs, instances, depth, store⟩ =>
      let (outcome, store) := step store
      (outcome, ⟨id, environment, data, funcs, instances, depth, store⟩)

/-- A function of the engine starts to run: guest code, or a closure that is called
as an import. -/
def enterEngine (func : FuncKey) (args : List Value) (cont : GuestCont σ) : Run σ :=
  match context.store.callee? func with
  | some (.host host) =>
      match context.liftAll args host.signature.params with
      | (.ok args, context) => (context, .invoking host.body args (.imported host.signature cont))
      | (.error error, context) => (context, .raising (.box error) cont)
  | some (.guest owner func) =>
      if context.fitsStack cont.level then
        let (advance, context) :=
          context.onStore fun store => Activation.enter store owner cont.level func args
        context.afterAdvance cont advance
      else (context, .raising (context.faultError .stackOverflow) cont)
  | none => (context, .raising stuckError cont)

/-! ## Links -/

/-- The error of the engine when it cannot make an instance.  No guest code has run, so
nothing is added to it. -/
def instantiationRaises : InstantiationFailure → EngineError
  | .refused reason => .ofPart (.note reason)
  | .fault fault => .ofPart (.fault fault)
  | .stuck => stuckError

def instantiationError (failure : InstantiationFailure) : LinkError :=
  .ofEngine (instantiationRaises failure)

/-- A link: the artifact must be of the same environment, the imports are checked,
the engine makes the instance, and its start function runs. -/
def beginLink (artifact : Artifact) (items : List Item) (wait : LinkWait σ) : Run σ :=
  if artifact.environment ≠ context.environment then
    context.deliverLink (.error .environmentMismatch) wait
  else
    match context.resolveImports artifact items with
    | .error error => context.deliverLink (.error error) wait
    | .ok imports =>
        let (outcome, context) :=
          context.onStore fun store => instantiate store artifact.module imports
        match outcome with
        | .error failure => context.deliverLink (.error (instantiationError failure)) wait
        | .ok owner =>
            match artifact.module.start with
            | none => context.finishLink ⟨owner, artifact⟩ wait
            | some index =>
                (context, .entering (.guest owner index) [] (.starting ⟨owner, artifact⟩ wait))

/-! ## Steps -/

def stepClosure (proc : Proc σ) (cont : HostCont σ) : Run σ :=
  match proc with
  | .finish slots => context.finishClosure (context.checkSlots cont.signature slots) cont
  | .fail error => context.finishClosure (.error (.host error)) cont
  | .panic => (context, .panicked)
  | .ask request next =>
      match context.answer request with
      | .answered (answer, context) => (context, .closure (next answer) cont)
      | .panicked => (context, .panicked)
  | .register signature body next =>
      let (func, context) := context.createFunc signature body
      (context, .closure (next func) cont)
  | .call func args next => context.beginCall func args (.closure next cont)
  | .link artifact imports next => context.beginLink artifact imports (.closure next cont)

/-- Values go to what waits for them. -/
def stepReturning (values : List Value) : GuestCont σ → Run σ
  | .frame activation below => (context, .guest (activation.receive values) below)
  | .called func signature wait =>
      let (result, context) := context.liftAll values signature.results
      (context, .leaving func signature result wait)
  | .starting made wait => context.finishLink made wait

/-- An error of the engine goes to what waits for values. -/
def stepRaising (error : EngineError) : GuestCont σ → Run σ
  | .frame _ below => (context, .raising (error.traced context.config.captureBacktraces) below)
  | .called func signature wait =>
      (context, .leaving func signature (.error (.ofEngine error)) wait)
  | .starting _ wait => context.deliverLink (.error (.ofEngine error)) wait

/-- One step of a run, unless it is over. -/
def step (context : Context σ) : RunState σ → Option (Run σ)
  | .invoking body args cont => some (context, .closure (body args) cont)
  | .closure proc cont => some (context.stepClosure proc cont)
  | .guest activation cont =>
      let (advance, context) := context.onStore activation.advance
      some (context.afterAdvance cont advance)
  | .entering func args cont => some (context.enterEngine func args cont)
  | .returning values cont => some (context.stepReturning values cont)
  | .raising error cont => some (context.stepRaising error cont)
  | .leaving _ _ result wait => some (context.endCall result wait)
  | .called _ => none
  | .linked _ => none
  | .panicked => none

end Context

end WasmSandbox
