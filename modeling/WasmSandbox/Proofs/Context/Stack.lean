import WasmSandbox.Proofs.Context.Lives
import WasmSandbox.Proofs.Failure.Recovery

/-!
Contract: the stack of what waits in a run, and what a step does to it.

Owns:
- what waits, the innermost first: counted calls, imports that guest code is calling, and
  links whose start functions run;
- what a link comes to before any guest code runs;
- that a step takes some innermost ones off, or puts one on, and what it does to the count
  of calls and to the budget of instances.

Does not own: whether what waits fits the context (`WasmSandbox.Proofs.Context.Steps`).
-/

namespace WasmSandbox

open Wasm

/-- Something that waits in a run. -/
inductive Waiting (σ : Type) where
  /-- A call that was counted. -/
  | call (func : FuncHandle) (signature : Signature)
  /-- Guest code, or the start of an instance, that is calling a closure as an import. -/
  | imported
  /-- A link that made an instance whose start function runs, and what waits for it. -/
  | start (made : InstanceEntry) (wait : LinkWait σ)

mutual

/-- What waits under a closure. -/
def HostCont.stack {σ : Type} : HostCont σ → List (Waiting σ)
  | .called func signature wait => .call func signature :: wait.stack
  | .imported _ below => .imported :: below.stack

/-- What waits under guest code. -/
def GuestCont.stack {σ : Type} : GuestCont σ → List (Waiting σ)
  | .frame _ below => below.stack
  | .called func signature wait => .call func signature :: wait.stack
  | .starting made wait => .start made wait :: wait.stack

/-- What waits under a call. -/
def CallWait.stack {σ : Type} : CallWait σ → List (Waiting σ)
  | .embedder => []
  | .closure _ below => below.stack

/-- What waits under a link. -/
def LinkWait.stack {σ : Type} : LinkWait σ → List (Waiting σ)
  | .embedder => []
  | .closure _ below => below.stack

end

/-- What waits in a run. -/
def RunState.stack {σ : Type} : RunState σ → List (Waiting σ)
  | .invoking _ _ cont => cont.stack
  | .closure _ cont => cont.stack
  | .guest _ cont => cont.stack
  | .entering _ _ cont => cont.stack
  | .returning _ cont => cont.stack
  | .raising _ cont => cont.stack
  | .leaving func signature _ wait => .call func signature :: wait.stack
  | .called _ => []
  | .linked _ => []
  | .panicked => []

/-- What waits at a stage. -/
def Stage.stack {σ : Type} (stage : Stage σ) : List (Waiting σ) :=
  match stage.running with
  | some state => state.stack
  | none => []

/-! ## Links that begin -/

/-- A link: what is linked with what, and what waits for it. -/
structure LinkCall (σ : Type) where
  artifact : Artifact
  items : List Item
  wait : LinkWait σ

/-- The link that a step begins. -/
def RunState.linkBegun? {σ : Type} : RunState σ → Option (LinkCall σ)
  | .closure (.link artifact items next) below => some ⟨artifact, items, .closure next below⟩
  | _ => none

/-- The link that an act begins. -/
def Stage.linkBegun? {σ : Type} : Stage σ → Act σ → Option (LinkCall σ)
  | ⟨_, none⟩, .link artifact items => some ⟨artifact, items, .embedder⟩
  | ⟨_, some state⟩, .step => state.linkBegun?
  | _, _ => none

namespace Context

variable {σ : Type} {context : Context σ}

/-! ## Links -/

@[simp]
theorem instantiationError_refused (reason : String) :
    instantiationError (.refused reason) = .instantiate reason :=
  rfl

@[simp]
theorem instantiationError_fault (fault : GuestFault) :
    instantiationError (.fault fault) = .trapped (.trap (fault.trap false)) :=
  LinkError.ofEngine_of_faults (EngineError.faults_ofPart fault)

@[simp]
theorem instantiationError_stuck :
    instantiationError .stuck = .instantiate "guest code cannot go on" :=
  rfl

/-- What a link comes to before any guest code runs: a failure, or an instance that the
engine made.  It is not in the list of instances yet. -/
def engineLink (context : Context σ) (artifact : Artifact) (items : List Item) :
    Except LinkError InstanceEntry × Context σ :=
  if artifact.environment ≠ context.environment then (.error .environmentMismatch, context)
  else
    match context.resolveImports artifact items with
    | .error error => (.error error, context)
    | .ok imports =>
        let made := instantiate context.store artifact.module imports
        match made.1 with
        | .error failure => (.error (instantiationError failure), { context with store := made.2 })
        | .ok owner => (.ok ⟨owner, artifact⟩, { context with store := made.2 })

/-- A link either is over at once, or waits for the start function of its instance. -/
theorem beginLink_eq (context : Context σ) (artifact : Artifact) (items : List Item)
    (wait : LinkWait σ) :
    context.beginLink artifact items wait =
      match context.engineLink artifact items with
      | (.error error, after) => after.deliverLink (.error error) wait
      | (.ok made, after) =>
          match artifact.module.start with
          | none => after.finishLink made wait
          | some index =>
              (after, .entering (.guest made.owner index) [] (.starting made wait)) := by
  unfold beginLink engineLink
  split
  · rfl
  · cases context.resolveImports artifact items with
    | error error => rfl
    | ok imports =>
        simp only [onStore_eq]
        generalize instantiate context.store artifact.module imports = made
        obtain ⟨outcome, store⟩ := made
        cases outcome with
        | error failure => rfl
        | ok owner => rfl

/-- Before guest code runs, a link changes nothing but the engine's state.  An instance that
is made is one of the artifact, and uses up a unit of the budget. -/
theorem engineLink_cases (context : Context σ) (artifact : Artifact) (items : List Item) :
    ∃ store, (context.engineLink artifact items).2 = { context with store := store } ∧
      ∀ made, (context.engineLink artifact items).1 = .ok made →
        made.artifact = artifact ∧
          context.store.instancesUsed < context.config.maxInstances.toNat ∧
            store.instancesUsed = context.store.instancesUsed + 1 := by
  unfold engineLink
  split
  · exact ⟨context.store, rfl, nofun⟩
  · cases context.resolveImports artifact items with
    | error error => exact ⟨context.store, rfl, nofun⟩
    | ok imports =>
        have result := instantiate_instantiated context.store artifact.module imports
        simp only
        generalize instantiate context.store artifact.module imports = out at result
        obtain ⟨outcome, store⟩ := out
        cases outcome with
        | error failure => exact ⟨store, rfl, nofun⟩
        | ok owner =>
            refine ⟨store, rfl, ?_⟩
            intro made same
            rw [← Except.ok.inj same]
            exact ⟨rfl, result.used_of_ok⟩

/-! ## What stays on the stack -/

theorem deliverCall_stack (context : Context σ) (result : Except CallError (List Val))
    (wait : CallWait σ) : (context.deliverCall result wait).2.stack = wait.stack := by
  cases wait <;> rfl

theorem deliverLink_stack (context : Context σ) (result : Except LinkError InstanceHandle)
    (wait : LinkWait σ) : (context.deliverLink result wait).2.stack = wait.stack := by
  cases wait <;> rfl

theorem afterAdvance_stack (context : Context σ) (cont : GuestCont σ) (advance : Advance) :
    (context.afterAdvance cont advance).2.stack = cont.stack := by
  cases advance with
  | halted halt => cases halt <;> rfl
  | _ => rfl

/-- A closure that ends takes the import off that was calling it, or leaves its call for
the call routine to take off. -/
theorem finishClosure_stack (context : Context σ) (result : Except CallError (List Val))
    (cont : HostCont σ) : (context.finishClosure result cont).2.stack <:+ cont.stack := by
  cases cont with
  | called func signature wait => exact List.suffix_refl _
  | imported signature below =>
      cases result with
      | error error => exact List.suffix_cons _ _
      | ok values =>
          simp only [finishClosure]
          cases values.mapM context.lower <;> exact List.suffix_cons _ _

/-! ## What a step does to the stack -/

/-- What a step can do to the stack, with what it does to the counts.  `link` is the link
that the step begins. -/
inductive Shifts (context : Context σ) (stack : List (Waiting σ)) (link : Option (LinkCall σ))
    (run : Run σ) : Prop where
  /-- Some innermost ones are gone, and the count of calls is the same: nothing ended, or
  an import or a start did, or a panic left all behind. -/
  | keeps (waits : run.2.stack <:+ stack) (depth : run.1.depth = context.depth)
  /-- A call was counted. -/
  | counts (func : FuncHandle) (signature : Signature)
      (waits : run.2.stack = .call func signature :: stack)
      (depth : run.1.depth = context.depth + 1)
  /-- Guest code calls a closure. -/
  | imports (waits : run.2.stack = .imported :: stack) (depth : run.1.depth = context.depth)
  /-- A counted call returned. -/
  | returns (func : FuncHandle) (signature : Signature)
      (waits : stack = .call func signature :: run.2.stack)
      (depth : run.1.depth = context.depth - 1)
  /-- A link made an instance within the budget, and its start function is entered. -/
  | starts (call : LinkCall σ) (made : InstanceEntry) (begun : link = some call)
      (engine : (context.engineLink call.artifact call.items).1 = .ok made)
      (isStart : call.artifact.module.start.isSome)
      (waits : run.2.stack = .start made call.wait :: stack)
      (depth : run.1.depth = context.depth)
      (budget : context.store.instancesUsed < context.config.maxInstances.toNat)
      (used : run.1.store.instancesUsed = context.store.instancesUsed + 1)

section

variable {stack : List (Waiting σ)} {link : Option (LinkCall σ)}

theorem Shifts.same {run : Run σ} (waits : run.2.stack = stack)
    (depth : run.1.depth = context.depth) : Shifts context stack link run :=
  .keeps (waits ▸ List.suffix_refl _) depth

theorem Shifts.afterAdvance {after : Context σ} (depth : after.depth = context.depth)
    (cont : GuestCont σ) (advance : Advance) :
    Shifts context cont.stack link (after.afterAdvance cont advance) :=
  .same (afterAdvance_stack after cont advance)
    ((congrArg Context.depth (afterAdvance_context after cont advance)).trans depth)

/-- A link that is over leaves what waits for it. -/
theorem Shifts.deliverLink {after : Context σ} (depth : after.depth = context.depth)
    (result : Except LinkError InstanceHandle) {wait : LinkWait σ}
    (under : wait.stack <:+ stack) : Shifts context stack link (after.deliverLink result wait) :=
  .keeps (deliverLink_stack after result wait ▸ under)
    ((congrArg Context.depth (deliverLink_context after result wait)).trans depth)

end

theorem beginCall_shifts (context : Context σ) (func : FuncHandle) (args : List Val)
    (wait : CallWait σ) : Shifts context wait.stack none (context.beginCall func args wait) := by
  unfold beginCall
  split
  · exact .same (deliverCall_stack context _ wait)
      (congrArg Context.depth (deliverCall_context context _ wait))
  · rename_i entry checked
    simp only
    split
    · exact .counts func entry.signature rfl rfl
    · split
      · exact .counts func entry.signature rfl rfl
      · exact .counts func entry.signature rfl rfl

theorem beginLink_shifts (context : Context σ) (artifact : Artifact) (items : List Item)
    (wait : LinkWait σ) :
    Shifts context wait.stack (some ⟨artifact, items, wait⟩)
      (context.beginLink artifact items wait) := by
  obtain ⟨store, changed, onMade⟩ := context.engineLink_cases artifact items
  have depth : (context.engineLink artifact items).2.depth = context.depth := by rw [changed]
  rw [beginLink_eq]
  cases engine : context.engineLink artifact items with
  | mk outcome after =>
      rw [engine] at changed onMade depth
      simp only at changed
      cases outcome with
      | error error => exact .deliverLink depth _ (List.suffix_refl _)
      | ok made =>
          obtain ⟨-, budget, used⟩ := onMade made rfl
          cases isStart : artifact.module.start with
          | none => exact .deliverLink (by exact depth) _ (List.suffix_refl _)
          | some index =>
              refine .starts ⟨artifact, items, wait⟩ made rfl (by rw [engine])
                (by rw [isStart]; rfl) rfl depth budget ?_
              change after.store.instancesUsed = _
              rw [changed]
              exact used

theorem Sound.stepClosure_shifts (sound : context.Sound) (proc : Proc σ) (cont : HostCont σ) :
    Shifts context cont.stack (RunState.closure proc cont).linkBegun?
      (context.stepClosure proc cont) := by
  have finishes (result : Except CallError (List Val)) :
      Shifts context cont.stack none (context.finishClosure result cont) :=
    .keeps (finishClosure_stack context result cont)
      (congrArg Context.depth (finishClosure_context context result cont))
  cases proc with
  | finish slots => exact finishes _
  | fail error => exact finishes _
  | panic => exact .keeps List.nil_suffix rfl
  | ask request next =>
      simp only [stepClosure]
      cases answered : context.answer request with
      | panicked => exact .keeps List.nil_suffix rfl
      | answered out => exact .same rfl (sound.answer_grows answered).1.depth
  | register signature body next => exact .same rfl rfl
  | call func args next => exact context.beginCall_shifts func args (.closure next cont)
  | link artifact items next => exact context.beginLink_shifts artifact items (.closure next cont)

theorem Sound.enterEngine_shifts (sound : context.Sound) (func : FuncKey) (args : List Value)
    (cont : GuestCont σ) : Shifts context cont.stack none (context.enterEngine func args cont) := by
  unfold enterEngine
  split
  · rename_i host called
    have lifted := (sound.liftAll_grows args host.signature.params).1.depth
    generalize context.liftAll args host.signature.params = out at lifted
    obtain ⟨outcome, after⟩ := out
    cases outcome with
    | error error => exact .same rfl lifted
    | ok args => exact .imports rfl lifted
  · split
    · exact .afterAdvance (by rfl) cont _
    · exact .same rfl rfl
  · exact .same rfl rfl

theorem Sound.stepReturning_shifts (sound : context.Sound) (values : List Value)
    (cont : GuestCont σ) :
    Shifts context cont.stack none (context.stepReturning values cont) := by
  cases cont with
  | frame activation below => exact .same rfl rfl
  | called func signature wait =>
      exact .same rfl (sound.liftAll_grows values signature.results).1.depth
  | starting made wait => exact .deliverLink (by rfl) _ (List.suffix_cons _ _)

theorem stepRaising_shifts (context : Context σ) (error : EngineError) (cont : GuestCont σ) :
    Shifts context cont.stack none (context.stepRaising error cont) := by
  cases cont with
  | frame activation below => exact .same rfl rfl
  | called func signature wait => exact .same rfl rfl
  | starting made wait => exact .deliverLink (by rfl) _ (List.suffix_cons _ _)

/-- All that a step can do to the stack. -/
theorem Sound.step_shifts (sound : context.Sound) {state : RunState σ} {run : Run σ}
    (stepped : context.step state = some run) :
    Shifts context state.stack state.linkBegun? run := by
  cases state with
  | invoking body args cont =>
      cases stepped
      exact .same rfl rfl
  | closure proc cont =>
      cases stepped
      exact sound.stepClosure_shifts proc cont
  | guest activation cont =>
      cases stepped
      exact .afterAdvance (by rfl) cont _
  | entering func args cont =>
      cases stepped
      exact sound.enterEngine_shifts func args cont
  | returning values cont =>
      cases stepped
      exact sound.stepReturning_shifts values cont
  | raising error cont =>
      cases stepped
      exact context.stepRaising_shifts error cont
  | leaving func signature result wait =>
      cases stepped
      refine .returns func signature ?_ (congrArg Context.depth (endCall_context ..))
      rw [endCall, deliverCall_stack]
      rfl
  | called result => contradiction
  | linked result => contradiction
  | panicked => contradiction

end Context

/-! ## What an act does to the stack -/

/-- An act leaves the context idle, or does to the stack what a step can do. -/
theorem Stage.Sound.take_shifts {σ : Type} {stage after : Stage σ} (sound : stage.Sound)
    {act : Act σ} (taken : stage.take act = some after) :
    after.running = none ∨ ∃ run, after = .ofRun run ∧
      stage.context.Shifts stage.stack (stage.linkBegun? act) run := by
  obtain ⟨context, running⟩ := stage
  cases Stage.taken_of_take taken with
  | rests context => exact .inl rfl
  | called func args isIdle =>
      cases isIdle
      exact .inr ⟨_, rfl, context.beginCall_shifts func args .embedder⟩
  | linked artifact items isIdle =>
      cases isIdle
      exact .inr ⟨_, rfl, context.beginLink_shifts artifact items .embedder⟩
  | stepped isRunning stepped =>
      cases isRunning
      exact .inr ⟨_, rfl, sound.context.step_shifts stepped⟩

end WasmSandbox
