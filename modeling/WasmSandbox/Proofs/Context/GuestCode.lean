import WasmSandbox.Proofs.Context.Issuance
import WasmSandbox.Proofs.Context.GlobalWrites

/-!
Contract: guest code that runs or waits in a life.

Owns:
- the activations of a run, of the code that runs and of all that waits;
- that in a life with valid modules they are of instances of the engine, and that all that is
  left of their code sets mutable globals only;
- that guest code therefore only writes to mutable globals.

Does not own: where the addresses of globals come from.
-/

namespace WasmSandbox

open Wasm

/-! ## Activations -/

mutual

/-- The guest code that waits under a closure, the innermost first. -/
def HostCont.activations {σ : Type} : HostCont σ → List Activation
  | .called _ _ wait => wait.activations
  | .imported _ below => below.activations

/-- The guest code that waits under guest code. -/
def GuestCont.activations {σ : Type} : GuestCont σ → List Activation
  | .frame activation below => activation :: below.activations
  | .called _ _ wait => wait.activations
  | .starting _ wait => wait.activations

/-- The guest code that waits under a call. -/
def CallWait.activations {σ : Type} : CallWait σ → List Activation
  | .embedder => []
  | .closure _ below => below.activations

/-- The guest code that waits under a link. -/
def LinkWait.activations {σ : Type} : LinkWait σ → List Activation
  | .embedder => []
  | .closure _ below => below.activations

end

/-- The guest code in a run. -/
def RunState.activations {σ : Type} : RunState σ → List Activation
  | .invoking _ _ cont => cont.activations
  | .closure _ cont => cont.activations
  | .guest activation cont => activation :: cont.activations
  | .entering _ _ cont => cont.activations
  | .returning _ cont => cont.activations
  | .raising _ cont => cont.activations
  | .leaving _ _ _ wait => wait.activations
  | .called _ => []
  | .linked _ => []
  | .panicked => []

namespace Context

variable {σ : Type} (context : Context σ)

theorem deliverCall_activations (result : Except CallError (List Val)) (wait : CallWait σ) :
    (context.deliverCall result wait).2.activations = wait.activations := by
  cases wait <;> rfl

theorem deliverLink_activations (result : Except LinkError InstanceHandle) (wait : LinkWait σ) :
    (context.deliverLink result wait).2.activations = wait.activations := by
  cases wait <;> rfl

theorem finishClosure_activations (result : Except CallError (List Val)) (cont : HostCont σ) :
    (context.finishClosure result cont).2.activations = cont.activations := by
  cases cont with
  | called func signature wait => rfl
  | imported signature below =>
      cases result with
      | error error => rfl
      | ok values =>
          simp only [finishClosure]
          split <;> rfl

theorem beginCall_activations (func : FuncHandle) (args : List Val) (wait : CallWait σ) :
    (context.beginCall func args wait).2.activations = wait.activations := by
  unfold beginCall
  split
  · exact deliverCall_activations ..
  · simp only
    split
    · rfl
    · split <;> rfl

theorem beginLink_activations (artifact : Artifact) (items : List Item) (wait : LinkWait σ) :
    (context.beginLink artifact items wait).2.activations = wait.activations := by
  rw [beginLink_eq]
  split
  · exact deliverLink_activations ..
  · split
    · exact deliverLink_activations ..
    · rfl

theorem stepClosure_activations (proc : Proc σ) (cont : HostCont σ) :
    ∀ activation ∈ (context.stepClosure proc cont).2.activations,
      activation ∈ cont.activations := by
  intro activation member
  cases proc with
  | finish slots => rwa [stepClosure, finishClosure_activations] at member
  | fail error => rwa [stepClosure, finishClosure_activations] at member
  | panic => contradiction
  | ask request next =>
      simp only [stepClosure] at member
      split at member
      · exact member
      · contradiction
  | register signature body next => exact member
  | call func args next => rwa [stepClosure, beginCall_activations] at member
  | link artifact items next => rwa [stepClosure, beginLink_activations] at member

theorem afterAdvance_activations (cont : GuestCont σ) (advance : Advance) :
    (context.afterAdvance cont advance).2.activations =
      advance.next?.toList ++ cont.activations := by
  cases advance with
  | halted halt => cases halt <;> rfl
  | _ => rfl

end Context

/-! ## Code that sets mutable globals only -/

/-- An activation is of an instance of the engine, and sets mutable globals of its module
only. -/
def Wasm.Store.Runs {H : Type} (store : Store H) (activation : Activation) : Prop :=
  ∃ code, store.code? activation.owner = some code ∧
    activation.SetsMutable code.module.globalShapes

namespace Context

variable {σ : Type} {context : Context σ}

/-- What goes on after a step of guest code is of the same instance. -/
private theorem runs_of_next {owner : Nat} {code : Code} {advance : Advance}
    (found : context.store.code? owner = some code)
    (sets : advance.SetsMutable code.module.globalShapes owner) {cont : GuestCont σ}
    (runs : ∀ activation ∈ cont.activations, context.store.Runs activation)
    {after : Context σ} :
    ∀ activation ∈ (after.afterAdvance cont advance).2.activations,
      context.store.Runs activation := by
  intro activation member
  rw [afterAdvance_activations, List.mem_append] at member
  rcases member with isNext | waits
  · obtain ⟨sameOwner, sets⟩ := sets activation (Option.mem_toList.1 isNext)
    exact ⟨code, by rw [sameOwner, found], sets⟩
  · exact runs activation waits

private theorem code_of_callee {func : FuncKey} {owner : Nat} {body : FuncDef}
    (called : context.store.callee? func = some (.guest owner body)) :
    ∃ code, context.store.code? owner = some code ∧ body ∈ code.funcs := by
  unfold Store.callee? at called
  split at called
  · simp at called
  · simp only [Option.bind_eq_bind, Option.bind_eq_some_iff, Option.pure_def, Option.some.injEq,
      Callee.guest.injEq] at called
    obtain ⟨owning, isOwning, found, isFound, rfl, rfl⟩ := called
    exact ⟨owning.code, (Store.code?_eq_some_iff ..).2 ⟨owning, isOwning, rfl⟩,
      Array.mem_of_getElem? isFound⟩

private theorem enterEngine_runs (sets : context.store.SetsMutable) (func : FuncKey)
    (args : List Value) {cont : GuestCont σ}
    (runs : ∀ activation ∈ cont.activations, context.store.Runs activation) :
    ∀ activation ∈ (context.enterEngine func args cont).2.activations,
      context.store.Runs activation := by
  unfold enterEngine
  split
  · rename_i host called
    generalize context.liftAll args host.signature.params = out
    obtain ⟨outcome, after⟩ := out
    cases outcome <;> exact runs
  · rename_i owner body called
    split
    · obtain ⟨code, found, member⟩ := code_of_callee called
      have entered := Activation.enter_setsMutable context.store (sets owner code found body member)
        owner cont.level args
      simp only [onStore_eq]
      exact runs_of_next found entered runs
    · exact runs
  · exact runs

private theorem stepReturning_runs (values : List Value) {cont : GuestCont σ}
    (runs : ∀ activation ∈ cont.activations, context.store.Runs activation) :
    ∀ activation ∈ (context.stepReturning values cont).2.activations,
      context.store.Runs activation := by
  cases cont with
  | frame activation below =>
      obtain ⟨⟨code, found, sets⟩, waits⟩ := List.forall_mem_cons.1 runs
      exact List.forall_mem_cons.2 ⟨⟨code, found, sets.code, sets.labels⟩, waits⟩
  | called func signature wait => exact runs
  | starting made wait =>
      rw [stepReturning, finishLink, deliverLink_activations]
      exact runs

/-- A step leaves guest code that sets mutable globals only. -/
theorem step_runs (sets : context.store.SetsMutable) {state : RunState σ} {run : Run σ}
    (runs : ∀ activation ∈ state.activations, context.store.Runs activation)
    (stepped : context.step state = some run) :
    ∀ activation ∈ run.2.activations, context.store.Runs activation := by
  cases state with
  | invoking body args cont =>
      cases stepped
      exact runs
  | closure proc cont =>
      cases stepped
      exact fun activation member =>
        runs activation (context.stepClosure_activations proc cont activation member)
  | guest activation cont =>
      cases stepped
      obtain ⟨⟨code, found, setsNow⟩, waits⟩ := List.forall_mem_cons.1 runs
      exact runs_of_next found setsNow.advance waits
  | entering func args cont =>
      cases stepped
      exact enterEngine_runs sets func args runs
  | returning values cont =>
      cases stepped
      exact stepReturning_runs values runs
  | raising error cont =>
      cases stepped
      cases cont with
      | frame activation below => exact (List.forall_mem_cons.1 runs).2
      | called func signature wait => exact runs
      | starting made wait =>
          rw [stepRaising, deliverLink_activations]
          exact runs
  | leaving func signature result wait =>
      cases stepped
      rw [endCall, deliverCall_activations]
      exact runs
  | called result => contradiction
  | linked result => contradiction
  | panicked => contradiction

end Context

/-! ## Over a life -/

/-- The guest code in the run of a stage. -/
def Stage.activations {σ : Type} (stage : Stage σ) : List Activation :=
  match stage.running with
  | some state => state.activations
  | none => []

/-- Guest code, whether it runs or can be called, sets mutable globals only. -/
structure Stage.SetsMutable {σ : Type} (stage : Stage σ) : Prop where
  store : stage.context.store.SetsMutable
  runs : ∀ activation ∈ stage.activations, stage.context.store.Runs activation

namespace Stage

variable {σ : Type} {stage after : Stage σ} {act : Act σ}

theorem SetsMutable.take_runs (sets : stage.SetsMutable) (taken : stage.take act = some after) :
    ∀ activation ∈ after.activations, stage.context.store.Runs activation := by
  cases take_eq_some_iff.1 taken with
  | called context func args =>
      simp only [ofRun, activations, Context.beginCall_activations]
      exact List.forall_mem_nil _
  | linked context artifact items =>
      simp only [ofRun, activations, Context.beginLink_activations]
      exact List.forall_mem_nil _
  | stepped stepped => exact Context.step_runs sets.store sets.runs stepped
  | _ => exact List.forall_mem_nil _

theorem SetsMutable.take_store (sets : stage.SetsMutable) (taken : stage.take act = some after)
    (extension : stage.context.store.Extends after.context.store)
    (valid : ∀ call, stage.linkBegun? act = some call → call.artifact.module.Valid) :
    after.context.store.SetsMutable := by
  have moves := take_moves taken
  generalize stage.linkBegun? act = begun at moves valid
  generalize after.context.store = store at moves extension ⊢
  cases moves with
  | works works => exact sets.store.works works extension
  | links call =>
      unfold Context.engineLink
      split
      · exact sets.store
      · cases stage.context.resolveImports call.artifact call.items with
        | error error => exact sets.store
        | ok externs =>
            have made := sets.store.instantiate (valid call rfl) externs
            simp only
            split <;> exact made

end Stage

theorem Wasm.Store.Runs.mono {H : Type} {before after : Wasm.Store H} {activation : Activation}
    (runs : before.Runs activation) (extension : before.Extends after) :
    after.Runs activation := by
  obtain ⟨code, found, sets⟩ := runs
  exact ⟨code, extension.code found, sets⟩

namespace Life

variable {σ : Type} {fresh : Context σ} {past : List (Stage σ × Act σ)} {stage : Stage σ}

/-- In a life with valid modules, guest code sets mutable globals only. -/
theorem setsMutable (life : Life fresh past stage) (begins : fresh.Sound)
    (noInstances : fresh.store.instances = #[]) (valid : LinksValid past) :
    stage.SetsMutable := by
  induction life with
  | created =>
      refine ⟨?_, List.forall_mem_nil _⟩
      intro owner code found
      simp [Stage.idle, Store.code?, noInstances] at found
  | acted life taken inductionHypothesis =>
      obtain ⟨now, earlier⟩ := List.forall_mem_cons.1 valid
      have sets := inductionHypothesis earlier
      have extension := ((life.sound begins).take_leads taken).extension.store
      exact ⟨sets.take_store taken extension now,
        fun activation member => (sets.take_runs taken activation member).mono extension⟩

end Life

/-- Where instances find the globals that their modules declare, a write of guest code is to a
mutable one. -/
theorem Stage.SetsMutable.write_mutable {σ : Type} {context : Context σ}
    {activation : Activation} {cont : GuestCont σ}
    (sets : Stage.SetsMutable ⟨context, some (.guest activation cont)⟩)
    (shaped : context.store.Shaped) {write : GlobalWrite}
    (writes : activation.write? context.store = some write) :
    ∃ shape, context.store.HasGlobal shape write.address ∧ shape.mutable = true := by
  obtain ⟨code, found, setsHere⟩ := sets.runs activation List.mem_cons_self
  obtain ⟨owning, isOwning, rfl⟩ := (Store.code?_eq_some_iff ..).1 found
  exact setsHere.write_mutable shaped isOwning writes

end WasmSandbox
