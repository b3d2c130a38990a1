import WasmSandbox.Proofs.Context.Imports
import WasmSandbox.Proofs.Context.Links

/-!
Contract: memories, tables and instances of the engine over the life of a context.

Owns:
- that an act either begins a link, or only works on what is there;
- the requests of a life, whose answers are the states that they lead to;
- lives in which the modules that are linked are valid;
- that at every stage of such a life, memories and tables are within their bounds, instances
  are placed, and everything that was there before is there still.

Guest code runs, memories grow and calls fail between two links.  None of that needs to be
told apart here: a step of any sort leads to a state that `Store.Works` relates.

Does not own: what follows for one memory, or for one instance.
-/

namespace WasmSandbox

open Wasm

namespace Context

variable {σ : Type} {context after : Context σ}

/-! ## What a step makes of the engine's state -/

/-- The engine's state after a step: that of the link which the step begins, or one that
works on what is there. -/
inductive Moves (context : Context σ) : Option (LinkCall σ) → Store (Closure σ) → Prop where
  | works {store : Store (Closure σ)} (works : context.store.Works store) :
      Moves context none store
  | links (call : LinkCall σ) :
      Moves context (some call) (context.engineLink call.artifact call.items).2.store

theorem Moves.same (context : Context σ) : Moves context none context.store :=
  .works (.refl context.store)

theorem answer_moves {request : Request σ} {answer : request.Answer}
    (answered : context.answer request = .answered (answer, after)) :
    Moves context none after.store := by
  rcases answer_cases answered with issues | touches
  · exact .works issues.works
  · exact .works touches.works

theorem beginCall_store (context : Context σ) (func : FuncHandle) (args : List Val)
    (wait : CallWait σ) : (context.beginCall func args wait).1.store = context.store := by
  unfold beginCall
  split
  · rw [deliverCall_context]
  · simp only
    split
    · rfl
    · split <;> rfl

theorem beginLink_store (context : Context σ) (artifact : Artifact) (items : List Item)
    (wait : LinkWait σ) :
    (context.beginLink artifact items wait).1.store =
      (context.engineLink artifact items).2.store := by
  rw [beginLink_eq]
  split
  · rename_i failed
    rw [failed, deliverLink_context]
  · rename_i made after linked
    rw [linked]
    split
    · rw [finishLink, deliverLink_context]
      rfl
    · rfl

theorem stepClosure_moves (context : Context σ) (proc : Proc σ) (cont : HostCont σ) :
    Moves context (RunState.linkBegun? (.closure proc cont))
      (context.stepClosure proc cont).1.store := by
  cases proc with
  | finish slots =>
      rw [stepClosure, finishClosure_context]
      exact .same context
  | fail error =>
      rw [stepClosure, finishClosure_context]
      exact .same context
  | panic => exact .same context
  | ask request next =>
      simp only [stepClosure]
      cases answered : context.answer request with
      | panicked => exact .same context
      | answered out => exact answer_moves answered
  | register signature body next => exact .works (context.store.addHost_works signature body)
  | call func args next =>
      rw [stepClosure, beginCall_store]
      exact .same context
  | link artifact items next =>
      rw [stepClosure, beginLink_store]
      exact .links ⟨artifact, items, .closure next cont⟩

theorem enterEngine_works (context : Context σ) (func : FuncKey) (args : List Value)
    (cont : GuestCont σ) : context.store.Works (context.enterEngine func args cont).1.store := by
  unfold enterEngine
  split
  · rename_i host called
    have works := (context.liftAll_issues args host.signature.params).works
    generalize context.liftAll args host.signature.params = out at works
    obtain ⟨outcome, after⟩ := out
    cases outcome <;> exact works
  · rename_i owner code called
    split
    · simp only [onStore_eq, afterAdvance_context]
      exact (Activation.enter_touched ..).works
    · exact .refl context.store
  · exact .refl context.store

theorem stepReturning_works (context : Context σ) (values : List Value) (cont : GuestCont σ) :
    context.store.Works (context.stepReturning values cont).1.store := by
  cases cont with
  | frame activation below => exact .refl context.store
  | called func signature wait => exact (context.liftAll_issues values signature.results).works
  | starting made wait =>
      rw [stepReturning, finishLink, deliverLink_context]
      exact .refl context.store

/-- A step begins a link, or works on what is there. -/
theorem step_moves {state : RunState σ} {run : Run σ} (stepped : context.step state = some run) :
    Moves context state.linkBegun? run.1.store := by
  cases state with
  | invoking body args cont =>
      cases stepped
      exact .same context
  | closure proc cont =>
      cases stepped
      exact context.stepClosure_moves proc cont
  | guest activation cont =>
      cases stepped
      rw [afterAdvance_context]
      exact .works (activation.advance_touched context.store).works
  | entering func args cont =>
      cases stepped
      exact .works (context.enterEngine_works func args cont)
  | returning values cont =>
      cases stepped
      exact .works (context.stepReturning_works values cont)
  | raising error cont =>
      cases stepped
      cases cont with
      | starting made wait =>
          rw [stepRaising, deliverLink_context]
          exact .same context
      | _ => exact .same context
  | leaving func signature result wait =>
      cases stepped
      rw [endCall_context]
      exact .same context
  | called result => contradiction
  | linked result => contradiction
  | panicked => contradiction

/-- A link of a valid module leaves what was there, and keeps the engine's state tended. -/
theorem engineLink_tended (tended : context.store.Tended) {artifact : Artifact}
    (valid : artifact.module.Valid) (items : List Item) :
    context.store.Ages (context.engineLink artifact items).2.store ∧
      (context.engineLink artifact items).2.store.Tended := by
  unfold engineLink
  split
  · exact ⟨.refl context.store, tended⟩
  · cases resolved : context.resolveImports artifact items with
    | error error => exact ⟨.refl context.store, tended⟩
    | ok externs =>
        have made := instantiate_tended tended valid.orderly
          (serves_of_resolveImports tended.bounded valid.orderly resolved)
        simp only
        split <;> exact made

end Context

namespace Stage

variable {σ : Type} {stage after : Stage σ} {act : Act σ}

/-- An act begins a link, or works on what is there. -/
theorem take_moves (taken : stage.take act = some after) :
    stage.context.Moves (stage.linkBegun? act) after.context.store := by
  cases take_eq_some_iff.1 taken with
  | answered answered => exact Context.answer_moves answered
  | unanswered _ => exact .same _
  | registered context signature body =>
      exact .works (context.store.addHost_works signature body)
  | fuelSet set =>
      obtain ⟨-, rfl⟩ := Context.setFuel_eq_ok_iff.1 set
      exact .works (Store.works_of_same _ rfl rfl rfl rfl rfl rfl)
  | fuelRefused _ => exact .same _
  | called context func args =>
      rw [ofRun, Context.beginCall_store]
      exact .same context
  | linked context artifact items =>
      rw [ofRun, Context.beginLink_store]
      exact .links ⟨artifact, items, .embedder⟩
  | stepped stepped => exact Context.step_moves stepped
  | closed _ => exact .same _

end Stage

/-! ## Requests of a life -/

/-- What is asked of the context by a closure that takes a step. -/
def RunState.asked? {σ : Type} : RunState σ → Option (Request σ)
  | .closure (.ask request _) _ => some request
  | _ => none

/-- What is asked of the context with an act, by the embedder or by a closure. -/
def Stage.asked? {σ : Type} : Stage σ → Act σ → Option (Request σ)
  | ⟨_, none⟩, .ask request => some request
  | ⟨_, some state⟩, .step => state.asked?
  | _, _ => none

/-- Either the embedder asks, or a closure that goes on. -/
theorem Stage.asked?_eq_some {σ : Type} {stage : Stage σ} {act : Act σ} {request : Request σ}
    (asked : stage.asked? act = some request) :
    (∃ context, stage = ⟨context, none⟩ ∧ act = .ask request) ∨
      ∃ context next cont, stage = ⟨context, some (.closure (.ask request next) cont)⟩ ∧
        act = .step := by
  obtain ⟨context, running⟩ := stage
  cases running with
  | none =>
      cases act with
      | ask request =>
          cases asked
          exact .inl ⟨context, rfl, rfl⟩
      | _ => contradiction
  | some state =>
      cases act with
      | step =>
          cases state with
          | closure proc cont =>
              cases proc with
              | ask request next =>
                  cases asked
                  exact .inr ⟨context, next, cont, rfl, rfl⟩
              | _ => contradiction
          | _ => contradiction
      | _ => contradiction

/-- A request that is answered leads to the context of its answer. -/
theorem Stage.take_answered {σ : Type} {stage after : Stage σ} {act : Act σ}
    (taken : stage.take act = some after) {request : Request σ}
    (asked : stage.asked? act = some request) {answer : request.Answer} {context : Context σ}
    (answered : stage.context.answer request = .answered (answer, context)) :
    after.context = context := by
  rcases asked?_eq_some asked with ⟨current, rfl, rfl⟩ | ⟨current, next, cont, rfl, rfl⟩
  · simp only [take, answered] at taken
    cases taken
    rfl
  · simp only [take, Context.step, Context.stepClosure, answered] at taken
    cases taken
    rfl

/-! ## Lives with valid modules -/

/-- The modules that are linked in a life are valid. -/
def LinksValid {σ : Type} (past : List (Stage σ × Act σ)) : Prop :=
  ∀ happened ∈ past, ∀ call, happened.1.linkBegun? happened.2 = some call →
    call.artifact.module.Valid

namespace LinksValid

variable {σ : Type} {past : List (Stage σ × Act σ)} {stage : Stage σ} {act : Act σ}

theorem nil : LinksValid ([] : List (Stage σ × Act σ)) :=
  List.forall_mem_nil _

theorem silent (valid : LinksValid past) (silent : stage.linkBegun? act = none) :
    LinksValid ((stage, act) :: past) := by
  refine List.forall_mem_cons.2 ⟨?_, valid⟩
  intro call begun
  rw [silent] at begun
  contradiction

theorem linked (valid : LinksValid past) {call : LinkCall σ}
    (begun : stage.linkBegun? act = some call) (isValid : call.artifact.module.Valid) :
    LinksValid ((stage, act) :: past) := by
  refine List.forall_mem_cons.2 ⟨?_, valid⟩
  intro other alsoBegun
  rw [begun, Option.some.injEq] at alsoBegun
  exact alsoBegun ▸ isValid

end LinksValid

namespace Life

variable {σ : Type} {fresh : Context σ} {past : List (Stage σ × Act σ)} {stage after : Stage σ}
  {act : Act σ}

/-- From a tended state, every act leads to one, in which is all that was there. -/
theorem take_tended (tended : stage.context.store.Tended) (taken : stage.take act = some after)
    (valid : ∀ call, stage.linkBegun? act = some call → call.artifact.module.Valid) :
    stage.context.store.Ages after.context.store ∧ after.context.store.Tended := by
  have moves := Stage.take_moves taken
  generalize stage.linkBegun? act = begun at moves valid
  generalize after.context.store = store at moves ⊢
  cases moves with
  | works works => exact ⟨works.ages, works.tended tended⟩
  | links call => exact Context.engineLink_tended tended (valid call rfl) call.items

/-- At every stage memories and tables are within their bounds, and instances are placed. -/
theorem tended (life : Life fresh past stage) (begins : fresh.store.Tended)
    (valid : LinksValid past) : stage.context.store.Tended := by
  induction life with
  | created => exact begins
  | acted life taken inductionHypothesis =>
      obtain ⟨now, earlier⟩ := List.forall_mem_cons.1 valid
      exact (take_tended (inductionHypothesis earlier) taken now).2

/-- What was there at an earlier stage is there from then on. -/
theorem ages_of_mem (life : Life fresh past stage) (begins : fresh.store.Tended)
    (valid : LinksValid past) :
    ∀ happened ∈ past, happened.1.context.store.Ages stage.context.store := by
  induction life with
  | created => simp
  | acted life taken inductionHypothesis =>
      obtain ⟨now, earlier⟩ := List.forall_mem_cons.1 valid
      have ages := (take_tended (life.tended begins earlier) taken now).1
      intro happened member
      rcases List.mem_cons.1 member with isLatest | before
      · rw [isLatest]
        exact ages
      · exact (inductionHypothesis earlier happened before).trans ages

end Life

/-! ## Instances of linked artifacts -/

/-- The instance that the engine makes for a link is one of the module of the artifact. -/
theorem Context.engineLink_code {σ : Type} {context : Context σ} {artifact : Artifact}
    {items : List Item} {made : InstanceEntry}
    (linked : (context.engineLink artifact items).1 = .ok made) :
    ∃ code, (context.engineLink artifact items).2.store.code? made.owner = some code ∧
      code.module = artifact.module := by
  unfold engineLink at linked ⊢
  split
  · rename_i foreign
    rw [if_pos foreign] at linked
    contradiction
  · rename_i own
    rw [if_neg own] at linked
    cases resolved : context.resolveImports artifact items with
    | error error =>
        rw [resolved] at linked
        contradiction
    | ok externs =>
        have result := instantiate_instantiated context.store artifact.module externs
        simp only [resolved] at linked ⊢
        generalize instantiate context.store artifact.module externs = out at result linked
        obtain ⟨outcome, store⟩ := out
        cases outcome with
        | error failure => contradiction
        | ok owner =>
            cases linked
            exact ⟨_, result.code?_of_ok, rfl⟩

/-- A link that returned did so with an act. -/
theorem mem_linkReturns {σ : Type} {past : List (Stage σ × Act σ)} {ret : LinkReturn σ}
    (member : ret ∈ linkReturns past) :
    ∃ later happened earlier, past = later ++ happened :: earlier ∧
      happened.1.linkReturn? happened.2 = some ret := by
  induction past with
  | nil => contradiction
  | cons happened past inductionHypothesis =>
      rcases List.mem_append.1 member with before | latest
      · obtain ⟨later, returned, earlier, rfl, isReturn⟩ := inductionHypothesis before
        exact ⟨happened :: later, returned, earlier, rfl, isReturn⟩
      · exact ⟨[], happened, past, rfl, Option.mem_toList.1 latest⟩

namespace Life

variable {σ : Type} {fresh : Context σ} {past : List (Stage σ × Act σ)} {stage : Stage σ}
  {made : InstanceEntry}

/-- Every instance in the list was made by the engine when a link began. -/
theorem begun_of_entry (life : Life fresh past stage) (begins : fresh.Sound)
    (noInstances : fresh.instances = #[]) {inst : InstanceHandle}
    (entry : stage.context.instanceEntry? inst = some made) :
    ∃ happened ∈ past, ∃ call, happened.1.linkBegun? happened.2 = some call ∧
      (happened.1.context.engineLink call.artifact call.items).1 = .ok made := by
  have listed : made ∈ stage.context.instances.toList := by
    unfold Context.instanceEntry? at entry
    split at entry
    · exact Array.mem_toList_iff.2 (Array.mem_of_getElem? entry)
    · contradiction
  rw [life.instances_eq_entries noInstances] at listed
  obtain ⟨ret, member, isEntry⟩ := List.mem_filterMap.1 listed
  obtain ⟨later, returned, earlier, rfl, isReturn⟩ := mem_linkReturns member
  rcases Stage.linkReturn?_origin isReturn with ⟨call, begun, -, engine⟩ | ⟨origin, waits, isMade⟩
  · exact ⟨returned, by simp, call, begun, engine made isEntry⟩
  · obtain ⟨call, begun, inner, before, started⟩ := life.before.started begins waits
    rw [isMade made isEntry]
    refine ⟨begun, ?_, call, started.isCall, started.engine⟩
    rw [started.history]
    simp

/-- The engine has the instance of every link that began, with the module of the artifact. -/
theorem code_of_begun (life : Life fresh past stage) (begins : fresh.Sound)
    {happened : Stage σ × Act σ} (member : happened ∈ past) {call : LinkCall σ}
    (begun : happened.1.linkBegun? happened.2 = some call)
    (engine : (happened.1.context.engineLink call.artifact call.items).1 = .ok made) :
    ∃ code, stage.context.store.code? made.owner = some code ∧
      code.module = call.artifact.module := by
  induction life with
  | created => contradiction
  | @acted past before after act life taken inductionHypothesis =>
      rcases List.mem_cons.1 member with rfl | earlier
      · have moves := Stage.take_moves taken
        rw [begun] at moves
        generalize after.context.store = store at moves ⊢
        cases moves
        exact Context.engineLink_code engine
      · obtain ⟨code, found, isModule⟩ := inductionHypothesis earlier
        have extension := ((life.sound begins).take_leads taken).extension
        exact ⟨code, extension.store.code found, isModule⟩

/-- A linked instance is one of the engine with the module of its artifact, which is valid. -/
theorem instance_of_entry (life : Life fresh past stage) (begins : fresh.Sound)
    (noInstances : fresh.instances = #[]) (valid : LinksValid past) {inst : InstanceHandle}
    (entry : stage.context.instanceEntry? inst = some made) :
    made.artifact.module.Valid ∧ ∃ owning,
      stage.context.store.instances[made.owner]? = some owning ∧
        owning.module = made.artifact.module := by
  obtain ⟨happened, member, call, begun, engine⟩ := life.begun_of_entry begins noInstances entry
  obtain ⟨_, -, onMade⟩ := happened.1.context.engineLink_cases call.artifact call.items
  obtain ⟨code, found, isModule⟩ := life.code_of_begun begins member begun engine
  obtain ⟨owning, isOwning, rfl⟩ := (Store.code?_eq_some_iff ..).1 found
  rw [(onMade made engine).1]
  exact ⟨valid happened member call begun, owning, isOwning, isModule⟩

end Life

/-- In a fresh context the engine has no items. -/
theorem Context.create_tended {σ : Type} (id : ContextId) (environment : Environment) (data : σ) :
    (create id environment data).store.Tended := by
  refine ⟨⟨?_, ?_⟩, ?_⟩ <;> simp [create]

end WasmSandbox
