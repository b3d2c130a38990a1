import WasmSandbox.Proofs.Context.Upkeep
import WasmSandbox.Proofs.Engine.MutableGlobals

/-!
Contract: what is written to the globals of a context over its life.

Owns:
- the write of an act: of the host, by a request to set a global that succeeds, or of guest
  code, by `global.set`;
- that an act makes its write and no other, and leaves all other globals as they were;
- the content of a global at a stage: what was written last since an earlier one, or the
  content that it had then.

Links, calls and failures of all sorts write nothing, and a request that is refused does not
either.

Does not own: which handle stands for which global, or which globals can be written.
-/

namespace WasmSandbox

open Wasm

/-! ## Writes of acts -/

namespace Context

variable {σ : Type}

/-- The write of a request: setting a global writes the lowered value, unless it is refused. -/
def requestWrite? (context : Context σ) : Request σ → Option GlobalWrite
  | .setGlobal handle value => do
      let _ ← (context.setGlobal handle value).toOption
      return ⟨handle.address, ← (context.lower value).toOption⟩
  | _ => none

/-- The write of a step: of what a closure asks, or of an instruction. -/
def stepWrite? (context : Context σ) : RunState σ → Option GlobalWrite
  | .closure (.ask request _) _ => context.requestWrite? request
  | .guest activation _ => activation.write? context.store
  | _ => none

end Context

/-- The write of an act, of the host or of guest code. -/
def Stage.write? {σ : Type} : Stage σ → Act σ → Option GlobalWrite
  | ⟨context, none⟩, .ask request => context.requestWrite? request
  | ⟨context, some state⟩, .step => context.stepWrite? state
  | _, _ => none

namespace Context

variable {σ : Type} {context after : Context σ}

open Store

/-! ## Answers -/

theorem Issues.globals (issues : Issues context after) :
    after.store.globals = context.store.globals := by
  induction issues with
  | same context => rfl
  | issued context origin declared rest inductionHypothesis =>
      obtain ⟨funcs, isAfter⟩ := handleOf_eq context origin declared
      rw [inductionHypothesis, isAfter]
      exact context.store.emerge_globals origin

private theorem createMemory_globals {type : MemoryType}
    {answer : Except MemoryError MemoryHandle}
    (answered : context.createMemory type = .answered (answer, after)) :
    after.store.globals = context.store.globals := by
  simp only [createMemory] at answered
  split at answered
  · cases answered
    rfl
  · split at answered
    · contradiction
    · split at answered
      · rename_i added
        cases answered
        exact addMemory?_globals added
      · cases answered
        rfl

private theorem writeMemory_globals {memory : MemoryHandle} {offset : UInt64}
    {bytes : List UInt8} (written : context.writeMemory memory offset bytes = .ok after) :
    after.store.globals = context.store.globals := by
  obtain ⟨owned, -, written⟩ := bind_eq_ok_iff.1 written
  obtain ⟨filled, -, same⟩ := bind_eq_ok_iff.1 written
  cases same
  rfl

private theorem writeWord_globals {memory : MemoryHandle} {offset : UInt64} {value : UInt32}
    (written : context.writeWord memory offset value = .ok after) :
    after.store.globals = context.store.globals := by
  obtain ⟨owned, -, written⟩ := bind_eq_ok_iff.1 written
  obtain ⟨filled, -, same⟩ := bind_eq_ok_iff.1 written
  cases same
  rfl

private theorem growMemory_globals {memory : MemoryHandle} {delta : UInt64} {pages : Nat}
    (grown : context.growMemory memory delta = .ok (pages, after)) :
    after.store.globals = context.store.globals := by
  obtain ⟨owned, -, grown⟩ := bind_eq_ok_iff.1 grown
  split at grown
  · cases grown
    rfl
  · contradiction

private theorem createGlobal_commits {type : GlobalType} {value : Val} {handle : GlobalHandle}
    (created : context.createGlobal type value = .ok (handle, after)) :
    Commits none context.store after.store := by
  obtain ⟨-, -, content, -, same⟩ := createGlobal_eq_ok_iff.1 created
  cases same
  exact addGlobal_commits _ _ content

/-- A request to set a global that is granted writes the lowered value to it. -/
theorem requestWrite?_of_set {handle : GlobalHandle} {value : Val}
    (set : context.setGlobal handle value = .ok after) :
    ∃ content, context.lower value = .ok content ∧
      context.requestWrite? (.setGlobal handle value) = some ⟨handle.address, content⟩ ∧
        after = { context with store := context.store.updateGlobal handle.address content } := by
  obtain ⟨-, -, -, -, content, lowers, rfl⟩ := setGlobal_eq_ok_iff.1 set
  refine ⟨content, lowers, ?_, rfl⟩
  simp [requestWrite?, set, lowers, Except.toOption]

theorem requestWrite?_of_refused {handle : GlobalHandle} {value : Val} {error : CallError}
    (refused : context.setGlobal handle value = .error error) :
    context.requestWrite? (.setGlobal handle value) = none := by
  simp [requestWrite?, refused, Except.toOption]

theorem requestWrite?_eq_some {request : Request σ} {write : GlobalWrite}
    (writes : context.requestWrite? request = some write) :
    ∃ handle value after, request = .setGlobal handle value ∧
      context.setGlobal handle value = .ok after ∧ write.address = handle.address := by
  cases request with
  | setGlobal handle value =>
      cases set : context.setGlobal handle value with
      | error error =>
          rw [requestWrite?_of_refused set] at writes
          contradiction
      | ok after =>
          obtain ⟨content, -, isWrite, -⟩ := requestWrite?_of_set set
          rw [isWrite] at writes
          cases writes
          exact ⟨handle, value, after, rfl, set, rfl⟩
  | _ => contradiction

private theorem setGlobal_commits {handle : GlobalHandle} {value : Val}
    {answer : Except CallError Unit}
    (answered : context.applied (context.setGlobal handle value) = (answer, after)) :
    Commits (context.requestWrite? (.setGlobal handle value)) context.store after.store := by
  cases set : context.setGlobal handle value with
  | error error =>
      rw [set] at answered
      cases answered
      rw [requestWrite?_of_refused set]
      exact .refl _
  | ok done =>
      rw [set] at answered
      cases answered
      obtain ⟨content, -, writes, rfl⟩ := requestWrite?_of_set set
      rw [writes]
      exact updateGlobal_commits _ handle.address content

/-- The answer to a request leaves every global as the write of the request does. -/
theorem answer_commits {request : Request σ} {answer : request.Answer}
    (answered : context.answer request = .answered (answer, after)) :
    Commits (context.requestWrite? request) context.store after.store := by
  cases request
  case createMemory type => exact .of_eq (createMemory_globals answered)
  case writeMemory memory offset bytes =>
    rcases applied_cases (Outcome.answered.inj answered) with rfl | done
    · exact .refl _
    · exact .of_eq (writeMemory_globals done)
  case writeWord memory offset value =>
    rcases applied_cases (Outcome.answered.inj answered) with rfl | done
    · exact .refl _
    · exact .of_eq (writeWord_globals done)
  case growMemory memory delta =>
    rcases changed_cases (Outcome.answered.inj answered) with rfl | ⟨_, done⟩
    · exact .refl _
    · exact .of_eq (growMemory_globals done)
  case createGlobal type value =>
    rcases changed_cases (Outcome.answered.inj answered) with rfl | ⟨_, done⟩
    · exact .refl _
    · exact createGlobal_commits done
  case setGlobal global value => exact setGlobal_commits (Outcome.answered.inj answered)
  case getGlobal global =>
    have issues := context.getGlobal_issues global
    rw [Outcome.answered.inj answered] at issues
    exact .of_eq issues.globals
  case lookup inst name =>
    have issues := context.lookup_issues inst name
    rw [Outcome.answered.inj answered] at issues
    exact .of_eq issues.globals
  case exports inst =>
    have issues := context.exports_issues inst
    rw [Outcome.answered.inj answered] at issues
    exact .of_eq issues.globals
  -- All others only look, or change host data.
  all_goals
    cases answered
    exact .refl _

/-- A request to set a global is always answered. -/
theorem requestWrite?_of_panicked {request : Request σ}
    (panicked : context.answer request = .panicked) : context.requestWrite? request = none := by
  cases request with
  | setGlobal handle value => contradiction
  | _ => rfl

/-! ## Steps -/

/-- Up to the start function of its instance, a link writes to no global. -/
theorem engineLink_commits (context : Context σ) (artifact : Artifact) (items : List Item) :
    Commits none context.store (context.engineLink artifact items).2.store := by
  unfold engineLink
  split
  · exact .refl _
  · cases context.resolveImports artifact items with
    | error error => exact .refl _
    | ok externs =>
        have made := instantiate_commits context.store artifact.module externs
        simp only
        split <;> exact made

private theorem stepClosure_commits (context : Context σ) (proc : Proc σ) (cont : HostCont σ) :
    Commits (context.stepWrite? (.closure proc cont)) context.store
      (context.stepClosure proc cont).1.store := by
  cases proc with
  | finish slots =>
      rw [stepClosure, finishClosure_context]
      exact .refl _
  | fail error =>
      rw [stepClosure, finishClosure_context]
      exact .refl _
  | panic => exact .refl _
  | ask request next =>
      simp only [stepClosure, stepWrite?]
      cases answered : context.answer request with
      | panicked =>
          rw [requestWrite?_of_panicked answered]
          exact .refl _
      | answered out => exact answer_commits answered
  | register signature body next => exact .refl _
  | call func args next =>
      rw [stepClosure, beginCall_store]
      exact .refl _
  | link artifact items next =>
      rw [stepClosure, beginLink_store]
      exact context.engineLink_commits artifact items

private theorem enterEngine_commits (context : Context σ) (func : FuncKey) (args : List Value)
    (cont : GuestCont σ) :
    Commits none context.store (context.enterEngine func args cont).1.store := by
  unfold enterEngine
  split
  · rename_i host called
    have kept := (context.liftAll_issues args host.signature.params).globals
    generalize context.liftAll args host.signature.params = out at kept
    obtain ⟨outcome, after⟩ := out
    cases outcome <;> exact .of_eq kept
  · rename_i owner code called
    split
    · simp only [onStore_eq, afterAdvance_context]
      exact Activation.enter_commits _ owner cont.level code args
    · exact .refl _
  · exact .refl _

private theorem stepReturning_commits (context : Context σ) (values : List Value)
    (cont : GuestCont σ) :
    Commits none context.store (context.stepReturning values cont).1.store := by
  cases cont with
  | frame activation below => exact .refl _
  | called func signature wait =>
      exact .of_eq (context.liftAll_issues values signature.results).globals
  | starting made wait =>
      rw [stepReturning, finishLink, deliverLink_context]
      exact .refl _

/-- A step leaves every global as its write does. -/
theorem step_commits {state : RunState σ} {run : Run σ} (stepped : context.step state = some run) :
    Commits (context.stepWrite? state) context.store run.1.store := by
  cases state with
  | invoking body args cont =>
      cases stepped
      exact .refl _
  | closure proc cont =>
      cases stepped
      exact context.stepClosure_commits proc cont
  | guest activation cont =>
      cases stepped
      rw [afterAdvance_context]
      exact activation.advance_commits context.store
  | entering func args cont =>
      cases stepped
      exact context.enterEngine_commits func args cont
  | returning values cont =>
      cases stepped
      exact context.stepReturning_commits values cont
  | raising error cont =>
      cases stepped
      cases cont with
      | starting made wait =>
          rw [stepRaising, deliverLink_context]
          exact .refl _
      | _ => exact .refl _
  | leaving func signature result wait =>
      cases stepped
      rw [endCall_context]
      exact .refl _
  | called result => contradiction
  | linked result => contradiction
  | panicked => contradiction

end Context

/-- An act with which something is asked makes the write of the request. -/
theorem Stage.write?_of_asked {σ : Type} {stage : Stage σ} {act : Act σ} {request : Request σ}
    (asked : stage.asked? act = some request) :
    stage.write? act = stage.context.requestWrite? request := by
  rcases asked?_eq_some asked with ⟨context, rfl, rfl⟩ | ⟨context, next, cont, rfl, rfl⟩ <;> rfl

/-- A write is one of a request to set a global, or one of guest code. -/
theorem Stage.write?_eq_some {σ : Type} {stage : Stage σ} {act : Act σ} {write : GlobalWrite}
    (writes : stage.write? act = some write) :
    (∃ handle value after, stage.asked? act = some (.setGlobal handle value) ∧
        stage.context.setGlobal handle value = .ok after ∧ write.address = handle.address) ∨
      ∃ activation cont, stage.running = some (.guest activation cont) ∧
        activation.write? stage.context.store = some write := by
  obtain ⟨context, running⟩ := stage
  cases running with
  | none =>
      cases act with
      | ask request =>
          obtain ⟨handle, value, after, rfl, set, isAddress⟩ :=
            Context.requestWrite?_eq_some writes
          exact .inl ⟨handle, value, after, rfl, set, isAddress⟩
      | _ => contradiction
  | some state =>
      cases act with
      | step =>
          cases state with
          | guest activation cont => exact .inr ⟨activation, cont, rfl, writes⟩
          | closure proc cont =>
              cases proc with
              | ask request next =>
                  obtain ⟨handle, value, after, rfl, set, isAddress⟩ :=
                    Context.requestWrite?_eq_some writes
                  exact .inl ⟨handle, value, after, rfl, set, isAddress⟩
              | _ => contradiction
          | _ => contradiction
      | _ => contradiction

/-- An act leaves every global as its write does. -/
theorem Stage.take_commits {σ : Type} {stage after : Stage σ} {act : Act σ}
    (taken : stage.take act = some after) :
    Store.Commits (stage.write? act) stage.context.store after.context.store := by
  cases take_eq_some_iff.1 taken with
  | answered answered => exact Context.answer_commits answered
  | unanswered panicked =>
      rw [write?, Context.requestWrite?_of_panicked panicked]
      exact .refl _
  | registered context signature body => exact .of_eq rfl
  | fuelSet set =>
      obtain ⟨-, rfl⟩ := Context.setFuel_eq_ok_iff.1 set
      exact .of_eq rfl
  | fuelRefused _ => exact .refl _
  | called context func args =>
      rw [ofRun, Context.beginCall_store]
      exact .refl _
  | linked context artifact items =>
      rw [ofRun, Context.beginLink_store]
      exact context.engineLink_commits artifact items
  | stepped stepped => exact Context.step_commits stepped
  | closed _ => exact .refl _

/-! ## Between two stages -/

/-- What was written to an address in part of a life, the latest write if there were several. -/
def lastWritten {σ : Type} (part : List (Stage σ × Act σ)) (address : Nat) : Option Value :=
  part.findSome? fun happened => (happened.1.write? happened.2).bind (·.at? address)

theorem lastWritten_append {σ : Type} (later earlier : List (Stage σ × Act σ)) (address : Nat) :
    lastWritten (later ++ earlier) address =
      (lastWritten later address).or (lastWritten earlier address) :=
  List.findSome?_append

/-- A global has the content that was written last since an earlier stage, or, if nothing was
written since, the content that it had then. -/
theorem Life.global_since {σ : Type} {fresh : Context σ} {later earlier : List (Stage σ × Act σ)}
    {happened : Stage σ × Act σ} {stage : Stage σ}
    (life : Life fresh (later ++ happened :: earlier) stage) {address : Nat} {global : Global}
    (found : happened.1.context.store.globals[address]? = some global) :
    stage.context.store.globals[address]? = some { global with
      value := (lastWritten (later ++ [happened]) address).getD global.value } := by
  induction later generalizing stage with
  | nil =>
      rw [List.nil_append] at life
      cases life with
      | acted life taken =>
          rw [Stage.take_commits taken address global found]
          simp [lastWritten]
  | cons latest later inductionHypothesis =>
      cases life with
      | @acted _ before _ act life taken =>
          rw [Stage.take_commits taken address _ (inductionHypothesis life)]
          simp only [lastWritten, List.cons_append, List.findSome?_cons]
          cases (before.write? act).bind (·.at? address) <;> rfl

end WasmSandbox
