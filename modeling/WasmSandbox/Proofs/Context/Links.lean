import WasmSandbox.Proofs.Context.Handouts
import WasmSandbox.Proofs.Context.Stack

/-!
Contract: which instances a context has, and which links they come from.

Owns:
- the links that return, with their results, and the links of a life that have returned;
- that only links which return an instance add to the list of instances, each one entry;
- that a link which returns was begun before, with the same artifact, and what the list
  gained in between.

A link may wait for a start function, and closures that this calls may link in turn.  The
entry of a link is added when it returns, so behind those of all links within it.

Does not own: which links are accepted, and what an instance exports.
-/

namespace WasmSandbox

open Wasm

/-! ## Links that return -/

/-- A link that is over: what waits for it, and a failure, or the handle that it returns
with the instance for which the handle stands. -/
structure LinkReturn (σ : Type) where
  wait : LinkWait σ
  outcome : Except LinkError (InstanceHandle × InstanceEntry)

namespace LinkReturn

variable {σ : Type} (ret : LinkReturn σ)

/-- What is handed to what waits for the link. -/
def result : Except LinkError InstanceHandle := ret.outcome.map Prod.fst

def handle? : Option InstanceHandle := ret.outcome.toOption.map Prod.fst

/-- The entry that the link adds to the list of instances. -/
def entry? : Option InstanceEntry := ret.outcome.toOption.map Prod.snd

def succeeds : Bool := ret.outcome.toOption.isSome

theorem isSome_entry? : ret.entry?.isSome = ret.succeeds :=
  Option.isSome_map

/-- A link returns neither a handle nor an entry, or both. -/
theorem outcome_cases : (ret.handle? = none ∧ ret.entry? = none) ∨
    ∃ inst made, ret.handle? = some inst ∧ ret.entry? = some made := by
  unfold handle? entry?
  cases ret.outcome with
  | error error => exact .inl ⟨rfl, rfl⟩
  | ok made => exact .inr ⟨made.1, made.2, rfl, rfl⟩

end LinkReturn

/-- The embedder is told of a link. -/
def RunState.tellsLink {σ : Type} : RunState σ → Bool
  | .linked _ => true
  | _ => false

namespace Context

variable {σ : Type}

/-- What a link returns at once, if it does not have to wait for a start function. -/
def linkReturn? (context : Context σ) (call : LinkCall σ) : Option (LinkReturn σ) :=
  match context.engineLink call.artifact call.items with
  | (.error error, _) => some ⟨call.wait, .error error⟩
  | (.ok made, after) =>
      match call.artifact.module.start with
      | none => some ⟨call.wait, .ok ((after.addInstance made).1, made)⟩
      | some _ => none

/-- The link that returns with a step: one that is over at once, or one whose start
function returned or failed. -/
def stepReturn? (context : Context σ) : RunState σ → Option (LinkReturn σ)
  | .closure (.link artifact items next) below =>
      context.linkReturn? ⟨artifact, items, .closure next below⟩
  | .returning _ (.starting made wait) => some ⟨wait, .ok ((context.addInstance made).1, made)⟩
  | .raising error (.starting _ wait) => some ⟨wait, .error (.ofEngine error)⟩
  | _ => none

end Context

/-- The link that returns with an act. -/
def Stage.linkReturn? {σ : Type} : Stage σ → Act σ → Option (LinkReturn σ)
  | ⟨context, none⟩, .link artifact items => context.linkReturn? ⟨artifact, items, .embedder⟩
  | ⟨context, some state⟩, .step => context.stepReturn? state
  | _, _ => none

/-- The links that have returned in a life, in the order of their returns. -/
def linkReturns {σ : Type} : List (Stage σ × Act σ) → List (LinkReturn σ)
  | [] => []
  | (stage, act) :: earlier => linkReturns earlier ++ (stage.linkReturn? act).toList

theorem linkReturns_append {σ : Type} (later earlier : List (Stage σ × Act σ)) :
    linkReturns (later ++ earlier) = linkReturns earlier ++ linkReturns later := by
  induction later with
  | nil => simp [linkReturns]
  | cons happened later inductionHypothesis =>
      rw [List.cons_append, linkReturns, inductionHypothesis, linkReturns, List.append_assoc]

namespace Context

variable {σ : Type} {context after : Context σ}

/-! ## What leaves the list of instances alone -/

theorem liftAll_instances (context : Context σ) (values : List Value) (kinds : List ValueKind) :
    (context.liftAll values kinds).2.instances = context.instances :=
  (context.liftAll_issues values kinds).instances

/-- No request of a closure or of the embedder adds or changes an instance. -/
theorem answer_instances {request : Request σ} {answer : request.Answer}
    (answered : context.answer request = .answered (answer, after)) :
    after.instances = context.instances := by
  rcases answer_cases answered with issues | ⟨data, store, -, -, rfl⟩
  · exact issues.instances
  · rfl

/-! ## What a step does to the list of instances -/

/-- What a step can do to the list of instances, with the link that returns with it. -/
inductive Lists (context : Context σ) : Option (LinkReturn σ) → Run σ → Prop where
  /-- A link returns: its result is handed to what waits for it, and its entry, if there is
  one, is added at the end and stands behind the handle. -/
  | returns (ret : LinkReturn σ) {after : Context σ}
      (appended : after.instances.toList = context.instances.toList ++ ret.entry?.toList)
      (handle : ∀ inst, ret.handle? = some inst →
        inst = ⟨context.id, context.instances.size⟩) :
      Lists context (some ret) (after.deliverLink ret.result ret.wait)
  /-- No link returns, and the embedder is told of none. -/
  | silent {run : Run σ} (same : run.1.instances = context.instances)
      (untold : run.2.tellsLink = false) : Lists context none run

theorem deliverCall_lists (context : Context σ) (result : Except CallError (List Val))
    (wait : CallWait σ) : Lists context none (context.deliverCall result wait) := by
  cases wait <;> exact .silent rfl rfl

theorem afterAdvance_lists (same : after.instances = context.instances) (cont : GuestCont σ)
    (advance : Advance) : Lists context none (after.afterAdvance cont advance) := by
  cases advance with
  | halted halt => cases halt <;> exact .silent same rfl
  | _ => exact .silent same rfl

theorem finishClosure_lists (context : Context σ) (result : Except CallError (List Val))
    (cont : HostCont σ) : Lists context none (context.finishClosure result cont) := by
  cases cont with
  | called func signature wait => exact .silent rfl rfl
  | imported signature below =>
      cases result with
      | error error => exact .silent rfl rfl
      | ok values =>
          simp only [finishClosure]
          cases values.mapM context.lower <;> exact .silent rfl rfl

/-- A link that returns an instance adds it. -/
theorem finishLink_lists (sameId : after.id = context.id)
    (same : after.instances = context.instances) (made : InstanceEntry) (wait : LinkWait σ) :
    Lists context (some ⟨wait, .ok ((after.addInstance made).1, made)⟩)
      (after.finishLink made wait) := by
  refine .returns ⟨wait, .ok ((after.addInstance made).1, made)⟩ ?_ ?_
  · rw [addInstance, Array.toList_push, same]
    rfl
  · intro inst isHandle
    rw [← Option.some.inj isHandle, addInstance, sameId, same]

/-- A link that fails adds nothing. -/
theorem failLink_lists (same : after.instances = context.instances) (error : LinkError)
    (wait : LinkWait σ) :
    Lists context (some ⟨wait, .error error⟩) (after.deliverLink (.error error) wait) :=
  .returns ⟨wait, .error error⟩ (by rw [same]; exact (List.append_nil _).symm) nofun

theorem beginCall_lists (context : Context σ) (func : FuncHandle) (args : List Val)
    (wait : CallWait σ) : Lists context none (context.beginCall func args wait) := by
  unfold beginCall
  split
  · exact deliverCall_lists context _ wait
  · simp only
    split
    · exact .silent rfl rfl
    · split
      · exact .silent rfl rfl
      · exact .silent rfl rfl

theorem beginLink_lists (context : Context σ) (artifact : Artifact) (items : List Item)
    (wait : LinkWait σ) :
    Lists context (context.linkReturn? ⟨artifact, items, wait⟩)
      (context.beginLink artifact items wait) := by
  obtain ⟨store, changed, -⟩ := context.engineLink_cases artifact items
  rw [beginLink_eq, linkReturn?]
  simp only
  generalize context.engineLink artifact items = out at changed
  obtain ⟨outcome, after⟩ := out
  simp only at changed
  cases outcome with
  | error error => exact failLink_lists (by rw [changed]) error wait
  | ok made =>
      cases artifact.module.start with
      | none => exact finishLink_lists (by rw [changed]) (by rw [changed]) made wait
      | some index => exact .silent (by rw [changed]) rfl

theorem stepClosure_lists (context : Context σ) (proc : Proc σ) (cont : HostCont σ) :
    Lists context (context.stepReturn? (.closure proc cont)) (context.stepClosure proc cont) := by
  cases proc with
  | finish slots => exact finishClosure_lists context _ cont
  | fail error => exact finishClosure_lists context _ cont
  | panic => exact .silent rfl rfl
  | ask request next =>
      simp only [stepClosure]
      cases answered : context.answer request with
      | panicked => exact .silent rfl rfl
      | answered out => exact .silent (answer_instances answered) rfl
  | register signature body next => exact .silent rfl rfl
  | call func args next => exact context.beginCall_lists func args (.closure next cont)
  | link artifact items next => exact context.beginLink_lists artifact items (.closure next cont)

theorem enterEngine_lists (context : Context σ) (func : FuncKey) (args : List Value)
    (cont : GuestCont σ) : Lists context none (context.enterEngine func args cont) := by
  unfold enterEngine
  split
  · rename_i host called
    have same := context.liftAll_instances args host.signature.params
    generalize context.liftAll args host.signature.params = out at same
    obtain ⟨outcome, after⟩ := out
    cases outcome <;> exact .silent same rfl
  · split
    · exact afterAdvance_lists (by rfl) cont _
    · exact .silent rfl rfl
  · exact .silent rfl rfl

/-- All that a step can do to the list of instances. -/
theorem step_lists {state : RunState σ} {run : Run σ} (stepped : context.step state = some run) :
    Lists context (context.stepReturn? state) run := by
  cases state with
  | invoking body args cont =>
      cases stepped
      exact .silent rfl rfl
  | closure proc cont =>
      cases stepped
      exact context.stepClosure_lists proc cont
  | guest activation cont =>
      cases stepped
      exact afterAdvance_lists (by rfl) cont _
  | entering func args cont =>
      cases stepped
      exact context.enterEngine_lists func args cont
  | returning values cont =>
      cases stepped
      cases cont with
      | frame activation below => exact .silent rfl rfl
      | called func signature wait => exact .silent (liftAll_instances ..) rfl
      | starting made wait => exact finishLink_lists rfl rfl made wait
  | raising error cont =>
      cases stepped
      cases cont with
      | frame activation below => exact .silent rfl rfl
      | called func signature wait => exact .silent rfl rfl
      | starting made wait => exact failLink_lists rfl (.ofEngine error) wait
  | leaving func signature result wait =>
      cases stepped
      have delivered := deliverCall_lists { context with depth := context.depth - 1 } result wait
      cases delivered with
      | silent same untold => exact .silent same untold
  | called result => contradiction
  | linked result => contradiction
  | panicked => contradiction

/-! ## Handles of instances -/

theorem Extends.instanceEntry?_eq_some (extension : Extends context after) {inst : InstanceHandle}
    {made : InstanceEntry} (found : context.instanceEntry? inst = some made) :
    after.instanceEntry? inst = some made := by
  unfold instanceEntry? at found ⊢
  rw [extension.id]
  split
  · rename_i own
    rw [if_pos own] at found
    exact extension.inst found
  · rename_i foreign
    rw [if_neg foreign] at found
    contradiction

/-- The last entry stands behind the next position before it. -/
theorem instanceEntry?_appended {made : InstanceEntry}
    (appended : after.instances.toList = context.instances.toList ++ [made]) :
    after.instanceEntry? ⟨after.id, context.instances.size⟩ = some made := by
  unfold instanceEntry?
  rw [if_pos rfl, ← Array.getElem?_toList, appended, ← Array.length_toList,
    List.getElem?_concat_length]

/-! ## Links that are over at once -/

variable {call : LinkCall σ}

/-- A link that returns at once returns to what waits for it, with the instance that the
engine made. -/
theorem linkReturn?_eq_some {ret : LinkReturn σ} (returned : context.linkReturn? call = some ret) :
    ret.wait = call.wait ∧ ∀ made, ret.entry? = some made →
      (context.engineLink call.artifact call.items).1 = .ok made := by
  unfold linkReturn? at returned
  split at returned
  · cases returned
    exact ⟨rfl, nofun⟩
  · rename_i made after engine
    split at returned
    · cases returned
      refine ⟨rfl, ?_⟩
      intro entry isEntry
      rw [engine, ← Option.some.inj isEntry]
    · contradiction

/-- A link does not return while its start function runs. -/
theorem linkReturn?_of_start {made : InstanceEntry}
    (engine : (context.engineLink call.artifact call.items).1 = .ok made)
    (isStart : call.artifact.module.start.isSome) : context.linkReturn? call = none := by
  obtain ⟨index, isStart⟩ := Option.isSome_iff_exists.1 isStart
  unfold linkReturn?
  generalize context.engineLink call.artifact call.items = out at engine
  obtain ⟨outcome, after⟩ := out
  rw [show outcome = .ok made from engine, isStart]

end Context

/-! ## What an act does to the list of instances -/

namespace Stage

variable {σ : Type} {stage after : Stage σ} {act : Act σ}

/-- All that an act can do to the list of instances. -/
theorem take_lists (taken : stage.take act = some after) :
    (after.running = none ∧ stage.linkReturn? act = none ∧
        after.context.instances = stage.context.instances) ∨
      ∃ run, after = .ofRun run ∧ stage.context.Lists (stage.linkReturn? act) run := by
  cases take_eq_some_iff.1 taken with
  | answered answered => exact .inl ⟨rfl, rfl, Context.answer_instances answered⟩
  | fuelSet set =>
      obtain ⟨-, rfl⟩ := Context.setFuel_eq_ok_iff.1 set
      exact .inl ⟨rfl, rfl, rfl⟩
  | called context func args =>
      exact .inr ⟨_, rfl, context.beginCall_lists func args .embedder⟩
  | linked context artifact items =>
      exact .inr ⟨_, rfl, context.beginLink_lists artifact items .embedder⟩
  | stepped stepped => exact .inr ⟨_, rfl, Context.step_lists stepped⟩
  | unanswered _ | registered _ _ _ | fuelRefused _ | closed _ => exact .inl ⟨rfl, rfl, rfl⟩

/-- A link that returns with an act hands its result over, and adds its entry. -/
theorem take_returns (taken : stage.take act = some after) {ret : LinkReturn σ}
    (returned : stage.linkReturn? act = some ret) :
    after = .ofRun (after.context.deliverLink ret.result ret.wait) ∧
      after.context.instances.toList = stage.context.instances.toList ++ ret.entry?.toList ∧
        ∀ inst, ret.handle? = some inst →
          inst = ⟨stage.context.id, stage.context.instances.size⟩ := by
  rcases take_lists taken with ⟨-, none, -⟩ | ⟨run, rfl, lists⟩
  · rw [none] at returned
    contradiction
  · rw [returned] at lists
    cases lists with
    | returns _ appended handle =>
        rename_i middle
        have sameContext := middle.deliverLink_context ret.result ret.wait
        refine ⟨?_, ?_, handle⟩
        · simp only [ofRun, sameContext]
        · simp only [ofRun, sameContext]
          exact appended

/-- An act with which no link returns leaves the list of instances as it is, and the
embedder is told of no link. -/
theorem take_silent (taken : stage.take act = some after)
    (silent : stage.linkReturn? act = none) :
    after.context.instances = stage.context.instances ∧
      ∀ result, after.running ≠ some (.linked result) := by
  rcases take_lists taken with ⟨isIdle, -, same⟩ | ⟨run, rfl, lists⟩
  · exact ⟨same, by simp [isIdle]⟩
  · rw [silent] at lists
    cases lists with
    | silent same untold =>
        refine ⟨same, ?_⟩
        intro result told
        rw [Option.some.inj told] at untold
        contradiction

/-- A link that an act begins returns at once or not with that act. -/
theorem linkReturn?_of_begun {call : LinkCall σ} (begun : stage.linkBegun? act = some call) :
    stage.linkReturn? act = stage.context.linkReturn? call := by
  obtain ⟨context, running⟩ := stage
  cases running with
  | none =>
      cases act with
      | link artifact items =>
          cases begun
          rfl
      | _ => contradiction
  | some state =>
      cases act with
      | step =>
          cases state with
          | closure proc cont =>
              cases proc with
              | link artifact items next =>
                  cases begun
                  rfl
              | _ => contradiction
          | _ => contradiction
      | _ => contradiction

/-- A link that returns with an act was begun by it, or its start was on the stack.  What
its handle stands for is the instance that the engine made when the link began. -/
theorem linkReturn?_origin {ret : LinkReturn σ} (returned : stage.linkReturn? act = some ret) :
    (∃ call, stage.linkBegun? act = some call ∧ call.wait = ret.wait ∧
        ∀ made, ret.entry? = some made →
          (stage.context.engineLink call.artifact call.items).1 = .ok made) ∨
      ∃ made, Waiting.start made ret.wait ∈ stage.stack ∧
        ∀ entry, ret.entry? = some entry → entry = made := by
  obtain ⟨context, running⟩ := stage
  cases running with
  | none =>
      cases act with
      | link artifact items =>
          obtain ⟨sameWait, engine⟩ := Context.linkReturn?_eq_some returned
          exact .inl ⟨_, rfl, sameWait.symm, engine⟩
      | _ => contradiction
  | some state =>
      cases act with
      | step =>
          cases state with
          | closure proc cont =>
              cases proc with
              | link artifact items next =>
                  obtain ⟨sameWait, engine⟩ := Context.linkReturn?_eq_some returned
                  exact .inl ⟨_, rfl, sameWait.symm, engine⟩
              | _ => contradiction
          | returning values cont =>
              cases cont with
              | starting made wait =>
                  cases returned
                  refine .inr ⟨made, List.mem_cons_self .., ?_⟩
                  intro entry isEntry
                  exact (Option.some.inj isEntry).symm
              | _ => contradiction
          | raising error cont =>
              cases cont with
              | starting made wait =>
                  cases returned
                  exact .inr ⟨made, List.mem_cons_self .., nofun⟩
              | _ => contradiction
          | _ => contradiction
      | _ => contradiction

end Stage

/-! ## Links of a life -/

/-- A link whose start function is waited for was begun by an act, with the instance that
the engine made then, and has waited since. -/
structure Started {σ : Type} (past : List (Stage σ × Act σ)) (made : InstanceEntry)
    (wait : LinkWait σ) (call : LinkCall σ) (begun : Stage σ × Act σ)
    (inner before : List (Stage σ × Act σ)) : Prop where
  history : past = inner ++ begun :: before
  isCall : begun.1.linkBegun? begun.2 = some call
  isWait : call.wait = wait
  engine : (begun.1.context.engineLink call.artifact call.items).1 = .ok made
  silent : begun.1.linkReturn? begun.2 = none
  waits : ∀ happened ∈ inner, Waiting.start made wait ∈ happened.1.stack

/-- The link goes on waiting. -/
theorem Started.later {σ : Type} {past inner before : List (Stage σ × Act σ)}
    {made : InstanceEntry} {wait : LinkWait σ} {call : LinkCall σ} {begun : Stage σ × Act σ}
    (started : Started past made wait call begun inner before) {stage : Stage σ} (act : Act σ)
    (waited : Waiting.start made wait ∈ stage.stack) :
    Started ((stage, act) :: past) made wait call begun ((stage, act) :: inner) before where
  history := by rw [started.history, List.cons_append]
  isCall := started.isCall
  isWait := started.isWait
  engine := started.engine
  silent := started.silent
  waits := by
    intro happened member
    rcases List.mem_cons.1 member with rfl | isInner
    · exact waited
    · exact started.waits happened isInner

namespace Life

variable {σ : Type} {fresh : Context σ} {past : List (Stage σ × Act σ)} {stage : Stage σ}

/-- What happened before an act of a life led to the stage of the act. -/
theorem before {later earlier : List (Stage σ × Act σ)} {happened : Stage σ × Act σ}
    (life : Life fresh (later ++ happened :: earlier) stage) : Life fresh earlier happened.1 := by
  generalize history : later ++ happened :: earlier = past at life
  induction life generalizing later with
  | created => simp at history
  | acted life taken inductionHypothesis =>
      cases later with
      | nil =>
          cases history
          exact life
      | cons latest later => exact inductionHypothesis (List.cons.inj history).2

/-- The list of instances has the entries of the links that returned, in their order. -/
theorem instances_eq_entries (life : Life fresh past stage) (noInstances : fresh.instances = #[]) :
    stage.context.instances.toList = (linkReturns past).filterMap LinkReturn.entry? := by
  induction life with
  | created =>
      rw [Stage.idle, noInstances]
      rfl
  | @acted past stage after act life taken inductionHypothesis =>
      rw [linkReturns, List.filterMap_append, ← inductionHypothesis]
      cases returned : stage.linkReturn? act with
      | none =>
          rw [(Stage.take_silent taken returned).1]
          simp
      | some ret =>
          rw [(Stage.take_returns taken returned).2.1]
          cases entry : ret.entry? <;> simp [entry]

/-- The handles that links returned are those of the positions, in order. -/
theorem handles_eq_range (life : Life fresh past stage) (begins : fresh.Sound)
    (noInstances : fresh.instances = #[]) :
    (linkReturns past).filterMap LinkReturn.handle? =
      (List.range stage.context.instances.size).map fun index => ⟨stage.context.id, index⟩ := by
  induction life with
  | created =>
      rw [Stage.idle, noInstances]
      rfl
  | @acted past stage after act life taken inductionHypothesis =>
      rw [linkReturns, List.filterMap_append, inductionHypothesis,
        ((life.sound begins).take_leads taken).extension.id]
      cases returned : stage.linkReturn? act with
      | none =>
          rw [(Stage.take_silent taken returned).1]
          simp
      | some ret =>
          obtain ⟨-, appended, handle⟩ := Stage.take_returns taken returned
          have size := congrArg List.length appended
          rw [List.length_append, Array.length_toList, Array.length_toList] at size
          rcases ret.outcome_cases with ⟨noHandle, noEntry⟩ | ⟨inst, made, isHandle, isEntry⟩
          · simp [size, noHandle, noEntry]
          · simp [size, isHandle, isEntry, handle inst isHandle, List.range_succ]

/-- The handle that a link returned stands for the instance of that link from then on. -/
theorem returned_resolves (life : Life fresh past stage) (begins : fresh.Sound)
    {ret : LinkReturn σ} (member : ret ∈ linkReturns past) {inst : InstanceHandle}
    {made : InstanceEntry} (isOk : ret.outcome = .ok (inst, made)) :
    stage.context.instanceEntry? inst = some made := by
  induction life with
  | created => contradiction
  | @acted past stage after act life taken inductionHypothesis =>
      have extension := ((life.sound begins).take_leads taken).extension
      rcases List.mem_append.1 member with earlier | latest
      · exact extension.instanceEntry?_eq_some (inductionHypothesis earlier)
      · obtain ⟨-, appended, handle⟩ := Stage.take_returns taken (Option.mem_toList.1 latest)
        rw [LinkReturn.entry?, isOk] at appended
        rw [handle inst (by rw [LinkReturn.handle?, isOk]; rfl), ← extension.id]
        exact Context.instanceEntry?_appended appended

/-- A link whose start is on the stack was begun by an act of the life. -/
theorem started (life : Life fresh past stage) (begins : fresh.Sound) {made : InstanceEntry}
    {wait : LinkWait σ} (waits : Waiting.start made wait ∈ stage.stack) :
    ∃ call begun inner before, Started past made wait call begun inner before := by
  induction life with
  | created => contradiction
  | @acted past stage after act life taken inductionHypothesis =>
      have earlier (waited : Waiting.start made wait ∈ stage.stack) :
          ∃ call begun inner before,
            Started ((stage, act) :: past) made wait call begun inner before := by
        obtain ⟨call, begun, inner, before, started⟩ := inductionHypothesis waited
        exact ⟨call, begun, _, before, started.later act waited⟩
      rcases (life.sound begins).take_shifts taken with isIdle | ⟨run, rfl, shifts⟩
      · rw [Stage.stack, isIdle] at waits
        contradiction
      · change Waiting.start made wait ∈ run.2.stack at waits
        cases shifts with
        | keeps suffix depth => exact earlier (suffix.mem waits)
        | counts func signature pushed depth =>
            rw [pushed] at waits
            exact earlier ((List.mem_cons.1 waits).resolve_left nofun)
        | imports pushed depth =>
            rw [pushed] at waits
            exact earlier ((List.mem_cons.1 waits).resolve_left nofun)
        | returns func signature popped depth =>
            exact earlier (popped ▸ List.mem_cons_of_mem _ waits)
        | starts call new begun engine isStart pushed depth budget used =>
            rw [pushed] at waits
            rcases List.mem_cons.1 waits with isNew | waited
            · cases isNew
              have silent : stage.linkReturn? act = none :=
                (Stage.linkReturn?_of_begun begun).trans
                  (Context.linkReturn?_of_start engine isStart)
              exact ⟨call, (stage, act), [], past, rfl, begun, rfl, engine, silent, by simp⟩
            · exact earlier waited

end Life

end WasmSandbox
