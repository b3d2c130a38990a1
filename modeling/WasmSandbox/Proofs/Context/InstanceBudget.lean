import Mathlib.Algebra.GroupWithZero.Nat
import WasmSandbox.Proofs.Context.Nesting
import WasmSandbox.Proofs.Context.Upkeep

/-!
Contract: which links use up the budget of instances, and what becomes of the units.

Owns:
- links that pass every check before the engine is asked, and those that use up a unit;
- what an act does to the list of instances, to the starts that wait and to the budget;
- that each unit used up is that of an instance in the list, of a link whose start function
  runs, of a link that failed after the checks, or of one that a panic left behind;
- when a link is refused for the budget.

The engine counts an instance before it makes it, and never gives a unit back.  The list of
instances is longer only when a link returns.  So the two counts agree as long as no link
fails after the checks.

Does not own: what the checks are (`WasmSandbox.Proofs.Context.Imports`).
-/

namespace WasmSandbox

open Wasm

variable {σ : Type}

def RunState.isPanicked : RunState σ → Bool
  | .panicked => true
  | _ => false

/-- The run of a stage panicked. -/
def Stage.isPanicked (stage : Stage σ) : Bool :=
  stage.running.any RunState.isPanicked

/-- How many starts of instances wait. -/
def startCount (stack : List (Waiting σ)) : Nat :=
  stack.countP Waiting.isStart

/-! ## Units of the budget -/

namespace Context

variable (context : Context σ)

/-- A link passes every check that is made before the engine is asked. -/
def admits (artifact : Artifact) (items : List Item) : Bool :=
  artifact.environment = context.environment && (context.resolveImports artifact items).isOk

/-- A link uses up a unit of the budget: it passes the checks, and there is a unit left. -/
def spends (call : LinkCall σ) : Bool :=
  context.admits call.artifact call.items &&
    decide (context.store.instancesUsed < context.config.maxInstances.toNat)

/-- The failure of a link for which there is no unit left. -/
def budgetError (context : Context σ) : LinkError :=
  .instantiate (Store.tooManyInstances (context.config.maxInstances.toNat + 1))

/-- A link is refused because there is no unit left. -/
def Refuses (call : LinkCall σ) : Prop :=
  context.linkReturn? call = some ⟨call.wait, .error context.budgetError⟩

end Context

namespace Stage

variable (stage : Stage σ) (act : Act σ)

/-- An act begins a link that uses up a unit. -/
def spends : Bool :=
  (stage.linkBegun? act).any stage.context.spends

/-- A link that had used up a unit fails with an act. -/
def wastes : Bool :=
  (stage.linkReturn? act).any (!LinkReturn.succeeds ·) &&
    (stage.linkBegun? act).all stage.context.spends

/-- How many links whose start functions run are left behind by an act that panics. -/
def abandons : Nat :=
  if (stage.take act).any isPanicked then startCount stage.stack else 0

end Stage

/-- The units that were used up. -/
def unitsSpent (past : List (Stage σ × Act σ)) : Nat :=
  past.countP fun happened => happened.1.spends happened.2

/-- The units that links used up which failed. -/
def unitsWasted (past : List (Stage σ × Act σ)) : Nat :=
  past.countP fun happened => happened.1.wastes happened.2

/-- The units that links used up which a panic left behind. -/
def unitsAbandoned (past : List (Stage σ × Act σ)) : Nat :=
  (past.map fun happened => happened.1.abandons happened.2).sum

namespace Context

variable {context : Context σ} {call : LinkCall σ}

/-- What a link that passes the checks comes to is up to the engine. -/
theorem engineLink_of_admits (admitted : context.admits call.artifact call.items = true) :
    ∃ externs, context.engineLink call.artifact call.items =
      match instantiate context.store call.artifact.module externs with
      | (.error failure, store) =>
          (.error (instantiationError failure), { context with store := store })
      | (.ok owner, store) => (.ok ⟨owner, call.artifact⟩, { context with store := store }) := by
  rw [admits, Bool.and_eq_true, decide_eq_true_eq] at admitted
  obtain ⟨own, passed⟩ := admitted
  cases resolved : context.resolveImports call.artifact call.items with
  | error error =>
      rw [resolved] at passed
      contradiction
  | ok externs =>
      refine ⟨externs, ?_⟩
      rw [engineLink, if_neg (not_not_intro own), resolved]
      simp only
      generalize instantiate context.store call.artifact.module externs = out
      obtain ⟨outcome, store⟩ := out
      cases outcome <;> rfl

/-- A link that does not pass the checks never comes to the engine. -/
theorem engineLink_of_not_admits (rejected : context.admits call.artifact call.items = false) :
    ∃ error, context.engineLink call.artifact call.items = (.error error, context) := by
  unfold engineLink
  split
  · exact ⟨_, rfl⟩
  · rename_i own
    cases resolved : context.resolveImports call.artifact call.items with
    | error error => exact ⟨error, rfl⟩
    | ok externs =>
        rw [admits, resolved, decide_eq_true (not_not.1 own)] at rejected
        contradiction

/-- A link uses up a unit exactly as it says. -/
theorem engineLink_used (context : Context σ) (call : LinkCall σ) :
    (context.engineLink call.artifact call.items).2.store.instancesUsed =
      context.store.instancesUsed + (context.spends call).toNat := by
  cases admitted : context.admits call.artifact call.items with
  | false =>
      obtain ⟨error, failed⟩ := engineLink_of_not_admits admitted
      rw [failed, spends, admitted]
      rfl
  | true =>
      obtain ⟨externs, linked⟩ := engineLink_of_admits admitted
      have used := (instantiate_instantiated context.store call.artifact.module externs).used
      rw [linked, spends, admitted, Bool.true_and]
      generalize instantiate context.store call.artifact.module externs = out at used
      obtain ⟨outcome, store⟩ := out
      cases outcome <;> exact used

/-- A link for which the engine makes an instance uses up a unit. -/
theorem spends_of_engineLink {made : InstanceEntry}
    (engine : (context.engineLink call.artifact call.items).1 = .ok made) :
    context.spends call = true := by
  have used := context.engineLink_used call
  obtain ⟨store, changed, onMade⟩ := context.engineLink_cases call.artifact call.items
  rw [changed, (onMade made engine).2.2] at used
  cases spends : context.spends call with
  | true => rfl
  | false =>
      rw [spends] at used
      exact absurd used (Nat.succ_ne_self _)

/-- No text is a longer one with something behind. -/
private theorem append_ne_of_length_lt {short long : String} (shorter : short.length < long.length)
    (rest : String) : long ++ rest ≠ short := by
  intro same
  rw [← same, String.length_append] at shorter
  omega

/-- A link that passes the checks is refused for the budget exactly when none is left. -/
theorem refuses_iff (admitted : context.admits call.artifact call.items = true)
    (within : context.store.instancesUsed ≤ context.config.maxInstances.toNat) :
    context.Refuses call ↔ context.store.instancesUsed = context.config.maxInstances.toNat := by
  obtain ⟨externs, linked⟩ := engineLink_of_admits admitted
  have result := instantiate_instantiated context.store call.artifact.module externs
  have refused := result.refused_iff
  unfold Refuses linkReturn?
  rw [linked]
  constructor
  · intro isRefused
    apply Nat.le_antisymm within
    apply refused.1
    generalize instantiate context.store call.artifact.module externs = out at isRefused
    obtain ⟨outcome, store⟩ := out
    cases outcome with
    | ok owner =>
        cases start : call.artifact.module.start <;> simp [start] at isRefused
    | error failure =>
        cases failure with
        | refused reason =>
            simp only [instantiationError_refused, budgetError, Option.some.injEq,
              LinkReturn.mk.injEq, Except.error.injEq, LinkError.instantiate.injEq,
              true_and] at isRefused
            exact ⟨_, congrArg (Except.error ∘ InstantiationFailure.refused) isRefused⟩
        | fault fault => simp [budgetError] at isRefused
        | stuck =>
            simp only [instantiationError_stuck, budgetError, Option.some.injEq,
              LinkReturn.mk.injEq, Except.error.injEq, LinkError.instantiate.injEq,
              true_and] at isRefused
            -- Code that cannot go on is reported by another text than a budget that is used up.
            exact absurd isRefused.symm (append_ne_of_length_lt (by decide) _)
  · intro spent
    have isRefused := result.refused_of_spent (Nat.le_of_eq spent.symm)
    generalize instantiate context.store call.artifact.module externs = out at isRefused
    obtain ⟨outcome, store⟩ := out
    rw [show outcome = _ from isRefused, budgetError, ← spent]
    rfl

end Context

/-! ## What an act does to starts that wait -/

theorem startCount_call (stack : List (Waiting σ)) (func : FuncHandle) (signature : Signature) :
    startCount (.call func signature :: stack) = startCount stack :=
  (counts_call stack func signature).2.2

theorem startCount_imported (stack : List (Waiting σ)) :
    startCount (.imported :: stack) = startCount stack :=
  (counts_imported stack).2.2

theorem startCount_start (stack : List (Waiting σ)) (made : InstanceEntry) (wait : LinkWait σ) :
    startCount (.start made wait :: stack) = startCount stack + 1 :=
  (counts_start stack made wait).2.2

namespace Context

variable {context : Context σ}

/-- What a step does to the starts that wait, with the link that it begins and the link that
returns with it. -/
inductive Tallies (context : Context σ) (stack : List (Waiting σ)) :
    Option (LinkCall σ) → Option (LinkReturn σ) → Run σ → Prop where
  | rests {run : Run σ} (same : startCount run.2.stack = startCount stack)
      (goesOn : run.2.isPanicked = false) : Tallies context stack none none run
  /-- Whatever waits is left behind. -/
  | panics {run : Run σ} (isPanicked : run.2 = .panicked) : Tallies context stack none none run
  /-- A link is over at once. -/
  | passes (call : LinkCall σ) {ret : LinkReturn σ} {run : Run σ}
      (returned : context.linkReturn? call = some ret)
      (same : startCount run.2.stack = startCount stack) (goesOn : run.2.isPanicked = false) :
      Tallies context stack (some call) (some ret) run
  /-- A link waits for the start function of its instance. -/
  | starts (call : LinkCall σ) {made : InstanceEntry} {run : Run σ}
      (engine : (context.engineLink call.artifact call.items).1 = .ok made)
      (more : startCount run.2.stack = startCount stack + 1) (goesOn : run.2.isPanicked = false) :
      Tallies context stack (some call) none run
  /-- The start function of an instance is over. -/
  | ends (ret : LinkReturn σ) {run : Run σ} (fewer : startCount run.2.stack + 1 = startCount stack)
      (goesOn : run.2.isPanicked = false) : Tallies context stack none (some ret) run

theorem deliverCall_goesOn (context : Context σ) (result : Except CallError (List Val))
    (wait : CallWait σ) : (context.deliverCall result wait).2.isPanicked = false := by
  cases wait <;> rfl

theorem deliverLink_goesOn (context : Context σ) (result : Except LinkError InstanceHandle)
    (wait : LinkWait σ) : (context.deliverLink result wait).2.isPanicked = false := by
  cases wait <;> rfl

theorem afterAdvance_tallies (context after : Context σ) (cont : GuestCont σ) (advance : Advance) :
    Tallies context cont.stack none none (after.afterAdvance cont advance) := by
  refine .rests (congrArg startCount (afterAdvance_stack after cont advance)) ?_
  cases advance with
  | halted halt => cases halt <;> rfl
  | _ => rfl

theorem finishClosure_tallies (context : Context σ) (result : Except CallError (List Val))
    (cont : HostCont σ) :
    Tallies context cont.stack none none (context.finishClosure result cont) := by
  cases cont with
  | called func signature wait => exact .rests rfl rfl
  | imported signature below =>
      have same := (startCount_imported below.stack).symm
      cases result with
      | error error => exact .rests same rfl
      | ok values =>
          simp only [finishClosure]
          cases values.mapM context.lower <;> exact .rests same rfl

theorem beginCall_tallies (context : Context σ) (func : FuncHandle) (args : List Val)
    (wait : CallWait σ) :
    Tallies context wait.stack none none (context.beginCall func args wait) := by
  unfold beginCall
  split
  · exact .rests (congrArg startCount (deliverCall_stack ..)) (deliverCall_goesOn ..)
  · rename_i entry checked
    have same := startCount_call wait.stack func entry.signature
    simp only
    split
    · exact .rests same rfl
    · split <;> exact .rests same rfl

theorem beginLink_tallies (context : Context σ) (artifact : Artifact) (items : List Item)
    (wait : LinkWait σ) :
    Tallies context wait.stack (some ⟨artifact, items, wait⟩)
      (context.linkReturn? ⟨artifact, items, wait⟩) (context.beginLink artifact items wait) := by
  cases engine : context.engineLink artifact items with
  | mk outcome after =>
      rw [beginLink_eq, engine]
      cases outcome with
      | error error =>
          have returned : context.linkReturn? ⟨artifact, items, wait⟩ =
              some ⟨wait, .error error⟩ := by
            rw [linkReturn?, engine]
          rw [returned]
          exact .passes _ returned (congrArg startCount (deliverLink_stack ..))
            (deliverLink_goesOn ..)
      | ok made =>
          cases isStart : artifact.module.start with
          | none =>
              have returned : context.linkReturn? ⟨artifact, items, wait⟩ =
                  some ⟨wait, .ok ((after.addInstance made).1, made)⟩ := by
                rw [linkReturn?, engine]
                simp only [isStart]
              rw [returned]
              exact .passes _ returned (congrArg startCount (deliverLink_stack ..))
                (deliverLink_goesOn ..)
          | some index =>
              have isMade : (context.engineLink artifact items).1 = .ok made := by rw [engine]
              have waits : context.linkReturn? ⟨artifact, items, wait⟩ = none :=
                linkReturn?_of_start isMade (by rw [isStart]; rfl)
              rw [waits]
              exact .starts _ isMade (startCount_start wait.stack made wait) rfl

theorem stepClosure_tallies (context : Context σ) (proc : Proc σ) (cont : HostCont σ) :
    Tallies context cont.stack (RunState.closure proc cont).linkBegun?
      (context.stepReturn? (.closure proc cont)) (context.stepClosure proc cont) := by
  cases proc with
  | finish slots => exact context.finishClosure_tallies _ cont
  | fail error => exact context.finishClosure_tallies _ cont
  | panic => exact .panics rfl
  | ask request next =>
      simp only [stepClosure]
      cases context.answer request with
      | panicked => exact .panics rfl
      | answered out => exact .rests rfl rfl
  | register signature body next => exact .rests rfl rfl
  | call func args next => exact context.beginCall_tallies func args (.closure next cont)
  | link artifact items next => exact context.beginLink_tallies artifact items (.closure next cont)

theorem enterEngine_tallies (context : Context σ) (func : FuncKey) (args : List Value)
    (cont : GuestCont σ) :
    Tallies context cont.stack none none (context.enterEngine func args cont) := by
  unfold enterEngine
  split
  · rename_i host called
    generalize context.liftAll args host.signature.params = out
    obtain ⟨outcome, after⟩ := out
    cases outcome with
    | error error => exact .rests rfl rfl
    | ok args => exact .rests (startCount_imported cont.stack) rfl
  · split
    · exact context.afterAdvance_tallies _ cont _
    · exact .rests rfl rfl
  · exact .rests rfl rfl

/-- All that a step can do to the starts that wait. -/
theorem step_tallies {state : RunState σ} {run : Run σ} (stepped : context.step state = some run) :
    Tallies context state.stack state.linkBegun? (context.stepReturn? state) run := by
  cases state with
  | invoking body args cont =>
      cases stepped
      exact .rests rfl rfl
  | closure proc cont =>
      cases stepped
      exact context.stepClosure_tallies proc cont
  | guest activation cont =>
      cases stepped
      exact context.afterAdvance_tallies _ cont _
  | entering func args cont =>
      cases stepped
      exact context.enterEngine_tallies func args cont
  | returning values cont =>
      cases stepped
      cases cont with
      | frame activation below => exact .rests rfl rfl
      | called func signature wait => exact .rests rfl rfl
      | starting made wait =>
          refine .ends _ ?_ (deliverLink_goesOn ..)
          rw [stepReturning, finishLink, deliverLink_stack]
          exact (startCount_start wait.stack made wait).symm
  | raising error cont =>
      cases stepped
      cases cont with
      | frame activation below => exact .rests rfl rfl
      | called func signature wait => exact .rests rfl rfl
      | starting made wait =>
          refine .ends _ ?_ (deliverLink_goesOn ..)
          rw [stepRaising, deliverLink_stack]
          exact (startCount_start wait.stack made wait).symm
  | leaving func signature result wait =>
      cases stepped
      refine .rests ?_ (deliverCall_goesOn ..)
      rw [endCall, deliverCall_stack]
      exact (startCount_call wait.stack func signature).symm
  | called result => contradiction
  | linked result => contradiction
  | panicked => contradiction

theorem stack_of_ended {state : RunState σ} (ended : context.step state = none) :
    state.stack = [] := by
  cases state <;> first | rfl | contradiction

end Context

namespace Stage

variable {stage after : Stage σ} {act : Act σ}

/-- An act leaves the context idle where nothing waited, or does what a step can do. -/
theorem take_tallies (taken : stage.take act = some after) :
    (after.running = none ∧ stage.stack = [] ∧ stage.linkBegun? act = none ∧
        stage.linkReturn? act = none) ∨
      ∃ run, after = .ofRun run ∧
        stage.context.Tallies stage.stack (stage.linkBegun? act) (stage.linkReturn? act) run := by
  cases take_eq_some_iff.1 taken with
  | called context func args =>
      exact .inr ⟨_, rfl, context.beginCall_tallies func args .embedder⟩
  | linked context artifact items =>
      exact .inr ⟨_, rfl, context.beginLink_tallies artifact items .embedder⟩
  | stepped stepped => exact .inr ⟨_, rfl, Context.step_tallies stepped⟩
  | closed ended => exact .inl ⟨rfl, Context.stack_of_ended ended, rfl, rfl⟩
  | _ => exact .inl ⟨rfl, rfl, rfl, rfl⟩

/-- The list of instances gets longer when a link returns an instance. -/
theorem take_instanceCount (taken : stage.take act = some after) :
    after.context.instanceCount =
      stage.context.instanceCount + ((stage.linkReturn? act).any LinkReturn.succeeds).toNat := by
  unfold Context.instanceCount
  cases returned : stage.linkReturn? act with
  | none =>
      rw [(take_silent taken returned).1]
      rfl
  | some ret =>
      have appended := congrArg List.length (take_returns taken returned).2.1
      rw [List.length_append, Array.length_toList, Array.length_toList] at appended
      rw [appended, Option.any_some, ← ret.isSome_entry?]
      cases ret.entry? <;> rfl

/-- What an act does to the units: one that is used up goes to an instance, to a start that
waits, or is lost; one of a start that ends goes to an instance, or is lost. -/
theorem take_account (taken : stage.take act = some after) :
    after.context.instanceCount + startCount after.stack + (stage.wastes act).toNat +
        stage.abandons act =
      stage.context.instanceCount + startCount stage.stack + (stage.spends act).toNat := by
  rw [take_instanceCount taken, abandons, taken, Option.any_some, wastes, spends]
  rcases take_tallies taken with ⟨isIdle, empty, begun, returned⟩ | ⟨run, rfl, tallies⟩
  · rw [begun, returned, stack, isPanicked, isIdle, empty]
    rfl
  · have sameStack : (ofRun run).stack = run.2.stack := rfl
    have samePanic : (ofRun run).isPanicked = run.2.isPanicked := rfl
    rw [sameStack, samePanic]
    generalize stage.linkBegun? act = link at tallies
    generalize stage.linkReturn? act = returned at tallies
    cases tallies with
    | rests same goesOn =>
        rw [goesOn, same]
        rfl
    | panics isPanicked =>
        rw [isPanicked]
        exact Nat.add_right_comm ..
    | @passes call ret run isReturn same goesOn =>
        have ofSuccess : ret.succeeds = true → stage.context.spends call = true := by
          rw [← ret.isSome_entry?, Option.isSome_iff_exists]
          rintro ⟨made, isEntry⟩
          exact Context.spends_of_engineLink ((Context.linkReturn?_eq_some isReturn).2 made isEntry)
        rw [goesOn, same]
        cases succeeds : ret.succeeds with
        | true => simp [succeeds, ofSuccess succeeds]; omega
        | false => simp [succeeds]
    | starts call engine more goesOn =>
        rw [goesOn, more]
        simp [Context.spends_of_engineLink engine]
        omega
    | ends ret fewer goesOn =>
        rw [goesOn]
        cases succeeds : ret.succeeds <;> simp [succeeds] <;> omega

/-- The engine counts the units that acts use up. -/
theorem take_used (taken : stage.take act = some after) :
    after.context.store.instancesUsed =
      stage.context.store.instancesUsed + (stage.spends act).toNat := by
  have moves := take_moves taken
  rw [spends]
  generalize stage.linkBegun? act = begun at moves
  generalize after.context.store = store at moves
  cases moves with
  | works works => exact works.used
  | links call => exact stage.context.engineLink_used call

/-- A unit is only used up where one is left. -/
theorem lt_of_spends (spends : stage.spends act = true) :
    stage.context.store.instancesUsed < stage.context.config.maxInstances.toNat := by
  unfold Stage.spends at spends
  cases begun : stage.linkBegun? act with
  | none =>
      rw [begun] at spends
      contradiction
  | some call =>
      rw [begun, Option.any_some, Context.spends, Bool.and_eq_true, decide_eq_true_eq] at spends
      exact spends.2

end Stage

/-! ## The budget over a life -/

namespace Life

variable {fresh : Context σ} {past : List (Stage σ × Act σ)} {stage : Stage σ}

/-- Each unit is that of an instance, of a start that waits, or is lost. -/
theorem units_account (life : Life fresh past stage) (noInstances : fresh.instances = #[]) :
    unitsSpent past = stage.context.instanceCount + startCount stage.stack + unitsWasted past +
      unitsAbandoned past := by
  induction life with
  | created =>
      rw [Stage.idle, Context.instanceCount, noInstances]
      rfl
  | @acted past stage after act life taken inductionHypothesis =>
      have account := Stage.take_account taken
      have spent : unitsSpent ((stage, act) :: past) =
          unitsSpent past + (stage.spends act).toNat := by
        cases spends : stage.spends act <;> simp [unitsSpent, spends]
      have wasted : unitsWasted ((stage, act) :: past) =
          unitsWasted past + (stage.wastes act).toNat := by
        cases wastes : stage.wastes act <;> simp [unitsWasted, wastes]
      have abandoned : unitsAbandoned ((stage, act) :: past) =
          stage.abandons act + unitsAbandoned past := by
        rw [unitsAbandoned, List.map_cons, List.sum_cons]
        rfl
      omega

/-- The engine counts the units that were used up, and keeps to the budget. -/
theorem units_used (life : Life fresh past stage) (begins : fresh.Sound)
    (unused : fresh.store.instancesUsed = 0) :
    stage.context.store.instancesUsed = unitsSpent past ∧
      unitsSpent past ≤ stage.context.config.maxInstances.toNat := by
  induction life with
  | created => exact ⟨unused, Nat.zero_le _⟩
  | @acted past stage after act life taken inductionHypothesis =>
      obtain ⟨used, within⟩ := inductionHypothesis
      have sameConfig := ((life.sound begins).take_leads taken).extension.config_eq
      rw [Stage.take_used taken, used, sameConfig]
      cases spends : stage.spends act with
      | false =>
          simp only [unitsSpent, List.countP_cons, spends]
          exact ⟨rfl, within⟩
      | true =>
          have left := Stage.lt_of_spends spends
          rw [used] at left
          simp only [unitsSpent, List.countP_cons, spends]
          exact ⟨rfl, left⟩

end Life

/-- What becomes of a budget of `limit` instances over the life of a context. -/
structure InstanceBudget (limit : Nat) (past : List (Stage σ × Act σ)) (stage : Stage σ) :
    Prop where
  /-- Each unit that was used up is that of an instance in the list, of a link whose start
  function runs, of a link that failed, or of one that a panic left behind. -/
  account : unitsSpent past = stage.context.instanceCount + startCount stage.stack +
    unitsWasted past + unitsAbandoned past
  within : unitsSpent past ≤ limit
  /-- A link that passes the checks is refused exactly when all units were used up. -/
  refused : ∀ call, stage.context.admits call.artifact call.items = true →
    (stage.context.Refuses call ↔ unitsSpent past = limit)
  /-- A context with as many instances as it may have links no more. -/
  full : stage.context.instanceCount = limit → ∀ call,
    stage.context.admits call.artifact call.items = true → stage.context.Refuses call
  /-- While no link is in progress, a link is refused exactly when the instances in the list
  and the lost units make up the budget. -/
  settled : startCount stage.stack = 0 → ∀ call,
    stage.context.admits call.artifact call.items = true →
      (stage.context.Refuses call ↔
        stage.context.instanceCount + unitsWasted past + unitsAbandoned past = limit)
  /-- If no unit was lost either, the instances in the list alone make up the budget. -/
  lossless : startCount stage.stack = 0 → unitsWasted past = 0 → unitsAbandoned past = 0 →
    ∀ call, stage.context.admits call.artifact call.items = true →
      (stage.context.Refuses call ↔ stage.context.instanceCount = limit)

/-- In every life of a context, links are refused for the budget exactly when its units are
used up, by instances, by links in progress and by links that failed. -/
theorem Life.instanceBudget {id : ContextId} {environment : Environment} {data : σ}
    {past : List (Stage σ × Act σ)} {stage : Stage σ}
    (life : Life (.create id environment data) past stage) :
    InstanceBudget environment.config.maxInstances.toNat past stage := by
  have begins := Context.create_sound id environment data
  have account := life.units_account rfl
  obtain ⟨used, within⟩ := life.units_used begins rfl
  have sameConfig : stage.context.config = environment.config :=
    (life.extension begins).config_eq
  rw [sameConfig] at within
  have refused (call : LinkCall σ)
      (admitted : stage.context.admits call.artifact call.items = true) :
      stage.context.Refuses call ↔ unitsSpent past = environment.config.maxInstances.toNat := by
    rw [Context.refuses_iff admitted (by rw [used, sameConfig]; exact within), used, sameConfig]
  refine ⟨account, within, refused, ?full, ?settled, ?lossless⟩
  case full =>
    intro all call admitted
    rw [refused call admitted]
    omega
  case settled =>
    intro noStart call admitted
    rw [refused call admitted]
    omega
  case lossless =>
    intro noStart noneWasted noneAbandoned call admitted
    rw [refused call admitted]
    omega

/-! ## A link that fails and uses up the budget -/

namespace BudgetWasted

/-- A module whose memory is larger than allowed. -/
def large : Artifact where
  environment := ⟨0⟩
  serial := 0
  module := { memories := [⟨⟨2, none⟩, false⟩] }
  digest := []
  surface := ⟨[], []⟩
  surface_eq := rfl

theorem ofModule_nothing : Surface.ofModule {} = .ok ⟨[], []⟩ := rfl

/-- A module with nothing in it. -/
def empty : Artifact where
  environment := ⟨0⟩
  serial := 1
  module := {}
  digest := []
  surface := ⟨[], []⟩
  surface_eq := ofModule_nothing

/-- An environment that allows one instance, and memories of one page. -/
def environment : Environment :=
  { id := ⟨0⟩, config := { maxInstances := 1, maxMemoryPages := 1 } }

/-- A link fails because of the size of a memory, and the next one for the budget. -/
theorem lives : ∃ past context, Life (.create ⟨0⟩ environment ()) past (.idle context) ∧
    unitsWasted past = 1 ∧ context.instanceCount = 0 ∧ context.admits empty [] = true ∧
      context.Refuses ⟨empty, [], .embedder⟩ := by
  have failed : Life (.create ⟨0⟩ environment ()) _ _ := Life.created.acted
    (show Stage.take _ (.link large []) = some _ from rfl)
  have closed := failed.acted (show Stage.take _ .close = some _ from rfl)
  exact ⟨_, _, closed, rfl, rfl, rfl, rfl⟩

end BudgetWasted

/-- After the link that failed, the budget is used up. -/
theorem Life.instanceBudget_of_failed : ∃ past context,
    Life (.create ⟨0⟩ BudgetWasted.environment ()) past (.idle context) ∧
      InstanceBudget 1 past (.idle context) ∧ unitsWasted past = 1 := by
  obtain ⟨past, context, life, wasted, -⟩ := BudgetWasted.lives
  exact ⟨past, context, life, Life.instanceBudget life, wasted⟩

/-- The instances in the list alone do not decide: with one instance allowed, a link is
refused in a context that has none. -/
theorem Life.not_refuses_iff_instanceCount :
    ¬∀ (past : List (Stage Unit × Act Unit)) (context : Context Unit) (call : LinkCall Unit),
      Life (.create ⟨0⟩ BudgetWasted.environment ()) past (.idle context) →
        context.admits call.artifact call.items = true →
          (context.Refuses call ↔
            context.instanceCount = BudgetWasted.environment.config.maxInstances.toNat) := by
  intro decides
  obtain ⟨past, context, life, -, noInstance, admitted, refuses⟩ := BudgetWasted.lives
  have all := (decides past context _ life admitted).1 refuses
  rw [noInstance] at all
  contradiction

end WasmSandbox
