import WasmSandbox.Proofs.Context.Depth
import WasmSandbox.Proofs.Context.Stack
import WasmSandbox.Proofs.Context.Unwinding

/-!
Contract: how deep calls nest when the imports that guest code calls are counted too.

Owns:
- the calls in progress when a closure starts;
- that what waits is paid for, by the count of calls and by the budget of instances;
- that the limit on nested calls is exceeded by no more than the imports in progress, and
  that calls nest no deeper than twice the limit and the budget of instances together.

The call routine counts the calls that it admits, and a closure that guest code calls as
an import does not go through it.  Such a closure is still paid for: the guest code under
it was entered by a counted call or by the start of an instance, and each of these enters
guest code once.

Does not own: the count itself (`WasmSandbox.Proofs.Context.Depth`).
-/

namespace WasmSandbox

open Wasm

/-! ## Calls in progress -/

namespace Waiting

variable {σ : Type}

def isCall : Waiting σ → Bool
  | .call _ _ => true
  | _ => false

def isImported : Waiting σ → Bool
  | .imported => true
  | _ => false

def isStart : Waiting σ → Bool
  | .start _ _ => true
  | _ => false

end Waiting

variable {σ : Type}

section Counts

variable (stack : List (Waiting σ)) (func : FuncHandle) (signature : Signature)
  (made : InstanceEntry) (wait : LinkWait σ)

/-- What one more call adds to the counts. -/
theorem counts_call :
    (Waiting.call func signature :: stack).countP Waiting.isCall =
        stack.countP Waiting.isCall + 1 ∧
      (Waiting.call func signature :: stack).countP Waiting.isImported =
        stack.countP Waiting.isImported ∧
      (Waiting.call func signature :: stack).countP Waiting.isStart =
        stack.countP Waiting.isStart := by
  simp [List.countP_cons, Waiting.isCall, Waiting.isImported, Waiting.isStart]

/-- What one more import adds to the counts. -/
theorem counts_imported :
    (Waiting.imported :: stack).countP Waiting.isCall = stack.countP Waiting.isCall ∧
      (Waiting.imported :: stack).countP Waiting.isImported =
        stack.countP Waiting.isImported + 1 ∧
      (Waiting.imported :: stack).countP Waiting.isStart = stack.countP Waiting.isStart := by
  simp [List.countP_cons, Waiting.isCall, Waiting.isImported, Waiting.isStart]

/-- What one more start adds to the counts. -/
theorem counts_start :
    (Waiting.start made wait :: stack).countP Waiting.isCall = stack.countP Waiting.isCall ∧
      (Waiting.start made wait :: stack).countP Waiting.isImported =
        stack.countP Waiting.isImported ∧
      (Waiting.start made wait :: stack).countP Waiting.isStart =
        stack.countP Waiting.isStart + 1 := by
  simp [List.countP_cons, Waiting.isCall, Waiting.isImported, Waiting.isStart]

end Counts

/-- The calls in progress among what waits: activations of the call routine, and imports
that guest code or a start function is calling. -/
def inProgress (stack : List (Waiting σ)) : Nat :=
  stack.countP Waiting.isCall + stack.countP Waiting.isImported

/-- The calls that are in progress when a closure starts, apart from its own. -/
def HostCont.before : HostCont σ → Nat
  | .called _ _ wait => inProgress wait.stack
  | .imported _ below => inProgress below.stack

theorem HostCont.before_succ (cont : HostCont σ) : cont.before + 1 = inProgress cont.stack := by
  cases cont with
  | called func signature wait =>
      have counts := counts_call wait.stack func signature
      simp only [before, inProgress, stack]
      omega
  | imported signature below =>
      have counts := counts_imported below.stack
      simp only [before, inProgress, stack]
      omega

/-- Each import in progress is called by guest code that a counted call or the start of an
instance entered. -/
def Paid (stack : List (Waiting σ)) : Prop :=
  stack.countP Waiting.isImported ≤ stack.countP Waiting.isCall + stack.countP Waiting.isStart

/-- One more import can be paid for. -/
def Spare (stack : List (Waiting σ)) : Prop :=
  stack.countP Waiting.isImported < stack.countP Waiting.isCall + stack.countP Waiting.isStart

theorem Spare.imported {stack : List (Waiting σ)} (spare : Spare stack) :
    Paid (.imported :: stack) := by
  have counts := counts_imported stack
  unfold Spare at spare
  unfold Paid
  omega

theorem Paid.call {stack : List (Waiting σ)} (paid : Paid stack) (func : FuncHandle)
    (signature : Signature) : Spare (.call func signature :: stack) := by
  have counts := counts_call stack func signature
  unfold Paid at paid
  unfold Spare
  omega

theorem Paid.start {stack : List (Waiting σ)} (paid : Paid stack) (made : InstanceEntry)
    (wait : LinkWait σ) : Spare (.start made wait :: stack) := by
  have counts := counts_start stack made wait
  unfold Paid at paid
  unfold Spare
  omega

mutual

theorem HostCont.paid : (cont : HostCont σ) → Paid cont.stack
  | .called func signature wait => Nat.le_of_lt (wait.paid.call func signature)
  | .imported _ below => below.spare.imported

/-- Guest code runs on top of the call or the start that entered it. -/
theorem GuestCont.spare : (cont : GuestCont σ) → Spare cont.stack
  | .frame _ below => below.spare
  | .called func signature wait => wait.paid.call func signature
  | .starting made wait => wait.paid.start made wait

theorem CallWait.paid : (wait : CallWait σ) → Paid wait.stack
  | .embedder => Nat.zero_le _
  | .closure _ below => below.paid

theorem LinkWait.paid : (wait : LinkWait σ) → Paid wait.stack
  | .embedder => Nat.zero_le _
  | .closure _ below => below.paid

end

/-! ## What waits is within the counts -/

namespace Context

variable {context : Context σ}

/-- The counted calls that wait are within the count, and the starts that wait are within
the instances that were made and within the budget.  After a panic the count is too high,
which does no harm here. -/
structure Covers (context : Context σ) (stack : List (Waiting σ)) : Prop where
  calls : stack.countP Waiting.isCall ≤ context.depth
  starts : stack.countP Waiting.isStart ≤ context.store.instancesUsed
  budget : stack.countP Waiting.isStart ≤ context.config.maxInstances.toNat

theorem covers_nil (context : Context σ) : context.Covers [] :=
  ⟨Nat.zero_le _, Nat.zero_le _, Nat.zero_le _⟩

/-- Whatever a step does to the stack, it stays within the counts. -/
theorem Shifts.covers {stack : List (Waiting σ)} {link : Option (LinkCall σ)} {run : Run σ}
    (shifts : Shifts context stack link run) (extension : Extends context run.1)
    (covers : context.Covers stack) : run.1.Covers run.2.stack := by
  obtain ⟨calls, starts, budget⟩ := covers
  have used : context.store.instancesUsed ≤ run.1.store.instancesUsed := extension.store.used
  have sameBudget : run.1.config.maxInstances.toNat = context.config.maxInstances.toNat := by
    rw [extension.config_eq]
  cases shifts with
  | keeps waits depth =>
      have fewerCalls : run.2.stack.countP Waiting.isCall ≤ stack.countP Waiting.isCall :=
        waits.sublist.countP_le
      have fewerStarts : run.2.stack.countP Waiting.isStart ≤ stack.countP Waiting.isStart :=
        waits.sublist.countP_le
      exact ⟨by omega, by omega, by omega⟩
  | counts func signature waits depth =>
      have counts := counts_call stack func signature
      rw [waits]
      exact ⟨by omega, by omega, by omega⟩
  | imports waits depth =>
      have counts := counts_imported stack
      rw [waits]
      exact ⟨by omega, by omega, by omega⟩
  | returns func signature waits depth =>
      have counts := counts_call run.2.stack func signature
      rw [waits] at calls starts budget
      exact ⟨by omega, by omega, by omega⟩
  | starts call made begun engine isStart waits depth below spent =>
      have counts := counts_start stack made call.wait
      rw [waits]
      exact ⟨by omega, by omega, by omega⟩

end Context

/-- At every stage of a life, what waits is within the counts. -/
theorem Life.covers {fresh : Context σ} {past : List (Stage σ × Act σ)} {stage : Stage σ}
    (life : Life fresh past stage) (begins : fresh.Sound) :
    stage.context.Covers stage.stack := by
  induction life with
  | created => exact fresh.covers_nil
  | @acted past stage after act life taken inductionHypothesis =>
      have sound := life.sound begins
      rcases sound.take_shifts taken with isIdle | ⟨run, rfl, shifts⟩
      · rw [Stage.stack, isIdle]
        exact after.context.covers_nil
      · exact shifts.covers (sound.take_leads taken).extension inductionHypothesis

/-! ## Closures that start -/

/-- How many calls are in progress where a closure starts, under a limit on the calls that
the call routine admits. -/
structure NestingLimited (stage : Stage σ) (cont : HostCont σ) : Prop where
  /-- The calls that the call routine counts keep to the limit. -/
  counted : cont.stack.countP Waiting.isCall ≤ stage.context.config.maxCallDepth.toNat
  /-- Where guest code calls no import, fewer calls are in progress than the limit. -/
  routine : cont.stack.countP Waiting.isImported = 0 →
    cont.before < stage.context.config.maxCallDepth.toNat
  /-- The limit is exceeded by no more than the imports in progress. -/
  exceeded : cont.before <
    stage.context.config.maxCallDepth.toNat + cont.stack.countP Waiting.isImported
  /-- Calls nest no deeper than twice the limit and the budget of instances together. -/
  bounded : cont.before < 2 * stage.context.config.maxCallDepth.toNat +
    stage.context.config.maxInstances.toNat

/-- In every life of a context, wherever a closure starts, the limit on nested calls holds
for the calls that are counted, and the imports in progress come on top of them. -/
theorem Life.nestingLimited {id : ContextId} {environment : Environment} {data : σ}
    {past : List (Stage σ × Act σ)} {stage : Stage σ}
    (life : Life (.create id environment data) past stage) {body : Closure σ} {args : List Val}
    {cont : HostCont σ} (starts : stage.running = some (.invoking body args cont)) :
    NestingLimited stage cont := by
  have begins := Context.create_sound id environment data
  have isStack : stage.stack = cont.stack := by
    rw [Stage.stack, starts]
    rfl
  have covers := life.covers begins
  rw [isStack] at covers
  have counted : cont.stack.countP Waiting.isCall ≤ stage.context.config.maxCallDepth.toNat :=
    Nat.le_trans covers.calls (life.inDepth begins rfl)
  have budget := covers.budget
  have paid : cont.stack.countP Waiting.isImported ≤
      cont.stack.countP Waiting.isCall + cont.stack.countP Waiting.isStart := cont.paid
  have before : cont.before + 1 =
      cont.stack.countP Waiting.isCall + cont.stack.countP Waiting.isImported := cont.before_succ
  exact ⟨counted, by omega, by omega, by omega⟩

/-! ## A closure that starts beyond the limit -/

namespace Nested

/-- A context in which one call may be in progress. -/
def limited : Context Unit :=
  .create ⟨0⟩ { id := ⟨0⟩, config := { maxCallDepth := 1 } } ()

/-- The guest code is called, and calls the closure as its import. -/
theorem limited_lives : ∃ past context body args cont,
    Life limited past ⟨context, some (.invoking body args cont)⟩ ∧
      context.config.maxCallDepth = 1 ∧ cont.before = 1 ∧
        cont.stack.countP Waiting.isImported = 1 := by
  have made : Life limited _ _ := Life.created.acted
    (show Stage.take _ (.register .empty fun _ => .finish Slots.empty) = some _ from rfl)
  have linked := made.acted
    (show Stage.take _ (.link artifact [.func ⟨⟨0⟩, 0⟩]) = some _ from rfl)
  have closed := linked.acted (show Stage.take _ .close = some _ from rfl)
  have shown := closed.acted (show Stage.take _ (.ask (.lookup ⟨⟨0⟩, 0⟩ "g")) = some _ from rfl)
  have called := shown.acted (show Stage.take _ (.call ⟨⟨0⟩, 1⟩ []) = some _ from rfl)
  have entered := called.acted (show Stage.take _ .step = some _ from rfl)
  have calling := entered.acted (show Stage.take _ .step = some _ from rfl)
  have started := calling.acted (show Stage.take _ .step = some _ from rfl)
  exact ⟨_, _, _, _, _, started, rfl, rfl, rfl⟩

end Nested

/-- Where guest code calls a closure as its import, the bounds are met. -/
theorem Life.nestingLimited_of_import : ∃ past context body args cont,
    Life Nested.limited past ⟨context, some (.invoking body args cont)⟩ ∧
      NestingLimited ⟨context, some (.invoking body args cont)⟩ cont ∧
        cont.stack.countP Waiting.isImported = 1 := by
  obtain ⟨past, context, body, args, cont, life, -, -, imports⟩ := Nested.limited_lives
  exact ⟨past, context, body, args, cont, life, Life.nestingLimited life rfl, imports⟩

/-- The limit alone does not hold where closures start: with one call allowed, guest code
that was called starts a closure. -/
theorem Life.not_before_lt_limit :
    ¬∀ (past : List (Stage Unit × Act Unit)) (stage : Stage Unit) (body : Closure Unit)
      (args : List Val) (cont : HostCont Unit), Life Nested.limited past stage →
        stage.running = some (.invoking body args cont) →
          cont.before < stage.context.config.maxCallDepth.toNat := by
  intro limits
  obtain ⟨past, context, body, args, cont, life, limit, before, -⟩ := Nested.limited_lives
  have within := limits past _ body args cont life rfl
  rw [limit, before] at within
  exact absurd within (by decide)

end WasmSandbox
