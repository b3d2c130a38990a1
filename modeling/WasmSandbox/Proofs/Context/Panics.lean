import Mathlib.Algebra.GroupWithZero.Nat
import WasmSandbox.Proofs.Context.Nesting

/-!
Contract: the count of the calls in progress after panics.

Owns:
- all that a step can do to what waits and to the count of calls, at once;
- the calls that a panic abandons: they were counted, and no step takes their counts back;
- that in every life the count is the number of the counted calls that wait and of those
  that were abandoned, and that every call which panics leaves it higher for good.

The call routine counts a call before the closure runs and takes the count back after it.
A panic ends the run at once, so the embedder that gives the run up finds an idle context
in which the calls under the panic are still counted.

Does not own: lives in which nothing panics (`WasmSandbox.Proofs.Context.Depth`).
-/

namespace WasmSandbox

open Wasm

variable {σ : Type}

/-! ## What a step does to what waits -/

namespace Context

variable {context : Context σ}

theorem deliverCall_frames (context : Context σ) (result : Except CallError (List Val))
    (wait : CallWait σ) : (context.deliverCall result wait).2.frames = wait.frames := by
  cases wait <;> rfl

theorem deliverLink_frames (context : Context σ) (result : Except LinkError InstanceHandle)
    (wait : LinkWait σ) : (context.deliverLink result wait).2.frames = wait.frames := by
  cases wait <;> rfl

theorem afterAdvance_frames (context : Context σ) (cont : GuestCont σ) (advance : Advance) :
    (context.afterAdvance cont advance).2.frames = cont.frames := by
  cases advance with
  | halted halt => cases halt <;> rfl
  | _ => rfl

theorem finishClosure_frames (context : Context σ) (result : Except CallError (List Val))
    (cont : HostCont σ) : (context.finishClosure result cont).2.frames = cont.frames := by
  cases cont with
  | called func signature wait => rfl
  | imported signature below =>
      cases result with
      | error error => rfl
      | ok values =>
          simp only [finishClosure]
          cases values.mapM context.lower <;> rfl

/-- What a step can do to what waits, with what it does to the count of calls. -/
inductive Counts (context : Context σ) (frames : List Frame) (run : Run σ) : Prop where
  /-- The same waits as before. -/
  | keeps (waits : run.2.frames = frames) (depth : run.1.depth = context.depth)
  /-- A call was counted. -/
  | counts (func : FuncHandle) (signature : Signature)
      (waits : run.2.frames = .call func signature :: frames)
      (depth : run.1.depth = context.depth + 1)
  /-- A counted call returned. -/
  | returns (func : FuncHandle) (signature : Signature)
      (waits : frames = .call func signature :: run.2.frames)
      (depth : run.1.depth = context.depth - 1) (running : run.2 ≠ .panicked)
  /-- The start function of an instance is entered. -/
  | starts (made : InstanceEntry) (waits : run.2.frames = .start made :: frames)
      (depth : run.1.depth = context.depth)
  /-- The start function of an instance is over. -/
  | started (made : InstanceEntry) (waits : frames = .start made :: run.2.frames)
      (depth : run.1.depth = context.depth)
  /-- A closure or the engine panicked, and all that waited is left behind. -/
  | panics (isPanic : run.2 = .panicked) (depth : run.1.depth = context.depth)

theorem Counts.afterAdvance {after : Context σ} (depth : after.depth = context.depth)
    (cont : GuestCont σ) (advance : Advance) :
    Counts context cont.frames (after.afterAdvance cont advance) :=
  .keeps (afterAdvance_frames after cont advance)
    ((congrArg Context.depth (afterAdvance_context after cont advance)).trans depth)

theorem Counts.deliverLink {after : Context σ} (depth : after.depth = context.depth)
    (result : Except LinkError InstanceHandle) (wait : LinkWait σ) :
    Counts context wait.frames (after.deliverLink result wait) :=
  .keeps (deliverLink_frames after result wait)
    ((congrArg Context.depth (deliverLink_context after result wait)).trans depth)

theorem beginCall_counts (context : Context σ) (func : FuncHandle) (args : List Val)
    (wait : CallWait σ) : Counts context wait.frames (context.beginCall func args wait) := by
  unfold beginCall
  split
  · exact .keeps (deliverCall_frames context _ wait)
      (congrArg Context.depth (deliverCall_context context _ wait))
  · rename_i entry checked
    simp only
    split
    · exact .counts func entry.signature rfl rfl
    · split
      · exact .counts func entry.signature rfl rfl
      · exact .counts func entry.signature rfl rfl

theorem beginLink_counts (context : Context σ) (artifact : Artifact) (items : List Item)
    (wait : LinkWait σ) : Counts context wait.frames (context.beginLink artifact items wait) := by
  obtain ⟨store, changed, -⟩ := context.engineLink_cases artifact items
  have depth : (context.engineLink artifact items).2.depth = context.depth := by rw [changed]
  rw [beginLink_eq]
  cases engine : context.engineLink artifact items with
  | mk outcome after =>
      rw [engine] at depth
      cases outcome with
      | error error => exact .deliverLink depth _ wait
      | ok made =>
          cases artifact.module.start with
          | none => exact .deliverLink (by exact depth) _ wait
          | some index => exact .starts made rfl depth

theorem Sound.stepClosure_counts (sound : context.Sound) (proc : Proc σ) (cont : HostCont σ) :
    Counts context cont.frames (context.stepClosure proc cont) := by
  have finishes (result : Except CallError (List Val)) :
      Counts context cont.frames (context.finishClosure result cont) :=
    .keeps (finishClosure_frames context result cont)
      (congrArg Context.depth (finishClosure_context context result cont))
  cases proc with
  | finish slots => exact finishes _
  | fail error => exact finishes _
  | panic => exact .panics rfl rfl
  | ask request next =>
      simp only [stepClosure]
      cases answered : context.answer request with
      | panicked => exact .panics rfl rfl
      | answered out => exact .keeps rfl (sound.answer_grows answered).1.depth
  | register signature body next => exact .keeps rfl rfl
  | call func args next => exact context.beginCall_counts func args (.closure next cont)
  | link artifact items next => exact context.beginLink_counts artifact items (.closure next cont)

theorem Sound.enterEngine_counts (sound : context.Sound) (func : FuncKey) (args : List Value)
    (cont : GuestCont σ) : Counts context cont.frames (context.enterEngine func args cont) := by
  unfold enterEngine
  split
  · rename_i host called
    have lifted := (sound.liftAll_grows args host.signature.params).1.depth
    generalize context.liftAll args host.signature.params = out at lifted
    obtain ⟨outcome, after⟩ := out
    cases outcome <;> exact .keeps rfl lifted
  · split
    · exact .afterAdvance (by rfl) cont _
    · exact .keeps rfl rfl
  · exact .keeps rfl rfl

/-- All that a step can do to what waits and to the count of calls. -/
theorem Sound.step_counts (sound : context.Sound) {state : RunState σ} {run : Run σ}
    (stepped : context.step state = some run) : Counts context state.frames run := by
  cases state with
  | invoking body args cont =>
      cases stepped
      exact .keeps rfl rfl
  | closure proc cont =>
      cases stepped
      exact sound.stepClosure_counts proc cont
  | guest activation cont =>
      cases stepped
      exact .afterAdvance (by rfl) cont _
  | entering func args cont =>
      cases stepped
      exact sound.enterEngine_counts func args cont
  | returning values cont =>
      cases stepped
      cases cont with
      | frame activation below => exact .keeps rfl rfl
      | called func signature wait =>
          exact .keeps rfl (sound.liftAll_grows values signature.results).1.depth
      | starting made wait =>
          have added : (context.stepReturning values (.starting made wait)).1 =
              (context.addInstance made).2 := deliverLink_context ..
          refine .started made ?_ (by rw [added]; rfl)
          rw [stepReturning, finishLink, deliverLink_frames]
          rfl
  | raising error cont =>
      cases stepped
      cases cont with
      | frame activation below => exact .keeps rfl rfl
      | called func signature wait => exact .keeps rfl rfl
      | starting made wait =>
          refine .started made ?_ (congrArg Context.depth (deliverLink_context ..))
          rw [stepRaising, deliverLink_frames]
          rfl
  | leaving func signature result wait =>
      cases stepped
      refine .returns func signature ?_ (congrArg Context.depth (endCall_context ..)) ?_
      · rw [endCall, deliverCall_frames]
        rfl
      · intro isPanic
        cases wait <;> cases isPanic
  | called result => contradiction
  | linked result => contradiction
  | panicked => contradiction

/-- As long as the calls that wait are counted, and nothing panics, the count changes with
their number. -/
theorem Counts.balanced {frames : List Frame} {run : Run σ} (counts : Counts context frames run)
    (counted : callCount frames ≤ context.depth) (running : run.2 ≠ .panicked) :
    run.1.depth + callCount frames = context.depth + callCount run.2.frames := by
  cases counts with
  | keeps waits depth => rw [waits, depth]
  | counts func signature waits depth =>
      rw [waits, depth, callCount]
      omega
  | returns func signature waits depth _ =>
      rw [waits, callCount] at counted ⊢
      omega
  | starts made waits depth => rw [waits, depth, callCount]
  | started made waits depth => rw [waits, depth, callCount]
  | panics isPanic depth => exact absurd isPanic running

/-- A panic takes back no count. -/
theorem Counts.depth_of_panicked {frames : List Frame} {run : Run σ}
    (counts : Counts context frames run) (panicked : run.2 = .panicked) :
    run.1.depth = context.depth := by
  cases counts with
  | keeps waits depth => exact depth
  | counts func signature waits depth =>
      rw [panicked] at waits
      contradiction
  | returns func signature waits depth running => exact absurd panicked running
  | starts made waits depth => exact depth
  | started made waits depth => exact depth
  | panics isPanic depth => exact depth

end Context

/-- An act leaves an idle context with the count as it is, where nothing waited, or does
what a step can do. -/
theorem Stage.Sound.take_counts {stage after : Stage σ} (sound : stage.Sound) {act : Act σ}
    (taken : stage.take act = some after) :
    after.running = none ∧ stage.frames = [] ∧ after.context.depth = stage.context.depth ∨
      ∃ run, after = .ofRun run ∧ stage.context.Counts stage.frames run := by
  have soundContext : stage.context.Sound := sound.context
  cases take_eq_some_iff.1 taken with
  | answered answered => exact .inl ⟨rfl, rfl, (soundContext.answer_grows answered).1.depth⟩
  | fuelSet set =>
      obtain ⟨-, rfl⟩ := Context.setFuel_eq_ok_iff.1 set
      exact .inl ⟨rfl, rfl, rfl⟩
  | called context func args =>
      exact .inr ⟨_, rfl, context.beginCall_counts func args .embedder⟩
  | linked context artifact items =>
      exact .inr ⟨_, rfl, context.beginLink_counts artifact items .embedder⟩
  | stepped stepped => exact .inr ⟨_, rfl, soundContext.step_counts stepped⟩
  | closed ended => exact .inl ⟨rfl, Context.step_eq_none_iff.1 ended, rfl⟩
  | unanswered _ | registered _ _ _ | fuelRefused _ => exact .inl ⟨rfl, rfl, rfl⟩

/-! ## What is abandoned -/

/-- The number of the counted calls that an act abandons: those that wait where it panics. -/
def Stage.abandonsCalls (stage : Stage σ) (act : Act σ) : Nat :=
  match stage.take act with
  | some ⟨_, some .panicked⟩ => callCount stage.frames
  | _ => 0

/-- The number of the counted calls that were abandoned. -/
def callsAbandoned (past : List (Stage σ × Act σ)) : Nat :=
  (past.map fun happened => happened.1.abandonsCalls happened.2).sum

theorem callsAbandoned_eq_zero_iff {past : List (Stage σ × Act σ)} :
    callsAbandoned past = 0 ↔ ∀ happened ∈ past, happened.1.abandonsCalls happened.2 = 0 := by
  unfold callsAbandoned
  induction past with
  | nil => simp
  | cons happened past inductionHypothesis =>
      rw [List.map_cons, List.sum_cons, Nat.add_eq_zero_iff, inductionHypothesis,
        List.forall_mem_cons]

/-- An act changes the count of calls with the number of the counted calls that wait and of
those that it abandons. -/
theorem Stage.Sound.take_balanced {stage after : Stage σ} (sound : stage.Sound) {act : Act σ}
    (taken : stage.take act = some after) (counted : callCount stage.frames ≤ stage.context.depth) :
    after.context.depth + callCount stage.frames =
      stage.context.depth + callCount after.frames + stage.abandonsCalls act := by
  rcases sound.take_counts taken with ⟨isIdle, nothing, depth⟩ | ⟨run, rfl, counts⟩
  · have noneAbandoned : stage.abandonsCalls act = 0 := by
      simp only [abandonsCalls, nothing, callCount]
      split <;> rfl
    rw [depth, noneAbandoned, nothing, Stage.frames, isIdle]
    rfl
  · obtain ⟨later, state⟩ := run
    by_cases panicked : state = .panicked
    · subst panicked
      have allAbandoned : stage.abandonsCalls act = callCount stage.frames := by
        rw [abandonsCalls, taken]
        rfl
      rw [allAbandoned]
      exact congrArg (· + callCount stage.frames) (counts.depth_of_panicked rfl)
    · have noneAbandoned : stage.abandonsCalls act = 0 := by
        rw [abandonsCalls, taken]
        cases state <;> first | rfl | exact absurd rfl panicked
      rw [noneAbandoned, Nat.add_zero]
      exact counts.balanced counted panicked

/-! ## Calls of the embedder -/

theorem callCount_pos (inner : List Frame) (func : FuncHandle) (signature : Signature) :
    0 < callCount (inner ++ [.call func signature]) := by
  induction inner with
  | nil => exact Nat.one_pos
  | cons frame inner inductionHypothesis =>
      cases frame with
      | call func signature => exact Nat.succ_pos _
      | start made => exact inductionHypothesis

namespace Context

variable {context after : Context σ}

/-- Where a call of the embedder is that was entered with `count` calls in the count. -/
inductive InCall (count : Nat) : Run σ → Prop where
  /-- Its own frame is the outermost one, and what waits is counted on top. -/
  | running {context : Context σ} {state : RunState σ} (sound : context.Sound)
      (fits : ∀ frame ∈ state.frames, context.Fits frame) (inner : List Frame)
      (func : FuncHandle) (signature : Signature)
      (waits : state.frames = inner ++ [.call func signature])
      (depth : context.depth = count + callCount state.frames) : InCall count (context, state)
  /-- It returned. -/
  | settled {context : Context σ} {state : RunState σ} (nothing : state.frames = [])
      (running : state ≠ .panicked) (depth : context.depth = count) :
      InCall count (context, state)
  /-- It panicked. -/
  | panicked {context : Context σ} (more : count < context.depth) :
      InCall count (context, .panicked)

theorem InCall.step {count : Nat} {state : RunState σ} {run : Run σ}
    (inCall : InCall count (context, state)) (stepped : context.step state = some run) :
    InCall count run := by
  cases inCall with
  | settled nothing _ _ =>
      rw [step_eq_none_iff.2 nothing] at stepped
      contradiction
  | panicked _ => contradiction
  | running sound fits inner func signature waits depth =>
      have continues := sound.step_continues fits stepped
      obtain ⟨later, next⟩ := run
      have goesOn (others : List Frame) (nextWaits : next.frames = others ++ [.call func signature])
          (nextDepth : later.depth = count + callCount next.frames) : InCall count (later, next) :=
        .running continues.sound continues.fits others func signature nextWaits nextDepth
      have own := callCount_pos inner func signature
      rw [waits] at depth
      cases sound.step_counts stepped with
      | keeps same sameDepth =>
          refine goesOn inner (same.trans waits) ?_
          rw [same, waits, ← depth]
          exact sameDepth
      | counts other otherSignature more deeper =>
          refine goesOn (.call other otherSignature :: inner) (by rw [more, waits]; rfl) ?_
          rw [more, waits, callCount]
          exact deeper.trans (by omega)
      | starts made more sameDepth =>
          refine goesOn (.start made :: inner) (by rw [more, waits]; rfl) ?_
          rw [more, waits, callCount, ← depth]
          exact sameDepth
      | started made fewer sameDepth =>
          cases inner with
          | nil =>
              rw [waits] at fewer
              cases fewer
          | cons frame inner =>
              rw [waits, List.cons_append, List.cons.injEq] at fewer
              obtain ⟨rfl, rest⟩ := fewer
              refine goesOn inner rest.symm ?_
              rw [← rest]
              exact sameDepth.trans depth
      | returns other otherSignature fewer shallower notPanicked =>
          cases inner with
          | nil =>
              rw [waits, List.nil_append, List.cons.injEq] at fewer
              exact .settled fewer.2.symm notPanicked
                (shallower.trans (by rw [depth]; exact Nat.add_sub_cancel ..))
          | cons frame inner =>
              rw [waits, List.cons_append, List.cons.injEq] at fewer
              obtain ⟨rfl, rest⟩ := fewer
              refine goesOn inner rest.symm (shallower.trans ?_)
              rw [depth, ← rest, List.cons_append, callCount]
              omega
      | panics isPanic sameDepth =>
          cases isPanic
          exact .panicked (Nat.lt_of_lt_of_eq (by omega) sameDepth.symm)

theorem InCall.run {count : Nat} {begun : Run σ} (inCall : InCall count begun) (bound : Nat) :
    InCall count (Context.run bound begun.1 begun.2) := by
  obtain ⟨context, state⟩ := begun
  induction bound generalizing context state with
  | zero => exact inCall
  | succ bound inductionHypothesis =>
      simp only [Context.run]
      cases stepped : context.step state with
      | none => exact inCall
      | some next => exact inductionHypothesis next.1 next.2 (inCall.step stepped)

/-- A call of the embedder begins as one that was counted, or is over. -/
theorem Sound.beginCall_inCall (sound : context.Sound) (func : FuncHandle) (args : List Val) :
    InCall context.depth (context.beginCall func args .embedder) := by
  have continues := sound.beginCall_continues .embedder (List.forall_mem_nil _) func args
  generalize isBegun : context.beginCall func args .embedder = begun at continues ⊢
  unfold beginCall at isBegun
  split at isBegun
  · subst isBegun
    exact .settled rfl nofun rfl
  · rename_i entry checked
    have counted (waits : begun.2.frames = [.call func entry.signature])
        (depth : begun.1.depth = context.depth + 1) : InCall context.depth begun :=
      .running continues.sound continues.fits [] func entry.signature waits
        (by rw [depth, waits]; rfl)
    simp only at isBegun
    split at isBegun
    · subst isBegun
      exact counted rfl rfl
    · split at isBegun <;> subst isBegun <;> exact counted rfl rfl

theorem InCall.depth_of_called {count : Nat} {result : Except CallError (List Val)}
    (ended : InCall count (context, .called result)) : context.depth = count := by
  cases ended with
  | running _ _ inner func signature waits _ => exact absurd waits.symm (by simp [RunState.frames])
  | settled _ _ depth => exact depth

theorem InCall.depth_of_panicked {count : Nat}
    (ended : InCall count (context, .panicked)) : count < context.depth := by
  cases ended with
  | running _ _ inner func signature waits _ => exact absurd waits.symm (by simp [RunState.frames])
  | settled _ running _ => exact absurd rfl running
  | panicked more => exact more

/-- A call of the embedder that returns leaves the count as it was, and one that panics
leaves it higher. -/
theorem Sound.call_depth (sound : context.Sound) (func : FuncHandle) (args : List Val) :
    match context.call func args with
    | (.answered _, after) => after.depth = context.depth
    | (.panicked, after) => context.depth < after.depth
    | (.unfinished, _) => True := by
  have ended := (sound.beginCall_inCall func args).run manySteps
  unfold Context.call
  simp only
  split
  · rename_i isCall
    split at isCall
    · rename_i last
      cases isCall
      rw [last] at ended
      exact ended.depth_of_called
    · cases isCall
    · cases isCall
  · rename_i isCall
    split at isCall
    · cases isCall
    · rename_i last
      cases isCall
      rw [last] at ended
      exact ended.depth_of_panicked
    · cases isCall
  · trivial

end Context

/-! ## Accounting -/

/-- What the count of the calls in progress is worth at a stage, whatever panicked before. -/
structure PanicAccounting (past : List (Stage σ × Act σ)) (stage : Stage σ) : Prop where
  /-- The count is the number of counted calls that wait, and of those that were abandoned. -/
  counted : stage.context.depth = callCount stage.frames + callsAbandoned past
  /-- An idle context has no call in the count exactly if no call was abandoned. -/
  restored_iff : stage.running = none →
    (stage.context.depth = 0 ↔ ∀ happened ∈ past, happened.1.abandonsCalls happened.2 = 0)
  /-- A call that passes the other checks is refused for the depth exactly if the counted
  calls that wait and those that were abandoned are as many as calls may be in progress. -/
  refusal : ∀ {func : FuncHandle} {args : List Val} {entry : FuncEntry},
    stage.context.funcEntry? func = some entry → args.map Val.kind = entry.signature.params →
      (∀ value ∈ args, value.belongsTo stage.context.id = true) →
        stage.context.checkCall func args =
          if callCount stage.frames + callsAbandoned past =
              stage.context.config.maxCallDepth.toNat then
            .error (.trap ⟨.callDepthExceeded,
              "more than " ++ toString stage.context.config.maxCallDepth ++ " nested calls", false⟩)
          else .ok entry
  /-- A call of the embedder that returns leaves the count as it was, and one that panics
  leaves it higher. -/
  calls : stage.running = none → ∀ (func : FuncHandle) (args : List Val),
    match stage.context.call func args with
    | (.answered _, after) => after.depth = stage.context.depth
    | (.panicked, after) => stage.context.depth < after.depth
    | (.unfinished, _) => True

/-- At every stage of a life the count is the number of the counted calls that wait, and of
those that were abandoned before. -/
theorem Life.depth_eq_add {fresh : Context σ} {past : List (Stage σ × Act σ)} {stage : Stage σ}
    (life : Life fresh past stage) (begins : fresh.Sound) (noCalls : fresh.depth = 0) :
    stage.context.depth = callCount stage.frames + callsAbandoned past := by
  induction life with
  | created => exact noCalls
  | @acted past stage after act life taken inductionHypothesis =>
      have balanced := (life.sound begins).take_balanced taken (by omega)
      have isSum : callsAbandoned ((stage, act) :: past) =
          stage.abandonsCalls act + callsAbandoned past := List.sum_cons
      omega

/-- In every life of a context, whatever panics in it and however deep, the count of the
calls in progress is that of the counted calls that wait, and of those that were abandoned.
No call gives back what a panic left in the count. -/
theorem Life.panicAccounting {id : ContextId} {environment : Environment} {data : σ}
    {past : List (Stage σ × Act σ)} {stage : Stage σ}
    (life : Life (.create id environment data) past stage) : PanicAccounting past stage := by
  have begins := Context.create_sound id environment data
  have sound := (life.sound begins).context
  have counted := life.depth_eq_add begins rfl
  have bounded : stage.context.depth ≤ stage.context.config.maxCallDepth.toNat :=
    life.inDepth begins rfl
  refine ⟨counted, ?_, ?_, fun _ => sound.call_depth⟩
  · intro isIdle
    have nothing : stage.frames = [] := by rw [Stage.frames, isIdle]
    rw [counted, nothing, ← callsAbandoned_eq_zero_iff]
    exact Nat.zero_add _ ▸ Iff.rfl
  · intro func args entry known kinds own
    rw [Context.checkCall_of_fits known kinds own, ← counted]
    have atBound : stage.context.depth ≥ stage.context.config.maxCallDepth.toNat ↔
        stage.context.depth = stage.context.config.maxCallDepth.toNat := by omega
    simp only [atBound]

/-! ## A panic under guest code -/

namespace Nested

/-- Guest code is called, and the closure that it calls panics. -/
theorem limited_panics : ∃ past context entry,
    Life limited past ⟨context, none⟩ ∧ callsAbandoned past = 1 ∧
      context.funcEntry? ⟨⟨0⟩, 0⟩ = some entry ∧ entry.signature = .empty ∧
        context.config.maxCallDepth = 1 := by
  have made : Life limited _ _ := Life.created.acted
    (show Stage.take _ (.register .empty fun _ => .panic) = some _ from rfl)
  have linked := made.acted
    (show Stage.take _ (.link artifact [.func ⟨⟨0⟩, 0⟩]) = some _ from rfl)
  have closed := linked.acted (show Stage.take _ .close = some _ from rfl)
  have shown := closed.acted (show Stage.take _ (.ask (.lookup ⟨⟨0⟩, 0⟩ "g")) = some _ from rfl)
  have called := shown.acted (show Stage.take _ (.call ⟨⟨0⟩, 1⟩ []) = some _ from rfl)
  have entered := called.acted (show Stage.take _ .step = some _ from rfl)
  have calling := entered.acted (show Stage.take _ .step = some _ from rfl)
  have importing := calling.acted (show Stage.take _ .step = some _ from rfl)
  have started := importing.acted (show Stage.take _ .step = some _ from rfl)
  have panicked := started.acted (show Stage.take _ .step = some _ from rfl)
  have caught := panicked.acted (show Stage.take _ .close = some _ from rfl)
  exact ⟨_, _, _, caught, rfl, rfl, rfl, rfl⟩

end Nested

/-- After the panic of an import one call is in the count of an idle context, and is all that
the limit allows: the next call is refused. -/
theorem Life.panicAccounting_of_import : ∃ past context,
    Life Nested.limited past ⟨context, none⟩ ∧ PanicAccounting past ⟨context, none⟩ ∧
      context.depth = 1 ∧ context.checkCall ⟨⟨0⟩, 0⟩ [] =
        .error (.trap ⟨.callDepthExceeded, "more than 1 nested calls", false⟩) := by
  obtain ⟨past, context, entry, life, abandoned, known, params, limit⟩ := Nested.limited_panics
  have accounting := Life.panicAccounting life
  have depth : context.depth = 1 := accounting.counted.trans (by rw [abandoned]; rfl)
  have refused : context.checkCall ⟨⟨0⟩, 0⟩ [] = _ :=
    accounting.refusal known (by rw [params]; rfl) (List.forall_mem_nil _)
  simp only [abandoned, limit] at refused
  exact ⟨past, context, life, accounting, depth, refused⟩

/-- A caught panic uses up the depth: an idle context may have a call in the count, and may
refuse a call for it. -/
theorem Life.not_depth_restored :
    (¬∀ (past : List (Stage Unit × Act Unit)) (context : Context Unit),
      Life Nested.limited past ⟨context, none⟩ → context.depth = 0) ∧
    ¬∀ (past : List (Stage Unit × Act Unit)) (context : Context Unit) (func : FuncHandle)
      (entry : FuncEntry), Life Nested.limited past ⟨context, none⟩ →
        context.funcEntry? func = some entry → entry.signature = .empty →
          context.checkCall func [] = .ok entry := by
  obtain ⟨past, context, entry, life, abandoned, known, params, limit⟩ := Nested.limited_panics
  have depth : context.depth = 1 :=
    (life.depth_eq_add (Context.create_sound ..) rfl).trans (by rw [abandoned]; rfl)
  constructor
  · intro restored
    rw [restored past context life] at depth
    contradiction
  · intro accepted
    have allowed := accepted past context _ entry life known params
    rw [Context.checkCall_of_fits known (by rw [params]; rfl) (List.forall_mem_nil _),
      depth, limit] at allowed
    contradiction

end WasmSandbox
