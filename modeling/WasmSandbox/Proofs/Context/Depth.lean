import WasmSandbox.Proofs.Context.Outcome
import WasmSandbox.Proofs.Context.Progress

/-!
Contract: the count of the calls in progress.

Owns:
- lives in which nothing panics;
- that the count is the number of counted calls that have not returned, that it keeps
  within its bound, and that every return leaves it as it was at the entry;
- that calls are refused for the depth exactly at the bound, and that runs settle.

Does not own: what follows a panic, after which the count is too high for good.
-/

namespace WasmSandbox

variable {σ : Type}

/-- Nothing panicked up to a stage. -/
structure Calm (past : List (Stage σ × Act σ)) (stage : Stage σ) : Prop where
  before : ∀ happened ∈ past, ¬happened.1.Panicked
  now : ¬stage.Panicked

namespace Calm

variable {past : List (Stage σ × Act σ)} {stage after : Stage σ} {act : Act σ}

theorem idle (context : Context σ) : Calm [] (.idle context) := ⟨by simp, not_false⟩

theorem acted (calm : Calm past stage) (running : ¬after.Panicked) :
    Calm ((stage, act) :: past) after where
  before := by
    intro happened member
    rcases List.mem_cons.1 member with rfl | earlier
    · exact calm.now
    · exact calm.before happened earlier
  now := running

theorem earlier (calm : Calm ((stage, act) :: past) after) : Calm past stage where
  before := fun happened member => calm.before happened (List.mem_cons_of_mem _ member)
  now := calm.before (stage, act) (List.mem_cons_self ..)

end Calm

/-! ## Steady stages -/

/-- The number of calls in progress is that of the counted calls that wait. -/
theorem Life.depth_eq_callCount {fresh : Context σ} {past : List (Stage σ × Act σ)}
    {stage : Stage σ} (life : Life fresh past stage) (begins : fresh.Sound)
    (noCalls : fresh.depth = 0) (calm : Calm past stage) :
    stage.context.depth = callCount stage.frames := by
  induction life with
  | created => exact noCalls
  | acted life taken inductionHypothesis =>
      have leads := (life.sound begins).take_leads taken
      exact leads.counted (inductionHypothesis calm.earlier) calm.now

theorem Life.inDepth {fresh : Context σ} {past : List (Stage σ × Act σ)}
    {stage : Stage σ} (life : Life fresh past stage) (begins : fresh.Sound)
    (noCalls : fresh.depth = 0) : stage.context.InDepth := by
  induction life with
  | created =>
      unfold Context.InDepth
      rw [Stage.idle, noCalls]
      exact Nat.zero_le _
  | acted life taken inductionHypothesis =>
      exact ((life.sound begins).take_leads taken).bounded inductionHypothesis

/-! ## Calls -/

/-- Where a call returns to `wait`, as many calls are in progress as wait there. -/
private theorem Ends.returned_depth {wait : CallWait σ} {run : Run σ}
    {result : Except CallError (List Val)} {after : Context σ}
    (ends : Ends wait run (.returned result after)) (steady : Steady run) :
    after.depth = callCount wait.frames := by
  generalize isReturn : CallEnd.returned result after = ending at ends
  induction ends with
  | returned context func signature returned =>
      cases isReturn
      rw [Context.endCall_context, steady.counted nofun]
      rfl
  | panicked context => contradiction
  | step stays stepped ends inductionHypothesis =>
      exact inductionHypothesis (steady.step stepped).1 isReturn

/-- A call returns with as many calls in progress as there were when it was entered. -/
private theorem Context.Sound.returned_depth {context after : Context σ} (sound : context.Sound)
    {func : FuncHandle} {args : List Val} {wait : CallWait σ}
    {result : Except CallError (List Val)} (fits : ∀ frame ∈ wait.frames, context.Fits frame)
    (counted : context.depth = callCount wait.frames)
    (outcome : context.Outcome func args wait (.returned result after)) :
    after.depth = context.depth := by
  cases outcome with
  | refused checked => rfl
  | counted checked ends =>
      rw [counted]
      exact ends.returned_depth ((sound.beginCall_continues wait fits func args).steady counted)

/-- What the call routine decides on a call that passes the checks before that of the
depth. -/
theorem Context.checkCall_of_fits {context : Context σ} {func : FuncHandle} {args : List Val}
    {entry : FuncEntry} (known : context.funcEntry? func = some entry)
    (kinds : args.map Val.kind = entry.signature.params)
    (own : ∀ value ∈ args, value.belongsTo context.id = true) :
    context.checkCall func args =
      if context.depth ≥ context.config.maxCallDepth.toNat then
        .error (.trap ⟨.callDepthExceeded,
          "more than " ++ toString context.config.maxCallDepth ++ " nested calls", false⟩)
      else .ok entry := by
  have noneForeign : ¬(args.any fun value => !value.belongsTo context.id) = true := by
    simpa using own
  unfold checkCall
  rw [known]
  simp only
  rw [(entry.signature.checkParams_eq_ok_iff _).2 kinds]
  simp only
  rw [if_neg noneForeign]

/-! ## Accounting -/

/-- What holds of the count of the calls in progress at a stage. -/
structure DepthAccounting (stage : Stage σ) : Prop where
  /-- The count is the number of counted calls that wait. -/
  counted : stage.context.depth = callCount stage.frames
  /-- It keeps within its bound. -/
  bounded : stage.context.depth ≤ stage.context.config.maxCallDepth.toNat
  /-- One more call can be counted in 32 bits. -/
  noOverflow : ∀ {func : FuncHandle} {args : List Val} {entry : FuncEntry},
    stage.context.checkCall func args = .ok entry → stage.context.depth + 1 < UInt32.size
  /-- There is a count to take back for a call that returns. -/
  noUnderflow : ∀ {func : FuncHandle} {signature : Signature}
    {result : Except CallError (List Val)} {wait : CallWait σ},
    stage.running = some (.leaving func signature result wait) → 0 < stage.context.depth
  /-- A call that is entered here returns, if it does, with the count it was entered
  with, whatever its result. -/
  balanced : ∀ {func : FuncHandle} {args : List Val} {wait : CallWait σ}
    {result : Except CallError (List Val)} {after : Context σ}, stage.Enters wait →
      stage.context.Outcome func args wait (.returned result after) →
        after.depth = stage.context.depth
  /-- A call that passes the other checks is refused for the depth exactly if as many
  calls are in progress as there may be. -/
  refusal : ∀ {func : FuncHandle} {args : List Val} {entry : FuncEntry},
    stage.context.funcEntry? func = some entry → args.map Val.kind = entry.signature.params →
      (∀ value ∈ args, value.belongsTo stage.context.id = true) →
        stage.context.checkCall func args =
          if callCount stage.frames = stage.context.config.maxCallDepth.toNat then
            .error (.trap ⟨.callDepthExceeded,
              "more than " ++ toString stage.context.config.maxCallDepth ++ " nested calls", false⟩)
          else .ok entry
  /-- A run is over after some steps, or comes to an instruction of guest code:
  closures that call one another come to an end. -/
  settles : ∀ {state : RunState σ}, stage.running = some state →
    Context.Settles (stage.context, state)

/-- In every life of a context in which nothing panics, whatever its closures call and
whatever becomes of the failures of these calls, the count of the calls in progress is
right, and runs of closures that call one another end. -/
theorem Life.depthAccounting {id : ContextId} {environment : Environment} {data : σ}
    {past : List (Stage σ × Act σ)} {stage : Stage σ}
    (life : Life (.create id environment data) past stage) (calm : Calm past stage) :
    DepthAccounting stage := by
  have begins := Context.create_sound id environment data
  have sound := life.sound begins
  have counted := life.depth_eq_callCount begins rfl calm
  have bounded : stage.context.depth ≤ stage.context.config.maxCallDepth.toNat :=
    life.inDepth begins rfl
  refine ⟨counted, bounded, ?_, ?_, ?_, ?_, ?_⟩
  · intro func args entry checked
    obtain ⟨-, -, -, room⟩ := (stage.context.checkCall_eq_ok_iff func args entry).1 checked
    exact Nat.lt_of_le_of_lt room (UInt32.toNat_lt _)
  · intro func signature result wait isRunning
    rw [counted, Stage.frames, isRunning]
    exact Nat.succ_pos _
  · intro func args wait result after enters outcome
    have fits := sound.fits
    rw [enters.frames_eq] at fits counted
    exact sound.context.returned_depth fits counted outcome
  · intro func args entry known kinds own
    rw [Context.checkCall_of_fits known kinds own, ← counted]
    have atBound : stage.context.depth ≥ stage.context.config.maxCallDepth.toNat ↔
        stage.context.depth = stage.context.config.maxCallDepth.toNat := by omega
    simp only [atBound]
  · intro state isRunning
    have steady : Steady (stage.context, state) := by
      refine ⟨sound.context, ?_, ?_⟩
      · have fits := sound.fits
        rw [Stage.frames, isRunning] at fits
        exact fits
      · intro _
        rw [counted, Stage.frames, isRunning]
    exact steady.settles

/-- A closure that calls its own function, where one call may be in progress. -/
theorem Life.depthAccounting_of_cycle :
    ∃ (past : List (Stage Unit × Act Unit)) (stage : Stage Unit),
      Life (.create ⟨0⟩ { id := ⟨0⟩, config := { maxCallDepth := 1 } } ()) past stage ∧
        Calm past stage ∧ DepthAccounting stage ∧ stage.Enters (.closure
          (fun _ => .finish Slots.empty) (.called ⟨⟨0⟩, 0⟩ .empty .embedder)) ∧
        stage.context.depth = 1 := by
  let body : Closure Unit := fun _ => .call ⟨⟨0⟩, 0⟩ [] fun _ => .finish Slots.empty
  have made : Life (.create ⟨0⟩ { id := ⟨0⟩, config := { maxCallDepth := 1 } } ()) _ _ :=
    Life.created.acted (show Stage.take _ (.register .empty body) = some _ from rfl)
  have called := made.acted (show Stage.take _ (.call ⟨⟨0⟩, 0⟩ []) = some _ from rfl)
  have started := called.acted (show Stage.take _ .step = some _ from rfl)
  have calm := Calm.idle (.create ⟨0⟩ { id := ⟨0⟩, config := { maxCallDepth := 1 } } ())
  refine ⟨_, _, started, ?calm, Life.depthAccounting started ?calm, .closure _ _ _ _ _, rfl⟩
  refine ((calm.acted ?made).acted ?called).acted ?started
  all_goals exact not_false

end WasmSandbox
