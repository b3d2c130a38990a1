import WasmSandbox.Proofs.Context.Lives

/-!
Contract: what becomes of a call.

Owns:
- the stages at which the call routine can be entered, and what waits for it there;
- the end of a call: its first return to what waits for it, or a panic;
- that a call has at most one end.

A call that is refused returns at once.  A call that was counted returns after any
number of steps, in which other calls may begin and return.  A call in which guest code
runs for ever has no end.

Does not own: which calls end.
-/

namespace WasmSandbox

variable {σ : Type}

/-- The call routine can be entered at a stage, by the embedder of an idle context or by
a closure, and its result goes to what waits. -/
inductive Stage.Enters : Stage σ → CallWait σ → Prop where
  | embedder (context : Context σ) : Enters (.idle context) .embedder
  | closure (context : Context σ) (func : FuncHandle) (args : List Val)
      (next : Except CallError (List Val) → Proc σ) (below : HostCont σ) :
      Enters ⟨context, some (.closure (.call func args next) below)⟩ (.closure next below)

/-- What waits at a stage is what waits for a call that is entered there. -/
theorem Stage.Enters.frames_eq {stage : Stage σ} {wait : CallWait σ}
    (enters : stage.Enters wait) : stage.frames = wait.frames := by
  cases enters <;> rfl

/-- The end of a call, with the context after it. -/
inductive CallEnd (σ : Type) where
  | returned (result : Except CallError (List Val)) (after : Context σ)
  | panicked (after : Context σ)

/-- The call routine is about to return to `wait`. -/
def RunState.Leaves (wait : CallWait σ) : RunState σ → Prop
  | .leaving _ _ _ other => other = wait
  | _ => False

/-- The first return to `wait` on the way of a run, or a panic before it. -/
inductive Ends (wait : CallWait σ) : Run σ → CallEnd σ → Prop where
  | returned (context : Context σ) (func : FuncHandle) (signature : Signature)
      (result : Except CallError (List Val)) :
      Ends wait (context, .leaving func signature result wait)
        (.returned result (context.endCall result wait).1)
  | panicked (context : Context σ) : Ends wait (context, .panicked) (.panicked context)
  | step {context : Context σ} {state : RunState σ} {next : Run σ} {ending : CallEnd σ}
      (stays : ¬state.Leaves wait) (stepped : context.step state = some next)
      (ends : Ends wait next ending) : Ends wait (context, state) ending

namespace Ends

variable {wait : CallWait σ} {context : Context σ} {state : RunState σ}

theorem unique {run : Run σ} {first second : CallEnd σ} (one : Ends wait run first)
    (other : Ends wait run second) : first = second := by
  induction one with
  | returned context func signature result =>
      cases other with
      | returned => rfl
      | step stays stepped ends => exact absurd rfl stays
  | panicked context =>
      cases other with
      | panicked => rfl
      | step stays stepped ends => contradiction
  | step stays stepped ends inductionHypothesis =>
      cases other with
      | returned => exact absurd rfl stays
      | panicked => contradiction
      | step otherStays otherStepped otherEnds =>
          rw [stepped] at otherStepped
          exact inductionHypothesis (Option.some.inj otherStepped ▸ otherEnds)

/-- A run that takes steps which do not return yet has the end of where they lead. -/
theorem step_iff {next : Run σ} {ending : CallEnd σ} (stays : ¬state.Leaves wait)
    (stepped : context.step state = some next) :
    Ends wait (context, state) ending ↔ Ends wait next ending := by
  constructor
  · intro ends
    cases ends with
    | returned => exact absurd rfl stays
    | panicked => contradiction
    | step _ otherStepped otherEnds =>
        rw [stepped] at otherStepped
        exact Option.some.inj otherStepped ▸ otherEnds
  · exact .step stays stepped

end Ends

/-- The end of a call of a function, entered at a context. -/
inductive Context.Outcome (context : Context σ) (func : FuncHandle) (args : List Val)
    (wait : CallWait σ) : CallEnd σ → Prop where
  | refused {error : CallError} (checked : context.checkCall func args = .error error) :
      Outcome context func args wait (.returned (.error error) context)
  | counted {entry : FuncEntry} {ending : CallEnd σ}
      (checked : context.checkCall func args = .ok entry)
      (ends : Ends wait (context.beginCall func args wait) ending) :
      Outcome context func args wait ending

theorem Context.outcome_iff_ends {context : Context σ} {func : FuncHandle} {args : List Val}
    {wait : CallWait σ} {entry : FuncEntry} {ending : CallEnd σ}
    (checked : context.checkCall func args = .ok entry) :
    context.Outcome func args wait ending ↔
      Ends wait (context.beginCall func args wait) ending := by
  constructor
  · intro outcome
    cases outcome with
    | refused refusal =>
        rw [checked] at refusal
        contradiction
    | counted _ ends => exact ends
  · exact .counted checked

theorem Context.outcome_iff_refused {context : Context σ} {func : FuncHandle} {args : List Val}
    {wait : CallWait σ} {error : CallError} {ending : CallEnd σ}
    (checked : context.checkCall func args = .error error) :
    context.Outcome func args wait ending ↔ ending = .returned (.error error) context := by
  constructor
  · intro outcome
    cases outcome with
    | refused refusal =>
        rw [checked] at refusal
        rw [Except.error.inj refusal]
    | counted accepted ends =>
        rw [checked] at accepted
        contradiction
  · rintro rfl
    exact .refused checked

theorem Context.Outcome.unique {context : Context σ} {func : FuncHandle} {args : List Val}
    {wait : CallWait σ} {first second : CallEnd σ} (one : context.Outcome func args wait first)
    (other : context.Outcome func args wait second) : first = second := by
  cases checked : context.checkCall func args with
  | error error =>
      rw [(outcome_iff_refused checked).1 one, (outcome_iff_refused checked).1 other]
  | ok entry => exact ((outcome_iff_ends checked).1 one).unique ((outcome_iff_ends checked).1 other)

end WasmSandbox
