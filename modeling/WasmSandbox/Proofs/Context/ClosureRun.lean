import WasmSandbox.Proofs.Context.Stack

/-!
Contract: a closure from its entry to its end.

Owns:
- the first state of a sort on the way of a run;
- the end of a closure that was entered, and the result that it is given there;
- runs over a closure, in which all that runs is called, at some remove, by that closure;
- that what waits for a closure goes on exactly when the closure ends, with its result.

Between the entry and the end other closures run, and may be the same one again.  They are
told apart by what waits for them: what waits for the outer closure is a part of what waits
for the inner ones.

Does not own: which result it is.
-/

namespace WasmSandbox

open Wasm

variable {σ : Type}

/-! ## The first of its sort -/

/-- The first state of a sort on the way of a run, with the context there. -/
inductive Arrives (sort : RunState σ → Prop) : Run σ → Run σ → Prop where
  | here (context : Context σ) {state : RunState σ} (arrived : sort state) :
      Arrives sort (context, state) (context, state)
  | step {context : Context σ} {state : RunState σ} {next last : Run σ}
      (goesOn : ¬sort state) (stepped : context.step state = some next)
      (rest : Arrives sort next last) : Arrives sort (context, state) last

namespace Arrives

variable {sort : RunState σ → Prop} {run : Run σ}

theorem unique {one other : Run σ} (arrives : Arrives sort run one)
    (alsoArrives : Arrives sort run other) : one = other := by
  induction arrives with
  | here context arrived =>
      cases alsoArrives with
      | here => rfl
      | step goesOn stepped rest => exact absurd arrived goesOn
  | step goesOn stepped rest inductionHypothesis =>
      cases alsoArrives with
      | here context arrived => exact absurd arrived goesOn
      | step alsoGoesOn alsoStepped alsoRest =>
          rw [stepped] at alsoStepped
          exact inductionHypothesis (Option.some.inj alsoStepped ▸ alsoRest)

end Arrives

/-! ## The end of a closure -/

/-- How a closure ends: it leaves its slots, or refuses. -/
inductive ClosureEnd where
  | returned (slots : Slots)
  | refused (error : HostError)

/-- What is left of a closure at its end. -/
def ClosureEnd.proc : ClosureEnd → Proc σ
  | returned slots => .finish slots
  | refused error => .fail error

theorem ClosureEnd.proc_injective : Function.Injective (proc : ClosureEnd → Proc σ) := by
  intro first second same
  cases first <;> cases second <;> cases same <;> rfl

/-- The result that a closure is given which ended in a context. -/
def Context.resultOf (context : Context σ) (signature : Signature) :
    ClosureEnd → Except CallError (List Val)
  | .returned slots => context.checkSlots signature slots
  | .refused error => .error (.host error)

namespace HostCont

/-- The closure that something waits for is at its end. -/
def EndsAt (cont : HostCont σ) (state : RunState σ) : Prop :=
  ∃ ending : ClosureEnd, state = .closure ending.proc cont

/-- What waits for a closure goes on: the call routine with a result, or guest code with
values or a failure. -/
def Resumes : HostCont σ → RunState σ → Prop
  | .called _ _ wait, .leaving _ _ _ other => other = wait
  | .imported _ below, .returning _ other => other = below
  | .imported _ below, .raising _ other => other = below
  | _, _ => False

end HostCont

/-- A closure comes to an end in a context, on the way of a run from where it was entered. -/
def Concludes (cont : HostCont σ) (run : Run σ) (ending : ClosureEnd) (after : Context σ) :
    Prop :=
  Arrives cont.EndsAt run (after, .closure ending.proc cont)

/-- A closure that was entered comes to one end at most. -/
theorem Concludes.unique {cont : HostCont σ} {run : Run σ} {first second : ClosureEnd}
    {one other : Context σ} (concludes : Concludes cont run first one)
    (alsoConcludes : Concludes cont run second other) : first = second ∧ one = other := by
  obtain ⟨sameContext, sameState⟩ := Prod.mk.inj (Arrives.unique concludes alsoConcludes)
  exact ⟨ClosureEnd.proc_injective (RunState.closure.inj sameState).1, sameContext⟩

theorem Context.step_of_ended (context : Context σ) (ending : ClosureEnd) (cont : HostCont σ) :
    context.step (.closure ending.proc cont) =
      some (context.finishClosure (context.resultOf cont.signature ending) cont) := by
  cases ending <;> rfl

theorem Context.finishClosure_resumes (context : Context σ)
    (result : Except CallError (List Val)) (cont : HostCont σ) :
    cont.Resumes (context.finishClosure result cont).2 := by
  cases cont with
  | called func signature wait => rfl
  | imported signature below =>
      cases result with
      | error error => rfl
      | ok values =>
          simp only [finishClosure]
          cases values.mapM context.lower <;> rfl

/-! ## Runs over a closure -/

mutual

/-- What waits for a closure is all that waits for `cont`, or that and more. -/
def HostCont.Over {σ : Type} : HostCont σ → HostCont σ → Prop
  | .called func signature wait, cont => .called func signature wait = cont ∨ wait.Over cont
  | .imported signature below, cont => .imported signature below = cont ∨ below.Over cont
termination_by structural inner => inner

/-- Guest code that is called at some remove by the closure of `cont`. -/
def GuestCont.Over {σ : Type} : GuestCont σ → HostCont σ → Prop
  | .frame _ below, cont => below.Over cont
  | .called _ _ wait, cont => wait.Over cont
  | .starting _ wait, cont => wait.Over cont
termination_by structural inner => inner

/-- A call that is made at some remove by the closure of `cont`. -/
def CallWait.Over {σ : Type} : CallWait σ → HostCont σ → Prop
  | .embedder, _ => False
  | .closure _ below, cont => below.Over cont
termination_by structural wait => wait

/-- A link that is made at some remove by the closure of `cont`. -/
def LinkWait.Over {σ : Type} : LinkWait σ → HostCont σ → Prop
  | .embedder, _ => False
  | .closure _ below, cont => below.Over cont
termination_by structural wait => wait

end

/-- A run in which a closure has been entered and not left.  A panic leaves no closure, and
ends the run. -/
def RunState.Over : RunState σ → HostCont σ → Prop
  | .invoking _ _ inner, cont => inner.Over cont
  | .closure _ inner, cont => inner.Over cont
  | .guest _ inner, cont => inner.Over cont
  | .entering _ _ inner, cont => inner.Over cont
  | .returning _ inner, cont => inner.Over cont
  | .raising _ inner, cont => inner.Over cont
  | .leaving _ _ _ wait, cont => wait.Over cont
  | .called _, _ => False
  | .linked _, _ => False
  | .panicked, _ => True

theorem HostCont.over_self (cont : HostCont σ) : cont.Over cont := by
  cases cont <;> exact .inl rfl

mutual

/-- At least as much waits as for the closure itself. -/
theorem HostCont.Over.stack_le {σ : Type} {cont : HostCont σ} : {inner : HostCont σ} →
    inner.Over cont → cont.stack.length ≤ inner.stack.length
  | .called _ _ _, .inl same => same ▸ Nat.le_refl _
  | .called _ _ _, .inr entered => Nat.le_succ_of_le entered.stack_le
  | .imported _ _, .inl same => same ▸ Nat.le_refl _
  | .imported _ _, .inr entered => Nat.le_succ_of_le entered.stack_le

theorem GuestCont.Over.stack_le {σ : Type} {cont : HostCont σ} : {inner : GuestCont σ} →
    inner.Over cont → cont.stack.length ≤ inner.stack.length
  | .frame _ below, entered => (show below.Over cont from entered).stack_le
  | .called _ _ wait, entered => Nat.le_succ_of_le (show wait.Over cont from entered).stack_le
  | .starting _ wait, entered => Nat.le_succ_of_le (show wait.Over cont from entered).stack_le

theorem CallWait.Over.stack_le {σ : Type} {cont : HostCont σ} : {wait : CallWait σ} →
    wait.Over cont → cont.stack.length ≤ wait.stack.length
  | .closure _ below, entered => (show below.Over cont from entered).stack_le

theorem LinkWait.Over.stack_le {σ : Type} {cont : HostCont σ} : {wait : LinkWait σ} →
    wait.Over cont → cont.stack.length ≤ wait.stack.length
  | .closure _ below, entered => (show below.Over cont from entered).stack_le

end

/-- While a closure has not been left, what waits for it does not go on: less waits then. -/
theorem RunState.Over.not_resumes {cont : HostCont σ} {state : RunState σ}
    (entered : state.Over cont) : ¬cont.Resumes state := by
  intro resumes
  cases cont with
  | called func signature wait =>
      cases state with
      | leaving left leftSignature result other =>
          obtain rfl : other = wait := resumes
          have under : other.Over (.called func signature other) := entered
          exact absurd under.stack_le (Nat.not_succ_le_self _)
      | _ => exact resumes
  | imported signature below =>
      cases state with
      | returning values other =>
          obtain rfl : other = below := resumes
          have under : other.Over (.imported signature other) := entered
          exact absurd under.stack_le (Nat.not_succ_le_self _)
      | raising error other =>
          obtain rfl : other = below := resumes
          have under : other.Over (.imported signature other) := entered
          exact absurd under.stack_le (Nat.not_succ_le_self _)
      | _ => exact resumes

/-! ## What a step over a closure does -/

namespace Context

variable {context : Context σ} {cont : HostCont σ}

theorem deliverCall_over (context : Context σ) (result : Except CallError (List Val))
    {wait : CallWait σ} (entered : wait.Over cont) :
    (context.deliverCall result wait).2.Over cont := by
  cases wait with
  | embedder => exact entered.elim
  | closure next below => exact entered

theorem deliverLink_over (context : Context σ) (result : Except LinkError InstanceHandle)
    {wait : LinkWait σ} (entered : wait.Over cont) :
    (context.deliverLink result wait).2.Over cont := by
  cases wait with
  | embedder => exact entered.elim
  | closure next below => exact entered

theorem afterAdvance_over (context : Context σ) {inner : GuestCont σ} (entered : inner.Over cont)
    (advance : Advance) : (context.afterAdvance inner advance).2.Over cont := by
  cases advance with
  | halted halt => cases halt <;> exact entered
  | _ => exact entered

/-- The end of another closure gives its result to something that waits for less. -/
theorem finishClosure_over (context : Context σ) (result : Except CallError (List Val))
    {inner : HostCont σ} (entered : inner.Over cont) (isOther : inner ≠ cont) :
    (context.finishClosure result inner).2.Over cont := by
  cases inner with
  | called func signature wait => exact entered.resolve_left isOther
  | imported signature below =>
      have under : below.Over cont := entered.resolve_left isOther
      cases result with
      | error error => exact under
      | ok values =>
          simp only [finishClosure]
          cases values.mapM context.lower <;> exact under

theorem beginCall_over (context : Context σ) (func : FuncHandle) (args : List Val)
    {wait : CallWait σ} (entered : wait.Over cont) :
    (context.beginCall func args wait).2.Over cont := by
  unfold beginCall
  split
  · exact deliverCall_over context _ entered
  · simp only
    split
    · exact .inr entered
    · split
      · exact entered
      · exact entered

theorem beginLink_over (context : Context σ) (artifact : Artifact) (items : List Item)
    {wait : LinkWait σ} (entered : wait.Over cont) :
    (context.beginLink artifact items wait).2.Over cont := by
  rw [beginLink_eq]
  generalize context.engineLink artifact items = out
  obtain ⟨outcome, after⟩ := out
  cases outcome with
  | error error => exact deliverLink_over after _ entered
  | ok made =>
      cases artifact.module.start with
      | none => exact deliverLink_over _ _ entered
      | some index => exact entered

/-- A closure that is not the one of `cont` at its end leaves that one entered. -/
theorem stepClosure_over (context : Context σ) (proc : Proc σ) {inner : HostCont σ}
    (entered : inner.Over cont) (running : ¬cont.EndsAt (.closure proc inner)) :
    (context.stepClosure proc inner).2.Over cont := by
  have isOther (ending : ClosureEnd) (ended : proc = ending.proc) : inner ≠ cont := by
    rintro rfl
    exact running ⟨ending, by rw [ended]⟩
  cases proc with
  | finish slots => exact finishClosure_over context _ entered (isOther (.returned slots) rfl)
  | fail error => exact finishClosure_over context _ entered (isOther (.refused error) rfl)
  | panic => trivial
  | ask request next =>
      simp only [stepClosure]
      cases context.answer request with
      | panicked => trivial
      | answered out => exact entered
  | register signature body next => exact entered
  | call func args next =>
      have waits : (CallWait.closure next inner).Over cont := entered
      exact beginCall_over context func args waits
  | link artifact items next =>
      have waits : (LinkWait.closure next inner).Over cont := entered
      exact beginLink_over context artifact items waits

theorem enterEngine_over (context : Context σ) (func : FuncKey) (args : List Value)
    {inner : GuestCont σ} (entered : inner.Over cont) :
    (context.enterEngine func args inner).2.Over cont := by
  unfold enterEngine
  split
  · split
    · exact .inr entered
    · exact entered
  · split
    · exact afterAdvance_over _ entered _
    · exact entered
  · exact entered

theorem stepReturning_over (context : Context σ) (values : List Value) {inner : GuestCont σ}
    (entered : inner.Over cont) : (context.stepReturning values inner).2.Over cont := by
  cases inner with
  | frame activation below => exact entered
  | called func signature wait => exact entered
  | starting made wait =>
      have waits : wait.Over cont := entered
      exact deliverLink_over _ _ waits

theorem stepRaising_over (context : Context σ) (error : EngineError) {inner : GuestCont σ}
    (entered : inner.Over cont) : (context.stepRaising error inner).2.Over cont := by
  cases inner with
  | frame activation below => exact entered
  | called func signature wait => exact entered
  | starting made wait =>
      have waits : wait.Over cont := entered
      exact deliverLink_over _ _ waits

/-- A step before the end of a closure does not leave it. -/
theorem step_over {state : RunState σ} {next : Run σ} (entered : state.Over cont)
    (running : ¬cont.EndsAt state) (stepped : context.step state = some next) :
    next.2.Over cont := by
  cases state with
  | invoking body args inner =>
      cases stepped
      exact entered
  | closure proc inner =>
      cases stepped
      exact stepClosure_over context proc entered running
  | guest activation inner =>
      cases stepped
      exact afterAdvance_over _ entered _
  | entering func args inner =>
      cases stepped
      exact enterEngine_over context func args entered
  | returning values inner =>
      cases stepped
      exact stepReturning_over context values entered
  | raising error inner =>
      cases stepped
      exact stepRaising_over context error entered
  | leaving func signature result wait =>
      cases stepped
      have waits : wait.Over cont := entered
      exact deliverCall_over _ result waits
  | called result => contradiction
  | linked result => contradiction
  | panicked => contradiction

end Context

/-! ## What waits for a closure goes on -/

/-- In a run over a closure, what waits for the closure first goes on in the step after its
end, with the result that it is given there. -/
theorem arrives_resumes_iff {cont : HostCont σ} {run last : Run σ} (entered : run.2.Over cont) :
    Arrives cont.Resumes run last ↔ ∃ ending after, Concludes cont run ending after ∧
      last = after.finishClosure (after.resultOf cont.signature ending) cont := by
  constructor
  · intro arrives
    induction arrives with
    | here context arrived => exact absurd arrived entered.not_resumes
    | @step context state next last goesOn stepped rest inductionHypothesis =>
        by_cases ended : cont.EndsAt state
        · obtain ⟨ending, rfl⟩ := ended
          rw [context.step_of_ended ending cont, Option.some.injEq] at stepped
          have resumed := context.finishClosure_resumes
            (context.resultOf cont.signature ending) cont
          rw [stepped] at resumed
          refine ⟨ending, context, .here context ⟨ending, rfl⟩, ?_⟩
          rw [stepped]
          exact rest.unique (.here next.1 resumed)
        · obtain ⟨ending, after, concludes, isLast⟩ :=
            inductionHypothesis (Context.step_over entered ended stepped)
          exact ⟨ending, after, .step ended stepped concludes, isLast⟩
  · rintro ⟨ending, after, concludes, rfl⟩
    unfold Concludes at concludes
    generalize isEnd : (after, RunState.closure ending.proc cont) = last at concludes
    induction concludes with
    | here context arrived =>
        cases isEnd
        exact .step entered.not_resumes (after.step_of_ended ending cont)
          (.here _ (after.finishClosure_resumes _ cont))
    | step goesOn stepped rest inductionHypothesis =>
        exact .step entered.not_resumes stepped
          (inductionHypothesis (Context.step_over entered goesOn stepped) isEnd)

end WasmSandbox
