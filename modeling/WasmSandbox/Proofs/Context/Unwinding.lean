import WasmSandbox.Proofs.Context.Outcome
import WasmSandbox.Proofs.Failure.Recovery

/-!
Contract: the way of a failure out of closures and guest code.

Owns:
- closures that pass the failure of a call on as their own refusal;
- what waits between a closure and an entry: guest code, and closures that pass failures
  on, with the number of these;
- that the failure of the innermost closure comes out of the entry with one refusal around
  it for each closure that passed it on, and with nothing around it for guest code;
- that this does not depend on what the engine adds to its errors;
- that a fault of guest code comes out of the entry as its trap.

Where a failure goes through guest code it is wrapped in an error of the engine, and each
frame may add to that error.  What carries the induction is that the error still wraps the
failure.  A call or a link takes the failure out again.

An entry is a call, by the embedder or by a closure, or the start function of an instance
that is being linked.  Closures may ask their context for something before they pass a
failure on, and may register functions.

Does not own: closures that do not pass failures on.
-/

namespace WasmSandbox

open Wasm

variable {σ : Type}

/-! ## Closures that pass failures on -/

/-- A closure that comes to one refusal, whatever is answered on the way. -/
inductive Proc.Refuses (refusal : HostError) : Proc σ → Prop where
  | fail : Refuses refusal (.fail refusal)
  | ask (request : Request σ) {next : request.Answer → Proc σ}
      (calm : ∀ context : Context σ, context.answer request ≠ .panicked)
      (refuses : ∀ answer, Refuses refusal (next answer)) : Refuses refusal (.ask request next)
  | register (signature : Signature) (body : Closure σ) {next : FuncHandle → Proc σ}
      (refuses : ∀ func, Refuses refusal (next func)) :
      Refuses refusal (.register signature body next)

/-- What a closure goes on with after a call passes the failure of that call on. -/
def PassesOn (next : Except CallError (List Val) → Proc σ) : Prop :=
  ∀ error, (next (.error error)).Refuses (.ofCall error)

/-- A failure inside of the refusals of as many closures that passed it on. -/
def CallError.within (error : CallError) : (layers : Nat) → CallError
  | 0 => error
  | layers + 1 => .host (.ofCall (error.within layers))

/-- The innermost of the refusals can be counted in first. -/
theorem CallError.within_succ (error : CallError) (layers : Nat) :
    error.within (layers + 1) = (CallError.host (.ofCall error)).within layers := by
  induction layers with
  | zero => rfl
  | succ layers inductionHypothesis => rw [within, inductionHypothesis, ← within]

theorem CallError.within_add (error : CallError) (reached left : Nat) :
    error.within (reached + left) = (error.within reached).within left := by
  induction left with
  | zero => rfl
  | succ left inductionHypothesis => rw [Nat.add_succ, within, within, inductionHypothesis]

/-! ## What waits between -/

/-- What a failure comes out of at last: a call, or a link whose start function runs. -/
inductive Entry (σ : Type) where
  | call (wait : CallWait σ)
  | start (wait : LinkWait σ)

/-- What waits for an entry. -/
def Entry.frames : Entry σ → List Frame
  | call wait => wait.frames
  | start wait => wait.frames

mutual

/-- A closure waits above an entry.  All closures between the two pass failures on, and
`layers` is how many there are. -/
inductive HostCont.Above : Entry σ → HostCont σ → (layers : Nat) → Prop where
  | entered (func : FuncHandle) (signature : Signature) (wait : CallWait σ) :
      HostCont.Above (.call wait) (.called func signature wait) 0
  | called (func : FuncHandle) (signature : Signature) {entry : Entry σ} {below : HostCont σ}
      {layers : Nat} {next : Except CallError (List Val) → Proc σ} (passesOn : PassesOn next)
      (waits : HostCont.Above entry below layers) :
      HostCont.Above entry (.called func signature (.closure next below)) (layers + 1)
  | imported (signature : Signature) {entry : Entry σ} {below : GuestCont σ} {layers : Nat}
      (waits : GuestCont.Above entry below layers) :
      HostCont.Above entry (.imported signature below) layers

/-- Guest code waits above an entry. -/
inductive GuestCont.Above : Entry σ → GuestCont σ → (layers : Nat) → Prop where
  | entered (func : FuncHandle) (signature : Signature) (wait : CallWait σ) :
      GuestCont.Above (.call wait) (.called func signature wait) 0
  | starting (made : InstanceEntry) (wait : LinkWait σ) :
      GuestCont.Above (.start wait) (.starting made wait) 0
  | called (func : FuncHandle) (signature : Signature) {entry : Entry σ} {below : HostCont σ}
      {layers : Nat} {next : Except CallError (List Val) → Proc σ} (passesOn : PassesOn next)
      (waits : HostCont.Above entry below layers) :
      GuestCont.Above entry (.called func signature (.closure next below)) (layers + 1)
  | frame (activation : Activation) {entry : Entry σ} {below : GuestCont σ} {layers : Nat}
      (waits : GuestCont.Above entry below layers) :
      GuestCont.Above entry (.frame activation below) layers

end

mutual

/-- More waits above an entry than for it. -/
theorem HostCont.Above.frames_lt : {entry : Entry σ} → {cont : HostCont σ} → {layers : Nat} →
    HostCont.Above entry cont layers → entry.frames.length < cont.frames.length
  | _, _, _, .entered _ _ _ => Nat.lt_succ_self _
  | _, _, _, .called _ _ _ waits => Nat.lt_succ_of_lt waits.frames_lt
  | _, _, _, .imported _ waits => waits.frames_lt

theorem GuestCont.Above.frames_lt : {entry : Entry σ} → {cont : GuestCont σ} → {layers : Nat} →
    GuestCont.Above entry cont layers → entry.frames.length < cont.frames.length
  | _, _, _, .entered _ _ _ => Nat.lt_succ_self _
  | _, _, _, .starting _ _ => Nat.lt_succ_self _
  | _, _, _, .called _ _ _ waits => Nat.lt_succ_of_lt waits.frames_lt
  | _, _, _, .frame _ waits => waits.frames_lt

end

/-! ## The way out -/

namespace Context

variable {context : Context σ} {raised : EngineError} {error : CallError}

/-- The call routine returns what an error of the engine is reported as. -/
theorem step_called (reported : CallError.ofEngine raised = error) (func : FuncHandle)
    (signature : Signature) (wait : CallWait σ) :
    context.step (.raising raised (.called func signature wait)) =
      some (context, .leaving func signature (.error error) wait) := by
  rw [step, stepRaising, reported]

/-- A link that is aborted returns what aborted it. -/
theorem step_starting (reported : LinkError.ofEngine raised = .trapped error)
    (made : InstanceEntry) (wait : LinkWait σ) :
    context.step (.raising raised (.starting made wait)) =
      some (context.deliverLink (.error (.trapped error)) wait) := by
  rw [step, stepRaising, reported]

/-- A fault goes through a frame as it is. -/
theorem step_faulted (context : Context σ) (fault : GuestFault) (activation : Activation)
    (below : GuestCont σ) :
    context.step (.raising (context.faultError fault) (.frame activation below)) =
      some (context, .raising (context.faultError fault) below) := by
  rw [step, stepRaising, faultError, EngineError.traced_traced]

end Context

/-- A run comes out of an entry with a failure: the call returns it, or the link is
delivered as trapped with it. -/
def Entry.FailsWith (entry : Entry σ) (error : CallError) (run : Run σ) : Prop :=
  match entry with
  | call wait => ∃ after, Ends wait run (.returned (.error error) after)
  | start wait => ∃ (bound : Nat) (after : Context σ),
      Context.run bound run.1 run.2 = after.deliverLink (.error (.trapped error)) wait

namespace Entry

variable {entry : Entry σ} {error : CallError} {context : Context σ} {state : RunState σ}

/-- A state at which no call returns to an entry. -/
def Stays (entry : Entry σ) (state : RunState σ) : Prop :=
  ∀ wait, entry = .call wait → ¬state.Leaves wait

theorem FailsWith.of_step {next : Run σ} (stays : entry.Stays state)
    (stepped : context.step state = some next) (fails : entry.FailsWith error next) :
    entry.FailsWith error (context, state) := by
  cases entry with
  | call wait =>
      obtain ⟨after, ends⟩ := fails
      exact ⟨after, .step (stays wait rfl) stepped ends⟩
  | start wait =>
      obtain ⟨bound, after, delivered⟩ := fails
      refine ⟨bound + 1, after, ?_⟩
      simp only [Context.run, stepped]
      exact delivered

/-- A closure that comes to a refusal fails like its end with that refusal. -/
theorem FailsWith.of_refuses {refusal : HostError} {proc : Proc σ} {cont : HostCont σ}
    (refuses : proc.Refuses refusal)
    (fails : ∀ after : Context σ,
      entry.FailsWith error (after.finishClosure (.error (.host refusal)) cont))
    (context : Context σ) : entry.FailsWith error (context, .closure proc cont) := by
  induction refuses generalizing context with
  | fail => exact .of_step (fun _ _ => not_false) rfl (fails context)
  | @ask request next calm refuses inductionHypothesis =>
      cases answered : context.answer request with
      | panicked => exact absurd answered (calm context)
      | answered out =>
          have stepped : context.stepClosure (.ask request next) cont =
              (out.2, .closure (next out.1) cont) := by
            simp only [Context.stepClosure, answered]
          exact .of_step (fun _ _ => not_false) (congrArg some stepped)
            (inductionHypothesis out.1 out.2)
  | register signature body refuses inductionHypothesis =>
      exact .of_step (fun _ _ => not_false) rfl (inductionHypothesis _ _)

/-- A call returns what an error of the engine is reported as, -/
theorem failsWith_called {raised : EngineError} (reported : CallError.ofEngine raised = error)
    (func : FuncHandle) (signature : Signature) (wait : CallWait σ) (context : Context σ) :
    (Entry.call wait).FailsWith error (context, .raising raised (.called func signature wait)) :=
  ⟨_, .step not_false (Context.step_called reported func signature wait) (.returned ..)⟩

/-- and a link is aborted with it. -/
theorem failsWith_starting {raised : EngineError}
    (reported : LinkError.ofEngine raised = .trapped error) (made : InstanceEntry)
    (wait : LinkWait σ) (context : Context σ) :
    (Entry.start wait).FailsWith error (context, .raising raised (.starting made wait)) :=
  ⟨1, context, by simp only [Context.run, Context.step_starting reported made wait]⟩

/-- A call that fails inside of a closure which passes failures on fails that closure. -/
private theorem failsWith_leaving {func : FuncHandle} {signature : Signature}
    {below : HostCont σ} {layers : Nat} {next : Except CallError (List Val) → Proc σ}
    (passesOn : PassesOn next) (waits : HostCont.Above entry below layers)
    (fails : ∀ (after : Context σ) (error : CallError),
      entry.FailsWith (error.within layers) (after.finishClosure (.error error) below))
    (context : Context σ) (error : CallError) :
    entry.FailsWith (error.within (layers + 1))
      (context, .leaving func signature (.error error) (.closure next below)) := by
  -- The call that returns here is not the entry: more waits for it.
  have inside : entry.Stays (.leaving func signature (.error error) (.closure next below)) := by
    rintro wait rfl leaves
    have same : CallWait.closure next below = wait := leaves
    have more : wait.frames.length < below.frames.length := waits.frames_lt
    rw [← same] at more
    exact Nat.lt_irrefl _ more
  rw [CallError.within_succ]
  exact .of_step inside rfl (.of_refuses (passesOn error) (fun after => fails after _) _)

end Entry

mutual

/-- The failure of a closure comes out of the entry below it. -/
theorem HostCont.Above.failsWith : {entry : Entry σ} → {cont : HostCont σ} → {layers : Nat} →
    HostCont.Above entry cont layers → (context : Context σ) → (error : CallError) →
      entry.FailsWith (error.within layers) (context.finishClosure (.error error) cont)
  | _, _, _, .entered _ _ _, _, _ => ⟨_, .returned ..⟩
  | _, _, _, .called _ _ passesOn waits, context, error =>
      Entry.failsWith_leaving passesOn waits waits.failsWith context error
  | _, _, _, .imported _ waits, context, error =>
      waits.failsWith context (EngineError.wraps_box error)

/-- A failure that an error of the engine wraps in guest code comes out of the entry below
it. -/
theorem GuestCont.Above.failsWith : {entry : Entry σ} → {cont : GuestCont σ} → {layers : Nat} →
    GuestCont.Above entry cont layers → (context : Context σ) → {raised : EngineError} →
      {error : CallError} → raised.Wraps error →
        entry.FailsWith (error.within layers) (context, .raising raised cont)
  | _, _, _, .entered func signature wait, context, _, _, wraps =>
      Entry.failsWith_called (CallError.ofEngine_of_wraps wraps) func signature wait context
  | _, _, _, .starting made wait, context, _, _, wraps =>
      Entry.failsWith_starting (LinkError.ofEngine_of_wraps wraps) made wait context
  | _, _, _, .called func signature passesOn waits, context, _, error, wraps =>
      .of_step (fun _ _ => not_false)
        (Context.step_called (CallError.ofEngine_of_wraps wraps) func signature _)
        (Entry.failsWith_leaving passesOn waits waits.failsWith context error)
  | _, _, _, .frame _ waits, context, _, _, wraps =>
      .of_step (fun _ _ => not_false) rfl (waits.failsWith context (wraps.traced _))

end

/-- A fault of guest code comes out of the entry below it as its trap.  It got its backtrace
where it happened, so further frames add nothing. -/
theorem GuestCont.Above.faultsWith : {entry : Entry σ} → {cont : GuestCont σ} → {layers : Nat} →
    GuestCont.Above entry cont layers → (context : Context σ) → (fault : GuestFault) →
      entry.FailsWith
        ((CallError.trap (fault.trap context.config.captureBacktraces)).within layers)
        (context, .raising (context.faultError fault) cont)
  | _, _, _, .entered func signature wait, context, fault =>
      Entry.failsWith_called (CallError.ofEngine_traced fault _) func signature wait context
  | _, _, _, .starting made wait, context, fault =>
      Entry.failsWith_starting (LinkError.ofEngine_traced fault _) made wait context
  | _, _, _, .called func signature passesOn waits, context, fault =>
      .of_step (fun _ _ => not_false)
        (Context.step_called (CallError.ofEngine_traced fault _) func signature _)
        (Entry.failsWith_leaving passesOn waits waits.failsWith context _)
  | _, _, _, .frame activation waits, context, fault =>
      .of_step (fun _ _ => not_false) (context.step_faulted fault activation _)
        (waits.faultsWith context fault)

/-! ## Runs of the embedder -/

namespace Context

theorem run_add (first second : Nat) (context : Context σ) (state : RunState σ) :
    run (first + second) context state =
      run second (run first context state).1 (run first context state).2 := by
  induction first generalizing context state with
  | zero => rw [Nat.zero_add, run]
  | succ first inductionHypothesis =>
      rw [Nat.add_right_comm, run, run]
      cases stepped : context.step state with
      | some next => exact inductionHypothesis next.1 next.2
      | none =>
          cases second with
          | zero => rfl
          | succ second => simp only [run, stepped]

theorem run_of_halted {context : Context σ} {state : RunState σ}
    (halted : context.step state = none) (bound : Nat) :
    run bound context state = (context, state) := by
  cases bound with
  | zero => rfl
  | succ bound => simp only [run, halted]

/-- A run that is over was over with the same end after any other number of steps. -/
theorem run_halted_unique {begun first second : Run σ} {one other : Nat}
    (ended : run one begun.1 begun.2 = first) (halted : first.1.step first.2 = none)
    (endedToo : run other begun.1 begun.2 = second) (haltedToo : second.1.step second.2 = none) :
    first = second := by
  rcases Nat.le_total one other with atMost | atMost
  · obtain ⟨more, rfl⟩ := Nat.exists_eq_add_of_le atMost
    rw [run_add, ended, run_of_halted halted] at endedToo
    exact endedToo
  · obtain ⟨more, rfl⟩ := Nat.exists_eq_add_of_le atMost
    rw [run_add, endedToo, run_of_halted haltedToo] at ended
    exact ended.symm

/-- A call of the embedder whose run comes to a result gives that result back, unless it
is cut off before. -/
theorem call_of_run {context after : Context σ} {func : FuncHandle} {args : List Val}
    {result : Except CallError (List Val)} {bound : Nat}
    (ended : run bound (context.beginCall func args .embedder).1
      (context.beginCall func args .embedder).2 = (after, .called result))
    (ends : (context.call func args).1 ≠ .unfinished) :
    context.call func args = (.answered result, after) := by
  unfold call at ends ⊢
  simp only at ends ⊢
  split at ends <;> rename_i reached
  · cases run_halted_unique ended rfl reached rfl
    rfl
  · cases run_halted_unique ended rfl reached rfl
  · exact absurd rfl ends

/-- A link of the embedder whose run comes to a result gives that result back, unless it
is cut off before. -/
theorem link_of_run {context after : Context σ} {artifact : Artifact} {items : List Item}
    {result : Except LinkError InstanceHandle} {bound : Nat}
    (ended : run bound (context.beginLink artifact items .embedder).1
      (context.beginLink artifact items .embedder).2 = (after, .linked result))
    (ends : (context.link artifact items).1 ≠ .unfinished) :
    context.link artifact items = (.answered result, after) := by
  unfold link at ends ⊢
  simp only at ends ⊢
  split at ends <;> rename_i reached
  · cases run_halted_unique ended rfl reached rfl
    rfl
  · cases run_halted_unique ended rfl reached rfl
  · exact absurd rfl ends

end Context

namespace Ends

variable {begun : Run σ} {after : Context σ}

/-- A return to the embedder is the end of the run. -/
theorem run_called {result : Except CallError (List Val)}
    (ends : Ends .embedder begun (.returned result after)) :
    ∃ bound, Context.run bound begun.1 begun.2 = (after, .called result) := by
  generalize isReturn : CallEnd.returned result after = ending at ends
  induction ends with
  | returned context func signature result =>
      cases isReturn
      exact ⟨1, rfl⟩
  | panicked context => contradiction
  | step stays stepped ends inductionHypothesis =>
      obtain ⟨bound, reached⟩ := inductionHypothesis isReturn
      refine ⟨bound + 1, ?_⟩
      simp only [Context.run, stepped]
      exact reached

/-- As long as a closure runs, the call of the embedder has not returned: its end is
still to come. -/
theorem of_run {proc : Proc σ} {cont : HostCont σ} {ending : CallEnd σ} {bound : Nat}
    (reached : Context.run bound begun.1 begun.2 = (after, .closure proc cont))
    (ends : Ends .embedder (after, .closure proc cont) ending) : Ends .embedder begun ending := by
  induction bound generalizing begun with
  | zero =>
      rw [Context.run] at reached
      rw [← reached] at ends
      exact ends
  | succ bound inductionHypothesis =>
      obtain ⟨context, state⟩ := begun
      rw [Context.run] at reached
      cases stepped : context.step state with
      | none =>
          rw [stepped] at reached
          cases reached
          contradiction
      | some next =>
          rw [stepped] at reached
          refine .step ?stays stepped (inductionHypothesis reached)
          -- After a return to the embedder the run is over, and no closure runs.
          intro leaves
          cases state with
          | leaving func signature result wait =>
              cases (show wait = .embedder from leaves)
              cases stepped
              have ended : Context.run bound (context.endCall result .embedder).1
                  (.called result) = (after, .closure proc cont) := reached
              rw [Context.run_of_halted rfl] at ended
              cases ended
          | _ => exact leaves

end Ends

/-! ## Blame -/

namespace Context

/-- A closure of a signature is about to fail by itself: it refuses, or its slots break
the contract. -/
inductive Breaks (context : Context σ) (signature : Signature) : Proc σ → CallError → Prop where
  | refuses (refusal : HostError) : Breaks context signature (.fail refusal) (.host refusal)
  | violates {slots : Slots} {error : CallError}
      (checked : context.checkSlots signature slots = .error error) :
      Breaks context signature (.finish slots) error

theorem checkSlots_eq_error {context : Context σ} {signature : Signature} {slots : Slots}
    {error : CallError} (checked : context.checkSlots signature slots = .error error) :
    ∃ violation, error = .contract violation := by
  unfold checkSlots at checked
  simp only at checked
  split at checked
  · rename_i violation _
    cases checked
    exact ⟨violation, rfl⟩
  · split at checked
    · rename_i index _
      cases checked
      exact ⟨.foreignReference index, rfl⟩
    · contradiction

namespace Breaks

variable {context : Context σ} {proc : Proc σ} {cont : HostCont σ} {origin : CallError}

theorem stepClosure_eq (breaks : context.Breaks cont.signature proc origin) :
    context.stepClosure proc cont = context.finishClosure (.error origin) cont := by
  cases breaks with
  | refuses refusal => rfl
  | violates checked => rw [stepClosure, checked]

theorem kind_eq {signature : Signature} (breaks : context.Breaks signature proc origin) :
    origin.kind = .host ∨ origin.kind = .contract := by
  cases breaks with
  | refuses refusal => exact .inl rfl
  | violates checked =>
      obtain ⟨violation, rfl⟩ := checkSlots_eq_error checked
      exact .inr rfl

end Breaks

end Context

/-- How the failure of a closure, at a point of a run, is shown outside of an entry. -/
structure Attributed (origin : CallError) (layers : Nat) (entry : Entry σ) (point : Run σ) :
    Prop where
  /-- It comes out of the entry, with one refusal around it for each closure that passed
  it on. -/
  unwinds : entry.FailsWith (origin.within layers) point
  /-- A call of the embedder that came to this point returns it. -/
  called : entry = .call .embedder → ∀ {begun : Context σ} {func : FuncHandle}
    {args : List Val} {bound : Nat},
    Context.run bound (begun.beginCall func args .embedder).1
      (begun.beginCall func args .embedder).2 = point →
        ∃ after, begun.Outcome func args .embedder
          (.returned (.error (origin.within layers)) after) ∧
            ((begun.call func args).1 ≠ .unfinished →
              begun.call func args = (.answered (.error (origin.within layers)), after))
  /-- A link of the embedder whose start function came to this point is trapped with it. -/
  linked : entry = .start .embedder → ∀ {begun : Context σ} {artifact : Artifact}
    {items : List Item} {bound : Nat},
    Context.run bound (begun.beginLink artifact items .embedder).1
      (begun.beginLink artifact items .embedder).2 = point →
        (begun.link artifact items).1 ≠ .unfinished →
          ∃ after, begun.link artifact items =
            (.answered (.error (.trapped (origin.within layers))), after)
  /-- A call and a link that its way goes through take it out of the error of the engine that
  wraps it, whatever the engine added to that error. -/
  recovered : ∀ {reached : Nat} {raised : EngineError}, raised.Wraps (origin.within reached) →
    CallError.ofEngine raised = origin.within reached ∧
      LinkError.ofEngine raised = .trapped (origin.within reached)
  /-- So the same comes out of the entry, whatever the engine adds to the error on the way. -/
  rewrapped : ∀ {below : GuestCont σ} {reached left : Nat}, GuestCont.Above entry below left →
    ∀ {raised : EngineError}, raised.Wraps (origin.within reached) → ∀ after : Context σ,
      entry.FailsWith (origin.within (reached + left)) (after, .raising raised below)
  /-- It is classed as what it was, if only guest code waits between, and as a refusal
  otherwise. -/
  kind : (origin.within layers).kind = .host ∨
    layers = 0 ∧ (origin.within layers).kind = .contract

/-- Whatever guest code and closures that pass failures on wait between a closure and an
entry, the failure of the closure comes out of the entry as itself, with one refusal
around it for each of these closures. -/
theorem Context.Breaks.attributed {context : Context σ} {proc : Proc σ} {cont : HostCont σ}
    {origin : CallError} {entry : Entry σ} {layers : Nat}
    (breaks : context.Breaks cont.signature proc origin)
    (waits : HostCont.Above entry cont layers) :
    Attributed origin layers entry (context, .closure proc cont) := by
  have unwinds : entry.FailsWith (origin.within layers) (context, .closure proc cont) := by
    refine .of_step (fun _ _ => not_false) (congrArg some breaks.stepClosure_eq) ?_
    exact waits.failsWith context origin
  refine ⟨unwinds, ?called, ?linked, ?recovered, ?rewrapped, ?kind⟩
  case called =>
    rintro rfl begun func args bound reached
    obtain ⟨after, ends⟩ := unwinds
    have begunEnds := Ends.of_run reached ends
    obtain ⟨later, finished⟩ := begunEnds.run_called
    refine ⟨after, ?_, Context.call_of_run finished⟩
    -- A call that is refused does not come to a closure.
    cases checked : begun.checkCall func args with
    | ok entry => exact .counted checked begunEnds
    | error error =>
        have refused : begun.beginCall func args .embedder = (begun, .called (.error error)) := by
          simp only [Context.beginCall, checked, Context.deliverCall]
        rw [refused, Context.run_of_halted rfl] at reached
        cases reached
  case linked =>
    rintro rfl begun artifact items bound reached ends
    obtain ⟨later, after, delivered⟩ := unwinds
    have finished : Context.run (bound + later) (begun.beginLink artifact items .embedder).1
        (begun.beginLink artifact items .embedder).2 =
          (after, .linked (.error (.trapped (origin.within layers)))) := by
      rw [Context.run_add, reached]
      exact delivered
    exact ⟨after, Context.link_of_run finished ends⟩
  case recovered =>
    intro reached raised wraps
    exact ⟨CallError.ofEngine_of_wraps wraps, LinkError.ofEngine_of_wraps wraps⟩
  case rewrapped =>
    intro below reached left waitsBelow raised wraps after
    rw [CallError.within_add]
    exact waitsBelow.failsWith after wraps
  case kind =>
    cases layers with
    | zero => exact breaks.kind_eq.imp (fun isHost => isHost) fun isContract => ⟨rfl, isContract⟩
    | succ layers => exact .inl rfl

/-! ## A closure that calls into guest code -/

namespace Nested

/-- A module that imports a function and exports one that calls it. -/
def artifact : Artifact where
  environment := ⟨0⟩
  serial := 0
  module :=
    { types := [⟨[], []⟩]
      imports := [⟨"env", "f", .func ⟨[], []⟩⟩]
      funcs := [⟨⟨[], []⟩, [], [.call 0]⟩]
      exports := [⟨"g", .func 1⟩] }
  digest := []
  surface := ⟨[⟨"env", "f", .func .empty⟩], [⟨"g", .func .empty⟩]⟩
  surface_eq := rfl

def fresh : Context Unit := .create ⟨0⟩ { id := ⟨0⟩, config := {} } ()

/-- The refusal that all begins with. -/
def refusal : HostError := .failed "no"

/-- A call of the function `g`, and what the closure goes on with. -/
def passOn : Except CallError (List Val) → Proc Unit
  | .ok _ => .finish Slots.empty
  | .error error => .fail (.ofCall error)

/-- A context with a closure that refuses, guest code that calls it, and a closure that
calls the guest code and passes its failures on. -/
def context : Context Unit :=
  let refusing := (fresh.createFunc .empty fun _ => .fail refusal).2
  let linked := (refusing.beginLink artifact [.func ⟨⟨0⟩, 0⟩] .embedder).1
  let shown := (linked.lookup ⟨⟨0⟩, 0⟩ "g").2
  (shown.createFunc .empty fun _ => .call ⟨⟨0⟩, 1⟩ [] passOn).2

theorem passOn_passesOn : PassesOn passOn :=
  fun _ => .fail

end Nested

/-- The refusal comes out of the guest code as it is, and out of the closure that called
the guest code with one refusal around it. -/
theorem Context.Breaks.attributed_of_nested : ∃ bound after proc cont,
    Context.run bound (Nested.context.beginCall ⟨⟨0⟩, 2⟩ [] .embedder).1
      (Nested.context.beginCall ⟨⟨0⟩, 2⟩ [] .embedder).2 = (after, .closure proc cont) ∧
      after.Breaks cont.signature proc (.host Nested.refusal) ∧
        HostCont.Above (.call .embedder) cont 1 ∧
          Attributed (.host Nested.refusal) 1 (.call .embedder) (after, .closure proc cont) ∧
            (Nested.context.call ⟨⟨0⟩, 2⟩ []).1 =
              .answered (.error (.host (.ofCall (.host Nested.refusal)))) := by
  refine ⟨6, _, .fail Nested.refusal, _, rfl, .refuses _, ?waits,
    Context.Breaks.attributed (.refuses _) ?waits, rfl⟩
  case waits =>
    exact .imported _ (.frame _ (.called _ _ Nested.passOn_passesOn (.entered ..)))

end WasmSandbox
