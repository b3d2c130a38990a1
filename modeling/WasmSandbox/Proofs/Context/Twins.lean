import WasmSandbox.Proofs.Context.Outcome

/-!
Contract: runs that differ only in what waits for one closure.

Owns:
- twins: what waits, and states of runs, that are the same but for what waits for one
  closure at the bottom;
- that twin runs go on in the same way, step by step and in the same context, until
  they finish that closure with the same result.

What waits has no influence on a run but for the signature of the innermost closure, and
for the number of activations, which counts towards the stack.

Does not own: how a run goes on once the closure is finished.
-/

namespace WasmSandbox

open Wasm

variable {σ : Type}

/-! ## Twins -/

mutual

/-- The same but for `other` in the place of `base` at the bottom. -/
inductive HostCont.Twin (base other : HostCont σ) : HostCont σ → HostCont σ → Prop where
  | base : HostCont.Twin base other base other
  | called (func : FuncHandle) (signature : Signature) {wait twin : CallWait σ}
      (waits : CallWait.Twin base other wait twin) :
      HostCont.Twin base other (.called func signature wait) (.called func signature twin)
  | imported (signature : Signature) {below twin : GuestCont σ}
      (waits : GuestCont.Twin base other below twin) :
      HostCont.Twin base other (.imported signature below) (.imported signature twin)

/-- The same but for `other` in the place of `base` at the bottom. -/
inductive GuestCont.Twin (base other : HostCont σ) : GuestCont σ → GuestCont σ → Prop where
  | frame (activation : Activation) {below twin : GuestCont σ}
      (waits : GuestCont.Twin base other below twin) :
      GuestCont.Twin base other (.frame activation below) (.frame activation twin)
  | called (func : FuncHandle) (signature : Signature) {wait twin : CallWait σ}
      (waits : CallWait.Twin base other wait twin) :
      GuestCont.Twin base other (.called func signature wait) (.called func signature twin)
  | starting (made : InstanceEntry) {wait twin : LinkWait σ}
      (waits : LinkWait.Twin base other wait twin) :
      GuestCont.Twin base other (.starting made wait) (.starting made twin)

/-- The same but for `other` in the place of `base` at the bottom. -/
inductive CallWait.Twin (base other : HostCont σ) : CallWait σ → CallWait σ → Prop where
  | closure (next : Except CallError (List Val) → Proc σ) {below twin : HostCont σ}
      (waits : HostCont.Twin base other below twin) :
      CallWait.Twin base other (.closure next below) (.closure next twin)

/-- The same but for `other` in the place of `base` at the bottom. -/
inductive LinkWait.Twin (base other : HostCont σ) : LinkWait σ → LinkWait σ → Prop where
  | closure (next : Except LinkError InstanceHandle → Proc σ) {below twin : HostCont σ}
      (waits : HostCont.Twin base other below twin) :
      LinkWait.Twin base other (.closure next below) (.closure next twin)

end

variable {base other : HostCont σ}

/-! ## Both ways -/

mutual

theorem HostCont.Twin.symm : {cont twin : HostCont σ} →
    HostCont.Twin base other cont twin → HostCont.Twin other base twin cont
  | _, _, .base => .base
  | _, _, .called func signature waits => .called func signature waits.symm
  | _, _, .imported signature waits => .imported signature waits.symm

theorem GuestCont.Twin.symm : {cont twin : GuestCont σ} →
    GuestCont.Twin base other cont twin → GuestCont.Twin other base twin cont
  | _, _, .frame activation waits => .frame activation waits.symm
  | _, _, .called func signature waits => .called func signature waits.symm
  | _, _, .starting made waits => .starting made waits.symm

theorem CallWait.Twin.symm : {wait twin : CallWait σ} →
    CallWait.Twin base other wait twin → CallWait.Twin other base twin wait
  | _, _, .closure next waits => .closure next waits.symm

theorem LinkWait.Twin.symm : {wait twin : LinkWait σ} →
    LinkWait.Twin base other wait twin → LinkWait.Twin other base twin wait
  | _, _, .closure next waits => .closure next waits.symm

end

/-! ## What twins have in common -/

mutual

private theorem hostLevel_eq (levels : base.level = other.level) : {cont twin : HostCont σ} →
    HostCont.Twin base other cont twin → cont.level = twin.level
  | _, _, .base => levels
  | _, _, .called _ _ waits => callLevel_eq levels waits
  | _, _, .imported _ waits => guestLevel_eq levels waits

private theorem guestLevel_eq (levels : base.level = other.level) : {cont twin : GuestCont σ} →
    GuestCont.Twin base other cont twin → cont.level = twin.level
  | _, _, .frame _ _ => rfl
  | _, _, .called _ _ waits => callLevel_eq levels waits
  | _, _, .starting _ waits => linkLevel_eq levels waits

private theorem callLevel_eq (levels : base.level = other.level) : {wait twin : CallWait σ} →
    CallWait.Twin base other wait twin → wait.level = twin.level
  | _, _, .closure _ waits => hostLevel_eq levels waits

private theorem linkLevel_eq (levels : base.level = other.level) : {wait twin : LinkWait σ} →
    LinkWait.Twin base other wait twin → wait.level = twin.level
  | _, _, .closure _ waits => hostLevel_eq levels waits

end

mutual

/-- What waits under the closure at the bottom is under all that waits. -/
theorem HostCont.Twin.frames_suffix : {cont twin : HostCont σ} →
    HostCont.Twin base other cont twin → base.frames <:+ cont.frames
  | _, _, .base => List.suffix_refl _
  | _, _, .called _ _ waits => waits.frames_suffix.trans (List.suffix_cons _ _)
  | _, _, .imported _ waits => waits.frames_suffix

theorem GuestCont.Twin.frames_suffix : {cont twin : GuestCont σ} →
    GuestCont.Twin base other cont twin → base.frames <:+ cont.frames
  | _, _, .frame _ waits => waits.frames_suffix
  | _, _, .called _ _ waits => waits.frames_suffix.trans (List.suffix_cons _ _)
  | _, _, .starting _ waits => waits.frames_suffix.trans (List.suffix_cons _ _)

theorem CallWait.Twin.frames_suffix : {wait twin : CallWait σ} →
    CallWait.Twin base other wait twin → base.frames <:+ wait.frames
  | _, _, .closure _ waits => waits.frames_suffix

theorem LinkWait.Twin.frames_suffix : {wait twin : LinkWait σ} →
    LinkWait.Twin base other wait twin → base.frames <:+ wait.frames
  | _, _, .closure _ waits => waits.frames_suffix

end

/-! ## Twin runs -/

/-- The same states of runs but for what waits for one closure. -/
inductive RunState.Twin (base other : HostCont σ) : RunState σ → RunState σ → Prop where
  | invoking (body : Closure σ) (args : List Val) {cont twin : HostCont σ}
      (waits : HostCont.Twin base other cont twin) :
      Twin base other (.invoking body args cont) (.invoking body args twin)
  | closure (proc : Proc σ) {cont twin : HostCont σ} (waits : HostCont.Twin base other cont twin) :
      Twin base other (.closure proc cont) (.closure proc twin)
  | guest (activation : Activation) {cont twin : GuestCont σ}
      (waits : GuestCont.Twin base other cont twin) :
      Twin base other (.guest activation cont) (.guest activation twin)
  | entering (func : FuncKey) (args : List Value) {cont twin : GuestCont σ}
      (waits : GuestCont.Twin base other cont twin) :
      Twin base other (.entering func args cont) (.entering func args twin)
  | returning (values : List Value) {cont twin : GuestCont σ}
      (waits : GuestCont.Twin base other cont twin) :
      Twin base other (.returning values cont) (.returning values twin)
  | raising (error : EngineError) {cont twin : GuestCont σ}
      (waits : GuestCont.Twin base other cont twin) :
      Twin base other (.raising error cont) (.raising error twin)
  | leaving (func : FuncHandle) (signature : Signature) (result : Except CallError (List Val))
      {wait twin : CallWait σ} (waits : CallWait.Twin base other wait twin) :
      Twin base other (.leaving func signature result wait) (.leaving func signature result twin)
  | panicked : Twin base other .panicked .panicked

theorem RunState.Twin.symm {state twin : RunState σ} (twins : Twin base other state twin) :
    Twin other base twin state := by
  cases twins with
  | panicked => exact .panicked
  | invoking body args waits => exact .invoking body args waits.symm
  | closure proc waits => exact .closure proc waits.symm
  | guest activation waits => exact .guest activation waits.symm
  | entering func args waits => exact .entering func args waits.symm
  | returning values waits => exact .returning values waits.symm
  | raising error waits => exact .raising error waits.symm
  | leaving func signature result waits => exact .leaving func signature result waits.symm

/-- A result of a closure has, if it is a list of values, one of the declared kind for
each result of the signature. -/
def Signature.HonouredBy (signature : Signature) (result : Except CallError (List Val)) : Prop :=
  ∀ values, result = .ok values → values.map Val.kind = signature.results

/-- Twin states in the same context. -/
structure TwinRuns (base other : HostCont σ) (run twin : Run σ) : Prop where
  context : twin.1 = run.1
  state : RunState.Twin base other run.2 twin.2

namespace Context

variable {context : Context σ}

theorem deliverCall_twin (result : Except CallError (List Val)) {wait twin : CallWait σ}
    (waits : CallWait.Twin base other wait twin) :
    TwinRuns base other (context.deliverCall result wait) (context.deliverCall result twin) := by
  cases waits with
  | closure next waits => exact ⟨rfl, .closure (next result) waits⟩

theorem deliverLink_twin (result : Except LinkError InstanceHandle) {wait twin : LinkWait σ}
    (waits : LinkWait.Twin base other wait twin) :
    TwinRuns base other (context.deliverLink result wait) (context.deliverLink result twin) := by
  cases waits with
  | closure next waits => exact ⟨rfl, .closure (next result) waits⟩

theorem beginCall_twin (func : FuncHandle) (args : List Val) {wait twin : CallWait σ}
    (waits : CallWait.Twin base other wait twin) :
    TwinRuns base other (context.beginCall func args wait) (context.beginCall func args twin) := by
  unfold beginCall
  cases context.checkCall func args with
  | error error => exact deliverCall_twin _ waits
  | ok entry =>
      simp only
      cases context.hostBody? entry with
      | some body => exact ⟨rfl, .invoking body args (.called func entry.signature waits)⟩
      | none =>
          simp only
          cases args.mapM context.lower with
          | error error => exact ⟨rfl, .leaving func entry.signature _ waits⟩
          | ok values =>
              exact ⟨rfl, .entering entry.key values (.called func entry.signature waits)⟩

theorem finishLink_twin (made : InstanceEntry) {wait twin : LinkWait σ}
    (waits : LinkWait.Twin base other wait twin) :
    TwinRuns base other (context.finishLink made wait) (context.finishLink made twin) :=
  deliverLink_twin _ waits

theorem beginLink_twin (artifact : Artifact) (items : List Item) {wait twin : LinkWait σ}
    (waits : LinkWait.Twin base other wait twin) :
    TwinRuns base other (context.beginLink artifact items wait)
      (context.beginLink artifact items twin) := by
  unfold beginLink
  split
  · exact deliverLink_twin _ waits
  · cases context.resolveImports artifact items with
    | error error => exact deliverLink_twin _ waits
    | ok externs =>
        simp only [onStore_eq]
        cases (instantiate context.store artifact.module externs).1 with
        | error failure => exact deliverLink_twin _ waits
        | ok owner =>
            simp only
            cases artifact.module.start with
            | none => exact finishLink_twin _ waits
            | some index => exact ⟨rfl, .entering _ [] (.starting ⟨owner, artifact⟩ waits)⟩

theorem afterAdvance_twin (advance : Advance) {cont twin : GuestCont σ}
    (waits : GuestCont.Twin base other cont twin) :
    TwinRuns base other (context.afterAdvance cont advance)
      (context.afterAdvance twin advance) := by
  cases advance with
  | running activation => exact ⟨rfl, .guest activation waits⟩
  | calling func args activation => exact ⟨rfl, .entering func args (.frame activation waits)⟩
  | handingOver func args => exact ⟨rfl, .entering func args waits⟩
  | returning values => exact ⟨rfl, .returning values waits⟩
  | halted halt =>
      cases halt with
      | fault fault => exact ⟨rfl, .raising _ waits⟩
      | stuck => exact ⟨rfl, .raising _ waits⟩

/-- The number of activations counts towards the stack, and is the same for twins. -/
theorem enterEngine_twin (levels : base.level = other.level) (func : FuncKey)
    (args : List Value) {cont twin : GuestCont σ} (waits : GuestCont.Twin base other cont twin) :
    TwinRuns base other (context.enterEngine func args cont)
      (context.enterEngine func args twin) := by
  unfold enterEngine
  rw [← guestLevel_eq levels waits]
  split
  · rename_i host called
    cases context.liftAll args host.signature.params with
    | mk outcome after =>
        cases outcome with
        | error error => exact ⟨rfl, .raising _ waits⟩
        | ok args => exact ⟨rfl, .invoking host.body args (.imported host.signature waits)⟩
  · split
    · exact afterAdvance_twin _ waits
    · exact ⟨rfl, .raising _ waits⟩
  · exact ⟨rfl, .raising _ waits⟩

theorem stepReturning_twin (values : List Value) {cont twin : GuestCont σ}
    (waits : GuestCont.Twin base other cont twin) :
    TwinRuns base other (context.stepReturning values cont)
      (context.stepReturning values twin) := by
  cases waits with
  | frame activation waits => exact ⟨rfl, .guest (activation.receive values) waits⟩
  | called func signature waits => exact ⟨rfl, .leaving func signature _ waits⟩
  | starting made waits => exact finishLink_twin made waits

theorem stepRaising_twin (error : EngineError) {cont twin : GuestCont σ}
    (waits : GuestCont.Twin base other cont twin) :
    TwinRuns base other (context.stepRaising error cont) (context.stepRaising error twin) := by
  cases waits with
  | frame activation waits => exact ⟨rfl, .raising _ waits⟩
  | called func signature waits => exact ⟨rfl, .leaving func signature _ waits⟩
  | starting made waits => exact deliverLink_twin _ waits

/-! ## The end of the closure -/

/-- Where the steps of twins lead: to twins, or to the end of the closure at the bottom. -/
inductive TwinSteps (base other : HostCont σ) (context : Context σ) : Run σ → Run σ → Prop where
  | twins {run twin : Run σ} (runs : TwinRuns base other run twin) :
      TwinSteps base other context run twin
  | finished (result : Except CallError (List Val)) (honours : base.signature.HonouredBy result) :
      TwinSteps base other context (context.finishClosure result base)
        (context.finishClosure result other)

theorem finishClosure_twin {result : Except CallError (List Val)} {cont twin : HostCont σ}
    (waits : HostCont.Twin base other cont twin) (honours : cont.signature.HonouredBy result) :
    TwinSteps base other context (context.finishClosure result cont)
      (context.finishClosure result twin) := by
  cases waits with
  | base => exact .finished result honours
  | called func signature waits => exact .twins ⟨rfl, .leaving func signature result waits⟩
  | imported signature waits =>
      cases result with
      | error error => exact .twins ⟨rfl, .raising _ waits⟩
      | ok values =>
          simp only [finishClosure]
          cases values.mapM context.lower with
          | error error => exact .twins ⟨rfl, .raising _ waits⟩
          | ok values => exact .twins ⟨rfl, .returning values waits⟩

/-- The signature by which results are checked is the same for twins. -/
theorem stepClosure_twin (signatures : base.signature = other.signature) (proc : Proc σ)
    {cont twin : HostCont σ} (waits : HostCont.Twin base other cont twin) :
    TwinSteps base other context (context.stepClosure proc cont)
      (context.stepClosure proc twin) := by
  have sameSignature : twin.signature = cont.signature := by
    cases waits with
    | base => exact signatures.symm
    | called => rfl
    | imported => rfl
  cases proc with
  | finish slots =>
      simp only [stepClosure, sameSignature]
      exact finishClosure_twin waits fun values checked => (checkSlots_eq_ok checked).2.1
  | fail error => exact finishClosure_twin waits (by simp [Signature.HonouredBy])
  | panic => exact .twins ⟨rfl, .panicked⟩
  | ask request next =>
      simp only [stepClosure]
      cases context.answer request with
      | panicked => exact .twins ⟨rfl, .panicked⟩
      | answered out => exact .twins ⟨rfl, .closure (next out.1) waits⟩
  | register signature body next => exact .twins ⟨rfl, .closure (next _) waits⟩
  | call func args next => exact .twins (beginCall_twin func args (.closure next waits))
  | link artifact items next => exact .twins (beginLink_twin artifact items (.closure next waits))

/-- Twins take the same step, up to the end of the closure at the bottom. -/
theorem step_twin (levels : base.level = other.level)
    (signatures : base.signature = other.signature) {state twin : RunState σ} {run : Run σ}
    (twins : RunState.Twin base other state twin) (stepped : context.step state = some run) :
    ∃ twinRun, context.step twin = some twinRun ∧ TwinSteps base other context run twinRun := by
  cases twins with
  | panicked => contradiction
  | invoking body args waits =>
      cases stepped
      exact ⟨_, rfl, .twins ⟨rfl, .closure (body args) waits⟩⟩
  | closure proc waits =>
      cases stepped
      exact ⟨_, rfl, stepClosure_twin signatures proc waits⟩
  | guest activation waits =>
      cases stepped
      exact ⟨_, rfl, .twins (afterAdvance_twin _ waits)⟩
  | entering func args waits =>
      cases stepped
      exact ⟨_, rfl, .twins (enterEngine_twin levels func args waits)⟩
  | returning values waits =>
      cases stepped
      exact ⟨_, rfl, .twins (stepReturning_twin values waits)⟩
  | raising error waits =>
      cases stepped
      exact ⟨_, rfl, .twins (stepRaising_twin error waits)⟩
  | leaving func signature result waits =>
      cases stepped
      exact ⟨_, rfl, .twins (deliverCall_twin result waits)⟩

end Context

/-! ## Ends -/

/-- What waits under the closure at the bottom is not what a run returns to before that
closure is finished. -/
theorem RunState.Twin.stays {state twin : RunState σ} (twins : Twin base other state twin)
    {wait : CallWait σ} (under : wait.frames.length < base.frames.length) :
    ¬state.Leaves wait := by
  cases twins with
  | leaving func signature result waits =>
      rintro rfl
      exact absurd waits.frames_suffix.length_le (Nat.not_le_of_lt under)
  | _ => exact not_false

/-- A run that ends has a twin that panics in the same context, or the two finish the
closure at the bottom in the same context and with the same result. -/
theorem Ends.twin {wait : CallWait σ} {run twin : Run σ} {ending : CallEnd σ}
    (ends : Ends wait run ending) (runs : TwinRuns base other run twin)
    (levels : base.level = other.level) (signatures : base.signature = other.signature)
    (under : wait.frames.length < base.frames.length)
    (otherUnder : wait.frames.length < other.frames.length) (sound : (Stage.ofRun run).Sound) :
    (∃ last, ending = .panicked last ∧ Ends wait twin (.panicked last)) ∨
      ∃ (last : Context σ) (result : Except CallError (List Val)), last.Sound ∧
        base.signature.HonouredBy result ∧
          Ends wait (last.finishClosure result base) ending ∧
            ∀ twinEnding, Ends wait (last.finishClosure result other) twinEnding →
              Ends wait twin twinEnding := by
  induction ends generalizing twin with
  | returned context func signature result =>
      -- No return comes before the closure at the bottom is finished.
      exact absurd rfl (runs.state.stays under)
  | panicked context =>
      obtain ⟨twinContext, twinState⟩ := twin
      obtain ⟨sameContext, twins⟩ := runs
      simp only at sameContext twins
      cases twins with
      | panicked =>
          rw [sameContext]
          exact .inl ⟨context, rfl, .panicked context⟩
  | @step context state next ending stays stepped ends inductionHypothesis =>
      obtain ⟨twinContext, twinState⟩ := twin
      obtain ⟨rfl, twins⟩ := runs
      simp only at twins stepped
      have twinStays := twins.symm.stays otherUnder
      have continues := sound.context.step_continues sound.fits stepped
      obtain ⟨twinNext, twinStepped, steps⟩ := Context.step_twin levels signatures twins stepped
      cases steps with
      | twins further =>
          rcases inductionHypothesis further ⟨continues.sound, continues.fits⟩ with
            ⟨last, panics, twinPanics⟩ | ⟨last, result, lastSound, honours, finishes, twinEnds⟩
          · exact .inl ⟨last, panics, .step twinStays twinStepped twinPanics⟩
          · exact .inr ⟨last, result, lastSound, honours, finishes, fun twinEnding twinFinishes =>
              .step twinStays twinStepped (twinEnds twinEnding twinFinishes)⟩
      | finished result honours =>
          exact .inr ⟨_, result, sound.context, honours, ends, fun twinEnding twinFinishes =>
            .step twinStays twinStepped twinFinishes⟩

end WasmSandbox
