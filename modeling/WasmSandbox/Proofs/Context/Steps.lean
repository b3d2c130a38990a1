import Mathlib.Data.List.ReduceOption
import WasmSandbox.Context.Machine
import WasmSandbox.Proofs.Context.Growth

/-!
Contract: what one step of a run does to its context and to what waits.

Owns:
- the frames of a run: the counted calls and the starting instances that wait;
- what fits a context: frames of functions with their signatures, and of instances
  that the engine has;
- what a call is checked for before it is counted, and the slots of a closure that ends;
- that a step keeps a context sound, keeps what waits fitting it, and changes the number
  of calls in progress with the number of counted calls that wait, within its bound.

Does not own: runs of many steps, and what the embedder does between them.
-/

namespace WasmSandbox

open Wasm

/-! ## Frames -/

/-- Something that waits: a call that was counted, or an instance whose start function
runs. -/
inductive Frame where
  | call (func : FuncHandle) (signature : Signature)
  | start (made : InstanceEntry)

mutual

/-- What waits under a closure, the innermost first. -/
def HostCont.frames {σ : Type} : HostCont σ → List Frame
  | .called func signature wait => .call func signature :: wait.frames
  | .imported _ below => below.frames

/-- What waits under guest code. -/
def GuestCont.frames {σ : Type} : GuestCont σ → List Frame
  | .frame _ below => below.frames
  | .called func signature wait => .call func signature :: wait.frames
  | .starting made wait => .start made :: wait.frames

/-- What waits under a call. -/
def CallWait.frames {σ : Type} : CallWait σ → List Frame
  | .embedder => []
  | .closure _ below => below.frames

/-- What waits under a link. -/
def LinkWait.frames {σ : Type} : LinkWait σ → List Frame
  | .embedder => []
  | .closure _ below => below.frames

end

/-- What waits in a run. -/
def RunState.frames {σ : Type} : RunState σ → List Frame
  | .invoking _ _ cont => cont.frames
  | .closure _ cont => cont.frames
  | .guest _ cont => cont.frames
  | .entering _ _ cont => cont.frames
  | .returning _ cont => cont.frames
  | .raising _ cont => cont.frames
  | .leaving func signature _ wait => .call func signature :: wait.frames
  | .called _ => []
  | .linked _ => []
  | .panicked => []

mutual

/-- Under a closure waits a counted call, or the start of an instance. -/
theorem HostCont.frames_ne_nil {σ : Type} : (cont : HostCont σ) → cont.frames ≠ []
  | .called _ _ _ => List.cons_ne_nil _ _
  | .imported _ below => below.frames_ne_nil

theorem GuestCont.frames_ne_nil {σ : Type} : (cont : GuestCont σ) → cont.frames ≠ []
  | .frame _ below => below.frames_ne_nil
  | .called _ _ _ => List.cons_ne_nil _ _
  | .starting _ _ => List.cons_ne_nil _ _

end

/-- The number of calls that were counted, among what waits. -/
def callCount : List Frame → Nat
  | [] => 0
  | .call _ _ :: rest => callCount rest + 1
  | .start _ :: rest => callCount rest

namespace Context

variable {σ : Type} {context : Context σ}

/-- A counted call is one of a function with its signature; an instance that starts is
one that the engine has. -/
def Fits (context : Context σ) : Frame → Prop
  | .call func signature => context.signature? func = some signature
  | .start made => context.store.Hosts made

theorem Fits.mono {after : Context σ} {frame : Frame} (fits : context.Fits frame)
    (extension : Extends context after) : after.Fits frame := by
  cases frame with
  | call func signature => exact extension.signature?_eq_some fits
  | start made => exact Store.Hosts.mono fits extension.store

/-- No more calls are in progress than there may be. -/
def InDepth (context : Context σ) : Prop := context.depth ≤ context.config.maxCallDepth.toNat

/-- Where a run goes on from a context in which `frames` wait. -/
structure Continues (context : Context σ) (frames : List Frame) (run : Run σ) : Prop where
  sound : run.1.Sound
  extension : Extends context run.1
  fits : ∀ frame ∈ run.2.frames, run.1.Fits frame
  bounded : context.InDepth → run.1.InDepth
  counted : context.depth = callCount frames → run.2 ≠ .panicked →
    run.1.depth = callCount run.2.frames

theorem Grows.inDepth {after : Context σ} (grows : Grows context after)
    (bounded : context.InDepth) : after.InDepth := by
  unfold InDepth
  rw [grows.depth, grows.extension.config_eq]
  exact bounded

theorem Grows.continues {middle : Context σ} {frames : List Frame} {run : Run σ}
    (grows : Grows context middle) (later : Continues middle frames run) :
    Continues context frames run where
  sound := later.sound
  extension := grows.extension.trans later.extension
  fits := later.fits
  bounded := fun bounded => later.bounded (grows.inDepth bounded)
  counted := fun counted => later.counted (grows.depth.trans counted)

theorem Grows.fits {after : Context σ} {frames : List Frame} (grows : Grows context after)
    (fits : ∀ frame ∈ frames, context.Fits frame) : ∀ frame ∈ frames, after.Fits frame :=
  fun frame member => (fits frame member).mono grows.extension

/-- A run that goes on in the same context, with the same that waits. -/
theorem Sound.continues_same (sound : context.Sound) (state : RunState σ)
    (fits : ∀ frame ∈ state.frames, context.Fits frame) :
    Continues context state.frames (context, state) where
  sound := sound
  extension := .refl context
  fits := fits
  bounded := fun bounded => bounded
  counted := fun counted _ => counted

/-- A run that goes on in a context that came about, with the same that waits. -/
theorem Grows.continues_same {after : Context σ} (grows : Grows context after)
    (state : RunState σ) (fits : ∀ frame ∈ state.frames, context.Fits frame) :
    Continues context state.frames (after, state) :=
  grows.continues (grows.sound.continues_same state (grows.fits fits))

theorem Sound.continues_panicked (sound : context.Sound) (frames : List Frame) :
    Continues context frames (context, .panicked) where
  sound := sound
  extension := .refl context
  fits := by simp [RunState.frames]
  bounded := fun bounded => bounded
  counted := fun _ running => absurd rfl running

/-! ## What is handed over -/

theorem deliverCall_context (context : Context σ) (result : Except CallError (List Val))
    (wait : CallWait σ) : (context.deliverCall result wait).1 = context := by
  cases wait <;> rfl

theorem deliverLink_context (context : Context σ) (result : Except LinkError InstanceHandle)
    (wait : LinkWait σ) : (context.deliverLink result wait).1 = context := by
  cases wait <;> rfl

theorem afterAdvance_context (context : Context σ) (cont : GuestCont σ) (advance : Advance) :
    (context.afterAdvance cont advance).1 = context := by
  cases advance with
  | halted halt => cases halt <;> rfl
  | _ => rfl

theorem finishClosure_context (context : Context σ) (result : Except CallError (List Val))
    (cont : HostCont σ) : (context.finishClosure result cont).1 = context := by
  cases cont with
  | called func signature wait => rfl
  | imported signature below =>
      cases result with
      | error error => rfl
      | ok values =>
          simp only [finishClosure]
          cases values.mapM context.lower <;> rfl

theorem endCall_context (context : Context σ) (result : Except CallError (List Val))
    (wait : CallWait σ) :
    (context.endCall result wait).1 = { context with depth := context.depth - 1 } :=
  deliverCall_context _ result wait

/-! ## Ends -/

section

variable (sound : context.Sound)
include sound

theorem Sound.deliverCall_continues {wait : CallWait σ}
    (fits : ∀ frame ∈ wait.frames, context.Fits frame) (result : Except CallError (List Val)) :
    Continues context wait.frames (context.deliverCall result wait) := by
  cases wait with
  | embedder => exact sound.continues_same (.called result) fits
  | closure next below => exact sound.continues_same (.closure (next result) below) fits

theorem Sound.deliverLink_continues {wait : LinkWait σ}
    (fits : ∀ frame ∈ wait.frames, context.Fits frame)
    (result : Except LinkError InstanceHandle) :
    Continues context wait.frames (context.deliverLink result wait) := by
  cases wait with
  | embedder => exact sound.continues_same (.linked result) fits
  | closure next below => exact sound.continues_same (.closure (next result) below) fits

/-- The end of a counted call takes back the count of its frame. -/
theorem Sound.endCall_continues {wait : CallWait σ}
    (fits : ∀ frame ∈ wait.frames, context.Fits frame) (result : Except CallError (List Val))
    (func : FuncHandle) (signature : Signature) :
    Continues context (.call func signature :: wait.frames) (context.endCall result wait) := by
  let ended : Context σ := { context with depth := context.depth - 1 }
  have soundEnded : ended.Sound := sound
  have waiting : ∀ frame ∈ wait.frames, ended.Fits frame := by
    intro frame member
    cases frame <;> exact fits _ member
  have delivered := soundEnded.deliverCall_continues waiting result
  have fewer : context.InDepth → ended.InDepth := Nat.le_trans (Nat.sub_le ..)
  refine ⟨delivered.sound, ?_, delivered.fits, fun bounded => delivered.bounded (fewer bounded), ?_⟩
  · have extension := delivered.extension
    exact ⟨extension.id, extension.environment, extension.store, extension.entry, extension.inst⟩
  · intro counted running
    apply delivered.counted _ running
    change context.depth - 1 = callCount wait.frames
    rw [counted, callCount, Nat.add_sub_cancel]

theorem Sound.finishLink_continues {made : InstanceEntry} {wait : LinkWait σ}
    (hosts : context.store.Hosts made) (fits : ∀ frame ∈ wait.frames, context.Fits frame) :
    Continues context wait.frames (context.finishLink made wait) := by
  have grows := sound.addInstance_grows hosts
  exact grows.continues (grows.sound.deliverLink_continues (grows.fits fits) _)

theorem Sound.finishClosure_continues {cont : HostCont σ}
    (fits : ∀ frame ∈ cont.frames, context.Fits frame) (result : Except CallError (List Val)) :
    Continues context cont.frames (context.finishClosure result cont) := by
  cases cont with
  | called func signature wait =>
      exact sound.continues_same (.leaving func signature result wait) fits
  | imported signature below =>
      cases result with
      | error error => exact sound.continues_same (.raising _ below) fits
      | ok values =>
          simp only [finishClosure]
          cases values.mapM context.lower with
          | error error => exact sound.continues_same (.raising _ below) fits
          | ok values => exact sound.continues_same (.returning values below) fits

end

/-! ## Calls -/

/-- What the call routine checks before it counts a call. -/
theorem checkCall_eq_ok_iff (context : Context σ) (func : FuncHandle) (args : List Val)
    (entry : FuncEntry) :
    context.checkCall func args = .ok entry ↔
      context.funcEntry? func = some entry ∧ args.map Val.kind = entry.signature.params ∧
        (∀ value ∈ args, value.belongsTo context.id = true) ∧
          context.depth < context.config.maxCallDepth.toNat := by
  unfold checkCall
  cases found : context.funcEntry? func with
  | none => simp
  | some known =>
      simp only [Option.some.injEq]
      cases fits : known.signature.checkParams (args.map Val.kind) with
      | error mismatch =>
          constructor
          · intro accepted
            contradiction
          · rintro ⟨rfl, kinds, -, -⟩
            rw [(known.signature.checkParams_eq_ok_iff _).2 kinds] at fits
            contradiction
      | ok accepted =>
          have kinds := (known.signature.checkParams_eq_ok_iff _).1 fits
          simp only
          by_cases foreign : (args.any fun value => !value.belongsTo context.id) = true
          · rw [if_pos foreign]
            obtain ⟨value, member, outside⟩ := List.any_eq_true.1 foreign
            constructor
            · intro accepted
              contradiction
            · rintro ⟨-, -, own, -⟩
              rw [own value member] at outside
              contradiction
          · rw [if_neg foreign]
            have own : ∀ value ∈ args, value.belongsTo context.id = true := by
              simpa using foreign
            by_cases deep : context.depth ≥ context.config.maxCallDepth.toNat
            · rw [if_pos deep]
              constructor
              · intro accepted
                contradiction
              · rintro ⟨-, -, -, room⟩
                omega
            · rw [if_neg deep]
              constructor
              · intro same
                have same := Except.ok.inj same
                exact ⟨same, same ▸ kinds, own, by omega⟩
              · rintro ⟨rfl, -⟩
                rfl

/-- A call that is refused is over at once. -/
theorem beginCall_of_refused {func : FuncHandle} {args : List Val} {error : CallError}
    (checked : context.checkCall func args = .error error) (wait : CallWait σ) :
    context.beginCall func args wait = context.deliverCall (.error error) wait := by
  rw [beginCall, checked]

/-! ## Results of closures -/

/-- Slots that have kinds hold values of these kinds. -/
theorem filled_of_kinds {written : List (Option Val)} {kinds : List ValueKind}
    (fits : (written.map fun slot => slot.map Val.kind) = kinds.map some) :
    ∃ values : List Val, written = values.map some ∧ values.map Val.kind = kinds := by
  induction written generalizing kinds with
  | nil =>
      cases kinds with
      | nil => exact ⟨[], rfl, rfl⟩
      | cons kind kinds => simp at fits
  | cons slot rest inductionHypothesis =>
      cases kinds with
      | nil => simp at fits
      | cons kind kinds =>
          simp only [List.map_cons, List.cons.injEq] at fits
          obtain ⟨value, isSlot, sameKind⟩ := Option.map_eq_some_iff.1 fits.1
          obtain ⟨values, others, otherKinds⟩ := inductionHypothesis fits.2
          exact ⟨value :: values, by rw [isSlot, others]; rfl,
            by rw [List.map_cons, sameKind, otherKinds]⟩

theorem reduceOption_map_some (values : List Val) :
    (values.map some).reduceOption = values := by
  induction values with
  | nil => exact List.reduceOption_nil
  | cons value rest inductionHypothesis =>
      rw [List.map_cons, List.reduceOption_cons_of_some, inductionHypothesis]

/-- Slots that pass the check hold the values of the result. -/
theorem checkSlots_eq_ok {signature : Signature} {slots : Slots} {values : List Val}
    (checked : context.checkSlots signature slots = .ok values) :
    (List.range signature.results.length).map slots = values.map some ∧
      values.map Val.kind = signature.results ∧
        ∀ value ∈ values, value.belongsTo context.id = true := by
  unfold checkSlots at checked
  generalize (List.range signature.results.length).map slots = written at checked
  simp only at checked
  cases fits : signature.checkResults (written.map fun slot => slot.map Val.kind) with
  | error violation =>
      rw [fits] at checked
      contradiction
  | ok accepted =>
      have kinds := (signature.checkResults_eq_ok_iff _).1 fits
      rw [fits] at checked
      simp only at checked
      split at checked
      · contradiction
      · rename_i own
        cases checked
        rw [List.findIdx?_eq_none_iff] at own
        obtain ⟨values, rfl, valueKinds⟩ := filled_of_kinds kinds
        rw [reduceOption_map_some]
        refine ⟨rfl, valueKinds, ?_⟩
        intro value member
        simpa using own (some value) (List.mem_map_of_mem member)

/-! ## Counted calls -/

section

variable (sound : context.Sound)
include sound

/-- A call that is counted waits on top of what waits for it. -/
private theorem counted_continues {wait : CallWait σ} {func : FuncHandle} {signature : Signature}
    {state : RunState σ} (frames : state.frames = .call func signature :: wait.frames)
    (called : context.signature? func = some signature)
    (room : context.depth < context.config.maxCallDepth.toNat)
    (fits : ∀ frame ∈ wait.frames, context.Fits frame) :
    Continues context wait.frames ({ context with depth := context.depth + 1 }, state) where
  sound := sound
  extension := ⟨rfl, rfl, .refl _, fun found => found, fun found => found⟩
  fits := by
    intro frame member
    rw [frames] at member
    rcases List.mem_cons.1 member with isCall | waiting
    · rw [isCall]
      exact called
    · have fitting := fits frame waiting
      cases frame <;> exact fitting
  bounded := fun _ => room
  counted := by
    intro counted running
    rw [frames]
    exact congrArg Nat.succ counted

theorem Sound.beginCall_continues (wait : CallWait σ)
    (fits : ∀ frame ∈ wait.frames, context.Fits frame) (func : FuncHandle) (args : List Val) :
    Continues context wait.frames (context.beginCall func args wait) := by
  unfold beginCall
  cases checked : context.checkCall func args with
  | error error => exact sound.deliverCall_continues fits _
  | ok entry =>
      obtain ⟨found, -, -, room⟩ := (context.checkCall_eq_ok_iff func args entry).1 checked
      have called : context.signature? func = some entry.signature := by
        rw [signature?, found]
        rfl
      simp only
      cases context.hostBody? entry with
      | some body => exact counted_continues sound rfl called room fits
      | none =>
          simp only
          cases args.mapM context.lower with
          | error error => exact counted_continues sound rfl called room fits
          | ok values => exact counted_continues sound rfl called room fits

/-! ## Guest code -/

omit sound in
theorem onStore_eq {α : Type} (context : Context σ)
    (step : Wasm.Store (Closure σ) → α × Wasm.Store (Closure σ)) :
    context.onStore step =
      ((step context.store).1, { context with store := (step context.store).2 }) :=
  rfl

theorem Sound.afterAdvance_continues {cont : GuestCont σ}
    (fits : ∀ frame ∈ cont.frames, context.Fits frame) (advance : Advance) :
    Continues context cont.frames (context.afterAdvance cont advance) := by
  cases advance with
  | running activation => exact sound.continues_same (.guest activation cont) fits
  | calling func args activation =>
      exact sound.continues_same (.entering func args (.frame activation cont)) fits
  | handingOver func args => exact sound.continues_same (.entering func args cont) fits
  | returning values => exact sound.continues_same (.returning values cont) fits
  | halted halt =>
      cases halt with
      | fault fault => exact sound.continues_same (.raising _ cont) fits
      | stuck => exact sound.continues_same (.raising _ cont) fits

theorem Sound.enterEngine_continues {cont : GuestCont σ}
    (fits : ∀ frame ∈ cont.frames, context.Fits frame) (func : FuncKey) (args : List Value) :
    Continues context cont.frames (context.enterEngine func args cont) := by
  unfold enterEngine
  split
  · rename_i host called
    have lifted := (sound.liftAll_grows args host.signature.params).1
    generalize context.liftAll args host.signature.params = out at lifted
    obtain ⟨outcome, after⟩ := out
    cases outcome with
    | error error => exact lifted.continues_same (.raising _ cont) fits
    | ok args =>
        exact lifted.continues_same
          (.invoking host.body args (.imported host.signature cont)) fits
  · rename_i owner code called
    split
    · rw [onStore_eq]
      have grows := sound.keeps_grows
        (Activation.enter_touched context.store owner cont.level code args).keeps
      exact grows.continues (grows.sound.afterAdvance_continues (grows.fits fits) _)
    · exact sound.continues_same (.raising _ cont) fits
  · exact sound.continues_same (.raising _ cont) fits

/-! ## Links -/

theorem Sound.beginLink_continues (wait : LinkWait σ)
    (fits : ∀ frame ∈ wait.frames, context.Fits frame) (artifact : Artifact)
    (items : List Item) :
    Continues context wait.frames (context.beginLink artifact items wait) := by
  unfold beginLink
  split
  · exact sound.deliverLink_continues fits _
  · cases resolved : context.resolveImports artifact items with
    | error error => exact sound.deliverLink_continues fits _
    | ok externs =>
        have result := instantiate_instantiated context.store artifact.module externs
        obtain ⟨grows, hosts⟩ := sound.instantiate_grows resolved result
        simp only [onStore_eq]
        generalize instantiate context.store artifact.module externs = out at grows hosts
        obtain ⟨outcome, store⟩ := out
        cases outcome with
        | error failure =>
            exact grows.continues (grows.sound.deliverLink_continues (grows.fits fits) _)
        | ok owner =>
            have hosted := hosts owner rfl
            simp only
            cases artifact.module.start with
            | none =>
                exact grows.continues (grows.sound.finishLink_continues hosted (grows.fits fits))
            | some index =>
                refine ⟨grows.sound, grows.extension, ?_, grows.inDepth, fun counted _ => counted⟩
                intro frame member
                rcases List.mem_cons.1 member with isStart | waiting
                · rw [isStart]
                  exact hosted
                · exact grows.fits fits frame waiting

/-! ## Steps -/

theorem Sound.stepClosure_continues {cont : HostCont σ}
    (fits : ∀ frame ∈ cont.frames, context.Fits frame) (proc : Proc σ) :
    Continues context cont.frames (context.stepClosure proc cont) := by
  cases proc with
  | finish slots => exact sound.finishClosure_continues fits _
  | fail error => exact sound.finishClosure_continues fits _
  | panic => exact sound.continues_panicked _
  | ask request next =>
      simp only [stepClosure]
      cases answered : context.answer request with
      | panicked => exact sound.continues_panicked _
      | answered out =>
          obtain ⟨answer, after⟩ := out
          exact (sound.answer_grows answered).1.continues_same
            (.closure (next answer) cont) fits
  | register signature body next =>
      exact (sound.createFunc_grows signature body).continues_same
        (.closure (next _) cont) fits
  | call func args next =>
      exact sound.beginCall_continues (.closure next cont) fits func args
  | link artifact items next =>
      exact sound.beginLink_continues (.closure next cont) fits artifact items

theorem Sound.stepReturning_continues {cont : GuestCont σ}
    (fits : ∀ frame ∈ cont.frames, context.Fits frame) (values : List Value) :
    Continues context cont.frames (context.stepReturning values cont) := by
  cases cont with
  | frame activation below =>
      exact sound.continues_same (.guest (activation.receive values) below) fits
  | called func signature wait =>
      exact (sound.liftAll_grows values signature.results).1.continues_same
        (.leaving func signature _ wait) fits
  | starting made wait =>
      have waiting : ∀ frame ∈ wait.frames, context.Fits frame :=
        fun frame member => fits frame (List.mem_cons_of_mem _ member)
      have hosts : context.store.Hosts made := fits (.start made) (List.mem_cons_self ..)
      have finished := sound.finishLink_continues hosts waiting
      exact ⟨finished.sound, finished.extension, finished.fits, finished.bounded,
        finished.counted⟩

theorem Sound.stepRaising_continues {cont : GuestCont σ}
    (fits : ∀ frame ∈ cont.frames, context.Fits frame) (error : EngineError) :
    Continues context cont.frames (context.stepRaising error cont) := by
  cases cont with
  | frame activation below => exact sound.continues_same (.raising _ below) fits
  | called func signature wait =>
      exact sound.continues_same (.leaving func signature (.error (.ofEngine error)) wait) fits
  | starting made wait =>
      have waiting : ∀ frame ∈ wait.frames, context.Fits frame :=
        fun frame member => fits frame (List.mem_cons_of_mem _ member)
      have delivered := sound.deliverLink_continues waiting (.error (.ofEngine error))
      exact ⟨delivered.sound, delivered.extension, delivered.fits, delivered.bounded,
        delivered.counted⟩

/-- A step keeps the context sound, what waits fitting it, and the calls in progress
within their bound.  While nothing panics, their number stays that of the counted calls
that wait. -/
theorem Sound.step_continues {state : RunState σ} {run : Run σ}
    (fits : ∀ frame ∈ state.frames, context.Fits frame)
    (stepped : context.step state = some run) : Continues context state.frames run := by
  cases state with
  | invoking body args cont =>
      cases stepped
      exact sound.continues_same (.closure (body args) cont) fits
  | closure proc cont =>
      cases stepped
      exact sound.stepClosure_continues fits proc
  | guest activation cont =>
      cases stepped
      have grows := sound.keeps_grows (Activation.advance_touched activation context.store).keeps
      exact grows.continues (grows.sound.afterAdvance_continues (grows.fits fits) _)
  | entering func args cont =>
      cases stepped
      exact sound.enterEngine_continues fits func args
  | returning values cont =>
      cases stepped
      exact sound.stepReturning_continues fits values
  | raising error cont =>
      cases stepped
      exact sound.stepRaising_continues fits error
  | leaving func signature result wait =>
      cases stepped
      exact sound.endCall_continues (fun frame member => fits frame (List.mem_cons_of_mem _ member))
        result func signature
  | called result => contradiction
  | linked result => contradiction
  | panicked => contradiction

end

end Context

/-- A run whose context is sound, with a count of the calls in progress that is right,
unless it panicked. -/
structure Steady {σ : Type} (run : Run σ) : Prop where
  sound : run.1.Sound
  fits : ∀ frame ∈ run.2.frames, run.1.Fits frame
  counted : run.2 ≠ .panicked → run.1.depth = callCount run.2.frames

theorem Context.Continues.steady {σ : Type} {context : Context σ} {frames : List Frame}
    {run : Run σ} (continues : context.Continues frames run)
    (counted : context.depth = callCount frames) : Steady run :=
  ⟨continues.sound, continues.fits, continues.counted counted⟩

theorem Steady.depth_of_closure {σ : Type} {context : Context σ} {proc : Proc σ}
    {cont : HostCont σ} (steady : Steady (context, .closure proc cont)) :
    context.depth = callCount cont.frames :=
  steady.counted nofun

/-- A step of a steady run goes on steadily, and from a later context. -/
theorem Steady.step {σ : Type} {context : Context σ} {state : RunState σ} {run : Run σ}
    (steady : Steady (context, state)) (stepped : context.step state = some run) :
    Steady run ∧ context.Extends run.1 := by
  have running : state ≠ .panicked := by
    rintro rfl
    contradiction
  have continues := steady.sound.step_continues steady.fits stepped
  exact ⟨continues.steady (steady.counted running), continues.extension⟩

end WasmSandbox
