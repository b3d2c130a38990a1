import WasmSandbox.Context.Call
import WasmSandbox.Proofs.Context.Steps

/-!
Contract: closures that call one another come to an end.

Owns:
- runs that settle: after some steps they are over, or are at an instruction of guest
  code;
- that every steady run settles.

A closure is a finite tree of interactions, but each call starts another closure, which
may be the same one again.  Such calls end since each is one more call in progress, up to
the greatest number of them.  A closure that is run as a start function is no call in
progress; there the budget of instances is what gets less.

Does not own: guest code, which may run for ever.
-/

namespace WasmSandbox

open Wasm

variable {σ : Type}

/-- A run is at an instruction of guest code. -/
def RunState.InGuest : RunState σ → Prop
  | .guest _ _ => True
  | _ => False

namespace Context

/-- After some steps a run is over, or is at an instruction of guest code. -/
def Settles (run : Run σ) : Prop :=
  ∃ bound, (Context.run bound run.1 run.2).2.InGuest ∨
    (Context.run bound run.1 run.2).1.step (Context.run bound run.1 run.2).2 = none

theorem settles_of_step {context : Context σ} {state : RunState σ} {run : Run σ}
    (stepped : context.step state = some run) (settles : Settles run) :
    Settles (context, state) := by
  obtain ⟨bound, settled⟩ := settles
  refine ⟨bound + 1, ?_⟩
  simp only [Context.run, stepped]
  exact settled

theorem settles_of_halted {context : Context σ} {state : RunState σ}
    (halted : context.step state = none) : Settles (context, state) :=
  ⟨0, .inr halted⟩

/-! ## What waits settles -/

/-- Wherever a closure that something waits for ends, the run settles. -/
def EndsClosure (context : Context σ) (cont : HostCont σ) : Prop :=
  ∀ after result, Extends context after → Steady (after.finishClosure result cont) →
    Settles (after.finishClosure result cont)

/-- Wherever guest code that something waits for ends, the run settles. -/
structure EndsGuest (context : Context σ) (cont : GuestCont σ) : Prop where
  returning : ∀ after values, Extends context after → Steady (after, .returning values cont) →
    Settles (after, .returning values cont)
  raising : ∀ after error, Extends context after → Steady (after, .raising error cont) →
    Settles (after, .raising error cont)

/-- Wherever a call that something waits for ends, the run settles. -/
def EndsCall (context : Context σ) (wait : CallWait σ) : Prop :=
  ∀ after result, Extends context after → Steady (after.deliverCall result wait) →
    Settles (after.deliverCall result wait)

/-- Wherever a link that something waits for ends, the run settles. -/
def EndsLink (context : Context σ) (wait : LinkWait σ) : Prop :=
  ∀ after result, Extends context after → Steady (after.deliverLink result wait) →
    Settles (after.deliverLink result wait)

section

variable {context : Context σ}

private theorem leaving_settles {wait : CallWait σ} (ends : EndsCall context wait)
    {after : Context σ} (extension : Extends context after) {func : FuncHandle}
    {signature : Signature} {result : Except CallError (List Val)}
    (steady : Steady (after, .leaving func signature result wait)) :
    Settles (after, .leaving func signature result wait) := by
  have stepped : after.step (.leaving func signature result wait) =
      some (after.endCall result wait) := rfl
  apply settles_of_step stepped
  exact ends _ result ⟨extension.id, extension.environment, extension.store, extension.entry,
    extension.inst⟩ (steady.step stepped).1

theorem EndsCall.endsClosure {wait : CallWait σ} (ends : EndsCall context wait)
    (func : FuncHandle) (signature : Signature) :
    EndsClosure context (.called func signature wait) :=
  fun _ _ extension steady => leaving_settles ends extension steady

theorem EndsGuest.endsClosure {below : GuestCont σ} (ends : EndsGuest context below)
    (signature : Signature) : EndsClosure context (.imported signature below) := by
  intro after result extension steady
  cases result with
  | error error => exact ends.raising after _ extension steady
  | ok values =>
      simp only [finishClosure] at steady ⊢
      cases lowered : values.mapM after.lower with
      | error error =>
          rw [lowered] at steady
          exact ends.raising after _ extension steady
      | ok values =>
          rw [lowered] at steady
          exact ends.returning after values extension steady

theorem EndsGuest.frame {below : GuestCont σ} (ends : EndsGuest context below)
    (activation : Activation) : EndsGuest context (.frame activation below) where
  returning := fun after values _ _ => by
    have stepped : after.step (.returning values (.frame activation below)) =
        some (after, .guest (activation.receive values) below) := rfl
    exact settles_of_step stepped ⟨0, .inl trivial⟩
  raising := fun after error extension steady => by
    have stepped : after.step (.raising error (.frame activation below)) =
        some (after, .raising (error.traced after.config.captureBacktraces) below) := rfl
    exact settles_of_step stepped (ends.raising after _ extension (steady.step stepped).1)

theorem EndsCall.endsGuest {wait : CallWait σ} (ends : EndsCall context wait)
    (func : FuncHandle) (signature : Signature) :
    EndsGuest context (.called func signature wait) where
  returning := fun after values extension steady => by
    have stepped : after.step (.returning values (.called func signature wait)) =
        some ((after.liftAll values signature.results).2,
          .leaving func signature (after.liftAll values signature.results).1 wait) := rfl
    obtain ⟨further, later⟩ := steady.step stepped
    exact settles_of_step stepped (leaving_settles ends (extension.trans later) further)
  raising := fun after error extension steady => by
    have stepped : after.step (.raising error (.called func signature wait)) =
        some (after, .leaving func signature (.error (.ofEngine error)) wait) := rfl
    exact settles_of_step stepped (leaving_settles ends extension (steady.step stepped).1)

theorem EndsLink.endsGuest {wait : LinkWait σ} (ends : EndsLink context wait)
    (made : InstanceEntry) : EndsGuest context (.starting made wait) where
  returning := fun after values extension steady => by
    have stepped : after.step (.returning values (.starting made wait)) =
        some ((after.addInstance made).2.deliverLink (.ok (after.addInstance made).1) wait) := rfl
    apply settles_of_step stepped
    have hosts : after.store.Hosts made := steady.fits (.start made) (List.mem_cons_self ..)
    have grows := steady.sound.addInstance_grows hosts
    exact ends _ _ (extension.trans grows.extension) (steady.step stepped).1
  raising := fun after error extension steady => by
    have stepped : after.step (.raising error (.starting made wait)) =
        some (after.deliverLink (.error (.ofEngine error)) wait) := rfl
    exact settles_of_step stepped (ends after _ extension (steady.step stepped).1)

theorem endsCall_embedder : EndsCall context .embedder :=
  fun _ _ _ _ => settles_of_halted rfl

theorem endsLink_embedder : EndsLink context .embedder :=
  fun _ _ _ _ => settles_of_halted rfl

/-! ## What waits, in later contexts -/

variable {after : Context σ} (later : Extends context after)
include later

theorem EndsClosure.mono {cont : HostCont σ} (ends : EndsClosure context cont) :
    EndsClosure after cont :=
  fun last result extension => ends last result (later.trans extension)

theorem EndsGuest.mono {cont : GuestCont σ} (ends : EndsGuest context cont) :
    EndsGuest after cont where
  returning := fun last values extension => ends.returning last values (later.trans extension)
  raising := fun last error extension => ends.raising last error (later.trans extension)

theorem EndsCall.mono {wait : CallWait σ} (ends : EndsCall context wait) : EndsCall after wait :=
  fun last result extension => ends last result (later.trans extension)

theorem EndsLink.mono {wait : LinkWait σ} (ends : EndsLink context wait) : EndsLink after wait :=
  fun last result extension => ends last result (later.trans extension)

end

/-! ## Closures settle -/

/-- How many more calls can be in progress. -/
def room (context : Context σ) : Nat := context.config.maxCallDepth.toNat - context.depth

/-- How many more instances can be made. -/
def budget (context : Context σ) : Nat :=
  context.config.maxInstances.toNat - context.store.instancesUsed

theorem Extends.budget_le {context after : Context σ} (extension : Extends context after) :
    after.budget ≤ context.budget := by
  unfold budget
  rw [extension.config_eq]
  exact Nat.sub_le_sub_left extension.store.used _

theorem Extends.room_eq {context after : Context σ} (extension : Extends context after)
    (sameDepth : after.depth = context.depth) : after.room = context.room := by
  unfold room
  rw [extension.config_eq, sameDepth]

/-- Closures settle that run in a later context of some kind, whatever waits for them. -/
def ClosuresSettle (context : Context σ) (less : Context σ → Prop) : Prop :=
  ∀ after proc cont, Extends context after → less after → EndsClosure after cont →
    Steady (after, .closure proc cont) → Settles (after, .closure proc cont)

section

variable {context : Context σ}

/-- A function of the engine that is about to run settles, if the closure does that it
may be. -/
private theorem entering_settles {cont : GuestCont σ} (ends : EndsGuest context cont)
    {func : FuncKey} {args : List Value} (steady : Steady (context, .entering func args cont))
    (closures : ClosuresSettle context fun after => after.depth = context.depth) :
    Settles (context, .entering func args cont) := by
  have stepped : context.step (.entering func args cont) =
      some (context.enterEngine func args cont) := rfl
  obtain ⟨further, later⟩ := steady.step stepped
  apply settles_of_step stepped
  revert further later
  unfold enterEngine
  split
  · rename_i host called
    have grows := (steady.sound.liftAll_grows args host.signature.params).1
    generalize context.liftAll args host.signature.params = out at grows
    obtain ⟨outcome, after⟩ := out
    intro further later
    cases outcome with
    | error error => exact ends.raising after _ later further
    | ok values =>
        have started : after.step (.invoking host.body values (.imported host.signature cont)) =
            some (after, .closure (host.body values) (.imported host.signature cont)) := rfl
        exact settles_of_step started (closures after _ _ later grows.depth
          ((ends.mono later).endsClosure host.signature) (further.step started).1)
  · split
    · rename_i owner code called room
      rw [onStore_eq]
      simp only [Activation.enter]
      split
      · intro further later
        exact ends.raising _ _ later further
      · intro further later
        exact ⟨0, .inl trivial⟩
    · intro further later
      exact ends.raising _ _ later further
  · intro further later
    exact ends.raising _ _ later further

/-- A call that begins settles, if closures do that run with one more call in progress. -/
private theorem beginCall_settles {wait : CallWait σ} (ends : EndsCall context wait)
    {func : FuncHandle} {args : List Val} (steady : Steady (context.beginCall func args wait))
    (closures : context.depth < context.config.maxCallDepth.toNat →
      ClosuresSettle context fun after => after.depth = context.depth + 1) :
    Settles (context.beginCall func args wait) := by
  revert steady
  unfold beginCall
  cases checked : context.checkCall func args with
  | error error =>
      intro steady
      exact ends context _ (.refl context) steady
  | ok entry =>
      obtain ⟨-, -, -, below⟩ := (context.checkCall_eq_ok_iff func args entry).1 checked
      have counted : Extends context { context with depth := context.depth + 1 } :=
        ⟨rfl, rfl, .refl _, fun found => found, fun found => found⟩
      simp only
      cases context.hostBody? entry with
      | some body =>
          intro steady
          have started : Context.step { context with depth := context.depth + 1 }
              (.invoking body args (.called func entry.signature wait)) =
              some (_, .closure (body args) (.called func entry.signature wait)) := rfl
          exact settles_of_step started (closures below _ _ _ counted rfl
            ((ends.mono counted).endsClosure func entry.signature) (steady.step started).1)
      | none =>
          simp only
          cases args.mapM context.lower with
          | error error =>
              intro steady
              exact leaving_settles ends counted steady
          | ok values =>
              intro steady
              apply entering_settles ((ends.mono counted).endsGuest func entry.signature) steady
              intro after proc cont extension sameDepth
              exact closures below after proc cont (counted.trans extension) sameDepth

/-- A link that begins settles, if closures do that run with less budget. -/
private theorem beginLink_settles {wait : LinkWait σ} (ends : EndsLink context wait)
    {artifact : Artifact} {items : List Item}
    (steady : Steady (context.beginLink artifact items wait)) (sound : context.Sound)
    (closures : ClosuresSettle context fun after =>
      after.budget < context.budget ∧ after.depth = context.depth) :
    Settles (context.beginLink artifact items wait) := by
  revert steady
  unfold beginLink
  split
  · intro steady
    exact ends context _ (.refl context) steady
  · cases resolved : context.resolveImports artifact items with
    | error error =>
        intro steady
        exact ends context _ (.refl context) steady
    | ok externs =>
        have result := instantiate_instantiated context.store artifact.module externs
        obtain ⟨grows, hosts⟩ := sound.instantiate_grows resolved result
        simp only [onStore_eq]
        generalize instantiate context.store artifact.module externs = out at grows hosts result
        obtain ⟨outcome, store⟩ := out
        cases outcome with
        | error failure =>
            intro steady
            exact ends _ _ grows.extension steady
        | ok owner =>
            simp only
            cases artifact.module.start with
            | none =>
                intro steady
                have added := grows.sound.addInstance_grows (hosts owner rfl)
                exact ends _ _ (grows.extension.trans added.extension) steady
            | some index =>
                intro steady
                apply entering_settles ((ends.mono grows.extension).endsGuest _) steady
                intro after proc cont extension sameDepth
                refine closures after proc cont (grows.extension.trans extension) ⟨?_, sameDepth⟩
                have less : budget { context with store := store } < context.budget := by
                  obtain ⟨left, used⟩ := result.used_of_ok
                  unfold budget
                  rw [grows.extension.config_eq, used]
                  unfold config
                  omega
                exact Nat.lt_of_le_of_lt extension.budget_le less

end

/-- A closure settles: by induction on the budget that is left, then on the calls that
can still be in progress, and then on what is left of the closure. -/
private theorem closure_settles (budgetBound roomBound : Nat) :
    ∀ (proc : Proc σ) (context : Context σ) (cont : HostCont σ), context.budget ≤ budgetBound →
      context.room ≤ roomBound → EndsClosure context cont → Steady (context, .closure proc cont) →
        Settles (context, .closure proc cont) := by
  induction budgetBound using Nat.strongRecOn generalizing roomBound with
  | _ budgetBound lessBudget =>
  induction roomBound using Nat.strongRecOn with
  | _ roomBound lessRoom =>
  intro proc
  induction proc with
  | finish slots =>
      intro context cont _ _ ends steady
      have stepped : context.step (.closure (.finish slots) cont) =
          some (context.finishClosure (context.checkSlots cont.signature slots) cont) := rfl
      exact settles_of_step stepped (ends context _ (.refl context) (steady.step stepped).1)
  | fail error =>
      intro context cont _ _ ends steady
      have stepped : context.step (.closure (.fail error) cont) =
          some (context.finishClosure (.error (.host error)) cont) := rfl
      exact settles_of_step stepped (ends context _ (.refl context) (steady.step stepped).1)
  | panic =>
      intro context cont _ _ _ _
      have stepped : context.step (.closure .panic cont) = some (context, .panicked) := rfl
      exact settles_of_step stepped (settles_of_halted rfl)
  | ask request next rest =>
      intro context cont inBudget inRoom ends steady
      cases answered : context.answer request with
      | panicked =>
          have stepped : context.step (.closure (.ask request next) cont) =
              some (context, .panicked) := by
            simp only [step, stepClosure, answered]
          exact settles_of_step stepped (settles_of_halted rfl)
      | answered out =>
          obtain ⟨answer, after⟩ := out
          have stepped : context.step (.closure (.ask request next) cont) =
              some (after, .closure (next answer) cont) := by
            simp only [step, stepClosure, answered]
          obtain ⟨further, extension⟩ := steady.step stepped
          have sameDepth := (steady.sound.answer_grows answered).1.depth
          exact settles_of_step stepped (rest answer after cont
            (Nat.le_trans extension.budget_le inBudget)
            (by rw [extension.room_eq sameDepth]; exact inRoom) (ends.mono extension) further)
  | register signature body next _ rest =>
      intro context cont inBudget inRoom ends steady
      have stepped : context.step (.closure (.register signature body next) cont) =
          some ((context.createFunc signature body).2,
            .closure (next (context.createFunc signature body).1) cont) := rfl
      obtain ⟨further, extension⟩ := steady.step stepped
      exact settles_of_step stepped (rest _ _ cont (Nat.le_trans extension.budget_le inBudget)
        (by rw [extension.room_eq rfl]; exact inRoom) (ends.mono extension) further)
  | call func args next rest =>
      intro context cont inBudget inRoom ends steady
      have counted := steady.depth_of_closure
      have stepped : context.step (.closure (.call func args next) cont) =
          some (context.beginCall func args (.closure next cont)) := rfl
      apply settles_of_step stepped
      apply beginCall_settles _ (steady.step stepped).1
      -- One more call is in progress in the closure that is called, so there is room for
      -- fewer.
      · intro below after proc other extension deeper otherEnds further
        have lessThan : after.room < roomBound := by
          unfold room at inRoom ⊢
          rw [extension.config_eq, deeper]
          omega
        exact lessRoom after.room lessThan proc after other
          (Nat.le_trans extension.budget_le inBudget) (Nat.le_refl _) otherEnds further
      -- When the call is back there is as much room as before, but less is left of this
      -- closure.
      · intro after result extension further
        have sameDepth : after.depth = context.depth :=
          (Steady.depth_of_closure further).trans counted.symm
        exact rest result after cont (Nat.le_trans extension.budget_le inBudget)
          (by rw [extension.room_eq sameDepth]; exact inRoom) (ends.mono extension) further
  | link artifact items next rest =>
      intro context cont inBudget inRoom ends steady
      have counted := steady.depth_of_closure
      have stepped : context.step (.closure (.link artifact items next) cont) =
          some (context.beginLink artifact items (.closure next cont)) := rfl
      apply settles_of_step stepped
      apply beginLink_settles _ (steady.step stepped).1 steady.sound
      -- A start function runs only after its instance took a unit of the budget.
      · intro after proc other extension less otherEnds further
        exact lessBudget after.budget (Nat.lt_of_lt_of_le less.1 inBudget) after.room proc after
          other (Nat.le_refl _) (Nat.le_refl _) otherEnds further
      · intro after result extension further
        have sameDepth : after.depth = context.depth :=
          (Steady.depth_of_closure further).trans counted.symm
        exact rest result after cont (Nat.le_trans extension.budget_le inBudget)
          (by rw [extension.room_eq sameDepth]; exact inRoom) (ends.mono extension) further

/-! ## Runs settle -/

mutual

private theorem endsClosure (context : Context σ) : (cont : HostCont σ) → EndsClosure context cont
  | .called func signature wait => (endsCall context wait).endsClosure func signature
  | .imported signature below => (endsGuest context below).endsClosure signature

private theorem endsGuest (context : Context σ) : (cont : GuestCont σ) → EndsGuest context cont
  | .frame activation below => (endsGuest context below).frame activation
  | .called func signature wait => (endsCall context wait).endsGuest func signature
  | .starting made wait => (endsLink context wait).endsGuest made

private theorem endsCall (context : Context σ) : (wait : CallWait σ) → EndsCall context wait
  | .embedder => endsCall_embedder
  | .closure next below => fun after result extension steady =>
      closure_settles _ _ (next result) after below (Nat.le_refl _) (Nat.le_refl _)
        ((endsClosure context below).mono extension) steady

private theorem endsLink (context : Context σ) : (wait : LinkWait σ) → EndsLink context wait
  | .embedder => endsLink_embedder
  | .closure next below => fun after result extension steady =>
      closure_settles _ _ (next result) after below (Nat.le_refl _) (Nat.le_refl _)
        ((endsClosure context below).mono extension) steady

end

private theorem steady_settles {context : Context σ} {state : RunState σ}
    (steady : Steady (context, state)) : Settles (context, state) := by
  have closures (after : Context σ) (proc : Proc σ) (cont : HostCont σ)
      (further : Steady (after, .closure proc cont)) : Settles (after, .closure proc cont) :=
    closure_settles _ _ proc after cont (Nat.le_refl _) (Nat.le_refl _) (endsClosure after cont)
      further
  have same := Extends.refl context
  cases state with
  | invoking body args cont =>
      have stepped : context.step (.invoking body args cont) =
          some (context, .closure (body args) cont) := rfl
      exact settles_of_step stepped (closures _ _ _ (steady.step stepped).1)
  | closure proc cont => exact closures context proc cont steady
  | guest activation cont => exact ⟨0, .inl trivial⟩
  | entering func args cont =>
      exact entering_settles (endsGuest context cont) steady
        fun after proc other _ _ _ further => closures after proc other further
  | returning values cont => exact (endsGuest context cont).returning context values same steady
  | raising error cont => exact (endsGuest context cont).raising context error same steady
  | leaving func signature result wait => exact leaving_settles (endsCall context wait) same steady
  | called result => exact settles_of_halted rfl
  | linked result => exact settles_of_halted rfl
  | panicked => exact settles_of_halted rfl

end Context

/-- Every steady run is over after some steps, or at an instruction of guest code. -/
theorem Steady.settles {context : Context σ} {state : RunState σ}
    (steady : Steady (context, state)) : Context.Settles (context, state) :=
  Context.steady_settles steady

end WasmSandbox
