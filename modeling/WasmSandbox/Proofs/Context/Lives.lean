import WasmSandbox.Linker
import WasmSandbox.Proofs.Context.Steps

/-!
Contract: everything that can happen to a context, in any order.

Owns:
- stages of a context: it is idle, or a run of it is going on;
- the acts that lead from one stage to the next: what the embedder does with an idle
  context, a step of the run, and the end of the run, and all that each of them can do;
- lives: a fresh context, and any acts after it;
- that every stage of a life is sound, and that calls of the embedder, its programs
  and linkers only lead to stages of a life.

The embedder cannot reach a context while a run of it is going on: only closures can,
and their interactions are steps of the run.  A run that panicked may be given up, and
the context used on.

Does not own: what holds of lives beyond soundness.
-/

namespace WasmSandbox

open Wasm

namespace Context

variable {σ : Type} {context after : Context σ}

/-- The fuel can be set where it is metered, and nothing else changes with it. -/
theorem setFuel_eq_ok_iff {fuel : UInt64} :
    context.setFuel fuel = .ok after ↔ context.config.fuelLimit.isSome = true ∧
      after = { context with store := { context.store with fuel := some fuel.toNat } } := by
  unfold setFuel
  split
  · rename_i limit metered
    rw [metered, Except.ok.injEq, eq_comm]
    exact (and_iff_right rfl).symm
  · rename_i unmetered
    rw [unmetered]
    simp

/-- A run takes no more steps where nothing waits. -/
theorem step_eq_none_iff {state : RunState σ} :
    context.step state = none ↔ state.frames = [] := by
  constructor
  · intro ended
    cases state <;> first | rfl | contradiction
  · intro nothing
    cases state with
    | invoking body args cont => exact absurd nothing cont.frames_ne_nil
    | closure proc cont => exact absurd nothing cont.frames_ne_nil
    | guest activation cont => exact absurd nothing cont.frames_ne_nil
    | entering func args cont => exact absurd nothing cont.frames_ne_nil
    | returning values cont => exact absurd nothing cont.frames_ne_nil
    | raising error cont => exact absurd nothing cont.frames_ne_nil
    | leaving func signature result wait => exact absurd nothing (List.cons_ne_nil _ _)
    | called result => rfl
    | linked result => rfl
    | panicked => rfl

end Context

/-- A context that is idle, or that has a run going on. -/
structure Stage (σ : Type) where
  context : Context σ
  running : Option (RunState σ)

/-- What can happen at a stage. -/
inductive Act (σ : Type) where
  /-- The embedder asks something of an idle context. -/
  | ask (request : Request σ)
  /-- The embedder makes a host function. -/
  | register (signature : Signature) (body : Closure σ)
  /-- The embedder sets the fuel. -/
  | setFuel (fuel : UInt64)
  /-- The embedder calls a function. -/
  | call (func : FuncHandle) (args : List Val)
  /-- The embedder links an artifact. -/
  | link (artifact : Artifact) (items : List Item)
  /-- The run takes a step. -/
  | step
  /-- The run, which takes no more steps, is put aside. -/
  | close

namespace Stage

variable {σ : Type}

/-- The stage at which a run goes on. -/
def ofRun (run : Run σ) : Stage σ := ⟨run.1, some run.2⟩

/-- An idle context. -/
def idle (context : Context σ) : Stage σ := ⟨context, none⟩

/-- The stage after an act, if the act is possible.  An embedder's request that makes
the engine panic, and a setting that is refused, change nothing. -/
def take : Stage σ → Act σ → Option (Stage σ)
  | ⟨context, none⟩, .ask request =>
      match context.answer request with
      | .answered (_, after) => some (idle after)
      | .panicked => some (idle context)
  | ⟨context, none⟩, .register signature body => some (idle (context.createFunc signature body).2)
  | ⟨context, none⟩, .setFuel fuel =>
      match context.setFuel fuel with
      | .ok after => some (idle after)
      | .error _ => some (idle context)
  | ⟨context, none⟩, .call func args => some (ofRun (context.beginCall func args .embedder))
  | ⟨context, none⟩, .link artifact items =>
      some (ofRun (context.beginLink artifact items .embedder))
  | ⟨context, some state⟩, .step => (context.step state).map ofRun
  | ⟨context, some state⟩, .close =>
      if (context.step state).isNone then some (idle context) else none
  | _, _ => none

/-- All that an act can do. -/
inductive Does : Stage σ → Act σ → Stage σ → Prop where
  | answered {context after : Context σ} {request : Request σ} {answer : request.Answer}
      (answered : context.answer request = .answered (answer, after)) :
      Does ⟨context, none⟩ (.ask request) (.idle after)
  | unanswered {context : Context σ} {request : Request σ}
      (panicked : context.answer request = .panicked) :
      Does ⟨context, none⟩ (.ask request) (.idle context)
  | registered (context : Context σ) (signature : Signature) (body : Closure σ) :
      Does ⟨context, none⟩ (.register signature body)
        (.idle (context.createFunc signature body).2)
  | fuelSet {context after : Context σ} {fuel : UInt64}
      (set : context.setFuel fuel = .ok after) :
      Does ⟨context, none⟩ (.setFuel fuel) (.idle after)
  | fuelRefused {context : Context σ} {fuel : UInt64} {error : SandboxError}
      (refused : context.setFuel fuel = .error error) :
      Does ⟨context, none⟩ (.setFuel fuel) (.idle context)
  | called (context : Context σ) (func : FuncHandle) (args : List Val) :
      Does ⟨context, none⟩ (.call func args) (.ofRun (context.beginCall func args .embedder))
  | linked (context : Context σ) (artifact : Artifact) (items : List Item) :
      Does ⟨context, none⟩ (.link artifact items)
        (.ofRun (context.beginLink artifact items .embedder))
  | stepped {context : Context σ} {state : RunState σ} {run : Run σ}
      (stepped : context.step state = some run) :
      Does ⟨context, some state⟩ .step (.ofRun run)
  | closed {context : Context σ} {state : RunState σ} (ended : context.step state = none) :
      Does ⟨context, some state⟩ .close (.idle context)

theorem take_eq_some_iff {stage after : Stage σ} {act : Act σ} :
    stage.take act = some after ↔ stage.Does act after := by
  constructor
  · intro taken
    obtain ⟨context, running⟩ := stage
    cases running with
    | none =>
        cases act with
        | ask request =>
            simp only [take] at taken
            split at taken <;> cases taken
            · rename_i answered
              exact .answered answered
            · rename_i panicked
              exact .unanswered panicked
        | register signature body =>
            cases taken
            exact .registered context signature body
        | setFuel fuel =>
            simp only [take] at taken
            split at taken <;> cases taken
            · rename_i set
              exact .fuelSet set
            · rename_i refused
              exact .fuelRefused refused
        | call func args =>
            cases taken
            exact .called context func args
        | link artifact items =>
            cases taken
            exact .linked context artifact items
        | step => contradiction
        | close => contradiction
    | some state =>
        cases act with
        | step =>
            obtain ⟨run, stepped, rfl⟩ := Option.map_eq_some_iff.1 taken
            exact .stepped stepped
        | close =>
            simp only [take] at taken
            split at taken
            · rename_i ended
              cases taken
              exact .closed (Option.isNone_iff_eq_none.1 ended)
            · contradiction
        | _ => contradiction
  · intro does
    cases does with
    | answered answered => simp only [take, answered]
    | unanswered panicked => simp only [take, panicked]
    | registered context signature body => rfl
    | fuelSet set => simp only [take, set]
    | fuelRefused refused => simp only [take, refused]
    | called context func args => rfl
    | linked context artifact items => rfl
    | stepped stepped => simp only [take, stepped, Option.map_some]
    | closed ended => simp only [take, ended, Option.isNone_none, if_true]

/-- What an act leads to: the context is idle, or a run goes on. -/
inductive Taken (stage : Stage σ) : Act σ → Stage σ → Prop where
  | rests {act : Act σ} (context : Context σ) : Taken stage act (.idle context)
  | called (func : FuncHandle) (args : List Val) (isIdle : stage.running = none) :
      Taken stage (.call func args) (.ofRun (stage.context.beginCall func args .embedder))
  | linked (artifact : Artifact) (items : List Item) (isIdle : stage.running = none) :
      Taken stage (.link artifact items)
        (.ofRun (stage.context.beginLink artifact items .embedder))
  | stepped {state : RunState σ} {run : Run σ} (isRunning : stage.running = some state)
      (stepped : stage.context.step state = some run) : Taken stage .step (.ofRun run)

theorem taken_of_take {stage after : Stage σ} {act : Act σ} (taken : stage.take act = some after) :
    stage.Taken act after := by
  cases take_eq_some_iff.1 taken with
  | called context func args => exact .called func args rfl
  | linked context artifact items => exact .linked artifact items rfl
  | stepped stepped => exact .stepped rfl stepped
  | _ => exact .rests _

/-- What waits at a stage. -/
def frames (stage : Stage σ) : List Frame :=
  match stage.running with
  | some state => state.frames
  | none => []

/-- The run of a stage panicked. -/
def Panicked (stage : Stage σ) : Prop :=
  match stage.running with
  | some .panicked => True
  | _ => False

/-- The context is sound, and what waits fits it. -/
structure Sound (stage : Stage σ) : Prop where
  context : stage.context.Sound
  fits : ∀ frame ∈ stage.frames, stage.context.Fits frame

/-- What an act does to the context. -/
structure Leads (before after : Stage σ) : Prop where
  sound : after.Sound
  extension : Context.Extends before.context after.context
  bounded : before.context.InDepth → after.context.InDepth
  counted : before.context.depth = callCount before.frames → ¬after.Panicked →
    after.context.depth = callCount after.frames

private theorem leads_idle {context after : Context σ} (grows : Context.Grows context after) :
    Leads (idle context) (idle after) where
  sound := ⟨grows.sound, by simp [idle, frames]⟩
  extension := grows.extension
  bounded := grows.inDepth
  counted := fun counted _ => grows.depth.trans counted

private theorem leads_run {stage : Stage σ} {run : Run σ}
    (continues : stage.context.Continues stage.frames run) : Leads stage (ofRun run) where
  sound := ⟨continues.sound, continues.fits⟩
  extension := continues.extension
  bounded := continues.bounded
  counted := fun counted running => continues.counted counted fun panicked => by
    rw [Panicked, ofRun, panicked] at running
    exact running trivial

/-- Whatever the act, a sound stage leads to a sound stage, nothing gets lost, and the
calls in progress stay within their bound and in number with the counted calls that
wait. -/
theorem Sound.take_leads {stage after : Stage σ} (sound : stage.Sound) {act : Act σ}
    (taken : stage.take act = some after) : Leads stage after := by
  have soundContext : stage.context.Sound := sound.context
  cases take_eq_some_iff.1 taken with
  | answered answered => exact leads_idle (soundContext.answer_grows answered).1
  | unanswered _ => exact leads_idle soundContext.grows_refl
  | registered context signature body =>
      exact leads_idle (soundContext.createFunc_grows signature body)
  | fuelSet set =>
      obtain ⟨-, rfl⟩ := Context.setFuel_eq_ok_iff.1 set
      exact leads_idle (soundContext.keeps_grows ⟨rfl, rfl, fun _ => rfl, rfl, rfl, rfl⟩)
  | fuelRefused _ => exact leads_idle soundContext.grows_refl
  | called context func args =>
      exact leads_run (soundContext.beginCall_continues .embedder sound.fits func args)
  | linked context artifact items =>
      exact leads_run (soundContext.beginLink_continues .embedder sound.fits artifact items)
  | stepped stepped => exact leads_run (soundContext.step_continues sound.fits stepped)
  | @closed context state ended =>
      refine ⟨⟨soundContext, by simp [idle, frames]⟩, .refl context, fun bounded => bounded, ?_⟩
      intro counted running
      exact counted.trans (congrArg callCount (Context.step_eq_none_iff.1 ended))

end Stage

/-- The stages that a fresh context can come to, each with all stages before it and
what happened there, the latest first. -/
inductive Life {σ : Type} (fresh : Context σ) : List (Stage σ × Act σ) → Stage σ → Prop where
  | created : Life fresh [] (.idle fresh)
  | acted {past : List (Stage σ × Act σ)} {stage after : Stage σ} {act : Act σ}
      (life : Life fresh past stage) (taken : stage.take act = some after) :
      Life fresh ((stage, act) :: past) after

namespace Life

variable {σ : Type} {fresh context after : Context σ} {past : List (Stage σ × Act σ)}
  {stage : Stage σ}

/-- Every stage of a life that begins soundly is sound. -/
theorem sound (life : Life fresh past stage) (begins : fresh.Sound) : stage.Sound := by
  induction life with
  | created => exact ⟨begins, by simp [Stage.idle, Stage.frames]⟩
  | acted life taken inductionHypothesis => exact (inductionHypothesis.take_leads taken).sound

/-- What a context had at an earlier stage it has from then on. -/
theorem extension_of_mem (life : Life fresh past stage) (begins : fresh.Sound) :
    ∀ happened ∈ past, Context.Extends happened.1.context stage.context := by
  induction life with
  | created => simp
  | acted life taken inductionHypothesis =>
      have now := ((life.sound begins).take_leads taken).extension
      intro happened member
      rcases List.mem_cons.1 member with isLatest | before
      · rw [isLatest]
        exact now
      · exact (inductionHypothesis happened before).trans now

/-- What a context had at first it has at every stage. -/
theorem extension (life : Life fresh past stage) (begins : fresh.Sound) :
    Context.Extends fresh stage.context := by
  induction life with
  | created => exact .refl fresh
  | acted life taken inductionHypothesis =>
      exact inductionHypothesis.trans ((life.sound begins).take_leads taken).extension

/-! ## What the embedder does with a context -/

/-- However many steps a run takes, it stays within the life. -/
theorem run_reached {state : RunState σ} (life : Life fresh past ⟨context, some state⟩)
    (bound : Nat) :
    ∃ later, Life fresh (later ++ past) (.ofRun (Context.run bound context state)) := by
  induction bound generalizing context state past with
  | zero => exact ⟨[], life⟩
  | succ bound inductionHypothesis =>
      unfold Context.run
      cases stepped : context.step state with
      | none => exact ⟨[], life⟩
      | some next =>
          have further : Life fresh ((⟨context, some state⟩, .step) :: past) (.ofRun next) :=
            life.acted (by simp [Stage.take, stepped])
          obtain ⟨later, reached⟩ := inductionHypothesis further
          exact ⟨later ++ [(⟨context, some state⟩, .step)], by simpa using reached⟩

private theorem run_closed {run : Run σ} (life : Life fresh past (.ofRun run)) (bound : Nat)
    {ended : RunState σ} (last : Context.run bound run.1 run.2 = (after, ended))
    (halted : after.step ended = none) : ∃ later, Life fresh (later ++ past) (.idle after) := by
  obtain ⟨later, reached⟩ := run_reached life bound
  rw [last] at reached
  exact ⟨(_, .close) :: later, reached.acted (by simp [Stage.take, Stage.ofRun, halted])⟩

/-- A call by the embedder that ends leads to a stage of the life. -/
theorem call_reached (life : Life fresh past (.idle context)) {func : FuncHandle}
    {args : List Val} {ending : Context.Ending (Except CallError (List Val))}
    (called : context.call func args = (ending, after)) (ends : ending ≠ .unfinished) :
    ∃ later, Life fresh (later ++ past) (.idle after) := by
  have begun : Life fresh ((.idle context, .call func args) :: past)
      (.ofRun (context.beginCall func args .embedder)) := life.acted rfl
  unfold Context.call at called
  simp only at called
  have closes {ended : RunState σ} (last : Context.run Context.manySteps
      (context.beginCall func args .embedder).1 (context.beginCall func args .embedder).2 =
        (after, ended)) (noStep : after.step ended = none) :
      ∃ later, Life fresh (later ++ past) (.idle after) := by
    obtain ⟨later, reached⟩ := run_closed begun _ last noStep
    exact ⟨later ++ [(.idle context, .call func args)], by simpa using reached⟩
  split at called
  · rename_i last
    cases called
    exact closes last rfl
  · rename_i last
    cases called
    exact closes last rfl
  · cases called
    exact absurd rfl ends

/-- A link by the embedder that ends leads to a stage of the life. -/
theorem link_reached (life : Life fresh past (.idle context)) {artifact : Artifact}
    {items : List Item} {ending : Context.Ending (Except LinkError InstanceHandle)}
    (linked : context.link artifact items = (ending, after)) (ends : ending ≠ .unfinished) :
    ∃ later, Life fresh (later ++ past) (.idle after) := by
  have begun : Life fresh ((.idle context, .link artifact items) :: past)
      (.ofRun (context.beginLink artifact items .embedder)) := life.acted rfl
  unfold Context.link at linked
  simp only at linked
  have closes {ended : RunState σ} (last : Context.run Context.manySteps
      (context.beginLink artifact items .embedder).1
        (context.beginLink artifact items .embedder).2 = (after, ended))
      (noStep : after.step ended = none) : ∃ later, Life fresh (later ++ past) (.idle after) := by
    obtain ⟨later, reached⟩ := run_closed begun _ last noStep
    exact ⟨later ++ [(.idle context, .link artifact items)], by simpa using reached⟩
  split at linked
  · rename_i last
    cases linked
    exact closes last rfl
  · rename_i last
    cases linked
    exact closes last rfl
  · cases linked
    exact absurd rfl ends

private theorem later_trans {earlier : List (Stage σ × Act σ)} {last : Stage σ}
    (further : ∃ later, Life fresh (later ++ (earlier ++ past)) last) :
    ∃ later, Life fresh (later ++ past) last := by
  obtain ⟨later, reached⟩ := further
  exact ⟨later ++ earlier, by rw [List.append_assoc]; exact reached⟩

/-- A program of the embedder that ends leads to a stage of the life, whatever it does. -/
theorem perform_reached (life : Life fresh past (.idle context)) {proc : Proc σ}
    {ending : Context.Ending (Except HostError Slots)}
    (performed : context.perform proc = (ending, after)) (ends : ending ≠ .unfinished) :
    ∃ later, Life fresh (later ++ past) (.idle after) := by
  induction proc generalizing context past with
  | finish slots =>
      cases performed
      exact ⟨[], life⟩
  | fail error =>
      cases performed
      exact ⟨[], life⟩
  | panic =>
      cases performed
      exact ⟨[], life⟩
  | ask request next inductionHypothesis =>
      unfold Context.perform at performed
      cases answered : context.answer request with
      | panicked =>
          rw [answered] at performed
          cases performed
          exact ⟨[], life⟩
      | answered out =>
          obtain ⟨answer, middle⟩ := out
          rw [answered] at performed
          have asked : Life fresh ([(.idle context, .ask request)] ++ past) (.idle middle) :=
            life.acted (by simp [Stage.take, Stage.idle, answered])
          exact later_trans (inductionHypothesis answer asked performed)
  | register signature body next _ inductionHypothesis =>
      have registered : Life fresh ([(.idle context, .register signature body)] ++ past)
          (.idle (context.createFunc signature body).2) := life.acted rfl
      exact later_trans (inductionHypothesis _ registered performed)
  | call func args next inductionHypothesis =>
      unfold Context.perform at performed
      cases called : context.call func args with
      | mk result middle =>
          rw [called] at performed
          cases result with
          | answered result =>
              obtain ⟨earlier, reached⟩ := life.call_reached called (by simp)
              exact later_trans (inductionHypothesis result reached performed)
          | panicked =>
              cases performed
              exact life.call_reached called (by simp)
          | unfinished =>
              cases performed
              exact absurd rfl ends
  | link artifact items next inductionHypothesis =>
      unfold Context.perform at performed
      cases linked : context.link artifact items with
      | mk result middle =>
          rw [linked] at performed
          cases result with
          | answered result =>
              obtain ⟨earlier, reached⟩ := life.link_reached linked (by simp)
              exact later_trans (inductionHypothesis result reached performed)
          | panicked =>
              cases performed
              exact life.link_reached linked (by simp)
          | unfinished =>
              cases performed
              exact absurd rfl ends

/-! ## What linkers do with a context -/

/-- A linker that makes a function registers it, whether or not its name is taken. -/
theorem defineFunc_reached (life : Life fresh past (.idle context)) (linker : Linker)
    (module name : String) (signature : Signature) (body : Closure σ) :
    Life fresh ((.idle context, .register signature body) :: past)
      (.idle (linker.defineFunc context module name signature body).2) :=
  life.acted rfl

/-- A linker that defines the exports of an instance asks for them. -/
theorem defineInstance_reached (life : Life fresh past (.idle context)) (linker : Linker)
    (module : String) (inst : InstanceHandle) :
    Life fresh ((.idle context, .ask (.exports inst)) :: past)
      (.idle (linker.defineInstance context module inst).2) :=
  life.acted rfl

/-- A linker that links leaves the context as it is, or links the items it has found. -/
theorem linkNamed_reached (life : Life fresh past (.idle context)) (linker : Linker)
    {artifact : Artifact} {ending : Context.Ending (Except LinkError InstanceHandle)}
    (linked : linker.link context artifact = (ending, after)) (ends : ending ≠ .unfinished) :
    ∃ later, Life fresh (later ++ past) (.idle after) := by
  unfold Linker.link at linked
  cases resolved : linker.resolve artifact with
  | error error =>
      rw [resolved] at linked
      cases linked
      exact ⟨[], life⟩
  | ok items =>
      rw [resolved] at linked
      exact life.link_reached linked ends

end Life

end WasmSandbox
