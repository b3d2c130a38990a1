import WasmSandbox.Proofs.Context.Upkeep
import WasmSandbox.Proofs.Engine.Fuel

/-!
Contract: the fuel of a context over its life.

Owns:
- which acts run guest code, and which one sets the fuel;
- what is told to an embedder or a closure that asks for the fuel;
- that fuel, where it is metered, is always shown, begins with the limit of the
  environment, and between two settings never comes to more than it was;
- that it stays what it is while no guest code runs;
- that without a limit nothing is shown, and a setting is refused and changes nothing.

Steps of a run are acts of a life, so everything here holds while closures and guest code
are nested to any depth, and of operations that trap, fail or panic as of those that succeed.

Does not own: what an instruction costs.
-/

namespace WasmSandbox

open Wasm

namespace Context

variable {σ : Type} {context after : Context σ}

/-! ## Answers -/

theorem Issues.fuel (issues : Issues context after) :
    after.store.fuel = context.store.fuel := by
  induction issues with
  | same context => rfl
  | issued context origin declared rest inductionHypothesis =>
      obtain ⟨funcs, isAfter⟩ := handleOf_eq context origin declared
      rw [inductionHypothesis, isAfter]
      exact context.store.emerge_fuel origin

private theorem createMemory_fuel {type : MemoryType} {answer : Except MemoryError MemoryHandle}
    (answered : context.createMemory type = .answered (answer, after)) :
    after.store.fuel = context.store.fuel := by
  simp only [createMemory] at answered
  split at answered
  · cases answered
    rfl
  · split at answered
    · contradiction
    · split at answered
      · rename_i added
        cases answered
        exact Store.addMemory?_fuel added
      · cases answered
        rfl

private theorem writeMemory_fuel {memory : MemoryHandle} {offset : UInt64} {bytes : List UInt8}
    (written : context.writeMemory memory offset bytes = .ok after) :
    after.store.fuel = context.store.fuel := by
  obtain ⟨owned, -, written⟩ := bind_eq_ok_iff.1 written
  obtain ⟨filled, -, same⟩ := bind_eq_ok_iff.1 written
  cases same
  rfl

private theorem writeWord_fuel {memory : MemoryHandle} {offset : UInt64} {value : UInt32}
    (written : context.writeWord memory offset value = .ok after) :
    after.store.fuel = context.store.fuel := by
  obtain ⟨owned, -, written⟩ := bind_eq_ok_iff.1 written
  obtain ⟨filled, -, same⟩ := bind_eq_ok_iff.1 written
  cases same
  rfl

private theorem growMemory_fuel {memory : MemoryHandle} {delta : UInt64} {pages : Nat}
    (grown : context.growMemory memory delta = .ok (pages, after)) :
    after.store.fuel = context.store.fuel := by
  obtain ⟨owned, -, grown⟩ := bind_eq_ok_iff.1 grown
  split at grown
  · cases grown
    rfl
  · contradiction

private theorem createGlobal_fuel {type : GlobalType} {value : Val} {handle : GlobalHandle}
    (created : context.createGlobal type value = .ok (handle, after)) :
    after.store.fuel = context.store.fuel := by
  obtain ⟨-, -, content, -, same⟩ := createGlobal_eq_ok_iff.1 created
  cases same
  rfl

private theorem setGlobal_fuel {handle : GlobalHandle} {value : Val}
    (set : context.setGlobal handle value = .ok after) :
    after.store.fuel = context.store.fuel := by
  obtain ⟨-, -, -, -, content, -, rfl⟩ := setGlobal_eq_ok_iff.1 set
  rfl

/-- Whatever is asked of a context, no fuel is taken for it. -/
theorem answer_fuel {request : Request σ} {answer : request.Answer}
    (answered : context.answer request = .answered (answer, after)) :
    after.store.fuel = context.store.fuel := by
  cases request
  case createMemory type => exact createMemory_fuel answered
  case writeMemory memory offset bytes =>
    rcases applied_cases (Outcome.answered.inj answered) with rfl | done
    · rfl
    · exact writeMemory_fuel done
  case writeWord memory offset value =>
    rcases applied_cases (Outcome.answered.inj answered) with rfl | done
    · rfl
    · exact writeWord_fuel done
  case growMemory memory delta =>
    rcases changed_cases (Outcome.answered.inj answered) with rfl | ⟨_, done⟩
    · rfl
    · exact growMemory_fuel done
  case createGlobal type value =>
    rcases changed_cases (Outcome.answered.inj answered) with rfl | ⟨_, done⟩
    · rfl
    · exact createGlobal_fuel done
  case getGlobal global =>
    have issues := context.getGlobal_issues global
    rw [Outcome.answered.inj answered] at issues
    exact issues.fuel
  case setGlobal global value =>
    rcases applied_cases (Outcome.answered.inj answered) with rfl | done
    · rfl
    · exact setGlobal_fuel done
  case lookup inst name =>
    have issues := context.lookup_issues inst name
    rw [Outcome.answered.inj answered] at issues
    exact issues.fuel
  case exports inst =>
    have issues := context.exports_issues inst
    rw [Outcome.answered.inj answered] at issues
    exact issues.fuel
  -- All others only look, or change host data.
  all_goals
    cases answered
    rfl

/-! ## Steps -/

end Context

/-- The next step of a run is one of guest code: an instruction, or the start of a function
that has code. -/
def RunState.RunsGuest {σ : Type} (context : Context σ) : RunState σ → Prop
  | .guest _ _ => True
  | .entering func _ _ => ∃ owner code, context.store.callee? func = some (.guest owner code)
  | _ => False

namespace Context

variable {σ : Type} {context : Context σ}

/-- What becomes of fuel: it stays what it is, or guest code runs and burns some. -/
inductive Spends (context : Context σ) (runsGuest : Prop) (store : Store (Closure σ)) : Prop where
  | keeps (same : store.fuel = context.store.fuel)
  | burns (isGuest : runsGuest) (burns : context.store.Burns store)

namespace Spends

variable {middle : Context σ} {runsGuest earlierGuest laterGuest : Prop}
  {store : Store (Closure σ)}

theorem same (context : Context σ) (runsGuest : Prop) :
    Spends context runsGuest context.store :=
  .keeps rfl

theorem trans (earlier : Spends context earlierGuest middle.store)
    (later : Spends middle laterGuest store) :
    Spends context (laterGuest ∨ earlierGuest) store := by
  cases earlier with
  | keeps same =>
      cases later with
      | keeps alsoSame => exact .keeps (alsoSame.trans same)
      | burns isGuest burns => exact .burns (.inl isGuest) ((Store.Burns.of_eq same).trans burns)
  | burns isGuest burns =>
      cases later with
      | keeps same => exact .burns (.inr isGuest) (burns.trans (.of_eq same))
      | burns alsoGuest more => exact .burns (.inr isGuest) (burns.trans more)

/-- Whether or not guest code runs, no fuel is given back. -/
theorem burnsFuel (spends : Spends context runsGuest store) : context.store.Burns store := by
  cases spends with
  | keeps same => exact .of_eq same
  | burns isGuest burns => exact burns

theorem fuel_eq (spends : Spends context runsGuest store) (noGuest : ¬runsGuest) :
    store.fuel = context.store.fuel := by
  cases spends with
  | keeps same => exact same
  | burns isGuest burns => exact absurd isGuest noGuest

end Spends

/-- Up to the start function of its instance, a link takes no fuel, whether or not it fails. -/
theorem engineLink_fuel (context : Context σ) (artifact : Artifact) (items : List Item) :
    (context.engineLink artifact items).2.store.fuel = context.store.fuel := by
  unfold engineLink
  split
  · rfl
  · cases context.resolveImports artifact items with
    | error error => rfl
    | ok externs =>
        have made := instantiate_fuel context.store artifact.module externs
        simp only
        split <;> exact made

private theorem stepClosure_fuel (context : Context σ) (proc : Proc σ) (cont : HostCont σ) :
    (context.stepClosure proc cont).1.store.fuel = context.store.fuel := by
  cases proc with
  | finish slots => rw [stepClosure, finishClosure_context]
  | fail error => rw [stepClosure, finishClosure_context]
  | panic => rfl
  | ask request next =>
      simp only [stepClosure]
      cases answered : context.answer request with
      | panicked => rfl
      | answered out => exact answer_fuel answered
  | register signature body next => rfl
  | call func args next => rw [stepClosure, beginCall_store]
  | link artifact items next => rw [stepClosure, beginLink_store, engineLink_fuel]

private theorem enterEngine_spends (context : Context σ) (func : FuncKey) (args : List Value)
    (cont : GuestCont σ) :
    Spends context (RunState.RunsGuest context (.entering func args cont))
      (context.enterEngine func args cont).1.store := by
  unfold enterEngine
  split
  · rename_i host called
    have kept := (context.liftAll_issues args host.signature.params).fuel
    generalize context.liftAll args host.signature.params = out at kept
    obtain ⟨outcome, after⟩ := out
    cases outcome <;> exact .keeps kept
  · rename_i owner code called
    split
    · simp only [onStore_eq, afterAdvance_context]
      exact .burns ⟨owner, code, called⟩ (Activation.enter_touched ..).burns
    · exact .same ..
  · exact .same ..

private theorem stepReturning_fuel (context : Context σ) (values : List Value)
    (cont : GuestCont σ) :
    (context.stepReturning values cont).1.store.fuel = context.store.fuel := by
  cases cont with
  | frame activation below => rfl
  | called func signature wait => exact (context.liftAll_issues values signature.results).fuel
  | starting made wait =>
      rw [stepReturning, finishLink, deliverLink_context]
      rfl

/-- Only a step of guest code takes fuel. -/
theorem step_spends {state : RunState σ} {run : Run σ} (stepped : context.step state = some run) :
    Spends context (state.RunsGuest context) run.1.store := by
  cases state with
  | invoking body args cont =>
      cases stepped
      exact .same ..
  | closure proc cont =>
      cases stepped
      exact .keeps (context.stepClosure_fuel proc cont)
  | guest activation cont =>
      cases stepped
      rw [afterAdvance_context]
      exact .burns trivial (activation.advance_touched context.store).burns
  | entering func args cont =>
      cases stepped
      exact context.enterEngine_spends func args cont
  | returning values cont =>
      cases stepped
      exact .keeps (context.stepReturning_fuel values cont)
  | raising error cont =>
      cases stepped
      cases cont with
      | starting made wait =>
          rw [stepRaising, deliverLink_context]
          exact .same ..
      | _ => exact .same ..
  | leaving func signature result wait =>
      cases stepped
      rw [endCall_context]
      exact .same ..
  | called result => contradiction
  | linked result => contradiction
  | panicked => contradiction

end Context

/-! ## Acts -/

/-- The act sets the fuel. -/
def Act.SetsFuel {σ : Type} : Act σ → Prop
  | .setFuel _ => True
  | _ => False

namespace Stage

variable {σ : Type} {stage after : Stage σ} {act : Act σ}

/-- With the act, guest code takes a step. -/
def RunsGuest : Stage σ → Act σ → Prop
  | ⟨context, some state⟩, .step => state.RunsGuest context
  | _, _ => False

/-- Whatever happens except a setting, fuel stays what it is, or guest code burns some. -/
theorem take_spends (taken : stage.take act = some after) (noSetting : ¬act.SetsFuel) :
    stage.context.Spends (stage.RunsGuest act) after.context.store := by
  cases take_eq_some_iff.1 taken with
  | answered answered => exact .keeps (Context.answer_fuel answered)
  | unanswered _ => exact .same ..
  | registered context signature body => exact .keeps rfl
  | fuelSet _ => exact absurd trivial noSetting
  | fuelRefused _ => exact absurd trivial noSetting
  | called context func args =>
      rw [ofRun, Context.beginCall_store]
      exact .same ..
  | linked context artifact items =>
      rw [ofRun, Context.beginLink_store]
      exact .keeps (context.engineLink_fuel artifact items)
  | stepped stepped => exact Context.step_spends stepped
  | closed _ => exact .same ..

end Stage

/-! ## Between two stages -/

namespace Context

variable {σ : Type} {context : Context σ}

/-- What a closure or the embedder is told that asks for the fuel. -/
def TellsFuel (context : Context σ) (shown : Option Nat) : Prop :=
  context.answer .fuel = .answered (shown, context)

theorem tellsFuel_iff {shown : Option Nat} :
    context.TellsFuel shown ↔ context.store.fuelLeft = shown :=
  ⟨fun tells => congrArg Prod.fst (Outcome.answered.inj tells), fun same => same ▸ rfl⟩

end Context

namespace Life

variable {σ : Type} {fresh : Context σ} {past later earlier : List (Stage σ × Act σ)}
  {stage : Stage σ} {happened : Stage σ × Act σ}

/-- From a stage on, as long as the fuel is not set, it stays what it is, or guest code
burns some. -/
theorem spends_since (life : Life fresh (later ++ happened :: earlier) stage)
    (noSetting : ∀ between ∈ later ++ [happened], ¬between.2.SetsFuel) :
    happened.1.context.Spends (∃ between ∈ later ++ [happened], between.1.RunsGuest between.2)
      stage.context.store := by
  induction later generalizing stage with
  | nil =>
      rw [List.nil_append] at life noSetting
      cases life with
      | acted life taken =>
          simpa using Stage.take_spends taken (noSetting _ (List.mem_singleton_self _))
  | cons latest later inductionHypothesis =>
      cases life with
      | acted life taken =>
          obtain ⟨now, before⟩ := List.forall_mem_cons.1 noSetting
          simp only [List.cons_append, List.exists_mem_cons_iff]
          exact (inductionHypothesis life before).trans (Stage.take_spends taken now)

/-- Fuel is metered at every stage if the environment has a limit, and at none otherwise. -/
theorem fuel_isSome {id : ContextId} {environment : Environment} {data : σ}
    (life : Life (.create id environment data) past stage) :
    stage.context.store.fuel.isSome = environment.config.fuelLimit.isSome := by
  induction life with
  | created => exact Option.isSome_map
  | @acted past before after act life taken inductionHypothesis =>
      by_cases setting : act.SetsFuel
      · cases act with
        | setFuel fuel =>
            have sameConfig : before.context.config = environment.config :=
              (life.extension (Context.create_sound id environment data)).config_eq
            cases Stage.take_eq_some_iff.1 taken with
            | fuelSet set =>
                obtain ⟨metered, rfl⟩ := Context.setFuel_eq_ok_iff.1 set
                exact metered.symm.trans (congrArg (·.fuelLimit.isSome) sameConfig)
            | fuelRefused _ => exact inductionHypothesis
        | _ => exact setting.elim
      · exact (Stage.take_spends taken setting).burnsFuel.isSome.trans inductionHypothesis

end Life

/-! ## Fuel over a life -/

/-- What holds of fuel at a stage of a context whose environment has a limit. -/
structure Metered {σ : Type} (limit : UInt64) (fresh : Context σ)
    (past : List (Stage σ × Act σ)) (stage : Stage σ) : Prop where
  starts : fresh.TellsFuel (some limit.toNat)
  shown : ∃ fuel, stage.context.TellsFuel (some fuel)
  /-- From an earlier stage to this one, fuel never came to more, unless it was set. -/
  descends : ∀ later happened earlier, past = later ++ happened :: earlier →
    (∀ between ∈ later ++ [happened], ¬between.2.SetsFuel) →
      ∃ before now, happened.1.context.TellsFuel (some before) ∧
        stage.context.TellsFuel (some now) ∧ now ≤ before
  /-- If no guest code ran since then either, it is what it was. -/
  unchanged : ∀ later happened earlier, past = later ++ happened :: earlier →
    (∀ between ∈ later ++ [happened],
      ¬between.2.SetsFuel ∧ ¬between.1.RunsGuest between.2) →
        ∀ shown, stage.context.TellsFuel shown ↔ happened.1.context.TellsFuel shown
  /-- Fuel can be set whenever the context is idle. -/
  settable : stage.running = none → ∀ fuel,
    ∃ after, stage.context.setFuel fuel = .ok after ∧
      stage.take (.setFuel fuel) = some (.idle after) ∧ after.TellsFuel (some fuel.toNat)

/-- What holds of fuel at a stage of a context whose environment has no limit. -/
structure Unmetered {σ : Type} (stage : Stage σ) : Prop where
  hidden : stage.context.TellsFuel none
  refused : ∀ fuel, stage.context.setFuel fuel = .error .fuelDisabled
  unset : stage.running = none → ∀ fuel, stage.take (.setFuel fuel) = some stage

/-- What holds of fuel at a stage, for either sort of environment. -/
structure FuelKept {σ : Type} (limit : Option UInt64) (fresh : Context σ)
    (past : List (Stage σ × Act σ)) (stage : Stage σ) : Prop where
  metered : ∀ fuel, limit = some fuel → Metered fuel fresh past stage
  unmetered : limit = none → Unmetered stage
  /-- A closure that asks goes on with what is told, and nothing changes. -/
  asked : ∀ next cont, stage.running = some (.closure (.ask .fuel next) cont) →
    ∀ shown, stage.context.TellsFuel shown →
      stage.take .step = some ⟨stage.context, some (.closure (next shown) cont)⟩

namespace Life

variable {σ : Type} {past : List (Stage σ × Act σ)} {stage : Stage σ} {id : ContextId}
  {environment : Environment} {data : σ}

private theorem tellsFuel_of_isSome (metered : stage.context.store.fuel.isSome = true) :
    ∃ fuel, stage.context.TellsFuel (some fuel) := by
  obtain ⟨fuel, isFuel⟩ := Option.isSome_iff_exists.1 metered
  exact ⟨fuel.toNat, Context.tellsFuel_iff.2 (by simp [Store.fuelLeft, isFuel])⟩

/-- In every life of a context, fuel begins with the limit, is never given back, and is
taken by guest code alone; without a limit there is none. -/
theorem fuelKept (life : Life (.create id environment data) past stage) :
    FuelKept environment.config.fuelLimit (.create id environment data) past stage := by
  have sameConfig : stage.context.config = environment.config :=
    (life.extension (Context.create_sound id environment data)).config_eq
  have isMetered := life.fuel_isSome
  refine ⟨fun limit isLimit => ?metered, fun noLimit => ?unmetered, ?asked⟩
  case metered =>
    rw [isLimit, Option.isSome_some] at isMetered
    refine ⟨?starts, tellsFuel_of_isSome isMetered, ?descends, ?unchanged, ?settable⟩
    case starts =>
      rw [Context.tellsFuel_iff]
      simp [Context.create, Store.fuelLeft, isLimit]
    case descends =>
      rintro later happened earlier rfl noSetting
      have burns := (life.spends_since noSetting).burnsFuel
      obtain ⟨before, had⟩ := tellsFuel_of_isSome (burns.isSome.symm.trans isMetered)
      obtain ⟨now, left, less⟩ := burns.fuelLeft (Context.tellsFuel_iff.1 had)
      exact ⟨before, now, had, Context.tellsFuel_iff.2 left, less⟩
    case unchanged =>
      rintro later happened earlier rfl silent shown
      have spends := life.spends_since fun between member => (silent between member).1
      have noGuest : ¬∃ between ∈ later ++ [happened], between.1.RunsGuest between.2 := by
        rintro ⟨between, member, runs⟩
        exact (silent between member).2 runs
      have same := spends.fuel_eq noGuest
      rw [Context.tellsFuel_iff, Context.tellsFuel_iff, Store.fuelLeft, same]
      rfl
    case settable =>
      intro isIdle fuel
      obtain ⟨context, running⟩ := stage
      cases isIdle
      have set : context.setFuel fuel =
          .ok { context with store := { context.store with fuel := some fuel.toNat } } := by
        unfold Context.setFuel
        rw [sameConfig, isLimit]
      exact ⟨_, set, by rw [Stage.take, set], rfl⟩
  case unmetered =>
    rw [noLimit] at isMetered
    have refused (fuel : UInt64) : stage.context.setFuel fuel = .error .fuelDisabled := by
      unfold Context.setFuel
      rw [sameConfig, noLimit]
    have noFuel : stage.context.store.fuel = none := by simpa using isMetered
    refine ⟨Context.tellsFuel_iff.2 ?_, refused, ?_⟩
    · rw [Store.fuelLeft, noFuel]
      rfl
    · intro isIdle fuel
      obtain ⟨context, running⟩ := stage
      cases isIdle
      rw [Stage.take, refused fuel]
      rfl
  case asked =>
    intro next cont isAsking shown tells
    obtain ⟨context, running⟩ := stage
    cases isAsking
    have answered : context.answer .fuel = .answered (shown, context) := tells
    simp only [Stage.take, Context.step, Context.stepClosure, answered, Option.map_some,
      Stage.ofRun]

end Life

/-! ## Guest code that burns fuel -/

namespace FuelBurned

/-- A module whose start function does nothing. -/
def artifact : Artifact where
  environment := ⟨0⟩
  serial := 0
  module :=
    { types := [⟨[], []⟩]
      funcs := [⟨⟨[], []⟩, [], []⟩]
      start := some 0 }
  digest := []
  surface := ⟨[], []⟩
  surface_eq := rfl

def environment : Environment := { id := ⟨0⟩, config := { fuelLimit := some 100 } }

/-- The embedder asks for the fuel, links the module, and asks again. -/
theorem lives : ∃ past context, Life (.create ⟨0⟩ environment ()) past (.idle context) ∧
    context.TellsFuel (some 99) := by
  have asked : Life (.create ⟨0⟩ environment ()) _ _ := Life.created.acted
    (show Stage.take _ (.ask .fuel) = some _ from rfl)
  have linking := asked.acted (show Stage.take _ (.link artifact []) = some _ from rfl)
  have entered := linking.acted (show Stage.take _ .step = some _ from rfl)
  have returned := entered.acted (show Stage.take _ .step = some _ from rfl)
  have linked := returned.acted (show Stage.take _ .step = some _ from rfl)
  have closed := linked.acted (show Stage.take _ .close = some _ from rfl)
  have again := closed.acted (show Stage.take _ (.ask .fuel) = some _ from rfl)
  exact ⟨_, _, again, rfl⟩

end FuelBurned

/-- A start function burns one unit of the limit. -/
theorem Life.fuelKept_of_burned : ∃ past context,
    Life (.create ⟨0⟩ FuelBurned.environment ()) past (.idle context) ∧
      FuelKept (some 100) (.create ⟨0⟩ FuelBurned.environment ()) past (.idle context) ∧
        context.TellsFuel (some 99) := by
  obtain ⟨past, context, life, tells⟩ := FuelBurned.lives
  exact ⟨past, context, life, Life.fuelKept life, tells⟩

end WasmSandbox
