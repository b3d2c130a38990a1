import WasmSandbox.Proofs.Context.Handouts
import WasmSandbox.Proofs.Context.Identity

/-!
Contract: the functions of the host in the function table.

Owns:
- the handles of the functions that the host made, in the order of their entries;
- which act makes one, and that no other act enters one;
- that over a life the table has exactly the functions that were made.

A function that comes out of the engine is entered as one that the host did not make, also
where it is a host function under another key.

Does not own: who knows of the functions.
-/

namespace WasmSandbox

open Wasm

/-! ## The table -/

namespace FuncTable

variable {table : FuncTable}

/-- The positions of the functions that the host made, in their order. -/
def hosts (table : FuncTable) : List Nat :=
  (List.range table.count).filter fun index => (table.entry? index).any FuncEntry.isHost

theorem mem_hosts_iff {index : Nat} :
    index ∈ table.hosts ↔ ∃ entry, table.entry? index = some entry ∧ entry.isHost = true := by
  simp only [hosts, List.mem_filter, List.mem_range, Option.any_eq_true]
  exact ⟨And.right, fun member => ⟨entryAt_lt_count member.choose_spec.1, member⟩⟩

/-- A new entry is counted among the functions of the host if the host made it. -/
theorem hosts_push (table : FuncTable) (entry : FuncEntry) :
    (table.push entry).hosts = table.hosts ++ if entry.isHost then [table.count] else [] := by
  have size : (table.push entry).count = table.count + 1 := by simp [count, push]
  have before : ∀ index ∈ List.range table.count,
      Option.any FuncEntry.isHost (FuncTable.entry? (table.push entry) index) =
        Option.any FuncEntry.isHost (table.entry? index) := by
    intro index member
    rw [entryAt_push, if_neg (Nat.ne_of_lt (List.mem_range.1 member))]
  have last : FuncTable.entry? (table.push entry) table.count = some entry := by
    rw [entryAt_push, if_pos rfl]
  rw [hosts, hosts, size, List.range_succ, List.filter_append, List.filter_congr before]
  simp [List.filter_cons, last]

theorem hosts_nodup (table : FuncTable) : table.hosts.Nodup := List.nodup_range.filter _

end FuncTable

/-! ## One step -/

namespace Context

variable {σ : Type} {context after : Context σ}

/-- The handles of the functions that the host made, in the order of their entries. -/
def hostFuncs (context : Context σ) : List FuncHandle :=
  context.funcs.hosts.map fun index => ⟨context.id, index⟩

theorem mem_hostFuncs_iff {func : FuncHandle} :
    func ∈ context.hostFuncs ↔ context.isHost? func = some true := by
  obtain ⟨owner, index⟩ := func
  simp only [hostFuncs, List.mem_map, FuncTable.mem_hosts_iff, isHost?, funcEntry?,
    Option.map_eq_some_iff, FuncHandle.mk.injEq]
  by_cases own : owner = context.id
  · subst own
    simp
  · have foreign : context.id ≠ owner := fun same => own same.symm
    simp [own, foreign]

theorem createFunc_hosts (context : Context σ) (signature : Signature) (body : Closure σ) :
    (context.createFunc signature body).2.funcs.hosts =
      context.funcs.hosts ++ [context.funcCount] :=
  context.funcs.hosts_push _

/-- Functions that are handed out are not entered as functions of the host. -/
theorem Issues.hosts (issues : Issues context after) : after.funcs.hosts = context.funcs.hosts := by
  induction issues with
  | same context => rfl
  | issued context origin declared rest inductionHypothesis =>
      rw [inductionHypothesis]
      unfold Context.handleOf
      simp only
      split
      · rfl
      · split
        · simp [enterFunc, FuncTable.hosts_push]
        · rfl

theorem answer_hosts {request : Request σ} {answer : request.Answer}
    (answered : context.answer request = .answered (answer, after)) :
    after.funcs.hosts = context.funcs.hosts := by
  rcases answer_cases answered with issues | touches
  · exact issues.hosts
  · rw [touches.funcs_eq]

/-- The position of the function that a step makes. -/
def stepMakes? (context : Context σ) : RunState σ → Option Nat
  | .closure (.register _ _ _) _ => some context.funcCount
  | _ => none

theorem stepClosure_hosts (context : Context σ) (proc : Proc σ) (cont : HostCont σ) :
    (context.stepClosure proc cont).1.funcs.hosts =
      context.funcs.hosts ++ (context.stepMakes? (.closure proc cont)).toList := by
  cases proc with
  | finish slots => simp [stepClosure, finishClosure_context, stepMakes?]
  | fail error => simp [stepClosure, finishClosure_context, stepMakes?]
  | panic => simp [stepClosure, stepMakes?]
  | ask request next =>
      simp only [stepClosure, stepMakes?, Option.toList_none, List.append_nil]
      cases answered : context.answer request with
      | panicked => rfl
      | answered out => exact answer_hosts answered
  | register signature body next => exact context.createFunc_hosts signature body
  | call func args next => simp [stepClosure, beginCall_funcs, stepMakes?]
  | link artifact items next => simp [stepClosure, beginLink_funcs, stepMakes?]

theorem enterEngine_hosts (context : Context σ) (func : FuncKey) (args : List Value)
    (cont : GuestCont σ) :
    (context.enterEngine func args cont).1.funcs.hosts = context.funcs.hosts := by
  unfold enterEngine
  split
  · rename_i host called
    have issued := (context.liftAll_issues args host.signature.params).hosts
    generalize context.liftAll args host.signature.params = out at issued
    obtain ⟨outcome, after⟩ := out
    cases outcome <;> exact issued
  · split
    · simp only [onStore_eq, afterAdvance_context]
    · rfl
  · rfl

theorem stepReturning_hosts (context : Context σ) (values : List Value) (cont : GuestCont σ) :
    (context.stepReturning values cont).1.funcs.hosts = context.funcs.hosts := by
  cases cont with
  | frame activation below => rfl
  | called func signature wait => exact (context.liftAll_issues values signature.results).hosts
  | starting made wait => simp only [stepReturning, finishLink, deliverLink_context, addInstance]

/-- A step enters the function that it makes, and no other function of the host. -/
theorem step_hosts {state : RunState σ} {run : Run σ} (stepped : context.step state = some run) :
    run.1.funcs.hosts = context.funcs.hosts ++ (context.stepMakes? state).toList := by
  cases state with
  | closure proc cont =>
      cases stepped
      exact context.stepClosure_hosts proc cont
  | invoking body args cont =>
      cases stepped
      simp [stepMakes?]
  | guest activation cont =>
      cases stepped
      simp [afterAdvance_context, stepMakes?]
  | entering func args cont =>
      cases stepped
      simp [enterEngine_hosts, stepMakes?]
  | returning values cont =>
      cases stepped
      simp [stepReturning_hosts, stepMakes?]
  | raising error cont =>
      cases stepped
      cases cont <;> simp [stepRaising, deliverLink_context, stepMakes?]
  | leaving func signature result wait =>
      cases stepped
      simp [endCall, deliverCall_context, stepMakes?]
  | called result => contradiction
  | linked result => contradiction
  | panicked => contradiction

end Context

/-! ## Acts and lives -/

namespace Stage

variable {σ : Type} {stage after : Stage σ} {act : Act σ}

/-- The position of the function that an act makes. -/
def makes? : Stage σ → Act σ → Option Nat
  | ⟨context, none⟩, .register _ _ => some context.funcCount
  | ⟨context, some state⟩, .step => context.stepMakes? state
  | _, _ => none

/-- An act enters the function that it makes, and no other function of the host. -/
theorem take_hosts (taken : stage.take act = some after) :
    after.context.funcs.hosts = stage.context.funcs.hosts ++ (stage.makes? act).toList := by
  cases take_eq_some_iff.1 taken with
  | answered answered => simpa [makes?, idle] using Context.answer_hosts answered
  | unanswered _ => simp [makes?, idle]
  | registered context signature body => exact context.createFunc_hosts signature body
  | fuelSet set =>
      obtain ⟨-, rfl⟩ := Context.setFuel_eq_ok_iff.1 set
      simp [makes?, idle]
  | fuelRefused _ => simp [makes?, idle]
  | called context func args => simp [makes?, ofRun, Context.beginCall_funcs]
  | linked context artifact items => simp [makes?, ofRun, Context.beginLink_funcs]
  | stepped stepped => exact Context.step_hosts stepped
  | closed _ => simp [makes?, idle]

end Stage

/-- The positions of the functions that were made in a history, in their order. -/
def madeIn {σ : Type} : List (Stage σ × Act σ) → List Nat
  | [] => []
  | (stage, act) :: past => madeIn past ++ (stage.makes? act).toList

/-- In every life, the functions of the host are those that were made. -/
theorem Life.hosts_eq_madeIn {σ : Type} {fresh : Context σ} {past : List (Stage σ × Act σ)}
    {stage : Stage σ} (life : Life fresh past stage) (noFuncs : fresh.funcs = {}) :
    stage.context.funcs.hosts = madeIn past := by
  induction life with
  | created => rw [Stage.idle, noFuncs]; rfl
  | acted life taken inductionHypothesis =>
      rw [Stage.take_hosts taken, inductionHypothesis, madeIn]

end WasmSandbox
