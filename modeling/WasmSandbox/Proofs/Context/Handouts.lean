import WasmSandbox.Proofs.Context.Growth

/-!
Contract: what becomes of a context when functions come out of the engine.

Owns:
- contexts that differ in functions handed out, one after the other;
- that values on their way out, exports, and the answers that hold functions lead to no
  other contexts;
- what handing out functions leaves alone.

Does not own: the entries that functions get in the table.
-/

namespace WasmSandbox

open Wasm

namespace Context

variable {σ : Type}

/-- The second context comes about from the first one by handing out functions. -/
inductive Issues : Context σ → Context σ → Prop where
  | same (context : Context σ) : Issues context context
  | issued (context : Context σ) (origin : FuncKey) (declared : Option Signature)
      {after : Context σ} (rest : Issues (context.handleOf origin declared).2 after) :
      Issues context after

namespace Issues

variable {context middle after : Context σ}

theorem handleOf (context : Context σ) (origin : FuncKey) (declared : Option Signature) :
    Issues context (context.handleOf origin declared).2 :=
  .issued context origin declared (.same _)

theorem trans (earlier : Issues context middle) (later : Issues middle after) :
    Issues context after := by
  induction earlier with
  | same context => exact later
  | issued context origin declared rest inductionHypothesis =>
      exact .issued context origin declared (inductionHypothesis later)

/-- A function that is handed out may get an entry, and may be a host function that the
engine makes anew. -/
theorem handleOf_eq (context : Context σ) (origin : FuncKey) (declared : Option Signature) :
    ∃ funcs, (context.handleOf origin declared).2 =
      { context with funcs := funcs, store := (context.store.emerge origin).2 } := by
  unfold Context.handleOf
  simp only
  split
  · exact ⟨context.funcs, rfl⟩
  · split
    · exact ⟨_, rfl⟩
    · exact ⟨context.funcs, rfl⟩

/-- The engine's state is then the one in which the function came out. -/
theorem handleOf_store {origin : FuncKey} {declared : Option Signature}
    {outcome : Except String FuncHandle}
    (handed : context.handleOf origin declared = (outcome, after)) :
    after.store = (context.store.emerge origin).2 := by
  obtain ⟨funcs, isAfter⟩ := handleOf_eq context origin declared
  rw [handed] at isAfter
  exact congrArg Context.store isAfter

theorem instances (issues : Issues context after) : after.instances = context.instances := by
  induction issues with
  | same context => rfl
  | issued context origin declared rest inductionHypothesis =>
      obtain ⟨funcs, isAfter⟩ := handleOf_eq context origin declared
      rw [inductionHypothesis, isAfter]

theorem works (issues : Issues context after) : context.store.Works after.store := by
  induction issues with
  | same context => exact .refl context.store
  | issued context origin declared rest inductionHypothesis =>
      obtain ⟨funcs, isAfter⟩ := handleOf_eq context origin declared
      rw [isAfter] at inductionHypothesis
      exact (context.store.emerge_works origin).trans inductionHypothesis

end Issues

variable (context : Context σ)

theorem lift_issues (value : Value) (kind : ValueKind) :
    Issues context (context.lift value kind).2 := by
  rcases context.lift_cases value kind with ⟨key, rfl, rfl⟩ | ⟨-, ⟨_, passes, -⟩ | ⟨_, fails⟩⟩
  · have issues := Issues.handleOf context key none
    rw [lift_func]
    generalize context.handleOf key none = out at issues
    obtain ⟨outcome, after⟩ := out
    cases outcome <;> exact issues
  · rw [passes]
    exact .same context
  · rw [fails]
    exact .same context

theorem liftAll_issues (values : List Value) (kinds : List ValueKind) :
    Issues context (context.liftAll values kinds).2 := by
  induction values generalizing context kinds with
  | nil => exact .same context
  | cons value values inductionHypothesis =>
      cases kinds with
      | nil => exact .same context
      | cons kind kinds =>
          have head := context.lift_issues value kind
          unfold liftAll
          generalize context.lift value kind = out at head
          obtain ⟨outcome, middle⟩ := out
          cases outcome with
          | error error => exact head
          | ok first =>
              have tail := inductionHypothesis middle kinds
              simp only
              generalize middle.liftAll values kinds = rest at tail
              obtain ⟨outcome, after⟩ := rest
              cases outcome <;> exact head.trans tail

theorem exportedItem_issues (owner : Nat) (target : ExportTarget) (type : ItemType) :
    Issues context (context.exportedItem owner target type).2 := by
  unfold exportedItem
  split
  · exact .same context
  · split
    · rename_i index signature
      have issues := Issues.handleOf context (.guest owner index) (some signature)
      generalize context.handleOf (.guest owner index) (some signature) = out at issues
      obtain ⟨outcome, after⟩ := out
      cases outcome <;> exact issues
    all_goals exact .same context

theorem lookup_issues (inst : InstanceHandle) (name : String) :
    Issues context (context.lookup inst name).2 := by
  unfold lookup
  split
  · exact .same context
  · simp only
    split
    · exact exportedItem_issues ..
    · exact .same context

theorem lookupAll_issues (inst : InstanceHandle) (names : List String) :
    Issues context (context.lookupAll inst names).2 := by
  induction names generalizing context with
  | nil => exact .same context
  | cons name rest inductionHypothesis =>
      have head := context.lookup_issues inst name
      unfold lookupAll
      generalize context.lookup inst name = out at head
      obtain ⟨found, middle⟩ := out
      cases found <;> exact head.trans (inductionHypothesis middle)

theorem exports_issues (inst : InstanceHandle) : Issues context (context.exports inst).2 := by
  unfold exports
  split
  · exact lookupAll_issues ..
  · exact .same context

theorem getGlobal_issues (handle : GlobalHandle) :
    Issues context (context.getGlobal handle).2 := by
  unfold getGlobal
  split
  · exact .same context
  · split
    · exact lift_issues ..
    · exact .same context

/-- An answer hands out functions, or touches memories and globals. -/
theorem answer_cases {context after : Context σ} {request : Request σ} {answer : request.Answer}
    (answered : context.answer request = .answered (answer, after)) :
    Issues context after ∨ context.Touches after := by
  by_cases handsOut : request.HandsOut
  · left
    cases request
    case getGlobal global =>
      have isAfter : (context.getGlobal global).2 = after :=
        congrArg Prod.snd (Outcome.answered.inj answered)
      exact isAfter ▸ context.getGlobal_issues global
    case lookup inst name =>
      have isAfter : (context.lookup inst name).2 = after :=
        congrArg Prod.snd (Outcome.answered.inj answered)
      exact isAfter ▸ context.lookup_issues inst name
    case exports inst =>
      have isAfter : (context.exports inst).2 = after :=
        congrArg Prod.snd (Outcome.answered.inj answered)
      exact isAfter ▸ context.exports_issues inst
    all_goals exact handsOut.elim
  · exact .inr (answer_touches answered handsOut)

end Context

end WasmSandbox
