import WasmSandbox.Proofs.Context.TypedBoundary

/-!
Contract: handles bear the identity of the context that hands them out.

Owns:
- handles of all sorts, and those that an act hands out: in answers, as arguments of a
  closure, as results of a call, and for what is made or linked;
- that values which cross the boundary belong to the context, whatever was offered to it;
- that what an act hands out bears the identity of the context.

Does not own: that a handle stands for something (`WasmSandbox.Proofs.Context.TypedBoundary`).
-/

namespace WasmSandbox

open Wasm

/-- A handle of anything that a context holds. -/
inductive Handle where
  | item (item : Item)
  | inst (inst : InstanceHandle)

def Handle.context : Handle → ContextId
  | .item content => content.context
  | .inst handle => handle.context

/-! ## Handles that are handed out -/

/-- The handles in an answer. -/
def Request.mints {σ : Type} : (request : Request σ) → request.Answer → List Handle
  | .createMemory _, answer => answer.toOption.toList.map fun memory => .item (.memory memory)
  | .createGlobal _ _, answer => answer.toOption.toList.map fun global => .item (.global global)
  | .getGlobal _, answer =>
      (targets answer.toOption.toList).map fun func => .item (.func func)
  | .lookup _ _, answer => answer.toList.map .item
  | .exports _, answer => answer.map fun shown => .item shown.2
  | _, _ => []

namespace Context

variable {σ : Type}

def answerMints (context : Context σ) (request : Request σ) : List Handle :=
  match context.answer request with
  | .answered (answer, _) => request.mints answer
  | .panicked => []

/-- The instance that a link makes at once, without a start function. -/
def linkMints (context : Context σ) (artifact : Artifact) (items : List Item) : List Handle :=
  match (context.beginLink artifact items .embedder).2 with
  | .linked (.ok inst) => [.inst inst]
  | _ => []

/-- The handles that a step hands out: to a closure that starts, asks, makes a function or
links, or to whoever called or linked. -/
def stepMints (context : Context σ) : RunState σ → List Handle
  | .invoking _ args _ => (targets args).map fun func => .item (.func func)
  | .closure (.ask request _) _ => context.answerMints request
  | .closure (.register signature body _) _ =>
      [.item (.func (context.createFunc signature body).1)]
  | .closure (.link artifact items _) _ => context.linkMints artifact items
  | .leaving _ _ (.ok values) _ => (targets values).map fun func => .item (.func func)
  | .returning _ (.starting made _) => [.inst (context.addInstance made).1]
  | _ => []

end Context

/-- The handles that an act hands out. -/
def Stage.mints {σ : Type} : Stage σ → Act σ → List Handle
  | ⟨context, none⟩, .ask request => context.answerMints request
  | ⟨context, none⟩, .register signature body =>
      [.item (.func (context.createFunc signature body).1)]
  | ⟨context, none⟩, .link artifact items => context.linkMints artifact items
  | ⟨context, some state⟩, .step => context.stepMints state
  | _, _ => []

/-! ## Handles bear the identity of their context -/

namespace Context

variable {σ : Type} {context after : Context σ}

theorem handleOf_context {origin : FuncKey} {declared : Option Signature} {func : FuncHandle}
    (handedOut : (context.handleOf origin declared).1 = .ok func) : func.context = context.id := by
  unfold handleOf at handedOut
  simp only at handedOut
  split at handedOut
  · rw [← Except.ok.inj handedOut]
  · split at handedOut
    · rw [← Except.ok.inj handedOut, enterFunc]
    · contradiction

theorem createMemory_context {type : MemoryType} {memory : MemoryHandle}
    (made : context.createMemory type = .answered (.ok memory, after)) :
    memory.context = context.id := by
  unfold createMemory at made
  simp only at made
  split at made
  · simp at made
  · split at made
    · contradiction
    · split at made
      · cases made
        rfl
      · simp at made

theorem createGlobal_context {type : GlobalType} {value : Val} {global : GlobalHandle}
    (made : context.createGlobal type value = .ok (global, after)) :
    global.context = context.id := by
  obtain ⟨-, -, content, -, same⟩ := createGlobal_eq_ok_iff.1 made
  cases same
  rfl

theorem exportedItem_context {owner : Nat} {target : ExportTarget} {type : ItemType} {item : Item}
    (shown : (context.exportedItem owner target type).1 = some item) :
    item.context = context.id := by
  unfold exportedItem at shown
  split at shown
  · contradiction
  · split at shown
    · rename_i index signature
      have handedOut (func : FuncHandle) :
          (context.handleOf (.guest owner index) (some signature)).1 = .ok func →
            func.context = context.id := handleOf_context
      generalize context.handleOf (.guest owner index) (some signature) = out at shown handedOut
      obtain ⟨outcome, later⟩ := out
      cases outcome with
      | ok func =>
          cases shown
          exact handedOut func rfl
      | error reason => contradiction
    · obtain ⟨address, -, rfl⟩ := Option.map_eq_some_iff.1 shown
      rfl
    · obtain ⟨address, -, rfl⟩ := Option.map_eq_some_iff.1 shown
      rfl
    · obtain ⟨address, -, rfl⟩ := Option.map_eq_some_iff.1 shown
      rfl
    · contradiction

theorem lookup_context {inst : InstanceHandle} {name : String} {item : Item}
    (shown : (context.lookup inst name).1 = some item) : item.context = context.id := by
  unfold lookup at shown
  split at shown
  · contradiction
  · simp only at shown
    split at shown
    · exact exportedItem_context shown
    · contradiction

theorem Sound.lookupAll_context (sound : context.Sound) (inst : InstanceHandle)
    (names : List String) :
    ∀ shown ∈ (context.lookupAll inst names).1, shown.2.context = context.id := by
  induction names generalizing context with
  | nil => simp [lookupAll]
  | cons name rest inductionHypothesis =>
      have grows := (sound.lookup_grows inst name).1
      have found (item : Item) :
          (context.lookup inst name).1 = some item → item.context = context.id := lookup_context
      unfold lookupAll
      generalize context.lookup inst name = out at grows found
      obtain ⟨outcome, middle⟩ := out
      have others := inductionHypothesis grows.sound
      rw [grows.extension.id] at others
      cases outcome with
      | none => exact others
      | some item =>
          intro shown member
          rcases List.mem_cons.1 member with isFirst | inRest
          · rw [isFirst]
            exact found item rfl
          · exact others shown inRest

theorem changed_eq_ok {ε α : Type} {outcome : Except ε (α × Context σ)} {answer : α}
    (same : context.changed outcome = (.ok answer, after)) : outcome = .ok (answer, after) := by
  unfold changed at same
  split at same
  · cases same
    rfl
  · cases same

/-- An answer holds handles of the context that answers. -/
theorem Sound.answerMints_context (sound : context.Sound) {request : Request σ} {handle : Handle}
    (member : handle ∈ context.answerMints request) : handle.context = context.id := by
  unfold answerMints at member
  cases answered : context.answer request with
  | panicked =>
      rw [answered] at member
      contradiction
  | answered out =>
      obtain ⟨answer, after⟩ := out
      rw [answered] at member
      cases request
      case createMemory type =>
        cases answer with
        | error error => contradiction
        | ok memory =>
            rw [List.mem_singleton.1 member]
            exact createMemory_context answered
      case createGlobal type value =>
        cases answer with
        | error error => contradiction
        | ok global =>
            rw [List.mem_singleton.1 member]
            exact createGlobal_context (changed_eq_ok (Outcome.answered.inj answered))
      case getGlobal global =>
        obtain ⟨grows, owns⟩ := sound.answer_grows answered
        obtain ⟨func, isTarget, rfl⟩ := List.mem_map.1 member
        exact (owns func isTarget).1.trans grows.extension.id
      case lookup inst name =>
        have found : context.lookup inst name = (answer, after) := Outcome.answered.inj answered
        obtain ⟨item, isFound, rfl⟩ := List.mem_map.1 member
        exact lookup_context (by rw [found, Option.mem_toList.1 isFound])
      case exports inst =>
        have listed : context.exports inst = (answer, after) := Outcome.answered.inj answered
        obtain ⟨shown, isShown, rfl⟩ := List.mem_map.1 member
        unfold Context.exports at listed
        split at listed
        · exact sound.lookupAll_context inst _ shown (by rw [listed]; exact isShown)
        · cases listed
          contradiction
      all_goals contradiction

theorem beginLink_linked_context {artifact : Artifact} {items : List Item}
    {inst : InstanceHandle}
    (linked : (context.beginLink artifact items .embedder).2 = .linked (.ok inst)) :
    inst.context = context.id := by
  unfold beginLink at linked
  simp only [onStore_eq] at linked
  split at linked
  · cases linked
  · split at linked
    · cases linked
    · split at linked
      · cases linked
      · split at linked
        · cases linked
          rfl
        · cases linked

theorem linkMints_context {artifact : Artifact} {items : List Item} {handle : Handle}
    (member : handle ∈ context.linkMints artifact items) : handle.context = context.id := by
  unfold linkMints at member
  split at member
  · rename_i inst linked
    rw [List.mem_singleton.1 member]
    exact beginLink_linked_context linked
  · contradiction

/-! ## Values that cross bear it too -/

/-- References among the values are to functions with the identity of the context. -/
def Stamps (context : Context σ) (values : List Val) : Prop :=
  ∀ value ∈ values, value.belongsTo context.id = true

/-- What a closure starts on, and what the call routine returns, belongs to the context. -/
def Stamped (context : Context σ) : RunState σ → Prop
  | .invoking _ args _ => context.Stamps args
  | .leaving _ _ (.ok values) _ => context.Stamps values
  | _ => True

theorem Stamps.target_context {values : List Val} (stamps : context.Stamps values)
    {func : FuncHandle} (member : func ∈ targets values) : func.context = context.id := by
  obtain ⟨value, inValues, isTarget⟩ := List.mem_filterMap.1 member
  exact (belongsTo_iff context.id value).1 (stamps value inValues) func isTarget

theorem stamps_iff {values : List Val} :
    context.Stamps values ↔ ∀ func ∈ targets values, func.context = context.id := by
  refine ⟨fun stamps func member => stamps.target_context member, ?_⟩
  intro own value member
  exact (belongsTo_iff context.id value).2 fun func isTarget =>
    own func (List.mem_filterMap.2 ⟨value, member, isTarget⟩)

theorem Sound.liftAll_stamps (sound : context.Sound) {values : List Value}
    {kinds : List ValueKind} {lifted : List Val}
    (passes : (context.liftAll values kinds).1 = .ok lifted) :
    (context.liftAll values kinds).2.Stamps lifted := by
  intro value member
  refine (belongsTo_iff _ value).2 ?_
  intro func isTarget
  exact (((sound.liftAll_grows values kinds).2 lifted passes).2 value member func isTarget).1

theorem deliverCall_stamped (context : Context σ) (result : Except CallError (List Val))
    (wait : CallWait σ) :
    (context.deliverCall result wait).1.Stamped (context.deliverCall result wait).2 := by
  cases wait <;> trivial

theorem deliverLink_stamped (context : Context σ) (result : Except LinkError InstanceHandle)
    (wait : LinkWait σ) :
    (context.deliverLink result wait).1.Stamped (context.deliverLink result wait).2 := by
  cases wait <;> trivial

theorem beginCall_stamped (context : Context σ) (func : FuncHandle) (args : List Val)
    (wait : CallWait σ) :
    (context.beginCall func args wait).1.Stamped (context.beginCall func args wait).2 := by
  unfold beginCall
  cases checked : context.checkCall func args with
  | error error => exact deliverCall_stamped context _ wait
  | ok entry =>
      obtain ⟨-, -, own, -⟩ := (context.checkCall_eq_ok_iff func args entry).1 checked
      simp only
      split
      · exact own
      · split <;> trivial

theorem beginLink_stamped (context : Context σ) (artifact : Artifact) (items : List Item)
    (wait : LinkWait σ) :
    (context.beginLink artifact items wait).1.Stamped
      (context.beginLink artifact items wait).2 := by
  unfold beginLink
  simp only [onStore_eq]
  split
  · exact deliverLink_stamped context _ wait
  · split
    · exact deliverLink_stamped context _ wait
    · split
      · exact deliverLink_stamped _ _ wait
      · split
        · exact deliverLink_stamped _ _ wait
        · trivial

theorem finishClosure_stamped {result : Except CallError (List Val)} (cont : HostCont σ)
    (stamps : ∀ values, result = .ok values → context.Stamps values) :
    (context.finishClosure result cont).1.Stamped (context.finishClosure result cont).2 := by
  cases cont with
  | called func signature wait =>
      cases result with
      | error error => trivial
      | ok values => exact stamps values rfl
  | imported signature below =>
      cases result with
      | error error => trivial
      | ok values =>
          simp only [finishClosure]
          split <;> trivial

theorem afterAdvance_stamped (context : Context σ) (cont : GuestCont σ) (advance : Advance) :
    (context.afterAdvance cont advance).1.Stamped (context.afterAdvance cont advance).2 := by
  cases advance with
  | halted halt => cases halt <;> trivial
  | _ => trivial

theorem Sound.enterEngine_stamped (sound : context.Sound) (func : FuncKey) (args : List Value)
    (cont : GuestCont σ) :
    (context.enterEngine func args cont).1.Stamped (context.enterEngine func args cont).2 := by
  unfold enterEngine
  split
  · rename_i host called
    have stamps (lifted : List Val) :
        (context.liftAll args host.signature.params).1 = .ok lifted →
          (context.liftAll args host.signature.params).2.Stamps lifted := sound.liftAll_stamps
    generalize context.liftAll args host.signature.params = out at stamps
    obtain ⟨outcome, later⟩ := out
    cases outcome with
    | error error => trivial
    | ok values => exact stamps values rfl
  · split
    · exact afterAdvance_stamped _ cont _
    · trivial
  · trivial

theorem Sound.stepReturning_stamped (sound : context.Sound) (values : List Value)
    (cont : GuestCont σ) :
    (context.stepReturning values cont).1.Stamped (context.stepReturning values cont).2 := by
  cases cont with
  | frame activation below => trivial
  | starting made wait => exact deliverLink_stamped _ _ wait
  | called func signature wait =>
      have stamps (lifted : List Val) :
          (context.liftAll values signature.results).1 = .ok lifted →
            (context.liftAll values signature.results).2.Stamps lifted := sound.liftAll_stamps
      simp only [stepReturning]
      generalize context.liftAll values signature.results = out at stamps
      obtain ⟨outcome, later⟩ := out
      cases outcome with
      | error error => trivial
      | ok results => exact stamps results rfl

theorem stepClosure_stamped (context : Context σ) (proc : Proc σ) (cont : HostCont σ) :
    (context.stepClosure proc cont).1.Stamped (context.stepClosure proc cont).2 := by
  cases proc with
  | finish slots =>
      exact finishClosure_stamped cont fun values checked => (checkSlots_eq_ok checked).2.2
  | fail error => exact finishClosure_stamped cont fun values failed => by contradiction
  | panic => trivial
  | ask request next =>
      simp only [stepClosure]
      split <;> trivial
  | register signature body next => trivial
  | call func args next => exact beginCall_stamped context func args _
  | link artifact items next => exact beginLink_stamped context artifact items _

theorem Sound.step_stamped (sound : context.Sound) {state : RunState σ} {run : Run σ}
    (stepped : context.step state = some run) : run.1.Stamped run.2 := by
  cases state with
  | invoking body args cont =>
      cases stepped
      trivial
  | closure proc cont =>
      cases stepped
      exact stepClosure_stamped context proc cont
  | guest activation cont =>
      cases stepped
      exact afterAdvance_stamped _ cont _
  | entering func args cont =>
      cases stepped
      exact sound.enterEngine_stamped func args cont
  | returning values cont =>
      cases stepped
      exact sound.stepReturning_stamped values cont
  | raising error cont =>
      cases stepped
      cases cont with
      | frame activation below => trivial
      | called func signature wait => trivial
      | starting made wait => exact deliverLink_stamped context _ wait
  | leaving func signature result wait =>
      cases stepped
      exact deliverCall_stamped _ result wait
  | called result => contradiction
  | linked result => contradiction
  | panicked => contradiction

theorem Sound.stepMints_context (sound : context.Sound) {state : RunState σ}
    (stamped : context.Stamped state) {handle : Handle}
    (member : handle ∈ context.stepMints state) : handle.context = context.id := by
  cases state with
  | invoking body args cont =>
      obtain ⟨func, isTarget, rfl⟩ := List.mem_map.1 member
      exact Stamps.target_context stamped isTarget
  | leaving func signature result wait =>
      cases result with
      | error error => contradiction
      | ok values =>
          obtain ⟨func, isTarget, rfl⟩ := List.mem_map.1 member
          exact Stamps.target_context stamped isTarget
  | closure proc cont =>
      cases proc with
      | ask request next => exact sound.answerMints_context member
      | register signature body next =>
          rw [List.mem_singleton.1 member]
          rfl
      | link artifact items next => exact linkMints_context member
      | _ => contradiction
  | returning values cont =>
      cases cont with
      | starting made wait =>
          rw [List.mem_singleton.1 member]
          rfl
      | _ => contradiction
  | _ => contradiction

end Context

namespace Stage

variable {σ : Type} {stage after : Stage σ}

/-- Everything that crosses the boundary at a stage belongs to its context. -/
def Stamped (stage : Stage σ) : Prop :=
  ∀ state, stage.running = some state → stage.context.Stamped state

theorem Sound.take_stamped (sound : stage.Sound) {act : Act σ}
    (taken : stage.take act = some after) : after.Stamped := by
  cases taken_of_take taken with
  | rests context =>
      intro state isRunning
      contradiction
  | called func args isIdle =>
      rintro _ ⟨rfl⟩
      exact Context.beginCall_stamped stage.context func args .embedder
  | linked artifact items isIdle =>
      rintro _ ⟨rfl⟩
      exact Context.beginLink_stamped stage.context artifact items .embedder
  | stepped isRunning stepped =>
      rintro _ ⟨rfl⟩
      exact sound.context.step_stamped stepped

/-- What an act hands out bears the identity of the context. -/
theorem Sound.mints_context (sound : stage.Sound) (stamped : stage.Stamped) {act : Act σ}
    {handle : Handle} (member : handle ∈ stage.mints act) :
    handle.context = stage.context.id := by
  obtain ⟨context, running⟩ := stage
  have soundContext : context.Sound := sound.context
  cases running with
  | none =>
      cases act with
      | ask request => exact soundContext.answerMints_context member
      | register signature body =>
          rw [List.mem_singleton.1 member]
          rfl
      | link artifact items => exact Context.linkMints_context member
      | _ => contradiction
  | some state =>
      cases act with
      | step => exact soundContext.stepMints_context (stamped state rfl) member
      | _ => contradiction

end Stage

theorem Life.stamped {σ : Type} {fresh : Context σ} {past : List (Stage σ × Act σ)}
    {stage : Stage σ} (life : Life fresh past stage) (begins : fresh.Sound) : stage.Stamped := by
  cases life with
  | created =>
      intro state isRunning
      contradiction
  | acted earlier taken => exact (earlier.sound begins).take_stamped taken

end WasmSandbox
