import WasmSandbox.Proofs.Context.ExportTypes
import WasmSandbox.Proofs.Context.MemoryLimit

/-!
Contract: handles that were handed out stand for something.

Owns:
- that in an honest life references which cross the boundary are to functions with an entry,
  however many values the engine passes;
- items that stand for something: those that have a type now;
- that an item which was handed out stands for something from then on.

Handles are numbers, and a number may be beyond the end of what it counts.  Nothing checks
that ahead of time: it follows from where handles come from, and from the fact that nothing
a handle stands for is ever taken away.

Does not own: the arguments and results that fit a signature
(`WasmSandbox.Proofs.Context.TypedBoundary`).
-/

namespace WasmSandbox

open Wasm

namespace Context

variable {σ : Type} {context after : Context σ}

/-! ## References that cross the boundary -/

private theorem deliverCall_backed (context : Context σ) (result : Except CallError (List Val))
    (wait : CallWait σ) :
    (context.deliverCall result wait).1.Backed (context.deliverCall result wait).2 := by
  cases wait <;> trivial

private theorem deliverLink_backed (context : Context σ)
    (result : Except LinkError InstanceHandle) (wait : LinkWait σ) :
    (context.deliverLink result wait).1.Backed (context.deliverLink result wait).2 := by
  cases wait <;> trivial

private theorem afterAdvance_backed (context : Context σ) (cont : GuestCont σ)
    (advance : Advance) :
    (context.afterAdvance cont advance).1.Backed (context.afterAdvance cont advance).2 := by
  cases advance with
  | halted halt => cases halt <;> trivial
  | _ => trivial

theorem beginCall_backed (func : FuncHandle) {args : List Val} (wait : CallWait σ)
    (honest : ∀ target ∈ targets args, target.context = context.id → context.Owns target) :
    (context.beginCall func args wait).1.Backed (context.beginCall func args wait).2 := by
  unfold beginCall
  cases checked : context.checkCall func args with
  | error error => exact deliverCall_backed context _ wait
  | ok entry =>
      obtain ⟨-, -, own, -⟩ := (context.checkCall_eq_ok_iff func args entry).1 checked
      simp only
      split
      · exact fun value member => admits_of_belongsTo own honest value member
      · split <;> trivial

theorem beginLink_backed (artifact : Artifact) (items : List Item) (wait : LinkWait σ) :
    (context.beginLink artifact items wait).1.Backed
      (context.beginLink artifact items wait).2 := by
  rw [beginLink_eq]
  split
  · exact deliverLink_backed _ _ wait
  · split
    · exact deliverLink_backed _ _ wait
    · trivial

private theorem finishClosure_backed {result : Except CallError (List Val)} (cont : HostCont σ)
    (admits : ∀ values, result = .ok values → ∀ value ∈ values, context.Admits value) :
    (context.finishClosure result cont).1.Backed (context.finishClosure result cont).2 := by
  cases cont with
  | called func signature wait =>
      cases result with
      | error error => trivial
      | ok values => exact admits values rfl
  | imported signature below =>
      cases result with
      | error error => trivial
      | ok values =>
          simp only [finishClosure]
          split <;> trivial

private theorem stepClosure_backed (proc : Proc σ) (cont : HostCont σ)
    (honest : ∀ target ∈ stepOffered (.closure proc cont), target.context = context.id →
      context.Owns target) :
    (context.stepClosure proc cont).1.Backed (context.stepClosure proc cont).2 := by
  cases proc with
  | finish slots =>
      apply finishClosure_backed
      intro values checked
      obtain ⟨written, -, own⟩ := checkSlots_eq_ok checked
      refine admits_of_belongsTo own fun target member => honest target ?_
      rw [stepOffered, written, reduceOption_map_some]
      exact member
  | fail error =>
      apply finishClosure_backed
      intro values isResult
      contradiction
  | panic => trivial
  | ask request next =>
      simp only [stepClosure]
      split <;> trivial
  | register signature body next => trivial
  | call func args next => exact beginCall_backed func _ honest
  | link artifact items next => exact beginLink_backed artifact items _

private theorem Sound.enterEngine_backed (sound : context.Sound) (func : FuncKey)
    (args : List Value) (cont : GuestCont σ) :
    (context.enterEngine func args cont).1.Backed (context.enterEngine func args cont).2 := by
  unfold enterEngine
  split
  · rename_i host called
    have lifted := (sound.liftAll_grows args host.signature.params).2
    generalize context.liftAll args host.signature.params = out at lifted
    obtain ⟨outcome, later⟩ := out
    cases outcome with
    | error error => trivial
    | ok values => exact (lifted values rfl).2
  · split
    · exact afterAdvance_backed _ cont _
    · trivial
  · trivial

private theorem Sound.stepReturning_backed (sound : context.Sound) (values : List Value)
    (cont : GuestCont σ) :
    (context.stepReturning values cont).1.Backed (context.stepReturning values cont).2 := by
  cases cont with
  | frame activation below => trivial
  | starting made wait => exact deliverLink_backed _ _ wait
  | called func signature wait =>
      have lifted := (sound.liftAll_grows values signature.results).2
      simp only [stepReturning]
      generalize context.liftAll values signature.results = out at lifted
      obtain ⟨outcome, later⟩ := out
      cases outcome with
      | error error => trivial
      | ok results => exact (lifted results rfl).2

/-- References that cross the boundary after a step are to functions with an entry, if those
that are offered are not made up. -/
theorem Sound.step_backed (sound : context.Sound) {state : RunState σ} {run : Run σ}
    (honest : ∀ target ∈ stepOffered state, target.context = context.id → context.Owns target)
    (stepped : context.step state = some run) : run.1.Backed run.2 := by
  cases state with
  | invoking body args cont =>
      cases stepped
      trivial
  | closure proc cont =>
      cases stepped
      exact stepClosure_backed proc cont honest
  | guest activation cont =>
      cases stepped
      exact afterAdvance_backed _ cont _
  | entering func args cont =>
      cases stepped
      exact sound.enterEngine_backed func args cont
  | returning values cont =>
      cases stepped
      exact sound.stepReturning_backed values cont
  | raising error cont =>
      cases stepped
      cases cont with
      | frame activation below => trivial
      | called func signature wait => trivial
      | starting made wait => exact deliverLink_backed context _ wait
  | leaving func signature result wait =>
      cases stepped
      exact deliverCall_backed _ result wait
  | called result => contradiction
  | linked result => contradiction
  | panicked => contradiction

end Context

namespace Stage

variable {σ : Type} {stage after : Stage σ} {act : Act σ}

theorem Sound.take_backed (sound : stage.Sound)
    (honest : ∀ target ∈ stage.offered act, target.context = stage.context.id →
      stage.context.Owns target)
    (taken : stage.take act = some after) : after.Backed := by
  obtain ⟨context, running⟩ := stage
  cases taken_of_take taken with
  | rests context =>
      intro state isRunning
      contradiction
  | called func args isIdle =>
      cases isIdle
      rintro _ ⟨rfl⟩
      exact Context.beginCall_backed func .embedder honest
  | linked artifact items isIdle =>
      rintro _ ⟨rfl⟩
      exact Context.beginLink_backed artifact items .embedder
  | stepped isRunning stepped =>
      cases isRunning
      rintro _ ⟨rfl⟩
      exact sound.context.step_backed honest stepped

end Stage

/-- In an honest life, functions whose handles were handed out have an entry, and references
that cross the boundary are to such functions. -/
theorem Life.issued_owns_and_backed {σ : Type} {fresh : Context σ}
    {past : List (Stage σ × Act σ)} {stage : Stage σ} (life : Life fresh past stage)
    (begins : fresh.Sound) (honest : Honest past) :
    (∀ func ∈ issuedIn past, stage.context.Owns func) ∧ stage.Backed := by
  induction life with
  | created =>
      refine ⟨by simp [issuedIn], ?_⟩
      intro state isRunning
      contradiction
  | @acted earlier stage after act life taken inductionHypothesis =>
      obtain ⟨offeredBefore, honestEarlier⟩ := honest
      have sound := life.sound begins
      obtain ⟨owns, backed⟩ := inductionHypothesis honestEarlier
      constructor
      · intro func member
        rw [issuedIn, List.flatMap_cons, List.mem_append] at member
        rcases member with now | before
        · exact sound.issued_owns backed taken now
        · exact (owns func before).mono (sound.take_leads taken).extension
      · exact sound.take_backed
          (fun func member own => owns func (offeredBefore func member own)) taken

/-! ## Items that stand for something -/

namespace Context

variable {σ : Type} {context after : Context σ}

/-- An item has a type now. -/
def Stands (context : Context σ) (item : Item) : Prop :=
  ∃ type lowered, context.Described item type lowered

theorem Stands.later {item : Item} (stands : context.Stands item)
    (extension : Extends context after) (ages : context.store.Ages after.store)
    (bounded : after.store.Bounded) : after.Stands item := by
  obtain ⟨type, lowered, described⟩ := stands
  obtain ⟨later, isLater, -⟩ := described.later extension ages bounded
  exact ⟨later, lowered, isLater⟩

theorem stands_of_owns {func : FuncHandle} (owns : context.Owns func) :
    context.Stands (.func func) := by
  obtain ⟨entry, found⟩ := (owns_iff func).1 owns
  exact ⟨_, _, .func found⟩

/-! ## Items that are handed out -/

/-- What an instance exports is at the address that it has for it. -/
private theorem exportedItem_stands (tended : context.store.Tended) {owner : Nat}
    {target : ExportTarget} {type : ItemType} {item : Item}
    (shown : context.exportedItem owner target type = (some item, after))
    (owns : ∀ func, item.func? = some func → after.Owns func) : after.Stands item := by
  unfold exportedItem at shown
  split at shown
  · cases shown
  · rename_i owning isOwning
    have placed := tended.placed owning (Array.mem_of_getElem? isOwning)
    split at shown
    · rename_i index signature
      generalize context.handleOf (.guest owner index) (some signature) = out at shown
      obtain ⟨outcome, later⟩ := out
      cases outcome with
      | error reason => cases shown
      | ok func =>
          cases shown
          exact stands_of_owns (owns func rfl)
    · obtain ⟨isItem, rfl⟩ := Prod.mk.inj shown
      obtain ⟨address, isAddress, rfl⟩ := Option.map_eq_some_iff.1 isItem
      rw [← Array.getElem?_toList] at isAddress
      obtain ⟨shape, -, memory, isMemory, -⟩ := forall₂_getElem? placed.memories isAddress
      exact ⟨_, _, .memory (memory_eq_ok_iff.2 ⟨rfl, isMemory⟩)⟩
    · obtain ⟨isItem, rfl⟩ := Prod.mk.inj shown
      obtain ⟨address, isAddress, rfl⟩ := Option.map_eq_some_iff.1 isItem
      rw [← Array.getElem?_toList] at isAddress
      obtain ⟨shape, -, table, isTable, -⟩ := forall₂_getElem? placed.tables isAddress
      exact ⟨_, _, .table (table?_eq_some_iff.2 ⟨rfl, isTable⟩)⟩
    · obtain ⟨isItem, rfl⟩ := Prod.mk.inj shown
      obtain ⟨address, -, rfl⟩ := Option.map_eq_some_iff.1 isItem
      exact ⟨_, _, .global _⟩
    · cases shown

theorem Sound.lookup_stands (sound : context.Sound) (tended : context.store.Tended)
    {inst : InstanceHandle} {name : String} {item : Item}
    (looked : context.lookup inst name = (some item, after)) : after.Stands item := by
  have owns := (sound.lookup_grows inst name).2
  rw [looked] at owns
  unfold lookup at looked
  split at looked
  · cases looked
  · simp only at looked
    split at looked
    · exact exportedItem_stands tended looked (owns item rfl)
    · cases looked

private theorem Sound.lookupAll_stands (sound : context.Sound) (tended : context.store.Tended)
    (inst : InstanceHandle) (names : List String) :
    ∀ shown ∈ (context.lookupAll inst names).1,
      (context.lookupAll inst names).2.Stands shown.2 := by
  induction names generalizing context with
  | nil => simp [lookupAll]
  | cons name rest inductionHypothesis =>
      have grows := (sound.lookup_grows inst name).1
      have works := (context.lookup_issues inst name).works
      have stands {item : Item} {middle : Context σ} :
          context.lookup inst name = (some item, middle) → middle.Stands item :=
        sound.lookup_stands tended
      unfold lookupAll
      generalize context.lookup inst name = out at grows works stands
      obtain ⟨found, middle⟩ := out
      have tendedMiddle := works.tended tended
      have others := inductionHypothesis grows.sound tendedMiddle
      cases found with
      | none => exact others
      | some item =>
          intro shown member
          rcases List.mem_cons.1 member with isFirst | inRest
          · -- The items after it only add to what there is.
            have later := middle.lookupAll_issues inst rest
            rw [isFirst]
            exact (stands rfl).later (grows.sound.lookupAll_grows inst rest).1.extension
              later.works.ages (later.works.tended tendedMiddle).bounded
          · exact others shown inRest

/-- An item in an answer stands for something. -/
theorem Sound.answerMints_stands (sound : context.Sound) (tended : context.store.Tended)
    {request : Request σ} {answer : request.Answer}
    (answered : context.answer request = .answered (answer, after)) {item : Item}
    (member : .item item ∈ request.mints answer) : after.Stands item := by
  cases request
  case createMemory type =>
    cases answer with
    | error error => contradiction
    | ok memory =>
        cases List.mem_singleton.1 member
        obtain ⟨made, found, -⟩ := createMemory_declares answered
        exact ⟨_, _, .memory found⟩
  case createGlobal type value =>
    cases answer with
    | error error => contradiction
    | ok global =>
        cases List.mem_singleton.1 member
        exact ⟨_, _, .global global⟩
  case getGlobal global =>
    obtain ⟨func, isTarget, isItem⟩ := List.mem_map.1 member
    cases isItem
    exact stands_of_owns ((sound.answer_grows answered).2 func isTarget)
  case lookup inst name =>
    obtain ⟨shown, isShown, isItem⟩ := List.mem_map.1 member
    cases isItem
    have looked : context.lookup inst name = (answer, after) := Outcome.answered.inj answered
    exact sound.lookup_stands tended (by rw [looked, Option.mem_toList.1 isShown])
  case exports inst =>
    obtain ⟨shown, isShown, isItem⟩ := List.mem_map.1 member
    cases isItem
    have listed : context.exports inst = (answer, after) := Outcome.answered.inj answered
    unfold Context.exports at listed
    split at listed
    · have stands := sound.lookupAll_stands tended inst _ shown (by rw [listed]; exact isShown)
      rwa [listed] at stands
    · cases listed
      contradiction
  all_goals contradiction

private theorem stands_of_target {values : List Val}
    (admits : ∀ value ∈ values, context.Admits value) (extension : Extends context after)
    {item : Item}
    (member : .item item ∈ (targets values).map fun func => Handle.item (.func func)) :
    after.Stands item := by
  obtain ⟨func, isTarget, isItem⟩ := List.mem_map.1 member
  cases isItem
  exact stands_of_owns ((owns_of_admits admits isTarget).mono extension)

theorem linkMints_not_item {artifact : Artifact} {items : List Item} {item : Item} :
    .item item ∉ context.linkMints artifact items := by
  unfold linkMints
  split <;> simp

/-- An item that a step hands out stands for something. -/
theorem Sound.stepMints_stands (sound : context.Sound) (tended : context.store.Tended)
    {state : RunState σ} {run : Run σ} (fits : ∀ frame ∈ state.frames, context.Fits frame)
    (backed : context.Backed state) (stepped : context.step state = some run) {item : Item}
    (member : .item item ∈ context.stepMints state) : run.1.Stands item := by
  have extension := (sound.step_continues fits stepped).extension
  cases state with
  | invoking body args cont => exact stands_of_target backed extension member
  | leaving func signature result wait =>
      cases result with
      | error error => contradiction
      | ok values => exact stands_of_target backed extension member
  | closure proc cont =>
      cases proc with
      | ask request next =>
          cases stepped
          have member : .item item ∈ context.answerMints request := member
          unfold answerMints at member
          simp only [stepClosure]
          cases answered : context.answer request with
          | answered out =>
              rw [answered] at member
              exact sound.answerMints_stands tended answered member
          | panicked =>
              rw [answered] at member
              contradiction
      | register signature body next =>
          cases stepped
          cases List.mem_singleton.1 member
          exact stands_of_owns (createFunc_owns signature body)
      | link artifact items next => exact absurd member linkMints_not_item
      | _ => contradiction
  | returning values cont =>
      cases cont with
      | starting made wait => simp [stepMints] at member
      | _ => contradiction
  | _ => contradiction

end Context

/-- An item that an act hands out stands for something after the act. -/
theorem Stage.Sound.mints_stands {σ : Type} {stage after : Stage σ} {act : Act σ}
    (sound : stage.Sound) (tended : stage.context.store.Tended) (backed : stage.Backed)
    (taken : stage.take act = some after) {item : Item} (member : .item item ∈ stage.mints act) :
    after.context.Stands item := by
  have soundContext : stage.context.Sound := sound.context
  cases take_eq_some_iff.1 taken with
  | @answered context after request answer answered =>
      have member : .item item ∈ context.answerMints request := member
      rw [Context.answerMints, answered] at member
      exact soundContext.answerMints_stands tended answered member
  | @unanswered context request panicked =>
      have member : .item item ∈ context.answerMints request := member
      rw [Context.answerMints, panicked] at member
      contradiction
  | registered context signature body =>
      cases List.mem_singleton.1 member
      exact Context.stands_of_owns (Context.createFunc_owns signature body)
  | linked context artifact items => exact absurd member Context.linkMints_not_item
  | @stepped context state run stepped =>
      exact soundContext.stepMints_stands tended sound.fits (backed state rfl) stepped member
  | _ => contradiction

/-- The handles of all sorts that were handed out. -/
def mintedIn {σ : Type} (past : List (Stage σ × Act σ)) : List Handle :=
  past.flatMap fun happened => happened.1.mints happened.2

/-- In an honest life, an item that was handed out stands for something ever since. -/
theorem Life.minted_stands {σ : Type} {fresh : Context σ} {past : List (Stage σ × Act σ)}
    {stage : Stage σ} (life : Life fresh past stage) (begins : fresh.Sound)
    (tended : fresh.store.Tended) (honest : Honest past) (valid : LinksValid past) {item : Item}
    (member : .item item ∈ mintedIn past) : stage.context.Stands item := by
  induction life with
  | created => simp [mintedIn] at member
  | @acted earlier stage after act life taken inductionHypothesis =>
      obtain ⟨now, validEarlier⟩ := List.forall_mem_cons.1 valid
      have sound := life.sound begins
      have tendedNow := life.tended tended validEarlier
      rw [mintedIn, List.flatMap_cons, List.mem_append] at member
      rcases member with latest | before
      · have backed := (life.issued_owns_and_backed begins honest.2).2
        exact sound.mints_stands tendedNow backed taken latest
      · obtain ⟨ages, tendedAfter⟩ := take_tended tendedNow taken now
        exact (inductionHypothesis honest.2 validEarlier before).later
          (sound.take_leads taken).extension ages tendedAfter.bounded

end WasmSandbox
