import Mathlib.Logic.Function.Basic
import WasmSandbox.Proofs.Context.Lives

/-!
Contract: contexts side by side, and that they do not interfere.

Owns:
- worlds: environments with their caches, and contexts under the numbers of their creation;
- events, in any order: what is done with an environment, the creation and the end of a
  context, and every act on a context, a single step of a run included;
- what an act answers;
- that the state of a context, and what it answers, only come from the events on it;
- that every context of a world is at a stage of a life.

Contexts of one environment share the environment and its artifacts.  An act carries the
artifacts, values and handles that it is about, wherever they come from.

Does not own: what becomes of handles of other contexts.
-/

namespace WasmSandbox

/-! ## Answers -/

/-- What the embedder is answered. -/
inductive Reply (σ : Type) where
  | answered (request : Request σ) (answer : request.Answer)
  | made (func : FuncHandle)
  | fuelSet (result : Except SandboxError Unit)
  | returned (result : Except CallError (List Val))
  | linked (result : Except LinkError InstanceHandle)
  | panicked

/-- What an act answers.  A call and a link are answered when they are put aside. -/
def Stage.reply {σ : Type} : Stage σ → Act σ → Option (Reply σ)
  | ⟨context, none⟩, .ask request =>
      match context.answer request with
      | .answered (answer, _) => some (.answered request answer)
      | .panicked => some .panicked
  | ⟨context, none⟩, .register signature body => some (.made (context.createFunc signature body).1)
  | ⟨context, none⟩, .setFuel fuel => some (.fuelSet ((context.setFuel fuel).map fun _ => ()))
  | ⟨_, some (.called result)⟩, .close => some (.returned result)
  | ⟨_, some (.linked result)⟩, .close => some (.linked result)
  | ⟨_, some .panicked⟩, .close => some .panicked
  | _, _ => none

/-! ## Worlds -/

/-- Environments, and contexts by number.  The host data of context `number` are of type
`σ number`. -/
structure World (σ : Nat → Type) where
  environments : List Environment := []
  contexts : (number : Nat) → Option (Stage (σ number)) := fun _ => none
  /-- The number of the next context. -/
  created : Nat := 0

/-- What can happen in a world. -/
inductive Event (σ : Nat → Type) where
  | establish (config : Config)
  | compile (environment : Nat) (input : List UInt8)
  | evict (environment : Nat) (artifact : Artifact)
  | clearCache (environment : Nat)
  | create (number environment : Nat) (data : σ number)
  | drop (number : Nat)
  | act (number : Nat) (act : Act (σ number))

/-- The context with the number that an event is about. -/
def Event.number? {σ : Nat → Type} : Event σ → Option Nat
  | .create number _ _ => some number
  | .drop number => some number
  | .act number _ => some number
  | _ => none

namespace World

variable {σ : Nat → Type}

/-- The identity of a context: a count from one on, in 64 bits. -/
def identity (number : Nat) : ContextId := ⟨(number + 1) % UInt64.size⟩

def changeEnvironment (world : World σ) (position : Nat) (change : Environment → Environment) :
    World σ :=
  { world with environments := world.environments.modify position change }

def setContext (world : World σ) (number : Nat) (stage : Option (Stage (σ number))) : World σ :=
  { world with contexts := Function.update world.contexts number stage }

/-- The world after an event.  What is not possible changes nothing; the only context that
can be created is the next one. -/
def apply (world : World σ) : Event σ → World σ
  | .establish config =>
      match Environment.create ⟨world.environments.length⟩ config with
      | .ok environment => { world with environments := world.environments ++ [environment] }
      | .error _ => world
  | .compile position input =>
      world.changeEnvironment position fun environment =>
        match environment.compile input with
        | .ok (_, after) => after
        | .error _ => environment
  | .evict position artifact =>
      world.changeEnvironment position fun environment => (environment.evict artifact).2
  | .clearCache position => world.changeEnvironment position Environment.clearCache
  | .create number position data =>
      if number = world.created then
        match world.environments[position]? with
        | some environment =>
            { world.setContext number (some (.idle (.create (identity number) environment data)))
              with created := number + 1 }
        | none => world
      else world
  | .drop number => world.setContext number none
  | .act number act =>
      match (world.contexts number).bind (·.take act) with
      | some after => world.setContext number (some after)
      | none => world

/-- What an event answers, with the number of the context that answers. -/
def reply? (world : World σ) : Event σ → Option ((number : Nat) × Reply (σ number))
  | .act number act =>
      ((world.contexts number).bind (·.reply act)).map fun answer => ⟨number, answer⟩
  | _ => none

/-- The world after events. -/
def run (world : World σ) (events : List (Event σ)) : World σ :=
  events.foldl apply world

/-- All that is answered to events, in their order. -/
def replies (world : World σ) : List (Event σ) → List ((number : Nat) × Reply (σ number))
  | [] => []
  | event :: rest => (world.reply? event).toList ++ (world.apply event).replies rest

/-! ## Isolation -/

theorem setContext_of_ne (world : World σ) {number other : Nat} (apart : other ≠ number)
    (stage : Option (Stage (σ number))) :
    (world.setContext number stage).contexts other = world.contexts other :=
  Function.update_of_ne apart ..

theorem setContext_self (world : World σ) (number : Nat) (stage : Option (Stage (σ number))) :
    (world.setContext number stage).contexts number = stage :=
  Function.update_self ..

/-- The same context has the same stage in two worlds, and is not still to be created. -/
structure Alike (number : Nat) (one other : World σ) : Prop where
  context : one.contexts number = other.contexts number
  existing : number < one.created
  existingToo : number < other.created

theorem created_le_apply (world : World σ) (event : Event σ) :
    world.created ≤ (world.apply event).created := by
  cases event with
  | establish config =>
      simp only [apply]
      split <;> exact Nat.le_refl _
  | create number position data =>
      simp only [apply]
      split
      · rename_i next
        split
        · exact next ▸ Nat.le_succ number
        · exact Nat.le_refl _
      · exact Nat.le_refl _
  | act number act =>
      simp only [apply]
      split <;> exact Nat.le_refl _
  | _ => exact Nat.le_refl _

/-- An event that is not about a context leaves it as it is. -/
theorem apply_contexts_of_ne (world : World σ) {event : Event σ} {number : Nat}
    (apart : event.number? ≠ some number) :
    (world.apply event).contexts number = world.contexts number := by
  have differs {about : Nat} (isAbout : event.number? = some about) : number ≠ about := by
    rintro rfl
    exact apart isAbout
  cases event with
  | establish config =>
      simp only [apply]
      split <;> rfl
  | create about position data =>
      simp only [apply]
      split
      · split
        · exact world.setContext_of_ne (differs rfl) _
        · rfl
      · rfl
  | drop about => exact world.setContext_of_ne (differs rfl) none
  | act about act =>
      simp only [apply]
      split
      · exact world.setContext_of_ne (differs rfl) _
      · rfl
  | _ => rfl

namespace Alike

variable {number : Nat} {one other : World σ} (alike : Alike number one other)
include alike

/-- An event about other things in one of the worlds makes no difference. -/
theorem apply_left {event : Event σ} (apart : event.number? ≠ some number) :
    Alike number (one.apply event) other where
  context := (one.apply_contexts_of_ne apart).trans alike.context
  existing := Nat.lt_of_lt_of_le alike.existing (one.created_le_apply event)
  existingToo := alike.existingToo

/-- The same event about the context has the same effect on it in both worlds. -/
theorem apply_both {event : Event σ} (about : event.number? = some number) :
    Alike number (one.apply event) (other.apply event) where
  context := by
    cases event with
    | create which position data =>
        cases about
        simp only [apply, if_neg (Nat.ne_of_lt alike.existing),
          if_neg (Nat.ne_of_lt alike.existingToo)]
        exact alike.context
    | drop which =>
        cases about
        simp only [apply, setContext_self]
    | act which act =>
        cases about
        simp only [apply, alike.context]
        split
        · simp only [setContext_self]
        · exact alike.context
    | _ => contradiction
  existing := Nat.lt_of_lt_of_le alike.existing (one.created_le_apply event)
  existingToo := Nat.lt_of_lt_of_le alike.existingToo (other.created_le_apply event)

theorem reply?_eq {event : Event σ} (about : event.number? = some number) :
    one.reply? event = other.reply? event := by
  cases event with
  | act which act =>
      cases about
      simp only [reply?, alike.context]
  | _ => rfl

end Alike

/-- What an event answers comes from the context that the event is about. -/
theorem reply?_number (world : World σ) {event : Event σ}
    {answer : (number : Nat) × Reply (σ number)} (answered : world.reply? event = some answer) :
    event.number? = some answer.1 := by
  cases event with
  | act number act =>
      obtain ⟨content, -, rfl⟩ := Option.map_eq_some_iff.1 answered
      rfl
  | _ => contradiction

/-- What context `number` answers. -/
def repliesOf (world : World σ) (number : Nat) (events : List (Event σ)) :
    List ((number : Nat) × Reply (σ number)) :=
  (world.replies events).filter fun answer => answer.1 = number

theorem repliesOf_cons (world : World σ) (number : Nat) (event : Event σ)
    (rest : List (Event σ)) :
    world.repliesOf number (event :: rest) =
      (world.reply? event).toList.filter (fun answer => answer.1 = number) ++
        (world.apply event).repliesOf number rest := by
  rw [repliesOf, replies, List.filter_append, repliesOf]

/-- An event on another context is not answered by this one. -/
theorem reply?_filter_of_ne (world : World σ) {event : Event σ} {number : Nat}
    (apart : event.number? ≠ some number) :
    (world.reply? event).toList.filter (fun answer => answer.1 = number) = [] := by
  rw [List.filter_eq_nil_iff]
  intro answer member
  have isAbout := world.reply?_number (Option.mem_toList.1 member)
  simp only [decide_eq_true_eq]
  rintro rfl
  exact apart isAbout

/-- The events about a context. -/
def eventsOf (number : Nat) (events : List (Event σ)) : List (Event σ) :=
  events.filter fun event => event.number? = some number

/-- Of the events, only those about a context matter to it and to its answers. -/
theorem Alike.run_eventsOf {number : Nat} {one other : World σ} (alike : Alike number one other)
    (events : List (Event σ)) :
    Alike number (one.run events) (other.run (eventsOf number events)) ∧
      one.repliesOf number events = other.repliesOf number (eventsOf number events) := by
  -- The second world skips the events about other things, so both worlds vary.
  induction events generalizing one other with
  | nil => exact ⟨alike, rfl⟩
  | cons event rest inductionHypothesis =>
      by_cases about : event.number? = some number
      · have same : eventsOf number (event :: rest) = event :: eventsOf number rest :=
          List.filter_cons_of_pos (by simp [about])
        obtain ⟨states, answers⟩ := inductionHypothesis (alike.apply_both about)
        rw [same, repliesOf_cons, repliesOf_cons, alike.reply?_eq about, answers]
        exact ⟨states, rfl⟩
      · have same : eventsOf number (event :: rest) = eventsOf number rest :=
          List.filter_cons_of_neg (by simp [about])
        obtain ⟨states, answers⟩ := inductionHypothesis (alike.apply_left about)
        rw [same, repliesOf_cons, one.reply?_filter_of_ne about, List.nil_append, answers]
        exact ⟨states, rfl⟩

/-- All answers to the events about a context are answers of this context. -/
theorem repliesOf_eventsOf (world : World σ) (number : Nat) (events : List (Event σ)) :
    world.repliesOf number (eventsOf number events) = world.replies (eventsOf number events) := by
  have about : ∀ event ∈ eventsOf number events, event.number? = some number := by
    intro event member
    simpa [eventsOf] using (List.mem_filter.1 member).2
  generalize eventsOf number events = own at about
  induction own generalizing world with
  | nil => rfl
  | cons event rest inductionHypothesis =>
      rw [repliesOf_cons, replies, inductionHypothesis _ fun later member =>
        about later (List.mem_cons_of_mem _ member)]
      congr 1
      rw [List.filter_eq_self]
      intro answer member
      have isAbout := world.reply?_number (Option.mem_toList.1 member)
      rw [about event (List.mem_cons_self ..)] at isAbout
      simpa using (Option.some.inj isAbout).symm

/-- What a context has to do with what happens beside it. -/
structure Isolated (world : World σ) (number : Nat) (events : List (Event σ)) : Prop where
  /-- The context ends as if the events about it had happened alone. -/
  state : (world.run events).contexts number =
    (world.run (eventsOf number events)).contexts number
  /-- It answers what it would have answered to these events alone. -/
  answers : world.repliesOf number events = world.replies (eventsOf number events)
  /-- The same holds in any other world with the same context and any other events around
  those about it, whatever the environments and contexts are there. -/
  elsewhere : ∀ {other : World σ} {others : List (Event σ)}, Alike number world other →
    eventsOf number others = eventsOf number events →
      (other.run others).contexts number = (world.run events).contexts number ∧
        other.repliesOf number others = world.repliesOf number events

/-- Contexts do not interfere: however acts on other contexts, the creation and the end of
contexts, and what is done with environments come between the acts on a context, its state
and its answers are those of its own acts. -/
theorem isolated (world : World σ) {number : Nat} (existing : number < world.created)
    (events : List (Event σ)) : Isolated world number events := by
  have alike : Alike number world world := ⟨rfl, existing, existing⟩
  obtain ⟨states, answers⟩ := alike.run_eventsOf events
  refine ⟨states.context, ?_, ?_⟩
  · rw [answers, repliesOf_eventsOf]
  · intro other others alikeOther sameEvents
    have mirrored : Alike number other world :=
      ⟨alikeOther.context.symm, alikeOther.existingToo, alikeOther.existing⟩
    obtain ⟨otherStates, otherAnswers⟩ := mirrored.run_eventsOf others
    rw [otherAnswers, sameEvents, answers, states.context]
    exact ⟨sameEvents ▸ otherStates.context, rfl⟩

/-- Two contexts of one environment, each with a function that adds to its host data.
While the call of one of them goes on, the other one is called, and the artifacts that are
kept are given up. -/
theorem isolated_of_counters :
    let adds : Closure Nat := fun _ => .ask (.modify (· + 1)) fun _ => .finish Slots.empty
    let world : World fun _ => Nat :=
      run {} [.establish {}, .create 0 0 (5 : Nat), .create 1 0 (7 : Nat)]
    let events : List (Event fun _ => Nat) :=
      [.act 0 (.register .empty adds), .act 1 (.register .empty adds),
        .act 0 (.call ⟨identity 0, 0⟩ []), .act 1 (.call ⟨identity 1, 0⟩ []), .act 0 .step,
        .act 1 .step, .clearCache 0, .act 1 .step, .act 1 .step, .act 0 .step, .act 0 .step,
        .drop 1, .act 0 .step, .act 0 .close, .act 0 (.ask .data)]
    0 < world.created ∧ Isolated world 0 events ∧
      world.replies (eventsOf 0 events) =
        [⟨0, .made ⟨identity 0, 0⟩⟩, ⟨0, .returned (.ok [])⟩, ⟨0, .answered .data (6 : Nat)⟩] := by
  intro adds world events
  exact ⟨by decide, isolated world (by decide) events, rfl⟩

/-! ## Lives -/

/-- Every context of a world was created under its number, and is at a stage of a life. -/
def Lived (world : World σ) : Prop :=
  ∀ (number : Nat) (stage : Stage (σ number)), world.contexts number = some stage →
    number < world.created ∧ ∃ environment data past,
      Life (.create (identity number) environment data) past stage

theorem Lived.setContext {world : World σ} (lived : world.Lived) {number : Nat}
    {stage : Option (Stage (σ number))}
    (life : ∀ after, stage = some after → number < world.created ∧ ∃ environment data past,
      Life (.create (identity number) environment data) past after) :
    (world.setContext number stage).Lived := by
  intro other after found
  by_cases same : other = number
  · subst same
    rw [setContext_self] at found
    exact life after found
  · rw [world.setContext_of_ne same] at found
    exact lived other after found

theorem Lived.apply {world : World σ} (lived : world.Lived) (event : Event σ) :
    (world.apply event).Lived := by
  cases event with
  | establish config =>
      simp only [World.apply]
      split
      · exact lived
      · exact lived
  | create number position data =>
      simp only [World.apply]
      split
      · rename_i next
        split
        · rename_i environment _
          intro other stage found
          by_cases same : other = number
          · subst same
            cases (world.setContext_self other _).symm.trans found
            exact ⟨Nat.lt_succ_self _, environment, data, [], .created⟩
          · obtain ⟨before, life⟩ :=
              lived other stage ((world.setContext_of_ne same _).symm.trans found)
            exact ⟨Nat.lt_succ_of_lt (next ▸ before), life⟩
        · exact lived
      · exact lived
  | drop number => exact lived.setContext fun after isNone => by contradiction
  | act number act =>
      simp only [World.apply]
      split
      · rename_i after taken
        obtain ⟨stage, found, taken⟩ := Option.bind_eq_some_iff.1 taken
        obtain ⟨existing, environment, data, past, life⟩ := lived number stage found
        refine lived.setContext ?_
        rintro _ ⟨rfl⟩
        exact ⟨existing, environment, data, _, life.acted taken⟩
      · exact lived
  | _ => exact lived

/-- Every context that came about in a world is at a stage of a life. -/
theorem lived_run (events : List (Event σ)) : (run {} events : World σ).Lived := by
  have further (world : World σ) (lived : world.Lived) : (world.run events).Lived := by
    induction events generalizing world with
    | nil => exact lived
    | cons event rest inductionHypothesis => exact inductionHypothesis _ (lived.apply event)
  exact further {} fun _ _ found => by contradiction

end World

end WasmSandbox
