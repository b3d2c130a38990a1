import WasmSandbox.Proofs.Context.Lives

/-!
Contract: which functions of a context have a handle, and how many.

Owns:
- sightings: a function is made by the host, or comes out of the engine;
- the sightings of each act, in their order;
- the ledger of a life, in which each function is noted when it is made, or when it is
  first met with a signature that can be described;
- that the function table is that ledger, and that equal handles, equal positions and
  equal keys are the same.

The key of an entry is the one under which the function was entered.  Where every reference
to a function comes out of the engine under that key, keys and functions are the same, and
handles identify functions.  That is so for functions of instances, and for host functions of
a type that some module declares.  A host function of another type comes out under a new key
each time.  What is shown here holds for it too, with one entry for each of these keys, and
`Life.identity_of_global` is such a case.

Does not own: what references stand for after they come out of the engine.
-/

namespace WasmSandbox

open Wasm

/-! ## Sightings -/

/-- A function is seen, under the key by which it is then known. -/
inductive Sighting where
  /-- The host makes it. -/
  | created (key : FuncKey)
  /-- It comes out of the engine, and its signature can be described or not. -/
  | met (key : FuncKey) (described : Bool)
deriving DecidableEq

namespace Sighting

/-- Whether a function is noted: it was made, or it can be described and is met for the
first time. -/
def isNew (known : List FuncKey) : Sighting → Bool
  | created _ => true
  | met key described => described && !known.contains key

/-- The keys that are known after a sighting. -/
def note (known : List FuncKey) (sighting : Sighting) : List FuncKey :=
  if sighting.isNew known then
    match sighting with
    | created key => known ++ [key]
    | met key _ => known ++ [key]
  else known

/-- The keys that are known after some sightings. -/
def noteAll (known : List FuncKey) (sightings : List Sighting) : List FuncKey :=
  sightings.foldl note known

/-- How many functions are noted. -/
def newcomers (known : List FuncKey) : List Sighting → Nat
  | [] => 0
  | sighting :: rest =>
      (if sighting.isNew known then 1 else 0) + newcomers (sighting.note known) rest

theorem length_noteAll (known : List FuncKey) (sightings : List Sighting) :
    (noteAll known sightings).length = known.length + newcomers known sightings := by
  induction sightings generalizing known with
  | nil => rfl
  | cons sighting rest inductionHypothesis =>
      have noted : (sighting.note known).length =
          known.length + if sighting.isNew known then 1 else 0 := by
        unfold note
        split
        · cases sighting <;> simp
        · rfl
      have restNoted := inductionHypothesis (sighting.note known)
      rw [noted] at restNoted
      rw [newcomers, ← Nat.add_assoc]
      exact restNoted

theorem noteAll_append (known : List FuncKey) (earlier later : List Sighting) :
    noteAll known (earlier ++ later) = noteAll (noteAll known earlier) later :=
  List.foldl_append

end Sighting

namespace Context

variable {σ : Type}

/-- The sighting of a function that comes out of the engine. -/
def sighting (context : Context σ) (origin : FuncKey) (declared : Option Signature) : Sighting :=
  let (key, store) := context.store.emerge origin
  .met key (({ context with store := store }.describeFunc key declared).toBool)

/-- The sighting of a value that comes out of the engine. -/
def valueSightings (context : Context σ) (value : Value) (kind : ValueKind) : List Sighting :=
  match value, kind with
  | .funcRef (some key), .funcRef => [context.sighting key none]
  | _, _ => []

/-- The sightings of values that come out of the engine one after the other, up to the
first that cannot. -/
def valuesSightings (context : Context σ) : List Value → List ValueKind → List Sighting
  | value :: values, kind :: kinds =>
      context.valueSightings value kind ++
        match context.lift value kind with
        | (.ok _, after) => after.valuesSightings values kinds
        | (.error _, _) => []
  | _, _ => []

/-- The sighting of an export that is looked up. -/
def lookupSightings (context : Context σ) (inst : InstanceHandle) (name : String) :
    List Sighting :=
  match context.instanceEntry? inst with
  | none => []
  | some entry =>
      let item := entry.artifact.module.exports.find? fun item => item.name == name
      match (entry.artifact.export? name).map ExportDecl.type, item.map Export.target with
      | some (.func signature), some (.func index) =>
          [context.sighting (.guest entry.owner index) (some signature)]
      | _, _ => []

/-- The sightings of exports that are looked up one after the other. -/
def lookupAllSightings (context : Context σ) (inst : InstanceHandle) : List String → List Sighting
  | [] => []
  | name :: rest =>
      context.lookupSightings inst name ++
        (context.lookup inst name).2.lookupAllSightings inst rest

/-- The sighting of a global that is read. -/
def getGlobalSightings (context : Context σ) (handle : GlobalHandle) : List Sighting :=
  if handle.context ≠ context.id then []
  else
    match context.store.globals[handle.address]? with
    | some global => context.valueSightings global.value handle.type.content
    | none => []

/-- The sightings of all exports of an instance. -/
def exportsSightings (context : Context σ) (inst : InstanceHandle) : List Sighting :=
  match context.artifact? inst with
  | some artifact => context.lookupAllSightings inst (artifact.exports.map ExportDecl.name)
  | none => []

/-- The sightings of a request. -/
def requestSightings (context : Context σ) : Request σ → List Sighting
  | .getGlobal handle => context.getGlobalSightings handle
  | .lookup inst name => context.lookupSightings inst name
  | .exports inst => context.exportsSightings inst
  | _ => []

/-- The sighting of a function that the host makes. -/
def registerSightings (context : Context σ) : List Sighting :=
  [.created (.host context.store.hosts.size)]

/-- The sightings of a step: of what a closure asks for and makes, of arguments that
guest code passes to a closure, and of results of guest code. -/
def stepSightings (context : Context σ) : RunState σ → List Sighting
  | .closure (.ask request _) _ => context.requestSightings request
  | .closure (.register _ _ _) _ => context.registerSightings
  | .entering func args _ =>
      match context.store.callee? func with
      | some (.host host) => context.valuesSightings args host.signature.params
      | _ => []
  | .returning values (.called _ signature _) => context.valuesSightings values signature.results
  | _ => []

end Context

/-- The sightings of an act. -/
def Stage.sightings {σ : Type} : Stage σ → Act σ → List Sighting
  | ⟨context, none⟩, .ask request => context.requestSightings request
  | ⟨context, none⟩, .register _ _ => context.registerSightings
  | ⟨context, some state⟩, .step => context.stepSightings state
  | _, _ => []

/-- The functions that were noted in a life, in their order. -/
def ledger {σ : Type} : List (Stage σ × Act σ) → List FuncKey
  | [] => []
  | (stage, act) :: earlier => Sighting.noteAll (ledger earlier) (stage.sightings act)

/-! ## The table as a ledger -/

namespace Context

variable {σ : Type} {context after : Context σ}

theorem createFunc_keys (context : Context σ) (signature : Signature) (body : Closure σ) :
    (context.createFunc signature body).2.funcs.keys =
      Sighting.noteAll context.funcs.keys context.registerSightings := by
  simp [createFunc, enterFunc, Store.addHost, Sighting.noteAll, registerSightings, Sighting.note,
    Sighting.isNew]

/-- A function that comes out of the engine is entered exactly when it is noted. -/
theorem Sound.handleOf_keys (sound : context.Sound) (origin : FuncKey)
    (declared : Option Signature) :
    (context.handleOf origin declared).2.funcs.keys =
      Sighting.noteAll context.funcs.keys [context.sighting origin declared] := by
  unfold handleOf sighting
  generalize context.store.emerge origin = out
  obtain ⟨key, store⟩ := out
  simp only [Sighting.noteAll, List.foldl_cons, List.foldl_nil, Sighting.note, Sighting.isNew]
  cases known : context.funcs.find? key with
  | some index =>
      have member : key ∈ context.funcs.keys :=
        (sound.inverse.find?_isSome_iff key).1 (by simp [known])
      simp [member]
  | none =>
      have unknown : key ∉ context.funcs.keys := (sound.inverse.find?_eq_none_iff key).1 known
      cases described : describeFunc { context with store := store } key declared with
      | error reason => simp [Except.toBool]
      | ok signature => simp [Except.toBool, unknown, enterFunc]

theorem Sound.lift_keys (sound : context.Sound) (value : Value) (kind : ValueKind) :
    (context.lift value kind).2.funcs.keys =
      Sighting.noteAll context.funcs.keys (context.valueSightings value kind) := by
  rcases context.lift_cases value kind with ⟨key, rfl, rfl⟩ | ⟨noFunc, stays⟩
  · have entered := sound.handleOf_keys key none
    rw [lift_func]
    generalize context.handleOf key none = out at entered
    obtain ⟨outcome, after⟩ := out
    cases outcome <;> exact entered
  · have unseen : context.valueSightings value kind = [] := by
      unfold valueSightings
      split
      · rename_i key
        exact absurd rfl (noFunc key rfl)
      · rfl
    rw [unseen]
    rcases stays with ⟨lifted, passes, -, -⟩ | ⟨error, fails⟩
    · rw [passes]
      rfl
    · rw [fails]
      rfl

theorem Sound.liftAll_keys (sound : context.Sound) (values : List Value)
    (kinds : List ValueKind) :
    (context.liftAll values kinds).2.funcs.keys =
      Sighting.noteAll context.funcs.keys (context.valuesSightings values kinds) := by
  induction values generalizing context kinds with
  | nil => rfl
  | cons value values inductionHypothesis =>
      cases kinds with
      | nil => rfl
      | cons kind kinds =>
          have head := sound.lift_keys value kind
          have grows := (sound.lift_grows value kind).1
          unfold liftAll valuesSightings
          rw [Sighting.noteAll_append, ← head]
          generalize context.lift value kind = out at grows
          obtain ⟨outcome, middle⟩ := out
          cases outcome with
          | error error => rfl
          | ok first =>
              have rest := inductionHypothesis grows.sound kinds
              simp only
              rw [← rest]
              generalize middle.liftAll values kinds = others
              obtain ⟨outcome, after⟩ := others
              cases outcome <;> rfl

private theorem exportedItem_keys (sound : context.Sound) {owner : Nat}
    (hosted : (context.store.code? owner).isSome) (target : ExportTarget) (type : ItemType) :
    (context.exportedItem owner target type).2.funcs.keys =
      Sighting.noteAll context.funcs.keys
        (match some type, some target with
          | some (.func signature), some (.func index) =>
              [context.sighting (.guest owner index) (some signature)]
          | _, _ => []) := by
  have exists_ : ∃ owning, context.store.instances[owner]? = some owning := by
    obtain ⟨code, found⟩ := Option.isSome_iff_exists.1 hosted
    obtain ⟨owning, member, -⟩ := (context.store.code?_eq_some_iff owner code).1 found
    exact ⟨owning, member⟩
  obtain ⟨owning, member⟩ := exists_
  unfold exportedItem
  simp only [member]
  cases target <;> cases type
  case func.func index signature =>
    have entered := sound.handleOf_keys (.guest owner index) (some signature)
    simp only
    rw [← entered]
    generalize context.handleOf (.guest owner index) (some signature) = out
    obtain ⟨outcome, after⟩ := out
    cases outcome <;> rfl
  all_goals rfl

theorem Sound.lookup_keys (sound : context.Sound) (inst : InstanceHandle) (name : String) :
    (context.lookup inst name).2.funcs.keys =
      Sighting.noteAll context.funcs.keys (context.lookupSightings inst name) := by
  simp only [lookup, lookupSightings]
  cases found : context.instanceEntry? inst with
  | none => rfl
  | some entry =>
      simp only
      cases entry.artifact.export? name with
      | none => rfl
      | some declared =>
          cases entry.artifact.module.exports.find? fun item => item.name == name with
          | none =>
              simp only [Option.bind_eq_bind, Option.bind_some, Option.bind_none, Option.map_none]
              split
              · contradiction
              · rfl
          | some item =>
              have member : context.instances[inst.index]? = some entry := by
                unfold instanceEntry? at found
                split at found
                · exact found
                · contradiction
              obtain ⟨code, hosted, -⟩ := SoundParts.linked sound member
              exact exportedItem_keys sound (by rw [hosted]; rfl) item.target declared.type

theorem Sound.lookupAll_keys (sound : context.Sound) (inst : InstanceHandle)
    (names : List String) :
    (context.lookupAll inst names).2.funcs.keys =
      Sighting.noteAll context.funcs.keys (context.lookupAllSightings inst names) := by
  induction names generalizing context with
  | nil => rfl
  | cons name rest inductionHypothesis =>
      have head := sound.lookup_keys inst name
      have grows := (sound.lookup_grows inst name).1
      have tail := inductionHypothesis grows.sound
      unfold lookupAll lookupAllSightings
      rw [Sighting.noteAll_append, ← head, ← tail]
      generalize context.lookup inst name = out
      obtain ⟨found, middle⟩ := out
      cases found <;> rfl

theorem Touches.funcs_eq (touches : context.Touches after) : after.funcs = context.funcs := by
  obtain ⟨data, store, -, -, rfl⟩ := touches
  rfl

theorem Sound.getGlobal_keys (sound : context.Sound) (handle : GlobalHandle) :
    (context.getGlobal handle).2.funcs.keys =
      Sighting.noteAll context.funcs.keys (context.getGlobalSightings handle) := by
  unfold getGlobal getGlobalSightings
  split
  · rfl
  · cases context.store.globals[handle.address]? with
    | some global => exact sound.lift_keys global.value handle.type.content
    | none => rfl

theorem Sound.exports_keys (sound : context.Sound) (inst : InstanceHandle) :
    (context.exports inst).2.funcs.keys =
      Sighting.noteAll context.funcs.keys (context.exportsSightings inst) := by
  unfold exports exportsSightings
  cases context.artifact? inst with
  | some artifact => exact sound.lookupAll_keys inst _
  | none => rfl

theorem requestSightings_eq_nil {request : Request σ} (noFuncs : ¬request.HandsOut) :
    context.requestSightings request = [] := by
  cases request
  case getGlobal global => exact absurd trivial noFuncs
  case lookup inst name => exact absurd trivial noFuncs
  case exports inst => exact absurd trivial noFuncs
  all_goals rfl

/-- The functions that are entered by a request are those that are noted. -/
theorem Sound.answer_keys (sound : context.Sound) {request : Request σ}
    {answer : request.Answer} (answered : context.answer request = .answered (answer, after)) :
    after.funcs.keys =
      Sighting.noteAll context.funcs.keys (context.requestSightings request) := by
  by_cases handsOut : request.HandsOut
  · cases request
    case getGlobal global =>
      have entered := sound.getGlobal_keys global
      rw [Outcome.answered.inj answered] at entered
      exact entered
    case lookup inst name =>
      have entered := sound.lookup_keys inst name
      rw [Outcome.answered.inj answered] at entered
      exact entered
    case exports inst =>
      have entered := sound.exports_keys inst
      rw [Outcome.answered.inj answered] at entered
      exact entered
    all_goals exact handsOut.elim
  · rw [(answer_touches answered handsOut).funcs_eq, requestSightings_eq_nil handsOut]
    rfl

/-- The engine does not panic at a request that hands out functions. -/
theorem answer_panicked {request : Request σ} (panicked : context.answer request = .panicked) :
    ¬request.HandsOut := by
  cases request
  case createMemory type => exact fun handsOut => handsOut
  all_goals contradiction

/-! ## Steps and acts -/

theorem beginCall_funcs (context : Context σ) (func : FuncHandle) (args : List Val)
    (wait : CallWait σ) : (context.beginCall func args wait).1.funcs = context.funcs := by
  unfold beginCall
  cases context.checkCall func args with
  | error error => simp only [deliverCall_context]
  | ok entry =>
      simp only
      cases context.hostBody? entry with
      | some body => rfl
      | none =>
          simp only
          cases args.mapM context.lower <;> rfl

theorem beginLink_funcs (context : Context σ) (artifact : Artifact)
    (items : List Item) (wait : LinkWait σ) :
    (context.beginLink artifact items wait).1.funcs = context.funcs := by
  unfold beginLink
  split
  · rw [deliverLink_context]
  · split
    · rw [deliverLink_context]
    · simp only [onStore_eq]
      split
      · rw [deliverLink_context]
      · split
        · simp only [finishLink, deliverLink_context, addInstance]
        · rfl

theorem Sound.step_keys (sound : context.Sound) {state : RunState σ} {run : Run σ}
    (stepped : context.step state = some run) :
    run.1.funcs.keys = Sighting.noteAll context.funcs.keys (context.stepSightings state) := by
  cases state with
  | invoking body args cont =>
      cases stepped
      rfl
  | closure proc cont =>
      cases stepped
      cases proc with
      | finish slots => rw [stepClosure, finishClosure_context]; rfl
      | fail error => rw [stepClosure, finishClosure_context]; rfl
      | panic => rfl
      | ask request next =>
          simp only [stepClosure]
          cases answered : context.answer request with
          | answered out =>
              obtain ⟨answer, after⟩ := out
              exact sound.answer_keys answered
          | panicked =>
              rw [stepSightings, requestSightings_eq_nil (answer_panicked answered)]
              rfl
      | register signature body next => exact createFunc_keys context signature body
      | call func args next => exact congrArg FuncTable.keys (beginCall_funcs ..)
      | link artifact items next => exact congrArg FuncTable.keys (beginLink_funcs ..)
  | guest activation cont =>
      cases stepped
      simp only [afterAdvance_context]
      rfl
  | entering func args cont =>
      cases stepped
      simp only [enterEngine, stepSightings]
      cases context.store.callee? func with
      | none => rfl
      | some callee =>
          cases callee with
          | host host =>
              have entered := sound.liftAll_keys args host.signature.params
              simp only
              generalize context.liftAll args host.signature.params = out at entered
              obtain ⟨outcome, after⟩ := out
              cases outcome <;> exact entered
          | guest owner code =>
              simp only
              split
              · simp only [onStore_eq, afterAdvance_context]
                rfl
              · rfl
  | returning values cont =>
      cases stepped
      cases cont with
      | frame activation below => rfl
      | called func signature wait => exact sound.liftAll_keys values signature.results
      | starting made wait => simp only [stepReturning, finishLink, deliverLink_context]; rfl
  | raising error cont =>
      cases stepped
      cases cont with
      | frame activation below => rfl
      | called func signature wait => rfl
      | starting made wait => rw [stepRaising, deliverLink_context]; rfl
  | leaving func signature result wait =>
      cases stepped
      rw [endCall, deliverCall_context]
      rfl
  | called result => contradiction
  | linked result => contradiction
  | panicked => contradiction

end Context

/-- What an act enters into the function table is what it notes. -/
theorem Stage.Sound.take_keys {σ : Type} {stage after : Stage σ} (sound : stage.Sound)
    {act : Act σ} (taken : stage.take act = some after) :
    after.context.funcs.keys =
      Sighting.noteAll stage.context.funcs.keys (stage.sightings act) := by
  have soundContext : stage.context.Sound := sound.context
  cases take_eq_some_iff.1 taken with
  | answered answered => exact soundContext.answer_keys answered
  | unanswered panicked =>
      rw [sightings, Context.requestSightings_eq_nil (Context.answer_panicked panicked)]
      rfl
  | registered context signature body => exact Context.createFunc_keys context signature body
  | fuelSet set =>
      obtain ⟨-, rfl⟩ := Context.setFuel_eq_ok_iff.1 set
      rfl
  | fuelRefused _ => rfl
  | called context func args => exact congrArg FuncTable.keys (Context.beginCall_funcs ..)
  | linked context artifact items =>
      exact congrArg FuncTable.keys (Context.beginLink_funcs ..)
  | stepped stepped => exact soundContext.step_keys stepped
  | closed _ => rfl

/-! ## Identity -/

/-- What it means that handles identify functions, at a stage of a life. -/
structure Identity {σ : Type} (past : List (Stage σ × Act σ)) (stage : Stage σ) : Prop where
  /-- Positions and keys are inverse to each other. -/
  inverse : stage.context.funcs.Inverse
  /-- Two handles are equal exactly when they stand for the same key. -/
  handle_eq_iff : ∀ {first second : FuncHandle} {one other : FuncEntry},
    stage.context.funcEntry? first = some one → stage.context.funcEntry? second = some other →
      (first = second ↔ one.key = other.key)
  /-- The table has the functions of the ledger, in its order. -/
  keys : stage.context.funcs.keys = ledger past
  /-- An act adds as many functions as it notes. -/
  growth : ∀ {act : Act σ} {after : Stage σ}, stage.take act = some after →
    after.context.funcCount = stage.context.funcCount +
      Sighting.newcomers stage.context.funcs.keys (stage.sightings act)

private theorem ledger_eq_keys {σ : Type} {fresh : Context σ} (sound : fresh.Sound)
    (noFuncs : fresh.funcs.keys = []) {past : List (Stage σ × Act σ)} {stage : Stage σ}
    (life : Life fresh past stage) : stage.context.funcs.keys = ledger past := by
  induction life with
  | created => exact noFuncs
  | acted life taken inductionHypothesis =>
      rw [(life.sound sound).take_keys taken, inductionHypothesis, ledger]

theorem handle_eq_iff_key_eq {σ : Type} {context : Context σ} (sound : context.Sound)
    {first second : FuncHandle} {one other : FuncEntry}
    (firstEntry : context.funcEntry? first = some one)
    (secondEntry : context.funcEntry? second = some other) :
    first = second ↔ one.key = other.key := by
  unfold Context.funcEntry? at firstEntry secondEntry
  split at firstEntry
  · rename_i firstOwn
    split at secondEntry
    · rename_i secondOwn
      rw [← sound.inverse.index_eq_iff firstEntry secondEntry]
      constructor
      · exact congrArg FuncHandle.index
      · intro sameIndex
        obtain ⟨firstContext, firstIndex⟩ := first
        obtain ⟨secondContext, secondIndex⟩ := second
        simp only at firstOwn secondOwn sameIndex
        rw [firstOwn, secondOwn, sameIndex]
    · contradiction
  · contradiction

/-- In every life of a context, whatever the embedder, closures and guest code do and
whatever fails on the way, handles, positions and keys of functions correspond one to
one.  The table has one entry for each function that the host made and one for each
that could be described when it was first met, and no other. -/
theorem Life.identity {σ : Type} {id : ContextId} {environment : Environment} {data : σ}
    {past : List (Stage σ × Act σ)} {stage : Stage σ}
    (life : Life (.create id environment data) past stage) : Identity past stage where
  inverse := (life.sound (Context.create_sound id environment data)).context.inverse
  handle_eq_iff :=
    handle_eq_iff_key_eq (life.sound (Context.create_sound id environment data)).context
  keys := ledger_eq_keys (Context.create_sound id environment data) rfl life
  growth := by
    intro act after taken
    have entered := (life.sound (Context.create_sound id environment data)).take_keys taken
    unfold Context.funcCount
    rw [FuncTable.count_eq_keys_length, FuncTable.count_eq_keys_length, entered,
      Sighting.length_noteAll]

/-- A host function is made and put into a global, and the global is read twice.  No
module declares its type, so each reading is a function that is met for the first
time. -/
theorem Life.identity_of_global :
    ∃ (past : List (Stage Unit × Act Unit)) (stage : Stage Unit),
      Life (.create ⟨0⟩ { id := ⟨0⟩, config := {} } ()) past stage ∧ Identity past stage ∧
        stage.context.funcs.keys = [.host 0, .host 1, .host 2] := by
  let type : GlobalType := ⟨.funcRef, false⟩
  have made : Life (.create ⟨0⟩ { id := ⟨0⟩, config := {} } ()) _ _ :=
    Life.created.acted (show Stage.take _ (.register .empty fun _ => .panic) = some _ from rfl)
  have held := made.acted
    (show Stage.take _ (.ask (.createGlobal type (.funcRef (some ⟨⟨0⟩, 0⟩)))) = some _ from rfl)
  have once := held.acted
    (show Stage.take _ (.ask (.getGlobal ⟨⟨0⟩, 0, type⟩)) = some _ from rfl)
  have twice := once.acted
    (show Stage.take _ (.ask (.getGlobal ⟨⟨0⟩, 0, type⟩)) = some _ from rfl)
  exact ⟨_, _, twice, Life.identity twice, by decide +kernel⟩

end WasmSandbox
