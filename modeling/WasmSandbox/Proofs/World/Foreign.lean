import WasmSandbox.Proofs.Context.Minting
import WasmSandbox.Proofs.World.Isolation

/-!
Contract: handles of other contexts are inert.

Owns:
- what becomes of a handle that bears another identity than the context: every request
  about it is refused, no call of it or with it is counted, and no import takes it;
- that the identities of contexts differ, as long as the count of contexts fits 64 bits;
- that what one context of a world handed out is inert in every other one.

A handle is compared with its context by identity alone.  Its position does not matter, and
neither does it matter whether the context it belongs to is still there.

Does not own: handles of the context that do not stand for anything.
-/

namespace WasmSandbox

open Wasm

/-! ## What is refused -/

/-- The refusals of requests about a handle of another context, or with a reference to a
function of another context.  A global is only made for a value of the right kind. -/
inductive Handle.Refused {σ : Type} : Handle → (request : Request σ) → request.Answer → Prop where
  | signature (func : FuncHandle) : Refused (.item (.func func)) (.signature func) none
  | isHost (func : FuncHandle) : Refused (.item (.func func)) (.isHost func) none
  | memoryType (memory : MemoryHandle) :
      Refused (.item (.memory memory)) (.memoryType memory) (.error .foreignHandle)
  | memoryPages (memory : MemoryHandle) :
      Refused (.item (.memory memory)) (.memoryPages memory) (.error .foreignHandle)
  | memorySize (memory : MemoryHandle) :
      Refused (.item (.memory memory)) (.memorySize memory) (.error .foreignHandle)
  | readMemory (memory : MemoryHandle) (offset : UInt64) (length : Nat) :
      Refused (.item (.memory memory)) (.readMemory memory offset length) (.error .foreignHandle)
  | writeMemory (memory : MemoryHandle) (offset : UInt64) (bytes : List UInt8) :
      Refused (.item (.memory memory)) (.writeMemory memory offset bytes) (.error .foreignHandle)
  | readWord (memory : MemoryHandle) (offset : UInt64) :
      Refused (.item (.memory memory)) (.readWord memory offset) (.error .foreignHandle)
  | writeWord (memory : MemoryHandle) (offset : UInt64) (value : UInt32) :
      Refused (.item (.memory memory)) (.writeWord memory offset value) (.error .foreignHandle)
  | growMemory (memory : MemoryHandle) (delta : UInt64) :
      Refused (.item (.memory memory)) (.growMemory memory delta) (.error .foreignHandle)
  | tableType (table : TableHandle) : Refused (.item (.table table)) (.tableType table) none
  | tableSize (table : TableHandle) : Refused (.item (.table table)) (.tableSize table) none
  | getGlobal (global : GlobalHandle) :
      Refused (.item (.global global)) (.getGlobal global) (.error .foreignHandle)
  | setGlobal (global : GlobalHandle) (value : Val) :
      Refused (.item (.global global)) (.setGlobal global value) (.error .foreignHandle)
  | lookup (inst : InstanceHandle) (name : String) : Refused (.inst inst) (.lookup inst name) none
  | exports (inst : InstanceHandle) : Refused (.inst inst) (.exports inst) []
  | artifact (inst : InstanceHandle) : Refused (.inst inst) (.artifact inst) none
  | createGlobalOf (func : FuncHandle) (type : GlobalType) (kind : type.content = .funcRef) :
      Refused (.item (.func func)) (.createGlobal type (.funcRef (some func)))
        (.error .foreignHandle)
  | setGlobalTo (func : FuncHandle) (global : GlobalHandle) :
      Refused (.item (.func func)) (.setGlobal global (.funcRef (some func)))
        (.error .foreignHandle)

/-- What becomes of a handle in a context that it does not belong to. -/
structure Handle.Inert {σ : Type} (handle : Handle) (context : Context σ) : Prop where
  /-- A request about it is refused and changes nothing. -/
  asked : ∀ {request : Request σ} {answer : request.Answer}, handle.Refused request answer →
    context.answer request = .answered (answer, context)
  /-- A call of it fails at once. -/
  called : ∀ {func : FuncHandle} (args : List Val) (wait : CallWait σ),
    handle = .item (.func func) →
      context.beginCall func args wait = context.deliverCall (.error .foreignHandle) wait
  /-- So does a call of another function with a reference to it among arguments of the
  right kinds. -/
  passed : ∀ {func callee : FuncHandle} {entry : FuncEntry} {args : List Val}
    (wait : CallWait σ), handle = .item (.func func) →
      context.funcEntry? callee = some entry → args.map Val.kind = entry.signature.params →
        .funcRef (some func) ∈ args →
          context.beginCall callee args wait = context.deliverCall (.error .foreignHandle) wait
  /-- A link with it among the imports fails before the engine is asked. -/
  linked : ∀ {item : Item} {items : List Item} (artifact : Artifact) (wait : LinkWait σ),
    handle = .item item → item ∈ items →
      ∃ error, context.beginLink artifact items wait = context.deliverLink (.error error) wait

namespace Context

variable {σ : Type} {context : Context σ}

theorem funcEntry?_of_foreign {func : FuncHandle} (foreign : func.context ≠ context.id) :
    context.funcEntry? func = none :=
  if_neg foreign

theorem memory_of_foreign {memory : MemoryHandle} (foreign : memory.context ≠ context.id) :
    context.memory memory = .error .foreignHandle :=
  if_pos foreign

theorem table?_of_foreign {table : TableHandle} (foreign : table.context ≠ context.id) :
    context.table? table = none :=
  if_neg foreign

theorem instanceEntry?_of_foreign {inst : InstanceHandle} (foreign : inst.context ≠ context.id) :
    context.instanceEntry? inst = none :=
  if_neg foreign

theorem belongsTo_of_foreign {func : FuncHandle} (foreign : func.context ≠ context.id) :
    (Val.funcRef (some func)).belongsTo context.id = false :=
  decide_eq_false foreign

/-- Every request about a handle that bears another identity is refused. -/
theorem answer_of_foreign {handle : Handle} {request : Request σ} {answer : request.Answer}
    (refused : handle.Refused request answer) (foreign : handle.context ≠ context.id) :
    context.answer request = .answered (answer, context) := by
  cases refused with
  | signature func =>
      simp only [Context.answer, signature?, funcEntry?_of_foreign foreign, Option.map_none]
  | isHost func =>
      simp only [Context.answer, isHost?, funcEntry?_of_foreign foreign, Option.map_none]
  | memoryType memory =>
      simp only [Context.answer, memoryType, memory_of_foreign foreign]
      rfl
  | memoryPages memory =>
      simp only [Context.answer, memoryPages, memory_of_foreign foreign]
      rfl
  | memorySize memory =>
      simp only [Context.answer, memorySize, memory_of_foreign foreign]
      rfl
  | readMemory memory offset length =>
      simp only [Context.answer, readMemory, memory_of_foreign foreign]
      rfl
  | writeMemory memory offset bytes =>
      simp only [Context.answer, writeMemory, memory_of_foreign foreign]
      rfl
  | readWord memory offset =>
      simp only [Context.answer, readWord, memory_of_foreign foreign]
      rfl
  | writeWord memory offset value =>
      simp only [Context.answer, writeWord, memory_of_foreign foreign]
      rfl
  | growMemory memory delta =>
      simp only [Context.answer, growMemory, memory_of_foreign foreign]
      rfl
  | tableType table =>
      simp only [Context.answer, tableType?, table?_of_foreign foreign]
      rfl
  | tableSize table =>
      simp only [Context.answer, tableSize?, table?_of_foreign foreign]
      rfl
  | getGlobal global =>
      have outside : global.context ≠ context.id := foreign
      simp only [Context.answer, getGlobal, if_pos outside]
  | setGlobal global value =>
      have outside : global.context ≠ context.id := foreign
      simp [Context.answer, setGlobal, outside]
      rfl
  | lookup inst name =>
      simp only [Context.answer, lookup, instanceEntry?_of_foreign foreign]
  | exports inst =>
      simp only [Context.answer, exports, artifact?, instanceEntry?_of_foreign foreign,
        Option.map_none]
  | artifact inst =>
      simp only [Context.answer, artifact?, instanceEntry?_of_foreign foreign, Option.map_none]
  | createGlobalOf func type kind =>
      simp [Context.answer, createGlobal, checkContent, kind, Val.kind,
        belongsTo_of_foreign foreign]
      rfl
  | setGlobalTo func global =>
      have outside : func.context ≠ context.id := foreign
      by_cases own : global.context = context.id
      · simp [Context.answer, setGlobal, own, belongsTo_of_foreign outside]
        rfl
      · simp [Context.answer, setGlobal, own]
        rfl

theorem checkCall_of_foreign {func : FuncHandle} (foreign : func.context ≠ context.id)
    (args : List Val) : context.checkCall func args = .error .foreignHandle := by
  rw [checkCall, funcEntry?_of_foreign foreign]

theorem checkCall_of_foreign_arg {func callee : FuncHandle} {entry : FuncEntry} {args : List Val}
    (foreign : func.context ≠ context.id) (found : context.funcEntry? callee = some entry)
    (kinds : args.map Val.kind = entry.signature.params) (member : .funcRef (some func) ∈ args) :
    context.checkCall callee args = .error .foreignHandle := by
  have outside : (args.any fun value => !value.belongsTo context.id) = true :=
    List.any_eq_true.2 ⟨_, member, by rw [belongsTo_of_foreign foreign]; rfl⟩
  simp only [checkCall, found, (entry.signature.checkParams_eq_ok_iff _).2 kinds, if_pos outside]

theorem checkImport_context {declared : ImportDecl} {item : Item} {provided : Extern}
    (checked : context.checkImport declared item = .ok provided) : item.context = context.id := by
  by_contra foreign
  simp [checkImport, foreign, bind, Except.bind, throw, throwThe, MonadExceptOf.throw] at checked

/-- Items are only handed over to the engine if all of them belong to the context. -/
theorem resolveImports_contexts {artifact : Artifact} {items : List Item}
    {externs : List Extern} (resolved : context.resolveImports artifact items = .ok externs) :
    ∀ item ∈ items, item.context = context.id := by
  have satisfied := resolveImports_items resolved
  clear resolved
  induction satisfied with
  | nil => simp
  | cons head tail inductionHypothesis =>
      obtain ⟨declared, checked⟩ := head
      intro item member
      rcases List.mem_cons.1 member with isFirst | inRest
      · rw [isFirst]
        exact checkImport_context checked
      · exact inductionHypothesis item inRest

theorem beginLink_of_foreign {item : Item} {items : List Item}
    (foreign : item.context ≠ context.id) (member : item ∈ items) (artifact : Artifact)
    (wait : LinkWait σ) :
    ∃ error, context.beginLink artifact items wait = context.deliverLink (.error error) wait := by
  unfold beginLink
  split
  · exact ⟨_, rfl⟩
  · cases resolved : context.resolveImports artifact items with
    | error error => exact ⟨error, rfl⟩
    | ok externs => exact absurd (resolveImports_contexts resolved item member) foreign

end Context

/-- A handle is inert in every context whose identity it does not bear. -/
theorem Handle.inert_of_foreign {σ : Type} {handle : Handle} {context : Context σ}
    (foreign : handle.context ≠ context.id) : handle.Inert context where
  asked := fun refused => Context.answer_of_foreign refused foreign
  called := by
    rintro func args wait rfl
    exact Context.beginCall_of_refused (Context.checkCall_of_foreign foreign args) wait
  passed := by
    rintro func callee entry args wait rfl found kinds member
    exact Context.beginCall_of_refused
      (Context.checkCall_of_foreign_arg foreign found kinds member) wait
  linked := by
    rintro item items artifact wait rfl member
    exact Context.beginLink_of_foreign foreign member artifact wait

/-! ## Worlds -/

namespace World

variable {σ : Nat → Type}

theorem identity_eq_iff {number other : Nat} (few : number + 1 < UInt64.size)
    (fewToo : other + 1 < UInt64.size) : identity number = identity other ↔ number = other := by
  rw [identity, identity, ContextId.mk.injEq, Nat.mod_eq_of_lt few, Nat.mod_eq_of_lt fewToo]
  exact Nat.succ_inj

theorem created_le_run (world : World σ) (events : List (Event σ)) :
    world.created ≤ (world.run events).created := by
  induction events generalizing world with
  | nil => exact Nat.le_refl _
  | cons event rest inductionHypothesis =>
      exact Nat.le_trans (world.created_le_apply event) (inductionHypothesis (world.apply event))

/-- The handles that an event hands out, with the number of the context that does. -/
def mints (world : World σ) : Event σ → List (Nat × Handle)
  | .act number act =>
      match world.contexts number with
      | some stage => (stage.mints act).map fun handle => (number, handle)
      | none => []
  | _ => []

/-- All handles that are handed out. -/
def minted (world : World σ) : List (Event σ) → List (Nat × Handle)
  | [] => []
  | event :: rest => world.mints event ++ (world.apply event).minted rest

theorem Lived.mints_context {world : World σ} (lived : world.Lived) {event : Event σ}
    {owner : Nat} {handle : Handle} (member : (owner, handle) ∈ world.mints event) :
    owner < world.created ∧ handle.context = identity owner := by
  cases event with
  | act number act =>
      simp only [mints] at member
      split at member
      · rename_i stage found
        obtain ⟨minted, isMinted, same⟩ := List.mem_map.1 member
        cases same
        obtain ⟨existing, environment, data, past, life⟩ := lived owner stage found
        have begins := Context.create_sound (identity owner) environment data
        refine ⟨existing, ?_⟩
        rw [(life.sound begins).mints_context (life.stamped begins) isMinted]
        exact (life.extension begins).id
      · contradiction
  | _ => contradiction

/-- Whatever was handed out bears the identity of the context that handed it out, and
keeps it when the context is dropped. -/
theorem Lived.minted_context {world : World σ} (lived : world.Lived) {events : List (Event σ)}
    {owner : Nat} {handle : Handle} (member : (owner, handle) ∈ world.minted events) :
    owner < (world.run events).created ∧ handle.context = identity owner := by
  induction events generalizing world with
  | nil => contradiction
  | cons event rest inductionHypothesis =>
      rcases List.mem_append.1 member with now | later
      · obtain ⟨existing, bears⟩ := lived.mints_context now
        refine ⟨Nat.lt_of_lt_of_le existing ?_, bears⟩
        exact world.created_le_run (event :: rest)
      · exact inductionHypothesis (lived.apply event) later

theorem setContext_eq_self {world : World σ} {number : Nat} {stage : Stage (σ number)}
    (found : world.contexts number = some stage) :
    world.setContext number (some stage) = world := by
  rw [setContext, ← found, Function.update_eq_self]

theorem setContext_setContext (world : World σ) (number : Nat)
    (first second : Option (Stage (σ number))) :
    (world.setContext number first).setContext number second =
      world.setContext number second := by
  simp only [setContext, Function.update_idem]

/-- A run of an idle context that is over at once, and left the context as it was, leaves
the world as it was. -/
theorem run_over_at_once {world : World σ} {number : Nat} {context : Context (σ number)}
    (found : world.contexts number = some (.idle context)) {act : Act (σ number)}
    {ended : RunState (σ number)}
    (taken : (Stage.idle context).take act = some ⟨context, some ended⟩)
    (halted : context.step ended = none) (silent : (Stage.idle context).reply act = none) :
    world.run [.act number act, .act number .close] = world ∧
      world.replies [.act number act, .act number .close] =
        (((Stage.mk context (some ended)).reply .close).map fun answer =>
          (⟨number, answer⟩ : (number : Nat) × Reply (σ number))).toList := by
  have begun : world.apply (.act number act) =
      world.setContext number (some ⟨context, some ended⟩) := by
    simp only [apply, found, Option.bind_some, taken]
  have closed : (Stage.mk context (some ended)).take .close = some (.idle context) := by
    simp only [Stage.take, halted, Option.isNone_none, if_true]
  have ends : (world.setContext number (some ⟨context, some ended⟩)).apply (.act number .close) =
      world := by
    simp only [apply, setContext_self, Option.bind_some, closed]
    rw [setContext_setContext, setContext_eq_self found]
  constructor
  · rw [run, List.foldl_cons, List.foldl_cons, List.foldl_nil, begun, ends]
  · simp only [replies, reply?, found, Option.bind_some, silent, begun, setContext_self,
      Option.map_none, Option.toList_none, List.nil_append, List.append_nil]

/-- What a handle that another context handed out can do in a world to the context with a
number, and to all others. -/
structure ForeignInert (world : World σ) (number : Nat) (handle : Handle) : Prop where
  /-- Whoever uses it in the context, the embedder or a closure, is refused. -/
  inert : ∀ {stage : Stage (σ number)}, world.contexts number = some stage →
    handle.Inert stage.context
  /-- The embedder that asks about it is refused, and the world stays as it was. -/
  asked : ∀ {context : Context (σ number)} {request : Request (σ number)}
    {answer : request.Answer}, world.contexts number = some (.idle context) →
      handle.Refused request answer →
        world.run [.act number (.ask request)] = world ∧
          world.replies [.act number (.ask request)] = [⟨number, .answered request answer⟩]
  /-- So is the embedder that calls it. -/
  called : ∀ {context : Context (σ number)} {func : FuncHandle} (args : List Val),
    world.contexts number = some (.idle context) → handle = .item (.func func) →
      world.run [.act number (.call func args), .act number .close] = world ∧
        world.replies [.act number (.call func args), .act number .close] =
          [⟨number, .returned (.error .foreignHandle)⟩]
  /-- So is the embedder that passes a reference to it to another function. -/
  passed : ∀ {context : Context (σ number)} {func callee : FuncHandle} {entry : FuncEntry}
    {args : List Val}, world.contexts number = some (.idle context) →
      handle = .item (.func func) → context.funcEntry? callee = some entry →
        args.map Val.kind = entry.signature.params → .funcRef (some func) ∈ args →
          world.run [.act number (.call callee args), .act number .close] = world ∧
            world.replies [.act number (.call callee args), .act number .close] =
              [⟨number, .returned (.error .foreignHandle)⟩]
  /-- So is the embedder that links with it. -/
  linked : ∀ {context : Context (σ number)} {item : Item} {items : List Item}
    (artifact : Artifact), world.contexts number = some (.idle context) →
      handle = .item item → item ∈ items → ∃ error,
        world.run [.act number (.link artifact items), .act number .close] = world ∧
          world.replies [.act number (.link artifact items), .act number .close] =
            [⟨number, .linked (.error error)⟩]
  /-- Nothing that is done with the context changes another one. -/
  apart : ∀ (act : Act (σ number)) {other : Nat}, other ≠ number →
    (world.apply (.act number act)).contexts other = world.contexts other

/-- A handle that is inert in the context with a number is so in the world. -/
theorem foreignInert_of_foreign {world : World σ} {number : Nat} {handle : Handle}
    (foreign : ∀ {stage : Stage (σ number)}, world.contexts number = some stage →
      handle.context ≠ stage.context.id) : ForeignInert world number handle := by
  have inert {stage : Stage (σ number)} (found : world.contexts number = some stage) :
      handle.Inert stage.context := Handle.inert_of_foreign (foreign found)
  have refusedCall {context : Context (σ number)} {func : FuncHandle} {args : List Val}
      (found : world.contexts number = some (.idle context))
      (refused : context.beginCall func args .embedder =
        context.deliverCall (.error .foreignHandle) .embedder) :
      world.run [.act number (.call func args), .act number .close] = world ∧
        world.replies [.act number (.call func args), .act number .close] =
          [⟨number, .returned (.error .foreignHandle)⟩] := by
    have taken : (Stage.idle context).take (.call func args) =
        some ⟨context, some (.called (.error .foreignHandle))⟩ :=
      congrArg (some ∘ Stage.ofRun) refused
    exact run_over_at_once found taken rfl rfl
  refine ⟨inert, ?_, ?_, ?_, ?_, ?_⟩
  · intro context request answer found refused
    have answered : context.answer request = .answered (answer, context) :=
      (inert found).asked refused
    constructor
    · have same : (Stage.idle context).take (.ask request) = some (.idle context) := by
        simp only [Stage.take, Stage.idle, answered]
      simp only [run, List.foldl_cons, List.foldl_nil, apply, found, Option.bind_some, same]
      exact setContext_eq_self found
    · simp [replies, reply?, found, Stage.reply, Stage.idle, answered]
  · intro context func args found isFunc
    exact refusedCall found ((inert found).called args .embedder isFunc)
  · intro context func callee entry args found isFunc known kinds member
    exact refusedCall found ((inert found).passed .embedder isFunc known kinds member)
  · intro context item items artifact found isItem member
    obtain ⟨error, refused⟩ := (inert found).linked artifact .embedder isItem member
    have taken : (Stage.idle context).take (.link artifact items) =
        some ⟨context, some (.linked (.error error))⟩ :=
      congrArg (some ∘ Stage.ofRun) refused
    exact ⟨error, run_over_at_once found taken rfl rfl⟩
  · intro act other apart
    exact world.apply_contexts_of_ne fun about => apart (Option.some.inj about).symm

/-- As long as the count of contexts fits 64 bits, a handle that one context of a world
handed out is inert in every other one, whether or not the first one is still there. -/
theorem foreignInert {events : List (Event σ)} {owner number : Nat} {handle : Handle}
    (few : (run {} events : World σ).created < UInt64.size)
    (handedOut : (owner, handle) ∈ minted {} events) (other : number ≠ owner) :
    ForeignInert (run {} events : World σ) number handle := by
  have lived : (run {} events : World σ).Lived := lived_run events
  have fresh : ({} : World σ).Lived := fun _ _ found => by contradiction
  obtain ⟨ownerExisting, bears⟩ := fresh.minted_context handedOut
  refine foreignInert_of_foreign fun {stage} found => ?_
  obtain ⟨existing, environment, data, past, life⟩ := lived number stage found
  have begins := Context.create_sound (identity number) environment data
  have own : stage.context.id = identity number := (life.extension begins).id
  rw [bears, own, Ne, identity_eq_iff (Nat.lt_of_le_of_lt ownerExisting few)
    (Nat.lt_of_le_of_lt existing few)]
  exact other.symm

/-- A context hands out the handle of a function and is dropped.  A later context has a
function at the same position. -/
theorem foreignInert_of_dropped :
    let body : Closure Unit := fun _ => .finish Slots.empty
    let events : List (Event fun _ => Unit) :=
      [.establish {}, .create 0 0 (), .act 0 (.register .empty body), .drop 0, .create 1 0 (),
        .act 1 (.register .empty body)]
    let handle : FuncHandle := ⟨identity 0, 0⟩
    (run {} events : World fun _ => Unit).created < UInt64.size ∧
      (0, .item (.func handle)) ∈ minted {} events ∧ 1 ≠ 0 ∧
        ForeignInert (run {} events : World fun _ => Unit) 1 (.item (.func handle)) ∧
          ∃ context, (run {} events : World fun _ => Unit).contexts 1 = some (.idle context) ∧
            handle.index < context.funcCount := by
  intro body events handle
  have few : (run {} events : World fun _ => Unit).created < UInt64.size := by decide
  have all : minted {} events =
      [(0, .item (.func handle)), (1, .item (.func ⟨identity 1, 0⟩))] := rfl
  have handedOut : (0, .item (.func handle)) ∈ minted {} events := by
    rw [all]
    exact List.mem_cons_self ..
  exact ⟨few, handedOut, by decide, foreignInert few handedOut (by decide), _, rfl, by decide⟩

end World

end WasmSandbox
