import WasmSandbox.Proofs.Context.HostEntries
import WasmSandbox.Proofs.Linker.Definitions

/-!
Contract: functions that a linker has made, and what is left of the refused ones.

Owns:
- what becomes of the linker and of the context when a function is made and defined at once;
- histories of a context in which it is known which functions linkers had made;
- where the functions of the host in the table come from: each was given to someone, or is
  left over from a refused definition, and their numbers.

The function is made before the linker looks at its definitions.  A refusal does not take it
back, and its handle is not part of the error.

Does not own: how functions are called.
-/

namespace WasmSandbox

open Wasm

variable {σ : Type}

/-! ## One definition -/

/-- What becomes of a function that a linker has made in a context and is to define.  An
error comes without a linker: the old one stays. -/
structure DefinesFunc (linker : Linker) (context : Context σ) (module name : String)
    (signature : Signature) (result : Except LinkError Linker × Context σ) : Prop where
  /-- There is an error exactly if shadowing is off and the pair is defined already, and it
  names the pair. -/
  fails_iff : ∀ error, result.1 = .error error ↔
    (linker.allowShadowing = false ∧ (linker.get? module name).isSome = true) ∧
      error = .duplicate module name
  /-- Otherwise the pair stands for the new function, and every other pair for what it stood
  for. -/
  succeeds : ∀ after, result.1 = .ok after → ∀ other otherName,
    after.get? other otherName =
      if other = module ∧ otherName = name then some (.func ⟨context.id, context.funcCount⟩)
      else linker.get? other otherName
  /-- In any case the table has one entry more, for a function of the host. -/
  grown : result.2.funcCount = context.funcCount + 1
  entered : ∃ entry, Context.funcEntry? result.2 ⟨context.id, context.funcCount⟩ = some entry ∧
    entry.isHost = true ∧ entry.signature = signature
  /-- The other entries stay, and so does everything but the functions. -/
  kept : ∀ func, func ≠ ⟨context.id, context.funcCount⟩ →
    Context.funcEntry? result.2 func = context.funcEntry? func
  rest : ∃ funcs hosts, result.2 =
    { context with funcs := funcs, store := { context.store with hosts := hosts } }

theorem Context.funcEntry?_createFunc_of_ne (context : Context σ) (signature : Signature)
    (body : Closure σ) {func : FuncHandle} (differs : func ≠ ⟨context.id, context.funcCount⟩) :
    Context.funcEntry? (context.createFunc signature body).2 func = context.funcEntry? func := by
  obtain ⟨owner, index⟩ := func
  simp only [createFunc, funcEntry?, enterFunc, FuncTable.entryAt_push]
  by_cases own : owner = context.id
  · subst own
    have other : index ≠ context.funcs.count := fun same => differs (by rw [same]; rfl)
    simp [other]
  · simp [own]

theorem Context.funcEntry?_createFunc (context : Context σ) (signature : Signature)
    (body : Closure σ) :
    ∃ entry, Context.funcEntry? (context.createFunc signature body).2
      ⟨context.id, context.funcCount⟩ = some entry ∧ entry.isHost = true ∧
        entry.signature = signature := by
  refine ⟨⟨signature, .host context.store.hosts.size, .host context.store.hosts.size, true⟩, ?_,
    rfl, rfl⟩
  simp [createFunc, funcEntry?, enterFunc, FuncTable.entryAt_push, funcCount, Store.addHost]

theorem Context.funcCount_createFunc (context : Context σ) (signature : Signature)
    (body : Closure σ) :
    (context.createFunc signature body).2.funcCount = context.funcCount + 1 := by
  simp [funcCount, createFunc, enterFunc, FuncTable.count, FuncTable.push]

theorem Linker.definesFunc (linker : Linker) (context : Context σ) (module name : String)
    (signature : Signature) (body : Closure σ) :
    DefinesFunc linker context module name signature
      (linker.defineFunc context module name signature body) := by
  have isResult : linker.defineFunc context module name signature body =
      (linker.define module name (.func ⟨context.id, context.funcCount⟩),
        (context.createFunc signature body).2) := rfl
  rw [isResult]
  refine ⟨fun error => ?fails, fun after defined => ?succeeds, ?grown,
    context.funcEntry?_createFunc signature body,
    fun _ => context.funcEntry?_createFunc_of_ne signature body, ⟨_, _, rfl⟩⟩
  case fails => rw [← not_accepts_iff, define_eq_error_iff]
  case succeeds =>
    obtain ⟨-, rfl⟩ := define_eq_ok_iff.1 defined
    exact linker.get?_put module name _
  case grown => exact context.funcCount_createFunc signature body

/-! ## Histories -/

/-- Something that happens to a context, where it is known whether the embedder had a linker
make a function.  A linker that a closure uses is not told apart: there the making of the
function is a step of the closure like any other, and a plain act. -/
inductive LinkerAct (σ : Type) where
  /-- The embedder has no linker make a function. -/
  | plain (act : Act σ)
  /-- The embedder has a linker make a function, and define it. -/
  | defineFunc (linker : Linker) (module name : String) (signature : Signature) (body : Closure σ)

namespace LinkerAct

/-- What happens to the context. -/
def act : LinkerAct σ → Act σ
  | plain act => act
  | defineFunc _ _ _ signature body => .register signature body

/-- The linker does not define the function that it had made. -/
def refuses : LinkerAct σ → Bool
  | plain _ => false
  | defineFunc linker module name _ _ =>
      !linker.allowShadowing && (linker.get? module name).isSome

theorem refuses_iff {linker : Linker} {module name : String} {signature : Signature}
    {body : Closure σ} : (defineFunc linker module name signature body).refuses = true ↔
      linker.allowShadowing = false ∧ (linker.get? module name).isSome = true := by
  simp [refuses]

end LinkerAct

/-- What happened to the context in a history. -/
def actsIn (past : List (Stage σ × LinkerAct σ)) : List (Stage σ × Act σ) :=
  past.map fun happened => (happened.1, happened.2.act)

theorem actsIn_cons (stage : Stage σ) (act : LinkerAct σ) (past : List (Stage σ × LinkerAct σ)) :
    actsIn ((stage, act) :: past) = (stage, act.act) :: actsIn past := rfl

/-- The positions of the functions that were made by acts of some kind, in their order. -/
def madeBy (kind : LinkerAct σ → Bool) : List (Stage σ × LinkerAct σ) → List Nat
  | [] => []
  | (stage, act) :: past =>
      madeBy kind past ++ if kind act then (stage.makes? act.act).toList else []

/-- The functions whose handles were given to someone: to the embedder or a closure that had
them made, or to the linker that defined them. -/
def givenFuncs : List (Stage σ × LinkerAct σ) → List Nat := madeBy fun act => !act.refuses

/-- The functions that are left over from refused definitions. -/
def orphanedFuncs : List (Stage σ × LinkerAct σ) → List Nat := madeBy LinkerAct.refuses

/-- The number of refused definitions. -/
def refusalsIn (past : List (Stage σ × LinkerAct σ)) : Nat :=
  past.countP fun happened => happened.2.refuses

/-- Every function that was made was given or orphaned, and the other way round. -/
theorem givenFuncs_append_orphanedFuncs_perm (past : List (Stage σ × LinkerAct σ)) :
    (givenFuncs past ++ orphanedFuncs past).Perm (madeIn (actsIn past)) := by
  induction past with
  | nil => exact .nil
  | cons happened past inductionHypothesis =>
      obtain ⟨stage, act⟩ := happened
      have further := inductionHypothesis.append_right (stage.makes? act.act).toList
      rw [actsIn_cons, madeIn]
      cases refuses : act.refuses with
      | true => simpa [givenFuncs, orphanedFuncs, madeBy, refuses] using further
      | false =>
          have swapped : ((stage.makes? act.act).toList ++ orphanedFuncs past).Perm
              (orphanedFuncs past ++ (stage.makes? act.act).toList) := List.perm_append_comm
          rw [List.append_assoc] at further
          have whole := (swapped.append_left (givenFuncs past)).trans further
          simpa [givenFuncs, orphanedFuncs, madeBy, refuses] using whole

namespace Stage

variable {stage after : Stage σ}

/-- A function is only made from outside in an idle context, and then it gets the next
position. -/
theorem take_register {signature : Signature} {body : Closure σ}
    (taken : stage.take (.register signature body) = some after) :
    stage.makes? (.register signature body) = some stage.context.funcCount ∧
      after = .idle (stage.context.createFunc signature body).2 := by
  obtain ⟨context, running⟩ := stage
  cases running with
  | none =>
      cases taken
      exact ⟨rfl, rfl⟩
  | some state => contradiction

/-- A refused definition leaves a function over. -/
theorem take_refuses {act : LinkerAct σ} (refuses : act.refuses = true)
    (taken : stage.take act.act = some after) :
    stage.makes? act.act = some stage.context.funcCount ∧
      after.context.funcCount = stage.context.funcCount + 1 := by
  cases act with
  | plain act => contradiction
  | defineFunc linker module name signature body =>
      obtain ⟨makes, rfl⟩ := take_register taken
      exact ⟨makes, stage.context.funcCount_createFunc signature body⟩

end Stage

/-! ## Lives -/

theorem mem_madeBy {kind : LinkerAct σ → Bool} {past : List (Stage σ × LinkerAct σ)}
    {happened : Stage σ × LinkerAct σ} (member : happened ∈ past)
    (isKind : kind happened.2 = true) {index : Nat}
    (makes : happened.1.makes? happened.2.act = some index) : index ∈ madeBy kind past := by
  induction past with
  | nil => contradiction
  | cons latest past inductionHypothesis =>
      rcases List.mem_cons.1 member with rfl | earlier
      · simp [madeBy, isKind, makes]
      · exact List.mem_append_left _ (inductionHypothesis earlier)

namespace Life

variable {fresh : Context σ} {past : List (Stage σ × LinkerAct σ)} {stage : Stage σ}

/-- Each act of a history was possible. -/
theorem taken_of_mem (life : Life fresh (actsIn past) stage) {happened : Stage σ × LinkerAct σ}
    (member : happened ∈ past) : ∃ after, happened.1.take happened.2.act = some after := by
  induction past generalizing stage with
  | nil => contradiction
  | cons latest past inductionHypothesis =>
      cases life with
      | acted life taken =>
          rcases List.mem_cons.1 member with rfl | earlier
          · exact ⟨_, taken⟩
          · exact inductionHypothesis life earlier

/-- Each refused definition left over one function. -/
theorem orphanedFuncs_length (life : Life fresh (actsIn past) stage) :
    (orphanedFuncs past).length = refusalsIn past := by
  induction past generalizing stage with
  | nil => rfl
  | cons latest past inductionHypothesis =>
      obtain ⟨before, act⟩ := latest
      cases life with
      | acted life taken =>
          have earlier := inductionHypothesis life
          cases refuses : act.refuses with
          | false => simpa [orphanedFuncs, madeBy, refusalsIn, refuses] using earlier
          | true =>
              obtain ⟨makes, -⟩ := Stage.take_refuses refuses taken
              simpa [orphanedFuncs, madeBy, refusalsIn, refuses, makes] using earlier

/-- Refused definitions in a row make the table longer, one entry each. -/
theorem funcCount_of_refused {recent earlier : List (Stage σ × LinkerAct σ)}
    {oldest : Stage σ × LinkerAct σ}
    (life : Life fresh (actsIn (recent ++ oldest :: earlier)) stage)
    (refused : ∀ happened ∈ recent ++ [oldest], happened.2.refuses = true) :
    stage.context.funcCount = oldest.1.context.funcCount + (recent.length + 1) := by
  induction recent generalizing stage with
  | nil =>
      cases life with
      | acted life taken => exact (Stage.take_refuses (refused oldest (by simp)) taken).2
  | cons latest recent inductionHypothesis =>
      cases life with
      | acted life taken =>
          have before := inductionHypothesis life fun happened member =>
            refused happened (List.mem_cons_of_mem _ member)
          have grown := (Stage.take_refuses (refused latest (List.mem_cons_self ..)) taken).2
          rw [grown, before, List.length_cons]
          omega

end Life

/-- Where the functions of the host come from, after a history of a context. -/
structure FunctionsAccounted (id : ContextId) (past : List (Stage σ × LinkerAct σ))
    (context : Context σ) : Prop where
  /-- The functions of the host in the table are those that were given or orphaned, and none
  is both. -/
  entries : ∀ func, context.isHost? func = some true ↔
    func.context = id ∧ (func.index ∈ givenFuncs past ∨ func.index ∈ orphanedFuncs past)
  apart : (givenFuncs past ++ orphanedFuncs past).Nodup
  /-- Each refused definition left over one of them. -/
  counted : context.hostFuncs.length = (givenFuncs past).length + refusalsIn past
  /-- A linker that defined a function has the handle of one that was given. -/
  accepted : ∀ happened ∈ past, ∀ linker module name signature body after,
    happened.2 = .defineFunc linker module name signature body →
      (linker.defineFunc happened.1.context module name signature body).1 = .ok after →
        ∃ index ∈ givenFuncs past, after.get? module name = some (.func ⟨id, index⟩)
  /-- A linker that refused to define a function left over the entry that was made then. -/
  refused : ∀ happened ∈ past, ∀ linker module name signature body error,
    happened.2 = .defineFunc linker module name signature body →
      (linker.defineFunc happened.1.context module name signature body).1 = .error error →
        happened.1.context.funcCount ∈ orphanedFuncs past
  /-- Refused definitions in a row make the table longer, one entry each. -/
  repeated : ∀ recent oldest earlier, past = recent ++ oldest :: earlier →
    (∀ happened ∈ recent ++ [oldest], happened.2.refuses = true) →
      context.funcCount = oldest.1.context.funcCount + (recent.length + 1)
  /-- If no definition was refused, every function of the host was given to someone. -/
  lossless : refusalsIn past = 0 → ∀ func, context.isHost? func = some true →
    func.context = id ∧ func.index ∈ givenFuncs past
  /-- What becomes of the next function that a linker has made. -/
  next : ∀ linker module name signature body,
    DefinesFunc linker context module name signature
      (linker.defineFunc context module name signature body)

/-- In every life of a context, the functions of the host were given to someone, or are left
over from refused definitions, one each. -/
theorem Life.functionsAccounted {id : ContextId} {environment : Environment} {data : σ}
    {past : List (Stage σ × LinkerAct σ)} {stage : Stage σ}
    (life : Life (.create id environment data) (actsIn past) stage) :
    FunctionsAccounted id past stage.context := by
  have begins := Context.create_sound id environment data
  have sameId : stage.context.id = id := (life.extension begins).id
  have isMade : stage.context.funcs.hosts = madeIn (actsIn past) := life.hosts_eq_madeIn rfl
  have sources := givenFuncs_append_orphanedFuncs_perm past
  rw [← isMade] at sources
  have entries (func : FuncHandle) : stage.context.isHost? func = some true ↔
      func.context = id ∧ (func.index ∈ givenFuncs past ∨ func.index ∈ orphanedFuncs past) := by
    obtain ⟨owner, index⟩ := func
    rw [← Context.mem_hostFuncs_iff, Context.hostFuncs, sameId, ← List.mem_append,
      sources.mem_iff]
    simp [eq_comm, and_comm]
  refine ⟨entries, ?apart, ?counted, ?accepted, ?refused, ?repeated, ?lossless, ?next⟩
  case apart => exact sources.nodup_iff.2 stage.context.funcs.hosts_nodup
  case counted =>
    rw [Context.hostFuncs, List.length_map, ← sources.length_eq, List.length_append,
      life.orphanedFuncs_length]
  case accepted =>
    intro happened member linker module name signature body after isDefine defined
    obtain ⟨next, taken⟩ := life.taken_of_mem member
    have defines := linker.definesFunc happened.1.context module name signature body
    have accepts : happened.2.refuses = false := by
      rw [isDefine, ← Bool.not_eq_true, LinkerAct.refuses_iff]
      intro taken
      rw [(defines.fails_iff _).2 ⟨taken, rfl⟩] at defined
      contradiction
    have makes : happened.1.makes? happened.2.act = some happened.1.context.funcCount := by
      rw [isDefine] at taken ⊢
      exact (Stage.take_register taken).1
    have earlier : (happened.1, happened.2.act) ∈ actsIn past := List.mem_map_of_mem member
    have ownId : happened.1.context.id = id :=
      (life.extension_of_mem begins _ earlier).id.symm.trans sameId
    refine ⟨_, mem_madeBy member (by rw [accepts]; rfl) makes, ?_⟩
    rw [defines.succeeds after defined, if_pos ⟨rfl, rfl⟩, ownId]
  case refused =>
    intro happened member linker module name signature body error isDefine failed
    obtain ⟨next, taken⟩ := life.taken_of_mem member
    have refuses : happened.2.refuses = true := by
      rw [isDefine, LinkerAct.refuses_iff]
      exact (((linker.definesFunc _ _ _ _ _).fails_iff error).1 failed).1
    exact mem_madeBy member refuses (Stage.take_refuses refuses taken).1
  case repeated =>
    rintro recent oldest earlier rfl refused
    exact life.funcCount_of_refused refused
  case lossless =>
    intro none func isHost
    obtain ⟨own, isGiven | isOrphan⟩ := (entries func).1 isHost
    · exact ⟨own, isGiven⟩
    · have noOrphans := List.length_eq_zero_iff.1 (life.orphanedFuncs_length.trans none)
      rw [noOrphans] at isOrphan
      contradiction
  case next => exact fun linker => linker.definesFunc stage.context

/-! ## A name that is defined already -/

namespace DefinedAlready

def fresh : Context Unit := .create ⟨0⟩ { id := ⟨0⟩, config := {} } ()

def body : Closure Unit := fun _ => .finish Slots.empty

/-- A linker in which the second function of the context has a name. -/
def linker : Linker := ({} : Linker).put "env" "f" (.func ⟨⟨0⟩, 1⟩)

/-- What a linker is asked for. -/
def define (linker : Linker) : LinkerAct Unit := .defineFunc linker "env" "f" .empty body

/-- A function is made, a linker has one made and defines it, and refuses two others. -/
theorem lives : ∃ past context, Life fresh (actsIn past) (.idle context) ∧
    givenFuncs past = [0, 1] ∧ orphanedFuncs past = [2, 3] ∧ refusalsIn past = 2 := by
  have first : Life fresh (actsIn [(.idle fresh, .plain (.register .empty body))]) _ :=
    Life.created.acted (show Stage.take _ (.register .empty body) = some _ from rfl)
  have second : Life fresh (actsIn [(_, define {}), _]) _ :=
    first.acted (show Stage.take _ (define {}).act = some _ from rfl)
  have third : Life fresh (actsIn [(_, define linker), _, _]) _ :=
    second.acted (show Stage.take _ (define linker).act = some _ from rfl)
  have fourth : Life fresh (actsIn [(_, define linker), _, _, _]) _ :=
    third.acted (show Stage.take _ (define linker).act = some _ from rfl)
  exact ⟨_, _, fourth, rfl, rfl, rfl⟩

end DefinedAlready

/-- Two functions were given, and two are left over. -/
theorem Life.functionsAccounted_of_definedAlready : ∃ past context,
    Life DefinedAlready.fresh (actsIn past) (.idle context) ∧
      FunctionsAccounted ⟨0⟩ past context ∧ refusalsIn past = 2 := by
  obtain ⟨past, context, life, -, -, refused⟩ := DefinedAlready.lives
  exact ⟨past, context, life, Life.functionsAccounted life, refused⟩

/-- A refused definition does not leave the number of functions as it was. -/
theorem Linker.not_defineFunc_atomic :
    ¬∀ (past : List (Stage Unit × Act Unit)) (context : Context Unit) (linker : Linker)
      (module name : String) (signature : Signature) (body : Closure Unit) (error : LinkError),
      Life DefinedAlready.fresh past (.idle context) →
        (linker.defineFunc context module name signature body).1 = .error error →
          (linker.defineFunc context module name signature body).2.funcCount =
            context.funcCount := by
  intro stays
  have same := stays [] DefinedAlready.fresh DefinedAlready.linker "env" "f" .empty
    DefinedAlready.body _ .created rfl
  contradiction

end WasmSandbox
