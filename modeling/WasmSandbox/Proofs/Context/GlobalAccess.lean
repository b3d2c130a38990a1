import WasmSandbox.Proofs.Context.ExportStability
import WasmSandbox.Proofs.Context.GlobalHandles
import WasmSandbox.Proofs.Context.Marshalling

/-!
Contract: access of the host and of guest code to the globals of a context.

Owns:
- which values a global can be set to, and that a request which is refused changes nothing;
- that the host and the guest code of every instance that imports or exports a global write to
  and read from one place, and find what was written last;
- which values come back that were set, and which answers are repeated while nothing is
  written: all but some references to functions of the host;
- that a failure to read a global is repeated too.

The engine keeps references to functions of the host as they were put into the global.  They
come out as other functions, with other handles, until a module that declares their type is
instantiated.

Does not own: which modules can be linked, and what guest code does in between.
-/

namespace WasmSandbox

open Wasm

namespace Context

variable {σ : Type} {context before after later last : Context σ}

/-! ## Values that come out once more -/

/-- A value that is no reference to a function comes out of the engine as it went in. -/
theorem lift_of_noTarget {value : Val} (noTarget : value.target? = none) {item : Value}
    (lowers : before.lower value = .ok item) (context : Context σ) :
    context.lift item value.kind = (.ok value, context) := by
  cases value with
  | funcRef target =>
      cases target with
      | none =>
          cases lowers
          rfl
      | some func => contradiction
  | _ =>
      cases lowers
      rfl

/-- A function that goes into the engine in one state of a context comes out under its handle
in a later one. -/
def ComesBack (before after : Context σ) (func : FuncHandle) : Prop :=
  ∃ entry, before.funcEntry? func = some entry ∧ before.reference entry = entry.key ∧
    ∀ number, entry.key = .host number → after.store.isAdapted entry.signature = true

/-- A value that went into the engine comes out as it was exactly if it is no reference, or
one that comes back. -/
theorem Sound.lift_lowered_iff (sound : after.Sound) (extension : Extends before after)
    {value : Val} {item : Value} (lowers : before.lower value = .ok item) :
    after.lift item value.kind = (.ok value, last) ↔
      last = after ∧ ∀ func, value.target? = some func → before.ComesBack after func := by
  cases target : value.target? with
  | none =>
      rw [lift_of_noTarget target lowers after, Prod.mk.injEq]
      exact ⟨fun same => ⟨same.2.symm, fun func isTarget => by contradiction⟩,
        fun same => ⟨rfl, same.1.symm⟩⟩
  | some func =>
      cases value with
      | funcRef found =>
          obtain rfl : found = some func := target
          cases isEntry : before.funcEntry? func with
          | none => simp [lower, isEntry] at lowers
          | some entry =>
              simp only [lower, isEntry, Except.ok.injEq] at lowers
              rw [← lowers, Val.kind,
                sound.lift_func_iff (extension.funcEntry?_eq_some isEntry)]
              simp [ComesBack, isEntry]
      | _ => contradiction

/-- A value that is no reference to a function comes out of the engine at any time. -/
theorem lift_elsewhere {item : Value} {kind : ValueKind} {value : Val}
    (noFunc : ∀ key, item ≠ .funcRef (some key))
    (lifted : before.lift item kind = (.ok value, after)) (context : Context σ) :
    context.lift item kind = (.ok value, context) ∧ value.target? = none := by
  rcases lift_eq_ok_cases lifted with ⟨key, func, isFunc, -⟩ | ⟨-, -, lowers⟩
  · exact absurd isFunc (noFunc key)
  · rcases before.lift_cases item kind with
      ⟨key, isFunc, -⟩ | ⟨-, ⟨found, passes, isKind, noTarget⟩ | ⟨error, fails⟩⟩
    · exact absurd isFunc (noFunc key)
    · rw [lifted] at passes
      cases passes
      rw [← isKind]
      exact ⟨lift_of_noTarget noTarget lowers context, noTarget⟩
    · rw [lifted] at fails
      cases fails

theorem isAdapted_mono (extension : Extends before after) {signature : Signature}
    (adapted : before.store.isAdapted signature = true) :
    after.store.isAdapted signature = true := by
  simp only [Store.isAdapted, List.contains_eq_mem, decide_eq_true_eq] at adapted ⊢
  exact extension.store.adapted adapted

/-- A function comes out of the engine under its own key exactly if it is none of the host, or
one whose type is adapted. -/
theorem emerge_own_iff {store next : Store (Closure σ)} {origin key : FuncKey}
    (emerges : store.emerge origin = (key, next)) {signature : Signature}
    (typed : next.funcType? key = some signature.guest) :
    origin = key ↔ ∀ number, key = .host number → store.isAdapted signature = true := by
  have sameAdapted {host : HostFunc (Closure σ)}
      (sameType : host.signature.guest = signature.guest) :
      store.isAdapted host.signature = store.isAdapted signature := by
    unfold Store.isAdapted
    rw [sameType]
  have emerged := Store.emerge_emerged store origin
  rw [emerges] at emerged
  simp only at emerged
  cases emerged with
  | lasting =>
      refine iff_of_true rfl fun number isHost => ?_
      rw [isHost] at typed
      obtain ⟨host, member, sameType⟩ := Option.map_eq_some_iff.1 typed
      rw [← sameAdapted sameType]
      exact ((Store.emerge_eq_same_iff _ _ _).1 emerges).2 number host isHost member
  | @renewed number host isHost member passing =>
      have sameType : host.signature.guest = signature.guest := by
        simpa [Store.funcType?, Store.addHost] using typed
      refine iff_of_false ?_ ?_
      · intro isFresh
        have sameNumber := FuncKey.host.inj (isHost.symm.trans isFresh)
        have inside := (Array.getElem?_eq_some_iff.1 member).1
        omega
      · intro lasting
        rw [sameAdapted sameType, lasting _ rfl] at passing
        contradiction

/-- A function that came out of the engine under a handle came out under its own key, and goes
on doing so, exactly if it was no function of the host, or one whose type was adapted. -/
theorem Sound.emerges_again_iff (sound : before.Sound) {key : FuncKey} {func : FuncHandle}
    (handed : before.handleOf key none = (.ok func, after)) {entry : FuncEntry}
    (found : after.funcEntry? func = some entry) (extension : Extends after later) :
    (key = entry.key ∧ ∀ number, entry.key = .host number →
        later.store.isAdapted entry.signature = true) ↔
      ∀ number, entry.key = .host number → before.store.isAdapted entry.signature = true := by
  obtain ⟨other, alsoFound, isKey⟩ := sound.handleOf_key handed
  obtain rfl := Option.some.inj (alsoFound.symm.trans found)
  have grows := (sound.handleOf_grows key none (by simp)).1
  rw [handed] at grows
  have emerges : before.store.emerge key = (other.key, after.store) :=
    Prod.ext isKey.symm (Issues.handleOf_store handed).symm
  have lasts_iff := emerge_own_iff emerges (grows.sound.entry_typed found)
  constructor
  · rintro ⟨isOwn, -⟩
    exact lasts_iff.1 isOwn
  · intro adapted
    refine ⟨lasts_iff.2 adapted, fun number isHost => ?_⟩
    exact isAdapted_mono (grows.extension.trans extension) (adapted number isHost)

/-- A value that came out of the engine comes out again exactly if it is no reference to a
function of the host, or one whose type had been adapted. -/
theorem Sound.lift_again_iff (sound : before.Sound) {item : Value} {kind : ValueKind}
    {value : Val} (lifted : before.lift item kind = (.ok value, after))
    (extension : Extends after later) (soundLater : later.Sound) :
    later.lift item kind = (.ok value, last) ↔
      last = later ∧ ∀ func, value.target? = some func →
        ∃ entry, later.funcEntry? func = some entry ∧
          ∀ number, entry.key = .host number →
            before.store.isAdapted entry.signature = true := by
  rcases lift_eq_ok_cases lifted with ⟨key, func, rfl, rfl, handed⟩ | ⟨noFunc, -, -⟩
  · obtain ⟨entry, found, -⟩ := sound.handleOf_key handed
    have foundLater := extension.funcEntry?_eq_some found
    have isKind : kind = .funcRef := by
      cases kind <;> first | rfl | cases lifted
    rw [isKind, soundLater.lift_func_iff foundLater,
      sound.emerges_again_iff handed found extension]
    simp [Val.target?, foundLater]
  · obtain ⟨again, noTarget⟩ := lift_elsewhere noFunc lifted later
    rw [again, noTarget, Prod.mk.injEq]
    exact ⟨fun same => ⟨same.2.symm, fun func isTarget => by contradiction⟩,
      fun same => ⟨rfl, same.1.symm⟩⟩

/-- A function that the engine has does not come out exactly if its type cannot cross the
boundary, and nothing changes over it. -/
theorem Sound.handleOf_eq_error_iff (sound : context.Sound) {key : FuncKey} {type : FuncType}
    (typed : context.store.funcType? key = some type) {reason : String} :
    context.handleOf key none = (.error reason, after) ↔
      Signature.ofGuest type = .error reason ∧ after = context := by
  cases crosses : Signature.ofGuest type with
  | ok signature =>
      rw [(Signature.ofGuest_eq_ok_iff _ _).1 crosses] at typed
      obtain ⟨func, handed⟩ := context.handleOf_described typed
      refine iff_of_false ?_ (by simp)
      intro fails
      rw [fails] at handed
      contradiction
  | error other =>
      -- The function is none of the host, whose types cross, and has no entry.
      have noSignature (signature : Signature) : type ≠ signature.guest := by
        intro same
        rw [(Signature.ofGuest_eq_ok_iff _ _).2 same] at crosses
        contradiction
      have stays : context.store.emerge key = (key, context.store) := by
        refine (Store.emerge_eq_same_iff _ _ _).2 ⟨rfl, ?_⟩
        intro number func isHost member
        rw [isHost, Store.funcType?, member, Option.map_some, Option.some.injEq] at typed
        exact absurd typed.symm (noSignature _)
      have unknown : context.funcs.find? key = none := by
        cases known : context.funcs.find? key with
        | none => rfl
        | some index =>
            obtain ⟨entry, member, rfl⟩ := sound.inverse.entered known
            have alsoTyped := sound.typed member
            rw [typed, Option.some.injEq] at alsoTyped
            exact absurd alsoTyped (noSignature _)
      simp only [handleOf, stays, unknown, describeFunc, typed, crosses, Prod.mk.injEq,
        Except.error.injEq, @eq_comm _ context]

/-- A value that does not come out of the engine, though it is not a reference to a function
that the engine does not have, never does. -/
theorem Sound.lift_fails_again (sound : before.Sound) {item : Value} {kind : ValueKind}
    {error : CallError} (knows : before.store.Knows item)
    (fails : before.lift item kind = (.error error, after))
    (extension : Extends before later) (soundLater : later.Sound) :
    later.lift item kind = (.error error, later) := by
  rcases before.lift_cases item kind with
    ⟨key, rfl, rfl⟩ | ⟨noFunc, -⟩
  · obtain ⟨type, typed⟩ := Option.isSome_iff_exists.1 (knows key rfl)
    rw [lift_func] at fails ⊢
    cases handed : before.handleOf key none with
    | mk outcome last =>
        rw [handed] at fails
        cases outcome with
        | ok func => cases fails
        | error reason =>
            cases fails
            have cannotCross := ((sound.handleOf_eq_error_iff typed).1 handed).1
            rw [(soundLater.handleOf_eq_error_iff
              (extension.store.funcType?_eq_some typed)).2 ⟨cannotCross, rfl⟩]
  · cases item with
    | funcRef target =>
        cases target with
        | none => cases kind <;> cases fails <;> rfl
        | some key =>
            cases kind
            case funcRef => exact absurd rfl (noFunc key rfl)
            all_goals
              cases fails
              rfl
    | _ => cases kind <;> cases fails <;> rfl

/-! ## Requests for a global -/

theorem answer_setGlobal_eq_ok_iff {handle : GlobalHandle} {value : Val} :
    context.answer (.setGlobal handle value) = .answered (.ok (), after) ↔
      context.setGlobal handle value = .ok after := by
  rw [answer]
  cases context.setGlobal handle value <;> simp [applied]

/-- A value is read from a global of the context if its content comes out of the engine as
that value. -/
theorem answer_getGlobal_eq_ok_iff {handle : GlobalHandle} {value : Val} :
    context.answer (.getGlobal handle) = .answered (.ok value, after) ↔
      handle.context = context.id ∧ ∃ global, context.store.globals[handle.address]? = some global ∧
        context.lift global.value handle.type.content = (.ok value, after) := by
  simp only [answer, Outcome.answered.injEq, getGlobal]
  by_cases own : handle.context = context.id
  · cases context.store.globals[handle.address]? <;> simp [own]
  · simp [own]

/-- A global that a handle holds is set exactly if it is mutable, to values of its kind that
belong to the context. -/
theorem HoldsGlobal.set_iff {handle : GlobalHandle} (holds : context.HoldsGlobal handle)
    (sound : context.Sound) {value : Val}
    (owns : ∀ func, value.target? = some func → func.context = context.id →
      context.Owns func) :
    (∃ after, context.answer (.setGlobal handle value) = .answered (.ok (), after)) ↔
      handle.type.mutable = true ∧ value.kind = handle.type.content ∧
        value.belongsTo context.id = true := by
  constructor
  · rintro ⟨after, set⟩
    obtain ⟨-, own, canBeSet, isKind, -⟩ :=
      setGlobal_eq_ok_iff.1 (answer_setGlobal_eq_ok_iff.1 set)
    exact ⟨canBeSet, isKind, own⟩
  · rintro ⟨canBeSet, isKind, own⟩
    have admits : context.Admits value := fun func isTarget =>
      owns func isTarget ((belongsTo_iff context.id value).1 own func isTarget)
    obtain ⟨content, lowers, -⟩ := sound.lower_admitted admits
    exact ⟨_, answer_setGlobal_eq_ok_iff.2 (setGlobal_eq_ok_iff.2
      ⟨holds.1, own, canBeSet, isKind, content, lowers, rfl⟩)⟩

end Context

/-! ## Access over a life -/

/-- Guest code goes on with an instruction for the global at an address. -/
structure Stage.GuestAt {σ : Type} (stage : Stage σ) (instr : Nat → Instr) (address : Nat)
    (activation : Activation) (code : List Instr) (cont : GuestCont σ) : Prop where
  running : stage.running = some (.guest activation cont)
  next : ∃ owning index, stage.context.store.instances[activation.owner]? = some owning ∧
    owning.globals[index]? = some address ∧ activation.code = instr index :: code

namespace Stage.GuestAt

variable {σ : Type} {stage : Stage σ} {address : Nat} {activation : Activation}
  {code : List Instr} {cont : GuestCont σ}

/-- Guest code writes the operand on top to the global. -/
theorem write? (isNext : stage.GuestAt .globalSet address activation code cont) {value : Value}
    {rest : List Value} (operands : activation.registers.operands = value :: rest) :
    stage.write? .step = some ⟨address, value⟩ := by
  obtain ⟨context, running⟩ := stage
  obtain ⟨⟨⟩, owning, index, isOwning, isAddress, isCode⟩ := isNext
  exact Activation.write?_of_globalSet isCode operands isOwning isAddress

/-- Guest code goes on with the content of the global on top. -/
theorem take (isNext : stage.GuestAt .globalGet address activation code cont) {global : Global}
    (found : stage.context.store.globals[address]? = some global) :
    stage.take .step = some { stage with running := some (.guest { activation with
      registers := activation.registers.push global.value activation.registers.operands
      code := code
      spent := activation.spent + 1 } cont) } := by
  obtain ⟨context, running⟩ := stage
  obtain ⟨⟨⟩, owning, index, isOwning, isAddress, isCode⟩ := isNext
  have goesOn := Activation.advance_globalGet isCode isOwning isAddress found
  simp only [Stage.take, Context.step, Context.onStore_eq, goesOn, Context.afterAdvance,
    Option.map_some, Stage.ofRun]

end Stage.GuestAt
/-- A request that sets a global writes the value as it goes into the engine. -/
theorem Stage.write?_of_set {σ : Type} {stage : Stage σ} {act : Act σ} {handle : GlobalHandle}
    {value : Val} {after : Context σ} (asked : stage.asked? act = some (.setGlobal handle value))
    (set : stage.context.answer (.setGlobal handle value) = .answered (.ok (), after)) :
    ∃ content, stage.context.lower value = .ok content ∧
      stage.write? act = some ⟨handle.address, content⟩ := by
  obtain ⟨content, lowers, writes, -⟩ :=
    Context.requestWrite?_of_set (Context.answer_setGlobal_eq_ok_iff.1 set)
  exact ⟨content, lowers, (Stage.write?_of_asked asked).trans writes⟩

namespace Life

variable {σ : Type} {id : ContextId} {environment : Environment} {data : σ}
  {later earlier : List (Stage σ × Act σ)} {happened : Stage σ × Act σ} {stage : Stage σ}
  {handle : GlobalHandle} {value : Val} {after last : Context σ}

/-- While nothing else is written to a global, the value that it was set to is read from it
exactly if it is no reference, or one that comes back. -/
theorem reads_back
    (life : Life (.create id environment data) (later ++ happened :: earlier) stage)
    (valid : LinksValid (later ++ happened :: earlier))
    (honest : GlobalsHonest (later ++ happened :: earlier))
    (asked : happened.1.asked? happened.2 = some (.setGlobal handle value))
    (set : happened.1.context.answer (.setGlobal handle value) = .answered (.ok (), after))
    (silent : lastWritten later handle.address = none) :
    stage.context.answer (.getGlobal handle) = .answered (.ok value, last) ↔
      last = stage.context ∧ ∀ func, value.target? = some func →
        happened.1.context.ComesBack stage.context func := by
  have begins := Context.create_sound id environment data
  have extension := life.extension_of_mem begins happened (by simp)
  obtain ⟨own, -, -, isKind, -⟩ :=
    Context.setGlobal_eq_ok_iff.1 (Context.answer_setGlobal_eq_ok_iff.1 set)
  obtain ⟨content, lowers, writes⟩ := Stage.write?_of_set asked set
  have offered : handle ∈ happened.1.globalsOffered happened.2 := by
    refine List.mem_append_left _ ?_
    rw [asked]
    exact List.mem_singleton_self _
  obtain ⟨global, found, -⟩ := (life.offered_holds valid honest offered own).2
  have written : lastWritten (later ++ [happened]) handle.address = some content := by
    rw [lastWritten_append, silent]
    simp [lastWritten, writes, GlobalWrite.at?]
  have now := life.global_since found
  rw [written, Option.getD_some] at now
  rw [Context.answer_getGlobal_eq_ok_iff, ← isKind,
    ← (life.sound begins).context.lift_lowered_iff extension lowers]
  simp [own, extension.id, now]

/-- While nothing is written to a global, it has the content that it had when it was read. -/
theorem content_of_get {fresh : Context σ} (life : Life fresh (later ++ happened :: earlier) stage)
    {global : Global} (found : happened.1.context.store.globals[handle.address]? = some global)
    (asked : happened.1.asked? happened.2 = some (.getGlobal handle))
    (silent : lastWritten later handle.address = none) :
    stage.context.store.globals[handle.address]? = some global := by
  have notWritten : lastWritten (later ++ [happened]) handle.address = none := by
    rw [lastWritten_append, silent]
    simp [lastWritten, Stage.write?_of_asked asked, Context.requestWrite?]
  rw [life.global_since found, notWritten, Option.getD_none]

/-- While nothing is written to a global, the value that was read from it is read again
exactly if it is no reference to a function of the host, or one whose type was adapted. -/
theorem reads_again
    (life : Life (.create id environment data) (later ++ happened :: earlier) stage)
    (valid : LinksValid (later ++ happened :: earlier))
    (asked : happened.1.asked? happened.2 = some (.getGlobal handle))
    (got : happened.1.context.answer (.getGlobal handle) = .answered (.ok value, after))
    (silent : lastWritten later handle.address = none) :
    stage.context.answer (.getGlobal handle) = .answered (.ok value, last) ↔
      last = stage.context ∧ ∀ func, value.target? = some func →
        ∃ entry, stage.context.funcEntry? func = some entry ∧
          ∀ number, entry.key = .host number →
            happened.1.context.store.isAdapted entry.signature = true := by
  have begins := Context.create_sound id environment data
  have extension := life.extension_of_mem begins happened (by simp)
  obtain ⟨own, global, found, lifted⟩ := Context.answer_getGlobal_eq_ok_iff.1 got
  have since := (life.since_answered begins (Context.create_tended id environment data) valid
    (by simp) asked got).1
  have now := life.content_of_get found asked silent
  rw [Context.answer_getGlobal_eq_ok_iff,
    ← (life.before.sound begins).context.lift_again_iff lifted since
      (life.sound begins).context]
  simp [own, extension.id, now]

/-- So it is with a failure. -/
theorem fails_again
    (life : Life (.create id environment data) (later ++ happened :: earlier) stage)
    (own : handle.context = happened.1.context.id) {error : CallError}
    (asked : happened.1.asked? happened.2 = some (.getGlobal handle))
    (failed : happened.1.context.answer (.getGlobal handle) = .answered (.error error, after))
    {global : Global} (found : happened.1.context.store.globals[handle.address]? = some global)
    (knows : happened.1.context.store.Knows global.value)
    (silent : lastWritten later handle.address = none) :
    stage.context.answer (.getGlobal handle) = .answered (.error error, stage.context) := by
  have begins := Context.create_sound id environment data
  have extension := life.extension_of_mem begins happened (by simp)
  have now := life.content_of_get found asked silent
  simp only [Context.answer, Context.getGlobal, own, found, now, extension.id, ne_eq,
    not_true_eq_false, if_false, Outcome.answered.injEq] at failed ⊢
  exact (life.before.sound begins).context.lift_fails_again knows failed extension
    (life.sound begins).context

end Life

/-- What the host and guest code can do with a global at a stage, after a history, and what
they find in it. -/
structure GlobalAccess {σ : Type} (past : List (Stage σ × Act σ)) (stage : Stage σ)
    (handle : GlobalHandle) : Prop where
  /-- The handle stands for a global of the context, which has the recorded type. -/
  held : stage.context.HoldsGlobal handle
  /-- It is set exactly if it is mutable, to values of its kind that belong to the context,
  if the functions in them were handed out. -/
  set_iff : ∀ {value : Val}, (∀ func, value.target? = some func →
    func.context = stage.context.id → func ∈ issuedIn past) →
      ((∃ after, stage.context.answer (.setGlobal handle value) = .answered (.ok (), after)) ↔
        handle.type.mutable = true ∧ value.kind = handle.type.content ∧
          value.belongsTo stage.context.id = true)
  /-- A request to set it that is refused changes nothing. -/
  refused : ∀ {value : Val} {error : CallError} {after : Context σ},
    stage.context.answer (.setGlobal handle value) = .answered (.error error, after) →
      after = stage.context
  /-- The host reads the content, as it comes out of the engine. -/
  hostReads : ∀ {global : Global},
    stage.context.store.globals[handle.address]? = some global →
      stage.context.answer (.getGlobal handle) =
        .answered (stage.context.lift global.value handle.type.content)
  /-- So does guest code of any instance that has the global. -/
  guestReads : ∀ {activation : Activation} {code : List Instr} {cont : GuestCont σ}
    {global : Global}, stage.GuestAt .globalGet handle.address activation code cont →
      stage.context.store.globals[handle.address]? = some global →
        stage.take .step = some { stage with running := some (.guest { activation with
          registers := activation.registers.push global.value activation.registers.operands
          code := code
          spent := activation.spent + 1 } cont) }
  /-- The host writes a value that it sets, as it goes into the engine. -/
  hostWrites : ∀ {act : Act σ} {value : Val} {after : Context σ},
    stage.asked? act = some (.setGlobal handle value) →
      stage.context.answer (.setGlobal handle value) = .answered (.ok (), after) →
        ∃ content, stage.context.lower value = .ok content ∧
          stage.write? act = some ⟨handle.address, content⟩
  /-- So does guest code of any instance that has the global. -/
  guestWrites : ∀ {activation : Activation} {code : List Instr} {cont : GuestCont σ}
    {value : Value} {rest : List Value},
      stage.GuestAt .globalSet handle.address activation code cont →
        activation.registers.operands = value :: rest →
          stage.write? .step = some ⟨handle.address, value⟩
  /-- The content is what was written last, by whomever, or else what it was before. -/
  latest : ∀ {later earlier : List (Stage σ × Act σ)} {happened : Stage σ × Act σ}
    {global : Global}, past = later ++ happened :: earlier →
      happened.1.context.store.globals[handle.address]? = some global →
        stage.context.store.globals[handle.address]? = some { global with
          value := (lastWritten (later ++ [happened]) handle.address).getD global.value }
  /-- Nothing is ever written to a global that is not mutable. -/
  neverWritten : handle.type.mutable = false → lastWritten past handle.address = none
  /-- The instance of a link has the global where it was given for an import. -/
  imported : ∀ happened ∈ past, ∀ {call : LinkCall σ} {made : InstanceEntry} {index : Nat},
    happened.1.linkBegun? happened.2 = some call →
      (happened.1.context.engineLink call.artifact call.items).1 = .ok made →
        call.globals[index]? = some handle →
          ∃ owning, stage.context.store.instances[made.owner]? = some owning ∧
            owning.globals[index]? = some handle.address
  /-- An instance that exports the global has it under the exported index. -/
  exported : ∀ {inst : InstanceHandle} {name : String} {after : Context σ},
    stage.context.lookup inst name = (some (.global handle), after) →
      ∃ made, stage.context.instanceEntry? inst = some made ∧
        stage.context.ExportsGlobal made name handle
  /-- A value that was set and not written over since is read exactly if it is no reference,
  or one that comes back. -/
  readsBack : ∀ {later earlier : List (Stage σ × Act σ)} {happened : Stage σ × Act σ}
    {value : Val} {after last : Context σ}, past = later ++ happened :: earlier →
      happened.1.asked? happened.2 = some (.setGlobal handle value) →
        happened.1.context.answer (.setGlobal handle value) = .answered (.ok (), after) →
          lastWritten later handle.address = none →
            (stage.context.answer (.getGlobal handle) = .answered (.ok value, last) ↔
              last = stage.context ∧ ∀ func, value.target? = some func →
                happened.1.context.ComesBack stage.context func)
  /-- A value that was read is read again, if the global is not mutable or nothing was written
  to it since, exactly if it is no reference to a function of the host, or one whose type was
  adapted when it was read. -/
  readsAgain : ∀ {later earlier : List (Stage σ × Act σ)} {happened : Stage σ × Act σ}
    {value : Val} {after last : Context σ}, past = later ++ happened :: earlier →
      happened.1.asked? happened.2 = some (.getGlobal handle) →
        happened.1.context.answer (.getGlobal handle) = .answered (.ok value, after) →
          handle.type.mutable = false ∨ lastWritten later handle.address = none →
            (stage.context.answer (.getGlobal handle) = .answered (.ok value, last) ↔
              last = stage.context ∧ ∀ func, value.target? = some func →
                ∃ entry, stage.context.funcEntry? func = some entry ∧
                  ∀ number, entry.key = .host number →
                    happened.1.context.store.isAdapted entry.signature = true)
  /-- A failure to read it is repeated in the same way, if the engine has the function that
  the content refers to. -/
  failsAgain : ∀ {later earlier : List (Stage σ × Act σ)} {happened : Stage σ × Act σ}
    {error : CallError} {after : Context σ} {global : Global},
      past = later ++ happened :: earlier →
        happened.1.asked? happened.2 = some (.getGlobal handle) →
          happened.1.context.answer (.getGlobal handle) = .answered (.error error, after) →
            happened.1.context.store.globals[handle.address]? = some global →
              happened.1.context.store.Knows global.value →
                handle.type.mutable = false ∨ lastWritten later handle.address = none →
                  stage.context.answer (.getGlobal handle) =
                    .answered (.error error, stage.context)

/-- In every honest life of a context with valid modules, a global is shared by the host and
all instances that import or export it.  What is read from it is what was written last: the
same value, but for some references to functions of the host. -/
theorem Life.globalAccess {σ : Type} {id : ContextId} {environment : Environment} {data : σ}
    {past : List (Stage σ × Act σ)} {stage : Stage σ}
    (life : Life (.create id environment data) past stage) (valid : LinksValid past)
    (honest : Honest past) (globalsHonest : GlobalsHonest past) {handle : GlobalHandle}
    (minted : .item (.global handle) ∈ mintedIn past) : GlobalAccess past stage handle := by
  have begins := Context.create_sound id environment data
  have held := (life.globals_held valid globalsHonest).2 handle minted
  have silentOf {later earlier : List (Stage σ × Act σ)} {happened : Stage σ × Act σ}
      (history : past = later ++ happened :: earlier)
      (silent : handle.type.mutable = false ∨ lastWritten later handle.address = none) :
      lastWritten later handle.address = none := by
    rcases silent with cannotBeSet | silent
    · exact life.lastWritten_of_immutable valid globalsHonest held cannotBeSet (by simp [history])
    · exact silent
  constructor
  case held => exact held
  case set_iff =>
    intro value issued
    exact held.set_iff (life.sound begins).context fun func isTarget own =>
      (life.issued_owns_and_backed begins honest).1 func (issued func isTarget own)
  case refused =>
    intro value error after failed
    rcases Context.applied_cases (Outcome.answered.inj failed) with same | set
    · exact same
    · rw [Context.answer_setGlobal_eq_ok_iff.2 set] at failed
      cases failed
  case hostReads =>
    intro global found
    simp [Context.answer, Context.getGlobal, held.1, found]
  case guestReads =>
    intro activation code cont global isNext found
    exact isNext.take found
  case hostWrites =>
    intro act value after asked set
    exact Stage.write?_of_set asked set
  case guestWrites =>
    intro activation code cont value rest isNext operands
    exact isNext.write? operands
  case latest =>
    rintro later earlier happened global rfl found
    exact life.global_since found
  case neverWritten =>
    intro cannotBeSet
    exact life.lastWritten_of_immutable valid globalsHonest held cannotBeSet (List.Subset.refl past)
  case imported =>
    intro happened member call made index begun engine given
    exact life.global_of_import valid member begun engine given
  case exported =>
    intro inst name after looked
    obtain ⟨made, declared, entry, -, -, exports⟩ := Context.exportsGlobal_of_lookup looked
    exact ⟨made, entry, exports⟩
  case readsBack =>
    rintro later earlier happened value after last rfl asked set silent
    exact life.reads_back valid globalsHonest asked set silent
  case readsAgain =>
    intro later earlier happened value after last history asked got silent
    have silentSince := silentOf history silent
    subst history
    exact life.reads_again valid asked got silentSince
  case failsAgain =>
    intro later earlier happened error after global history asked failed found knows silent
    have silentSince := silentOf history silent
    subst history
    have extension := life.extension_of_mem begins happened (by simp)
    exact life.fails_again (held.1.trans extension.id) asked failed found knows silentSince

/-! ## A global of the host and of guest code -/

namespace SharedGlobal

/-- A number that can be set. -/
def type : GlobalType := ⟨.i32, true⟩

def handle : GlobalHandle := ⟨⟨0⟩, 0, type⟩

/-- A module that imports the global, and exports another one.  Its start function writes to the
exported one what it finds in the imported one, and then another number to the imported one. -/
def artifact : Artifact where
  environment := ⟨0⟩
  serial := 0
  module :=
    { types := [⟨[], []⟩]
      imports := [⟨"env", "g", .global ⟨.i32, true⟩⟩]
      funcs := [⟨⟨[], []⟩, [], [.globalGet 0, .globalSet 1, .const (.i32 5), .globalSet 0]⟩]
      globals := [⟨⟨.i32, true⟩, [.const (.i32 0)]⟩]
      exports := [⟨"seen", .global 1⟩]
      start := some 0 }
  digest := []
  surface := ⟨[⟨"env", "g", .global type⟩], [⟨"seen", .global type⟩]⟩
  surface_eq := rfl

theorem valid : artifact.module.Valid := ⟨⟨false, false, false⟩, rfl⟩

def fresh : Context Unit := .create ⟨0⟩ { id := ⟨0⟩, config := {} } ()

/-- The host sets the global, links the module, and looks the exported global up. -/
theorem lives : ∃ past context, Life fresh past (.idle context) ∧ LinksValid past ∧
    Honest past ∧ GlobalsHonest past ∧
    mintedIn past = [.item (.global ⟨⟨0⟩, 1, type⟩), .inst ⟨⟨0⟩, 0⟩, .item (.global handle)] ∧
      context.answer (.getGlobal handle) = .answered (.ok (.i32 5), context) ∧
        context.answer (.getGlobal ⟨⟨0⟩, 1, type⟩) = .answered (.ok (.i32 8), context) := by
  have made : Life fresh _ _ := Life.created.acted
    (show Stage.take _ (.ask (.createGlobal type (.i32 7))) = some _ from rfl)
  have set := made.acted (show Stage.take _ (.ask (.setGlobal handle (.i32 8))) = some _ from rfl)
  have linking := set.acted (show Stage.take _ (.link artifact [.global handle]) = some _ from rfl)
  have entered := linking.acted (show Stage.take _ .step = some _ from rfl)
  have got := entered.acted (show Stage.take _ .step = some _ from rfl)
  have seen := got.acted (show Stage.take _ .step = some _ from rfl)
  have pushed := seen.acted (show Stage.take _ .step = some _ from rfl)
  have written := pushed.acted (show Stage.take _ .step = some _ from rfl)
  have returned := written.acted (show Stage.take _ .step = some _ from rfl)
  have linked := returned.acted (show Stage.take _ .step = some _ from rfl)
  have closed := linked.acted (show Stage.take _ .close = some _ from rfl)
  have shown := closed.acted
    (show Stage.take _ (.ask (.lookup ⟨⟨0⟩, 0⟩ "seen")) = some _ from rfl)
  refine ⟨_, _, shown, ?_, ?_, ?_, rfl, rfl, rfl⟩
  · iterate 9 refine LinksValid.silent ?_ rfl
    exact .linked (.silent (.silent .nil rfl) rfl) rfl valid
  · iterate 12 refine Honest.silent ?_ rfl
    trivial
  · iterate 9 refine GlobalsHonest.silent ?_ rfl
    -- It is offered to be set, and for the import.
    refine ⟨?_, ?_, .silent trivial rfl⟩
    all_goals
      intro _ member _
      cases List.mem_singleton.1 member
      exact List.mem_singleton_self _

end SharedGlobal

/-- The host finds in the global what guest code wrote, and guest code found what the host
wrote. -/
theorem Life.globalAccess_of_shared : ∃ past context, Life SharedGlobal.fresh past (.idle context) ∧
    GlobalAccess past (.idle context) SharedGlobal.handle ∧
      context.answer (.getGlobal SharedGlobal.handle) = .answered (.ok (.i32 5), context) ∧
        context.answer (.getGlobal ⟨⟨0⟩, 1, SharedGlobal.type⟩) =
          .answered (.ok (.i32 8), context) := by
  obtain ⟨past, context, life, valid, honest, globalsHonest, minted, inShared, inSeen⟩ :=
    SharedGlobal.lives
  have isMinted : .item (.global SharedGlobal.handle) ∈ mintedIn past := by simp [minted]
  exact ⟨past, context, life, Life.globalAccess life valid honest globalsHonest isMinted,
    inShared, inSeen⟩

/-! ## References that do not come back -/

namespace PassingReference

/-- A reference that cannot be set. -/
def constant : GlobalHandle := ⟨⟨0⟩, 0, ⟨.funcRef, false⟩⟩

/-- A reference that can be set. -/
def settable : GlobalHandle := ⟨⟨0⟩, 1, ⟨.funcRef, true⟩⟩

/-- The function that is put into the globals. -/
def value : Val := .funcRef (some ⟨⟨0⟩, 0⟩)

def fresh : Context Unit := .create ⟨0⟩ { id := ⟨0⟩, config := {} } ()

/-- A host function is made, a constant global of it, and a global that can be set. -/
theorem lives : ∃ past context, Life fresh past (.idle context) ∧ LinksValid past ∧
    Honest past ∧ GlobalsHonest past ∧ .item (.global constant) ∈ mintedIn past ∧
      .item (.global settable) ∈ mintedIn past ∧
        (∃ after last, context.answer (.setGlobal settable value) = .answered (.ok (), after) ∧
          after.answer (.getGlobal settable) =
            .answered (.ok (.funcRef (some ⟨⟨0⟩, 1⟩)), last)) ∧
        ∃ after last, context.answer (.getGlobal constant) =
          .answered (.ok (.funcRef (some ⟨⟨0⟩, 1⟩)), after) ∧
            after.answer (.getGlobal constant) =
              .answered (.ok (.funcRef (some ⟨⟨0⟩, 2⟩)), last) := by
  have registered : Life fresh _ _ := Life.created.acted
    (show Stage.take _ (.register .empty fun _ => .finish Slots.empty) = some _ from rfl)
  have held := registered.acted
    (show Stage.take _ (.ask (.createGlobal constant.type value)) = some _ from rfl)
  have made := held.acted
    (show Stage.take _ (.ask (.createGlobal settable.type (.funcRef none))) = some _ from rfl)
  refine ⟨_, _, made, ?_, ?_, ?_, ?_, ?_, ⟨_, _, rfl, rfl⟩, _, _, rfl, rfl⟩
  · exact .silent (.silent (.silent .nil rfl) rfl) rfl
  · iterate 3 refine Honest.silent ?_ rfl
    trivial
  · iterate 3 refine GlobalsHonest.silent ?_ rfl
    trivial
  · exact List.mem_cons_of_mem _ (List.mem_cons_self ..)
  · exact List.mem_cons_self ..

end PassingReference

/-- A reference that was set may be read as another one, though nothing was written in
between, and so may one in a global that cannot be set. -/
theorem Life.not_reads_same :
    (¬∀ (past : List (Stage Unit × Act Unit)) (context after last : Context Unit)
      (handle : GlobalHandle) (value read : Val), Life PassingReference.fresh past (.idle context) →
        LinksValid past → Honest past → GlobalsHonest past →
          .item (.global handle) ∈ mintedIn past →
            context.answer (.setGlobal handle value) = .answered (.ok (), after) →
              after.answer (.getGlobal handle) = .answered (.ok read, last) → read = value) ∧
    ¬∀ (past : List (Stage Unit × Act Unit)) (context after last : Context Unit)
      (handle : GlobalHandle) (first second : Val),
        Life PassingReference.fresh past (.idle context) →
          LinksValid past → Honest past → GlobalsHonest past →
            .item (.global handle) ∈ mintedIn past → handle.type.mutable = false →
              context.answer (.getGlobal handle) = .answered (.ok first, after) →
                after.answer (.getGlobal handle) = .answered (.ok second, last) →
                  second = first := by
  obtain ⟨past, context, life, valid, honest, globalsHonest, isConstant, isSettable,
    ⟨after, last, set, got⟩, middle, ended, first, second⟩ := PassingReference.lives
  constructor
  · intro readsSame
    have same := readsSame past context after last _ _ _ life valid honest globalsHonest
      isSettable set got
    exact absurd same (by decide)
  · intro readsSame
    have same := readsSame past context middle ended _ _ _ life valid honest globalsHonest
      isConstant rfl first second
    exact absurd same (by decide)

end WasmSandbox
