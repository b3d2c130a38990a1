import WasmSandbox.Proofs.Context.Soundness
import WasmSandbox.Proofs.Engine.Sizes

/-!
Contract: everything that can be done in a context keeps it sound.

Owns:
- values that come out of the engine: their kinds, and that handles in them are those
  of functions with an entry;
- the answers to requests, with the handles they hand out;
- the state after the engine made an instance, or failed to.

Does not own: calls and runs.
-/

namespace WasmSandbox

open Wasm

/-- The functions whose handles are in the answer to a request. -/
def Request.handles {σ : Type} : (request : Request σ) → request.Answer → List FuncHandle
  | .getGlobal _, answer => answer.toOption.toList.filterMap Val.target?
  | .lookup _ _, answer => answer.toList.filterMap Item.func?
  | .exports _, answer => answer.filterMap fun item => item.2.func?
  | _, _ => []

/-- Whether there are functions in the answer to a request. -/
def Request.HandsOut {σ : Type} : Request σ → Prop
  | .getGlobal _ => True
  | .lookup _ _ => True
  | .exports _ => True
  | _ => False

theorem Request.handles_eq_nil {σ : Type} {request : Request σ} {answer : request.Answer}
    (noFuncs : ¬request.HandsOut) : request.handles answer = [] := by
  cases request
  case getGlobal global => exact absurd trivial noFuncs
  case lookup inst name => exact absurd trivial noFuncs
  case exports inst => exact absurd trivial noFuncs
  all_goals rfl

namespace Context

variable {σ : Type} {context after : Context σ}

/-! ## Values -/

/-- A value that is not a reference to a function passes without the context being
asked, or is not of the declared kind. -/
private theorem lift_number (context : Context σ) (value : Value) (kind : ValueKind)
    (noFunc : ∀ key, value ≠ .funcRef (some key)) :
    (∃ lifted, context.lift value kind = (.ok lifted, context) ∧ lifted.kind = kind ∧
        lifted.target? = none) ∨
      ∃ error, context.lift value kind = (.error error, context) := by
  cases value with
  | funcRef target =>
      cases target with
      | some key => exact absurd rfl (noFunc key)
      | none =>
          cases kind <;> unfold lift <;> dsimp only
          case funcRef => exact .inl ⟨_, rfl, rfl, rfl⟩
          all_goals exact .inr ⟨_, rfl⟩
  | i32 bits =>
      cases kind <;> unfold lift <;> dsimp only
      case i32 => exact .inl ⟨_, rfl, rfl, rfl⟩
      all_goals exact .inr ⟨_, rfl⟩
  | i64 bits =>
      cases kind <;> unfold lift <;> dsimp only
      case i64 => exact .inl ⟨_, rfl, rfl, rfl⟩
      all_goals exact .inr ⟨_, rfl⟩
  | f32 bits =>
      cases kind <;> unfold lift <;> dsimp only
      case f32 => exact .inl ⟨_, rfl, rfl, rfl⟩
      all_goals exact .inr ⟨_, rfl⟩
  | f64 bits =>
      cases kind <;> unfold lift <;> dsimp only
      case f64 => exact .inl ⟨_, rfl, rfl, rfl⟩
      all_goals exact .inr ⟨_, rfl⟩
  | v128 bits =>
      cases kind <;> unfold lift <;> dsimp only
      all_goals exact .inr ⟨_, rfl⟩
  | externRef =>
      cases kind <;> unfold lift <;> dsimp only
      all_goals exact .inr ⟨_, rfl⟩

/-- A value that comes out of the engine is a reference to a function, or passes without
the context being asked, or is not of the declared kind. -/
theorem lift_cases (context : Context σ) (value : Value) (kind : ValueKind) :
    (∃ key, value = .funcRef (some key) ∧ kind = .funcRef) ∨
      (∀ key, value = .funcRef (some key) → kind ≠ .funcRef) ∧
        ((∃ lifted, context.lift value kind = (.ok lifted, context) ∧ lifted.kind = kind ∧
            lifted.target? = none) ∨
          ∃ error, context.lift value kind = (.error error, context)) := by
  by_cases reference : ∃ key, value = .funcRef (some key)
  · obtain ⟨key, rfl⟩ := reference
    cases kind
    case funcRef => exact .inl ⟨key, rfl, rfl⟩
    all_goals
      refine .inr ⟨fun _ _ => by simp, .inr ?_⟩
      unfold lift
      dsimp only
      exact ⟨_, rfl⟩
  · have noFunc : ∀ key, value ≠ .funcRef (some key) := fun key same => reference ⟨key, same⟩
    exact .inr ⟨fun key same => absurd same (noFunc key), lift_number context value kind noFunc⟩

theorem lift_func (context : Context σ) (key : FuncKey) :
    context.lift (.funcRef (some key)) .funcRef =
      match context.handleOf key none with
      | (.ok func, context) => (.ok (.funcRef (some func)), context)
      | (.error reason, context) => (.error (.internal reason), context) :=
  rfl

theorem Sound.lift_grows (sound : context.Sound) (value : Value) (kind : ValueKind) :
    Grows context (context.lift value kind).2 ∧
      ∀ lifted, (context.lift value kind).1 = .ok lifted →
        lifted.kind = kind ∧ (context.lift value kind).2.Admits lifted := by
  rcases context.lift_cases value kind with
    ⟨key, rfl, rfl⟩ | ⟨-, ⟨lifted, passes, sameKind, noTarget⟩ | ⟨error, fails⟩⟩
  · have reached := sound.handleOf_grows key none (by simp)
    rw [lift_func]
    generalize context.handleOf key none = out at reached
    obtain ⟨outcome, after⟩ := out
    obtain ⟨grows, owns⟩ := reached
    cases outcome with
    | error reason => exact ⟨grows, by simp⟩
    | ok func =>
        refine ⟨grows, ?_⟩
        intro lifted same
        rw [← Except.ok.inj same]
        refine ⟨rfl, ?_⟩
        intro other target
        rw [← Option.some.inj target]
        exact owns func rfl
  · rw [passes]
    refine ⟨sound.grows_refl, ?_⟩
    intro other same
    rw [← Except.ok.inj same]
    refine ⟨sameKind, ?_⟩
    intro func target
    rw [noTarget] at target
    contradiction
  · rw [fails]
    exact ⟨sound.grows_refl, by simp⟩

theorem Sound.liftAll_grows (sound : context.Sound) (values : List Value)
    (kinds : List ValueKind) :
    Grows context (context.liftAll values kinds).2 ∧
      ∀ lifted, (context.liftAll values kinds).1 = .ok lifted →
        (values.length = kinds.length → lifted.map Val.kind = kinds) ∧
          ∀ value ∈ lifted, (context.liftAll values kinds).2.Admits value := by
  induction values generalizing context kinds with
  | nil =>
      simp only [liftAll]
      refine ⟨sound.grows_refl, ?_⟩
      intro lifted same
      rw [← Except.ok.inj same]
      refine ⟨fun sameLength => ?_, by simp⟩
      rw [List.length_eq_zero_iff.1 sameLength.symm]
      rfl
  | cons value values inductionHypothesis =>
      cases kinds with
      | nil =>
          simp only [liftAll]
          refine ⟨sound.grows_refl, ?_⟩
          intro lifted same
          rw [← Except.ok.inj same]
          exact ⟨fun sameLength => by simp at sameLength, by simp⟩
      | cons kind kinds =>
          have head := sound.lift_grows value kind
          unfold liftAll
          generalize context.lift value kind = out at head
          obtain ⟨outcome, middle⟩ := out
          obtain ⟨grows, admitted⟩ := head
          cases outcome with
          | error error => exact ⟨grows, by simp⟩
          | ok first =>
              obtain ⟨firstKind, firstAdmits⟩ := admitted first rfl
              have tail := inductionHypothesis grows.sound kinds
              simp only
              generalize middle.liftAll values kinds = rest at tail
              obtain ⟨outcome, after⟩ := rest
              obtain ⟨restGrows, restAdmitted⟩ := tail
              cases outcome with
              | error error => exact ⟨grows.trans restGrows, by simp⟩
              | ok others =>
                  obtain ⟨otherKinds, othersAdmit⟩ := restAdmitted others rfl
                  refine ⟨grows.trans restGrows, ?_⟩
                  intro lifted same
                  rw [← Except.ok.inj same]
                  refine ⟨fun sameLength => ?_, fun value member => ?_⟩
                  · rw [List.map_cons, firstKind, otherKinds (by simpa using sameLength)]
                  · rcases List.mem_cons.1 member with isFirst | inRest
                    · rw [isFirst]
                      exact firstAdmits.mono restGrows.extension
                    · exact othersAdmit value inRest

/-! ## Memories and globals -/

/-- A context with other host data and another engine state, in which functions and
instances are kept, and memories and tables keep within their bounds. -/
def Touches (context after : Context σ) : Prop :=
  ∃ data store, context.store.Keeps store ∧ context.store.Works store ∧
    after = { context with data := data, store := store }

theorem Sound.touches_grows (sound : context.Sound) (touches : context.Touches after) :
    Grows context after := by
  obtain ⟨data, store, keeps, -, rfl⟩ := touches
  exact ⟨SoundParts.keeps sound keeps,
    ⟨rfl, rfl, keeps.extends, fun found => found, fun found => found⟩, rfl⟩

theorem Touches.works (touches : context.Touches after) : context.store.Works after.store := by
  obtain ⟨data, store, -, works, rfl⟩ := touches
  exact works

theorem Touches.refl (context : Context σ) : context.Touches context :=
  ⟨context.data, context.store, .refl _, .refl _, rfl⟩

theorem touches_store {store : Store (Closure σ)} (keeps : context.store.Keeps store)
    (works : context.store.Works store) : context.Touches { context with store := store } :=
  ⟨context.data, store, keeps, works, rfl⟩

theorem memory_eq_ok_iff {handle : MemoryHandle} {memory : Memory} :
    context.memory handle = .ok memory ↔
      handle.context = context.id ∧ context.store.memories[handle.address]? = some memory := by
  unfold Context.memory
  by_cases own : handle.context = context.id
  · cases found : context.store.memories[handle.address]? <;> simp [own]
  · simp [own]

/-- Limits that pass the check are in order. -/
theorem checkLimits_inOrder {limits : Limits} (checked : checkLimits limits = .ok ()) :
    limits.maximum.all (limits.minimum ≤ ·) = true := by
  unfold checkLimits at checked
  split at checked
  · contradiction
  · split at checked
    · contradiction
    · split at checked
      · contradiction
      · rename_i inOrder
        cases greatest : limits.maximum with
        | none => rfl
        | some maximum => simpa [greatest, UInt64.not_lt] using inOrder

/-- A memory is filled with as many pages as it had. -/
theorem setBytes_touches {handle : MemoryHandle} {owned : Memory} {written : PagedBytes}
    (found : context.memory handle = .ok owned) (pages : written.pageCount = owned.pages) :
    context.Touches
      (context.updateMemory handle fun memory => { memory with bytes := written }) := by
  apply touches_store (Store.updateMemory_keeps ..)
  apply context.store.setBytes_works handle.address
  intro memory isMemory
  rw [(memory_eq_ok_iff.1 found).2, Option.some.injEq] at isMemory
  rw [← isMemory]
  exact pages

theorem createMemory_touches {type : MemoryType} {answer : Except MemoryError MemoryHandle}
    (answered : context.createMemory type = .answered (answer, after)) :
    context.Touches after := by
  simp only [createMemory] at answered
  split at answered
  · cases answered
    exact .refl context
  · rename_i checked
    split at answered
    · contradiction
    · rename_i addressed
      split at answered
      · rename_i added
        cases answered
        have least : type.limits.minimum.toNat ≤ maxPages := by
          by_contra beyond
          exact addressed (by simp [Nat.lt_of_not_le beyond])
        apply touches_store (Store.addMemory?_keeps added)
        apply context.store.addMemory?_works _ least added
        have inOrder := checkLimits_inOrder checked
        cases greatest : type.limits.maximum with
        | none => rfl
        | some maximum => simpa [greatest, UInt64.le_iff_toNat_le] using inOrder
      · cases answered
        exact .refl context

theorem writeMemory_touches {memory : MemoryHandle} {offset : UInt64} {bytes : List UInt8}
    (written : context.writeMemory memory offset bytes = .ok after) : context.Touches after := by
  unfold writeMemory at written
  cases found : context.memory memory with
  | error error =>
      simp only [found, bind, Except.bind] at written
      contradiction
  | ok owned =>
      cases stored : Bytes.write owned.bytes offset bytes with
      | error error =>
          simp only [found, stored, bind, Except.bind] at written
          contradiction
      | ok filled =>
          simp only [found, stored, bind, Except.bind, pure, Except.pure] at written
          cases written
          exact setBytes_touches found (PagedBytes.pageCount_of_write stored)

theorem writeWord_touches {memory : MemoryHandle} {offset : UInt64} {value : UInt32}
    (written : context.writeWord memory offset value = .ok after) : context.Touches after := by
  unfold writeWord at written
  cases found : context.memory memory with
  | error error =>
      simp only [found, bind, Except.bind] at written
      contradiction
  | ok owned =>
      cases stored : Bytes.writeWord owned.bytes offset value with
      | error error =>
          simp only [found, stored, bind, Except.bind] at written
          contradiction
      | ok filled =>
          simp only [found, stored, bind, Except.bind, pure, Except.pure] at written
          cases written
          exact setBytes_touches found (PagedBytes.pageCount_of_write stored)

theorem growMemory_touches {memory : MemoryHandle} {delta : UInt64} {pages : Nat}
    (grown : context.growMemory memory delta = .ok (pages, after)) : context.Touches after := by
  unfold growMemory at grown
  cases found : context.memory memory with
  | error error =>
      simp only [found, bind, Except.bind] at grown
      contradiction
  | ok owned =>
      simp only [found, bind, Except.bind] at grown
      split at grown
      · rename_i grows
        cases grown
        apply touches_store (Store.updateMemory_keeps ..)
        apply context.store.growMemory_works
        intro held isHeld
        rw [(memory_eq_ok_iff.1 found).2, Option.some.injEq] at isHeld
        rw [← isHeld]
        exact grows
      · contradiction

theorem checkContent_eq_ok_iff {type : GlobalType} {value : Val} {accepted : Unit} :
    checkContent type value = .ok accepted ↔ value.kind = type.content := by
  unfold checkContent
  split <;> simp_all

/-- A global is made of a value of its kind that belongs to the context. -/
theorem createGlobal_eq_ok_iff {type : GlobalType} {value : Val} {handle : GlobalHandle} :
    context.createGlobal type value = .ok (handle, after) ↔
      value.kind = type.content ∧ value.belongsTo context.id = true ∧
        ∃ content, context.lower value = .ok content ∧
          (⟨context.id, context.store.globals.size, type⟩, { context with store :=
            (context.store.addGlobal ⟨type.content.guest, type.mutable⟩ content).2 }) =
              (handle, after) := by
  unfold createGlobal
  rw [bind_eq_ok_iff]
  simp only [checkContent_eq_ok_iff, exists_const]
  refine and_congr_right fun _ => ?_
  cases own : value.belongsTo context.id with
  | false => simp [bind, Except.bind, throw, throwThe, MonadExceptOf.throw]
  | true =>
      simp only [Bool.not_true, Bool.false_eq_true, if_false, bind_eq_ok_iff, true_and, pure,
        Except.pure, Except.ok.injEq]
      exact Iff.rfl

/-- A global of the context is set if it is mutable, to a value of its kind that belongs to
the context. -/
theorem setGlobal_eq_ok_iff {handle : GlobalHandle} {value : Val} :
    context.setGlobal handle value = .ok after ↔
      handle.context = context.id ∧ value.belongsTo context.id = true ∧
        handle.type.mutable = true ∧ value.kind = handle.type.content ∧
          ∃ content, context.lower value = .ok content ∧
            { context with store := context.store.updateGlobal handle.address content } =
              after := by
  unfold setGlobal
  by_cases own : handle.context = context.id
  · rw [own]
    cases value.belongsTo context.id with
    | false => simp [bind, Except.bind, throw, throwThe, MonadExceptOf.throw]
    | true =>
        cases handle.type.mutable with
        | false => simp [bind, Except.bind, throw, throwThe, MonadExceptOf.throw]
        | true => simp [bind_eq_ok_iff, checkContent_eq_ok_iff, pure, Except.pure]
  · simp [own, bind, Except.bind, throw, throwThe, MonadExceptOf.throw]

theorem createGlobal_touches {type : GlobalType} {value : Val} {handle : GlobalHandle}
    (created : context.createGlobal type value = .ok (handle, after)) : context.Touches after := by
  obtain ⟨-, -, content, -, same⟩ := createGlobal_eq_ok_iff.1 created
  cases same
  exact touches_store (Store.addGlobal_keeps ..) (Store.addGlobal_works ..)

theorem setGlobal_touches {handle : GlobalHandle} {value : Val}
    (set : context.setGlobal handle value = .ok after) : context.Touches after := by
  obtain ⟨-, -, -, -, content, -, rfl⟩ := setGlobal_eq_ok_iff.1 set
  exact touches_store (Store.updateGlobal_keeps ..) (Store.updateGlobal_works ..)

theorem Sound.getGlobal_grows (sound : context.Sound) (handle : GlobalHandle) :
    Grows context (context.getGlobal handle).2 ∧
      ∀ value, (context.getGlobal handle).1 = .ok value →
        (context.getGlobal handle).2.Admits value := by
  unfold getGlobal
  split
  · exact ⟨sound.grows_refl, by simp⟩
  · split
    · rename_i global found
      obtain ⟨grows, lifted⟩ := sound.lift_grows global.value handle.type.content
      exact ⟨grows, fun value same => (lifted value same).2⟩
    · exact ⟨sound.grows_refl, by simp⟩

/-! ## Exports -/

/-- An exported function gets a handle under its declared signature, which is that of
the function's type. -/
theorem Sound.exportedItem_grows (sound : context.Sound) {owner : Nat} {target : ExportTarget}
    {type : ItemType} (declared : ∀ {index signature}, target = .func index →
      type = .func signature → context.store.funcType? (.guest owner index) =
        some signature.guest) :
    Grows context (context.exportedItem owner target type).2 ∧
      ∀ item, (context.exportedItem owner target type).1 = some item →
        ∀ func, item.func? = some func →
          (context.exportedItem owner target type).2.Owns func := by
  unfold exportedItem
  split
  · exact ⟨sound.grows_refl, by simp⟩
  · split
    case h_1 index signature =>
      have reached := sound.handleOf_grows (.guest owner index) (some signature) (by
        rintro _ ⟨rfl⟩
        exact ⟨⟨owner, index, rfl⟩, declared rfl rfl⟩)
      generalize context.handleOf (.guest owner index) (some signature) = out at reached
      obtain ⟨outcome, after⟩ := out
      obtain ⟨grows, owns⟩ := reached
      cases outcome with
      | error reason => exact ⟨grows, by simp⟩
      | ok handle =>
          refine ⟨grows, ?_⟩
          intro item same func isFunc
          rw [← Option.some.inj same] at isFunc
          rw [← Option.some.inj isFunc]
          exact owns handle rfl
    all_goals
      refine ⟨sound.grows_refl, ?_⟩
      intro item same func isFunc
      simp only [Option.map_eq_some_iff, reduceCtorEq] at same
    all_goals
      obtain ⟨address, -, rfl⟩ := same
      contradiction

/-- A function that an instance exports has the type that its artifact declares. -/
theorem Sound.exported_typed (sound : context.Sound) {inst : InstanceHandle}
    {made : InstanceEntry} {name : String} {declared : ExportDecl} {item : Wasm.Export}
    {index : Nat} {signature : Signature} (found : context.instanceEntry? inst = some made)
    (declaredAs : made.artifact.export? name = some declared)
    (exported : made.artifact.module.exports.find? (fun item => item.name == name) = some item)
    (target : item.target = .func index) (type : declared.type = .func signature) :
    context.store.funcType? (.guest made.owner index) = some signature.guest := by
  have typed := made.artifact.export_funcType declaredAs exported target type
  have member : context.instances[inst.index]? = some made := by
    unfold instanceEntry? at found
    split at found
    · exact found
    · contradiction
  obtain ⟨code, hosted, types⟩ := SoundParts.linked sound member
  rw [Store.funcType?_guest, hosted, Option.bind_some, types, List.getElem?_toArray]
  exact typed

theorem Sound.lookup_grows (sound : context.Sound) (inst : InstanceHandle) (name : String) :
    Grows context (context.lookup inst name).2 ∧
      ∀ item, (context.lookup inst name).1 = some item →
        ∀ func, item.func? = some func → (context.lookup inst name).2.Owns func := by
  simp only [lookup]
  cases found : context.instanceEntry? inst with
  | none => exact ⟨sound.grows_refl, by simp⟩
  | some entry =>
      simp only
      cases declaredAs : entry.artifact.export? name with
      | none => exact ⟨sound.grows_refl, by simp⟩
      | some declared =>
          cases exported : entry.artifact.module.exports.find? fun item => item.name == name with
          | none => exact ⟨sound.grows_refl, by simp⟩
          | some item =>
              simp only [Option.bind_eq_bind, Option.bind_some, Option.pure_def]
              apply sound.exportedItem_grows
              intro index signature target type
              exact sound.exported_typed found declaredAs exported target type

theorem Sound.lookupAll_grows (sound : context.Sound) (inst : InstanceHandle)
    (names : List String) :
    Grows context (context.lookupAll inst names).2 ∧
      ∀ item ∈ (context.lookupAll inst names).1, ∀ func, item.2.func? = some func →
        (context.lookupAll inst names).2.Owns func := by
  induction names generalizing context with
  | nil => exact ⟨sound.grows_refl, by simp [lookupAll]⟩
  | cons name rest inductionHypothesis =>
      have head := sound.lookup_grows inst name
      unfold lookupAll
      generalize context.lookup inst name = out at head
      obtain ⟨found, middle⟩ := out
      obtain ⟨grows, owns⟩ := head
      have tail := inductionHypothesis grows.sound
      cases found with
      | none => exact ⟨grows.trans tail.1, tail.2⟩
      | some item =>
          simp only
          generalize middle.lookupAll inst rest = others at tail
          obtain ⟨items, after⟩ := others
          obtain ⟨restGrows, restOwns⟩ := tail
          refine ⟨grows.trans restGrows, ?_⟩
          intro named member func isFunc
          rcases List.mem_cons.1 member with isFirst | inRest
          · rw [isFirst] at isFunc
            exact (owns item rfl func isFunc).mono restGrows.extension
          · exact restOwns named inRest func isFunc

theorem Sound.exports_grows (sound : context.Sound) (inst : InstanceHandle) :
    Grows context (context.exports inst).2 ∧
      ∀ item ∈ (context.exports inst).1, ∀ func, item.2.func? = some func →
        (context.exports inst).2.Owns func := by
  unfold exports
  split
  · exact sound.lookupAll_grows inst _
  · exact ⟨sound.grows_refl, by simp⟩

/-! ## Requests -/

/-- A change that fails leaves the context as it is. -/
theorem applied_cases {ε : Type} {outcome : Except ε (Context σ)} {answer : Except ε Unit}
    (same : context.applied outcome = (answer, after)) :
    after = context ∨ outcome = .ok after := by
  cases outcome <;> cases same
  · exact .inl rfl
  · exact .inr rfl

theorem changed_cases {ε α : Type} {outcome : Except ε (α × Context σ)} {answer : Except ε α}
    (same : context.changed outcome = (answer, after)) :
    after = context ∨ ∃ found, outcome = .ok (found, after) := by
  cases outcome <;> cases same
  · exact .inl rfl
  · exact .inr ⟨_, rfl⟩

/-- A request whose answer has no functions in it only touches memories and globals. -/
theorem answer_touches {request : Request σ} {answer : request.Answer}
    (answered : context.answer request = .answered (answer, after))
    (noFuncs : ¬request.HandsOut) : context.Touches after := by
  cases request
  case getGlobal global => exact absurd trivial noFuncs
  case lookup inst name => exact absurd trivial noFuncs
  case exports inst => exact absurd trivial noFuncs
  case modify change =>
    cases answered
    exact ⟨_, _, .refl _, .refl _, rfl⟩
  case createMemory type => exact createMemory_touches answered
  case writeMemory memory offset bytes =>
    rcases applied_cases (Outcome.answered.inj answered) with rfl | done
    · exact .refl _
    · exact writeMemory_touches done
  case writeWord memory offset value =>
    rcases applied_cases (Outcome.answered.inj answered) with rfl | done
    · exact .refl _
    · exact writeWord_touches done
  case growMemory memory delta =>
    rcases changed_cases (Outcome.answered.inj answered) with rfl | ⟨_, done⟩
    · exact .refl _
    · exact growMemory_touches done
  case createGlobal type value =>
    rcases changed_cases (Outcome.answered.inj answered) with rfl | ⟨_, done⟩
    · exact .refl _
    · exact createGlobal_touches done
  case setGlobal global value =>
    rcases applied_cases (Outcome.answered.inj answered) with rfl | done
    · exact .refl _
    · exact setGlobal_touches done
  -- All others only look.
  all_goals
    cases answered
    exact .refl _

/-- Whatever a closure or the embedder asks of a context, the context stays sound, and
handles in the answer are those of functions with an entry. -/
theorem Sound.answer_grows (sound : context.Sound) {request : Request σ}
    {answer : request.Answer} (answered : context.answer request = .answered (answer, after)) :
    Grows context after ∧ ∀ func ∈ request.handles answer, after.Owns func := by
  by_cases handsOut : request.HandsOut
  · cases request
    case getGlobal global =>
      obtain ⟨grows, admits⟩ := sound.getGlobal_grows global
      rw [Outcome.answered.inj answered] at grows admits
      refine ⟨grows, ?_⟩
      intro func member
      obtain ⟨value, isAnswer, target⟩ := List.mem_filterMap.1 member
      cases answer with
      | error error => simp [Except.toOption] at isAnswer
      | ok found =>
          have same : value = found := by simpa [Except.toOption] using isAnswer
          exact admits found rfl func (same ▸ target)
    case lookup inst name =>
      obtain ⟨grows, owns⟩ := sound.lookup_grows inst name
      rw [Outcome.answered.inj answered] at grows owns
      refine ⟨grows, ?_⟩
      intro func member
      obtain ⟨item, isAnswer, isFunc⟩ := List.mem_filterMap.1 member
      exact owns item (Option.mem_toList.1 isAnswer) func isFunc
    case exports inst =>
      obtain ⟨grows, owns⟩ := sound.exports_grows inst
      rw [Outcome.answered.inj answered] at grows owns
      refine ⟨grows, ?_⟩
      intro func member
      obtain ⟨item, isAnswer, isFunc⟩ := List.mem_filterMap.1 member
      exact owns item isAnswer func isFunc
    all_goals exact handsOut.elim
  · refine ⟨sound.touches_grows (answer_touches answered handsOut), ?_⟩
    rw [Request.handles_eq_nil handsOut]
    simp

/-! ## Links -/

private theorem describe_cases {item : Item} {type : ItemType} {lowered : Extern}
    (described : context.describe item = .ok (type, lowered)) :
    (∃ handle entry, item = .func handle ∧ context.funcEntry? handle = some entry ∧
        type = .func entry.signature ∧ lowered = .func entry.key) ∨
      (type.kind ≠ .func ∧ item.func? = none ∧ lowered.func? = none) := by
  unfold describe at described
  split at described
  · split at described
    · rename_i handle _ entry found
      cases described
      exact .inl ⟨handle, entry, rfl, found, rfl, rfl⟩
    · contradiction
  · split at described
    · cases described
      exact .inr ⟨by simp [ItemType.kind], rfl, rfl⟩
    · contradiction
  · split at described
    · cases described
      exact .inr ⟨by simp [ItemType.kind], rfl, rfl⟩
    · contradiction
  · cases described
    exact .inr ⟨by simp [ItemType.kind], rfl, rfl⟩

/-- An item that satisfies an import of a function is a function with the declared
signature, under its own key; any other import is not satisfied by a function. -/
theorem checkImport_cases {declared : ImportDecl} {item : Item} {provided : Extern}
    (satisfied : context.checkImport declared item = .ok provided) :
    (∃ handle entry, item = .func handle ∧ context.funcEntry? handle = some entry ∧
        declared.type = .func entry.signature ∧ provided = .func entry.key) ∨
      ((∀ signature, declared.type ≠ .func signature) ∧ item.func? = none ∧
        provided.func? = none) := by
  unfold checkImport at satisfied
  simp only [bind, Except.bind, throw, throwThe, MonadExceptOf.throw, pure, Except.pure]
    at satisfied
  split at satisfied
  · contradiction
  cases described : context.describe item with
  | error reason =>
      rw [described] at satisfied
      contradiction
  | ok found =>
      obtain ⟨type, lowered⟩ := found
      simp only [described] at satisfied
      split at satisfied
      · contradiction
      rename_i sameKind
      rw [not_not] at sameKind
      rcases describe_cases described with
        ⟨handle, entry, isFunc, found, rfl, rfl⟩ | ⟨noFunc, noHandle, noKey⟩
      · cases declaredType : declared.type with
        | func expected =>
            simp only [declaredType] at satisfied
            split at satisfied
            · contradiction
            · rename_i same
              split at satisfied
              · contradiction
              · cases satisfied
                rw [not_not] at same
                exact .inl ⟨handle, entry, isFunc, found, by rw [same], rfl⟩
        | memory type => simp [declaredType, ItemType.kind] at sameKind
        | table type => simp [declaredType, ItemType.kind] at sameKind
        | global type => simp [declaredType, ItemType.kind] at sameKind
      · refine .inr ⟨?_, noHandle, ?_⟩
        · intro signature declaredType
          rw [declaredType] at sameKind
          exact noFunc sameKind
        · split at satisfied
          · exact absurd rfl noFunc
          · split at satisfied
            · contradiction
            · cases satisfied
              exact noKey

/-- The items of the engine for declared imports, each with an item that satisfies it. -/
theorem walkImports_forall₂ {index : Nat} {declareds : List ImportDecl} {items : List Item}
    {externs : List Extern} (walked : context.walkImports index declareds items = .ok externs) :
    List.Forall₂ (fun declared provided =>
      ∃ item ∈ items, context.checkImport declared item = .ok provided) declareds externs := by
  induction declareds generalizing index items externs with
  | nil =>
      cases walked
      exact .nil
  | cons declared declareds inductionHypothesis =>
      cases items with
      | nil => contradiction
      | cons item items =>
          simp only [walkImports, bind, Except.bind] at walked
          cases first : context.checkImport declared item with
          | error error =>
              rw [first] at walked
              contradiction
          | ok provided =>
              cases more : context.walkImports (index + 1) declareds items with
              | error error =>
                  rw [first, more] at walked
                  contradiction
              | ok rest =>
                  rw [first, more] at walked
                  cases walked
                  refine .cons ⟨item, List.mem_cons_self, first⟩ ?_
                  refine (inductionHypothesis more).imp ?_
                  rintro declared provided ⟨other, member, checked⟩
                  exact ⟨other, List.mem_cons_of_mem _ member, checked⟩

private theorem walkImports_items {index : Nat} {declareds : List ImportDecl} {items : List Item}
    {externs : List Extern} (walked : context.walkImports index declareds items = .ok externs)
    (noMore : items.length ≤ declareds.length) :
    List.Forall₂ (fun item provided => ∃ declared, context.checkImport declared item = .ok provided)
      items externs := by
  induction declareds generalizing index items externs with
  | nil =>
      cases walked
      rw [List.length_eq_zero_iff.1 (Nat.le_zero.1 noMore)]
      exact .nil
  | cons declared declareds inductionHypothesis =>
      cases items with
      | nil => contradiction
      | cons item items =>
          simp only [walkImports, bind, Except.bind] at walked
          cases first : context.checkImport declared item with
          | error error =>
              rw [first] at walked
              contradiction
          | ok provided =>
              cases more : context.walkImports (index + 1) declareds items with
              | error error =>
                  rw [first, more] at walked
                  contradiction
              | ok rest =>
                  rw [first, more] at walked
                  cases walked
                  exact .cons ⟨declared, first⟩
                    (inductionHypothesis more (Nat.le_of_succ_le_succ noMore))

/-- Every item satisfies an import, and the engine gets it in its place. -/
theorem resolveImports_items {artifact : Artifact} {items : List Item} {externs : List Extern}
    (resolved : context.resolveImports artifact items = .ok externs) :
    List.Forall₂ (fun item provided => ∃ declared, context.checkImport declared item = .ok provided)
      items externs := by
  unfold resolveImports at resolved
  cases walked : context.walkImports 0 artifact.imports items with
  | error error =>
      rw [walked] at resolved
      contradiction
  | ok externs =>
      simp only [walked, bind, Except.bind] at resolved
      split at resolved
      · contradiction
      · rename_i noMore
        cases resolved
        exact walkImports_items walked (Nat.le_of_not_lt noMore)

theorem resolveImports_forall₂ {artifact : Artifact} {items : List Item}
    {externs : List Extern} (resolved : context.resolveImports artifact items = .ok externs) :
    List.Forall₂ (fun declared provided =>
      ∃ item ∈ items, context.checkImport declared item = .ok provided)
        artifact.imports externs := by
  unfold resolveImports at resolved
  cases walked : context.walkImports 0 artifact.imports items with
  | error error =>
      rw [walked] at resolved
      contradiction
  | ok externs =>
      simp only [walked, bind, Except.bind] at resolved
      split at resolved
      · contradiction
      · cases resolved
        exact walkImports_forall₂ walked

/-- The functions that are imported, with the types under which the module imports
them. -/
theorem Sound.importedFuncs_forall₂ (sound : context.Sound) {artifact : Artifact}
    {items : List Item} {externs : List Extern}
    (resolved : context.resolveImports artifact items = .ok externs) :
    List.Forall₂ (fun type key => context.store.funcType? key = some type)
      artifact.module.importedFuncs (externs.filterMap Extern.func?) := by
  have satisfied := resolveImports_forall₂ resolved
  have shown := artifact.imports_forall₂
  clear resolved
  unfold Module.importedFuncs
  generalize artifact.module.imports = imports at shown
  generalize artifact.imports = declareds at satisfied shown
  induction satisfied generalizing imports with
  | nil =>
      cases shown
      exact .nil
  | cons head tail inductionHypothesis =>
      cases shown with
      | cons shownHead shownTail =>
          have rest := inductionHypothesis _ shownTail
          obtain ⟨item, -, checked⟩ := head
          obtain ⟨-, -, type⟩ := (Surface.ofImport_eq_ok_iff _ _).1 shownHead
          rcases checkImport_cases checked with
            ⟨handle, entry, -, found, declaredType, rfl⟩ | ⟨noFunc, -, noKey⟩
          · rw [declaredType, ItemType.ofGuest_eq_ok_func_iff] at type
            rw [List.filterMap_cons_some (by rw [type]), List.filterMap_cons_some
              (show Extern.func? (.func entry.key) = some entry.key from rfl)]
            exact .cons (sound.entry_typed found) rest
          · rw [List.filterMap_cons_none, List.filterMap_cons_none noKey]
            · exact rest
            · split
              · rename_i funcType isFunc
                rw [isFunc] at type
                obtain ⟨signature, declaredType⟩ := ItemType.ofGuest_func type
                exact absurd declaredType (noFunc signature)
              · rfl

theorem forall₂_getElem? {α β : Type} {related : α → β → Prop} {firsts : List α}
    {seconds : List β} (all : List.Forall₂ related firsts seconds) {index : Nat} {second : β}
    (found : seconds[index]? = some second) :
    ∃ first, firsts[index]? = some first ∧ related first second := by
  induction all generalizing index with
  | nil => simp at found
  | cons head tail inductionHypothesis =>
      cases index with
      | zero =>
          rw [List.getElem?_cons_zero, Option.some.injEq] at found
          exact ⟨_, List.getElem?_cons_zero, found ▸ head⟩
      | succ index => simpa using inductionHypothesis (by simpa using found)

/-- What the imported functions of a new instance stand for has the types under which
the module imports them. -/
private theorem codeWith_imports_typed (sound : context.Sound) {artifact : Artifact}
    {items : List Item} {externs : List Extern}
    (resolved : context.resolveImports artifact items = .ok externs) {index : Nat} {key : FuncKey}
    (imported : (artifact.module.codeWith context.store externs).imports[index]? = some key) :
    ∃ type, (artifact.module.codeWith context.store externs).types[index]? = some type ∧
      context.store.funcType? key = some type := by
  rw [Module.codeWith_imports, List.getElem?_toArray, List.getElem?_map,
    Option.map_eq_some_iff] at imported
  obtain ⟨raw, found, rfl⟩ := imported
  obtain ⟨type, declared, typed⟩ :=
    forall₂_getElem? (sound.importedFuncs_forall₂ resolved) found
  refine ⟨type, ?_, Store.ImportsTyped.funcType?_resolve sound.imports typed⟩
  have below : index < artifact.module.importedFuncs.length :=
    (List.getElem?_eq_some_iff.1 declared).1
  simp only [Module.codeWith, Module.funcTypes, List.getElem?_toArray]
  rw [List.getElem?_append_left below]
  exact declared

/-- Whether or not the engine makes an instance for a link, the context stays sound.
An instance that is made has the functions of the artifact. -/
theorem Sound.instantiate_grows (sound : context.Sound) {artifact : Artifact}
    {items : List Item} {externs : List Extern}
    (resolved : context.resolveImports artifact items = .ok externs)
    {outcome : Except InstantiationFailure Nat} {store : Store (Closure σ)}
    (result : Instantiated context.store artifact.module externs outcome store) :
    Grows context { context with store := store } ∧
      ∀ owner, outcome = .ok owner → store.Hosts ⟨owner, artifact⟩ := by
  have extension := result.storeExtends
  have imports : store.ImportsTyped := by
    intro owner index code key found imported
    rcases result.code?_cases found with old | ⟨-, rfl⟩
    · obtain ⟨type, declared, typed⟩ := sound.imports _ _ _ _ old imported
      exact ⟨type, declared, extension.funcType?_eq_some typed⟩
    · obtain ⟨type, declared, typed⟩ := codeWith_imports_typed sound resolved imported
      exact ⟨type, declared, extension.funcType?_eq_some typed⟩
  refine ⟨⟨SoundParts.mono sound extension imports,
    ⟨rfl, rfl, extension, fun found => found, fun found => found⟩, rfl⟩, ?_⟩
  rintro owner rfl
  exact ⟨_, result.code?_of_ok, rfl⟩

theorem Sound.addInstance_grows (sound : context.Sound) {made : InstanceEntry}
    (hosts : context.store.Hosts made) : Grows context (context.addInstance made).2 := by
  refine ⟨SoundParts.pushInstance sound hosts,
    ⟨rfl, rfl, .refl _, fun found => found, fun found => ?_⟩, rfl⟩
  have below := (Array.getElem?_eq_some_iff.1 found).1
  rw [addInstance, Array.getElem?_push, if_neg (Nat.ne_of_lt below)]
  exact found

end Context

end WasmSandbox
