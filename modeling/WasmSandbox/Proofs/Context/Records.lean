import WasmSandbox.Proofs.Context.Reexport
import WasmSandbox.Proofs.Context.TypedBoundary

/-!
Contract: handles of functions keep their meaning, and recorded signatures are the engine's.

Owns:
- that the function table is only appended to, and an entry is found and stays the same from
  the moment its handle is handed out;
- that the recorded signature is what the engine's type shows, whichever way the function
  came into the table, and that a function looked up later has its declared signature;
- that the engine takes the arguments of a call that passed the checks;
- that values of the engine's types are of the declared kinds when they come out of it.

The engine keeps to the types of its functions.  That these are the types of the signatures
in the table is what is proved here.

Does not own: which reference stands for a function in the engine.
-/

namespace WasmSandbox

open Wasm

/-! ## The way in -/

namespace Wasm.Store

variable {H : Type}

/-- A value is not a reference to a function that the engine does not have. -/
def Knows (store : Store H) (value : Value) : Prop :=
  ∀ key, value = .funcRef (some key) → (store.funcType? key).isSome

/-- The engine takes a call: the arguments have the types of the parameters, as many results
are awaited as there are, and references are to functions of the engine. -/
structure Accepts (store : Store H) (func : FuncKey) (args : List Value) (awaited : Nat) :
    Prop where
  typed : ∃ type, store.funcType? func = some type ∧ args.map Value.type = type.params ∧
    awaited = type.results.length
  known : ∀ arg ∈ args, store.Knows arg

end Wasm.Store

namespace Context

variable {σ : Type} {context after : Context σ}

/-- Both references that can stand for a function have its type. -/
theorem Sound.reference_typed (sound : context.Sound) {func : FuncHandle} {entry : FuncEntry}
    (found : context.funcEntry? func = some entry) :
    context.store.funcType? (context.reference entry) = some entry.signature.guest := by
  unfold reference
  split
  · exact sound.entry_origin_typed found
  · exact sound.entry_typed found

theorem Sound.lower_admitted (sound : context.Sound) {value : Val}
    (admits : context.Admits value) :
    ∃ lowered, context.lower value = .ok lowered ∧ lowered.type = value.kind.guest ∧
      context.store.Knows lowered := by
  cases value with
  | funcRef target =>
      cases target with
      | none => exact ⟨_, rfl, rfl, fun key same => by cases same⟩
      | some func =>
          obtain ⟨entry, found⟩ := (owns_iff func).1 (admits func rfl)
          refine ⟨.funcRef (some (context.reference entry)), ?_, rfl, ?_⟩
          · simp only [lower, found]
          · rintro key ⟨rfl⟩
            rw [sound.reference_typed found]
            rfl
  | _ => exact ⟨_, rfl, rfl, fun key same => by contradiction⟩

/-- Values that fit the context go into the engine, with the types of their kinds. -/
theorem Sound.lowerAll_admitted (sound : context.Sound) {values : List Val}
    (admits : ∀ value ∈ values, context.Admits value) :
    ∃ lowered, values.mapM context.lower = .ok lowered ∧
      lowered.map Value.type = (values.map Val.kind).map ValueKind.guest ∧
        ∀ value ∈ lowered, context.store.Knows value := by
  induction values with
  | nil => exact ⟨[], rfl, rfl, by simp⟩
  | cons value values inductionHypothesis =>
      obtain ⟨first, goesIn, type, known⟩ :=
        sound.lower_admitted (admits value (List.mem_cons_self ..))
      obtain ⟨rest, others, types, knownRest⟩ :=
        inductionHypothesis fun other member => admits other (List.mem_cons_of_mem _ member)
      refine ⟨first :: rest, ?_, ?_, ?_⟩
      · rw [List.mapM_cons, goesIn, others]
        rfl
      · rw [List.map_cons, List.map_cons, List.map_cons, type, types]
      · intro other member
        rcases List.mem_cons.1 member with isFirst | inRest
        · rw [isFirst]
          exact known
        · exact knownRest other inRest

/-- The engine takes the arguments of a call that passed the checks. -/
theorem Sound.accepts_checked (sound : context.Sound) {func : FuncHandle} {args : List Val}
    {entry : FuncEntry} (checked : context.checkCall func args = .ok entry)
    (honest : ∀ target ∈ targets args, target.context = context.id → context.Owns target) :
    ∃ values, args.mapM context.lower = .ok values ∧
      context.store.Accepts entry.key values entry.signature.results.length := by
  obtain ⟨found, kinds, own, -⟩ := (context.checkCall_eq_ok_iff func args entry).1 checked
  obtain ⟨values, goIn, types, known⟩ :=
    sound.lowerAll_admitted (admits_of_belongsTo own honest)
  rw [kinds] at types
  refine ⟨values, goIn, ⟨entry.signature.guest, sound.entry_typed found, types, ?_⟩, known⟩
  exact (List.length_map _).symm

/-! ## The way out -/

/-- The failure over a value that is not of the declared kind. -/
def mismatch (value : Value) (kind : ValueKind) : CallError :=
  .internal ("engine produced " ++ value.shown ++ " where " ++ kind.name ++ " was declared")

end Context

/-- Why the types of a function cannot cross. -/
theorem ValueKind.listOfGuest_eq_error {types : List ValType} {reason : String}
    (fails : listOfGuest types = .error reason) :
    ∃ type : ValType, reason = "value type " ++ type.text ++ " cannot cross the boundary" := by
  induction types with
  | nil => contradiction
  | cons type types inductionHypothesis =>
      unfold listOfGuest at fails
      split at fails
      · cases rest : listOfGuest types with
        | ok kinds =>
            rw [rest] at fails
            contradiction
        | error other =>
            rw [rest] at fails
            cases fails
            exact inductionHypothesis rest
      · cases fails
        exact ⟨type, rfl⟩

theorem Signature.ofGuest_eq_error {type : FuncType} {reason : String}
    (fails : ofGuest type = .error reason) :
    ∃ type : ValType, reason = "value type " ++ type.text ++ " cannot cross the boundary" := by
  unfold ofGuest at fails
  cases params : ValueKind.listOfGuest type.params with
  | error other =>
      rw [params] at fails
      cases fails
      exact ValueKind.listOfGuest_eq_error params
  | ok kinds =>
      cases results : ValueKind.listOfGuest type.results with
      | error other =>
          rw [params, results] at fails
          cases fails
          exact ValueKind.listOfGuest_eq_error results
      | ok others =>
          rw [params, results] at fails
          contradiction

namespace Context

variable {σ : Type} {context after : Context σ}

theorem mismatch_ne_described (value : Value) (kind : ValueKind) {key : FuncKey}
    {declared : Option Signature} {reason : String}
    (fails : context.describeFunc key declared = .error reason) :
    CallError.internal reason ≠ mismatch value kind := by
  -- The texts differ in their first letter.
  intro same
  have letters := congrArg String.toList (CallError.internal.inj same)
  unfold describeFunc at fails
  split at fails
  · contradiction
  · split at fails
    · obtain ⟨type, rfl⟩ := Signature.ofGuest_eq_error fails
      simp [String.toList_append] at letters
    · cases fails
      simp [String.toList_append] at letters

theorem handleOf_ne_mismatch (value : Value) (kind : ValueKind) {origin : FuncKey}
    {declared : Option Signature} {reason : String}
    (fails : (context.handleOf origin declared).1 = .error reason) :
    CallError.internal reason ≠ mismatch value kind := by
  unfold handleOf at fails
  simp only at fails
  split at fails
  · contradiction
  · split at fails
    · contradiction
    · rename_i described
      cases fails
      exact mismatch_ne_described value kind described

/-- A value of the declared type is a reference to a function, or passes. -/
theorem lift_typed (context : Context σ) {value : Value} {kind : ValueKind}
    (typed : value.type = kind.guest) :
    (∃ key, value = .funcRef (some key) ∧ kind = .funcRef) ∨
      ∃ lifted, context.lift value kind = (.ok lifted, context) := by
  cases value with
  | funcRef target =>
      cases kind <;> simp [Value.type, ValueKind.guest] at typed
      cases target with
      | none => exact .inr ⟨_, rfl⟩
      | some key => exact .inl ⟨key, rfl, rfl⟩
  | _ =>
      cases kind <;> simp [Value.type, ValueKind.guest] at typed
      all_goals exact .inr ⟨_, rfl⟩

/-- A value of the declared type is never taken for another one. -/
theorem lift_ne_mismatch (context : Context σ) {value : Value} {kind : ValueKind}
    (typed : value.type = kind.guest) (other : Value) (declared : ValueKind) :
    (context.lift value kind).1 ≠ .error (mismatch other declared) := by
  rcases context.lift_typed typed with ⟨key, rfl, rfl⟩ | ⟨lifted, passes⟩
  · rw [lift_func]
    cases out : context.handleOf key none with
    | mk outcome after =>
        cases outcome with
        | ok func => simp
        | error reason =>
            have fails : (context.handleOf key none).1 = .error reason := by rw [out]
            simpa using handleOf_ne_mismatch other declared fails
  · rw [passes]
    simp

/-- So it is with values of the declared types, whatever comes into the table with them. -/
theorem liftAll_ne_mismatch (context : Context σ) {values : List Value} {kinds : List ValueKind}
    (typed : values.map Value.type = kinds.map ValueKind.guest) (other : Value)
    (declared : ValueKind) :
    (context.liftAll values kinds).1 ≠ .error (mismatch other declared) := by
  induction values generalizing context kinds with
  | nil => simp [liftAll]
  | cons value values inductionHypothesis =>
      cases kinds with
      | nil => simp [liftAll]
      | cons kind kinds =>
          rw [List.map_cons, List.map_cons, List.cons.injEq] at typed
          have head := context.lift_ne_mismatch typed.1 other declared
          unfold liftAll
          generalize context.lift value kind = out at head
          obtain ⟨outcome, middle⟩ := out
          cases outcome with
          | error error => simpa using head
          | ok first =>
              have tail := inductionHypothesis middle typed.2
              simp only
              generalize middle.liftAll values kinds = rest at tail
              obtain ⟨others, last⟩ := rest
              cases others with
              | error error => simpa using tail
              | ok values => simp

/-! ## Functions that are looked up -/

private theorem exportedItem_func {owner : Nat} {target : ExportTarget} {type : ItemType}
    {func : FuncHandle}
    (looked : context.exportedItem owner target type = (some (.func func), after)) :
    ∃ index signature, target = .func index ∧ type = .func signature := by
  unfold exportedItem at looked
  split at looked
  · cases looked
  · split at looked
    · exact ⟨_, _, rfl, rfl⟩
    all_goals simp at looked

/-- A function that is looked up has the signature that its artifact declares, also if it
was in the table before. -/
theorem Sound.lookup_signature (sound : context.Sound) {inst : InstanceHandle} {name : String}
    {func : FuncHandle} (looked : context.lookup inst name = (some (.func func), after)) :
    ∃ made declared signature, context.instanceEntry? inst = some made ∧
      made.artifact.export? name = some declared ∧ declared.type = .func signature ∧
        after.signature? func = some signature := by
  have grows := (sound.lookup_grows inst name).1
  rw [looked] at grows
  cases found : context.instanceEntry? inst with
  | none => simp [lookup, found] at looked
  | some made =>
      cases declaredAs : made.artifact.export? name with
      | none => simp [lookup, found, declaredAs] at looked
      | some declared =>
          cases exported : made.artifact.module.exports.find? fun item => item.name == name with
          | none => simp [lookup, found, declaredAs, exported] at looked
          | some item =>
              have shown : context.exportedItem made.owner item.target declared.type =
                  (some (.func func), after) := by
                simpa [lookup, found, declaredAs, exported] using looked
              obtain ⟨index, signature, target, type⟩ := exportedItem_func shown
              obtain ⟨known, isKnown, isKey⟩ :=
                sound.lookup_func_key found exported target looked
              -- Whoever recorded the signature, it is that of the engine's type.
              have recorded := grows.sound.entry_typed isKnown
              rw [isKey, grows.extension.store.funcType?_eq_some
                (sound.exported_typed found declaredAs exported target type)] at recorded
              refine ⟨made, declared, signature, rfl, declaredAs, type, ?_⟩
              rw [signature?, isKnown, Option.map_some,
                Signature.guest_injective (Option.some.inj recorded)]

/-- The entries of a context are the first ones of every later one. -/
theorem Extends.entries_appended (extension : Extends context after) :
    context.funcs.entries.toList <+: after.funcs.entries.toList := by
  rw [List.prefix_iff_getElem?]
  intro index below
  rw [Array.getElem?_toList, Array.getElem_toList]
  exact extension.entry (Array.getElem?_eq_getElem _)

end Context

/-! ## Lives -/

/-- A function that the engine enters is passed arguments of the types of its parameters,
and a function that was called returns values of the types of its results. -/
def Stage.KeepsTypes {σ : Type} (stage : Stage σ) : Prop :=
  match stage.running with
  | some (.entering func args _) =>
      ∀ type, stage.context.store.funcType? func = some type → args.map Value.type = type.params
  | some (.returning values (.called func _ _)) =>
      ∀ entry type, stage.context.funcEntry? func = some entry →
        stage.context.store.funcType? entry.key = some type →
          values.map Value.type = type.results
  | _ => True

/-- What the function table of a context is good for, at a stage. -/
structure RecordsKept {σ : Type} (past : List (Stage σ × Act σ)) (stage : Stage σ) : Prop where
  /-- The table was only appended to, whatever happened. -/
  appended : ∀ happened ∈ past,
    happened.1.context.funcs.entries.toList <+: stage.context.funcs.entries.toList
  /-- A function that had an entry has the same entry. -/
  kept : ∀ happened ∈ past, ∀ {func : FuncHandle} {entry : FuncEntry},
    happened.1.context.funcEntry? func = some entry → stage.context.funcEntry? func = some entry
  /-- A function whose handle was handed out has an entry, as long as no handles are made
  up and the engine keeps to arities. -/
  issued : Honest past → ArityKept past →
    ∀ func ∈ issuedIn past, ∃ entry, stage.context.funcEntry? func = some entry
  /-- The recorded signature is what the type of the function shows, and that of the
  reference which the function came from. -/
  recorded : ∀ {index : Nat} {entry : FuncEntry},
    stage.context.funcs.entry? index = some entry →
      ∃ type, stage.context.store.funcType? entry.key = some type ∧
        stage.context.store.funcType? entry.origin = some type ∧
          Signature.ofGuest type = .ok entry.signature
  /-- A function that is looked up has its declared signature, also if it is in the table
  already. -/
  declared : ∀ {inst : InstanceHandle} {name : String} {func : FuncHandle}
    {after : Context σ}, stage.context.lookup inst name = (some (.func func), after) →
      ∃ made declared signature, stage.context.instanceEntry? inst = some made ∧
        made.artifact.export? name = some declared ∧ declared.type = .func signature ∧
          after.signature? func = some signature
  /-- The arguments of a call that passes the checks, with references that were handed out,
  go into the engine, and the engine takes them. -/
  accepted : Honest past → ArityKept past → ∀ {func : FuncHandle} {args : List Val}
    {entry : FuncEntry}, stage.context.checkCall func args = .ok entry →
      (∀ target ∈ targets args, target.context = stage.context.id → target ∈ issuedIn past) →
        ∃ values, args.mapM stage.context.lower = .ok values ∧
          stage.context.store.Accepts entry.key values entry.signature.results.length
  /-- Values of the engine's types that guest code gives back are of the declared kinds. -/
  returned : stage.KeepsTypes → ∀ {values : List Value} {func : FuncHandle}
    {signature : Signature} {wait : CallWait σ},
    stage.running = some (.returning values (.called func signature wait)) →
      ∀ value kind, (stage.context.liftAll values signature.results).1 ≠
        .error (Context.mismatch value kind)
  /-- Values of the engine's types that are passed to a closure are of the declared
  kinds. -/
  passed : stage.KeepsTypes → ∀ {func : FuncKey} {args : List Value} {cont : GuestCont σ}
    {host : HostFunc (Closure σ)}, stage.running = some (.entering func args cont) →
      stage.context.store.callee? func = some (.host host) →
        ∀ value kind, (stage.context.liftAll args host.signature.params).1 ≠
          .error (Context.mismatch value kind)

/-- In every life of a context, through failures and traps, handles of functions keep their
meaning, and the recorded signatures are those of the engine's functions. -/
theorem Life.recordsKept {σ : Type} {id : ContextId} {environment : Environment} {data : σ}
    {past : List (Stage σ × Act σ)} {stage : Stage σ}
    (life : Life (.create id environment data) past stage) : RecordsKept past stage := by
  have begins := Context.create_sound id environment data
  have sound := life.sound begins
  have extension := life.extension_of_mem begins
  have owns (honest : Honest past) (arity : ArityKept past) :
      ∀ func ∈ issuedIn past, stage.context.Owns func :=
    (life.issued_owns_and_typed begins honest arity).1
  refine ⟨?_, ?_, ?_, ?_, ?_, ?_, ?_, ?_⟩
  · intro happened member
    exact (extension happened member).entries_appended
  · intro happened member func entry found
    exact (extension happened member).funcEntry?_eq_some found
  · intro honest arity func member
    exact (Context.owns_iff func).1 (owns honest arity func member)
  · intro index entry found
    exact ⟨entry.signature.guest, sound.context.typed found, sound.context.origin found,
      (Signature.ofGuest_eq_ok_iff _ _).2 rfl⟩
  · intro inst name func after looked
    exact sound.context.lookup_signature looked
  · intro honest arity func args entry checked handedOut
    exact sound.context.accepts_checked checked fun target member own =>
      owns honest arity target (handedOut target member own)
  · intro keeps values func signature wait isRunning
    have fits := sound.fits (.call func signature) (by
      rw [Stage.frames, isRunning]
      exact List.mem_cons_self ..)
    obtain ⟨entry, found, rfl⟩ := Option.map_eq_some_iff.1 fits
    rw [Stage.KeepsTypes, isRunning] at keeps
    exact stage.context.liftAll_ne_mismatch
      (keeps entry entry.signature.guest found (sound.context.entry_typed found))
  · intro keeps func args cont host isRunning called
    rw [Stage.KeepsTypes, isRunning] at keeps
    have typed := (Context.callee?_host sound.context.imports called).2
    exact stage.context.liftAll_ne_mismatch (keeps host.signature.guest typed)

/-! ## A reference that is passed to guest code -/

namespace Passing

/-- A context with a host function and a function of an instance that stands for it. -/
def linked : Context Unit :=
  let made := (fresh.createFunc signature fun args => .finish (Slots.empty.set 0 args.head?)).2
  let instantiated := (made.beginLink artifact [.func ⟨⟨0⟩, 0⟩] .embedder).1
  (instantiated.lookup ⟨⟨0⟩, 0⟩ "g").2

/-- The function of the instance is called with a reference to the host function, and the
engine is about to enter it. -/
def entering : Stage Unit :=
  .ofRun ({ linked with depth := 1 }, .entering (.guest 0 0) [.funcRef (some (.host 0))]
    (.called ⟨⟨0⟩, 1⟩ signature .embedder))

theorem linked_funcType? : linked.store.funcType? (.guest 0 0) = some signature.guest := rfl

theorem entering_keepsTypes : entering.KeepsTypes := by
  intro type typed
  have same : some signature.guest = some type := linked_funcType?.symm.trans typed
  rw [← Option.some.inj same]
  rfl

end Passing

/-- The handle of the host function was handed out when it was made, and that of the other
one when it was looked up. -/
theorem Life.recordsKept_of_passing :
    ∃ past, Life Passing.fresh past Passing.entering ∧ RecordsKept past Passing.entering ∧
      Honest past ∧ ArityKept past ∧ Passing.entering.KeepsTypes ∧
        issuedIn past = [⟨⟨0⟩, 1⟩, ⟨⟨0⟩, 0⟩] := by
  have made : Life Passing.fresh _ _ := Life.created.acted
    (show Stage.take _ (.register Passing.signature
      fun args => .finish (Slots.empty.set 0 args.head?)) = some _ from rfl)
  have linked := made.acted
    (show Stage.take _ (.link Passing.artifact [.func ⟨⟨0⟩, 0⟩]) = some _ from rfl)
  have closed := linked.acted (show Stage.take _ .close = some _ from rfl)
  have looked := closed.acted
    (show Stage.take _ (.ask (.lookup ⟨⟨0⟩, 0⟩ "g")) = some (.idle Passing.linked) from rfl)
  have called := looked.acted
    (show Stage.take _ (.call ⟨⟨0⟩, 1⟩ [.funcRef (some ⟨⟨0⟩, 0⟩)]) = some Passing.entering from rfl)
  refine ⟨_, called, Life.recordsKept called, ?honest, ?arity, Passing.entering_keepsTypes, rfl⟩
  case honest =>
    refine ⟨?_, fun _ member => ?_, fun _ member => ?_, fun _ member => ?_,
      fun _ member => ?_, trivial⟩
    · intro func member _
      rw [List.mem_singleton.1 (show func ∈ [⟨⟨0⟩, 0⟩] from member)]
      exact List.mem_cons_of_mem _ (List.mem_singleton.2 rfl)
    all_goals cases member
  case arity =>
    intro happened member
    simp only [List.mem_cons, List.not_mem_nil, or_false] at member
    rcases member with rfl | rfl | rfl | rfl | rfl <;> trivial

end WasmSandbox
