import WasmSandbox.Proofs.Context.HostEntries
import WasmSandbox.Proofs.Context.Records

/-!
Contract: values between the boundary and the engine.

Owns:
- functions of the engine that do the same: a host function, and those that came out of the
  engine for it;
- that in every life each entry of the function table does what its origin does;
- which values of the boundary come back as they were, by way of the engine or from the
  function table at once;
- that what comes out of the engine goes back as the same bits or as a function that does
  the same.

Does not own: lists of values, and what crosses for which calls
(`WasmSandbox.Proofs.Context.Crossing`).
-/

namespace WasmSandbox

open Wasm

/-! ## Functions that do the same -/

namespace Wasm.Store

variable {H : Type} {store after : Store H}

/-- Keys of functions that do the same: the same key, or keys of host functions with the same
signature and closure. -/
inductive Alike (store : Store H) : FuncKey → FuncKey → Prop where
  | same (key : FuncKey) : Alike store key key
  | hosts {one other : Nat} {func : HostFunc H} (first : store.hosts[one]? = some func)
      (second : store.hosts[other]? = some func) : Alike store (.host one) (.host other)

namespace Alike

variable {one middle other : FuncKey}

theorem symm (alike : store.Alike one other) : store.Alike other one := by
  cases alike with
  | same => exact .same _
  | hosts first second => exact .hosts second first

theorem trans (earlier : store.Alike one middle) (later : store.Alike middle other) :
    store.Alike one other := by
  cases earlier with
  | same => exact later
  | hosts first second =>
      cases later with
      | same => exact .hosts first second
      | hosts third fourth =>
          rw [second] at third
          cases third
          exact .hosts first fourth

theorem mono (alike : store.Alike one other) (extension : store.Extends after) :
    after.Alike one other := by
  cases alike with
  | same => exact .same _
  | hosts first second => exact .hosts (extension.host first) (extension.host second)

end Alike

/-- What comes out of the engine does what it came from. -/
theorem Emerged.alike {origin key : FuncKey} (emerged : Emerged store origin key after) :
    after.Alike origin key := by
  cases emerged with
  | lasting => exact .same origin
  | @renewed number func isHost found passing =>
      rw [isHost]
      refine .hosts ((addHost_extends store func.signature func.body).host found) ?_
      simp [addHost]

/-- The same value of the engine: the same bits, null, or functions that do the same. -/
inductive SameValue (store : Store H) : Value → Value → Prop where
  | same (value : Value) : SameValue store value value
  | funcs {one other : FuncKey} (alike : store.Alike one other) :
      SameValue store (.funcRef (some one)) (.funcRef (some other))

end Wasm.Store

/-! ## Entries and their origins -/

namespace Context

variable {σ : Type} {context after : Context σ}

/-- Each function of the table does what its origin does. -/
def Traced (context : Context σ) : Prop :=
  ∀ (index : Nat) (entry : FuncEntry), context.funcs.entry? index = some entry →
    context.store.Alike entry.origin entry.key

/-- How a context comes to functions: it gets none, makes one, or hands some out. -/
inductive Enters (context after : Context σ) : Prop where
  | none (funcs : after.funcs = context.funcs)
  | makes (signature : Signature) (body : Closure σ)
      (isAfter : after = (context.createFunc signature body).2)
  | issues (issues : Issues context after)

theorem Traced.push (traced : context.Traced) (extension : context.store.Extends after.store)
    (entry : FuncEntry) (alike : after.store.Alike entry.origin entry.key)
    (funcs : after.funcs = context.funcs.push entry) : after.Traced := by
  intro index other member
  rw [funcs, FuncTable.entryAt_push] at member
  split at member
  · cases member
    exact alike
  · exact (traced index other member).mono extension

theorem Traced.handleOf (traced : context.Traced) (origin : FuncKey)
    (declared : Option Signature) : (context.handleOf origin declared).2.Traced := by
  have emerged := Store.emerge_emerged context.store origin
  unfold Context.handleOf
  generalize context.store.emerge origin = out at emerged
  obtain ⟨key, store⟩ := out
  have stays : ({ context with store := store } : Context σ).Traced :=
    fun index entry member => (traced index entry member).mono emerged.storeExtends
  simp only
  split
  · exact stays
  · split
    · rename_i signature described
      exact stays.push (.refl _) ⟨signature, key, origin, false⟩ emerged.alike rfl
    · exact stays

theorem Traced.enters (traced : context.Traced) (enters : Enters context after)
    (extension : Extends context after) : after.Traced := by
  cases enters with
  | none funcs =>
      intro index entry member
      rw [funcs] at member
      exact (traced index entry member).mono extension.store
  | makes signature body isAfter =>
      subst isAfter
      exact traced.push extension.store _ (.same _) rfl
  | issues issues =>
      clear extension
      induction issues with
      | same context => exact traced
      | issued context origin declared rest inductionHypothesis =>
          exact inductionHypothesis (traced.handleOf origin declared)

theorem answer_enters {request : Request σ} {answer : request.Answer}
    (answered : context.answer request = .answered (answer, after)) : Enters context after := by
  rcases answer_cases answered with issues | touches
  · exact .issues issues
  · exact .none touches.funcs_eq

theorem stepClosure_enters (context : Context σ) (proc : Proc σ) (cont : HostCont σ) :
    Enters context (context.stepClosure proc cont).1 := by
  cases proc with
  | finish slots => exact .none (congrArg Context.funcs (finishClosure_context ..))
  | fail error => exact .none (congrArg Context.funcs (finishClosure_context ..))
  | panic => exact .none rfl
  | ask request next =>
      simp only [stepClosure]
      cases answered : context.answer request with
      | panicked => exact .none rfl
      | answered out => exact answer_enters answered
  | register signature body next => exact .makes signature body rfl
  | call func args next => exact .none (beginCall_funcs ..)
  | link artifact items next => exact .none (beginLink_funcs ..)

theorem enterEngine_enters (context : Context σ) (func : FuncKey) (args : List Value)
    (cont : GuestCont σ) : Enters context (context.enterEngine func args cont).1 := by
  unfold enterEngine
  split
  · rename_i host called
    have issued := context.liftAll_issues args host.signature.params
    generalize context.liftAll args host.signature.params = out at issued
    obtain ⟨outcome, after⟩ := out
    cases outcome <;> exact .issues issued
  · split
    · exact .none (by simp only [onStore_eq, afterAdvance_context])
    · exact .none rfl
  · exact .none rfl

theorem step_enters {state : RunState σ} {run : Run σ} (stepped : context.step state = some run) :
    Enters context run.1 := by
  cases state with
  | invoking body args cont =>
      cases stepped
      exact .none rfl
  | closure proc cont =>
      cases stepped
      exact context.stepClosure_enters proc cont
  | guest activation cont =>
      cases stepped
      exact .none (by simp only [afterAdvance_context])
  | entering func args cont =>
      cases stepped
      exact context.enterEngine_enters func args cont
  | returning values cont =>
      cases stepped
      cases cont with
      | frame activation below => exact .none rfl
      | called func signature wait => exact .issues (context.liftAll_issues values _)
      | starting made wait =>
          exact .none (by simp only [stepReturning, finishLink, deliverLink_context, addInstance])
  | raising error cont =>
      cases stepped
      cases cont with
      | frame activation below => exact .none rfl
      | called func signature wait => exact .none rfl
      | starting made wait => exact .none (congrArg Context.funcs (deliverLink_context ..))
  | leaving func signature result wait =>
      cases stepped
      exact .none (by rw [endCall_context])
  | called result => contradiction
  | linked result => contradiction
  | panicked => contradiction

end Context

/-- An act enters functions into the table in one of three ways. -/
theorem Stage.take_enters {σ : Type} {stage after : Stage σ} {act : Act σ}
    (taken : stage.take act = some after) : Context.Enters stage.context after.context := by
  cases take_eq_some_iff.1 taken with
  | answered answered => exact Context.answer_enters answered
  | registered context signature body => exact .makes signature body rfl
  | fuelSet set =>
      obtain ⟨-, rfl⟩ := Context.setFuel_eq_ok_iff.1 set
      exact .none rfl
  | called context func args => exact .none (Context.beginCall_funcs ..)
  | linked context artifact items => exact .none (Context.beginLink_funcs ..)
  | stepped stepped => exact Context.step_enters stepped
  | unanswered _ | fuelRefused _ | closed _ => exact .none rfl

/-- In every life, each function of the table does what its origin does. -/
theorem Life.traced {σ : Type} {fresh : Context σ} {past : List (Stage σ × Act σ)}
    {stage : Stage σ} (life : Life fresh past stage) (begins : fresh.Sound)
    (noFuncs : fresh.funcs = {}) : stage.context.Traced := by
  induction life with
  | created =>
      intro index entry member
      simp [Stage.idle, noFuncs, FuncTable.entry?] at member
  | acted life taken inductionHypothesis =>
      exact inductionHypothesis.enters (Stage.take_enters taken)
        ((life.sound begins).take_leads taken).extension

/-! ## Out of the engine and back -/

namespace Context

variable {σ : Type} {context after : Context σ}

/-- What comes out of the engine is a reference to a function that is handed out, or goes
back as it came without the context being asked. -/
theorem lift_eq_ok_cases {item : Value} {kind : ValueKind} {value : Val}
    (lifted : context.lift item kind = (.ok value, after)) :
    (∃ key func, item = .funcRef (some key) ∧ value = .funcRef (some func) ∧
        context.handleOf key none = (.ok func, after)) ∨
      (∀ key, item ≠ .funcRef (some key)) ∧ after = context ∧ context.lower value = .ok item := by
  cases item with
  | funcRef target =>
      cases target with
      | none =>
          cases kind <;> cases lifted
          exact .inr ⟨nofun, rfl, rfl⟩
      | some key =>
          cases kind
          case funcRef =>
            rw [lift_func] at lifted
            cases handed : context.handleOf key none with
            | mk outcome last =>
                rw [handed] at lifted
                cases outcome with
                | error reason => cases lifted
                | ok func =>
                    cases lifted
                    exact .inl ⟨key, func, rfl, rfl, handed⟩
          all_goals cases lifted
  | v128 bits => cases kind <;> cases lifted
  | externRef => cases kind <;> cases lifted
  | _ =>
      cases kind <;> cases lifted
      exact .inr ⟨nofun, rfl, rfl⟩

/-- Both references that can stand for a function do what it does. -/
theorem Traced.reference (traced : context.Traced) {func : FuncHandle} {entry : FuncEntry}
    (found : context.funcEntry? func = some entry) :
    context.store.Alike entry.key (context.reference entry) := by
  unfold funcEntry? at found
  split at found
  · unfold Context.reference
    split
    · exact (traced _ _ found).symm
    · exact .same _
  · contradiction

/-- What comes out of the engine goes back as the same value. -/
theorem Traced.lower_lift (traced : context.Traced) (sound : context.Sound) {item : Value}
    {kind : ValueKind} {value : Val} (lifted : context.lift item kind = (.ok value, after)) :
    ∃ back, after.lower value = .ok back ∧ after.store.SameValue item back := by
  rcases lift_eq_ok_cases lifted with ⟨key, func, rfl, rfl, handed⟩ | ⟨-, rfl, lowers⟩
  · have tracedAfter := traced.handleOf key none
    have grows := (sound.handleOf_grows key none (by simp)).1
    rw [handed] at tracedAfter grows
    obtain ⟨entry, found, isKey⟩ := sound.handleOf_key handed
    have emerged := (Store.emerge_emerged context.store key).alike
    rw [← isKey, ← Issues.handleOf_store handed] at emerged
    refine ⟨.funcRef (some (after.reference entry)), ?_, .funcs ?_⟩
    · simp only [lower, found]
    · exact emerged.trans (tracedAfter.reference found)
  · exact ⟨item, lowers, .same item⟩

/-- What comes out of the engine under a handle is the own key of the handle's function, or
the one that the function came from. -/
theorem Sound.handleOf_origin (sound : context.Sound) {origin : FuncKey}
    {declared : Option Signature} {func : FuncHandle}
    (handed : context.handleOf origin declared = (.ok func, after)) :
    ∃ entry, after.funcEntry? func = some entry ∧ (origin = entry.key ∨ origin = entry.origin) := by
  obtain ⟨entry, found, isKey⟩ := sound.handleOf_key handed
  have emerged := Store.emerge_emerged context.store origin
  rw [← isKey] at emerged
  -- A new host function is in no entry, and gets one with what it came from.
  have lastsOrNew : origin = entry.key ∨ context.funcs.find? entry.key = none := by
    generalize (context.store.emerge origin).2 = store at emerged
    generalize entry.key = key at emerged
    cases emerged with
    | lasting => exact .inl rfl
    | renewed => exact .inr (SoundParts.find?_host_size sound)
  rcases lastsOrNew with lasting | unknown
  · exact ⟨entry, found, .inl lasting⟩
  · unfold Context.handleOf at handed
    simp only [← isKey, unknown] at handed
    split at handed
    · rename_i signature described
      cases handed
      refine ⟨⟨signature, entry.key, origin, false⟩, ?_, .inr rfl⟩
      simp [enterFunc, funcEntry?, FuncTable.entryAt_push]
    · cases handed

/-- A function that the engine knows with a type of the boundary gets a handle. -/
theorem handleOf_described (context : Context σ) {origin : FuncKey} {signature : Signature}
    (typed : context.store.funcType? origin = some signature.guest) :
    ∃ func, (context.handleOf origin none).1 = .ok func := by
  have emerged := Store.emerge_emerged context.store origin
  unfold Context.handleOf
  generalize context.store.emerge origin = out at emerged
  obtain ⟨key, store⟩ := out
  simp only
  have keyTyped : store.funcType? key = some signature.guest :=
    emerged.funcType?_origin.symm.trans (emerged.storeExtends.funcType?_eq_some typed)
  split
  · exact ⟨_, rfl⟩
  · have describes : Context.describeFunc { context with store := store } key none =
        .ok signature := by
      simp only [describeFunc, keyTyped]
      exact (Signature.ofGuest_eq_ok_iff _ _).2 rfl
    rw [describes]
    exact ⟨_, rfl⟩

/-- What went into the engine comes out of it, if not as the same value. -/
theorem Sound.lift_of_lower (sound : context.Sound) {value : Val} {item : Value}
    (lowers : context.lower value = .ok item) :
    ∃ lifted, (context.lift item value.kind).1 = .ok lifted := by
  cases value with
  | funcRef target =>
      cases target with
      | none =>
          cases lowers
          exact ⟨_, rfl⟩
      | some func =>
          simp only [lower] at lowers
          split at lowers
          · rename_i entry found
            cases lowers
            obtain ⟨other, handed⟩ := context.handleOf_described (sound.reference_typed found)
            rw [Val.kind, lift_func]
            generalize context.handleOf (context.reference entry) none = out at handed
            obtain ⟨outcome, last⟩ := out
            cases handed
            exact ⟨_, rfl⟩
          · contradiction
  | _ =>
      cases lowers
      exact ⟨_, rfl⟩

/-- The key map has a function's own handle for the reference that stands for it exactly if
that is the function's own key. -/
theorem Sound.find?_reference_iff (sound : context.Sound) {func : FuncHandle}
    {entry : FuncEntry} (found : context.funcEntry? func = some entry) :
    context.funcs.find? (context.reference entry) = some func.index ↔
      (context.store.isAdapted entry.signature = true → entry.origin = entry.key) := by
  unfold funcEntry? at found
  split at found
  · have own : context.funcs.find? entry.key = some func.index := sound.inverse.found found
    have isKey : context.funcs.find? (context.reference entry) = some func.index ↔
        context.reference entry = entry.key := by
      constructor
      · intro known
        obtain ⟨other, member, same⟩ := sound.inverse.entered known
        rw [found] at member
        cases member
        exact same.symm
      · intro same
        rw [same, own]
    rw [isKey, reference]
    split
    · rename_i adapted
      simp only [adapted, true_implies]
    · rename_i passing
      exact ⟨fun _ adapted => absurd adapted passing, fun _ => rfl⟩
  · contradiction

end Context

/-! ## Marshalling -/

/-- What becomes of values on their way into the engine and out of it, in a context. -/
structure Marshalling {σ : Type} (context : Context σ) : Prop where
  /-- A value that fits the context goes into the engine and comes out as some value of its
  kind. -/
  passes : ∀ {value : Val}, context.Admits value →
    ∃ item, context.lower value = .ok item ∧ item.type = value.kind.guest ∧
      ∃ lifted, (context.lift item value.kind).1 = .ok lifted ∧ lifted.kind = value.kind
  /-- It comes out as it was, and leaves the context as it was, exactly if it is no
  reference to a function or one that lasts. -/
  same_iff : ∀ {value : Val} {item : Value}, context.lower value = .ok item →
    (context.lift item value.kind = (.ok value, context) ↔
      ∀ func, value.target? = some func → context.Lasts func)
  /-- The reference that stands for a function is found under its own handle, without a way
  through the engine, exactly if the function is its own origin or its type is not adapted. -/
  found_iff : ∀ {func : FuncHandle} {entry : FuncEntry}, context.funcEntry? func = some entry →
    (context.funcs.find? (context.reference entry) = some func.index ↔
      (context.store.isAdapted entry.signature = true → entry.origin = entry.key))
  /-- What comes out of the engine under a handle was a reference to the handle's function:
  its own key, or the one that it came from. -/
  handed : ∀ {key : FuncKey} {func : FuncHandle} {after : Context σ},
    context.lift (.funcRef (some key)) .funcRef = (.ok (.funcRef (some func)), after) →
      ∃ entry, after.funcEntry? func = some entry ∧ (key = entry.key ∨ key = entry.origin)
  /-- What comes out of the engine goes back as the same bits, null, or a function that
  does the same. -/
  back : ∀ {item : Value} {kind : ValueKind} {value : Val} {after : Context σ},
    context.lift item kind = (.ok value, after) →
      ∃ again, after.lower value = .ok again ∧ after.store.SameValue item again

/-- At every stage of every life, numbers and null come back from the engine as they were,
and so do the references that last and no others.  The others come back as another handle
for a function that does the same. -/
theorem Life.marshalling {σ : Type} {id : ContextId} {environment : Environment} {data : σ}
    {past : List (Stage σ × Act σ)} {stage : Stage σ}
    (life : Life (.create id environment data) past stage) : Marshalling stage.context := by
  have begins := Context.create_sound id environment data
  have sound := (life.sound begins).context
  refine ⟨?_, ?_, sound.find?_reference_iff, ?_, (life.traced begins rfl).lower_lift sound⟩
  · intro value admits
    obtain ⟨item, lowers, type, -⟩ := sound.lower_admitted admits
    obtain ⟨lifted, comesOut⟩ := sound.lift_of_lower lowers
    exact ⟨item, lowers, type, lifted, comesOut, ((sound.lift_grows item _).2 lifted comesOut).1⟩
  · intro value item lowers
    rw [← sound.lift_lower_iff value]
    simp only [lowers, Except.ok.injEq, exists_eq_left']
  · intro key func after lifted
    rcases Context.lift_eq_ok_cases lifted with ⟨_, _, ⟨⟩, ⟨⟩, handed⟩ | ⟨noFunc, -⟩
    · exact sound.handleOf_origin handed
    · exact absurd rfl (noFunc key)

/-! ## A reference that does not come back -/

namespace Renewed

/-- A module that declares the type of functions without parameters and results. -/
def artifact : Artifact where
  environment := ⟨0⟩
  serial := 0
  module := { types := [⟨[], []⟩] }
  digest := []
  surface := ⟨[], []⟩
  surface_eq := rfl

def fresh : Context Unit := .create ⟨0⟩ { id := ⟨0⟩, config := {} } ()

/-- The type of the global that holds the reference. -/
def type : GlobalType := ⟨.funcRef, true⟩

/-- A host function is put into a global, which is read before a module that declares the
type of the function is linked. -/
theorem lives : ∃ past context entry, Life fresh past ⟨context, none⟩ ∧
    context.funcEntry? ⟨⟨0⟩, 1⟩ = some entry ∧
      entry.origin = .host 0 ∧ entry.key = .host 1 ∧
        context.store.isAdapted entry.signature = true ∧
          context.funcs.find? (context.reference entry) = some 0 := by
  have made : Life fresh _ _ := Life.created.acted
    (show Stage.take _ (.register .empty fun _ => .finish Slots.empty) = some _ from rfl)
  have held := made.acted
    (show Stage.take _ (.ask (.createGlobal type (.funcRef (some ⟨⟨0⟩, 0⟩)))) = some _ from rfl)
  have read := held.acted (show Stage.take _ (.ask (.getGlobal ⟨⟨0⟩, 0, type⟩)) = some _ from rfl)
  have linked := read.acted (show Stage.take _ (.link artifact []) = some _ from rfl)
  have closed := linked.acted (show Stage.take _ .close = some _ from rfl)
  exact ⟨_, _, _, closed, rfl, rfl, rfl, by decide +kernel, by decide +kernel⟩

end Renewed

/-- The reference that stands for the function read from the global is found under the handle
of the function that was put there. -/
theorem Life.marshalling_of_renewed : ∃ past context entry,
    Life Renewed.fresh past ⟨context, none⟩ ∧ Marshalling context ∧
      context.funcEntry? ⟨⟨0⟩, 1⟩ = some entry ∧
        context.funcs.find? (context.reference entry) = some 0 := by
  obtain ⟨past, context, entry, life, found, -, -, -, other⟩ := Renewed.lives
  exact ⟨past, context, entry, life, Life.marshalling life, found, other⟩

/-- A handle may come back as another one: from the function table at once, and by way of
the engine. -/
theorem Life.not_comes_back :
    (¬∀ (past : List (Stage Unit × Act Unit)) (context : Context Unit) (func : FuncHandle)
      (entry : FuncEntry), Life Renewed.fresh past ⟨context, none⟩ →
        context.funcEntry? func = some entry →
          context.funcs.find? (context.reference entry) = some func.index) ∧
    ¬∀ (past : List (Stage Unit × Act Unit)) (context : Context Unit) (value : Val)
      (item : Value), Life Renewed.fresh past ⟨context, none⟩ →
        context.lower value = .ok item →
          context.lift item value.kind = (.ok value, context) := by
  obtain ⟨past, context, entry, life, found, origin, key, adapted, other⟩ := Renewed.lives
  constructor
  · intro comesBack
    rw [comesBack past context _ entry life found] at other
    contradiction
  · intro comesBack
    have lowers : context.lower (.funcRef (some ⟨⟨0⟩, 1⟩)) =
        .ok (.funcRef (some (context.reference entry))) := by
      simp only [Context.lower, found]
    have sound := (life.sound (Context.create_sound ..)).context
    obtain ⟨known, isKnown, isOrigin, -⟩ :=
      (sound.lift_lower_iff _).1 ⟨_, lowers, comesBack past context _ _ life lowers⟩ _ rfl
    rw [found] at isKnown
    cases isKnown
    rw [origin, key] at isOrigin
    contradiction

end WasmSandbox
