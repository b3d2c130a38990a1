import WasmSandbox.Proofs.Context.Crossing
import WasmSandbox.Proofs.Context.Twins
import WasmSandbox.Proofs.Failure.Recovery

/-!
Contract: host functions that instances import and export again.

Owns:
- the keys of functions that are handed out;
- host functions together with functions of instances that stand for them;
- the start of the closure by a call of either function, and the end of the call;
- that both calls start the closure alike exactly if the references among the arguments
  last, and from there on end alike exactly if those among the results do.

A direct call hands values over as they are.  A call by way of the instance takes the
arguments into the engine and out of it again, and then the results.

Does not own: functions of instances that are no imports.
-/

namespace WasmSandbox

open Wasm

variable {σ : Type}

namespace Context

/-- `inner` is a host function, and `outer` the function of an instance that imports
`inner` in its place. -/
def Reexports (context : Context σ) (inner outer : FuncHandle) : Prop :=
  ∃ (made exported : FuncEntry) (owner index : Nat) (code : Code),
    context.funcEntry? inner = some made ∧ made.isHost = true ∧
      context.funcEntry? outer = some exported ∧ exported.key = .guest owner index ∧
        context.store.code? owner = some code ∧ code.imports[index]? = some made.key

/-- The context while one more call is in progress. -/
def counted (context : Context σ) : Context σ := { context with depth := context.depth + 1 }

/-- The context after a call in progress. -/
def ended (context : Context σ) : Context σ := { context with depth := context.depth - 1 }

/-- Contexts with equally many calls in progress that are the same after one of these. -/
private theorem eq_of_ended_eq {first second : Context σ} (ends : first.ended = second.ended)
    (depth : first.depth = second.depth) : first = second := by
  obtain ⟨id, environment, data, funcs, instances, _, store⟩ := first
  cases second
  simp only [ended, mk.injEq] at ends
  simp only [mk.injEq]
  exact ⟨ends.1, ends.2.1, ends.2.2.1, ends.2.2.2.1, ends.2.2.2.2.1, depth, ends.2.2.2.2.2.2⟩

/-- A call starts a closure: at once, or after its arguments went through the engine. -/
inductive Starts (context : Context σ) (func : FuncHandle) (args : List Val)
    (wait : CallWait σ) (body : Closure σ) (started : List Val) (after : Context σ) : Prop where
  | atOnce (signature : Signature) (begun : context.beginCall func args wait =
      (after, .invoking body started (.called func signature wait)))
  | throughEngine (key : FuncKey) (values : List Value) (signature imported : Signature)
      (begun : context.beginCall func args wait =
        (context.counted, .entering key values (.called func signature wait)))
      (entered : context.counted.enterEngine key values (.called func signature wait) =
        (after, .invoking body started (.imported imported (.called func signature wait))))

end Context

/-- The end of a call of which the results, if there are any, last. -/
def CallEnd.Durable : CallEnd σ → Prop
  | .returned (.ok values) after => after.Durable values
  | _ => True

/-! ## Functions that are handed out -/

namespace Context

variable {context after : Context σ}

/-- A function that is handed out has an entry under the key that it came out with. -/
theorem Sound.handleOf_key (sound : context.Sound) {origin : FuncKey}
    {declared : Option Signature} {func : FuncHandle}
    (handed : context.handleOf origin declared = (.ok func, after)) :
    ∃ entry, after.funcEntry? func = some entry ∧
      entry.key = (context.store.emerge origin).1 := by
  unfold handleOf at handed
  simp only at handed
  split at handed
  · rename_i position known
    cases handed
    obtain ⟨entry, member, isKey⟩ := sound.inverse.entered known
    exact ⟨entry, (if_pos rfl).trans member, isKey⟩
  · split at handed
    · rename_i signature described
      cases handed
      refine ⟨⟨signature, (context.store.emerge origin).1, origin, false⟩, ?_, rfl⟩
      simp [enterFunc, funcEntry?, FuncTable.entryAt_push]
    · cases handed

private theorem exportedItem_func_key (sound : context.Sound) {owner index : Nat}
    {type : ItemType} {func : FuncHandle}
    (handed : context.exportedItem owner (.func index) type = (some (.func func), after)) :
    ∃ entry, after.funcEntry? func = some entry ∧ entry.key = .guest owner index := by
  unfold exportedItem at handed
  split at handed
  · cases handed
  · cases type with
    | func signature =>
        simp only at handed
        cases out : context.handleOf (.guest owner index) (some signature) with
        | mk outcome last =>
            rw [out] at handed
            cases outcome with
            | error reason => cases handed
            | ok other =>
                cases handed
                exact sound.handleOf_key out
    | memory type => cases handed
    | table type => cases handed
    | global type => cases handed

theorem Sound.lookup_func_key (sound : context.Sound) {inst : InstanceHandle}
    {entry : InstanceEntry} {name : String} {item : Wasm.Export} {index : Nat}
    {func : FuncHandle} (isInstance : context.instanceEntry? inst = some entry)
    (exported : entry.artifact.module.exports.find? (fun item => item.name == name) = some item)
    (target : item.target = .func index)
    (looked : context.lookup inst name = (some (.func func), after)) :
    ∃ known, after.funcEntry? func = some known ∧ known.key = .guest entry.owner index := by
  simp only [lookup, isInstance, exported] at looked
  cases declaredAs : entry.artifact.export? name with
  | none => simp [declaredAs] at looked
  | some declared =>
      simp only [declaredAs, Option.bind_eq_bind, Option.bind_some, Option.pure_def, target]
        at looked
      exact exportedItem_func_key sound looked

end Context

/-! ## The two functions -/

/-- What is known of a host function and of a function that stands for it. -/
structure Reexported (context : Context σ) (inner outer : FuncHandle) (made exported : FuncEntry)
    (body : Closure σ) : Prop where
  inner : context.funcEntry? inner = some made
  outer : context.funcEntry? outer = some exported
  isHost : made.isHost = true
  notHost : exported.isHost = false
  signature : exported.signature = made.signature
  direct : context.hostBody? made = some body
  through : context.hostBody? exported = none
  callee : context.store.callee? exported.key = some (.host ⟨made.signature, body⟩)

theorem Context.Sound.reexported {context : Context σ} (sound : context.Sound)
    {inner outer : FuncHandle} (reexports : context.Reexports inner outer) :
    ∃ made exported body, Reexported context inner outer made exported body := by
  obtain ⟨made, exported, owner, index, code, isInner, isHost, isOuter, isKey, isCode,
    imported⟩ := reexports
  have innerTyped := sound.entry_typed isInner
  have outerTyped := sound.entry_typed isOuter
  have stands : context.store.resolve exported.key = made.key := by
    rw [isKey, Store.resolve_guest, isCode, Option.bind_some, imported]
    rfl
  have sameType : made.signature.guest = exported.signature.guest := by
    have resolved := Store.ImportsTyped.funcType?_resolve sound.imports outerTyped
    rw [stands, innerTyped] at resolved
    exact Option.some.inj resolved
  have sameSignature : exported.signature = made.signature :=
    Signature.guest_injective sameType.symm
  obtain ⟨number, innerKey⟩ := sound.key_of_isHost isInner isHost
  rw [innerKey] at innerTyped stands
  obtain ⟨host, member, hostType⟩ := Option.map_eq_some_iff.1 innerTyped
  have isSignature : host.signature = made.signature := Signature.guest_injective hostType
  refine ⟨made, exported, host.body, isInner, isOuter, isHost,
    (sound.entry_guest isOuter isKey).2, sameSignature, ?_, ?_, ?_⟩
  · simp [hostBody?, innerKey, isHost, member]
  · simp [hostBody?, isKey]
  · rw [← isSignature]
    unfold Store.callee?
    rw [stands]
    simp [member]

namespace Reexported

variable {context : Context σ} {inner outer : FuncHandle} {made exported : FuncEntry}
  {body : Closure σ} (reexported : Reexported context inner outer made exported body)
include reexported

/-- Calls of both functions are checked alike. -/
theorem checkCall_error_iff (args : List Val) (error : CallError) :
    context.checkCall inner args = .error error ↔ context.checkCall outer args = .error error := by
  unfold Context.checkCall
  rw [reexported.inner, reexported.outer]
  simp only [reexported.signature]
  split
  · exact Iff.rfl
  · split
    · exact Iff.rfl
    · split
      · exact Iff.rfl
      · simp

theorem checkCall_ok {args : List Val} {entry : FuncEntry}
    (checked : context.checkCall inner args = .ok entry) :
    entry = made ∧ context.checkCall outer args = .ok exported := by
  obtain ⟨found, kinds, own, room⟩ := (context.checkCall_eq_ok_iff inner args entry).1 checked
  have isMade : entry = made := by
    rw [reexported.inner] at found
    exact (Option.some.inj found).symm
  refine ⟨isMade, (context.checkCall_eq_ok_iff outer args exported).2 ?_⟩
  rw [isMade, ← reexported.signature] at kinds
  exact ⟨reexported.outer, kinds, own, room⟩

/-! ## The start of the closure -/

section

variable {args : List Val} (wait : CallWait σ)

theorem beginCall_inner (checked : context.checkCall inner args = .ok made) :
    context.beginCall inner args wait =
      (context.counted, .invoking body args (.called inner made.signature wait)) := by
  unfold Context.beginCall
  rw [checked]
  simp only [reexported.direct]
  rfl

theorem beginCall_outer (checked : context.checkCall outer args = .ok exported) :
    context.beginCall outer args wait =
      match args.mapM context.lower with
      | .ok values =>
          (context.counted, .entering exported.key values (.called outer made.signature wait))
      | .error error =>
          (context.counted, .leaving outer made.signature (.error error) wait) := by
  unfold Context.beginCall
  rw [checked]
  simp only [reexported.through, reexported.signature]
  rfl

theorem enterEngine_outer (values : List Value) (cont : GuestCont σ) :
    context.counted.enterEngine exported.key values cont =
      match context.counted.liftAll values made.signature.params with
      | (.ok args, after) => (after, .invoking body args (.imported made.signature cont))
      | (.error error, after) => (after, .raising (.box error) cont) := by
  have callee : context.counted.store.callee? exported.key =
      some (.host ⟨made.signature, body⟩) := reexported.callee
  unfold Context.enterEngine
  split
  · rename_i host called
    rw [callee] at called
    cases called
    rfl
  · rename_i owner func called
    rw [callee] at called
    cases called
  · rename_i called
    rw [callee] at called
    cases called

omit reexported in
/-- The arguments come back from the engine as they were exactly if they last. -/
private theorem crosses_iff (sound : context.Sound)
    (checked : context.checkCall inner args = .ok made) :
    (∃ values, args.mapM context.lower = .ok values ∧
        context.counted.liftAll values made.signature.params = (.ok args, context.counted)) ↔
      context.Durable args := by
  have kinds := ((context.checkCall_eq_ok_iff inner args made).1 checked).2.1
  have soundCounted : context.counted.Sound := sound
  have crosses : _ ↔ context.Durable args := soundCounted.cross_eq_same_iff args
  have crossed : context.counted.cross args made.signature.params =
      match args.mapM context.lower with
      | .ok values => context.counted.liftAll values made.signature.params
      | .error error => (.error error, context.counted) := rfl
  rw [kinds, crossed] at crosses
  rw [← crosses]
  cases args.mapM context.lower <;> simp

/-- A call by way of the instance starts the closure like a direct call exactly if the
references among the arguments last. -/
theorem starts_iff (sound : context.Sound) (checked : context.checkCall inner args = .ok made) :
    context.Starts outer args wait body args context.counted ↔ context.Durable args := by
  have begun := reexported.beginCall_outer wait (reexported.checkCall_ok checked).2
  rw [← crosses_iff sound checked]
  constructor
  · intro starts
    cases lowered : args.mapM context.lower with
    | error error =>
        rw [lowered] at begun
        cases starts with
        | atOnce _ started => simp [begun] at started
        | throughEngine _ _ _ _ started _ => simp [begun] at started
    | ok values =>
        rw [lowered] at begun
        cases starts with
        | atOnce _ started => simp [begun] at started
        | throughEngine key other signature imported started entered =>
            rw [begun] at started
            cases started
            rw [reexported.enterEngine_outer] at entered
            cases lifted : context.counted.liftAll values made.signature.params with
            | mk outcome after =>
                rw [lifted] at entered
                cases outcome with
                | error error => cases entered
                | ok others =>
                    cases entered
                    exact ⟨values, rfl, lifted⟩
  · rintro ⟨values, lowered, lifted⟩
    rw [lowered] at begun
    refine .throughEngine _ values _ made.signature begun ?_
    rw [reexported.enterEngine_outer, lifted]

end

/-! ## The end of the call -/

section

variable (wait : CallWait σ)

omit reexported in
/-- A direct call ends as its closure does. -/
private theorem finishClosure_inner_ends (last : Context σ) (signature : Signature)
    (result : Except CallError (List Val)) (ending : CallEnd σ) :
    Ends wait (last.finishClosure result (.called inner signature wait)) ending ↔
      ending = .returned result last.ended := by
  have ends : Ends wait (last.finishClosure result (.called inner signature wait))
      (.returned result (last.endCall result wait).1) := .returned last inner signature result
  rw [Context.endCall_context] at ends
  constructor
  · exact fun other => other.unique ends
  · rintro rfl
    exact ends

/-- How a call by way of the instance ends, when its closure does: the results go into the
engine and out of it again. -/
private def carried (signature : Signature) (last : Context σ) :
    Except CallError (List Val) → CallEnd σ
  | .error error => .returned (.error error) last.ended
  | .ok values =>
      .returned (last.cross values signature.results).1
        (last.cross values signature.results).2.ended

omit reexported in
private theorem finishClosure_outer_ends (last : Context σ) (signature : Signature)
    (result : Except CallError (List Val)) :
    Ends wait (last.finishClosure result (.imported signature (.called outer signature wait)))
      (carried signature last result) := by
  have leaves (after : Context σ) (result : Except CallError (List Val)) :
      Ends wait (after, .leaving outer signature result wait) (.returned result after.ended) := by
    have ends : Ends wait (after, .leaving outer signature result wait)
        (.returned result (after.endCall result wait).1) := .returned after outer signature result
    rw [Context.endCall_context] at ends
    exact ends
  -- The failure of the closure goes into the engine, and comes out of it as it was.
  have raises (error : CallError) :
      Ends wait (last, .raising (.box error) (.called outer signature wait))
        (.returned (.error error) last.ended) := by
    refine .step not_false rfl ?_
    rw [Context.stepRaising, CallError.ofEngine_of_wraps (EngineError.wraps_box error)]
    exact leaves last (.error error)
  cases result with
  | error error => exact raises error
  | ok values =>
      simp only [carried, Context.cross, Context.finishClosure]
      cases values.mapM last.lower with
      | error error => exact raises error
      | ok values => exact .step not_false rfl (leaves _ _)

omit reexported in
/-- The two ends are the same exactly if the references among the results last. -/
private theorem carried_eq_iff {last : Context σ} (sound : last.Sound) {signature : Signature}
    {result : Except CallError (List Val)} (honours : signature.HonouredBy result) :
    carried signature last result = .returned result last.ended ↔
      (CallEnd.returned result last.ended).Durable := by
  cases result with
  | error error => simp [carried, CallEnd.Durable]
  | ok values =>
      have crosses : _ ↔ last.ended.Durable values := sound.cross_eq_same_iff values
      rw [honours values rfl] at crosses
      rw [CallEnd.Durable, ← crosses, carried]
      have depth := sound.cross_depth values signature.results
      generalize last.cross values signature.results = out at depth
      obtain ⟨outcome, after⟩ := out
      simp only [CallEnd.returned.injEq, Prod.mk.injEq]
      constructor
      · rintro ⟨sameResult, sameContext⟩
        exact ⟨sameResult, Context.eq_of_ended_eq sameContext depth⟩
      · rintro ⟨sameResult, rfl⟩
        exact ⟨sameResult, rfl⟩

end

/-! ## Calls of either function -/

section

variable {args : List Val} {wait : CallWait σ} (sound : context.Sound)
  (checked : context.checkCall inner args = .ok made) (durable : context.Durable args)
include sound checked durable

/-- Where the closure starts alike, the call by way of the instance has the end of a run
with the engine under the closure. -/
private theorem outcome_outer_iff (ending : CallEnd σ) :
    context.Outcome outer args wait ending ↔
      Ends wait (context.counted, .invoking body args
        (.imported made.signature (.called outer made.signature wait))) ending := by
  have accepted := (reexported.checkCall_ok checked).2
  obtain ⟨values, lowered, lifted⟩ := (crosses_iff sound checked).2 durable
  rw [Context.outcome_iff_ends accepted, reexported.beginCall_outer wait accepted, lowered]
  refine Ends.step_iff not_false ?_
  rw [Context.step, reexported.enterEngine_outer, lifted]

omit sound durable in
private theorem outcome_inner_iff (ending : CallEnd σ) :
    context.Outcome inner args wait ending ↔
      Ends wait (context.counted, .invoking body args (.called inner made.signature wait))
        ending := by
  rw [Context.outcome_iff_ends checked, reexported.beginCall_inner wait checked]

variable (fits : ∀ frame ∈ wait.frames, context.Fits frame)
include fits

omit durable in
private theorem inner_sound : (Stage.ofRun (context.counted, RunState.invoking body args
    (.called inner made.signature wait))).Sound := by
  have continues := sound.beginCall_continues wait fits inner args
  rw [reexported.beginCall_inner wait checked] at continues
  exact ⟨continues.sound, continues.fits⟩

private theorem outer_sound : (Stage.ofRun (context.counted, RunState.invoking body args
    (.imported made.signature (.called outer made.signature wait)))).Sound := by
  have continues := sound.beginCall_continues wait fits outer args
  obtain ⟨values, lowered, lifted⟩ := (crosses_iff sound checked).2 durable
  rw [reexported.beginCall_outer wait (reexported.checkCall_ok checked).2, lowered] at continues
  have entered : context.counted.step
      (.entering exported.key values (.called outer made.signature wait)) =
        some (context.counted, .invoking body args
          (.imported made.signature (.called outer made.signature wait))) := by
    rw [Context.step, reexported.enterEngine_outer, lifted]
  have further := continues.sound.step_continues continues.fits entered
  exact ⟨further.sound, further.fits⟩

/-- A direct call that ends has a call by way of the instance that ends, and they end
alike exactly if the results last. -/
private theorem inner_to_outer {ending : CallEnd σ}
    (outcome : context.Outcome inner args wait ending) :
    ∃ twin, context.Outcome outer args wait twin ∧ (twin = ending ↔ ending.Durable) := by
  simp only [reexported.outcome_outer_iff sound checked durable]
  have runs : TwinRuns (.called inner made.signature wait)
      (.imported made.signature (.called outer made.signature wait))
      (context.counted, .invoking body args (.called inner made.signature wait))
      (context.counted, .invoking body args
        (.imported made.signature (.called outer made.signature wait))) :=
    ⟨rfl, .invoking body args .base⟩
  have ends := (reexported.outcome_inner_iff checked ending).1 outcome
  rcases ends.twin runs rfl rfl (Nat.lt_succ_self _) (Nat.lt_succ_self _)
      (reexported.inner_sound sound checked fits) with
    ⟨last, rfl, panics⟩ | ⟨last, result, lastSound, honours, finishes, twinEnds⟩
  · exact ⟨_, panics, by simp [CallEnd.Durable]⟩
  · rw [(finishClosure_inner_ends wait last made.signature result ending).1 finishes]
    exact ⟨_, twinEnds _ (finishClosure_outer_ends wait last made.signature result),
      carried_eq_iff lastSound honours⟩

/-- A call by way of the instance that ends has a direct call that ends. -/
private theorem outer_to_inner {ending : CallEnd σ}
    (outcome : context.Outcome outer args wait ending) :
    ∃ twin, context.Outcome inner args wait twin := by
  simp only [reexported.outcome_inner_iff checked]
  have runs : TwinRuns (.imported made.signature (.called outer made.signature wait))
      (.called inner made.signature wait)
      (context.counted, .invoking body args
        (.imported made.signature (.called outer made.signature wait)))
      (context.counted, .invoking body args (.called inner made.signature wait)) :=
    ⟨rfl, .invoking body args .base⟩
  have ends := (reexported.outcome_outer_iff sound checked durable ending).1 outcome
  rcases ends.twin runs rfl rfl (Nat.lt_succ_self _) (Nat.lt_succ_self _)
      (reexported.outer_sound sound checked durable fits) with
    ⟨last, rfl, panics⟩ | ⟨last, result, -, -, -, twinEnds⟩
  · exact ⟨_, panics⟩
  · exact ⟨_, twinEnds _ ((finishClosure_inner_ends wait last made.signature result _).2 rfl)⟩

end

end Reexported

/-! ## Agreement -/

/-- How a direct call of a host function compares with a call by way of an instance. -/
structure CallsCompare (context : Context σ) (inner outer : FuncHandle) (args : List Val)
    (wait : CallWait σ) : Prop where
  /-- The functions have the same signature. -/
  signature : context.signature? outer = context.signature? inner
  /-- Only one of them is a function that the host made. -/
  isHost : context.isHost? inner = some true ∧ context.isHost? outer = some false
  /-- Calls of both are refused for the same reasons. -/
  refused : ∀ error,
    context.checkCall inner args = .error error ↔ context.checkCall outer args = .error error
  /-- Refused calls end alike, whatever the arguments. -/
  refusedEnds : ∀ error, context.checkCall inner args = .error error → ∀ ending,
    context.Outcome inner args wait ending ↔ context.Outcome outer args wait ending
  /-- Other calls start the same closure, and start it alike exactly if the arguments
  last. -/
  starts : ∀ entry, context.checkCall inner args = .ok entry →
    ∃ body, context.Starts inner args wait body args context.counted ∧
      (context.Starts outer args wait body args context.counted ↔ context.Durable args)
  /-- If the arguments last, one call ends if the other does. -/
  ends : context.Durable args →
    ((∃ ending, context.Outcome inner args wait ending) ↔
      ∃ ending, context.Outcome outer args wait ending)
  /-- If the arguments last, the calls have the same end exactly if the results last. -/
  endsAlike : context.Durable args → ∀ ending, context.Outcome inner args wait ending →
    (context.Outcome outer args wait ending ↔ ending.Durable)

private theorem Reexported.compare {context : Context σ} {inner outer : FuncHandle}
    {made exported : FuncEntry} {body : Closure σ}
    (reexported : Reexported context inner outer made exported body) (sound : context.Sound)
    {wait : CallWait σ} (fits : ∀ frame ∈ wait.frames, context.Fits frame) (args : List Val) :
    CallsCompare context inner outer args wait := by
  have refusedEnds (error : CallError) (refused : context.checkCall inner args = .error error)
      (ending : CallEnd σ) :
      context.Outcome inner args wait ending ↔ context.Outcome outer args wait ending := by
    rw [Context.outcome_iff_refused refused,
      Context.outcome_iff_refused ((reexported.checkCall_error_iff args error).1 refused)]
  refine ⟨?_, ?_, reexported.checkCall_error_iff args, refusedEnds, ?_, ?_, ?_⟩
  · simp [Context.signature?, reexported.inner, reexported.outer, reexported.signature]
  · simp [Context.isHost?, reexported.inner, reexported.outer, reexported.isHost,
      reexported.notHost]
  · intro entry checked
    obtain ⟨rfl, -⟩ := reexported.checkCall_ok checked
    exact ⟨body, .atOnce _ (reexported.beginCall_inner wait checked),
      reexported.starts_iff wait sound checked⟩
  · intro durable
    cases checked : context.checkCall inner args with
    | error error => exact exists_congr (refusedEnds error checked)
    | ok entry =>
        obtain ⟨rfl, -⟩ := reexported.checkCall_ok checked
        constructor
        · rintro ⟨ending, outcome⟩
          obtain ⟨twin, other, -⟩ :=
            reexported.inner_to_outer sound checked durable fits outcome
          exact ⟨twin, other⟩
        · rintro ⟨ending, outcome⟩
          exact reexported.outer_to_inner sound checked durable fits outcome
  · intro durable ending outcome
    cases checked : context.checkCall inner args with
    | error error =>
        rw [← refusedEnds error checked, (Context.outcome_iff_refused checked).1 outcome]
        exact iff_of_true (.refused checked) trivial
    | ok entry =>
        obtain ⟨rfl, -⟩ := reexported.checkCall_ok checked
        obtain ⟨twin, other, alike⟩ := reexported.inner_to_outer sound checked durable fits outcome
        rw [← alike]
        constructor
        · exact fun same => other.unique same
        · rintro rfl
          exact other

/-- In every life of a context, a host function and a function of an instance that stands
for it are refused alike.  Their calls start the closure alike exactly if the references
among the arguments last, and then end alike exactly if those among the results do. -/
theorem Life.callsCompare {id : ContextId} {environment : Environment} {data : σ}
    {past : List (Stage σ × Act σ)} {stage : Stage σ}
    (life : Life (.create id environment data) past stage) {wait : CallWait σ}
    (enters : stage.Enters wait) {inner outer : FuncHandle}
    (reexports : stage.context.Reexports inner outer) (args : List Val) :
    CallsCompare stage.context inner outer args wait := by
  have sound := life.sound (Context.create_sound id environment data)
  have fits := sound.fits
  rw [enters.frames_eq] at fits
  obtain ⟨made, exported, body, reexported⟩ := sound.context.reexported reexports
  exact reexported.compare sound.context fits args

/-! ## A context in which a reference is passed on -/

namespace Passing

/-- The signature of a function that takes a reference and gives one back. -/
def signature : Signature := ⟨[.funcRef], [.funcRef]⟩

/-- A module that imports such a function and exports it again. -/
def artifact : Artifact where
  environment := ⟨0⟩
  serial := 0
  module :=
    { types := [signature.guest]
      imports := [⟨"env", "f", .func signature.guest⟩]
      exports := [⟨"g", .func 0⟩] }
  digest := []
  surface := ⟨[⟨"env", "f", .func signature⟩], [⟨"g", .func signature⟩]⟩
  surface_eq := rfl

def fresh : Context Unit := .create ⟨0⟩ { id := ⟨0⟩, config := {} } ()

/-- A context with a host function of another type, a host function that gives back its
argument, and a function of an instance that stands for the second one. -/
def context : Context Unit :=
  let first := (fresh.createFunc .empty fun _ => .finish Slots.empty).2
  let second := (first.createFunc signature fun args => .finish (Slots.empty.set 0 args.head?)).2
  let linked := (second.beginLink artifact [.func ⟨⟨0⟩, 1⟩] .embedder).1
  (linked.lookup ⟨⟨0⟩, 0⟩ "g").2

theorem lives : ∃ past, Life fresh past (.idle context) := by
  have first : Life fresh _ _ := Life.created.acted
    (show Stage.take _ (.register .empty fun _ => .finish Slots.empty) = some _ from rfl)
  have second := first.acted
    (show Stage.take _ (.register signature fun args => .finish (Slots.empty.set 0 args.head?)) =
      some _ from rfl)
  have linked := second.acted
    (show Stage.take _ (.link artifact [.func ⟨⟨0⟩, 1⟩]) = some _ from rfl)
  have closed := linked.acted (show Stage.take _ .close = some _ from rfl)
  exact ⟨_, closed.acted (show Stage.take _ (.ask (.lookup ⟨⟨0⟩, 0⟩ "g")) = some _ from rfl)⟩

theorem reexports : context.Reexports ⟨⟨0⟩, 1⟩ ⟨⟨0⟩, 2⟩ :=
  ⟨_, _, 0, 0, _, rfl, rfl, rfl, rfl, rfl, rfl⟩

end Passing

/-- The function of the instance is passed on: a reference to it lasts. -/
theorem Life.callsCompare_of_passing :
    ∃ past, Life Passing.fresh past (.idle Passing.context) ∧
      Passing.context.Reexports ⟨⟨0⟩, 1⟩ ⟨⟨0⟩, 2⟩ ∧
        Passing.context.Durable [.funcRef (some ⟨⟨0⟩, 2⟩)] ∧
          CallsCompare Passing.context ⟨⟨0⟩, 1⟩ ⟨⟨0⟩, 2⟩ [.funcRef (some ⟨⟨0⟩, 2⟩)] .embedder := by
  obtain ⟨past, life⟩ := Passing.lives
  refine ⟨past, life, Passing.reexports, ?_,
    Life.callsCompare life (.embedder _) Passing.reexports _⟩
  intro value member func isTarget
  rw [List.mem_singleton.1 member] at isTarget
  cases isTarget
  exact ⟨_, rfl, rfl, fun _ _ => rfl⟩

/-- The host function of another type is passed on: no module has its type.  A direct call
gives back its handle.  In a call by way of the instance it becomes another function with
another handle on the way in, and yet another one on the way out. -/
theorem Life.calls_differ_of_passing :
    ∃ past, Life Passing.fresh past (.idle Passing.context) ∧
      Passing.context.Reexports ⟨⟨0⟩, 1⟩ ⟨⟨0⟩, 2⟩ ∧
        (∃ after, after.funcCount = 3 ∧
          Passing.context.Outcome ⟨⟨0⟩, 1⟩ [.funcRef (some ⟨⟨0⟩, 0⟩)] .embedder
            (.returned (.ok [.funcRef (some ⟨⟨0⟩, 0⟩)]) after)) ∧
          (∃ after, after.funcCount = 5 ∧
            Passing.context.Outcome ⟨⟨0⟩, 2⟩ [.funcRef (some ⟨⟨0⟩, 0⟩)] .embedder
              (.returned (.ok [.funcRef (some ⟨⟨0⟩, 4⟩)]) after)) ∧
            ¬∀ ending,
              Passing.context.Outcome ⟨⟨0⟩, 1⟩ [.funcRef (some ⟨⟨0⟩, 0⟩)] .embedder ending ↔
                Passing.context.Outcome ⟨⟨0⟩, 2⟩ [.funcRef (some ⟨⟨0⟩, 0⟩)] .embedder ending := by
  obtain ⟨past, life⟩ := Passing.lives
  have direct : ∃ after, after.funcCount = 3 ∧
      Passing.context.Outcome ⟨⟨0⟩, 1⟩ [.funcRef (some ⟨⟨0⟩, 0⟩)] .embedder
        (.returned (.ok [.funcRef (some ⟨⟨0⟩, 0⟩)]) after) :=
    ⟨_, rfl, .counted rfl (.step not_false rfl (.step not_false rfl (.returned ..)))⟩
  have through : ∃ after, after.funcCount = 5 ∧
      Passing.context.Outcome ⟨⟨0⟩, 2⟩ [.funcRef (some ⟨⟨0⟩, 0⟩)] .embedder
        (.returned (.ok [.funcRef (some ⟨⟨0⟩, 4⟩)]) after) :=
    ⟨_, rfl, .counted rfl (.step not_false rfl (.step not_false rfl (.step not_false rfl
      (.step not_false rfl (.returned ..)))))⟩
  refine ⟨past, life, Passing.reexports, direct, through, ?_⟩
  intro same
  obtain ⟨after, -, outcome⟩ := direct
  obtain ⟨otherAfter, -, other⟩ := through
  have results := ((same _).1 outcome).unique other
  simp at results

end WasmSandbox
