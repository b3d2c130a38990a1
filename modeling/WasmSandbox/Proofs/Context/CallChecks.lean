import WasmSandbox.Proofs.Boundary.FirstFailure
import WasmSandbox.Proofs.Context.Depth
import WasmSandbox.Proofs.Context.Issuance
import WasmSandbox.Proofs.Context.Unwinding

/-!
Contract: the checks of a call, and what a call that is refused leaves behind.

Owns:
- why a call is refused, in the order of the checks: a foreign function, the number of
  arguments, the kind of an argument, a foreign reference, and the depth;
- that a call is refused exactly for these reasons, and that each leaves out the others;
- that a call that is refused returns at once to what waits for it, in the same context;
- that every other call is counted, and a closure or guest code is entered with the
  arguments.

Several things can be wrong with one call.  The reasons are therefore stated so that each
one includes that nothing before it is wrong.

Does not own: what becomes of a call that is counted (`WasmSandbox.Proofs.Context.Depth`).
-/

namespace WasmSandbox

open Wasm

namespace Context

variable {σ : Type} {context : Context σ} {func : FuncHandle} {args : List Val}

/-! ## Why a call is refused -/

/-- A reason to refuse a call.  Each one leaves the reasons before it out. -/
inductive RefusesCall (context : Context σ) (func : FuncHandle) (args : List Val) :
    CallError → Prop where
  | foreign (other : func.context ≠ context.id) : RefusesCall context func args .foreignHandle
  | count {signature : Signature} (known : context.signature? func = some signature)
      (differs : args.length ≠ signature.params.length) :
      RefusesCall context func args
        (.typeMismatch (.argumentCount signature.params.length args.length))
  /-- The position is the first one at which the kinds differ. -/
  | kind {signature : Signature} {position : Nat} {expected found : ValueKind}
      (known : context.signature? func = some signature)
      (sameLength : args.length = signature.params.length)
      (first : FirstMisfit (· = ·) signature.params (args.map Val.kind) position expected found) :
      RefusesCall context func args (.typeMismatch (.argumentKind position expected found))
  | reference {signature : Signature} {target : FuncHandle}
      (known : context.signature? func = some signature)
      (kinds : args.map Val.kind = signature.params) (member : target ∈ targets args)
      (other : target.context ≠ context.id) : RefusesCall context func args .foreignHandle
  | depth {signature : Signature} (known : context.signature? func = some signature)
      (kinds : args.map Val.kind = signature.params)
      (own : ∀ target ∈ targets args, target.context = context.id)
      (full : context.config.maxCallDepth.toNat ≤ context.depth) :
      RefusesCall context func args (.trap ⟨.callDepthExceeded,
        "more than " ++ toString context.config.maxCallDepth ++ " nested calls", false⟩)

private theorem entry_of_signature {signature : Signature}
    (known : context.signature? func = some signature) :
    ∃ entry, context.funcEntry? func = some entry ∧ entry.signature = signature :=
  Option.map_eq_some_iff.1 known

private theorem checkCall_of_mismatch {entry : FuncEntry} {mismatch : TypeMismatch}
    (found : context.funcEntry? func = some entry)
    (fails : entry.signature.checkParams (args.map Val.kind) = .error mismatch) :
    context.checkCall func args = .error (.typeMismatch mismatch) := by
  unfold checkCall
  simp only [found, fails]

/-- Every reason is the one that is reported. -/
theorem RefusesCall.checkCall_eq {error : CallError}
    (refuses : context.RefusesCall func args error) :
    context.checkCall func args = .error error := by
  cases refuses with
  | foreign other =>
      have unknown : context.funcEntry? func = none := if_neg other
      unfold checkCall
      rw [unknown]
  | count known differs =>
      obtain ⟨entry, found, rfl⟩ := entry_of_signature known
      apply checkCall_of_mismatch found
      exact (entry.signature.checkParams_eq_error_iff _ _).2 (.inl (by simpa using differs))
  | kind known sameLength first =>
      obtain ⟨entry, found, rfl⟩ := entry_of_signature known
      apply checkCall_of_mismatch found
      exact (entry.signature.checkParams_eq_error_iff _ _).2
        (.inr ⟨by simpa using sameLength, _, _, _, first, rfl⟩)
  | reference known kinds member other =>
      obtain ⟨entry, found, rfl⟩ := entry_of_signature known
      have fits := (entry.signature.checkParams_eq_ok_iff _).2 kinds
      have isForeign : (args.any fun value => !value.belongsTo context.id) = true := by
        by_contra noneForeign
        have own : context.Stamps args := by simpa [Stamps] using noneForeign
        exact other (own.target_context member)
      unfold checkCall
      simp only [found, fits, if_pos isForeign]
  | depth known kinds own full =>
      obtain ⟨entry, found, rfl⟩ := entry_of_signature known
      rw [checkCall_of_fits found kinds (stamps_iff.2 own), if_pos full]

/-- A call is refused for nothing else, if a handle of the context is that of a function. -/
theorem refusesCall_of_checkCall (owned : func.context = context.id → context.Owns func)
    {error : CallError} (refused : context.checkCall func args = .error error) :
    context.RefusesCall func args error := by
  unfold checkCall at refused
  cases found : context.funcEntry? func with
  | none =>
      simp only [found] at refused
      cases refused
      refine .foreign fun own => ?_
      obtain ⟨entry, isEntry⟩ := (owns_iff func).1 (owned own)
      rw [found] at isEntry
      contradiction
  | some entry =>
      have known : context.signature? func = some entry.signature := by
        rw [signature?, found]
        rfl
      simp only [found] at refused
      cases fits : entry.signature.checkParams (args.map Val.kind) with
      | error mismatch =>
          simp only [fits] at refused
          cases refused
          rcases (entry.signature.checkParams_eq_error_iff _ _).1 fits with
            ⟨differs, rfl⟩ | ⟨sameLength, position, expected, kind, first, rfl⟩
          · rw [List.length_map] at differs ⊢
            exact .count known differs
          · rw [List.length_map] at sameLength
            exact .kind known sameLength first
      | ok accepted =>
          have kinds := (entry.signature.checkParams_eq_ok_iff _).1 fits
          simp only [fits] at refused
          split at refused
          · rename_i isForeign
            cases refused
            obtain ⟨value, member, outside⟩ := List.any_eq_true.1 isForeign
            have notOwn : ¬∀ target ∈ targets args, target.context = context.id := by
              intro own
              rw [stamps_iff.2 own value member] at outside
              contradiction
            push Not at notOwn
            obtain ⟨target, isTarget, other⟩ := notOwn
            exact .reference known kinds isTarget other
          · rename_i noneForeign
            have own : context.Stamps args := by simpa [Stamps] using noneForeign
            split at refused
            · rename_i full
              cases refused
              exact .depth known kinds (stamps_iff.1 own) full
            · contradiction

/-- There is at most one reason to refuse a call. -/
theorem RefusesCall.unique {one other : CallError} (refuses : context.RefusesCall func args one)
    (alsoRefuses : context.RefusesCall func args other) : one = other :=
  Except.error.inj (refuses.checkCall_eq.symm.trans alsoRefuses.checkCall_eq)

/-! ## Calls that are counted -/

/-- Where a call goes that is not refused: it is counted, and a closure or guest code is
entered with the arguments.  Nothing else is different. -/
inductive Dispatches (context : Context σ) (func : FuncHandle) (args : List Val)
    (wait : CallWait σ) : Run σ → Prop where
  | closure {entry : FuncEntry} {number : Nat} {body : Closure σ}
      (found : context.funcEntry? func = some entry) (isHost : entry.isHost = true)
      (isKey : entry.key = .host number)
      (isBody : context.store.hosts[number]? = some ⟨entry.signature, body⟩) :
      Dispatches context func args wait
        ({ context with depth := context.depth + 1 },
          .invoking body args (.called func entry.signature wait))
  | guest {entry : FuncEntry} {values : List Value}
      (found : context.funcEntry? func = some entry) (isGuest : entry.isHost = false)
      (lowered : List.Forall₂ (fun arg value => context.lower arg = .ok value) args values) :
      Dispatches context func args wait
        ({ context with depth := context.depth + 1 },
          .entering entry.key values (.called func entry.signature wait))

/-- A function of the host is entered by its closure, and every other one by its key. -/
theorem Sound.hostBody?_eq (sound : context.Sound) {entry : FuncEntry}
    (found : context.funcEntry? func = some entry) :
    (∃ number body, entry.isHost = true ∧ entry.key = .host number ∧
        context.store.hosts[number]? = some ⟨entry.signature, body⟩ ∧
          context.hostBody? entry = some body) ∨
      (entry.isHost = false ∧ context.hostBody? entry = none) := by
  cases isHost : entry.isHost with
  | false =>
      refine .inr ⟨rfl, ?_⟩
      unfold hostBody?
      split <;> simp [isHost]
  | true =>
      obtain ⟨number, isKey⟩ := sound.key_of_isHost found isHost
      have typed := sound.entry_typed found
      simp only [isKey, Store.funcType?, Option.map_eq_some_iff] at typed
      obtain ⟨host, isBody, sameType⟩ := typed
      have sameSignature : host.signature = entry.signature := Signature.guest_injective sameType
      refine .inl ⟨number, host.body, rfl, isKey, by rw [isBody, ← sameSignature], ?_⟩
      unfold hostBody?
      simp [isKey, isHost, isBody]

/-- A call that passes the checks goes on, if references to functions of the context are to
functions. -/
theorem Sound.beginCall_dispatches (sound : context.Sound) {entry : FuncEntry}
    (checked : context.checkCall func args = .ok entry)
    (honest : ∀ target ∈ targets args, target.context = context.id → context.Owns target)
    (wait : CallWait σ) :
    context.Dispatches func args wait (context.beginCall func args wait) := by
  obtain ⟨found, -, own, -⟩ := (context.checkCall_eq_ok_iff func args entry).1 checked
  unfold beginCall
  rw [checked]
  rcases sound.hostBody?_eq found with
    ⟨number, body, isHost, isKey, isBody, hostBody⟩ | ⟨isGuest, noBody⟩
  · simp only [hostBody]
    exact .closure found isHost isKey isBody
  · obtain ⟨values, goIn, -⟩ := sound.lowerAll_admitted (admits_of_belongsTo own honest)
    simp only [noBody, goIn]
    exact .guest found isGuest ((mapM_eq_ok_iff _ _ _).1 goIn)

end Context

/-! ## Calls in a life -/

/-- A call is put with handles that exist: those of the context were handed out. -/
structure Presents {σ : Type} (past : List (Stage σ × Act σ)) (context : Context σ)
    (func : FuncHandle) (args : List Val) : Prop where
  func : func.context = context.id → func ∈ issuedIn past
  args : ∀ target ∈ targets args, target.context = context.id → target ∈ issuedIn past

/-- How a call is checked in a context, after a history. -/
structure CallsChecked {σ : Type} (past : List (Stage σ × Act σ)) (context : Context σ) :
    Prop where
  /-- The check fails exactly for the reasons there are. -/
  checked : ∀ func args, Presents past context func args → ∀ error,
    context.checkCall func args = .error error ↔ context.RefusesCall func args error
  /-- There is one reason at most. -/
  exclusive : ∀ func args one other, context.RefusesCall func args one →
    context.RefusesCall func args other → one = other
  /-- A call that is refused returns at once to what waits for it, and nothing changes. -/
  refused : ∀ func args error, context.RefusesCall func args error → ∀ wait,
    context.beginCall func args wait = context.deliverCall (.error error) wait ∧
      (context.beginCall func args wait).1 = context
  /-- So it is for the embedder, for whom the call is over then. -/
  returned : ∀ func args error, context.RefusesCall func args error →
    context.call func args = (.answered (.error error), context)
  /-- Every other call is counted, and a closure or guest code is entered. -/
  dispatched : ∀ func args, Presents past context func args →
    (∀ error, ¬context.RefusesCall func args error) → ∀ wait,
      context.Dispatches func args wait (context.beginCall func args wait)

namespace Context

variable {σ : Type} {context : Context σ} {func : FuncHandle} {args : List Val}

/-- A call of the embedder that is refused gives the reason back, and the same context. -/
theorem call_of_refused {error : CallError} (checked : context.checkCall func args = .error error) :
    context.call func args = (.answered (.error error), context) := by
  have ended : run manySteps context (.called (.error error)) = (context, .called (.error error)) :=
    run_of_halted rfl manySteps
  unfold call
  rw [beginCall_of_refused checked, deliverCall]
  simp only [ended]

end Context

/-- In every life of a context, a call is refused exactly for the first thing that is wrong
with it, before anything runs or changes, and every other call goes on. -/
theorem Life.callsChecked {σ : Type} {id : ContextId} {environment : Environment} {data : σ}
    {past : List (Stage σ × Act σ)} {stage : Stage σ}
    (life : Life (.create id environment data) past stage) (honest : Honest past) :
    CallsChecked past stage.context := by
  have begins := Context.create_sound id environment data
  have sound := (life.sound begins).context
  have owns := (life.issued_owns_and_backed begins honest).1
  have checked (func : FuncHandle) (args : List Val)
      (presents : Presents past stage.context func args) (error : CallError) :
      stage.context.checkCall func args = .error error ↔
        stage.context.RefusesCall func args error :=
    ⟨Context.refusesCall_of_checkCall fun own => owns func (presents.func own),
      Context.RefusesCall.checkCall_eq⟩
  refine ⟨checked, ?exclusive, ?refused, ?returned, ?dispatched⟩
  case exclusive =>
    intro func args one other refuses alsoRefuses
    exact refuses.unique alsoRefuses
  case refused =>
    intro func args error refuses wait
    have delivered := Context.beginCall_of_refused refuses.checkCall_eq wait
    refine ⟨delivered, ?_⟩
    rw [delivered, Context.deliverCall_context]
  case returned =>
    intro func args error refuses
    exact Context.call_of_refused refuses.checkCall_eq
  case dispatched =>
    intro func args presents noReason wait
    cases outcome : stage.context.checkCall func args with
    | error error => exact absurd ((checked func args presents error).1 outcome) (noReason error)
    | ok entry =>
        exact sound.beginCall_dispatches outcome
          (fun target member own => owns target (presents.args target member own)) wait

/-! ## A call with which two things are wrong -/

namespace WrongTwice

/-- A context with a host function that takes a number and a reference. -/
def context : Context Unit :=
  ((Context.create ⟨0⟩ { id := ⟨0⟩, config := {} } ()).createFunc ⟨[.i32, .funcRef], []⟩
    fun _ => .finish Slots.empty).2

/-- The number is of another kind, and the reference is one of another context. -/
def args : List Val := [.i64 7, .funcRef (some ⟨⟨1⟩, 0⟩)]

theorem refuses :
    context.RefusesCall ⟨⟨0⟩, 0⟩ args (.typeMismatch (.argumentKind 0 .i32 .i64)) := by
  have known : context.signature? ⟨⟨0⟩, 0⟩ = some ⟨[.i32, .funcRef], []⟩ := rfl
  refine .kind known rfl ⟨rfl, rfl, nofun, ?_⟩
  intro earlier below
  exact absurd below (Nat.not_lt_zero earlier)

end WrongTwice

/-- The call is refused for the kind of the number, and the function does not run. -/
theorem Life.callsChecked_of_wrong : ∃ past,
    Life (.create ⟨0⟩ { id := ⟨0⟩, config := {} } ()) past (.idle WrongTwice.context) ∧
      Honest past ∧ CallsChecked past WrongTwice.context ∧
        WrongTwice.context.call ⟨⟨0⟩, 0⟩ WrongTwice.args =
          (.answered (.error (.typeMismatch (.argumentKind 0 .i32 .i64))), WrongTwice.context) := by
  have registered : Life (.create ⟨0⟩ { id := ⟨0⟩, config := {} } ()) _
      (.idle WrongTwice.context) := Life.created.acted
    (show Stage.take _ (.register ⟨[.i32, .funcRef], []⟩ fun _ => .finish Slots.empty) = some _
      from rfl)
  have honest : Honest [(Stage.idle (Context.create ⟨0⟩ { id := ⟨0⟩, config := {} } ()),
      Act.register ⟨[.i32, .funcRef], []⟩ fun _ => .finish Slots.empty)] :=
    ⟨fun func member => by simp [Stage.offered, Stage.idle] at member, trivial⟩
  have checks := Life.callsChecked registered honest
  exact ⟨_, registered, honest, checks, checks.returned _ _ _ WrongTwice.refuses⟩

end WasmSandbox
