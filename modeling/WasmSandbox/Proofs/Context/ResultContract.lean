import WasmSandbox.Proofs.Boundary.FirstFailure
import WasmSandbox.Proofs.Context.ClosureRun
import WasmSandbox.Proofs.Context.Minting

/-!
Contract: what the result of a closure is, and what becomes of it.

Owns:
- which result a closure has that ended: its refusal, the values in its slots, or what is
  wrong with the first slot;
- that the result goes to the call routine as it is, and to guest code only as the whole
  list of values that passed.

The slots are looked at twice: for values of the declared kinds first, and then for
references of other contexts.  What the second look finds is therefore only reported where
the first one finds nothing, at whatever positions.

Does not own: how a failure goes on from there (`WasmSandbox.Proofs.Context.Unwinding`).
-/

namespace WasmSandbox

open Wasm

variable {σ : Type}

/-! ## The result -/

/-- A slot holds a value of the kind that is declared for it. -/
def Signature.Holds (signature : Signature) (slots : Slots) (position : Nat) : Prop :=
  ∃ value, slots position = some value ∧ signature.results[position]? = some value.kind

namespace Context

/-- The result of a closure that ended in a context.  Among several things that are wrong
with its slots, the kinds come first, and the least position. -/
inductive Judges (context : Context σ) (signature : Signature) :
    ClosureEnd → Except CallError (List Val) → Prop where
  | refused (error : HostError) :
      Judges context signature (.refused error) (.error (.host error))
  | honoured {slots : Slots} {values : List Val}
      (length : values.length = signature.results.length)
      (filled : ∀ position < signature.results.length, slots position = values[position]?)
      (kinds : values.map Val.kind = signature.results)
      (own : ∀ target ∈ targets values, target.context = context.id) :
      Judges context signature (.returned slots) (.ok values)
  | missing {slots : Slots} {position : Nat} {expected : ValueKind}
      (declared : signature.results[position]? = some expected) (empty : slots position = none)
      (least : ∀ earlier < position, signature.Holds slots earlier) :
      Judges context signature (.returned slots)
        (.error (.contract (.missingResult position expected)))
  | kind {slots : Slots} {position : Nat} {expected : ValueKind} {value : Val}
      (declared : signature.results[position]? = some expected)
      (written : slots position = some value) (differs : value.kind ≠ expected)
      (least : ∀ earlier < position, signature.Holds slots earlier) :
      Judges context signature (.returned slots)
        (.error (.contract (.resultKind position expected value.kind)))
  | foreign {slots : Slots} {position : Nat} {func : FuncHandle}
      (typed : ∀ any < signature.results.length, signature.Holds slots any)
      (within : position < signature.results.length)
      (written : slots position = some (.funcRef (some func)))
      (other : func.context ≠ context.id)
      (least : ∀ earlier < position, ∀ target,
        slots earlier = some (.funcRef (some target)) → target.context = context.id) :
      Judges context signature (.returned slots)
        (.error (.contract (.foreignReference position)))

end Context

namespace Signature

variable {signature : Signature} {slots : Slots}

theorem getElem?_written (position : Nat) :
    ((List.range signature.results.length).map slots)[position]? =
      if position < signature.results.length then some (slots position) else none := by
  by_cases within : position < signature.results.length
  · simp [within]
  · simp [within]

/-- The first slot that does not hold the declared kind. -/
theorem firstMisfit_slots_iff {position : Nat} {expected : ValueKind} {slot : Option ValueKind} :
    FirstMisfit SlotFits signature.results
        (((List.range signature.results.length).map slots).map fun slot => slot.map Val.kind)
        position expected slot ↔
      signature.results[position]? = some expected ∧ slot = (slots position).map Val.kind ∧
        slot ≠ some expected ∧ ∀ earlier < position, signature.Holds slots earlier := by
  have isSlot (earlier : Nat) (present : Option ValueKind) :
      (((List.range signature.results.length).map slots).map
          fun slot => slot.map Val.kind)[earlier]? = some present ↔
        earlier < signature.results.length ∧ (slots earlier).map Val.kind = present := by
    rw [List.getElem?_map, getElem?_written]
    split <;> simp [*]
  constructor
  · rintro ⟨declared, isFound, misfit, least⟩
    obtain ⟨within, same⟩ := (isSlot position slot).1 isFound
    refine ⟨declared, same.symm, misfit, ?_⟩
    intro earlier below
    have before : earlier < signature.results.length := Nat.lt_trans below within
    have fits := least earlier below _ _ (List.getElem?_eq_getElem before)
      ((isSlot earlier _).2 ⟨before, rfl⟩)
    obtain ⟨value, written, sameKind⟩ := Option.map_eq_some_iff.1 fits
    exact ⟨value, written, by rw [sameKind, List.getElem?_eq_getElem before]⟩
  · rintro ⟨declared, rfl, misfit, least⟩
    have within : position < signature.results.length := (List.getElem?_eq_some_iff.1 declared).1
    refine ⟨declared, (isSlot position _).2 ⟨within, rfl⟩, misfit, ?_⟩
    intro earlier below before present isBefore isPresent
    obtain ⟨value, written, sameKind⟩ := least earlier below
    obtain ⟨-, rfl⟩ := (isSlot earlier present).1 isPresent
    rw [sameKind] at isBefore
    rw [SlotFits, written, Option.map_some, Option.some.inj isBefore]

/-- Slots that hold the declared kinds have those kinds. -/
theorem kinds_of_holds (typed : ∀ any < signature.results.length, signature.Holds slots any) :
    (((List.range signature.results.length).map slots).map fun slot => slot.map Val.kind) =
      signature.results.map some := by
  apply List.ext_getElem?
  intro position
  rw [List.getElem?_map, getElem?_written, List.getElem?_map]
  split
  · rename_i within
    obtain ⟨value, written, sameKind⟩ := typed position within
    simp [written, sameKind]
  · rename_i beyond
    rw [List.getElem?_eq_none (Nat.le_of_not_lt beyond), Option.map_none, Option.map_none]

theorem holds_of_kinds {values : List Val}
    (written : (List.range signature.results.length).map slots = values.map some)
    (kinds : values.map Val.kind = signature.results) {position : Nat}
    (within : position < signature.results.length) :
    slots position = values[position]? ∧ signature.Holds slots position := by
  have isSlot := @getElem?_written signature slots position
  rw [written, if_pos within, List.getElem?_map] at isSlot
  have inside : position < values.length := by
    rw [← kinds, List.length_map] at within
    exact within
  rw [List.getElem?_eq_getElem inside, Option.map_some, Option.some.injEq] at isSlot
  refine ⟨by rw [← isSlot, List.getElem?_eq_getElem inside], _, isSlot.symm, ?_⟩
  rw [← kinds, List.getElem?_map, List.getElem?_eq_getElem inside, Option.map_some]

end Signature

namespace Context

variable {context : Context σ} {signature : Signature} {slots : Slots}

private theorem holdsForeign_iff {id : ContextId} {slot : Option Val} :
    (slot.any fun value => !value.belongsTo id) = true ↔
      ∃ func, slot = some (.funcRef (some func)) ∧ func.context ≠ id := by
  cases slot with
  | none => simp
  | some value =>
      cases value with
      | funcRef target => cases target <;> simp [Val.belongsTo]
      | _ => simp [Val.belongsTo]

/-- Where the slots hold the declared kinds, the second look decides. -/
private theorem checkSlots_of_foreign {position : Nat}
    (typed : ∀ any < signature.results.length, signature.Holds slots any)
    (isFirst : ((List.range signature.results.length).map slots).findIdx?
      (fun slot => slot.any fun value => !value.belongsTo context.id) = some position) :
    context.checkSlots signature slots = .error (.contract (.foreignReference position)) := by
  have passes := (signature.checkResults_eq_ok_iff _).2 (signature.kinds_of_holds typed)
  simp only [checkSlots, passes, isFirst]

private theorem checkSlots_of_own
    (typed : ∀ any < signature.results.length, signature.Holds slots any)
    (noneForeign : ((List.range signature.results.length).map slots).findIdx?
      (fun slot => slot.any fun value => !value.belongsTo context.id) = none) :
    context.checkSlots signature slots =
      .ok ((List.range signature.results.length).map slots).reduceOption := by
  have passes := (signature.checkResults_eq_ok_iff _).2 (signature.kinds_of_holds typed)
  simp only [checkSlots, passes, noneForeign]

private theorem checkSlots_of_misfit {position : Nat} {expected : ValueKind}
    (declared : signature.results[position]? = some expected)
    (misfit : (slots position).map Val.kind ≠ some expected)
    (least : ∀ earlier < position, signature.Holds slots earlier) :
    context.checkSlots signature slots = .error (.contract
      (Signature.slotViolation position expected ((slots position).map Val.kind))) := by
  have first := Signature.firstMisfit_slots_iff.2 ⟨declared, rfl, misfit, least⟩
  have fails := (signature.checkResults_eq_error_iff (by simp) _).2 ⟨_, _, _, first, rfl⟩
  unfold checkSlots
  simp only [fails]

/-- The first slot with a reference of another context. -/
private theorem findIdx?_foreign_iff {position : Nat} :
    ((List.range signature.results.length).map slots).findIdx?
        (fun slot => slot.any fun value => !value.belongsTo context.id) = some position ↔
      position < signature.results.length ∧
        (∃ func, slots position = some (.funcRef (some func)) ∧ func.context ≠ context.id) ∧
          ∀ earlier < position, ∀ target,
            slots earlier = some (.funcRef (some target)) → target.context = context.id := by
  rw [List.findIdx?_eq_some_iff_getElem]
  simp only [List.getElem_map, List.getElem_range, List.length_map, List.length_range,
    holdsForeign_iff, not_exists, not_and, not_not, exists_prop]

/-- Every result that a closure can have is the one that it is given. -/
theorem Judges.resultOf_eq {ending : ClosureEnd} {result : Except CallError (List Val)}
    (judges : context.Judges signature ending result) :
    context.resultOf signature ending = result := by
  cases judges with
  | refused error => rfl
  | @honoured slots values length filled kinds own =>
      have written : (List.range signature.results.length).map slots = values.map some := by
        apply List.ext_getElem?
        intro position
        rw [Signature.getElem?_written, List.getElem?_map]
        split
        · rename_i within
          rw [filled position within, List.getElem?_eq_getElem (length ▸ within), Option.map_some]
        · rename_i beyond
          rw [List.getElem?_eq_none (length ▸ Nat.le_of_not_lt beyond), Option.map_none]
      have typed : ∀ any < signature.results.length, signature.Holds slots any :=
        fun any within => (Signature.holds_of_kinds written kinds within).2
      have noneForeign : ((List.range signature.results.length).map slots).findIdx?
          (fun slot => slot.any fun value => !value.belongsTo context.id) = none := by
        rw [written, List.findIdx?_eq_none_iff]
        intro slot member
        obtain ⟨value, inValues, rfl⟩ := List.mem_map.1 member
        simp [stamps_iff.2 own value inValues]
      rw [resultOf, checkSlots_of_own typed noneForeign, written, reduceOption_map_some]
  | missing declared empty least =>
      have misfit := context.checkSlots_of_misfit declared (by simp [empty]) least
      rw [empty] at misfit
      exact misfit
  | kind declared written differs least =>
      have misfit := context.checkSlots_of_misfit declared (by simpa [written] using differs) least
      rw [written] at misfit
      exact misfit
  | foreign typed within written other least =>
      exact checkSlots_of_foreign typed
        (findIdx?_foreign_iff.2 ⟨within, ⟨_, written, other⟩, least⟩)

/-- The result that a closure is given is one that it can have. -/
theorem judges_resultOf (context : Context σ) (signature : Signature) (ending : ClosureEnd) :
    context.Judges signature ending (context.resultOf signature ending) := by
  cases ending with
  | refused error => exact .refused error
  | returned slots =>
      rw [resultOf]
      cases fits : signature.checkResults
          (((List.range signature.results.length).map slots).map fun slot => slot.map Val.kind) with
      | error violation =>
          obtain ⟨position, expected, slot, first, -⟩ :=
            (signature.checkResults_eq_error_iff (by simp) _).1 fits
          obtain ⟨declared, rfl, misfit, least⟩ := Signature.firstMisfit_slots_iff.1 first
          rw [checkSlots_of_misfit declared misfit least]
          cases written : slots position with
          | none => exact .missing declared written least
          | some value =>
              rw [written] at misfit
              exact .kind declared written (fun same => misfit (congrArg some same)) least
      | ok accepted =>
          obtain ⟨values, filled, kinds⟩ :=
            filled_of_kinds ((signature.checkResults_eq_ok_iff _).1 fits)
          have typed : ∀ any < signature.results.length, signature.Holds slots any :=
            fun any within => (Signature.holds_of_kinds filled kinds within).2
          cases checked : context.checkSlots signature slots with
          | ok values =>
              obtain ⟨written, kinds, own⟩ := checkSlots_eq_ok checked
              refine .honoured ?_ ?_ kinds (stamps_iff.1 own)
              · rw [← kinds, List.length_map]
              · exact fun position within => (Signature.holds_of_kinds written kinds within).1
          | error error =>
              cases isFirst : ((List.range signature.results.length).map slots).findIdx?
                  (fun slot => slot.any fun value => !value.belongsTo context.id) with
              | some position =>
                  obtain ⟨within, ⟨func, written, other⟩, least⟩ := findIdx?_foreign_iff.1 isFirst
                  rw [checkSlots_of_foreign typed isFirst] at checked
                  cases checked
                  exact .foreign typed within written other least
              | none =>
                  rw [checkSlots_of_own typed isFirst] at checked
                  contradiction

theorem judges_iff {ending : ClosureEnd} {result : Except CallError (List Val)} :
    context.Judges signature ending result ↔ context.resultOf signature ending = result :=
  ⟨Judges.resultOf_eq, fun same => same ▸ context.judges_resultOf signature ending⟩

/-- The reference of another context comes first, and is not what is reported. -/
example : (create ⟨0⟩ { id := ⟨0⟩, config := {} } ()).resultOf ⟨[], [.funcRef, .i32, .i64]⟩
    (.returned ((Slots.empty.set 0 (some (.funcRef (some ⟨⟨1⟩, 0⟩)))).set 2 (some (.i32 7)))) =
      .error (.contract (.missingResult 1 .i32)) := rfl

/-! ## The way into the engine -/

theorem lower_of_admits {value : Val} (admits : context.Admits value) :
    ∃ lowered, context.lower value = .ok lowered := by
  cases value with
  | funcRef target =>
      cases target with
      | none => exact ⟨_, rfl⟩
      | some func =>
          obtain ⟨entry, found⟩ := (owns_iff func).1 (admits func rfl)
          exact ⟨.funcRef (some (context.reference entry)), by simp only [lower, found]⟩
  | _ => exact ⟨_, rfl⟩

/-- Values whose targets are functions of the context go into the engine, all of them. -/
theorem lowerAll_of_owns {values : List Val}
    (owns : ∀ target ∈ targets values, context.Owns target) :
    ∃ lowered, List.Forall₂ (fun value low => context.lower value = .ok low) values lowered := by
  induction values with
  | nil => exact ⟨[], .nil⟩
  | cons value rest inductionHypothesis =>
      have admits : context.Admits value := fun func isTarget =>
        owns func (List.mem_filterMap.2 ⟨value, List.mem_cons_self .., isTarget⟩)
      obtain ⟨low, goesIn⟩ := lower_of_admits admits
      obtain ⟨lows, others⟩ := inductionHypothesis fun func member => by
        obtain ⟨other, inRest, isTarget⟩ := List.mem_filterMap.1 member
        exact owns func (List.mem_filterMap.2 ⟨other, List.mem_cons_of_mem _ inRest, isTarget⟩)
      exact ⟨low :: lows, .cons goesIn others⟩

/-- Guest code takes values from an import exactly when the closure has them as its result,
and takes all of them. -/
theorem finishClosure_returning_iff {after : Context σ} {result : Except CallError (List Val)}
    {below : GuestCont σ} {lowered : List Value} :
    context.finishClosure result (.imported signature below) = (after, .returning lowered below) ↔
      after = context ∧ ∃ values, result = .ok values ∧
        List.Forall₂ (fun value low => context.lower value = .ok low) values lowered := by
  cases result with
  | error error => simp [finishClosure]
  | ok values =>
      simp only [finishClosure, Except.ok.injEq, exists_eq_left', ← mapM_eq_ok_iff]
      cases goIn : values.mapM context.lower with
      | error error => simp
      | ok lows => simp [eq_comm]

end Context

/-! ## What becomes of the result -/

/-- What holds of a closure that is entered on arguments in a context. -/
structure ResultContract (context : Context σ) (body : Closure σ) (args : List Val)
    (cont : HostCont σ) : Prop where
  /-- It comes to one end at most. -/
  once : ∀ {first second : ClosureEnd} {one other : Context σ},
    Concludes cont (context, .invoking body args cont) first one →
      Concludes cont (context, .invoking body args cont) second other →
        first = second ∧ one = other
  /-- At its end it has one result. -/
  judged : ∀ {ending : ClosureEnd} {after : Context σ},
    Concludes cont (context, .invoking body args cont) ending after →
      ∃! result, after.Judges cont.signature ending result
  /-- No result is that there are too many slots or too few. -/
  counted : ∀ {ending : ClosureEnd} {after : Context σ} (expected found : Nat),
    ¬after.Judges cont.signature ending (.error (.contract (.resultCount expected found)))
  /-- The call routine that entered it first goes on with a result exactly when it ends with
  that result. -/
  called : ∀ {func : FuncHandle} {signature : Signature} {wait : CallWait σ},
    cont = .called func signature wait → ∀ after result,
      Arrives cont.Resumes (context, .invoking body args cont)
          (after, .leaving func signature result wait) ↔
        ∃ ending, Concludes cont (context, .invoking body args cont) ending after ∧
          after.Judges signature ending result
  /-- Guest code that entered it first goes on with values exactly when it ends with values,
  and then with all of them. -/
  passed : ∀ {signature : Signature} {below : GuestCont σ}, cont = .imported signature below →
    ∀ after lowered,
      Arrives cont.Resumes (context, .invoking body args cont)
          (after, .returning lowered below) ↔
        ∃ ending values, Concludes cont (context, .invoking body args cont) ending after ∧
          after.Judges signature ending (.ok values) ∧
            List.Forall₂ (fun value low => after.lower value = .ok low) values lowered
  /-- It does go on with the values, if their targets are functions of the context. -/
  whole : ∀ {signature : Signature} {below : GuestCont σ}, cont = .imported signature below →
    ∀ {ending : ClosureEnd} {after : Context σ} {values : List Val},
      Concludes cont (context, .invoking body args cont) ending after →
        after.Judges signature ending (.ok values) →
          (∀ target ∈ targets values, after.Owns target) →
            ∃ lowered, Arrives cont.Resumes (context, .invoking body args cont)
              (after, .returning lowered below)
  /-- Otherwise the failure goes through it, as an error of the engine. -/
  raised : ∀ {signature : Signature} {below : GuestCont σ}, cont = .imported signature below →
    ∀ {ending : ClosureEnd} {after : Context σ} {error : CallError},
      Concludes cont (context, .invoking body args cont) ending after →
        after.Judges signature ending (.error error) →
          Arrives cont.Resumes (context, .invoking body args cont)
            (after, .raising (.box error) below)

/-- A closure ends with the values in its slots exactly when it fills them as declared, and
with the first thing that is wrong otherwise.  What waits for it gets that and nothing else. -/
theorem HostCont.resultContract (context : Context σ) (body : Closure σ) (args : List Val)
    (cont : HostCont σ) : ResultContract context body args cont := by
  have goesOn {last : Run σ} :
      Arrives cont.Resumes (context, .invoking body args cont) last ↔ ∃ ending after,
        Concludes cont (context, .invoking body args cont) ending after ∧
          last = after.finishClosure (after.resultOf cont.signature ending) cont :=
    arrives_resumes_iff cont.over_self
  refine ⟨Concludes.unique, ?judged, ?counted, ?called, ?passed, ?whole, ?raised⟩
  case judged =>
    intro ending after _
    exact ⟨_, after.judges_resultOf cont.signature ending, fun _ judges => judges.resultOf_eq.symm⟩
  case counted =>
    intro ending after expected found judges
    cases judges
  case called =>
    rintro func signature wait rfl after result
    rw [goesOn]
    constructor
    · rintro ⟨ending, there, concludes, isLast⟩
      obtain ⟨rfl, isResult⟩ := Prod.mk.inj isLast
      exact ⟨ending, concludes, Context.judges_iff.2 (RunState.leaving.inj isResult).2.2.1.symm⟩
    · rintro ⟨ending, concludes, judges⟩
      exact ⟨ending, after, concludes, by rw [HostCont.signature, judges.resultOf_eq]; rfl⟩
  case passed =>
    rintro signature below rfl after lowered
    rw [goesOn]
    constructor
    · rintro ⟨ending, there, concludes, isLast⟩
      obtain ⟨rfl, values, isResult, goIn⟩ := Context.finishClosure_returning_iff.1 isLast.symm
      exact ⟨ending, values, concludes, Context.judges_iff.2 isResult, goIn⟩
    · rintro ⟨ending, values, concludes, judges, goIn⟩
      exact ⟨ending, after, concludes, (Context.finishClosure_returning_iff.2
        ⟨rfl, values, judges.resultOf_eq, goIn⟩).symm⟩
  case whole =>
    rintro signature below rfl ending after values concludes judges owns
    obtain ⟨lowered, goIn⟩ := Context.lowerAll_of_owns owns
    exact ⟨lowered, goesOn.2 ⟨ending, after, concludes, (Context.finishClosure_returning_iff.2
      ⟨rfl, values, judges.resultOf_eq, goIn⟩).symm⟩⟩
  case raised =>
    rintro signature below rfl ending after error concludes judges
    exact goesOn.2 ⟨ending, after, concludes, by rw [HostCont.signature, judges.resultOf_eq]; rfl⟩

end WasmSandbox
