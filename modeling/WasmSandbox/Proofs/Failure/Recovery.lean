import WasmSandbox.Failure.Engine

/-!
Contract: what errors of the engine are reported as.

Owns:
- errors that wrap a call error or a fault: they were made from it, and anything may have
  been added to them that holds none itself;
- that frames of guest code, and whatever else is added, leave a wrapped call error wrapped;
- that a wrapped call error is reported as it is, by a call and by a link, a wrapped fault
  as its trap, and an error that wraps neither by its text.

What is added may even hold a fault: a call error is searched for first.

Does not own: how errors get from guest code to a call or a link.
-/

namespace WasmSandbox

namespace EngineError

variable {error : EngineError} {origin : CallError} {fault : GuestFault} {part : ErrorPart}

/-! ## What an error was made from -/

/-- An error that was made from a call error.  What was added to it holds no call error. -/
structure Wraps (error : EngineError) (origin : CallError) : Prop where
  cause : error.cause = .call origin
  around : ∀ part ∈ error.contexts, part.call? = none

/-- An error that was made from a fault.  What was added to it holds neither a call error
nor a fault. -/
structure Faults (error : EngineError) (fault : GuestFault) : Prop where
  cause : error.cause = .fault fault
  around : ∀ part ∈ error.contexts, part.call? = none ∧ part.fault? = none

theorem wraps_box (origin : CallError) : (box origin).Wraps origin :=
  ⟨rfl, List.forall_mem_nil _⟩

theorem faults_ofPart (fault : GuestFault) : (ofPart (.fault fault)).Faults fault :=
  ⟨rfl, List.forall_mem_nil _⟩

theorem Wraps.addContext (wraps : error.Wraps origin) (plain : part.call? = none) :
    (error.addContext part).Wraps origin :=
  ⟨wraps.cause, List.forall_mem_cons.2 ⟨plain, wraps.around⟩⟩

theorem Faults.addContext (faults : error.Faults fault) (noCall : part.call? = none)
    (noFault : part.fault? = none) : (error.addContext part).Faults fault :=
  ⟨faults.cause, List.forall_mem_cons.2 ⟨⟨noCall, noFault⟩, faults.around⟩⟩

/-! ## Frames of guest code -/

/-- A frame adds a backtrace at most. -/
theorem traced_eq (error : EngineError) (capture : Bool) :
    error.traced capture = error ∨
      error.traced capture = error.addContext (.backtrace backtraceHead) := by
  unfold traced
  split
  · exact .inr rfl
  · exact .inl rfl

/-- Only the first frame can add anything. -/
theorem traced_traced (error : EngineError) (capture : Bool) :
    (error.traced capture).traced capture = error.traced capture := by
  rcases error.traced_eq capture with same | added
  · rw [same, same]
  · rw [added, traced, if_neg]
    simp [backtrace?, parts, addContext, ErrorPart.backtrace?]

/-- What a backtrace leaves true of an error, a frame does. -/
private theorem traced_of_addContext {motive : EngineError → Prop} (holds : motive error)
    (added : motive (error.addContext (.backtrace backtraceHead))) (capture : Bool) :
    motive (error.traced capture) := by
  rcases error.traced_eq capture with same | isAdded
  · rwa [same]
  · rwa [isAdded]

theorem Wraps.traced (wraps : error.Wraps origin) (capture : Bool) :
    (error.traced capture).Wraps origin :=
  traced_of_addContext (motive := (Wraps · origin)) wraps (wraps.addContext rfl) capture

theorem Faults.traced (faults : error.Faults fault) (capture : Bool) :
    (error.traced capture).Faults fault :=
  traced_of_addContext (motive := (Faults · fault)) faults (faults.addContext rfl rfl) capture

/-! ## What a search finds -/

/-- A search that finds nothing in what was added looks at what the error was made from. -/
private theorem findSome?_parts {α : Type} {find : ErrorPart → Option α}
    (around : ∀ part ∈ error.contexts, find part = none) :
    error.parts.findSome? find = find error.cause := by
  rw [parts, List.findSome?_append, List.findSome?_eq_none_iff.2 around, Option.none_or,
    List.findSome?_singleton]

theorem Wraps.call?_eq (wraps : error.Wraps origin) : error.call? = some origin := by
  rw [call?, findSome?_parts wraps.around, wraps.cause]
  rfl

theorem Faults.call?_eq (faults : error.Faults fault) : error.call? = none := by
  rw [call?, findSome?_parts fun part member => (faults.around part member).1, faults.cause]
  rfl

theorem Faults.fault?_eq (faults : error.Faults fault) : error.fault? = some fault := by
  rw [fault?, findSome?_parts fun part member => (faults.around part member).2, faults.cause]
  rfl

end EngineError

/-! ## The failure of a call -/

namespace CallError

variable {error : EngineError} {origin : CallError} {fault : GuestFault}

/-- The call error that an error of the engine was made from comes out of it unchanged,
whatever was added on the way. -/
theorem ofEngine_of_wraps (wraps : error.Wraps origin) : ofEngine error = origin := by
  rw [ofEngine, wraps.call?_eq]

example :
    let refused := (EngineError.box (.host (.failed "nope"))).addContext (.fault .unreachable)
    ofEngine (refused.addContext (.note "while running guest")) = .host (.failed "nope") :=
  rfl

/-- The fault that an error of the engine was made from is reported as its trap. -/
theorem ofEngine_of_faults (faults : error.Faults fault) :
    ofEngine error = .trap (fault.trap error.hasBacktrace) := by
  rw [ofEngine, faults.call?_eq, faults.fault?_eq]

/-- A fault has a backtrace exactly if backtraces are switched on, once it went through a
frame. -/
theorem ofEngine_traced (fault : GuestFault) (capture : Bool) :
    ofEngine ((EngineError.ofPart (.fault fault)).traced capture) =
      .trap (fault.trap capture) := by
  rw [ofEngine_of_faults ((EngineError.faults_ofPart fault).traced capture)]
  cases capture <;> rfl

end CallError

/-! ## The failure of a link -/

namespace LinkError

variable {error : EngineError} {origin : CallError} {fault : GuestFault}

theorem ofEngine_of_wraps (wraps : error.Wraps origin) : ofEngine error = .trapped origin := by
  rw [ofEngine, wraps.call?_eq, CallError.ofEngine_of_wraps wraps]
  rfl

theorem ofEngine_of_faults (faults : error.Faults fault) :
    ofEngine error = .trapped (.trap (fault.trap error.hasBacktrace)) := by
  rw [ofEngine, faults.fault?_eq, CallError.ofEngine_of_faults faults, Option.isSome_some,
    Bool.or_true, if_pos rfl]

/-- A link is reported as trapped with what a call would report, unless a call would report
an error of the engine's own. -/
theorem ofEngine_eq (error : EngineError) :
    ofEngine error = .trapped (.ofEngine error) ∨
      ofEngine error = .instantiate error.text ∧
        CallError.ofEngine error = .internal error.text := by
  cases called : error.call? with
  | some origin => exact .inl (by rw [ofEngine, called]; rfl)
  | none =>
      cases faulted : error.fault? with
      | some fault => exact .inl (by rw [ofEngine, called, faulted]; rfl)
      | none =>
          refine .inr ⟨by rw [ofEngine, called, faulted]; rfl, ?_⟩
          rw [CallError.ofEngine, called, faulted]

theorem ofEngine_traced (fault : GuestFault) (capture : Bool) :
    ofEngine ((EngineError.ofPart (.fault fault)).traced capture) =
      .trapped (.trap (fault.trap capture)) := by
  have faults := (EngineError.faults_ofPart fault).traced capture
  rw [ofEngine_of_faults faults, ← CallError.ofEngine_of_faults faults,
    CallError.ofEngine_traced]

end LinkError

end WasmSandbox
