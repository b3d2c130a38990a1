import WasmSandbox.Failure.Taxonomy

/-!
Contract: the errors that the engine hands out, and what becomes of them.

Owns:
- errors of the engine: the object each was made from, and the objects that were added
  around it on its way;
- the search of an error for an object of a type, and the text of an error;
- the way in: the call error of a host function becomes an object in an error of the
  engine, and a fault becomes another one;
- the ways out: the failure of a call, and the failure of an instantiation, that an error
  of the engine is reported as.

A search looks at what was added last first, and at the object the error was made from
last.  An error that holds a call error is reported as that call error, also if it holds a
fault.

Does not own: when errors are raised, and the frames that a backtrace shows.
-/

namespace WasmSandbox

/-- An object in an error of the engine. -/
inductive ErrorPart where
  /-- The call error with which a host function failed. -/
  | call (error : CallError)
  /-- A fault of guest code. -/
  | fault (fault : GuestFault)
  /-- The frames of guest code that an error went through. -/
  | backtrace (text : String)
  | note (text : String)

namespace ErrorPart

def call? : ErrorPart → Option CallError
  | call error => some error
  | _ => none

def fault? : ErrorPart → Option GuestFault
  | fault cause => some cause
  | _ => none

def backtrace? : ErrorPart → Option String
  | backtrace text => some text
  | _ => none

/-- What an object shows, followed by what its causes show. -/
def texts : ErrorPart → List String
  | call error => error.message :: error.chain.map Failure.message
  | fault cause => [cause.text]
  | backtrace text => [text]
  | note text => [text]

end ErrorPart

/-- An error of the engine: what was added to it, the last first, and what it was made
from. -/
structure EngineError where
  contexts : List ErrorPart
  cause : ErrorPart

namespace EngineError

/-- An error that was made from an object, with nothing around it. -/
def ofPart (cause : ErrorPart) : EngineError := ⟨[], cause⟩

/-- The call error of a host function, on its way into the engine. -/
def box (error : CallError) : EngineError := ofPart (.call error)

def addContext (error : EngineError) (part : ErrorPart) : EngineError :=
  { error with contexts := part :: error.contexts }

/-- The objects of an error, in the order of a search. -/
def parts (error : EngineError) : List ErrorPart := error.contexts ++ [error.cause]

def call? (error : EngineError) : Option CallError := error.parts.findSome? ErrorPart.call?

def fault? (error : EngineError) : Option GuestFault := error.parts.findSome? ErrorPart.fault?

def backtrace? (error : EngineError) : Option String :=
  error.parts.findSome? ErrorPart.backtrace?

/-- Whether an error has a backtrace that shows something. -/
def hasBacktrace (error : EngineError) : Bool := error.backtrace?.any fun text => !text.isEmpty

/-- The text of an error with all that was added to it. -/
def text (error : EngineError) : String :=
  ": ".intercalate (error.parts.flatMap ErrorPart.texts)

/-- How the text of every backtrace begins. -/
def backtraceHead : String := "error while executing at wasm backtrace:"

/-- An error goes through a frame of guest code: with backtraces switched on, it gets one
unless it has one already. -/
def traced (error : EngineError) (capture : Bool) : EngineError :=
  if capture && error.backtrace?.isNone then error.addContext (.backtrace backtraceHead)
  else error

end EngineError

/-- The failure of a call that an error of the engine is reported as: the call error in it
as it is, else the fault in it as a trap, else its text. -/
def CallError.ofEngine (error : EngineError) : CallError :=
  match error.call? with
  | some origin => origin
  | none =>
      match error.fault? with
      | some fault => .trap (fault.trap error.hasBacktrace)
      | none => .internal error.text

/-- The failure of an instantiation that an error of the engine is reported as: the
failure of a call if the error holds a call error or a fault, else its text. -/
def LinkError.ofEngine (error : EngineError) : LinkError :=
  if error.call?.isSome || error.fault?.isSome then .trapped (.ofEngine error)
  else .instantiate error.text

end WasmSandbox
