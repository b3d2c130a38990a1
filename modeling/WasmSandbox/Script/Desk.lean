import WasmSandbox.Context.Closure
import WasmSandbox.Script.Answer
import WasmSandbox.Script.Step

/-!
Contract: what a script keeps while it runs.

Owns:
- the board: what names stand for, and the labels of functions;
- the desk, which is the host data of every context of a script;
- the ways in which a step fails without the sandbox.

Labels are given out in the order in which functions are first written, and a
function keeps its label.

Does not own: the steps.
-/

namespace WasmSandbox.Script

open WasmSandbox

/-- What a name can stand for within contexts. -/
inductive Thing where
  | item (item : Item)
  | inst (inst : InstanceHandle)
deriving DecidableEq, Repr

/-- Why a step fails. -/
inductive Trouble where
  /-- A name does not stand for anything of the sort that is needed. -/
  | unbound
  /-- The step makes no sense. -/
  | badStep
  /-- The sandbox failed. -/
  | failed (error : SandboxError)

namespace Trouble

def answer : Trouble → Json
  | unbound => Answer.named "unbound"
  | badStep => Answer.named "bad_step"
  | failed (.compile error) => Answer.failure (.compile (Answer.withoutDiagnostic error))
  | failed error => Answer.failure error

/-- The refusal of a closure that passes on a failure. -/
def refusal : Trouble → HostError
  | unbound => .failed "unbound"
  | badStep => .failed "bad step"
  | failed (.call error) => .ofCall error
  | failed (.link error) => .reentrant (.link error)
  | failed (.memory error) => .reentrant (.memory error)
  | failed error => .reentrant (.sandbox error)

end Trouble

/-! ## Names and labels -/

/-- What names stand for, and the functions that have a label, in order. -/
structure Board where
  things : List (String × Thing) := []
  artifacts : List (String × Artifact) := []
  labels : List FuncHandle := []

/-- What is bound, or the failure for a name that is not. -/
def bound {α : Type} (found : Option α) : Except Trouble α :=
  match found with
  | some value => .ok value
  | none => .error .unbound

namespace Board

variable (board : Board)

/-- The board with a name bound anew, if there is one. -/
def bind (name : Option String) (thing : Thing) : Board :=
  match name with
  | some name => { board with things := (name, thing) :: board.things }
  | none => board

/-- The board with a name bound to a function, if there are a name and a function. -/
def bindFunc (name : Option String) (func : Option FuncHandle) : Board :=
  match func with
  | some func => board.bind name (.item (.func func))
  | none => board

def item (name : String) : Except Trouble Item :=
  match board.things.lookup name with
  | some (.item item) => .ok item
  | _ => .error .unbound

def func (name : String) : Except Trouble FuncHandle := do
  bound (← board.item name).func?

def memory (name : String) : Except Trouble MemoryHandle := do
  bound (← board.item name).memory?

def table (name : String) : Except Trouble TableHandle := do
  bound (← board.item name).table?

def global (name : String) : Except Trouble GlobalHandle := do
  bound (← board.item name).global?

def inst (name : String) : Except Trouble InstanceHandle :=
  match board.things.lookup name with
  | some (.inst inst) => .ok inst
  | _ => .error .unbound

def artifact (name : String) : Except Trouble Artifact :=
  bound (board.artifacts.lookup name)

/-- The board in which functions have labels, given out in order. -/
def introduce (funcs : List FuncHandle) : Board :=
  let add (labels : List FuncHandle) (func : FuncHandle) : List FuncHandle :=
    if labels.contains func then labels else labels ++ [func]
  { board with labels := funcs.foldl add board.labels }

def label (func : FuncHandle) : Json :=
  .string ("f" ++ toString (board.labels.idxOf func))

end Board

/-- The functions that values refer to. -/
def references (values : List Val) : List FuncHandle :=
  values.filterMap fun
    | .funcRef target => target
    | _ => none

def Board.values (board : Board) (values : List Val) : Json :=
  .list (Answer.value board.label) values

/-- Items with their functions labelled: the board after that, and their form. -/
def Board.itemList (board : Board) (items : List Item) : Board × List Json :=
  let board := board.introduce (items.filterMap Item.func?)
  (board, items.map (Answer.item board.label))

/-! ## Host data -/

/-- The host data of a context: a counter, and a log of documents.  The board is the
one of the whole script while the context is in use. -/
structure Desk where
  counter : BitVec 64
  log : Array Json := #[]
  board : Board := {}
  /-- What became of the last step of the embedder. -/
  outcome : Option (Except Trouble Json) := none

namespace Desk

def members (desk : Desk) : List (String × Json) :=
  [("counter", .int desk.counter.toInt), ("log", .array desk.log.toList)]

def push (desk : Desk) (document : Json) : Desk :=
  { desk with log := desk.log.push document }

def counterValue (desk : Desk) (whole : Bool) : Val :=
  if whole then .i64 desk.counter else .i32 (desk.counter.setWidth 32)

end Desk

end WasmSandbox.Script
