import WasmSandbox.Boundary.Signature
import WasmSandbox.Wasm.Numeric

/-!
Contract: the functions of a context that have a handle.

Owns:
- one entry for each function, with its signature and the engine's keys;
- the position of a function by its key.

Entries are only ever appended, so a position keeps its meaning.  A host function
is in the table from the moment it is made; guest functions are entered when they
are first seen.

Does not own: what a key stands for in the engine.
-/

namespace WasmSandbox

open Wasm

/-- A function that has a handle. -/
structure FuncEntry where
  signature : Signature
  /-- The key by which the function is known: the one it had when it was entered.  A function
  of an instance has one key for good.  A host function has one as long as its references
  last; one whose references do not last comes out of the engine under another key each time,
  and what comes out is then known as another function. -/
  key : FuncKey
  /-- The key of the reference that the function came from: that of another function
  if the reference did not last. -/
  origin : FuncKey
  /-- Whether the host made the function. -/
  isHost : Bool
deriving DecidableEq, Repr

/-- The entries by position, and the positions by key. -/
structure FuncTable where
  entries : Array FuncEntry := #[]
  positions : List (FuncKey × Nat) := []

namespace FuncTable

variable (table : FuncTable)

def count : Nat := table.entries.size

/-- The position of a function that has one. -/
def find? (key : FuncKey) : Option Nat := table.positions.lookup key

def entry? (index : Nat) : Option FuncEntry := table.entries[index]?

/-- The table with one more entry, at the position after the last one. -/
def push (entry : FuncEntry) : FuncTable where
  entries := table.entries.push entry
  positions := (entry.key, table.entries.size) :: table.positions

end FuncTable

end WasmSandbox
