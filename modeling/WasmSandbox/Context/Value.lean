import WasmSandbox.Boundary.Kind
import WasmSandbox.Wasm.Float

/-!
Contract: the values that cross the boundary.

Owns:
- the identity of contexts and the handles of functions;
- values of the five kinds, with floats as bit patterns;
- the zero of each kind, access to the content, numeric equality, and ownership.

Does not own: the functions behind handles, or the engine's own values.
-/

namespace WasmSandbox

/-- The identity of a context.  No two contexts share one. -/
structure ContextId where
  number : Nat
deriving DecidableEq, Repr

/-- A function of a context, as its position in the function table. -/
structure FuncHandle where
  context : ContextId
  index : Nat
deriving DecidableEq, Repr

/-- A value that crosses the boundary.  Integers and floats are bit patterns; a
reference is null or the handle of a function. -/
inductive Val where
  | i32 (bits : BitVec 32)
  | i64 (bits : BitVec 64)
  | f32 (bits : BitVec 32)
  | f64 (bits : BitVec 64)
  | funcRef (target : Option FuncHandle)
deriving DecidableEq, Repr

namespace Val

def kind : Val → ValueKind
  | i32 _ => .i32
  | i64 _ => .i64
  | f32 _ => .f32
  | f64 _ => .f64
  | funcRef _ => .funcRef

/-- The zero of a kind, and null for references. -/
def default : ValueKind → Val
  | .i32 => i32 0
  | .i64 => i64 0
  | .f32 => f32 0
  | .f64 => f64 0
  | .funcRef => funcRef none

/-- The content of a 32-bit integer. -/
def i32? : Val → Option (BitVec 32)
  | i32 bits => some bits
  | _ => none

/-- The content of a 64-bit integer. -/
def i64? : Val → Option (BitVec 64)
  | i64 bits => some bits
  | _ => none

/-- The pattern of a 32-bit float. -/
def f32? : Val → Option (BitVec 32)
  | f32 bits => some bits
  | _ => none

/-- The pattern of a 64-bit float. -/
def f64? : Val → Option (BitVec 64)
  | f64 bits => some bits
  | _ => none

/-- The target of a reference; the outer option tells references from numbers. -/
def funcRef? : Val → Option (Option FuncHandle)
  | funcRef target => some target
  | _ => none

/-- Equality of values: floats are compared as numbers, so the two zeros are
equal and what is not a number equals nothing, not even itself. -/
def sameNumber : Val → Val → Bool
  | i32 a, i32 b => a = b
  | i64 a, i64 b => a = b
  | f32 a, f32 b => Wasm.binary32.eq a.toNat b.toNat
  | f64 a, f64 b => Wasm.binary64.eq a.toNat b.toNat
  | funcRef a, funcRef b => a = b
  | _, _ => false

/-- Everything belongs to every context but a reference to a function of another
one. -/
def belongsTo (context : ContextId) : Val → Bool
  | funcRef (some func) => func.context = context
  | _ => true

end Val

end WasmSandbox
