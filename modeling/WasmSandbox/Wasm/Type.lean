/-!
Contract: the types of the guest language.

Owns:
- value types, function types, and the types of memories, tables and globals;
- their texts, as the engine writes them.

Does not own: the narrower types of the boundary.
-/

namespace WasmSandbox.Wasm

/-- The types of guest values. -/
inductive ValType where
  | i32
  | i64
  | f32
  | f64
  | v128
  | funcRef
  | externRef
deriving DecidableEq, Repr, Inhabited

namespace ValType

def isReference : ValType → Bool
  | funcRef => true
  | externRef => true
  | _ => false

/-- The text of a value type; references are written in full. -/
def text : ValType → String
  | i32 => "i32"
  | i64 => "i64"
  | f32 => "f32"
  | f64 => "f64"
  | v128 => "v128"
  | funcRef => "(ref null func)"
  | externRef => "(ref null extern)"

end ValType

/-- The type of a function: what it takes and what it gives. -/
structure FuncType where
  params : List ValType
  results : List ValType
deriving DecidableEq, Repr, Inhabited

/-- A least size and an optional greatest size. -/
structure SizeRange where
  least : Nat
  greatest : Option Nat
deriving DecidableEq, Repr

/-- The type of a memory, in pages; threads may share one. -/
structure MemoryShape where
  size : SizeRange
  shared : Bool
deriving DecidableEq, Repr

/-- The type of a table. -/
structure TableShape where
  element : ValType
  size : SizeRange
deriving DecidableEq, Repr

/-- The type of a global. -/
structure GlobalShape where
  content : ValType
  mutable : Bool
deriving DecidableEq, Repr

def maxPages : Nat := 65536

end WasmSandbox.Wasm
