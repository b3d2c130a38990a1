import WasmSandbox.Wasm.Type

/-!
Contract: the instructions of the guest language.

Owns:
- numeric operations, sorted by the shape of their operands, with their types;
- memory accesses, and all other instructions;
- the table of numeric operations and of memory accesses by binary code and by
  name.

Blocks, calls and branches carry what they need: a block its own type, an
indirect call the type it expects, a branch the number of blocks it leaves.

Does not own: what an instruction does (`WasmSandbox.Wasm.Numeric`,
`WasmSandbox.Wasm.Activation`), or which sequences are well typed.
-/

namespace WasmSandbox.Wasm

/-- The two widths of integers and floats. -/
inductive Size where
  | s32
  | s64
deriving DecidableEq, Repr

def Size.bits : Size → Nat
  | s32 => 32
  | s64 => 64

def Size.int : Size → ValType
  | s32 => .i32
  | s64 => .i64

def Size.float : Size → ValType
  | s32 => .f32
  | s64 => .f64

/-- Whether bits are read as a signed number. -/
inductive Sign where
  | signed
  | unsigned
deriving DecidableEq, Repr

/-- Operations on one integer. -/
inductive IntUnary where
  | clz
  | ctz
  | popcnt
  | extend (bits : Nat)
deriving DecidableEq, Repr

/-- Operations on two integers. -/
inductive IntBinary where
  | add
  | sub
  | mul
  | div (sign : Sign)
  | rem (sign : Sign)
  | and
  | or
  | xor
  | shl
  | shr (sign : Sign)
  | rotl
  | rotr
deriving DecidableEq, Repr

/-- Comparisons of two integers. -/
inductive IntCompare where
  | eq
  | ne
  | lt (sign : Sign)
  | gt (sign : Sign)
  | le (sign : Sign)
  | ge (sign : Sign)
deriving DecidableEq, Repr

/-- Operations on one float. -/
inductive FloatUnary where
  | abs
  | neg
  | ceil
  | floor
  | trunc
  | nearest
  | sqrt
deriving DecidableEq, Repr

/-- Operations on two floats. -/
inductive FloatBinary where
  | add
  | sub
  | mul
  | div
  | min
  | max
  | copySign
deriving DecidableEq, Repr

/-- Comparisons of two floats. -/
inductive FloatCompare where
  | eq
  | ne
  | lt
  | gt
  | le
  | ge
deriving DecidableEq, Repr

/-- Changes of type. -/
inductive Conversion where
  /-- The low half of a 64-bit integer. -/
  | wrap
  /-- A 32-bit integer as a 64-bit one. -/
  | extend (sign : Sign)
  /-- A float toward zero as an integer; out of range it faults or saturates. -/
  | truncate (int float : Size) (sign : Sign) (saturating : Bool)
  /-- The float nearest to an integer. -/
  | convert (float int : Size) (sign : Sign)
  | demote
  | promote
  /-- The bits of a float as an integer. -/
  | bitsOfFloat (size : Size)
  /-- The float with the bits of an integer. -/
  | floatOfBits (size : Size)
deriving DecidableEq, Repr

/-- The operations on numbers alone. -/
inductive NumericOp where
  | intTest (size : Size)
  | intUnary (size : Size) (op : IntUnary)
  | intBinary (size : Size) (op : IntBinary)
  | intCompare (size : Size) (op : IntCompare)
  | floatUnary (size : Size) (op : FloatUnary)
  | floatBinary (size : Size) (op : FloatBinary)
  | floatCompare (size : Size) (op : FloatCompare)
  | convert (conversion : Conversion)
deriving DecidableEq, Repr

def Conversion.types : Conversion → ValType × ValType
  | wrap => (.i64, .i32)
  | extend _ => (.i32, .i64)
  | truncate int float _ _ => (float.float, int.int)
  | convert float int _ => (int.int, float.float)
  | demote => (.f64, .f32)
  | promote => (.f32, .f64)
  | bitsOfFloat size => (size.float, size.int)
  | floatOfBits size => (size.int, size.float)

def NumericOp.type : NumericOp → FuncType
  | intTest size => ⟨[size.int], [.i32]⟩
  | intUnary size _ => ⟨[size.int], [size.int]⟩
  | intBinary size _ => ⟨[size.int, size.int], [size.int]⟩
  | intCompare size _ => ⟨[size.int, size.int], [.i32]⟩
  | floatUnary size _ => ⟨[size.float], [size.float]⟩
  | floatBinary size _ => ⟨[size.float, size.float], [size.float]⟩
  | floatCompare size _ => ⟨[size.float, size.float], [.i32]⟩
  | convert conversion => ⟨[conversion.types.1], [conversion.types.2]⟩

/-- What a memory access moves: the type of the value, the number of bytes, how a
narrow integer is widened, and whether the access is atomic. -/
structure AccessShape where
  type : ValType
  bytes : Nat
  sign : Sign
  atomic : Bool
deriving DecidableEq, Repr

/-- Which memory an access goes to, and how.  The alignment is a power of two. -/
structure MemArg where
  memory : Nat
  offset : Nat
  align : Nat
deriving DecidableEq, Repr

/-- Constants; a vector is kept as its bits. -/
inductive Literal where
  | i32 (bits : BitVec 32)
  | i64 (bits : BitVec 64)
  | f32 (bits : BitVec 32)
  | f64 (bits : BitVec 64)
  | v128 (bits : BitVec 128)
deriving DecidableEq, Repr

def Literal.type : Literal → ValType
  | i32 _ => .i32
  | i64 _ => .i64
  | f32 _ => .f32
  | f64 _ => .f64
  | v128 _ => .v128

/-- The instructions. -/
inductive Instr where
  | unreachable
  | nop
  | drop
  | select (type : Option ValType)
  | const (value : Literal)
  | numeric (op : NumericOp)
  | localGet (index : Nat)
  | localSet (index : Nat)
  | localTee (index : Nat)
  | globalGet (index : Nat)
  | globalSet (index : Nat)
  | tableGet (table : Nat)
  | tableSet (table : Nat)
  | tableSize (table : Nat)
  | tableGrow (table : Nat)
  | tableFill (table : Nat)
  | tableCopy (target source : Nat)
  | tableInit (table segment : Nat)
  | elemDrop (segment : Nat)
  | load (shape : AccessShape) (arg : MemArg)
  | store (shape : AccessShape) (arg : MemArg)
  | fence
  | memorySize (memory : Nat)
  | memoryGrow (memory : Nat)
  | memoryFill (memory : Nat)
  | memoryCopy (target source : Nat)
  | memoryInit (memory segment : Nat)
  | dataDrop (segment : Nat)
  | refNull (type : ValType)
  | refIsNull
  | refFunc (func : Nat)
  | block (type : FuncType) (body : List Instr)
  | loop (type : FuncType) (body : List Instr)
  | ifElse (type : FuncType) (yes no : List Instr)
  | br (label : Nat)
  | brIf (label : Nat)
  | brTable (labels : List Nat) (fallback : Nat)
  | return
  | call (func : Nat)
  | callIndirect (table : Nat) (type : FuncType)
  | returnCall (func : Nat)
  | returnCallIndirect (table : Nat) (type : FuncType)
deriving Repr

/-! ## Codes and names -/

/-- The numeric operations with their binary code and their name.  Codes from
0xfc00 on stand for the prefix 0xfc. -/
def numericTable : List (Nat × String × NumericOp) :=
  let ints (size : Size) (kind : String) (tests arith : Nat) :
      List (Nat × String × NumericOp) :=
    [(tests, kind ++ ".eqz", .intTest size)] ++
    ([("eq", IntCompare.eq), ("ne", .ne), ("lt_s", .lt .signed), ("lt_u", .lt .unsigned),
      ("gt_s", .gt .signed), ("gt_u", .gt .unsigned), ("le_s", .le .signed),
      ("le_u", .le .unsigned), ("ge_s", .ge .signed), ("ge_u", .ge .unsigned)].mapIdx
        fun index entry =>
          (tests + 1 + index, kind ++ "." ++ entry.1, .intCompare size entry.2)) ++
    ([("clz", IntUnary.clz), ("ctz", .ctz), ("popcnt", .popcnt)].mapIdx fun index entry =>
      (arith + index, kind ++ "." ++ entry.1, .intUnary size entry.2)) ++
    ([("add", IntBinary.add), ("sub", .sub), ("mul", .mul), ("div_s", .div .signed),
      ("div_u", .div .unsigned), ("rem_s", .rem .signed), ("rem_u", .rem .unsigned),
      ("and", .and), ("or", .or), ("xor", .xor), ("shl", .shl), ("shr_s", .shr .signed),
      ("shr_u", .shr .unsigned), ("rotl", .rotl), ("rotr", .rotr)].mapIdx fun index entry =>
        (arith + 3 + index, kind ++ "." ++ entry.1, .intBinary size entry.2))
  let floats (size : Size) (kind : String) (tests arith : Nat) :
      List (Nat × String × NumericOp) :=
    ([("eq", FloatCompare.eq), ("ne", .ne), ("lt", .lt), ("gt", .gt), ("le", .le),
      ("ge", .ge)].mapIdx fun index entry =>
        (tests + index, kind ++ "." ++ entry.1, .floatCompare size entry.2)) ++
    ([("abs", FloatUnary.abs), ("neg", .neg), ("ceil", .ceil), ("floor", .floor),
      ("trunc", .trunc), ("nearest", .nearest), ("sqrt", .sqrt)].mapIdx fun index entry =>
        (arith + index, kind ++ "." ++ entry.1, .floatUnary size entry.2)) ++
    ([("add", FloatBinary.add), ("sub", .sub), ("mul", .mul), ("div", .div), ("min", .min),
      ("max", .max), ("copysign", .copySign)].mapIdx fun index entry =>
        (arith + 7 + index, kind ++ "." ++ entry.1, .floatBinary size entry.2))
  let conversions : List (Nat × String × Conversion) :=
    [(0xA7, "i32.wrap_i64", .wrap),
     (0xA8, "i32.trunc_f32_s", .truncate .s32 .s32 .signed false),
     (0xA9, "i32.trunc_f32_u", .truncate .s32 .s32 .unsigned false),
     (0xAA, "i32.trunc_f64_s", .truncate .s32 .s64 .signed false),
     (0xAB, "i32.trunc_f64_u", .truncate .s32 .s64 .unsigned false),
     (0xAC, "i64.extend_i32_s", .extend .signed),
     (0xAD, "i64.extend_i32_u", .extend .unsigned),
     (0xAE, "i64.trunc_f32_s", .truncate .s64 .s32 .signed false),
     (0xAF, "i64.trunc_f32_u", .truncate .s64 .s32 .unsigned false),
     (0xB0, "i64.trunc_f64_s", .truncate .s64 .s64 .signed false),
     (0xB1, "i64.trunc_f64_u", .truncate .s64 .s64 .unsigned false),
     (0xB2, "f32.convert_i32_s", .convert .s32 .s32 .signed),
     (0xB3, "f32.convert_i32_u", .convert .s32 .s32 .unsigned),
     (0xB4, "f32.convert_i64_s", .convert .s32 .s64 .signed),
     (0xB5, "f32.convert_i64_u", .convert .s32 .s64 .unsigned),
     (0xB6, "f32.demote_f64", .demote),
     (0xB7, "f64.convert_i32_s", .convert .s64 .s32 .signed),
     (0xB8, "f64.convert_i32_u", .convert .s64 .s32 .unsigned),
     (0xB9, "f64.convert_i64_s", .convert .s64 .s64 .signed),
     (0xBA, "f64.convert_i64_u", .convert .s64 .s64 .unsigned),
     (0xBB, "f64.promote_f32", .promote),
     (0xBC, "i32.reinterpret_f32", .bitsOfFloat .s32),
     (0xBD, "i64.reinterpret_f64", .bitsOfFloat .s64),
     (0xBE, "f32.reinterpret_i32", .floatOfBits .s32),
     (0xBF, "f64.reinterpret_i64", .floatOfBits .s64),
     (0xFC00, "i32.trunc_sat_f32_s", .truncate .s32 .s32 .signed true),
     (0xFC01, "i32.trunc_sat_f32_u", .truncate .s32 .s32 .unsigned true),
     (0xFC02, "i32.trunc_sat_f64_s", .truncate .s32 .s64 .signed true),
     (0xFC03, "i32.trunc_sat_f64_u", .truncate .s32 .s64 .unsigned true),
     (0xFC04, "i64.trunc_sat_f32_s", .truncate .s64 .s32 .signed true),
     (0xFC05, "i64.trunc_sat_f32_u", .truncate .s64 .s32 .unsigned true),
     (0xFC06, "i64.trunc_sat_f64_s", .truncate .s64 .s64 .signed true),
     (0xFC07, "i64.trunc_sat_f64_u", .truncate .s64 .s64 .unsigned true)]
  ints .s32 "i32" 0x45 0x67 ++ ints .s64 "i64" 0x50 0x79 ++
    floats .s32 "f32" 0x5B 0x8B ++ floats .s64 "f64" 0x61 0x99 ++
    conversions.map (fun entry => (entry.1, entry.2.1, .convert entry.2.2)) ++
    [(0xC0, "i32.extend8_s", .intUnary .s32 (.extend 8)),
     (0xC1, "i32.extend16_s", .intUnary .s32 (.extend 16)),
     (0xC2, "i64.extend8_s", .intUnary .s64 (.extend 8)),
     (0xC3, "i64.extend16_s", .intUnary .s64 (.extend 16)),
     (0xC4, "i64.extend32_s", .intUnary .s64 (.extend 32))]

/-- The memory accesses with their binary code, their name, and whether they
store.  Codes from 0xfe00 on stand for the prefix 0xfe. -/
def accessTable : List (Nat × String × Bool × AccessShape) :=
  [(0x28, "i32.load", false, ⟨.i32, 4, .unsigned, false⟩),
   (0x29, "i64.load", false, ⟨.i64, 8, .unsigned, false⟩),
   (0x2A, "f32.load", false, ⟨.f32, 4, .unsigned, false⟩),
   (0x2B, "f64.load", false, ⟨.f64, 8, .unsigned, false⟩),
   (0x2C, "i32.load8_s", false, ⟨.i32, 1, .signed, false⟩),
   (0x2D, "i32.load8_u", false, ⟨.i32, 1, .unsigned, false⟩),
   (0x2E, "i32.load16_s", false, ⟨.i32, 2, .signed, false⟩),
   (0x2F, "i32.load16_u", false, ⟨.i32, 2, .unsigned, false⟩),
   (0x30, "i64.load8_s", false, ⟨.i64, 1, .signed, false⟩),
   (0x31, "i64.load8_u", false, ⟨.i64, 1, .unsigned, false⟩),
   (0x32, "i64.load16_s", false, ⟨.i64, 2, .signed, false⟩),
   (0x33, "i64.load16_u", false, ⟨.i64, 2, .unsigned, false⟩),
   (0x34, "i64.load32_s", false, ⟨.i64, 4, .signed, false⟩),
   (0x35, "i64.load32_u", false, ⟨.i64, 4, .unsigned, false⟩),
   (0x36, "i32.store", true, ⟨.i32, 4, .unsigned, false⟩),
   (0x37, "i64.store", true, ⟨.i64, 8, .unsigned, false⟩),
   (0x38, "f32.store", true, ⟨.f32, 4, .unsigned, false⟩),
   (0x39, "f64.store", true, ⟨.f64, 8, .unsigned, false⟩),
   (0x3A, "i32.store8", true, ⟨.i32, 1, .unsigned, false⟩),
   (0x3B, "i32.store16", true, ⟨.i32, 2, .unsigned, false⟩),
   (0x3C, "i64.store8", true, ⟨.i64, 1, .unsigned, false⟩),
   (0x3D, "i64.store16", true, ⟨.i64, 2, .unsigned, false⟩),
   (0x3E, "i64.store32", true, ⟨.i64, 4, .unsigned, false⟩),
   (0xFE10, "i32.atomic.load", false, ⟨.i32, 4, .unsigned, true⟩),
   (0xFE11, "i64.atomic.load", false, ⟨.i64, 8, .unsigned, true⟩),
   (0xFE12, "i32.atomic.load8_u", false, ⟨.i32, 1, .unsigned, true⟩),
   (0xFE13, "i32.atomic.load16_u", false, ⟨.i32, 2, .unsigned, true⟩),
   (0xFE14, "i64.atomic.load8_u", false, ⟨.i64, 1, .unsigned, true⟩),
   (0xFE15, "i64.atomic.load16_u", false, ⟨.i64, 2, .unsigned, true⟩),
   (0xFE16, "i64.atomic.load32_u", false, ⟨.i64, 4, .unsigned, true⟩),
   (0xFE17, "i32.atomic.store", true, ⟨.i32, 4, .unsigned, true⟩),
   (0xFE18, "i64.atomic.store", true, ⟨.i64, 8, .unsigned, true⟩),
   (0xFE19, "i32.atomic.store8", true, ⟨.i32, 1, .unsigned, true⟩),
   (0xFE1A, "i32.atomic.store16", true, ⟨.i32, 2, .unsigned, true⟩),
   (0xFE1B, "i64.atomic.store8", true, ⟨.i64, 1, .unsigned, true⟩),
   (0xFE1C, "i64.atomic.store16", true, ⟨.i64, 2, .unsigned, true⟩),
   (0xFE1D, "i64.atomic.store32", true, ⟨.i64, 4, .unsigned, true⟩)]

end WasmSandbox.Wasm
