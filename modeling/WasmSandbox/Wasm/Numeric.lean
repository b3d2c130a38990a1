import WasmSandbox.Failure.Trap
import WasmSandbox.Wasm.Float
import WasmSandbox.Wasm.Instruction

/-!
Contract: what the numeric operations compute.

Owns:
- the values of guest code;
- integer operations of any width, float operations of both formats, and
  conversions, as functions of their operands alone;
- the faults of division and of conversion to integers.

`none` stands for operands of another type than the operation takes, which valid
code never has.

Does not own: the stack that operands come from.
-/

namespace WasmSandbox.Wasm

/-- The identity of a function within the engine of one context: a host function
by its number, or a function of an instance by its index, imported functions
included. -/
inductive FuncKey where
  | host (number : Nat)
  | guest (owner index : Nat)
deriving DecidableEq, Repr

/-- A guest value.  References to items of the host's own are always null. -/
inductive Value where
  | i32 (bits : BitVec 32)
  | i64 (bits : BitVec 64)
  | f32 (bits : BitVec 32)
  | f64 (bits : BitVec 64)
  | v128 (bits : BitVec 128)
  | funcRef (target : Option FuncKey)
  | externRef
deriving DecidableEq, Repr

namespace Value

def type : Value → ValType
  | i32 _ => .i32
  | i64 _ => .i64
  | f32 _ => .f32
  | f64 _ => .f64
  | v128 _ => .v128
  | funcRef _ => .funcRef
  | externRef => .externRef

/-- A value with its type, as the engine shows it in diagnostics.  The engine shows a
function by its place in its own memory; here its key stands for that. -/
def shown : Value → String
  | i32 bits => "I32(" ++ toString bits.toInt ++ ")"
  | i64 bits => "I64(" ++ toString bits.toInt ++ ")"
  | f32 bits => "F32(" ++ toString bits.toNat ++ ")"
  | f64 bits => "F64(" ++ toString bits.toNat ++ ")"
  | v128 bits => "V128(" ++ toString bits.toNat ++ ")"
  | funcRef none => "FuncRef(None)"
  | funcRef (some (.host number)) => "FuncRef(Some(Func(" ++ toString number ++ ")))"
  | funcRef (some (.guest owner index)) =>
      "FuncRef(Some(Func(" ++ toString owner ++ ", " ++ toString index ++ ")))"
  | externRef => "ExternRef(None)"

/-- The zero of a type, and null for references. -/
def zero : ValType → Value
  | .i32 => i32 0
  | .i64 => i64 0
  | .f32 => f32 0
  | .f64 => f64 0
  | .v128 => v128 0
  | .funcRef => funcRef none
  | .externRef => externRef

def ofLiteral : Literal → Value
  | .i32 bits => i32 bits
  | .i64 bits => i64 bits
  | .f32 bits => f32 bits
  | .f64 bits => f64 bits
  | .v128 bits => v128 bits

def ofBool (condition : Bool) : Value := i32 (if condition then 1 else 0)

end Value

/-! ## Integers -/

def IntUnary.apply {w : Nat} : IntUnary → BitVec w → BitVec w
  | clz, a => a.clz
  | ctz, a => a.ctz
  | popcnt, a => a.cpop
  | extend bits, a => (a.setWidth bits).signExtend w

/-- An operation on two integers.  Shifts and rotations use the second operand
modulo the width. -/
def IntBinary.apply {w : Nat} : IntBinary → BitVec w → BitVec w → Except GuestFault (BitVec w)
  | add, a, b => .ok (a + b)
  | sub, a, b => .ok (a - b)
  | mul, a, b => .ok (a * b)
  | div .signed, a, b =>
      if b = 0 then .error .integerDivisionByZero
      else if a = BitVec.intMin w ∧ b = -1 then .error .integerOverflow
      else .ok (a.sdiv b)
  | div .unsigned, a, b =>
      if b = 0 then .error .integerDivisionByZero else .ok (a / b)
  | rem .signed, a, b =>
      if b = 0 then .error .integerDivisionByZero else .ok (a.srem b)
  | rem .unsigned, a, b =>
      if b = 0 then .error .integerDivisionByZero else .ok (a % b)
  | and, a, b => .ok (a &&& b)
  | or, a, b => .ok (a ||| b)
  | xor, a, b => .ok (a ^^^ b)
  | shl, a, b => .ok (a <<< (b.toNat % w))
  | shr .signed, a, b => .ok (a.sshiftRight (b.toNat % w))
  | shr .unsigned, a, b => .ok (a >>> (b.toNat % w))
  | rotl, a, b => .ok (a.rotateLeft (b.toNat % w))
  | rotr, a, b => .ok (a.rotateRight (b.toNat % w))

def IntCompare.apply {w : Nat} : IntCompare → BitVec w → BitVec w → Bool
  | eq, a, b => a = b
  | ne, a, b => a ≠ b
  | lt .signed, a, b => a.slt b
  | lt .unsigned, a, b => a.ult b
  | gt .signed, a, b => b.slt a
  | gt .unsigned, a, b => b.ult a
  | le .signed, a, b => a.sle b
  | le .unsigned, a, b => a.ule b
  | ge .signed, a, b => b.sle a
  | ge .unsigned, a, b => b.ule a

/-! ## Floats -/

def Size.format : Size → FloatFormat
  | s32 => binary32
  | s64 => binary64

/-- An operation on one float.  Operations on the sign alone keep all other bits. -/
def FloatUnary.apply (format : FloatFormat) (canonical : Bool) : FloatUnary → Nat → Nat
  | abs, x => format.abs x
  | neg, x => format.neg x
  | ceil, x => format.toIntegral .up canonical x
  | floor, x => format.toIntegral .down canonical x
  | trunc, x => format.toIntegral .towardZero canonical x
  | nearest, x => format.toIntegral .nearestEven canonical x
  | sqrt, x => format.sqrt canonical x

def FloatBinary.apply (format : FloatFormat) (canonical : Bool) :
    FloatBinary → Nat → Nat → Nat
  | add, x, y => format.add canonical x y
  | sub, x, y => format.sub canonical x y
  | mul, x, y => format.mul canonical x y
  | div, x, y => format.div canonical x y
  | min, x, y => format.min canonical x y
  | max, x, y => format.max canonical x y
  | copySign, x, y => format.copySign x y

def FloatCompare.apply (format : FloatFormat) : FloatCompare → Nat → Nat → Bool
  | eq, x, y => format.eq x y
  | ne, x, y => !format.eq x y
  | lt, x, y => format.lt x y
  | gt, x, y => format.lt y x
  | le, x, y => format.le x y
  | ge, x, y => format.le y x

/-- A float toward zero as an integer of `w` bits. -/
def truncateFloat (w : Nat) (format : FloatFormat) (sign : Sign) (saturating : Bool) (x : Nat) :
    Except GuestFault (BitVec w) :=
  let least : Int :=
    match sign with
    | .signed => -((1 <<< (w - 1) : Nat) : Int)
    | .unsigned => 0
  let greatest : Int :=
    match sign with
    | .signed => ((1 <<< (w - 1) : Nat) : Int) - 1
    | .unsigned => ((1 <<< w : Nat) : Int) - 1
  if format.isNaN x then
    if saturating then .ok 0 else .error .badConversionToInteger
  else
    match format.truncate? x with
    | some value =>
        if least ≤ value ∧ value ≤ greatest then .ok (BitVec.ofInt w value)
        else if saturating then .ok (BitVec.ofInt w (if value < 0 then least else greatest))
        else .error .integerOverflow
    | none =>
        if saturating then
          .ok (BitVec.ofInt w (if format.isNegative x then least else greatest))
        else .error .integerOverflow

/-- An integer as a number. -/
def Sign.read {w : Nat} (sign : Sign) (a : BitVec w) : Int :=
  match sign with
  | signed => a.toInt
  | unsigned => a.toNat

/-! ## Values -/

def Size.intValue : (size : Size) → Nat → Value
  | s32, bits => .i32 (BitVec.ofNat 32 bits)
  | s64, bits => .i64 (BitVec.ofNat 64 bits)

def Size.floatValue : (size : Size) → Nat → Value
  | s32, bits => .f32 (BitVec.ofNat 32 bits)
  | s64, bits => .f64 (BitVec.ofNat 64 bits)

def Size.floatBits? : Size → Value → Option Nat
  | s32, .f32 bits => some bits.toNat
  | s64, .f64 bits => some bits.toNat
  | _, _ => none

def Conversion.apply (canonical : Bool) : Conversion → Value → Option (Except GuestFault Value)
  | wrap, .i64 a => some (.ok (.i32 (a.setWidth 32)))
  | extend .signed, .i32 a => some (.ok (.i64 (a.signExtend 64)))
  | extend .unsigned, .i32 a => some (.ok (.i64 (a.setWidth 64)))
  | truncate .s32 float sign saturating, value => do
      return (truncateFloat 32 float.format sign saturating (← float.floatBits? value)).map .i32
  | truncate .s64 float sign saturating, value => do
      return (truncateFloat 64 float.format sign saturating (← float.floatBits? value)).map .i64
  | convert float .s32 sign, .i32 a =>
      some (.ok (float.floatValue (float.format.ofInt (sign.read a))))
  | convert float .s64 sign, .i64 a =>
      some (.ok (float.floatValue (float.format.ofInt (sign.read a))))
  | demote, .f64 a =>
      some (.ok (.f32 (BitVec.ofNat 32 (binary64.convert binary32 canonical a.toNat))))
  | promote, .f32 a =>
      some (.ok (.f64 (BitVec.ofNat 64 (binary32.convert binary64 canonical a.toNat))))
  | bitsOfFloat .s32, .f32 a => some (.ok (.i32 a))
  | bitsOfFloat .s64, .f64 a => some (.ok (.i64 a))
  | floatOfBits .s32, .i32 a => some (.ok (.f32 a))
  | floatOfBits .s64, .i64 a => some (.ok (.f64 a))
  | _, _ => none

/-- A numeric operation on its operands, in order. -/
def NumericOp.apply (canonical : Bool) : NumericOp → List Value → Option (Except GuestFault Value)
  | intTest .s32, [.i32 a] => some (.ok (.ofBool (a = 0)))
  | intTest .s64, [.i64 a] => some (.ok (.ofBool (a = 0)))
  | intUnary .s32 op, [.i32 a] => some (.ok (.i32 (op.apply a)))
  | intUnary .s64 op, [.i64 a] => some (.ok (.i64 (op.apply a)))
  | intBinary .s32 op, [.i32 a, .i32 b] => some ((op.apply a b).map .i32)
  | intBinary .s64 op, [.i64 a, .i64 b] => some ((op.apply a b).map .i64)
  | intCompare .s32 op, [.i32 a, .i32 b] => some (.ok (.ofBool (op.apply a b)))
  | intCompare .s64 op, [.i64 a, .i64 b] => some (.ok (.ofBool (op.apply a b)))
  | floatUnary size op, [x] => do
      return .ok (size.floatValue (op.apply size.format canonical (← size.floatBits? x)))
  | floatBinary size op, [x, y] => do
      return .ok (size.floatValue
        (op.apply size.format canonical (← size.floatBits? x) (← size.floatBits? y)))
  | floatCompare size op, [x, y] => do
      return .ok (.ofBool (op.apply size.format (← size.floatBits? x) (← size.floatBits? y)))
  | convert conversion, [x] => conversion.apply canonical x
  | _, _ => none

end WasmSandbox.Wasm
