/-!
Contract: binary floating point on bit patterns, in exact arithmetic.

Owns:
- the two interchange formats and the reading of a bit pattern;
- one rounding function, to nearest with ties to even, through which every
  inexact result passes;
- arithmetic, comparison, rounding to integral values, and conversions.

Bit patterns are natural numbers below two to the width of the format.  A result
that is not a number is either the canonical pattern or made from the first
operand that is not a number.

Does not own: the instructions that use these operations, or decimal texts.
-/

namespace WasmSandbox.Wasm

/-- A binary interchange format. -/
structure FloatFormat where
  exponentBits : Nat
  fractionBits : Nat
deriving DecidableEq, Repr

/-- The format of 32 bits. -/
def binary32 : FloatFormat := ⟨8, 23⟩

/-- The format of 64 bits. -/
def binary64 : FloatFormat := ⟨11, 52⟩

/-- What a bit pattern stands for.  A finite number is a natural number scaled by
a power of two. -/
inductive FloatReading where
  | nan
  | infinite (negative : Bool)
  | finite (negative : Bool) (significand : Nat) (exponent : Int)
deriving DecidableEq, Repr

namespace FloatFormat

variable (format : FloatFormat)

/-- The exponent of the least significant bit of the smallest numbers. -/
def leastExponent : Int :=
  2 - ((1 <<< (format.exponentBits - 1) : Nat) : Int) - format.fractionBits

/-- The bit pattern of positive infinity. -/
def infinity : Nat :=
  ((1 <<< format.exponentBits) - 1) <<< format.fractionBits

/-- The bit pattern of the sign alone. -/
def signBit : Nat :=
  1 <<< (format.exponentBits + format.fractionBits)

/-- The bit that tells a quiet pattern from a signalling one. -/
def quietBit : Nat :=
  1 <<< (format.fractionBits - 1)

/-- The canonical pattern of a result that is not a number. -/
def canonicalNaN : Nat :=
  format.infinity + format.quietBit

/-- Whether the sign bit is set. -/
def isNegative (bits : Nat) : Bool :=
  bits ≥ format.signBit

/-- The pattern without its sign. -/
def magnitude (bits : Nat) : Nat :=
  bits % format.signBit

def withSign (negative : Bool) (magnitude : Nat) : Nat :=
  if negative then format.signBit + magnitude else magnitude

/-- What a bit pattern stands for. -/
def read (bits : Nat) : FloatReading :=
  let negative := format.isNegative bits
  let magnitude := format.magnitude bits
  if magnitude > format.infinity then .nan
  else if magnitude = format.infinity then .infinite negative
  else
    let field := magnitude >>> format.fractionBits
    let fraction := magnitude % (1 <<< format.fractionBits)
    if field = 0 then .finite negative fraction format.leastExponent
    else
      .finite negative ((1 <<< format.fractionBits) + fraction)
        (format.leastExponent + (field : Int) - 1)

/-- Whether a pattern stands for no number. -/
def isNaN (bits : Nat) : Bool :=
  format.magnitude bits > format.infinity

/-- The pattern nearest to `significand · 2 ^ exponent`, ties to even.  `sticky`
says that the exact magnitude is a little larger than the one given; a caller
that sets it gives at least two bits more than the format holds. -/
def round (negative : Bool) (significand : Nat) (exponent : Int) (sticky : Bool) : Nat :=
  if significand = 0 then format.withSign negative 0
  else
    let length := significand.log2 + 1
    let target := max (exponent + length - (format.fractionBits + 1)) format.leastExponent
    let kept :=
      if target ≤ exponent then significand <<< (exponent - target).toNat
      else
        let dropped := (target - exponent).toNat
        let quotient := significand >>> dropped
        let remainder := significand % (1 <<< dropped)
        let half := 1 <<< (dropped - 1)
        let up := remainder > half || (remainder = half && (sticky || quotient % 2 = 1))
        if up then quotient + 1 else quotient
    let packed := ((target - format.leastExponent).toNat <<< format.fractionBits) + kept
    format.withSign negative (min packed format.infinity)

/-- The pattern nearest to `(numerator / denominator) · 2 ^ exponent`. -/
def roundRatio (negative : Bool) (numerator denominator : Nat) (exponent : Int) : Nat :=
  let wanted : Int :=
    (format.fractionBits : Int) + 4 + denominator.log2 - numerator.log2
  let shift := wanted.toNat
  let scaled := numerator <<< shift
  let quotient := scaled / denominator
  format.round negative quotient (exponent - shift) (scaled % denominator ≠ 0)

/-- The pattern of a result that is not a number.  Where patterns are not made
canonical it is the first operand that is not a number, made quiet, and a
negative pattern if there is none. -/
def nanResult (canonical : Bool) (operands : List Nat) : Nat :=
  if canonical then format.canonicalNaN
  else
    match operands.find? format.isNaN with
    | some bits =>
        if format.magnitude bits % (2 * format.quietBit) < format.quietBit then
          bits + format.quietBit
        else bits
    | none => format.withSign true format.canonicalNaN

/-! ## Arithmetic -/

/-- The sum of two finite numbers, in exact arithmetic and then rounded. -/
def addFinite (negA : Bool) (sigA : Nat) (expA : Int) (negB : Bool) (sigB : Nat) (expB : Int) :
    Nat :=
  let exponent := min expA expB
  let a : Int := (sigA <<< (expA - exponent).toNat : Nat)
  let b : Int := (sigB <<< (expB - exponent).toNat : Nat)
  let sum := (if negA then -a else a) + (if negB then -b else b)
  if sum = 0 then format.withSign (negA && negB) 0
  else format.round (sum < 0) sum.natAbs exponent false

def add (canonical : Bool) (x y : Nat) : Nat :=
  match format.read x, format.read y with
  | .finite negA sigA expA, .finite negB sigB expB =>
      format.addFinite negA sigA expA negB sigB expB
  | .infinite a, .infinite b =>
      if a = b then format.withSign a format.infinity else format.nanResult canonical [x, y]
  | .infinite a, .finite _ _ _ => format.withSign a format.infinity
  | .finite _ _ _, .infinite b => format.withSign b format.infinity
  | _, _ => format.nanResult canonical [x, y]

def neg (x : Nat) : Nat :=
  format.withSign (!format.isNegative x) (format.magnitude x)

def abs (x : Nat) : Nat :=
  format.magnitude x

def copySign (x y : Nat) : Nat :=
  format.withSign (format.isNegative y) (format.magnitude x)

def sub (canonical : Bool) (x y : Nat) : Nat :=
  if format.isNaN x || format.isNaN y then format.nanResult canonical [x, y]
  else format.add canonical x (format.neg y)

def mul (canonical : Bool) (x y : Nat) : Nat :=
  match format.read x, format.read y with
  | .finite negA sigA expA, .finite negB sigB expB =>
      format.round (negA != negB) (sigA * sigB) (expA + expB) false
  | .infinite a, .infinite b => format.withSign (a != b) format.infinity
  | .infinite a, .finite negB sigB _ =>
      if sigB = 0 then format.nanResult canonical [x, y]
      else format.withSign (a != negB) format.infinity
  | .finite negA sigA _, .infinite b =>
      if sigA = 0 then format.nanResult canonical [x, y]
      else format.withSign (negA != b) format.infinity
  | _, _ => format.nanResult canonical [x, y]

def div (canonical : Bool) (x y : Nat) : Nat :=
  match format.read x, format.read y with
  | .finite negA sigA expA, .finite negB sigB expB =>
      if sigB = 0 then
        if sigA = 0 then format.nanResult canonical [x, y]
        else format.withSign (negA != negB) format.infinity
      else format.roundRatio (negA != negB) sigA sigB (expA - expB)
  | .infinite a, .finite negB _ _ => format.withSign (a != negB) format.infinity
  | .finite negA _ _, .infinite b => format.withSign (negA != b) 0
  | _, _ => format.nanResult canonical [x, y]

/-- The greatest natural number whose square is at most `value`, found one bit at
a time from bit `bit` down. -/
def squareRootFrom (value : Nat) : (bit root : Nat) → Nat
  | 0, root => root
  | bit + 1, root =>
      let next := root + (1 <<< bit)
      squareRootFrom value bit (if next * next ≤ value then next else root)

def sqrt (canonical : Bool) (x : Nat) : Nat :=
  match format.read x with
  | .finite negative significand exponent =>
      if significand = 0 then x
      else if negative then format.nanResult canonical [x]
      else
        let wanted := 2 * (format.fractionBits + 4)
        let even := if (exponent - wanted) % 2 = 0 then wanted else wanted + 1
        let scaled := significand <<< even
        let root := squareRootFrom scaled (scaled.log2 / 2 + 1) 0
        format.round false root ((exponent - even) / 2) (root * root ≠ scaled)
  | .infinite false => x
  | _ => format.nanResult canonical [x]

/-! ## Order -/

/-- A pattern that stands for a number, as a position on the line of patterns:
both zeros at the origin, and neighbours one apart. -/
def rank (bits : Nat) : Int :=
  if format.isNegative bits then -(format.magnitude bits : Int) else format.magnitude bits

/-- Equality of numbers; what is not a number equals nothing. -/
def eq (x y : Nat) : Bool :=
  !format.isNaN x && !format.isNaN y && format.rank x = format.rank y

/-- The strict order of numbers. -/
def lt (x y : Nat) : Bool :=
  !format.isNaN x && !format.isNaN y && format.rank x < format.rank y

/-- The order of numbers. -/
def le (x y : Nat) : Bool :=
  !format.isNaN x && !format.isNaN y && format.rank x ≤ format.rank y

/-- The lesser of two numbers; the negative zero is the lesser zero. -/
def min (canonical : Bool) (x y : Nat) : Nat :=
  if format.isNaN x || format.isNaN y then format.nanResult canonical [x, y]
  else if format.rank x < format.rank y then x
  else if format.rank y < format.rank x then y
  else if format.isNegative x then x else y

/-- The greater of two numbers; the positive zero is the greater zero. -/
def max (canonical : Bool) (x y : Nat) : Nat :=
  if format.isNaN x || format.isNaN y then format.nanResult canonical [x, y]
  else if format.rank x < format.rank y then y
  else if format.rank y < format.rank x then x
  else if format.isNegative x then y else x

end FloatFormat

/-! ## Integral values -/

/-- The ways to round to an integral value. -/
inductive IntegralRounding where
  | up
  | down
  | towardZero
  | nearestEven
deriving DecidableEq, Repr

/-- The magnitude of `significand / 2 ^ places` rounded to an integer. -/
def IntegralRounding.apply (rounding : IntegralRounding) (negative : Bool)
    (significand places : Nat) : Nat :=
  let quotient := significand >>> places
  let remainder := significand % (1 <<< places)
  let away :=
    match rounding with
    | .up => !negative && remainder ≠ 0
    | .down => negative && remainder ≠ 0
    | .towardZero => false
    | .nearestEven =>
        2 * remainder > 1 <<< places || (2 * remainder = 1 <<< places && quotient % 2 = 1)
  if away then quotient + 1 else quotient

namespace FloatFormat

variable (format : FloatFormat)

/-- A pattern rounded to an integral value; its sign is kept, also at zero. -/
def toIntegral (rounding : IntegralRounding) (canonical : Bool) (x : Nat) : Nat :=
  match format.read x with
  | .nan => format.nanResult canonical [x]
  | .infinite _ => x
  | .finite negative significand exponent =>
      if exponent ≥ 0 then x
      else format.round negative (rounding.apply negative significand (-exponent).toNat) 0 false

def ofInt (value : Int) : Nat :=
  format.round (value < 0) value.natAbs 0 false

/-- The integer toward zero of a finite number; `none` for an infinity. -/
def truncate? (x : Nat) : Option Int :=
  match format.read x with
  | .finite negative significand exponent =>
      let magnitude : Int :=
        if exponent ≥ 0 then (significand <<< exponent.toNat : Nat)
        else (significand >>> (-exponent).toNat : Nat)
      some (if negative then -magnitude else magnitude)
  | _ => none

end FloatFormat

/-- A pattern of one format in another one.  Where patterns are not made canonical,
the payload of what is not a number is kept as far as it fits, and made quiet. -/
def FloatFormat.convert (source target : FloatFormat) (canonical : Bool) (x : Nat) : Nat :=
  match source.read x with
  | .finite negative significand exponent => target.round negative significand exponent false
  | .infinite negative => target.withSign negative target.infinity
  | .nan =>
      if canonical then target.canonicalNaN
      else
        let payload := source.magnitude x % (1 <<< source.fractionBits)
        let moved := (payload <<< target.fractionBits) >>> source.fractionBits
        let quiet := if moved < target.quietBit then moved + target.quietBit else moved
        target.withSign (source.isNegative x) (target.infinity + quiet)

end WasmSandbox.Wasm
