import WasmSandbox.Wasm.Float
import WasmSandbox.Wasm.Text.Tree

/-!
Contract: numbers in the text form of modules.

Owns:
- digits in base ten and sixteen, grouped by single underscores;
- integers with and without a sign, within the range of their width;
- floats: decimal and hexadecimal, infinities, and patterns that are no numbers.

Does not own: where numbers may stand.
-/

namespace WasmSandbox.Wasm.Text

/-- The value of a digit in a base up to sixteen. -/
def digitValue? (base : Nat) (c : Char) : Option Nat := do
  let value ← Json.hexValue? c
  if value < base then some value else none

/-- Digits and their count at the front of a text, and the rest.  A single
underscore may stand between two digits, and nowhere else.  `previous` says
whether a digit stands in front. -/
def takeNumber (base : Nat) (previous : Bool) (value count : Nat) :
    List Char → Nat × Nat × List Char
  | '_' :: c :: rest =>
      match digitValue? base c with
      | some digit =>
          if previous then takeNumber base true (value * base + digit) (count + 1) rest
          else (value, count, '_' :: c :: rest)
      | none => (value, count, '_' :: c :: rest)
  | c :: rest =>
      match digitValue? base c with
      | some digit => takeNumber base true (value * base + digit) (count + 1) rest
      | none => (value, count, c :: rest)
  | [] => (value, count, [])

/-- The base of a number, and its digits. -/
def takeBase : List Char → Nat × List Char
  | '0' :: 'x' :: rest => (16, rest)
  | rest => (10, rest)

/-- A natural number and nothing else. -/
def natural? (text : List Char) : Option Nat :=
  let (base, digits) := takeBase text
  match takeNumber base false 0 0 digits with
  | (value, count, []) => if count > 0 then some value else none
  | _ => none

/-- The sign in front of a number: whether there is one, and whether it is minus. -/
def takeSign : List Char → Bool × List Char
  | '-' :: rest => (true, rest)
  | '+' :: rest => (false, rest)
  | rest => (false, rest)

/-- An integer of `width` bits: from the least signed to the greatest unsigned one. -/
def integer? (width : Nat) (text : List Char) : Option (BitVec width) := do
  let (negative, digits) := takeSign text
  let value ← natural? digits
  if negative then
    if value ≤ 1 <<< (width - 1) then some (BitVec.ofInt width (-value)) else none
  else if value < 1 <<< width then some (BitVec.ofNat width value) else none

/-- An index or a size: 32 bits without a sign. -/
def word? (tree : Tree) : Option Nat :=
  match tree with
  | .word text => do
      let value ← natural? text.toList
      if value < UInt32.size then some value else none
  | _ => none

/-- An exponent with the given mark, if there is one; the text must end there. -/
def exponent? (mark : Char) : List Char → Option Int
  | [] => some 0
  | c :: rest =>
      if c = mark || c = mark.toUpper then
        let (negative, digits) := takeSign rest
        match takeNumber 10 false 0 0 digits with
        | (value, count, []) =>
            if count > 0 then some (if negative then -(value : Int) else value) else none
        | _ => none
      else none

/-- Exponents beyond this size only decide between zero and infinity. -/
def exponentBound : Int := 20000

/-- The pattern of a float that is written as a number.  It must not round to an
infinity. -/
def finiteFloat? (format : FloatFormat) (negative : Bool) (text : List Char) : Option Nat := do
  let (base, digits) := takeBase text
  let (whole, count, rest) := takeNumber base false 0 0 digits
  if count = 0 then none
  let (significand, places, rest) :=
    match rest with
    | '.' :: rest =>
        let (significand, places, rest) := takeNumber base false whole 0 rest
        (significand, places, rest)
    | rest => (whole, 0, rest)
  let written ← exponent? (if base = 16 then 'p' else 'e') rest
  let exponent := max (-exponentBound) (min exponentBound written)
  let bits :=
    if base = 16 then format.roundRatio negative significand 1 (exponent - 4 * places)
    else
      let scale := exponent - places
      if scale ≥ 0 then format.roundRatio negative (significand * Nat.pow 10 scale.toNat) 1 0
      else format.roundRatio negative significand (Nat.pow 10 (-scale).toNat) 0
  if format.magnitude bits = format.infinity then none else some bits

/-- The pattern of a float. -/
def float? (format : FloatFormat) (text : List Char) : Option Nat :=
  let (negative, rest) := takeSign text
  match rest with
  | ['i', 'n', 'f'] => some (format.withSign negative format.infinity)
  | ['n', 'a', 'n'] => some (format.withSign negative format.canonicalNaN)
  | 'n' :: 'a' :: 'n' :: ':' :: '0' :: 'x' :: digits =>
      match takeNumber 16 false 0 0 digits with
      | (payload, count, []) =>
          if count > 0 && payload > 0 && payload < 1 <<< format.fractionBits then
            some (format.withSign negative (format.infinity + payload))
          else none
      | _ => none
  | rest => finiteFloat? format negative rest

end WasmSandbox.Wasm.Text
