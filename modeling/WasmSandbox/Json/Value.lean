/-!
Contract: JSON documents as trees.

Owns:
- the tree of a document, with numerals and member order kept as written;
- the value of a numeral where it is an integer, and whether it is within the
  range of binary64;
- the nesting depth of a document.

Does not own: the text form (`WasmSandbox.Json.Reader`, `WasmSandbox.Json.Printer`).
-/

namespace WasmSandbox

/-- A numeral as it is written.  JSON allows no leading zeros, so the integer
part is a number; the digits of the fraction are kept, and are empty exactly
when there is no point. -/
structure Numeral where
  negative : Bool
  whole : Nat
  fraction : List Char
  exponent : Option Int
deriving DecidableEq, Repr

/-- A JSON document.  A string literal may spell half of a surrogate pair; such
a literal stands for no text and is kept as `none`. -/
inductive Json where
  | null
  | bool (value : Bool)
  | number (numeral : Numeral)
  | text (content : Option String)
  | array (items : List Json)
  | object (members : List (Option String × Json))
deriving Repr

namespace Numeral

def ofNat (value : Nat) : Numeral := ⟨false, value, [], none⟩

def ofInt (value : Int) : Numeral := ⟨value < 0, value.natAbs, [], none⟩

/-- The integer a numeral writes, if it has neither fraction nor exponent. -/
def toInt? (numeral : Numeral) : Option Int :=
  if numeral.fraction.isEmpty && numeral.exponent.isNone then
    some (if numeral.negative then -(numeral.whole : Int) else numeral.whole)
  else none

/-- The natural number a numeral writes without a sign, fraction or exponent. -/
def toNat? (numeral : Numeral) : Option Nat :=
  if !numeral.negative && numeral.fraction.isEmpty && numeral.exponent.isNone then
    some numeral.whole
  else none

/-- All digits of a numeral as one natural number. -/
def digits (numeral : Numeral) : Nat :=
  Nat.ofDigitChars 10 numeral.fraction numeral.whole

/-- The power of ten by which `digits` is scaled. -/
def scale (numeral : Numeral) : Int :=
  numeral.exponent.getD 0 - numeral.fraction.length

/-- Whether rounding to binary64 gives a finite number, that is whether the
magnitude is below the midpoint between the greatest finite number and the next
power of two.  Magnitudes far from that midpoint are decided by their length. -/
def isFinite (numeral : Numeral) : Bool :=
  let digits := numeral.digits
  let length := (Nat.toDigits 10 digits).length
  if digits = 0 then true
  else if (length : Int) + numeral.scale > 400 then false
  else if (length : Int) + numeral.scale < 300 then true
  else
    let bound := (1 <<< 1024) - (1 <<< 970)
    if numeral.scale ≥ 0 then digits * Nat.pow 10 numeral.scale.toNat < bound
    else digits < bound * Nat.pow 10 (-numeral.scale).toNat

end Numeral

namespace Json

def string (content : String) : Json := .text (some content)

def nat (value : Nat) : Json := .number (.ofNat value)

def int (value : Int) : Json := .number (.ofInt value)

def record (members : List (String × Json)) : Json :=
  .object (members.map fun member => (some member.1, member.2))

def list {α : Type} (write : α → Json) (items : List α) : Json :=
  .array (items.map write)

/-- An absent value is written `null`. -/
def optional {α : Type} (write : α → Json) : Option α → Json
  | some value => write value
  | none => .null

/-- The value of the first member with this name. -/
def member? (name : String) : Json → Option Json
  | .object members => members.lookup (some name)
  | _ => none

mutual

/-- Whether a document can be held in memory as a whole before it is known what
it stands for: every string is a text, every number is finite, and arrays and
objects nest at most `depth` deep. -/
def isBufferable (depth : Nat) : Json → Bool
  | .text content => content.isSome
  | .number numeral => numeral.isFinite
  | .array items =>
      match depth with
      | 0 => false
      | depth + 1 => itemsBufferable depth items
  | .object members =>
      match depth with
      | 0 => false
      | depth + 1 => membersBufferable depth members
  | _ => true

/-- All items can be held in memory. -/
def itemsBufferable (depth : Nat) : List Json → Bool
  | [] => true
  | item :: items => isBufferable depth item && itemsBufferable depth items

/-- All members can be held in memory, their names included. -/
def membersBufferable (depth : Nat) : List (Option String × Json) → Bool
  | [] => true
  | (name, value) :: members =>
      name.isSome && isBufferable depth value && membersBufferable depth members

end

end Json

end WasmSandbox
