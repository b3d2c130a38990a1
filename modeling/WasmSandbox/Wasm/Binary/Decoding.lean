import WasmSandbox.Wasm.Type

/-!
Contract: the primitives of the binary form of modules.

Owns:
- single bytes and runs of bytes;
- numbers in groups of seven bits, the lowest group first, that fit their width;
- names, lists, and parts that are preceded by their size;
- value types.

Does not own: instructions and sections.
-/

namespace WasmSandbox.Wasm.Binary

/-- Reading from the front of a list of bytes, with a diagnostic for failure. -/
abbrev Decoding := StateT (List UInt8) (Except String)

def byte : Decoding Nat := do
  match ← get with
  | first :: rest =>
      set rest
      return first.toNat
  | [] => throw "unexpected end"

/-- The next byte, which stays in place. -/
def peek : Decoding Nat := do
  match ← get with
  | first :: _ => return first.toNat
  | [] => throw "unexpected end"

/-- Whether no bytes are left. -/
def atEnd : Decoding Bool := do
  return (← get).isEmpty

/-- The next `count` bytes. -/
def bytes (count : Nat) : Decoding (List UInt8) := do
  let rest ← get
  if rest.length < count then throw "unexpected end"
  set (rest.drop count)
  return rest.take count

/-- A number of at most `bits` bits.  A group with its high bit set is followed by
another one; the last possible group holds only the bits that are left. -/
def unsigned : (bits : Nat) → Decoding Nat
  | bits => do
      let group ← byte
      if group < 128 then
        if bits < 7 && group ≥ 1 <<< bits then throw "integer too large" else return group
      else if h : bits ≤ 7 then throw "integer representation too long"
      else return group - 128 + 128 * (← unsigned (bits - 7))
termination_by bits => bits

/-- A 32-bit number. -/
def word : Decoding Nat :=
  unsigned 32

/-- A number of at most `bits` bits in two's complement.  The unused bits of the
last possible group repeat the sign. -/
def signed : (bits : Nat) → Decoding Int
  | bits => do
      let group ← byte
      if group < 128 then
        let value : Int := if group < 64 then group else group - 128
        let bound : Int := (1 <<< (bits - 1) : Nat)
        if bits < 7 && (value < -bound || value ≥ bound) then throw "integer too large"
        else return value
      else if h : bits ≤ 7 then throw "integer representation too long"
      else return group - 128 + 128 * (← signed (bits - 7))
termination_by bits => bits

/-- `count` parts in a row. -/
def replicate {α : Type} (part : Decoding α) : (count : Nat) → Decoding (List α)
  | 0 => return []
  | count + 1 => do
      let first ← part
      return first :: (← replicate part count)

/-- A list: the number of its parts, and the parts. -/
def list {α : Type} (part : Decoding α) : Decoding (List α) := do
  replicate part (← word)

/-- The longest name, in bytes. -/
def longestName : Nat := 100000

/-- A name: the number of its bytes, and its text in UTF-8. -/
def name : Decoding String := do
  let length ← word
  if length > longestName then throw "name is too long"
  match String.fromUTF8? ⟨(← bytes length).toArray⟩ with
  | some text => return text
  | none => throw "malformed UTF-8"

/-- A part read from its own bytes, all of which it must use. -/
def within {α : Type} (part : Decoding α) (content : List UInt8) : Except String α := do
  match ← part.run content with
  | (value, []) => return value
  | _ => throw "unexpected content at the end"

/-- A part preceded by its size in bytes. -/
def sized {α : Type} (part : Decoding α) : Decoding α := do
  within part (← bytes (← word))

/-- The type of references to a sort of items. -/
def heapType : Decoding ValType := do
  match ← byte with
  | 0x70 => return .funcRef
  | 0x6F => return .externRef
  | _ => throw "invalid heap type"

/-- The value type with the given code, if there is one. -/
def valTypeOf? (code : Nat) : Option ValType :=
  match code with
  | 0x7F => some .i32
  | 0x7E => some .i64
  | 0x7D => some .f32
  | 0x7C => some .f64
  | 0x7B => some .v128
  | 0x70 => some .funcRef
  | 0x6F => some .externRef
  | _ => none

/-- A value type.  References may be written in two bytes. -/
def valType : Decoding ValType := do
  let code ← byte
  if code = 0x63 then heapType
  else
    match valTypeOf? code with
    | some type => return type
    | none => throw "invalid value type"

def refType : Decoding ValType := do
  let type ← valType
  if type.isReference then return type else throw "reference type expected"

end WasmSandbox.Wasm.Binary
