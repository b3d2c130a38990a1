import WasmSandbox.Failure.Taxonomy

/-!
Contract: bounds-checked access to a finite sequence of addressable bytes.

Owns:
- `ByteSpace`, the three operations every such sequence has;
- the range check in 64-bit arithmetic, where a sum that overflows is out of
  bounds like one that passes the end;
- reading and writing of byte ranges and of little-endian 32-bit words.

Does not own: how a sequence stores its bytes.
-/

namespace WasmSandbox

/-- A sequence of bytes with addresses from zero to its size. -/
class ByteSpace (β : Type) where
  /-- The number of bytes. -/
  size : β → Nat
  /-- The byte at an address, and zero outside. -/
  byte : β → Nat → UInt8
  /-- The sequence with one byte replaced; outside nothing changes. -/
  store : β → Nat → UInt8 → β

namespace Bytes

variable {β : Type} [ByteSpace β]

/-- The end of a range, unless it needs more than 64 bits. -/
def rangeEnd? (offset : UInt64) (length : Nat) : Option UInt64 :=
  if offset.toNat + length < UInt64.size then some (offset + UInt64.ofNat length) else none

/-- A range is within a sequence of `size` bytes when its end neither overflows
nor passes the last byte. -/
def checkRange (size : Nat) (offset : UInt64) (length : Nat) : Except MemoryError Unit :=
  match rangeEnd? offset length with
  | none => .error (.outOfBounds offset.toNat length size)
  | some stop =>
      if stop.toNat > size then .error (.outOfBounds offset.toNat length size) else .ok ()

/-- The bytes at `length` addresses from `start` on. -/
def slice (space : β) (start length : Nat) : List UInt8 :=
  (List.range length).map fun index => ByteSpace.byte space (start + index)

/-- The sequence with the given bytes stored from `start` on. -/
@[specialize]
def storeAll (space : β) (start : Nat) : List UInt8 → β
  | [] => space
  | byte :: bytes => storeAll (ByteSpace.store space start byte) (start + 1) bytes

/-- The bytes of a range, if it is within bounds. -/
def read (space : β) (offset : UInt64) (length : Nat) : Except MemoryError (List UInt8) := do
  checkRange (ByteSpace.size space) offset length
  return slice space offset.toNat length

/-- The sequence with a range replaced, if the range is within bounds. -/
def write (space : β) (offset : UInt64) (bytes : List UInt8) : Except MemoryError β := do
  checkRange (ByteSpace.size space) offset bytes.length
  return storeAll space offset.toNat bytes

/-- The number that bytes write in base 256, the least significant byte first. -/
def ofLittleEndian : List UInt8 → Nat
  | [] => 0
  | byte :: bytes => byte.toNat + 256 * ofLittleEndian bytes

/-- The lowest `count` digits of a number in base 256, the least significant
first. -/
def toLittleEndian : (count value : Nat) → List UInt8
  | 0, _ => []
  | count + 1, value => UInt8.ofNat (value % 256) :: toLittleEndian count (value / 256)

/-- The little-endian 32-bit word at an address. -/
def readWord (space : β) (offset : UInt64) : Except MemoryError UInt32 := do
  return UInt32.ofNat (ofLittleEndian (← read space offset 4))

/-- The sequence with a 32-bit word stored in little-endian order. -/
def writeWord (space : β) (offset : UInt64) (value : UInt32) : Except MemoryError β :=
  write space offset (toLittleEndian 4 value.toNat)

end Bytes

/-- A plain buffer. -/
instance : ByteSpace ByteArray where
  size := ByteArray.size
  byte buffer index := if h : index < buffer.size then buffer[index] else 0
  store buffer index value := if h : index < buffer.size then buffer.set index value h else buffer

end WasmSandbox
