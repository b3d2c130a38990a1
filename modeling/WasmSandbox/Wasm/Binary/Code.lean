import WasmSandbox.Bytes.Space
import WasmSandbox.Wasm.Module
import WasmSandbox.Wasm.Binary.Decoding

/-!
Contract: instructions in the binary form of modules.

Owns:
- every instruction by its code, with what follows it;
- sequences of instructions up to `end` or `else`.

Of the instructions on vectors only `v128.const` is read; the others are refused as
illegal, whatever the switches of the engine say.  Vectors cannot cross the boundary.

Does not own: types of operands.
-/

namespace WasmSandbox.Wasm.Binary

/-- What instructions depend on: the function types, whether there may be more than
one memory, and whether the number of segments of bytes is known in advance. -/
structure Setting where
  types : Array FuncType
  multiMemory : Bool
  countedData : Bool

namespace Setting

variable (setting : Setting)

def typeRef : Decoding FuncType := do
  match setting.types[← word]? with
  | some type => return type
  | none => throw "unknown type"

/-- The number of a memory, a zero byte where there is only one. -/
def memoryRef : Decoding Nat := do
  if setting.multiMemory then word
  else if (← byte) = 0 then return 0
  else throw "zero byte expected"

def memArg : Decoding MemArg := do
  let flags ← word
  let named := setting.multiMemory && flags / 64 % 2 = 1
  let memory ← if named then word else pure 0
  let align := if named then flags - 64 else flags
  if align ≥ (if setting.multiMemory then 64 else 32) then throw "alignment too large"
  return ⟨memory, ← word, 1 <<< align⟩

/-- The type of a block: nothing, one result, or a function type. -/
def blockType : Decoding FuncType := do
  let code ← peek
  if code = 0x40 then
    let _ ← byte
    return ⟨[], []⟩
  else if code = 0x63 || (valTypeOf? code).isSome then return ⟨[], [← valType]⟩
  else
    let index ← signed 33
    match setting.types[index.toNat]? with
    | some type => if index < 0 then throw "invalid block type" else return type
    | none => throw "unknown type"

/-- The number of a segment of bytes. -/
def dataRef : Decoding Nat := do
  if setting.countedData then word else throw "data count section required"

/-- An instruction with the prefix 0xfc that is no numeric operation. -/
def bulkInstr (code : Nat) : Decoding Instr := do
  match code with
  | 8 =>
      let segment ← setting.dataRef
      return .memoryInit (← word) segment
  | 9 => return .dataDrop (← setting.dataRef)
  | 10 =>
      let target ← setting.memoryRef
      return .memoryCopy target (← setting.memoryRef)
  | 11 => return .memoryFill (← setting.memoryRef)
  | 12 =>
      let segment ← word
      return .tableInit (← word) segment
  | 13 => return .elemDrop (← word)
  | 14 =>
      let target ← word
      return .tableCopy target (← word)
  | 15 => return .tableGrow (← word)
  | 16 => return .tableSize (← word)
  | 17 => return .tableFill (← word)
  | _ => throw "illegal instruction"

/-- A numeric operation or a memory access. -/
def tableInstr (code : Nat) : Decoding Instr := do
  match numericTable.find? fun entry => entry.1 = code with
  | some entry => return .numeric entry.2.2
  | none =>
      match accessTable.find? fun entry => entry.1 = code with
      | some (_, _, isStore, shape) =>
          let arg ← setting.memArg
          return if isStore then .store shape arg else .load shape arg
      | none => throw "illegal instruction"

def plainInstr (code : Nat) : Decoding Instr := do
  match code with
  | 0x00 => return .unreachable
  | 0x01 => return .nop
  | 0x0C => return .br (← word)
  | 0x0D => return .brIf (← word)
  | 0x0E =>
      let targets ← list word
      return .brTable targets (← word)
  | 0x0F => return .return
  | 0x10 => return .call (← word)
  | 0x11 =>
      let type ← setting.typeRef
      return .callIndirect (← word) type
  | 0x12 => return .returnCall (← word)
  | 0x13 =>
      let type ← setting.typeRef
      return .returnCallIndirect (← word) type
  | 0x1A => return .drop
  | 0x1B => return .select none
  | 0x1C =>
      match ← list valType with
      | [type] => return .select (some type)
      | _ => throw "select gives one value"
  | 0x20 => return .localGet (← word)
  | 0x21 => return .localSet (← word)
  | 0x22 => return .localTee (← word)
  | 0x23 => return .globalGet (← word)
  | 0x24 => return .globalSet (← word)
  | 0x25 => return .tableGet (← word)
  | 0x26 => return .tableSet (← word)
  | 0x3F => return .memorySize (← setting.memoryRef)
  | 0x40 => return .memoryGrow (← setting.memoryRef)
  | 0x41 => return .const (.i32 (BitVec.ofInt 32 (← signed 32)))
  | 0x42 => return .const (.i64 (BitVec.ofInt 64 (← signed 64)))
  | 0x43 => return .const (.f32 (BitVec.ofNat 32 (Bytes.ofLittleEndian (← bytes 4))))
  | 0x44 => return .const (.f64 (BitVec.ofNat 64 (Bytes.ofLittleEndian (← bytes 8))))
  | 0xD0 => return .refNull (← heapType)
  | 0xD1 => return .refIsNull
  | 0xD2 => return .refFunc (← word)
  | 0xFC =>
      let code ← word
      if code < 8 then setting.tableInstr (0xFC00 + code) else setting.bulkInstr code
  | 0xFD =>
      if (← word) = 12 then
        return .const (.v128 (BitVec.ofNat 128 (Bytes.ofLittleEndian (← bytes 16))))
      else throw "illegal instruction"
  | 0xFE =>
      let code ← word
      if code = 3 then
        if (← byte) = 0 then return .fence else throw "zero byte expected"
      else if code < 256 then setting.tableInstr (0xFE00 + code)
      else throw "illegal instruction"
  | code => setting.tableInstr code

/-- The instructions up to `end` or `else`, and whether it was `else`.  `fuel`
bounds the number of bytes. -/
def instrs : (fuel : Nat) → Decoding (List Instr × Bool)
  | 0 => throw "unexpected end"
  | fuel + 1 => do
      let block : Decoding (List Instr) := do
        match ← instrs fuel with
        | (body, false) => return body
        | (_, true) => throw "else found outside of an if"
      match ← byte with
      | 0x0B => return ([], false)
      | 0x05 => return ([], true)
      | 0x02 =>
          let type ← setting.blockType
          let body ← block
          let (rest, alternative) ← instrs fuel
          return (.block type body :: rest, alternative)
      | 0x03 =>
          let type ← setting.blockType
          let body ← block
          let (rest, alternative) ← instrs fuel
          return (.loop type body :: rest, alternative)
      | 0x04 =>
          let type ← setting.blockType
          let (yes, split) ← instrs fuel
          let no ← if split then block else pure []
          let (rest, alternative) ← instrs fuel
          return (.ifElse type yes no :: rest, alternative)
      | code =>
          let first ← setting.plainInstr code
          let (rest, alternative) ← instrs fuel
          return (first :: rest, alternative)

/-- The instructions up to the `end` that closes them. -/
def code : Decoding (List Instr) := do
  match ← setting.instrs ((← get).length + 1) with
  | (body, false) => return body
  | (_, true) => throw "else found outside of an if"

end Setting

end WasmSandbox.Wasm.Binary
