import WasmSandbox.Wasm.Store

/-!
Contract: the instructions that neither branch nor call.

Owns:
- what they do to operands and locals;
- the one change that each of them makes to the engine's state;
- the faults they raise.

A fault changes nothing.  Operands of another type than expected, which valid code
never has, are a state that cannot go on.

Does not own: blocks, branches, calls, and fuel.
-/

namespace WasmSandbox.Wasm

/-- Why an instruction does not go on. -/
inductive Halt where
  | fault (fault : GuestFault)
  | stuck
deriving DecidableEq, Repr

/-- The operands, the top one first, and the locals of a function. -/
structure Registers where
  operands : List Value
  locals : Array Value

namespace Registers

/-- The registers with `rest` as operands. -/
def drop (registers : Registers) (rest : List Value) : Registers :=
  { registers with operands := rest }

/-- The registers with one more operand on top of `rest`. -/
def push (registers : Registers) (value : Value) (rest : List Value) : Registers :=
  { registers with operands := value :: rest }

end Registers

/-- What an instruction changes in the engine's state. -/
inductive Change where
  | nothing
  | bytes (address start : Nat) (bytes : List UInt8)
  | growMemory (address delta : Nat)
  | items (address start : Nat) (items : List Value)
  | growTable (address count : Nat) (item : Value)
  | global (address : Nat) (value : Value)
  | dropItems (owner segment : Nat)
  | dropBytes (owner segment : Nat)
deriving DecidableEq, Repr

def Store.apply {H : Type} (store : Store H) : Change → Store H
  | .nothing => store
  | .bytes address start bytes => store.storeBytes address start bytes
  | .growMemory address delta => store.growMemory address delta
  | .items address start items => store.storeItems address start items
  | .growTable address count item => store.growTable address count item
  | .global address value => store.updateGlobal address value
  | .dropItems owner segment =>
      store.updateInstance owner fun owning =>
        { owning with elems := owning.elems.setIfInBounds segment [] }
  | .dropBytes owner segment =>
      store.updateInstance owner fun owning =>
        { owning with datas := owning.datas.setIfInBounds segment [] }

/-- A part that valid code always has. -/
def need {α : Type} (found : Option α) : Except Halt α :=
  match found with
  | some value => .ok value
  | none => .error .stuck

/-- A condition whose failure is a fault. -/
def guarded (condition : Bool) (fault : GuestFault) : Except Halt Unit :=
  if condition then .ok () else .error (.fault fault)

/-! ## Memory -/

/-- The value that a load makes of the bytes it read. -/
def AccessShape.decode (shape : AccessShape) (bytes : List UInt8) : Value :=
  let bits := Bytes.ofLittleEndian bytes
  let width := 8 * shape.bytes
  let extended (total : Nat) : Nat :=
    match shape.sign with
    | .signed => ((BitVec.ofNat width bits).signExtend total).toNat
    | .unsigned => bits
  match shape.type with
  | .i32 => .i32 (BitVec.ofNat 32 (extended 32))
  | .i64 => .i64 (BitVec.ofNat 64 (extended 64))
  | .f32 => .f32 (BitVec.ofNat 32 bits)
  | .f64 => .f64 (BitVec.ofNat 64 bits)
  | .v128 => .v128 (BitVec.ofNat 128 bits)
  | .funcRef => .funcRef none
  | .externRef => .externRef

/-- The number whose lowest bytes a store writes. -/
def Value.bits : Value → Nat
  | i32 bits => bits.toNat
  | i64 bits => bits.toNat
  | f32 bits => bits.toNat
  | f64 bits => bits.toNat
  | v128 bits => bits.toNat
  | funcRef _ => 0
  | externRef => 0

/-- The first address of an access.  An atomic access must be aligned, and every
access must be within the memory. -/
def AccessShape.address (shape : AccessShape) (arg : MemArg) (base : BitVec 32) (size : Nat) :
    Except Halt Nat := do
  let start := base.toNat + arg.offset
  guarded (!shape.atomic || start % shape.bytes = 0) .misaligned
  guarded (start + shape.bytes ≤ size) .memoryOutOfBounds
  return start

section

variable {H : Type} (store : Store H) (owning : Instance) (registers : Registers)

/-- A memory of an instance, with its address. -/
def memoryOf (index : Nat) : Except Halt (Nat × Memory) := do
  let address ← need owning.memories[index]?
  return (address, ← need store.memories[address]?)

def memoryEffect (instr : Instr) :
    Except Halt (Registers × Change) := do
  match instr, registers.operands with
  | .load shape arg, .i32 base :: rest =>
      let (_, memory) ← memoryOf store owning arg.memory
      let start ← shape.address arg base memory.size
      return (registers.push (shape.decode (Bytes.slice memory.bytes start shape.bytes)) rest,
        .nothing)
  | .store shape arg, value :: .i32 base :: rest =>
      let (address, memory) ← memoryOf store owning arg.memory
      let start ← shape.address arg base memory.size
      return (registers.drop rest,
        .bytes address start (Bytes.toLittleEndian shape.bytes value.bits))
  | .memorySize index, rest =>
      let (_, memory) ← memoryOf store owning index
      return (registers.push (.i32 (BitVec.ofNat 32 memory.pages)) rest, .nothing)
  | .memoryGrow index, .i32 delta :: rest =>
      let (address, memory) ← memoryOf store owning index
      if memory.canGrow store.byteLimit delta.toNat then
        return (registers.push (.i32 (BitVec.ofNat 32 memory.pages)) rest,
          .growMemory address delta.toNat)
      else return (registers.push (.i32 (-1)) rest, .nothing)
  | .memoryFill index, .i32 count :: .i32 value :: .i32 start :: rest =>
      let (address, memory) ← memoryOf store owning index
      guarded (start.toNat + count.toNat ≤ memory.size) .memoryOutOfBounds
      let bytes := List.replicate count.toNat (UInt8.ofNat value.toNat)
      return (registers.drop rest, .bytes address start.toNat bytes)
  | .memoryCopy target source, .i32 count :: .i32 sourceStart :: .i32 targetStart :: rest =>
      let (address, memory) ← memoryOf store owning target
      let (_, sourceMemory) ← memoryOf store owning source
      guarded (sourceStart.toNat + count.toNat ≤ sourceMemory.size) .memoryOutOfBounds
      guarded (targetStart.toNat + count.toNat ≤ memory.size) .memoryOutOfBounds
      let bytes := Bytes.slice sourceMemory.bytes sourceStart.toNat count.toNat
      return (registers.drop rest, .bytes address targetStart.toNat bytes)
  | .memoryInit index segment, .i32 count :: .i32 sourceStart :: .i32 targetStart :: rest =>
      let (address, memory) ← memoryOf store owning index
      let data ← need owning.datas[segment]?
      guarded (sourceStart.toNat + count.toNat ≤ data.length) .memoryOutOfBounds
      guarded (targetStart.toNat + count.toNat ≤ memory.size) .memoryOutOfBounds
      let bytes := (data.drop sourceStart.toNat).take count.toNat
      return (registers.drop rest, .bytes address targetStart.toNat bytes)
  | .fence, _ => return (registers, .nothing)
  | _, _ => .error .stuck

/-! ## Tables -/

/-- A table of an instance, with its address. -/
def tableOf (index : Nat) : Except Halt (Nat × Table) := do
  let address ← need owning.tables[index]?
  return (address, ← need store.tables[address]?)

def itemsFrom (table : Table) (start count : Nat) : List Value :=
  (table.items.extract start (start + count)).toList

def tableEffect (instr : Instr) :
    Except Halt (Registers × Change) := do
  match instr, registers.operands with
  | .tableGet index, .i32 position :: rest =>
      let (_, table) ← tableOf store owning index
      match table.items[position.toNat]? with
      | some item => return (registers.push item rest, .nothing)
      | none => .error (.fault .tableOutOfBounds)
  | .tableSet index, item :: .i32 position :: rest =>
      let (address, table) ← tableOf store owning index
      guarded (position.toNat < table.items.size) .tableOutOfBounds
      return (registers.drop rest, .items address position.toNat [item])
  | .tableSize index, rest =>
      let (_, table) ← tableOf store owning index
      return (registers.push (.i32 (BitVec.ofNat 32 table.items.size)) rest, .nothing)
  | .tableGrow index, .i32 delta :: item :: rest =>
      let (address, table) ← tableOf store owning index
      if table.items.size + delta.toNat ≤ table.bound then
        return (registers.push (.i32 (BitVec.ofNat 32 table.items.size)) rest,
          .growTable address delta.toNat item)
      else return (registers.push (.i32 (-1)) rest, .nothing)
  | .tableFill index, .i32 count :: item :: .i32 start :: rest =>
      let (address, table) ← tableOf store owning index
      guarded (start.toNat + count.toNat ≤ table.items.size) .tableOutOfBounds
      return (registers.drop rest, .items address start.toNat (List.replicate count.toNat item))
  | .tableCopy target source, .i32 count :: .i32 sourceStart :: .i32 targetStart :: rest =>
      let (address, table) ← tableOf store owning target
      let (_, sourceTable) ← tableOf store owning source
      guarded (sourceStart.toNat + count.toNat ≤ sourceTable.items.size) .tableOutOfBounds
      guarded (targetStart.toNat + count.toNat ≤ table.items.size) .tableOutOfBounds
      let items := itemsFrom sourceTable sourceStart.toNat count.toNat
      return (registers.drop rest, .items address targetStart.toNat items)
  | .tableInit index segment, .i32 count :: .i32 sourceStart :: .i32 targetStart :: rest =>
      let (address, table) ← tableOf store owning index
      let items ← need owning.elems[segment]?
      guarded (sourceStart.toNat + count.toNat ≤ items.length) .tableOutOfBounds
      guarded (targetStart.toNat + count.toNat ≤ table.items.size) .tableOutOfBounds
      let items := (items.drop sourceStart.toNat).take count.toNat
      return (registers.drop rest, .items address targetStart.toNat items)
  | _, _ => .error .stuck

/-! ## Everything else -/

/-- An instruction on locals, globals, references and segments. -/
def variableEffect (owner : Nat) (instr : Instr) :
    Except Halt (Registers × Change) := do
  match instr, registers.operands with
  | .localGet index, rest =>
      return (registers.push (← need registers.locals[index]?) rest, .nothing)
  | .localSet index, value :: rest =>
      return (⟨rest, registers.locals.setIfInBounds index value⟩, .nothing)
  | .localTee index, value :: rest =>
      return (⟨value :: rest, registers.locals.setIfInBounds index value⟩, .nothing)
  | .globalGet index, rest =>
      let address ← need owning.globals[index]?
      return (registers.push (← need store.globals[address]?).value rest, .nothing)
  | .globalSet index, value :: rest =>
      let address ← need owning.globals[index]?
      return (registers.drop rest, .global address value)
  | .refNull type, rest => return (registers.push (.zero type) rest, .nothing)
  | .refIsNull, value :: rest =>
      return (registers.push (.ofBool (value = .zero value.type)) rest, .nothing)
  | .refFunc index, rest =>
      return (registers.push (.funcRef (some (.guest owner index))) rest, .nothing)
  | .elemDrop segment, _ =>
      return (registers, .dropItems owner segment)
  | .dataDrop segment, _ =>
      return (registers, .dropBytes owner segment)
  | _, _ => .error .stuck

def numericEffect (op : NumericOp) :
    Except Halt (Registers × Change) := do
  let count := op.type.params.length
  let args := (registers.operands.take count).reverse
  match ← need (op.apply store.canonical args) with
  | .ok value => return (registers.push value (registers.operands.drop count), .nothing)
  | .error fault => .error (.fault fault)

def plainEffect (owner : Nat) (instr : Instr) :
    Except Halt (Registers × Change) := do
  match instr, registers.operands with
  | .nop, _ => return (registers, .nothing)
  | .drop, _ :: rest => return (registers.drop rest, .nothing)
  | .select _, .i32 condition :: second :: first :: rest =>
      return (registers.push (if condition = 0 then second else first) rest, .nothing)
  | .const value, rest => return (registers.push (.ofLiteral value) rest, .nothing)
  | .numeric op, _ => numericEffect store registers op
  | .load _ _, _ | .store _ _, _ | .memorySize _, _ | .memoryGrow _, _ | .memoryFill _, _
  | .memoryCopy _ _, _ | .memoryInit _ _, _ | .fence, _ =>
      memoryEffect store owning registers instr
  | .tableGet _, _ | .tableSet _, _ | .tableSize _, _ | .tableGrow _, _ | .tableFill _, _
  | .tableCopy _ _, _ | .tableInit _ _, _ => tableEffect store owning registers instr
  | instr, _ => variableEffect store owning registers owner instr

end

end WasmSandbox.Wasm
