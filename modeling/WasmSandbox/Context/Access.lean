import WasmSandbox.Context.State

/-!
Contract: what can be done in a context without calling anything.

Owns:
- memories: creation, type, size, growth, and access to bytes and words;
- tables and globals;
- exports of instances;
- the answers to the requests of closures.

Every operation checks first that the handle belongs to the context, and a failed
operation changes nothing.

Does not own: calls and linking.
-/

namespace WasmSandbox

open Wasm

/-- What becomes of an operation that may end in a panic of the engine. -/
inductive Outcome (α : Type) where
  | answered (answer : α)
  | panicked

namespace Context

variable {σ : Type} (context : Context σ)

/-! ## Memories -/

def memory (handle : MemoryHandle) : Except MemoryError Memory :=
  if handle.context ≠ context.id then .error .foreignHandle
  else
    match context.store.memories[handle.address]? with
    | some memory => .ok memory
    | none => .error .foreignHandle

def updateMemory (handle : MemoryHandle) (change : Memory → Memory) : Context σ :=
  { context with store := context.store.updateMemory handle.address change }

/-- The limits of a new memory must be 32-bit numbers in order. -/
def checkLimits (limits : Limits) : Except MemoryError Unit :=
  if limits.minimum.toNat ≥ UInt32.size then
    .error (.limits ("minimum " ++ toString limits.minimum ++ " pages"))
  else if limits.maximum.any fun maximum => maximum.toNat ≥ UInt32.size then
    .error (.limits ("maximum " ++ Config.optionText limits.maximum ++ " pages"))
  else if limits.maximum.any (· < limits.minimum) then
    .error (.limits ("maximum " ++ Config.optionText limits.maximum ++ " below minimum " ++
      toString limits.minimum))
  else .ok ()

/-- A new memory of the host.  The engine panics on limits that pass the check but
are more than the pages a memory can have. -/
def createMemory (type : MemoryType) : Outcome (Except MemoryError MemoryHandle × Context σ) :=
  let limits := type.limits
  match checkLimits limits with
  | .error error => .answered (.error error, context)
  | .ok () =>
      if limits.minimum.toNat > maxPages || limits.maximum.any (·.toNat > maxPages) then .panicked
      else
        let size : SizeRange := ⟨limits.minimum.toNat, limits.maximum.map UInt64.toNat⟩
        match context.store.addMemory? size with
        | some (address, store) =>
            .answered (.ok ⟨context.id, address, limits.maximum⟩, { context with store := store })
        | none => .answered (.error (.limits (Store.tooManyPages size.least)), context)

/-- The type of a memory now: its least size is the number of pages it has. -/
def memoryType (handle : MemoryHandle) : Except MemoryError MemoryType := do
  let memory ← context.memory handle
  return ⟨UInt64.ofNat memory.pages, handle.maximum⟩

def memoryPages (handle : MemoryHandle) : Except MemoryError Nat := do
  return (← context.memory handle).pages

def memorySize (handle : MemoryHandle) : Except MemoryError Nat := do
  return (← context.memory handle).size

def readMemory (handle : MemoryHandle) (offset : UInt64) (length : Nat) :
    Except MemoryError (List UInt8) := do
  Bytes.read (← context.memory handle).bytes offset length

def writeMemory (handle : MemoryHandle) (offset : UInt64) (bytes : List UInt8) :
    Except MemoryError (Context σ) := do
  let written ← Bytes.write (← context.memory handle).bytes offset bytes
  return context.updateMemory handle fun memory => { memory with bytes := written }

def readWord (handle : MemoryHandle) (offset : UInt64) : Except MemoryError UInt32 := do
  Bytes.readWord (← context.memory handle).bytes offset

def writeWord (handle : MemoryHandle) (offset : UInt64) (value : UInt32) :
    Except MemoryError (Context σ) := do
  let written ← Bytes.writeWord (← context.memory handle).bytes offset value
  return context.updateMemory handle fun memory => { memory with bytes := written }

/-- The number of pages a memory had, and the context in which it has more. -/
def growMemory (handle : MemoryHandle) (delta : UInt64) :
    Except MemoryError (Nat × Context σ) := do
  let memory ← context.memory handle
  if memory.canGrow context.store.byteLimit delta.toNat then
    return (memory.pages,
      { context with store := context.store.growMemory handle.address delta.toNat })
  else .error (.grow ("failed to grow memory by `" ++ toString delta ++ "`"))

/-! ## Tables -/

def table? (handle : TableHandle) : Option Table :=
  if handle.context = context.id then context.store.tables[handle.address]? else none

/-- The type of a table now: its least size is the number of elements it has. -/
def tableType? (handle : TableHandle) : Option TableType := do
  let table ← context.table? handle
  return ⟨.funcRef, ⟨UInt64.ofNat table.items.size, handle.maximum⟩⟩

def tableSize? (handle : TableHandle) : Option Nat := do
  return (← context.table? handle).items.size

/-! ## Globals -/

/-- A value for a global must be of the kind of its content. -/
def checkContent (type : GlobalType) (value : Val) : Except CallError Unit :=
  if value.kind = type.content then .ok ()
  else .error (.typeMismatch (.argumentKind 0 type.content value.kind))

def createGlobal (type : GlobalType) (value : Val) :
    Except CallError (GlobalHandle × Context σ) := do
  checkContent type value
  if !value.belongsTo context.id then throw .foreignHandle
  let content ← context.lower value
  let (address, store) := context.store.addGlobal ⟨type.content.guest, type.mutable⟩ content
  return (⟨context.id, address, type⟩, { context with store := store })

/-- The value of a global.  A reference may be to a function that is seen for the
first time. -/
def getGlobal (handle : GlobalHandle) : Except CallError Val × Context σ :=
  if handle.context ≠ context.id then (.error .foreignHandle, context)
  else
    match context.store.globals[handle.address]? with
    | some global => context.lift global.value handle.type.content
    | none => (.error .foreignHandle, context)

def setGlobal (handle : GlobalHandle) (value : Val) : Except CallError (Context σ) := do
  if handle.context ≠ context.id || !value.belongsTo handle.context then throw .foreignHandle
  if !handle.type.mutable then throw (.internal "global is immutable")
  checkContent handle.type value
  let content ← context.lower value
  return { context with store := context.store.updateGlobal handle.address content }

/-! ## Exports -/

/-- The item behind an export of an instance, with a handle for a function. -/
def exportedItem (owner : Nat) (target : ExportTarget) (type : ItemType) :
    Option Item × Context σ :=
  match context.store.instances[owner]? with
  | none => (none, context)
  | some owning =>
      match target, type with
      | .func index, .func signature =>
          match context.handleOf (.guest owner index) (some signature) with
          | (.ok func, context) => (some (.func func), context)
          | (.error _, context) => (none, context)
      | .memory index, .memory type =>
          (owning.memories[index]?.map fun address =>
            .memory ⟨context.id, address, type.limits.maximum⟩, context)
      | .table index, .table type =>
          (owning.tables[index]?.map fun address =>
            .table ⟨context.id, address, type.limits.maximum⟩, context)
      | .global index, .global type =>
          (owning.globals[index]?.map fun address => .global ⟨context.id, address, type⟩, context)
      | _, _ => (none, context)

/-- The item behind an export by its name, found anew each time.  Answers that were kept would
be the same (`WasmSandbox.Life.keptExports_fresh`). -/
def lookup (inst : InstanceHandle) (name : String) : Option Item × Context σ :=
  match context.instanceEntry? inst with
  | none => (none, context)
  | some entry =>
      let found : Option (ExportTarget × ItemType) := do
        let declared ← entry.artifact.export? name
        let item ← entry.artifact.module.exports.find? fun item => item.name == name
        return (item.target, declared.type)
      match found with
      | some (target, type) => context.exportedItem entry.owner target type
      | none => (none, context)

def lookupAll (context : Context σ) (inst : InstanceHandle) :
    List String → List (String × Item) × Context σ
  | [] => ([], context)
  | name :: rest =>
      match context.lookup inst name with
      | (some item, context) =>
          let (items, context) := lookupAll context inst rest
          ((name, item) :: items, context)
      | (none, context) => lookupAll context inst rest

/-- Every export of an instance, in the order of declaration. -/
def exports (inst : InstanceHandle) : List (String × Item) × Context σ :=
  match context.artifact? inst with
  | some artifact => context.lookupAll inst (artifact.exports.map ExportDecl.name)
  | none => ([], context)

/-! ## Requests -/

/-- An answer that changes nothing, or an answer with a changed context. -/
def changed {ε α : Type} (context : Context σ) (outcome : Except ε (α × Context σ)) :
    Except ε α × Context σ :=
  match outcome with
  | .ok (answer, context) => (.ok answer, context)
  | .error error => (.error error, context)

/-- A change that succeeds without an answer, or a failure that changes nothing. -/
def applied {ε : Type} (context : Context σ) (outcome : Except ε (Context σ)) :
    Except ε Unit × Context σ :=
  match outcome with
  | .ok context => (.ok (), context)
  | .error error => (.error error, context)

def answer : (request : Request σ) → Outcome (request.Answer × Context σ)
  | .id => .answered (context.id, context)
  | .data => .answered (context.data, context)
  | .modify change => .answered ((), { context with data := change context.data })
  | .fuel => .answered (context.fuel, context)
  | .signature func => .answered (context.signature? func, context)
  | .isHost func => .answered (context.isHost? func, context)
  | .createMemory type => context.createMemory type
  | .memoryType memory => .answered (context.memoryType memory, context)
  | .memoryPages memory => .answered (context.memoryPages memory, context)
  | .memorySize memory => .answered (context.memorySize memory, context)
  | .readMemory memory offset length => .answered (context.readMemory memory offset length, context)
  | .writeMemory memory offset bytes =>
      .answered (context.applied (context.writeMemory memory offset bytes))
  | .readWord memory offset => .answered (context.readWord memory offset, context)
  | .writeWord memory offset value =>
      .answered (context.applied (context.writeWord memory offset value))
  | .growMemory memory delta => .answered (context.changed (context.growMemory memory delta))
  | .tableType table => .answered (context.tableType? table, context)
  | .tableSize table => .answered (context.tableSize? table, context)
  | .createGlobal type value => .answered (context.changed (context.createGlobal type value))
  | .getGlobal global => .answered (context.getGlobal global)
  | .setGlobal global value => .answered (context.applied (context.setGlobal global value))
  | .lookup inst name => .answered (context.lookup inst name)
  | .exports inst => .answered (context.exports inst)
  | .artifact inst => .answered (context.artifact? inst, context)

end Context

end WasmSandbox
