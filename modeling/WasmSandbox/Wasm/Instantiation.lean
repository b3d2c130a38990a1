import WasmSandbox.Wasm.Operation

/-!
Contract: making an instance of a module.

Owns:
- the order of what happens: the budget, memories and tables, globals, and the
  segments that are copied;
- constant expressions;
- what stays behind when it fails: a unit of the budget, the adapted function types,
  and everything that was copied to tables and memories of other instances.

Does not own: the check of imports, and the start function.
-/

namespace WasmSandbox.Wasm

/-- An item of the engine's state. -/
inductive Extern where
  | func (key : FuncKey)
  | table (address : Nat)
  | memory (address : Nat)
  | global (address : Nat)
deriving DecidableEq, Repr

/-- Why an instance cannot be made. -/
inductive InstantiationFailure where
  | refused (reason : String)
  | fault (fault : GuestFault)
  | stuck
deriving DecidableEq, Repr

variable {H : Type}

/-- The values that a constant expression leaves, the top one first. -/
def constantOperands (store : Store H) (owner : Nat) (globals : Array Nat) :
    List Instr → List Value → Option (List Value)
  | [], operands => some operands
  | instr :: rest, operands => do
      let operands ←
        match instr, operands with
        | .const value, operands => some (.ofLiteral value :: operands)
        | .refNull type, operands => some (.zero type :: operands)
        | .refFunc index, operands => some (.funcRef (some (.guest owner index)) :: operands)
        | .globalGet index, operands => do
            return (← store.globals[← globals[index]?]?).value :: operands
        | .numeric op, second :: first :: operands =>
            match op.apply store.canonical [first, second] with
            | some (.ok value) => some (value :: operands)
            | _ => none
        | _, _ => none
      constantOperands store owner globals rest operands

/-- The value of a constant expression. -/
def constant? (store : Store H) (owner : Nat) (globals : Array Nat) (init : List Instr) :
    Option Value := do
  match ← constantOperands store owner globals init [] with
  | [value] => some value
  | _ => none

/-- A constant that is the place of a segment. -/
def offset? (store : Store H) (owner : Nat) (globals : Array Nat) (init : List Instr) :
    Option Nat := do
  match ← constant? store owner globals init with
  | .i32 bits => some bits.toNat
  | _ => none

/-- Memories of the given sizes, one after the other. -/
def addMemories (store : Store H) : List MemoryShape → Except String (List Nat × Store H)
  | [] => .ok ([], store)
  | shape :: rest =>
      match store.addMemory? shape.size with
      | some (address, store) => do
          let (addresses, store) ← addMemories store rest
          return (address :: addresses, store)
      | none => .error (Store.tooManyPages shape.size.least)

/-- Tables of the given types, one after the other. -/
def addTables (store : Store H) : List TableShape → List Nat × Store H
  | [] => ([], store)
  | shape :: rest =>
      let (address, store) := store.addTable shape
      let (addresses, store) := addTables store rest
      (address :: addresses, store)

/-- Globals, one after the other; each may read those that are imported. -/
def addGlobals (owner : Nat) (imported : Array Nat) (store : Store H) :
    List GlobalDef → Option (List Nat × Store H)
  | [] => some ([], store)
  | item :: rest => do
      let value ← constant? store owner imported item.init
      let (address, store) := store.addGlobal item.shape value
      let (addresses, store) ← addGlobals owner imported store rest
      return (address :: addresses, store)

/-- A step that may fail but leaves a state behind in any case. -/
abbrev Copying (H : Type) := Option InstantiationFailure × Store H

/-- Copies the segments of references that have a place, in order. -/
def copyElems (owner : Nat) (owning : Instance) (store : Store H) :
    List ElemSegment → Copying H
  | [] => (none, store)
  | segment :: rest =>
      match segment.mode with
      | .active index offset =>
          let prepared : Option (Nat × Nat × List Value × Table) := do
            let address ← owning.tables[index]?
            let start ← offset? store owner owning.globals offset
            let items ← segment.items.mapM (constant? store owner owning.globals)
            return (address, start, items, ← store.tables[address]?)
          match prepared with
          | some (address, start, items, table) =>
              if start + items.length ≤ table.items.size then
                copyElems owner owning (store.storeItems address start items) rest
              else (some (.fault .tableOutOfBounds), store)
          | none => (some .stuck, store)
      | _ => copyElems owner owning store rest

/-- Copies the segments of bytes that have a place, in order. -/
def copyDatas (owner : Nat) (owning : Instance) (store : Store H) :
    List DataSegment → Copying H
  | [] => (none, store)
  | segment :: rest =>
      match segment.mode with
      | .active index offset =>
          let prepared : Option (Nat × Nat × Nat) := do
            let address ← owning.memories[index]?
            let start ← offset? store owner owning.globals offset
            return (address, start, (← store.memories[address]?).size)
          match prepared with
          | some (address, start, size) =>
              if start + segment.bytes.length ≤ size then
                copyDatas owner owning (store.storeBytes address start segment.bytes) rest
              else (some (.fault .memoryOutOfBounds), store)
          | none => (some .stuck, store)
      | _ => copyDatas owner owning store rest

/-- The references of a segment that can be copied later on. -/
def laterItems (store : Store H) (owner : Nat) (globals : Array Nat) (segment : ElemSegment) :
    List Value :=
  match segment.mode with
  | .passive => (segment.items.mapM (constant? store owner globals)).getD []
  | _ => []

/-- The bytes of a segment that can be copied later on. -/
def laterBytes (segment : DataSegment) : List UInt8 :=
  match segment.mode with
  | .passive => segment.bytes
  | _ => []

/-- The instance of a module with everything it defines, before segments are copied.
The state is returned in any case, as the budget stays used. -/
def allocate (store : Store H) (module : Module) (imports : List Extern) :
    Except InstantiationFailure Instance × Store H :=
  let owner := store.instances.size
  let tables := imports.filterMap fun | .table address => some address | _ => none
  let memories := imports.filterMap fun | .memory address => some address | _ => none
  let globals := imports.filterMap fun | .global address => some address | _ => none
  let funcs := imports.filterMap fun | .func key => some (store.resolve key) | _ => none
  match addMemories store module.memories with
  | .error reason => (.error (.refused reason), store)
  | .ok (ownMemories, grown) =>
      let (ownTables, grown) := addTables grown module.tables
      match addGlobals owner globals.toArray grown module.globals with
      | none => (.error .stuck, store)
      | some (ownGlobals, grown) =>
          let allGlobals := (globals ++ ownGlobals).toArray
          let made : Instance :=
            { module := module
              types := module.funcTypes.toArray
              imports := funcs.toArray
              funcs := module.funcs.toArray
              tables := (tables ++ ownTables).toArray
              memories := (memories ++ ownMemories).toArray
              globals := allGlobals
              elems := (module.elems.map (laterItems grown owner allGlobals)).toArray
              datas := (module.datas.map laterBytes).toArray }
          (.ok made, { grown with instances := grown.instances.push made })

/-- The number of a new instance of a module with the given imports.  The state is
returned in any case: what a failure leaves behind stays. -/
def instantiate (store : Store H) (module : Module) (imports : List Extern) :
    Except InstantiationFailure Nat × Store H :=
  let owner := store.instances.size
  let used := store.instancesUsed + 1
  if used > store.config.maxInstances.toNat then
    (.error (.refused (Store.tooManyInstances used)), store)
  else
    match allocate ({ store with instancesUsed := used }.adapt module.types) module imports with
    | (.error failure, store) => (.error failure, store)
    | (.ok made, store) =>
        match copyElems owner made store module.elems with
        | (some failure, store) => (.error failure, store)
        | (none, store) =>
            match copyDatas owner made store module.datas with
            | (some failure, store) => (.error failure, store)
            | (none, store) => (.ok owner, store)

end WasmSandbox.Wasm
