import WasmSandbox.Boundary.Surface
import WasmSandbox.Bytes.Paged
import WasmSandbox.Config
import WasmSandbox.Wasm.Numeric

/-!
Contract: the engine's state of one context.

Owns:
- memories, tables and globals, each under an address that never changes;
- instances of modules, with the addresses of what they import and define;
- functions by their key: host functions by number, and the functions of an
  instance by index, imported ones included;
- the function types that are adapted, and what becomes of references on their way
  out of the engine;
- fuel, and the units of the instance budget that are used up.

The import of a function is resolved when the instance is made, so a key leads in
at most one step to a host function or to code.

The code of a module holds adapters by which guest code calls host functions, one for
each function type of the module.  A reference to a host function whose type has no
adapter does not last: each time it comes out of the engine, it is a new function that
runs the same closure.

Does not own: what instructions do with the state, or handles of the host.
-/

namespace WasmSandbox.Wasm

/-- A linear memory.  `greatest` is its declared greatest size in pages. -/
structure Memory where
  bytes : PagedBytes
  greatest : Option Nat

/-- A table of references. -/
structure Table where
  element : ValType
  items : Array Value
  greatest : Option Nat

/-- A global variable. -/
structure Global where
  shape : GlobalShape
  value : Value

/-- An instance of a module.  Imported items come first in each list of addresses.
`imports` is what the imported functions stand for, and `types` holds the types of
all functions.  Segments that were dropped are empty. -/
structure Instance where
  module : Module
  types : Array FuncType
  imports : Array FuncKey
  funcs : Array FuncDef
  tables : Array Nat
  memories : Array Nat
  globals : Array Nat
  elems : Array (List Value)
  datas : Array (List UInt8)

/-- A function of the host. -/
structure HostFunc (H : Type) where
  signature : Signature
  body : H

/-- The engine's state of one context, with host functions of type `H`. -/
structure Store (H : Type) where
  config : Config
  hosts : Array (HostFunc H) := #[]
  instances : Array Instance := #[]
  memories : Array Memory := #[]
  tables : Array Table := #[]
  globals : Array Global := #[]
  /-- The function types of the modules that were instantiated. -/
  adapted : List FuncType := []
  /-- What is left of the fuel, where it is metered. -/
  fuel : Option Int
  instancesUsed : Nat := 0

namespace Memory

/-- The most pages a memory may have: the declared number, or those that 32 bits can
address. -/
def bound (memory : Memory) : Nat :=
  min (memory.greatest.getD maxPages) maxPages

def pages (memory : Memory) : Nat := memory.bytes.pageCount

def size (memory : Memory) : Nat := ByteSpace.size memory.bytes

/-- Whether `delta` more pages are within the bound of a memory, and within `limit` bytes.
No growth at all is always possible. -/
def canGrow (memory : Memory) (limit delta : Nat) : Bool :=
  delta = 0 ||
    (memory.pages + delta ≤ memory.bound && pageSize * (memory.pages + delta) ≤ limit)

/-- The memory with `delta` zero pages more. -/
def grow (memory : Memory) (delta : Nat) : Memory :=
  { memory with bytes := memory.bytes.extend delta }

end Memory

/-- The most elements a table may have: the declared number, and at most the greatest
number of 32 bits. -/
def Table.bound (table : Table) : Nat :=
  min (table.greatest.getD (UInt32.size - 1)) (UInt32.size - 1)

/-- What a function key leads to. -/
inductive Callee (H : Type) where
  | host (func : HostFunc H)
  | guest (owner : Nat) (func : FuncDef)

namespace Store

variable {H : Type} (store : Store H)

/-- The most bytes any memory may have. -/
def byteLimit : Nat := store.config.maxMemoryBytes.toNat

/-- Whether results of float operations that are no numbers are made canonical. -/
def canonical : Bool := store.config.deterministic

/-- What an imported function stands for; every other function stands for itself. -/
def resolve (key : FuncKey) : FuncKey :=
  match key with
  | .host number => .host number
  | .guest owner index =>
      match store.instances[owner]? with
      | some owning => owning.imports[index]?.getD (.guest owner index)
      | none => .guest owner index

/-- What runs when a function is called. -/
def callee? (key : FuncKey) : Option (Callee H) :=
  match store.resolve key with
  | .host number => store.hosts[number]?.map .host
  | .guest owner index => do
      let owning ← store.instances[owner]?
      let func ← owning.funcs[index - owning.imports.size]?
      return .guest owner func

def funcType? (key : FuncKey) : Option FuncType :=
  match key with
  | .host number => store.hosts[number]?.map fun func => func.signature.guest
  | .guest owner index => do (← store.instances[owner]?).types[index]?

def addHost (signature : Signature) (body : H) : FuncKey × Store H :=
  (.host store.hosts.size, { store with hosts := store.hosts.push ⟨signature, body⟩ })

/-- The state in which function types are adapted. -/
def adapt (types : List FuncType) : Store H :=
  { store with adapted := types.filter (!store.adapted.contains ·) ++ store.adapted }

/-- Whether references to functions with a signature last. -/
def isAdapted (signature : Signature) : Bool := store.adapted.contains signature.guest

/-- The key that a reference has when it comes out of the engine. -/
def emerge (key : FuncKey) : FuncKey × Store H :=
  match key with
  | .guest owner index => (.guest owner index, store)
  | .host number =>
      match store.hosts[number]? with
      | some func =>
          if store.isAdapted func.signature then (.host number, store)
          else store.addHost func.signature func.body
      | none => (.host number, store)

/-- The fuel that is left, as it is shown. -/
def fuelLeft : Option Nat := store.fuel.map Int.toNat

/-- The state with fuel taken away. -/
def charge (spent : Nat) : Store H :=
  { store with fuel := store.fuel.map (· - spent) }

/-- Whether metered fuel would be used up after spending some. -/
def exhausted (spent : Nat) : Bool :=
  match store.fuel with
  | some fuel => fuel ≤ spent
  | none => false

/-- A memory whose least size is within the limit for all memories. -/
def addMemory? (size : SizeRange) : Option (Nat × Store H) :=
  if pageSize * size.least ≤ store.byteLimit then
    some (store.memories.size,
      { store with memories := store.memories.push ⟨.zeros size.least, size.greatest⟩ })
  else none

def addTable (shape : TableShape) : Nat × Store H :=
  let items := Array.replicate shape.size.least (Value.zero shape.element)
  let table := ⟨shape.element, items, shape.size.greatest⟩
  (store.tables.size, { store with tables := store.tables.push table })

def addGlobal (shape : GlobalShape) (value : Value) : Nat × Store H :=
  (store.globals.size, { store with globals := store.globals.push ⟨shape, value⟩ })

def updateMemory (address : Nat) (change : Memory → Memory) : Store H :=
  { store with memories := store.memories.modify address change }

/-- The state with bytes stored in a memory from an address on. -/
def storeBytes (address start : Nat) (bytes : List UInt8) : Store H :=
  store.updateMemory address fun memory =>
    { memory with bytes := Bytes.storeAll memory.bytes start bytes }

/-- The state with `delta` zero pages at the end of a memory. -/
def growMemory (address delta : Nat) : Store H :=
  store.updateMemory address fun memory => memory.grow delta

/-- Items with others stored from an index on. -/
def place (items : Array Value) (start : Nat) : List Value → Array Value
  | [] => items
  | item :: rest => place (items.setIfInBounds start item) (start + 1) rest

/-- The state with references stored in a table from an index on. -/
def storeItems (address start : Nat) (items : List Value) : Store H :=
  { store with tables := store.tables.modify address fun table =>
      { table with items := place table.items start items } }

/-- The state with `count` copies of a reference at the end of a table. -/
def growTable (address count : Nat) (item : Value) : Store H :=
  { store with tables := store.tables.modify address fun table =>
      { table with items := table.items ++ Array.replicate count item } }

def updateGlobal (address : Nat) (value : Value) : Store H :=
  { store with globals := store.globals.modify address fun global =>
      { global with value := value } }

def updateInstance (owner : Nat) (change : Instance → Instance) : Store H :=
  { store with instances := store.instances.modify owner change }

/-- Why a memory cannot be made. -/
def tooManyPages (least : Nat) : String :=
  "memory minimum size of " ++ toString least ++ " pages exceeds memory limits"

/-- Why an instance cannot be made that would be the one with this number. -/
def tooManyInstances (number : Nat) : String :=
  "resource limit exceeded: instance count too high at " ++ toString number

end Store

end WasmSandbox.Wasm
