import WasmSandbox.Wasm.Instruction

/-!
Contract: modules of the guest language, as both the text form and the binary
form describe them.

Owns:
- the parts of a module, each in the order of its declaration;
- the index spaces, in which imports come before definitions.

Does not own: the two forms, or which modules are valid.
-/

namespace WasmSandbox.Wasm

/-- The type of an imported item. -/
inductive ImportShape where
  | func (type : FuncType)
  | table (shape : TableShape)
  | memory (shape : MemoryShape)
  | global (shape : GlobalShape)
deriving DecidableEq, Repr

/-- A declared import. -/
structure Import where
  module : String
  name : String
  shape : ImportShape
deriving DecidableEq, Repr

/-- A defined function.  `locals` are those beyond the parameters. -/
structure FuncDef where
  type : FuncType
  locals : List ValType
  body : List Instr
deriving Repr

/-- A defined global with its constant initializer. -/
structure GlobalDef where
  shape : GlobalShape
  init : List Instr
deriving Repr

/-- The item an export stands for, by its index. -/
inductive ExportTarget where
  | func (index : Nat)
  | table (index : Nat)
  | memory (index : Nat)
  | global (index : Nat)
deriving DecidableEq, Repr

/-- A declared export. -/
structure Export where
  name : String
  target : ExportTarget
deriving DecidableEq, Repr

/-- When a segment is copied: on demand, at instantiation to a place, or never. -/
inductive SegmentMode where
  | passive
  | active (index : Nat) (offset : List Instr)
  | declarative
deriving Repr

/-- A segment of references, each given by a constant expression. -/
structure ElemSegment where
  type : ValType
  items : List (List Instr)
  mode : SegmentMode
deriving Repr

/-- A segment of bytes. -/
structure DataSegment where
  bytes : List UInt8
  mode : SegmentMode
deriving Repr

/-- A module. -/
structure Module where
  name : Option String := none
  types : List FuncType := []
  imports : List Import := []
  funcs : List FuncDef := []
  tables : List TableShape := []
  memories : List MemoryShape := []
  globals : List GlobalDef := []
  exports : List Export := []
  start : Option Nat := none
  elems : List ElemSegment := []
  datas : List DataSegment := []
deriving Repr

namespace Module

variable (module : Module)

def importedFuncs : List FuncType :=
  module.imports.filterMap fun item =>
    match item.shape with
    | .func type => some type
    | _ => none

def importedTables : List TableShape :=
  module.imports.filterMap fun item =>
    match item.shape with
    | .table shape => some shape
    | _ => none

def importedMemories : List MemoryShape :=
  module.imports.filterMap fun item =>
    match item.shape with
    | .memory shape => some shape
    | _ => none

def importedGlobals : List GlobalShape :=
  module.imports.filterMap fun item =>
    match item.shape with
    | .global shape => some shape
    | _ => none

def funcTypes : List FuncType :=
  module.importedFuncs ++ module.funcs.map FuncDef.type

def tableShapes : List TableShape :=
  module.importedTables ++ module.tables

def memoryShapes : List MemoryShape :=
  module.importedMemories ++ module.memories

def globalShapes : List GlobalShape :=
  module.importedGlobals ++ module.globals.map GlobalDef.shape

end Module

end WasmSandbox.Wasm
