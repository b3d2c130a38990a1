import WasmSandbox.Boundary.Item
import WasmSandbox.Failure.Taxonomy
import WasmSandbox.Wasm.Module

/-!
Contract: what a module shows of itself at the boundary.

Owns:
- the correspondence of boundary kinds and guest value types, both ways;
- the description of every import and export of a module, in the order of their
  declaration;
- the reason why an item cannot cross, and the first item that has one.

Imports are looked at before exports.

Does not own: which modules the engine accepts.
-/

namespace WasmSandbox

open Wasm

def ValueKind.guest : ValueKind → ValType
  | .i32 => .i32
  | .i64 => .i64
  | .f32 => .f32
  | .f64 => .f64
  | .funcRef => .funcRef

/-- The kind whose values a guest type holds, for the types that cross. -/
def ValueKind.ofGuest? : ValType → Option ValueKind
  | .i32 => some .i32
  | .i64 => some .i64
  | .f32 => some .f32
  | .f64 => some .f64
  | .funcRef => some .funcRef
  | .v128 => none
  | .externRef => none

/-- The kinds of a list of guest types; the first type that does not cross is the
reason of a failure. -/
def ValueKind.listOfGuest : List ValType → Except String (List ValueKind)
  | [] => .ok []
  | type :: rest =>
      match ofGuest? type with
      | some kind => do return kind :: (← listOfGuest rest)
      | none => .error ("value type " ++ type.text ++ " cannot cross the boundary")

def Signature.guest (signature : Signature) : FuncType :=
  ⟨signature.params.map ValueKind.guest, signature.results.map ValueKind.guest⟩

def Signature.ofGuest (type : FuncType) : Except String Signature := do
  let params ← ValueKind.listOfGuest type.params
  let results ← ValueKind.listOfGuest type.results
  return ⟨params, results⟩

def Limits.ofGuest (size : SizeRange) : Limits :=
  ⟨UInt64.ofNat size.least, size.greatest.map UInt64.ofNat⟩

/-- The type of a memory; shared memories do not cross.  Memories with 64-bit addresses
would not either, but there are none: no configuration switches them on in the engine,
so `WasmSandbox.Wasm.Features` does not name them, and a module that declares one is
malformed before its memories are looked at. -/
def MemoryType.ofGuest (shape : MemoryShape) : Except String MemoryType :=
  if shape.shared then .error "shared memories are not supported"
  else .ok ⟨.ofGuest shape.size⟩

/-- The type of a table; only tables of functions cross. -/
def TableType.ofGuest (shape : TableShape) : Except String TableType :=
  match ValueKind.ofGuest? shape.element with
  | some .funcRef => .ok ⟨.funcRef, .ofGuest shape.size⟩
  | _ => .error ("table element type " ++ shape.element.text ++ " is not supported")

def GlobalType.ofGuest (shape : GlobalShape) : Except String GlobalType :=
  match ValueKind.ofGuest? shape.content with
  | some content => .ok ⟨content, shape.mutable⟩
  | none => .error ("global type " ++ shape.content.text ++ " cannot cross the boundary")

def ItemType.ofGuest : ImportShape → Except String ItemType
  | .func type => do return .func (← Signature.ofGuest type)
  | .memory shape => do return .memory (← MemoryType.ofGuest shape)
  | .table shape => do return .table (← TableType.ofGuest shape)
  | .global shape => do return .global (← GlobalType.ofGuest shape)

def Wasm.Module.exportShape? (module : Module) : ExportTarget → Option ImportShape
  | .func index => module.funcTypes[index]?.map .func
  | .table index => module.tableShapes[index]?.map .table
  | .memory index => module.memoryShapes[index]?.map .memory
  | .global index => module.globalShapes[index]?.map .global

/-- What a module shows: its imports and its exports. -/
structure Surface where
  imports : List ImportDecl
  exports : List ExportDecl
deriving DecidableEq, Repr

namespace Surface

/-- The description of an import. -/
def ofImport (item : Import) : Except CompileError ImportDecl :=
  match ItemType.ofGuest item.shape with
  | .ok type => .ok ⟨item.module, item.name, type⟩
  | .error reason =>
      .error (.unsupported ("import `" ++ item.module ++ "::" ++ item.name ++ "`") reason)

/-- The description of an export.  A valid module exports only items it has. -/
def ofExport (module : Module) (item : Export) : Except CompileError ExportDecl :=
  match module.exportShape? item.target with
  | none => .error (.malformed "unknown export")
  | some shape =>
      match ItemType.ofGuest shape with
      | .ok type => .ok ⟨item.name, type⟩
      | .error reason => .error (.unsupported ("export `" ++ item.name ++ "`") reason)

/-- The surface of a module, or the first of its items that cannot cross. -/
def ofModule (module : Module) : Except CompileError Surface := do
  let imports ← module.imports.mapM ofImport
  let exports ← module.exports.mapM (ofExport module)
  return ⟨imports, exports⟩

end Surface

end WasmSandbox
