import WasmSandbox.Boundary.Item
import WasmSandbox.Context.Value

/-!
Contract: handles of everything a context holds.

Owns:
- handles of memories, tables, globals and instances, each with the context that
  it belongs to;
- items, which instances can import and export, with their sort and their owner.

A handle is a context and a position in it.  It says nothing about any other
context, even where the position exists there.

Does not own: what handles stand for.
-/

namespace WasmSandbox

/-- A memory of a context.  Its greatest size is as declared where the handle comes
from: an instance that exports an imported memory declares it anew. -/
structure MemoryHandle where
  context : ContextId
  address : Nat
  maximum : Option UInt64
deriving DecidableEq, Repr

/-- A table of a context.  Its greatest size is as declared where the handle comes
from. -/
structure TableHandle where
  context : ContextId
  address : Nat
  maximum : Option UInt64
deriving DecidableEq, Repr

/-- A global of a context.  Its type never changes and is kept in the handle. -/
structure GlobalHandle where
  context : ContextId
  address : Nat
  type : GlobalType
deriving DecidableEq, Repr

/-- An instance of a context, as its position in the list of instances. -/
structure InstanceHandle where
  context : ContextId
  index : Nat
deriving DecidableEq, Repr

/-- Anything an instance can import or export. -/
inductive Item where
  | func (handle : FuncHandle)
  | memory (handle : MemoryHandle)
  | table (handle : TableHandle)
  | global (handle : GlobalHandle)
deriving DecidableEq, Repr

namespace Item

def kind : Item → ItemKind
  | func _ => .func
  | memory _ => .memory
  | table _ => .table
  | global _ => .global

def context : Item → ContextId
  | func handle => handle.context
  | memory handle => handle.context
  | table handle => handle.context
  | global handle => handle.context

/-- The handle, for functions. -/
def func? : Item → Option FuncHandle
  | func handle => some handle
  | _ => none

/-- The handle, for memories. -/
def memory? : Item → Option MemoryHandle
  | memory handle => some handle
  | _ => none

/-- The handle, for tables. -/
def table? : Item → Option TableHandle
  | table handle => some handle
  | _ => none

/-- The handle, for globals. -/
def global? : Item → Option GlobalHandle
  | global handle => some handle
  | _ => none

end Item

end WasmSandbox
