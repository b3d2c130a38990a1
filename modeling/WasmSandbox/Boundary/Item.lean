import WasmSandbox.Boundary.Limits
import WasmSandbox.Boundary.Signature

/-!
Contract: the types of everything an instance can import or export.

Owns:
- item kinds and item types (function, memory, table, global);
- acceptance: when an item of one type satisfies an import of another;
- import and export declarations, and all texts.

Does not own: the items themselves, which live in a context.
-/

namespace WasmSandbox

/-- The type of a global: the kind of its content, and whether it can change. -/
structure GlobalType where
  content : ValueKind
  mutable : Bool
deriving DecidableEq, Repr

/-- A global type is written `i32`, or `(mut i32)` when it can change. -/
def GlobalType.text (type : GlobalType) : String :=
  if type.mutable then "(mut " ++ type.content.name ++ ")" else type.content.name

/-- Limits of a linear memory, in pages of 64 KiB. -/
structure MemoryType where
  limits : Limits
deriving DecidableEq, Repr

/-- The kind of a table's elements and the limits of its size. -/
structure TableType where
  element : ValueKind
  limits : Limits
deriving DecidableEq, Repr

/-- The four sorts of items. -/
inductive ItemKind where
  | func
  | memory
  | table
  | global
deriving DecidableEq, Repr

namespace ItemKind

def name : ItemKind → String
  | func => "func"
  | memory => "memory"
  | table => "table"
  | global => "global"

/-- All sorts of items, in the order of their declaration. -/
def all : List ItemKind := [func, memory, table, global]

def ofName? (text : String) : Option ItemKind :=
  all.find? fun kind => kind.name == text

end ItemKind

/-- The type of an item that can be imported or exported. -/
inductive ItemType where
  | func (signature : Signature)
  | memory (type : MemoryType)
  | table (type : TableType)
  | global (type : GlobalType)
deriving DecidableEq, Repr

namespace ItemType

def kind : ItemType → ItemKind
  | func _ => .func
  | memory _ => .memory
  | table _ => .table
  | global _ => .global

/-- The signature, for function types. -/
def signature? : ItemType → Option Signature
  | func signature => some signature
  | _ => none

/-- An import of type `declared` is satisfied by an item of type `provided`:
functions and globals must agree exactly, memories and tables follow their
limits, and a table's elements must be of the same kind. -/
def accepts : (declared provided : ItemType) → Bool
  | func declared, func provided => declared = provided
  | global declared, global provided => declared = provided
  | memory declared, memory provided => declared.limits.satisfiedBy provided.limits
  | table declared, table provided =>
      declared.element = provided.element && declared.limits.satisfiedBy provided.limits
  | _, _ => false

/-- An item type is written as its sort followed by the type of that sort. -/
def text : ItemType → String
  | func signature => "func " ++ signature.text
  | memory type => "memory " ++ type.limits.text
  | table type => "table " ++ type.element.name ++ " " ++ type.limits.text
  | global type => "global " ++ type.text

end ItemType

/-- One declared import: where it is looked up, and what is expected there. -/
structure ImportDecl where
  module : String
  name : String
  type : ItemType
deriving DecidableEq, Repr

/-- An import is written `module::name: type`. -/
def ImportDecl.text (decl : ImportDecl) : String :=
  decl.module ++ "::" ++ decl.name ++ ": " ++ decl.type.text

/-- One declared export. -/
structure ExportDecl where
  name : String
  type : ItemType
deriving DecidableEq, Repr

end WasmSandbox
