import WasmSandbox.Context.Access
import WasmSandbox.Wasm.Instantiation

/-!
Contract: the check of imports before an instance is made.

Owns:
- the type that an item has now;
- the check of one item against a declared import, and the walk over all of them;
- the failures of the walk, in their order of precedence for one import: missing,
  foreign, of another kind, of another signature, incompatible.

The first import that fails decides.  Items beyond the declared imports are only
noticed when every import is satisfied.  The walk changes nothing.

Does not own: what the engine does with the items.
-/

namespace WasmSandbox

open Wasm

namespace Context

variable {σ : Type} (context : Context σ)

/-- The current type of an item, and what it is in the engine. -/
def describe (item : Item) : Except String (ItemType × Extern) :=
  match item with
  | .func handle =>
      match context.funcEntry? handle with
      | some entry => .ok (.func entry.signature, .func entry.key)
      | none => .error (CallError.message .foreignHandle)
  | .memory handle =>
      match context.memoryType handle with
      | .ok type => .ok (.memory type, .memory handle.address)
      | .error error => .error error.message
  | .table handle =>
      match context.tableType? handle with
      | some type => .ok (.table type, .table handle.address)
      | none => .error "unknown table"
  | .global handle => .ok (.global handle.type, .global handle.address)

def checkImport (declared : ImportDecl) (item : Item) : Except LinkError Extern := do
  if item.context ≠ context.id then throw (.foreignImport declared.module declared.name)
  match context.describe item with
  | .error reason => throw (.instantiate reason)
  | .ok (type, lowered) =>
      if type.kind ≠ declared.type.kind then
        throw (.kindMismatch declared.module declared.name declared.type.kind type.kind)
      match declared.type, type with
      | .func expected, .func provided =>
          if expected ≠ provided then
            throw (.signatureMismatch declared.module declared.name expected provided)
      | _, _ => pure ()
      if !declared.type.accepts type then
        throw (.incompatibleType declared.module declared.name declared.type type)
      return lowered

/-- The check of items against declared imports, counted from `index`. -/
def walkImports (context : Context σ) (index : Nat) :
    List ImportDecl → List Item → Except LinkError (List Extern)
  | [], _ => .ok []
  | declared :: _, [] =>
      .error (.missingImport index declared.module declared.name declared.type)
  | declared :: declareds, item :: items => do
      let first ← context.checkImport declared item
      let rest ← walkImports context (index + 1) declareds items
      return first :: rest

/-- The items for an artifact as the engine takes them, one per declared import. -/
def resolveImports (artifact : Artifact) (items : List Item) : Except LinkError (List Extern) := do
  let resolved ← context.walkImports 0 artifact.imports items
  if items.length > artifact.imports.length then
    throw (.unexpectedImports artifact.imports.length items.length)
  return resolved

end Context

end WasmSandbox
