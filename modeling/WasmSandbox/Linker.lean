import WasmSandbox.Context.Call

/-!
Contract: linking by name.

Owns:
- definitions of items under a module name and a name;
- the refusal of a second definition, unless shadowing is allowed;
- the list of items for an artifact, in the order of its imports.

The context sees nothing of a name that is not defined: resolution comes first, and
only its complete result is linked.

Does not own: the check of items against imports.
-/

namespace WasmSandbox

/-- Items under pairs of names. -/
structure Linker where
  definitions : List ((String × String) × Item) := []
  allowShadowing : Bool := false

namespace Linker

variable (linker : Linker)

/-- The linker with shadowing allowed or not from now on. -/
def setShadowing (allow : Bool) : Linker :=
  { linker with allowShadowing := allow }

def get? (module name : String) : Option Item :=
  linker.definitions.lookup (module, name)

/-- The linker with one more definition, which hides an earlier one. -/
def define (module name : String) (item : Item) : Except LinkError Linker :=
  if !linker.allowShadowing && (linker.get? module name).isSome then
    .error (.duplicate module name)
  else .ok { linker with definitions := ((module, name), item) :: linker.definitions }

/-- The linker with definitions under one module name, in order, up to the first one
that is refused. -/
def defineAll (linker : Linker) (module : String) :
    List (String × Item) → Option LinkError × Linker
  | [] => (none, linker)
  | (name, item) :: rest =>
      match linker.define module name item with
      | .ok linker => defineAll linker module rest
      | .error error => (some error, linker)

variable {σ : Type}

/-- Makes a host function and defines it.  The function is made in any case. -/
def defineFunc (context : Context σ) (module name : String) (signature : Signature)
    (body : Closure σ) : Except LinkError Linker × Context σ :=
  let (func, context) := context.createFunc signature body
  (linker.define module name (.func func), context)

/-- Defines every export of an instance under one module name. -/
def defineInstance (context : Context σ) (module : String) (inst : InstanceHandle) :
    (Option LinkError × Linker) × Context σ :=
  let (items, context) := context.exports inst
  (linker.defineAll module items, context)

/-- The items for imports that are counted from `index`. -/
def resolveFrom (index : Nat) : List ImportDecl → Except LinkError (List Item)
  | [] => .ok []
  | declared :: rest =>
      match linker.get? declared.module declared.name with
      | some item => do return item :: (← resolveFrom (index + 1) rest)
      | none => .error (.missingImport index declared.module declared.name declared.type)

/-- The items for the imports of an artifact, in their order. -/
def resolve (artifact : Artifact) : Except LinkError (List Item) :=
  linker.resolveFrom 0 artifact.imports

/-- Links an artifact with the items that its imports name. -/
def link (context : Context σ) (artifact : Artifact) :
    Context.Ending (Except LinkError InstanceHandle) × Context σ :=
  match linker.resolve artifact with
  | .error error => (.answered (.error error), context)
  | .ok items => context.link artifact items

end Linker

end WasmSandbox
