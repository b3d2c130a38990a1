import WasmSandbox.Wasm.Module
import WasmSandbox.Wasm.Text.Literal

/-!
Contract: what names stand for in the text form of modules.

Owns:
- the index spaces with the names of their entries;
- the list of function types, which grows by types that are only written in
  place;
- value types, and the type of a function or block.

A number may refer to a type that is only appended further on.  A module is
therefore read twice: the first time to collect the types, with an unknown type
read as `() -> ()`, and the second time with all types known.

Does not own: the parts of a module that bring names in.
-/

namespace WasmSandbox.Wasm.Text

/-- The names of the entries of each index space, in order. -/
structure Names where
  types : List (Option String) := []
  funcs : List (Option String) := []
  tables : List (Option String) := []
  memories : List (Option String) := []
  globals : List (Option String) := []
  elems : List (Option String) := []
  datas : List (Option String) := []
  locals : List (Option String) := []
  /-- Whether the list of function types is complete. -/
  settled : Bool := true

/-- Reading with the list of function types at hand. -/
abbrev Elaborating := StateT (Array FuncType) Reading

/-- The index an identifier or a number stands for. -/
def indexOf (space : List (Option String)) (tree : Tree) : Reading Nat :=
  match tree with
  | .name text =>
      match space.idxOf? (some text) with
      | some index => .ok index
      | none => .error ("unknown name " ++ text)
  | tree =>
      match word? tree with
      | some index => .ok index
      | none => .error "index expected"

def isIndex : Tree → Bool
  | .name _ => true
  | .word text => text.front.isDigit
  | _ => false

/-- The index in front, if there is one, and the rest. -/
def takeIndex (space : List (Option String)) (items : List Tree) :
    Reading (Option Nat × List Tree) :=
  match items with
  | tree :: rest =>
      if isIndex tree then do return (some (← indexOf space tree), rest) else .ok (none, items)
  | [] => .ok (none, [])

/-- The index that must stand in front, and the rest. -/
def needIndex (space : List (Option String)) (items : List Tree) : Reading (Nat × List Tree) :=
  match items with
  | tree :: rest => do return (← indexOf space tree, rest)
  | [] => .error "index expected"

def heapType (tree : Tree) : Reading ValType :=
  match tree with
  | .word "func" => .ok .funcRef
  | .word "extern" => .ok .externRef
  | _ => .error "heap type expected"

def valType (tree : Tree) : Reading ValType :=
  match tree with
  | .word "i32" => .ok .i32
  | .word "i64" => .ok .i64
  | .word "f32" => .ok .f32
  | .word "f64" => .ok .f64
  | .word "v128" => .ok .v128
  | .word "funcref" => .ok .funcRef
  | .word "anyfunc" => .ok .funcRef
  | .word "externref" => .ok .externRef
  | .list [.word "ref", .word "null", heap] => heapType heap
  | _ => .error "value type expected"

def refType (tree : Tree) : Reading ValType := do
  let type ← valType tree
  if type.isReference then return type else .error "reference type expected"

/-- A list of parameters or locals: one with a name, or any number without. -/
def declaredTypes (items : List Tree) : Reading (List (Option String × ValType)) :=
  match items with
  | .name name :: rest =>
      match rest with
      | [type] => do return [(some name, ← valType type)]
      | _ => .error "one type expected after a name"
  | items => items.mapM fun item => do return (none, ← valType item)

/-- Parameters with their names, results, and the rest. -/
def takeSignature (items : List Tree) :
    Reading (List (Option String) × FuncType × List Tree) := do
  let (params, rest) := takeLists "param" items
  let (results, rest) := takeLists "result" rest
  let params := (← params.mapM declaredTypes).flatten
  let results := (← results.mapM fun items => items.mapM valType).flatten
  return (params.map Prod.fst, ⟨params.map Prod.snd, results⟩, rest)

def typeAt (names : Names) (index : Nat) : Elaborating FuncType := do
  match (← get)[index]? with
  | some type => return type
  | none => if names.settled then throw "unknown type" else return ⟨[], []⟩

/-- Appends a function type to the list unless it is in it. -/
def registerType (type : FuncType) : Elaborating Unit :=
  modify fun types => if types.contains type then types else types.push type

/-- The type of a function or block, written by its number, in place, or both ways,
with the names of the parameters, and the rest.  A type in place is registered
where `register` says so. -/
def takeType (names : Names) (register : FuncType → Bool) (items : List Tree) :
    Elaborating (List (Option String) × FuncType × List Tree) := do
  match items with
  | .list (.word "type" :: reference) :: rest =>
      let index ←
        match reference with
        | [tree] => indexOf names.types tree
        | _ => throw "one type expected"
      let type ← typeAt names index
      let (params, written, rest) ← takeSignature rest
      if written.params.isEmpty && written.results.isEmpty then
        return (type.params.map fun _ => none, type, rest)
      else if names.settled && written ≠ type then throw "inline type does not match"
      else return (params, written, rest)
  | items =>
      let (params, type, rest) ← takeSignature items
      if register type then registerType type
      return (params, type, rest)

/-- The type of a block.  Blocks that take nothing and give at most one value need
no entry in the list of types; parameters of blocks have no names. -/
def takeBlockType (names : Names) (items : List Tree) : Elaborating (FuncType × List Tree) := do
  let (params, type, rest) ←
    takeType names (fun type => !type.params.isEmpty || type.results.length > 1) items
  if params.any Option.isSome then throw "block parameters have no names"
  return (type, rest)

def takeCallType (names : Names) (items : List Tree) : Elaborating (FuncType × List Tree) := do
  let (params, type, rest) ← takeType names (fun _ => true) items
  if params.any Option.isSome then throw "parameters of a call have no names"
  return (type, rest)

/-- A text: a string of bytes that are UTF-8. -/
def text (tree : Tree) : Reading String :=
  match tree with
  | .string bytes =>
      match textOf? bytes with
      | some text => .ok text
      | none => .error "malformed UTF-8"
  | _ => .error "string expected"

end WasmSandbox.Wasm.Text
