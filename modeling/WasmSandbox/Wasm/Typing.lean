import WasmSandbox.Wasm.Module

/-!
Contract: which modules are valid.

Owns:
- the typing of instruction sequences over a stack of operand types;
- constant expressions;
- the checks of every part of a module against its index spaces.

Code after an unconditional branch cannot be reached: there the stack supplies
an operand of any type.  Such an operand is written `none`.

Does not own: what the texts of the reasons are used for; they are diagnostics.
-/

namespace WasmSandbox.Wasm

/-- The proposals that can be switched off. -/
structure Features where
  simd : Bool
  threads : Bool
  multiMemory : Bool
deriving DecidableEq, Repr

/-- The index spaces that instructions refer to. -/
structure Scope where
  features : Features
  funcs : Array FuncType
  tables : Array TableShape
  memories : Array MemoryShape
  globals : Array GlobalShape
  elems : Array ValType
  datas : Nat
  /-- The functions that code may take a reference of. -/
  declared : List Nat
  locals : Array ValType
  results : List ValType

/-- The operand types on the stack, the top one first. -/
structure Operands where
  types : List (Option ValType)
  /-- Whether the code cannot be reached. -/
  unreachable : Bool

/-- The outcome of a check, with a diagnostic. -/
abbrev Check := Except String

/-- Fails with a diagnostic unless a condition holds. -/
def require (condition : Bool) (diagnostic : String) : Check Unit :=
  if condition then .ok () else .error diagnostic

/-- The entry of an index space. -/
def entry {α : Type} (space : Array α) (index : Nat) (name : String) : Check α :=
  match space[index]? with
  | some value => .ok value
  | none => .error ("unknown " ++ name ++ " " ++ toString index)

namespace Operands

/-- An empty stack that can be reached. -/
def empty : Operands := ⟨[], false⟩

/-- A stack of which nothing is known. -/
def anything : Operands := ⟨[], true⟩

def push (operands : Operands) (type : ValType) : Operands :=
  { operands with types := some type :: operands.types }

/-- The stack with more operands, the last one on top. -/
def pushAll (operands : Operands) (types : List ValType) : Operands :=
  types.foldl push operands

/-- The top operand, whatever its type. -/
def popAny (operands : Operands) : Check (Option ValType × Operands) :=
  match operands.types with
  | type :: rest => .ok (type, { operands with types := rest })
  | [] => if operands.unreachable then .ok (none, operands) else .error "operand expected"

/-- The stack without its top operand, which must have the given type. -/
def pop (operands : Operands) (expected : ValType) : Check Operands := do
  let (found, rest) ← operands.popAny
  require (found.isNone || found = some expected) "operand of another type expected"
  return rest

/-- The stack without operands of the given types, the last of which is on top. -/
def popAll (operands : Operands) (expected : List ValType) : Check Operands :=
  expected.reverse.foldlM pop operands

def apply (operands : Operands) (type : FuncType) : Check Operands := do
  return (← operands.popAll type.params).pushAll type.results

end Operands

/-- Whether a value type may be used at all. -/
def Features.allow (features : Features) (type : ValType) : Bool :=
  type ≠ .v128 || features.simd

namespace Scope

variable (scope : Scope)

/-- The check of a memory access: the memory exists, and the alignment is at most
the natural one, or exactly that for an atomic access. -/
def checkAccess (shape : AccessShape) (arg : MemArg) : Check Unit := do
  let _ ← entry scope.memories arg.memory "memory"
  require (!shape.atomic || scope.features.threads) "threads are not enabled"
  require (if shape.atomic then arg.align = shape.bytes else arg.align ≤ shape.bytes)
    "alignment must fit the access"

/-- The types that a branch to a label hands on. -/
def labelTypes (labels : List (List ValType)) (label : Nat) : Check (List ValType) :=
  match labels[label]? with
  | some types => .ok types
  | none => .error "unknown label"

/-- Indirect calls go through a table of functions. -/
def requireFuncTable (table : Nat) : Check Unit := do
  require ((← entry scope.tables table "table").element = .funcRef) "table of functions expected"

/-- The stack after an instruction that returns from the function when a call of
the given type does. -/
def checkTailCall (operands : Operands) (type : FuncType) : Check Operands := do
  require (type.results = scope.results) "tail call of another type"
  let _ ← operands.popAll type.params
  return .anything

/-- The stack after `select`.  Without a type the operands must be numbers or
vectors of one type. -/
def checkSelect (type : Option ValType) (operands : Operands) : Check Operands := do
  let operands ← operands.pop .i32
  match type with
  | some type => operands.apply ⟨[type, type], [type]⟩
  | none =>
      let (first, operands) ← operands.popAny
      let (second, operands) ← operands.popAny
      require (first.all (!·.isReference) && second.all (!·.isReference))
        "select without a type takes no references"
      match first, second with
      | some a, some b =>
          require (a = b) "select takes operands of one type"
          return operands.push a
      | some a, none => return operands.push a
      | none, other => return { operands with types := other :: operands.types }

/-- A block may only use types that are allowed. -/
def checkBlockType (type : FuncType) : Check Unit :=
  require ((type.params ++ type.results).all scope.features.allow) "type is not enabled"

/-- The stack after an instruction without nested code. -/
def checkPlain (labels : List (List ValType)) (operands : Operands) : Instr → Check Operands
  | .unreachable => return .anything
  | .nop => return operands
  | .drop => do return (← operands.popAny).2
  | .select type => do
      require (type.all scope.features.allow) "type is not enabled"
      checkSelect type operands
  | .const value => do
      require (scope.features.allow value.type) "type is not enabled"
      return operands.push value.type
  | .numeric op => operands.apply op.type
  | .localGet index => do return operands.push (← entry scope.locals index "local")
  | .localSet index => do operands.pop (← entry scope.locals index "local")
  | .localTee index => do
      let type ← entry scope.locals index "local"
      operands.apply ⟨[type], [type]⟩
  | .globalGet index => do return operands.push (← entry scope.globals index "global").content
  | .globalSet index => do
      let shape ← entry scope.globals index "global"
      require shape.mutable "global is immutable"
      operands.pop shape.content
  | .tableGet table => do
      operands.apply ⟨[.i32], [(← entry scope.tables table "table").element]⟩
  | .tableSet table => do
      operands.apply ⟨[.i32, (← entry scope.tables table "table").element], []⟩
  | .tableSize table => do
      let _ ← entry scope.tables table "table"
      return operands.push .i32
  | .tableGrow table => do
      operands.apply ⟨[(← entry scope.tables table "table").element, .i32], [.i32]⟩
  | .tableFill table => do
      operands.apply ⟨[.i32, (← entry scope.tables table "table").element, .i32], []⟩
  | .tableCopy target source => do
      let target ← entry scope.tables target "table"
      let source ← entry scope.tables source "table"
      require (target.element = source.element) "tables of one element type expected"
      operands.apply ⟨[.i32, .i32, .i32], []⟩
  | .tableInit table segment => do
      let table ← entry scope.tables table "table"
      let type ← entry scope.elems segment "elem segment"
      require (table.element = type) "segment of another element type"
      operands.apply ⟨[.i32, .i32, .i32], []⟩
  | .elemDrop segment => do
      let _ ← entry scope.elems segment "elem segment"
      return operands
  | .load shape arg => do
      scope.checkAccess shape arg
      operands.apply ⟨[.i32], [shape.type]⟩
  | .store shape arg => do
      scope.checkAccess shape arg
      operands.apply ⟨[.i32, shape.type], []⟩
  | .fence => do
      require scope.features.threads "threads are not enabled"
      return operands
  | .memorySize memory => do
      let _ ← entry scope.memories memory "memory"
      return operands.push .i32
  | .memoryGrow memory => do
      let _ ← entry scope.memories memory "memory"
      operands.apply ⟨[.i32], [.i32]⟩
  | .memoryFill memory => do
      let _ ← entry scope.memories memory "memory"
      operands.apply ⟨[.i32, .i32, .i32], []⟩
  | .memoryCopy target source => do
      let _ ← entry scope.memories target "memory"
      let _ ← entry scope.memories source "memory"
      operands.apply ⟨[.i32, .i32, .i32], []⟩
  | .memoryInit memory segment => do
      let _ ← entry scope.memories memory "memory"
      require (segment < scope.datas) "unknown data segment"
      operands.apply ⟨[.i32, .i32, .i32], []⟩
  | .dataDrop segment => do
      require (segment < scope.datas) "unknown data segment"
      return operands
  | .refNull type => return operands.push type
  | .refIsNull => do
      let (type, operands) ← operands.popAny
      require (type.all ValType.isReference) "reference expected"
      return operands.push .i32
  | .refFunc func => do
      let _ ← entry scope.funcs func "func"
      require (scope.declared.contains func) "undeclared function reference"
      return operands.push .funcRef
  | .br label => do
      let _ ← operands.popAll (← labelTypes labels label)
      return .anything
  | .brIf label => do
      let operands ← operands.pop .i32
      let types ← labelTypes labels label
      operands.apply ⟨types, types⟩
  | .brTable targets fallback => do
      let operands ← operands.pop .i32
      let types ← labelTypes labels fallback
      targets.forM fun target => do
        let other ← labelTypes labels target
        require (other.length = types.length) "labels of one arity expected"
        let _ ← operands.popAll other
      let _ ← operands.popAll types
      return .anything
  | .return => do
      let _ ← operands.popAll scope.results
      return .anything
  | .call func => do operands.apply (← entry scope.funcs func "func")
  | .callIndirect table type => do
      scope.requireFuncTable table
      (← operands.pop .i32).apply type
  | .returnCall func => do scope.checkTailCall operands (← entry scope.funcs func "func")
  | .returnCallIndirect table type => do
      scope.requireFuncTable table
      scope.checkTailCall (← operands.pop .i32) type
  | .block _ _ | .loop _ _ | .ifElse _ _ _ => .error "plain instruction expected"

/-- A nested sequence must leave exactly its results. -/
def closeBlock (operands : Operands) (results : List ValType) : Check Unit := do
  let rest ← operands.popAll results
  require rest.types.isEmpty "operands left at the end of a block"

mutual

/-- The stack after an instruction; `labels` holds what a branch to each
enclosing block hands on, the innermost first. -/
def checkInstr (labels : List (List ValType)) (operands : Operands) : Instr → Check Operands
  | .block type body => do
      scope.checkBlockType type
      let rest ← operands.popAll type.params
      closeBlock (← checkSeq (type.results :: labels) (Operands.empty.pushAll type.params) body)
        type.results
      return rest.pushAll type.results
  | .loop type body => do
      scope.checkBlockType type
      let rest ← operands.popAll type.params
      closeBlock (← checkSeq (type.params :: labels) (Operands.empty.pushAll type.params) body)
        type.results
      return rest.pushAll type.results
  | .ifElse type yes no => do
      scope.checkBlockType type
      let operands ← operands.pop .i32
      let rest ← operands.popAll type.params
      closeBlock (← checkSeq (type.results :: labels) (Operands.empty.pushAll type.params) yes)
        type.results
      closeBlock (← checkSeq (type.results :: labels) (Operands.empty.pushAll type.params) no)
        type.results
      return rest.pushAll type.results
  | instr => scope.checkPlain labels operands instr

/-- The stack after a sequence of instructions. -/
def checkSeq (labels : List (List ValType)) (operands : Operands) :
    List Instr → Check Operands
  | [] => .ok operands
  | instr :: rest => do checkSeq labels (← checkInstr labels operands instr) rest

end

/-- A sequence as the body of a function with the given results. -/
def checkBody (results : List ValType) (body : List Instr) : Check Unit := do
  closeBlock (← scope.checkSeq [results] .empty body) results

/-- Whether an instruction may stand in a constant expression.  Of the globals
only imported ones that cannot change have a value by then. -/
def isConstant (importedGlobals : Nat) : Instr → Bool
  | .const _ => true
  | .refNull _ => true
  | .refFunc _ => true
  | .globalGet index =>
      index < importedGlobals && scope.globals[index]?.any (!·.mutable)
  | .numeric (.intBinary _ op) => op = .add || op = .sub || op = .mul
  | _ => false

def checkConstant (importedGlobals : Nat) (type : ValType) (init : List Instr) : Check Unit := do
  require (init.all (scope.isConstant importedGlobals)) "constant expression required"
  scope.checkBody [type] init

end Scope

/-! ## Modules -/

def Instr.funcRefs : Instr → List Nat
  | .refFunc func => [func]
  | _ => []

namespace Module

variable (module : Module)

/-- The functions that occur outside of function bodies. -/
def declaredFuncs : List Nat :=
  (module.exports.filterMap fun item =>
    match item.target with
    | .func index => some index
    | _ => none) ++
  (module.globals.flatMap fun item => item.init.flatMap Instr.funcRefs) ++
  (module.elems.flatMap fun segment => segment.items.flatMap (·.flatMap Instr.funcRefs))

/-- The index spaces of a module, outside of any function. -/
def scope (features : Features) : Scope where
  features := features
  funcs := module.funcTypes.toArray
  tables := module.tableShapes.toArray
  memories := module.memoryShapes.toArray
  globals := module.globalShapes.toArray
  elems := (module.elems.map ElemSegment.type).toArray
  datas := module.datas.length
  declared := module.declaredFuncs
  locals := #[]
  results := []

/-- A range of sizes must not be empty. -/
def checkSize (size : SizeRange) : Check Unit :=
  require (size.greatest.all (size.least ≤ ·)) "size minimum must not be greater than maximum"

/-- A table has at most ten million elements at first. -/
def checkTable (features : Features) (shape : TableShape) : Check Unit := do
  require (features.allow shape.element) "type is not enabled"
  checkSize shape.size
  require (shape.size.least ≤ 10000000) "minimum table size is out of bounds"

/-- A memory has at most 65536 pages; a shared one needs a greatest size. -/
def checkMemory (features : Features) (shape : MemoryShape) : Check Unit := do
  checkSize shape.size
  require (shape.size.least ≤ maxPages && shape.size.greatest.all (· ≤ maxPages))
    "memory size must be at most 65536 pages"
  require (!shape.shared || (features.threads && shape.size.greatest.isSome))
    "shared memory is not allowed here"

/-- A function type has at most a thousand parameters and a thousand results. -/
def checkFuncType (features : Features) (type : FuncType) : Check Unit := do
  require ((type.params ++ type.results).all features.allow) "type is not enabled"
  require (type.params.length ≤ 1000 && type.results.length ≤ 1000) "function type is too large"

/-- The type of an import must be allowed. -/
def checkImport (features : Features) (item : Import) : Check Unit :=
  match item.shape with
  | .func type => checkFuncType features type
  | .table shape => checkTable features shape
  | .memory shape => checkMemory features shape
  | .global shape => require (features.allow shape.content) "type is not enabled"

/-- A function is typed with its parameters and locals in scope. -/
def checkFunc (scope : Scope) (func : FuncDef) : Check Unit := do
  checkFuncType scope.features func.type
  require (func.locals.all scope.features.allow) "type is not enabled"
  let locals := func.type.params ++ func.locals
  require (locals.length ≤ 50000) "too many locals"
  { scope with locals := locals.toArray, results := func.type.results }.checkBody
    func.type.results func.body

/-- An export refers to an existing item. -/
def checkExport (scope : Scope) (item : Export) : Check Unit :=
  match item.target with
  | .func index => do let _ ← entry scope.funcs index "func"
  | .table index => do let _ ← entry scope.tables index "table"
  | .memory index => do let _ ← entry scope.memories index "memory"
  | .global index => do let _ ← entry scope.globals index "global"

/-- A start function takes nothing and gives nothing. -/
def checkStart (scope : Scope) (func : Nat) : Check Unit := do
  require ((← entry scope.funcs func "func") = ⟨[], []⟩) "invalid start function type"

/-- The references of a segment have its type, and so has the table it goes to. -/
def checkElem (scope : Scope) (importedGlobals : Nat) (segment : ElemSegment) : Check Unit := do
  segment.items.forM (scope.checkConstant importedGlobals segment.type)
  match segment.mode with
  | .active table offset => do
      require ((← entry scope.tables table "table").element = segment.type)
        "segment of another element type"
      scope.checkConstant importedGlobals .i32 offset
  | _ => return ()

/-- A segment of bytes that is copied at instantiation goes to a memory. -/
def checkData (scope : Scope) (importedGlobals : Nat) (segment : DataSegment) : Check Unit :=
  match segment.mode with
  | .active memory offset => do
      let _ ← entry scope.memories memory "memory"
      scope.checkConstant importedGlobals .i32 offset
  | _ => return ()

/-- A module is valid when each of its parts is. -/
def check (features : Features) : Check Unit := do
  let scope := module.scope features
  let imported := module.importedGlobals.length
  module.types.forM (checkFuncType features)
  module.imports.forM (checkImport features)
  module.tables.forM (checkTable features)
  module.memories.forM (checkMemory features)
  require (scope.tables.size ≤ 100) "too many tables"
  require (scope.memories.size ≤ if features.multiMemory then 100 else 1) "multiple memories"
  module.globals.forM fun item => do
    require (features.allow item.shape.content) "type is not enabled"
    { scope with declared := List.range scope.funcs.size }.checkConstant imported
      item.shape.content item.init
  require ((module.exports.map Export.name).Nodup) "duplicate export name"
  module.exports.forM (checkExport scope)
  module.start.forM (checkStart scope)
  module.elems.forM (checkElem scope imported)
  module.datas.forM (checkData scope imported)
  module.funcs.forM (checkFunc scope)

end Module

end WasmSandbox.Wasm
