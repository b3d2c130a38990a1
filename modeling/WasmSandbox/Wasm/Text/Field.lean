import WasmSandbox.Bytes.Space
import WasmSandbox.Wasm.Text.Code

/-!
Contract: modules in the text form.

Owns:
- the fields of a module: types, imports, definitions, exports, segments and the
  start function;
- exports, imports, elements and bytes that are written inside a definition;
- the order of fields: imports come before all definitions.

A field gives a list of parts, since a definition may bring exports and a segment
along.  A module is the collection of the parts of its fields.

Does not own: whether the module is valid.
-/

namespace WasmSandbox.Wasm.Text

/-- A part of a module. -/
inductive Part where
  | importItem (item : Import)
  | func (item : FuncDef)
  | table (shape : TableShape)
  | memory (shape : MemoryShape)
  | global (item : GlobalDef)
  | exportItem (item : Export)
  | start (func : Nat)
  | elem (segment : ElemSegment)
  | data (segment : DataSegment)
deriving Repr

/-! ## Names -/

def Names.enter (names : Names) (kind : String) (name : Option String) : Names :=
  match kind with
  | "type" => { names with types := names.types ++ [name] }
  | "func" => { names with funcs := names.funcs ++ [name] }
  | "table" => { names with tables := names.tables ++ [name] }
  | "memory" => { names with memories := names.memories ++ [name] }
  | "global" => { names with globals := names.globals ++ [name] }
  | "elem" => { names with elems := names.elems ++ [name] }
  | "data" => { names with datas := names.datas ++ [name] }
  | _ => names

/-- The names with those that a field brings in.  Elements and bytes inside a
definition are segments without a name. -/
def Names.add (names : Names) (field : Tree) : Names :=
  match field with
  | .list [.word "import", _, _, .list (.word kind :: items)] =>
      names.enter kind (takeName items).1
  | .list (.word kind :: items) =>
      let names := names.enter kind (takeName items).1
      if kind = "table" && items.any (·.isListOf "elem") then names.enter "elem" none
      else if kind = "memory" && items.any (·.isListOf "data") then names.enter "data" none
      else names
  | _ => names

/-- Whether no two entries of an index space have the same name. -/
def distinct (space : List (Option String)) : Bool :=
  (space.filterMap id).Nodup

/-- Each name stands for one entry of its index space. -/
def Names.check (names : Names) : Reading Unit :=
  if [names.types, names.funcs, names.tables, names.memories, names.globals, names.elems,
      names.datas].all distinct then .ok ()
  else .error "duplicate identifier"

/-! ## What may stand in front of a definition -/

/-- The front of a definition: the names it is exported by, and the place it is
imported from. -/
structure Header where
  exports : List String
  origin : Option (String × String)

/-- The front of a definition after its keyword, and the rest. -/
def takeHeader (items : List Tree) : Reading (Header × List Tree) := do
  let (_, rest) := takeName items
  let (exports, rest) := takeLists "export" rest
  let exports ← exports.mapM fun
    | [tree] => text tree
    | _ => .error "one name expected"
  match rest with
  | .list (.word "import" :: origin) :: rest =>
      match origin with
      | [module, name] => return (⟨exports, some (← text module, ← text name)⟩, rest)
      | _ => .error "two names expected"
  | rest => return (⟨exports, none⟩, rest)

def Header.parts (header : Header) (target : ExportTarget) : List Part :=
  header.exports.map fun name => .exportItem ⟨name, target⟩

/-! ## Types of items -/

/-- A least size and an optional greatest size, and the rest.  A leading `i32` says
that sizes have 32 bits, which they always have. -/
def takeSize (items : List Tree) : Reading (SizeRange × List Tree) :=
  let items :=
    match items with
    | .word "i32" :: rest => rest
    | items => items
  match items with
  | least :: rest =>
      match word? least with
      | some least =>
          match rest with
          | greatest :: rest =>
              match word? greatest with
              | some greatest => .ok (⟨least, some greatest⟩, rest)
              | none => .ok (⟨least, none⟩, greatest :: rest)
          | [] => .ok (⟨least, none⟩, [])
      | none => .error "size expected"
  | [] => .error "size expected"

def tableShape (items : List Tree) : Reading TableShape := do
  match ← takeSize items with
  | (size, [element]) => return ⟨← refType element, size⟩
  | _ => .error "element type expected"

def memoryShape (items : List Tree) : Reading MemoryShape := do
  match ← takeSize items with
  | (size, []) => return ⟨size, false⟩
  | (size, [.word "shared"]) => return ⟨size, true⟩
  | _ => .error "unexpected token after a memory type"

def globalShape : Tree → Reading GlobalShape
  | .list [.word "mut", type] => do return ⟨← valType type, true⟩
  | type => do return ⟨← valType type, false⟩

def importShape (names : Names) (kind : String) (items : List Tree) :
    Elaborating ImportShape := do
  match kind with
  | "func" =>
      match ← takeType names (fun _ => true) items with
      | (_, type, []) => return .func type
      | _ => throw "unexpected token after a function type"
  | "table" => return .table (← tableShape items)
  | "memory" => return .memory (← memoryShape items)
  | "global" =>
      match items with
      | [type] => return .global (← globalShape type)
      | _ => throw "global type expected"
  | _ => throw "unknown kind of import"

/-! ## Segments -/

/-- The offset of a segment: after `offset`, or a single instruction. -/
def offsetCode (names : Names) (tree : Tree) : Elaborating (List Instr) :=
  match tree with
  | .list (.word "offset" :: items) => code names items
  | .list items => code names [.list items]
  | _ => throw "offset expected"

/-- The place a segment goes to, and the rest: an entry of the index space of
tables or memories, the first one if none is named, and the offset in it. -/
def takePlace (names : Names) (kind : String) (space : List (Option String))
    (items : List Tree) : Elaborating (SegmentMode × List Tree) := do
  let (index, rest) ←
    match items with
    | .word number :: rest => pure (← indexOf space (.word number), rest)
    | .list items :: rest =>
        match Tree.listOf? kind (.list items) with
        | some [tree] => pure (← indexOf space tree, rest)
        | some _ => throw "one index expected"
        | none => pure (0, .list items :: rest)
    | _ => throw "offset expected"
  match rest with
  | offset :: rest => return (.active index (← offsetCode names offset), rest)
  | [] => throw "offset expected"

/-- References to functions, each by its index. -/
def funcItems (names : Names) (items : List Tree) : Elaborating (List (List Instr)) :=
  items.mapM fun tree => do return [.refFunc (← indexOf names.funcs tree)]

/-- References, each a constant expression after `item`, or a single instruction. -/
def exprItems (names : Names) (items : List Tree) : Elaborating (List (List Instr)) :=
  items.mapM fun
    | .list (.word "item" :: items) => code names items
    | .list items => code names [.list items]
    | _ => throw "item expected"

def elemItems (names : Names) (items : List Tree) :
    Elaborating (ValType × List (List Instr)) := do
  match items with
  | .word "func" :: rest => return (.funcRef, ← funcItems names rest)
  | first :: rest =>
      if isIndex first then return (.funcRef, ← funcItems names items)
      else return (← refType first, ← exprItems names rest)
  | [] => return (.funcRef, [])

/-- Whether a tree is the type of references, in the longer spelling. -/
def isRefTypeList (tree : Tree) : Bool :=
  tree.isListOf "ref"

/-- A segment of references. -/
def elemSegment (names : Names) (items : List Tree) : Elaborating ElemSegment := do
  let active : Bool :=
    match items with
    | .word number :: _ => number.front.isDigit
    | .list items :: _ => !isRefTypeList (.list items)
    | _ => false
  let (mode, rest) ←
    match items with
    | .word "declare" :: rest => pure (SegmentMode.declarative, rest)
    | items => if active then takePlace names "table" names.tables items else pure (.passive, items)
  let (type, items) ← elemItems names rest
  return ⟨type, items, mode⟩

/-- The bytes of a number of the given type, the lowest byte first. -/
def numberBytes (type : String) (tree : Tree) : Reading (List UInt8) :=
  match tree with
  | .word number =>
      let digits := number.toList
      let found :=
        match type with
        | "i8" => (integer? 8 digits).map fun bits => (1, bits.toNat)
        | "i16" => (integer? 16 digits).map fun bits => (2, bits.toNat)
        | "i32" => (integer? 32 digits).map fun bits => (4, bits.toNat)
        | "i64" => (integer? 64 digits).map fun bits => (8, bits.toNat)
        | "f32" => (float? binary32 digits).map fun bits => (4, bits)
        | "f64" => (float? binary64 digits).map fun bits => (8, bits)
        | _ => none
      match found with
      | some (count, bits) => .ok (Bytes.toLittleEndian count bits)
      | none => .error "number expected"
  | _ => .error "number expected"

def dataBytes (items : List Tree) : Reading (List UInt8) := do
  let parts ← items.mapM fun
    | .string bytes => .ok bytes
    | .list (.word type :: numbers) => do return (← numbers.mapM (numberBytes type)).flatten
    | _ => .error "string expected"
  return parts.flatten

def dataSegment (names : Names) (items : List Tree) : Elaborating DataSegment := do
  match items with
  | .string bytes :: rest => return ⟨← dataBytes (.string bytes :: rest), .passive⟩
  | items =>
      let (mode, rest) ← takePlace names "memory" names.memories items
      return ⟨← dataBytes rest, mode⟩

/-! ## Fields -/

/-- A function after its header. -/
def funcDef (names : Names) (items : List Tree) : Elaborating FuncDef := do
  let (params, type, rest) ← takeType names (fun _ => true) items
  let (locals, rest) := takeLists "local" rest
  let locals := (← (locals.mapM declaredTypes : Reading _)).flatten
  let space := params ++ locals.map Prod.fst
  if !distinct space then throw "duplicate local identifier"
  return ⟨type, locals.map Prod.snd, ← code { names with locals := space } rest⟩

/-- A table after its header; references inside it make a segment that fills it. -/
def tableParts (names : Names) (index : Nat) (items : List Tree) : Elaborating (List Part) := do
  match items with
  | [element, .list (.word "elem" :: items)] =>
      let type ← refType element
      let items ←
        if items.any Tree.isList then exprItems names items else funcItems names items
      return [.table ⟨type, ⟨items.length, some items.length⟩⟩,
        .elem ⟨type, items, .active index [.const (.i32 0)]⟩]
  | items => return [.table (← tableShape items)]

/-- A memory after its header; bytes inside it make a segment that fills it. -/
def memoryParts (index : Nat) (items : List Tree) : Reading (List Part) := do
  match items with
  | [.list (.word "data" :: items)] =>
      let bytes ← dataBytes items
      let pages := (bytes.length + 65535) / 65536
      return [.memory ⟨⟨pages, some pages⟩, false⟩,
        .data ⟨bytes, .active index [.const (.i32 0)]⟩]
  | items => return [.memory (← memoryShape items)]

def globalDef (names : Names) (items : List Tree) : Elaborating GlobalDef := do
  match items with
  | shape :: init => return ⟨← globalShape shape, ← code names init⟩
  | [] => throw "global type expected"

/-- What an export stands for. -/
def exportTarget (names : Names) (tree : Tree) : Reading ExportTarget := do
  match tree with
  | .list [.word "func", item] => return .func (← indexOf names.funcs item)
  | .list [.word "table", item] => return .table (← indexOf names.tables item)
  | .list [.word "memory", item] => return .memory (← indexOf names.memories item)
  | .list [.word "global", item] => return .global (← indexOf names.globals item)
  | _ => .error "export expected"

/-- The parts of a definition of the given kind, which is the entry `index` of its
index space. -/
def definition (names : Names) (kind : String) (index : Nat) (items : List Tree) :
    Elaborating (List Part) := do
  let (header, rest) ← takeHeader items
  match header.origin with
  | some (module, name) =>
      return [.importItem ⟨module, name, ← importShape names kind rest⟩]
        ++ header.parts (target kind)
  | none =>
      let parts ←
        match kind with
        | "func" => pure [.func (← funcDef names rest)]
        | "table" => tableParts names index rest
        | "memory" => memoryParts index rest
        | _ => pure [.global (← globalDef names rest)]
      return parts ++ header.parts (target kind)
where
  /-- The exported item. -/
  target : String → ExportTarget
    | "func" => .func index
    | "table" => .table index
    | "memory" => .memory index
    | _ => .global index

/-- The parts of a field.  `done` are the names of the fields in front. -/
def fieldParts (names done : Names) (field : Tree) : Elaborating (List Part) := do
  match field with
  | .list (.word kind :: items) =>
      match kind with
      | "type" => return []
      | "import" =>
          match items with
          | [module, name, .list (.word kind :: items)] =>
              return [.importItem ⟨← text module, ← text name,
                ← importShape names kind (takeName items).2⟩]
          | _ => throw "malformed import"
      | "func" => definition names kind done.funcs.length items
      | "table" => definition names kind done.tables.length items
      | "memory" => definition names kind done.memories.length items
      | "global" => definition names kind done.globals.length items
      | "export" =>
          match items with
          | [name, target] => return [.exportItem ⟨← text name, ← exportTarget names target⟩]
          | _ => throw "malformed export"
      | "start" =>
          match items with
          | [func] => return [.start (← indexOf names.funcs func)]
          | _ => throw "malformed start"
      | "elem" => return [.elem (← elemSegment names (takeName items).2)]
      | "data" => return [.data (← dataSegment names (takeName items).2)]
      | _ => throw "unknown field"
  | _ => throw "field expected"

/-- The parts of fields, in order.  `done` are the names of the fields in front. -/
def fieldsParts (names done : Names) : List Tree → Elaborating (List Part)
  | [] => return []
  | field :: rest => do
      let parts ← fieldParts names done field
      return parts ++ (← fieldsParts names (done.add field) rest)

/-- The type of a field that gives one. -/
def declaredType (field : Tree) : Reading (List FuncType) := do
  match field with
  | .list (.word "type" :: items) =>
      match (takeName items).2 with
      | [.list (.word "func" :: items)] =>
          match ← takeSignature items with
          | (_, type, []) => return [type]
          | _ => .error "unexpected token after a function type"
      | _ => .error "function type expected"
  | _ => return []

/-! ## Modules -/

def isImport : Tree → Bool
  | .list (.word kind :: items) =>
      kind = "import" ||
        (["func", "table", "memory", "global"].contains kind && items.any (·.isListOf "import"))
  | _ => false

def isDefinition (field : Tree) : Bool :=
  match field with
  | .list (.word kind :: _) =>
      ["func", "table", "memory", "global"].contains kind && !isImport field
  | _ => false

def moduleOf (name : Option String) (types : List FuncType) (parts : List Part) : Module where
  name := name
  types := types
  imports := parts.filterMap fun | .importItem item => some item | _ => none
  funcs := parts.filterMap fun | .func item => some item | _ => none
  tables := parts.filterMap fun | .table shape => some shape | _ => none
  memories := parts.filterMap fun | .memory shape => some shape | _ => none
  globals := parts.filterMap fun | .global item => some item | _ => none
  exports := parts.filterMap fun | .exportItem item => some item | _ => none
  start := parts.findSome? fun | .start func => some func | _ => none
  elems := parts.filterMap fun | .elem segment => some segment | _ => none
  datas := parts.filterMap fun | .data segment => some segment | _ => none

def moduleOfFields (name : Option String) (fields : List Tree) : Reading Module := do
  let names := fields.foldl Names.add {}
  names.check
  if (fields.dropWhile (!isDefinition ·)).any isImport then .error "import after a definition"
  if fields.countP (·.isListOf "start") > 1 then .error "multiple start fields"
  let declared := (← fields.mapM declaredType).flatten
  let (_, types) ← (fieldsParts { names with settled := false } {} fields).run declared.toArray
  let (parts, types) ← (fieldsParts names {} fields).run types
  return moduleOf name types.toList parts

/-- What a text stands for: a module, or the bytes of its binary form. -/
inductive Written where
  | module (module : Module)
  | binary (bytes : List UInt8)

/-- A text as a module.  The parentheses and the keyword around the fields may be
left out. -/
def read (chars : List Char) : Reading Written := do
  let trees ← Tree.build [] [] (← tokens (chars.length + 1) chars)
  match trees with
  | [] => .error "module field expected"
  | .list (.word "module" :: items) :: rest =>
      if !rest.isEmpty then .error "unexpected token after the module"
      let (name, items) := takeName items
      match items with
      | .word "binary" :: strings =>
          let bytes ← strings.mapM fun
            | .string bytes => .ok bytes
            | _ => .error "string expected"
          return .binary bytes.flatten
      | fields => return .module (← moduleOfFields name fields)
  | fields => return .module (← moduleOfFields none fields)

end WasmSandbox.Wasm.Text
