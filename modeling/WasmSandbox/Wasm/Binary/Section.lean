import WasmSandbox.Wasm.Binary.Code

/-!
Contract: modules in the binary form.

Owns:
- the header, and sections with their order;
- the content of every section;
- the name of a module, in a section that is otherwise free.

Lists that two sections split between them must have one length: types and bodies
of functions, and the number of segments of bytes that is given in advance.

Does not own: whether the module is valid.
-/

namespace WasmSandbox.Wasm.Binary

def magic : List UInt8 := [0x00, 0x61, 0x73, 0x6D]

def version : List UInt8 := [0x01, 0x00, 0x00, 0x00]

/-- A section: its number and its content. -/
def oneSection : Decoding (Nat × List UInt8) := do
  let id ← byte
  return (id, ← bytes (← word))

/-- Sections up to the end.  `fuel` bounds the number of bytes. -/
def sections : (fuel : Nat) → Decoding (List (Nat × List UInt8))
  | 0 => return []
  | fuel + 1 => do
      if ← atEnd then return []
      let first ← oneSection
      return first :: (← sections fuel)

/-- The numbers of sections in the order in which they may come.  Number 0 may come
anywhere. -/
def sectionOrder : List Nat := [1, 2, 3, 4, 5, 6, 7, 8, 9, 12, 10, 11]

/-- Whether each section is known and comes at most once and in order. -/
def ordered (ids : List Nat) : Bool :=
  let ids := ids.filter (· ≠ 0)
  ids.all sectionOrder.contains && (ids.map sectionOrder.idxOf).Pairwise (· < ·)

def funcType : Decoding FuncType := do
  if (← byte) ≠ 0x60 then throw "function type expected"
  let params ← list valType
  return ⟨params, ← list valType⟩

/-- A least and an optional greatest size after the flags that go with them. -/
def sizeRange (flags : Nat) : Decoding SizeRange := do
  let least ← word
  return ⟨least, ← if flags % 2 = 1 then some <$> word else pure none⟩

def tableShape : Decoding TableShape := do
  let element ← refType
  let flags ← byte
  if flags > 1 then throw "invalid table flags"
  return ⟨element, ← sizeRange flags⟩

def memoryShape : Decoding MemoryShape := do
  let flags ← byte
  if flags > 3 then throw "invalid memory flags"
  return ⟨← sizeRange flags, flags ≥ 2⟩

def globalShape : Decoding GlobalShape := do
  let content ← valType
  match ← byte with
  | 0 => return ⟨content, false⟩
  | 1 => return ⟨content, true⟩
  | _ => throw "invalid mutability"

def importItem (setting : Setting) : Decoding Import := do
  let module ← name
  let item ← name
  let shape ←
    match ← byte with
    | 0 => ImportShape.func <$> setting.typeRef
    | 1 => ImportShape.table <$> tableShape
    | 2 => ImportShape.memory <$> memoryShape
    | 3 => ImportShape.global <$> globalShape
    | _ => throw "invalid import kind"
  return ⟨module, item, shape⟩

def exportItem : Decoding Export := do
  let item ← name
  let kind ← byte
  let index ← word
  match kind with
  | 0 => return ⟨item, .func index⟩
  | 1 => return ⟨item, .table index⟩
  | 2 => return ⟨item, .memory index⟩
  | 3 => return ⟨item, .global index⟩
  | _ => throw "invalid export kind"

def globalDef (setting : Setting) : Decoding GlobalDef := do
  let shape ← globalShape
  return ⟨shape, ← setting.code⟩

def elemKind : Decoding ValType := do
  if (← byte) = 0 then return .funcRef else throw "invalid element kind"

/-- A segment of references.  Of its flags, the lowest one says that it is not
copied at instantiation, the second one that the table or the declaration is
explicit, and the third one that references are expressions. -/
def elemSegment (setting : Setting) : Decoding ElemSegment := do
  let flags ← word
  if flags > 7 then throw "invalid segment flags"
  let later := flags % 2 = 1
  let explicit := flags / 2 % 2 = 1
  let exprs := flags / 4 = 1
  let mode ←
    if later then pure (if explicit then SegmentMode.declarative else .passive)
    else do
      let table ← if explicit then word else pure 0
      pure (.active table (← setting.code))
  let type ←
    if later || explicit then (if exprs then refType else elemKind) else pure .funcRef
  let items ← list (if exprs then setting.code else do return [.refFunc (← word)])
  return ⟨type, items, mode⟩

def dataSegment (setting : Setting) : Decoding DataSegment := do
  let mode ←
    match ← word with
    | 0 => do pure (SegmentMode.active 0 (← setting.code))
    | 1 => pure .passive
    | 2 => do
        let memory ← word
        pure (.active memory (← setting.code))
    | _ => throw "invalid segment flags"
  return ⟨← bytes (← word), mode⟩

/-- The most locals of a function. -/
def mostLocals : Nat := 50000

/-- Locals: groups of one type each. -/
def localTypes : Decoding (List ValType) := do
  let groups ← list do
    let count ← word
    return (count, ← valType)
  let total := groups.foldl (fun total group => total + group.1) 0
  if total > mostLocals then throw "too many locals"
  return groups.flatMap fun group => List.replicate group.1 group.2

def funcBody (setting : Setting) : Decoding (List ValType × List Instr) := do
  let locals ← localTypes
  return (locals, ← setting.code)

/-- The name of the module in the section for names.  A part that cannot be read
ends the section, and what was read before it counts.  `fuel` bounds the number of
bytes. -/
def moduleName : (fuel : Nat) → (found : Option String) → List UInt8 → Option String
  | 0, found, _ => found
  | fuel + 1, found, content =>
      match oneSection.run content with
      | .error _ => found
      | .ok ((id, part), rest) =>
          let readable {α : Type} (reader : Decoding α) : Bool := (reader.run part).toBool
          if id = 0 then
            match within name part with
            | .ok text => moduleName fuel (some text) rest
            | .error _ => found
          else if id = 1 then
            match within (list do
              let index ← word
              return (index, ← name)) part with
            | .ok _ => moduleName fuel found rest
            | .error _ => found
          else if id ≥ 128 || (id ≤ 11 && !readable word) then found
          else moduleName fuel found rest

/-- The name of the module in a section without a number of its own, if that section
is for names. -/
def nameIn (found : Option String) (content : List UInt8) :
    Except String (Option String) := do
  let (title, rest) ← name.run content
  return if title = "name" then moduleName (rest.length + 1) found rest else found

/-- Whether a binary module can be told from a text by its first bytes. -/
def isBinary (content : List UInt8) : Bool :=
  magic.isPrefixOf content

def read (multiMemory : Bool) (content : List UInt8) : Except String Module := do
  if !(magic ++ version).isPrefixOf content then throw "unknown header"
  let content := content.drop 8
  let parts ← within (sections (content.length + 1)) content
  if !ordered (parts.map Prod.fst) then throw "section out of order"
  let part {α : Type} (id : Nat) (reader : Decoding α) : Except String (List α) :=
    match parts.lookup id with
    | some content => within (list reader) content
    | none => .ok []
  let types ← part 1 funcType
  let dataCount ← (parts.lookup 12).mapM (within word)
  let setting : Setting := ⟨types.toArray, multiMemory, dataCount.isSome⟩
  let signatures ← part 3 setting.typeRef
  let bodies ← part 10 (sized (funcBody setting))
  if signatures.length ≠ bodies.length then throw "inconsistent lengths of functions and code"
  let datas ← part 11 (dataSegment setting)
  if dataCount.any (· ≠ datas.length) then throw "inconsistent data count"
  let custom := parts.filterMap fun part => if part.1 = 0 then some part.2 else none
  return {
    name := ← custom.foldlM nameIn none
    types := types
    imports := ← part 2 (importItem setting)
    funcs := signatures.zipWith (fun type body => ⟨type, body.1, body.2⟩) bodies
    tables := ← part 4 tableShape
    memories := ← part 5 memoryShape
    globals := ← part 6 (globalDef setting)
    exports := ← part 7 exportItem
    start := ← (parts.lookup 8).mapM (within word)
    elems := ← part 9 (elemSegment setting)
    datas := datas }

end WasmSandbox.Wasm.Binary
