import WasmSandbox.Wasm.Text.Scope

/-!
Contract: instructions in the text form of modules.

Owns:
- every instruction with what follows its name;
- the plain form, where blocks reach to `end`, and the folded form, where an
  instruction is a list and its operands are lists inside it;
- labels by name and by number.

Of the instructions on vectors only `v128.const` is read, as in the binary form.

Does not own: types of operands.
-/

namespace WasmSandbox.Wasm.Text

/-- The names of enclosing blocks, the innermost first. -/
abbrev Labels := List (Option String)

/-- A setting such as `offset=4`, if it stands in front, and the rest. -/
def takeSetting (key : String) (items : List Tree) : Reading (Option Nat × List Tree) :=
  match items with
  | .word text :: rest =>
      if text.startsWith key then
        match word? (.word (text.drop key.length).copy) with
        | some value => .ok (some value, rest)
        | none => .error "bad setting"
      else .ok (none, items)
  | items => .ok (none, items)

/-- What follows the name of a memory access. -/
def takeMemArg (names : Names) (shape : AccessShape) (items : List Tree) :
    Reading (MemArg × List Tree) := do
  let (memory, rest) ← takeIndex names.memories items
  let (offset, rest) ← takeSetting "offset=" rest
  let (align, rest) ← takeSetting "align=" rest
  let align := align.getD shape.bytes
  if align = 0 || 1 <<< align.log2 ≠ align then .error "alignment must be a power of two"
  else return (⟨memory.getD 0, offset.getD 0, align⟩, rest)

/-- Two optional indices: both or none, with zeros for none. -/
def takePair (first second : List (Option String)) (items : List Tree) :
    Reading (Nat × Nat × List Tree) := do
  match ← takeIndex first items with
  | (some a, rest) =>
      let (b, rest) ← needIndex second rest
      return (a, b, rest)
  | (none, rest) => return (0, 0, rest)

/-- A segment, with the table or memory it goes to in front unless that is the
first one. -/
def takeSegment (spaces segments : List (Option String)) (items : List Tree) :
    Reading (Nat × Nat × List Tree) := do
  match items with
  | first :: second :: rest =>
      if isIndex second then return (← indexOf spaces first, ← indexOf segments second, rest)
      else return (0, ← indexOf segments first, second :: rest)
  | [first] => return (0, ← indexOf segments first, [])
  | [] => .error "index expected"

/-- The labels of `br_table`, at least one. -/
def takeLabels (labels : Labels) : List Tree → Reading (List Nat × List Tree)
  | tree :: rest =>
      if isIndex tree then do
        let index ← indexOf labels tree
        let (more, rest) ← takeLabels labels rest
        return (index :: more, rest)
      else .ok ([], tree :: rest)
  | [] => .ok ([], [])

/-- The shapes of vectors: the name, the number of lanes, and whether they hold
floats. -/
def vectorShapes : List (String × Nat × Bool) :=
  [("i8x16", 16, false), ("i16x8", 8, false), ("i32x4", 4, false), ("i64x2", 2, false),
   ("f32x4", 4, true), ("f64x2", 2, true)]

/-- A vector constant, lane by lane, the first one lowest. -/
def takeVector (items : List Tree) : Reading (BitVec 128 × List Tree) :=
  match items with
  | .word shape :: rest =>
      match vectorShapes.lookup shape with
      | some (lanes, floats) => do
          let width := 128 / lanes
          let lane (tree : Tree) : Reading Nat :=
            match tree with
            | .word text =>
                let bits :=
                  if floats then float? (if width = 32 then binary32 else binary64) text.toList
                  else (integer? width text.toList).map BitVec.toNat
                match bits with
                | some bits => .ok bits
                | none => .error "bad lane"
            | _ => .error "lane expected"
          if rest.length < lanes then .error "lane expected"
          else
            let values ← (rest.take lanes).mapM lane
            let bits := values.foldr (fun value total => (total <<< width) + value) 0
            return (BitVec.ofNat 128 bits, rest.drop lanes)
      | none => .error "vector shape expected"
  | _ => .error "vector shape expected"

def takeConstant (op : String) (items : List Tree) : Reading (Literal × List Tree) :=
  match op, items with
  | "i32.const", .word text :: rest =>
      match integer? 32 text.toList with
      | some bits => .ok (.i32 bits, rest)
      | none => .error "bad i32 constant"
  | "i64.const", .word text :: rest =>
      match integer? 64 text.toList with
      | some bits => .ok (.i64 bits, rest)
      | none => .error "bad i64 constant"
  | "f32.const", .word text :: rest =>
      match float? binary32 text.toList with
      | some bits => .ok (.f32 (BitVec.ofNat 32 bits), rest)
      | none => .error "bad f32 constant"
  | "f64.const", .word text :: rest =>
      match float? binary64 text.toList with
      | some bits => .ok (.f64 (BitVec.ofNat 64 bits), rest)
      | none => .error "bad f64 constant"
  | "v128.const", rest => do
      let (bits, rest) ← takeVector rest
      return (.v128 bits, rest)
  | _, _ => .error "constant expected"

/-- An instruction without nested code: its name, what follows it, and the rest. -/
def plainInstr (names : Names) (labels : Labels) (op : String) (items : List Tree) :
    Elaborating (Instr × List Tree) := do
  let withIndex (space : List (Option String)) (make : Nat → Instr) :
      Elaborating (Instr × List Tree) := do
    let (index, rest) ← needIndex space items
    return (make index, rest)
  let withOptional (space : List (Option String)) (make : Nat → Instr) :
      Elaborating (Instr × List Tree) := do
    let (index, rest) ← takeIndex space items
    return (make (index.getD 0), rest)
  match op with
  | "unreachable" => return (.unreachable, items)
  | "nop" => return (.nop, items)
  | "drop" => return (.drop, items)
  | "return" => return (.return, items)
  | "select" =>
      let (results, rest) := takeLists "result" items
      let types ← (results.flatten.mapM valType : Reading (List ValType))
      match results, types with
      | [], _ => return (.select none, rest)
      | _, [type] => return (.select (some type), rest)
      | _, _ => throw "select gives one value"
  | "i32.const" | "i64.const" | "f32.const" | "f64.const" | "v128.const" =>
      let (value, rest) ← takeConstant op items
      return (.const value, rest)
  | "local.get" => withIndex names.locals .localGet
  | "local.set" => withIndex names.locals .localSet
  | "local.tee" => withIndex names.locals .localTee
  | "global.get" => withIndex names.globals .globalGet
  | "global.set" => withIndex names.globals .globalSet
  | "table.get" => withOptional names.tables .tableGet
  | "table.set" => withOptional names.tables .tableSet
  | "table.size" => withOptional names.tables .tableSize
  | "table.grow" => withOptional names.tables .tableGrow
  | "table.fill" => withOptional names.tables .tableFill
  | "table.copy" =>
      let (target, source, rest) ← takePair names.tables names.tables items
      return (.tableCopy target source, rest)
  | "table.init" =>
      let (table, segment, rest) ← takeSegment names.tables names.elems items
      return (.tableInit table segment, rest)
  | "elem.drop" => withIndex names.elems .elemDrop
  | "memory.size" => withOptional names.memories .memorySize
  | "memory.grow" => withOptional names.memories .memoryGrow
  | "memory.fill" => withOptional names.memories .memoryFill
  | "memory.copy" =>
      let (target, source, rest) ← takePair names.memories names.memories items
      return (.memoryCopy target source, rest)
  | "memory.init" =>
      let (memory, segment, rest) ← takeSegment names.memories names.datas items
      return (.memoryInit memory segment, rest)
  | "data.drop" => withIndex names.datas .dataDrop
  | "atomic.fence" => return (.fence, items)
  | "ref.null" =>
      match items with
      | heap :: rest => return (.refNull (← heapType heap), rest)
      | [] => throw "heap type expected"
  | "ref.is_null" => return (.refIsNull, items)
  | "ref.func" => withIndex names.funcs .refFunc
  | "br" => withIndex labels .br
  | "br_if" => withIndex labels .brIf
  | "br_table" =>
      let (targets, rest) ← takeLabels labels items
      match targets.getLast? with
      | some fallback => return (.brTable targets.dropLast fallback, rest)
      | none => throw "label expected"
  | "call" => withIndex names.funcs .call
  | "return_call" => withIndex names.funcs .returnCall
  | "call_indirect" =>
      let (table, rest) ← takeIndex names.tables items
      let (type, rest) ← takeCallType names rest
      return (.callIndirect (table.getD 0) type, rest)
  | "return_call_indirect" =>
      let (table, rest) ← takeIndex names.tables items
      let (type, rest) ← takeCallType names rest
      return (.returnCallIndirect (table.getD 0) type, rest)
  | op =>
      match numericTable.find? fun entry => entry.2.1 == op with
      | some entry => return (.numeric entry.2.2, items)
      | none =>
          match accessTable.find? fun entry => entry.2.1 == op with
          | some (_, _, isStore, shape) =>
              let (arg, rest) ← takeMemArg names shape items
              return (if isStore then .store shape arg else .load shape arg, rest)
          | none => throw ("unknown operator " ++ op)

/-- The name after `else` or `end` must be that of the block. -/
def closeName (label : Option String) (items : List Tree) : Reading (List Tree) :=
  match items with
  | .name text :: rest =>
      if label = some text then .ok rest else .error "mismatched label"
  | items => .ok items

/-- The rest after `end`. -/
def closeBlock (label : Option String) (items : List Tree) : Reading (List Tree) :=
  match items with
  | .word "end" :: rest => closeName label rest
  | _ => .error "end expected"

/-- The lists in front of `then`, and the rest from there on. -/
def splitThen (items : List Tree) : List Tree × List Tree :=
  (items.takeWhile fun item => !item.isListOf "then",
    items.dropWhile fun item => !item.isListOf "then")

/-- The instructions in front of `else`, `end` or the end of the list, and the rest
from there on.  `fuel` bounds the number of trees. -/
def instrs (names : Names) : (fuel : Nat) → Labels → List Tree →
    Elaborating (List Instr × List Tree)
  | _, _, [] => return ([], [])
  | 0, _, _ => throw "code is nested too deep"
  | fuel + 1, labels, .word op :: items => do
      match op with
      | "end" | "else" => return ([], .word op :: items)
      | "block" | "loop" =>
          let (label, rest) := takeName items
          let (type, rest) ← takeBlockType names rest
          let (body, rest) ← instrs names fuel (label :: labels) rest
          let rest ← closeBlock label rest
          let (more, rest) ← instrs names fuel labels rest
          return ((if op = "block" then .block type body else .loop type body) :: more, rest)
      | "if" =>
          let (label, rest) := takeName items
          let (type, rest) ← takeBlockType names rest
          let (yes, rest) ← instrs names fuel (label :: labels) rest
          match rest with
          | .word "else" :: rest =>
              let rest ← closeName label rest
              let (no, rest) ← instrs names fuel (label :: labels) rest
              let rest ← closeBlock label rest
              let (more, rest) ← instrs names fuel labels rest
              return (.ifElse type yes no :: more, rest)
          | rest =>
              let rest ← closeBlock label rest
              let (more, rest) ← instrs names fuel labels rest
              return (.ifElse type yes [] :: more, rest)
      | op =>
          let (instr, rest) ← plainInstr names labels op items
          let (more, rest) ← instrs names fuel labels rest
          return (instr :: more, rest)
  | fuel + 1, labels, .list (.word op :: items) :: rest => do
      let whole (labels : Labels) (items : List Tree) : Elaborating (List Instr) := do
        match ← instrs names fuel labels items with
        | (code, []) => return code
        | _ => throw "unexpected end of a block"
      let folded ←
        match op with
        | "block" | "loop" =>
            let (label, inner) := takeName items
            let (type, inner) ← takeBlockType names inner
            let body ← whole (label :: labels) inner
            pure [if op = "block" then .block type body else .loop type body]
        | "if" =>
            let (label, inner) := takeName items
            let (type, inner) ← takeBlockType names inner
            let (condition, branches) := splitThen inner
            if !condition.all Tree.isList then throw "folded condition expected"
            let condition ← whole labels condition
            match branches with
            | [.list (.word "then" :: yes)] =>
                let yes ← whole (label :: labels) yes
                pure (condition ++ [.ifElse type yes []])
            | [.list (.word "then" :: yes), .list (.word "else" :: no)] =>
                let yes ← whole (label :: labels) yes
                let no ← whole (label :: labels) no
                pure (condition ++ [.ifElse type yes no])
            | _ => throw "then expected"
        | op =>
            let (instr, operands) ← plainInstr names labels op items
            if !operands.all Tree.isList then throw "folded operands expected"
            let operands ← whole labels operands
            pure (operands ++ [instr])
      let (more, rest) ← instrs names fuel labels rest
      return (folded ++ more, rest)
  | _, _, _ => throw "instruction expected"

def code (names : Names) (items : List Tree) : Elaborating (List Instr) := do
  match ← instrs names (Tree.weights items + 1) [none] items with
  | (body, []) => return body
  | _ => throw "unexpected end of a block"

end WasmSandbox.Wasm.Text
