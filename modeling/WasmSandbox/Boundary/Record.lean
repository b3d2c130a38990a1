import WasmSandbox.Boundary.Item
import WasmSandbox.Json.Value

/-!
Contract: the JSON form of the boundary types.

Owns:
- the document of each boundary type, members in declared order;
- the reading of a document back: objects with the declared members in any
  order, or arrays of all members in declared order.

A reader of a tagged document cannot know the type before it has met the tag, so
an item type is held in memory as a whole first (`Json.isBufferable`).  An
untagged document is read member by member, and what stands under a name that is
not declared is skipped without a look inside.

Does not own: the text of documents.
-/

namespace WasmSandbox

/-- Arrays and objects nest at most this deep in a text that is read. -/
def nestingLimit : Nat := 127

namespace Record

/-- The members of an object by name, provided every name is a text and no
declared name occurs twice. -/
def members? (declared : List String) (members : List (Option String × Json)) :
    Option (String → Option Json) :=
  if members.all (fun member => member.1.isSome) &&
      declared.all (fun name => members.countP (fun member => member.1 = some name) ≤ 1) then
    some fun name => members.lookup (some name)
  else none

/-- The members of a record, by name.  In an array all declared members stand in
order and none may be left out. -/
def fields? (declared : List String) : Json → Option (String → Option Json)
  | .object members => members? declared members
  | .array items =>
      if items.length = declared.length then
        some fun name => (declared.zip items).lookup name
      else none
  | _ => none

def text? : Json → Option String
  | .text content => content
  | _ => none

def bool? : Json → Option Bool
  | .bool value => some value
  | _ => none

/-- A natural number below 2^64, written without sign, fraction or exponent. -/
def word? : Json → Option UInt64
  | .number numeral =>
      match numeral.toNat? with
      | some value => if value < UInt64.size then some (UInt64.ofNat value) else none
      | none => none
  | _ => none

/-- A number or `null`; an absent member counts as `null`. -/
def optionalWord? : Option Json → Option (Option UInt64)
  | none => some none
  | some .null => some none
  | some document => (word? document).map some

/-- One of a closed set of names: the name itself, or an object whose only
member has that name and holds `null`.  A document held in memory may have an
empty object in the place of `null`. -/
def name? (buffered : Bool) : Json → Option String
  | .text content => content
  | .object [(name, .null)] => name
  | .object [(name, .object [])] => if buffered then name else none
  | _ => none

/-- A list of documents, each read the same way. -/
def list? {α : Type} (read : Json → Option α) : Json → Option (List α)
  | .array items => items.mapM read
  | _ => none

end Record

namespace ValueKind

def toJson (kind : ValueKind) : Json := .string kind.name

def ofJson? (buffered : Bool) (document : Json) : Option ValueKind := do
  ofName? (← Record.name? buffered document)

end ValueKind

namespace ItemKind

def toJson (kind : ItemKind) : Json := .string kind.name

def ofJson? (document : Json) : Option ItemKind := do
  ofName? (← Record.name? false document)

end ItemKind

namespace Signature

def members (signature : Signature) : List (String × Json) :=
  [("params", .list ValueKind.toJson signature.params),
   ("results", .list ValueKind.toJson signature.results)]

/-- A signature is written with its parameters and its results. -/
def toJson (signature : Signature) : Json := .record signature.members

def ofJson? (buffered : Bool) (document : Json) : Option Signature := do
  let field ← Record.fields? ["params", "results"] document
  let params ← Record.list? (ValueKind.ofJson? buffered) (← field "params")
  let results ← Record.list? (ValueKind.ofJson? buffered) (← field "results")
  return ⟨params, results⟩

end Signature

namespace GlobalType

def members (type : GlobalType) : List (String × Json) :=
  [("content", type.content.toJson), ("mutable", .bool type.mutable)]

/-- A global type is written with its content and whether it can change. -/
def toJson (type : GlobalType) : Json := .record type.members

def ofJson? (buffered : Bool) (document : Json) : Option GlobalType := do
  let field ← Record.fields? ["content", "mutable"] document
  let content ← ValueKind.ofJson? buffered (← field "content")
  let mutable ← Record.bool? (← field "mutable")
  return ⟨content, mutable⟩

end GlobalType

namespace Limits

/-- The members of limits; an absent maximum is written `null`. -/
def members (limits : Limits) : List (String × Json) :=
  [("minimum", .nat limits.minimum.toNat),
   ("maximum", .optional (fun maximum => .nat maximum.toNat) limits.maximum)]

def ofFields? (field : String → Option Json) : Option Limits := do
  let minimum ← Record.word? (← field "minimum")
  let maximum ← Record.optionalWord? (field "maximum")
  return ⟨minimum, maximum⟩

end Limits

namespace MemoryType

def toJson (type : MemoryType) : Json := .record type.limits.members

def ofJson? (document : Json) : Option MemoryType := do
  let field ← Record.fields? ["minimum", "maximum"] document
  return ⟨← Limits.ofFields? field⟩

end MemoryType

namespace TableType

def members (type : TableType) : List (String × Json) :=
  ("element", type.element.toJson) :: type.limits.members

/-- A table type is written with its element kind and its limits. -/
def toJson (type : TableType) : Json := .record type.members

def ofJson? (buffered : Bool) (document : Json) : Option TableType := do
  let field ← Record.fields? ["element", "minimum", "maximum"] document
  let element ← ValueKind.ofJson? buffered (← field "element")
  return ⟨element, ← Limits.ofFields? field⟩

end TableType

namespace ItemType

/-- The members of an item type, without the tag. -/
def members : ItemType → List (String × Json)
  | func signature => signature.members
  | memory type => type.limits.members
  | table type => type.members
  | global type => type.members

/-- An item type is written with its sort under `kind`, then its own members. -/
def toJson (type : ItemType) : Json :=
  .record (("kind", type.kind.toJson) :: type.members)

/-- The item type of a given sort that the rest of a document writes. -/
def ofBody? (kind : ItemKind) (body : Json) : Option ItemType :=
  match kind with
  | .func => (Signature.ofJson? true body).map func
  | .memory => (MemoryType.ofJson? body).map memory
  | .table => (TableType.ofJson? true body).map table
  | .global => (GlobalType.ofJson? true body).map global

/-- A document without its tag, and the tag: the one member `kind` of an object,
or the first item of an array. -/
def splitTag? : Json → Option (Json × Json)
  | .array (tag :: items) => some (tag, .array items)
  | .object members =>
      match members.filter (fun member => member.1 = some "kind") with
      | [(_, tag)] => some (tag, .object (members.filter fun member => member.1 ≠ some "kind"))
      | _ => none
  | _ => none

/-- The item type a document writes that stands `depth` levels deep in a text.
The tag must be a text. -/
def ofJson? (depth : Nat) (document : Json) : Option ItemType := do
  let (tag, body) ← splitTag? document
  if !document.isBufferable (nestingLimit - depth) then failure
  let kind ← ItemKind.ofName? (← Record.text? tag)
  ofBody? kind body

end ItemType

namespace ImportDecl

/-- An import is written with its module, its name and its type. -/
def toJson (decl : ImportDecl) : Json :=
  .record [("module", .string decl.module), ("name", .string decl.name), ("ty", decl.type.toJson)]

def ofJson? (document : Json) : Option ImportDecl := do
  let field ← Record.fields? ["module", "name", "ty"] document
  let module ← Record.text? (← field "module")
  let name ← Record.text? (← field "name")
  let type ← ItemType.ofJson? 1 (← field "ty")
  return ⟨module, name, type⟩

end ImportDecl

namespace ExportDecl

/-- An export is written with its name and its type. -/
def toJson (decl : ExportDecl) : Json :=
  .record [("name", .string decl.name), ("ty", decl.type.toJson)]

def ofJson? (document : Json) : Option ExportDecl := do
  let field ← Record.fields? ["name", "ty"] document
  let name ← Record.text? (← field "name")
  let type ← ItemType.ofJson? 1 (← field "ty")
  return ⟨name, type⟩

end ExportDecl

end WasmSandbox
