import WasmSandbox.Boundary.Record
import WasmSandbox.Bytes.Hex
import WasmSandbox.Context.Item
import WasmSandbox.Environment

/-!
Contract: answers as JSON documents.

Owns:
- the form of values, with labels for functions;
- the form of failures: class, text, variant, the chain of causes, the import at
  fault, and the trap;
- the form of items and of artifacts.

Diagnostics of the engine are not part of the answers of a script.

Does not own: when an answer is given, and which label a function has.
-/

namespace WasmSandbox.Answer

open WasmSandbox

def ok (value : Json) : Json := .record [("ok", value)]

/-- A failure that has a name and nothing else. -/
def named (name : String) : Json := .record [("error", .string name)]

/-! ## Values -/

/-- The digits of a 32-bit pattern. -/
def hex32 (bits : BitVec 32) : Json := .string (String.ofList (Hex.digits 8 bits.toNat))

/-- The digits of a 64-bit pattern. -/
def hex64 (bits : BitVec 64) : Json := .string (String.ofList (Hex.digits 16 bits.toNat))

/-- A 64-bit integer as a text. -/
def int64 (bits : BitVec 64) : Json := .string (toString bits.toInt)

/-- A value; `label` writes the target of a reference. -/
def value (label : FuncHandle → Json) : Val → Json
  | .i32 bits => .record [("i32", .int bits.toInt)]
  | .i64 bits => .record [("i64", int64 bits)]
  | .f32 bits => .record [("f32", hex32 bits)]
  | .f64 bits => .record [("f64", hex64 bits)]
  | .funcRef none => .record [("ref", .null)]
  | .funcRef (some func) => .record [("ref", label func)]

def bytes (content : List UInt8) : Json := .string (Hex.encode content)

/-! ## Failures -/

def compileVariant : CompileError → String
  | .config _ => "Config"
  | .malformed _ => "Malformed"
  | .unsupported _ _ => "Unsupported"

def linkVariant : LinkError → String
  | .environmentMismatch => "EnvironmentMismatch"
  | .missingImport _ _ _ _ => "MissingImport"
  | .unexpectedImports _ _ => "UnexpectedImports"
  | .foreignImport _ _ => "ForeignImport"
  | .kindMismatch _ _ _ _ => "KindMismatch"
  | .signatureMismatch _ _ _ _ => "SignatureMismatch"
  | .incompatibleType _ _ _ _ => "IncompatibleType"
  | .duplicate _ _ => "Duplicate"
  | .trapped _ => "Trapped"
  | .instantiate _ => "Instantiate"

def callVariant : CallError → String
  | .typeMismatch _ => "TypeMismatch"
  | .trap _ => "Trap"
  | .host _ => "Host"
  | .contract _ => "Contract"
  | .foreignHandle => "ForeignHandle"
  | .internal _ => "Internal"

def memoryVariant : MemoryError → String
  | .outOfBounds _ _ _ => "OutOfBounds"
  | .foreignHandle => "ForeignHandle"
  | .grow _ => "Grow"
  | .limits _ => "Limits"

/-- The variant of any failure, with that of the operation in front. -/
def variant : SandboxError → String
  | .compile error => "Compile." ++ compileVariant error
  | .link error => "Link." ++ linkVariant error
  | .call error => "Call." ++ callVariant error
  | .memory error => "Memory." ++ memoryVariant error
  | .fuelDisabled => "FuelDisabled"

def trap (fault : Trap) : Json :=
  .record [("code", .string fault.code.name), ("text", .string fault.code.text),
    ("message", .string fault.explanation), ("backtrace", .bool fault.backtrace),
    ("kind", .string FailureKind.trap.name)]

def trapMember : Option Trap → List (String × Json)
  | some fault => [("trap", trap fault)]
  | none => []

/-- A failure.  The members for causes are there only if it has one. -/
def failure (error : SandboxError) : Json :=
  let chain := error.chain
  let root :=
    match chain.getLast? with
    | some cause => [("sources", Json.nat chain.length), ("root", Json.string cause.message)]
    | none => []
  let extra :=
    match error with
    | .link error =>
        ("import",
          Json.optional (fun names => .array [.string names.1, .string names.2]) error.import?) ::
          trapMember error.trap?
    | .call error => trapMember error.trap?
    | _ => []
  .record ([("error", .string error.kind.name), ("message", .string error.message),
    ("variant", .string (variant error))] ++ root ++ extra)

/-- A failed compilation without the diagnostic of the engine. -/
def withoutDiagnostic : CompileError → CompileError
  | .config _ => .config ""
  | .malformed _ => .malformed ""
  | .unsupported item reason => .unsupported item reason

/-! ## Items and artifacts -/

/-- An item: its sort, its owner, and the label of a function or the type of a
global. -/
def itemMembers (label : FuncHandle → Json) (item : Item) : List (String × Json) :=
  [("kind", .string item.kind.name), ("ctx", .nat item.context.number)] ++
    match item with
    | .func func => [("func", label func)]
    | .global global => [("global", .string global.type.text)]
    | _ => []

def item (label : FuncHandle → Json) (item : Item) : Json :=
  .record (itemMembers label item)

/-- The sorts that an item can be taken as: all but one are absent. -/
def conversions (item : Item) : Json :=
  let taken (kind : ItemKind) (found : Bool) : Json :=
    if found then .string kind.name else .null
  .array [taken .func item.func?.isSome, taken .memory item.memory?.isSome,
    taken .table item.table?.isSome, taken .global item.global?.isSome]

/-- The surface of an artifact in short: the texts of imports and exports. -/
def surfaceTexts (artifact : Artifact) : Json :=
  .record [("imports", .list (fun decl => .string decl.text) artifact.imports),
    ("exports", .list (fun decl => .string (decl.name ++ ": " ++ decl.type.text))
      artifact.exports)]

/-- The surface of an artifact: its name, its imports and its exports. -/
def surfaceMembers (artifact : Artifact) : List (String × Json) :=
  [("name", .optional .string artifact.name),
   ("imports", .list ImportDecl.toJson artifact.imports),
   ("exports", .list ExportDecl.toJson artifact.exports)]

def artifact (artifact : Artifact) : Json :=
  .record (surfaceMembers artifact ++
    [("digest", .string artifact.digestText), ("same_bytes", .bool true),
     ("debug", .string artifact.text)])

end WasmSandbox.Answer
