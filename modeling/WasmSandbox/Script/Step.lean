import WasmSandbox.Boundary.Item
import WasmSandbox.Config
import WasmSandbox.Context.Value
import WasmSandbox.Json.Value

/-!
Contract: scripts, which describe an embedder and its host closures.

Owns:
- expressions for values;
- steps that use one context, by the embedder or in a closure;
- actions, which are what a closure consists of;
- steps of the embedder alone.

Everything is named by texts.  A part that makes no sense is kept as `malformed`,
since it only fails when it is reached.

Does not own: what steps and actions do.
-/

namespace WasmSandbox.Script

/-- Wrapping arithmetic. -/
inductive Arith where
  | add
  | sub
  | mul
deriving DecidableEq, Repr

/-- A value to be. -/
inductive Expr where
  | value (value : Val)
  | named (name : String)
  | arg (index : Nat)
  | last (index : Nat)
  /-- The counter of the context, whole or only its low half. -/
  | counter (whole : Bool)
  | arith (op : Arith) (first second : Expr)
  | malformed
deriving Repr, Inhabited

/-- What to do when a step of a closure fails. -/
inductive OnError where
  | raise
  | ignore
  | log
deriving DecidableEq, Repr

mutual

/-- A step that uses one context.  `bind` is the name that the result gets. -/
inductive ContextStep where
  | func (bind : Option String) (signature : Signature) (body : List Action)
  | funcInfo (func : String)
  | call (bind : Option String) (func : String) (args : List Expr)
  | memory (bind : Option String) (limits : Limits)
  | memoryInfo (memory : String)
  | readMemory (memory : String) (offset : UInt64) (length : Nat)
  | writeMemory (memory : String) (offset : UInt64) (bytes : List UInt8)
  | readWord (memory : String) (offset : UInt64)
  | writeWord (memory : String) (offset : UInt64) (number : UInt32)
  | growMemory (memory : String) (delta : UInt64)
  | memoryPages (memory : String)
  | memorySize (memory : String)
  | tableInfo (table : String)
  | global (bind : Option String) (type : GlobalType) (value : Expr)
  | globalGet (bind : Option String) (global : String)
  | globalSet (global : String) (value : Expr)
  | inst (bind : Option String) (artifact : String) (imports : List String)
  | lookup (bind : Option String) (inst name : String) (want : Option ItemKind)
  | exports (inst : String)
  | instanceArtifact (inst artifact : String)
  | item (item : String)
  | fuel
  | data
  | setCounter (counter : BitVec 64)
  | id
  | text
  | malformed

/-- A part of a closure. -/
inductive Action where
  | set (slot : Nat) (value : Expr)
  | unset (slot : Nat)
  | count (amount : BitVec 64)
  | log (value : Json)
  | logArgs
  | caller
  | branch (condition : Expr) (yes no : List Action)
  | return
  | fail (message : String)
  | step (step : ContextStep) (logged : Bool) (onError : OnError)
  | malformed

end

instance : Inhabited Action := ⟨.malformed⟩

/-- A step of the embedder.  A name that is bound again stands for the new thing. -/
inductive Step where
  | env (bind : Option String) (config : Config)
  | envClone (bind : Option String) (env : String)
  | envSame (first second : String)
  | cached (env : String)
  | clearCache (env : String)
  | evict (env artifact : String)
  | envText (env : String)
  | compile (bind : Option String) (env : String) (input : List UInt8)
  | artifact (artifact : String)
  | surface (artifact : String)
  | artifactExport (artifact name : String)
  | artifactSame (first second : String)
  | context (bind : Option String) (env : String) (counter : BitVec 64)
  | contextDrop (context : String)
  | contextEnv (context env : String)
  | contextInfo (context : String)
  | setFuel (context : String) (fuel : UInt64)
  | within (context : String) (step : ContextStep)
  | linker (bind : Option String)
  | linkerShadow (linker : String) (allow : Bool)
  | linkerDefine (linker module name item : String)
  | linkerFunc (linker context module name : String) (signature : Signature)
      (body : List Action)
  | linkerInstance (linker context module inst : String)
  | linkerGet (bind : Option String) (linker module name : String)
  | linkerResolve (linker artifact : String)
  | linkerLink (bind : Option String) (linker context artifact : String)
  | malformed

end WasmSandbox.Script
