import WasmSandbox.Wasm.Operation

/-!
Contract: running code, one instruction at a time.

Owns:
- activations: the code that is left of a function, its registers, and the blocks
  it is in;
- blocks, branches, returns, and the calls that an activation asks for;
- the fuel that instructions cost, when it is taken away, and when its lack is
  noticed.

The operands below a block are kept with the block, so code in a block cannot
reach them.  What an activation has spent is taken away from the fuel when it
calls, returns, executes `unreachable`, or is out of fuel; any other fault forgets
it.

Does not own: what happens to a call, or the stack of activations.
-/

namespace WasmSandbox.Wasm

/-- A block that code is in.  A branch to it hands on `arity` operands and goes on
with `onBranch`; its end hands on all operands and goes on with `onEnd`. -/
structure Label where
  arity : Nat
  below : List Value
  onBranch : List Instr
  onEnd : List Instr

/-- A function that is running: the instance that it belongs to, the number of
activations below it, the number of its results, and where it is. -/
structure Activation where
  owner : Nat
  level : Nat
  arity : Nat
  registers : Registers
  labels : List Label
  code : List Instr
  /-- The cost of what ran since fuel was last taken away. -/
  spent : Nat

/-- What an activation does next. -/
inductive Advance where
  | running (activation : Activation)
  | calling (func : FuncKey) (args : List Value) (activation : Activation)
  | handingOver (func : FuncKey) (args : List Value)
  | returning (values : List Value)
  | halted (halt : Halt)

/-- What an instruction costs.  Instructions that only shape the flow of control are
free. -/
def Instr.cost : Instr → Nat
  | .nop => 0
  | .drop => 0
  | .block _ _ => 0
  | .loop _ _ => 0
  | .unreachable => 0
  | .return => 0
  | _ => 1

namespace Activation

variable {H : Type}

/-- A function that starts to run.  To start costs as much as an instruction. -/
def enter (store : Store H) (owner level : Nat) (func : FuncDef) (args : List Value) :
    Advance × Store H :=
  if store.exhausted 1 then (.halted (.fault .outOfFuel), store.charge 1)
  else
    (.running
      { owner := owner
        level := level
        arity := func.type.results.length
        registers := ⟨[], (args ++ func.locals.map Value.zero).toArray⟩
        labels := []
        code := func.body
        spent := 1 }, store)

/-- The activation with values on top of its operands, the last one at the top. -/
def receive (activation : Activation) (values : List Value) : Activation :=
  { activation with registers := { activation.registers with
      operands := values.reverse ++ activation.registers.operands } }

/-- The function returns with the operands on top. -/
def leave (store : Store H) (activation : Activation) : Advance × Store H :=
  (.returning (activation.registers.operands.take activation.arity).reverse,
    store.charge activation.spent)

/-- A branch that leaves `depth` blocks and goes to the next one, or returns where
there is none. -/
def branch (store : Store H) (activation : Activation) (depth : Nat) : Advance × Store H :=
  match activation.labels.drop depth with
  | label :: outer =>
      (.running { activation with
        registers := { activation.registers with
          operands := activation.registers.operands.take label.arity ++ label.below }
        labels := outer
        code := label.onBranch }, store)
  | [] => leave store activation

/-- Code goes on in a block that takes operands from the top. -/
def into (activation : Activation) (params arity : Nat) (onBranch body : List Instr) :
    Activation :=
  let operands := activation.registers.operands
  { activation with
    registers := { activation.registers with operands := operands.take params }
    labels := ⟨arity, operands.drop params, onBranch, activation.code⟩ :: activation.labels
    code := body }

/-- The end of the innermost block, or of the function. -/
def finishBlock (store : Store H) (activation : Activation) : Advance × Store H :=
  match activation.labels with
  | label :: outer =>
      (.running { activation with
        registers := { activation.registers with
          operands := activation.registers.operands ++ label.below }
        labels := outer
        code := label.onEnd }, store)
  | [] => leave store activation

/-- The arguments on top, in order, and the activation without them. -/
def takeArgs (activation : Activation) (type : FuncType) : List Value × Activation :=
  let operands := activation.registers.operands
  let count := type.params.length
  ((operands.take count).reverse,
    { activation with registers := { activation.registers with operands := operands.drop count } })

/-- The function that an indirect call goes to: the entry of a table, which must be
a function of the expected type. -/
def indirect (store : Store H) (owning : Instance) (table : Nat) (type : FuncType)
    (position : BitVec 32) : Except Halt FuncKey := do
  let (_, table) ← tableOf store owning table
  match table.items[position.toNat]? with
  | none => .error (.fault .tableOutOfBounds)
  | some (.funcRef (some func)) =>
      guarded (store.funcType? func = some type) .badSignature
      return func
  | some _ => .error (.fault .indirectCallToNull)

/-- A call of a function of the given type. -/
def call (store : Store H) (activation : Activation) (func : FuncKey) (type : FuncType) :
    Advance × Store H :=
  let (args, activation) := activation.takeArgs type
  (.calling func args activation, store)

/-- A call in place of the rest of the function. -/
def handOver (store : Store H) (activation : Activation) (func : FuncKey) (type : FuncType) :
    Advance × Store H :=
  (.handingOver func (activation.takeArgs type).1, store)

/-- The state after the spent fuel is taken away, and the activation that starts to
count anew. -/
def settle (store : Store H) (activation : Activation) : Store H × Activation :=
  (store.charge activation.spent, { activation with spent := 0 })

/-- The activation without its top operand, which is an index. -/
def popIndex (activation : Activation) : Option (BitVec 32 × Activation) :=
  match activation.registers.operands with
  | .i32 index :: rest =>
      some (index, { activation with registers := { activation.registers with operands := rest } })
  | _ => none

/-- An instruction that branches or calls.  The activation is already past it. -/
def control (store : Store H) (owning : Instance) (activation : Activation) (instr : Instr) :
    Advance × Store H :=
  match instr with
  | .unreachable => (.halted (.fault .unreachable), store.charge activation.spent)
  | .block type body =>
      (.running
        (activation.into type.params.length type.results.length activation.code body), store)
  | .loop type body =>
      if store.exhausted activation.spent then
        (.halted (.fault .outOfFuel), store.charge activation.spent)
      else
        (.running
          (activation.into type.params.length type.params.length
            (.loop type body :: activation.code) body), store)
  | .ifElse type yes no =>
      match activation.popIndex with
      | some (condition, activation) =>
          (.running
            (activation.into type.params.length type.results.length activation.code
              (if condition = 0 then no else yes)), store)
      | none => (.halted .stuck, store)
  | .br depth => activation.branch store depth
  | .brIf depth =>
      match activation.popIndex with
      | some (condition, activation) =>
          if condition = 0 then (.running activation, store) else activation.branch store depth
      | none => (.halted .stuck, store)
  | .brTable targets fallback =>
      match activation.popIndex with
      | some (position, activation) =>
          activation.branch store (targets[position.toNat]?.getD fallback)
      | none => (.halted .stuck, store)
  | .return => leave store activation
  | .call index =>
      let (store, activation) := settle store activation
      match owning.types[index]? with
      | some type => activation.call store (.guest activation.owner index) type
      | none => (.halted .stuck, store)
  | .returnCall index =>
      let (store, activation) := settle store activation
      match owning.types[index]? with
      | some type => activation.handOver store (.guest activation.owner index) type
      | none => (.halted .stuck, store)
  | .callIndirect table type =>
      let (store, activation) := settle store activation
      match activation.popIndex with
      | some (position, activation) =>
          match indirect store owning table type position with
          | .ok func => activation.call store func type
          | .error halt => (.halted halt, store)
      | none => (.halted .stuck, store)
  | .returnCallIndirect table type =>
      let (store, activation) := settle store activation
      match activation.popIndex with
      | some (position, activation) =>
          match indirect store owning table type position with
          | .ok func => activation.handOver store func type
          | .error halt => (.halted halt, store)
      | none => (.halted .stuck, store)
  | instr =>
      match plainEffect store owning activation.registers activation.owner instr with
      | .ok (registers, change) =>
          (.running { activation with registers := registers }, store.apply change)
      | .error halt => (.halted halt, store)

/-- One step of an activation: its next instruction, or the end of a block. -/
def advance (activation : Activation) (store : Store H) : Advance × Store H :=
  match activation.code with
  | [] => finishBlock store activation
  | instr :: rest =>
      match store.instances[activation.owner]? with
      | some owning =>
          control store owning
            { activation with code := rest, spent := activation.spent + instr.cost } instr
      | none => (.halted .stuck, store)

end Activation

end WasmSandbox.Wasm
