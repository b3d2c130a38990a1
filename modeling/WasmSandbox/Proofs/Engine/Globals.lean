import WasmSandbox.Proofs.Engine.Placement

/-!
Contract: what becomes of the contents of globals in the engine.

Owns:
- writes to globals, and engine states of which one has the globals of the other with a write
  carried out;
- that an instruction writes to a global exactly if it is `global.set`, and to the one that
  the instance has under the index;
- that `global.get` reads the content of the global that the instance has under the index;
- that making an instance writes to no global that was there.

Does not own: which globals may be written (`WasmSandbox.Proofs.Engine.GlobalTypes`), and
writes of the host.
-/

namespace WasmSandbox.Wasm

/-- A value that is written to a global. -/
structure GlobalWrite where
  address : Nat
  value : Value
deriving DecidableEq, Repr

/-- The value that a write puts into the global at an address, if it is that one. -/
def GlobalWrite.at? (write : GlobalWrite) (address : Nat) : Option Value :=
  if write.address = address then some write.value else none

variable {H : Type}

namespace Store

/-- Every global that was there is there still, with the written value if it is the one that
is written, and with its content otherwise. -/
def Commits (write : Option GlobalWrite) (before after : Store H) : Prop :=
  ∀ (address : Nat) (global : Global), before.globals[address]? = some global →
    after.globals[address]? =
      some { global with value := (write.bind (·.at? address)).getD global.value }

namespace Commits

variable {before middle after : Store H} {write : Option GlobalWrite}

theorem of_eq (same : after.globals = before.globals) : Commits none before after := by
  intro address global found
  rw [same, found]
  rfl

theorem refl (store : Store H) : Commits none store store := .of_eq rfl

theorem after_silent (earlier : Commits none before middle) (later : Commits write middle after) :
    Commits write before after :=
  fun address global found => later address global (earlier address global found)

theorem before_silent (earlier : Commits write before middle) (later : Commits none middle after) :
    Commits write before after :=
  fun address _ found => later address _ (earlier address _ found)

end Commits

theorem updateGlobal_commits (store : Store H) (address : Nat) (value : Value) :
    Commits (some ⟨address, value⟩) store (store.updateGlobal address value) := by
  intro other global found
  simp only [updateGlobal, Array.getElem?_modify, GlobalWrite.at?, Option.bind_some, found]
  by_cases here : address = other
  · simp [here]
  · simp [here]

/-- To hand a function out changes no global. -/
theorem emerge_globals (store : Store H) (key : FuncKey) :
    (store.emerge key).2.globals = store.globals := by
  unfold emerge
  split
  · rfl
  · split
    · split <;> rfl
    · rfl

theorem addMemory?_globals {store after : Store H} {size : SizeRange} {address : Nat}
    (added : store.addMemory? size = some (address, after)) : after.globals = store.globals := by
  unfold addMemory? at added
  split at added
  · cases added
    rfl
  · contradiction

theorem addGlobal_commits (store : Store H) (shape : GlobalShape) (value : Value) :
    Commits none store (store.addGlobal shape value).2 := by
  intro address global found
  have inside : address < store.globals.size := (Array.getElem?_eq_some_iff.1 found).1
  simp only [addGlobal]
  rw [Array.getElem?_push, if_neg (Nat.ne_of_lt inside), found]
  rfl

end Store

open Store

/-! ## Instructions -/

/-- The write to a global among the changes of an instruction. -/
def Change.write? : Change → Option GlobalWrite
  | .global address value => some ⟨address, value⟩
  | _ => none

theorem Store.apply_commits (store : Store H) (change : Change) :
    Commits change.write? store (store.apply change) := by
  cases change with
  | global address value => exact store.updateGlobal_commits address value
  | _ => exact .of_eq rfl

/-- The write of an instruction in the code of an instance: `global.set` writes the operand on
top to the global under its index. -/
def Instr.write? (owning : Instance) (operands : List Value) : Instr → Option GlobalWrite
  | .globalSet index => do
      return ⟨← owning.globals[index]?, ← operands.head?⟩
  | _ => none

/-- If an instruction goes on, it makes the given write. -/
def Writes (write : Option GlobalWrite) (effect : Except Halt (Registers × Change)) : Prop :=
  ∀ next change, effect = .ok (next, change) → change.write? = write

namespace Writes

variable {write : Option GlobalWrite}

theorem ok {next : Registers} {change : Change} (writes : change.write? = write) :
    Writes write (.ok (next, change)) := by
  rintro _ _ ⟨rfl, rfl⟩
  exact writes

theorem error {halt : Halt} : Writes write (.error halt) := nofun

theorem bind {α : Type} {first : Except Halt α} {rest : α → Except Halt (Registers × Change)}
    (each : ∀ value, first = .ok value → Writes write (rest value)) :
    Writes write (first >>= rest) := by
  intro next change done
  obtain ⟨value, isFirst, isRest⟩ := bind_eq_ok_iff.1 done
  exact each value isFirst next change isRest

end Writes

section

variable (store : Store H) (owning : Instance) (registers : Registers) (owner : Nat)
  (instr : Instr)

theorem memoryEffect_writes : Writes none (memoryEffect store owning registers instr) := by
  unfold memoryEffect
  split
  all_goals
    repeat' first
      | exact .ok rfl
      | exact .error
      | refine .bind fun _ _ => ?_
      | split

theorem tableEffect_writes : Writes none (tableEffect store owning registers instr) := by
  unfold tableEffect
  split
  all_goals
    repeat' first
      | exact .ok rfl
      | exact .error
      | refine .bind fun _ _ => ?_
      | split

theorem numericEffect_writes (op : NumericOp) :
    Writes none (numericEffect store registers op) := by
  refine .bind fun result _ => ?_
  cases result with
  | ok value => exact .ok rfl
  | error fault => exact .error

theorem variableEffect_writes :
    Writes (instr.write? owning registers.operands)
      (variableEffect store owning registers owner instr) := by
  unfold variableEffect
  split
  case h_5 index value rest operands =>
    refine .bind fun address found => .ok ?_
    rw [need_eq_ok_iff] at found
    simp [Change.write?, Instr.write?, operands, found]
  all_goals
    repeat' first
      | exact .ok rfl
      | exact .error
      | refine .bind fun _ _ => ?_

/-- Of the instructions that neither branch nor call, `global.set` alone writes to a global. -/
theorem plainEffect_writes :
    Writes (instr.write? owning registers.operands)
      (plainEffect store owning registers owner instr) := by
  unfold plainEffect
  split
  case h_5 op => exact numericEffect_writes store registers op
  case h_6 | h_7 | h_8 | h_9 | h_10 | h_11 | h_12 | h_13 =>
    exact memoryEffect_writes store owning registers _
  case h_14 | h_15 | h_16 | h_17 | h_18 | h_19 | h_20 =>
    exact tableEffect_writes store owning registers _
  case h_21 => exact variableEffect_writes store owning registers owner _
  all_goals exact .ok rfl

variable {store owning registers owner instr}

/-- An instruction that fails is none that writes to a global: `global.set` needs an operand
and a global only. -/
theorem write?_of_error {halt : Halt}
    (failed : plainEffect store owning registers owner instr = .error halt) :
    instr.write? owning registers.operands = none := by
  cases instr with
  | globalSet index =>
      cases isAddress : owning.globals[index]? with
      | none => simp [Instr.write?, isAddress]
      | some address =>
          cases operands : registers.operands with
          | nil => simp [Instr.write?]
          | cons value rest =>
              simp [plainEffect, variableEffect, operands, isAddress, need, bind, Except.bind,
                pure, Except.pure] at failed
  | _ => rfl

/-- `global.get` puts the content of a global on top. -/
theorem plainEffect_globalGet {index address : Nat} {global : Global}
    (isAddress : owning.globals[index]? = some address)
    (found : store.globals[address]? = some global) :
    plainEffect store owning registers owner (.globalGet index) =
      .ok (registers.push global.value registers.operands, .nothing) := by
  simp [plainEffect, variableEffect, isAddress, found, need, bind, Except.bind, pure, Except.pure]

end

/-! ## Running guest code -/

namespace Activation

/-- The write to a global with which an activation goes on. -/
def write? (activation : Activation) (store : Store H) : Option GlobalWrite := do
  (← activation.code.head?).write? (← store.instances[activation.owner]?)
    activation.registers.operands

/-- An activation that goes on with `global.set` writes the operand on top. -/
theorem write?_of_globalSet {activation : Activation} {store : Store H} {owning : Instance}
    {index address : Nat} {code : List Instr} {value : Value} {rest : List Value}
    (isNext : activation.code = .globalSet index :: code)
    (operands : activation.registers.operands = value :: rest)
    (isOwning : store.instances[activation.owner]? = some owning)
    (isAddress : owning.globals[index]? = some address) :
    activation.write? store = some ⟨address, value⟩ := by
  simp [write?, isNext, operands, isOwning, Instr.write?, isAddress]

section

variable (store : Store H) (activation : Activation)

private theorem branch_globals (depth : Nat) :
    (branch store activation depth).2.globals = store.globals := by
  unfold branch
  split <;> rfl

private theorem finishBlock_globals :
    (finishBlock store activation).2.globals = store.globals := by
  unfold finishBlock
  split <;> rfl

/-- Branches and calls only take fuel away. -/
private theorem control_commits (owning : Instance) (instr : Instr) :
    Commits (instr.write? owning activation.registers.operands) store
      (control store owning activation instr).2 := by
  unfold control
  split
  case h_13 =>
    have writes := plainEffect_writes store owning activation.registers activation.owner instr
    split
    · rename_i asked
      rw [← writes _ _ asked]
      exact store.apply_commits _
    · rename_i halt failed
      rw [write?_of_error failed]
      exact .refl store
  case h_5 => exact .of_eq (branch_globals ..)
  case h_6 =>
    split
    · split
      · exact .refl store
      · exact .of_eq (branch_globals ..)
    · exact .refl store
  case h_7 =>
    split
    · exact .of_eq (branch_globals ..)
    · exact .refl store
  case h_3 | h_4 => split <;> exact .of_eq rfl
  case h_9 | h_10 => simp only [settle]; split <;> exact .of_eq rfl
  case h_11 | h_12 =>
    simp only [settle]
    split
    · split <;> exact .of_eq rfl
    · exact .of_eq rfl
  all_goals exact .of_eq rfl

/-- A step of guest code makes the write that is next, and no other. -/
theorem advance_commits :
    Commits (activation.write? store) store (advance activation store).2 := by
  unfold advance write?
  cases activation.code with
  | nil => exact .of_eq (finishBlock_globals ..)
  | cons instr rest =>
      cases isOwning : store.instances[activation.owner]? with
      | none => exact .refl store
      | some owning =>
          exact control_commits store
            { activation with code := rest, spent := activation.spent + instr.cost } owning instr

theorem enter_commits (owner level : Nat) (func : FuncDef) (args : List Value) :
    Commits none store (enter store owner level func args).2 := by
  unfold enter
  split <;> exact .of_eq rfl

variable {store activation}

/-- Guest code that goes on with `global.get` reads the content of the global that its
instance has under the index. -/
theorem advance_globalGet {owning : Instance} {index address : Nat} {code : List Instr}
    {global : Global} (isNext : activation.code = .globalGet index :: code)
    (isOwning : store.instances[activation.owner]? = some owning)
    (isAddress : owning.globals[index]? = some address)
    (found : store.globals[address]? = some global) :
    advance activation store = (.running { activation with
      registers := activation.registers.push global.value activation.registers.operands
      code := code
      spent := activation.spent + 1 }, store) := by
  simp only [advance, isNext, isOwning, control, plainEffect_globalGet isAddress found]
  rfl

end

end Activation

/-! ## Making an instance -/

/-- New memories and tables change neither globals nor instances. -/
theorem addMemories_rest {store after : Store H} {shapes : List MemoryShape}
    {addresses : List Nat} (added : addMemories store shapes = .ok (addresses, after)) :
    after.globals = store.globals ∧ after.instances = store.instances := by
  induction shapes generalizing store addresses with
  | nil =>
      cases added
      exact ⟨rfl, rfl⟩
  | cons shape rest inductionHypothesis =>
      unfold addMemories at added
      split at added
      · rename_i address grown first
        obtain ⟨⟨others, last⟩, more, same⟩ := bind_eq_ok_iff.1 added
        cases same
        unfold addMemory? at first
        split at first
        · cases first
          have others := inductionHypothesis more
          exact others
        · contradiction
      · contradiction

theorem addTables_rest (store : Store H) (shapes : List TableShape) :
    (addTables store shapes).2.globals = store.globals ∧
      (addTables store shapes).2.instances = store.instances := by
  induction shapes generalizing store with
  | nil => exact ⟨rfl, rfl⟩
  | cons shape rest inductionHypothesis => exact inductionHypothesis (store.addTable shape).2

theorem addGlobals_commits {owner : Nat} {imported : Array Nat} {store after : Store H}
    {items : List GlobalDef} {addresses : List Nat}
    (added : addGlobals owner imported store items = some (addresses, after)) :
    Commits none store after := by
  induction items generalizing store addresses with
  | nil =>
      cases added
      exact .refl _
  | cons item rest inductionHypothesis =>
      simp only [addGlobals, Option.bind_eq_bind, Option.bind_eq_some_iff, Option.pure_def,
        Option.some.injEq, Prod.mk.injEq] at added
      obtain ⟨value, -, ⟨others, grown⟩, more, -, rfl⟩ := added
      exact (store.addGlobal_commits item.shape value).after_silent (inductionHypothesis more)

private theorem allocate_commits (store : Store H) (module : Module) (imports : List Extern) :
    Commits none store (allocate store module imports).2 := by
  unfold allocate
  split
  · exact .refl store
  · rename_i ownMemories grown memories
    simp only
    split
    · exact .refl store
    · rename_i ownGlobals full globals
      have others : (addTables grown module.tables).2.globals = store.globals :=
        (addTables_rest grown module.tables).1.trans (addMemories_rest memories).1
      exact ((Commits.of_eq others).after_silent (addGlobals_commits globals)).before_silent
        (.of_eq rfl)

/-- Copying the segments of an instance changes neither globals nor instances. -/
theorem copyElems_rest (owner : Nat) (owning : Instance) (store : Store H)
    (segments : List ElemSegment) :
    (copyElems owner owning store segments).2.globals = store.globals ∧
      (copyElems owner owning store segments).2.instances = store.instances := by
  induction segments generalizing store with
  | nil => exact ⟨rfl, rfl⟩
  | cons segment rest inductionHypothesis =>
      unfold copyElems
      split
      · simp only
        split
        · split
          · exact inductionHypothesis _
          · exact ⟨rfl, rfl⟩
        · exact ⟨rfl, rfl⟩
      · exact inductionHypothesis store

theorem copyDatas_rest (owner : Nat) (owning : Instance) (store : Store H)
    (segments : List DataSegment) :
    (copyDatas owner owning store segments).2.globals = store.globals ∧
      (copyDatas owner owning store segments).2.instances = store.instances := by
  induction segments generalizing store with
  | nil => exact ⟨rfl, rfl⟩
  | cons segment rest inductionHypothesis =>
      unfold copyDatas
      split
      · simp only
        split
        · split
          · exact inductionHypothesis _
          · exact ⟨rfl, rfl⟩
        · exact ⟨rfl, rfl⟩
      · exact inductionHypothesis store

/-- What an instantiation leaves of globals and instances is what the allocation does, whether
or not segments can be copied then. -/
theorem instantiate_rest (store : Store H) (module : Module) (imports : List Extern) :
    (instantiate store module imports).2.globals = store.globals ∧
        (instantiate store module imports).2.instances = store.instances ∨
      (instantiate store module imports).2.globals =
          (allocate (store.prepare module) module imports).2.globals ∧
        (instantiate store module imports).2.instances =
          (allocate (store.prepare module) module imports).2.instances := by
  unfold instantiate
  simp only
  split
  · exact .inl ⟨rfl, rfl⟩
  · right
    change _ = (allocate (Store.adapt _ _) module imports).2.globals ∧
      _ = (allocate (Store.adapt _ _) module imports).2.instances
    split
    · rename_i failure placed allocated
      rw [allocated]
      exact ⟨rfl, rfl⟩
    · rename_i made placed allocated
      rw [allocated]
      have items := copyElems_rest store.instances.size made placed module.elems
      split
      · rename_i failure filled elems
        rwa [elems] at items
      · rename_i filled elems
        rw [elems] at items
        have bytes := copyDatas_rest store.instances.size made filled module.datas
        split
        · rename_i failure last datas
          rw [datas] at bytes
          exact ⟨bytes.1.trans items.1, bytes.2.trans items.2⟩
        · rename_i last datas
          rw [datas] at bytes
          exact ⟨bytes.1.trans items.1, bytes.2.trans items.2⟩

/-- An instance that is made, or fails to be made, writes to no global that was there. -/
theorem instantiate_commits (store : Store H) (module : Module) (imports : List Extern) :
    Commits none store (instantiate store module imports).2 := by
  rcases instantiate_rest store module imports with ⟨same, -⟩ | ⟨same, -⟩
  · exact .of_eq same
  · exact (allocate_commits (store.prepare module) module imports).before_silent (.of_eq same)

end WasmSandbox.Wasm
