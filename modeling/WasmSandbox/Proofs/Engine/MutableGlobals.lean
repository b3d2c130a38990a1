import WasmSandbox.Proofs.Engine.GlobalTypes

/-!
Contract: valid code sets mutable globals only.

Owns:
- the globals that code sets, in blocks of any depth too;
- that valid functions set only globals that their module declares mutable;
- that this holds of all that is left of a function, from its start to its end, whatever
  instructions and branches it goes through;
- that every write of such code is to a mutable global.

Does not own: what waits in a run, and writes of the host.
-/

namespace WasmSandbox.Wasm

/-! ## Code -/

mutual

/-- The globals that an instruction sets, in itself or in a block. -/
def Instr.globalsSet : Instr → List Nat
  | .globalSet index => [index]
  | .block _ body => globalsSetIn body
  | .loop _ body => globalsSetIn body
  | .ifElse _ yes no => globalsSetIn yes ++ globalsSetIn no
  | _ => []

def globalsSetIn : List Instr → List Nat
  | [] => []
  | instr :: rest => instr.globalsSet ++ globalsSetIn rest

end

/-- The index is that of a global that can be set. -/
def IsMutable (shapes : List GlobalShape) (index : Nat) : Prop :=
  ∃ shape, shapes[index]? = some shape ∧ shape.mutable = true

/-- Code sets mutable globals only. -/
def SetsMutable (shapes : List GlobalShape) (code : List Instr) : Prop :=
  ∀ index ∈ globalsSetIn code, IsMutable shapes index

theorem SetsMutable.cons_iff {shapes : List GlobalShape} {instr : Instr} {rest : List Instr} :
    SetsMutable shapes (instr :: rest) ↔
      (∀ index ∈ instr.globalsSet, IsMutable shapes index) ∧ SetsMutable shapes rest := by
  simp only [SetsMutable, globalsSetIn]
  exact List.forall_mem_append

/-! ## Valid code -/

theorem entry_eq_ok_iff {α : Type} {space : Array α} {index : Nat} {name : String} {found : α} :
    entry space index name = .ok found ↔ space[index]? = some found := by
  unfold entry
  cases space[index]? <;> simp

namespace Scope

variable {scope : Scope} {shapes : List GlobalShape}

mutual

theorem checkInstr_sets (isScope : scope.globals = shapes.toArray) (instr : Instr)
    {labels : List (List ValType)} {operands after : Operands}
    (checked : scope.checkInstr labels operands instr = .ok after) :
    ∀ index ∈ instr.globalsSet, IsMutable shapes index := by
  cases instr with
  | block type body =>
      simp only [checkInstr, bind_eq_ok_iff] at checked
      obtain ⟨_, -, _, -, _, inside, -⟩ := checked
      exact checkSeq_sets isScope body inside
  | loop type body =>
      simp only [checkInstr, bind_eq_ok_iff] at checked
      obtain ⟨_, -, _, -, _, inside, -⟩ := checked
      exact checkSeq_sets isScope body inside
  | ifElse type yes no =>
      simp only [checkInstr, bind_eq_ok_iff] at checked
      obtain ⟨_, -, _, -, _, -, _, inYes, _, -, _, inNo, -⟩ := checked
      exact List.forall_mem_append.2
        ⟨checkSeq_sets isScope yes inYes, checkSeq_sets isScope no inNo⟩
  | globalSet index =>
      obtain ⟨shape, isShape, rest⟩ := bind_eq_ok_iff.1 checked
      obtain ⟨_, canBeSet, -⟩ := bind_eq_ok_iff.1 rest
      rw [entry_eq_ok_iff, isScope, List.getElem?_toArray] at isShape
      rw [require_eq_ok_iff] at canBeSet
      exact List.forall_mem_singleton.2 ⟨shape, isShape, canBeSet⟩
  | _ => exact List.forall_mem_nil _

theorem checkSeq_sets (isScope : scope.globals = shapes.toArray) :
    (code : List Instr) → {labels : List (List ValType)} → {operands after : Operands} →
      scope.checkSeq labels operands code = .ok after → SetsMutable shapes code
  | [], _, _, _, _ => List.forall_mem_nil _
  | instr :: rest, _, _, _, checked => by
      rw [checkSeq] at checked
      obtain ⟨_, first, later⟩ := bind_eq_ok_iff.1 checked
      exact SetsMutable.cons_iff.2
        ⟨checkInstr_sets isScope instr first, checkSeq_sets isScope rest later⟩

end

end Scope

/-- The functions of a valid module set only globals that it declares mutable. -/
theorem Module.Valid.setsMutable {module : Module} (valid : module.Valid) :
    ∀ func ∈ module.funcs, SetsMutable module.globalShapes func.body := by
  obtain ⟨features, checked⟩ := valid
  simp only [check, bind_eq_ok_iff, forM_eq_ok_iff, exists_const] at checked
  obtain ⟨-, -, -, -, -, -, -, -, -, -, -, -, ⟨_, -, -, -, funcs⟩⟩ := checked
  intro func member
  have passed := funcs func member
  simp only [checkFunc, Scope.checkBody, bind_eq_ok_iff] at passed
  obtain ⟨_, -, _, -, _, -, _, body, -⟩ := passed
  exact Scope.checkSeq_sets rfl func.body body

/-! ## Code of instances -/

/-- The functions of an instance set mutable globals only. -/
def Code.SetsMutable (code : Code) : Prop :=
  ∀ func ∈ code.funcs, Wasm.SetsMutable code.module.globalShapes func.body

variable {H : Type}

namespace Store

/-- So do those of all instances. -/
def SetsMutable (store : Store H) : Prop :=
  ∀ owner code, store.code? owner = some code → code.SetsMutable

/-- What happens while no instance is made leaves the code of all instances. -/
theorem SetsMutable.works {before after : Store H} (sets : before.SetsMutable)
    (works : before.Works after) (extension : before.Extends after) : after.SetsMutable := by
  intro owner code found
  obtain ⟨owning, isOwning, -⟩ := (code?_eq_some_iff ..).1 found
  have inside : owner < before.instances.size := by
    rw [← works.size]
    exact (Array.getElem?_eq_some_iff.1 isOwning).1
  have was : before.code? owner = some before.instances[owner].code := by
    rw [code?, Array.getElem?_eq_getElem inside, Option.map_some]
  have same := (extension.code was).symm.trans found
  exact sets owner code (was.trans same)

theorem SetsMutable.instantiate {store : Store H} (sets : store.SetsMutable) {module : Module}
    (valid : module.Valid) (imports : List Extern) :
    (instantiate store module imports).2.SetsMutable := by
  intro owner code found
  rcases (instantiate_instantiated store module imports).code?_cases found with old | ⟨-, rfl⟩
  · exact sets owner code old
  · intro func member
    exact valid.setsMutable func (by simpa [Module.codeWith] using member)

end Store

/-! ## Running code -/

/-- All that is left of a function, after any branch too, sets mutable globals only. -/
structure Activation.SetsMutable (shapes : List GlobalShape) (activation : Activation) :
    Prop where
  code : Wasm.SetsMutable shapes activation.code
  labels : ∀ label ∈ activation.labels,
    Wasm.SetsMutable shapes label.onBranch ∧ Wasm.SetsMutable shapes label.onEnd

/-- The activation that goes on, now or once a call returns. -/
def Advance.next? : Advance → Option Activation
  | .running activation => some activation
  | .calling _ _ activation => some activation
  | _ => none

/-- What goes on is of the same instance, and sets mutable globals only. -/
def Advance.SetsMutable (shapes : List GlobalShape) (owner : Nat) (advance : Advance) : Prop :=
  ∀ next, advance.next? = some next → next.owner = owner ∧ next.SetsMutable shapes

theorem Advance.SetsMutable.ended {shapes : List GlobalShape} {owner : Nat} {advance : Advance}
    (ends : advance.next? = none) : advance.SetsMutable shapes owner := by
  intro next isNext
  rw [ends] at isNext
  contradiction

namespace Activation

variable {store : Store H} {shapes : List GlobalShape} {activation : Activation}

theorem SetsMutable.running (sets : activation.SetsMutable shapes) :
    (Advance.running activation).SetsMutable shapes activation.owner := by
  rintro _ ⟨rfl⟩
  exact ⟨rfl, sets⟩

/-- What goes on with other registers, or with its fuel counted anew, has the same code. -/
theorem SetsMutable.same (sets : activation.SetsMutable shapes) {next : Activation}
    (owner : next.owner = activation.owner) (code : next.code = activation.code)
    (labels : next.labels = activation.labels) :
    (Advance.running next).SetsMutable shapes activation.owner := by
  rintro _ ⟨rfl⟩
  exact ⟨owner, code ▸ sets.code, labels ▸ sets.labels⟩

theorem SetsMutable.withRegisters (sets : activation.SetsMutable shapes)
    (registers : Registers) :
    { activation with registers := registers : Activation }.SetsMutable shapes :=
  ⟨sets.code, sets.labels⟩

theorem popIndex_eq_some {index : BitVec 32} {next : Activation}
    (popped : activation.popIndex = some (index, next)) :
    ∃ registers, next = { activation with registers := registers } := by
  unfold popIndex at popped
  split at popped
  · cases popped
    exact ⟨_, rfl⟩
  · contradiction

theorem SetsMutable.into (sets : activation.SetsMutable shapes) {params arity : Nat}
    {onBranch body : List Instr} (branch : Wasm.SetsMutable shapes onBranch)
    (inside : Wasm.SetsMutable shapes body) :
    (activation.into params arity onBranch body).SetsMutable shapes :=
  ⟨inside, List.forall_mem_cons.2 ⟨⟨branch, sets.code⟩, sets.labels⟩⟩

theorem SetsMutable.branch (sets : activation.SetsMutable shapes) (depth : Nat) :
    (branch store activation depth).1.SetsMutable shapes activation.owner := by
  unfold Activation.branch
  split
  · rename_i label outer dropped
    have labels : ∀ label ∈ activation.labels.drop depth,
        Wasm.SetsMutable shapes label.onBranch ∧ Wasm.SetsMutable shapes label.onEnd :=
      fun label member => sets.labels label (List.mem_of_mem_drop member)
    rw [dropped] at labels
    obtain ⟨here, others⟩ := List.forall_mem_cons.1 labels
    rintro _ ⟨rfl⟩
    exact ⟨rfl, here.1, others⟩
  · exact .ended rfl

theorem SetsMutable.finishBlock (sets : activation.SetsMutable shapes) :
    (finishBlock store activation).1.SetsMutable shapes activation.owner := by
  unfold Activation.finishBlock
  split
  · rename_i label outer isLabels
    obtain ⟨here, others⟩ := List.forall_mem_cons.1 (isLabels ▸ sets.labels)
    rintro _ ⟨rfl⟩
    exact ⟨rfl, here.2, others⟩
  · exact .ended rfl

theorem SetsMutable.control (sets : activation.SetsMutable shapes) {owning : Instance}
    {instr : Instr} (setsFirst : ∀ index ∈ instr.globalsSet, IsMutable shapes index) :
    (control store owning activation instr).1.SetsMutable shapes activation.owner := by
  unfold Activation.control
  split
  case h_1 => exact .ended rfl
  case h_2 type body => exact (sets.into sets.code setsFirst).running
  case h_3 type body =>
    split
    · exact .ended rfl
    -- A branch to a loop begins it again.
    · exact (sets.into (SetsMutable.cons_iff.2 ⟨setsFirst, sets.code⟩) setsFirst).running
  case h_4 type yes no =>
    obtain ⟨inYes, inNo⟩ := List.forall_mem_append.1 setsFirst
    split
    · rename_i condition popped isPopped
      obtain ⟨registers, rfl⟩ := popIndex_eq_some isPopped
      have inside : Wasm.SetsMutable shapes (if condition = 0 then no else yes) := by
        split
        · exact inNo
        · exact inYes
      exact ((sets.withRegisters registers).into sets.code inside).running
    · exact .ended rfl
  case h_5 depth => exact sets.branch depth
  case h_6 depth =>
    split
    · rename_i condition popped isPopped
      obtain ⟨registers, rfl⟩ := popIndex_eq_some isPopped
      split
      · exact sets.same rfl rfl rfl
      · exact (sets.withRegisters registers).branch depth
    · exact .ended rfl
  case h_7 targets fallback =>
    split
    · rename_i position popped isPopped
      obtain ⟨registers, rfl⟩ := popIndex_eq_some isPopped
      exact (sets.withRegisters registers).branch _
    · exact .ended rfl
  case h_8 => exact .ended rfl
  case h_9 =>
    simp only [settle]
    split
    · exact sets.same rfl rfl rfl
    · exact .ended rfl
  case h_10 =>
    simp only [settle]
    split <;> exact .ended rfl
  case h_11 =>
    simp only [settle]
    split
    · rename_i position popped isPopped
      obtain ⟨registers, rfl⟩ := popIndex_eq_some isPopped
      split
      · exact sets.same rfl rfl rfl
      · exact .ended rfl
    · exact .ended rfl
  case h_12 =>
    simp only [settle]
    split
    · split <;> exact .ended rfl
    · exact .ended rfl
  case h_13 =>
    split
    · exact sets.same rfl rfl rfl
    · exact .ended rfl

/-- A step of guest code leaves code that sets mutable globals only. -/
theorem SetsMutable.advance (sets : activation.SetsMutable shapes) :
    (advance activation store).1.SetsMutable shapes activation.owner := by
  unfold Activation.advance
  split
  · exact sets.finishBlock
  · rename_i instr rest isCode
    obtain ⟨first, later⟩ := SetsMutable.cons_iff.1 (isCode ▸ sets.code)
    split
    · rename_i owning isOwning
      have remaining : { activation with
          code := rest, spent := activation.spent + instr.cost : Activation }.SetsMutable shapes :=
        ⟨later, sets.labels⟩
      exact remaining.control first
    · exact .ended rfl

theorem enter_setsMutable (store : Store H) {func : FuncDef}
    (sets : Wasm.SetsMutable shapes func.body) (owner level : Nat) (args : List Value) :
    (enter store owner level func args).1.SetsMutable shapes owner := by
  unfold enter
  split
  · exact .ended rfl
  · rintro _ ⟨rfl⟩
    exact ⟨rfl, sets, List.forall_mem_nil _⟩

/-- Where instances find the globals that their modules declare, a write of guest code is to a
mutable one. -/
theorem SetsMutable.write_mutable {owning : Instance}
    (sets : activation.SetsMutable owning.module.globalShapes) (shaped : store.Shaped)
    (isOwning : store.instances[activation.owner]? = some owning) {write : GlobalWrite}
    (writes : activation.write? store = some write) :
    ∃ shape, store.HasGlobal shape write.address ∧ shape.mutable = true := by
  simp only [write?, Option.bind_eq_bind, Option.bind_eq_some_iff, isOwning,
    Option.some.injEq, exists_eq_left'] at writes
  obtain ⟨instr, isFirst, writes⟩ := writes
  obtain ⟨rest, isCode⟩ := List.head?_eq_some_iff.1 isFirst
  have setsFirst := (SetsMutable.cons_iff.1 (isCode ▸ sets.code)).1
  cases instr with
  | globalSet index =>
      simp only [Instr.write?, Option.bind_eq_bind, Option.bind_eq_some_iff, Option.pure_def,
        Option.some.injEq] at writes
      obtain ⟨address, isAddress, value, -, rfl⟩ := writes
      obtain ⟨shape, isShape, has⟩ :=
        (shaped owning (Array.mem_of_getElem? isOwning)).getElem? isAddress
      obtain ⟨other, isOther, canBeSet⟩ := setsFirst index (List.mem_singleton_self _)
      rw [isShape, Option.some.injEq] at isOther
      exact ⟨shape, has, isOther ▸ canBeSet⟩
  | _ => contradiction

end Activation

end WasmSandbox.Wasm
