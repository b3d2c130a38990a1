import WasmSandbox.Proofs.Engine.Effects
import WasmSandbox.Wasm.Activation

/-!
Contract: what stays as it is while the engine runs guest code.

Owns:
- the code of an instance: what it is made of apart from memories, tables, globals
  and segments;
- engine states of which one has the functions, instances and adapted types of the
  other, and engine states of which one only has more of them;
- that running guest code keeps all of that.

The type of a function, what an imported function stands for, and what runs when a
function is called are read off the hosts and the code alone.

Does not own: instantiation, or the state of memories, tables, globals and fuel.
-/

namespace WasmSandbox.Wasm

/-- The parts of an instance that never change. -/
structure Code where
  module : Module
  types : Array FuncType
  imports : Array FuncKey
  funcs : Array FuncDef

/-- The code of an instance. -/
def Instance.code (owning : Instance) : Code :=
  ⟨owning.module, owning.types, owning.imports, owning.funcs⟩

namespace Store

variable {H : Type}

/-- The code of the instance with a number. -/
def code? (store : Store H) (owner : Nat) : Option Code :=
  (store.instances[owner]?).map Instance.code

theorem funcType?_guest (store : Store H) (owner index : Nat) :
    store.funcType? (.guest owner index) = (store.code? owner).bind (·.types[index]?) := by
  simp only [funcType?, code?]
  cases store.instances[owner]? <;> rfl

theorem resolve_guest (store : Store H) (owner index : Nat) :
    store.resolve (.guest owner index) =
      ((store.code? owner).bind (·.imports[index]?)).getD (.guest owner index) := by
  simp only [resolve, code?]
  cases store.instances[owner]? <;> rfl

/-- An instance with a number has code, and its parts are those of the code. -/
theorem code?_eq_some_iff (store : Store H) (owner : Nat) (code : Code) :
    store.code? owner = some code ↔
      ∃ owning, store.instances[owner]? = some owning ∧ owning.code = code := by
  simp [code?]

/-- The same functions, instances and adapted types, and the same use of the budget. -/
structure Keeps (before after : Store H) : Prop where
  config : after.config = before.config
  hosts : after.hosts = before.hosts
  code : ∀ owner, after.code? owner = before.code? owner
  size : after.instances.size = before.instances.size
  adapted : after.adapted = before.adapted
  used : after.instancesUsed = before.instancesUsed

/-- At least the functions, instances and adapted types there were, and no less of the
budget used. -/
structure Extends (before after : Store H) : Prop where
  config : after.config = before.config
  host : ∀ {number : Nat} {func : HostFunc H},
    before.hosts[number]? = some func → after.hosts[number]? = some func
  code : ∀ {owner : Nat} {code : Code},
    before.code? owner = some code → after.code? owner = some code
  adapted : ∀ {type : FuncType}, type ∈ before.adapted → type ∈ after.adapted
  used : before.instancesUsed ≤ after.instancesUsed

theorem Keeps.refl (store : Store H) : Keeps store store :=
  ⟨rfl, rfl, fun _ => rfl, rfl, rfl, rfl⟩

theorem Keeps.trans {first second third : Store H} (earlier : Keeps first second)
    (later : Keeps second third) : Keeps first third where
  config := later.config.trans earlier.config
  hosts := later.hosts.trans earlier.hosts
  code := fun owner => (later.code owner).trans (earlier.code owner)
  size := later.size.trans earlier.size
  adapted := later.adapted.trans earlier.adapted
  used := later.used.trans earlier.used

theorem Extends.refl (store : Store H) : Extends store store :=
  ⟨rfl, id, id, id, Nat.le_refl _⟩

theorem Extends.trans {first second third : Store H} (earlier : Extends first second)
    (later : Extends second third) : Extends first third where
  config := later.config.trans earlier.config
  host := fun found => later.host (earlier.host found)
  code := fun found => later.code (earlier.code found)
  adapted := fun member => later.adapted (earlier.adapted member)
  used := Nat.le_trans earlier.used later.used

theorem Keeps.extends {before after : Store H} (keeps : Keeps before after) :
    Extends before after where
  config := keeps.config
  host := fun found => by rw [keeps.hosts]; exact found
  code := fun found => by rw [keeps.code]; exact found
  adapted := fun member => by rw [keeps.adapted]; exact member
  used := Nat.le_of_eq keeps.used.symm

theorem Extends.funcType?_eq_some {before after : Store H} (extension : Extends before after)
    {key : FuncKey} {type : FuncType} (found : before.funcType? key = some type) :
    after.funcType? key = some type := by
  cases key with
  | host number =>
      simp only [funcType?, Option.map_eq_some_iff] at found ⊢
      obtain ⟨func, member, same⟩ := found
      exact ⟨func, extension.host member, same⟩
  | guest owner index =>
      rw [funcType?_guest, Option.bind_eq_some_iff] at found ⊢
      obtain ⟨code, member, same⟩ := found
      exact ⟨code, extension.code member, same⟩

/-! ## Changes of memories, tables, globals, segments and fuel -/

theorem charge_keeps (store : Store H) (spent : Nat) : Keeps store (store.charge spent) :=
  ⟨rfl, rfl, fun _ => rfl, rfl, rfl, rfl⟩

theorem updateMemory_keeps (store : Store H) (address : Nat) (change : Memory → Memory) :
    Keeps store (store.updateMemory address change) :=
  ⟨rfl, rfl, fun _ => rfl, rfl, rfl, rfl⟩

theorem storeItems_keeps (store : Store H) (address start : Nat) (items : List Value) :
    Keeps store (store.storeItems address start items) :=
  ⟨rfl, rfl, fun _ => rfl, rfl, rfl, rfl⟩

theorem updateGlobal_keeps (store : Store H) (address : Nat) (value : Value) :
    Keeps store (store.updateGlobal address value) :=
  ⟨rfl, rfl, fun _ => rfl, rfl, rfl, rfl⟩

theorem addGlobal_keeps (store : Store H) (shape : GlobalShape) (value : Value) :
    Keeps store (store.addGlobal shape value).2 :=
  ⟨rfl, rfl, fun _ => rfl, rfl, rfl, rfl⟩

theorem addTable_keeps (store : Store H) (shape : TableShape) :
    Keeps store (store.addTable shape).2 :=
  ⟨rfl, rfl, fun _ => rfl, rfl, rfl, rfl⟩

theorem addMemory?_keeps {store after : Store H} {size : SizeRange} {address : Nat}
    (added : store.addMemory? size = some (address, after)) : Keeps store after := by
  unfold addMemory? at added
  split at added
  · cases added
    exact ⟨rfl, rfl, fun _ => rfl, rfl, rfl, rfl⟩
  · contradiction

/-- A change to segments of an instance leaves its code alone. -/
theorem updateInstance_keeps (store : Store H) (owner : Nat) (change : Instance → Instance)
    (sameCode : ∀ owning, (change owning).code = owning.code) :
    Keeps store (store.updateInstance owner change) where
  config := rfl
  hosts := rfl
  code := by
    intro other
    simp only [code?, updateInstance, Array.getElem?_modify]
    by_cases same : owner = other
    · simp only [if_pos same, Option.map_map]
      exact congrArg (fun code => Option.map code _) (funext sameCode)
    · simp only [if_neg same]
  size := by simp [updateInstance]
  adapted := rfl
  used := rfl

theorem apply_keeps (store : Store H) (change : Change) : Keeps store (store.apply change) := by
  cases change with
  | nothing => exact .refl store
  | bytes address start bytes => exact updateMemory_keeps ..
  | growMemory address delta => exact updateMemory_keeps ..
  | items address start items => exact storeItems_keeps ..
  | growTable address count item => exact ⟨rfl, rfl, fun _ => rfl, rfl, rfl, rfl⟩
  | global address value => exact updateGlobal_keeps ..
  | dropItems owner segment => exact updateInstance_keeps _ _ _ fun _ => rfl
  | dropBytes owner segment => exact updateInstance_keeps _ _ _ fun _ => rfl

end Store

/-! ## Running guest code -/

namespace Activation

open Store

variable {H : Type}

/-- What a step of guest code makes of the engine's state: fuel is taken away, or one
change is made that the state allows. -/
inductive Touched (store : Store H) : Store H → Prop where
  | charged (spent : Nat) : Touched store (store.charge spent)
  | changed (change : Change) (allowed : store.Allows change) : Touched store (store.apply change)

theorem Touched.same (store : Store H) : Touched store store :=
  .changed .nothing trivial

theorem Touched.keeps {before after : Store H} (touched : Touched before after) :
    Keeps before after := by
  cases touched with
  | charged spent => exact charge_keeps before spent
  | changed change allowed => exact apply_keeps before change

private theorem leave_touched (store : Store H) (activation : Activation) :
    Touched store (leave store activation).2 :=
  .charged _

private theorem branch_touched (store : Store H) (activation : Activation) (depth : Nat) :
    Touched store (branch store activation depth).2 := by
  unfold branch
  split
  · exact .same store
  · exact leave_touched store activation

private theorem finishBlock_touched (store : Store H) (activation : Activation) :
    Touched store (finishBlock store activation).2 := by
  unfold finishBlock
  split
  · exact .same store
  · exact leave_touched store activation

private theorem control_touched (store : Store H) (owning : Instance) (activation : Activation)
    (instr : Instr) : Touched store (control store owning activation instr).2 := by
  unfold control
  split
  case h_1 => exact .charged _
  case h_2 => exact .same store
  case h_3 =>
    split
    · exact .charged _
    · exact .same store
  case h_4 => split <;> exact .same store
  case h_5 => exact branch_touched ..
  case h_6 =>
    split
    · split
      · exact .same store
      · exact branch_touched ..
    · exact .same store
  case h_7 =>
    split
    · exact branch_touched ..
    · exact .same store
  case h_8 => exact leave_touched ..
  -- A call takes away what was spent first, whatever becomes of it then.
  case h_9 => simp only [settle]; split <;> exact .charged _
  case h_10 => simp only [settle]; split <;> exact .charged _
  case h_11 =>
    simp only [settle]
    split
    · split <;> exact .charged _
    · exact .charged _
  case h_12 =>
    simp only [settle]
    split
    · split <;> exact .charged _
    · exact .charged _
  case h_13 =>
    have asks := plainEffect_asks store owning activation.registers activation.owner instr
    split
    · rename_i asked
      exact .changed _ (asks _ _ asked)
    · exact .same store

theorem advance_touched (activation : Activation) (store : Store H) :
    Touched store (advance activation store).2 := by
  unfold advance
  split
  · exact finishBlock_touched store activation
  · split
    · exact control_touched ..
    · exact .same store

theorem enter_touched (store : Store H) (owner level : Nat) (func : FuncDef) (args : List Value) :
    Touched store (enter store owner level func args).2 := by
  unfold enter
  split
  · exact .charged _
  · exact .same store

end Activation

end WasmSandbox.Wasm
