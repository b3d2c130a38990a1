import WasmSandbox.Proofs.Engine.Instances

/-!
Contract: what becomes of fuel in the engine.

Owns:
- engine states of which one has burned fuel of the other;
- that a step of guest code burns fuel, and never gives any back;
- that nothing else takes fuel: a change that an instruction asks for, a function that
  is made or handed out, and an instance that is made, whether or not that succeeds.

Fuel may fall below nothing, and shows as nothing then.  What is taken away is therefore
compared as integers here, and as it is shown in `Burns.fuelLeft`.

Does not own: when guest code runs, and what the embedder sets.
-/

namespace WasmSandbox.Wasm

namespace Store

variable {H : Type} {before middle after : Store H}

/-- Fuel was taken away, where it is metered. -/
def Burns (before after : Store H) : Prop :=
  ∃ spent : Nat, after.fuel = (before.charge spent).fuel

namespace Burns

theorem of_eq (same : after.fuel = before.fuel) : Burns before after :=
  ⟨0, by cases fuel : before.fuel <;> simp [charge, same, fuel]⟩

theorem trans (earlier : Burns before middle) (later : Burns middle after) :
    Burns before after := by
  obtain ⟨first, isMiddle⟩ := earlier
  obtain ⟨second, isAfter⟩ := later
  refine ⟨first + second, ?_⟩
  simp only [isAfter, isMiddle, charge, Option.map_map]
  cases before.fuel with
  | none => rfl
  | some fuel =>
      have sum : fuel - first - second = fuel - ((first + second : Nat) : Int) := by omega
      simpa using sum

/-- What is shown of burned fuel is no more than before. -/
theorem fuelLeft {had : Nat} (burns : Burns before after) (shown : before.fuelLeft = some had) :
    ∃ left, after.fuelLeft = some left ∧ left ≤ had := by
  obtain ⟨spent, isAfter⟩ := burns
  obtain ⟨fuel, isFuel, rfl⟩ := Option.map_eq_some_iff.1 shown
  refine ⟨(fuel - spent).toNat, ?_, by omega⟩
  simp [Store.fuelLeft, isAfter, charge, isFuel]

/-- Fuel is metered from then on, or is not, as it was. -/
theorem isSome (burns : Burns before after) : after.fuel.isSome = before.fuel.isSome := by
  obtain ⟨spent, isAfter⟩ := burns
  simp [isAfter, charge]

end Burns

theorem charge_burns (store : Store H) (spent : Nat) : Burns store (store.charge spent) :=
  ⟨spent, rfl⟩

theorem apply_fuel (store : Store H) (change : Change) :
    (store.apply change).fuel = store.fuel := by
  cases change <;> rfl

theorem emerge_fuel (store : Store H) (key : FuncKey) : (store.emerge key).2.fuel = store.fuel := by
  unfold emerge
  split
  · rfl
  · split
    · split <;> rfl
    · rfl

theorem addMemory?_fuel {store after : Store H} {size : SizeRange} {address : Nat}
    (added : store.addMemory? size = some (address, after)) : after.fuel = store.fuel := by
  unfold addMemory? at added
  split at added
  · cases added
    rfl
  · contradiction

end Store

open Store

variable {H : Type}

theorem Activation.Touched.burns {before after : Store H} (touched : Touched before after) :
    Burns before after := by
  cases touched with
  | charged spent => exact charge_burns before spent
  | changed change allowed => exact .of_eq (apply_fuel before change)

/-! ## Making an instance -/

private theorem addMemories_fuel {store after : Store H} {shapes : List MemoryShape}
    {addresses : List Nat} (added : addMemories store shapes = .ok (addresses, after)) :
    after.fuel = store.fuel := by
  induction shapes generalizing store addresses with
  | nil =>
      cases added
      rfl
  | cons shape rest inductionHypothesis =>
      unfold addMemories at added
      split at added
      · rename_i address grown first
        obtain ⟨⟨others, last⟩, more, same⟩ := bind_eq_ok_iff.1 added
        cases same
        exact (inductionHypothesis more).trans (addMemory?_fuel first)
      · contradiction

private theorem addTables_fuel (store : Store H) (shapes : List TableShape) :
    (addTables store shapes).2.fuel = store.fuel := by
  induction shapes generalizing store with
  | nil => rfl
  | cons shape rest inductionHypothesis => exact inductionHypothesis (store.addTable shape).2

private theorem addGlobals_fuel {owner : Nat} {imported : Array Nat} {store after : Store H}
    {items : List GlobalDef} {addresses : List Nat}
    (added : addGlobals owner imported store items = some (addresses, after)) :
    after.fuel = store.fuel := by
  induction items generalizing store addresses with
  | nil =>
      cases added
      rfl
  | cons item rest inductionHypothesis =>
      simp only [addGlobals, Option.bind_eq_bind, Option.bind_eq_some_iff, Option.pure_def,
        Option.some.injEq, Prod.mk.injEq] at added
      obtain ⟨value, -, ⟨addresses, grown⟩, more, -, rfl⟩ := added
      have others := inductionHypothesis more
      exact others

private theorem copyElems_fuel (owner : Nat) (owning : Instance) (store : Store H)
    (segments : List ElemSegment) :
    (copyElems owner owning store segments).2.fuel = store.fuel := by
  induction segments generalizing store with
  | nil => rfl
  | cons segment rest inductionHypothesis =>
      unfold copyElems
      split
      · simp only
        split
        · split
          · exact inductionHypothesis _
          · rfl
        · rfl
      · exact inductionHypothesis store

private theorem copyDatas_fuel (owner : Nat) (owning : Instance) (store : Store H)
    (segments : List DataSegment) :
    (copyDatas owner owning store segments).2.fuel = store.fuel := by
  induction segments generalizing store with
  | nil => rfl
  | cons segment rest inductionHypothesis =>
      unfold copyDatas
      split
      · simp only
        split
        · split
          · exact inductionHypothesis _
          · rfl
        · rfl
      · exact inductionHypothesis store

private theorem allocate_fuel (store : Store H) (module : Module) (imports : List Extern) :
    (allocate store module imports).2.fuel = store.fuel := by
  unfold allocate
  split
  · rfl
  · rename_i ownMemories grown memories
    simp only
    split
    · rfl
    · rename_i ownGlobals full globals
      calc
        full.fuel = (addTables grown module.tables).2.fuel := addGlobals_fuel globals
        _ = grown.fuel := addTables_fuel grown module.tables
        _ = store.fuel := addMemories_fuel memories

/-- An instance that is made, or fails to be made, takes no fuel: none of its code has run. -/
theorem instantiate_fuel (store : Store H) (module : Module) (imports : List Extern) :
    (instantiate store module imports).2.fuel = store.fuel := by
  unfold instantiate
  simp only
  split
  · rfl
  · have allocated := allocate_fuel (store.prepare module) module imports
    rw [prepare] at allocated
    generalize allocate _ module imports = out at allocated
    obtain ⟨outcome, grown⟩ := out
    cases outcome with
    | error failure => exact allocated
    | ok made =>
        have elems := copyElems_fuel store.instances.size made grown module.elems
        simp only
        generalize copyElems _ made grown module.elems = out at elems
        obtain ⟨failed, filled⟩ := out
        cases failed with
        | some failure => exact elems.trans allocated
        | none =>
            have datas := copyDatas_fuel store.instances.size made filled module.datas
            simp only
            generalize copyDatas _ made filled module.datas = out at datas
            obtain ⟨failed, last⟩ := out
            cases failed <;> exact datas.trans (elems.trans allocated)

end WasmSandbox.Wasm
