import WasmSandbox.Proofs.Context.Growth
import WasmSandbox.Proofs.Engine.Placement

/-!
Contract: which items satisfy a declared import, and what the engine gets for them.

Owns:
- the type that an item has now, by its sort;
- that an import is satisfied exactly by an item of the context whose type is accepted;
- that what the engine gets for an import serves it, so that instances are placed.

The check of kinds and of signatures before the check of types only decides which failure is
reported: a type of another kind, or another signature, is never accepted.

Does not own: for how long an import is satisfied.
-/

namespace WasmSandbox

open Wasm

/-! ## Types that are accepted -/

theorem Limits.satisfiedBy_iff (declared provided : Limits) :
    declared.satisfiedBy provided = true ↔ declared.minimum ≤ provided.minimum ∧
      ∀ bound, declared.maximum = some bound →
        ∃ offered, provided.maximum = some offered ∧ offered ≤ bound := by
  unfold satisfiedBy
  by_cases below : provided.minimum < declared.minimum
  · have beyond : ¬declared.minimum ≤ provided.minimum := UInt64.not_le.2 below
    simp [below, beyond]
  · have covered : declared.minimum ≤ provided.minimum := UInt64.not_lt.1 below
    cases declared.maximum <;> cases provided.maximum <;> simp [below, covered]

namespace ItemType

theorem accepts_memory_iff (type : ItemType) (provided : MemoryType) :
    type.accepts (.memory provided) = true ↔
      ∃ declared, type = .memory declared ∧
        declared.limits.satisfiedBy provided.limits = true := by
  cases type <;> simp [accepts]

theorem accepts_table_iff (type : ItemType) (provided : TableType) :
    type.accepts (.table provided) = true ↔
      ∃ declared, type = .table declared ∧ declared.element = provided.element ∧
        declared.limits.satisfiedBy provided.limits = true := by
  cases type <;> simp [accepts]

/-- Shapes of memories are declared with their sizes. -/
theorem ofGuest_memory {shape : MemoryShape} {type : ItemType}
    (read : ofGuest (.memory shape) = .ok type) : type = .memory ⟨.ofGuest shape.size⟩ := by
  obtain ⟨declared, isDeclared, same⟩ := bind_eq_ok_iff.1 read
  cases same
  unfold MemoryType.ofGuest at isDeclared
  split at isDeclared
  · contradiction
  · rw [← Except.ok.inj isDeclared]

theorem ofGuest_table {shape : TableShape} {type : ItemType}
    (read : ofGuest (.table shape) = .ok type) : type = .table ⟨.funcRef, .ofGuest shape.size⟩ := by
  obtain ⟨declared, isDeclared, same⟩ := bind_eq_ok_iff.1 read
  cases same
  unfold TableType.ofGuest at isDeclared
  split at isDeclared
  · rw [← Except.ok.inj isDeclared]
  · contradiction

theorem ofGuest_global {shape : GlobalShape} {type : ItemType}
    (read : ofGuest (.global shape) = .ok type) : ∃ declared, type = .global declared := by
  obtain ⟨declared, -, same⟩ := bind_eq_ok_iff.1 read
  exact ⟨declared, (Except.ok.inj same).symm⟩

end ItemType

namespace Context

variable {σ : Type} {context : Context σ}

/-! ## What an item is now -/

/-- The type that an item has now, and what it is in the engine. -/
inductive Described (context : Context σ) : Item → ItemType → Extern → Prop where
  | func {handle : FuncHandle} {entry : FuncEntry}
      (found : context.funcEntry? handle = some entry) :
      Described context (.func handle) (.func entry.signature) (.func entry.key)
  | memory {handle : MemoryHandle} {memory : Memory}
      (found : context.memory handle = .ok memory) :
      Described context (.memory handle)
        (.memory ⟨⟨.ofNat memory.pages, handle.maximum⟩⟩) (.memory handle.address)
  | table {handle : TableHandle} {table : Table} (found : context.table? handle = some table) :
      Described context (.table handle)
        (.table ⟨.funcRef, ⟨.ofNat table.items.size, handle.maximum⟩⟩) (.table handle.address)
  | global (handle : GlobalHandle) :
      Described context (.global handle) (.global handle.type) (.global handle.address)

theorem describe_eq_ok_iff (context : Context σ) (item : Item) (type : ItemType)
    (lowered : Extern) :
    context.describe item = .ok (type, lowered) ↔ context.Described item type lowered := by
  constructor
  · intro described
    cases item with
    | func handle =>
        simp only [describe] at described
        split at described
        · rename_i entry found
          cases described
          exact .func found
        · contradiction
    | memory handle =>
        simp only [describe] at described
        split at described
        · rename_i type isType
          cases described
          obtain ⟨memory, found, same⟩ := bind_eq_ok_iff.1 isType
          cases same
          exact .memory found
        · contradiction
    | table handle =>
        simp only [describe] at described
        split at described
        · rename_i type isType
          cases described
          obtain ⟨table, found, same⟩ := Option.bind_eq_some_iff.1 isType
          cases same
          exact .table found
        · contradiction
    | global handle =>
        cases described
        exact .global handle
  · intro described
    cases described with
    | func found => simp only [describe, found]
    | memory found => simp only [describe, memoryType, found, bind, Except.bind, pure, Except.pure]
    | table found => simp only [describe, tableType?, found, bind, Option.bind, pure]
    | global handle => rfl

/-- An import is satisfied by the items of the context whose type now is accepted. -/
theorem checkImport_eq_ok_iff (context : Context σ) (declared : ImportDecl) (item : Item)
    (lowered : Extern) :
    context.checkImport declared item = .ok lowered ↔ item.context = context.id ∧
      ∃ type, context.describe item = .ok (type, lowered) ∧ declared.type.accepts type = true := by
  unfold checkImport
  by_cases own : item.context = context.id
  · cases described : context.describe item with
    | error reason => simp [own, throw, throwThe, MonadExceptOf.throw]
    | ok found =>
        obtain ⟨type, provided⟩ := found
        cases declared.type <;> cases type <;>
          simp [own, bind, Except.bind, pure, Except.pure, throw, throwThe, MonadExceptOf.throw,
            ItemType.kind, ItemType.accepts] <;>
          grind
  · simp [own, bind, Except.bind, throw, throwThe, MonadExceptOf.throw]

/-! ## What the engine gets -/

theorem table?_eq_some_iff {handle : TableHandle} {table : Table} :
    context.table? handle = some table ↔
      handle.context = context.id ∧ context.store.tables[handle.address]? = some table := by
  unfold table?
  by_cases own : handle.context = context.id <;> simp [own]

/-- The least sizes that are compared fit in 64 bits, so they are compared as numbers. -/
theorem least_le_of_satisfiedBy {size : SizeRange} {current : Nat} {maximum : Option UInt64}
    (addressed : size.least < UInt64.size) (small : current < UInt64.size)
    (satisfied : (Limits.ofGuest size).satisfiedBy ⟨.ofNat current, maximum⟩ = true) :
    size.least ≤ current := by
  have covered := ((Limits.satisfiedBy_iff _ _).1 satisfied).1
  rw [UInt64.le_iff_toNat_le] at covered
  simpa [Limits.ofGuest, UInt64.toNat_ofNat_of_lt' addressed, UInt64.toNat_ofNat_of_lt' small]
    using covered

/-- What satisfies the import of a memory has at least the least size. -/
theorem hasMemory_of_accepts (bounded : context.store.Bounded) {shape : MemoryShape}
    (orderly : shape.Orderly) {handle : MemoryHandle} {memory : Memory}
    (found : context.memory handle = .ok memory)
    (satisfied : (Limits.ofGuest shape.size).satisfiedBy
      ⟨.ofNat memory.pages, handle.maximum⟩ = true) :
    context.store.HasMemory shape handle.address := by
  have isMemory := (memory_eq_ok_iff.1 found).2
  have within := bounded.memories memory (Array.mem_of_getElem? isMemory)
  refine ⟨memory, isMemory, least_le_of_satisfiedBy ?_ ?_ satisfied⟩
  · exact Nat.lt_of_le_of_lt orderly.addressed (by decide)
  · exact Nat.lt_of_le_of_lt within.pages_le (by decide)

/-- What satisfies the import of a table has at least the least size. -/
theorem hasTable_of_accepts (bounded : context.store.Bounded) {shape : TableShape}
    (orderly : shape.Orderly) {handle : TableHandle} {table : Table}
    (found : context.table? handle = some table)
    (satisfied : (Limits.ofGuest shape.size).satisfiedBy
      ⟨.ofNat table.items.size, handle.maximum⟩ = true) :
    context.store.HasTable shape handle.address := by
  have isTable := (table?_eq_some_iff.1 found).2
  have within := bounded.tables table (Array.mem_of_getElem? isTable)
  refine ⟨table, isTable, least_le_of_satisfiedBy ?_ ?_ satisfied⟩
  · exact Nat.lt_of_le_of_lt orderly.addressed (by decide)
  · exact Nat.lt_of_le_of_lt within.size_le (by decide)

/-- What satisfies an import is of its sort, and is there with the least size. -/
theorem serves_of_checkImport (bounded : context.store.Bounded) {item : Import}
    {declared : ImportDecl} (shown : Surface.ofImport item = .ok declared)
    (orderly : item.shape.Orderly) {provided : Item} {lowered : Extern}
    (satisfied : context.checkImport declared provided = .ok lowered) :
    context.store.Serves item.shape lowered := by
  obtain ⟨-, type, isType, accepted⟩ := (context.checkImport_eq_ok_iff _ _ _).1 satisfied
  obtain ⟨-, -, read⟩ := (Surface.ofImport_eq_ok_iff _ _).1 shown
  have described := (context.describe_eq_ok_iff _ _ _).1 isType
  cases shape : item.shape with
  | func expected =>
      rw [shape] at read
      obtain ⟨signature, isFunc⟩ := ItemType.ofGuest_func read
      rw [isFunc] at accepted
      cases described with
      | func found => trivial
      | _ => contradiction
  | global expected =>
      rw [shape] at read
      obtain ⟨type, isGlobal⟩ := ItemType.ofGuest_global read
      rw [isGlobal] at accepted
      cases described with
      | global handle => trivial
      | _ => contradiction
  | memory expected =>
      rw [shape] at read orderly
      rw [ItemType.ofGuest_memory read] at accepted
      cases described with
      | memory found => exact hasMemory_of_accepts bounded orderly found accepted
      | _ => contradiction
  | table expected =>
      rw [shape] at read orderly
      rw [ItemType.ofGuest_table read] at accepted
      cases described with
      | table found =>
          obtain ⟨_, same, -, satisfied⟩ := (ItemType.accepts_table_iff _ _).1 accepted
          cases same
          exact hasTable_of_accepts bounded orderly found satisfied
      | _ => contradiction

/-- The items that a link resolves serve the imports of the module. -/
theorem serves_of_resolveImports (bounded : context.store.Bounded) {artifact : Artifact}
    (orderly : artifact.module.Orderly) {items : List Item} {externs : List Extern}
    (resolved : context.resolveImports artifact items = .ok externs) :
    List.Forall₂ (fun item => context.store.Serves item.shape) artifact.module.imports externs := by
  have satisfied := resolveImports_forall₂ resolved
  have shown := artifact.imports_forall₂
  have imports := orderly.imports
  clear resolved orderly
  generalize artifact.module.imports = declarations at shown imports
  generalize artifact.imports = declareds at satisfied shown
  induction satisfied generalizing declarations with
  | nil =>
      cases shown
      exact .nil
  | cons head tail inductionHypothesis =>
      cases shown with
      | cons shownHead shownTail =>
          obtain ⟨item, -, checked⟩ := head
          obtain ⟨first, rest⟩ := List.forall_mem_cons.1 imports
          exact .cons (serves_of_checkImport bounded shownHead first checked)
            (inductionHypothesis _ rest shownTail)

end Context

end WasmSandbox
