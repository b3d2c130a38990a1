import Mathlib.Data.List.Forall2
import WasmSandbox.Proofs.Engine.Instances
import WasmSandbox.Wasm.Form

/-!
Contract: what instances find at the addresses of their memories and tables.

Owns:
- what is in order in a valid module: the sizes that it declares, and the names of its
  exports;
- items that serve a declared import, and instances that are placed: each memory and table
  that the module declares is there, with at least its least size;
- that making an instance of a valid module, with items that serve its imports, keeps every
  memory and table within its bounds, and every instance placed.

An instance that cannot be filled is left behind in the engine.  It is placed like any other.

Does not own: which items serve an import.
-/

namespace WasmSandbox.Wasm

/-! ## Valid modules -/

/-- A module that is valid under some choice of proposals. -/
def Module.Valid (module : Module) : Prop := ∃ features, module.check features = .ok ()

def SizeRange.InOrder (size : SizeRange) : Prop :=
  size.greatest.all (size.least ≤ ·) = true

/-- A memory is declared with a least size that it can have. -/
structure MemoryShape.Orderly (shape : MemoryShape) : Prop where
  inOrder : shape.size.InOrder
  addressed : shape.size.least ≤ maxPages

structure TableShape.Orderly (shape : TableShape) : Prop where
  inOrder : shape.size.InOrder
  addressed : shape.size.least ≤ 10000000

def ImportShape.Orderly : ImportShape → Prop
  | .memory shape => shape.Orderly
  | .table shape => shape.Orderly
  | _ => True

/-- The sizes that a module declares are in order, and no two exports have one name. -/
structure Module.Orderly (module : Module) : Prop where
  imports : ∀ item ∈ module.imports, item.shape.Orderly
  tables : ∀ shape ∈ module.tables, shape.Orderly
  memories : ∀ shape ∈ module.memories, shape.Orderly
  names : (module.exports.map Export.name).Nodup

theorem require_eq_ok_iff {condition : Bool} {diagnostic : String} {done : Unit} :
    require condition diagnostic = .ok done ↔ condition = true := by
  unfold require
  cases condition <;> simp

/-- A check of each element of a list passes when it does for all of them. -/
theorem forM_eq_ok_iff {α : Type} {items : List α} {check : α → Check Unit} {done : Unit} :
    items.forM check = .ok done ↔ ∀ item ∈ items, check item = .ok () := by
  induction items with
  | nil => simp [List.forM, pure, Except.pure]
  | cons item items inductionHypothesis =>
      show (check item >>= fun _ => items.forM check) = .ok done ↔ _
      rw [bind_eq_ok_iff, List.forall_mem_cons, ← inductionHypothesis]
      exact ⟨fun ⟨_, first, rest⟩ => ⟨first, rest⟩, fun ⟨first, rest⟩ => ⟨(), first, rest⟩⟩

namespace Module

theorem orderly_of_checkMemory {features : Features} {shape : MemoryShape}
    (checked : checkMemory features shape = .ok ()) : shape.Orderly := by
  simp only [checkMemory, checkSize, bind_eq_ok_iff, require_eq_ok_iff, exists_const,
    Bool.and_eq_true, decide_eq_true_eq] at checked
  obtain ⟨inOrder, ⟨addressed, -⟩, -⟩ := checked
  exact ⟨inOrder, addressed⟩

theorem orderly_of_checkTable {features : Features} {shape : TableShape}
    (checked : checkTable features shape = .ok ()) : shape.Orderly := by
  simp only [checkTable, checkSize, bind_eq_ok_iff, require_eq_ok_iff, exists_const,
    decide_eq_true_eq] at checked
  obtain ⟨-, inOrder, addressed⟩ := checked
  exact ⟨inOrder, addressed⟩

theorem orderly_of_checkImport {features : Features} {item : Import}
    (checked : checkImport features item = .ok ()) : item.shape.Orderly := by
  unfold checkImport at checked
  cases shape : item.shape with
  | memory declared =>
      rw [shape] at checked
      exact orderly_of_checkMemory checked
  | table declared =>
      rw [shape] at checked
      exact orderly_of_checkTable checked
  | func type => trivial
  | global declared => trivial

theorem Valid.orderly {module : Module} (valid : module.Valid) : module.Orderly := by
  obtain ⟨features, checked⟩ := valid
  simp only [check, bind_eq_ok_iff, forM_eq_ok_iff, require_eq_ok_iff, exists_const,
    decide_eq_true_eq] at checked
  obtain ⟨-, imports, tables, memories, -, -, -, names, -⟩ := checked
  exact
    { imports := fun item member => orderly_of_checkImport (imports item member)
      tables := fun shape member => orderly_of_checkTable (tables shape member)
      memories := fun shape member => orderly_of_checkMemory (memories shape member)
      names := names }

theorem valid_of_ofBinary {features : Features} {content : List UInt8} {module : Module}
    (read : ofBinary features content = .ok module) : module.Valid := by
  obtain ⟨found, _, rest⟩ := bind_eq_ok_iff.1 read
  obtain ⟨_, checked, same⟩ := bind_eq_ok_iff.1 rest
  cases same
  exact ⟨features, checked⟩

/-- What bytes stand for is a valid module. -/
theorem valid_of_ofBytes {features : Features} {content : List UInt8} {module : Module}
    (read : ofBytes features content = .ok module) : module.Valid := by
  unfold ofBytes at read
  split at read
  · exact valid_of_ofBinary read
  · split at read
    · contradiction
    · obtain ⟨form, -, rest⟩ := bind_eq_ok_iff.1 read
      cases form with
      | binary content => exact valid_of_ofBinary rest
      | module found =>
          obtain ⟨_, checked, same⟩ := bind_eq_ok_iff.1 rest
          cases same
          exact ⟨features, checked⟩

end Module

/-! ## Instances that are placed -/

variable {H : Type}

namespace Store

/-- At an address is a memory that has at least the least size of a shape. -/
def HasMemory (store : Store H) (shape : MemoryShape) (address : Nat) : Prop :=
  ∃ memory, store.memories[address]? = some memory ∧ shape.size.least ≤ memory.pages

def HasTable (store : Store H) (shape : TableShape) (address : Nat) : Prop :=
  ∃ table, store.tables[address]? = some table ∧ shape.size.least ≤ table.items.size

/-- At an address is a memory that has the greatest size of a shape, and at least its least
size. -/
def OwnsMemory (store : Store H) (shape : MemoryShape) (address : Nat) : Prop :=
  ∃ memory, store.memories[address]? = some memory ∧ shape.size.least ≤ memory.pages ∧
    memory.greatest = shape.size.greatest

/-- An item is of the sort that an import declares, and is there with at least the least
size. -/
def Serves (store : Store H) : ImportShape → Extern → Prop
  | .func _, .func _ => True
  | .memory shape, .memory address => store.HasMemory shape address
  | .table shape, .table address => store.HasTable shape address
  | .global _, .global _ => True
  | _, _ => False

end Store

/-- An instance has an address for each memory, table and global of its module, the imported
ones first.  There are the memories and tables, and those that the module defines have the
greatest size that it declares. -/
structure Instance.Placed (store : Store H) (owning : Instance) : Prop where
  memories : List.Forall₂ store.HasMemory owning.module.memoryShapes owning.memories.toList
  defined : List.Forall₂ store.OwnsMemory owning.module.memories
    (owning.memories.toList.drop owning.module.importedMemories.length)
  tables : List.Forall₂ store.HasTable owning.module.tableShapes owning.tables.toList
  globals : owning.globals.size = owning.module.globalShapes.length

/-- Memories and tables are within their bounds, and instances are placed. -/
structure Store.Tended (store : Store H) : Prop where
  bounded : store.Bounded
  placed : ∀ owning ∈ store.instances, owning.Placed store

section

variable {before after : Store H}

theorem Store.OwnsMemory.hasMemory {shape : MemoryShape} {address : Nat}
    (owns : before.OwnsMemory shape address) : before.HasMemory shape address := by
  obtain ⟨memory, found, least, -⟩ := owns
  exact ⟨memory, found, least⟩

variable (ages : before.Ages after)
include ages

theorem Store.HasMemory.mono {shape : MemoryShape} {address : Nat}
    (has : before.HasMemory shape address) : after.HasMemory shape address := by
  obtain ⟨memory, found, least⟩ := has
  obtain ⟨later, isLater, aged⟩ := ages.memories address memory found
  exact ⟨later, isLater, Nat.le_trans least aged.pages⟩

theorem Store.OwnsMemory.mono {shape : MemoryShape} {address : Nat}
    (owns : before.OwnsMemory shape address) : after.OwnsMemory shape address := by
  obtain ⟨memory, found, least, greatest⟩ := owns
  obtain ⟨later, isLater, aged⟩ := ages.memories address memory found
  exact ⟨later, isLater, Nat.le_trans least aged.pages, aged.greatest.trans greatest⟩

theorem Store.HasTable.mono {shape : TableShape} {address : Nat}
    (has : before.HasTable shape address) : after.HasTable shape address := by
  obtain ⟨table, found, least⟩ := has
  obtain ⟨later, isLater, aged⟩ := ages.tables address table found
  exact ⟨later, isLater, Nat.le_trans least aged.size⟩

theorem Store.Serves.mono {shape : ImportShape} {item : Extern}
    (serves : before.Serves shape item) :
    after.Serves shape item := by
  cases shape with
  | func type => cases item <;> exact serves
  | global shape => cases item <;> exact serves
  | memory shape =>
      cases item with
      | memory address => exact Store.HasMemory.mono ages serves
      | _ => exact serves
  | table shape =>
      cases item with
      | table address => exact Store.HasTable.mono ages serves
      | _ => exact serves

/-- An instance stays placed. -/
theorem Instance.Placed.mono {owning later : Instance} (placed : owning.Placed before)
    (aged : owning.Ages later) : later.Placed after := by
  constructor
  · rw [aged.module, aged.memories]
    exact placed.memories.imp fun _ _ => Store.HasMemory.mono ages
  · rw [aged.module, aged.memories]
    exact placed.defined.imp fun _ _ => Store.OwnsMemory.mono ages
  · rw [aged.module, aged.tables]
    exact placed.tables.imp fun _ _ => Store.HasTable.mono ages
  · rw [aged.module, aged.globals]
    exact placed.globals

omit ages in
/-- Nothing that happens while no instance is made disturbs a state that is tended. -/
theorem Store.Works.tended (works : before.Works after) (tended : before.Tended) :
    after.Tended where
  bounded := works.bounded tended.bounded
  placed := by
    intro later member
    obtain ⟨owner, isLater⟩ := Array.getElem?_of_mem member
    have inside : owner < before.instances.size := by
      rw [← works.size]
      exact (Array.getElem?_eq_some_iff.1 isLater).1
    obtain ⟨next, isNext, aged⟩ :=
      works.ages.instances owner _ (Array.getElem?_eq_getElem inside)
    obtain rfl : next = later := Option.some.inj (isNext.symm.trans isLater)
    exact (tended.placed _ (Array.getElem_mem inside)).mono works.ages aged

end

/-! ## Making an instance -/

namespace Store

/-- The state after budget was used up and types were adapted, in which all items are. -/
theorem prepare_ages (store : Store H) (module : Module) : Ages store (store.prepare module) :=
  { Ages.refl store with config := rfl }

theorem prepare_tended {store : Store H} (module : Module) (tended : store.Tended) :
    (store.prepare module).Tended :=
  have ages := store.prepare_ages module
  ⟨⟨tended.bounded.memories, tended.bounded.tables⟩,
    fun owning member => (tended.placed owning member).mono ages (.refl owning)⟩

end Store

theorem addMemories_places {store after : Store H} {shapes : List MemoryShape}
    {addresses : List Nat} (orderly : ∀ shape ∈ shapes, shape.Orderly)
    (added : addMemories store shapes = .ok (addresses, after)) :
    store.Works after ∧ List.Forall₂ after.OwnsMemory shapes addresses := by
  induction shapes generalizing store addresses with
  | nil =>
      cases added
      exact ⟨.refl _, .nil⟩
  | cons shape rest inductionHypothesis =>
      obtain ⟨inOrder, addressed⟩ := orderly shape (List.mem_cons_self ..)
      unfold addMemories at added
      split at added
      · rename_i address grown first
        obtain ⟨⟨others, last⟩, more, same⟩ := bind_eq_ok_iff.1 added
        cases same
        have works := store.addMemory?_works inOrder addressed first
        obtain ⟨later, places⟩ := inductionHypothesis
          (fun shape member => orderly shape (List.mem_cons_of_mem _ member)) more
        refine ⟨works.trans later, .cons (Store.OwnsMemory.mono later.ages ?_) places⟩
        unfold Store.addMemory? at first
        split at first
        · cases first
          exact ⟨_, Array.getElem?_push_size, Nat.le_of_eq (PagedBytes.pageCount_zeros _).symm, rfl⟩
        · contradiction
      · contradiction

theorem addTables_places (store : Store H) {shapes : List TableShape}
    (orderly : ∀ shape ∈ shapes, shape.Orderly) :
    store.Works (addTables store shapes).2 ∧
      List.Forall₂ (addTables store shapes).2.HasTable shapes (addTables store shapes).1 := by
  induction shapes generalizing store with
  | nil => exact ⟨.refl store, .nil⟩
  | cons shape rest inductionHypothesis =>
      obtain ⟨inOrder, addressed⟩ := orderly shape (List.mem_cons_self ..)
      have addressed32 : shape.size.least < UInt32.size := by
        have : 10000000 < UInt32.size := by decide
        omega
      have works := store.addTable_works shape inOrder addressed32
      obtain ⟨later, places⟩ := inductionHypothesis (store.addTable shape).2
        fun shape member => orderly shape (List.mem_cons_of_mem _ member)
      refine ⟨works.trans later, .cons (Store.HasTable.mono later.ages ?_) places⟩
      exact ⟨_, Array.getElem?_push_size, by simp⟩

theorem addGlobals_works {owner : Nat} {imported : Array Nat} {store after : Store H}
    {items : List GlobalDef} {addresses : List Nat}
    (added : addGlobals owner imported store items = some (addresses, after)) :
    store.Works after ∧ addresses.length = items.length := by
  induction items generalizing store addresses with
  | nil =>
      cases added
      exact ⟨.refl _, rfl⟩
  | cons item rest inductionHypothesis =>
      simp only [addGlobals, Option.bind_eq_bind, Option.bind_eq_some_iff, Option.pure_def,
        Option.some.injEq, Prod.mk.injEq] at added
      obtain ⟨value, -, ⟨others, grown⟩, more, rfl, rfl⟩ := added
      obtain ⟨works, length⟩ := inductionHypothesis more
      exact ⟨(store.addGlobal_works item.shape value).trans works, congrArg (· + 1) length⟩

section

variable {store after : Store H} {module : Module} {imports : List Extern}

/-- The addresses of imported items are those of the imports of their sort. -/
theorem served_memories (serves : List.Forall₂ (fun item => store.Serves item.shape)
      module.imports imports) :
    List.Forall₂ store.HasMemory module.importedMemories
      (imports.filterMap fun | .memory address => some address | _ => none) := by
  refine List.rel_filterMap ?_ serves
  rintro ⟨_, _, shape⟩ provided served
  cases shape <;> cases provided <;>
    first | exact False.elim served | exact .none | exact .some served

theorem served_tables (serves : List.Forall₂ (fun item => store.Serves item.shape)
      module.imports imports) :
    List.Forall₂ store.HasTable module.importedTables
      (imports.filterMap fun | .table address => some address | _ => none) := by
  refine List.rel_filterMap ?_ serves
  rintro ⟨_, _, shape⟩ provided served
  cases shape <;> cases provided <;>
    first | exact False.elim served | exact .none | exact .some served

theorem served_globals (serves : List.Forall₂ (fun item => store.Serves item.shape)
      module.imports imports) :
    List.Forall₂ (fun _ _ => True) module.importedGlobals
      (imports.filterMap fun | .global address => some address | _ => none) := by
  refine List.rel_filterMap ?_ serves
  rintro ⟨_, _, shape⟩ provided served
  cases shape <;> cases provided <;>
    first | exact False.elim served | exact .none | exact .some trivial

theorem push_ages (store : Store H) (made : Instance) :
    store.Ages { store with instances := store.instances.push made } :=
  { Store.Ages.refl store with instances := .push Instance.Ages.refl _ _ }

/-- An instance may be added that is placed. -/
theorem push_tended (tended : store.Tended) {made : Instance} (placed : made.Placed store) :
    Store.Tended { store with instances := store.instances.push made } := by
  have ages := push_ages store made
  refine ⟨⟨tended.bounded.memories, tended.bounded.tables⟩, ?_⟩
  apply forall_mem_push
  · intro owning member
    exact (tended.placed owning member).mono ages (.refl owning)
  · exact placed.mono ages (.refl made)

/-- An instance that is made of a valid module is placed. -/
theorem allocate_tended (tended : store.Tended) (orderly : module.Orderly)
    (serves : List.Forall₂ (fun item => store.Serves item.shape) module.imports imports) :
    store.Ages (allocate store module imports).2 ∧ (allocate store module imports).2.Tended := by
  have memories := served_memories serves
  have tables := served_tables serves
  have globals := (served_globals serves).length_eq
  unfold allocate
  split
  · exact ⟨.refl store, tended⟩
  · rename_i ownMemories grown added
    simp only
    split
    · exact ⟨.refl store, tended⟩
    · rename_i ownGlobals full addedGlobals
      obtain ⟨first, ownsMemories⟩ := addMemories_places orderly.memories added
      obtain ⟨second, ownsTables⟩ := addTables_places grown orderly.tables
      obtain ⟨third, sameNumber⟩ := addGlobals_works addedGlobals
      have works := (first.trans second).trans third
      have owns := ownsMemories.imp fun _ _ =>
        Store.OwnsMemory.mono (second.ages.trans third.ages)
      have importedMemories := memories.imp fun _ _ => Store.HasMemory.mono works.ages
      refine ⟨works.ages.trans (push_ages ..), push_tended (works.tended tended) ?_⟩
      -- The new instance has the imported addresses in front of its own.
      constructor
      · exact List.rel_append importedMemories (owns.imp fun _ _ => Store.OwnsMemory.hasMemory)
      · convert owns using 1
        exact List.drop_left' memories.length_eq.symm
      · exact List.rel_append (tables.imp fun _ _ => Store.HasTable.mono works.ages)
          (ownsTables.imp fun _ _ => Store.HasTable.mono third.ages)
      · rw [Module.globalShapes, List.length_append, List.length_map, List.size_toArray,
          List.length_append]
        exact congrArg₂ (· + ·) globals.symm sameNumber

/-- Whatever becomes of an instantiation, what was there stays, memories and tables keep
within their bounds, and all instances are placed. -/
theorem instantiate_tended (tended : store.Tended) (orderly : module.Orderly)
    (serves : List.Forall₂ (fun item => store.Serves item.shape) module.imports imports) :
    store.Ages (instantiate store module imports).2 ∧
      (instantiate store module imports).2.Tended := by
  unfold instantiate
  simp only
  split
  · exact ⟨.refl store, tended⟩
  · have ages := store.prepare_ages module
    have made := allocate_tended (Store.prepare_tended module tended) orderly
      (serves.imp fun _ _ => Store.Serves.mono ages)
    simp only [Store.prepare] at made ages
    split
    · rename_i failure placed allocated
      rw [allocated] at made
      exact ⟨ages.trans made.1, made.2⟩
    · rename_i owning placed allocated
      rw [allocated] at made
      obtain ⟨aged, placedTended⟩ := made
      have copied := (copyElems_copied store.instances.size owning placed module.elems).works
      split
      · rename_i failure filled elems
        rw [elems] at copied
        exact ⟨(ages.trans aged).trans copied.ages, copied.tended placedTended⟩
      · rename_i filled elems
        rw [elems] at copied
        have written := (copyDatas_copied store.instances.size owning filled module.datas).works
        have works := copied.trans written
        split
        · rename_i failure last datas
          rw [datas] at works
          exact ⟨(ages.trans aged).trans works.ages, works.tended placedTended⟩
        · rename_i last datas
          rw [datas] at works
          exact ⟨(ages.trans aged).trans works.ages, works.tended placedTended⟩

end

end WasmSandbox.Wasm
