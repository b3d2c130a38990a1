import WasmSandbox.Proofs.Engine.Code

/-!
Contract: what becomes of memories, tables, globals and instances in the engine's state.

Owns:
- what of an item stays for ever, and that memories and tables only grow;
- states in which all memories and tables are within their bounds;
- that every change of the state outside of instantiation keeps all of that.

Items are never removed, and an address always leads to the same item.  What differs between
the changes is only which of the four lists they touch, so there is one lemma for each list.

Does not own: instantiation.
-/

namespace WasmSandbox

/-! ## Bytes -/

namespace PagedBytes

theorem pageCount_storeAll (bytes : PagedBytes) (start : Nat) (content : List UInt8) :
    (Bytes.storeAll bytes start content).pageCount = bytes.pageCount := by
  induction content generalizing bytes start with
  | nil => rfl
  | cons byte content inductionHypothesis =>
      rw [Bytes.storeAll, inductionHypothesis]
      exact Array.size_modify

theorem pageCount_of_write {bytes written : PagedBytes} {offset : UInt64} {content : List UInt8}
    (done : Bytes.write bytes offset content = .ok written) :
    written.pageCount = bytes.pageCount := by
  obtain ⟨_, -, same⟩ := bind_eq_ok_iff.1 done
  cases same
  exact pageCount_storeAll ..

theorem pageCount_extend (bytes : PagedBytes) (count : Nat) :
    (bytes.extend count).pageCount = bytes.pageCount + count := by
  simp [extend, pageCount]

theorem pageCount_zeros (count : Nat) : (zeros count).pageCount = count := by
  simp [zeros, pageCount]

end PagedBytes

/-! ## Lists that keep their entries -/

/-- Every entry of the first array has one in its place in the second, which is related
to it. -/
def Follows {α : Type} (related : α → α → Prop) (before after : Array α) : Prop :=
  ∀ (index : Nat) (item : α), before[index]? = some item →
    ∃ later, after[index]? = some later ∧ related item later

namespace Follows

variable {α : Type} {related : α → α → Prop} {before middle after : Array α}

theorem of_refl (same : ∀ item, related item item) (items : Array α) :
    Follows related items items :=
  fun _ item found => ⟨item, found, same item⟩

theorem trans (composes : ∀ {first second third}, related first second → related second third →
    related first third) (earlier : Follows related before middle)
    (later : Follows related middle after) : Follows related before after := by
  intro index item found
  obtain ⟨next, isNext, first⟩ := earlier index item found
  obtain ⟨last, isLast, second⟩ := later index next isNext
  exact ⟨last, isLast, composes first second⟩

theorem modify (same : ∀ item, related item item) (items : Array α) (index : Nat)
    (change : α → α) (changes : ∀ item, items[index]? = some item → related item (change item)) :
    Follows related items (items.modify index change) := by
  intro position item found
  rw [Array.getElem?_modify]
  by_cases here : index = position
  · subst here
    exact ⟨change item, by simp [found], changes item found⟩
  · exact ⟨item, by rw [if_neg here]; exact found, same item⟩

theorem push (same : ∀ item, related item item) (items : Array α) (new : α) :
    Follows related items (items.push new) := by
  intro position item found
  refine ⟨item, ?_, same item⟩
  have inside : position < items.size := (Array.getElem?_eq_some_iff.1 found).1
  rw [Array.getElem?_push, if_neg (Nat.ne_of_lt inside)]
  exact found

end Follows

theorem forall_mem_modify {α : Type} {property : α → Prop} {items : Array α} (index : Nat)
    {change : α → α} (all : ∀ item ∈ items, property item)
    (changes : ∀ item, items[index]? = some item → property item → property (change item)) :
    ∀ item ∈ items.modify index change, property item := by
  intro item member
  obtain ⟨position, found⟩ := Array.getElem?_of_mem member
  rw [Array.getElem?_modify] at found
  split at found
  · rename_i here
    obtain ⟨old, isOld, rfl⟩ := Option.map_eq_some_iff.1 found
    exact changes old (here ▸ isOld) (all old (Array.mem_of_getElem? isOld))
  · exact all item (Array.mem_of_getElem? found)

theorem forall_mem_push {α : Type} {property : α → Prop} {items : Array α} {new : α}
    (all : ∀ item ∈ items, property item) (isNew : property new) :
    ∀ item ∈ items.push new, property item := by
  intro item member
  rcases Array.mem_push.1 member with old | rfl
  · exact all item old
  · exact isNew

end WasmSandbox

namespace WasmSandbox.Wasm

/-! ## What stays of an item -/

/-- A memory keeps its greatest size, and never shrinks. -/
structure Memory.Ages (before after : Memory) : Prop where
  greatest : after.greatest = before.greatest
  pages : before.pages ≤ after.pages

/-- A table keeps its type and its greatest size, and never shrinks. -/
structure Table.Ages (before after : Table) : Prop where
  element : after.element = before.element
  greatest : after.greatest = before.greatest
  size : before.items.size ≤ after.items.size

/-- A global keeps its type. -/
def Global.Ages (before after : Global) : Prop := after.shape = before.shape

/-- An instance keeps its module and the addresses of its items. -/
structure Instance.Ages (before after : Instance) : Prop where
  module : after.module = before.module
  tables : after.tables = before.tables
  memories : after.memories = before.memories
  globals : after.globals = before.globals

/-- A memory is within its bound, and has at most `limit` bytes. -/
structure Memory.Within (limit : Nat) (memory : Memory) : Prop where
  pages : memory.pages ≤ memory.bound
  bytes : pageSize * memory.pages ≤ limit

def Table.Within (table : Table) : Prop := table.items.size ≤ table.bound

theorem Memory.Within.pages_le {limit : Nat} {memory : Memory} (within : memory.Within limit) :
    memory.pages ≤ maxPages :=
  Nat.le_trans within.pages (Nat.min_le_right ..)

theorem Table.Within.size_le {table : Table} (within : table.Within) :
    table.items.size ≤ UInt32.size - 1 :=
  Nat.le_trans within (Nat.min_le_right ..)

theorem Memory.Ages.refl (memory : Memory) : Ages memory memory := ⟨rfl, Nat.le_refl _⟩

theorem Table.Ages.refl (table : Table) : Ages table table := ⟨rfl, rfl, Nat.le_refl _⟩

theorem Global.Ages.refl (global : Global) : Ages global global := Eq.refl global.shape

theorem Instance.Ages.refl (owning : Instance) : Ages owning owning := ⟨rfl, rfl, rfl, rfl⟩

theorem Memory.Ages.trans {first second third : Memory} (earlier : Ages first second)
    (later : Ages second third) : Ages first third :=
  ⟨later.greatest.trans earlier.greatest, Nat.le_trans earlier.pages later.pages⟩

theorem Table.Ages.trans {first second third : Table} (earlier : Ages first second)
    (later : Ages second third) : Ages first third :=
  ⟨later.element.trans earlier.element, later.greatest.trans earlier.greatest,
    Nat.le_trans earlier.size later.size⟩

theorem Global.Ages.trans {first second third : Global} (earlier : Ages first second)
    (later : Ages second third) : Ages first third :=
  Eq.trans later earlier

theorem Instance.Ages.trans {first second third : Instance} (earlier : Ages first second)
    (later : Ages second third) : Ages first third :=
  ⟨later.module.trans earlier.module, later.tables.trans earlier.tables,
    later.memories.trans earlier.memories, later.globals.trans earlier.globals⟩

/-- A memory with as many pages as before keeps within its bounds. -/
theorem Memory.Within.of_pages {limit : Nat} {before after : Memory} (within : before.Within limit)
    (greatest : after.greatest = before.greatest) (pages : after.pages = before.pages) :
    after.Within limit where
  pages := by
    rw [pages, bound, greatest]
    exact within.pages
  bytes := by
    rw [pages]
    exact within.bytes

theorem Memory.pages_grow (memory : Memory) (delta : Nat) :
    (memory.grow delta).pages = memory.pages + delta :=
  PagedBytes.pageCount_extend memory.bytes delta

theorem Memory.bound_grow (memory : Memory) (delta : Nat) :
    (memory.grow delta).bound = memory.bound :=
  rfl

/-- A memory that grows as far as it can is within its bounds. -/
theorem Memory.Within.grow {limit delta : Nat} {memory : Memory} (within : memory.Within limit)
    (grows : memory.canGrow limit delta = true) : (memory.grow delta).Within limit := by
  have pages := memory.pages_grow delta
  simp only [canGrow, Bool.or_eq_true, Bool.and_eq_true, decide_eq_true_eq] at grows
  rcases grows with rfl | ⟨inBound, inLimit⟩
  · exact within.of_pages rfl pages
  · constructor
    · rw [pages, memory.bound_grow]
      exact inBound
    · rw [pages]
      exact inLimit

/-! ## Engine states -/

namespace Store

variable {H : Type}

/-- What was there stays, and ages. -/
structure Ages (before after : Store H) : Prop where
  config : after.config = before.config
  memories : Follows Memory.Ages before.memories after.memories
  tables : Follows Table.Ages before.tables after.tables
  globals : Follows Global.Ages before.globals after.globals
  instances : Follows Instance.Ages before.instances after.instances

/-- Every memory and every table is within its bounds. -/
structure Bounded (store : Store H) : Prop where
  memories : ∀ memory ∈ store.memories, memory.Within store.byteLimit
  tables : ∀ table ∈ store.tables, table.Within

/-- What happens to an engine state while no instance is made. -/
structure Works (before after : Store H) : Prop where
  ages : Ages before after
  bounded : before.Bounded → after.Bounded
  size : after.instances.size = before.instances.size
  used : after.instancesUsed = before.instancesUsed

theorem Ages.refl (store : Store H) : Ages store store where
  config := rfl
  memories := .of_refl Memory.Ages.refl _
  tables := .of_refl Table.Ages.refl _
  globals := .of_refl Global.Ages.refl _
  instances := .of_refl Instance.Ages.refl _

theorem Ages.trans {first second third : Store H} (earlier : Ages first second)
    (later : Ages second third) : Ages first third where
  config := later.config.trans earlier.config
  memories := .trans Memory.Ages.trans earlier.memories later.memories
  tables := .trans Table.Ages.trans earlier.tables later.tables
  globals := .trans Global.Ages.trans earlier.globals later.globals
  instances := .trans Instance.Ages.trans earlier.instances later.instances

theorem Works.refl (store : Store H) : Works store store :=
  ⟨.refl store, id, rfl, rfl⟩

theorem Works.trans {first second third : Store H} (earlier : Works first second)
    (later : Works second third) : Works first third where
  ages := earlier.ages.trans later.ages
  bounded := fun bounded => later.bounded (earlier.bounded bounded)
  size := later.size.trans earlier.size
  used := later.used.trans earlier.used

variable (store : Store H)

/-- Hosts, adapted types and fuel do not matter. -/
theorem works_of_same {after : Store H} (config : after.config = store.config)
    (memories : after.memories = store.memories) (tables : after.tables = store.tables)
    (globals : after.globals = store.globals) (instances : after.instances = store.instances)
    (used : after.instancesUsed = store.instancesUsed) : Works store after := by
  obtain ⟨config', hosts, instances', memories', tables', globals', adapted, fuel, used'⟩ := after
  obtain rfl : config' = store.config := config
  obtain rfl : memories' = store.memories := memories
  obtain rfl : tables' = store.tables := tables
  obtain rfl : globals' = store.globals := globals
  obtain rfl : instances' = store.instances := instances
  obtain rfl : used' = store.instancesUsed := used
  have ages := Ages.refl store
  exact ⟨⟨rfl, ages.memories, ages.tables, ages.globals, ages.instances⟩,
    fun bounded => ⟨bounded.memories, bounded.tables⟩, rfl, rfl⟩

theorem works_of_memories {memories : Array Memory}
    (follows : Follows Memory.Ages store.memories memories)
    (within : (∀ memory ∈ store.memories, memory.Within store.byteLimit) →
      ∀ memory ∈ memories, memory.Within store.byteLimit) :
    Works store { store with memories := memories } where
  ages := { Ages.refl store with memories := follows }
  bounded := fun bounded => ⟨within bounded.memories, bounded.tables⟩
  size := rfl
  used := rfl

theorem works_of_tables {tables : Array Table} (follows : Follows Table.Ages store.tables tables)
    (within : (∀ table ∈ store.tables, table.Within) → ∀ table ∈ tables, table.Within) :
    Works store { store with tables := tables } where
  ages := { Ages.refl store with tables := follows }
  bounded := fun bounded => ⟨bounded.memories, within bounded.tables⟩
  size := rfl
  used := rfl

theorem works_of_globals {globals : Array Global}
    (follows : Follows Global.Ages store.globals globals) :
    Works store { store with globals := globals } where
  ages := { Ages.refl store with globals := follows }
  bounded := fun bounded => ⟨bounded.memories, bounded.tables⟩
  size := rfl
  used := rfl

theorem works_of_instances {instances : Array Instance}
    (follows : Follows Instance.Ages store.instances instances)
    (size : instances.size = store.instances.size) :
    Works store { store with instances := instances } where
  ages := { Ages.refl store with instances := follows }
  bounded := fun bounded => ⟨bounded.memories, bounded.tables⟩
  size := size
  used := rfl

/-! ## Memories -/

theorem updateMemory_works (address : Nat) (change : Memory → Memory)
    (ages : ∀ memory, store.memories[address]? = some memory → memory.Ages (change memory))
    (within : ∀ memory, store.memories[address]? = some memory →
      memory.Within store.byteLimit → (change memory).Within store.byteLimit) :
    Works store (store.updateMemory address change) :=
  store.works_of_memories (.modify Memory.Ages.refl _ address change ages)
    fun all => forall_mem_modify address all within

/-- What is written to a memory does not matter. -/
theorem setBytes_works (address : Nat) (fill : Memory → PagedBytes)
    (pages : ∀ memory, store.memories[address]? = some memory →
      (fill memory).pageCount = memory.pages) :
    Works store
      (store.updateMemory address fun memory => { memory with bytes := fill memory }) := by
  apply store.updateMemory_works
  · intro memory found
    exact ⟨rfl, Nat.le_of_eq (pages memory found).symm⟩
  · intro memory found within
    exact within.of_pages rfl (pages memory found)

theorem storeBytes_works (address start : Nat) (bytes : List UInt8) :
    Works store (store.storeBytes address start bytes) :=
  store.setBytes_works address _ fun memory _ => memory.bytes.pageCount_storeAll start bytes

theorem growMemory_works (address delta : Nat)
    (grows : ∀ memory, store.memories[address]? = some memory →
      memory.canGrow store.byteLimit delta = true) :
    Works store (store.growMemory address delta) := by
  apply store.updateMemory_works
  · intro memory found
    refine ⟨rfl, ?_⟩
    rw [memory.pages_grow]
    exact Nat.le_add_right ..
  · intro memory found within
    exact within.grow (grows memory found)

theorem addMemory?_works {store after : Store H} {size : SizeRange} {address : Nat}
    (inOrder : size.greatest.all (size.least ≤ ·)) (addressed : size.least ≤ maxPages)
    (added : store.addMemory? size = some (address, after)) : Works store after := by
  unfold addMemory? at added
  split at added
  · rename_i inLimit
    cases added
    apply store.works_of_memories (.push Memory.Ages.refl _ _)
    intro all
    apply forall_mem_push all
    have pages : Memory.pages ⟨.zeros size.least, size.greatest⟩ = size.least :=
      PagedBytes.pageCount_zeros size.least
    constructor
    · rw [pages, Memory.bound]
      cases greatest : size.greatest with
      | none => simpa using addressed
      | some most =>
          rw [greatest] at inOrder
          have least : size.least ≤ most := by simpa using inOrder
          simp only [Option.getD_some]
          omega
    · rw [pages]
      exact inLimit
  · contradiction

/-! ## Tables -/

theorem size_place (items : Array Value) (start : Nat) (new : List Value) :
    (place items start new).size = items.size := by
  induction new generalizing items start with
  | nil => rfl
  | cons item rest inductionHypothesis =>
      rw [place, inductionHypothesis]
      exact Array.size_setIfInBounds

theorem storeItems_works (address start : Nat) (items : List Value) :
    Works store (store.storeItems address start items) := by
  have size (table : Table) := size_place table.items start items
  apply store.works_of_tables
  · apply Follows.modify Table.Ages.refl
    intro table found
    exact ⟨rfl, rfl, Nat.le_of_eq (size table).symm⟩
  · intro all
    apply forall_mem_modify address all
    intro table found within
    rw [Table.Within, size table]
    exact within

theorem growTable_works (address count : Nat) (item : Value)
    (fits : ∀ table, store.tables[address]? = some table →
      table.items.size + count ≤ table.bound) :
    Works store (store.growTable address count item) := by
  apply store.works_of_tables
  · apply Follows.modify Table.Ages.refl
    intro table found
    refine ⟨rfl, rfl, ?_⟩
    rw [Array.size_append]
    exact Nat.le_add_right ..
  · intro all
    apply forall_mem_modify address all
    intro table found within
    rw [Table.Within, Array.size_append, Array.size_replicate]
    exact fits table found

theorem addTable_works (shape : TableShape)
    (inOrder : shape.size.greatest.all (shape.size.least ≤ ·))
    (addressed : shape.size.least < UInt32.size) : Works store (store.addTable shape).2 := by
  apply store.works_of_tables (.push Table.Ages.refl _ _)
  intro all
  apply forall_mem_push all
  rw [Table.Within, Table.bound, Array.size_replicate]
  cases greatest : shape.size.greatest with
  | none =>
      simp only [Option.getD_none]
      omega
  | some most =>
      rw [greatest] at inOrder
      have least : shape.size.least ≤ most := by simpa using inOrder
      simp only [Option.getD_some]
      omega

/-! ## Globals and instances -/

theorem updateGlobal_works (address : Nat) (value : Value) :
    Works store (store.updateGlobal address value) :=
  store.works_of_globals (.modify Global.Ages.refl _ address _ fun _ _ => Eq.refl _)

theorem addGlobal_works (shape : GlobalShape) (value : Value) :
    Works store (store.addGlobal shape value).2 :=
  store.works_of_globals (.push Global.Ages.refl _ _)

theorem updateInstance_works (owner : Nat) (change : Instance → Instance)
    (ages : ∀ owning, Instance.Ages owning (change owning)) :
    Works store (store.updateInstance owner change) :=
  store.works_of_instances (.modify Instance.Ages.refl _ owner change fun owning _ => ages owning)
    Array.size_modify

/-! ## What the engine does by itself -/

theorem apply_works (change : Change) (allowed : store.Allows change) :
    Works store (store.apply change) := by
  cases change with
  | nothing => exact .refl store
  | bytes address start bytes => exact store.storeBytes_works address start bytes
  | growMemory address delta => exact store.growMemory_works address delta allowed
  | items address start items => exact store.storeItems_works address start items
  | growTable address count item => exact store.growTable_works address count item allowed
  | global address value => exact store.updateGlobal_works address value
  | dropItems owner segment =>
      exact store.updateInstance_works owner _ fun _ => ⟨rfl, rfl, rfl, rfl⟩
  | dropBytes owner segment =>
      exact store.updateInstance_works owner _ fun _ => ⟨rfl, rfl, rfl, rfl⟩

theorem charge_works (spent : Nat) : Works store (store.charge spent) :=
  store.works_of_same rfl rfl rfl rfl rfl rfl

theorem addHost_works (signature : Signature) (body : H) :
    Works store (store.addHost signature body).2 :=
  store.works_of_same rfl rfl rfl rfl rfl rfl

theorem emerge_works (key : FuncKey) : Works store (store.emerge key).2 := by
  unfold emerge
  split
  · exact .refl store
  · split
    · split
      · exact .refl store
      · exact store.addHost_works _ _
    · exact .refl store

end Store

theorem Activation.Touched.works {H : Type} {before after : Store H}
    (touched : Activation.Touched before after) : before.Works after := by
  cases touched with
  | charged spent => exact before.charge_works spent
  | changed change allowed => exact before.apply_works change allowed

end WasmSandbox.Wasm
