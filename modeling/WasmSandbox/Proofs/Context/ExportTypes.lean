import WasmSandbox.Proofs.Context.Minting
import WasmSandbox.Proofs.Context.Records
import WasmSandbox.Proofs.Context.Upkeep

/-!
Contract: exports and their declared types, and for how long an import is satisfied.

Owns:
- how the type of an item changes while a context lives, and that a declared type which
  accepts the item goes on accepting it;
- that an instance has an item for each export that its artifact declares, and that the
  declared type accepts it, also where the item was imported.

The declared type of an export is read off the module, and an import is compared with the
size that the item has now.  They agree because the engine's instances are placed: what is
at an address has at least the least size that the module declares there.

Does not own: which items satisfy an import (`WasmSandbox.Proofs.Context.Imports`).
-/

namespace WasmSandbox

open Wasm

/-! ## Types that are accepted later -/

/-- Sizes of items are below 64 bits, so they are compared as numbers. -/
theorem ofNat_le_ofNat {first later : Nat} (grown : first ≤ later) (small : later < UInt64.size) :
    UInt64.ofNat first ≤ UInt64.ofNat later := by
  rw [UInt64.le_iff_toNat_le, UInt64.toNat_ofNat_of_lt' small,
    UInt64.toNat_ofNat_of_lt' (Nat.lt_of_le_of_lt grown small)]
  exact grown

theorem Limits.satisfiedBy_of_larger {declared first later : Limits}
    (satisfied : declared.satisfiedBy first = true) (larger : first.minimum ≤ later.minimum)
    (sameMaximum : later.maximum = first.maximum) : declared.satisfiedBy later = true := by
  obtain ⟨covered, bounded⟩ := (satisfiedBy_iff declared first).1 satisfied
  refine (satisfiedBy_iff declared later).2 ⟨UInt64.le_trans covered larger, ?_⟩
  rw [sameMaximum]
  exact bounded

/-- The type of an item later on: it may have become larger. -/
inductive ItemType.Ages : ItemType → ItemType → Prop where
  | same (type : ItemType) : Ages type type
  | memory {first later : Limits} (larger : first.minimum ≤ later.minimum)
      (sameMaximum : later.maximum = first.maximum) : Ages (.memory ⟨first⟩) (.memory ⟨later⟩)
  | table (element : ValueKind) {first later : Limits} (larger : first.minimum ≤ later.minimum)
      (sameMaximum : later.maximum = first.maximum) :
      Ages (.table ⟨element, first⟩) (.table ⟨element, later⟩)

/-- A declared type that accepts an item accepts it when it has become larger. -/
theorem ItemType.Ages.accepted {declared first later : ItemType} (ages : Ages first later)
    (accepted : declared.accepts first = true) : declared.accepts later = true := by
  cases ages with
  | same type => exact accepted
  | memory larger sameMaximum =>
      obtain ⟨type, rfl, satisfied⟩ := (accepts_memory_iff _ _).1 accepted
      exact (accepts_memory_iff _ _).2
        ⟨type, rfl, Limits.satisfiedBy_of_larger satisfied larger sameMaximum⟩
  | table element larger sameMaximum =>
      obtain ⟨type, rfl, sameElement, satisfied⟩ := (accepts_table_iff _ _).1 accepted
      exact (accepts_table_iff _ _).2
        ⟨type, rfl, sameElement, Limits.satisfiedBy_of_larger satisfied larger sameMaximum⟩

namespace Context

variable {σ : Type} {context after : Context σ}

/-- An item stays what it is in the engine, and its type only gets larger. -/
theorem Described.later {item : Item} {type : ItemType} {lowered : Wasm.Extern}
    (described : context.Described item type lowered) (extension : Extends context after)
    (ages : context.store.Ages after.store) (bounded : after.store.Bounded) :
    ∃ later, after.Described item later lowered ∧ type.Ages later := by
  cases described with
  | func found => exact ⟨_, .func (extension.funcEntry?_eq_some found), .same _⟩
  | @memory handle memory found =>
      obtain ⟨own, isMemory⟩ := memory_eq_ok_iff.1 found
      obtain ⟨grown, isGrown, aged⟩ := ages.memories _ memory isMemory
      have small := (bounded.memories grown (Array.mem_of_getElem? isGrown)).pages_le
      have foundLater : after.memory handle = .ok grown :=
        memory_eq_ok_iff.2 ⟨own.trans extension.id.symm, isGrown⟩
      refine ⟨_, .memory foundLater, .memory ?_ rfl⟩
      exact ofNat_le_ofNat aged.pages (Nat.lt_of_le_of_lt small (by decide))
  | @table handle table found =>
      obtain ⟨own, isTable⟩ := table?_eq_some_iff.1 found
      obtain ⟨grown, isGrown, aged⟩ := ages.tables _ table isTable
      have small := (bounded.tables grown (Array.mem_of_getElem? isGrown)).size_le
      have foundLater : after.table? handle = some grown :=
        table?_eq_some_iff.2 ⟨own.trans extension.id.symm, isGrown⟩
      refine ⟨_, .table foundLater, .table .funcRef ?_ rfl⟩
      exact ofNat_le_ofNat aged.size (Nat.lt_of_le_of_lt small (by decide))
  | global handle => exact ⟨_, .global handle, .same _⟩

/-- An import that an item satisfies is satisfied by it later on. -/
theorem checkImport_later {declared : ImportDecl} {item : Item} {lowered : Wasm.Extern}
    (satisfied : context.checkImport declared item = .ok lowered)
    (extension : Extends context after) (ages : context.store.Ages after.store)
    (bounded : after.store.Bounded) : after.checkImport declared item = .ok lowered := by
  obtain ⟨own, type, isType, accepted⟩ := (context.checkImport_eq_ok_iff _ _ _).1 satisfied
  have described := (context.describe_eq_ok_iff _ _ _).1 isType
  obtain ⟨later, isLater, aged⟩ := described.later extension ages bounded
  refine (after.checkImport_eq_ok_iff _ _ _).2 ⟨own.trans extension.id.symm, later, ?_, ?_⟩
  · exact (after.describe_eq_ok_iff _ _ _).2 isLater
  · exact aged.accepted accepted

end Context

/-! ## Exports that are looked up -/

/-- Among items with distinct keys, the first one with the key of an item is that item. -/
theorem find?_of_nodup {α : Type} {key : α → String} {items : List α}
    (distinct : (items.map key).Nodup) {item : α} (member : item ∈ items) :
    items.find? (fun other => key other == key item) = some item := by
  induction items with
  | nil => contradiction
  | cons head rest inductionHypothesis =>
      rw [List.map_cons, List.nodup_cons] at distinct
      rcases List.mem_cons.1 member with rfl | later
      · simp
      · have differs : key head ≠ key item := by
          intro same
          exact distinct.1 (same ▸ List.mem_map_of_mem later)
        rw [List.find?_cons_of_neg (by simpa using differs)]
        exact inductionHypothesis distinct.2 later

namespace Artifact

variable (artifact : Artifact)

/-- The exports that are declared have the names of those of the module. -/
theorem exports_names : artifact.exports.map ExportDecl.name =
    artifact.module.exports.map Export.name := by
  have sameNames : List.Forall₂ (fun item declared => declared.name = item.name)
      artifact.module.exports artifact.exports :=
    artifact.exports_forall₂.imp fun item declared shown =>
      ((Surface.ofExport_eq_ok_iff artifact.module item declared).1 shown).1
  generalize artifact.module.exports = items at sameNames
  generalize artifact.exports = declareds at sameNames
  induction sameNames with
  | nil => rfl
  | cons head tail inductionHypothesis =>
      rw [List.map_cons, List.map_cons, inductionHypothesis, head]

/-- A declared export is found by its name, and with it the export of the module that it
describes. -/
theorem export_found {artifact : Artifact} (orderly : artifact.module.Orderly)
    {declared : ExportDecl} (member : declared ∈ artifact.exports) :
    artifact.export? declared.name = some declared ∧
      ∃ item shape, artifact.module.exports.find? (fun item => item.name == declared.name) =
          some item ∧ artifact.module.exportShape? item.target = some shape ∧
        ItemType.ofGuest shape = .ok declared.type := by
  have names : (artifact.exports.map ExportDecl.name).Nodup := by
    rw [artifact.exports_names]
    exact orderly.names
  obtain ⟨index, isDeclared⟩ := List.getElem?_of_mem member
  obtain ⟨item, isItem, shown⟩ := Context.forall₂_getElem? artifact.exports_forall₂ isDeclared
  obtain ⟨sameName, shape, isShape, read⟩ := (Surface.ofExport_eq_ok_iff _ _ _).1 shown
  refine ⟨find?_of_nodup names member, item, shape, ?_, isShape, read⟩
  rw [sameName]
  exact find?_of_nodup orderly.names (List.mem_of_getElem? isItem)

end Artifact

namespace Context

variable {σ : Type} {context : Context σ}

/-- A function with a declared signature always gets a handle. -/
theorem handleOf_declared (context : Context σ) (origin : FuncKey) (signature : Signature) :
    ∃ func, (context.handleOf origin (some signature)).1 = .ok func := by
  unfold handleOf
  simp only
  split
  · exact ⟨_, rfl⟩
  · exact ⟨_, rfl⟩

/-- A size that a memory of an instance declares is accepted by the declared limits. -/
theorem satisfiedBy_current {size : SizeRange} {current : Nat} (least : size.least ≤ current)
    (small : current < UInt64.size) :
    (Limits.ofGuest size).satisfiedBy ⟨.ofNat current, (Limits.ofGuest size).maximum⟩ = true := by
  refine (Limits.satisfiedBy_iff _ _).2 ⟨ofNat_le_ofNat least small, ?_⟩
  intro bound isBound
  exact ⟨bound, isBound, UInt64.le_refl bound⟩

section

variable {inst : InstanceHandle} {made : InstanceEntry} {declared : ExportDecl} {owning : Instance}

/-- An export of an instance is shown as an item, and the declared type accepts it. -/
def Shows (context : Context σ) (inst : InstanceHandle) (declared : ExportDecl) : Prop :=
  ∃ item after type lowered, context.lookup inst declared.name = (some item, after) ∧
    after.Described item type lowered ∧ declared.type.accepts type = true

/-- The signature of an exported function is the declared one, also where the function has
been known before. -/
theorem Sound.shows_func (sound : context.Sound) (entry : context.instanceEntry? inst = some made)
    (isDeclared : made.artifact.export? declared.name = some declared)
    (isOwning : context.store.instances[made.owner]? = some owning) {index : Nat}
    {signature : Signature} (isFunc : declared.type = .func signature)
    (looked : context.lookup inst declared.name =
      context.exportedItem made.owner (.func index) declared.type) :
    context.Shows inst declared := by
  obtain ⟨func, handed⟩ := context.handleOf_declared (.guest made.owner index) signature
  have shown : context.lookup inst declared.name =
      (some (.func func), (context.handleOf (.guest made.owner index) (some signature)).2) := by
    rw [looked, isFunc]
    simp only [exportedItem, isOwning]
    generalize context.handleOf (.guest made.owner index) (some signature) = out at handed
    obtain ⟨outcome, after⟩ := out
    rw [show outcome = .ok func from handed]
  obtain ⟨_, _, recorded, sameEntry, sameDeclared, isRecorded, known⟩ :=
    sound.lookup_signature shown
  rw [entry, Option.some.injEq] at sameEntry
  rw [← sameEntry, isDeclared, Option.some.injEq] at sameDeclared
  rw [← sameDeclared, isFunc, ItemType.func.injEq] at isRecorded
  obtain ⟨found, isFound, sameSignature⟩ := Option.map_eq_some_iff.1 known
  refine ⟨_, _, _, _, shown, .func isFound, ?_⟩
  rw [isFunc, isRecorded, sameSignature]
  exact decide_eq_true rfl

/-- An exported memory has at least the declared least size, and it is shown with the
declared greatest size. -/
theorem shows_memory (bounded : context.store.Bounded)
    (isOwning : context.store.instances[made.owner]? = some owning)
    (placed : owning.Placed context.store) {index : Nat} {shape : MemoryShape}
    (hasShape : owning.module.memoryShapes[index]? = some shape)
    (isMemoryType : declared.type = .memory ⟨.ofGuest shape.size⟩)
    (looked : context.lookup inst declared.name =
      context.exportedItem made.owner (.memory index) declared.type) :
    context.Shows inst declared := by
  obtain ⟨address, isAddress, memory, isMemory, least⟩ :=
    forall₂_getElem? placed.memories.flip hasShape
  rw [Array.getElem?_toList] at isAddress
  have small := (bounded.memories memory (Array.mem_of_getElem? isMemory)).pages_le
  have found : context.memory ⟨context.id, address, (Limits.ofGuest shape.size).maximum⟩ =
      .ok memory := memory_eq_ok_iff.2 ⟨rfl, isMemory⟩
  refine ⟨_, context, _, _, ?_, .memory found, ?_⟩
  · rw [looked, isMemoryType]
    simp only [exportedItem, isOwning, isAddress]
    rfl
  · rw [isMemoryType]
    exact satisfiedBy_current least (Nat.lt_of_le_of_lt small (by decide))

theorem shows_table (bounded : context.store.Bounded)
    (isOwning : context.store.instances[made.owner]? = some owning)
    (placed : owning.Placed context.store) {index : Nat} {shape : TableShape}
    (hasShape : owning.module.tableShapes[index]? = some shape)
    (isTableType : declared.type = .table ⟨.funcRef, .ofGuest shape.size⟩)
    (looked : context.lookup inst declared.name =
      context.exportedItem made.owner (.table index) declared.type) :
    context.Shows inst declared := by
  obtain ⟨address, isAddress, table, isTable, least⟩ :=
    forall₂_getElem? placed.tables.flip hasShape
  rw [Array.getElem?_toList] at isAddress
  have small := (bounded.tables table (Array.mem_of_getElem? isTable)).size_le
  have found : context.table? ⟨context.id, address, (Limits.ofGuest shape.size).maximum⟩ =
      some table := table?_eq_some_iff.2 ⟨rfl, isTable⟩
  refine ⟨_, context, _, _, ?_, .table found, ?_⟩
  · rw [looked, isTableType]
    simp only [exportedItem, isOwning, isAddress]
    rfl
  · rw [isTableType, ItemType.accepts_table_iff]
    exact ⟨_, rfl, rfl, satisfiedBy_current least (Nat.lt_of_le_of_lt small (by decide))⟩

theorem shows_global (isOwning : context.store.instances[made.owner]? = some owning)
    (placed : owning.Placed context.store) {index : Nat} {shape : GlobalShape}
    (hasShape : owning.module.globalShapes[index]? = some shape) {type : GlobalType}
    (isGlobal : declared.type = .global type)
    (looked : context.lookup inst declared.name =
      context.exportedItem made.owner (.global index) declared.type) :
    context.Shows inst declared := by
  have inside : index < owning.globals.size := by
    rw [placed.globals]
    exact (List.getElem?_eq_some_iff.1 hasShape).1
  refine ⟨_, context, _, _, ?_, .global ⟨context.id, owning.globals[index], type⟩, ?_⟩
  · rw [looked, isGlobal]
    simp only [exportedItem, isOwning, Array.getElem?_eq_getElem inside]
    rfl
  · rw [isGlobal]
    exact decide_eq_true rfl

/-- An instance shows every export that its artifact declares. -/
theorem Sound.shows (sound : context.Sound) (tended : context.store.Tended)
    (entry : context.instanceEntry? inst = some made) (orderly : made.artifact.module.Orderly)
    (isOwning : context.store.instances[made.owner]? = some owning)
    (isModule : owning.module = made.artifact.module) (member : declared ∈ made.artifact.exports) :
    context.Shows inst declared := by
  obtain ⟨isDeclared, item, shape, isItem, isShape, read⟩ := Artifact.export_found orderly member
  have looked : context.lookup inst declared.name =
      context.exportedItem made.owner item.target declared.type := by
    simp [lookup, entry, isDeclared, isItem]
  have placed := tended.placed owning (Array.mem_of_getElem? isOwning)
  rw [← isModule] at isShape
  cases target : item.target with
  | func index =>
      rw [target] at isShape looked
      obtain ⟨guest, -, rfl⟩ := Option.map_eq_some_iff.1 isShape
      obtain ⟨signature, isFunc⟩ := ItemType.ofGuest_func read
      exact sound.shows_func entry isDeclared isOwning isFunc looked
  | memory index =>
      rw [target] at isShape looked
      obtain ⟨_, hasShape, rfl⟩ := Option.map_eq_some_iff.1 isShape
      exact shows_memory tended.bounded isOwning placed hasShape (ItemType.ofGuest_memory read)
        looked
  | table index =>
      rw [target] at isShape looked
      obtain ⟨_, hasShape, rfl⟩ := Option.map_eq_some_iff.1 isShape
      exact shows_table tended.bounded isOwning placed hasShape (ItemType.ofGuest_table read) looked
  | global index =>
      rw [target] at isShape looked
      obtain ⟨_, hasShape, rfl⟩ := Option.map_eq_some_iff.1 isShape
      obtain ⟨type, isGlobal⟩ := ItemType.ofGuest_global read
      exact shows_global isOwning placed hasShape isGlobal looked

/-- What is shown for an export satisfies every import of the declared type. -/
theorem Sound.satisfies_of_lookup (sound : context.Sound) (shows : context.Shows inst declared)
    {item : Item} {after : Context σ}
    (looked : context.lookup inst declared.name = (some item, after)) :
    ∃ type lowered, after.describe item = .ok (type, lowered) ∧
      declared.type.accepts type = true ∧
        ∀ module name, after.checkImport ⟨module, name, declared.type⟩ item = .ok lowered := by
  obtain ⟨shown, last, type, lowered, alsoLooked, described, accepted⟩ := shows
  rw [looked] at alsoLooked
  cases alsoLooked
  have isType := (after.describe_eq_ok_iff _ _ _).2 described
  have grows := (sound.lookup_grows inst declared.name).1
  rw [looked] at grows
  have own : item.context = after.id :=
    (lookup_context (congrArg Prod.fst looked)).trans grows.extension.id.symm
  refine ⟨type, lowered, isType, accepted, fun module name => ?_⟩
  exact (after.checkImport_eq_ok_iff _ _ _).2 ⟨own, type, isType, accepted⟩

end

end Context

/-! ## Exports and imports over a life -/

/-- What the declared types of exports are worth at a stage, after a history. -/
structure ExportsAccepted {σ : Type} (past : List (Stage σ × Act σ)) (context : Context σ) :
    Prop where
  /-- A linked instance shows an item for each export that its artifact declares.  The
  declared type accepts what the item is now, and so does every import of that type. -/
  exports : ∀ inst made, context.instanceEntry? inst = some made →
    ∀ declared ∈ made.artifact.exports, ∃ item after type lowered,
      context.lookup inst declared.name = (some item, after) ∧
        after.describe item = .ok (type, lowered) ∧ declared.type.accepts type = true ∧
          ∀ module name, after.checkImport ⟨module, name, declared.type⟩ item = .ok lowered
  /-- An item that was shown for an export satisfies every import of the declared type ever
  since. -/
  shown : ∀ happened ∈ past, ∀ inst made, happened.1.context.instanceEntry? inst = some made →
    ∀ declared ∈ made.artifact.exports, ∀ item after,
      happened.1.asked? happened.2 = some (.lookup inst declared.name) →
        happened.1.context.lookup inst declared.name = (some item, after) →
          ∃ lowered, ∀ module name,
            context.checkImport ⟨module, name, declared.type⟩ item = .ok lowered
  /-- A declared type that accepted an item accepts what the item is now. -/
  accepted : ∀ happened ∈ past, ∀ (declared : ItemType) item type lowered,
    happened.1.context.describe item = .ok (type, lowered) → declared.accepts type = true →
      ∃ later, context.describe item = .ok (later, lowered) ∧ declared.accepts later = true
  /-- An item that satisfied an import satisfies it now. -/
  satisfied : ∀ happened ∈ past, ∀ declared item lowered,
    happened.1.context.checkImport declared item = .ok lowered →
      context.checkImport declared item = .ok lowered

namespace Life

variable {σ : Type} {fresh : Context σ} {past : List (Stage σ × Act σ)} {stage : Stage σ}

/-- An instance that is linked shows every export that its artifact declares. -/
theorem shows (life : Life fresh past stage) (begins : fresh.Sound)
    (noInstances : fresh.instances = #[]) (tended : fresh.store.Tended) (valid : LinksValid past)
    {inst : InstanceHandle} {made : InstanceEntry}
    (entry : stage.context.instanceEntry? inst = some made) {declared : ExportDecl}
    (member : declared ∈ made.artifact.exports) : stage.context.Shows inst declared := by
  obtain ⟨isValid, owning, isOwning, isModule⟩ :=
    life.instance_of_entry begins noInstances valid entry
  exact (life.sound begins).context.shows (life.tended tended valid) entry isValid.orderly isOwning
    isModule member

/-- What was shown for an export satisfies every import of the declared type ever since. -/
theorem shown_satisfies (life : Life fresh past stage) (begins : fresh.Sound)
    (noInstances : fresh.instances = #[]) (tended : fresh.store.Tended) (valid : LinksValid past)
    {happened : Stage σ × Act σ} (member : happened ∈ past) {inst : InstanceHandle}
    {made : InstanceEntry} (entry : happened.1.context.instanceEntry? inst = some made)
    {declared : ExportDecl} (isExport : declared ∈ made.artifact.exports) {item : Item}
    {after : Context σ} (asked : happened.1.asked? happened.2 = some (.lookup inst declared.name))
    (looked : happened.1.context.lookup inst declared.name = (some item, after)) :
    ∃ lowered, ∀ module name,
      stage.context.checkImport ⟨module, name, declared.type⟩ item = .ok lowered := by
  induction life with
  | created => contradiction
  | @acted past before next act life taken inductionHypothesis =>
      obtain ⟨now, earlier⟩ := List.forall_mem_cons.1 valid
      have sound := life.sound begins
      rcases List.mem_cons.1 member with rfl | isEarlier
      · have answered : before.context.answer (.lookup inst declared.name) =
            .answered (some item, after) := by rw [Context.answer, looked]
        rw [Stage.take_answered taken asked answered]
        obtain ⟨_, lowered, -, -, satisfies⟩ := sound.context.satisfies_of_lookup
          (life.shows begins noInstances tended earlier entry isExport) looked
        exact ⟨lowered, satisfies⟩
      · obtain ⟨lowered, satisfies⟩ := inductionHypothesis earlier isEarlier
        obtain ⟨ages, tendedNow⟩ := take_tended (life.tended tended earlier) taken now
        have extension := (sound.take_leads taken).extension
        refine ⟨lowered, fun module name => ?_⟩
        exact Context.checkImport_later (satisfies module name) extension ages tendedNow.bounded

/-- In every life of a context, linked instances show their exports as declared, and what
a declared type accepts once it accepts from then on. -/
theorem exportsAccepted {id : ContextId} {environment : Environment} {data : σ}
    (life : Life (.create id environment data) past stage) (valid : LinksValid past) :
    ExportsAccepted past stage.context := by
  have begins := Context.create_sound id environment data
  have freshTended := Context.create_tended id environment data
  have bounded := (life.tended freshTended valid).bounded
  refine ⟨?exports, ?shown, ?accepted, ?satisfied⟩
  case exports =>
    intro inst made entry declared member
    have isShown := life.shows begins rfl freshTended valid entry member
    have ⟨item, after, _, _, looked, _, _⟩ := isShown
    obtain ⟨type, lowered, isType, accepted, satisfies⟩ :=
      (life.sound begins).context.satisfies_of_lookup isShown looked
    exact ⟨item, after, type, lowered, looked, isType, accepted, satisfies⟩
  case shown =>
    intro happened member inst made entry declared isExport item after asked looked
    exact life.shown_satisfies begins rfl freshTended valid member entry isExport asked looked
  case accepted =>
    intro happened member declared item type lowered isType accepted
    have described := (happened.1.context.describe_eq_ok_iff _ _ _).1 isType
    obtain ⟨later, isLater, aged⟩ := described.later (life.extension_of_mem begins happened member)
      (life.ages_of_mem freshTended valid happened member) bounded
    exact ⟨later, (stage.context.describe_eq_ok_iff _ _ _).2 isLater, aged.accepted accepted⟩
  case satisfied =>
    intro happened member declared item lowered satisfied
    exact Context.checkImport_later satisfied (life.extension_of_mem begins happened member)
      (life.ages_of_mem freshTended valid happened member) bounded

end Life

/-! ## A memory that is exported again -/

namespace ExportedAgain

/-- A module that exports a memory of its own. -/
def owner : Artifact where
  environment := ⟨0⟩
  serial := 0
  module :=
    { memories := [⟨⟨1, some 4⟩, false⟩]
      exports := [⟨"m", .memory 0⟩] }
  digest := []
  surface := ⟨[], [⟨"m", .memory ⟨⟨1, some 4⟩⟩⟩]⟩
  surface_eq := rfl

/-- A module that imports a memory under a wider type, and exports it. -/
def borrower : Artifact where
  environment := ⟨0⟩
  serial := 1
  module :=
    { imports := [⟨"env", "m", .memory ⟨⟨1, some 8⟩, false⟩⟩]
      exports := [⟨"again", .memory 0⟩] }
  digest := []
  surface := ⟨[⟨"env", "m", .memory ⟨⟨1, some 8⟩⟩⟩], [⟨"again", .memory ⟨⟨1, some 8⟩⟩⟩]⟩
  surface_eq := rfl

theorem owner_valid : owner.module.Valid := ⟨⟨false, false, false⟩, rfl⟩

theorem borrower_valid : borrower.module.Valid := ⟨⟨false, false, false⟩, rfl⟩

def fresh : Context Unit := .create ⟨0⟩ { id := ⟨0⟩, config := {} } ()

/-- The memory is exported, imported, exported again, and then it grows. -/
theorem lives : ∃ past context, Life fresh past (.idle context) ∧ LinksValid past ∧
    context.instanceCount = 2 ∧
      (context.lookup ⟨⟨0⟩, 1⟩ "again").1 = some (.memory ⟨⟨0⟩, 0, some 8⟩) ∧
        context.memoryPages ⟨⟨0⟩, 0, some 8⟩ = .ok 3 := by
  have linked : Life fresh _ _ := Life.created.acted
    (show Stage.take _ (.link owner []) = some _ from rfl)
  have closed := linked.acted (show Stage.take _ .close = some _ from rfl)
  have again := closed.acted
    (show Stage.take _ (.link borrower [.memory ⟨⟨0⟩, 0, some 4⟩]) = some _ from rfl)
  have ended := again.acted (show Stage.take _ .close = some _ from rfl)
  have grown := ended.acted
    (show Stage.take _ (.ask (.growMemory ⟨⟨0⟩, 0, some 4⟩ 2)) = some _ from rfl)
  refine ⟨_, _, grown, ?_, rfl, rfl, rfl⟩
  exact .silent (.silent (.linked (.silent (.linked .nil rfl owner_valid) rfl) rfl borrower_valid)
    rfl) rfl

end ExportedAgain

/-- The memory that is exported again is still accepted, though it grew. -/
theorem Life.exportsAccepted_of_exportedAgain : ∃ past context,
    Life ExportedAgain.fresh past (.idle context) ∧ ExportsAccepted past context ∧
      (context.lookup ⟨⟨0⟩, 1⟩ "again").1 = some (.memory ⟨⟨0⟩, 0, some 8⟩) ∧
        context.memoryPages ⟨⟨0⟩, 0, some 8⟩ = .ok 3 := by
  obtain ⟨past, context, life, valid, -, shown, pages⟩ := ExportedAgain.lives
  exact ⟨past, context, life, Life.exportsAccepted life valid, shown, pages⟩

end WasmSandbox
