import WasmSandbox.Proofs.Context.ExportTypes
import WasmSandbox.Proofs.Context.Reexport

/-!
Contract: exports that are looked up more than once.

Owns:
- items that an instance provides for its exports, and that it goes on providing them
  whatever happens to the context;
- that a linked instance provides an item for each export that its artifact declares, and
  that the list of its exports has exactly these items, in the order of declaration.

A function that is looked up for the first time gets an entry in the function table, under
the key of its place in the instance.  From then on this key leads to that entry, so another
look-up enters nothing.  Other items have no entries: their handles are read off the addresses
of the instance, which never change.

Does not own: what linkers do with the items.
-/

namespace WasmSandbox

open Wasm

/-- What a look-up knows of an export before it asks the engine. -/
def InstanceEntry.target? (made : InstanceEntry) (name : String) :
    Option (ExportTarget × ItemType) := do
  let declared ← made.artifact.export? name
  let item ← made.artifact.module.exports.find? fun item => item.name == name
  return (item.target, declared.type)

namespace Context

variable {σ : Type} {context middle later : Context σ} {inst : InstanceHandle}

/-! ## Looking up again -/

theorem lookup_of_entry {made : InstanceEntry} (entry : context.instanceEntry? inst = some made)
    (name : String) : context.lookup inst name =
      match made.target? name with
      | some (target, type) => context.exportedItem made.owner target type
      | none => (none, context) := by
  unfold lookup
  rw [entry]
  rfl

/-- The handle of a function of an instance that has an entry. -/
theorem Sound.handleOf_of_known (sound : context.Sound) {owner index : Nat} {func : FuncHandle}
    {entry : FuncEntry} (known : context.funcEntry? func = some entry)
    (isKey : entry.key = .guest owner index) (declared : Option Signature) :
    context.handleOf (.guest owner index) declared = (.ok func, context) := by
  unfold funcEntry? at known
  split at known
  · rename_i own
    have found := sound.inverse.found known
    rw [isKey] at found
    have handed : context.handleOf (.guest owner index) declared =
        (.ok ⟨context.id, func.index⟩, context) := by
      simp only [handleOf, Store.emerge, found]
    rw [handed, ← own]
  · contradiction

/-- An item that was shown for an export is shown again, and nothing changes. -/
theorem Sound.exportedItem_again (sound : context.Sound) {owner : Nat} {target : ExportTarget}
    {type : ItemType} {item : Item}
    (shown : context.exportedItem owner target type = (some item, middle))
    (extension : Extends middle later) (ages : context.store.Ages later.store)
    (sameId : later.id = context.id) (soundLater : later.Sound) :
    later.exportedItem owner target type = (some item, later) := by
  unfold exportedItem at shown
  cases isOwning : context.store.instances[owner]? with
  | none => simp [isOwning] at shown
  | some owning =>
      simp only [isOwning] at shown
      obtain ⟨aged, isAged, kept⟩ := ages.instances owner owning isOwning
      unfold exportedItem
      simp only [isAged]
      split at shown
      · rename_i index signature
        cases handed : context.handleOf (.guest owner index) (some signature) with
        | mk outcome after =>
            rw [handed] at shown
            cases outcome with
            | error reason => simp at shown
            | ok func =>
                cases shown
                obtain ⟨entry, known, isKey⟩ := sound.handleOf_key handed
                simp only [soundLater.handleOf_of_known (extension.funcEntry?_eq_some known) isKey]
      -- The other handles are read off addresses.
      · rw [Prod.mk.injEq] at shown
        rw [kept.memories, sameId, shown.1]
      · rw [Prod.mk.injEq] at shown
        rw [kept.tables, sameId, shown.1]
      · rw [Prod.mk.injEq] at shown
        rw [kept.globals, sameId, shown.1]
      · simp at shown

theorem Sound.lookup_again (sound : context.Sound) {name : String} {item : Item}
    (looked : context.lookup inst name = (some item, middle)) (extension : Extends middle later)
    (ages : middle.store.Ages later.store) (soundLater : later.Sound) :
    later.lookup inst name = (some item, later) := by
  have grows := (sound.lookup_grows inst name).1
  have issues := context.lookup_issues inst name
  rw [looked] at grows issues
  have whole := grows.extension.trans extension
  cases entry : context.instanceEntry? inst with
  | none =>
      simp [lookup, entry] at looked
  | some made =>
      rw [lookup_of_entry entry] at looked
      rw [lookup_of_entry (whole.instanceEntry?_eq_some entry)]
      split at looked
      · exact sound.exportedItem_again looked extension (issues.works.ages.trans ages) whole.id
          soundLater
      · simp at looked

/-! ## Items that are provided -/

/-- An instance provides an item for an export: looking it up yields the item and changes
nothing, and the declared type accepts it. -/
structure Provides (context : Context σ) (inst : InstanceHandle) (declared : ExportDecl)
    (item : Item) : Prop where
  looked : context.lookup inst declared.name = (some item, context)
  accepted : ∃ type lowered, context.Described item type lowered ∧
    declared.type.accepts type = true

/-- What an instance provides it provides from then on. -/
theorem Provides.mono {declared : ExportDecl} {item : Item}
    (provides : context.Provides inst declared item) (sound : context.Sound)
    (extension : Extends context later) (ages : context.store.Ages later.store)
    (soundLater : later.Sound) (bounded : later.store.Bounded) :
    later.Provides inst declared item := by
  obtain ⟨looked, type, lowered, described, accepted⟩ := provides
  obtain ⟨_, isLater, aged⟩ := described.later extension ages bounded
  exact ⟨sound.lookup_again looked extension ages soundLater, _, _, isLater, aged.accepted accepted⟩

/-- What is shown for an export the instance provides afterwards. -/
theorem Sound.provides_of_shows (sound : context.Sound) {declared : ExportDecl}
    (shows : context.Shows inst declared) :
    ∃ item after, context.lookup inst declared.name = (some item, after) ∧
      after.Provides inst declared item := by
  obtain ⟨item, after, type, lowered, looked, described, accepted⟩ := shows
  have grows := (sound.lookup_grows inst declared.name).1
  rw [looked] at grows
  exact ⟨item, after, looked, sound.lookup_again looked (.refl after) (.refl after.store)
    grows.sound, type, lowered, described, accepted⟩

/-! ## All exports -/

/-- An instance that is linked in a sound context, with the engine's instance behind it. -/
structure Holds (context : Context σ) (inst : InstanceHandle) (made : InstanceEntry) : Prop where
  sound : context.Sound
  tended : context.store.Tended
  entry : context.instanceEntry? inst = some made
  orderly : made.artifact.module.Orderly
  owning : ∃ owning, context.store.instances[made.owner]? = some owning ∧
    owning.module = made.artifact.module

variable {made : InstanceEntry}

theorem Holds.shows (holds : context.Holds inst made) {declared : ExportDecl}
    (member : declared ∈ made.artifact.exports) : context.Shows inst declared := by
  obtain ⟨owning, isOwning, isModule⟩ := holds.owning
  exact holds.sound.shows holds.tended holds.entry holds.orderly isOwning isModule member

/-- Handing out functions leaves an instance as it is. -/
theorem Holds.issued (holds : context.Holds inst made) (grows : Grows context later)
    (issues : Issues context later) : later.Holds inst made where
  sound := grows.sound
  tended := issues.works.tended holds.tended
  entry := grows.extension.instanceEntry?_eq_some holds.entry
  orderly := holds.orderly
  owning := by
    obtain ⟨owning, isOwning, isModule⟩ := holds.owning
    obtain ⟨aged, isAged, kept⟩ := issues.works.ages.instances made.owner owning isOwning
    exact ⟨aged, isAged, kept.module.trans isModule⟩

/-- Declared exports that are looked up one after the other all have their items, and the
instance provides them afterwards. -/
theorem Holds.lookupAll_provides (holds : context.Holds inst made) {declareds : List ExportDecl}
    (declaredAll : ∀ declared ∈ declareds, declared ∈ made.artifact.exports) :
    List.Forall₂ (fun declared shown => shown.1 = declared.name ∧
        (context.lookupAll inst (declareds.map ExportDecl.name)).2.Provides inst declared shown.2)
      declareds (context.lookupAll inst (declareds.map ExportDecl.name)).1 := by
  induction declareds generalizing context with
  | nil => exact .nil
  | cons declared rest inductionHypothesis =>
      have isDeclared := declaredAll declared (List.mem_cons_self ..)
      obtain ⟨item, middle, looked, provides⟩ :=
        holds.sound.provides_of_shows (holds.shows isDeclared)
      have grows := (holds.sound.lookup_grows inst declared.name).1
      have issues := context.lookup_issues inst declared.name
      rw [looked] at grows issues
      have holdsMiddle := holds.issued grows issues
      have others := inductionHypothesis holdsMiddle fun other member =>
        declaredAll other (List.mem_cons_of_mem _ member)
      -- The look-ups that follow only hand out more functions.
      have restGrows := (grows.sound.lookupAll_grows inst (rest.map ExportDecl.name)).1
      have works := (middle.lookupAll_issues inst (rest.map ExportDecl.name)).works
      simp only [List.map_cons, lookupAll, looked]
      exact .cons ⟨rfl, provides.mono grows.sound restGrows.extension works.ages restGrows.sound
        (works.bounded holdsMiddle.tended.bounded)⟩ others

/-- The list of exports has an item for each declared export, in the order of declaration. -/
theorem Holds.exports_provides (holds : context.Holds inst made) :
    List.Forall₂ (fun declared shown => shown.1 = declared.name ∧
        (context.exports inst).2.Provides inst declared shown.2)
      made.artifact.exports (context.exports inst).1 := by
  have isArtifact : context.artifact? inst = some made.artifact := by
    rw [artifact?, holds.entry]
    rfl
  simp only [exports, isArtifact]
  exact holds.lookupAll_provides fun _ member => member

theorem Holds.exports_names (holds : context.Holds inst made) :
    (context.exports inst).1.map Prod.fst = made.artifact.exports.map ExportDecl.name := by
  have provides := holds.exports_provides
  generalize (context.exports inst).1 = items at provides
  generalize made.artifact.exports = declareds at provides
  induction provides with
  | nil => rfl
  | cons head tail inductionHypothesis =>
      rw [List.map_cons, List.map_cons, head.1, inductionHypothesis]

/-- No two exports of an instance have the same name. -/
theorem Holds.exports_nodup (holds : context.Holds inst made) :
    ((context.exports inst).1.map Prod.fst).Nodup := by
  rw [holds.exports_names, made.artifact.exports_names]
  exact holds.orderly.names

end Context

/-- Every linked instance of a life is held. -/
theorem Life.holds {σ : Type} {fresh : Context σ} {past : List (Stage σ × Act σ)} {stage : Stage σ}
    (life : Life fresh past stage) (begins : fresh.Sound) (noInstances : fresh.instances = #[])
    (tended : fresh.store.Tended) (valid : LinksValid past) {inst : InstanceHandle}
    {made : InstanceEntry} (entry : stage.context.instanceEntry? inst = some made) :
    stage.context.Holds inst made := by
  obtain ⟨isValid, owning⟩ := life.instance_of_entry begins noInstances valid entry
  exact ⟨(life.sound begins).context, life.tended tended valid, entry, isValid.orderly, owning⟩

end WasmSandbox
