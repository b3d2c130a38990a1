import WasmSandbox.Proofs.Context.ExportLookup
import WasmSandbox.Proofs.Context.Identity

/-!
Contract: the exports of an instance over the life of a context.

Owns:
- what an item that is listed for a declared export is: its name, its sort, and for a function
  the declared signature;
- which names are found, and which functions have the same handle;
- that an answer which was given once, for one name or for all of them, is given from then on.

Does not own: which items the declared types accept (`WasmSandbox.Proofs.Context.ExportTypes`).
-/

namespace WasmSandbox

open Wasm

/-! ## Listed exports -/

namespace Context

variable {σ : Type} {context after later : Context σ} {inst : InstanceHandle}
  {made : InstanceEntry}

/-- What is listed for a declared export, in the context after the listing. -/
structure ListedAs (context : Context σ) (inst : InstanceHandle) (declared : ExportDecl)
    (shown : String × Item) : Prop where
  name : shown.1 = declared.name
  kind : shown.2.kind = declared.type.kind
  /-- The signature that is recorded for a function is the declared one. -/
  recorded : ∀ signature, declared.type = .func signature →
    ∃ func, shown.2 = .func func ∧ context.signature? func = some signature
  /-- Looking the name up gives the listed item, and changes nothing. -/
  looked : context.lookup inst declared.name = (some shown.2, context)

/-- An item of a type that the declared type accepts is of the declared sort. -/
theorem Described.kind_eq {item : Item} {type declared : ItemType} {lowered : Extern}
    (described : context.Described item type lowered) (accepted : declared.accepts type = true) :
    item.kind = declared.kind := by
  cases described <;> cases declared <;> first | rfl | contradiction

/-- A function whose type the declared type accepts has the declared signature. -/
theorem Described.signature_eq {item : Item} {type : ItemType} {lowered : Extern}
    {signature : Signature} (described : context.Described item type lowered)
    (accepted : (ItemType.func signature).accepts type = true) :
    ∃ func, item = .func func ∧ context.signature? func = some signature := by
  cases described with
  | @func func entry found =>
      have same : signature = entry.signature := of_decide_eq_true accepted
      exact ⟨func, rfl, by rw [signature?, found, same]; rfl⟩
  | memory => contradiction
  | table => contradiction
  | global => contradiction

theorem Provides.listedAs {declared : ExportDecl} {shown : String × Item}
    (provides : context.Provides inst declared shown.2) (name : shown.1 = declared.name) :
    context.ListedAs inst declared shown := by
  obtain ⟨looked, type, lowered, described, accepted⟩ := provides
  refine ⟨name, described.kind_eq accepted, ?_, looked⟩
  intro signature isFunc
  rw [isFunc] at accepted
  exact described.signature_eq accepted

namespace Holds

variable (holds : context.Holds inst made)
include holds

/-- The list of exports has what was declared, in the order of declaration. -/
theorem exports_lists :
    List.Forall₂ (fun declared shown => (context.exports inst).2.ListedAs inst declared shown)
      made.artifact.exports (context.exports inst).1 :=
  holds.exports_provides.imp fun _ _ listed => listed.2.listedAs listed.1

theorem afterLookup (name : String) : (context.lookup inst name).2.Holds inst made :=
  holds.issued (holds.sound.lookup_grows inst name).1 (context.lookup_issues inst name)

theorem afterExports : (context.exports inst).2.Holds inst made :=
  holds.issued (holds.sound.exports_grows inst).1 (context.exports_issues inst)

/-- A name is found exactly if an export with it is declared. -/
theorem lookup_eq_none_iff (name : String) :
    (context.lookup inst name).1 = none ↔
      ∀ declared ∈ made.artifact.exports, declared.name ≠ name := by
  constructor
  · rintro noItem declared member rfl
    obtain ⟨item, after, type, lowered, looked, -, -⟩ := holds.shows member
    rw [looked] at noItem
    contradiction
  · intro undeclared
    have notFound : made.artifact.export? name = none := by
      refine List.find?_eq_none.2 fun declared member sameName => ?_
      exact undeclared declared member (beq_iff_eq.1 sameName)
    have noTarget : made.target? name = none := by
      rw [InstanceEntry.target?, notFound]
      rfl
    rw [lookup_of_entry holds.entry, noTarget]

/-- A name that is not found changes nothing. -/
theorem lookup_of_undeclared {name : String}
    (undeclared : ∀ declared ∈ made.artifact.exports, declared.name ≠ name) :
    context.lookup inst name = (none, context) := by
  have noItem := (holds.lookup_eq_none_iff name).2 undeclared
  rw [lookup_of_entry holds.entry] at noItem ⊢
  split
  · rename_i target type isTarget
    have found : (made.artifact.export? name).isSome := by
      unfold InstanceEntry.target? at isTarget
      cases isDeclared : made.artifact.export? name with
      | none => simp [isDeclared] at isTarget
      | some declared => rfl
    obtain ⟨declared, isDeclared⟩ := Option.isSome_iff_exists.1 found
    have sameName := List.find?_some isDeclared
    have isExport := List.mem_of_find?_eq_some isDeclared
    exact absurd (beq_iff_eq.1 sameName) (undeclared declared isExport)
  · rfl

/-- An answer to a look-up is the answer from then on, and nothing changes. -/
theorem lookup_later {name : String} {answer : Option Item}
    (looked : context.lookup inst name = (answer, after)) (extension : Extends after later)
    (ages : after.store.Ages later.store) (holdsLater : later.Holds inst made) :
    later.lookup inst name = (answer, later) := by
  cases answer with
  | some item => exact holds.sound.lookup_again looked extension ages holdsLater.sound
  | none =>
      refine holdsLater.lookup_of_undeclared ((holds.lookup_eq_none_iff name).1 ?_)
      rw [looked]

/-- Looking a name up again gives the same answer and changes nothing. -/
theorem lookup_twice (name : String) :
    (context.lookup inst name).2.lookup inst name = context.lookup inst name := by
  have holdsAfter := holds.afterLookup name
  cases looked : context.lookup inst name with
  | mk answer after =>
      rw [looked] at holdsAfter
      exact holds.lookup_later looked (.refl _) (.refl _) holdsAfter

/-- An item that was found is in every later list of the exports. -/
theorem mem_exports_later {name : String} {item : Item}
    (looked : context.lookup inst name = (some item, context)) :
    (name, item) ∈ (context.exports inst).1 := by
  have declares : ∃ declared ∈ made.artifact.exports, declared.name = name := by
    by_contra undeclared
    have noItem := (holds.lookup_eq_none_iff name).2 fun declared member sameName =>
      undeclared ⟨declared, member, sameName⟩
    rw [looked] at noItem
    contradiction
  obtain ⟨declared, member, rfl⟩ := declares
  obtain ⟨index, isDeclared⟩ := List.getElem?_of_mem member
  obtain ⟨shown, isShown, lists⟩ := forall₂_getElem? holds.exports_lists.flip isDeclared
  have again := holds.lookup_later looked (holds.sound.exports_grows inst).1.extension
    (context.exports_issues inst).works.ages holds.afterExports
  have sameItem : some shown.2 = some item := by
    rw [lists.looked] at again
    exact congrArg Prod.fst again
  have isPair : shown = (declared.name, item) :=
    Prod.ext lists.name (Option.some.inj sameItem)
  rw [← isPair]
  exact List.mem_of_getElem? isShown

end Holds

/-- Names that are all found without a change make a list without a change. -/
theorem lookupAll_of_looked {declareds : List ExportDecl} {items : List (String × Item)}
    (all : List.Forall₂ (fun declared shown => shown.1 = declared.name ∧
      context.lookup inst declared.name = (some shown.2, context)) declareds items) :
    context.lookupAll inst (declareds.map ExportDecl.name) = (items, context) := by
  induction all with
  | nil => rfl
  | @cons declared shown declareds items head tail inductionHypothesis =>
      obtain ⟨name, looked⟩ := head
      simp only [List.map_cons, lookupAll, looked, inductionHypothesis]
      rw [← name]

/-- A list of the exports is the list from then on, and nothing changes. -/
theorem Holds.exports_later (holds : context.Holds inst made)
    (extension : Extends (context.exports inst).2 later)
    (ages : (context.exports inst).2.store.Ages later.store)
    (holdsLater : later.Holds inst made) :
    later.exports inst = ((context.exports inst).1, later) ∧
      ∀ shown ∈ (context.exports inst).1, later.lookup inst shown.1 = (some shown.2, later) := by
  have all : List.Forall₂ (fun declared shown => shown.1 = declared.name ∧
      later.lookup inst declared.name = (some shown.2, later))
      made.artifact.exports (context.exports inst).1 :=
    holds.exports_lists.imp fun declared shown listed =>
      ⟨listed.name, holds.afterExports.lookup_later listed.looked extension ages holdsLater⟩
  have isArtifact : later.artifact? inst = some made.artifact := by
    rw [artifact?, holdsLater.entry]
    rfl
  constructor
  · simp only [exports, isArtifact]
    exact lookupAll_of_looked all
  · intro shown member
    obtain ⟨index, isShown⟩ := List.getElem?_of_mem member
    obtain ⟨declared, -, name, looked⟩ := forall₂_getElem? all isShown
    rw [name]
    exact looked

/-- The functions that an instance lists for two of its exports have the same handle exactly
if the exports are the same function of the module. -/
theorem Holds.func_eq_iff (holds : context.Holds inst made) {first second : Wasm.Export}
    (firstExport : first ∈ made.artifact.module.exports)
    (secondExport : second ∈ made.artifact.module.exports) {one other : Nat}
    (firstTarget : first.target = .func one) (secondTarget : second.target = .func other)
    {firstFunc secondFunc : FuncHandle}
    (firstLooked : context.lookup inst first.name = (some (.func firstFunc), context))
    (secondLooked : context.lookup inst second.name = (some (.func secondFunc), context)) :
    firstFunc = secondFunc ↔ one = other := by
  obtain ⟨firstEntry, firstKnown, firstKey⟩ := holds.sound.lookup_func_key holds.entry
    (find?_of_nodup holds.orderly.names firstExport) firstTarget firstLooked
  obtain ⟨secondEntry, secondKnown, secondKey⟩ := holds.sound.lookup_func_key holds.entry
    (find?_of_nodup holds.orderly.names secondExport) secondTarget secondLooked
  rw [handle_eq_iff_key_eq holds.sound firstKnown secondKnown, firstKey, secondKey]
  simp

end Context

/-! ## Over a life -/

namespace Life

variable {σ : Type} {fresh : Context σ} {past : List (Stage σ × Act σ)} {stage : Stage σ}

/-- What an answer left of the context is there from then on. -/
theorem since_answered (life : Life fresh past stage) (begins : fresh.Sound)
    (tended : fresh.store.Tended) (valid : LinksValid past) {happened : Stage σ × Act σ}
    (member : happened ∈ past) {request : Request σ} {answer : request.Answer}
    {after : Context σ} (asked : happened.1.asked? happened.2 = some request)
    (answered : happened.1.context.answer request = .answered (answer, after)) :
    Context.Extends after stage.context ∧ after.store.Ages stage.context.store := by
  induction life with
  | created => contradiction
  | @acted past before next act life taken inductionHypothesis =>
      obtain ⟨now, earlier⟩ := List.forall_mem_cons.1 valid
      rcases List.mem_cons.1 member with rfl | isEarlier
      · rw [Stage.take_answered taken asked answered]
        exact ⟨.refl after, .refl after.store⟩
      · obtain ⟨extension, ages⟩ := inductionHypothesis earlier isEarlier
        exact ⟨extension.trans ((life.sound begins).take_leads taken).extension,
          ages.trans (take_tended (life.tended tended earlier) taken now).1⟩

/-- An instance was held at every earlier stage at which it was linked. -/
theorem holds_before (life : Life fresh past stage) (begins : fresh.Sound)
    (noInstances : fresh.instances = #[]) (tended : fresh.store.Tended)
    (valid : LinksValid past) {happened : Stage σ × Act σ} (member : happened ∈ past)
    {inst : InstanceHandle} {made : InstanceEntry}
    (entry : happened.1.context.instanceEntry? inst = some made) :
    happened.1.context.Holds inst made := by
  obtain ⟨later, earlier, rfl⟩ := List.append_of_mem member
  exact life.before.holds begins noInstances tended
    (fun other isEarlier => valid other (by simp [isEarlier])) entry

end Life

/-- What the exports of a linked instance are worth at a stage, after a history. -/
structure ExportsStable {σ : Type} (past : List (Stage σ × Act σ)) (stage : Stage σ)
    (inst : InstanceHandle) (made : InstanceEntry) : Prop where
  /-- The list has one item for each declared export, in the order of declaration: under its
  name, of its sort, and for a function with the declared signature.  Looking a name up
  afterwards gives its item and changes nothing. -/
  listed : List.Forall₂
    (fun declared shown => (stage.context.exports inst).2.ListedAs inst declared shown)
    made.artifact.exports (stage.context.exports inst).1
  /-- Nothing is found exactly for names that are not declared. -/
  absent_iff : ∀ name, (stage.context.lookup inst name).1 = none ↔
    ∀ declared ∈ made.artifact.exports, declared.name ≠ name
  /-- Looking a name up again gives the same answer and changes nothing. -/
  again : ∀ name,
    (stage.context.lookup inst name).2.lookup inst name = stage.context.lookup inst name
  /-- What a look-up found is listed afterwards. -/
  found : ∀ {name : String} {item : Item}, (stage.context.lookup inst name).1 = some item →
    (name, item) ∈ ((stage.context.lookup inst name).2.exports inst).1
  /-- An answer to a look-up, given to the embedder or to a closure, is the answer from then
  on, and nothing changes, whatever happened since. -/
  lookedBefore : ∀ happened ∈ past, happened.1.context.instanceEntry? inst = some made →
    ∀ name, happened.1.asked? happened.2 = some (.lookup inst name) →
      stage.context.lookup inst name =
        ((happened.1.context.lookup inst name).1, stage.context)
  /-- So it is with the list of all exports, and with each name in it. -/
  listedBefore : ∀ happened ∈ past, happened.1.context.instanceEntry? inst = some made →
    happened.1.asked? happened.2 = some (.exports inst) →
      stage.context.exports inst = ((happened.1.context.exports inst).1, stage.context) ∧
        ∀ shown ∈ (happened.1.context.exports inst).1,
          stage.context.lookup inst shown.1 = (some shown.2, stage.context)
  /-- Names of functions have the same handle exactly if they export the same function. -/
  sameFunc_iff : ∀ {first second : Wasm.Export}, first ∈ made.artifact.module.exports →
    second ∈ made.artifact.module.exports → ∀ {one other : Nat}, first.target = .func one →
      second.target = .func other → ∀ {firstFunc secondFunc : FuncHandle},
        (first.name, .func firstFunc) ∈ (stage.context.exports inst).1 →
          (second.name, .func secondFunc) ∈ (stage.context.exports inst).1 →
            (firstFunc = secondFunc ↔ one = other)

/-- In every life of a context, each linked instance lists what its artifact declares, and
gives the answers that it gave before. -/
theorem Life.exportsStable {σ : Type} {id : ContextId} {environment : Environment} {data : σ}
    {past : List (Stage σ × Act σ)} {stage : Stage σ}
    (life : Life (.create id environment data) past stage) (valid : LinksValid past)
    {inst : InstanceHandle} {made : InstanceEntry}
    (entry : stage.context.instanceEntry? inst = some made) :
    ExportsStable past stage inst made := by
  have begins := Context.create_sound id environment data
  have tended := Context.create_tended id environment data
  have holds := life.holds begins rfl tended valid entry
  refine ⟨holds.exports_lists, holds.lookup_eq_none_iff, holds.lookup_twice, ?found,
    ?lookedBefore, ?listedBefore, ?sameFunc⟩
  case found =>
    intro name item isFound
    exact (holds.afterLookup name).mem_exports_later
      ((holds.lookup_twice name).trans (Prod.ext isFound rfl))
  case lookedBefore =>
    intro happened member before name asked
    have holdsBefore := life.holds_before begins rfl tended valid member before
    obtain ⟨extension, ages⟩ := life.since_answered begins tended valid member asked rfl
    exact holdsBefore.lookup_later rfl extension ages holds
  case listedBefore =>
    intro happened member before asked
    have holdsBefore := life.holds_before begins rfl tended valid member before
    obtain ⟨extension, ages⟩ := life.since_answered begins tended valid member asked rfl
    exact holdsBefore.exports_later extension ages holds
  case sameFunc =>
    intro first second firstExport secondExport one other firstTarget secondTarget firstFunc
      secondFunc firstListed secondListed
    have again := holds.exports_later (.refl _) (.refl _) holds.afterExports
    exact holds.afterExports.func_eq_iff firstExport secondExport firstTarget secondTarget
      (again.2 _ firstListed) (again.2 _ secondListed)

/-! ## A function under two names -/

namespace Renamed

/-- A module that exports a function under two names, and a memory between them. -/
def artifact : Artifact where
  environment := ⟨0⟩
  serial := 0
  module :=
    { types := [⟨[], []⟩]
      funcs := [⟨⟨[], []⟩, [], []⟩]
      memories := [⟨⟨1, none⟩, false⟩]
      exports := [⟨"f", .func 0⟩, ⟨"m", .memory 0⟩, ⟨"again", .func 0⟩] }
  digest := []
  surface :=
    ⟨[], [⟨"f", .func .empty⟩, ⟨"m", .memory ⟨⟨1, none⟩⟩⟩, ⟨"again", .func .empty⟩]⟩
  surface_eq := rfl

theorem valid : artifact.module.Valid := ⟨⟨false, false, false⟩, rfl⟩

def fresh : Context Unit := .create ⟨0⟩ { id := ⟨0⟩, config := {} } ()

/-- The last name is looked up and a host function is made, before all exports are listed. -/
theorem lives : ∃ past context made, Life fresh past (.idle context) ∧ LinksValid past ∧
    context.instanceEntry? ⟨⟨0⟩, 0⟩ = some made ∧ made.artifact = artifact ∧
      (context.exports ⟨⟨0⟩, 0⟩).1 =
        [("f", .func ⟨⟨0⟩, 0⟩), ("m", .memory ⟨⟨0⟩, 0, none⟩), ("again", .func ⟨⟨0⟩, 0⟩)] := by
  have linked : Life fresh _ _ := Life.created.acted
    (show Stage.take _ (.link artifact []) = some _ from rfl)
  have closed := linked.acted (show Stage.take _ .close = some _ from rfl)
  have shown := closed.acted
    (show Stage.take _ (.ask (.lookup ⟨⟨0⟩, 0⟩ "again")) = some _ from rfl)
  have made := shown.acted
    (show Stage.take _ (.register .empty fun _ => .finish Slots.empty) = some _ from rfl)
  refine ⟨_, _, _, made, ?_, rfl, rfl, rfl⟩
  exact .silent (.silent (.silent (.linked .nil rfl valid) rfl) rfl) rfl

end Renamed

/-- Both names of the function are listed with the handle that it got when one of them was
looked up. -/
theorem Life.exportsStable_of_renamed : ∃ past context made,
    Life Renamed.fresh past (.idle context) ∧
      ExportsStable past (.idle context) ⟨⟨0⟩, 0⟩ made ∧ made.artifact = Renamed.artifact ∧
        (context.exports ⟨⟨0⟩, 0⟩).1 =
          [("f", .func ⟨⟨0⟩, 0⟩), ("m", .memory ⟨⟨0⟩, 0, none⟩), ("again", .func ⟨⟨0⟩, 0⟩)] := by
  obtain ⟨past, context, made, life, valid, entry, isArtifact, listed⟩ := Renamed.lives
  exact ⟨past, context, made, life, Life.exportsStable life valid entry, isArtifact, listed⟩

end WasmSandbox
