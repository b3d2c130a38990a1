import WasmSandbox.Proofs.Context.ExportLookup
import WasmSandbox.Proofs.Context.GuestCode

/-!
Contract: handles of globals, and what is at their addresses.

Owns:
- handles that hold a global: one of the context, with the type that the handle records;
- honest lives, in which handles of the context's globals are only offered after they were
  handed out: nobody can make up a handle;
- that in such a life with valid modules every handle that was handed out holds its global ever
  since, and every instance finds the globals that its module declares;
- that a global which is linked or exported is at the same address for the host and the
  instance;
- that a global which cannot be set is never written to.

The type in a handle is recorded where the handle comes from, and the engine is never asked.
A link compares the recorded type with the declared one, so that instances find what they
declare exactly as long as handles hold what they record: neither can be shown alone.

Does not own: what is in a global.
-/

namespace WasmSandbox

open Wasm

/-! ## Types of globals -/

/-- The shape of the engine's globals with a type of the boundary. -/
def GlobalType.shape (type : GlobalType) : GlobalShape := ⟨type.content.guest, type.mutable⟩

theorem GlobalType.ofGuest_eq_ok_iff (shape : GlobalShape) (type : GlobalType) :
    ofGuest shape = .ok type ↔ shape = type.shape := by
  obtain ⟨content, canBeSet⟩ := shape
  obtain ⟨kind, declared⟩ := type
  unfold ofGuest
  cases isKind : ValueKind.ofGuest? content with
  | some found =>
      have isContent := (ValueKind.ofGuest?_eq_some_iff _ _).1 isKind
      simp [GlobalType.shape, isContent, ValueKind.guest_injective.eq_iff]
  | none =>
      have notKind : content ≠ kind.guest := by
        intro same
        rw [(ValueKind.ofGuest?_eq_some_iff _ _).2 same] at isKind
        contradiction
      simp [GlobalType.shape, notKind]

/-- A type that is shown as that of a global is one of globals, of its shape. -/
theorem ItemType.eq_of_ofGuest_global {shape : ImportShape} {type : GlobalType}
    (read : ofGuest shape = .ok (.global type)) : shape = .global type.shape := by
  cases shape with
  | global declared =>
      obtain ⟨found, isFound, same⟩ := bind_eq_ok_iff.1 read
      cases same
      rw [(GlobalType.ofGuest_eq_ok_iff _ _).1 isFound]
  | _ =>
      obtain ⟨found, -, same⟩ := bind_eq_ok_iff.1 read
      cases same

/-! ## Handles that are offered -/

/-- The handle of the global that a request sets. -/
def Request.globalSet? {σ : Type} : Request σ → Option GlobalHandle
  | .setGlobal handle _ => some handle
  | _ => none

/-- The globals among the items of a link. -/
def LinkCall.globals {σ : Type} (call : LinkCall σ) : List GlobalHandle :=
  call.items.filterMap Item.global?

/-- The handles of globals that an act offers: to be set, or for an import. -/
def Stage.globalsOffered {σ : Type} (stage : Stage σ) (act : Act σ) : List GlobalHandle :=
  ((stage.asked? act).bind Request.globalSet?).toList ++
    (stage.linkBegun? act).toList.flatMap LinkCall.globals

/-- A handle of a global of the context is only offered after it was handed out. -/
def GlobalsHonest {σ : Type} : List (Stage σ × Act σ) → Prop
  | [] => True
  | (stage, act) :: earlier =>
      (∀ handle ∈ stage.globalsOffered act, handle.context = stage.context.id →
        .item (.global handle) ∈ mintedIn earlier) ∧ GlobalsHonest earlier

namespace GlobalsHonest

variable {σ : Type} {later earlier : List (Stage σ × Act σ)} {stage : Stage σ} {act : Act σ}

/-- An act that offers no global is honest. -/
theorem silent (honest : GlobalsHonest earlier) (silent : stage.globalsOffered act = []) :
    GlobalsHonest ((stage, act) :: earlier) :=
  ⟨by simp [silent], honest⟩

/-- What happened first in an honest life was honest. -/
theorem of_append (honest : GlobalsHonest (later ++ earlier)) : GlobalsHonest earlier := by
  induction later with
  | nil => exact honest
  | cons latest later inductionHypothesis => exact inductionHypothesis honest.2

end GlobalsHonest

namespace Context

variable {σ : Type} {context after : Context σ}

/-- The handle is of a global of the context, which has the recorded type. -/
def HoldsGlobal (context : Context σ) (handle : GlobalHandle) : Prop :=
  handle.context = context.id ∧ context.store.HasGlobal handle.type.shape handle.address

theorem HoldsGlobal.later {handle : GlobalHandle} (holds : context.HoldsGlobal handle)
    (extension : Extends context after) (ages : context.store.Ages after.store) :
    after.HoldsGlobal handle :=
  ⟨holds.1.trans extension.id.symm, holds.2.mono ages⟩

/-! ## Globals that are imported -/

/-- The globals that the engine gets are those of the items, in the same order. -/
theorem resolveImports_globals {artifact : Artifact} {items : List Item} {externs : List Extern}
    (resolved : context.resolveImports artifact items = .ok externs) :
    globalAddresses externs = (items.filterMap Item.global?).map GlobalHandle.address := by
  have satisfied := resolveImports_items resolved
  clear resolved
  unfold globalAddresses
  induction satisfied with
  | nil => rfl
  | cons head tail inductionHypothesis =>
      obtain ⟨declared, checked⟩ := head
      obtain ⟨-, type, isType, -⟩ := (context.checkImport_eq_ok_iff _ _ _).1 checked
      cases (context.describe_eq_ok_iff _ _ _).1 isType with
      | global handle =>
          simp only [List.filterMap_cons, Item.global?, Extern.global?, List.map_cons,
            inductionHypothesis]
      | _ => simpa only [List.filterMap_cons, Item.global?, Extern.global?]
          using inductionHypothesis

/-- A global satisfies an import of a global of its own shape, and no other import. -/
theorem global_of_checkImport {item : Import} {declared : ImportDecl}
    (shown : Surface.ofImport item = .ok declared) {provided : Item} {lowered : Extern}
    (satisfied : context.checkImport declared provided = .ok lowered) :
    (∃ handle, provided = .global handle ∧ handle.context = context.id ∧
        item.shape = .global handle.type.shape ∧ lowered = .global handle.address) ∨
      (∀ shape, item.shape ≠ .global shape) ∧ lowered.global? = none := by
  obtain ⟨own, type, isType, accepted⟩ := (context.checkImport_eq_ok_iff _ _ _).1 satisfied
  obtain ⟨-, -, read⟩ := (Surface.ofImport_eq_ok_iff _ _).1 shown
  cases (context.describe_eq_ok_iff _ _ _).1 isType with
  | global handle =>
      left
      cases declaredType : declared.type with
      | global type =>
          rw [declaredType] at read accepted
          have sameType : type = handle.type := of_decide_eq_true accepted
          exact ⟨handle, rfl, own, sameType ▸ ItemType.eq_of_ofGuest_global read, rfl⟩
      | _ =>
          rw [declaredType] at accepted
          contradiction
  | _ =>
      right
      refine ⟨?_, rfl⟩
      intro shape isGlobal
      rw [isGlobal] at read
      obtain ⟨type, declaredType⟩ := ItemType.ofGuest_global read
      rw [declaredType] at accepted
      contradiction

/-- If the globals among the items hold what they record, then the engine gets globals of the
declared shapes. -/
theorem importedGlobals_forall₂ {artifact : Artifact} {items : List Item} {externs : List Extern}
    (resolved : context.resolveImports artifact items = .ok externs)
    (holds : ∀ handle ∈ items.filterMap Item.global?, handle.context = context.id →
      context.HoldsGlobal handle) :
    List.Forall₂ context.store.HasGlobal artifact.module.importedGlobals
      (globalAddresses externs) := by
  have satisfied := resolveImports_forall₂ resolved
  have shown := artifact.imports_forall₂
  clear resolved
  unfold Module.importedGlobals globalAddresses
  generalize artifact.module.imports = imports at shown
  generalize artifact.imports = declareds at satisfied shown
  induction satisfied generalizing imports with
  | nil =>
      cases shown
      exact .nil
  | cons head tail inductionHypothesis =>
      cases shown with
      | cons shownHead shownTail =>
          have rest := inductionHypothesis _ shownTail
          obtain ⟨item, member, checked⟩ := head
          rcases global_of_checkImport shownHead checked with
            ⟨handle, rfl, own, isShape, rfl⟩ | ⟨notGlobal, noAddress⟩
          · rw [List.filterMap_cons_some (by rw [isShape]), List.filterMap_cons_some
              (show Extern.global? (.global handle.address) = some handle.address from rfl)]
            have isOffered : handle ∈ items.filterMap Item.global? :=
              List.mem_filterMap.2 ⟨_, member, rfl⟩
            exact .cons (holds handle isOffered own).2 rest
          · rw [List.filterMap_cons_none, List.filterMap_cons_none noAddress]
            · exact rest
            · split
              · rename_i shape isGlobal
                exact absurd isGlobal (notGlobal shape)
              · rfl

/-- A link of globals that hold what they record leaves instances with the globals that their
modules declare. -/
theorem engineLink_shaped (shaped : context.store.Shaped) {artifact : Artifact}
    {items : List Item} (holds : ∀ handle ∈ items.filterMap Item.global?,
      handle.context = context.id → context.HoldsGlobal handle) :
    (context.engineLink artifact items).2.store.Shaped := by
  unfold engineLink
  split
  · exact shaped
  · cases resolved : context.resolveImports artifact items with
    | error error => exact shaped
    | ok externs =>
        have made := instantiate_shaped shaped (importedGlobals_forall₂ resolved holds)
        simp only
        split <;> exact made

/-- The instance that a link makes has the globals among the items first, in their order. -/
theorem engineLink_globals {artifact : Artifact} {items : List Item} {made : InstanceEntry}
    (linked : (context.engineLink artifact items).1 = .ok made) :
    ∃ owning own, (context.engineLink artifact items).2.store.instances[made.owner]? =
        some owning ∧ owning.globals =
          ((items.filterMap Item.global?).map GlobalHandle.address ++ own).toArray := by
  unfold engineLink at linked ⊢
  split
  · rename_i foreign
    rw [if_pos foreign] at linked
    contradiction
  · rename_i own
    rw [if_neg own] at linked
    cases resolved : context.resolveImports artifact items with
    | error error =>
        rw [resolved] at linked
        contradiction
    | ok externs =>
        rw [← resolveImports_globals resolved]
        simp only [resolved] at linked ⊢
        cases result : instantiate context.store artifact.module externs with
        | mk outcome store =>
            rw [result] at linked
            cases outcome with
            | error failure => contradiction
            | ok owner =>
                cases linked
                exact instantiate_globals result

/-! ## Globals that are exported -/

/-- An instance has a global at the address of a handle, under the index of an export with a
name. -/
def ExportsGlobal (context : Context σ) (made : InstanceEntry) (name : String)
    (handle : GlobalHandle) : Prop :=
  ∃ owning item index, context.store.instances[made.owner]? = some owning ∧
    made.artifact.module.exports.find? (fun item => item.name == name) = some item ∧
      item.target = .global index ∧ owning.globals[index]? = some handle.address

theorem exportedItem_global {owner : Nat} {target : ExportTarget} {type : ItemType}
    {handle : GlobalHandle}
    (shown : context.exportedItem owner target type = (some (.global handle), after)) :
    ∃ owning index, context.store.instances[owner]? = some owning ∧ target = .global index ∧
      type = .global handle.type ∧ owning.globals[index]? = some handle.address := by
  unfold exportedItem at shown
  split at shown
  · cases shown
  · rename_i owning isOwning
    split at shown
    · rename_i index signature
      generalize context.handleOf (.guest owner index) (some signature) = out at shown
      obtain ⟨outcome, later⟩ := out
      cases outcome <;> cases shown
    · obtain ⟨address, -, same⟩ := Option.map_eq_some_iff.1 (Prod.mk.inj shown).1
      cases same
    · obtain ⟨address, -, same⟩ := Option.map_eq_some_iff.1 (Prod.mk.inj shown).1
      cases same
    · obtain ⟨address, isAddress, same⟩ := Option.map_eq_some_iff.1 (Prod.mk.inj shown).1
      cases same
      exact ⟨owning, _, isOwning, rfl, rfl, isAddress⟩
    · cases shown

/-- The handle of an exported global has the address that the instance has for it, and the
type that the artifact declares for it. -/
theorem exportsGlobal_of_lookup {inst : InstanceHandle} {name : String} {handle : GlobalHandle}
    (looked : context.lookup inst name = (some (.global handle), after)) :
    ∃ made declared, context.instanceEntry? inst = some made ∧
      made.artifact.export? name = some declared ∧ declared.type = .global handle.type ∧
        context.ExportsGlobal made name handle := by
  cases entry : context.instanceEntry? inst with
  | none => simp [lookup, entry] at looked
  | some made =>
      rw [lookup_of_entry entry] at looked
      split at looked
      · rename_i target type isTarget
        simp only [InstanceEntry.target?, Option.bind_eq_bind, Option.bind_eq_some_iff,
          Option.pure_def, Option.some.injEq, Prod.mk.injEq] at isTarget
        obtain ⟨declared, isDeclared, item, isItem, rfl, rfl⟩ := isTarget
        obtain ⟨owning, index, isOwning, isIndex, isType, isAddress⟩ := exportedItem_global looked
        exact ⟨made, declared, rfl, isDeclared, isType, owning, item, index, isOwning, isItem,
          isIndex, isAddress⟩
      · cases looked

/-- Where instances find the globals that their modules declare, the handle of an exported
global holds what it records. -/
theorem Holds.lookup_holdsGlobal {inst : InstanceHandle} {made : InstanceEntry}
    (holds : context.Holds inst made) (shaped : context.store.Shaped) {name : String}
    {handle : GlobalHandle}
    (looked : context.lookup inst name = (some (.global handle), after)) :
    context.HoldsGlobal handle := by
  obtain ⟨_, declared, entry, isDeclared, isType, owning, item, index, isOwning, isItem, isIndex,
    isAddress⟩ := exportsGlobal_of_lookup looked
  obtain rfl := Option.some.inj (entry.symm.trans holds.entry)
  have isNamed := List.find?_some isDeclared
  have sameName : declared.name = name := beq_iff_eq.1 isNamed
  obtain ⟨-, other, shape, isOther, isShape, read⟩ :=
    Artifact.export_found holds.orderly (List.mem_of_find?_eq_some isDeclared)
  rw [sameName, isItem, Option.some.injEq] at isOther
  rw [← isOther, isIndex] at isShape
  obtain ⟨declaredShape, hasShape, rfl⟩ := Option.map_eq_some_iff.1 isShape
  rw [isType] at read
  have sameShape : declaredShape = handle.type.shape :=
    ImportShape.global.inj (ItemType.eq_of_ofGuest_global read)
  obtain ⟨_, alsoOwning, isModule⟩ := holds.owning
  obtain rfl := Option.some.inj (isOwning.symm.trans alsoOwning)
  obtain ⟨found, isFound, has⟩ :=
    (shaped owning (Array.mem_of_getElem? isOwning)).getElem? isAddress
  rw [isModule, hasShape, Option.some.injEq] at isFound
  rw [← isFound, sameShape] at has
  exact ⟨lookup_context (congrArg Prod.fst looked), has⟩

/-! ## Handles that are handed out -/

theorem createGlobal_holds {type : GlobalType} {value : Val} {handle : GlobalHandle}
    (made : context.createGlobal type value = .ok (handle, after)) :
    after.HoldsGlobal handle := by
  obtain ⟨-, -, content, -, same⟩ := createGlobal_eq_ok_iff.1 made
  cases same
  exact ⟨rfl, _, Array.getElem?_push_size, rfl⟩

/-- The handle of a global in an answer holds what it records. -/
theorem answerMints_holdsGlobal (shaped : context.store.Shaped)
    (linked : ∀ inst made, context.instanceEntry? inst = some made → context.Holds inst made)
    {request : Request σ} {answer : request.Answer}
    (answered : context.answer request = .answered (answer, after)) {handle : GlobalHandle}
    (member : .item (.global handle) ∈ request.mints answer) : after.HoldsGlobal handle := by
  cases request
  case createMemory type =>
    obtain ⟨memory, -, same⟩ := List.mem_map.1 member
    cases same
  case createGlobal type value =>
    cases answer with
    | error error => contradiction
    | ok global =>
        cases List.mem_singleton.1 member
        exact createGlobal_holds (changed_eq_ok (Outcome.answered.inj answered))
  case getGlobal global =>
    obtain ⟨func, -, same⟩ := List.mem_map.1 member
    cases same
  case lookup inst name =>
    obtain ⟨shown, isShown, same⟩ := List.mem_map.1 member
    cases same
    have looked : context.lookup inst name = (answer, after) := Outcome.answered.inj answered
    rw [Option.mem_toList.1 isShown] at looked
    obtain ⟨made, -, entry, -⟩ := exportsGlobal_of_lookup looked
    have holds := linked inst made entry
    have grows := (holds.sound.lookup_grows inst name).1
    have issues := context.lookup_issues inst name
    rw [looked] at grows issues
    exact (holds.lookup_holdsGlobal shaped looked).later grows.extension issues.works.ages
  case exports inst =>
    obtain ⟨⟨name, item⟩, isShown, same⟩ := List.mem_map.1 member
    cases same
    have listed : context.exports inst = (answer, after) := Outcome.answered.inj answered
    cases entry : context.instanceEntry? inst with
    | none =>
        simp only [exports, artifact?, entry, Option.map_none] at listed
        cases listed
        contradiction
    | some made =>
        have holds := linked inst made entry
        have provides := holds.exports_provides
        have works := (context.exports_issues inst).works
        have holdsAfter := holds.issued (holds.sound.exports_grows inst).1
          (context.exports_issues inst)
        rw [listed] at provides works holdsAfter
        obtain ⟨index, isIndex⟩ := List.getElem?_of_mem isShown
        obtain ⟨declared, -, -, provided⟩ := forall₂_getElem? provides isIndex
        exact holdsAfter.lookup_holdsGlobal (works.shaped shaped) provided.looked
  all_goals contradiction

end Context

namespace Stage

variable {σ : Type} {stage after : Stage σ} {act : Act σ}

/-- The handle of a global is only handed out with an answer. -/
theorem asked_of_mints {handle : GlobalHandle} (member : .item (.global handle) ∈ stage.mints act) :
    ∃ request, stage.asked? act = some request ∧
      .item (.global handle) ∈ stage.context.answerMints request := by
  have noFunc (funcs : List FuncHandle) :
      .item (.global handle) ∉ funcs.map fun func => Handle.item (.func func) := by
    simp
  obtain ⟨context, running⟩ := stage
  cases running with
  | none =>
      cases act with
      | ask request => exact ⟨request, rfl, member⟩
      | register signature body => exact absurd member (noFunc [_])
      | link artifact items => exact absurd member Context.linkMints_not_item
      | _ => contradiction
  | some state =>
      cases act with
      | step =>
          cases state with
          | invoking body args cont => exact absurd member (noFunc _)
          | closure proc cont =>
              cases proc with
              | ask request next => exact ⟨request, rfl, member⟩
              | register signature body next => exact absurd member (noFunc [_])
              | link artifact items next => exact absurd member Context.linkMints_not_item
              | _ => contradiction
          | leaving func signature result wait =>
              cases result with
              | ok values => exact absurd member (noFunc _)
              | error error => contradiction
          | returning values cont =>
              cases cont with
              | starting made wait => cases List.mem_singleton.1 member
              | _ => contradiction
          | _ => contradiction
      | _ => contradiction

theorem mints_holdsGlobal (shaped : stage.context.store.Shaped)
    (linked : ∀ inst made, stage.context.instanceEntry? inst = some made →
      stage.context.Holds inst made)
    (taken : stage.take act = some after) {handle : GlobalHandle}
    (member : .item (.global handle) ∈ stage.mints act) : after.context.HoldsGlobal handle := by
  obtain ⟨request, asked, member⟩ := asked_of_mints member
  unfold Context.answerMints at member
  split at member
  · rename_i answer later answered
    rw [take_answered taken asked answered]
    exact Context.answerMints_holdsGlobal shaped linked answered member
  · contradiction

/-- If the globals that it offers hold what they record, then an act leaves instances with the
globals that their modules declare. -/
theorem take_shaped (shaped : stage.context.store.Shaped)
    (holds : ∀ handle ∈ stage.globalsOffered act, handle.context = stage.context.id →
      stage.context.HoldsGlobal handle)
    (taken : stage.take act = some after) : after.context.store.Shaped := by
  have moves := take_moves taken
  have linked (call : LinkCall σ) (begun : stage.linkBegun? act = some call) :
      ∀ handle ∈ call.globals, handle.context = stage.context.id →
        stage.context.HoldsGlobal handle := by
    intro handle member
    refine holds handle (List.mem_append_right _ ?_)
    rw [begun]
    simpa using member
  generalize stage.linkBegun? act = begun at moves linked
  generalize after.context.store = store at moves ⊢
  cases moves with
  | works works => exact works.shaped shaped
  | links call => exact Context.engineLink_shaped shaped (linked call rfl)

end Stage

/-! ## Over a life -/

namespace Life

variable {σ : Type} {id : ContextId} {environment : Environment} {data : σ}
  {past : List (Stage σ × Act σ)} {stage : Stage σ}

/-- At every stage of an honest life instances find the globals that their modules declare,
and handles that were handed out hold what they record. -/
theorem globals_held (life : Life (.create id environment data) past stage)
    (valid : LinksValid past) (honest : GlobalsHonest past) :
    stage.context.store.Shaped ∧ ∀ handle, .item (.global handle) ∈ mintedIn past →
      stage.context.HoldsGlobal handle := by
  have begins := Context.create_sound id environment data
  have freshTended := Context.create_tended id environment data
  induction life with
  | created =>
      refine ⟨?_, by simp [mintedIn]⟩
      intro owning member
      simp [Stage.idle, Context.create] at member
  | @acted earlier before after act life taken inductionHypothesis =>
      obtain ⟨now, validEarlier⟩ := List.forall_mem_cons.1 valid
      obtain ⟨offers, honestEarlier⟩ := honest
      obtain ⟨shaped, held⟩ := inductionHypothesis validEarlier honestEarlier
      refine ⟨?_, ?_⟩
      · exact Stage.take_shaped shaped
          (fun handle member own => held handle (offers handle member own)) taken
      · intro handle member
        rw [mintedIn, List.flatMap_cons, List.mem_append] at member
        rcases member with latest | minted
        · exact Stage.mints_holdsGlobal shaped
            (fun inst made entry => life.holds begins rfl freshTended validEarlier entry)
            taken latest
        · have extension := ((life.sound begins).take_leads taken).extension
          have ages := (take_tended (life.tended freshTended validEarlier) taken now).1
          exact (held handle minted).later extension ages

/-- A handle that is offered in an honest life holds its global. -/
theorem offered_holds {later earlier : List (Stage σ × Act σ)} {happened : Stage σ × Act σ}
    (life : Life (.create id environment data) (later ++ happened :: earlier) stage)
    (valid : LinksValid (later ++ happened :: earlier))
    (honest : GlobalsHonest (later ++ happened :: earlier)) {handle : GlobalHandle}
    (offered : handle ∈ happened.1.globalsOffered happened.2)
    (own : handle.context = happened.1.context.id) : happened.1.context.HoldsGlobal handle := by
  obtain ⟨offers, honestEarlier⟩ := honest.of_append
  have validEarlier : LinksValid earlier := fun other member => valid other (by simp [member])
  exact (life.before.globals_held validEarlier honestEarlier).2 handle
    (offers handle offered own)

/-- The instance of every link that began has the globals among the items first, in their
order. -/
theorem globals_of_begun (life : Life (.create id environment data) past stage)
    (valid : LinksValid past) {happened : Stage σ × Act σ} (member : happened ∈ past)
    {call : LinkCall σ} (begun : happened.1.linkBegun? happened.2 = some call)
    {made : InstanceEntry}
    (engine : (happened.1.context.engineLink call.artifact call.items).1 = .ok made) :
    ∃ owning own, stage.context.store.instances[made.owner]? = some owning ∧
      owning.globals = (call.globals.map GlobalHandle.address ++ own).toArray := by
  induction life with
  | created => contradiction
  | @acted past before after act life taken inductionHypothesis =>
      obtain ⟨now, validEarlier⟩ := List.forall_mem_cons.1 valid
      rcases List.mem_cons.1 member with rfl | earlier
      · have moves := Stage.take_moves taken
        rw [begun] at moves
        generalize after.context.store = store at moves ⊢
        cases moves
        exact Context.engineLink_globals engine
      · obtain ⟨owning, own, isOwning, globals⟩ := inductionHypothesis validEarlier earlier
        have tended := life.tended (Context.create_tended id environment data) validEarlier
        obtain ⟨later, isLater, aged⟩ :=
          (take_tended tended taken now).1.instances made.owner owning isOwning
        exact ⟨later, own, isLater, aged.globals.trans globals⟩

/-- The instance has each of them where it was given. -/
theorem global_of_import (life : Life (.create id environment data) past stage)
    (valid : LinksValid past) {happened : Stage σ × Act σ} (member : happened ∈ past)
    {call : LinkCall σ} (begun : happened.1.linkBegun? happened.2 = some call)
    {made : InstanceEntry}
    (engine : (happened.1.context.engineLink call.artifact call.items).1 = .ok made)
    {index : Nat} {handle : GlobalHandle} (given : call.globals[index]? = some handle) :
    ∃ owning, stage.context.store.instances[made.owner]? = some owning ∧
      owning.globals[index]? = some handle.address := by
  obtain ⟨owning, own, isOwning, globals⟩ := life.globals_of_begun valid member begun engine
  refine ⟨owning, isOwning, ?_⟩
  have isAddress : (call.globals.map GlobalHandle.address)[index]? = some handle.address := by
    rw [List.getElem?_map, given, Option.map_some]
  rw [globals, List.getElem?_toArray,
    List.getElem?_append_left (List.getElem?_eq_some_iff.1 isAddress).1, isAddress]

/-! ## Globals that cannot be set -/

/-- Every write is to a mutable global. -/
theorem write_mutable (life : Life (.create id environment data) past stage)
    (valid : LinksValid past) {act : Act σ} (honest : GlobalsHonest ((stage, act) :: past))
    {write : GlobalWrite} (writes : stage.write? act = some write) :
    ∃ shape, stage.context.store.HasGlobal shape write.address ∧ shape.mutable = true := by
  obtain ⟨offers, honestEarlier⟩ := honest
  obtain ⟨shaped, held⟩ := life.globals_held valid honestEarlier
  rcases Stage.write?_eq_some writes with
    ⟨handle, value, after, asked, set, isAddress⟩ | ⟨activation, cont, running, writes⟩
  · obtain ⟨own, -, canBeSet, -⟩ := Context.setGlobal_eq_ok_iff.1 set
    have offered : handle ∈ stage.globalsOffered act := by
      refine List.mem_append_left _ ?_
      rw [asked]
      exact List.mem_singleton_self _
    rw [isAddress]
    exact ⟨handle.type.shape, (held handle (offers handle offered own)).2, canBeSet⟩
  · have sets := life.setsMutable (Context.create_sound id environment data) rfl valid
    obtain ⟨context, _⟩ := stage
    cases running
    exact sets.write_mutable shaped writes

theorem writes_mutable (life : Life (.create id environment data) past stage)
    (valid : LinksValid past) (honest : GlobalsHonest past) :
    ∀ happened ∈ past, ∀ write, happened.1.write? happened.2 = some write →
      ∃ shape, happened.1.context.store.HasGlobal shape write.address ∧
        shape.mutable = true := by
  induction life with
  | created => simp
  | acted life taken inductionHypothesis =>
      have validEarlier := (List.forall_mem_cons.1 valid).2
      refine List.forall_mem_cons.2 ⟨?_, inductionHypothesis validEarlier honest.2⟩
      intro write writes
      exact life.write_mutable validEarlier honest writes

/-- A global that cannot be set is never written to. -/
theorem lastWritten_of_immutable (life : Life (.create id environment data) past stage)
    (valid : LinksValid past) (honest : GlobalsHonest past) {handle : GlobalHandle}
    (held : stage.context.HoldsGlobal handle) (cannotBeSet : handle.type.mutable = false)
    {part : List (Stage σ × Act σ)} (isPart : part ⊆ past) :
    lastWritten part handle.address = none := by
  refine List.findSome?_eq_none_iff.2 fun happened member => ?_
  cases writes : happened.1.write? happened.2 with
  | none => rfl
  | some write =>
      refine if_neg fun sameAddress => ?_
      -- The global that was written to is mutable, and keeps its shape.
      obtain ⟨shape, has, canBeSet⟩ :=
        life.writes_mutable valid honest happened (isPart member) write writes
      have ages := life.ages_of_mem (Context.create_tended id environment data) valid happened
        (isPart member)
      rw [sameAddress] at has
      rw [(has.mono ages).unique held.2] at canBeSet
      exact absurd canBeSet (by simp [GlobalType.shape, cannotBeSet])

end Life

end WasmSandbox
