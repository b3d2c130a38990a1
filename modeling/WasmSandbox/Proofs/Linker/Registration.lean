import WasmSandbox.Proofs.Context.ExportLookup
import WasmSandbox.Proofs.Linker.Definitions

/-!
Contract: the exports of an instance as definitions of a linker.

Owns:
- what becomes of a linker that is to define the exports of an instance: how far it gets,
  and what is left of the attempt if one of them is refused;
- that an instance of the context has each of its declared exports defined, if none is
  refused, and that nothing else changes.

Exports are defined one by one, and a refused one is only found when its turn comes.  What
was defined before it stays defined.  The list of exports says nothing of where it comes
from: it is empty for an instance without exports, and for a handle that stands for no
instance of the context.

Does not own: definitions of single items.
-/

namespace WasmSandbox

open Wasm

namespace Linker

variable {linker : Linker} {module : String}

/-! ## How far a linker gets -/

/-- What becomes of a linker that is to define items in order under one module name. -/
structure DefinesInOrder (linker : Linker) (module : String) (items : List (String × Item))
    (failure : Option LinkError) (after : Linker) : Prop where
  /-- The setting for shadowing stays. -/
  setting : after.allowShadowing = linker.allowShadowing
  /-- There is a failure exactly if shadowing is off, and a name is given twice or is
  defined already. -/
  fails_iff : failure.isSome = true ↔ linker.allowShadowing = false ∧
    ¬((items.map Prod.fst).Nodup ∧ ∀ name ∈ items.map Prod.fst, linker.get? module name = none)
  /-- A failure is about the first item whose name is defined when its turn comes.  The items
  before it are defined, and every other pair stands for what it stood for. -/
  stopped : ∀ error, failure = some error → ∃ accepted name item rest,
    items = accepted ++ (name, item) :: rest ∧ error = .duplicate module name ∧
      (after.get? module name).isSome = true ∧
      (∀ entry ∈ accepted,
        linker.get? module entry.1 = none ∧ after.get? module entry.1 = some entry.2) ∧
      ∀ other otherName, (other = module → otherName ∉ accepted.map Prod.fst) →
        after.get? other otherName = linker.get? other otherName
  /-- A failure leaves the definitions as they were exactly if it is about the first item. -/
  untouched_iff : ∀ error, failure = some error →
    (after.definitions = linker.definitions ↔
      ∃ first ∈ items.head?, (linker.get? module first.1).isSome = true)
  /-- After a failure the same items are refused at once, and nothing changes any more. -/
  again : ∀ error, failure = some error → ∃ first ∈ items.head?,
    after.defineAll module items = (some (.duplicate module first.1), after)

section

variable {accepted : List (String × Item)} {name : String}

/-- Only a linker that does not allow shadowing refuses a definition. -/
theorem strict_of_refuses (refuses : ¬(linker.putAll module accepted).Accepts module name) :
    linker.allowShadowing = false ∧
      ((linker.putAll module accepted).get? module name).isSome = true := by
  have strict := not_accepts_iff.1 refuses
  rwa [putAll_allowShadowing] at strict

theorem not_acceptsAll_of_refuses (item : Item) (rest : List (String × Item))
    (refuses : ¬(linker.putAll module accepted).Accepts module name) :
    ¬linker.AcceptsAll module ((accepted ++ (name, item) :: rest).map Prod.fst) := by
  obtain ⟨strict, taken⟩ := strict_of_refuses refuses
  rintro (allowed | ⟨distinct, free⟩)
  · rw [strict] at allowed
    contradiction
  · rw [List.map_append, List.map_cons] at distinct free
    have notBefore : name ∉ accepted.map Prod.fst := fun member =>
      (List.nodup_append.1 distinct).2.2 name member name (List.mem_cons_self ..) rfl
    rw [get?_putAll_of_apart fun _ => notBefore, free name (by simp)] at taken
    contradiction

/-- The definitions stay only if there was none to make before the refused one. -/
theorem definitions_putAll_eq_iff :
    (linker.putAll module accepted).definitions = linker.definitions ↔ accepted = [] := by
  constructor
  · intro same
    have longer := length_putAll linker module accepted
    rw [same] at longer
    exact List.length_eq_zero_iff.1 (by omega)
  · rintro rfl
    rfl

end

theorem defineAll_inOrder (linker : Linker) (module : String) (items : List (String × Item)) :
    linker.DefinesInOrder module items (linker.defineAll module items).1
      (linker.defineAll module items).2 := by
  have progress := defineAll_progress linker module items
  generalize linker.defineAll module items = result at progress
  cases progress with
  | complete _ accepts =>
      have fits := mt not_acceptsAll_iff.2 (not_not_intro accepts)
      exact ⟨putAll_allowShadowing, by simpa using fits, by simp, by simp, by simp⟩
  | stopped accepted name item rest accepts refuses =>
      obtain ⟨strict, taken⟩ := strict_of_refuses refuses
      have misfit := not_acceptsAll_iff.1 (not_acceptsAll_of_refuses item rest refuses)
      have freshAll : (accepted.map Prod.fst).Nodup ∧
          ∀ name ∈ accepted.map Prod.fst, linker.get? module name = none :=
        accepts.resolve_left (by simp [strict])
      refine ⟨putAll_allowShadowing, by simpa using misfit, ?extent, ?untouched, ?again⟩
      case extent =>
        rintro error ⟨rfl⟩
        refine ⟨accepted, name, item, rest, rfl, rfl, taken, fun entry member => ⟨?_, ?_⟩,
          fun other otherName apart => get?_putAll_of_apart apart⟩
        · exact freshAll.2 entry.1 (List.mem_map_of_mem member)
        · exact get?_putAll_of_mem freshAll.1 member
      case untouched =>
        rintro error ⟨rfl⟩
        rw [definitions_putAll_eq_iff]
        cases accepted with
        | nil =>
            have isTaken : (linker.get? module name).isSome = true := taken
            simp [isTaken]
        | cons first others =>
            have free := freshAll.2 first.1 (by simp)
            simp [free]
      case again =>
        rintro error ⟨rfl⟩
        cases accepted with
        | nil => exact ⟨(name, item), rfl, defineAll_of_not_accepts refuses item rest⟩
        | cons first others =>
            have isFirst : (linker.putAll module (first :: others)).get? module first.1 =
                some first.2 := get?_putAll_of_mem freshAll.1 (List.mem_cons_self ..)
            refine ⟨first, rfl, defineAll_of_not_accepts (not_accepts_iff.2 ⟨?_, ?_⟩) _ _⟩
            · exact putAll_allowShadowing.trans strict
            · rw [isFirst]
              rfl

/-- The exports of an instance are defined in their order, for every linker and in every
context. -/
theorem defineInstance_inOrder {σ : Type} (linker : Linker) (context : Context σ)
    (module : String) (inst : InstanceHandle) :
    linker.DefinesInOrder module (context.exports inst).1
      (linker.defineInstance context module inst).1.1
      (linker.defineInstance context module inst).1.2 :=
  linker.defineAll_inOrder module (context.exports inst).1

end Linker

/-! ## Every declared export -/

/-- What becomes of a linker that is to define the exports of what a handle stands for. -/
structure RegistersExports {σ : Type} (linker : Linker) (context : Context σ) (module : String)
    (inst : InstanceHandle) : Prop where
  /-- After a success each declared export is defined as the item that the instance provides
  for it, and every other pair stands for what it stood for. -/
  defined : ∀ made after later, context.instanceEntry? inst = some made →
    linker.defineInstance context module inst = ((none, after), later) →
      (∀ declared ∈ made.artifact.exports, ∃ item,
        after.get? module declared.name = some item ∧ later.Provides inst declared item) ∧
      ∀ other name, (other = module → name ∉ made.artifact.exports.map ExportDecl.name) →
        after.get? other name = linker.get? other name
  /-- There is a success exactly if shadowing is allowed or no declared name is defined. -/
  succeeds_iff : ∀ made, context.instanceEntry? inst = some made →
    ((linker.defineInstance context module inst).1.1 = none ↔ linker.allowShadowing = true ∨
      ∀ declared ∈ made.artifact.exports, linker.get? module declared.name = none)
  /-- Nothing is defined, with success, for a handle that stands for no instance of the
  context. -/
  absent : context.instanceEntry? inst = none →
    linker.defineInstance context module inst = ((none, linker), context)

namespace Linker

variable {linker : Linker} {module : String}

theorem defineAll_eq_none_iff (linker : Linker) (module : String) (items : List (String × Item)) :
    (linker.defineAll module items).1 = none ↔
      linker.AcceptsAll module (items.map Prod.fst) := by
  have fails := (linker.defineAll_inOrder module items).fails_iff
  rw [← not_acceptsAll_iff, Option.isSome_iff_ne_none] at fails
  exact not_iff_not.1 fails

/-- Without a failure all items are defined. -/
theorem defineAll_eq_putAll {items : List (String × Item)}
    (accepts : linker.AcceptsAll module (items.map Prod.fst)) :
    linker.defineAll module items = (none, linker.putAll module items) := by
  have none := (linker.defineAll_eq_none_iff module items).2 accepts
  have progress := linker.defineAll_progress module items
  generalize linker.defineAll module items = result at none progress
  cases progress with
  | complete => rfl
  | stopped => contradiction

variable {σ : Type} {context : Context σ} {inst : InstanceHandle}

/-- A handle that stands for nothing shows no exports. -/
theorem defineInstance_of_absent (absent : context.instanceEntry? inst = none) :
    linker.defineInstance context module inst = ((none, linker), context) := by
  simp only [defineInstance, Context.exports, Context.artifact?, absent, Option.map_none, defineAll]

/-- An instance of the context has its exports defined as what it provides. -/
theorem defineInstance_provides {made : InstanceEntry} (holds : context.Holds inst made)
    {after : Linker} {later : Context σ}
    (registered : linker.defineInstance context module inst = ((none, after), later)) :
    (∀ declared ∈ made.artifact.exports, ∃ item,
        after.get? module declared.name = some item ∧ later.Provides inst declared item) ∧
      ∀ other name, (other = module → name ∉ made.artifact.exports.map ExportDecl.name) →
        after.get? other name = linker.get? other name := by
  have names := holds.exports_names
  have distinct := holds.exports_nodup
  have provided := holds.exports_provides
  rw [defineInstance] at registered
  generalize context.exports inst = listed at names distinct provided registered
  obtain ⟨items, last⟩ := listed
  obtain ⟨rfl, done⟩ : last = later ∧ linker.defineAll module items = (none, after) := by
    simpa [and_comm] using registered
  have accepts := (linker.defineAll_eq_none_iff module items).1 (congrArg Prod.fst done)
  rw [defineAll_eq_putAll accepts] at done
  obtain rfl : linker.putAll module items = after := congrArg Prod.snd done
  constructor
  · intro declared member
    obtain ⟨index, isDeclared⟩ := List.getElem?_of_mem member
    obtain ⟨shown, isShown, sameName, provides⟩ :=
      Context.forall₂_getElem? provided.flip isDeclared
    refine ⟨shown.2, ?_, provides⟩
    rw [← sameName]
    exact get?_putAll_of_mem distinct (List.mem_of_getElem? isShown)
  · intro other name apart
    rw [← names] at apart
    exact get?_putAll_of_apart apart

theorem defineInstance_eq_none_iff {made : InstanceEntry} (holds : context.Holds inst made) :
    (linker.defineInstance context module inst).1.1 = none ↔ linker.allowShadowing = true ∨
      ∀ declared ∈ made.artifact.exports, linker.get? module declared.name = none := by
  have accepts := linker.defineAll_eq_none_iff module (context.exports inst).1
  rw [AcceptsAll, and_iff_right holds.exports_nodup, holds.exports_names] at accepts
  rw [defineInstance]
  simpa using accepts

end Linker

/-- In every life of a context, every linker that defines an instance defines all of its
declared exports, or fails; and a handle that stands for no instance is passed over. -/
theorem Life.registersExports {σ : Type} {id : ContextId} {environment : Environment} {data : σ}
    {past : List (Stage σ × Act σ)} {stage : Stage σ}
    (life : Life (.create id environment data) past stage) (valid : LinksValid past)
    (linker : Linker) (module : String) (inst : InstanceHandle) :
    RegistersExports linker stage.context module inst := by
  have begins := Context.create_sound id environment data
  have tended := Context.create_tended id environment data
  refine ⟨?defined, ?succeeds, Linker.defineInstance_of_absent⟩
  case defined =>
    intro made after later entry registered
    exact Linker.defineInstance_provides (life.holds begins rfl tended valid entry) registered
  case succeeds =>
    intro made entry
    exact Linker.defineInstance_eq_none_iff (life.holds begins rfl tended valid entry)

/-! ## A memory with two names -/

namespace NamedTwice

/-- A module that exports its memory under two names. -/
def artifact : Artifact where
  environment := ⟨0⟩
  serial := 0
  module :=
    { memories := [⟨⟨1, none⟩, false⟩]
      exports := [⟨"a", .memory 0⟩, ⟨"b", .memory 0⟩] }
  digest := []
  surface := ⟨[], [⟨"a", .memory ⟨⟨1, none⟩⟩⟩, ⟨"b", .memory ⟨⟨1, none⟩⟩⟩]⟩
  surface_eq := rfl

theorem artifact_valid : artifact.module.Valid := ⟨⟨false, false, false⟩, rfl⟩

/-- A context with the given number in the environment of the module. -/
def fresh (number : Nat) : Context Unit := .create ⟨number⟩ { id := ⟨0⟩, config := {} } ()

/-- The module is linked. -/
def linked : Context Unit := ((fresh 0).beginLink artifact [] .embedder).1

def memory : MemoryHandle := ⟨⟨0⟩, 0, none⟩

theorem lives : ∃ past, Life (fresh 0) past (.idle linked) ∧ LinksValid past := by
  have begun : Life (fresh 0) _ _ := Life.created.acted
    (show Stage.take _ (.link artifact []) = some _ from rfl)
  have closed := begun.acted (show Stage.take _ .close = some _ from rfl)
  exact ⟨_, closed, .silent (.linked .nil rfl artifact_valid) rfl⟩

end NamedTwice

/-- An error may leave definitions behind: the first name is free, and the second is not. -/
theorem Linker.not_defineInstance_atomic :
    ¬∀ (past : List (Stage Unit × Act Unit)) (context later : Context Unit)
      (linker after : Linker) (module : String) (inst : InstanceHandle) (error : LinkError),
      Life (NamedTwice.fresh 0) past (.idle context) → LinksValid past →
        linker.defineInstance context module inst = ((some error, after), later) →
          after.definitions = linker.definitions := by
  intro atomic
  obtain ⟨past, life, valid⟩ := NamedTwice.lives
  have stays := atomic past NamedTwice.linked NamedTwice.linked
    (({} : Linker).put "lib" "b" (.memory NamedTwice.memory)) _ "lib" ⟨⟨0⟩, 0⟩ _ life valid rfl
  have longer := congrArg List.length stays
  contradiction

/-- Both names of the memory are defined. -/
theorem Life.registersExports_of_namedTwice : ∃ past made,
    Life (NamedTwice.fresh 0) past (.idle NamedTwice.linked) ∧ LinksValid past ∧
      NamedTwice.linked.instanceEntry? ⟨⟨0⟩, 0⟩ = some made ∧
        RegistersExports {} NamedTwice.linked "lib" ⟨⟨0⟩, 0⟩ ∧
          (({} : Linker).defineInstance NamedTwice.linked "lib" ⟨⟨0⟩, 0⟩).1.2.get? "lib" "b" =
            some (.memory NamedTwice.memory) := by
  obtain ⟨past, life, valid⟩ := NamedTwice.lives
  exact ⟨past, _, life, valid, rfl, Life.registersExports life valid {} "lib" ⟨⟨0⟩, 0⟩, rfl⟩

/-- Success does not tell that exports are defined: an instance of another context has none
here. -/
theorem Life.not_registered_of_success :
    ¬∀ (ownPast otherPast : List (Stage Unit × Act Unit)) (own other later : Context Unit)
      (linker after : Linker) (module : String) (inst : InstanceHandle) (made : InstanceEntry),
      Life (NamedTwice.fresh 0) ownPast (.idle own) → LinksValid ownPast →
        Life (NamedTwice.fresh 1) otherPast (.idle other) → LinksValid otherPast →
          own.instanceEntry? inst = some made →
            linker.defineInstance other module inst = ((none, after), later) →
              ∀ declared ∈ made.artifact.exports,
                (after.get? module declared.name).isSome = true := by
  intro registered
  obtain ⟨past, life, valid⟩ := NamedTwice.lives
  have isDefined := registered past [] NamedTwice.linked (NamedTwice.fresh 1) _ {} _ "lib"
    ⟨⟨0⟩, 0⟩ _ life valid .created .nil rfl rfl ⟨"a", .memory ⟨⟨1, none⟩⟩⟩ (List.mem_cons_self ..)
  contradiction

end WasmSandbox
