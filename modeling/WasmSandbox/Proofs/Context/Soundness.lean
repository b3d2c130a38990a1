import WasmSandbox.Context.Access
import WasmSandbox.Context.Linking
import WasmSandbox.Proofs.Boundary.Shown
import WasmSandbox.Proofs.Context.Table
import WasmSandbox.Proofs.Engine.Instances

/-!
Contract: what holds of every context, and what never gets lost.

Owns:
- sound contexts: the directions of the function table are inverse, every entry has
  the signature of its function's type, every linked instance has the functions of its
  artifact, and what the engine imported for a function has the type of that function;
- contexts of which one comes after the other: identity and configuration stay, and
  entries, instances and what the engine has are only added to;
- that every operation of a context is a growth of this kind, and keeps it sound.

Does not own: calls and runs.
-/

namespace WasmSandbox

open Wasm

/-- The function that a value refers to. -/
def Val.target? : Val → Option FuncHandle
  | .funcRef target => target
  | _ => none

/-! ## Functions that come out of the engine -/

namespace Wasm.Store

variable {H : Type}

/-- What each imported function of an instance stands for has the type under which the
instance imports it. -/
def ImportsTyped (store : Store H) : Prop :=
  ∀ (owner index : Nat) (code : Code) (key : FuncKey), store.code? owner = some code →
    code.imports[index]? = some key →
      ∃ type, code.types[index]? = some type ∧ store.funcType? key = some type

/-- The engine has the functions of an artifact under the number of an instance. -/
def Hosts (store : Store H) (made : InstanceEntry) : Prop :=
  ∃ code, store.code? made.owner = some code ∧
    code.types = made.artifact.module.funcTypes.toArray

theorem Hosts.mono {before after : Store H} {made : InstanceEntry} (hosts : before.Hosts made)
    (extension : Extends before after) : after.Hosts made := by
  obtain ⟨code, found, types⟩ := hosts
  exact ⟨code, extension.code found, types⟩

theorem ImportsTyped.mono {before after : Store H} (imports : before.ImportsTyped)
    (extension : Extends before after)
    (noneNew : ∀ {owner : Nat} {code : Code},
      after.code? owner = some code → before.code? owner = some code) :
    after.ImportsTyped := by
  intro owner index code key found imported
  obtain ⟨type, declared, typed⟩ := imports _ _ _ _ (noneNew found) imported
  exact ⟨type, declared, extension.funcType?_eq_some typed⟩

/-- What an imported function stands for has its type. -/
theorem ImportsTyped.funcType?_resolve {store : Store H} (imports : store.ImportsTyped)
    {key : FuncKey} {type : FuncType} (typed : store.funcType? key = some type) :
    store.funcType? (store.resolve key) = some type := by
  cases key with
  | host number => exact typed
  | guest owner index =>
      rw [resolve_guest]
      cases imported : (store.code? owner).bind (·.imports[index]?) with
      | none => exact typed
      | some key =>
          obtain ⟨code, found, position⟩ := Option.bind_eq_some_iff.1 imported
          obtain ⟨declared, declaredType, keyType⟩ := imports _ _ _ _ found position
          rw [funcType?_guest, found, Option.bind_some, declaredType] at typed
          rw [← typed]
          exact keyType

/-- What a reference is outside of the engine: what it was, or a new host function. -/
inductive Emerged (store : Store H) (origin : FuncKey) : FuncKey → Store H → Prop where
  | lasting : Emerged store origin origin store
  | renewed {number : Nat} {func : HostFunc H} (isHost : origin = .host number)
      (found : store.hosts[number]? = some func)
      (passing : store.isAdapted func.signature = false) :
      Emerged store origin (.host store.hosts.size) (store.addHost func.signature func.body).2

theorem emerge_emerged (store : Store H) (origin : FuncKey) :
    Emerged store origin (store.emerge origin).1 (store.emerge origin).2 := by
  unfold emerge
  split
  · exact .lasting
  · split
    · rename_i number _ func found
      split
      · exact .lasting
      · rename_i passing
        exact .renewed rfl found (Bool.not_eq_true _ ▸ passing)
    · exact .lasting

theorem addHost_extends (store : Store H) (signature : Signature) (body : H) :
    Extends store (store.addHost signature body).2 where
  config := rfl
  host := by
    intro number func found
    have below : number < store.hosts.size := (Array.getElem?_eq_some_iff.1 found).1
    rw [addHost, Array.getElem?_push, if_neg (Nat.ne_of_lt below)]
    exact found
  code := id
  adapted := id
  used := Nat.le_refl _

theorem addHost_funcType? (store : Store H) (signature : Signature) (body : H) :
    (store.addHost signature body).2.funcType? (.host store.hosts.size) =
      some signature.guest := by
  simp [funcType?, addHost]

theorem funcType?_host_size (store : Store H) :
    store.funcType? (.host store.hosts.size) = none := by
  simp [funcType?]

namespace Emerged

variable {store after : Store H} {origin key : FuncKey} (emerged : Emerged store origin key after)
include emerged

theorem storeExtends : Extends store after := by
  cases emerged with
  | lasting => exact .refl store
  | renewed isHost found passing => exact addHost_extends store _ _

theorem code?_eq (owner : Nat) : after.code? owner = store.code? owner := by
  cases emerged <;> rfl

/-- What comes out has the type of what it came from. -/
theorem funcType?_origin : after.funcType? origin = after.funcType? key := by
  cases emerged with
  | lasting => rfl
  | @renewed number func isHost found passing =>
      have originType : store.funcType? origin = some func.signature.guest := by
        rw [isHost, funcType?, found, Option.map_some]
      rw [addHost_funcType?]
      exact (addHost_extends store func.signature func.body).funcType?_eq_some originType

/-- A reference to a function of an instance is what it was. -/
theorem origin_eq_of_guest {owner index : Nat} (guest : key = .guest owner index) :
    origin = key := by
  cases emerged with
  | lasting => rfl
  | renewed isHost found passing => contradiction

theorem eq_of_guest {owner index : Nat} (guest : origin = .guest owner index) : key = origin := by
  cases emerged with
  | lasting => rfl
  | renewed isHost found passing =>
      rw [guest] at isHost
      contradiction

end Emerged

end Wasm.Store

/-! ## Sound contexts -/

namespace Context

variable {σ : Type}

/-- What holds of the function table, the instances and the engine's state. -/
structure SoundParts (funcs : FuncTable) (instances : Array InstanceEntry)
    (store : Store (Closure σ)) : Prop where
  inverse : funcs.Inverse
  typed : ∀ {index : Nat} {entry : FuncEntry}, funcs.entry? index = some entry →
    store.funcType? entry.key = some entry.signature.guest
  /-- The reference that a function came from is of the same type. -/
  origin : ∀ {index : Nat} {entry : FuncEntry}, funcs.entry? index = some entry →
    store.funcType? entry.origin = some entry.signature.guest
  /-- A function that the host made is its own origin. -/
  made : ∀ {index : Nat} {entry : FuncEntry}, funcs.entry? index = some entry →
    entry.isHost = true → entry.origin = entry.key
  /-- So is a function of an instance, which the host did not make. -/
  guest : ∀ {index : Nat} {entry : FuncEntry} {owner position : Nat},
    funcs.entry? index = some entry → entry.key = .guest owner position →
      entry.origin = entry.key ∧ entry.isHost = false
  linked : ∀ {index : Nat} {made : InstanceEntry}, instances[index]? = some made →
    store.Hosts made
  imports : store.ImportsTyped

/-- A sound context.  The number of calls in progress and the host data do not matter. -/
def Sound (context : Context σ) : Prop :=
  SoundParts context.funcs context.instances context.store

theorem create_sound (id : ContextId) (environment : Environment) (data : σ) :
    (create id environment data).Sound where
  inverse := FuncTable.empty_inverse
  typed := by
    intro index entry member
    simp [create, FuncTable.entry?] at member
  origin := by
    intro index entry member
    simp [create, FuncTable.entry?] at member
  made := by
    intro index entry member
    simp [create, FuncTable.entry?] at member
  guest := by
    intro index entry owner position member
    simp [create, FuncTable.entry?] at member
  linked := by
    intro index made member
    simp [create] at member
  imports := by
    intro owner index code key found
    simp [create, Store.code?] at found

namespace SoundParts

variable {funcs : FuncTable} {instances : Array InstanceEntry} {store after : Store (Closure σ)}
  (sound : SoundParts funcs instances store)
include sound

theorem mono (extension : store.Extends after) (imports : after.ImportsTyped) :
    SoundParts funcs instances after where
  inverse := sound.inverse
  typed := fun member => extension.funcType?_eq_some (sound.typed member)
  origin := fun member => extension.funcType?_eq_some (sound.origin member)
  made := sound.made
  guest := sound.guest
  linked := fun member => (sound.linked member).mono extension
  imports := imports

theorem mono_code (extension : store.Extends after)
    (sameCode : ∀ owner, after.code? owner = store.code? owner) :
    SoundParts funcs instances after :=
  sound.mono extension <| Store.ImportsTyped.mono sound.imports extension fun found => by
    rw [← sameCode]
    exact found

theorem keeps (keeps : store.Keeps after) : SoundParts funcs instances after :=
  sound.mono_code keeps.extends keeps.code

/-- One more entry under a new key, with the signature of its function's type. -/
theorem push {entry : FuncEntry} (fresh : funcs.find? entry.key = none)
    (typed : store.funcType? entry.key = some entry.signature.guest)
    (origin : store.funcType? entry.origin = some entry.signature.guest)
    (made : entry.isHost = true → entry.origin = entry.key)
    (guest : ∀ {owner position : Nat}, entry.key = .guest owner position →
      entry.origin = entry.key ∧ entry.isHost = false) :
    SoundParts (funcs.push entry) instances store where
  inverse := sound.inverse.push fresh
  typed := by
    intro index other member
    rw [FuncTable.entryAt_push] at member
    split at member
    · rw [← Option.some.inj member]
      exact typed
    · exact sound.typed member
  origin := by
    intro index other member
    rw [FuncTable.entryAt_push] at member
    split at member
    · rw [← Option.some.inj member]
      exact origin
    · exact sound.origin member
  made := by
    intro index other member
    rw [FuncTable.entryAt_push] at member
    split at member
    · rw [← Option.some.inj member]
      exact made
    · exact sound.made member
  guest := by
    intro index other owner position member
    rw [FuncTable.entryAt_push] at member
    split at member
    · rw [← Option.some.inj member]
      exact guest
    · exact sound.guest member
  linked := sound.linked
  imports := sound.imports

theorem pushInstance {made : InstanceEntry} (hosts : store.Hosts made) :
    SoundParts funcs (instances.push made) store where
  inverse := sound.inverse
  typed := sound.typed
  origin := sound.origin
  made := sound.made
  guest := sound.guest
  linked := by
    intro index other member
    rw [Array.getElem?_push] at member
    split at member
    · rw [← Option.some.inj member]
      exact hosts
    · exact sound.linked member
  imports := sound.imports

/-- The engine's next host function has no entry. -/
theorem find?_host_size : funcs.find? (.host store.hosts.size) = none := by
  cases found : funcs.find? (.host store.hosts.size) with
  | none => rfl
  | some index =>
      obtain ⟨entry, member, same⟩ := sound.inverse.entered found
      have typed := sound.typed member
      rw [same, Store.funcType?_host_size] at typed
      contradiction

end SoundParts

theorem Sound.entry_typed {context : Context σ} (sound : context.Sound) {func : FuncHandle}
    {entry : FuncEntry} (found : context.funcEntry? func = some entry) :
    context.store.funcType? entry.key = some entry.signature.guest := by
  unfold funcEntry? at found
  split at found
  · exact sound.typed found
  · contradiction

theorem Sound.entry_origin_typed {context : Context σ} (sound : context.Sound)
    {func : FuncHandle} {entry : FuncEntry} (found : context.funcEntry? func = some entry) :
    context.store.funcType? entry.origin = some entry.signature.guest := by
  unfold funcEntry? at found
  split at found
  · exact sound.origin found
  · contradiction

/-- The function of an instance is its own origin, and the host did not make it. -/
theorem Sound.entry_guest {context : Context σ} (sound : context.Sound) {func : FuncHandle}
    {entry : FuncEntry} {owner index : Nat} (found : context.funcEntry? func = some entry)
    (guest : entry.key = .guest owner index) : entry.origin = entry.key ∧ entry.isHost = false := by
  unfold funcEntry? at found
  split at found
  · exact sound.guest found guest
  · contradiction

theorem Sound.key_of_isHost {context : Context σ} (sound : context.Sound) {func : FuncHandle}
    {entry : FuncEntry} (found : context.funcEntry? func = some entry)
    (isHost : entry.isHost = true) : ∃ number, entry.key = .host number := by
  cases isKey : entry.key with
  | host number => exact ⟨number, rfl⟩
  | guest owner index =>
      have notHost := (sound.entry_guest found isKey).2
      rw [isHost] at notHost
      contradiction

/-! ## What stays -/

/-- What stays when a context goes on. -/
structure Extends (before after : Context σ) : Prop where
  id : after.id = before.id
  environment : after.environment = before.environment
  store : before.store.Extends after.store
  entry : ∀ {index : Nat} {entry : FuncEntry},
    before.funcs.entry? index = some entry → after.funcs.entry? index = some entry
  inst : ∀ {index : Nat} {made : InstanceEntry},
    before.instances[index]? = some made → after.instances[index]? = some made

namespace Extends

variable {before middle after : Context σ}

theorem refl (context : Context σ) : Extends context context :=
  ⟨rfl, rfl, .refl _, fun found => found, fun found => found⟩

theorem trans (earlier : Extends before middle) (later : Extends middle after) :
    Extends before after where
  id := later.id.trans earlier.id
  environment := later.environment.trans earlier.environment
  store := earlier.store.trans later.store
  entry := fun found => later.entry (earlier.entry found)
  inst := fun found => later.inst (earlier.inst found)

variable (extension : Extends before after)
include extension

theorem config_eq : after.config = before.config :=
  extension.store.config

theorem funcEntry?_eq_some {func : FuncHandle} {entry : FuncEntry}
    (found : before.funcEntry? func = some entry) : after.funcEntry? func = some entry := by
  unfold funcEntry? at found ⊢
  rw [extension.id]
  split at found
  · rename_i own
    rw [if_pos own]
    exact extension.entry found
  · contradiction

theorem signature?_eq_some {func : FuncHandle} {signature : Signature}
    (found : before.signature? func = some signature) :
    after.signature? func = some signature := by
  obtain ⟨entry, member, same⟩ := Option.map_eq_some_iff.1 found
  exact Option.map_eq_some_iff.2 ⟨entry, extension.funcEntry?_eq_some member, same⟩

end Extends

/-- A context that came about from a sound one without a call beginning or ending. -/
structure Grows (before after : Context σ) : Prop where
  sound : after.Sound
  extension : Extends before after
  depth : after.depth = before.depth

theorem Sound.grows_refl {context : Context σ} (sound : context.Sound) : Grows context context :=
  ⟨sound, .refl context, rfl⟩

theorem Grows.trans {before middle after : Context σ} (earlier : Grows before middle)
    (later : Grows middle after) : Grows before after :=
  ⟨later.sound, earlier.extension.trans later.extension, later.depth.trans earlier.depth⟩

/-! ## Handles -/

section

variable {context : Context σ}

/-- A handle of a context is one of its own, for a function that has an entry. -/
def Owns (context : Context σ) (func : FuncHandle) : Prop :=
  func.context = context.id ∧ func.index < context.funcCount

theorem owns_iff (func : FuncHandle) :
    context.Owns func ↔ ∃ entry, context.funcEntry? func = some entry := by
  unfold Owns funcEntry? funcCount FuncTable.count FuncTable.entry?
  by_cases own : func.context = context.id
  · simp only [own, true_and, if_true]
    exact ⟨fun below => ⟨_, Array.getElem?_eq_getElem below⟩,
      fun ⟨entry, member⟩ => (Array.getElem?_eq_some_iff.1 member).1⟩
  · simp [own]

theorem Owns.mono {after : Context σ} {func : FuncHandle} (owns : context.Owns func)
    (extension : Extends context after) : after.Owns func := by
  obtain ⟨entry, found⟩ := (owns_iff func).1 owns
  exact (owns_iff func).2 ⟨entry, extension.funcEntry?_eq_some found⟩

theorem createFunc_owns (signature : Signature) (body : Closure σ) :
    (context.createFunc signature body).2.Owns (context.createFunc signature body).1 := by
  simp [Owns, createFunc, enterFunc, funcCount, FuncTable.count, FuncTable.push]

/-- A value fits a context when a function that it refers to is one of the context's. -/
def Admits (context : Context σ) (value : Val) : Prop :=
  ∀ func, value.target? = some func → context.Owns func

theorem Admits.mono {after : Context σ} {value : Val} (admits : context.Admits value)
    (extension : Extends context after) : after.Admits value :=
  fun func target => (admits func target).mono extension

private theorem describeFunc_typed {key : FuncKey} {declared : Option Signature}
    {signature : Signature} (described : context.describeFunc key declared = .ok signature)
    (declaredTyped : ∀ {signature}, declared = some signature →
      context.store.funcType? key = some signature.guest) :
    context.store.funcType? key = some signature.guest := by
  unfold describeFunc at described
  split at described
  · rw [← Except.ok.inj described]
    exact declaredTyped rfl
  · split at described
    · rename_i type typed
      rw [typed, (Signature.ofGuest_eq_ok_iff type signature).1 described]
    · contradiction

end

/-! ## New functions -/

variable {context : Context σ} (sound : context.Sound)
include sound

theorem Sound.keeps_grows {store : Store (Closure σ)} (keeps : context.store.Keeps store) :
    Grows context { context with store := store } :=
  ⟨sound.keeps keeps, ⟨rfl, rfl, keeps.extends, fun found => found, fun found => found⟩, rfl⟩

theorem Sound.createFunc_grows (signature : Signature) (body : Closure σ) :
    Grows context (context.createFunc signature body).2 where
  sound := by
    have extension := Store.addHost_extends context.store signature body
    exact (SoundParts.mono_code sound extension fun _ => rfl).push
      (SoundParts.find?_host_size sound) (Store.addHost_funcType? context.store signature body)
      (Store.addHost_funcType? context.store signature body) (fun _ => rfl)
      (fun guest => by contradiction)
  extension :=
    ⟨rfl, rfl, Store.addHost_extends context.store signature body,
      fun found => FuncTable.entryAt_push_of_some found _, fun found => found⟩
  depth := rfl

/-- A function that comes out of the engine has a handle afterwards, or cannot be
described.  A signature that is declared for it must be that of an instance's function. -/
theorem Sound.handleOf_grows (origin : FuncKey) (declared : Option Signature)
    (declaredTyped : ∀ {signature}, declared = some signature →
      (∃ owner index, origin = .guest owner index) ∧
        context.store.funcType? origin = some signature.guest) :
    Grows context (context.handleOf origin declared).2 ∧
      ∀ func, (context.handleOf origin declared).1 = .ok func →
        (context.handleOf origin declared).2.Owns func := by
  have emerged := Store.emerge_emerged context.store origin
  unfold handleOf
  generalize context.store.emerge origin = out at emerged
  obtain ⟨key, store⟩ := out
  simp only at emerged ⊢
  have soundOut : SoundParts context.funcs context.instances store :=
    SoundParts.mono_code sound emerged.storeExtends emerged.code?_eq
  have extensionOut : Extends context { context with store := store } :=
    ⟨rfl, rfl, emerged.storeExtends, fun found => found, fun found => found⟩
  split
  · rename_i index known
    refine ⟨⟨soundOut, extensionOut, rfl⟩, ?_⟩
    intro func same
    rw [← Except.ok.inj same]
    obtain ⟨entry, member, -⟩ := soundOut.inverse.entered known
    exact ⟨rfl, FuncTable.entryAt_lt_count member⟩
  · rename_i fresh
    cases described : describeFunc { context with store := store } key declared with
    | error reason =>
        refine ⟨⟨soundOut, extensionOut, rfl⟩, ?_⟩
        intro func same
        contradiction
    | ok signature =>
        have typed := describeFunc_typed described (by
          intro signature isDeclared
          obtain ⟨⟨owner, index, guest⟩, found⟩ := declaredTyped isDeclared
          rw [emerged.eq_of_guest guest]
          exact emerged.storeExtends.funcType?_eq_some found)
        refine ⟨⟨?_, ⟨rfl, rfl, emerged.storeExtends, fun found => ?_, fun found => found⟩, rfl⟩,
          ?_⟩
        · exact soundOut.push fresh typed (emerged.funcType?_origin.trans typed)
            (fun isHost => by contradiction)
            fun guest => ⟨emerged.origin_eq_of_guest guest, rfl⟩
        · exact FuncTable.entryAt_push_of_some found _
        · intro func same
          rw [← Except.ok.inj same]
          simp [Owns, enterFunc, funcCount, FuncTable.count, FuncTable.push]

end Context

end WasmSandbox
