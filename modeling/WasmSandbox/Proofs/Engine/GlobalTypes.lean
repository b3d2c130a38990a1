import WasmSandbox.Proofs.Engine.Globals

/-!
Contract: what instances find at the addresses of their globals.

Owns:
- globals of a shape, and instances at whose addresses are the globals that their modules
  declare;
- that the globals of a new instance are the imported ones, in order, and then its own;
- that nothing changes the shape of a global, and that every instance that is made of items
  with the declared shapes finds what its module declares.

The check of sizes says nothing of globals: their shapes are compared with what handles
record, so that the items have the declared shapes is taken from where handles come from
(`WasmSandbox.Proofs.Context.GlobalHandles`).

Does not own: contents.
-/

namespace WasmSandbox.Wasm

variable {H : Type}

namespace Store

/-- At an address is a global of a shape. -/
def HasGlobal (store : Store H) (shape : GlobalShape) (address : Nat) : Prop :=
  ∃ global, store.globals[address]? = some global ∧ global.shape = shape

theorem HasGlobal.commits {before after : Store H} {write : Option GlobalWrite}
    {shape : GlobalShape} {address : Nat} (has : before.HasGlobal shape address)
    (commits : Commits write before after) : after.HasGlobal shape address := by
  obtain ⟨global, found, isShape⟩ := has
  exact ⟨_, commits address global found, isShape⟩

theorem HasGlobal.mono {before after : Store H} {shape : GlobalShape} {address : Nat}
    (has : before.HasGlobal shape address) (ages : before.Ages after) :
    after.HasGlobal shape address := by
  obtain ⟨global, found, isShape⟩ := has
  obtain ⟨later, isLater, aged⟩ := ages.globals address global found
  exact ⟨later, isLater, Eq.trans aged isShape⟩

/-- A global has one shape. -/
theorem HasGlobal.unique {store : Store H} {shape other : GlobalShape} {address : Nat}
    (has : store.HasGlobal shape address) (also : store.HasGlobal other address) :
    shape = other := by
  obtain ⟨global, found, rfl⟩ := has
  obtain ⟨_, alsoFound, rfl⟩ := also
  rw [found, Option.some.injEq] at alsoFound
  rw [alsoFound]

end Store

open Store

/-- An instance has an address for each global of its module, with a global of the declared
shape. -/
def Instance.Shaped (store : Store H) (owning : Instance) : Prop :=
  List.Forall₂ store.HasGlobal owning.module.globalShapes owning.globals.toList

/-- Every instance finds the globals that its module declares. -/
def Store.Shaped (store : Store H) : Prop := ∀ owning ∈ store.instances, owning.Shaped store

theorem Instance.Shaped.getElem? {store : Store H} {owning : Instance}
    (shaped : owning.Shaped store) {index address : Nat}
    (isAddress : owning.globals[index]? = some address) :
    ∃ shape, owning.module.globalShapes[index]? = some shape ∧ store.HasGlobal shape address := by
  rw [← Array.getElem?_toList] at isAddress
  obtain ⟨inside, isElement⟩ := List.getElem?_eq_some_iff.1 isAddress
  have bound : index < owning.module.globalShapes.length := by
    rwa [shaped.length_eq]
  refine ⟨_, List.getElem?_eq_getElem bound, ?_⟩
  have has := (List.forall₂_iff_get.1 shaped).2 index bound inside
  simp only [List.get_eq_getElem] at has
  rwa [isElement] at has

/-- What happens while no instance is made leaves instances with the globals that their
modules declare. -/
theorem Store.Works.shaped {before after : Store H} (works : before.Works after)
    (shaped : before.Shaped) : after.Shaped := by
  intro later member
  obtain ⟨owner, isLater⟩ := Array.getElem?_of_mem member
  have inside : owner < before.instances.size := by
    rw [← works.size]
    exact (Array.getElem?_eq_some_iff.1 isLater).1
  obtain ⟨next, isNext, aged⟩ := works.ages.instances owner _ (Array.getElem?_eq_getElem inside)
  obtain rfl : next = later := Option.some.inj (isNext.symm.trans isLater)
  have was := shaped _ (Array.getElem_mem inside)
  unfold Instance.Shaped at was ⊢
  rw [aged.module, aged.globals]
  exact was.imp fun _ _ has => has.mono works.ages

/-! ## Making an instance -/

/-- The address of a global among the items of the engine. -/
def Extern.global? : Extern → Option Nat
  | .global address => some address
  | _ => none

/-- The addresses of the globals among items. -/
def globalAddresses (imports : List Extern) : List Nat := imports.filterMap Extern.global?

theorem addGlobals_shapes {owner : Nat} {imported : Array Nat} {store after : Store H}
    {items : List GlobalDef} {addresses : List Nat}
    (added : addGlobals owner imported store items = some (addresses, after)) :
    after.instances = store.instances ∧
      List.Forall₂ after.HasGlobal (items.map GlobalDef.shape) addresses := by
  induction items generalizing store addresses with
  | nil =>
      cases added
      exact ⟨rfl, .nil⟩
  | cons item rest inductionHypothesis =>
      simp only [addGlobals, Option.bind_eq_bind, Option.bind_eq_some_iff, Option.pure_def,
        Option.some.injEq, Prod.mk.injEq] at added
      obtain ⟨value, -, ⟨others, grown⟩, more, rfl, rfl⟩ := added
      obtain ⟨sameInstances, shapes⟩ := inductionHypothesis more
      have first : (store.addGlobal item.shape value).2.HasGlobal item.shape
          store.globals.size := ⟨_, Array.getElem?_push_size, rfl⟩
      exact ⟨sameInstances, .cons (first.commits (addGlobals_commits more)) shapes⟩

/-- What making an instance does to the list of instances: nothing, or there is a new one at
the end with the imported globals and its own ones, which have the declared shapes. -/
inductive Lists (store : Store H) (module : Module) (imports : List Extern)
    (after : Store H) : Prop where
  | same (instances : after.instances = store.instances)
  | added (made : Instance) (own : List Nat)
      (instances : after.instances = store.instances.push made) (isModule : made.module = module)
      (globals : made.globals = (globalAddresses imports ++ own).toArray)
      (shapes : List.Forall₂ after.HasGlobal (module.globals.map GlobalDef.shape) own)

theorem allocate_lists (store : Store H) (module : Module) (imports : List Extern) :
    Lists store module imports (allocate store module imports).2 := by
  unfold allocate
  split
  · exact .same rfl
  · rename_i ownMemories grown memories
    simp only
    split
    · exact .same rfl
    · rename_i ownGlobals full globals
      obtain ⟨sameInstances, shapes⟩ := addGlobals_shapes globals
      have instances : full.instances = store.instances :=
        (sameInstances.trans (addTables_rest grown module.tables).2).trans
          (addMemories_rest memories).2
      exact .added _ ownGlobals (congrArg (Array.push · _) instances) rfl rfl
        (shapes.imp fun _ _ has => has.commits (.of_eq rfl))

theorem instantiate_lists (store : Store H) (module : Module) (imports : List Extern) :
    Lists store module imports (instantiate store module imports).2 := by
  rcases instantiate_rest store module imports with ⟨-, instances⟩ | ⟨globals, instances⟩
  · exact .same instances
  · cases allocate_lists (store.prepare module) module imports with
    | same same => exact .same (instances.trans same)
    | added made own added isModule isGlobals shapes =>
        refine .added made own (instances.trans added) isModule isGlobals ?_
        exact shapes.imp fun _ _ has => has.commits (.of_eq globals)

/-- An instance that is made is the new one at the end of the list. -/
theorem instantiate_globals {store after : Store H} {module : Module} {imports : List Extern}
    {owner : Nat} (made : instantiate store module imports = (.ok owner, after)) :
    ∃ owning own, after.instances[owner]? = some owning ∧
      owning.globals = (globalAddresses imports ++ own).toArray := by
  have result := instantiate_instantiated store module imports
  have lists := instantiate_lists store module imports
  rw [made] at result lists
  obtain ⟨owning, isOwning, -⟩ := (code?_eq_some_iff ..).1 result.code?_of_ok
  cases result with
  | made adds budget =>
      cases lists with
      | same instances =>
          have size := adds.size
          rw [instances] at size
          exact absurd size (Nat.ne_of_lt (Nat.lt_succ_self _))
      | added new own instances isModule globals shapes =>
          rw [instances, Array.getElem?_push_size, Option.some.injEq] at isOwning
          refine ⟨new, own, ?_, globals⟩
          rw [instances, Array.getElem?_push_size]

/-- If the imported globals have the declared shapes, then every instance finds the globals
that its module declares, the new one too. -/
theorem instantiate_shaped {store : Store H} {module : Module} {imports : List Extern}
    (shaped : store.Shaped)
    (serves : List.Forall₂ store.HasGlobal module.importedGlobals (globalAddresses imports)) :
    (instantiate store module imports).2.Shaped := by
  have commits := instantiate_commits store module imports
  have old (owning : Instance) (was : owning.Shaped store) :
      owning.Shaped (instantiate store module imports).2 :=
    was.imp fun _ _ has => has.commits commits
  cases instantiate_lists store module imports with
  | same instances =>
      intro owning member
      rw [instances] at member
      exact old owning (shaped owning member)
  | added made own instances isModule globals shapes =>
      intro owning member
      rw [instances] at member
      rcases Array.mem_push.1 member with before | rfl
      · exact old owning (shaped owning before)
      · unfold Instance.Shaped
        rw [isModule, globals, Module.globalShapes]
        exact List.rel_append (serves.imp fun _ _ has => has.commits commits) shapes

end WasmSandbox.Wasm
