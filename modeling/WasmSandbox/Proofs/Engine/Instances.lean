import WasmSandbox.Proofs.Engine.Sizes
import WasmSandbox.Wasm.Instantiation

/-!
Contract: what becomes of the engine's state when an instance is made.

Owns:
- the code of the instance that a module and a list of imports make;
- everything that making an instance can do: nothing, only use up budget and adapt
  types, or add the instance at the end, which is kept even when copying fails;
- that functions, instances and adapted types that were there stay;
- that it is refused for the budget exactly when none is left, and uses up a unit otherwise.

Does not own: the check of imports, or what is copied to memories and tables.
-/

namespace WasmSandbox.Wasm

variable {H : Type}

/-- The function among the items of the engine. -/
def Extern.func? : Extern → Option FuncKey
  | .func key => some key
  | _ => none

/-- The code of the instance of a module with the given imports. -/
def Module.codeWith (module : Module) (store : Store H) (imports : List Extern) : Code where
  module := module
  types := module.funcTypes.toArray
  imports := (imports.filterMap fun
    | .func key => some (store.resolve key)
    | _ => none).toArray
  funcs := module.funcs.toArray

theorem Module.codeWith_imports (module : Module) (store : Store H) (imports : List Extern) :
    (module.codeWith store imports).imports =
      ((imports.filterMap Extern.func?).map store.resolve).toArray := by
  rw [List.map_filterMap]
  simp only [codeWith]
  congr 2
  funext item
  cases item <;> rfl

namespace Store

/-- The state in which an instance of a module is made: a unit of the budget is used
up, and the types of the module are adapted. -/
def prepare (store : Store H) (module : Module) : Store H :=
  { store with instancesUsed := store.instancesUsed + 1 }.adapt module.types

/-- The state with one more instance at the end. -/
structure Adds (before : Store H) (code : Code) (after : Store H) : Prop where
  config : after.config = before.config
  hosts : after.hosts = before.hosts
  code : ∀ owner, after.code? owner =
    if owner = before.instances.size then some code else before.code? owner
  size : after.instances.size = before.instances.size + 1
  adapted : after.adapted = before.adapted
  used : after.instancesUsed = before.instancesUsed

theorem code?_eq_none (store : Store H) {owner : Nat} (beyond : store.instances.size ≤ owner) :
    store.code? owner = none := by
  simp [code?, Array.getElem?_eq_none beyond]

theorem prepare_adapted {store : Store H} {module : Module} {type : FuncType} :
    type ∈ (store.prepare module).adapted ↔ type ∈ module.types ∨ type ∈ store.adapted := by
  simp only [prepare, adapt, List.mem_append, List.mem_filter, List.contains_eq_mem,
    Bool.not_eq_eq_eq_not, Bool.not_true, decide_eq_false_iff_not]
  by_cases known : type ∈ store.adapted <;> simp [known]

theorem prepare_extends (store : Store H) (module : Module) :
    Extends store (store.prepare module) where
  config := rfl
  host := id
  code := id
  adapted := fun member => prepare_adapted.2 (.inr member)
  used := Nat.le_succ _

theorem Adds.extends {before after : Store H} {code : Code} (adds : Adds before code after) :
    Extends before after where
  config := adds.config
  host := fun found => by rw [adds.hosts]; exact found
  code := by
    intro owner old found
    have inside : owner ≠ before.instances.size := by
      intro same
      rw [before.code?_eq_none (Nat.le_of_eq same.symm)] at found
      contradiction
    rw [adds.code, if_neg inside]
    exact found
  adapted := fun member => by rw [adds.adapted]; exact member
  used := Nat.le_of_eq adds.used.symm

theorem Adds.trans_keeps {before middle after : Store H} {code : Code}
    (adds : Adds before code middle) (keeps : Keeps middle after) : Adds before code after where
  config := keeps.config.trans adds.config
  hosts := keeps.hosts.trans adds.hosts
  code := fun owner => (keeps.code owner).trans (adds.code owner)
  size := keeps.size.trans adds.size
  adapted := keeps.adapted.trans adds.adapted
  used := keeps.used.trans adds.used

theorem push_adds {before grown : Store H} (keeps : Keeps before grown) {made : Instance}
    {code : Code} (sameCode : made.code = code) :
    Adds before code { grown with instances := grown.instances.push made } where
  config := keeps.config
  hosts := keeps.hosts
  code := by
    intro owner
    have old := keeps.code owner
    simp only [code?] at old ⊢
    rw [Array.getElem?_push, keeps.size]
    by_cases same : owner = before.instances.size
    · simp [same, sameCode]
    · rw [if_neg same, if_neg same]
      exact old
  size := by simp [keeps.size]
  adapted := keeps.adapted
  used := keeps.used

end Store

open Store

/-! ## The parts of an instance -/

private theorem addMemories_keeps {store after : Store H} {shapes : List MemoryShape}
    {addresses : List Nat} (added : addMemories store shapes = .ok (addresses, after)) :
    Keeps store after := by
  induction shapes generalizing store addresses with
  | nil =>
      cases added
      exact .refl _
  | cons shape rest inductionHypothesis =>
      unfold addMemories at added
      split at added
      · rename_i address grown first
        obtain ⟨⟨others, last⟩, more, same⟩ := bind_eq_ok_iff.1 added
        cases same
        exact (addMemory?_keeps first).trans (inductionHypothesis more)
      · contradiction

private theorem addTables_keeps (store : Store H) (shapes : List TableShape) :
    Keeps store (addTables store shapes).2 := by
  induction shapes generalizing store with
  | nil => exact .refl store
  | cons shape rest inductionHypothesis =>
      exact (addTable_keeps store shape).trans (inductionHypothesis _)

private theorem addGlobals_keeps {owner : Nat} {imported : Array Nat} {store after : Store H}
    {items : List GlobalDef} {addresses : List Nat}
    (added : addGlobals owner imported store items = some (addresses, after)) :
    Keeps store after := by
  induction items generalizing store addresses with
  | nil =>
      cases added
      exact .refl _
  | cons item rest inductionHypothesis =>
      simp only [addGlobals, Option.bind_eq_bind, Option.bind_eq_some_iff, Option.pure_def,
        Option.some.injEq, Prod.mk.injEq] at added
      obtain ⟨value, -, ⟨others, grown⟩, more, -, rfl⟩ := added
      exact (addGlobal_keeps store item.shape value).trans (inductionHypothesis more)

/-! ## Why no instance is made -/

/-- A failure that comes after a unit of the budget was used up.  Where it is a refusal, it
is that of a memory. -/
def InstantiationFailure.Late (failure : InstantiationFailure) : Prop :=
  ∀ reason, failure = .refused reason → ∃ least, reason = Store.tooManyPages least

theorem InstantiationFailure.Late.stuck : InstantiationFailure.stuck.Late := nofun

theorem InstantiationFailure.Late.fault (fault : GuestFault) :
    (InstantiationFailure.fault fault).Late :=
  nofun

/-- The two refusals differ in their first characters.  Text is taken apart as a list, which
is what a literal stands for. -/
theorem Store.tooManyInstances_ne_tooManyPages (number least : Nat) :
    Store.tooManyInstances number ≠ Store.tooManyPages least := by
  have instances : ∃ rest, "resource limit exceeded: instance count too high at " =
      String.ofList ('r' :: rest) := ⟨_, rfl⟩
  have pages : ∃ rest, "memory minimum size of " = String.ofList ('m' :: rest) := ⟨_, rfl⟩
  obtain ⟨first, isFirst⟩ := instances
  obtain ⟨second, isSecond⟩ := pages
  unfold tooManyInstances tooManyPages
  rw [isFirst, isSecond]
  intro same
  have sameStart := congrArg (fun text : String => text.toList.head?) same
  simp only [String.toList_append, String.toList_ofList, List.cons_append,
    List.head?_cons] at sameStart
  contradiction

theorem InstantiationFailure.Late.ne_refused {failure : InstantiationFailure} (late : failure.Late)
    (number : Nat) : failure ≠ .refused (Store.tooManyInstances number) := by
  intro same
  obtain ⟨least, isPages⟩ := late _ same
  exact Store.tooManyInstances_ne_tooManyPages number least isPages

private theorem addMemories_late {store : Store H} {shapes : List MemoryShape} {reason : String}
    (refused : addMemories store shapes = .error reason) :
    (InstantiationFailure.refused reason).Late := by
  induction shapes generalizing store with
  | nil => contradiction
  | cons shape rest inductionHypothesis =>
      unfold addMemories at refused
      split at refused
      · rename_i address grown first
        cases more : addMemories grown rest with
        | error later =>
            simp only [more, bind, Except.bind] at refused
            cases refused
            exact inductionHypothesis more
        | ok others =>
            simp only [more, bind, Except.bind] at refused
            contradiction
      · cases refused
        intro _ same
        exact ⟨shape.size.least, (InstantiationFailure.refused.inj same).symm⟩

/-! ## Segments that are copied -/

/-- What copying segments comes to: a state in which only items and bytes are different, and
maybe a failure, which is a late one. -/
structure Copied (before : Store H) (out : Copying H) : Prop where
  keeps : Keeps before out.2
  works : Works before out.2
  late : ∀ failure, out.1 = some failure → failure.Late

namespace Copied

variable {before middle : Store H} {out : Copying H}

theorem done (store : Store H) : Copied store (none, store) :=
  ⟨.refl store, .refl store, nofun⟩

theorem failed (store : Store H) {failure : InstantiationFailure} (late : failure.Late) :
    Copied store (some failure, store) where
  keeps := .refl store
  works := .refl store
  late := fun _ same => Option.some.inj same ▸ late

/-- Something was copied before. -/
theorem after (copied : Copied middle out) (keeps : Keeps before middle)
    (works : Works before middle) : Copied before out where
  keeps := keeps.trans copied.keeps
  works := works.trans copied.works
  late := copied.late

end Copied

theorem copyElems_copied (owner : Nat) (owning : Instance) (store : Store H)
    (segments : List ElemSegment) : Copied store (copyElems owner owning store segments) := by
  induction segments generalizing store with
  | nil => exact .done store
  | cons segment rest inductionHypothesis =>
      unfold copyElems
      split
      · simp only
        split
        · split
          · exact (inductionHypothesis _).after (storeItems_keeps ..) (storeItems_works ..)
          · exact .failed store (.fault _)
        · exact .failed store .stuck
      · exact inductionHypothesis store

theorem copyDatas_copied (owner : Nat) (owning : Instance) (store : Store H)
    (segments : List DataSegment) : Copied store (copyDatas owner owning store segments) := by
  induction segments generalizing store with
  | nil => exact .done store
  | cons segment rest inductionHypothesis =>
      unfold copyDatas
      split
      · simp only
        split
        · split
          · exact (inductionHypothesis _).after (updateMemory_keeps ..) (storeBytes_works ..)
          · exact .failed store (.fault _)
        · exact .failed store .stuck
      · exact inductionHypothesis store

/-! ## Making an instance -/

private theorem allocate_cases (store : Store H) (module : Module) (imports : List Extern) :
    (∃ failure, allocate store module imports = (.error failure, store) ∧ failure.Late) ∨
      ∃ made after, allocate store module imports = (.ok made, after) ∧
        Adds store (module.codeWith store imports) after := by
  unfold allocate
  split
  · rename_i reason refused
    exact .inl ⟨_, rfl, addMemories_late refused⟩
  · rename_i ownMemories grown memories
    simp only
    split
    · exact .inl ⟨_, rfl, .stuck⟩
    · rename_i ownGlobals full globals
      refine .inr ⟨_, _, rfl, ?_⟩
      have keeps : Keeps store full :=
        ((addMemories_keeps memories).trans (addTables_keeps grown module.tables)).trans
          (addGlobals_keeps globals)
      exact push_adds keeps rfl

/-- Everything that making an instance can do, with its result. -/
inductive Instantiated (store : Store H) (module : Module) (imports : List Extern) :
    Except InstantiationFailure Nat → Store H → Prop where
  /-- There is no budget left. -/
  | refused (spent : store.config.maxInstances.toNat ≤ store.instancesUsed) :
      Instantiated store module imports
        (.error (.refused (tooManyInstances (store.instancesUsed + 1)))) store
  /-- No instance is made, and a unit of the budget is used up. -/
  | failed (failure : InstantiationFailure) (late : failure.Late)
      (budget : store.instancesUsed < store.config.maxInstances.toNat) :
      Instantiated store module imports (.error failure) (store.prepare module)
  /-- A segment cannot be copied, and the instance stays. -/
  | broken (failure : InstantiationFailure) (late : failure.Late) {after : Store H}
      (adds : Adds (store.prepare module) (module.codeWith store imports) after)
      (budget : store.instancesUsed < store.config.maxInstances.toNat) :
      Instantiated store module imports (.error failure) after
  | made {after : Store H}
      (adds : Adds (store.prepare module) (module.codeWith store imports) after)
      (budget : store.instancesUsed < store.config.maxInstances.toNat) :
      Instantiated store module imports (.ok store.instances.size) after

theorem instantiate_instantiated (store : Store H) (module : Module) (imports : List Extern) :
    Instantiated store module imports (instantiate store module imports).1
      (instantiate store module imports).2 := by
  unfold instantiate
  by_cases spent : store.instancesUsed + 1 > store.config.maxInstances.toNat
  · simp only [if_pos spent]
    exact .refused (by omega)
  · have budget : store.instancesUsed < store.config.maxInstances.toNat := by omega
    simp only [if_neg spent]
    rcases allocate_cases (store.prepare module) module imports with
      ⟨failure, failed, late⟩ | ⟨made, placed, allocated, adds⟩
    · simp only [prepare] at failed
      simp only [failed]
      exact .failed failure late budget
    · have copied := copyElems_copied store.instances.size made placed module.elems
      simp only [prepare] at allocated
      simp only [allocated]
      cases elems : copyElems store.instances.size made placed module.elems with
      | mk failure filled =>
          rw [elems] at copied
          cases failure with
          | some failure =>
              exact .broken failure (copied.late failure rfl) (adds.trans_keeps copied.keeps)
                budget
          | none =>
              have written := copyDatas_copied store.instances.size made filled module.datas
              cases datas : copyDatas store.instances.size made filled module.datas with
              | mk failure after =>
                  rw [datas] at written
                  have allAdds := (adds.trans_keeps copied.keeps).trans_keeps written.keeps
                  cases failure with
                  | some failure =>
                      simp only [datas]
                      exact .broken failure (written.late failure rfl) allAdds budget
                  | none =>
                      simp only [datas]
                      exact .made allAdds budget

namespace Instantiated

variable {store after : Store H} {module : Module} {imports : List Extern}
  {outcome : Except InstantiationFailure Nat}

theorem storeExtends (result : Instantiated store module imports outcome after) :
    Extends store after := by
  cases result with
  | refused spent => exact .refl store
  | failed failure late budget => exact prepare_extends store module
  | broken failure late adds budget => exact (prepare_extends store module).trans adds.extends
  | made adds budget => exact (prepare_extends store module).trans adds.extends

theorem hosts (result : Instantiated store module imports outcome after) :
    after.hosts = store.hosts := by
  cases result with
  | refused spent => rfl
  | failed failure late budget => rfl
  | broken failure late adds budget => exact adds.hosts
  | made adds budget => exact adds.hosts

/-- An instance that is made uses up a unit of the budget. -/
theorem used_of_ok {owner : Nat} (result : Instantiated store module imports (.ok owner) after) :
    store.instancesUsed < store.config.maxInstances.toNat ∧
      after.instancesUsed = store.instancesUsed + 1 := by
  cases result with
  | made adds budget => exact ⟨budget, adds.used⟩

/-- A unit of the budget is used up while there is one, whatever comes of the instance. -/
theorem used (result : Instantiated store module imports outcome after) :
    after.instancesUsed = store.instancesUsed +
      (decide (store.instancesUsed < store.config.maxInstances.toNat)).toNat := by
  cases result with
  | refused spent =>
      rw [decide_eq_false (Nat.not_lt.2 spent)]
      rfl
  | failed failure late budget =>
      rw [decide_eq_true budget]
      rfl
  | broken failure late adds budget =>
      rw [decide_eq_true budget]
      exact adds.used
  | made adds budget =>
      rw [decide_eq_true budget]
      exact adds.used

/-- An instance is refused for the budget exactly when none is left. -/
theorem refused_iff (result : Instantiated store module imports outcome after) :
    (∃ number, outcome = .error (.refused (tooManyInstances number))) ↔
      store.config.maxInstances.toNat ≤ store.instancesUsed := by
  have others {failure : InstantiationFailure} (late : failure.Late) :
      ¬∃ number, (Except.error failure : Except InstantiationFailure Nat) =
        .error (.refused (tooManyInstances number)) :=
    fun ⟨number, same⟩ => late.ne_refused number (Except.error.inj same)
  cases result with
  | refused spent => exact ⟨fun _ => spent, fun _ => ⟨_, rfl⟩⟩
  | failed failure late budget => exact iff_of_false (others late) (Nat.not_le.2 budget)
  | broken failure late adds budget => exact iff_of_false (others late) (Nat.not_le.2 budget)
  | made adds budget => exact iff_of_false nofun (Nat.not_le.2 budget)

theorem refused_of_spent (result : Instantiated store module imports outcome after)
    (spent : store.config.maxInstances.toNat ≤ store.instancesUsed) :
    outcome = .error (.refused (tooManyInstances (store.instancesUsed + 1))) := by
  cases result with
  | refused spent => rfl
  | failed failure late budget => exact absurd spent (Nat.not_le.2 budget)
  | broken failure late adds budget => exact absurd spent (Nat.not_le.2 budget)
  | made adds budget => exact absurd spent (Nat.not_le.2 budget)

/-- An instance that is made has the code of its module with the imports. -/
theorem code?_of_ok {owner : Nat} (result : Instantiated store module imports (.ok owner) after) :
    after.code? owner = some (module.codeWith store imports) := by
  cases result with
  | made adds budget =>
      rw [adds.code]
      exact if_pos rfl

/-- The code of an instance afterwards is what it was, or that of the new one. -/
theorem code?_cases (result : Instantiated store module imports outcome after) {owner : Nat}
    {code : Code} (found : after.code? owner = some code) :
    store.code? owner = some code ∨
      owner = store.instances.size ∧ code = module.codeWith store imports := by
  have added (adds : Adds (store.prepare module) (module.codeWith store imports) after) :
      store.code? owner = some code ∨
        owner = store.instances.size ∧ code = module.codeWith store imports := by
    rw [adds.code] at found
    by_cases new : owner = (store.prepare module).instances.size
    · rw [if_pos new, Option.some.injEq] at found
      exact .inr ⟨new, found.symm⟩
    · rw [if_neg new] at found
      exact .inl found
  cases result with
  | refused spent => exact .inl found
  | failed failure late budget => exact .inl found
  | broken failure late adds budget => exact added adds
  | made adds budget => exact added adds

end Instantiated

end WasmSandbox.Wasm
