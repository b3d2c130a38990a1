import WasmSandbox.Proofs.Context.LinkFailures

/-!
Contract: a link by name is a link by position with the definitions of its imports.

Owns:
- the items that the imports of an artifact resolve to, and the first import that resolves to
  none;
- links by name, by the embedder and by a closure, as links with these items;
- that no link by name is told of items beyond the imports.

Names come first.  An import that is not defined decides before the environment of the
artifact, and before any item is looked at, and the context is not asked for anything.  Once
all imports are defined, what decides is what decides for a list of items.

Does not own: the order in which a list of items is checked.
-/

namespace WasmSandbox

open Wasm

variable {σ : Type}

namespace Linker

/-! ## What imports resolve to -/

/-- The items are what the linker has for the imports, one for each. -/
def Resolves (linker : Linker) : List ImportDecl → List Item → Prop :=
  List.Forall₂ fun declared item => linker.get? declared.module declared.name = some item

/-- The first import for which the linker has nothing. -/
structure FirstMissing (linker : Linker) (declareds : List ImportDecl) (index : Nat)
    (declared : ImportDecl) : Prop where
  isDeclared : declareds[index]? = some declared
  missing : linker.get? declared.module declared.name = none
  least : ∀ earlier < index, ∀ other, declareds[earlier]? = some other →
    (linker.get? other.module other.name).isSome = true

/-- The failure of an import for which a linker has nothing. -/
def missingAt (index : Nat) (declared : ImportDecl) : LinkError :=
  .missingImport index declared.module declared.name declared.type

section

variable {linker : Linker} {declareds : List ImportDecl} {artifact : Artifact}

theorem firstMissing_zero {declared : ImportDecl}
    (missing : linker.get? declared.module declared.name = none) :
    linker.FirstMissing (declared :: declareds) 0 declared :=
  ⟨rfl, missing, fun _ less => absurd less (Nat.not_lt_zero _)⟩

theorem firstMissing_succ_iff {index : Nat} {first declared : ImportDecl} {item : Item}
    (found : linker.get? first.module first.name = some item) :
    linker.FirstMissing (first :: declareds) (index + 1) declared ↔
      linker.FirstMissing declareds index declared := by
  constructor
  · rintro ⟨isDeclared, missing, least⟩
    exact ⟨isDeclared, missing, fun earlier less =>
      least (earlier + 1) (Nat.succ_lt_succ less)⟩
  · rintro ⟨isDeclared, missing, least⟩
    refine ⟨isDeclared, missing, fun earlier less other isOther => ?_⟩
    cases earlier with
    | zero =>
        cases isOther
        rw [found]
        rfl
    | succ earlier => exact least earlier (Nat.lt_of_succ_lt_succ less) other isOther

/-- What comes of the imports that are counted from `start`: items for all of them, or the
failure of the first that has none. -/
inductive Resolution (linker : Linker) (start : Nat) (declareds : List ImportDecl) :
    Except LinkError (List Item) → Prop where
  | complete (items : List Item) (resolves : linker.Resolves declareds items) :
      Resolution linker start declareds (.ok items)
  | stopped (index : Nat) (declared : ImportDecl)
      (first : linker.FirstMissing declareds index declared) :
      Resolution linker start declareds (.error (missingAt (start + index) declared))

theorem resolveFrom_resolution (linker : Linker) (start : Nat) (declareds : List ImportDecl) :
    linker.Resolution start declareds (linker.resolveFrom start declareds) := by
  induction declareds generalizing start with
  | nil => exact .complete [] .nil
  | cons declared declareds inductionHypothesis =>
      rw [resolveFrom]
      cases found : linker.get? declared.module declared.name with
      | none => exact .stopped 0 declared (firstMissing_zero found)
      | some item =>
          have further := inductionHypothesis (start + 1)
          generalize linker.resolveFrom (start + 1) declareds = result at further
          cases further with
          | complete items resolves => exact .complete (item :: items) (.cons found resolves)
          | stopped index other first =>
              rw [Nat.add_right_comm]
              exact .stopped (index + 1) other ((firstMissing_succ_iff found).2 first)

theorem Resolves.not_firstMissing {items : List Item} (resolves : linker.Resolves declareds items)
    {index : Nat} {declared : ImportDecl} : ¬linker.FirstMissing declareds index declared := by
  intro first
  obtain ⟨item, -, found⟩ := Context.forall₂_getElem? resolves.flip first.isDeclared
  rw [first.missing] at found
  contradiction

theorem Resolves.unique {items others : List Item} (resolves : linker.Resolves declareds items)
    (alsoResolves : linker.Resolves declareds others) : items = others :=
  List.right_unique_forall₂'
    (fun _ _ _ found alsoFound => Option.some.inj (found.symm.trans alsoFound))
    resolves alsoResolves

theorem FirstMissing.unique {index otherIndex : Nat} {declared other : ImportDecl}
    (first : linker.FirstMissing declareds index declared)
    (alsoFirst : linker.FirstMissing declareds otherIndex other) :
    index = otherIndex ∧ declared = other := by
  have noEarlier : ∀ {index earlier : Nat} {declared other : ImportDecl},
      linker.FirstMissing declareds index declared →
        linker.FirstMissing declareds earlier other → ¬earlier < index := by
    intro index earlier declared other first alsoFirst less
    have found := first.least earlier less other alsoFirst.isDeclared
    rw [alsoFirst.missing] at found
    contradiction
  obtain rfl : index = otherIndex :=
    Nat.le_antisymm (Nat.le_of_not_lt (noEarlier first alsoFirst))
      (Nat.le_of_not_lt (noEarlier alsoFirst first))
  exact ⟨rfl, Option.some.inj (first.isDeclared.symm.trans alsoFirst.isDeclared)⟩

theorem resolve_eq_ok_iff {items : List Item} :
    linker.resolve artifact = .ok items ↔ linker.Resolves artifact.imports items := by
  have resolution := linker.resolveFrom_resolution 0 artifact.imports
  rw [resolve]
  generalize linker.resolveFrom 0 artifact.imports = result at resolution
  cases resolution with
  | complete found resolves =>
      rw [Except.ok.injEq]
      constructor
      · rintro rfl
        exact resolves
      · exact resolves.unique
  | stopped index declared first =>
      constructor
      · nofun
      · exact fun resolves => absurd first resolves.not_firstMissing

theorem resolve_eq_error_iff {error : LinkError} :
    linker.resolve artifact = .error error ↔ ∃ index declared,
      linker.FirstMissing artifact.imports index declared ∧ error = missingAt index declared := by
  have resolution := linker.resolveFrom_resolution 0 artifact.imports
  rw [resolve]
  generalize linker.resolveFrom 0 artifact.imports = result at resolution
  cases resolution with
  | complete items resolves =>
      constructor
      · nofun
      · rintro ⟨index, declared, first, -⟩
        exact absurd first resolves.not_firstMissing
  | stopped index declared first =>
      rw [Nat.zero_add, Except.error.injEq]
      constructor
      · rintro rfl
        exact ⟨index, declared, first, rfl⟩
      · rintro ⟨otherIndex, other, alsoFirst, rfl⟩
        obtain ⟨rfl, rfl⟩ := first.unique alsoFirst
        rfl

/-- The imports resolve exactly if each of them is defined. -/
theorem exists_resolves_iff (linker : Linker) (declareds : List ImportDecl) :
    (∃ items, linker.Resolves declareds items) ↔
      ∀ declared ∈ declareds, (linker.get? declared.module declared.name).isSome = true := by
  induction declareds with
  | nil => exact ⟨fun _ => by simp, fun _ => ⟨[], .nil⟩⟩
  | cons declared declareds inductionHypothesis =>
      rw [List.forall_mem_cons, ← inductionHypothesis, Option.isSome_iff_exists]
      constructor
      · rintro ⟨_, resolves⟩
        cases resolves with
        | cons found resolves => exact ⟨⟨_, found⟩, _, resolves⟩
      · rintro ⟨⟨item, found⟩, items, resolves⟩
        exact ⟨item :: items, .cons found resolves⟩

end

/-! ## Links -/

/-- Links an artifact with the items that its imports name, in a closure that goes on with the
result. -/
def linkWithin (linker : Linker) (artifact : Artifact)
    (next : Except LinkError InstanceHandle → Proc σ) : Proc σ :=
  match linker.resolve artifact with
  | .error error => next (.error error)
  | .ok items => .link artifact items next

end Linker

/-! ## Items beyond the imports -/

/-- The engine does not count what is given for imports. -/
theorem LinkError.ofEngine_ne_unexpected (raised : EngineError) (declaredCount provided : Nat) :
    ofEngine raised ≠ .unexpectedImports declaredCount provided := by
  rcases ofEngine_eq raised with isTrapped | ⟨isInstantiate, -⟩
  · simp [isTrapped]
  · simp [isInstantiate]

namespace Context

variable {context : Context σ}

theorem ImportFault.ne_unexpected {index : Nat} {declared : ImportDecl} {given : Option Item}
    {error : LinkError} (fault : context.ImportFault index declared given error)
    (declaredCount provided : Nat) : error ≠ .unexpectedImports declaredCount provided := by
  rintro rfl
  cases fault

/-- A link is told of unexpected items only if there are more items than imports. -/
theorem LinkFails.more {artifact : Artifact} {items : List Item} {declaredCount provided : Nat}
    (fails : context.LinkFails artifact items (.unexpectedImports declaredCount provided)) :
    artifact.imports.length < items.length := by
  generalize isUnexpected : LinkError.unexpectedImports declaredCount provided = error at fails
  cases fails with
  | unexpected more => exact more
  | environment | undescribed => contradiction
  | imports isDeclared fault => exact absurd isUnexpected.symm (fault.ne_unexpected _ _)
  | engine failure => exact absurd isUnexpected.symm (LinkError.ofEngine_ne_unexpected _ _ _)

/-- Whoever waits for a link in a run, it is told of unexpected items by the step that began the
link, and only if there are more items than imports. -/
theorem stepReturn?_unexpected {state : RunState σ} {ret : LinkReturn σ}
    (returned : context.stepReturn? state = some ret) {declaredCount provided : Nat}
    (isUnexpected : ret.outcome = .error (.unexpectedImports declaredCount provided)) :
    ∃ artifact items next below, state = .closure (.link artifact items next) below ∧
      artifact.imports.length < items.length := by
  rcases stepReturn?_fails returned isUnexpected with
    ⟨artifact, items, next, below, isLink, fails⟩ | ⟨raised, isRaised⟩
  · exact ⟨artifact, items, next, below, isLink, fails.more⟩
  · exact absurd isRaised.symm (LinkError.ofEngine_ne_unexpected _ _ _)

/-- No link by position is told of unexpected items if there are no more items than imports. -/
theorem link_ne_unexpected {artifact : Artifact} {items : List Item}
    (noMore : items.length ≤ artifact.imports.length) {result : Except LinkError InstanceHandle}
    {after : Context σ} (answered : context.link artifact items = (.answered result, after))
    (declaredCount provided : Nat) :
    result ≠ .error (.unexpectedImports declaredCount provided) := by
  rintro rfl
  rcases link_fails answered with fails | ⟨raised, isRaised⟩
  · exact Nat.not_lt_of_le noMore fails.more
  · exact LinkError.ofEngine_ne_unexpected _ _ _ isRaised.symm

end Context

/-! ## By name and by position -/

/-- What a link by name is for a linker, a context and an artifact. -/
structure RefinesPositional (linker : Linker) (context : Context σ) (artifact : Artifact) :
    Prop where
  /-- If every import is defined, it is the link with the definitions in the order of the
  imports: the same end, and the same context afterwards. -/
  resolved : ∀ items, linker.Resolves artifact.imports items →
    linker.link context artifact = context.link artifact items
  /-- Otherwise the first import that is not defined is missing, and the context is as it
  was, whatever the other imports and the environment of the artifact are. -/
  missing : ∀ index declared, linker.FirstMissing artifact.imports index declared →
    linker.link context artifact =
      (.answered (.error (.missingImport index declared.module declared.name declared.type)),
        context)
  /-- There are definitions for a link exactly if every import is defined. -/
  defined_iff : (∃ items, linker.Resolves artifact.imports items) ↔
    ∀ declared ∈ artifact.imports, (linker.get? declared.module declared.name).isSome = true
  /-- There is a first import that is missing exactly if not every import is defined. -/
  undefined_iff : (∃ index declared, linker.FirstMissing artifact.imports index declared) ↔
    ¬∀ declared ∈ artifact.imports, (linker.get? declared.module declared.name).isSome = true
  /-- It is never told of items beyond the imports. -/
  expected : ∀ result after, linker.link context artifact = (.answered result, after) →
    ∀ declaredCount provided, result ≠ .error (.unexpectedImports declaredCount provided)
  /-- In a closure it is the link with the definitions, if every import is defined. -/
  resolvedWithin : ∀ items, linker.Resolves artifact.imports items →
    ∀ next, linker.linkWithin (σ := σ) artifact next = .link artifact items next
  /-- In a closure nothing happens but that the first import is missing, if not. -/
  missingWithin : ∀ index declared, linker.FirstMissing artifact.imports index declared →
    ∀ next : Except LinkError InstanceHandle → Proc σ, linker.linkWithin artifact next =
      next (.error (.missingImport index declared.module declared.name declared.type))
  /-- In a run no link with such definitions is told of items beyond the imports, whenever it
  returns. -/
  expectedWithin : ∀ state ret declaredCount provided, context.stepReturn? state = some ret →
    ret.outcome = .error (.unexpectedImports declaredCount provided) →
      ∃ other items next below, state = .closure (.link other items next) below ∧
        ¬linker.Resolves other.imports items

/-- A link by name is a link by position, for every linker, context and artifact. -/
theorem Linker.refinesPositional (linker : Linker) (context : Context σ) (artifact : Artifact) :
    RefinesPositional linker context artifact := by
  refine ⟨?resolved, ?missing, linker.exists_resolves_iff _, ?undefined, ?expected,
    ?resolvedWithin, ?missingWithin, ?expectedWithin⟩
  case resolved =>
    intro items resolves
    simp only [link, resolve_eq_ok_iff.2 resolves]
  case missing =>
    intro index declared first
    simp only [link, resolve_eq_error_iff.2 ⟨index, declared, first, rfl⟩, missingAt]
  case undefined =>
    rw [← linker.exists_resolves_iff]
    constructor
    · rintro ⟨index, declared, first⟩ ⟨items, resolves⟩
      exact resolves.not_firstMissing first
    · intro none
      cases resolved : linker.resolve artifact with
      | ok items => exact absurd ⟨items, resolve_eq_ok_iff.1 resolved⟩ none
      | error error =>
          obtain ⟨index, declared, first, -⟩ := resolve_eq_error_iff.1 resolved
          exact ⟨index, declared, first⟩
  case expected =>
    intro result after answered declaredCount provided
    rcases linker.link_answered answered with ⟨error, resolved, rfl, -⟩ | ⟨items, resolved, linked⟩
    · obtain ⟨index, declared, -, rfl⟩ := resolve_eq_error_iff.1 resolved
      nofun
    · have sameLength := (resolve_eq_ok_iff.1 resolved).length_eq
      exact Context.link_ne_unexpected (Nat.le_of_eq sameLength.symm) linked declaredCount provided
  case resolvedWithin =>
    intro items resolves next
    simp only [linkWithin, resolve_eq_ok_iff.2 resolves]
  case missingWithin =>
    intro index declared first next
    simp only [linkWithin, resolve_eq_error_iff.2 ⟨index, declared, first, rfl⟩, missingAt]
  case expectedWithin =>
    intro state ret declaredCount provided returned isUnexpected
    obtain ⟨other, items, next, below, isLink, more⟩ :=
      Context.stepReturn?_unexpected returned isUnexpected
    refine ⟨other, items, next, below, isLink, fun resolves => ?_⟩
    exact Nat.ne_of_lt more resolves.length_eq

end WasmSandbox
