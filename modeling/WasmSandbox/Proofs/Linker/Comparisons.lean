import WasmSandbox.Proofs.Boundary.Acceptance
import WasmSandbox.Proofs.Boundary.TypeTexts
import WasmSandbox.Proofs.Linker.Resolution

/-!
Contract: what a failed link shows of the type that was expected and the one that was provided.

Owns:
- the failures that show both, and where both stand in the message;
- that the two texts differ in whatever a link fails with, for the embedder and for closures,
  by position and by name.

A link only fails so for two sorts that differ, for two signatures that differ, or for a type
that the expected one does not accept.  Every type accepts itself, so that type differs as
well, and what differs is written differently.

Does not own: for which items a link fails so (`WasmSandbox.Proofs.Context.LinkChecks`).
-/

namespace WasmSandbox

open Wasm

/-! ## Failures that show two texts -/

namespace LinkError

/-- A failure shows what was expected, and what was provided in its place. -/
inductive Contrasts : LinkError → (expected provided : String) → Prop where
  | kinds (module name : String) (expected provided : ItemKind) :
      Contrasts (.kindMismatch module name expected provided) expected.name provided.name
  | signatures (module name : String) (expected provided : Signature) :
      Contrasts (.signatureMismatch module name expected provided) expected.text provided.text
  | types (module name : String) (expected provided : ItemType) :
      Contrasts (.incompatibleType module name expected provided) expected.text provided.text

variable {error : LinkError} {expected provided : String}

/-- Both texts stand at the end of the message. -/
theorem Contrasts.message_eq (shows : error.Contrasts expected provided) :
    ∃ opening, error.message = opening ++ expected ++ ", provided " ++ provided := by
  cases shows with
  | kinds | signatures | types => exact ⟨_, rfl⟩

/-- Where a failure shows what was expected and what was provided, the two differ. -/
def TellsApart (error : LinkError) : Prop :=
  ∀ expected provided, error.Contrasts expected provided → expected ≠ provided

/-- A failure that shows no two texts has none to tell apart. -/
theorem tellsApart_of_not_contrasts
    (shows : ∀ expected provided, ¬error.Contrasts expected provided) : error.TellsApart :=
  fun _ _ contrasts => absurd contrasts (shows _ _)

theorem tellsApart_trapped (cause : CallError) : (trapped cause).TellsApart :=
  tellsApart_of_not_contrasts nofun

theorem tellsApart_instantiate (reason : String) : (instantiate reason).TellsApart :=
  tellsApart_of_not_contrasts nofun

/-- No error of the engine is reported as a comparison. -/
theorem tellsApart_ofEngine (raised : EngineError) : (ofEngine raised).TellsApart := by
  rcases ofEngine_eq raised with isTrapped | ⟨isInstantiate, -⟩
  · rw [isTrapped]
    exact tellsApart_trapped _
  · rw [isInstantiate]
    exact tellsApart_instantiate _

end LinkError

/-! ## What links fail with -/

namespace Context

variable {σ : Type} {context : Context σ} {error : LinkError}

/-- What is wrong with an item is shown in two texts that differ. -/
theorem ImportFault.tellsApart {index : Nat} {declared : ImportDecl} {given : Option Item}
    (fault : context.ImportFault index declared given error) : error.TellsApart := by
  intro expected provided shows
  cases fault with
  | missing | foreign => cases shows
  | kind own isType differs =>
      cases shows
      exact fun same => differs (ItemKind.name_prefixFree.injective same).symm
  | signature own isType isDeclared differs =>
      cases shows
      exact fun same => differs (Signature.text_injective same)
  | incompatible own isType sameKind noFunc refused =>
      cases shows
      intro same
      rw [ItemType.text_injective same] at refused
      exact refused (.refl _)

/-- What a link fails with before guest code runs tells apart what it shows. -/
theorem LinkFails.tellsApart {artifact : Artifact} {items : List Item}
    (fails : context.LinkFails artifact items error) : error.TellsApart := by
  cases fails with
  | environment | unexpected => exact LinkError.tellsApart_of_not_contrasts nofun
  | imports isDeclared fault => exact fault.tellsApart
  | undescribed isGiven own standsNot reason => exact LinkError.tellsApart_instantiate reason
  | engine failure => exact LinkError.tellsApart_ofEngine _

/-- Of an item of the context whose type is not accepted, the check shows two texts. -/
theorem checkImport_contrasts {declared : ImportDecl} {item : Item} {type : ItemType}
    {lowered : Extern} (own : item.context = context.id)
    (isType : context.Described item type lowered) (refused : ¬declared.type.Accepts type) :
    ∃ error expected provided, context.checkImport declared item = .error error ∧
      error.Contrasts expected provided := by
  have notAccepted : ¬declared.type.accepts type = true := by rwa [ItemType.accepts_iff]
  rw [checkImport_of_described own isType]
  by_cases sameKind : type.kind = declared.type.kind
  · rw [if_neg (not_not.2 sameKind), if_neg notAccepted]
    split
    · exact ⟨_, _, _, rfl, .signatures ..⟩
    · exact ⟨_, _, _, rfl, .types ..⟩
  · rw [if_pos sameKind]
    exact ⟨_, _, _, rfl, .kinds ..⟩

theorem link_tellsApart {after : Context σ} {artifact : Artifact} {items : List Item}
    (answered : context.link artifact items = (.answered (.error error), after)) :
    error.TellsApart := by
  rcases link_fails answered with fails | ⟨raised, rfl⟩
  · exact fails.tellsApart
  · exact LinkError.tellsApart_ofEngine raised

end Context

/-- So it is for a link that returns with an act, to a closure or to the embedder, -/
theorem Stage.linkReturn?_tellsApart {σ : Type} {stage : Stage σ} {act : Act σ}
    {ret : LinkReturn σ} (returned : stage.linkReturn? act = some ret) {error : LinkError}
    (failed : ret.outcome = .error error) : error.TellsApart := by
  unfold linkReturn? at returned
  split at returned
  · exact (Context.linkReturn?_fails returned failed).tellsApart
  · rcases Context.stepReturn?_fails returned failed with
      ⟨artifact, items, next, below, isLink, fails⟩ | ⟨raised, rfl⟩
    · exact fails.tellsApart
    · exact LinkError.tellsApart_ofEngine raised
  · contradiction

/-- and for all that returned in a history. -/
theorem tellsApart_of_mem_linkReturns {σ : Type} {past : List (Stage σ × Act σ)}
    {ret : LinkReturn σ} (member : ret ∈ linkReturns past) {error : LinkError}
    (failed : ret.outcome = .error error) : error.TellsApart := by
  induction past with
  | nil => cases member
  | cons happened earlier inductionHypothesis =>
      rcases List.mem_append.1 member with before | latest
      · exact inductionHypothesis before
      · exact Stage.linkReturn?_tellsApart (Option.mem_toList.1 latest) failed

namespace Linker

/-- For a name that is not defined nothing was provided. -/
theorem resolve_tellsApart {linker : Linker} {artifact : Artifact} {error : LinkError}
    (failed : linker.resolve artifact = .error error) : error.TellsApart := by
  obtain ⟨index, declared, -, rfl⟩ := resolve_eq_error_iff.1 failed
  exact LinkError.tellsApart_of_not_contrasts nofun

/-- Texts tell types apart, and so does every failure of a link that shows two of them. -/
structure TypeTextsUnambiguous : Prop where
  /-- Signatures with the same text are the same. -/
  signatures : Function.Injective Signature.text
  /-- Types of items with the same text are the same. -/
  types : Function.Injective ItemType.text
  /-- What a failure shows as expected and as provided stands at the end of its message. -/
  shown : ∀ error expected provided, LinkError.Contrasts error expected provided →
    ∃ opening, error.message = opening ++ expected ++ ", provided " ++ provided
  /-- An item of the context of a type that an import does not accept is reported so. -/
  reported : ∀ {σ : Type} (context : Context σ) (declared : ImportDecl) item type lowered,
    item.context = context.id → context.describe item = .ok (type, lowered) →
      declared.type.accepts type = false → ∃ error expected provided,
        context.checkImport declared item = .error error ∧ error.Contrasts expected provided
  /-- The two differ in what the embedder is told of a link by position -/
  linked : ∀ {σ : Type} (context after : Context σ) artifact items error,
    context.link artifact items = (.answered (.error error), after) → error.TellsApart
  /-- and of a link by name. -/
  named : ∀ {σ : Type} (linker : Linker) (context after : Context σ) artifact error,
    linker.link context artifact = (.answered (.error error), after) → error.TellsApart
  /-- They differ in every failure that a link returned in a history, to whatever waited for
  it. -/
  returned : ∀ {σ : Type} (past : List (Stage σ × Act σ)), ∀ ret ∈ linkReturns past,
    ∀ error, ret.outcome = .error error → error.TellsApart
  /-- A link by name in a closure is one of these links, or it fails at a name, and then the
  failure does not show two texts that are the same either. -/
  namedWithin : ∀ {σ : Type} (linker : Linker) artifact
    (next : Except LinkError InstanceHandle → Proc σ),
      (∃ items, linker.linkWithin artifact next = .link artifact items next) ∨
        ∃ error, linker.linkWithin artifact next = next (.error error) ∧ error.TellsApart

/-- Different types are written differently, and a link never fails showing the same text as
expected and as provided. -/
theorem typeTextsUnambiguous : TypeTextsUnambiguous where
  signatures := Signature.text_injective
  types := ItemType.text_injective
  shown _ _ _ shows := shows.message_eq
  reported := by
    intro σ context declared item type lowered own described refused
    refine Context.checkImport_contrasts own ((context.describe_eq_ok_iff _ _ _).1 described) ?_
    rw [← ItemType.accepts_iff, refused]
    nofun
  linked _ _ _ _ _ answered := Context.link_tellsApart answered
  named := by
    intro σ linker context after artifact error answered
    rcases linker.link_answered answered with ⟨found, resolved, same, -⟩ | ⟨items, -, linked⟩
    · cases same
      exact resolve_tellsApart resolved
    · exact Context.link_tellsApart linked
  returned _ _ member _ failed := tellsApart_of_mem_linkReturns member failed
  namedWithin := by
    intro σ linker artifact next
    unfold linkWithin
    cases resolved : linker.resolve artifact with
    | ok items => exact .inl ⟨items, rfl⟩
    | error error => exact .inr ⟨error, rfl, resolve_tellsApart resolved⟩

end Linker

end WasmSandbox
