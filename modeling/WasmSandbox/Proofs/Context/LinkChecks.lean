import WasmSandbox.Proofs.Context.ImportWalk
import WasmSandbox.Proofs.Context.Unwinding

/-!
Contract: which links the engine is asked for, and what becomes of every other one.

Owns:
- what a link is refused for: another environment, and otherwise its imports;
- that a link which is refused is over at once and changes nothing, and that every other one
  is up to the engine, which is given what the items are in it;
- that in a life of a context no link fails because an item stands for nothing.

Does not own: the walk over the imports (`WasmSandbox.Proofs.Context.ImportWalk`), and what
the engine makes of a link (`WasmSandbox.Proofs.Engine.Instances`).
-/

namespace WasmSandbox

open Wasm

namespace Context

variable {σ : Type} {context : Context σ}

/-! ## Links that are refused -/

/-- Why a link is refused before the engine is asked.  Imports are only looked at for an
artifact of the same environment. -/
inductive RefusesLink (context : Context σ) (artifact : Artifact) (items : List Item) :
    LinkError → Prop where
  | environment (other : artifact.environment ≠ context.environment) :
      RefusesLink context artifact items .environmentMismatch
  | imports {error : LinkError} (same : artifact.environment = context.environment)
      (refuses : context.RefusesImports artifact.imports items error) :
      RefusesLink context artifact items error

/-- Where a link goes that is not refused: the engine gets what the items are in it, and
makes an instance or fails.  The context changes in nothing but the engine. -/
inductive ReachesEngine (context : Context σ) (artifact : Artifact) (items : List Item)
    (wait : LinkWait σ) : Run σ → Prop where
  | failed {externs : List Extern} {failure : InstantiationFailure} {store : Store (Closure σ)}
      (given : List.Forall₂ (fun item provided => ∃ type, context.Described item type provided)
        items externs)
      (engine : instantiate context.store artifact.module externs = (.error failure, store)) :
      ReachesEngine context artifact items wait
        (({ context with store := store }).deliverLink (.error (instantiationError failure)) wait)
  | linked {externs : List Extern} {owner : Nat} {store : Store (Closure σ)}
      (given : List.Forall₂ (fun item provided => ∃ type, context.Described item type provided)
        items externs)
      (engine : instantiate context.store artifact.module externs = (.ok owner, store))
      (noStart : artifact.module.start = none) :
      ReachesEngine context artifact items wait
        (({ context with store := store }).finishLink ⟨owner, artifact⟩ wait)
  | started {externs : List Extern} {owner index : Nat} {store : Store (Closure σ)}
      (given : List.Forall₂ (fun item provided => ∃ type, context.Described item type provided)
        items externs)
      (engine : instantiate context.store artifact.module externs = (.ok owner, store))
      (start : artifact.module.start = some index) :
      ReachesEngine context artifact items wait
        ({ context with store := store },
          .entering (.guest owner index) [] (.starting ⟨owner, artifact⟩ wait))

/-! ## What becomes of a link -/

section

variable {artifact : Artifact} {items : List Item} {error : LinkError}

/-- What is refused is over at once, and nothing changes. -/
theorem RefusesLink.beginLink_eq
    (stands : ∀ item ∈ items, item.context = context.id → context.Stands item)
    (refuses : context.RefusesLink artifact items error) (wait : LinkWait σ) :
    context.beginLink artifact items wait = context.deliverLink (.error error) wait := by
  cases refuses with
  | environment other => rw [beginLink, if_pos other]
  | imports same refuses =>
      rw [beginLink, if_neg (not_not.2 same), (resolveImports_eq_error_iff error stands).2 refuses]

theorem RefusesLink.unique {other : LinkError}
    (stands : ∀ item ∈ items, item.context = context.id → context.Stands item)
    (refuses : context.RefusesLink artifact items error)
    (alsoRefuses : context.RefusesLink artifact items other) : error = other := by
  have same := (refuses.beginLink_eq stands .embedder).symm.trans
    (alsoRefuses.beginLink_eq stands .embedder)
  exact Except.error.inj (RunState.linked.inj (Prod.mk.inj same).2)

theorem no_refusesLink_iff
    (stands : ∀ item ∈ items, item.context = context.id → context.Stands item) :
    (∀ error, ¬context.RefusesLink artifact items error) ↔
      artifact.environment = context.environment ∧
        List.Forall₂ context.Satisfies artifact.imports items := by
  rw [← no_refusesImports_iff stands]
  constructor
  · intro noReason
    have same : artifact.environment = context.environment := by
      by_contra other
      exact noReason _ (.environment other)
    exact ⟨same, fun error refuses => noReason error (.imports same refuses)⟩
  · rintro ⟨same, noReason⟩ error refuses
    cases refuses with
    | environment other => exact other same
    | imports _ refuses => exact noReason error refuses

/-- What is not refused is up to the engine. -/
theorem beginLink_reachesEngine
    (stands : ∀ item ∈ items, item.context = context.id → context.Stands item)
    (noReason : ∀ error, ¬context.RefusesLink artifact items error) (wait : LinkWait σ) :
    context.ReachesEngine artifact items wait (context.beginLink artifact items wait) := by
  have same := ((no_refusesLink_iff stands).1 noReason).1
  rw [beginLink, if_neg (not_not.2 same)]
  cases resolved : context.resolveImports artifact items with
  | error error =>
      exact absurd (.imports same ((resolveImports_eq_error_iff error stands).1 resolved))
        (noReason error)
  | ok externs =>
      have given : List.Forall₂ (fun item provided => ∃ type, context.Described item type provided)
          items externs := by
        refine (resolveImports_items resolved).imp ?_
        rintro item provided ⟨declared, passes⟩
        obtain ⟨-, type, isType, -⟩ := (context.checkImport_eq_ok_iff _ _ _).1 passes
        exact ⟨type, (context.describe_eq_ok_iff _ _ _).1 isType⟩
      simp only [onStore_eq]
      cases engine : instantiate context.store artifact.module externs with
      | mk outcome store =>
          cases outcome with
          | error failure => exact .failed given engine
          | ok owner =>
              cases start : artifact.module.start with
              | none => exact .linked given engine start
              | some index => exact .started given engine start

/-- A link of the embedder that is over at once gives its result back. -/
theorem link_of_delivered {result : Except LinkError InstanceHandle}
    (delivered : context.beginLink artifact items .embedder = (context, .linked result)) :
    context.link artifact items = (.answered result, context) := by
  have ended : run manySteps context (.linked result) = (context, .linked result) :=
    run_of_halted rfl manySteps
  unfold link
  rw [delivered]
  simp only [ended]

end

end Context

/-! ## Links in a life -/

/-- A link is asked for with items that exist: those of the context were handed out. -/
def PresentsItems {σ : Type} (past : List (Stage σ × Act σ)) (context : Context σ)
    (items : List Item) : Prop :=
  ∀ item ∈ items, item.context = context.id → .item item ∈ mintedIn past

/-- How links are checked in a context, after a history. -/
structure ImportsChecked {σ : Type} (past : List (Stage σ × Act σ)) (context : Context σ) :
    Prop where
  /-- The walk over the imports fails exactly for the reasons there are. -/
  walked : ∀ artifact items, PresentsItems past context items → ∀ error,
    context.resolveImports artifact items = .error error ↔
      context.RefusesImports artifact.imports items error
  /-- There is no reason exactly if the artifact is of the same environment, and there is one
  item for each declared import, which satisfies it. -/
  passed : ∀ artifact items, PresentsItems past context items →
    ((∀ error, ¬context.RefusesLink artifact items error) ↔
      artifact.environment = context.environment ∧
        List.Forall₂ context.Satisfies artifact.imports items)
  /-- There is one reason at most. -/
  exclusive : ∀ artifact items, PresentsItems past context items → ∀ one other,
    context.RefusesLink artifact items one → context.RefusesLink artifact items other →
      one = other
  /-- A link that is refused returns at once to what waits for it, and nothing changes. -/
  refused : ∀ artifact items, PresentsItems past context items → ∀ error,
    context.RefusesLink artifact items error → ∀ wait,
      context.beginLink artifact items wait = context.deliverLink (.error error) wait ∧
        (context.beginLink artifact items wait).1 = context
  /-- So it is for the embedder, for whom the link is over then. -/
  returned : ∀ artifact items, PresentsItems past context items → ∀ error,
    context.RefusesLink artifact items error →
      context.link artifact items = (.answered (.error error), context)
  /-- Another environment is noticed first, whatever the items are. -/
  environment : ∀ artifact items, artifact.environment ≠ context.environment → ∀ wait,
    context.beginLink artifact items wait =
      context.deliverLink (.error .environmentMismatch) wait
  /-- Every other link is up to the engine. -/
  reached : ∀ artifact items, PresentsItems past context items →
    (∀ error, ¬context.RefusesLink artifact items error) → ∀ wait,
      context.ReachesEngine artifact items wait (context.beginLink artifact items wait)
  /-- Items that were handed out have a type, -/
  described : ∀ item, .item item ∈ mintedIn past →
    ∃ type lowered, context.describe item = .ok (type, lowered)
  /-- so no link fails because one has none. -/
  typed : ∀ artifact items, PresentsItems past context items → ∀ reason,
    context.resolveImports artifact items ≠ .error (.instantiate reason)

/-- In every life of a context, a link is refused exactly for the first import that is not
satisfied, or for items beyond the declared ones, before anything runs or changes.  Every
other link is up to the engine. -/
theorem Life.importsChecked {σ : Type} {id : ContextId} {environment : Environment} {data : σ}
    {past : List (Stage σ × Act σ)} {stage : Stage σ}
    (life : Life (.create id environment data) past stage) (honest : Honest past)
    (valid : LinksValid past) : ImportsChecked past stage.context := by
  have begins := Context.create_sound id environment data
  have tended := Context.create_tended id environment data
  have minted {item : Item} (member : .item item ∈ mintedIn past) : stage.context.Stands item :=
    life.minted_stands begins tended honest valid member
  have stands {items : List Item} (presents : PresentsItems past stage.context items) :
      ∀ item ∈ items, item.context = stage.context.id → stage.context.Stands item :=
    fun item member own => minted (presents item member own)
  refine ⟨?walked, ?passed, ?exclusive, ?refused, ?returned, ?environment, ?reached, ?described,
    ?typed⟩
  case walked =>
    intro artifact items presents error
    exact Context.resolveImports_eq_error_iff error (stands presents)
  case passed =>
    intro artifact items presents
    exact Context.no_refusesLink_iff (stands presents)
  case exclusive =>
    intro artifact items presents one other refuses alsoRefuses
    exact refuses.unique (stands presents) alsoRefuses
  case refused =>
    intro artifact items presents error refuses wait
    have delivered := refuses.beginLink_eq (stands presents) wait
    refine ⟨delivered, ?_⟩
    rw [delivered, Context.deliverLink_context]
  case returned =>
    intro artifact items presents error refuses
    exact Context.link_of_delivered (refuses.beginLink_eq (stands presents) .embedder)
  case environment =>
    intro artifact items other wait
    rw [Context.beginLink, if_pos other]
  case reached =>
    intro artifact items presents noReason wait
    exact Context.beginLink_reachesEngine (stands presents) noReason wait
  case described =>
    intro item member
    obtain ⟨type, lowered, isType⟩ := minted member
    exact ⟨type, lowered, (stage.context.describe_eq_ok_iff _ _ _).2 isType⟩
  case typed =>
    intro artifact items presents reason fails
    have refuses := (Context.resolveImports_eq_error_iff _ (stands presents)).1 fails
    cases refuses with
    | unsatisfied isDeclared fault least => exact fault.ne_instantiate reason rfl

/-! ## A link with which two things are wrong -/

namespace TooSmall

/-- A module that imports a function and two memories. -/
def artifact : Artifact where
  environment := ⟨0⟩
  serial := 0
  module :=
    { imports := [⟨"env", "f", .func ⟨[], []⟩⟩, ⟨"env", "m", .memory ⟨⟨2, none⟩, false⟩⟩,
        ⟨"env", "n", .memory ⟨⟨1, none⟩, false⟩⟩] }
  digest := []
  surface := ⟨[⟨"env", "f", .func .empty⟩, ⟨"env", "m", .memory ⟨⟨2, none⟩⟩⟩,
    ⟨"env", "n", .memory ⟨⟨1, none⟩⟩⟩], []⟩
  surface_eq := rfl

def fresh : Context Unit := .create ⟨0⟩ { id := ⟨0⟩, config := {} } ()

/-- The function fits, the first memory is too small, and the second one is missing. -/
def items : List Item := [.func ⟨⟨0⟩, 0⟩, .memory ⟨⟨0⟩, 0, none⟩]

/-- What the link is refused for. -/
def reason : LinkError :=
  .incompatibleType "env" "m" (.memory ⟨⟨2, none⟩⟩) (.memory ⟨⟨1, none⟩⟩)

theorem lives : ∃ past context, Life fresh past (.idle context) ∧ Honest past ∧
    LinksValid past ∧ PresentsItems past context items ∧
      context.RefusesLink artifact items reason := by
  have registered : Life fresh _ _ := Life.created.acted
    (show Stage.take _ (.register ⟨[], []⟩ fun _ => .finish Slots.empty) = some _ from rfl)
  have made := registered.acted
    (show Stage.take _ (.ask (.createMemory ⟨⟨1, none⟩⟩)) = some _ from rfl)
  refine ⟨_, _, made, ⟨nofun, nofun, trivial⟩, .silent (.silent .nil rfl) rfl, ?presents, ?refuses⟩
  case presents =>
    intro item member _
    rcases List.mem_cons.1 member with rfl | member
    · exact .tail _ (.head _)
    · cases List.mem_singleton.1 member
      exact .head _
  case refuses =>
    have small : ¬(ItemType.memory ⟨⟨2, none⟩⟩).Accepts (.memory ⟨⟨1, none⟩⟩) := by
      rw [← ItemType.accepts_iff]
      decide
    refine .imports rfl (.unsatisfied (show artifact.imports[1]? = some _ from rfl) ?fault ?least)
    case fault =>
      exact .incompatible rfl
        ((Context.describe_eq_ok_iff _ _ (.memory ⟨⟨1, none⟩⟩) (.memory 0)).1 rfl) rfl nofun small
    case least =>
      intro earlier below
      obtain rfl : earlier = 0 := Nat.lt_one_iff.1 below
      exact ⟨_, _, rfl, rfl, rfl, _, _, .func rfl, .func _⟩

end TooSmall

/-- The link is refused for the first memory, and nothing is linked. -/
theorem Life.importsChecked_of_tooSmall : ∃ past context,
    Life TooSmall.fresh past (.idle context) ∧ Honest past ∧ LinksValid past ∧
      ImportsChecked past context ∧ context.link TooSmall.artifact TooSmall.items =
        (.answered (.error TooSmall.reason), context) := by
  obtain ⟨past, context, life, honest, valid, presents, refuses⟩ := TooSmall.lives
  have checks := Life.importsChecked life honest valid
  exact ⟨past, context, life, honest, valid, checks, checks.returned _ _ presents _ refuses⟩

end WasmSandbox
