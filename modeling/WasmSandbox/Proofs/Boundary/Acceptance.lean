import WasmSandbox.Proofs.Context.ImportWalk

/-!
Contract: acceptance of types as an order.

Owns:
- the sizes that limits allow;
- that tight limits are ordered, and that they are those that allow no further size;
- that acceptance is a partial order on the types of items.

Limits with a maximum below the minimum allow no size at all.  They are included in all
limits and tight for few of them, so inclusion is only compared where some size is allowed.

Does not own: what is reported for an item that is not accepted
(`WasmSandbox.Proofs.Context.ImportWalk`).
-/

namespace WasmSandbox

/-! ## Limits -/

namespace Limits

variable {declared between provided : Limits}

/-- A size is allowed between the minimum and the maximum, or from the minimum on where no
maximum is given. -/
def Allows (limits : Limits) (size : Nat) : Prop :=
  limits.minimum.toNat ≤ size ∧ ∀ bound, limits.maximum = some bound → size ≤ bound.toNat

/-- The minimum does not exceed the maximum. -/
def Proper (limits : Limits) : Prop :=
  ∀ bound, limits.maximum = some bound → limits.minimum ≤ bound

namespace Tight

theorem refl (limits : Limits) : limits.Tight limits :=
  ⟨UInt64.le_refl _, fun bound isMaximum => ⟨bound, isMaximum, UInt64.le_refl _⟩⟩

theorem trans (first : declared.Tight between) (second : between.Tight provided) :
    declared.Tight provided := by
  refine ⟨UInt64.le_trans first.least second.least, ?_⟩
  intro bound isDeclared
  obtain ⟨middle, isBetween, below⟩ := first.greatest bound isDeclared
  obtain ⟨offered, isProvided, offeredBelow⟩ := second.greatest middle isBetween
  exact ⟨offered, isProvided, UInt64.le_trans offeredBelow below⟩

theorem antisymm (one : declared.Tight provided) (other : provided.Tight declared) :
    declared = provided := by
  obtain ⟨declaredMinimum, declaredMaximum⟩ := declared
  obtain ⟨providedMinimum, providedMaximum⟩ := provided
  have sameMinimum : declaredMinimum = providedMinimum :=
    UInt64.le_antisymm one.least other.least
  have sameMaximum : declaredMaximum = providedMaximum := by
    cases declaredMaximum with
    | some bound =>
        obtain ⟨offered, isProvided, offeredBelow⟩ := one.greatest bound rfl
        obtain ⟨again, isDeclared, below⟩ := other.greatest offered isProvided
        cases isDeclared
        exact (congrArg some (UInt64.le_antisymm below offeredBelow)).trans isProvided.symm
    | none =>
        cases providedMaximum with
        | none => rfl
        | some offered =>
            obtain ⟨bound, isDeclared, -⟩ := other.greatest offered rfl
            contradiction
  rw [sameMinimum, sameMaximum]

/-- Tight limits allow no size that the declared ones do not allow. -/
theorem allows {size : Nat} (tight : declared.Tight provided) (allowed : provided.Allows size) :
    declared.Allows size := by
  refine ⟨Nat.le_trans (UInt64.le_iff_toNat_le.1 tight.least) allowed.1, ?_⟩
  intro bound isDeclared
  obtain ⟨offered, isProvided, below⟩ := tight.greatest bound isDeclared
  exact Nat.le_trans (allowed.2 offered isProvided) (UInt64.le_iff_toNat_le.1 below)

/-- Proper limits that allow no size beyond the declared ones are tight: their least size
shows the minimum.  Their greatest size, or a size beyond the declared maximum where there is
none, shows the maximum. -/
theorem of_forall_allows (proper : provided.Proper)
    (included : ∀ size, provided.Allows size → declared.Allows size) :
    declared.Tight provided := by
  have least : provided.Allows provided.minimum.toNat :=
    ⟨Nat.le_refl _, fun bound isMaximum => UInt64.le_iff_toNat_le.1 (proper bound isMaximum)⟩
  refine ⟨UInt64.le_iff_toNat_le.2 (included _ least).1, ?_⟩
  intro bound isDeclared
  cases isProvided : provided.maximum with
  | some offered =>
      have greatest : provided.Allows offered.toNat := by
        refine ⟨UInt64.le_iff_toNat_le.1 (proper offered isProvided), ?_⟩
        intro maximum isMaximum
        rw [isProvided] at isMaximum
        exact Nat.le_of_eq (congrArg UInt64.toNat (Option.some.inj isMaximum))
      exact ⟨offered, rfl,
        UInt64.le_iff_toNat_le.2 ((included _ greatest).2 bound isDeclared)⟩
  | none =>
      have beyond : provided.Allows (provided.minimum.toNat + bound.toNat + 1) :=
        ⟨by omega, by simp [isProvided]⟩
      have := (included _ beyond).2 bound isDeclared
      omega

end Tight

/-- Proper limits satisfy the declared ones exactly if they allow no further size. -/
theorem satisfiedBy_iff_forall_allows (proper : provided.Proper) :
    declared.satisfiedBy provided = true ↔
      ∀ size, provided.Allows size → declared.Allows size := by
  rw [satisfiedBy_iff_tight]
  exact ⟨fun tight _ allowed => tight.allows allowed, Tight.of_forall_allows proper⟩

end Limits

/-! ## Types -/

namespace ItemType

variable {declared between provided : ItemType}

namespace Accepts

theorem refl (type : ItemType) : type.Accepts type := by
  cases type with
  | func signature => exact .func signature
  | memory type => exact .memory (.refl type.limits)
  | table type => exact .table type.element (.refl type.limits)
  | global type => exact .global type

theorem trans (first : declared.Accepts between) (second : between.Accepts provided) :
    declared.Accepts provided := by
  cases first with
  | func | global => exact second
  | memory tight =>
      cases second with
      | memory tighter => exact .memory (tight.trans tighter)
  | table element tight =>
      cases second with
      | table _ tighter => exact .table element (tight.trans tighter)

theorem antisymm (one : declared.Accepts provided) (other : provided.Accepts declared) :
    declared = provided := by
  cases one with
  | func | global => rfl
  | memory tight =>
      cases other with
      | memory converse => rw [tight.antisymm converse]
  | table element tight =>
      cases other with
      | table _ converse => rw [tight.antisymm converse]

end Accepts

/-- Acceptance is a partial order, and for sizes it is inclusion. -/
structure AcceptanceOrder : Prop where
  /-- Every type accepts itself. -/
  reflexive : ∀ type : ItemType, type.accepts type = true
  /-- What a type accepts is accepted by whatever accepts that type. -/
  transitive : ∀ declared between provided : ItemType, declared.accepts between = true →
    between.accepts provided = true → declared.accepts provided = true
  /-- Types that accept each other are the same. -/
  antisymmetric : ∀ one other : ItemType, one.accepts other = true →
    other.accepts one = true → one = other
  /-- Proper limits are as declared exactly if every size they allow is allowed there. -/
  limits_iff : ∀ declared provided : Limits, provided.Proper →
    (declared.satisfiedBy provided = true ↔
      ∀ size : Nat, provided.Allows size → declared.Allows size)
  /-- Memories are accepted by their sizes. -/
  memory_iff : ∀ declared provided : MemoryType, provided.limits.Proper →
    ((ItemType.memory declared).accepts (.memory provided) = true ↔
      ∀ size : Nat, provided.limits.Allows size → declared.limits.Allows size)
  /-- Tables are accepted by their elements and their sizes. -/
  table_iff : ∀ declared provided : TableType, provided.limits.Proper →
    ((ItemType.table declared).accepts (.table provided) = true ↔
      declared.element = provided.element ∧
        ∀ size : Nat, provided.limits.Allows size → declared.limits.Allows size)

/-- Over all types, acceptance is a partial order that means inclusion of sizes. -/
theorem acceptance_order : AcceptanceOrder where
  reflexive type := (accepts_iff _ _).2 (.refl type)
  transitive declared between provided first second :=
    (accepts_iff _ _).2 (((accepts_iff _ _).1 first).trans ((accepts_iff _ _).1 second))
  antisymmetric one other forth back :=
    ((accepts_iff _ _).1 forth).antisymm ((accepts_iff _ _).1 back)
  limits_iff _ _ proper := Limits.satisfiedBy_iff_forall_allows proper
  memory_iff declared provided proper := by
    rw [← Limits.satisfiedBy_iff_forall_allows proper]
    rfl
  table_iff declared provided proper := by
    rw [← Limits.satisfiedBy_iff_forall_allows proper]
    simp [accepts]

end ItemType

end WasmSandbox
