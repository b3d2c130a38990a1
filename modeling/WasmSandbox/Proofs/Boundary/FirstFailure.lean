import WasmSandbox.Proofs.Boundary.Fit

/-!
Contract: which failure a check of kinds reports.

Owns:
- the first position at which what is found does not fit what is expected;
- that the check of arguments reports both numbers if they differ, and otherwise the first
  position whose kind is another one, with both kinds;
- that the check of result slots, where there is one for each result, reports the first
  slot that is empty or holds another kind.

Both walks count positions up from an index, so what they report is stated for any index
first: an induction over the lists moves it.

Does not own: when a check passes (`WasmSandbox.Proofs.Boundary.Fit`), or ownership.
-/

namespace WasmSandbox

/-! ## The first position that does not fit -/

/-- At a position something is found that does not fit what is expected there, and at every
position before it what is found fits. -/
structure FirstMisfit {α β : Type} (fits : α → β → Prop) (expecteds : List α) (founds : List β)
    (position : Nat) (expected : α) (found : β) : Prop where
  isExpected : expecteds[position]? = some expected
  isFound : founds[position]? = some found
  misfit : ¬fits expected found
  least : ∀ earlier < position, ∀ before present, expecteds[earlier]? = some before →
    founds[earlier]? = some present → fits before present

namespace FirstMisfit

variable {α β : Type} {fits : α → β → Prop} {first expected : α} {expecteds : List α}
  {head found : β} {founds : List β} {position : Nat}

/-- Where the first ones fit, the first misfit is one of the others. -/
theorem cons_iff (isFit : fits first head) :
    FirstMisfit fits (first :: expecteds) (head :: founds) position expected found ↔
      ∃ later, position = later + 1 ∧
        FirstMisfit fits expecteds founds later expected found := by
  constructor
  · rintro ⟨isExpected, isFound, misfit, least⟩
    cases position with
    | zero =>
        cases isExpected
        cases isFound
        exact absurd isFit misfit
    | succ later =>
        refine ⟨later, rfl, by simpa using isExpected, by simpa using isFound, misfit, ?_⟩
        intro earlier below before present isBefore isPresent
        exact least (earlier + 1) (Nat.succ_lt_succ below) before present
          (by simpa using isBefore) (by simpa using isPresent)
  · rintro ⟨later, rfl, isExpected, isFound, misfit, least⟩
    refine ⟨by simpa using isExpected, by simpa using isFound, misfit, ?_⟩
    intro earlier below before present isBefore isPresent
    cases earlier with
    | zero =>
        cases isBefore
        cases isPresent
        exact isFit
    | succ earlier =>
        exact least earlier (Nat.lt_of_succ_lt_succ below) before present
          (by simpa using isBefore) (by simpa using isPresent)

/-- Where the first ones do not fit, they are the first misfit. -/
theorem cons_iff_of_misfit (misfit : ¬fits first head) :
    FirstMisfit fits (first :: expecteds) (head :: founds) position expected found ↔
      position = 0 ∧ expected = first ∧ found = head := by
  constructor
  · rintro ⟨isExpected, isFound, -, least⟩
    cases position with
    | zero =>
        cases isExpected
        cases isFound
        exact ⟨rfl, rfl, rfl⟩
    | succ later => exact absurd (least 0 (Nat.succ_pos later) first head rfl rfl) misfit
  · rintro ⟨rfl, rfl, rfl⟩
    exact ⟨rfl, rfl, misfit, fun earlier below => absurd below (Nat.not_lt_zero earlier)⟩

theorem not_nil_left : ¬FirstMisfit fits [] founds position expected found :=
  fun misfit => by simpa using misfit.isExpected

theorem not_nil_right : ¬FirstMisfit fits expecteds [] position expected found :=
  fun misfit => by simpa using misfit.isFound

/-- There is only one first misfit. -/
theorem unique {otherPosition : Nat} {otherExpected : α} {otherFound : β}
    (one : FirstMisfit fits expecteds founds position expected found)
    (other : FirstMisfit fits expecteds founds otherPosition otherExpected otherFound) :
    position = otherPosition ∧ expected = otherExpected ∧ found = otherFound := by
  obtain rfl : position = otherPosition := by
    rcases Nat.lt_trichotomy position otherPosition with before | same | after
    · exact absurd (other.least _ before _ _ one.isExpected one.isFound) one.misfit
    · exact same
    · exact absurd (one.least _ after _ _ other.isExpected other.isFound) other.misfit
  exact ⟨rfl, Option.some.inj (one.isExpected.symm.trans other.isExpected),
    Option.some.inj (one.isFound.symm.trans other.isFound)⟩

end FirstMisfit

namespace Signature

/-! ## Arguments -/

theorem firstDifference_eq_some_iff (index : Nat) (expecteds founds : List ValueKind)
    (position : Nat) (expected found : ValueKind) :
    firstDifference index expecteds founds = some (position, expected, found) ↔
      ∃ offset, position = index + offset ∧
        FirstMisfit (· = ·) expecteds founds offset expected found := by
  induction expecteds generalizing index founds with
  | nil => simp [firstDifference, FirstMisfit.not_nil_left]
  | cons first expecteds inductionHypothesis =>
      cases founds with
      | nil => simp [firstDifference, FirstMisfit.not_nil_right]
      | cons head founds =>
          by_cases same : first = head
          · rw [firstDifference, if_pos same, inductionHypothesis]
            simp only [FirstMisfit.cons_iff same]
            constructor
            · rintro ⟨offset, rfl, misfit⟩
              exact ⟨offset + 1, by omega, offset, rfl, misfit⟩
            · rintro ⟨_, rfl, offset, rfl, misfit⟩
              exact ⟨offset, by omega, misfit⟩
          · rw [firstDifference, if_neg same]
            simp only [FirstMisfit.cons_iff_of_misfit same]
            grind

/-- The check of arguments reports their number if it is wrong, and otherwise the first
position at which the kinds differ. -/
theorem checkParams_eq_error_iff (signature : Signature) (found : List ValueKind)
    (mismatch : TypeMismatch) :
    signature.checkParams found = .error mismatch ↔
      (found.length ≠ signature.params.length ∧
          mismatch = .argumentCount signature.params.length found.length) ∨
        (found.length = signature.params.length ∧ ∃ position expected kind,
          FirstMisfit (· = ·) signature.params found position expected kind ∧
            mismatch = .argumentKind position expected kind) := by
  unfold checkParams
  by_cases sameLength : found.length = signature.params.length
  · rw [if_neg (by simpa using sameLength)]
    have reported (position : Nat) (expected kind : ValueKind) :=
      firstDifference_eq_some_iff 0 signature.params found position expected kind
    simp only [Nat.zero_add, exists_eq_left'] at reported
    cases difference : firstDifference 0 signature.params found with
    | none =>
        simp only [difference] at reported
        grind
    | some place =>
        obtain ⟨position, expected, kind⟩ := place
        have isFirst := (reported position expected kind).1 difference
        constructor
        · intro fails
          exact .inr ⟨sameLength, position, expected, kind, isFirst, (Except.error.inj fails).symm⟩
        · rintro (⟨differs, -⟩ | ⟨-, other, otherExpected, otherKind, alsoFirst, rfl⟩)
          · exact absurd sameLength differs
          · obtain ⟨rfl, rfl, rfl⟩ := isFirst.unique alsoFirst
            rfl
  · rw [if_pos sameLength]
    simp [sameLength, eq_comm]

/-! ## Result slots -/

/-- A slot holds a value of the declared kind. -/
def SlotFits (kind : ValueKind) (slot : Option ValueKind) : Prop := slot = some kind

/-- What is wrong with a slot that does not hold the declared kind. -/
def slotViolation (position : Nat) (expected : ValueKind) : Option ValueKind → ContractViolation
  | none => .missingResult position expected
  | some found => .resultKind position expected found

theorem firstBadSlot_eq_some_iff (index : Nat) (expecteds : List ValueKind)
    (written : List (Option ValueKind)) (violation : ContractViolation) :
    firstBadSlot index expecteds written = some violation ↔
      ∃ offset expected slot, FirstMisfit SlotFits expecteds written offset expected slot ∧
        violation = slotViolation (index + offset) expected slot := by
  induction expecteds generalizing index written with
  | nil => simp [firstBadSlot, FirstMisfit.not_nil_left]
  | cons first expecteds inductionHypothesis =>
      cases written with
      | nil => simp [firstBadSlot, FirstMisfit.not_nil_right]
      | cons head written =>
          by_cases same : SlotFits first head
          · simp only [FirstMisfit.cons_iff same]
            rw [same, firstBadSlot, if_pos rfl, inductionHypothesis]
            constructor
            · rintro ⟨offset, expected, slot, misfit, rfl⟩
              have sameIndex : index + 1 + offset = index + (offset + 1) := by omega
              exact ⟨offset + 1, expected, slot, ⟨offset, rfl, misfit⟩, by rw [sameIndex]⟩
            · rintro ⟨_, expected, slot, ⟨offset, rfl, misfit⟩, rfl⟩
              have sameIndex : index + 1 + offset = index + (offset + 1) := by omega
              exact ⟨offset, expected, slot, misfit, by rw [sameIndex]⟩
          · have reported : firstBadSlot index (first :: expecteds) (head :: written) =
                some (slotViolation index first head) := by
              cases head with
              | none => rfl
              | some found =>
                  have differs : first ≠ found := fun equal => same (congrArg some equal.symm)
                  rw [firstBadSlot, if_neg differs, slotViolation]
            rw [reported, Option.some.injEq]
            simp only [FirstMisfit.cons_iff_of_misfit same]
            grind

/-- Where there is a slot for each result, the check of slots reports the first one that does
not hold the declared kind. -/
theorem checkResults_eq_error_iff (signature : Signature) {written : List (Option ValueKind)}
    (sameLength : written.length = signature.results.length) (violation : ContractViolation) :
    signature.checkResults written = .error violation ↔
      ∃ position expected slot,
        FirstMisfit SlotFits signature.results written position expected slot ∧
          violation = slotViolation position expected slot := by
  have reported := firstBadSlot_eq_some_iff 0 signature.results written violation
  simp only [Nat.zero_add] at reported
  rw [← reported, checkResults, if_neg (by simpa using sameLength)]
  cases firstBadSlot 0 signature.results written <;> simp

end Signature

end WasmSandbox
