import WasmSandbox.Boundary.Surface
import Mathlib.Logic.Function.Basic

/-!
Contract: when values fit a signature, and which guest types have a signature.

Owns:
- the check of arguments and the check of result slots, each as an equation between
  lists of kinds;
- the correspondence of signatures and guest function types: each signature has one
  guest type, and a guest type that can cross has exactly that one signature.

Does not own: which failure a check reports.
-/

namespace WasmSandbox

open Wasm

/-! ## Checks -/

namespace Signature

private theorem firstDifference_eq_none_iff (index : Nat) (expected found : List ValueKind)
    (sameLength : found.length = expected.length) :
    firstDifference index expected found = none ↔ found = expected := by
  induction expected generalizing index found with
  | nil =>
      have noneFound : found = [] := List.length_eq_zero_iff.1 sameLength
      simp [firstDifference, noneFound]
  | cons kind expecteds inductionHypothesis =>
      cases found with
      | nil => simp at sameLength
      | cons first founds =>
          have restLength : founds.length = expecteds.length := by simpa using sameLength
          by_cases same : kind = first
          · rw [firstDifference, if_pos same, inductionHypothesis _ _ restLength, same]
            simp
          · rw [firstDifference, if_neg same]
            simp [Ne.symm same]

/-- Arguments pass the check exactly when their kinds are the parameters. -/
theorem checkParams_eq_ok_iff (signature : Signature) (found : List ValueKind) :
    signature.checkParams found = .ok () ↔ found = signature.params := by
  unfold checkParams
  by_cases sameLength : found.length = signature.params.length
  · rw [if_neg (by simpa using sameLength),
      ← firstDifference_eq_none_iff 0 _ _ sameLength]
    cases firstDifference 0 signature.params found <;> simp
  · rw [if_pos sameLength]
    constructor
    · intro accepted
      contradiction
    · intro same
      exact absurd (congrArg List.length same) sameLength

private theorem firstBadSlot_eq_none_iff (index : Nat) (expected : List ValueKind)
    (written : List (Option ValueKind)) (sameLength : written.length = expected.length) :
    firstBadSlot index expected written = none ↔ written = expected.map some := by
  induction expected generalizing index written with
  | nil =>
      have noneWritten : written = [] := List.length_eq_zero_iff.1 sameLength
      simp [firstBadSlot, noneWritten]
  | cons kind expecteds inductionHypothesis =>
      cases written with
      | nil => simp at sameLength
      | cons slot slots =>
          have restLength : slots.length = expecteds.length := by simpa using sameLength
          cases slot with
          | none => simp [firstBadSlot]
          | some found =>
              by_cases same : kind = found
              · rw [firstBadSlot, if_pos same, inductionHypothesis _ _ restLength, same]
                simp
              · rw [firstBadSlot, if_neg same]
                simp [Ne.symm same]

/-- Result slots pass the check exactly when they hold the declared kinds. -/
theorem checkResults_eq_ok_iff (signature : Signature) (written : List (Option ValueKind)) :
    signature.checkResults written = .ok () ↔ written = signature.results.map some := by
  unfold checkResults
  by_cases sameLength : written.length = signature.results.length
  · rw [if_neg (by simpa using sameLength),
      ← firstBadSlot_eq_none_iff 0 _ _ sameLength]
    cases firstBadSlot 0 signature.results written <;> simp
  · rw [if_pos sameLength]
    constructor
    · intro accepted
      contradiction
    · intro same
      exact absurd (by simp [same]) sameLength

end Signature

/-! ## Guest types -/

namespace ValueKind

theorem ofGuest?_eq_some_iff (type : ValType) (kind : ValueKind) :
    ofGuest? type = some kind ↔ type = kind.guest := by
  cases type <;> cases kind <;> simp [ofGuest?, guest]

theorem guest_injective : Function.Injective guest := by
  intro first second same
  cases first <;> cases second <;> simp_all [guest]

theorem listOfGuest_eq_ok_iff (types : List ValType) (kinds : List ValueKind) :
    listOfGuest types = .ok kinds ↔ types = kinds.map guest := by
  induction types generalizing kinds with
  | nil =>
      cases kinds <;> simp [listOfGuest]
  | cons type types inductionHypothesis =>
      cases crossing : ofGuest? type with
      | none =>
          have stays : ∀ kind : ValueKind, type ≠ kind.guest := by
            intro kind same
            rw [(ofGuest?_eq_some_iff type kind).2 same] at crossing
            contradiction
          simp only [listOfGuest, crossing]
          cases kinds with
          | nil => simp
          | cons kind kinds => simp [stays kind]
      | some kind =>
          have guest_eq := (ofGuest?_eq_some_iff type kind).1 crossing
          simp only [listOfGuest, crossing]
          cases rest : listOfGuest types with
          | error reason =>
              have noRest : ∀ kinds : List ValueKind, types ≠ kinds.map guest := by
                intro kinds same
                rw [(inductionHypothesis kinds).2 same] at rest
                contradiction
              cases kinds with
              | nil => simp [bind, Except.bind]
              | cons other others => simp [bind, Except.bind, noRest others]
          | ok others =>
              have rest_eq := (inductionHypothesis others).1 rest
              subst guest_eq rest_eq
              simp only [bind, Except.bind, pure, Except.pure, Except.ok.injEq]
              rw [← List.map_cons, (List.map_inj_right fun _ _ same => guest_injective same)]

end ValueKind

namespace Signature

/-- A guest function type has a signature exactly when it is the type of that
signature. -/
theorem ofGuest_eq_ok_iff (type : FuncType) (signature : Signature) :
    ofGuest type = .ok signature ↔ type = signature.guest := by
  obtain ⟨params, results⟩ := type
  obtain ⟨paramKinds, resultKinds⟩ := signature
  simp only [guest, FuncType.mk.injEq, ← ValueKind.listOfGuest_eq_ok_iff, ofGuest]
  cases ValueKind.listOfGuest params <;> cases ValueKind.listOfGuest results <;>
    simp [bind, Except.bind, pure, Except.pure]

theorem guest_injective : Function.Injective guest := by
  intro first second same
  have read := (ofGuest_eq_ok_iff first.guest second).2 same
  rw [(ofGuest_eq_ok_iff first.guest first).2 rfl] at read
  exact Except.ok.inj read

end Signature

end WasmSandbox
