import WasmSandbox.Boundary.Kind

/-!
Contract: the two ways a list of values can fail a signature.

Owns:
- `TypeMismatch`, found in the arguments before anything runs;
- `ContractViolation`, found in the results a host closure left behind;
- their texts.

Does not own: the checks that raise them (`WasmSandbox.Boundary.Signature`).
-/

namespace WasmSandbox

/-- Arguments that do not fit the declared parameters. -/
inductive TypeMismatch where
  | argumentCount (expected found : Nat)
  | argumentKind (index : Nat) (expected found : ValueKind)
deriving DecidableEq, Repr

/-- The text of a mismatch names the numbers or the position and both kinds. -/
def TypeMismatch.message : TypeMismatch → String
  | argumentCount expected found =>
      "expected " ++ toString expected ++ " arguments, got " ++ toString found
  | argumentKind index expected found =>
      "argument " ++ toString index ++ ": expected " ++ expected.name ++
        ", got " ++ found.name

/-- Results that do not honour the declared signature of a host closure. -/
inductive ContractViolation where
  | resultCount (expected found : Nat)
  | missingResult (index : Nat) (expected : ValueKind)
  | resultKind (index : Nat) (expected found : ValueKind)
  | foreignReference (index : Nat)
deriving DecidableEq, Repr

/-- The text of a violation names the first position that breaks the contract. -/
def ContractViolation.message : ContractViolation → String
  | resultCount expected found =>
      "expected " ++ toString expected ++ " result slots, got " ++ toString found
  | missingResult index expected =>
      "result " ++ toString index ++ " (" ++ expected.name ++ ") was never written"
  | resultKind index expected found =>
      "result " ++ toString index ++ ": expected " ++ expected.name ++
        ", wrote " ++ found.name
  | foreignReference index =>
      "result " ++ toString index ++ " references a function from another context"

end WasmSandbox
