import WasmSandbox.Boundary.Mismatch

/-!
Contract: function signatures and the checks of value kinds against them.

Owns:
- signatures with structural equality, and their text;
- the check of argument kinds: the count first, then the least bad position;
- the check of result slots: the count first, then the least position that is
  empty or of another kind.

Does not own: ownership of references, which needs a context.
-/

namespace WasmSandbox

/-- Ordered parameter kinds and ordered result kinds. -/
structure Signature where
  params : List ValueKind
  results : List ValueKind
deriving DecidableEq, Repr, Inhabited

namespace Signature

/-- The signature `() -> ()`. -/
def empty : Signature := ⟨[], []⟩

/-- A signature is written `(i32, i64) -> (f32)`. -/
def text (signature : Signature) : String :=
  kindListText signature.params ++ " -> " ++ kindListText signature.results

/-- The first position, counted from `index`, where two kind lists differ. -/
def firstDifference (index : Nat) :
    List ValueKind → List ValueKind → Option (Nat × ValueKind × ValueKind)
  | expected :: expecteds, found :: founds =>
      if expected = found then firstDifference (index + 1) expecteds founds
      else some (index, expected, found)
  | _, _ => none

/-- Arguments fit when there are as many as parameters and each has the kind of
its parameter; otherwise the first failure in that order is reported. -/
def checkParams (signature : Signature) (found : List ValueKind) : Except TypeMismatch Unit :=
  if found.length ≠ signature.params.length then
    .error (.argumentCount signature.params.length found.length)
  else
    match firstDifference 0 signature.params found with
    | some (index, expected, kind) => .error (.argumentKind index expected kind)
    | none => .ok ()

/-- The violation at the first slot, counted from `index`, that is empty or of
another kind than declared. -/
def firstBadSlot (index : Nat) :
    List ValueKind → List (Option ValueKind) → Option ContractViolation
  | expected :: _, none :: _ => some (.missingResult index expected)
  | expected :: expecteds, some found :: slots =>
      if expected = found then firstBadSlot (index + 1) expecteds slots
      else some (.resultKind index expected found)
  | _, _ => none

/-- Result slots honour the signature when there is one for each declared
result and each holds a value of the declared kind. -/
def checkResults (signature : Signature) (written : List (Option ValueKind)) :
    Except ContractViolation Unit :=
  if written.length ≠ signature.results.length then
    .error (.resultCount signature.results.length written.length)
  else
    match firstBadSlot 0 signature.results written with
    | some violation => .error violation
    | none => .ok ()

end Signature

end WasmSandbox
