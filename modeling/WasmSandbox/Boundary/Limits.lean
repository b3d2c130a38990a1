/-!
Contract: size limits of memories and tables.

Owns:
- limits as a 64-bit minimum and an optional 64-bit maximum;
- the rule by which provided limits satisfy declared ones;
- their text.

Does not own: the unit (pages or elements) or any bound on the numbers.
-/

namespace WasmSandbox

/-- A least size and, unless it is unbounded, a greatest size. -/
structure Limits where
  minimum : UInt64
  maximum : Option UInt64
deriving DecidableEq, Repr

namespace Limits

/-- `declared` is satisfied by `provided` when the provided minimum covers the
declared one and a declared maximum is met by one at least as tight. -/
def satisfiedBy (declared provided : Limits) : Bool :=
  if provided.minimum < declared.minimum then false
  else
    match declared.maximum, provided.maximum with
    | none, _ => true
    | some _, none => false
    | some bound, some offered => offered ≤ bound

/-- Limits are written `1..` or `1..2`. -/
def text (limits : Limits) : String :=
  match limits.maximum with
  | some maximum => toString limits.minimum ++ ".." ++ toString maximum
  | none => toString limits.minimum ++ ".."

end Limits

end WasmSandbox
