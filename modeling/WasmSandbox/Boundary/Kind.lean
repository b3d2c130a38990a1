/-!
Contract: the closed set of value kinds that may cross the sandbox boundary.

Owns:
- the kinds and the split into numbers and references;
- the name of each kind and the reading of a name.

Does not own: values of a kind, or the wider set of types a guest uses inside.
-/

namespace WasmSandbox

/-- The kind of a value that crosses the boundary.  `funcRef` is the one
reference kind: a nullable handle to a callable of the same context. -/
inductive ValueKind where
  | i32
  | i64
  | f32
  | f64
  | funcRef
deriving DecidableEq, Repr, Inhabited

namespace ValueKind

def isReference : ValueKind → Bool
  | funcRef => true
  | _ => false

def isNumeric (kind : ValueKind) : Bool :=
  !kind.isReference

/-- The name under which a kind is written everywhere: in texts and in JSON. -/
def name : ValueKind → String
  | i32 => "i32"
  | i64 => "i64"
  | f32 => "f32"
  | f64 => "f64"
  | funcRef => "funcref"

/-- All kinds, in the order of their declaration. -/
def all : List ValueKind := [i32, i64, f32, f64, funcRef]

def ofName? (text : String) : Option ValueKind :=
  all.find? fun kind => kind.name == text

end ValueKind

/-- A list of kinds in parentheses: `(i32, f64)`. -/
def kindListText (kinds : List ValueKind) : String :=
  "(" ++ ", ".intercalate (kinds.map ValueKind.name) ++ ")"

end WasmSandbox
