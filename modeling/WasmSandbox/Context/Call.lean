import WasmSandbox.Context.Machine

/-!
Contract: what the embedder does with a context from outside.

Owns:
- runs of many steps, and what becomes of them;
- calls and links by the embedder;
- programs of the embedder, which interact with a context like closures do.

A run ends with a result or in a panic.  Guest code may also run on for ever; a run
is therefore cut off after a number of steps that no run reaches in practice, and
that case is kept apart from the two ends.

Does not own: single steps.
-/

namespace WasmSandbox

namespace Context

variable {σ : Type}

/-- A run of at most `bound` steps, up to a state without a next step. -/
def run : (bound : Nat) → Context σ → RunState σ → Run σ
  | 0, context, state => (context, state)
  | bound + 1, context, state =>
      match context.step state with
      | some (context, state) => run bound context state
      | none => (context, state)

/-- More steps than any run takes. -/
def manySteps : Nat := 1 <<< 62

/-- What the embedder gets back from a run. -/
inductive Ending (α : Type) where
  | answered (answer : α)
  | panicked
  | unfinished

/-- The end of a call of the embedder, and the context after it. -/
def call (context : Context σ) (func : FuncHandle) (args : List Val) :
    Ending (Except CallError (List Val)) × Context σ :=
  let (context, state) := context.beginCall func args .embedder
  match run manySteps context state with
  | (context, .called result) => (.answered result, context)
  | (context, .panicked) => (.panicked, context)
  | (context, _) => (.unfinished, context)

/-- The end of a link of the embedder, and the context after it. -/
def link (context : Context σ) (artifact : Artifact) (imports : List Item) :
    Ending (Except LinkError InstanceHandle) × Context σ :=
  let (context, state) := context.beginLink artifact imports .embedder
  match run manySteps context state with
  | (context, .linked result) => (.answered result, context)
  | (context, .panicked) => (.panicked, context)
  | (context, _) => (.unfinished, context)

/-- The end of a program that the embedder runs outside of any call, and the context
after it. -/
def perform (context : Context σ) : Proc σ → Ending (Except HostError Slots) × Context σ
  | .finish slots => (.answered (.ok slots), context)
  | .fail error => (.answered (.error error), context)
  | .panic => (.panicked, context)
  | .ask request next =>
      match context.answer request with
      | .answered (answer, context) => perform context (next answer)
      | .panicked => (.panicked, context)
  | .register signature body next =>
      let (func, context) := context.createFunc signature body
      perform context (next func)
  | .call func args next =>
      match context.call func args with
      | (.answered result, context) => perform context (next result)
      | (.panicked, context) => (.panicked, context)
      | (.unfinished, context) => (.unfinished, context)
  | .link artifact imports next =>
      match context.link artifact imports with
      | (.answered result, context) => perform context (next result)
      | (.panicked, context) => (.panicked, context)
      | (.unfinished, context) => (.unfinished, context)

end Context

end WasmSandbox
