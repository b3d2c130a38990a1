import WasmSandbox.Linker
import WasmSandbox.Script.Body

/-!
Contract: sessions, in which an embedder runs the steps of a script one by one.

Owns:
- what names stand for: environments, contexts, linkers and artifacts each have a
  space of their own, and everything within contexts shares one;
- the numbers of contexts, in the order in which they are made;
- the steps of the embedder and their answers.

The host data of every context holds the board of the session while the context is
in use, so closures see and bind the same names as the embedder.  A failed step
binds nothing.

Does not own: what happens inside of a context.
-/

namespace WasmSandbox.Script

open WasmSandbox

/-- The state of a session.  Names of environments lead to a position, since copies
of an environment share everything. -/
structure Session where
  environments : Array Environment := #[]
  envNames : List (String × Nat) := []
  contexts : List (String × Context Desk) := []
  linkers : List (String × Linker) := []
  board : Board := {}
  /-- The number of contexts that were made. -/
  made : Nat := 0

/-- What a step of a session answers: a document, or a reason why there is none. -/
inductive Answered where
  | ok (answer : Json)
  | trouble (reason : Trouble)
  | panicked
  /-- The step does not come to an end. -/
  | unfinished

def Answered.json : Answered → Json
  | .ok answer => Answer.ok answer
  | .trouble reason => reason.answer
  | .panicked => Answer.named "panic"
  | .unfinished => Answer.named "unfinished"

/-- A list with an entry for a name, in place of an earlier one. -/
def put {α : Type} (entries : List (String × α)) (name : Option String) (value : α) :
    List (String × α) :=
  match name with
  | some name => (name, value) :: entries.filter fun entry => entry.1 ≠ name
  | none => entries

namespace Session

variable (session : Session)

/-! ## Names -/

/-- The position of an environment, and the environment. -/
def env (name : String) : Except Trouble (Nat × Environment) := do
  let position ← bound (session.envNames.lookup name)
  return (position, ← bound session.environments[position]?)

def context (name : String) : Except Trouble (Context Desk) :=
  bound (session.contexts.lookup name)

def linker (name : String) : Except Trouble Linker :=
  bound (session.linkers.lookup name)

def setEnv (position : Nat) (environment : Environment) : Session :=
  { session with environments := session.environments.setIfInBounds position environment }

/-- The session with a context changed.  The board goes back to the session. -/
def setContext (name : String) (context : Context Desk) : Session :=
  { session with
    board := context.data.board
    contexts := put session.contexts (some name)
      { context with data := { context.data with board := {} } } }

def setLinker (name : String) (linker : Linker) : Session :=
  { session with linkers := put session.linkers (some name) linker }

/-- The context with a name, with the board of the session. -/
def enter (name : String) : Except Trouble (Context Desk) := do
  let context ← session.context name
  return { context with data := { context.data with board := session.board, outcome := none } }

/-! ## Steps -/

/-- What a step answers, and the session after it. -/
abbrev Stepped := Answered × Session

def answer (answer : Json) : Stepped := (.ok answer, session)

/-- A failure of the sandbox that changes nothing. -/
def failure (error : SandboxError) : Stepped := (.trouble (.failed error), session)

/-- What is looked up, or the failure to find it. -/
def withFound {α : Type} (found : Except Trouble α) (use : α → Stepped) : Stepped :=
  match found with
  | .ok found => use found
  | .error trouble => (.trouble trouble, session)

def within (name : String) (step : ContextStep) : Stepped :=
  session.withFound (session.enter name) fun context =>
    match step with
    | .text =>
        session.answer (.string
          ("Context \x7b id: ContextId(" ++ toString context.id.number ++ "), data: HostData(" ++
            toString context.data.counter.toInt ++ ", " ++ toString context.data.log.size ++
            "), funcs: " ++ toString context.funcCount ++ ", instances: " ++
            toString context.instanceCount ++ " \x7d"))
    | step =>
        let given : Given :=
          { args := step.args.mapM (evaluateOutside session.board)
            value := do
              match step.value? with
              | some value => evaluateOutside session.board value
              | none => .error .badStep }
        let keep (outcome : Except Trouble Done) : Proc Desk :=
          update (fun desk => { desk with outcome := some (outcome.map Done.answer) })
            (.finish Slots.empty)
        match context.perform (runStep given keep step) with
        | (.answered _, context) =>
            let after := session.setContext name context
            match context.data.outcome with
            | some (.ok answer) => (.ok answer, after)
            | some (.error trouble) => (.trouble trouble, after)
            | none => (.unfinished, after)
        | (.panicked, context) => (.panicked, session.setContext name context)
        | (.unfinished, context) => (.unfinished, session.setContext name context)

/-- An item that is written and bound outside of any context. -/
def answerItem (bind : Option String) (item : Item) : Stepped :=
  let board := (session.board.bind bind (.item item)).introduce item.func?.toList
  (.ok (Answer.item board.label item), { session with board := board })

def stepEnv (bind : Option String) (config : Config) : Stepped :=
  let position := session.environments.size
  match Environment.create ⟨position⟩ config with
  | .error error => session.failure (.compile error)
  | .ok environment =>
      (.ok .null, { session with
        environments := session.environments.push environment
        envNames := put session.envNames bind position })

/-- A new context, with a number greater than all before. -/
def stepContext (bind : Option String) (env : String) (counter : BitVec 64) : Stepped :=
  session.withFound (session.env env) fun (_, environment) =>
    let number := session.made + 1
    let context : Context Desk := Context.create ⟨number⟩ environment { counter := counter }
    (.ok (.record [("ctx", .nat number), ("fresh", .bool true)]),
      { session with made := number, contexts := put session.contexts bind context })

def stepCompile (bind : Option String) (env : String) (input : List UInt8) : Stepped :=
  session.withFound (session.env env) fun (position, environment) =>
    match environment.compile input with
    | .error error => session.failure (.compile error)
    | .ok (artifact, environment) =>
        let session := session.setEnv position environment
        let board := { session.board with artifacts := put session.board.artifacts bind artifact }
        (.ok (Answer.surfaceTexts artifact), { session with board := board })

def contextInfo (context : Context Desk) : Json :=
  .record ([("ctx", .nat context.id.number)] ++ context.data.members ++
    [("funcs", .nat context.funcCount), ("instances", .nat context.instanceCount),
     ("fuel", optionalNat context.fuel)])

def stepLinkerFunc (linker context module name : String) (signature : Signature)
    (body : List Action) : Stepped :=
  session.withFound (session.linker linker) fun found =>
    session.withFound (session.enter context) fun entered =>
      match found.defineFunc entered module name signature (closure signature body) with
      | (.ok changed, entered) =>
          (.ok .null, (session.setContext context entered).setLinker linker changed)
      | (.error error, entered) => (session.setContext context entered).failure (.link error)

/-- The exports of an instance are defined. -/
def stepLinkerInstance (linker context module inst : String) : Stepped :=
  session.withFound (session.board.inst inst) fun inst =>
    session.withFound (session.linker linker) fun found =>
      session.withFound (session.enter context) fun entered =>
        let ((error, changed), entered) := found.defineInstance entered module inst
        let after := (session.setContext context entered).setLinker linker changed
        match error with
        | none => after.answer .null
        | some error => after.failure (.link error)

def stepLinkerLink (bind : Option String) (linker context artifact : String) : Stepped :=
  session.withFound (session.board.artifact artifact) fun artifact =>
    session.withFound (session.linker linker) fun found =>
      session.withFound (session.enter context) fun entered =>
        match found.link entered artifact with
        | (.answered (.ok inst), entered) =>
            let after := session.setContext context entered
            (.ok (.record [("ctx", .nat inst.context.number)]),
              { after with board := after.board.bind bind (.inst inst) })
        | (.answered (.error error), entered) =>
            (session.setContext context entered).failure (.link error)
        | (.panicked, entered) => (.panicked, session.setContext context entered)
        | (.unfinished, entered) => (.unfinished, session.setContext context entered)

def step : Step → Stepped
  | .env bind config => session.stepEnv bind config
  | .envClone bind env =>
      session.withFound (session.env env) fun (position, _) =>
        (.ok .null, { session with envNames := put session.envNames bind position })
  | .envSame first second =>
      session.withFound (session.env first) fun (first, _) =>
        session.withFound (session.env second) fun (second, _) =>
          session.answer (.bool (first = second))
  | .cached env =>
      session.withFound (session.env env) fun (_, environment) =>
        session.answer (.nat environment.cachedArtifacts)
  | .clearCache env =>
      session.withFound (session.env env) fun (position, environment) =>
        (.ok .null, session.setEnv position environment.clearCache)
  | .evict env artifact =>
      session.withFound (session.env env) fun (position, environment) =>
        session.withFound (session.board.artifact artifact) fun artifact =>
          let (evicted, environment) := environment.evict artifact
          (.ok (.bool evicted), session.setEnv position environment)
  | .envText env =>
      session.withFound (session.env env) fun (_, environment) =>
        session.answer (.string environment.text)
  | .compile bind env input => session.stepCompile bind env input
  | .artifact artifact =>
      session.withFound (session.board.artifact artifact) fun artifact =>
        session.answer (Answer.artifact artifact)
  | .surface artifact =>
      session.withFound (session.board.artifact artifact) fun artifact =>
        session.answer (.record (Answer.surfaceMembers artifact))
  | .artifactExport artifact name =>
      session.withFound (session.board.artifact artifact) fun artifact =>
        session.answer (.optional (fun item => .string item.type.text) (artifact.export? name))
  | .artifactSame first second =>
      session.withFound (session.board.artifact first) fun first =>
        session.withFound (session.board.artifact second) fun second =>
          session.answer (.record [("same", .bool (first.same second)),
            ("digest", .bool (first.digest = second.digest)),
            ("surface", .bool (first.surface = second.surface))])
  | .context bind env counter => session.stepContext bind env counter
  | .contextDrop name =>
      session.withFound (session.context name) fun context =>
        (.ok (.record context.data.members),
          { session with contexts := session.contexts.filter fun entry => entry.1 ≠ name })
  | .contextEnv name env =>
      session.withFound (session.context name) fun context =>
        session.withFound (session.env env) fun (_, environment) =>
          session.answer (.bool (context.environment = environment.id))
  | .contextInfo name =>
      session.withFound (session.context name) fun context => session.answer (contextInfo context)
  | .setFuel name fuel =>
      session.withFound (session.enter name) fun context =>
        match context.setFuel fuel with
        | .ok context => (.ok (optionalNat context.fuel), session.setContext name context)
        | .error error => session.failure error
  | .within name step => session.within name step
  | .linker bind => (.ok .null, { session with linkers := put session.linkers bind {} })
  | .linkerShadow name allow =>
      session.withFound (session.linker name) fun linker =>
        (.ok .null, session.setLinker name (linker.setShadowing allow))
  | .linkerDefine name module item thing =>
      session.withFound (session.board.item thing) fun thing =>
        session.withFound (session.linker name) fun linker =>
          match linker.define module item thing with
          | .ok linker => (.ok .null, session.setLinker name linker)
          | .error error => session.failure (.link error)
  | .linkerFunc linker context module name signature body =>
      session.stepLinkerFunc linker context module name signature body
  | .linkerInstance linker context module inst =>
      session.stepLinkerInstance linker context module inst
  | .linkerGet bind name module item =>
      session.withFound (session.linker name) fun linker =>
        match linker.get? module item with
        | some item => session.answerItem bind item
        | none => session.answer .null
  | .linkerResolve name artifact =>
      session.withFound (session.linker name) fun linker =>
        session.withFound (session.board.artifact artifact) fun artifact =>
          match linker.resolve artifact with
          | .ok items =>
              let (board, answers) := session.board.itemList items
              (.ok (.array answers), { session with board := board })
          | .error error => session.failure (.link error)
  | .linkerLink bind linker context artifact =>
      session.stepLinkerLink bind linker context artifact
  | .malformed => (.trouble .badStep, session)

/-- The answers to the steps of a script, in order. -/
def answers (session : Session) : List Step → List Json
  | [] => []
  | first :: rest =>
      let (answered, session) := session.step first
      answered.json :: answers session rest

end Session

/-- The answers to the steps of a script that starts with nothing. -/
def answers (steps : List Step) : List Json :=
  Session.answers {} steps

end WasmSandbox.Script
