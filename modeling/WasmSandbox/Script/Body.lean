import WasmSandbox.Script.Desk

/-!
Contract: what the steps and closures of a script do in a context.

Owns:
- the value of expressions;
- steps as interactions with a context, and their answers;
- closures as lists of actions, run in order.

Names are looked up before anything is done, so a step with an unbound name has no
effect.  Labels are given out when an answer is written, whether it is kept or not.

Does not own: the interactions themselves.
-/

namespace WasmSandbox.Script

open WasmSandbox

/-- What a step leaves: its answer, and values for the expressions that follow. -/
structure Done where
  answer : Json
  last : Option (List Val) := none

abbrev Next := Except Trouble Done → Proc Desk

/-! ## Expressions -/

/-- Wrapping arithmetic on two integers of one width. -/
def Arith.apply (op : Arith) (first second : Val) : Except Trouble Val :=
  let compute {w : Nat} (a b : BitVec w) : BitVec w :=
    match op with
    | add => a + b
    | sub => a - b
    | mul => a * b
  match first, second with
  | .i32 a, .i32 b => .ok (.i32 (compute a b))
  | .i64 a, .i64 b => .ok (.i64 (compute a b))
  | _, _ => .error .badStep

def element (values : List Val) (index : Nat) : Except Trouble Val :=
  match values[index]? with
  | some value => .ok value
  | none => .error .badStep

/-- The value of an expression in a closure with the given arguments. -/
def evaluate (desk : Desk) (args last : List Val) : Expr → Except Trouble Val
  | .value value => .ok value
  | .named name => do return .funcRef (some (← desk.board.func name))
  | .arg index => element args index
  | .last index => element last index
  | .counter whole => .ok (desk.counterValue whole)
  | .arith op first second => do
      let first ← evaluate desk args last first
      let second ← evaluate desk args last second
      op.apply first second
  | .malformed => .error .badStep

/-- The value of an expression outside of any closure: there are only values. -/
def evaluateOutside (board : Board) : Expr → Except Trouble Val
  | .value value => .ok value
  | .named name => do return .funcRef (some (← board.func name))
  | _ => .error .badStep

/-- Whether a value counts as true: a number that is not zero, or a reference that
is not null.  Floats never do. -/
def isTrue : Val → Bool
  | .i32 bits => bits ≠ 0
  | .i64 bits => bits ≠ 0
  | .funcRef target => target.isSome
  | _ => false

/-! ## Steps -/

def ContextStep.args : ContextStep → List Expr
  | .call _ _ args => args
  | _ => []

def ContextStep.value? : ContextStep → Option Expr
  | .global _ _ value => some value
  | .globalSet _ value => some value
  | _ => none

/-- Values for the expressions of a step. -/
structure Given where
  args : Except Trouble (List Val)
  value : Except Trouble Val

def update (change : Desk → Desk) (next : Proc Desk) : Proc Desk :=
  .ask (.modify change) fun _ => next

/-- A change of the board, and an answer that is written with the changed board. -/
def conclude (change : Board → Board) (answer : Board → Json) (last : Option (List Val))
    (next : Next) : Proc Desk :=
  .ask .data fun desk =>
    let board := change desk.board
    update (fun desk => { desk with board := board }) (next (.ok ⟨answer board, last⟩))

/-- An answer that changes nothing. -/
def reply (answer : Json) (next : Next) : Proc Desk :=
  next (.ok ⟨answer, none⟩)

def trouble (error : SandboxError) (next : Next) : Proc Desk :=
  next (.error (.failed error))

/-- What is looked up on the board, or the failure to find it. -/
def withBoard {α : Type} (find : Board → Except Trouble α) (next : Next)
    (use : α → Proc Desk) : Proc Desk :=
  .ask .data fun desk =>
    match find desk.board with
    | .ok found => use found
    | .error trouble => next (.error trouble)

def onMemory {α : Type} (name : String)
    (request : MemoryHandle → (Except MemoryError α → Proc Desk) → Proc Desk)
    (answer : α → Json) (next : Next) : Proc Desk :=
  withBoard (·.memory name) next fun memory =>
    request memory fun
      | .ok value => reply (answer value) next
      | .error error => trouble (.memory error) next

def optionalNat (value : Option Nat) : Json := .optional .nat value

def limitJson (value : UInt64) : Json := .nat value.toNat

def concludeItem (bind : Option String) (item : Item) (next : Next) : Proc Desk :=
  conclude (fun board => (board.bind bind (.item item)).introduce item.func?.toList)
    (fun board => Answer.item board.label item) none next

/-- A step that registers no function. -/
def plainStep (step : ContextStep) (given : Given) (next : Next) : Proc Desk :=
  match step with
  | .funcInfo name =>
      withBoard (·.func name) next fun func =>
        .ask (.signature func) fun signature =>
          .ask (.isHost func) fun isHost =>
            conclude (·.introduce [func])
              (fun board => .record [("label", board.label func),
                ("ctx", .nat func.context.number),
                ("type", .optional (fun signature => .string signature.text) signature),
                ("is_host", .optional .bool isHost)]) none next
  | .call bind name _ =>
      withBoard (·.func name) next fun func =>
        match given.args with
        | .error trouble => next (.error trouble)
        | .ok args =>
            .call func args fun
              | .error error => trouble (.call error) next
              | .ok results =>
                  let funcs := references results
                  conclude (fun board => (board.bindFunc bind funcs.head?).introduce funcs)
                    (·.values results) (some results) next
  | .memory bind limits =>
      .ask (.createMemory ⟨limits⟩) fun
        | .error error => trouble (.memory error) next
        | .ok memory =>
            conclude (·.bind bind (.item (.memory memory))) (fun _ => .null) none next
  | .memoryInfo name =>
      withBoard (·.memory name) next fun memory =>
        .ask (.memoryType memory) fun type =>
          .ask (.memoryPages memory) fun pages =>
            .ask (.memorySize memory) fun size =>
              match type, pages, size with
              | .ok type, .ok pages, .ok size =>
                  reply (.record [("minimum", limitJson type.limits.minimum),
                    ("maximum", .optional limitJson type.limits.maximum), ("pages", .nat pages),
                    ("bytes", .nat size)]) next
              | .error error, _, _ => trouble (.memory error) next
              | _, .error error, _ => trouble (.memory error) next
              | _, _, .error error => trouble (.memory error) next
  | .readMemory name offset length =>
      onMemory name (fun memory => .ask (.readMemory memory offset length)) Answer.bytes next
  | .writeMemory name offset bytes =>
      onMemory name (fun memory => .ask (.writeMemory memory offset bytes)) (fun _ => .null) next
  | .readWord name offset =>
      onMemory name (fun memory => .ask (.readWord memory offset)) (fun word => .nat word.toNat)
        next
  | .writeWord name offset number =>
      onMemory name (fun memory => .ask (.writeWord memory offset number)) (fun _ => .null) next
  | .growMemory name delta =>
      onMemory name (fun memory => .ask (.growMemory memory delta)) .nat next
  | .memoryPages name => onMemory name (fun memory => .ask (.memoryPages memory)) .nat next
  | .memorySize name => onMemory name (fun memory => .ask (.memorySize memory)) .nat next
  | .tableInfo name =>
      withBoard (·.table name) next fun table =>
        .ask (.tableSize table) fun size =>
          .ask (.tableType table) fun type =>
            reply (.record [("size", optionalNat size),
              ("type", .optional (fun type => .string (ItemType.table type).text) type)]) next
  | .global bind type _ =>
      match given.value with
      | .error trouble => next (.error trouble)
      | .ok value =>
          .ask (.createGlobal type value) fun
            | .error error => trouble (.call error) next
            | .ok global =>
                conclude (·.bind bind (.item (.global global)))
                  (fun _ => .string type.text) none next
  | .globalGet bind name =>
      withBoard (·.global name) next fun global =>
        .ask (.getGlobal global) fun
          | .error error => trouble (.call error) next
          | .ok value =>
              let funcs := references [value]
              conclude (fun board => (board.bindFunc bind funcs.head?).introduce funcs)
                (fun board => Answer.value board.label value) (some [value]) next
  | .globalSet name _ =>
      withBoard (·.global name) next fun global =>
        match given.value with
        | .error trouble => next (.error trouble)
        | .ok value =>
            .ask (.setGlobal global value) fun
              | .error error => trouble (.call error) next
              | .ok () => reply .null next
  | .inst bind artifact imports =>
      withBoard (fun board => do return (← board.artifact artifact, ← imports.mapM board.item))
        next fun (artifact, items) =>
          .link artifact items fun
            | .error error => trouble (.link error) next
            | .ok inst =>
                conclude (·.bind bind (.inst inst))
                  (fun _ => .record [("ctx", .nat inst.context.number)]) none next
  | .lookup bind name exported want =>
      withBoard (·.inst name) next fun inst =>
        .ask (.lookup inst exported) fun
          | some item =>
              if want.all (· = item.kind) then concludeItem bind item next else reply .null next
          | none => reply .null next
  | .exports name =>
      withBoard (·.inst name) next fun inst =>
        .ask (.exports inst) fun items =>
          conclude (·.introduce (items.filterMap fun entry => entry.2.func?))
            (fun board => .list
              (fun entry => .array [.string entry.1, Answer.item board.label entry.2]) items)
            none next
  | .instanceArtifact name artifact =>
      withBoard (fun board => do return (← board.inst name, ← board.artifact artifact)) next
        fun (inst, artifact) =>
          .ask (.artifact inst) fun found =>
            reply (.optional (fun found => .bool (found.same artifact)) found) next
  | .item name =>
      withBoard (·.item name) next fun item =>
        conclude (·.introduce item.func?.toList)
          (fun board => .record
            (Answer.itemMembers board.label item ++ [("into", Answer.conversions item)]))
          none next
  | .fuel => .ask .fuel fun fuel => reply (optionalNat fuel) next
  | .data => .ask .data fun desk => reply (.record desk.members) next
  | .setCounter counter => update (fun desk => { desk with counter := counter }) (reply .null next)
  | .id =>
      .ask .id fun id =>
        reply (.record [("no", .nat id.number), ("text", .string ("ctx#" ++ toString id.number))])
          next
  | .text =>
      .ask .id fun id =>
        reply (.string ("Caller \x7b context: ContextId(" ++ toString id.number ++ "), .. \x7d"))
          next
  | .func _ _ _ => next (.error .badStep)
  | .malformed => next (.error .badStep)

/-! ## Closures -/

/-- What goes on after an action: the slots, and the values left by the last step
that left any. -/
abbrev Rest := Slots → List Val → Proc Desk

def logged (document : Json) (next : Proc Desk) : Proc Desk :=
  update (·.push document) next

/-- What a closure does after one of its steps. -/
def afterStep (keep : Bool) (onError : OnError) (slots : Slots) (last : List Val) (rest : Rest) :
    Next
  | .ok done =>
      let proceed := rest slots (done.last.getD last)
      if keep then logged (Answer.ok done.answer) proceed else proceed
  | .error trouble =>
      match onError with
      | .raise => .fail trouble.refusal
      | .ignore => rest slots last
      | .log => logged trouble.answer (rest slots last)

/-- An action that neither branches nor is a step.  `count` is the number of result
slots. -/
def plainAction (count : Nat) (args : List Val) (action : Action) (slots : Slots)
    (last : List Val) (rest : Rest) : Proc Desk :=
  match action with
  | .set slot value =>
      .ask .data fun desk =>
        match evaluate desk args last value with
        | .error trouble => .fail trouble.refusal
        | .ok value =>
            if slot < count then rest (slots.set slot (some value)) last
            else .fail (.failed "no such slot")
  | .unset slot =>
      if slot < count then rest (slots.set slot none) last else .fail (.failed "no such slot")
  | .count step =>
      update (fun desk => { desk with counter := desk.counter + step }) (rest slots last)
  | .log value => logged value (rest slots last)
  | .logArgs =>
      update (fun desk =>
        let board := desk.board.introduce (references args)
        { desk with board := board }.push (board.values args)) (rest slots last)
  | .caller =>
      .ask .id fun id =>
        .ask .fuel fun fuel =>
          update (fun desk => desk.push (.record [("ctx", .nat id.number),
            ("fuel", optionalNat fuel), ("counter", .int desk.counter.toInt),
            ("slots", .nat count),
            ("debug", .string
              ("Caller \x7b context: ContextId(" ++ toString id.number ++ "), .. \x7d"))]))
            (rest slots last)
  | .return => .finish slots
  | .fail message => .fail (.failed message)
  | .branch _ _ _ => .fail Trouble.badStep.refusal
  | .step _ _ _ => .fail Trouble.badStep.refusal
  | .malformed => .fail Trouble.badStep.refusal

mutual

def runStep (given : Given) (next : Next) : ContextStep → Proc Desk
  | .func bind signature body =>
      .register signature
        (fun args =>
          runActions signature.results.length args Slots.empty [] (fun slots _ => .finish slots)
            body)
        fun func => conclude
          (fun board => (board.bind bind (.item (.func func))).introduce [func])
          (·.label func) none next
  | step => plainStep step given next

/-- An action of a closure with `count` result slots. -/
def runAction (count : Nat) (args : List Val) (slots : Slots) (last : List Val) (rest : Rest) :
    Action → Proc Desk
  | .branch condition yes no =>
      .ask .data fun desk =>
        match evaluate desk args last condition with
        | .error trouble => .fail trouble.refusal
        | .ok value =>
            if isTrue value then runActions count args slots last rest yes
            else runActions count args slots last rest no
  | .step step keep onError =>
      let next := afterStep keep onError slots last rest
      .ask .data fun desk =>
        match step.args.mapM (evaluate desk args last), step.value?.mapM (evaluate desk args last)
        with
        | .error trouble, _ => next (.error trouble)
        | _, .error trouble => next (.error trouble)
        | .ok values, .ok value => runStep ⟨.ok values, (bound value)⟩ next step
  | action => plainAction count args action slots last rest

/-- The actions of a closure, in order. -/
def runActions (count : Nat) (args : List Val) (slots : Slots) (last : List Val) (rest : Rest) :
    List Action → Proc Desk
  | [] => rest slots last
  | action :: actions =>
      runAction count args slots last
        (fun slots last => runActions count args slots last rest actions) action

end

def closure (signature : Signature) (body : List Action) : Closure Desk := fun args =>
  runActions signature.results.length args Slots.empty [] (fun slots _ => .finish slots) body

end WasmSandbox.Script
