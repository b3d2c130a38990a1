import WasmSandbox.Proofs.Context.Lives

/-!
Contract: what crosses the boundary is typed.

Owns:
- the handles of functions that an act hands out, and those that it offers;
- honest lives, in which handles of the context are only offered after they were handed
  out: nobody can make up a handle;
- the arity of the engine: it passes and returns as many values as a function's type says;
- that closures start on arguments of the declared kinds, and that the call routine
  returns results of the declared kinds, with references to functions of the context.

Kinds and ownership are checked on the way, so only the number of the engine's values is
taken from the engine.  That a position is in range is checked nowhere: it follows from
where handles come from.

Does not own: which failure is reported when a check fails.
-/

namespace WasmSandbox

open Wasm

/-! ## Handles that are handed out and offered -/

/-- The functions that values refer to. -/
def targets (values : List Val) : List FuncHandle := values.filterMap Val.target?

namespace Context

variable {σ : Type}

/-- The handles in the answer to a request. -/
def answerHandles (context : Context σ) (request : Request σ) : List FuncHandle :=
  match context.answer request with
  | .answered (answer, _) => request.handles answer
  | .panicked => []

/-- The handles that a step hands out: to a closure that asks, makes a function or
starts, or to whoever made a call. -/
def stepIssued (context : Context σ) : RunState σ → List FuncHandle
  | .invoking _ args _ => targets args
  | .closure (.ask request _) _ => context.answerHandles request
  | .closure (.register signature body _) _ => [(context.createFunc signature body).1]
  | .leaving _ _ (.ok values) _ => targets values
  | _ => []

/-- The handles that a closure offers: as arguments, and in its slots. -/
def stepOffered : RunState σ → List FuncHandle
  | .closure (.call _ args _) _ => targets args
  | .closure (.finish slots) cont =>
      targets ((List.range cont.signature.results.length).map slots).reduceOption
  | _ => []

end Context

namespace Stage

variable {σ : Type}

/-- The handles that an act hands out. -/
def issued : Stage σ → Act σ → List FuncHandle
  | ⟨context, none⟩, .ask request => context.answerHandles request
  | ⟨context, none⟩, .register signature body => [(context.createFunc signature body).1]
  | ⟨context, some state⟩, .step => context.stepIssued state
  | _, _ => []

/-- The handles that an act offers. -/
def offered : Stage σ → Act σ → List FuncHandle
  | ⟨_, none⟩, .call _ args => targets args
  | ⟨_, some state⟩, .step => Context.stepOffered state
  | _, _ => []

/-- A function that the engine enters is passed as many arguments as its type has
parameters, and a function that was called returns as many values as its type has
results. -/
def KeepsArity (stage : Stage σ) : Prop :=
  match stage.running with
  | some (.entering func args _) =>
      ∀ type, stage.context.store.funcType? func = some type → args.length = type.params.length
  | some (.returning values (.called func _ _)) =>
      ∀ entry type, stage.context.funcEntry? func = some entry →
        stage.context.store.funcType? entry.key = some type →
          values.length = type.results.length
  | _ => True

end Stage

/-- The handles that were handed out. -/
def issuedIn {σ : Type} (past : List (Stage σ × Act σ)) : List FuncHandle :=
  past.flatMap fun happened => happened.1.issued happened.2

/-- A handle of the context is only offered after it was handed out. -/
def Honest {σ : Type} : List (Stage σ × Act σ) → Prop
  | [] => True
  | (stage, act) :: earlier =>
      (∀ func ∈ stage.offered act, func.context = stage.context.id → func ∈ issuedIn earlier) ∧
        Honest earlier

/-- An act that offers no function is honest. -/
theorem Honest.silent {σ : Type} {past : List (Stage σ × Act σ)} {stage : Stage σ} {act : Act σ}
    (honest : Honest past) (silent : stage.offered act = []) : Honest ((stage, act) :: past) :=
  ⟨by simp [silent], honest⟩

/-- The engine keeps to the arity of functions. -/
def ArityKept {σ : Type} (past : List (Stage σ × Act σ)) : Prop :=
  ∀ happened ∈ past, happened.1.KeepsArity

/-! ## Typed states -/

namespace Context

variable {σ : Type} {context : Context σ}

/-- Values have the given kinds, and fit the context. -/
structure Carries (context : Context σ) (kinds : List ValueKind) (values : List Val) : Prop where
  kinds : values.map Val.kind = kinds
  admits : ∀ value ∈ values, context.Admits value

/-- A closure that starts is that of a host function with the signature that is waited
for, and its arguments fit; a result that the call routine returns fits. -/
def Typed (context : Context σ) : RunState σ → Prop
  | .invoking body args cont =>
      context.Carries cont.signature.params args ∧
        ∃ number : Nat, context.store.hosts[number]? = some ⟨cont.signature, body⟩
  | .leaving _ signature (.ok values) _ => context.Carries signature.results values
  | _ => True

/-- References that a closure starts on, or that the call routine returns, are to functions
of the context. -/
def Backed (context : Context σ) : RunState σ → Prop
  | .invoking _ args _ => ∀ value ∈ args, context.Admits value
  | .leaving _ _ (.ok values) _ => ∀ value ∈ values, context.Admits value
  | _ => True

theorem Typed.backed {state : RunState σ} (typed : context.Typed state) : context.Backed state := by
  cases state with
  | invoking body args cont => exact typed.1.admits
  | leaving func signature result wait =>
      cases result with
      | ok values => exact typed.admits
      | error error => trivial
  | _ => trivial

theorem Carries.mono {after : Context σ} {kinds : List ValueKind} {values : List Val}
    (carries : context.Carries kinds values) (extension : Extends context after) :
    after.Carries kinds values :=
  ⟨carries.kinds, fun value member => (carries.admits value member).mono extension⟩

theorem owns_of_admits {values : List Val} (admits : ∀ value ∈ values, context.Admits value)
    {func : FuncHandle} (member : func ∈ targets values) : context.Owns func := by
  obtain ⟨value, inValues, target⟩ := List.mem_filterMap.1 member
  exact admits value inValues func target

theorem belongsTo_iff (id : ContextId) (value : Val) :
    value.belongsTo id = true ↔ ∀ func, value.target? = some func → func.context = id := by
  cases value with
  | funcRef target => cases target <;> simp [Val.belongsTo, Val.target?]
  | _ => simp [Val.belongsTo, Val.target?]

/-- Values that passed the check of ownership fit the context, if the handles in them
are not made up. -/
theorem admits_of_belongsTo {values : List Val}
    (own : ∀ value ∈ values, value.belongsTo context.id = true)
    (honest : ∀ func ∈ targets values, func.context = context.id → context.Owns func) :
    ∀ value ∈ values, context.Admits value := by
  intro value member func target
  exact honest func (List.mem_filterMap.2 ⟨value, member, target⟩)
    ((belongsTo_iff context.id value).1 (own value member) func target)

/-! ## Closures that start -/

/-- The closure of a host function is found by the key of its entry. -/
theorem hostBody?_eq_some (sound : context.Sound) {func : FuncHandle} {entry : FuncEntry}
    {body : Closure σ} (found : context.funcEntry? func = some entry)
    (host : context.hostBody? entry = some body) :
    ∃ number : Nat, context.store.hosts[number]? = some ⟨entry.signature, body⟩ := by
  have typed := sound.entry_typed found
  unfold hostBody? at host
  split at host
  · rename_i number isKey
    split at host
    · obtain ⟨known, member, rfl⟩ := Option.map_eq_some_iff.1 host
      rw [isKey] at typed
      simp only [Store.funcType?, member, Option.map_some, Option.some.injEq] at typed
      exact ⟨number, by rw [member, ← Signature.guest_injective typed]⟩
    · contradiction
  · contradiction

/-- The call routine starts a closure on arguments that passed its checks. -/
theorem Sound.beginCall_typed (sound : context.Sound) (func : FuncHandle) {args : List Val}
    (wait : CallWait σ)
    (honest : ∀ func ∈ targets args, func.context = context.id → context.Owns func) :
    Typed (context.beginCall func args wait).1 (context.beginCall func args wait).2 := by
  unfold beginCall
  cases checked : context.checkCall func args with
  | error error => cases wait <;> trivial
  | ok entry =>
      obtain ⟨found, kinds, own, -⟩ := (context.checkCall_eq_ok_iff func args entry).1 checked
      simp only
      cases host : context.hostBody? entry with
      | some body =>
          refine ⟨⟨kinds, fun value member => ?_⟩, ?_⟩
          · exact admits_of_belongsTo own honest value member
          · exact hostBody?_eq_some sound found host
      | none =>
          simp only
          cases args.mapM context.lower <;> trivial

theorem callee?_host {store : Store (Closure σ)} (imports : store.ImportsTyped)
    {func : FuncKey} {host : HostFunc (Closure σ)}
    (called : store.callee? func = some (.host host)) :
    (∃ number : Nat, store.hosts[number]? = some host) ∧
      store.funcType? func = some host.signature.guest := by
  unfold Store.callee? at called
  split at called
  · rename_i number stands
    obtain ⟨known, member, same⟩ := Option.map_eq_some_iff.1 called
    cases same
    have hostType : store.funcType? (.host number) = some host.signature.guest := by
      simp [Store.funcType?, member]
    refine ⟨⟨number, member⟩, ?_⟩
    cases func with
    | host other =>
        cases stands
        exact hostType
    | guest owner index =>
        rw [Store.resolve_guest] at stands
        cases imported : (store.code? owner).bind (·.imports[index]?) with
        | none =>
            rw [imported] at stands
            contradiction
        | some key =>
            rw [imported] at stands
            obtain ⟨code, found, position⟩ := Option.bind_eq_some_iff.1 imported
            obtain ⟨type, declared, typed⟩ := imports _ _ _ _ found position
            rw [show key = .host number from stands, hostType] at typed
            rw [Store.funcType?_guest, found, Option.bind_some, declared, ← typed]
  · simp only [Option.bind_eq_bind, Option.bind_eq_some_iff, Option.pure_def] at called
    obtain ⟨owning, _, code, _, same⟩ := called
    cases same

private theorem afterAdvance_typed (cont : GuestCont σ) (advance : Advance) :
    Typed (context.afterAdvance cont advance).1 (context.afterAdvance cont advance).2 := by
  cases advance with
  | halted halt => cases halt <;> trivial
  | _ => trivial

theorem Sound.enterEngine_typed (sound : context.Sound) (func : FuncKey) (args : List Value)
    (cont : GuestCont σ)
    (arity : ∀ type, context.store.funcType? func = some type →
      args.length = type.params.length) :
    Typed (context.enterEngine func args cont).1 (context.enterEngine func args cont).2 := by
  unfold enterEngine
  split
  · rename_i host called
    obtain ⟨⟨number, member⟩, type⟩ := callee?_host sound.imports called
    obtain ⟨grows, lifted⟩ := sound.liftAll_grows args host.signature.params
    generalize context.liftAll args host.signature.params = out at grows lifted
    obtain ⟨outcome, after⟩ := out
    cases outcome with
    | error error => trivial
    | ok values =>
        obtain ⟨kinds, admits⟩ := lifted values rfl
        have sameLength : args.length = host.signature.params.length := by
          simpa [Signature.guest] using arity _ type
        exact ⟨⟨kinds sameLength, admits⟩, number, grows.extension.store.host member⟩
  · split
    · exact afterAdvance_typed cont _
    · trivial
  · trivial

/-! ## Results of calls -/

theorem finishClosure_typed (result : Except CallError (List Val)) (cont : HostCont σ)
    (carries : ∀ values, result = .ok values → context.Carries cont.signature.results values) :
    Typed (context.finishClosure result cont).1 (context.finishClosure result cont).2 := by
  cases cont with
  | called func signature wait =>
      cases result with
      | error error => trivial
      | ok values => exact carries values rfl
  | imported signature below =>
      cases result with
      | error error => trivial
      | ok values =>
          simp only [finishClosure]
          cases values.mapM context.lower <;> trivial

theorem Sound.stepReturning_typed (sound : context.Sound) (values : List Value)
    {cont : GuestCont σ} (fits : ∀ frame ∈ cont.frames, context.Fits frame)
    (arity : ∀ func signature wait, cont = .called func signature wait →
      ∀ entry type, context.funcEntry? func = some entry →
        context.store.funcType? entry.key = some type → values.length = type.results.length) :
    Typed (context.stepReturning values cont).1 (context.stepReturning values cont).2 := by
  cases cont with
  | frame activation below => trivial
  | starting made wait => cases wait <;> trivial
  | called func signature wait =>
      have called : context.signature? func = some signature := fits _ (List.mem_cons_self ..)
      obtain ⟨entry, found, rfl⟩ := Option.map_eq_some_iff.1 called
      have sameLength : values.length = entry.signature.results.length := by
        simpa [Signature.guest] using arity _ _ _ rfl entry _ found (sound.entry_typed found)
      have lifted := (sound.liftAll_grows values entry.signature.results).2
      simp only [stepReturning]
      generalize context.liftAll values entry.signature.results = out at lifted
      obtain ⟨outcome, after⟩ := out
      cases outcome with
      | error error => trivial
      | ok results =>
          obtain ⟨kinds, admits⟩ := lifted results rfl
          exact ⟨kinds sameLength, admits⟩

private theorem beginLink_typed (artifact : Artifact) (items : List Item) (wait : LinkWait σ) :
    Typed (context.beginLink artifact items wait).1 (context.beginLink artifact items wait).2 := by
  unfold beginLink
  split
  · cases wait <;> trivial
  · split
    · cases wait <;> trivial
    · simp only [onStore_eq]
      split
      · cases wait <;> trivial
      · split
        · cases wait <;> trivial
        · trivial

/-! ## Steps -/

/-- A step leads to a typed state, if the engine keeps to the arity of functions and
handles that are offered are not made up. -/
theorem Sound.step_typed (sound : context.Sound) {state : RunState σ} {run : Run σ}
    (fits : ∀ frame ∈ state.frames, context.Fits frame)
    (arity : (Stage.ofRun (context, state)).KeepsArity)
    (honest : ∀ func ∈ stepOffered state, func.context = context.id → context.Owns func)
    (stepped : context.step state = some run) : Typed run.1 run.2 := by
  cases state with
  | invoking body args cont =>
      cases stepped
      trivial
  | closure proc cont =>
      cases stepped
      cases proc with
      | finish slots =>
          apply finishClosure_typed
          intro values checked
          obtain ⟨written, kinds, own⟩ := checkSlots_eq_ok checked
          refine ⟨kinds, admits_of_belongsTo own ?_⟩
          intro func member
          apply honest func
          rw [stepOffered, written, reduceOption_map_some]
          exact member
      | fail error => exact finishClosure_typed _ cont (by simp)
      | panic => trivial
      | ask request next =>
          simp only [stepClosure]
          cases context.answer request with
          | answered out => trivial
          | panicked => trivial
      | register signature body next => trivial
      | call func args next => exact sound.beginCall_typed func _ honest
      | link artifact items next => exact beginLink_typed artifact items _
  | guest activation cont =>
      cases stepped
      exact afterAdvance_typed cont _
  | entering func args cont =>
      cases stepped
      exact sound.enterEngine_typed func args cont arity
  | returning values cont =>
      cases stepped
      apply sound.stepReturning_typed values fits
      rintro func signature wait rfl
      exact arity
  | raising error cont =>
      cases stepped
      cases cont with
      | frame activation below => trivial
      | called func signature wait => trivial
      | starting made wait => cases wait <;> trivial
  | leaving func signature result wait =>
      cases stepped
      cases wait <;> trivial
  | called result => contradiction
  | linked result => contradiction
  | panicked => contradiction

end Context

/-! ## Lives -/

namespace Context

variable {σ : Type} {context after : Context σ}

private theorem Sound.answerHandles_owns (sound : context.Sound) {request : Request σ}
    {answer : request.Answer} (answered : context.answer request = .answered (answer, after))
    {func : FuncHandle} (member : func ∈ context.answerHandles request) : after.Owns func := by
  unfold answerHandles at member
  rw [answered] at member
  exact (sound.answer_grows answered).2 func member

private theorem Sound.stepIssued_owns (sound : context.Sound) {state : RunState σ} {run : Run σ}
    (fits : ∀ frame ∈ state.frames, context.Fits frame) (backed : context.Backed state)
    (stepped : context.step state = some run) {func : FuncHandle}
    (member : func ∈ context.stepIssued state) : run.1.Owns func := by
  have extension := (sound.step_continues fits stepped).extension
  cases state with
  | invoking body args cont => exact (owns_of_admits backed member).mono extension
  | leaving func signature result wait =>
      cases result with
      | error error => simp [stepIssued] at member
      | ok values => exact (owns_of_admits backed member).mono extension
  | closure proc cont =>
      cases proc with
      | ask request next =>
          cases stepped
          have member : func ∈ context.answerHandles request := member
          simp only [stepClosure]
          cases answered : context.answer request with
          | answered out => exact sound.answerHandles_owns answered member
          | panicked => simp [answerHandles, answered] at member
      | register signature body next =>
          cases stepped
          rw [stepIssued, List.mem_singleton] at member
          rw [member]
          exact createFunc_owns signature body
      | _ => simp [stepIssued] at member
  | _ => simp [stepIssued] at member

end Context

namespace Stage

variable {σ : Type}

/-- A stage at which everything that crosses the boundary is typed. -/
def Typed (stage : Stage σ) : Prop :=
  ∀ state, stage.running = some state → stage.context.Typed state

/-- A stage at which references that cross the boundary are to functions of the context. -/
def Backed (stage : Stage σ) : Prop :=
  ∀ state, stage.running = some state → stage.context.Backed state

theorem Typed.backed {stage : Stage σ} (typed : stage.Typed) : stage.Backed :=
  fun state isRunning => (typed state isRunning).backed

/-- What an act hands out are handles of functions with an entry. -/
theorem Sound.issued_owns {stage after : Stage σ} (sound : stage.Sound) (backed : stage.Backed)
    {act : Act σ} (taken : stage.take act = some after) {func : FuncHandle}
    (member : func ∈ stage.issued act) : after.context.Owns func := by
  have soundContext : stage.context.Sound := sound.context
  cases take_eq_some_iff.1 taken with
  | answered answered => exact soundContext.answerHandles_owns answered member
  | @unanswered context request panicked =>
      have member : func ∈ context.answerHandles request := member
      simp [Context.answerHandles, panicked] at member
  | registered context signature body =>
      rw [issued, List.mem_singleton] at member
      rw [member]
      exact Context.createFunc_owns signature body
  | @stepped context state run stepped =>
      exact soundContext.stepIssued_owns sound.fits (backed state rfl) stepped member
  | _ => simp [issued] at member

/-- An act leads to a typed stage, if the engine keeps to the arity of functions and
handles that are offered are not made up. -/
theorem Sound.take_typed {stage after : Stage σ} (sound : stage.Sound)
    (arity : stage.KeepsArity) {act : Act σ}
    (honest : ∀ func ∈ stage.offered act, func.context = stage.context.id →
      stage.context.Owns func)
    (taken : stage.take act = some after) : after.Typed := by
  obtain ⟨context, running⟩ := stage
  have soundContext : context.Sound := sound.context
  cases taken_of_take taken with
  | rests context =>
      intro state isRunning
      contradiction
  | called func args isIdle =>
      cases isIdle
      rintro _ ⟨rfl⟩
      exact soundContext.beginCall_typed func .embedder honest
  | linked artifact items isIdle =>
      rintro _ ⟨rfl⟩
      exact Context.beginLink_typed artifact items .embedder
  | stepped isRunning stepped =>
      cases isRunning
      rintro _ ⟨rfl⟩
      exact soundContext.step_typed sound.fits arity honest stepped

end Stage

/-- What was handed out in an honest life are handles of functions with an entry, and
every stage of it is typed. -/
theorem Life.issued_owns_and_typed {σ : Type} {fresh : Context σ}
    {past : List (Stage σ × Act σ)} {stage : Stage σ} (life : Life fresh past stage)
    (begins : fresh.Sound) (honest : Honest past) (arity : ArityKept past) :
    (∀ func ∈ issuedIn past, stage.context.Owns func) ∧ stage.Typed := by
  induction life with
  | created =>
      refine ⟨by simp [issuedIn], ?_⟩
      intro state isRunning
      contradiction
  | @acted earlier stage after act life taken inductionHypothesis =>
      obtain ⟨offeredBefore, honestEarlier⟩ := honest
      have sound := life.sound begins
      have keepsArity : stage.KeepsArity := arity (stage, act) (List.mem_cons_self ..)
      obtain ⟨owns, typed⟩ := inductionHypothesis honestEarlier fun happened member =>
        arity happened (List.mem_cons_of_mem _ member)
      constructor
      · intro func member
        rw [issuedIn, List.flatMap_cons, List.mem_append] at member
        rcases member with now | before
        · exact sound.issued_owns typed.backed taken now
        · exact (owns func before).mono (sound.take_leads taken).extension
      · exact sound.take_typed keepsArity
          (fun func member own => owns func (offeredBefore func member own)) taken

/-- What crosses the boundary at a stage. -/
structure TypedBoundary {σ : Type} (stage : Stage σ) : Prop where
  /-- A closure that is about to start is the closure of a host function, and has one
  argument of the declared kind for each of its parameters.  References among them are
  to functions of the context. -/
  arguments : ∀ {body : Closure σ} {args : List Val} {cont : HostCont σ},
    stage.running = some (.invoking body args cont) →
      stage.context.Carries cont.signature.params args ∧
        ∃ number : Nat, stage.context.store.hosts[number]? = some ⟨cont.signature, body⟩
  /-- A closure that the call routine starts is started for a function with its
  signature. -/
  callee : ∀ {body : Closure σ} {args : List Val} {func : FuncHandle} {signature : Signature}
    {wait : CallWait σ}, stage.running = some (.invoking body args (.called func signature wait)) →
      stage.context.signature? func = some signature
  /-- A result of the call routine has one value of the declared kind for each result of
  the function that was called.  References among them are to functions of the context. -/
  results : ∀ {func : FuncHandle} {signature : Signature} {values : List Val} {wait : CallWait σ},
    stage.running = some (.leaving func signature (.ok values) wait) →
      stage.context.signature? func = some signature ∧
        stage.context.Carries signature.results values

/-- In every life of a context, however closures and guest code call each other and
register functions on the way, closures start on arguments that fit their declared
parameters, and the call routine returns results that fit the declared results. -/
theorem Life.typedBoundary {σ : Type} {id : ContextId} {environment : Environment} {data : σ}
    {past : List (Stage σ × Act σ)} {stage : Stage σ}
    (life : Life (.create id environment data) past stage) (honest : Honest past)
    (arity : ArityKept past) : TypedBoundary stage := by
  have begins := Context.create_sound id environment data
  have sound := life.sound begins
  have typed := (life.issued_owns_and_typed begins honest arity).2
  have called {state : RunState σ} (isRunning : stage.running = some state) :
      ∀ frame ∈ state.frames, stage.context.Fits frame := by
    have fits := sound.fits
    rw [Stage.frames, isRunning] at fits
    exact fits
  constructor
  · intro body args cont isRunning
    exact typed _ isRunning
  · intro body args func signature wait isRunning
    exact called isRunning (.call func signature) (List.mem_cons_self ..)
  · intro func signature values wait isRunning
    exact ⟨called isRunning (.call func signature) (List.mem_cons_self ..), typed _ isRunning⟩

/-- A host function that takes a number and a reference is called with a reference to
itself: the reference was handed out when the function was made. -/
theorem Life.typedBoundary_of_call :
    ∃ (past : List (Stage Unit × Act Unit)) (stage : Stage Unit),
      Life (.create ⟨0⟩ { id := ⟨0⟩, config := {} } ()) past stage ∧ Honest past ∧
        ArityKept past ∧ TypedBoundary stage ∧ ∃ body cont, stage.running =
          some (.invoking body [.i32 7, .funcRef (some ⟨⟨0⟩, 0⟩)] cont) := by
  let fresh : Context Unit := .create ⟨0⟩ { id := ⟨0⟩, config := {} } ()
  let signature : Signature := ⟨[.i32, .funcRef], []⟩
  let body : Closure Unit := fun _ => .finish Slots.empty
  let made : Context Unit := (fresh.createFunc signature body).2
  let args : List Val := [.i32 7, .funcRef (some ⟨⟨0⟩, 0⟩)]
  have registered : Life fresh [(.idle fresh, .register signature body)] (.idle made) :=
    Life.created.acted rfl
  have called : Life fresh
      [(.idle made, .call ⟨⟨0⟩, 0⟩ args), (.idle fresh, .register signature body)]
      (.ofRun (made.beginCall ⟨⟨0⟩, 0⟩ args .embedder)) := registered.acted rfl
  have honest : Honest
      [(.idle made, .call ⟨⟨0⟩, 0⟩ args), (.idle fresh, .register signature body)] := by
    refine ⟨?_, ?_, trivial⟩
    · intro func member own
      exact member
    · intro func member
      simp [Stage.offered, Stage.idle] at member
  have arity : ArityKept
      [(.idle made, .call ⟨⟨0⟩, 0⟩ args), (.idle fresh, .register signature body)] := by
    intro happened member
    simp only [List.mem_cons, List.not_mem_nil, or_false] at member
    rcases member with rfl | rfl <;> trivial
  exact ⟨_, _, called, honest, arity, Life.typedBoundary called honest arity, body, _, rfl⟩

end WasmSandbox
