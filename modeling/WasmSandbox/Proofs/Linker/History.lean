import WasmSandbox.Proofs.Linker.Definitions

/-!
Contract: what a linker stands for after any operations on it, told from what happened.

Owns:
- the operations on a linker, each with its answer and the linker it leaves;
- the log of what happened: settings, and definitions that were accepted or refused, each
  judged by the log before it alone;
- that a linker answers as its log does, and that each pair of names stands for the item of
  the last accepted definition of exactly that pair.

The log knows no table.  Whether shadowing is allowed is the latest setting in it, and whether
a pair is defined is whether a definition of the pair was accepted.  A pair is two names: two
pairs whose names read the same when they are joined are two pairs.

Does not own: how many of several definitions a linker accepts, and functions that are made
for a refused one.
-/

namespace WasmSandbox.Linker

/-! ## Operations -/

/-- An item that is to be known under a pair of names. -/
structure Definition where
  module : String
  name : String
  item : Item

/-- The failure of a definition whose pair is defined already. -/
def Definition.duplicate (definition : Definition) : LinkError :=
  .duplicate definition.module definition.name

/-- What a linker is asked for.  A context is what it happens to be at that moment. -/
inductive Operation (σ : Type) where
  | setShadowing (allow : Bool)
  | define (module name : String) (item : Item)
  | defineFunc (context : Context σ) (module name : String) (signature : Signature)
      (body : Closure σ)
  | defineInstance (context : Context σ) (module : String) (inst : InstanceHandle)

variable {σ : Type}

/-- The definitions that a linker is offered, in order: a function is the one that is made for
it, and an instance offers its exports. -/
def Operation.offers : Operation σ → List Definition
  | .setShadowing _ => []
  | .define module name item => [⟨module, name, item⟩]
  | .defineFunc context module name signature body =>
      [⟨module, name, .func (context.createFunc signature body).1⟩]
  | .defineInstance context module inst =>
      (context.exports inst).1.map fun entry => ⟨module, entry.1, entry.2⟩

/-- The answer about one definition, and the linker afterwards: as it was, after a refusal. -/
def settled (linker : Linker) : Except LinkError Linker → Option LinkError × Linker
  | .ok after => (none, after)
  | .error error => (some error, linker)

/-- The answer to an operation, and the linker afterwards. -/
def operate (linker : Linker) : Operation σ → Option LinkError × Linker
  | .setShadowing allow => (none, linker.setShadowing allow)
  | .define module name item => linker.settled (linker.define module name item)
  | .defineFunc context module name signature body =>
      linker.settled (linker.defineFunc context module name signature body).1
  | .defineInstance context module inst => (linker.defineInstance context module inst).1

/-- The linker after the operations. -/
def operateAll (linker : Linker) : List (Operation σ) → Linker
  | [] => linker
  | operation :: rest => operateAll (linker.operate operation).2 rest

/-- A new linker after the operations. -/
def after (operations : List (Operation σ)) : Linker := operateAll {} operations

/-! ## What happened -/

/-- What happens to a linker. -/
inductive Event where
  | set (allow : Bool)
  | accepted (definition : Definition)
  | refused (definition : Definition)

/-- What happened to a linker, the latest first. -/
abbrev Log := List Event

namespace Log

/-- Whether shadowing is allowed: as the latest setting says, and not without one. -/
def allows : Log → Bool
  | [] => false
  | .set allow :: _ => allow
  | .accepted _ :: earlier => allows earlier
  | .refused _ :: earlier => allows earlier

/-- The item is that of the last accepted definition of exactly the pair of names. -/
def LastAccepted (log : Log) (module name : String) (item : Item) : Prop :=
  ∃ later earlier, log = later ++ .accepted ⟨module, name, item⟩ :: earlier ∧
    ∀ other, .accepted ⟨module, name, other⟩ ∉ later

/-- The item of the last accepted definition of exactly the pair of names. -/
def last? (module name : String) : Log → Option Item
  | [] => none
  | .set _ :: earlier => last? module name earlier
  | .refused _ :: earlier => last? module name earlier
  | .accepted definition :: earlier =>
      if module = definition.module ∧ name = definition.name then some definition.item
      else last? module name earlier

/-- Shadowing is allowed, or no definition of the pair was accepted. -/
def Admits (log : Log) (definition : Definition) : Prop :=
  log.allows = true ∨ log.last? definition.module definition.name = none

instance (log : Log) (definition : Definition) : Decidable (log.Admits definition) :=
  inferInstanceAs (Decidable (_ ∨ _))

/-- The log after definitions that are offered in order, up to the first one that is refused. -/
def offerAll (log : Log) : List Definition → Option Definition × Log
  | [] => (none, log)
  | definition :: rest =>
      if log.Admits definition then offerAll (.accepted definition :: log) rest
      else (some definition, .refused definition :: log)

/-- What an operation adds to the log, and the definition that is refused. -/
def record (log : Log) : Operation σ → Option Definition × Log
  | .setShadowing allow => (none, .set allow :: log)
  | operation => log.offerAll operation.offers

/-- The log after the operations. -/
def recordAll (log : Log) : List (Operation σ) → Log
  | [] => log
  | operation :: rest => recordAll (log.record operation).2 rest

/-- The log of all operations on a new linker. -/
def ofOperations (operations : List (Operation σ)) : Log := recordAll [] operations

theorem recordAll_append (log : Log) (operations further : List (Operation σ)) :
    log.recordAll (operations ++ further) = (log.recordAll operations).recordAll further := by
  induction operations generalizing log with
  | nil => rfl
  | cons operation rest inductionHypothesis => exact inductionHypothesis _

theorem recordAll_concat (log : Log) (operations : List (Operation σ)) (operation : Operation σ) :
    log.recordAll (operations ++ [operation]) = ((log.recordAll operations).record operation).2 :=
  recordAll_append log operations [operation]

/-- Whatever offers definitions is recorded by what it offers. -/
theorem record_eq_offerAll (log : Log) {operation : Operation σ}
    (offers : ∀ allow, operation ≠ .setShadowing allow) :
    log.record operation = log.offerAll operation.offers := by
  cases operation with
  | setShadowing allow => exact absurd rfl (offers allow)
  | define => rfl
  | defineFunc => rfl
  | defineInstance => rfl

/-! ## The last accepted definition -/

section

variable {log : Log} {module name : String} {item : Item}

/-- An event that accepts no definition of the pair does not matter. -/
theorem lastAccepted_cons_iff {event : Event}
    (apart : ∀ other, event ≠ .accepted ⟨module, name, other⟩) :
    LastAccepted (event :: log) module name item ↔ log.LastAccepted module name item := by
  constructor
  · rintro ⟨later, earlier, split, isLast⟩
    cases later with
    | nil => exact absurd (List.cons.inj split).1 (apart item)
    | cons first later =>
        obtain ⟨-, rfl⟩ := List.cons.inj split
        exact ⟨later, earlier, rfl, fun other member =>
          isLast other (List.mem_cons_of_mem _ member)⟩
  · rintro ⟨later, earlier, rfl, isLast⟩
    refine ⟨event :: later, earlier, rfl, fun other member => ?_⟩
    rcases List.mem_cons.1 member with same | member
    · exact apart other same.symm
    · exact isLast other member

theorem lastAccepted_accepted_iff {given : Item} :
    LastAccepted (.accepted ⟨module, name, given⟩ :: log) module name item ↔ given = item := by
  constructor
  · rintro ⟨later, earlier, split, isLast⟩
    cases later with
    | nil =>
        obtain ⟨same, -⟩ := List.cons.inj split
        injection same with same
        injection same
    | cons first later =>
        obtain ⟨rfl, -⟩ := List.cons.inj split
        exact absurd (List.mem_cons_self ..) (isLast given)
  · rintro rfl
    exact ⟨[], log, rfl, fun _ => List.not_mem_nil⟩

theorem last?_eq_some_iff :
    log.last? module name = some item ↔ log.LastAccepted module name item := by
  induction log with
  | nil => simp [last?, LastAccepted]
  | cons event earlier inductionHypothesis =>
      cases event with
      | set _ => rw [last?, inductionHypothesis, lastAccepted_cons_iff (by simp)]
      | refused _ => rw [last?, inductionHypothesis, lastAccepted_cons_iff (by simp)]
      | accepted definition =>
          obtain ⟨otherModule, otherName, given⟩ := definition
          by_cases same : module = otherModule ∧ name = otherName
          · obtain ⟨rfl, rfl⟩ := same
            rw [last?, if_pos ⟨rfl, rfl⟩, Option.some.injEq, lastAccepted_accepted_iff]
          · have apart : ∀ other, Event.accepted ⟨otherModule, otherName, given⟩ ≠
                .accepted ⟨module, name, other⟩ := by
              rintro other ⟨⟩
              exact same ⟨rfl, rfl⟩
            rw [last?, if_neg same, inductionHypothesis, lastAccepted_cons_iff apart]

theorem not_admits_iff {definition : Definition} :
    ¬log.Admits definition ↔ log.allows = false ∧
      ∃ kept, log.LastAccepted definition.module definition.name kept := by
  simp only [Admits, not_or, Bool.not_eq_true, ← last?_eq_some_iff, Option.ne_none_iff_exists']

end

/-! ## Definitions that are offered in order -/

/-- The log in which the definitions were accepted, one after the other. -/
def accept (log : Log) : List Definition → Log
  | [] => log
  | definition :: rest => accept (.accepted definition :: log) rest

/-- Each of the definitions is admitted, once those before it were accepted. -/
def AdmitsAll (log : Log) : List Definition → Prop
  | [] => True
  | definition :: rest => log.Admits definition ∧ AdmitsAll (.accepted definition :: log) rest

/-- What becomes of definitions that are offered in order: all of them are accepted, or there
is a first one that is not, because shadowing is off and its pair is defined. -/
inductive Outcome (log : Log) : List Definition → Option Definition → Log → Prop where
  | complete (definitions : List Definition) (admits : log.AdmitsAll definitions) :
      Outcome log definitions none (log.accept definitions)
  | stopped (before : List Definition) (definition : Definition) (rest : List Definition)
      (kept : Item) (admits : log.AdmitsAll before) (strict : (log.accept before).allows = false)
      (defined : (log.accept before).LastAccepted definition.module definition.name kept) :
      Outcome log (before ++ definition :: rest) (some definition)
        (.refused definition :: log.accept before)

theorem offerAll_outcome (log : Log) (definitions : List Definition) :
    log.Outcome definitions (log.offerAll definitions).1 (log.offerAll definitions).2 := by
  induction definitions generalizing log with
  | nil => exact .complete [] trivial
  | cons definition rest inductionHypothesis =>
      by_cases admits : log.Admits definition
      · rw [offerAll, if_pos admits]
        have further := inductionHypothesis (.accepted definition :: log)
        generalize offerAll (.accepted definition :: log) rest = result at further
        obtain ⟨refused, last⟩ := result
        cases further with
        | complete _ admitsRest => exact .complete _ ⟨admits, admitsRest⟩
        | stopped before other later kept admitsRest strict defined =>
            exact .stopped (definition :: before) other later kept ⟨admits, admitsRest⟩ strict
              defined
      · rw [offerAll, if_neg admits]
        obtain ⟨strict, kept, defined⟩ := not_admits_iff.1 admits
        exact .stopped [] definition rest kept trivial strict defined

/-- A pair of which no definition is offered stands for what it stood for. -/
theorem last?_offerAll_of_apart {module name : String} (log : Log) {definitions : List Definition}
    (apart : ∀ definition ∈ definitions, ¬(module = definition.module ∧ name = definition.name)) :
    (log.offerAll definitions).2.last? module name = log.last? module name := by
  induction definitions generalizing log with
  | nil => rfl
  | cons definition rest inductionHypothesis =>
      rw [List.forall_mem_cons] at apart
      by_cases admits : log.Admits definition
      · rw [offerAll, if_pos admits, inductionHypothesis _ apart.2, last?, if_neg apart.1]
      · rw [offerAll, if_neg admits, last?]

/-- A log in which each definition was judged by the log before it. -/
def Lawful (log : Log) : Prop :=
  ∀ later event (earlier : Log), log = later ++ event :: earlier → ∀ definition,
    (event = .accepted definition → earlier.Admits definition) ∧
      (event = .refused definition → ¬earlier.Admits definition)

theorem Lawful.cons {log : Log} {event : Event} (lawful : log.Lawful)
    (accepts : ∀ definition, event = .accepted definition → log.Admits definition)
    (refuses : ∀ definition, event = .refused definition → ¬log.Admits definition) :
    Lawful (event :: log) := by
  intro later judged earlier split definition
  cases later with
  | nil =>
      obtain ⟨rfl, rfl⟩ := List.cons.inj split
      exact ⟨accepts definition, refuses definition⟩
  | cons latest later => exact lawful later judged earlier (List.cons.inj split).2 definition

theorem Lawful.offerAll {log : Log} (lawful : log.Lawful) (definitions : List Definition) :
    (log.offerAll definitions).2.Lawful := by
  induction definitions generalizing log with
  | nil => exact lawful
  | cons definition rest inductionHypothesis =>
      by_cases admits : log.Admits definition
      · rw [Log.offerAll, if_pos admits]
        exact inductionHypothesis (lawful.cons (by rintro _ ⟨⟩; exact admits) (by simp))
      · rw [Log.offerAll, if_neg admits]
        exact lawful.cons (by simp) (by rintro _ ⟨⟩; exact admits)

theorem Lawful.record {log : Log} (lawful : log.Lawful) (operation : Operation σ) :
    (log.record operation).2.Lawful := by
  cases operation with
  | setShadowing allow => exact lawful.cons (by simp) (by simp)
  | define module name item => exact lawful.offerAll _
  | defineFunc context module name signature body => exact lawful.offerAll _
  | defineInstance context module inst => exact lawful.offerAll _

theorem Lawful.recordAll {log : Log} (lawful : log.Lawful) (operations : List (Operation σ)) :
    (log.recordAll operations).Lawful := by
  induction operations generalizing log with
  | nil => exact lawful
  | cons operation rest inductionHypothesis => exact inductionHypothesis (lawful.record operation)

end Log

/-! ## A linker and its log -/

/-- The linker answers as the log does. -/
structure Follows (linker : Linker) (log : Log) : Prop where
  setting : linker.allowShadowing = log.allows
  items : ∀ module name, linker.get? module name = log.last? module name

section

variable {linker : Linker} {log : Log}

theorem Follows.accepts_iff (follows : linker.Follows log) (definition : Definition) :
    linker.Accepts definition.module definition.name ↔ log.Admits definition := by
  rw [Accepts, Log.Admits, follows.setting, follows.items]

theorem Follows.put (follows : linker.Follows log) (definition : Definition) :
    (linker.put definition.module definition.name definition.item).Follows
      (.accepted definition :: log) := by
  refine ⟨follows.setting, fun module name => ?_⟩
  rw [get?_put, Log.last?, follows.items]

theorem Follows.setShadowing (follows : linker.Follows log) (allow : Bool) :
    (linker.setShadowing allow).Follows (.set allow :: log) :=
  ⟨rfl, follows.items⟩

theorem Follows.refused (follows : linker.Follows log) (definition : Definition) :
    linker.Follows (.refused definition :: log) :=
  ⟨follows.setting, follows.items⟩

/-- One definition after the other is judged as the log judges it. -/
theorem Follows.defineAll (follows : linker.Follows log) (module : String)
    (items : List (String × Item)) :
    let definitions := items.map fun entry => (⟨module, entry.1, entry.2⟩ : Definition)
    (linker.defineAll module items).1 =
        (log.offerAll definitions).1.map Definition.duplicate ∧
      (linker.defineAll module items).2.Follows (log.offerAll definitions).2 := by
  induction items generalizing linker log with
  | nil => exact ⟨rfl, follows⟩
  | cons entry rest inductionHypothesis =>
      obtain ⟨name, item⟩ := entry
      by_cases admits : log.Admits ⟨module, name, item⟩
      · have accepts := (follows.accepts_iff ⟨module, name, item⟩).2 admits
        simp only [Linker.defineAll, define_of_accepts accepts, List.map_cons, Log.offerAll,
          if_pos admits]
        exact inductionHypothesis (follows.put ⟨module, name, item⟩)
      · have refuses := mt (follows.accepts_iff ⟨module, name, item⟩).1 admits
        simp only [Linker.defineAll, define_of_not_accepts refuses, List.map_cons, Log.offerAll,
          if_neg admits]
        exact ⟨rfl, follows.refused _⟩

/-- Whatever offers definitions has them defined in order under one module name. -/
theorem operate_eq_defineAll (linker : Linker) {operation : Operation σ}
    (offers : ∀ allow, operation ≠ .setShadowing allow) : ∃ module items,
      operation.offers = items.map (fun entry => (⟨module, entry.1, entry.2⟩ : Definition)) ∧
        linker.operate operation = linker.defineAll module items := by
  have single : ∀ module name item,
      linker.settled (linker.define module name item) = linker.defineAll module [(name, item)] := by
    intro module name item
    rw [Linker.defineAll]
    cases linker.define module name item with
    | ok after => rfl
    | error error => rfl
  cases operation with
  | setShadowing allow => exact absurd rfl (offers allow)
  | define module name item => exact ⟨module, [(name, item)], rfl, single module name item⟩
  | defineFunc context module name signature body =>
      exact ⟨module, [(name, _)], rfl, single module name _⟩
  | defineInstance context module inst => exact ⟨module, (context.exports inst).1, rfl, rfl⟩

/-- What one operation preserves. -/
theorem Follows.operate (follows : linker.Follows log) (operation : Operation σ) :
    (linker.operate operation).1 = (log.record operation).1.map Definition.duplicate ∧
      (linker.operate operation).2.Follows (log.record operation).2 := by
  by_cases isSetting : ∃ allow, operation = .setShadowing allow
  · obtain ⟨allow, rfl⟩ := isSetting
    exact ⟨rfl, follows.setShadowing allow⟩
  · have offers := not_exists.1 isSetting
    obtain ⟨module, items, offered, defines⟩ := linker.operate_eq_defineAll offers
    rw [log.record_eq_offerAll offers, offered, defines]
    exact follows.defineAll module items

/-- What a run of operations preserves. -/
theorem Follows.operateAll (follows : linker.Follows log) (operations : List (Operation σ)) :
    (linker.operateAll operations).Follows (log.recordAll operations) := by
  induction operations generalizing linker log with
  | nil => exact follows
  | cons operation rest inductionHypothesis =>
      exact inductionHypothesis (follows.operate operation).2

end

/-! ## The answer to one operation -/

/-- How a linker of which a log tells answers an operation. -/
structure Answers (linker : Linker) (log : Log) (operation : Operation σ) : Prop where
  /-- The definitions that are offered are accepted in order, up to the first that is refused,
  if there is one.  The answer names the pair of that definition. -/
  inOrder : (∀ allow, operation ≠ .setShadowing allow) → ∃ refused,
    (linker.operate operation).1 = refused.map Definition.duplicate ∧
      log.Outcome operation.offers refused (log.record operation).2
  /-- The pair of the refused definition is left with the item that it had at that moment. -/
  keeps : ∀ error, (linker.operate operation).1 = some error →
    ∃ before definition rest kept, operation.offers = before ++ definition :: rest ∧
      error = .duplicate definition.module definition.name ∧
      linker.allowShadowing = false ∧
      (log.accept before).LastAccepted definition.module definition.name kept ∧
      (linker.operate operation).2.get? definition.module definition.name = some kept
  /-- A single definition is refused exactly if shadowing is off and its pair is defined, and
  then nothing changes.  If it is not refused its pair stands for its item. -/
  single : ∀ definition, operation.offers = [definition] →
    (∀ error, (linker.operate operation).1 = some error ↔
      error = .duplicate definition.module definition.name ∧ linker.allowShadowing = false ∧
        (linker.get? definition.module definition.name).isSome = true) ∧
    (∀ error, (linker.operate operation).1 = some error →
      (linker.operate operation).2 = linker) ∧
    ((linker.operate operation).1 = none →
      (linker.operate operation).2.get? definition.module definition.name = some definition.item)
  /-- A pair of which no definition is offered stands for what it stood for. -/
  apart : ∀ module name,
    (∀ definition ∈ operation.offers, ¬(module = definition.module ∧ name = definition.name)) →
      (linker.operate operation).2.get? module name = linker.get? module name
  /-- A setting is not refused, and alters no definition. -/
  settles : ∀ allow, operation = .setShadowing allow →
    linker.operate operation = (none, { linker with allowShadowing := allow })

section

variable {linker : Linker} {log : Log}

theorem Log.accept_allows (log : Log) (definitions : List Definition) :
    (log.accept definitions).allows = log.allows := by
  induction definitions generalizing log with
  | nil => rfl
  | cons definition rest inductionHypothesis => exact inductionHypothesis _

theorem Follows.get?_eq_some_iff (follows : linker.Follows log) {module name : String}
    {item : Item} :
    linker.get? module name = some item ↔ log.LastAccepted module name item := by
  rw [follows.items, Log.last?_eq_some_iff]

theorem operate_single (linker : Linker) {operation : Operation σ} {definition : Definition}
    (isSingle : operation.offers = [definition]) : linker.operate operation =
      linker.defineAll definition.module [(definition.name, definition.item)] := by
  have offers : ∀ allow, operation ≠ .setShadowing allow := by
    rintro allow rfl
    contradiction
  obtain ⟨module, items, offered, defines⟩ := linker.operate_eq_defineAll offers
  rw [isSingle, eq_comm, List.map_eq_singleton_iff] at offered
  obtain ⟨⟨name, item⟩, rfl, rfl⟩ := offered
  exact defines

theorem Follows.answers (follows : linker.Follows log) (operation : Operation σ) :
    linker.Answers log operation := by
  obtain ⟨answer, next⟩ := follows.operate operation
  refine ⟨?inOrder, ?keeps, ?single, ?apart, ?settles⟩
  case inOrder =>
    intro offers
    refine ⟨_, answer, ?_⟩
    rw [log.record_eq_offerAll offers]
    exact log.offerAll_outcome operation.offers
  case keeps =>
    intro error failed
    have offers : ∀ allow, operation ≠ .setShadowing allow := by
      rintro allow rfl
      contradiction
    rw [log.record_eq_offerAll offers] at answer next
    have outcome := log.offerAll_outcome operation.offers
    generalize log.offerAll operation.offers = result at answer next outcome
    generalize operation.offers = offered at outcome
    obtain ⟨refused, last⟩ := result
    rw [failed] at answer
    cases outcome with
    | complete => contradiction
    | stopped before definition rest kept _ strict defined =>
        refine ⟨before, definition, rest, kept, rfl, Option.some.inj answer, ?_, defined, ?_⟩
        · rw [follows.setting, ← log.accept_allows before]
          exact strict
        · rw [next.get?_eq_some_iff, Log.lastAccepted_cons_iff (by simp)]
          exact defined
  case single =>
    intro definition isSingle
    rw [linker.operate_single isSingle]
    by_cases accepts : linker.Accepts definition.module definition.name
    · have fits := mt not_accepts_iff.2 (not_not_intro accepts)
      simp [Linker.defineAll, define_of_accepts accepts, fits, get?_put]
    · have misfit := not_accepts_iff.1 accepts
      simp [Linker.defineAll, define_of_not_accepts accepts, misfit, eq_comm]
  case apart =>
    intro module name apart
    by_cases isSetting : ∃ allow, operation = .setShadowing allow
    · obtain ⟨allow, rfl⟩ := isSetting
      rfl
    · rw [log.record_eq_offerAll (not_exists.1 isSetting)] at next
      rw [next.items, log.last?_offerAll_of_apart apart, follows.items]
  case settles =>
    rintro allow rfl
    rfl

end

/-! ## Every history -/

/-- What a linker stands for after operations on a new one, and how it answers the next. -/
structure FollowsReference (operations : List (Operation σ)) : Prop where
  /-- Shadowing is allowed as the latest setting says, and not without one. -/
  setting : (after operations).allowShadowing = (Log.ofOperations operations).allows
  /-- A pair stands for the item of the last accepted definition of exactly that pair. -/
  get_iff : ∀ module name item, (after operations).get? module name = some item ↔
    (Log.ofOperations operations).LastAccepted module name item
  /-- Each definition was refused if shadowing was off at that moment and its pair was defined,
  and accepted if not. -/
  judged : ∀ later event (earlier : Log),
    Log.ofOperations operations = later ++ event :: earlier → ∀ definition : Definition,
      (event = .refused definition → earlier.allows = false ∧
        ∃ kept, earlier.LastAccepted definition.module definition.name kept) ∧
      (event = .accepted definition → ¬(earlier.allows = false ∧
        ∃ kept, earlier.LastAccepted definition.module definition.name kept))
  /-- The next operation is answered, and recorded, by what happened. -/
  next : ∀ operation : Operation σ,
    (after operations).Answers (Log.ofOperations operations) operation ∧
      Log.ofOperations (operations ++ [operation]) =
        ((Log.ofOperations operations).record operation).2

/-- Every history of operations on a new linker makes it what the log of the history says. -/
theorem followsReference (operations : List (Operation σ)) :
    FollowsReference operations := by
  have follows : (after operations).Follows (.ofOperations operations) :=
    Follows.operateAll ⟨rfl, fun _ _ => rfl⟩ operations
  refine ⟨follows.setting, fun _ _ _ => follows.get?_eq_some_iff, ?judged, fun operation =>
    ⟨follows.answers operation, Log.recordAll_concat [] operations operation⟩⟩
  case judged =>
    intro later event earlier split definition
    have empty : Log.Lawful [] := fun later _ _ split => absurd split (by simp)
    have judged := empty.recordAll operations later event earlier split definition
    rw [← Log.not_admits_iff, Classical.not_not]
    exact judged.symm

/-- Two pairs whose names read the same when they are joined with a separator are two pairs. -/
example (item : Item) :
    (after [(.define "a::b" "c" item : Operation Unit)]).get? "a" "b::c" = none := rfl

end WasmSandbox.Linker
