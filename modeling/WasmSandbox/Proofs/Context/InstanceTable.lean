import WasmSandbox.Proofs.Context.Links

/-!
Contract: the list of instances over the life of a context.

Owns:
- the account of one link that returns: where it was begun, and what it adds;
- that the list has one entry for each link that returned an instance, in the order of the
  returns, and nothing else;
- that handles of instances are distinct, and stand for the same instance ever after;
- what the embedder is told of a link, by position or by name.

A link that fails adds nothing for itself, wherever it fails.  Links within it that
succeeded before stay.

Does not own: the engine's instances, of which a failed link may leave one behind.
-/

namespace WasmSandbox

open Wasm

variable {σ : Type}

/-- Where a link that returns with the latest act was begun, and what happened after that:
with the same act, or earlier, and then its start function has been waited for since. -/
inductive BegunAt (past : List (Stage σ × Act σ)) (stage : Stage σ) (act : Act σ)
    (wait : LinkWait σ) : Stage σ × Act σ → List (Stage σ × Act σ) → Prop where
  | atOnce : BegunAt past stage act wait (stage, act) []
  | waited {begun : Stage σ × Act σ} {inner before : List (Stage σ × Act σ)} (made : InstanceEntry)
      (history : past = inner ++ begun :: before)
      (waits : ∀ happened ∈ (stage, act) :: inner, Waiting.start made wait ∈ happened.1.stack) :
      BegunAt past stage act wait begun inner

/-- The account of a link that returns with an act. -/
structure LinkAccount (past : List (Stage σ × Act σ)) (stage : Stage σ) (act : Act σ)
    (after : Stage σ) (ret : LinkReturn σ) : Prop where
  /-- Its result goes to what waits for it. -/
  handed : after = .ofRun (after.context.deliverLink ret.result ret.wait)
  /-- It adds its own entry, if it returns an instance, and nothing otherwise. -/
  adds : after.context.instances.toList = stage.context.instances.toList ++ ret.entry?.toList
  /-- It was begun, with an artifact of which its instance is one, and since then only the
  links within it have added entries. -/
  begun : ∃ call begun inner, BegunAt past stage act ret.wait begun inner ∧
    begun.1.linkBegun? begun.2 = some call ∧ call.wait = ret.wait ∧
      (∀ made, ret.entry? = some made → made.artifact = call.artifact ∧
        (begun.1.context.engineLink call.artifact call.items).1 = .ok made) ∧
        after.context.instances.toList = begun.1.context.instances.toList ++
          (linkReturns inner).filterMap LinkReturn.entry? ++ ret.entry?.toList
  /-- A handle that it returns stood for nothing before, and no link returned it. -/
  fresh : ∀ inst made, ret.outcome = .ok (inst, made) →
    stage.context.instanceEntry? inst = none ∧
      inst ∉ (linkReturns past).filterMap LinkReturn.handle? ∧
        after.context.instanceEntry? inst = some made

/-- What the list of instances is at a stage of a life. -/
structure InstanceTable (fresh : Context σ) (past : List (Stage σ × Act σ))
    (stage : Stage σ) : Prop where
  /-- The entries are those of the links that returned an instance, in their order. -/
  entries : stage.context.instances.toList = (linkReturns past).filterMap LinkReturn.entry?
  count : stage.context.instanceCount = (linkReturns past).countP LinkReturn.succeeds
  /-- No two links returned the same handle. -/
  distinct : ((linkReturns past).filterMap LinkReturn.handle?).Nodup
  /-- A handle that a link returned stands for the instance of that link. -/
  resolves : ∀ ret ∈ linkReturns past, ∀ inst made, ret.outcome = .ok (inst, made) →
    stage.context.instanceEntry? inst = some made
  /-- A handle that stood for an instance before stands for it now. -/
  kept : ∀ happened ∈ past, ∀ inst made, happened.1.context.instanceEntry? inst = some made →
    stage.context.instanceEntry? inst = some made
  /-- Every link that returns with the next act is accounted for. -/
  returns : ∀ act after ret, stage.take act = some after → stage.linkReturn? act = some ret →
    LinkAccount past stage act after ret
  /-- What a link of the embedder answers is what a link of the life returned last. -/
  answered : ∀ context artifact items result after, stage = .idle context →
    context.link artifact items = (.answered result, after) →
      ∃ later inner ret, Life fresh (later ++ past) (.idle after) ∧
        linkReturns later = inner ++ [ret] ∧ ret.wait = .embedder ∧ ret.result = result
  /-- A link by name fails at a name and changes nothing, or is a link. -/
  named : ∀ context linker artifact result after, stage = .idle context →
    Linker.link linker context artifact = (.answered result, after) →
      (∃ error, linker.resolve artifact = .error error ∧ result = .error error ∧
        after = context) ∨
      ∃ items, linker.resolve artifact = .ok items ∧
        context.link artifact items = (.answered result, after)

/-- A link of the embedder that answers is a run that comes to the answer. -/
theorem Context.run_of_link {context after : Context σ} {artifact : Artifact} {items : List Item}
    {result : Except LinkError InstanceHandle}
    (answered : context.link artifact items = (.answered result, after)) :
    Context.run Context.manySteps (context.beginLink artifact items .embedder).1
      (context.beginLink artifact items .embedder).2 = (after, .linked result) := by
  unfold Context.link at answered
  simp only at answered
  split at answered
  · rename_i last
    cases answered
    exact last
  · cases answered
  · cases answered

/-- A link by name finds no item for an import and changes nothing, or is a link. -/
theorem Linker.link_answered {linker : Linker} {context after : Context σ} {artifact : Artifact}
    {result : Except LinkError InstanceHandle}
    (answered : linker.link context artifact = (.answered result, after)) :
    (∃ error, linker.resolve artifact = .error error ∧ result = .error error ∧ after = context) ∨
      ∃ items, linker.resolve artifact = .ok items ∧
        context.link artifact items = (.answered result, after) := by
  unfold Linker.link at answered
  cases resolved : linker.resolve artifact with
  | error error =>
      rw [resolved] at answered
      cases answered
      exact .inl ⟨error, rfl, rfl, rfl⟩
  | ok items =>
      rw [resolved] at answered
      exact .inr ⟨items, rfl, answered⟩

namespace Life

variable {fresh context after : Context σ} {past : List (Stage σ × Act σ)} {stage next : Stage σ}
  {act : Act σ}

/-- Between the act that began a link and the act with which it returns, only the links
within it add entries. -/
theorem instances_since (life : Life fresh past stage) (noInstances : fresh.instances = #[])
    {begun : Stage σ × Act σ} {inner before : List (Stage σ × Act σ)}
    (history : past = inner ++ begun :: before) (silent : begun.1.linkReturn? begun.2 = none) :
    stage.context.instances.toList = begun.1.context.instances.toList ++
      (linkReturns inner).filterMap LinkReturn.entry? := by
  subst history
  rw [life.instances_eq_entries noInstances, life.before.instances_eq_entries noInstances,
    linkReturns_append, linkReturns, silent, Option.toList_none, List.append_nil,
    List.filterMap_append]

/-- A handle that the context does not have yet is that of no link before. -/
theorem not_mem_handles (life : Life fresh past stage) (begins : fresh.Sound)
    (noInstances : fresh.instances = #[]) :
    (⟨stage.context.id, stage.context.instances.size⟩ : InstanceHandle) ∉
      (linkReturns past).filterMap LinkReturn.handle? := by
  rw [life.handles_eq_range begins noInstances]
  simp

/-- Every link that returns in a life is accounted for. -/
theorem linkAccount (life : Life fresh past stage) (begins : fresh.Sound)
    (noInstances : fresh.instances = #[]) (taken : stage.take act = some next)
    {ret : LinkReturn σ} (returned : stage.linkReturn? act = some ret) :
    LinkAccount past stage act next ret := by
  obtain ⟨handed, adds, handle⟩ := Stage.take_returns taken returned
  refine ⟨handed, adds, ?begun, ?fresh⟩
  case begun =>
    rcases Stage.linkReturn?_origin returned with ⟨call, begun, wait, engine⟩ |
      ⟨made, waits, isMade⟩
    · -- The link was over at once.
      refine ⟨call, (stage, act), [], .atOnce, begun, wait, ?_, ?_⟩
      · intro made isEntry
        obtain ⟨_, -, onMade⟩ := stage.context.engineLink_cases call.artifact call.items
        exact ⟨(onMade made (engine made isEntry)).1, engine made isEntry⟩
      · rw [adds, linkReturns, List.filterMap_nil, List.append_nil]
    · -- The start function of its instance has come to an end.
      obtain ⟨call, begun, inner, before, started⟩ := life.started begins waits
      refine ⟨call, begun, inner, .waited made started.history ?_, started.isCall, started.isWait,
        ?_, ?_⟩
      · intro happened member
        rcases List.mem_cons.1 member with rfl | isInner
        · exact waits
        · exact started.waits happened isInner
      · intro entry isEntry
        rw [isMade entry isEntry]
        obtain ⟨_, -, onMade⟩ := begun.1.context.engineLink_cases call.artifact call.items
        exact ⟨(onMade made started.engine).1, started.engine⟩
      · rw [adds, life.instances_since noInstances started.history started.silent]
  case fresh =>
    intro inst made isOk
    have isHandle : ret.handle? = some inst := by rw [LinkReturn.handle?, isOk]; rfl
    have isEntry : ret.entry? = some made := by rw [LinkReturn.entry?, isOk]; rfl
    have isNext := handle inst isHandle
    refine ⟨?_, ?_, ?_⟩
    · rw [isNext, Context.instanceEntry?, if_pos rfl]
      exact Array.getElem?_eq_none (Nat.le_refl _)
    · rw [isNext]
      exact life.not_mem_handles begins noInstances
    · rw [isEntry] at adds
      rw [isNext, ← ((life.sound begins).take_leads taken).extension.id]
      exact Context.instanceEntry?_appended adds

/-- A run that has told the embedder of a link did so with its last act, with which that
link returned. -/
theorem linked_returned (life : Life fresh past stage)
    {result : Except LinkError InstanceHandle} (told : stage.running = some (.linked result)) :
    ∃ happened before ret, past = happened :: before ∧
      happened.1.linkReturn? happened.2 = some ret ∧ ret.wait = .embedder ∧
        ret.result = result := by
  cases life with
  | created => contradiction
  | @acted past before _ act life taken =>
      cases returned : before.linkReturn? act with
      | none => exact absurd told ((Stage.take_silent taken returned).2 result)
      | some ret =>
          obtain ⟨handed, -, -⟩ := Stage.take_returns taken returned
          rw [handed] at told
          refine ⟨(before, act), past, ret, rfl, returned, ?_⟩
          cases isWait : ret.wait with
          | embedder =>
              rw [isWait] at told
              cases told
              exact ⟨rfl, rfl⟩
          | closure next below =>
              rw [isWait] at told
              cases told

/-- What a link of the embedder answers is what a link of the life returned last. -/
theorem link_answered (life : Life fresh past (.idle context)) {artifact : Artifact}
    {items : List Item} {result : Except LinkError InstanceHandle}
    (answered : context.link artifact items = (.answered result, after)) :
    ∃ later inner ret, Life fresh (later ++ past) (.idle after) ∧
      linkReturns later = inner ++ [ret] ∧ ret.wait = .embedder ∧ ret.result = result := by
  have begun : Life fresh ((.idle context, .link artifact items) :: past)
      (.ofRun (context.beginLink artifact items .embedder)) := life.acted rfl
  obtain ⟨steps, reached⟩ := begun.run_reached Context.manySteps
  rw [Context.run_of_link answered] at reached
  have closed : Life fresh ((.ofRun (after, .linked result), .close) ::
      (steps ++ (.idle context, .link artifact items) :: past)) (.idle after) := reached.acted rfl
  obtain ⟨happened, before, ret, history, returned, isWait, isResult⟩ := reached.linked_returned rfl
  -- The link returned with its first act, or with the last of the steps after it.
  cases steps with
  | nil =>
      obtain ⟨rfl, -⟩ := List.cons.inj history
      refine ⟨[(.ofRun (after, .linked result), .close), (.idle context, .link artifact items)],
        [], ret, closed, ?_, isWait, isResult⟩
      simp only [linkReturns, returned]
      rfl
  | cons latest steps =>
      obtain ⟨rfl, -⟩ := List.cons.inj history
      refine ⟨(.ofRun (after, .linked result), .close) :: latest ::
        (steps ++ [(.idle context, .link artifact items)]),
        linkReturns (steps ++ [(.idle context, .link artifact items)]), ret,
        by simpa using closed, ?_, isWait, isResult⟩
      rw [linkReturns, linkReturns, returned]
      exact List.append_nil _

/-- In every life of a context, the list of instances has an entry for each link that
returned an instance, and each handle stands for its instance from then on. -/
theorem instanceTable {id : ContextId} {environment : Environment} {data : σ}
    (life : Life (.create id environment data) past stage) :
    InstanceTable (.create id environment data) past stage := by
  have begins := Context.create_sound id environment data
  have entries := life.instances_eq_entries rfl
  refine ⟨entries, ?count, ?distinct, ?resolves, ?kept, ?returns, ?answered, ?named⟩
  case count =>
    rw [Context.instanceCount, ← Array.length_toList, entries, List.length_filterMap_eq_countP]
    congr 1
    funext ret
    exact ret.isSome_entry?
  case distinct =>
    rw [life.handles_eq_range begins rfl]
    refine List.Pairwise.map _ ?_ List.nodup_range
    intro first second differ same
    exact differ (InstanceHandle.mk.inj same).2
  case resolves =>
    intro ret member inst made isOk
    exact life.returned_resolves begins member isOk
  case returns =>
    intro act next ret taken returned
    exact life.linkAccount begins rfl taken returned
  case kept =>
    intro happened member inst made
    exact (life.extension_of_mem begins happened member).instanceEntry?_eq_some
  case answered =>
    rintro context artifact items result after rfl answered
    exact life.link_answered answered
  case named =>
    rintro context linker artifact result after - answered
    exact linker.link_answered answered

end Life

/-! ## A link within a link that fails -/

namespace LinkedWithin

/-- A module with nothing in it. -/
def empty : Artifact where
  environment := ⟨0⟩
  serial := 0
  module := {}
  digest := []
  surface := ⟨[], []⟩
  surface_eq := rfl

/-- A module whose start function is its import. -/
def artifact : Artifact where
  environment := ⟨0⟩
  serial := 1
  module :=
    { types := [⟨[], []⟩]
      imports := [⟨"env", "f", .func ⟨[], []⟩⟩]
      start := some 0 }
  digest := []
  surface := ⟨[⟨"env", "f", .func .empty⟩], []⟩
  surface_eq := rfl

def fresh : Context Unit := .create ⟨0⟩ { id := ⟨0⟩, config := {} } ()

/-- A closure that links and then refuses is the start function of an instance, which is
not linked then.  Another one is linked after that. -/
theorem lives : ∃ past context, Life fresh past (.idle context) ∧
    (linkReturns past).map LinkReturn.succeeds = [true, false, true] ∧
      context.instanceCount = 2 := by
  have made : Life fresh _ _ := Life.created.acted (show Stage.take _
    (.register .empty fun _ => .link empty [] fun _ => .fail (.failed "no")) = some _ from rfl)
  have linking := made.acted (show Stage.take _ (.link artifact [.func ⟨⟨0⟩, 0⟩]) = some _ from rfl)
  have invoked := linking.acted (show Stage.take _ .step = some _ from rfl)
  have running := invoked.acted (show Stage.take _ .step = some _ from rfl)
  have linked := running.acted (show Stage.take _ .step = some _ from rfl)
  have refused := linked.acted (show Stage.take _ .step = some _ from rfl)
  have failed := refused.acted (show Stage.take _ .step = some _ from rfl)
  have closed := failed.acted (show Stage.take _ .close = some _ from rfl)
  have again := closed.acted (show Stage.take _ (.link empty []) = some _ from rfl)
  have ended := again.acted (show Stage.take _ .close = some _ from rfl)
  exact ⟨_, _, ended, rfl, rfl⟩

end LinkedWithin

/-- A link that fails adds nothing, though a closure linked an instance within it. -/
theorem Life.instanceTable_of_failing : ∃ past context,
    Life LinkedWithin.fresh past (.idle context) ∧
      (linkReturns past).map LinkReturn.succeeds = [true, false, true] ∧
        InstanceTable LinkedWithin.fresh past (.idle context) := by
  obtain ⟨past, context, life, returns, -⟩ := LinkedWithin.lives
  exact ⟨past, context, life, returns, Life.instanceTable life⟩

end WasmSandbox
