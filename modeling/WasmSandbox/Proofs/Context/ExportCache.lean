import WasmSandbox.Proofs.Context.ExportStability

/-!
Contract: answers to look-ups of exports that are kept with an instance.

Owns:
- look-ups that ask the kept answers first and keep what they find, for one name and for the
  list of all exports;
- that such a look-up gives the answer, and leaves the context, of one that keeps nothing;
- that this holds over every life, with the answers that its look-ups kept.

What carries the proof is that kept answers agree with the context: looking the name up anew
gives the same item and changes nothing.  A name that is not found is not kept.

Does not own: which items are found (`WasmSandbox.Proofs.Context.ExportStability`).
-/

namespace WasmSandbox

/-- Answers to look-ups of one instance that were kept, by name. -/
abbrev KeptExports := List (String × Item)

namespace Context

variable {σ : Type} {context later : Context σ} {inst : InstanceHandle} {made : InstanceEntry}
  {kept : KeptExports}

/-! ## Look-ups that keep their answers -/

/-- A look-up that asks the kept answers first, and keeps what it finds. -/
def lookupKept (context : Context σ) (inst : InstanceHandle) (kept : KeptExports)
    (name : String) : (Option Item × Context σ) × KeptExports :=
  match kept.lookup name with
  | some item => ((some item, context), kept)
  | none =>
      match context.lookup inst name with
      | (some item, after) => ((some item, after), (name, item) :: kept)
      | (none, after) => ((none, after), kept)

def lookupAllKept (inst : InstanceHandle) (context : Context σ) (kept : KeptExports) :
    List String → (List (String × Item) × Context σ) × KeptExports
  | [] => (([], context), kept)
  | name :: rest =>
      match context.lookupKept inst kept name with
      | ((some item, context), kept) =>
          let ((items, context), kept) := lookupAllKept inst context kept rest
          (((name, item) :: items, context), kept)
      | ((none, context), kept) => lookupAllKept inst context kept rest

/-- The list of all exports, each looked up in this way. -/
def exportsKept (context : Context σ) (inst : InstanceHandle) (kept : KeptExports) :
    (List (String × Item) × Context σ) × KeptExports :=
  match context.artifact? inst with
  | some artifact => lookupAllKept inst context kept (artifact.exports.map ExportDecl.name)
  | none => (([], context), kept)

/-! ## Kept answers that agree -/

/-- Looking up a name whose answer is kept gives that answer, and changes nothing. -/
def Agrees (context : Context σ) (inst : InstanceHandle) (kept : KeptExports) : Prop :=
  ∀ name item, kept.lookup name = some item → context.lookup inst name = (some item, context)

theorem Agrees.nil (context : Context σ) (inst : InstanceHandle) : context.Agrees inst [] :=
  nofun

/-- Where an instance is not linked, nothing that agrees is kept. -/
theorem Agrees.lookup_eq_none (agrees : context.Agrees inst kept)
    (unlinked : context.instanceEntry? inst = none) (name : String) :
    kept.lookup name = none := by
  refine Option.eq_none_iff_forall_ne_some.2 fun item found => ?_
  have looked := agrees name item found
  simp [lookup, unlinked] at looked

/-- Kept answers go on agreeing. -/
theorem Agrees.mono (agrees : context.Agrees inst kept) (holds : context.Holds inst made)
    (extension : Extends context later) (ages : context.store.Ages later.store)
    (holdsLater : later.Holds inst made) : later.Agrees inst kept :=
  fun name item found => holds.lookup_later (agrees name item found) extension ages holdsLater

/-- One more answer that agrees may be kept. -/
theorem Agrees.cons (agrees : context.Agrees inst kept) {name : String} {item : Item}
    (looked : context.lookup inst name = (some item, context)) :
    context.Agrees inst ((name, item) :: kept) := by
  intro other found isKept
  rw [List.lookup_cons] at isKept
  split at isKept
  · rename_i same
    cases isKept
    rw [eq_of_beq same]
    exact looked
  · exact agrees other found isKept

/-- What a look-up that keeps its answers comes to, for an answer and a context after it. -/
def KeepsOf {α : Type} (inst : InstanceHandle) (out : (α × Context σ) × KeptExports)
    (answer : α × Context σ) : Prop :=
  out.1 = answer ∧ answer.2.Agrees inst out.2

theorem Holds.lookupKept_keeps (holds : context.Holds inst made)
    (agrees : context.Agrees inst kept) (name : String) :
    KeepsOf inst (context.lookupKept inst kept name) (context.lookup inst name) := by
  have holdsAfter := holds.afterLookup name
  have extension := (holds.sound.lookup_grows inst name).1.extension
  have ages := (context.lookup_issues inst name).works.ages
  unfold lookupKept
  cases isKept : kept.lookup name with
  | some item =>
      rw [agrees name item isKept]
      exact ⟨rfl, agrees⟩
  | none =>
      cases looked : context.lookup inst name with
      | mk answer after =>
          rw [looked] at holdsAfter extension ages
          have agreesAfter := agrees.mono holds extension ages holdsAfter
          cases answer with
          | none => exact ⟨rfl, agreesAfter⟩
          | some item =>
              exact ⟨rfl, agreesAfter.cons
                (holds.lookup_later looked (.refl _) (.refl _) holdsAfter)⟩

theorem Holds.lookupAllKept_keeps (holds : context.Holds inst made)
    (agrees : context.Agrees inst kept) (names : List String) :
    KeepsOf inst (lookupAllKept inst context kept names) (context.lookupAll inst names) := by
  induction names generalizing context kept with
  | nil => exact ⟨rfl, agrees⟩
  | cons name rest inductionHypothesis =>
      have holdsAfter := holds.afterLookup name
      obtain ⟨same, agreesAfter⟩ := holds.lookupKept_keeps agrees name
      unfold lookupAllKept lookupAll
      generalize context.lookupKept inst kept name = out at same agreesAfter
      obtain ⟨shown, keptAfter⟩ := out
      obtain rfl : shown = context.lookup inst name := same
      generalize context.lookup inst name = shown at agreesAfter holdsAfter
      obtain ⟨found, after⟩ := shown
      have others := inductionHypothesis holdsAfter agreesAfter
      cases found with
      | none => exact others
      | some item => exact ⟨congrArg (fun items => ((name, item) :: items.1, items.2)) others.1,
          others.2⟩

theorem Holds.exportsKept_keeps (holds : context.Holds inst made)
    (agrees : context.Agrees inst kept) :
    KeepsOf inst (context.exportsKept inst kept) (context.exports inst) := by
  unfold exportsKept exports
  cases context.artifact? inst with
  | some artifact => exact holds.lookupAllKept_keeps agrees _
  | none => exact ⟨rfl, agrees⟩

end Context

/-! ## Over a life -/

/-- What is kept for an instance after an act, with what was kept before. -/
def Stage.keepsExports {σ : Type} (stage : Stage σ) (inst : InstanceHandle)
    (kept : KeptExports) (act : Act σ) : KeptExports :=
  match stage.asked? act with
  | some (.lookup other name) =>
      if other = inst then (stage.context.lookupKept inst kept name).2 else kept
  | some (.exports other) =>
      if other = inst then (stage.context.exportsKept inst kept).2 else kept
  | _ => kept

/-- What is kept for an instance after a history. -/
def keptExports {σ : Type} (inst : InstanceHandle) : List (Stage σ × Act σ) → KeptExports
  | [] => []
  | happened :: earlier => happened.1.keepsExports inst (keptExports inst earlier) happened.2

namespace Stage

variable {σ : Type} {stage after : Stage σ} {act : Act σ} {inst : InstanceHandle}
  {made : InstanceEntry} {kept : KeptExports}

/-- Before an instance is linked nothing is kept for it. -/
theorem keepsExports_of_unlinked (unlinked : stage.context.instanceEntry? inst = none)
    (agrees : stage.context.Agrees inst kept) (act : Act σ) :
    stage.keepsExports inst kept act = kept := by
  unfold keepsExports
  split
  · split
    · rename_i name _ same
      simp [Context.lookupKept, agrees.lookup_eq_none unlinked name, Context.lookup, unlinked]
    · rfl
  · split
    · simp [Context.exportsKept, Context.artifact?, unlinked]
    · rfl
  · rfl

/-- An act either keeps nothing for an instance, or looks exports of it up and keeps what the
look-up found. -/
theorem keepsExports_cases (stage : Stage σ) (inst : InstanceHandle) (kept : KeptExports)
    (act : Act σ) :
    stage.keepsExports inst kept act = kept ∨
      (∃ name, stage.asked? act = some (.lookup inst name) ∧
        stage.keepsExports inst kept act = (stage.context.lookupKept inst kept name).2) ∨
      stage.asked? act = some (.exports inst) ∧
        stage.keepsExports inst kept act = (stage.context.exportsKept inst kept).2 := by
  unfold keepsExports
  split
  · rename_i other name asked
    by_cases same : other = inst
    · subst same
      exact .inr (.inl ⟨name, asked, if_pos rfl⟩)
    · exact .inl (if_neg same)
  · rename_i other asked
    by_cases same : other = inst
    · subst same
      exact .inr (.inr ⟨asked, if_pos rfl⟩)
    · exact .inl (if_neg same)
  · exact .inl rfl

/-- What is kept for a linked instance agrees with the context after an act, if what was kept
agreed before it. -/
theorem keepsExports_agrees (taken : stage.take act = some after)
    (holds : stage.context.Holds inst made) (holdsAfter : after.context.Holds inst made)
    (extension : Context.Extends stage.context after.context)
    (ages : stage.context.store.Ages after.context.store)
    (agrees : stage.context.Agrees inst kept) :
    after.context.Agrees inst (stage.keepsExports inst kept act) := by
  rcases stage.keepsExports_cases inst kept act with
    same | ⟨name, asked, keeps⟩ | ⟨asked, keeps⟩
  · rw [same]
    exact agrees.mono holds extension ages holdsAfter
  · rw [keeps, take_answered taken asked rfl]
    exact (holds.lookupKept_keeps agrees name).2
  · rw [keeps, take_answered taken asked rfl]
    exact (holds.exportsKept_keeps agrees).2

end Stage

namespace Life

variable {σ : Type} {fresh : Context σ} {past : List (Stage σ × Act σ)} {stage : Stage σ}

/-- What was kept over a life agrees with the context. -/
theorem keptExports_agrees (life : Life fresh past stage) (begins : fresh.Sound)
    (noInstances : fresh.instances = #[]) (tended : fresh.store.Tended) (valid : LinksValid past)
    (inst : InstanceHandle) : stage.context.Agrees inst (keptExports inst past) := by
  induction life with
  | created => exact .nil _ _
  | @acted past before after act life taken inductionHypothesis =>
      obtain ⟨now, earlier⟩ := List.forall_mem_cons.1 valid
      have agrees := inductionHypothesis earlier
      have extension := ((life.sound begins).take_leads taken).extension
      have ages := (take_tended (life.tended tended earlier) taken now).1
      cases entry : before.context.instanceEntry? inst with
      | none =>
          intro name item isKept
          rw [keptExports, Stage.keepsExports_of_unlinked entry agrees,
            agrees.lookup_eq_none entry name] at isKept
          contradiction
      | some made =>
          have holds := life.holds begins noInstances tended earlier entry
          have holdsAfter := (life.acted taken).holds begins noInstances tended valid
            (extension.instanceEntry?_eq_some entry)
          exact Stage.keepsExports_agrees taken holds holdsAfter extension ages agrees

/-- In every life of a context, look-ups that keep their answers with the instance give the
answers, and leave the contexts, of look-ups that find them anew. -/
theorem keptExports_fresh {id : ContextId} {environment : Environment} {data : σ}
    (life : Life (.create id environment data) past stage) (valid : LinksValid past)
    (inst : InstanceHandle) :
    (∀ name, (stage.context.lookupKept inst (keptExports inst past) name).1 =
        stage.context.lookup inst name) ∧
      (stage.context.exportsKept inst (keptExports inst past)).1 =
        stage.context.exports inst := by
  have begins := Context.create_sound id environment data
  have tended := Context.create_tended id environment data
  have agrees := life.keptExports_agrees begins rfl tended valid inst
  cases entry : stage.context.instanceEntry? inst with
  | none =>
      refine ⟨fun name => ?_, ?_⟩
      · simp [Context.lookupKept, agrees.lookup_eq_none entry name, Context.lookup, entry]
      · simp [Context.exportsKept, Context.exports, Context.artifact?, entry]
  | some made =>
      have holds := life.holds begins rfl tended valid entry
      exact ⟨fun name => (holds.lookupKept_keeps agrees name).1,
        (holds.exportsKept_keeps agrees).1⟩

end Life

end WasmSandbox
