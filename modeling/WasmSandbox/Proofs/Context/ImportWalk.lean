import WasmSandbox.Proofs.Context.Issuance

/-!
Contract: what the walk over declared imports reports.

Owns:
- acceptance of a provided type by a declared one, as a relation;
- what can be wrong with the item for one declared import, and what is reported for it;
- that the walk reports the first import that is not satisfied, and items beyond the
  declared ones only where every import is satisfied;
- that there is nothing to report exactly where there is one item for each import, which
  satisfies it.

The walk asks for the type that an item has now.  A handle that stands for nothing has none,
so the items are taken to stand for something if they belong to the context.

Does not own: links (`WasmSandbox.Proofs.Context.LinkChecks`), and how types of items change
(`WasmSandbox.Proofs.Context.ExportTypes`).
-/

namespace WasmSandbox

open Wasm

/-! ## Types that are accepted -/

/-- Limits are at least as tight as declared: the least size covers the declared one, and a
greatest size that is declared is not exceeded. -/
structure Limits.Tight (declared provided : Limits) : Prop where
  least : declared.minimum ≤ provided.minimum
  greatest : ∀ bound, declared.maximum = some bound →
    ∃ offered, provided.maximum = some offered ∧ offered ≤ bound

/-- A declared type accepts a provided one: functions of the same signature, globals of the
same type, memories of tight limits, and tables of the same elements and tight limits. -/
inductive ItemType.Accepts : (declared provided : ItemType) → Prop where
  | func (signature : Signature) : Accepts (.func signature) (.func signature)
  | memory {declared provided : Limits} (tight : declared.Tight provided) :
      Accepts (.memory ⟨declared⟩) (.memory ⟨provided⟩)
  | table (element : ValueKind) {declared provided : Limits} (tight : declared.Tight provided) :
      Accepts (.table ⟨element, declared⟩) (.table ⟨element, provided⟩)
  | global (type : GlobalType) : Accepts (.global type) (.global type)

theorem Limits.satisfiedBy_iff_tight (declared provided : Limits) :
    declared.satisfiedBy provided = true ↔ declared.Tight provided := by
  rw [satisfiedBy_iff]
  exact ⟨fun ⟨least, greatest⟩ => ⟨least, greatest⟩, fun ⟨least, greatest⟩ => ⟨least, greatest⟩⟩

theorem ItemType.accepts_iff (declared provided : ItemType) :
    declared.accepts provided = true ↔ declared.Accepts provided := by
  constructor
  · intro accepted
    cases declared <;> cases provided <;>
      simp only [accepts, decide_eq_true_eq, Bool.and_eq_true, Bool.false_eq_true,
        Limits.satisfiedBy_iff_tight] at accepted
    case func.func signature other =>
      rw [accepted]
      exact .func other
    case memory.memory type other => exact .memory accepted
    case table.table type other =>
      obtain ⟨element, limits⟩ := type
      obtain ⟨sameElement, tight⟩ := accepted
      cases sameElement
      exact .table _ tight
    case global.global type other =>
      rw [accepted]
      exact .global other
  · intro accepted
    cases accepted with
    | memory tight => exact (Limits.satisfiedBy_iff_tight _ _).2 tight
    | table element tight => simp [accepts, (Limits.satisfiedBy_iff_tight _ _).2 tight]
    | _ => simp [accepts]

namespace Context

variable {σ : Type} {context : Context σ}

/-! ## One import -/

/-- An item satisfies a declared import: it belongs to the context, and the type that it has
now is accepted. -/
structure Satisfies (context : Context σ) (declared : ImportDecl) (item : Item) : Prop where
  own : item.context = context.id
  accepted : ∃ type lowered, context.Described item type lowered ∧ declared.type.Accepts type

/-- What is wrong with the item for a declared import, and what is reported for it.  `index`
is the number of the import, and the item is the one at that place, if there is one. -/
inductive ImportFault (context : Context σ) (index : Nat) (declared : ImportDecl) :
    Option Item → LinkError → Prop where
  | missing : ImportFault context index declared none
      (.missingImport index declared.module declared.name declared.type)
  | foreign {item : Item} (other : item.context ≠ context.id) :
      ImportFault context index declared (some item)
        (.foreignImport declared.module declared.name)
  | kind {item : Item} {type : ItemType} {lowered : Extern} (own : item.context = context.id)
      (isType : context.Described item type lowered) (differs : type.kind ≠ declared.type.kind) :
      ImportFault context index declared (some item)
        (.kindMismatch declared.module declared.name declared.type.kind type.kind)
  | signature {item : Item} {expected provided : Signature} {lowered : Extern}
      (own : item.context = context.id)
      (isType : context.Described item (.func provided) lowered)
      (isDeclared : declared.type = .func expected) (differs : expected ≠ provided) :
      ImportFault context index declared (some item)
        (.signatureMismatch declared.module declared.name expected provided)
  | incompatible {item : Item} {type : ItemType} {lowered : Extern}
      (own : item.context = context.id) (isType : context.Described item type lowered)
      (sameKind : type.kind = declared.type.kind) (noFunc : type.kind ≠ .func)
      (refused : ¬declared.type.Accepts type) :
      ImportFault context index declared (some item)
        (.incompatibleType declared.module declared.name declared.type type)

section

variable {index : Nat} {declared : ImportDecl} {item : Item} {error : LinkError}

/-- An item is checked against an import by its type now. -/
theorem checkImport_of_described {type : ItemType} {lowered : Extern}
    (own : item.context = context.id) (isType : context.Described item type lowered) :
    context.checkImport declared item =
      if type.kind ≠ declared.type.kind then
        .error (.kindMismatch declared.module declared.name declared.type.kind type.kind)
      else if declared.type.accepts type then .ok lowered
      else
        match declared.type, type with
        | .func expected, .func provided =>
            .error (.signatureMismatch declared.module declared.name expected provided)
        | _, _ => .error (.incompatibleType declared.module declared.name declared.type type) := by
  have described := (context.describe_eq_ok_iff item type lowered).2 isType
  obtain ⟨module, name, expected⟩ := declared
  unfold checkImport
  cases expected <;> cases type <;>
    simp [own, described, bind, Except.bind, pure, Except.pure, throw, throwThe,
      MonadExceptOf.throw, ItemType.kind, ItemType.accepts] <;>
    grind

theorem ImportFault.checkImport_eq (fault : context.ImportFault index declared (some item) error) :
    context.checkImport declared item = .error error := by
  cases fault with
  | foreign other =>
      simp [checkImport, other, bind, Except.bind, throw, throwThe, MonadExceptOf.throw]
  | kind own isType differs => rw [checkImport_of_described own isType, if_pos differs]
  | signature own isType isDeclared differs =>
      rw [checkImport_of_described own isType]
      simp [isDeclared, ItemType.kind, ItemType.accepts, differs]
  | @incompatible _ type lowered own isType sameKind noFunc refused =>
      have notAccepted : ¬declared.type.accepts type = true := by rwa [ItemType.accepts_iff]
      rw [checkImport_of_described own isType, if_neg (not_not.2 sameKind), if_neg notAccepted]
      split
      · exact absurd rfl noFunc
      · rfl

/-- No fault is that an item has no type. -/
theorem ImportFault.ne_instantiate {provided : Option Item}
    (fault : context.ImportFault index declared provided error) (reason : String) :
    error ≠ .instantiate reason := by
  rintro rfl
  cases fault

theorem satisfies_iff :
    context.Satisfies declared item ↔
      ∃ lowered, context.checkImport declared item = .ok lowered := by
  constructor
  · rintro ⟨own, type, lowered, isType, accepted⟩
    have described := (context.describe_eq_ok_iff item type lowered).2 isType
    exact ⟨lowered, (context.checkImport_eq_ok_iff _ _ _).2
      ⟨own, type, described, (ItemType.accepts_iff _ _).2 accepted⟩⟩
  · rintro ⟨lowered, passes⟩
    obtain ⟨own, type, isType, accepted⟩ := (context.checkImport_eq_ok_iff _ _ _).1 passes
    exact ⟨own, type, lowered, (context.describe_eq_ok_iff _ _ _).1 isType,
      (ItemType.accepts_iff _ _).1 accepted⟩

/-- An item with which nothing is wrong satisfies the import, if it stands for something. -/
theorem satisfies_of_no_fault (index : Nat)
    (stands : item.context = context.id → context.Stands item)
    (noFault : ∀ error, ¬context.ImportFault index declared (some item) error) :
    context.Satisfies declared item := by
  by_cases own : item.context = context.id
  · obtain ⟨type, lowered, isType⟩ := stands own
    have sameKind : type.kind = declared.type.kind := by
      by_contra differs
      exact noFault _ (.kind own isType differs)
    refine ⟨own, type, lowered, isType, ?_⟩
    by_contra refused
    cases type with
    | func provided =>
        cases isDeclared : declared.type with
        | func expected =>
            refine noFault _ (.signature own isType isDeclared ?_)
            rintro rfl
            exact refused (isDeclared ▸ .func _)
        | _ =>
            rw [isDeclared] at sameKind
            contradiction
    | _ => exact noFault _ (.incompatible own isType sameKind nofun refused)
  · exact absurd (.foreign own) (noFault _)

/-- Something is wrong with an item exactly when it does not satisfy the import. -/
theorem checkImport_eq_error_iff (stands : item.context = context.id → context.Stands item) :
    context.checkImport declared item = .error error ↔
      context.ImportFault index declared (some item) error := by
  refine ⟨?_, ImportFault.checkImport_eq⟩
  intro fails
  have unsatisfied : ¬context.Satisfies declared item := by
    rw [satisfies_iff, fails]
    simp
  by_contra otherwise
  refine unsatisfied (satisfies_of_no_fault index stands ?_)
  intro found fault
  have same := fails.symm.trans fault.checkImport_eq
  rw [Except.error.inj same] at otherwise
  exact otherwise fault

/-- What the check of an item fails with is wrong with the item, unless the item belongs to the
context and stands for nothing. -/
theorem checkImport_fails (index : Nat)
    (failed : context.checkImport declared item = .error error) :
    context.ImportFault index declared (some item) error ∨
      item.context = context.id ∧ ¬context.Stands item ∧ ∃ reason, error = .instantiate reason := by
  by_cases stands : item.context = context.id → context.Stands item
  · exact .inl ((checkImport_eq_error_iff stands).1 failed)
  · obtain ⟨own, standsNot⟩ := Classical.not_imp.1 stands
    refine .inr ⟨own, standsNot, ?_⟩
    cases described : context.describe item with
    | ok found =>
        exact absurd ⟨_, _, (context.describe_eq_ok_iff item _ _).1 described⟩ standsNot
    | error reason =>
        have raised : context.checkImport declared item = .error (.instantiate reason) := by
          simp [checkImport, own, described, throw, throwThe, MonadExceptOf.throw]
        exact ⟨reason, Except.error.inj (failed.symm.trans raised)⟩

end

/-! ## The walk -/

/-- The import at a place is satisfied by the item at that place. -/
def SatisfiedAt (context : Context σ) (declareds : List ImportDecl) (items : List Item)
    (position : Nat) : Prop :=
  ∃ declared item, declareds[position]? = some declared ∧ items[position]? = some item ∧
    context.Satisfies declared item

/-- The first import that is not satisfied, where imports are counted from `start`, and what
is wrong there. -/
structure FirstFault (context : Context σ) (start : Nat) (declareds : List ImportDecl)
    (items : List Item) (position : Nat) (error : LinkError) : Prop where
  fault : ∃ declared, declareds[position]? = some declared ∧
    context.ImportFault (start + position) declared items[position]? error
  least : ∀ earlier < position, context.SatisfiedAt declareds items earlier

section

variable {start position : Nat} {declared : ImportDecl} {declareds : List ImportDecl}
  {item : Item} {items : List Item} {error : LinkError}

theorem satisfiedAt_succ {position : Nat} :
    context.SatisfiedAt (declared :: declareds) (item :: items) (position + 1) ↔
      context.SatisfiedAt declareds items position := by
  simp [SatisfiedAt]

/-- Nothing is wrong where an import is satisfied. -/
theorem SatisfiedAt.no_fault (satisfied : context.SatisfiedAt declareds items position)
    (isDeclared : declareds[position]? = some declared) :
    ¬context.ImportFault start declared items[position]? error := by
  intro fault
  obtain ⟨other, item, isOther, isItem, satisfies⟩ := satisfied
  cases isDeclared.symm.trans isOther
  obtain ⟨lowered, passes⟩ := satisfies_iff.1 satisfies
  rw [isItem] at fault
  rw [fault.checkImport_eq] at passes
  contradiction

theorem no_fault_of_satisfied
    (satisfied : ∀ position < declareds.length, context.SatisfiedAt declareds items position)
    (isDeclared : declareds[position]? = some declared) :
    ¬context.ImportFault start declared items[position]? error :=
  (satisfied position (List.getElem?_eq_some_iff.1 isDeclared).1).no_fault isDeclared

/-- Where the first import is satisfied, the first fault is at one of the others. -/
theorem firstFault_cons_iff (satisfies : context.Satisfies declared item) :
    context.FirstFault start (declared :: declareds) (item :: items) position error ↔
      ∃ later, position = later + 1 ∧
        context.FirstFault (start + 1) declareds items later error := by
  constructor
  · rintro ⟨⟨found, isFound, fault⟩, least⟩
    cases position with
    | zero =>
        have satisfied : context.SatisfiedAt (declared :: declareds) (item :: items) 0 :=
          ⟨declared, item, rfl, rfl, satisfies⟩
        exact absurd fault (satisfied.no_fault isFound)
    | succ later =>
        refine ⟨later, rfl, ⟨found, by simpa using isFound, ?_⟩, ?_⟩
        · rw [Nat.add_right_comm]
          simpa [Nat.add_assoc] using fault
        · intro earlier below
          exact satisfiedAt_succ.1 (least (earlier + 1) (Nat.succ_lt_succ below))
  · rintro ⟨later, rfl, ⟨found, isFound, fault⟩, least⟩
    refine ⟨⟨found, by simpa using isFound, ?_⟩, ?_⟩
    · rw [Nat.add_right_comm] at fault
      simpa [Nat.add_assoc] using fault
    · intro earlier below
      cases earlier with
      | zero => exact ⟨declared, item, rfl, rfl, satisfies⟩
      | succ earlier => exact satisfiedAt_succ.2 (least earlier (Nat.lt_of_succ_lt_succ below))

/-- Where the first import is not satisfied, the first fault is there. -/
theorem firstFault_iff_of_unsatisfied
    (unsatisfied : ¬context.SatisfiedAt (declared :: declareds) items 0) :
    context.FirstFault start (declared :: declareds) items position error ↔
      position = 0 ∧ context.ImportFault start declared items[0]? error := by
  constructor
  · rintro ⟨⟨found, isFound, fault⟩, least⟩
    cases position with
    | zero =>
        cases isFound
        exact ⟨rfl, fault⟩
    | succ later => exact absurd (least 0 (Nat.succ_pos later)) unsatisfied
  · rintro ⟨rfl, fault⟩
    exact ⟨⟨declared, rfl, fault⟩, fun earlier below => absurd below (Nat.not_lt_zero earlier)⟩

/-- The walk fails with what is wrong at the first import that is not satisfied. -/
theorem walkImports_eq_error_iff (start : Nat) (declareds : List ImportDecl) (error : LinkError)
    (stands : ∀ item ∈ items, item.context = context.id → context.Stands item) :
    context.walkImports start declareds items = .error error ↔
      ∃ position, context.FirstFault start declareds items position error := by
  induction declareds generalizing start items with
  | nil =>
      constructor
      · intro fails
        contradiction
      · rintro ⟨position, ⟨declared, isDeclared, -⟩, -⟩
        simp at isDeclared
  | cons declared declareds inductionHypothesis =>
      cases items with
      | nil =>
          have unsatisfied : ¬context.SatisfiedAt (declared :: declareds) [] 0 := by
            simp [SatisfiedAt]
          simp only [firstFault_iff_of_unsatisfied unsatisfied, exists_eq_left, walkImports]
          constructor
          · intro fails
            cases fails
            exact .missing
          · intro fault
            cases fault
            rfl
      | cons item items =>
          obtain ⟨standsFirst, standsRest⟩ := List.forall_mem_cons.1 stands
          simp only [walkImports, bind, Except.bind]
          cases first : context.checkImport declared item with
          | error found =>
              have unsatisfied :
                  ¬context.SatisfiedAt (declared :: declareds) (item :: items) 0 := by
                simp [SatisfiedAt, satisfies_iff, first]
              simp only [firstFault_iff_of_unsatisfied unsatisfied, exists_eq_left,
                List.getElem?_cons_zero, ← checkImport_eq_error_iff standsFirst, first,
                Except.error.injEq]
          | ok lowered =>
              simp only [firstFault_cons_iff (satisfies_iff.2 ⟨lowered, first⟩)]
              rw [exists_comm]
              simp only [exists_eq_left]
              rw [← inductionHypothesis (start + 1) standsRest]
              cases context.walkImports (start + 1) declareds items <;> simp [pure, Except.pure]

/-- The walk passes exactly when every declared import is satisfied. -/
theorem walkImports_isOk_iff (start : Nat) (declareds : List ImportDecl)
    (stands : ∀ item ∈ items, item.context = context.id → context.Stands item) :
    (∃ externs, context.walkImports start declareds items = .ok externs) ↔
      ∀ position < declareds.length, context.SatisfiedAt declareds items position := by
  constructor
  · rintro ⟨externs, passes⟩ position
    -- The least position that is not satisfied would be a first fault.
    induction position using Nat.strongRecOn with
    | ind position inductionHypothesis =>
        intro within
        by_contra unsatisfied
        have isDeclared := List.getElem?_eq_getElem within
        obtain ⟨error, fault⟩ : ∃ error,
            context.ImportFault (start + position) declareds[position] items[position]? error := by
          cases isItem : items[position]? with
          | none => exact ⟨_, .missing⟩
          | some item =>
              by_contra noFault
              have isGiven := stands item (List.mem_of_getElem? isItem)
              exact unsatisfied ⟨_, item, isDeclared, isItem,
                satisfies_of_no_fault (start + position) isGiven (not_exists.1 noFault)⟩
        have first : context.FirstFault start declareds items position error :=
          ⟨⟨_, isDeclared, fault⟩,
            fun earlier below => inductionHypothesis earlier below (Nat.lt_trans below within)⟩
        have fails := (walkImports_eq_error_iff start declareds error stands).2 ⟨position, first⟩
        rw [passes] at fails
        contradiction
  · intro satisfied
    cases walked : context.walkImports start declareds items with
    | ok externs => exact ⟨externs, rfl⟩
    | error error =>
        obtain ⟨position, ⟨declared, isDeclared, fault⟩, -⟩ :=
          (walkImports_eq_error_iff start declareds error stands).1 walked
        exact absurd fault (no_fault_of_satisfied satisfied isDeclared)

/-! ## Imports that are refused -/

/-- Why the imports of an artifact are refused: what is wrong at the first one that is not
satisfied, or else that there are items beyond them. -/
inductive RefusesImports (context : Context σ) (declareds : List ImportDecl)
    (items : List Item) : LinkError → Prop where
  | unsatisfied {position : Nat} {declared : ImportDecl} {error : LinkError}
      (isDeclared : declareds[position]? = some declared)
      (fault : context.ImportFault position declared items[position]? error)
      (least : ∀ earlier < position, context.SatisfiedAt declareds items earlier) :
      RefusesImports context declareds items error
  | unexpected (satisfied : ∀ position < declareds.length,
        context.SatisfiedAt declareds items position)
      (more : declareds.length < items.length) :
      RefusesImports context declareds items
        (.unexpectedImports declareds.length items.length)

variable {artifact : Artifact}

theorem resolveImports_eq_error_iff (error : LinkError)
    (stands : ∀ item ∈ items, item.context = context.id → context.Stands item) :
    context.resolveImports artifact items = .error error ↔
      context.RefusesImports artifact.imports items error := by
  have passesIff := walkImports_isOk_iff 0 artifact.imports stands
  unfold resolveImports
  cases walked : context.walkImports 0 artifact.imports items with
  | error found =>
      have failsIff := walkImports_eq_error_iff 0 artifact.imports error stands
      rw [walked] at failsIff passesIff
      simp only [bind, Except.bind]
      rw [failsIff]
      constructor
      · rintro ⟨position, ⟨declared, isDeclared, fault⟩, least⟩
        rw [Nat.zero_add] at fault
        exact .unsatisfied isDeclared fault least
      · intro refuses
        cases refuses with
        | @unsatisfied position declared error isDeclared fault least =>
            refine ⟨position, ⟨declared, isDeclared, ?_⟩, least⟩
            rwa [Nat.zero_add]
        | unexpected satisfied more =>
            obtain ⟨externs, passes⟩ := passesIff.2 satisfied
            contradiction
  | ok externs =>
      have satisfied := passesIff.1 ⟨externs, walked⟩
      simp only [bind, Except.bind]
      split
      · rename_i more
        constructor
        · intro fails
          cases fails
          exact .unexpected satisfied more
        · intro refuses
          cases refuses with
          | unsatisfied isDeclared fault least =>
              exact absurd fault (no_fault_of_satisfied satisfied isDeclared)
          | unexpected _ _ => rfl
      · rename_i noMore
        constructor
        · intro fails
          contradiction
        · intro refuses
          cases refuses with
          | unsatisfied isDeclared fault least =>
              exact absurd fault (no_fault_of_satisfied satisfied isDeclared)
          | unexpected _ more => exact absurd more noMore

/-- There is one item for each declared import, which satisfies it. -/
theorem forall₂_satisfies_iff :
    List.Forall₂ context.Satisfies declareds items ↔ items.length ≤ declareds.length ∧
      ∀ position < declareds.length, context.SatisfiedAt declareds items position := by
  rw [List.forall₂_iff_get]
  constructor
  · rintro ⟨sameLength, satisfies⟩
    refine ⟨Nat.le_of_eq sameLength.symm, ?_⟩
    intro position within
    have inside : position < items.length := sameLength ▸ within
    exact ⟨_, _, List.getElem?_eq_getElem within, List.getElem?_eq_getElem inside,
      satisfies position within inside⟩
  · rintro ⟨noMore, satisfied⟩
    have noLess : declareds.length ≤ items.length := by
      by_contra less
      obtain ⟨_, _, -, isItem, -⟩ := satisfied items.length (Nat.lt_of_not_le less)
      simp at isItem
    refine ⟨Nat.le_antisymm noLess noMore, ?_⟩
    intro position within inside
    obtain ⟨declared, item, isDeclared, isItem, satisfies⟩ := satisfied position within
    rw [List.getElem?_eq_getElem within] at isDeclared
    rw [List.getElem?_eq_getElem inside] at isItem
    cases isDeclared
    cases isItem
    exact satisfies

/-- The imports of an artifact are refused unless there is one item for each, which satisfies
it. -/
theorem no_refusesImports_iff
    (stands : ∀ item ∈ items, item.context = context.id → context.Stands item) :
    (∀ error, ¬context.RefusesImports declareds items error) ↔
      List.Forall₂ context.Satisfies declareds items := by
  rw [forall₂_satisfies_iff]
  constructor
  · intro noReason
    have satisfied : ∀ position < declareds.length,
        context.SatisfiedAt declareds items position := by
      refine (walkImports_isOk_iff 0 declareds stands).1 ?_
      cases walked : context.walkImports 0 declareds items with
      | ok externs => exact ⟨externs, rfl⟩
      | error error =>
          obtain ⟨position, ⟨declared, isDeclared, fault⟩, least⟩ :=
            (walkImports_eq_error_iff 0 declareds error stands).1 walked
          rw [Nat.zero_add] at fault
          exact absurd (.unsatisfied isDeclared fault least) (noReason error)
    refine ⟨?_, satisfied⟩
    by_contra more
    exact noReason _ (.unexpected satisfied (Nat.lt_of_not_le more))
  · rintro ⟨noMore, satisfied⟩ error refuses
    cases refuses with
    | unsatisfied isDeclared fault least => exact no_fault_of_satisfied satisfied isDeclared fault
    | unexpected _ more => exact Nat.not_le_of_lt more noMore

end

end Context

end WasmSandbox
