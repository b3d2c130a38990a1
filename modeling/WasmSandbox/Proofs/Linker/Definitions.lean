import WasmSandbox.Linker

/-!
Contract: what pairs of names stand for in a linker.

Owns:
- one more definition, and which definitions are refused;
- several definitions under one module name, and the condition under which all of them are
  accepted;
- how far a linker gets with definitions of which one is refused.

A definition is looked up by its pair of names, and the latest one hides the others.  Nothing
else tells definitions apart, so a pair that is apart from all that is defined stands for what
it stood for.

Does not own: where the items come from.
-/

namespace WasmSandbox.Linker

/-! ## One definition -/

section

variable (linker : Linker) (module name : String)

/-- The linker with one more definition, whatever the pair stood for. -/
def put (item : Item) : Linker :=
  { linker with definitions := ((module, name), item) :: linker.definitions }

/-- The pair may be defined. -/
def Accepts : Prop := linker.allowShadowing = true ∨ linker.get? module name = none

theorem get?_put (item : Item) (other otherName : String) :
    (linker.put module name item).get? other otherName =
      if other = module ∧ otherName = name then some item else linker.get? other otherName := by
  have beside : ((other, otherName) == (module, name)) =
      decide (other = module ∧ otherName = name) := by
    rw [Bool.eq_iff_iff]
    simp
  rw [put, get?, List.lookup_cons, beside]
  by_cases same : other = module ∧ otherName = name
  · simp [same]
  · simp [same, get?]

variable {linker module name}

theorem define_of_accepts (accepts : linker.Accepts module name) (item : Item) :
    linker.define module name item = .ok (linker.put module name item) := by
  rcases accepts with allowed | free
  · simp [define, allowed, put]
  · simp [define, free, put]

theorem define_of_not_accepts (refuses : ¬linker.Accepts module name) (item : Item) :
    linker.define module name item = .error (.duplicate module name) := by
  rw [Accepts, not_or, Bool.not_eq_true] at refuses
  simp [define, refuses.1, Option.isSome_iff_ne_none, refuses.2]

theorem not_accepts_iff :
    ¬linker.Accepts module name ↔
      linker.allowShadowing = false ∧ (linker.get? module name).isSome = true := by
  rw [Accepts, not_or, Bool.not_eq_true, Option.isSome_iff_ne_none]

theorem define_eq_ok_iff {item : Item} {after : Linker} :
    linker.define module name item = .ok after ↔
      linker.Accepts module name ∧ after = linker.put module name item := by
  by_cases accepts : linker.Accepts module name
  · rw [define_of_accepts accepts]
    simp [accepts, eq_comm]
  · rw [define_of_not_accepts accepts]
    simp [accepts]

theorem define_eq_error_iff {item : Item} {error : LinkError} :
    linker.define module name item = .error error ↔
      ¬linker.Accepts module name ∧ error = .duplicate module name := by
  by_cases accepts : linker.Accepts module name
  · rw [define_of_accepts accepts]
    simp [accepts]
  · rw [define_of_not_accepts accepts]
    simp [accepts, eq_comm]

end

/-! ## Definitions under one module name -/

/-- The linker with several more definitions, the latest one on top. -/
def putAll (linker : Linker) (module : String) : List (String × Item) → Linker
  | [] => linker
  | (name, item) :: rest => putAll (linker.put module name item) module rest

/-- All the names may be defined, one after the other. -/
def AcceptsAll (linker : Linker) (module : String) (names : List String) : Prop :=
  linker.allowShadowing = true ∨ names.Nodup ∧ ∀ name ∈ names, linker.get? module name = none

variable {linker : Linker} {module : String} {items : List (String × Item)}

theorem not_acceptsAll_iff {names : List String} :
    ¬linker.AcceptsAll module names ↔ linker.allowShadowing = false ∧
      ¬(names.Nodup ∧ ∀ name ∈ names, linker.get? module name = none) := by
  rw [AcceptsAll, not_or, Bool.not_eq_true]

theorem putAll_allowShadowing : (linker.putAll module items).allowShadowing =
    linker.allowShadowing := by
  induction items generalizing linker with
  | nil => rfl
  | cons entry rest inductionHypothesis => exact inductionHypothesis

theorem length_putAll (linker : Linker) (module : String) (items : List (String × Item)) :
    (linker.putAll module items).definitions.length =
      items.length + linker.definitions.length := by
  induction items generalizing linker with
  | nil => exact (Nat.zero_add _).symm
  | cons entry rest inductionHypothesis =>
      rw [putAll, inductionHypothesis, put, List.length_cons, List.length_cons]
      omega

/-- Pairs that are not among the new ones stand for what they stood for. -/
theorem get?_putAll_of_apart {other name : String}
    (apart : other = module → name ∉ items.map Prod.fst) :
    (linker.putAll module items).get? other name = linker.get? other name := by
  induction items generalizing linker with
  | nil => rfl
  | cons entry rest inductionHypothesis =>
      have beside : ¬(other = module ∧ name = entry.1) := by
        rintro ⟨sameModule, rfl⟩
        exact apart sameModule (List.mem_cons_self ..)
      rw [putAll, inductionHypothesis fun sameModule member =>
        apart sameModule (List.mem_cons_of_mem _ member), get?_put, if_neg beside]

/-- A new pair stands for its item, if no name is given twice. -/
theorem get?_putAll_of_mem (distinct : (items.map Prod.fst).Nodup) {entry : String × Item}
    (member : entry ∈ items) : (linker.putAll module items).get? module entry.1 = some entry.2 := by
  induction items generalizing linker with
  | nil => contradiction
  | cons first rest inductionHypothesis =>
      rw [List.map_cons, List.nodup_cons] at distinct
      rcases List.mem_cons.1 member with rfl | later
      · rw [putAll, get?_putAll_of_apart fun _ => distinct.1, get?_put, if_pos ⟨rfl, rfl⟩]
      · exact inductionHypothesis distinct.2 later

/-- After an accepted definition the next ones are accepted as if they had come with it. -/
theorem acceptsAll_cons_iff {name : String} {names : List String} (item : Item) :
    linker.AcceptsAll module (name :: names) ↔
      linker.Accepts module name ∧ (linker.put module name item).AcceptsAll module names := by
  unfold AcceptsAll Accepts
  cases allowed : linker.allowShadowing with
  | true => simp [put, allowed]
  | false =>
      have strict : (linker.put module name item).allowShadowing = false := allowed
      simp only [strict, Bool.false_eq_true, false_or, List.nodup_cons, List.forall_mem_cons,
        get?_put, true_and]
      constructor
      · rintro ⟨⟨notLater, distinct⟩, free, freeLater⟩
        refine ⟨free, distinct, fun other member => ?_⟩
        have apart : other ≠ name := fun same => notLater (same ▸ member)
        rw [if_neg apart]
        exact freeLater other member
      · rintro ⟨free, distinct, freeLater⟩
        have notLater : name ∉ names := fun member => by simpa using freeLater name member
        refine ⟨⟨notLater, distinct⟩, free, fun other member => ?_⟩
        have apart : other ≠ name := fun same => notLater (same ▸ member)
        simpa [apart] using freeLater other member

/-- Nothing is defined if the first definition is refused. -/
theorem defineAll_of_not_accepts {name : String} (refuses : ¬linker.Accepts module name)
    (item : Item) (rest : List (String × Item)) :
    linker.defineAll module ((name, item) :: rest) = (some (.duplicate module name), linker) := by
  simp only [defineAll, define_of_not_accepts refuses]

/-- How far a linker gets with definitions under one module name: to the end, or to the
first one that is refused. -/
inductive Progress (linker : Linker) (module : String) :
    List (String × Item) → Option LinkError × Linker → Prop where
  | complete (items : List (String × Item))
      (accepts : linker.AcceptsAll module (items.map Prod.fst)) :
      Progress linker module items (none, linker.putAll module items)
  | stopped (accepted : List (String × Item)) (name : String) (item : Item)
      (rest : List (String × Item)) (accepts : linker.AcceptsAll module (accepted.map Prod.fst))
      (refuses : ¬(linker.putAll module accepted).Accepts module name) :
      Progress linker module (accepted ++ (name, item) :: rest)
        (some (.duplicate module name), linker.putAll module accepted)

theorem defineAll_progress (linker : Linker) (module : String) (items : List (String × Item)) :
    Progress linker module items (linker.defineAll module items) := by
  induction items generalizing linker with
  | nil => exact .complete [] (.inr ⟨.nil, by simp⟩)
  | cons entry rest inductionHypothesis =>
      obtain ⟨name, item⟩ := entry
      by_cases accepts : linker.Accepts module name
      · simp only [defineAll, define_of_accepts accepts]
        have further := inductionHypothesis (linker.put module name item)
        generalize (linker.put module name item).defineAll module rest = result at further
        cases further with
        | complete _ acceptsRest =>
            exact .complete ((name, item) :: rest)
              ((acceptsAll_cons_iff item).2 ⟨accepts, acceptsRest⟩)
        | stopped accepted later _ _ acceptsRest refuses =>
            exact .stopped ((name, item) :: accepted) later _ _
              ((acceptsAll_cons_iff item).2 ⟨accepts, acceptsRest⟩) refuses
      · rw [defineAll_of_not_accepts accepts]
        exact .stopped [] name item rest (.inr ⟨.nil, by simp⟩) accepts

end WasmSandbox.Linker
