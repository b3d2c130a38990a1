import Mathlib.Logic.Relation
import WasmSandbox.Proofs.Boundary.Spelling

/-!
Contract: documents of boundary types that are refused, and reading as a whole.

Owns:
- the faults of documents: members twice or not at all, arrays of another length, and numerals
  that are no bounds;
- that a document with a fault holds nothing under the names of a layout;
- that each reader of a boundary type accepts a document in every spelling or in none, always
  as the same value, and refuses documents with a fault.

A tagged document is split and held in memory before it is read, and an untagged one is read
at once.  Both are read by their layouts in the end, so what is proved for layouts holds for
both.

Does not own: the text of documents (`WasmSandbox.Proofs.Json.RoundTrip`).
-/

namespace WasmSandbox

/-! ## Faults -/

/-- A numeral that is no natural number below 2^64, or is not written as one. -/
def Numeral.NoWord (numeral : Numeral) : Prop :=
  numeral.negative = true ∨ numeral.fraction ≠ [] ∨ numeral.exponent.isSome = true ∨
    UInt64.size ≤ numeral.whole

/-- A fault of what stands under a declared name, where those of item types are `nested`. -/
inductive FieldSort.Faulty (nested : Json → Prop) : FieldSort → Json → Prop where
  | word {numeral : Numeral} (noWord : numeral.NoWord) : Faulty nested .word (.number numeral)
  | optionalWord {numeral : Numeral} (noWord : numeral.NoWord) :
      Faulty nested .optionalWord (.number numeral)
  | item {document : Json} (faulty : nested document) : Faulty nested .item document

/-- A fault of a document with a layout. -/
inductive Layout.Faulty (layout : Layout) (nested : Json → Prop) : Json → Prop where
  | repeated {members : List (Option String × Json)} {name : String}
      (declared : name ∈ layout.names)
      (twice : 2 ≤ members.countP fun member => member.1 = some name) :
      Faulty layout nested (.object members)
  | omitted {members : List (Option String × Json)} {name : String} {sort : FieldSort}
      (declared : (name, sort) ∈ layout.fields) (required : sort ≠ .optionalWord)
      (absent : ∀ member ∈ members, member.1 ≠ some name) :
      Faulty layout nested (.object members)
  | length {items : List Json} (otherLength : items.length ≠ layout.fields.length) :
      Faulty layout nested (.array items)
  | member {members : List (Option String × Json)} {name : String} {sort : FieldSort}
      {value : Json} (declared : (name, sort) ∈ layout.fields)
      (isMember : (some name, value) ∈ members) (faulty : sort.Faulty nested value) :
      Faulty layout nested (.object members)
  | item {items : List Json} {index : Nat} {name : String} {sort : FieldSort} {value : Json}
      (declared : layout.fields[index]? = some (name, sort)) (isItem : items[index]? = some value)
      (faulty : sort.Faulty nested value) : Faulty layout nested (.array items)

/-- A fault of a tagged document: of its tag, or by the layout of its sort. -/
inductive ItemType.Faulty : Json → Prop where
  | repeated {members : List (Option String × Json)}
      (twice : 2 ≤ members.countP fun member => member.1 = some "kind") :
      Faulty (.object members)
  | omitted {members : List (Option String × Json)}
      (absent : ∀ member ∈ members, member.1 ≠ some "kind") : Faulty (.object members)
  | empty : Faulty (.array [])
  | body {document : Json} {sort : ItemKind} (tag : document.tag? = some sort.name)
      (faulty : (Layout.item sort).Faulty (fun _ => False) document) : Faulty document

/-! ## What a document with a fault holds -/

/-- Just the numerals of words are read as words. -/
theorem Record.word?_number_eq_none_iff (numeral : Numeral) :
    word? (.number numeral) = none ↔ numeral.NoWord := by
  obtain ⟨negative, whole, fraction, exponent⟩ := numeral
  cases negative <;> cases fraction <;> cases exponent <;>
    simp [word?, Numeral.toNat?, Numeral.NoWord]

theorem FieldSort.Faulty.read? {nested : Json → Prop} {sort : FieldSort} {value : Json}
    (refuses : ∀ document, nested document → ItemType.ofJson? 1 document = none)
    (faulty : sort.Faulty nested value) (buffered : Bool) :
    sort.read? buffered (some value) = none := by
  cases faulty with
  | word noWord =>
      rw [FieldSort.read?, (Record.word?_number_eq_none_iff _).2 noWord]
      rfl
  | optionalWord noWord =>
      simp only [FieldSort.read?, Record.optionalWord?,
        (Record.word?_number_eq_none_iff _).2 noWord, Option.map_none]
  | item faulty =>
      rw [FieldSort.read?, refuses _ faulty]
      rfl

/-- Only an optional word may be left out. -/
theorem FieldSort.read?_none {sort : FieldSort} (required : sort ≠ .optionalWord)
    (buffered : Bool) : sort.read? buffered none = none := by
  cases sort <;> first | rfl | contradiction

/-- A document with a fault holds nothing. -/
theorem Layout.Faulty.contents? {layout : Layout} {nested : Json → Prop} {document : Json}
    (refuses : ∀ document, nested document → ItemType.ofJson? 1 document = none)
    (faulty : layout.Faulty nested document) (buffered : Bool) :
    layout.contents? buffered document = none := by
  refine Option.eq_none_iff_forall_ne_some.2 fun contents holds => ?_
  cases faulty with
  | repeated declared twice =>
      obtain ⟨-, once, -⟩ := object_contents? holds
      have atMostOne := once _ declared
      rw [List.countP_eq_length_filter] at twice
      exact absurd twice (Nat.not_le.2 (Nat.lt_succ_of_le atMostOne))
  | omitted declared required absent =>
      obtain ⟨-, -, isRead⟩ := object_contents? holds
      obtain ⟨content, isContent⟩ := isRead _ declared
      rw [Record.valueOf, Record.named_eq_nil_iff.2 absent] at isContent
      simp [FieldSort.read?_none required] at isContent
  | length otherLength => exact otherLength (array_contents? holds).1
  | member declared isMember faulty =>
      obtain ⟨before, after, rfl⟩ := List.append_of_mem isMember
      obtain ⟨-, once, isRead⟩ := object_contents? holds
      obtain ⟨noneBefore, -⟩ := named_beside (once _ (name_mem declared))
      obtain ⟨content, isContent⟩ := isRead _ declared
      simp only [valueOf_around noneBefore] at isContent
      rw [faulty.read? refuses] at isContent
      contradiction
  | item declared isItem faulty =>
      obtain ⟨content, isContent⟩ := (array_contents? holds).2 _ _ declared
      rw [isItem, faulty.read? refuses] at isContent
      contradiction

/-- A tagged document with a fault is refused, however deep it stands. -/
theorem ItemType.Faulty.ofJson? {document : Json} (faulty : Faulty document) (depth : Nat) :
    ItemType.ofJson? depth document = none := by
  refine Option.eq_none_iff_forall_ne_some.2 fun type accepted => ?_
  obtain ⟨-, holds⟩ := (ofJson?_eq_some_iff ..).1 accepted
  -- The fault is one by the layout of the sort that was read, whose first name is the tag's.
  have refused (faulty : (Layout.item type.kind).Faulty (fun _ => False) document) : False := by
    rw [faulty.contents? (fun _ => False.elim)] at holds
    contradiction
  have isTag : ("kind", FieldSort.tag) ∈ (Layout.item type.kind).fields := List.mem_cons_self
  cases faulty with
  | repeated twice => exact refused (.repeated (Layout.name_mem isTag) twice)
  | omitted absent => exact refused (.omitted isTag nofun absent)
  | empty => exact refused (.length nofun)
  | body tag faulty =>
      rw [Layout.tag?_of_contents? holds, Option.some.injEq] at tag
      exact refused (ItemKind.name_injective tag ▸ faulty)

/-! ## Reading -/

/-- A reader does not depend on the spelling: what it accepts it accepts in every other
spelling, as the same value, and it refuses documents with a fault. -/
structure SpellingFree {α : Type} (read : Json → Option α) (respelled : Json → Json → Prop)
    (faulty : Json → Prop) : Prop where
  same : ∀ {document other : Json} {value : α}, Relation.ReflTransGen respelled document other →
    read document = some value → read other = some value
  refused : ∀ {document : Json}, faulty document → read document = none

/-- One step after the other, the value stays. -/
theorem SpellingFree.of_step {α : Type} {read : Json → Option α}
    {respelled : Json → Json → Prop} {faulty : Json → Prop}
    (step : ∀ {document other value}, respelled document other → read document = some value →
      read other = some value)
    (refused : ∀ {document}, faulty document → read document = none) :
    SpellingFree read respelled faulty where
  refused := refused
  same := by
    intro document other value steps accepted
    induction steps with
    | refl => exact accepted
    | tail _ last before => exact step last before

/-- A reader that finds what documents hold by a layout does not depend on the spelling. -/
theorem SpellingFree.of_layout {α : Type} {layout : Layout} {buffered : Bool}
    {read : Json → Option α} {contents : α → List Content}
    (reads : ∀ document value,
      read document = some value ↔ layout.contents? buffered document = some (contents value)) :
    SpellingFree read (layout.Respelled ItemType.Respelled) (layout.Faulty ItemType.Faulty) := by
  have shallow : 1 + 3 ≤ nestingLimit := by decide
  refine .of_step (fun respelled accepted => ?_) (fun faulty => ?_)
  · rw [reads] at accepted ⊢
    exact respelled.contents? (fun _ _ _ nested => nested.ofJson? shallow) accepted
  · refine Option.eq_none_iff_forall_ne_some.2 fun value accepted => ?_
    rw [reads, faulty.contents? (fun _ nested => nested.ofJson? 1)] at accepted
    contradiction

/-- No reader of a boundary type depends on the spelling of its document, and a name may be
written as an object wherever it is read. -/
theorem Boundary.spellingFree :
    SpellingFree (Signature.ofJson? false)
        (Layout.signature.Respelled ItemType.Respelled)
        (Layout.signature.Faulty ItemType.Faulty) ∧
      SpellingFree (GlobalType.ofJson? false)
        (Layout.global.Respelled ItemType.Respelled) (Layout.global.Faulty ItemType.Faulty) ∧
      SpellingFree MemoryType.ofJson?
        (Layout.memory.Respelled ItemType.Respelled) (Layout.memory.Faulty ItemType.Faulty) ∧
      SpellingFree (TableType.ofJson? false)
        (Layout.table.Respelled ItemType.Respelled) (Layout.table.Faulty ItemType.Faulty) ∧
      SpellingFree ImportDecl.ofJson?
        (Layout.importDecl.Respelled ItemType.Respelled)
        (Layout.importDecl.Faulty ItemType.Faulty) ∧
      SpellingFree ExportDecl.ofJson?
        (Layout.exportDecl.Respelled ItemType.Respelled)
        (Layout.exportDecl.Faulty ItemType.Faulty) ∧
      SpellingFree (ItemType.ofJson? 0) ItemType.Respelled ItemType.Faulty ∧
      ∀ name : String,
        ValueKind.ofJson? false (.object [(some name, .null)]) =
            ValueKind.ofJson? false (.text (some name)) ∧
          ItemKind.ofJson? (.object [(some name, .null)]) =
            ItemKind.ofJson? (.text (some name)) := by
  refine ⟨?signature, ?global, ?memory, ?table, ?importDecl, ?exportDecl, ?item, ?names⟩
  case signature => exact .of_layout (Signature.ofJson?_eq_some_iff false)
  case global => exact .of_layout (GlobalType.ofJson?_eq_some_iff false)
  case memory => exact .of_layout (MemoryType.ofJson?_eq_some_iff false)
  case table => exact .of_layout (TableType.ofJson?_eq_some_iff false)
  case importDecl => exact .of_layout (ImportDecl.ofJson?_eq_some_iff false)
  case exportDecl => exact .of_layout (ExportDecl.ofJson?_eq_some_iff false)
  case item =>
    have shallow : 0 + 3 ≤ nestingLimit := by decide
    exact .of_step (fun respelled => respelled.ofJson? shallow) (fun faulty => faulty.ofJson? 0)
  case names => exact fun name => ⟨rfl, rfl⟩

/-- The tag of an object may stand anywhere, and members that are not declared are skipped. -/
example :
    ItemType.ofJson? 0 (.object [(some "maximum", .null), (some "note", .bool true),
        (some "minimum", .nat 1), (some "kind", .string "memory")]) =
      some (.memory ⟨⟨1, none⟩⟩) := by
  rfl

end WasmSandbox
