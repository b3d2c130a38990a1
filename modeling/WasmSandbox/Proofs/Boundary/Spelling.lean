import Mathlib.Data.List.Nodup
import WasmSandbox.Proofs.Boundary.Layouts

/-!
Contract: documents of boundary types in other spellings.

Owns:
- the steps from one spelling of a document to another: members in another order or beside
  others, arrays for objects, objects for names, and what may be left out;
- that a document holds under the names of a layout what it holds in another spelling;
- that a tagged document which is accepted is accepted in another spelling, as the same type.

A tagged document is split and held in memory before it is read, and an untagged one is read
at once.  Both are read by their layouts in the end, so what is proved for layouts holds for
both; only what fits into memory is a question for tagged documents alone.

Does not own: documents that hold nothing (`WasmSandbox.Proofs.Boundary.Faults`).
-/

namespace WasmSandbox

/-! ## Spellings -/

/-- The text of the tag of a document. -/
def Json.tag? : Json → Option String
  | .object members => (members.lookup (some "kind")).bind Record.text?
  | .array (tag :: _) => Record.text? tag
  | _ => none

/-- A value that an undeclared member may have. -/
inductive Json.Plain : Json → Prop where
  | null : Plain .null
  | bool (value : Bool) : Plain (.bool value)
  | text (content : String) : Plain (.text (some content))

/-- A step to another spelling of what stands under a declared name, where item types are
respelled by `nested`. -/
inductive FieldSort.Respelled (nested : Json → Json → Prop) : FieldSort → Json → Json → Prop where
  | kind (name : String) :
      Respelled nested .kind (.text (some name)) (.object [(some name, .null)])
  | kinds (before after : List Json) (name : String) :
      Respelled nested .kinds (.array (before ++ .text (some name) :: after))
        (.array (before ++ .object [(some name, .null)] :: after))
  | item {document other : Json} (respelled : nested document other) :
      Respelled nested .item document other

/-- A step to another spelling of a document with a layout. -/
inductive Layout.Respelled (layout : Layout) (nested : Json → Json → Prop) :
    Json → Json → Prop where
  | permuted {members others : List (Option String × Json)} (permutation : members.Perm others) :
      Respelled layout nested (.object members) (.object others)
  /-- A member is added that is not declared. -/
  | extended (before after : List (Option String × Json)) {name : String} {value : Json}
      (undeclared : name ∉ layout.names) (plain : value.Plain) :
      Respelled layout nested (.object (before ++ after))
        (.object (before ++ (some name, value) :: after))
  /-- What may be left out is written as null. -/
  | filled (before after : List (Option String × Json)) {name : String}
      (optional : (name, .optionalWord) ∈ layout.fields)
      (absent : ∀ member ∈ before ++ after, member.1 ≠ some name) :
      Respelled layout nested (.object (before ++ after))
        (.object (before ++ (some name, .null) :: after))
  /-- What is null and may be left out is left out. -/
  | emptied (before after : List (Option String × Json)) {name : String}
      (optional : (name, .optionalWord) ∈ layout.fields) :
      Respelled layout nested (.object (before ++ (some name, .null) :: after))
        (.object (before ++ after))
  /-- The declared members are written as an array, in the declared order. -/
  | listed (members : List (Option String × Json)) :
      Respelled layout nested (.object members)
        (.array (layout.names.map fun name => (members.lookup (some name)).getD .null))
  | member (before after : List (Option String × Json)) {name : String} {sort : FieldSort}
      {value other : Json} (declared : (name, sort) ∈ layout.fields)
      (respelled : sort.Respelled nested value other) :
      Respelled layout nested (.object (before ++ (some name, value) :: after))
        (.object (before ++ (some name, other) :: after))
  | item (before after : List Json) {name : String} {sort : FieldSort} {value other : Json}
      (declared : layout.fields[before.length]? = some (name, sort))
      (respelled : sort.Respelled nested value other) :
      Respelled layout nested (.array (before ++ value :: after))
        (.array (before ++ other :: after))

/-- A step to another spelling of a tagged document, by the layout of its sort. -/
def ItemType.Respelled (document other : Json) : Prop :=
  ∃ sort : ItemKind, document.tag? = some sort.name ∧
    (Layout.item sort).Respelled (fun _ _ => False) document other

/-! ## Members by name -/

namespace Record

variable {members others : List (Option String × Json)} {name : String}

theorem named_append (members others : List (Option String × Json)) (name : String) :
    named (members ++ others) name = named members name ++ named others name :=
  List.filter_append ..

theorem named_cons_self (value : Json) (members : List (Option String × Json)) (name : String) :
    named ((some name, value) :: members) name = (some name, value) :: named members name :=
  List.filter_cons_of_pos (by simp)

theorem named_eq_nil_iff :
    named members name = [] ↔ ∀ member ∈ members, member.1 ≠ some name := by
  simp [named, List.filter_eq_nil_iff]

/-- A member that is alone under its name stays so in another order. -/
theorem named_of_perm (permutation : members.Perm others)
    (once : (named members name).length ≤ 1) : named others name = named members name := by
  have namedPermutation : (named members name).Perm (named others name) :=
    permutation.filter _
  match found : named members name with
  | [] =>
      rw [found] at namedPermutation
      exact namedPermutation.symm.eq_nil
  | [member] =>
      rw [found] at namedPermutation
      exact namedPermutation.symm.eq_singleton
  | _ :: _ :: _ => simp [found] at once

end Record

/-! ## What another spelling holds -/

/-- What stands under a declared name is read as the same in another spelling. -/
theorem FieldSort.Respelled.read? {nested : Json → Json → Prop} {buffered : Bool}
    {sort : FieldSort} {value other : Json} {content : Content}
    (respelled : sort.Respelled nested value other)
    (keeps : ∀ document other type, nested document other →
      ItemType.ofJson? 1 document = some type → ItemType.ofJson? 1 other = some type)
    (read : sort.read? buffered (some value) = some content) :
    sort.read? buffered (some other) = some content := by
  cases respelled with
  | kind name => exact read
  | kinds before after name =>
      have same : ValueKind.ofJson? buffered (.object [(some name, .null)]) =
          ValueKind.ofJson? buffered (.text (some name)) := rfl
      simp only [FieldSort.read?, Record.list?, List.mapM_append, List.mapM_cons, same] at read ⊢
      exact read
  | item respelled =>
      simp only [FieldSort.read?, Option.map_eq_some_iff] at read ⊢
      obtain ⟨type, isType, isContent⟩ := read
      exact ⟨type, keeps _ _ type respelled isType, isContent⟩

/-- Null is read as nothing is. -/
theorem FieldSort.read?_getD (sort : FieldSort) (buffered : Bool) (document : Option Json) :
    sort.read? buffered (some (document.getD .null)) = sort.read? buffered document := by
  cases document with
  | none => cases sort <;> rfl
  | some document => rfl

namespace Layout

variable {layout : Layout} {buffered : Bool} {contents : List Content}

/-- A name is declared once, so it has one sort. -/
theorem sort_unique {name : String} {sort other : FieldSort} (first : (name, sort) ∈ layout.fields)
    (second : (name, other) ∈ layout.fields) : sort = other := by
  have same := List.inj_on_of_nodup_map layout.distinct first second rfl
  exact congrArg Prod.snd same

/-- In an array, what is declared stands at its position. -/
theorem lookup_item {index : Nat} {declared : String × FieldSort}
    (position : layout.fields[index]? = some declared) (items : List Json) :
    (layout.names.zip items).lookup declared.1 = items[index]? := by
  have distinct : layout.names.Nodup := layout.distinct
  have isName : layout.names[index]? = some declared.1 := by
    rw [names, List.getElem?_map, position, Option.map_some]
  exact Record.lookup_zip distinct isName

theorem name_mem {name : String} {sort : FieldSort} (declared : (name, sort) ∈ layout.fields) :
    name ∈ layout.names :=
  List.mem_map_of_mem declared

/-- Where several members are read, each is. -/
theorem mapM_eq_some_forall {α β : Type} {read : α → Option β} {items : List α}
    {values : List β} (all : items.mapM read = some values) :
    ∀ item ∈ items, ∃ value, read item = some value := by
  induction items generalizing values with
  | nil => exact nofun
  | cons item items inductionHypothesis =>
      cases values with
      | nil =>
          rw [List.mapM_cons] at all
          cases first : read item <;> cases rest : items.mapM read <;> simp [first, rest] at all
      | cons value values =>
          obtain ⟨isFirst, areRest⟩ := mapM_cons_eq_some_iff.1 all
          exact List.forall_mem_cons.2 ⟨⟨value, isFirst⟩, inductionHypothesis areRest⟩

/-- Members that are read one way are read another way that keeps what is read of each. -/
theorem mapM_keeps {α β : Type} {read other : α → Option β} {items : List α} {values : List β}
    (keeps : ∀ item ∈ items, ∀ value, read item = some value → other item = some value)
    (all : items.mapM read = some values) : items.mapM other = some values := by
  induction items generalizing values with
  | nil => exact all
  | cons item items inductionHypothesis =>
      obtain ⟨keepsFirst, keepsRest⟩ := List.forall_mem_cons.1 keeps
      rw [List.mapM_cons, Option.bind_eq_bind, Option.bind_eq_some_iff] at all ⊢
      obtain ⟨value, isFirst, rest⟩ := all
      rw [Option.bind_eq_bind, Option.bind_eq_some_iff] at rest
      obtain ⟨others, areRest, isAll⟩ := rest
      refine ⟨value, keepsFirst value isFirst, ?_⟩
      rw [inductionHypothesis keepsRest areRest]
      exact isAll

section

variable {members others : List (Option String × Json)} {items replaced : List Json}

/-- An object that holds all that is declared has each name at most once, and each declared
member is read. -/
theorem object_contents? (holds : layout.contents? buffered (.object members) = some contents) :
    (∀ member ∈ members, member.1.isSome = true) ∧
      (∀ name ∈ layout.names, (Record.named members name).length ≤ 1) ∧
        ∀ declared ∈ layout.fields, ∃ content,
          declared.2.read? buffered (Record.valueOf members declared.1) = some content := by
  obtain ⟨field, read, all⟩ := contents?_eq_some_iff.1 holds
  obtain ⟨areNamed, once, rfl⟩ := Record.members?_eq_some_iff.1 read
  exact ⟨areNamed, once, mapM_eq_some_forall all⟩

/-- An object holds the same as another one, of which each declared member is kept. -/
theorem object_keeps (holds : layout.contents? buffered (.object members) = some contents)
    (areNamed : ∀ member ∈ others, member.1.isSome = true)
    (once : ∀ name ∈ layout.names, (Record.named others name).length ≤ 1)
    (keeps : ∀ declared ∈ layout.fields, ∀ content,
      declared.2.read? buffered (Record.valueOf members declared.1) = some content →
        declared.2.read? buffered (Record.valueOf others declared.1) = some content) :
    layout.contents? buffered (.object others) = some contents := by
  obtain ⟨field, read, all⟩ := contents?_eq_some_iff.1 holds
  obtain ⟨-, -, rfl⟩ := Record.members?_eq_some_iff.1 read
  exact contents?_eq_some_iff.2
    ⟨_, Record.members?_eq_some_iff.2 ⟨areNamed, once, rfl⟩, mapM_keeps keeps all⟩

/-- An array that holds all that is declared has an item for each declared member, and each
is read. -/
theorem array_contents? (holds : layout.contents? buffered (.array items) = some contents) :
    items.length = layout.fields.length ∧
      ∀ (index : Nat) (declared : String × FieldSort), layout.fields[index]? = some declared →
        ∃ content, declared.2.read? buffered items[index]? = some content := by
  obtain ⟨field, read, all⟩ := contents?_eq_some_iff.1 holds
  obtain ⟨sameLength, rfl⟩ := Record.fields?_array_eq_some_iff.1 read
  refine ⟨sameLength.trans (List.length_map _), fun index declared position => ?_⟩
  have isRead := mapM_eq_some_forall all declared (List.mem_of_getElem? position)
  simp only [lookup_item position] at isRead
  exact isRead

/-- An array holds what a document holds of which each declared member is kept. -/
theorem array_keeps {document : Json} {field : String → Option Json}
    (read : Record.fields? layout.names document = some field)
    (holds : layout.contents? buffered document = some contents)
    (sameLength : items.length = layout.fields.length)
    (keeps : ∀ (index : Nat) (declared : String × FieldSort),
      layout.fields[index]? = some declared → ∀ content,
        declared.2.read? buffered (field declared.1) = some content →
          declared.2.read? buffered items[index]? = some content) :
    layout.contents? buffered (.array items) = some contents := by
  obtain ⟨other, alsoRead, all⟩ := contents?_eq_some_iff.1 holds
  rw [read, Option.some.injEq] at alsoRead
  subst alsoRead
  refine contents?_eq_some_iff.2 ⟨_, Record.fields?_array_eq_some_iff.2
    ⟨sameLength.trans (List.length_map _).symm, rfl⟩, mapM_keeps ?_ all⟩
  intro declared member content isContent
  obtain ⟨index, position⟩ := List.getElem?_of_mem member
  rw [lookup_item position]
  exact keeps index declared position content isContent

end

/-! ## Each step -/

section

variable {nested : Json → Json → Prop} {members others before after : List (Option String × Json)}

theorem permuted_contents? (permutation : members.Perm others)
    (holds : layout.contents? buffered (.object members) = some contents) :
    layout.contents? buffered (.object others) = some contents := by
  obtain ⟨areNamed, once, -⟩ := object_contents? holds
  have same : ∀ name ∈ layout.names, Record.named others name = Record.named members name :=
    fun name declared => Record.named_of_perm permutation (once name declared)
  refine object_keeps holds ?_ ?_ ?_
  · exact fun member isMember => areNamed member (permutation.mem_iff.2 isMember)
  · intro name declared
    rw [same name declared]
    exact once name declared
  · intro declared isDeclared content isContent
    rw [Record.valueOf, same declared.1 (List.mem_map_of_mem isDeclared)]
    exact isContent

/-- Members of one name are replaced.  What is read under other names stays. -/
theorem spliced_contents? (name : String) (middle others : List (Option String × Json))
    (areNamed : ∀ member ∈ middle ++ others, member.1 = some name)
    (once : name ∈ layout.names → (Record.named (before ++ (others ++ after)) name).length ≤ 1)
    (keeps : ∀ sort, (name, sort) ∈ layout.fields → ∀ content,
      sort.read? buffered (Record.valueOf (before ++ (middle ++ after)) name) = some content →
        sort.read? buffered (Record.valueOf (before ++ (others ++ after)) name) = some content)
    (holds : layout.contents? buffered (.object (before ++ (middle ++ after))) = some contents) :
    layout.contents? buffered (.object (before ++ (others ++ after))) = some contents := by
  obtain ⟨allNamed, onceBefore, -⟩ := object_contents? holds
  have same {other : String} (differs : name ≠ other) :
      Record.named (before ++ (others ++ after)) other =
        Record.named (before ++ (middle ++ after)) other := by
    have noneOf (part : List (Option String × Json)) (isPart : part ⊆ middle ++ others) :
        Record.named part other = [] := by
      refine Record.named_eq_nil_iff.2 fun member isMember isOther => differs ?_
      rw [areNamed member (isPart isMember)] at isOther
      exact Option.some.inj isOther
    simp only [Record.named_append, noneOf middle (List.subset_append_left _ _),
      noneOf others (List.subset_append_right _ _)]
  refine object_keeps holds ?_ ?_ ?_
  · intro member isMember
    rcases List.mem_append.1 isMember with isBefore | isLater
    · exact allNamed member (List.mem_append_left _ isBefore)
    · rcases List.mem_append.1 isLater with isOther | isAfter
      · rw [areNamed member (List.mem_append_right _ isOther)]
        rfl
      · exact allNamed member (List.mem_append_right _ (List.mem_append_right _ isAfter))
  · intro other declared
    by_cases isName : name = other
    · exact isName ▸ once (isName ▸ declared)
    · rw [same isName]
      exact onceBefore other declared
  · rintro ⟨other, sort⟩ declared content isContent
    by_cases isName : name = other
    · subst isName
      exact keeps sort declared content isContent
    · simp only [Record.valueOf, same isName] at isContent ⊢
      exact isContent

theorem named_around (name : String) (value : Json) :
    Record.named (before ++ (some name, value) :: after) name =
      Record.named before name ++ (some name, value) :: Record.named after name := by
  rw [Record.named_append, Record.named_cons_self]

/-- Beside a member that is alone under its name there is none. -/
theorem named_beside {name : String} {value : Json}
    (once : (Record.named (before ++ (some name, value) :: after) name).length ≤ 1) :
    Record.named before name = [] ∧ Record.named after name = [] := by
  rw [named_around, List.length_append, List.length_cons] at once
  exact ⟨List.eq_nil_of_length_eq_zero (by omega), List.eq_nil_of_length_eq_zero (by omega)⟩

theorem valueOf_around {name : String} (noneBefore : Record.named before name = [])
    (value : Json) :
    Record.valueOf (before ++ (some name, value) :: after) name = some value := by
  rw [Record.valueOf, named_around, noneBefore]
  rfl

theorem valueOf_of_absent {name : String} (noneBefore : Record.named before name = [])
    (noneAfter : Record.named after name = []) :
    Record.valueOf (before ++ after) name = none := by
  rw [Record.valueOf, Record.named_append, noneBefore, noneAfter]
  rfl

theorem extended_contents? {name : String} (undeclared : name ∉ layout.names) (value : Json)
    (holds : layout.contents? buffered (.object (before ++ after)) = some contents) :
    layout.contents? buffered (.object (before ++ (some name, value) :: after)) =
      some contents :=
  spliced_contents? name [] [(some name, value)] (by simp)
    (fun declared => absurd declared undeclared)
    (fun _ declared => absurd (name_mem declared) undeclared) holds

theorem filled_contents? {name : String} (optional : (name, .optionalWord) ∈ layout.fields)
    (absent : ∀ member ∈ before ++ after, member.1 ≠ some name)
    (holds : layout.contents? buffered (.object (before ++ after)) = some contents) :
    layout.contents? buffered (.object (before ++ (some name, .null) :: after)) =
      some contents := by
  have noneNamed := Record.named_eq_nil_iff.2 absent
  rw [Record.named_append, List.append_eq_nil_iff] at noneNamed
  obtain ⟨noneBefore, noneAfter⟩ := noneNamed
  refine spliced_contents? name [] [(some name, .null)] (by simp) (fun _ => ?_)
    (fun sort declared content isContent => ?_) holds
  · show (Record.named (before ++ (some name, .null) :: after) name).length ≤ 1
    rw [named_around, noneBefore, noneAfter]
    exact Nat.le_refl 1
  · rw [sort_unique declared optional] at isContent ⊢
    rw [List.nil_append, valueOf_of_absent noneBefore noneAfter] at isContent
    rw [List.cons_append, List.nil_append, valueOf_around noneBefore]
    exact isContent

theorem emptied_contents? {name : String} (optional : (name, .optionalWord) ∈ layout.fields)
    (holds : layout.contents? buffered (.object (before ++ (some name, .null) :: after)) =
      some contents) :
    layout.contents? buffered (.object (before ++ after)) = some contents := by
  obtain ⟨noneBefore, noneAfter⟩ :=
    named_beside ((object_contents? holds).2.1 name (name_mem optional))
  refine spliced_contents? name [(some name, .null)] [] (by simp) (fun _ => ?_)
    (fun sort declared content isContent => ?_) holds
  · simp [Record.named_append, noneBefore, noneAfter]
  · rw [sort_unique declared optional] at isContent ⊢
    rw [List.cons_append, List.nil_append, valueOf_around noneBefore] at isContent
    rw [List.nil_append, valueOf_of_absent noneBefore noneAfter]
    exact isContent

/-- A member is exchanged for another one, of which the same is read. -/
theorem exchanged_contents? {name : String} {sort : FieldSort} {value other : Json}
    (isDeclared : (name, sort) ∈ layout.fields)
    (keeps : ∀ content, sort.read? buffered (some value) = some content →
      sort.read? buffered (some other) = some content)
    (holds : layout.contents? buffered (.object (before ++ (some name, value) :: after)) =
      some contents) :
    layout.contents? buffered (.object (before ++ (some name, other) :: after)) =
      some contents := by
  obtain ⟨noneBefore, noneAfter⟩ :=
    named_beside ((object_contents? holds).2.1 name (name_mem isDeclared))
  refine spliced_contents? name [(some name, value)] [(some name, other)] (by simp) (fun _ => ?_)
    (fun another declared content isContent => ?_) holds
  · show (Record.named (before ++ (some name, other) :: after) name).length ≤ 1
    rw [named_around, noneBefore, noneAfter]
    exact Nat.le_refl 1
  · rw [sort_unique declared isDeclared] at isContent ⊢
    rw [List.cons_append, List.nil_append, valueOf_around noneBefore] at isContent ⊢
    exact keeps content isContent

theorem listed_contents?
    (holds : layout.contents? buffered (.object members) = some contents) :
    layout.contents? buffered
      (.array (layout.names.map fun name => (members.lookup (some name)).getD .null)) =
        some contents := by
  obtain ⟨areNamed, once, -⟩ := object_contents? holds
  have read : Record.fields? layout.names (.object members) = some (Record.valueOf members) :=
    Record.members?_eq_some_iff.2 ⟨areNamed, once, rfl⟩
  refine array_keeps read holds (by simp [names]) ?_
  rintro index ⟨name, sort⟩ position content isContent
  have isItem : (layout.names.map fun name => (members.lookup (some name)).getD .null)[index]? =
      some ((members.lookup (some name)).getD .null) := by
    rw [names, List.getElem?_map, List.getElem?_map, position]
    rfl
  rw [isItem, Record.lookup_eq_valueOf, FieldSort.read?_getD]
  exact isContent

theorem item_contents? {before after : List Json} {name : String} {sort : FieldSort}
    {value other : Json} (isDeclared : layout.fields[before.length]? = some (name, sort))
    (keeps : ∀ content, sort.read? buffered (some value) = some content →
      sort.read? buffered (some other) = some content)
    (holds : layout.contents? buffered (.array (before ++ value :: after)) = some contents) :
    layout.contents? buffered (.array (before ++ other :: after)) = some contents := by
  obtain ⟨sameLength, -⟩ := array_contents? holds
  refine array_keeps (Record.fields?_array_eq_some_iff.2
    ⟨sameLength.trans (List.length_map _).symm, rfl⟩) holds ?_ ?_
  · simpa using sameLength
  · intro index declared position content isContent
    simp only [lookup_item position] at isContent
    by_cases here : index = before.length
    · subst here
      rw [isDeclared, Option.some.injEq] at position
      subst position
      simp only [List.getElem?_append_right (Nat.le_refl _), Nat.sub_self,
        List.getElem?_cons_zero] at isContent ⊢
      exact keeps content isContent
    · have same : (before ++ other :: after)[index]? = (before ++ value :: after)[index]? := by
        rcases Nat.lt_or_gt_of_ne here with isBefore | isAfter
        · rw [List.getElem?_append_left isBefore, List.getElem?_append_left isBefore]
        · obtain ⟨offset, rfl⟩ : ∃ offset, index = before.length + (offset + 1) :=
            ⟨index - before.length - 1, by omega⟩
          simp [List.getElem?_append_right]
      rw [same]
      exact isContent

/-- What a document holds it holds in another spelling. -/
theorem Respelled.contents? {document other : Json}
    (keeps : ∀ document other type, nested document other →
      ItemType.ofJson? 1 document = some type → ItemType.ofJson? 1 other = some type)
    (respelled : layout.Respelled nested document other)
    (holds : layout.contents? buffered document = some contents) :
    layout.contents? buffered other = some contents := by
  cases respelled with
  | permuted permutation => exact permuted_contents? permutation holds
  | extended before after undeclared plain => exact extended_contents? undeclared _ holds
  | filled before after optional absent => exact filled_contents? optional absent holds
  | emptied before after optional => exact emptied_contents? optional holds
  | listed members => exact listed_contents? holds
  | member before after declared respelled =>
      exact exchanged_contents? declared (fun _ => respelled.read? keeps) holds
  | item before after declared respelled =>
      exact item_contents? declared (fun _ => respelled.read? keeps) holds

end

end Layout

/-! ## Memory -/

namespace Json

theorem itemsBufferable_iff (depth : Nat) (items : List Json) :
    itemsBufferable depth items = true ↔ ∀ item ∈ items, item.isBufferable depth = true := by
  induction items with
  | nil => simp [itemsBufferable]
  | cons item items inductionHypothesis =>
      rw [itemsBufferable, Bool.and_eq_true, inductionHypothesis, List.forall_mem_cons]

theorem membersBufferable_iff (depth : Nat) (members : List (Option String × Json)) :
    membersBufferable depth members = true ↔
      ∀ member ∈ members, member.1.isSome = true ∧ member.2.isBufferable depth = true := by
  induction members with
  | nil => simp [membersBufferable]
  | cons member members inductionHypothesis =>
      obtain ⟨name, value⟩ := member
      rw [membersBufferable, Bool.and_eq_true, Bool.and_eq_true, inductionHypothesis,
        List.forall_mem_cons]

theorem isBufferable_array (depth : Nat) (items : List Json) :
    (Json.array items).isBufferable (depth + 1) = true ↔
      ∀ item ∈ items, item.isBufferable depth = true := by
  rw [isBufferable, itemsBufferable_iff]

theorem isBufferable_object (depth : Nat) (members : List (Option String × Json)) :
    (Json.object members).isBufferable (depth + 1) = true ↔
      ∀ member ∈ members, member.1.isSome = true ∧ member.2.isBufferable depth = true := by
  rw [isBufferable, membersBufferable_iff]

theorem isBufferable_null (depth : Nat) : Json.null.isBufferable depth = true := by
  rw [isBufferable] <;> exact nofun

theorem isBufferable_unit (depth : Nat) (name : String) :
    (Json.object [(some name, .null)]).isBufferable (depth + 1) = true := by
  simp [isBufferable_object, isBufferable_null]

theorem Plain.isBufferable {value : Json} (plain : value.Plain) (depth : Nat) :
    value.isBufferable depth = true := by
  cases plain with
  | null => exact isBufferable_null depth
  | bool value => rw [Json.isBufferable] <;> exact nofun
  | text content => rw [Json.isBufferable]; rfl

end Json

theorem FieldSort.Respelled.isBufferable {sort : FieldSort} {value other : Json} {depth : Nat}
    (respelled : sort.Respelled (fun _ _ => False) value other)
    (fits : value.isBufferable (depth + 2) = true) : other.isBufferable (depth + 2) = true := by
  cases respelled with
  | kind name => exact Json.isBufferable_unit (depth + 1) name
  | kinds before after name =>
      rw [Json.isBufferable_array, List.forall_mem_append, List.forall_mem_cons] at fits ⊢
      exact ⟨fits.1, Json.isBufferable_unit depth name, fits.2.2⟩
  | item respelled => exact respelled.elim

/-- Another spelling fits into memory as well.  It nests at most three deep where it differs. -/
theorem Layout.Respelled.isBufferable {layout : Layout} {document other : Json} {depth : Nat}
    (respelled : layout.Respelled (fun _ _ => False) document other)
    (fits : document.isBufferable (depth + 3) = true) : other.isBufferable (depth + 3) = true := by
  cases respelled with
  | permuted permutation =>
      rw [Json.isBufferable_object] at fits ⊢
      exact fun member isMember => fits member (permutation.mem_iff.2 isMember)
  | extended before after undeclared plain =>
      rw [Json.isBufferable_object, List.forall_mem_append] at fits ⊢
      rw [List.forall_mem_cons]
      exact ⟨fits.1, ⟨rfl, plain.isBufferable _⟩, fits.2⟩
  | filled before after optional absent =>
      rw [Json.isBufferable_object, List.forall_mem_append] at fits ⊢
      rw [List.forall_mem_cons]
      exact ⟨fits.1, ⟨rfl, Json.isBufferable_null _⟩, fits.2⟩
  | emptied before after optional =>
      rw [Json.isBufferable_object, List.forall_mem_append] at fits ⊢
      exact ⟨fits.1, (List.forall_mem_cons.1 fits.2).2⟩
  | listed members =>
      rw [Json.isBufferable_object] at fits
      rw [Json.isBufferable_array, List.forall_mem_map]
      intro name _
      cases found : members.lookup (some name) with
      | none => exact Json.isBufferable_null _
      | some value =>
          obtain ⟨before, after, rfl, -⟩ := List.lookup_eq_some_iff.1 found
          exact (fits (some name, value) (by simp)).2
  | member before after declared respelled =>
      rw [Json.isBufferable_object, List.forall_mem_append, List.forall_mem_cons] at fits ⊢
      exact ⟨fits.1, ⟨rfl, respelled.isBufferable fits.2.1.2⟩, fits.2.2⟩
  | item before after declared respelled =>
      rw [Json.isBufferable_array, List.forall_mem_append, List.forall_mem_cons] at fits ⊢
      exact ⟨fits.1, respelled.isBufferable fits.2.1, fits.2.2⟩

/-! ## Tagged documents -/

theorem ItemKind.name_injective : Function.Injective ItemKind.name := by
  intro first second same
  have read := (ofName?_eq_some_iff first.name second).2 same
  rw [(ofName?_eq_some_iff first.name first).2 rfl] at read
  exact Option.some.inj read

/-- A document that holds an item of a sort has the name of the sort as its tag. -/
theorem Layout.tag?_of_contents? {sort : ItemKind} {document : Json} {contents : List Content}
    (holds : (item sort).contents? true document = some (.tag sort :: contents)) :
    document.tag? = some sort.name := by
  obtain ⟨tag, rest, split, isName, -⟩ := (item_contents?_eq_some_iff ..).1 holds
  cases document with
  | object members =>
      obtain ⟨tagged, -⟩ := ItemType.splitTag?_object_eq_some_iff.1 split
      rw [Json.tag?, Record.lookup_eq_valueOf, Record.valueOf, tagged]
      exact isName
  | array items =>
      cases items with
      | nil => contradiction
      | cons first items =>
          cases split
          exact isName
  | _ => contradiction

/-- An item type that is accepted is accepted in another spelling. -/
theorem ItemType.Respelled.ofJson? {depth : Nat} (shallow : depth + 3 ≤ nestingLimit)
    {document other : Json} {type : ItemType} (respelled : Respelled document other)
    (accepted : ItemType.ofJson? depth document = some type) :
    ItemType.ofJson? depth other = some type := by
  obtain ⟨sort, tag, respelled⟩ := respelled
  obtain ⟨fits, holds⟩ := (ofJson?_eq_some_iff ..).1 accepted
  have sameSort : sort = type.kind := by
    rw [Layout.tag?_of_contents? holds, Option.some.injEq] at tag
    exact (ItemKind.name_injective tag).symm
  subst sameSort
  refine (ofJson?_eq_some_iff ..).2 ⟨?_, respelled.contents? (fun _ _ _ => False.elim) holds⟩
  obtain ⟨spare, isSpare⟩ : ∃ spare, nestingLimit - depth = spare + 3 :=
    ⟨nestingLimit - depth - 3, by omega⟩
  rw [isSpare] at fits ⊢
  exact respelled.isBufferable fits

end WasmSandbox
