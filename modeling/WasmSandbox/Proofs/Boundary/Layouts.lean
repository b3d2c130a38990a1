import WasmSandbox.Boundary.Record

/-!
Contract: the readers of boundary types as one reader of declared members.

Owns:
- layouts: the declared members of each document, in order, with what stands under each name;
- what a document holds under the names of a layout, read member by member;
- that the reader of each boundary type finds what the document holds, and puts it together;
- for tagged documents, which are split before they are read, that the tag is one more
  declared member.

Does not own: which documents hold the same (`WasmSandbox.Proofs.Boundary.Spelling`).
-/

namespace WasmSandbox

/-! ## Members -/

/-- What stands under a declared name. -/
inductive FieldSort where
  /-- The sort of an item, as a text. -/
  | tag
  | kind
  | kinds
  | flag
  | word
  | optionalWord
  | text
  | item
deriving DecidableEq, Repr

/-- What is read under a declared name. -/
inductive Content where
  | tag (sort : ItemKind)
  | kind (kind : ValueKind)
  | kinds (kinds : List ValueKind)
  | flag (value : Bool)
  | word (value : UInt64)
  | optionalWord (value : Option UInt64)
  | text (content : String)
  | item (type : ItemType)

/-- What a member holds, if it is there.  Only an optional word may be left out. -/
def FieldSort.read? (buffered : Bool) : FieldSort → Option Json → Option Content
  | .optionalWord, document => (Record.optionalWord? document).map .optionalWord
  | _, none => none
  | .tag, some document => ((Record.text? document).bind ItemKind.ofName?).map .tag
  | .kind, some document => (ValueKind.ofJson? buffered document).map .kind
  | .kinds, some document => (Record.list? (ValueKind.ofJson? buffered) document).map .kinds
  | .flag, some document => (Record.bool? document).map .flag
  | .word, some document => (Record.word? document).map .word
  | .text, some document => (Record.text? document).map .text
  | .item, some document => (ItemType.ofJson? 1 document).map .item

/-- The declared members of a document, in order. -/
structure Layout where
  fields : List (String × FieldSort)
  distinct : (fields.map Prod.fst).Nodup

namespace Layout

def names (layout : Layout) : List String := layout.fields.map Prod.fst

/-- What a document holds under the declared names. -/
def contents? (layout : Layout) (buffered : Bool) (document : Json) : Option (List Content) := do
  let field ← Record.fields? layout.names document
  layout.fields.mapM fun declared => declared.2.read? buffered (field declared.1)

/-! ## The layouts of boundary types -/

def signature : Layout := ⟨[("params", .kinds), ("results", .kinds)], by decide⟩

def global : Layout := ⟨[("content", .kind), ("mutable", .flag)], by decide⟩

def memory : Layout := ⟨[("minimum", .word), ("maximum", .optionalWord)], by decide⟩

def table : Layout :=
  ⟨[("element", .kind), ("minimum", .word), ("maximum", .optionalWord)], by decide⟩

def importDecl : Layout := ⟨[("module", .text), ("name", .text), ("ty", .item)], by decide⟩

def exportDecl : Layout := ⟨[("name", .text), ("ty", .item)], by decide⟩

/-- The layout of an item of some sort, without the tag. -/
def body : ItemKind → Layout
  | .func => signature
  | .memory => memory
  | .table => table
  | .global => global

theorem kind_not_mem_body (sort : ItemKind) : "kind" ∉ (body sort).names := by
  cases sort <;> decide

/-- The layout of an item of some sort, the tag first. -/
def item (sort : ItemKind) : Layout where
  fields := ("kind", .tag) :: (body sort).fields
  distinct := List.nodup_cons.2 ⟨kind_not_mem_body sort, (body sort).distinct⟩

theorem item_names (sort : ItemKind) : (item sort).names = "kind" :: (body sort).names :=
  rfl

end Layout

/-! ## Members of objects -/

namespace Record

variable {names : List String} {members : List (Option String × Json)}

/-- The members of a name, in order. -/
def named (members : List (Option String × Json)) (name : String) : List (Option String × Json) :=
  members.filter fun member => member.1 = some name

/-- The value of the first member of a name. -/
def valueOf (members : List (Option String × Json)) (name : String) : Option Json :=
  (named members name).head?.map Prod.snd

theorem lookup_eq_valueOf (members : List (Option String × Json)) (name : String) :
    members.lookup (some name) = valueOf members name := by
  induction members with
  | nil => rfl
  | cons member members inductionHypothesis =>
      obtain ⟨other, value⟩ := member
      by_cases same : other = some name
      · simp [valueOf, named, same]
      · have differs : (some name == other) = false := by
          rw [beq_eq_false_iff_ne]
          exact fun isName => same isName.symm
        rw [List.lookup_cons, differs, inductionHypothesis]
        simp [valueOf, named, same]

/-- The members of an object are told apart by their names. -/
theorem members?_eq_some_iff {field : String → Option Json} :
    members? names members = some field ↔
      (∀ member ∈ members, member.1.isSome = true) ∧
        (∀ name ∈ names, (named members name).length ≤ 1) ∧ field = valueOf members := by
  have counted (name : String) :
      members.countP (fun member => member.1 = some name) = (named members name).length :=
    List.countP_eq_length_filter ..
  simp only [members?, counted, lookup_eq_valueOf]
  split
  · rename_i orderly
    simp only [Bool.and_eq_true, List.all_eq_true, decide_eq_true_eq] at orderly
    rw [Option.some.injEq, eq_comm]
    exact ⟨fun same => ⟨orderly.1, orderly.2, same⟩, fun read => read.2.2⟩
  · rename_i disorderly
    simp only [Bool.and_eq_true, List.all_eq_true, decide_eq_true_eq] at disorderly
    exact ⟨nofun, fun read => absurd ⟨read.1, read.2.1⟩ disorderly⟩

/-! ## Items of arrays -/

theorem fields?_array_eq_some_iff {items : List Json} {field : String → Option Json} :
    fields? names (.array items) = some field ↔
      items.length = names.length ∧ field = fun name => (names.zip items).lookup name := by
  rw [fields?]
  split
  · rename_i sameLength
    rw [Option.some.injEq, eq_comm]
    exact ⟨fun same => ⟨sameLength, same⟩, And.right⟩
  · rename_i otherLength
    exact ⟨nofun, fun read => absurd read.1 otherLength⟩

/-- In an array, a member stands at the position of its name. -/
theorem lookup_zip {items : List Json} (distinct : names.Nodup) {index : Nat} {name : String}
    (position : names[index]? = some name) : (names.zip items).lookup name = items[index]? := by
  induction names generalizing index items with
  | nil => simp at position
  | cons first names inductionHypothesis =>
      obtain ⟨notLater, distinctLater⟩ := List.nodup_cons.1 distinct
      cases items with
      | nil => simp
      | cons item items =>
          rw [List.zip_cons_cons, List.lookup_cons]
          cases index with
          | zero =>
              cases position
              simp
          | succ index =>
              have later : names[index]? = some name := position
              have differs : (name == first) = false := by
                rw [beq_eq_false_iff_ne]
                rintro rfl
                exact notLater (List.mem_of_getElem? later)
              rw [differs, List.getElem?_cons_succ]
              exact inductionHypothesis distinctLater later

end Record

/-! ## Readers -/

/-- Several members are read if each of them is. -/
theorem mapM_cons_eq_some_iff {α β : Type} {read : α → Option β} {item : α} {items : List α}
    {value : β} {values : List β} :
    (item :: items).mapM read = some (value :: values) ↔
      read item = some value ∧ items.mapM read = some values := by
  rw [List.mapM_cons]
  cases read item <;> cases items.mapM read <;> simp

theorem ItemKind.ofName?_eq_some_iff (text : String) (sort : ItemKind) :
    ofName? text = some sort ↔ text = sort.name := by
  constructor
  · intro found
    unfold ofName? at found
    have same := List.find?_some found
    exact (beq_iff_eq.1 same).symm
  · rintro rfl
    cases sort <;> rfl

theorem Layout.contents?_eq_some_iff {layout : Layout} {buffered : Bool} {document : Json}
    {contents : List Content} :
    layout.contents? buffered document = some contents ↔
      ∃ field, Record.fields? layout.names document = some field ∧
        (layout.fields.mapM fun declared => declared.2.read? buffered (field declared.1)) =
          some contents :=
  Option.bind_eq_some_iff

namespace FieldSort

variable {buffered : Bool} {document : Option Json}

theorem read?_tag_eq_some_iff {sort : ItemKind} :
    read? buffered .tag document = some (.tag sort) ↔
      document.bind Record.text? = some sort.name := by
  cases document <;> simp [read?, Option.bind_eq_some_iff, ItemKind.ofName?_eq_some_iff]

theorem read?_kind_eq_some_iff {kind : ValueKind} :
    read? buffered .kind document = some (.kind kind) ↔
      document.bind (ValueKind.ofJson? buffered) = some kind := by
  cases document <;> simp [read?]

theorem read?_kinds_eq_some_iff {kinds : List ValueKind} :
    read? buffered .kinds document = some (.kinds kinds) ↔
      document.bind (Record.list? (ValueKind.ofJson? buffered)) = some kinds := by
  cases document <;> simp [read?]

theorem read?_flag_eq_some_iff {value : Bool} :
    read? buffered .flag document = some (.flag value) ↔
      document.bind Record.bool? = some value := by
  cases document <;> simp [read?]

theorem read?_word_eq_some_iff {value : UInt64} :
    read? buffered .word document = some (.word value) ↔
      document.bind Record.word? = some value := by
  cases document <;> simp [read?]

theorem read?_optionalWord_eq_some_iff {value : Option UInt64} :
    read? buffered .optionalWord document = some (.optionalWord value) ↔
      Record.optionalWord? document = some value := by
  cases document <;> simp [read?]

theorem read?_text_eq_some_iff {content : String} :
    read? buffered .text document = some (.text content) ↔
      document.bind Record.text? = some content := by
  cases document <;> simp [read?]

theorem read?_item_eq_some_iff {type : ItemType} :
    read? buffered .item document = some (.item type) ↔
      document.bind (ItemType.ofJson? 1) = some type := by
  cases document <;> simp [read?]

end FieldSort

section

variable (buffered : Bool) (document : Json)

/-- What the document of a signature holds. -/
def Signature.contents (signature : Signature) : List Content :=
  [.kinds signature.params, .kinds signature.results]

theorem Signature.ofJson?_eq_some_iff (signature : Signature) :
    ofJson? buffered document = some signature ↔
      Layout.signature.contents? buffered document = some signature.contents := by
  obtain ⟨params, results⟩ := signature
  simp only [Layout.contents?_eq_some_iff, Layout.signature, Layout.names, List.map_cons,
    List.map_nil, contents, mapM_cons_eq_some_iff, FieldSort.read?_kinds_eq_some_iff, ofJson?,
    Option.bind_eq_bind, Option.bind_eq_some_iff, Option.pure_def, List.mapM_nil]
  grind

/-- What the document of a global type holds. -/
def GlobalType.contents (type : GlobalType) : List Content :=
  [.kind type.content, .flag type.mutable]

theorem GlobalType.ofJson?_eq_some_iff (type : GlobalType) :
    ofJson? buffered document = some type ↔
      Layout.global.contents? buffered document = some type.contents := by
  obtain ⟨content, mutable⟩ := type
  simp only [Layout.contents?_eq_some_iff, Layout.global, Layout.names, List.map_cons,
    List.map_nil, contents, mapM_cons_eq_some_iff, FieldSort.read?_kind_eq_some_iff,
    FieldSort.read?_flag_eq_some_iff, ofJson?, Option.bind_eq_bind, Option.bind_eq_some_iff,
    Option.pure_def, List.mapM_nil]
  grind

theorem Limits.ofFields?_eq_some_iff (field : String → Option Json) (limits : Limits) :
    ofFields? field = some limits ↔
      (field "minimum").bind Record.word? = some limits.minimum ∧
        Record.optionalWord? (field "maximum") = some limits.maximum := by
  obtain ⟨minimum, maximum⟩ := limits
  simp only [ofFields?, Option.bind_eq_bind, Option.bind_eq_some_iff, Option.pure_def]
  grind

/-- What the document of a memory type holds. -/
def MemoryType.contents (type : MemoryType) : List Content :=
  [.word type.limits.minimum, .optionalWord type.limits.maximum]

theorem MemoryType.ofJson?_eq_some_iff (type : MemoryType) :
    ofJson? document = some type ↔
      Layout.memory.contents? buffered document = some type.contents := by
  obtain ⟨limits⟩ := type
  simp only [Layout.contents?_eq_some_iff, Layout.memory, Layout.names, List.map_cons,
    List.map_nil, contents, mapM_cons_eq_some_iff, FieldSort.read?_word_eq_some_iff,
    FieldSort.read?_optionalWord_eq_some_iff, ofJson?, Option.bind_eq_bind,
    Option.bind_eq_some_iff, Option.pure_def, List.mapM_nil, Limits.ofFields?_eq_some_iff]
  grind

/-- What the document of a table type holds. -/
def TableType.contents (type : TableType) : List Content :=
  [.kind type.element, .word type.limits.minimum, .optionalWord type.limits.maximum]

theorem TableType.ofJson?_eq_some_iff (type : TableType) :
    ofJson? buffered document = some type ↔
      Layout.table.contents? buffered document = some type.contents := by
  obtain ⟨element, limits⟩ := type
  simp only [Layout.contents?_eq_some_iff, Layout.table, Layout.names, List.map_cons,
    List.map_nil, contents, mapM_cons_eq_some_iff, FieldSort.read?_kind_eq_some_iff,
    FieldSort.read?_word_eq_some_iff, FieldSort.read?_optionalWord_eq_some_iff, ofJson?,
    Option.bind_eq_bind, Option.bind_eq_some_iff, Option.pure_def, List.mapM_nil,
    Limits.ofFields?_eq_some_iff]
  grind

/-- What the document of an import holds. -/
def ImportDecl.contents (decl : ImportDecl) : List Content :=
  [.text decl.module, .text decl.name, .item decl.type]

theorem ImportDecl.ofJson?_eq_some_iff (decl : ImportDecl) :
    ofJson? document = some decl ↔
      Layout.importDecl.contents? buffered document = some decl.contents := by
  obtain ⟨module, name, type⟩ := decl
  simp only [Layout.contents?_eq_some_iff, Layout.importDecl, Layout.names, List.map_cons,
    List.map_nil, contents, mapM_cons_eq_some_iff, FieldSort.read?_text_eq_some_iff,
    FieldSort.read?_item_eq_some_iff, ofJson?, Option.bind_eq_bind, Option.bind_eq_some_iff,
    Option.pure_def, List.mapM_nil]
  grind

/-- What the document of an export holds. -/
def ExportDecl.contents (decl : ExportDecl) : List Content :=
  [.text decl.name, .item decl.type]

theorem ExportDecl.ofJson?_eq_some_iff (decl : ExportDecl) :
    ofJson? document = some decl ↔
      Layout.exportDecl.contents? buffered document = some decl.contents := by
  obtain ⟨name, type⟩ := decl
  simp only [Layout.contents?_eq_some_iff, Layout.exportDecl, Layout.names, List.map_cons,
    List.map_nil, contents, mapM_cons_eq_some_iff, FieldSort.read?_text_eq_some_iff,
    FieldSort.read?_item_eq_some_iff, ofJson?, Option.bind_eq_bind, Option.bind_eq_some_iff,
    Option.pure_def, List.mapM_nil]
  grind

end

/-! ## Tagged documents -/

namespace ItemType

/-- What the document of an item type holds beside its sort. -/
def bodyContents : ItemType → List Content
  | func signature => signature.contents
  | memory type => type.contents
  | table type => type.contents
  | global type => type.contents

/-- What the document of an item type holds. -/
def contents (type : ItemType) : List Content :=
  .tag type.kind :: type.bodyContents

theorem ofBody?_eq_some_iff (sort : ItemKind) (body : Json) (type : ItemType) :
    ofBody? sort body = some type ↔
      type.kind = sort ∧ (Layout.body sort).contents? true body = some type.bodyContents := by
  cases sort <;> cases type <;>
    simp [ofBody?, kind, Layout.body, bodyContents, Option.map_eq_some_iff,
      Signature.ofJson?_eq_some_iff, GlobalType.ofJson?_eq_some_iff,
      MemoryType.ofJson?_eq_some_iff true, TableType.ofJson?_eq_some_iff]

/-- The one member with the tag, and the other members. -/
theorem splitTag?_object_eq_some_iff {members : List (Option String × Json)} {tag body : Json} :
    splitTag? (.object members) = some (tag, body) ↔
      Record.named members "kind" = [(some "kind", tag)] ∧
        body = .object (members.filter fun member => member.1 ≠ some "kind") := by
  have isKind : ∀ member ∈ Record.named members "kind", member.1 = some "kind" :=
    fun member isNamed => of_decide_eq_true (List.mem_filter.1 isNamed).2
  simp only [splitTag?]
  split
  · rename_i name value single
    have tagged : Record.named members "kind" = [(name, value)] := single
    rw [tagged] at isKind
    have sameName : name = some "kind" := isKind _ (List.mem_singleton_self _)
    simp [tagged, sameName, eq_comm]
  · rename_i notSingle
    simp only [reduceCtorEq, false_iff, not_and]
    exact fun tagged => absurd tagged (notSingle (some "kind") tag)

/-- A name other than the tag's has the same members beside the tag. -/
theorem named_filter {name : String} (differs : name ≠ "kind")
    (members : List (Option String × Json)) :
    Record.named (members.filter fun member => member.1 ≠ some "kind") name =
      Record.named members name := by
  rw [Record.named, Record.named, List.filter_filter]
  refine List.filter_congr fun member _ => ?_
  by_cases same : member.1 = some name <;> simp [same, differs]

section

variable {names : List String} (noTag : "kind" ∉ names) {document tag : Json}
include noTag

private theorem ne_kind {name : String} (member : name ∈ names) : name ≠ "kind" := by
  rintro rfl
  exact noTag member

/-- Members that are read beside the tag are read with it. -/
theorem fields?_of_split {body : Json} {inner : String → Option Json}
    (split : splitTag? document = some (tag, body))
    (read : Record.fields? names body = some inner) :
    ∃ field, Record.fields? ("kind" :: names) document = some field ∧
      field "kind" = some tag ∧ ∀ name ∈ names, field name = inner name := by
  cases document with
  | object members =>
      obtain ⟨tagged, rfl⟩ := splitTag?_object_eq_some_iff.1 split
      obtain ⟨areNamed, once, rfl⟩ := Record.members?_eq_some_iff.1 read
      refine ⟨_, Record.members?_eq_some_iff.2 ⟨?_, ?_, rfl⟩, ?_, ?_⟩
      · intro member isMember
        by_cases isTag : member.1 = some "kind"
        · rw [isTag]
          rfl
        · exact areNamed member (List.mem_filter.2 ⟨isMember, decide_eq_true isTag⟩)
      · refine List.forall_mem_cons.2 ⟨by simp [tagged], fun name member => ?_⟩
        rw [← named_filter (ne_kind noTag member)]
        exact once name member
      · rw [Record.valueOf, tagged]
        rfl
      · intro name member
        rw [Record.valueOf, Record.valueOf, named_filter (ne_kind noTag member)]
  | array items =>
      cases items with
      | nil => contradiction
      | cons first items =>
          cases split
          obtain ⟨sameLength, rfl⟩ := Record.fields?_array_eq_some_iff.1 read
          refine ⟨_, Record.fields?_array_eq_some_iff.2 ⟨by simp [sameLength], rfl⟩, ?_, ?_⟩
          · rfl
          · intro name member
            simp only [List.zip_cons_cons, List.lookup_cons,
              beq_eq_false_iff_ne.2 (ne_kind noTag member)]
  | _ => contradiction

/-- Members that are read with the tag are read beside it. -/
theorem split_of_fields? {field : String → Option Json}
    (read : Record.fields? ("kind" :: names) document = some field)
    (isTag : field "kind" = some tag) :
    ∃ body inner, splitTag? document = some (tag, body) ∧
      Record.fields? names body = some inner ∧ ∀ name ∈ names, field name = inner name := by
  cases document with
  | object members =>
      obtain ⟨areNamed, once, rfl⟩ := Record.members?_eq_some_iff.1 read
      obtain ⟨tagOnce, onceBeside⟩ := List.forall_mem_cons.1 once
      have tagged : Record.named members "kind" = [(some "kind", tag)] := by
        have isKind : ∀ member ∈ Record.named members "kind", member.1 = some "kind" :=
          fun member isNamed => of_decide_eq_true (List.mem_filter.1 isNamed).2
        rw [Record.valueOf] at isTag
        match found : Record.named members "kind" with
        | [] => simp [found] at isTag
        | [(name, value)] =>
            rw [found] at isKind isTag
            have sameName : name = some "kind" := isKind _ (List.mem_singleton_self _)
            rw [sameName, ← Option.some.inj isTag]
        | _ :: _ :: _ => simp [found] at tagOnce
      refine ⟨_, _, splitTag?_object_eq_some_iff.2 ⟨tagged, rfl⟩,
        Record.members?_eq_some_iff.2 ⟨?_, ?_, rfl⟩, ?_⟩
      · exact fun member isMember => areNamed member (List.mem_filter.1 isMember).1
      · intro name member
        rw [named_filter (ne_kind noTag member)]
        exact onceBeside name member
      · intro name member
        rw [Record.valueOf, Record.valueOf, named_filter (ne_kind noTag member)]
  | array items =>
      obtain ⟨sameLength, rfl⟩ := Record.fields?_array_eq_some_iff.1 read
      cases items with
      | nil => contradiction
      | cons first items =>
          have isFirst : first = tag := by simpa using isTag
          subst isFirst
          refine ⟨_, _, rfl, Record.fields?_array_eq_some_iff.2 ⟨?_, rfl⟩, ?_⟩
          · simpa using sameLength
          · intro name member
            simp only [List.zip_cons_cons, List.lookup_cons,
              beq_eq_false_iff_ne.2 (ne_kind noTag member)]
  | _ => contradiction

end

end ItemType

namespace Layout

/-- Members are read alike where the same stands under their names. -/
theorem mapM_congr {layout : Layout} {buffered : Bool} {field other : String → Option Json}
    (same : ∀ name ∈ layout.names, field name = other name) :
    (layout.fields.mapM fun declared => declared.2.read? buffered (field declared.1)) =
      layout.fields.mapM fun declared => declared.2.read? buffered (other declared.1) := by
  obtain ⟨fields, distinct⟩ := layout
  simp only [names] at same ⊢
  clear distinct
  induction fields with
  | nil => rfl
  | cons declared fields inductionHypothesis =>
      obtain ⟨sameFirst, sameLater⟩ := List.forall_mem_cons.1 same
      rw [List.mapM_cons, List.mapM_cons, sameFirst, inductionHypothesis sameLater]

/-- A tagged document holds its sort, and beside it what the sort declares. -/
theorem item_contents?_eq_some_iff (sort : ItemKind) (document : Json)
    (contents : List Content) :
    (item sort).contents? true document = some (.tag sort :: contents) ↔
      ∃ tag rest, ItemType.splitTag? document = some (tag, rest) ∧
        Record.text? tag = some sort.name ∧ (body sort).contents? true rest = some contents := by
  simp only [contents?_eq_some_iff, item_names]
  show (∃ field, _ ∧ ((("kind", FieldSort.tag) :: (body sort).fields).mapM _) = _) ↔ _
  simp only [mapM_cons_eq_some_iff, FieldSort.read?_tag_eq_some_iff, Option.bind_eq_some_iff]
  constructor
  · rintro ⟨field, read, ⟨tag, isTag, isName⟩, holds⟩
    obtain ⟨rest, inner, split, readInner, same⟩ :=
      ItemType.split_of_fields? (kind_not_mem_body sort) read isTag
    rw [mapM_congr same] at holds
    exact ⟨tag, rest, split, isName, inner, readInner, holds⟩
  · rintro ⟨tag, rest, split, isName, inner, readInner, holds⟩
    obtain ⟨field, read, isTag, same⟩ :=
      ItemType.fields?_of_split (kind_not_mem_body sort) split readInner
    rw [← mapM_congr same] at holds
    exact ⟨field, read, ⟨tag, isTag, isName⟩, holds⟩

end Layout

/-- An item type is read off a document that can be held in memory and holds it. -/
theorem ItemType.ofJson?_eq_some_iff (depth : Nat) (document : Json) (type : ItemType) :
    ofJson? depth document = some type ↔
      document.isBufferable (nestingLimit - depth) = true ∧
        (Layout.item type.kind).contents? true document = some type.contents := by
  rw [contents, Layout.item_contents?_eq_some_iff]
  by_cases fits : document.isBufferable (nestingLimit - depth) = true
  · simp only [ofJson?, fits, Option.bind_eq_bind, Option.bind_eq_some_iff, Prod.exists,
      ItemKind.ofName?_eq_some_iff, ofBody?_eq_some_iff, Bool.not_true, Bool.false_eq_true,
      if_false, true_and]
    constructor
    · rintro ⟨tag, rest, split, text, isText, sort, rfl, rfl, holds⟩
      exact ⟨tag, rest, split, isText, holds⟩
    · rintro ⟨tag, rest, split, isName, holds⟩
      exact ⟨tag, rest, split, _, isName, _, rfl, rfl, holds⟩
  · simp only [ofJson?, fits, Option.bind_eq_bind, Bool.false_eq_true, false_and, iff_false]
    cases splitTag? document with
    | none => exact nofun
    | some split => exact nofun

end WasmSandbox
