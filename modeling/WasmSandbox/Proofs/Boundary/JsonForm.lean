import WasmSandbox.Boundary.Record
import WasmSandbox.Proofs.Json.RoundTrip

/-!
Contract: boundary types are read back from their JSON texts.

Owns:
- documents of records and lists, with a text if their parts have one;
- for each boundary type, that its document is read as the value it was written for;
- that a tagged document fits into memory, whatever the lists and numbers in it;
- the round trip of texts, for all boundary types.

Does not own: other texts of the same values, which a reader may accept as well.
-/

namespace WasmSandbox

/-! ## Parts of documents -/

namespace Json

theorem hasText_nat (value : Nat) : (nat value).HasText :=
  nofun

theorem hasText_list {α : Type} {write : α → Json} (items : List α)
    (each : ∀ item, (write item).HasText) : (list write items).HasText := by
  show ItemsHaveText (items.map write)
  induction items with
  | nil => trivial
  | cons item items inductionHypothesis => exact ⟨each item, inductionHypothesis⟩

theorem hasText_record {members : List (String × Json)}
    (each : ∀ member ∈ members, member.2.HasText) : (record members).HasText := by
  show MembersHaveText (members.map fun member => (some member.1, member.2))
  induction members with
  | nil => trivial
  | cons member members inductionHypothesis =>
      exact ⟨rfl, each member (List.mem_cons_self ..),
        inductionHypothesis fun other isMember => each other (List.mem_cons_of_mem _ isMember)⟩

/-- Numbers of 64 bits are far from the greatest finite number. -/
theorem isFinite_ofNat {value : Nat} (small : value < UInt64.size) :
    (Numeral.ofNat value).isFinite = true := by
  have short : (Nat.toDigits 10 value).length ≤ 20 :=
    (Nat.length_toDigits_le_iff (by decide) (by decide)).2 (Nat.lt_trans small (by decide))
  have digits : (Numeral.ofNat value).digits = value := rfl
  have scale : (Numeral.ofNat value).scale = 0 := rfl
  simp only [Numeral.isFinite, digits, scale]
  split
  · rfl
  · rw [if_neg (by omega), if_pos (by omega)]

theorem isBufferable_word (depth : Nat) (value : UInt64) :
    (nat value.toNat).isBufferable depth = true := by
  rw [nat, isBufferable, isFinite_ofNat value.toNat_lt]

end Json

namespace Record

/-- The members of a record that is written with distinct names are found by their names. -/
theorem fields?_record (declared : List String) (members : List (String × Json))
    (distinct : (members.map Prod.fst).Nodup) :
    fields? declared (.record members) = some fun name => members.lookup name := by
  have named : (members.map fun member => (some member.1, member.2)).all
      (fun member => member.1.isSome) = true := by
    simp
  have once (name : String) : (members.map fun member => (some member.1, member.2)).countP
      (fun member => member.1 = some name) ≤ 1 := by
    have count := List.nodup_iff_count.1 distinct name
    rw [List.count, List.countP_map] at count
    rw [List.countP_map]
    simp only [Function.comp_def, Option.some.injEq]
    exact count
  have found (name : String) :
      (members.map fun member => (some member.1, member.2)).lookup (some name) =
        members.lookup name := by
    clear distinct named once
    induction members with
    | nil => rfl
    | cons member members inductionHypothesis =>
        rw [List.map_cons, List.lookup_cons, List.lookup_cons, inductionHypothesis]
        simp
  show members? declared (members.map fun member => (some member.1, member.2)) = _
  rw [members?, named, List.all_eq_true.2 fun name _ => decide_eq_true (once name)]
  simp only [Bool.and_self, if_true, found]

theorem list?_list {α : Type} {read : Json → Option α} {write : α → Json} (items : List α)
    (each : ∀ item, read (write item) = some item) :
    list? read (.list write items) = some items := by
  show (items.map write).mapM read = some items
  induction items with
  | nil => rfl
  | cons item items inductionHypothesis =>
      rw [List.map_cons, List.mapM_cons, each, inductionHypothesis]
      rfl

theorem word?_nat (value : UInt64) : word? (.nat value.toNat) = some value := by
  have small : value.toNat < UInt64.size := value.toNat_lt
  show (if value.toNat < UInt64.size then some (UInt64.ofNat value.toNat) else none) = some value
  rw [if_pos small, UInt64.ofNat_toNat]

theorem optionalWord?_optional (value : Option UInt64) :
    optionalWord? (some (.optional (fun value => .nat value.toNat) value)) = some value := by
  cases value with
  | none => rfl
  | some value =>
      show (word? (.nat value.toNat)).map some = some (some value)
      rw [word?_nat]
      rfl

end Record

/-! ## The documents of boundary types -/

theorem ValueKind.ofJson?_toJson (buffered : Bool) (kind : ValueKind) :
    ofJson? buffered kind.toJson = some kind := by
  cases kind <;> rfl

theorem ValueKind.hasText_toJson (kind : ValueKind) : kind.toJson.HasText :=
  rfl

theorem ItemKind.ofName?_name (kind : ItemKind) : ofName? kind.name = some kind := by
  cases kind <;> rfl

theorem ItemKind.ofJson?_toJson (kind : ItemKind) : ofJson? kind.toJson = some kind := by
  cases kind <;> rfl

namespace Signature

theorem ofJson?_toJson (buffered : Bool) (signature : Signature) :
    ofJson? buffered signature.toJson = some signature := by
  have params := Record.list?_list signature.params (ValueKind.ofJson?_toJson buffered)
  have results := Record.list?_list signature.results (ValueKind.ofJson?_toJson buffered)
  have distinct : (signature.members.map Prod.fst).Nodup :=
    show ["params", "results"].Nodup by decide
  rw [ofJson?, toJson, Record.fields?_record _ _ distinct]
  show (do
    let params ← Record.list? (ValueKind.ofJson? buffered)
      (.list ValueKind.toJson signature.params)
    let results ← Record.list? (ValueKind.ofJson? buffered)
      (.list ValueKind.toJson signature.results)
    return Signature.mk params results) = some signature
  rw [params, results]
  rfl

theorem hasText_members (signature : Signature) :
    ∀ member ∈ signature.members, member.2.HasText := by
  simp [members, Json.hasText_list, ValueKind.hasText_toJson]

end Signature

namespace GlobalType

theorem ofJson?_toJson (buffered : Bool) (type : GlobalType) :
    ofJson? buffered type.toJson = some type := by
  have content := ValueKind.ofJson?_toJson buffered type.content
  have distinct : (type.members.map Prod.fst).Nodup :=
    show ["content", "mutable"].Nodup by decide
  rw [ofJson?, toJson, Record.fields?_record _ _ distinct]
  show (do
    let content ← ValueKind.ofJson? buffered type.content.toJson
    let mutable ← Record.bool? (.bool type.mutable)
    return GlobalType.mk content mutable) = some type
  rw [content]
  rfl

theorem hasText_members (type : GlobalType) : ∀ member ∈ type.members, member.2.HasText := by
  simp [members, ValueKind.hasText_toJson, Json.HasText]

end GlobalType

namespace Limits

/-- Limits are read back wherever their members are found. -/
theorem ofFields?_members (limits : Limits) {field : String → Option Json}
    (minimum : field "minimum" = limits.members.lookup "minimum")
    (maximum : field "maximum" = limits.members.lookup "maximum") :
    ofFields? field = some limits := by
  rw [ofFields?, minimum, maximum]
  show (do
    let minimum ← Record.word? (.nat limits.minimum.toNat)
    let maximum ← Record.optionalWord?
      (some (.optional (fun maximum => .nat maximum.toNat) limits.maximum))
    return Limits.mk minimum maximum) = some limits
  rw [Record.word?_nat, Record.optionalWord?_optional]
  rfl

theorem hasText_members (limits : Limits) : ∀ member ∈ limits.members, member.2.HasText := by
  cases isMaximum : limits.maximum <;>
    simp [members, isMaximum, Json.hasText_nat, Json.optional, Json.HasText]

end Limits

namespace MemoryType

theorem ofJson?_toJson (type : MemoryType) : ofJson? type.toJson = some type := by
  have distinct : (type.limits.members.map Prod.fst).Nodup :=
    show ["minimum", "maximum"].Nodup by decide
  rw [ofJson?, toJson, Record.fields?_record _ _ distinct]
  show (do return MemoryType.mk (← Limits.ofFields? fun name => type.limits.members.lookup name)) =
    some type
  rw [type.limits.ofFields?_members rfl rfl]
  rfl

end MemoryType

namespace TableType

theorem ofJson?_toJson (buffered : Bool) (type : TableType) :
    ofJson? buffered type.toJson = some type := by
  have element := ValueKind.ofJson?_toJson buffered type.element
  have distinct : (type.members.map Prod.fst).Nodup :=
    show ["element", "minimum", "maximum"].Nodup by decide
  rw [ofJson?, toJson, Record.fields?_record _ _ distinct]
  show (do
    let element ← ValueKind.ofJson? buffered type.element.toJson
    return TableType.mk element (← Limits.ofFields? fun name => type.members.lookup name)) =
      some type
  rw [element, type.limits.ofFields?_members rfl rfl]
  rfl

theorem hasText_members (type : TableType) : ∀ member ∈ type.members, member.2.HasText := by
  intro member isMember
  rcases List.mem_cons.1 isMember with rfl | inLimits
  · exact type.element.hasText_toJson
  · exact type.limits.hasText_members member inLimits

end TableType

namespace ItemType

/-- The document without its tag holds the members of the item type. -/
theorem splitTag?_toJson (type : ItemType) :
    splitTag? type.toJson = some (type.kind.toJson, .record type.members) := by
  cases type <;> rfl

theorem ofBody?_members (type : ItemType) :
    ofBody? type.kind (.record type.members) = some type := by
  cases type with
  | func signature => exact congrArg (Option.map func) (signature.ofJson?_toJson true)
  | memory type => exact congrArg (Option.map memory) type.ofJson?_toJson
  | table type => exact congrArg (Option.map table) (type.ofJson?_toJson true)
  | global type => exact congrArg (Option.map global) (type.ofJson?_toJson true)

/-- The kinds of a signature fit into memory, however many there are. -/
theorem itemsBufferable_kinds (depth : Nat) (kinds : List ValueKind) :
    Json.itemsBufferable depth (kinds.map ValueKind.toJson) = true := by
  induction kinds with
  | nil => rfl
  | cons kind kinds inductionHypothesis =>
      rw [List.map_cons, Json.itemsBufferable, inductionHypothesis]
      rfl

/-- The bounds of limits fit into memory, whatever they are. -/
theorem isBufferable_maximum (depth : Nat) (maximum : Option UInt64) :
    (Json.optional (fun maximum => .nat maximum.toNat) maximum).isBufferable depth = true := by
  cases maximum with
  | none => rw [Json.optional, Json.isBufferable]; all_goals nofun
  | some maximum => exact Json.isBufferable_word depth maximum

/-- The document of an item type nests two deep. -/
theorem isBufferable_toJson (type : ItemType) {depth : Nat} (enough : 2 ≤ depth) :
    type.toJson.isBufferable depth = true := by
  obtain ⟨depth, rfl⟩ : ∃ inner, depth = inner + 2 := ⟨depth - 2, by omega⟩
  cases type <;>
    simp [toJson, members, Signature.members, Limits.members, TableType.members,
      GlobalType.members, ItemKind.toJson, ValueKind.toJson, Json.record, Json.list, Json.string,
      Json.isBufferable, Json.membersBufferable, itemsBufferable_kinds, Json.isBufferable_word,
      isBufferable_maximum]

theorem ofJson?_toJson (depth : Nat) (shallow : depth + 2 ≤ nestingLimit) (type : ItemType) :
    ofJson? depth type.toJson = some type := by
  have fits : type.toJson.isBufferable (nestingLimit - depth) = true :=
    type.isBufferable_toJson (by omega)
  rw [ofJson?, splitTag?_toJson]
  simp only [Option.bind_eq_bind, Option.bind_some, fits]
  show (do
    let kind ← ItemKind.ofName? type.kind.name
    ofBody? kind (.record type.members)) = some type
  rw [type.kind.ofName?_name]
  exact type.ofBody?_members

theorem hasText_toJson (type : ItemType) : type.toJson.HasText := by
  refine Json.hasText_record fun member isMember => ?_
  rcases List.mem_cons.1 isMember with rfl | isOwn
  · rfl
  · cases type with
    | func signature => exact signature.hasText_members member isOwn
    | memory type => exact type.limits.hasText_members member isOwn
    | table type => exact type.hasText_members member isOwn
    | global type => exact type.hasText_members member isOwn

end ItemType

namespace ImportDecl

theorem ofJson?_toJson (decl : ImportDecl) : ofJson? decl.toJson = some decl := by
  have type := decl.type.ofJson?_toJson 1 (by decide)
  rw [ofJson?, toJson, Record.fields?_record]
  · show (do
      let type ← ItemType.ofJson? 1 decl.type.toJson
      return ImportDecl.mk decl.module decl.name type) = some decl
    rw [type]
    rfl
  · show ["module", "name", "ty"].Nodup
    decide

theorem hasText_toJson (decl : ImportDecl) : decl.toJson.HasText :=
  Json.hasText_record (by simp [Json.string, Json.HasText, decl.type.hasText_toJson])

end ImportDecl

namespace ExportDecl

theorem ofJson?_toJson (decl : ExportDecl) : ofJson? decl.toJson = some decl := by
  have type := decl.type.ofJson?_toJson 1 (by decide)
  rw [ofJson?, toJson, Record.fields?_record]
  · show (do
      let type ← ItemType.ofJson? 1 decl.type.toJson
      return ExportDecl.mk decl.name type) = some decl
    rw [type]
    rfl
  · show ["name", "ty"].Nodup
    decide

theorem hasText_toJson (decl : ExportDecl) : decl.toJson.HasText :=
  Json.hasText_record (by simp [Json.string, Json.HasText, decl.type.hasText_toJson])

end ExportDecl

/-! ## Texts -/

namespace Json

/-- The compact text of a value. -/
def textOf {α : Type} (toJson : α → Json) (value : α) : String :=
  (toJson value).compact

/-- The value that a text writes, if it is accepted. -/
def valueOf? {α : Type} (ofJson? : Json → Option α) (text : String) : Option α :=
  (read? text).bind ofJson?

/-- Values are read back from their texts. -/
structure RoundTrips {α : Type} (toJson : α → Json) (ofJson? : Json → Option α) : Prop where
  valueOf_textOf : ∀ value, valueOf? ofJson? (textOf toJson value) = some value
  /-- Distinct values have distinct texts. -/
  injective : Function.Injective (textOf toJson)
  /-- A text that is accepted, written again, is read as the same value and then does not
  change any more. -/
  settles : ∀ text value, valueOf? ofJson? text = some value →
    valueOf? ofJson? (textOf toJson value) = valueOf? ofJson? text ∧
      (valueOf? ofJson? (textOf toJson value)).map (textOf toJson) = some (textOf toJson value)

/-- Texts round trip where documents do that have a text. -/
theorem RoundTrips.of_documents {α : Type} {toJson : α → Json} {ofJson? : Json → Option α}
    (hasText : ∀ value, (toJson value).HasText)
    (readBack : ∀ value, ofJson? (toJson value) = some value) : RoundTrips toJson ofJson? := by
  have back (value : α) : valueOf? ofJson? (textOf toJson value) = some value := by
    rw [valueOf?, textOf, read?_compact _ (hasText value), Option.bind_some, readBack]
  refine ⟨back, ?_, ?_⟩
  · intro first second same
    exact Option.some.inj (((back first).symm.trans (by rw [same])).trans (back second))
  · intro text value accepted
    exact ⟨(back value).trans accepted.symm, by rw [back, Option.map_some]⟩

end Json

/-- Every boundary type is read back from its texts: kinds, signatures, limits of any size,
and declarations under any names. -/
theorem Boundary.textsRoundTrip :
    Json.RoundTrips ValueKind.toJson (ValueKind.ofJson? false) ∧
      Json.RoundTrips ItemKind.toJson ItemKind.ofJson? ∧
      Json.RoundTrips Signature.toJson (Signature.ofJson? false) ∧
      Json.RoundTrips GlobalType.toJson (GlobalType.ofJson? false) ∧
      Json.RoundTrips MemoryType.toJson MemoryType.ofJson? ∧
      Json.RoundTrips TableType.toJson (TableType.ofJson? false) ∧
      Json.RoundTrips ItemType.toJson (ItemType.ofJson? 0) ∧
      Json.RoundTrips ImportDecl.toJson ImportDecl.ofJson? ∧
      Json.RoundTrips ExportDecl.toJson ExportDecl.ofJson? := by
  refine ⟨.of_documents ValueKind.hasText_toJson (ValueKind.ofJson?_toJson false),
    .of_documents (fun _ => rfl) ItemKind.ofJson?_toJson,
    .of_documents ?signature (Signature.ofJson?_toJson false),
    .of_documents ?global (GlobalType.ofJson?_toJson false),
    .of_documents ?memory MemoryType.ofJson?_toJson,
    .of_documents ?table (TableType.ofJson?_toJson false),
    .of_documents ItemType.hasText_toJson (ItemType.ofJson?_toJson 0 (by decide)),
    .of_documents ImportDecl.hasText_toJson ImportDecl.ofJson?_toJson,
    .of_documents ExportDecl.hasText_toJson ExportDecl.ofJson?_toJson⟩
  case signature => exact fun signature => Json.hasText_record signature.hasText_members
  case global => exact fun type => Json.hasText_record type.hasText_members
  case memory => exact fun type => Json.hasText_record type.limits.hasText_members
  case table => exact fun type => Json.hasText_record type.hasText_members

/-- Other texts are accepted as well: with blanks and needless escapes, and with an array in
the place of an object. -/
example : Json.valueOf? (Signature.ofJson? false) " [[\"\\u00693\\u0032\"], [] ]" =
    some ⟨[.i32], []⟩ := by
  decide +kernel

end WasmSandbox
