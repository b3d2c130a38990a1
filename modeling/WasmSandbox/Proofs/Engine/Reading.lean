import WasmSandbox.Proofs.Engine.Placement

/-!
Contract: the sizes of the modules that are read.

Owns:
- what holds of whatever a reader yields, for readers of both forms;
- that every size that is read is a number of 32 bits, or that of a table which is filled
  where it is written;
- that the sizes of a valid module that was read are numbers of 64 bits.

A size passes through a reader unchanged, from the number where it is read to the parts of the
module, so the bound is proved for the numbers and carried through the readers above them.
A table that is filled where it is written has as many elements as there are, and validity
bounds these.

Does not own: what else is read.
-/

namespace WasmSandbox.Wasm

/-! ## What readers yield -/

section

variable {σ ε α β : Type} {holds : α → Prop} {holdsNext : β → Prop}

/-- What comes of it, if nothing fails, is so. -/
def Gives (holds : α → Prop) (result : Except ε α) : Prop :=
  ∀ value, result = .ok value → holds value

/-- What a reader yields, from whatever it reads, is so. -/
def Yields (holds : α → Prop) (reader : StateT σ (Except ε) α) : Prop :=
  ∀ state, Gives (fun out => holds out.1) (reader state)

theorem gives_ok {value : α} (is : holds value) : Gives (ε := ε) holds (.ok value) := by
  rintro _ ⟨⟩
  exact is

theorem gives_error {failure : ε} : Gives holds (.error failure) := nofun

theorem gives_bind {first : Except ε α} {next : α → Except ε β}
    (step : ∀ value, first = .ok value → Gives holdsNext (next value)) :
    Gives holdsNext (first >>= next) := by
  intro result isOk
  obtain ⟨value, isFirst, isNext⟩ := bind_eq_ok_iff.1 isOk
  exact step value isFirst result isNext

theorem Yields.bind {reader : StateT σ (Except ε) α} {next : α → StateT σ (Except ε) β}
    (yields : Yields holds reader) (step : ∀ value, holds value → Yields holdsNext (next value)) :
    Yields holdsNext (reader >>= next) :=
  fun state => gives_bind fun out isOut => step out.1 (yields state out isOut) out.2

/-- What was read before may not matter. -/
theorem yields_bind {reader : StateT σ (Except ε) α} {next : α → StateT σ (Except ε) β}
    (step : ∀ value, Yields holdsNext (next value)) : Yields holdsNext (reader >>= next) :=
  fun _ => gives_bind fun out _ => step out.1 out.2

theorem yields_pure {value : α} (is : holds value) :
    Yields holds (pure value : StateT σ (Except ε) α) :=
  fun _ => gives_ok is

theorem yields_throw {failure : ε} : Yields holds (throw failure : StateT σ (Except ε) α) :=
  fun _ => gives_error

/-- What comes after a condition may take it for granted. -/
theorem gives_unless {condition : Prop} [Decidable condition] {failure : ε}
    {next : PUnit → Except ε β} (step : Gives holdsNext (next ⟨⟩)) :
    Gives holdsNext (if condition then throw failure >>= next else next ⟨⟩) := by
  split
  · exact gives_error
  · exact step

theorem yields_unless {condition : Prop} [Decidable condition] {failure : ε}
    {next : PUnit → StateT σ (Except ε) β} (step : Yields holdsNext (next ⟨⟩)) :
    Yields holdsNext (if condition then throw failure >>= next else next ⟨⟩) := by
  split
  · exact fun _ => gives_error
  · exact step

/-- What needs no more reading is so in any state. -/
theorem yields_lift {result : Except ε α} (gives : Gives holds result) :
    Yields holds (StateT.lift result : StateT σ (Except ε) α) :=
  fun _ => gives_bind fun value isOk => gives_ok (gives value isOk)

theorem Yields.map {reader : StateT σ (Except ε) α} {change : α → β} (yields : Yields holds reader)
    (step : ∀ value, holds value → holdsNext (change value)) :
    Yields holdsNext (change <$> reader) :=
  yields.bind fun value is => yields_pure (step value is)

theorem yields_map {reader : StateT σ (Except ε) α} {change : α → β}
    (step : ∀ value, holdsNext (change value)) : Yields holdsNext (change <$> reader) :=
  yields_bind fun value => yields_pure (step value)

end

/-! ## Sizes -/

/-- A greatest size of 32 bits, or one that is the least size too. -/
def SizeRange.Narrow (size : SizeRange) : Prop :=
  ∀ greatest ∈ size.greatest, greatest < UInt32.size ∨ greatest = size.least

/-- A table in the import has such sizes. -/
def ImportShape.Narrow : ImportShape → Prop
  | .table shape => shape.size.Narrow
  | _ => True

/-- The tables of a module, imported or not, have such sizes. -/
structure Module.Narrow (module : Module) : Prop where
  imports : ∀ item ∈ module.imports, item.shape.Narrow
  tables : ∀ shape ∈ module.tables, shape.size.Narrow

/-! ## The binary form -/

namespace Binary

theorem byte_lt : Yields (· < 256) byte := by
  refine yields_bind fun content => ?_
  cases content with
  | nil => exact yields_throw
  | cons first rest => exact yields_bind fun _ => yields_pure (UInt8.toNat_lt first)

theorem one_shiftLeft_add_seven (bits : Nat) : 1 <<< (bits + 7) = 128 * 1 <<< bits := by
  rw [Nat.shiftLeft_add, Nat.shiftLeft_eq _ 7, Nat.mul_comm]

/-- A number has no more bits than its width. -/
theorem unsigned_lt (bits : Nat) : Yields (· < 1 <<< bits) (unsigned bits) := by
  induction bits using Nat.strongRecOn with
  | ind bits inductionHypothesis =>
      rw [unsigned]
      refine byte_lt.bind fun group isByte => ?_
      by_cases isLast : group < 128
      · rw [if_pos isLast]
        split
        · exact yields_throw
        · rename_i fits
          refine yields_pure ?_
          by_cases narrow : bits < 7
          · simpa [narrow] using fits
          · obtain ⟨rest, rfl⟩ := Nat.exists_eq_add_of_le' (Nat.le_of_not_lt narrow)
            have positive : 0 < 1 <<< rest := by rw [Nat.one_shiftLeft]; exact Nat.two_pow_pos rest
            rw [one_shiftLeft_add_seven]
            omega
      · rw [if_neg isLast]
        split
        · exact yields_throw
        · rename_i wide
          obtain ⟨rest, rfl⟩ := Nat.exists_eq_add_of_le' (Nat.le_of_not_le wide)
          rw [Nat.add_sub_cancel]
          refine (inductionHypothesis rest (by omega)).bind fun value less => yields_pure ?_
          rw [one_shiftLeft_add_seven]
          omega

theorem replicate_all {α : Type} {holds : α → Prop} {part : Decoding α} (yields : Yields holds part)
    (count : Nat) : Yields (fun parts => ∀ value ∈ parts, holds value) (replicate part count) := by
  induction count with
  | zero => exact yields_pure (by simp)
  | succ count inductionHypothesis =>
      refine yields.bind fun first isFirst => inductionHypothesis.bind fun rest isRest => ?_
      exact yields_pure (List.forall_mem_cons.2 ⟨isFirst, isRest⟩)

theorem list_all {α : Type} {holds : α → Prop} {part : Decoding α} (yields : Yields holds part) :
    Yields (fun parts => ∀ value ∈ parts, holds value) (list part) :=
  yields_bind fun count => replicate_all yields count

theorem within_gives {α : Type} {holds : α → Prop} {part : Decoding α} (yields : Yields holds part)
    (content : List UInt8) : Gives holds (within part content) := by
  refine gives_bind fun out isOut => ?_
  obtain ⟨value, rest⟩ := out
  cases rest with
  | nil => exact gives_ok (yields content _ isOut)
  | cons first rest => exact gives_error

theorem sizeRange_narrow (flags : Nat) : Yields SizeRange.Narrow (sizeRange flags) := by
  refine yields_bind fun least => ?_
  have range : ∀ limit : Option Nat, (∀ greatest ∈ limit, greatest < UInt32.size) →
      Yields SizeRange.Narrow (pure ⟨least, limit⟩ : Decoding SizeRange) :=
    fun limit less => yields_pure fun greatest isGreatest => Or.inl (less greatest isGreatest)
  simp only
  split
  · refine Yields.bind (Yields.map (unsigned_lt 32) ?_) range
    rintro _ less _ ⟨⟩
    exact less
  · exact range none nofun

theorem tableShape_narrow : Yields (fun shape => shape.size.Narrow) tableShape := by
  refine yields_bind fun element => yields_bind fun flags => yields_unless ?_
  exact (sizeRange_narrow flags).bind fun _ narrow => yields_pure narrow

theorem importItem_narrow (setting : Setting) :
    Yields (fun item => item.shape.Narrow) (importItem setting) := by
  refine yields_bind fun module => yields_bind fun name => yields_bind fun kind => ?_
  have item : ∀ shape : ImportShape, shape.Narrow →
      Yields (fun item => item.shape.Narrow) (pure ⟨module, name, shape⟩ : Decoding Import) :=
    fun shape narrow => yields_pure narrow
  simp only
  split <;> refine Yields.bind ?_ item
  · exact yields_map fun _ => trivial
  · exact tableShape_narrow.map fun _ narrow => narrow
  · exact yields_map fun _ => trivial
  · exact yields_map fun _ => trivial
  · exact yields_throw

theorem read_narrow (multiMemory : Bool) (content : List UInt8) :
    Gives Module.Narrow (read multiMemory content) := by
  unfold read
  refine gives_unless (gives_bind fun parts _ => gives_unless ?_)
  refine gives_bind fun types _ => gives_bind fun dataCount _ => gives_bind fun signatures _ =>
    gives_bind fun bodies _ => gives_unless (gives_bind fun datas _ => gives_unless ?_)
  refine gives_bind fun title _ => gives_bind fun imports isImports =>
    gives_bind fun tables isTables => gives_bind fun memories _ => gives_bind fun globals _ =>
      gives_bind fun exports _ => gives_bind fun start _ => gives_bind fun elems _ => ?_
  refine gives_ok ⟨?imports, ?tables⟩
  case imports =>
    simp only at isImports
    split at isImports
    · exact within_gives (list_all (importItem_narrow _)) _ imports isImports
    · cases isImports
      exact List.forall_mem_nil _
  case tables =>
    simp only at isTables
    split at isTables
    · exact within_gives (list_all tableShape_narrow) _ tables isTables
    · cases isTables
      exact List.forall_mem_nil _

end Binary

/-! ## The text form -/

namespace Text

theorem word?_lt {tree : Tree} {number : Nat} (isNumber : word? tree = some number) :
    number < UInt32.size := by
  unfold word? at isNumber
  split at isNumber
  · obtain ⟨value, -, isValue⟩ := Option.bind_eq_some_iff.1 isNumber
    split at isValue
    · rename_i fits
      cases isValue
      exact fits
    · contradiction
  · contradiction

theorem takeSize_narrow (items : List Tree) : Gives (fun out => out.1.Narrow) (takeSize items) := by
  unfold takeSize
  simp only
  split
  · split
    · split
      · split
        · rename_i isGreatest
          refine gives_ok ?_
          rintro _ ⟨⟩
          exact Or.inl (word?_lt isGreatest)
        · exact gives_ok nofun
      · exact gives_ok nofun
    · exact gives_error
  · exact gives_error

theorem tableShape_narrow (items : List Tree) :
    Gives (fun shape => shape.size.Narrow) (tableShape items) := by
  refine gives_bind fun out taken => ?_
  have narrow := takeSize_narrow items out taken
  split
  · exact gives_bind fun element _ => gives_ok narrow
  · exact gives_error

theorem importShape_narrow (names : Names) (kind : String) (items : List Tree) :
    Yields ImportShape.Narrow (importShape names kind items) := by
  unfold importShape
  split
  · refine yields_bind fun out => ?_
    split
    · exact yields_pure trivial
    · exact yields_throw
  · exact (yields_lift (tableShape_narrow items)).bind fun shape narrow => yields_pure narrow
  · exact yields_bind fun shape => yields_pure trivial
  · split
    · exact yields_bind fun shape => yields_pure trivial
    · exact yields_throw
  · exact yields_throw

/-- The sizes in a part of a module are narrow, as far as it has any. -/
def Part.Narrow : Part → Prop
  | .importItem item => item.shape.Narrow
  | .table shape => shape.size.Narrow
  | _ => True

def PartsNarrow (parts : List Part) : Prop := ∀ part ∈ parts, part.Narrow

theorem partsNarrow_nil : PartsNarrow [] := List.forall_mem_nil _

theorem PartsNarrow.cons {part : Part} {rest : List Part} (narrow : part.Narrow)
    (restNarrow : PartsNarrow rest) : PartsNarrow (part :: rest) :=
  List.forall_mem_cons.2 ⟨narrow, restNarrow⟩

theorem partsNarrow_singleton {part : Part} (narrow : part.Narrow) : PartsNarrow [part] :=
  .cons narrow partsNarrow_nil

theorem PartsNarrow.append {parts others : List Part} (narrow : PartsNarrow parts)
    (alsoNarrow : PartsNarrow others) : PartsNarrow (parts ++ others) :=
  List.forall_mem_append.2 ⟨narrow, alsoNarrow⟩

/-- Exports have no sizes. -/
theorem headerParts_narrow (header : Header) (target : ExportTarget) :
    PartsNarrow (header.parts target) := by
  intro part member
  obtain ⟨name, -, rfl⟩ := List.mem_map.1 member
  trivial

/-- A table that is filled where it is written has as many elements as there are. -/
theorem tableParts_narrow (names : Names) (index : Nat) (items : List Tree) :
    Yields PartsNarrow (tableParts names index items) := by
  have filled : ∀ type count segment,
      PartsNarrow [.table ⟨type, ⟨count, some count⟩⟩, .elem segment] := by
    intro type count segment
    refine .cons ?_ (partsNarrow_singleton trivial)
    rintro _ ⟨⟩
    exact Or.inr rfl
  unfold tableParts
  split
  · refine yields_bind fun type => ?_
    simp only
    split
    · exact yields_bind fun items => yields_pure (filled _ _ _)
    · exact yields_bind fun items => yields_pure (filled _ _ _)
  · refine (yields_lift (tableShape_narrow _)).bind fun shape narrow => yields_pure ?_
    exact .cons narrow partsNarrow_nil

theorem memoryParts_narrow (index : Nat) (items : List Tree) :
    Gives PartsNarrow (memoryParts index items) := by
  unfold memoryParts
  split
  · exact gives_bind fun bytes _ => gives_ok (.cons trivial (partsNarrow_singleton trivial))
  · exact gives_bind fun shape _ => gives_ok (partsNarrow_singleton trivial)

theorem definition_narrow (names : Names) (kind : String) (index : Nat) (items : List Tree) :
    Yields PartsNarrow (definition names kind index items) := by
  unfold definition
  refine yields_bind fun taken => ?_
  simp only
  split
  · exact (importShape_narrow names kind taken.2).bind fun shape narrow =>
      yields_pure (.cons narrow (headerParts_narrow _ _))
  · have exported : ∀ parts, PartsNarrow parts → Yields PartsNarrow
        (pure (parts ++ taken.1.parts (definition.target index kind)) : Elaborating _) :=
      fun parts narrow => yields_pure (narrow.append (headerParts_narrow _ _))
    split
    · exact yields_bind fun func => exported [.func func] (partsNarrow_singleton trivial)
    · exact (tableParts_narrow names index _).bind exported
    · exact (yields_lift (memoryParts_narrow index _)).bind exported
    · exact yields_bind fun item => exported [.global item] (partsNarrow_singleton trivial)

theorem fieldParts_narrow (names done : Names) (field : Tree) :
    Yields PartsNarrow (fieldParts names done field) := by
  unfold fieldParts
  split
  · split
    · exact yields_pure partsNarrow_nil
    · split
      · refine yields_bind fun module => yields_bind fun name => ?_
        exact (importShape_narrow names _ _).bind fun shape narrow =>
          yields_pure (.cons narrow partsNarrow_nil)
      · exact yields_throw
    · exact definition_narrow names _ _ _
    · exact definition_narrow names _ _ _
    · exact definition_narrow names _ _ _
    · exact definition_narrow names _ _ _
    · split
      · exact yields_bind fun name => yields_bind fun target =>
          yields_pure (partsNarrow_singleton trivial)
      · exact yields_throw
    · split
      · exact yields_bind fun func => yields_pure (partsNarrow_singleton trivial)
      · exact yields_throw
    · exact yields_bind fun segment => yields_pure (partsNarrow_singleton trivial)
    · exact yields_bind fun segment => yields_pure (partsNarrow_singleton trivial)
    · exact yields_throw
  · exact yields_throw

theorem fieldsParts_narrow (names done : Names) (fields : List Tree) :
    Yields PartsNarrow (fieldsParts names done fields) := by
  induction fields generalizing done with
  | nil => exact yields_pure partsNarrow_nil
  | cons field rest inductionHypothesis =>
      refine (fieldParts_narrow names done field).bind fun parts narrow => ?_
      exact (inductionHypothesis (done.add field)).bind fun others alsoNarrow =>
        yields_pure (narrow.append alsoNarrow)

theorem moduleOf_narrow (name : Option String) (types : List FuncType) {parts : List Part}
    (narrow : PartsNarrow parts) : (moduleOf name types parts).Narrow := by
  constructor
  · intro item member
    obtain ⟨part, isPart, isItem⟩ := List.mem_filterMap.1 member
    cases part <;> cases isItem
    exact narrow _ isPart
  · intro shape member
    obtain ⟨part, isPart, isShape⟩ := List.mem_filterMap.1 member
    cases part <;> cases isShape
    exact narrow _ isPart

theorem moduleOfFields_narrow (name : Option String) (fields : List Tree) :
    Gives Module.Narrow (moduleOfFields name fields) := by
  unfold moduleOfFields
  refine gives_bind fun _ _ => gives_unless (gives_unless (gives_bind fun declared _ => ?_))
  refine gives_bind fun types _ => gives_bind fun out read => ?_
  exact gives_ok (moduleOf_narrow name _ (fieldsParts_narrow _ _ _ _ out read))

/-- A text that is bytes in the binary form is not read yet. -/
def Written.Narrow : Written → Prop
  | .module found => found.Narrow
  | .binary _ => True

theorem read_narrow (chars : List Char) : Gives Written.Narrow (read chars) := by
  have fieldsNarrow : ∀ name fields, Gives Written.Narrow
      (moduleOfFields name fields >>= fun module => pure (.module module)) := fun name fields =>
    gives_bind fun module isRead => gives_ok (moduleOfFields_narrow name fields module isRead)
  unfold read
  refine gives_bind fun tokens _ => gives_bind fun trees _ => ?_
  split
  · exact gives_error
  · refine gives_unless ?_
    simp only
    split
    · exact gives_bind fun bytes _ => gives_ok trivial
    · exact fieldsNarrow _ _
  · exact fieldsNarrow none _

end Text

/-! ## Modules from bytes -/

namespace Module

theorem narrow_of_ofBinary {features : Features} {content : List UInt8} {module : Module}
    (isRead : ofBinary features content = .ok module) : module.Narrow := by
  obtain ⟨found, isFound, rest⟩ := bind_eq_ok_iff.1 isRead
  obtain ⟨_, -, same⟩ := bind_eq_ok_iff.1 rest
  cases same
  exact Binary.read_narrow _ _ _ isFound

theorem narrow_of_ofBytes {features : Features} {content : List UInt8} {module : Module}
    (isRead : ofBytes features content = .ok module) : module.Narrow := by
  unfold ofBytes at isRead
  split at isRead
  · exact narrow_of_ofBinary isRead
  · split at isRead
    · contradiction
    · obtain ⟨form, isForm, rest⟩ := bind_eq_ok_iff.1 isRead
      have narrow := Text.read_narrow _ _ isForm
      cases form with
      | binary content => exact narrow_of_ofBinary rest
      | module found =>
          obtain ⟨_, -, same⟩ := bind_eq_ok_iff.1 rest
          cases same
          exact narrow

end Module

/-! ## Sizes of 64 bits -/

/-- The sizes are numbers of 64 bits. -/
structure SizeRange.Fits (size : SizeRange) : Prop where
  least : size.least < UInt64.size
  greatest : ∀ greatest ∈ size.greatest, greatest < UInt64.size

def ImportShape.Fits : ImportShape → Prop
  | .memory shape => shape.size.Fits
  | .table shape => shape.size.Fits
  | _ => True

/-- All sizes that a module declares are numbers of 64 bits. -/
structure Module.Fits (module : Module) : Prop where
  imports : ∀ item ∈ module.imports, item.shape.Fits
  tables : ∀ shape ∈ module.tables, shape.size.Fits
  memories : ∀ shape ∈ module.memories, shape.size.Fits

namespace Module

theorem fits_of_checkMemory {features : Features} {shape : MemoryShape}
    (checked : checkMemory features shape = .ok ()) : shape.size.Fits := by
  simp only [checkMemory, checkSize, bind_eq_ok_iff, require_eq_ok_iff, exists_const,
    Bool.and_eq_true, decide_eq_true_eq, Option.all_eq_true] at checked
  obtain ⟨-, ⟨least, greatest⟩, -⟩ := checked
  have small : maxPages < UInt64.size := by decide
  exact ⟨by omega, fun pages isGreatest => Nat.lt_of_le_of_lt (greatest pages isGreatest) small⟩

theorem fits_of_checkTable {features : Features} {shape : TableShape}
    (checked : checkTable features shape = .ok ()) (narrow : shape.size.Narrow) :
    shape.size.Fits := by
  have addressed := (orderly_of_checkTable checked).addressed
  have small : 10000000 < UInt64.size := by decide
  have wider : UInt32.size < UInt64.size := by decide
  refine ⟨by omega, fun greatest isGreatest => ?_⟩
  rcases narrow greatest isGreatest with less | isLeast
  · omega
  · omega

theorem fits_of_checkImport {features : Features} {item : Import}
    (checked : checkImport features item = .ok ()) (narrow : item.shape.Narrow) :
    item.shape.Fits := by
  unfold checkImport at checked
  cases shape : item.shape with
  | memory declared =>
      rw [shape] at checked
      exact fits_of_checkMemory checked
  | table declared =>
      rw [shape] at checked narrow
      exact fits_of_checkTable checked narrow
  | func type => trivial
  | global declared => trivial

theorem Valid.fits {module : Module} (valid : module.Valid) (narrow : module.Narrow) :
    module.Fits := by
  obtain ⟨features, checked⟩ := valid
  simp only [check, bind_eq_ok_iff, forM_eq_ok_iff, require_eq_ok_iff, exists_const] at checked
  obtain ⟨-, imports, tables, memories, -⟩ := checked
  exact
    { imports := fun item member => fits_of_checkImport (imports item member)
        (narrow.imports item member)
      tables := fun shape member => fits_of_checkTable (tables shape member)
        (narrow.tables shape member)
      memories := fun shape member => fits_of_checkMemory (memories shape member) }

/-- No size of a module that is accepted is lost where it is taken for a number of 64 bits. -/
theorem fits_of_ofBytes {features : Features} {content : List UInt8} {module : Module}
    (isRead : ofBytes features content = .ok module) : module.Fits :=
  (valid_of_ofBytes isRead).fits (narrow_of_ofBytes isRead)

end Module

end WasmSandbox.Wasm
