import WasmSandbox.Proofs.Boundary.Shown
import WasmSandbox.Proofs.Engine.Reading

/-!
Contract: which modules can show themselves, and what they show.

Owns:
- the types that cross the boundary, and for every other type what is in its way;
- types of the boundary as types of the engine: nothing is lost when a type crosses;
- that a valid module shows all its imports and exports in order, or is refused: for the first
  of its imports that cannot cross, or else for the first of its exports.

Memories of the engine have addresses of 32 bits, so what is in the way of a memory is that it
is shared.  Sizes cross as numbers of 64 bits, which they are in every module that is read.

Does not own: when a module is compiled.
-/

namespace WasmSandbox

open Wasm

/-! ## The first item that is not fine -/

section

variable {α β ε : Type} {fine : α → Prop} {blame : α → ε → Prop}

/-- Among the items one is blamed with the failure, and all items before it are fine. -/
def FirstOffender (fine : α → Prop) (blame : α → ε → Prop) (items : List α) (failure : ε) : Prop :=
  ∃ before item rest, items = before ++ item :: rest ∧ (∀ earlier ∈ before, fine earlier) ∧
    blame item failure

theorem FirstOffender.exists_blamed {items : List α} {failure : ε}
    (first : FirstOffender fine blame items failure) : ∃ item ∈ items, blame item failure := by
  obtain ⟨before, item, rest, rfl, -, isBlamed⟩ := first
  exact ⟨item, by simp, isBlamed⟩

theorem firstOffender_cons_iff {item : α} {items : List α} {failure : ε} :
    FirstOffender fine blame (item :: items) failure ↔
      blame item failure ∨ fine item ∧ FirstOffender fine blame items failure := by
  constructor
  · rintro ⟨before, other, rest, split, isFine, isBlamed⟩
    cases before with
    | nil =>
        obtain ⟨rfl, -⟩ := List.cons.inj split
        exact .inl isBlamed
    | cons first before =>
        obtain ⟨rfl, rfl⟩ := List.cons.inj split
        rw [List.forall_mem_cons] at isFine
        exact .inr ⟨isFine.1, before, other, rest, rfl, isFine.2, isBlamed⟩
  · rintro (isBlamed | ⟨isFine, before, other, rest, rfl, areFine, isBlamed⟩)
    · exact ⟨[], item, items, rfl, by simp, isBlamed⟩
    · exact ⟨item :: before, other, rest, rfl, List.forall_mem_cons.2 ⟨isFine, areFine⟩, isBlamed⟩

/-- A walk over a list, of which each step shows something fine or puts blame, shows something
for all elements, or puts the blame on the first that is not fine. -/
theorem mapM_cases {walk : α → Except ε β} {shows : α → β → Prop} {items : List α}
    (steps : ∀ item ∈ items, (∃ result, walk item = .ok result ∧ fine item ∧ shows item result) ∨
      ∃ failure, walk item = .error failure ∧ blame item failure) :
    (∃ results, items.mapM walk = .ok results ∧ (∀ item ∈ items, fine item) ∧
        List.Forall₂ shows items results) ∨
      ∃ failure, items.mapM walk = .error failure ∧ FirstOffender fine blame items failure := by
  induction items with
  | nil => exact .inl ⟨[], rfl, by simp, .nil⟩
  | cons item rest inductionHypothesis =>
      rw [List.forall_mem_cons] at steps
      rw [List.mapM_cons]
      rcases steps.1 with ⟨result, isOk, isFine, isShown⟩ | ⟨failure, isError, isBlamed⟩
      · rw [isOk]
        rcases inductionHypothesis steps.2 with
          ⟨results, areOk, areFine, areShown⟩ | ⟨failure, isError, first⟩
        · rw [areOk]
          exact .inl ⟨result :: results, rfl, List.forall_mem_cons.2 ⟨isFine, areFine⟩,
            .cons isShown areShown⟩
        · rw [isError]
          exact .inr ⟨failure, rfl, firstOffender_cons_iff.2 (.inr ⟨isFine, first⟩)⟩
      · rw [isError]
        exact .inr ⟨failure, rfl, firstOffender_cons_iff.2 (.inl isBlamed)⟩

end

/-! ## Types that cross -/

/-- Numbers and references to functions cross. -/
def Wasm.ValType.Crosses (type : ValType) : Prop :=
  type ∈ [ValType.i32, .i64, .f32, .f64, .funcRef]

instance (type : ValType) : Decidable type.Crosses :=
  inferInstanceAs (Decidable (type ∈ _))

/-- Functions cross whose parameters and results do, memories that are not shared, tables of
functions, and globals whose content does. -/
def Wasm.ImportShape.Crosses : ImportShape → Prop
  | .func type => ∀ value ∈ type.params ++ type.results, value.Crosses
  | .memory shape => shape.shared = false
  | .table shape => shape.element = .funcRef
  | .global shape => shape.content.Crosses

/-- What is in the way of a type that does not cross, for a function the first parameter or
result. -/
inductive Obstacle : ImportShape → String → Prop where
  | value {type : FuncType} {before : List ValType} {value : ValType} {rest : List ValType}
      (split : type.params ++ type.results = before ++ value :: rest)
      (earlier : ∀ other ∈ before, other.Crosses) (stays : ¬value.Crosses) :
      Obstacle (.func type) ("value type " ++ value.text ++ " cannot cross the boundary")
  | shared {shape : MemoryShape} (isShared : shape.shared = true) :
      Obstacle (.memory shape) "shared memories are not supported"
  | element {shape : TableShape} (other : shape.element ≠ .funcRef) :
      Obstacle (.table shape) ("table element type " ++ shape.element.text ++ " is not supported")
  | content {shape : GlobalShape} (stays : ¬shape.content.Crosses) :
      Obstacle (.global shape)
        ("global type " ++ shape.content.text ++ " cannot cross the boundary")

/-- What crosses has nothing in its way. -/
theorem Obstacle.not_crosses {shape : ImportShape} {reason : String}
    (obstacle : Obstacle shape reason) : ¬shape.Crosses := by
  intro crosses
  cases obstacle with
  | value split _ stays => exact stays (crosses _ (by simp [split]))
  | shared isShared => exact Bool.false_ne_true (crosses.symm.trans isShared)
  | element other => exact other crosses
  | content stays => exact stays crosses

/-! ## Types of the boundary as types of the engine -/

def Limits.guest (limits : Limits) : SizeRange :=
  ⟨limits.minimum.toNat, limits.maximum.map UInt64.toNat⟩

/-- The type of the engine that a type of the boundary describes. -/
def ItemType.guest : ItemType → ImportShape
  | .func signature => .func signature.guest
  | .memory type => .memory ⟨type.limits.guest, false⟩
  | .table type => .table ⟨type.element.guest, type.limits.guest⟩
  | .global type => .global ⟨type.content.guest, type.mutable⟩

/-- Sizes of 64 bits are not changed on the way. -/
theorem Limits.guest_ofGuest {size : SizeRange} (fits : size.Fits) :
    (Limits.ofGuest size).guest = size := by
  obtain ⟨least, greatest⟩ := size
  have leastSame : (UInt64.ofNat least).toNat = least := by
    rw [UInt64.toNat_ofNat']
    exact Nat.mod_eq_of_lt fits.least
  rw [ofGuest, guest, leastSame]
  cases greatest with
  | none => rfl
  | some greatest =>
      have greatestSame : (UInt64.ofNat greatest).toNat = greatest := by
        rw [UInt64.toNat_ofNat']
        exact Nat.mod_eq_of_lt (fits.greatest greatest rfl)
      rw [Option.map_some, Option.map_some, greatestSame]

namespace ValueKind

theorem crosses_iff (type : ValType) : type.Crosses ↔ ∃ kind, ofGuest? type = some kind := by
  cases type <;> simp [ValType.Crosses, ofGuest?]

/-- The kind of a guest type, or why it has none. -/
def crossing (type : ValType) : Except String ValueKind :=
  match ofGuest? type with
  | some kind => .ok kind
  | none => .error ("value type " ++ type.text ++ " cannot cross the boundary")

theorem listOfGuest_eq_mapM (types : List ValType) : listOfGuest types = types.mapM crossing := by
  induction types with
  | nil => rfl
  | cons type types inductionHypothesis =>
      rw [List.mapM_cons, ← inductionHypothesis, listOfGuest, crossing]
      cases ofGuest? type <;> rfl

theorem crossing_cases (type : ValType) :
    (∃ kind, crossing type = .ok kind ∧ type.Crosses ∧ type = kind.guest) ∨
      ∃ reason, crossing type = .error reason ∧ ¬type.Crosses ∧
        reason = "value type " ++ type.text ++ " cannot cross the boundary" := by
  rw [crosses_iff, crossing]
  cases kind : ofGuest? type with
  | some found => exact .inl ⟨found, rfl, ⟨found, rfl⟩, (ofGuest?_eq_some_iff _ _).1 kind⟩
  | none => exact .inr ⟨_, rfl, by simp, rfl⟩

end ValueKind

/-- Parameters are looked at before results. -/
theorem Signature.obstacle_of_ofGuest {type : FuncType} {reason : String}
    (fails : ofGuest type = .error reason) : Obstacle (.func type) reason := by
  have joined : (type.params ++ type.results).mapM ValueKind.crossing = .error reason := by
    rw [ofGuest, ValueKind.listOfGuest_eq_mapM, ValueKind.listOfGuest_eq_mapM] at fails
    rw [List.mapM_append]
    cases params : type.params.mapM ValueKind.crossing with
    | error found =>
        rw [params] at fails
        cases fails
        rfl
    | ok kinds =>
        cases results : type.results.mapM ValueKind.crossing with
        | error found =>
            rw [params, results] at fails
            cases fails
            rfl
        | ok others =>
            rw [params, results] at fails
            contradiction
  rcases mapM_cases fun type _ => ValueKind.crossing_cases type with
    ⟨kinds, areOk, -⟩ | ⟨_, isError, before, value, rest, split, earlier, stays, rfl⟩
  · rw [joined] at areOk
    contradiction
  · rw [joined] at isError
    obtain rfl := Except.error.inj isError
    exact .value split earlier stays

theorem Signature.guest_crosses (signature : Signature) :
    (ImportShape.func signature.guest).Crosses := by
  intro value member
  rw [Signature.guest, ← List.map_append] at member
  obtain ⟨kind, -, rfl⟩ := List.mem_map.1 member
  exact (ValueKind.crosses_iff _).2 ⟨kind, (ValueKind.ofGuest?_eq_some_iff _ _).2 rfl⟩

namespace ItemType

/-- A type crosses and is shown as what it is, or something is in its way. -/
theorem ofGuest_cases (shape : ImportShape) :
    (∃ type, ofGuest shape = .ok type ∧ shape.Crosses ∧ (shape.Fits → type.guest = shape)) ∨
      ∃ reason, ofGuest shape = .error reason ∧ Obstacle shape reason := by
  cases shape with
  | func type =>
      cases read : Signature.ofGuest type with
      | error reason =>
          exact .inr ⟨reason, by rw [ofGuest, read]; rfl, Signature.obstacle_of_ofGuest read⟩
      | ok signature =>
          obtain rfl := (Signature.ofGuest_eq_ok_iff _ _).1 read
          exact .inl ⟨.func signature, by rw [ofGuest, read]; rfl, signature.guest_crosses,
            fun _ => rfl⟩
  | memory shape =>
      obtain ⟨size, shared⟩ := shape
      cases shared with
      | true => exact .inr ⟨_, rfl, .shared rfl⟩
      | false =>
          refine .inl ⟨.memory ⟨.ofGuest size⟩, rfl, rfl, fun fits => ?_⟩
          rw [ItemType.guest, Limits.guest_ofGuest fits]
  | table shape =>
      obtain ⟨element, size⟩ := shape
      by_cases isFunc : element = .funcRef
      · obtain rfl := isFunc
        refine .inl ⟨.table ⟨.funcRef, .ofGuest size⟩, rfl, rfl, fun fits => ?_⟩
        rw [ItemType.guest, Limits.guest_ofGuest fits]
        rfl
      · have refused : TableType.ofGuest ⟨element, size⟩ =
            .error ("table element type " ++ element.text ++ " is not supported") := by
          unfold TableType.ofGuest
          split
          · rename_i isKind
            exact absurd ((ValueKind.ofGuest?_eq_some_iff _ _).1 isKind) isFunc
          · rfl
        exact .inr ⟨_, by rw [ofGuest, refused]; rfl, .element isFunc⟩
  | global shape =>
      obtain ⟨content, isMutable⟩ := shape
      cases kind : ValueKind.ofGuest? content with
      | some found =>
          obtain rfl := (ValueKind.ofGuest?_eq_some_iff _ _).1 kind
          refine .inl ⟨.global ⟨found, isMutable⟩, ?_, (ValueKind.crosses_iff _).2 ⟨found, kind⟩,
            fun _ => rfl⟩
          simp only [ofGuest, GlobalType.ofGuest, kind]
          rfl
      | none =>
          refine .inr ⟨_, ?_, .content ?_⟩
          · simp only [ofGuest, GlobalType.ofGuest, kind]
            rfl
          · rw [ValueKind.crosses_iff, kind]
            simp

end ItemType

/-! ## Items of a module -/

/-- An import cannot cross, and what is in its way is said with its names. -/
def ImportStays (item : Import) (error : CompileError) : Prop :=
  ¬item.shape.Crosses ∧ ∃ reason, Obstacle item.shape reason ∧
    error = .unsupported ("import `" ++ item.module ++ "::" ++ item.name ++ "`") reason

/-- The item that is exported can cross. -/
def Wasm.Module.CanShow (module : Module) (item : Export) : Prop :=
  ∃ shape, module.exportShape? item.target = some shape ∧ shape.Crosses

/-- An export cannot cross, and what is in its way is said with its name. -/
def ExportStays (module : Module) (item : Export) (error : CompileError) : Prop :=
  ¬module.CanShow item ∧ ∃ shape reason, module.exportShape? item.target = some shape ∧
    Obstacle shape reason ∧ error = .unsupported ("export `" ++ item.name ++ "`") reason

/-- The declaration of an import has its names and its type. -/
def DeclaresImport (item : Import) (declared : ImportDecl) : Prop :=
  declared.module = item.module ∧ declared.name = item.name ∧ declared.type.guest = item.shape

/-- The declaration of an export has its name, and the type of the item that it stands for. -/
def DeclaresExport (module : Module) (item : Export) (declared : ExportDecl) : Prop :=
  declared.name = item.name ∧ module.exportShape? item.target = some declared.type.guest

theorem Surface.ofImport_cases {item : Import} (fits : item.shape.Fits) :
    (∃ declared, ofImport item = .ok declared ∧ item.shape.Crosses ∧
        DeclaresImport item declared) ∨
      ∃ error, ofImport item = .error error ∧ ImportStays item error := by
  unfold ofImport
  rcases ItemType.ofGuest_cases item.shape with
    ⟨type, read, crosses, same⟩ | ⟨reason, read, obstacle⟩
  · rw [read]
    exact .inl ⟨_, rfl, crosses, rfl, rfl, same fits⟩
  · rw [read]
    exact .inr ⟨_, rfl, obstacle.not_crosses, reason, obstacle, rfl⟩

theorem Surface.ofExport_cases {module : Module} {item : Export} {shape : ImportShape}
    (isShape : module.exportShape? item.target = some shape) (fits : shape.Fits) :
    (∃ declared, ofExport module item = .ok declared ∧ module.CanShow item ∧
        DeclaresExport module item declared) ∨
      ∃ error, ofExport module item = .error error ∧ ExportStays module item error := by
  unfold ofExport
  rcases ItemType.ofGuest_cases shape with ⟨type, read, crosses, same⟩ | ⟨reason, read, obstacle⟩
  · simp only [isShape, read]
    exact .inl ⟨_, rfl, ⟨shape, isShape, crosses⟩, rfl, by rw [same fits, isShape]⟩
  · simp only [isShape, read]
    refine .inr ⟨_, rfl, ?_, shape, reason, isShape, obstacle, rfl⟩
    rintro ⟨other, isOther, crosses⟩
    obtain rfl := Option.some.inj (isShape.symm.trans isOther)
    exact obstacle.not_crosses crosses

/-! ## Exports of a valid module -/

namespace Wasm.Module

variable {module : Module}

theorem exists_of_entry {α : Type} {space : List α} {index : Nat} {name : String}
    (checked : (entry space.toArray index name >>= fun _ => pure ()) = .ok ()) :
    ∃ value, space[index]? = some value := by
  obtain ⟨value, isEntry, -⟩ := bind_eq_ok_iff.1 checked
  unfold entry at isEntry
  split at isEntry
  · rename_i found
    exact ⟨_, List.getElem?_toArray.symm.trans found⟩
  · contradiction

/-- A checked export is one of an item that the module has. -/
theorem exportShape?_of_checkExport {features : Features} {item : Export}
    (checked : checkExport (module.scope features) item = .ok ()) :
    ∃ shape, module.exportShape? item.target = some shape := by
  unfold checkExport at checked
  unfold exportShape?
  cases target : item.target with
  | func index =>
      rw [target] at checked
      obtain ⟨type, found⟩ := exists_of_entry checked
      exact ⟨.func type, by simp only [found, Option.map_some]⟩
  | table index =>
      rw [target] at checked
      obtain ⟨shape, found⟩ := exists_of_entry checked
      exact ⟨.table shape, by simp only [found, Option.map_some]⟩
  | memory index =>
      rw [target] at checked
      obtain ⟨shape, found⟩ := exists_of_entry checked
      exact ⟨.memory shape, by simp only [found, Option.map_some]⟩
  | global index =>
      rw [target] at checked
      obtain ⟨shape, found⟩ := exists_of_entry checked
      exact ⟨.global shape, by simp only [found, Option.map_some]⟩

/-- A valid module has the items that it exports. -/
theorem Valid.exportShape? (valid : module.Valid) {item : Export}
    (member : item ∈ module.exports) : ∃ shape, module.exportShape? item.target = some shape := by
  obtain ⟨features, checked⟩ := valid
  simp only [check, bind_eq_ok_iff, forM_eq_ok_iff, require_eq_ok_iff, exists_const] at checked
  obtain ⟨-, -, -, -, -, -, -, -, exports, -⟩ := checked
  exact exportShape?_of_checkExport (exports item member)

theorem exists_import_of_table {shape : TableShape} (member : shape ∈ module.importedTables) :
    ∃ item ∈ module.imports, item.shape = .table shape := by
  obtain ⟨item, isImport, isTable⟩ := List.mem_filterMap.1 member
  split at isTable
  · rename_i isShape
    cases isTable
    exact ⟨item, isImport, isShape⟩
  · contradiction

theorem exists_import_of_memory {shape : MemoryShape} (member : shape ∈ module.importedMemories) :
    ∃ item ∈ module.imports, item.shape = .memory shape := by
  obtain ⟨item, isImport, isMemory⟩ := List.mem_filterMap.1 member
  split at isMemory
  · rename_i isShape
    cases isMemory
    exact ⟨item, isImport, isShape⟩
  · contradiction

/-- An item that is exported has sizes that the module declares. -/
theorem Fits.exportShape (fits : module.Fits) {target : ExportTarget} {shape : ImportShape}
    (isShape : module.exportShape? target = some shape) : shape.Fits := by
  cases target with
  | func index =>
      obtain ⟨type, -, rfl⟩ := Option.map_eq_some_iff.1 isShape
      trivial
  | global index =>
      obtain ⟨declared, -, rfl⟩ := Option.map_eq_some_iff.1 isShape
      trivial
  | table index =>
      obtain ⟨declared, found, rfl⟩ := Option.map_eq_some_iff.1 isShape
      rcases List.mem_append.1 (List.mem_of_getElem? found) with imported | defined
      · obtain ⟨item, isImport, sameShape⟩ := exists_import_of_table imported
        rw [← sameShape]
        exact fits.imports item isImport
      · exact fits.tables declared defined
  | memory index =>
      obtain ⟨declared, found, rfl⟩ := Option.map_eq_some_iff.1 isShape
      rcases List.mem_append.1 (List.mem_of_getElem? found) with imported | defined
      · obtain ⟨item, isImport, sameShape⟩ := exists_import_of_memory imported
        rw [← sameShape]
        exact fits.imports item isImport
      · exact fits.memories declared defined

end Wasm.Module

/-! ## Surfaces -/

/-- What comes of the items of a module: a surface that lists all of them, or the failure of
the first that cannot cross, imports before exports. -/
inductive Surface.Extraction (module : Module) : Except CompileError Surface → Prop where
  | complete (surface : Surface) (importsCross : ∀ item ∈ module.imports, item.shape.Crosses)
      (exportsCross : ∀ item ∈ module.exports, module.CanShow item)
      (imports : List.Forall₂ DeclaresImport module.imports surface.imports)
      (exports : List.Forall₂ (DeclaresExport module) module.exports surface.exports) :
      Extraction module (.ok surface)
  | importStays (error : CompileError)
      (first : FirstOffender (fun item => item.shape.Crosses) ImportStays module.imports error) :
      Extraction module (.error error)
  | exportStays (error : CompileError)
      (importsCross : ∀ item ∈ module.imports, item.shape.Crosses)
      (first : FirstOffender module.CanShow (ExportStays module) module.exports error) :
      Extraction module (.error error)

theorem Surface.ofModule_extraction {module : Module} (valid : module.Valid)
    (fits : module.Fits) : Extraction module (ofModule module) := by
  have imports := mapM_cases fun item member => ofImport_cases (fits.imports item member)
  have exports := mapM_cases fun item (member : item ∈ module.exports) => by
    obtain ⟨shape, isShape⟩ := valid.exportShape? member
    exact ofExport_cases isShape (fits.exportShape isShape)
  unfold ofModule
  rcases imports with ⟨declareds, areOk, importsCross, importsShown⟩ | ⟨error, isError, first⟩
  · rw [areOk]
    rcases exports with ⟨others, areOk, exportsCross, exportsShown⟩ | ⟨error, isError, first⟩
    · rw [areOk]
      exact .complete ⟨declareds, others⟩ importsCross exportsCross importsShown exportsShown
    · rw [isError]
      exact .exportStays error importsCross first
  · rw [isError]
    exact .importStays error first

end WasmSandbox
