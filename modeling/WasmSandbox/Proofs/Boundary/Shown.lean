import Mathlib.Data.List.Forall2
import WasmSandbox.Environment
import WasmSandbox.Proofs.Boundary.Fit

/-!
Contract: what the surface of a module says about the module.

Owns:
- declared imports and exports, one for each of the module and in the same order;
- function types behind declarations: a declaration with a signature is that of a
  function of its guest type.

Does not own: memories, tables and globals.
-/

namespace WasmSandbox

open Wasm

/-- A walk over a list succeeds exactly when it does at each element. -/
theorem mapM_eq_ok_iff {ε α β : Type} (walk : α → Except ε β) (items : List α)
    (results : List β) :
    items.mapM walk = .ok results ↔
      List.Forall₂ (fun item result => walk item = .ok result) items results := by
  induction items generalizing results with
  | nil =>
      rw [List.mapM_nil, List.forall₂_nil_left_iff]
      constructor
      · intro same
        exact (Except.ok.inj same).symm
      · rintro rfl
        rfl
  | cons item rest inductionHypothesis =>
      rw [List.mapM_cons, List.forall₂_cons_left_iff]
      cases first : walk item with
      | error failure => simp [bind, Except.bind]
      | ok result =>
          cases more : rest.mapM walk with
          | error failure =>
              have noMore : ∀ others, ¬List.Forall₂ (fun item result => walk item = .ok result)
                  rest others := by
                intro others all
                rw [(inductionHypothesis others).2 all] at more
                contradiction
              simp [bind, Except.bind, noMore]
          | ok others =>
              have all := (inductionHypothesis others).1 more
              simp only [bind, Except.bind, pure, Except.pure, Except.ok.injEq]
              constructor
              · rintro rfl
                exact ⟨result, others, rfl, all, rfl⟩
              · rintro ⟨found, founds, rfl, allFound, rfl⟩
                have same := (inductionHypothesis founds).2 allFound
                rw [more, Except.ok.injEq] at same
                rw [same]

namespace ItemType

/-- An item of a module is shown with a signature exactly when it is a function of the
guest type of that signature. -/
theorem ofGuest_eq_ok_func_iff (shape : ImportShape) (signature : Signature) :
    ofGuest shape = .ok (.func signature) ↔ shape = .func signature.guest := by
  cases shape with
  | func type =>
      rw [ImportShape.func.injEq, ← Signature.ofGuest_eq_ok_iff]
      cases read : Signature.ofGuest type <;>
        simp [ofGuest, read, bind, Except.bind, pure, Except.pure]
  | memory shape =>
      cases read : MemoryType.ofGuest shape <;>
        simp [ofGuest, read, bind, Except.bind, pure, Except.pure]
  | table shape =>
      cases read : TableType.ofGuest shape <;>
        simp [ofGuest, read, bind, Except.bind, pure, Except.pure]
  | global shape =>
      cases read : GlobalType.ofGuest shape <;>
        simp [ofGuest, read, bind, Except.bind, pure, Except.pure]

/-- A function of a module is shown as a function. -/
theorem ofGuest_func {type : FuncType} {shown : ItemType}
    (read : ofGuest (.func type) = .ok shown) : ∃ signature, shown = .func signature := by
  simp only [ofGuest, bind, Except.bind] at read
  split at read
  · contradiction
  · exact ⟨_, (Except.ok.inj read).symm⟩

end ItemType

namespace Surface

theorem ofImport_eq_ok_iff (item : Import) (declared : ImportDecl) :
    ofImport item = .ok declared ↔ declared.module = item.module ∧ declared.name = item.name ∧
      ItemType.ofGuest item.shape = .ok declared.type := by
  obtain ⟨module, name, type⟩ := declared
  unfold ofImport
  cases ItemType.ofGuest item.shape with
  | error reason => simp
  | ok shown =>
      simp only [Except.ok.injEq, ImportDecl.mk.injEq]
      constructor
      · rintro ⟨rfl, rfl, rfl⟩
        exact ⟨rfl, rfl, rfl⟩
      · rintro ⟨rfl, rfl, rfl⟩
        exact ⟨rfl, rfl, rfl⟩

theorem ofExport_eq_ok_iff (module : Module) (item : Export) (declared : ExportDecl) :
    ofExport module item = .ok declared ↔ declared.name = item.name ∧
      ∃ shape, module.exportShape? item.target = some shape ∧
        ItemType.ofGuest shape = .ok declared.type := by
  obtain ⟨name, type⟩ := declared
  unfold ofExport
  cases module.exportShape? item.target with
  | none => simp
  | some shape =>
      simp only [Option.some.injEq, exists_eq_left']
      cases ItemType.ofGuest shape with
      | error reason => simp
      | ok shown =>
          simp only [Except.ok.injEq, ExportDecl.mk.injEq]
          constructor
          · rintro ⟨rfl, rfl⟩
            exact ⟨rfl, rfl⟩
          · rintro ⟨rfl, rfl⟩
            exact ⟨rfl, rfl⟩

end Surface

namespace Artifact

variable (artifact : Artifact)

private theorem ofModule_parts :
    artifact.module.imports.mapM Surface.ofImport = .ok artifact.imports ∧
      artifact.module.exports.mapM (Surface.ofExport artifact.module) = .ok artifact.exports := by
  have described := artifact.surface_eq
  unfold Surface.ofModule at described
  unfold imports exports
  cases shownImports : artifact.module.imports.mapM Surface.ofImport with
  | error failure =>
      rw [shownImports] at described
      contradiction
  | ok imports =>
      cases shownExports : artifact.module.exports.mapM (Surface.ofExport artifact.module) with
      | error failure =>
          rw [shownImports, shownExports] at described
          contradiction
      | ok exports =>
          rw [shownImports, shownExports] at described
          rw [← Except.ok.inj described]
          exact ⟨rfl, rfl⟩

/-- Declared imports are those of the module, in order. -/
theorem imports_forall₂ :
    List.Forall₂ (fun item declared => Surface.ofImport item = .ok declared)
      artifact.module.imports artifact.imports :=
  (mapM_eq_ok_iff _ _ _).1 (ofModule_parts artifact).1

/-- Declared exports are those of the module, in order. -/
theorem exports_forall₂ :
    List.Forall₂ (fun item declared => Surface.ofExport artifact.module item = .ok declared)
      artifact.module.exports artifact.exports :=
  (mapM_eq_ok_iff _ _ _).1 (ofModule_parts artifact).2

private theorem find?_forall₂ {items : List Export} {declareds : List ExportDecl}
    {related : Export → ExportDecl → Prop}
    (sameName : ∀ item declared, related item declared → declared.name = item.name)
    (all : List.Forall₂ related items declareds) (name : String) {item : Export}
    {declared : ExportDecl} (foundItem : items.find? (fun item => item.name == name) = some item)
    (foundDeclared : declareds.find? (fun item => item.name == name) = some declared) :
    related item declared := by
  induction all with
  | nil => simp at foundItem
  | cons head tail inductionHypothesis =>
      rw [List.find?_cons] at foundItem foundDeclared
      rw [sameName _ _ head] at foundDeclared
      split at foundItem
      · rename_i hit
        rw [hit] at foundDeclared
        rw [← Option.some.inj foundItem, ← Option.some.inj foundDeclared]
        exact head
      · rename_i miss
        rw [miss] at foundDeclared
        exact inductionHypothesis foundItem foundDeclared

/-- The declaration of an exported function has the signature of its type. -/
theorem export_funcType {name : String} {declared : ExportDecl} {item : Export}
    {signature : Signature} {index : Nat} (foundDeclared : artifact.export? name = some declared)
    (foundItem : artifact.module.exports.find? (fun item => item.name == name) = some item)
    (target : item.target = .func index) (type : declared.type = .func signature) :
    artifact.module.funcTypes[index]? = some signature.guest := by
  have shown := find?_forall₂ (fun item declared shown =>
    ((Surface.ofExport_eq_ok_iff artifact.module item declared).1 shown).1)
    artifact.exports_forall₂ name foundItem foundDeclared
  obtain ⟨-, shape, shape_eq, read⟩ := (Surface.ofExport_eq_ok_iff _ _ _).1 shown
  rw [type, ItemType.ofGuest_eq_ok_func_iff] at read
  rw [target, read] at shape_eq
  simpa [Module.exportShape?] using shape_eq

end Artifact

end WasmSandbox
