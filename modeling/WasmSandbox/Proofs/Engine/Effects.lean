import WasmSandbox.Wasm.Operation

/-!
Contract: which changes the instructions ask for that neither branch nor call.

Owns:
- the changes that an engine state allows: a memory or a table only grows within its
  bounds;
- that every instruction asks for a change that the state allows.

Only `memory.grow` and `table.grow` have a condition to meet.  Every other instruction asks
for a change of contents, which is always allowed.

Does not own: what a change makes of the state.
-/

namespace WasmSandbox

/-- Two steps succeed when the first one does, and the second one does with its result. -/
theorem bind_eq_ok_iff {ε α β : Type} {first : Except ε α} {next : α → Except ε β} {result : β} :
    (first >>= next) = .ok result ↔ ∃ value, first = .ok value ∧ next value = .ok result := by
  cases first with
  | error failure => simp [bind, Except.bind]
  | ok value => simp [bind, Except.bind]

end WasmSandbox

namespace WasmSandbox.Wasm

variable {H : Type} (store : Store H) (owning : Instance) (registers : Registers)
  (owner : Nat) (instr : Instr)

/-- A change after which memories and tables are within their bounds if they were before. -/
def Store.Allows (store : Store H) : Change → Prop
  | .growMemory address delta => ∀ memory, store.memories[address]? = some memory →
      memory.canGrow store.byteLimit delta = true
  | .growTable address count _ => ∀ table, store.tables[address]? = some table →
      table.items.size + count ≤ table.bound
  | _ => True

/-- If an instruction goes on, it asks for a change that is allowed. -/
def Asks (store : Store H) (effect : Except Halt (Registers × Change)) : Prop :=
  ∀ next change, effect = .ok (next, change) → store.Allows change

namespace Asks

variable {store}

theorem ok {next : Registers} {change : Change} (allowed : store.Allows change) :
    Asks store (.ok (next, change)) := by
  rintro _ _ ⟨rfl, rfl⟩
  exact allowed

theorem error {halt : Halt} : Asks store (.error halt) := nofun

theorem bind {α : Type} {first : Except Halt α} {rest : α → Except Halt (Registers × Change)}
    (each : ∀ value, first = .ok value → Asks store (rest value)) :
    Asks store (first >>= rest) := by
  intro next change done
  obtain ⟨value, isFirst, isRest⟩ := bind_eq_ok_iff.1 done
  exact each value isFirst next change isRest

end Asks

theorem need_eq_ok_iff {α : Type} {found : Option α} {value : α} :
    need found = .ok value ↔ found = some value := by
  cases found <;> simp [need]

variable {store owning}

theorem memoryOf_eq_ok {index : Nat} {found : Nat × Memory}
    (isFound : memoryOf store owning index = .ok found) :
    store.memories[found.1]? = some found.2 := by
  obtain ⟨address, -, rest⟩ := bind_eq_ok_iff.1 isFound
  obtain ⟨memory, isMemory, same⟩ := bind_eq_ok_iff.1 rest
  cases same
  exact need_eq_ok_iff.1 isMemory

theorem tableOf_eq_ok {index : Nat} {found : Nat × Table}
    (isFound : tableOf store owning index = .ok found) :
    store.tables[found.1]? = some found.2 := by
  obtain ⟨address, -, rest⟩ := bind_eq_ok_iff.1 isFound
  obtain ⟨table, isTable, same⟩ := bind_eq_ok_iff.1 rest
  cases same
  exact need_eq_ok_iff.1 isTable

variable (store owning)

theorem memoryEffect_asks : Asks store (memoryEffect store owning registers instr) := by
  unfold memoryEffect
  split
  case h_4 index delta rest =>
    apply Asks.bind
    rintro ⟨address, memory⟩ isFound
    simp only
    split
    · rename_i grows
      apply Asks.ok
      intro held isHeld
      rw [memoryOf_eq_ok isFound, Option.some.injEq] at isHeld
      rw [← isHeld]
      exact grows
    · exact .ok trivial
  case h_1 => exact .bind fun _ _ => .bind fun _ _ => .ok trivial
  case h_2 => exact .bind fun _ _ => .bind fun _ _ => .ok trivial
  case h_3 => exact .bind fun _ _ => .ok trivial
  case h_5 => exact .bind fun _ _ => .bind fun _ _ => .ok trivial
  case h_6 =>
    exact .bind fun _ _ => .bind fun _ _ => .bind fun _ _ => .bind fun _ _ => .ok trivial
  case h_7 =>
    exact .bind fun _ _ => .bind fun _ _ => .bind fun _ _ => .bind fun _ _ => .ok trivial
  case h_8 => exact .ok trivial
  case h_9 => exact .error

theorem tableEffect_asks : Asks store (tableEffect store owning registers instr) := by
  unfold tableEffect
  split
  case h_1 =>
    apply Asks.bind
    intro found isFound
    simp only
    split
    · exact .ok trivial
    · exact .error
  case h_2 => exact .bind fun _ _ => .bind fun _ _ => .ok trivial
  case h_3 => exact .bind fun _ _ => .ok trivial
  case h_4 index delta item rest =>
    apply Asks.bind
    rintro ⟨address, table⟩ isFound
    simp only
    split
    · rename_i fits
      apply Asks.ok
      intro held isHeld
      rw [tableOf_eq_ok isFound, Option.some.injEq] at isHeld
      rw [← isHeld]
      exact fits
    · exact .ok trivial
  case h_5 => exact .bind fun _ _ => .bind fun _ _ => .ok trivial
  case h_6 =>
    exact .bind fun _ _ => .bind fun _ _ => .bind fun _ _ => .bind fun _ _ => .ok trivial
  case h_7 =>
    exact .bind fun _ _ => .bind fun _ _ => .bind fun _ _ => .bind fun _ _ => .ok trivial
  case h_8 => exact .error

theorem variableEffect_asks :
    Asks store (variableEffect store owning registers owner instr) := by
  unfold variableEffect
  split
  case h_1 => exact .bind fun _ _ => .ok trivial
  case h_4 => exact .bind fun _ _ => .bind fun _ _ => .ok trivial
  case h_5 => exact .bind fun _ _ => .ok trivial
  case h_11 => exact .error
  all_goals exact .ok trivial

theorem numericEffect_asks (op : NumericOp) : Asks store (numericEffect store registers op) := by
  apply Asks.bind
  intro result isResult
  cases result with
  | ok value => exact .ok trivial
  | error fault => exact .error

/-- An instruction that neither branches nor calls only grows memories and tables within
their bounds. -/
theorem plainEffect_asks : Asks store (plainEffect store owning registers owner instr) := by
  unfold plainEffect
  split
  case h_5 op => exact numericEffect_asks store registers op
  case h_6 | h_7 | h_8 | h_9 | h_10 | h_11 | h_12 | h_13 =>
    exact memoryEffect_asks store owning registers _
  case h_14 | h_15 | h_16 | h_17 | h_18 | h_19 | h_20 =>
    exact tableEffect_asks store owning registers _
  case h_21 => exact variableEffect_asks store owning registers owner _
  all_goals exact .ok trivial

end WasmSandbox.Wasm
