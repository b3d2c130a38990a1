import WasmSandbox.Context.FuncTable

/-!
Contract: the two directions of the function table.

Owns:
- the list of keys, in the order of positions;
- tables in which positions and keys are inverse to each other, and that a new entry
  under a new key keeps them so.

Does not own: which functions are entered, and when.
-/

namespace WasmSandbox

open Wasm

namespace FuncTable

/-- The keys of the entries, in the order of their positions. -/
def keys (table : FuncTable) : List FuncKey := table.entries.toList.map FuncEntry.key

/-- Each entry is found at its own position by its key, and each key that is found
leads to an entry with that key. -/
structure Inverse (table : FuncTable) : Prop where
  found : ∀ {index : Nat} {entry : FuncEntry},
    table.entry? index = some entry → table.find? entry.key = some index
  entered : ∀ {key : FuncKey} {index : Nat}, table.find? key = some index →
    ∃ entry, table.entry? index = some entry ∧ entry.key = key

variable (table : FuncTable) (entry : FuncEntry)

/-! ## One more entry -/

theorem entryAt_push (index : Nat) :
    FuncTable.entry? (table.push entry) index =
      if index = table.count then some entry else table.entry? index := by
  exact Array.getElem?_push

theorem find?_push (key : FuncKey) :
    (table.push entry).find? key =
      if key = entry.key then some table.count else table.find? key := by
  simp only [push, find?, count, List.lookup_cons]
  by_cases same : key = entry.key
  · rw [if_pos same, beq_iff_eq.2 same]
  · rw [if_neg same, beq_eq_false_iff_ne.2 same]

@[simp]
theorem keys_push : (table.push entry).keys = table.keys ++ [entry.key] := by
  simp [keys, push]

theorem count_eq_keys_length : table.count = table.keys.length := by
  simp [count, keys]

theorem entryAt_lt_count {table : FuncTable} {entry : FuncEntry} {index : Nat}
    (member : table.entry? index = some entry) : index < table.count :=
  (Array.getElem?_eq_some_iff.1 member).1

/-- A new entry leaves the entries where they are. -/
theorem entryAt_push_of_some {table : FuncTable} {old : FuncEntry} {index : Nat}
    (member : table.entry? index = some old) (entry : FuncEntry) :
    FuncTable.entry? (table.push entry) index = some old := by
  rw [entryAt_push, if_neg (Nat.ne_of_lt (entryAt_lt_count member))]
  exact member

/-! ## Inverse directions -/

theorem empty_inverse : Inverse {} where
  found := by
    intro index entry member
    unfold entry? at member
    contradiction
  entered := by
    intro key index member
    simp [find?] at member

namespace Inverse

variable {table} {entry} (inverse : table.Inverse)
include inverse

theorem push (fresh : table.find? entry.key = none) : (table.push entry).Inverse where
  found := by
    intro index other member
    rw [entryAt_push] at member
    rw [find?_push]
    by_cases last : index = table.count
    · rw [if_pos last, Option.some.injEq] at member
      rw [if_pos (by rw [member]), last]
    · rw [if_neg last] at member
      have known := inverse.found member
      have different : other.key ≠ entry.key := by
        intro same
        rw [same, fresh] at known
        contradiction
      rw [if_neg different]
      exact known
  entered := by
    intro key index known
    rw [find?_push] at known
    by_cases new : key = entry.key
    · rw [if_pos new, Option.some.injEq] at known
      exact ⟨entry, by rw [entryAt_push, if_pos known.symm], new.symm⟩
    · rw [if_neg new] at known
      obtain ⟨old, member, same⟩ := inverse.entered known
      exact ⟨old, entryAt_push_of_some member entry, same⟩

/-- A key is found exactly when it is the key of an entry. -/
theorem find?_isSome_iff (key : FuncKey) : (table.find? key).isSome ↔ key ∈ table.keys := by
  simp only [Option.isSome_iff_exists, keys, List.mem_map, Array.mem_toList_iff]
  constructor
  · rintro ⟨index, known⟩
    obtain ⟨old, member, same⟩ := inverse.entered known
    exact ⟨old, Array.mem_of_getElem? member, same⟩
  · rintro ⟨old, member, same⟩
    obtain ⟨index, located⟩ := Array.mem_iff_getElem?.1 member
    exact ⟨index, same ▸ inverse.found located⟩

theorem find?_eq_none_iff (key : FuncKey) : table.find? key = none ↔ key ∉ table.keys := by
  rw [← inverse.find?_isSome_iff, Option.not_isSome_iff_eq_none]

/-- Two positions hold the same key only if they are the same. -/
theorem index_eq_iff {first second : Nat} {one other : FuncEntry}
    (firstEntry : table.entry? first = some one) (secondEntry : table.entry? second = some other) :
    first = second ↔ one.key = other.key := by
  constructor
  · intro same
    rw [same, secondEntry, Option.some.injEq] at firstEntry
    rw [firstEntry]
  · intro same
    have found := inverse.found firstEntry
    rw [same, inverse.found secondEntry, Option.some.injEq] at found
    exact found.symm

end Inverse

end FuncTable

end WasmSandbox
