import WasmSandbox.Proofs.Context.Upkeep
import WasmSandbox.Proofs.Bytes.Words

/-!
Contract: access of the host to the bytes of a context's memories.

Owns:
- that the bytes of every memory have 64-bit addresses, in every life of a context;
- that a request to read is answered from the bytes of the memory, and changes nothing;
- that a request to write changes the bytes of that memory alone, and nothing if it fails.

Does not own: which ranges are read and written, and what is in them
(`WasmSandbox.Proofs.Bytes.Access`, `WasmSandbox.Proofs.Bytes.Words`).
-/

namespace WasmSandbox

open Wasm

/-- Memories have at most 2 ^ 32 bytes, so every address and every end fits in 64 bits. -/
theorem Wasm.Memory.Within.addressable {limit : Nat} {memory : Memory}
    (within : memory.Within limit) : ByteSpace.size memory.bytes < UInt64.size := by
  calc memory.pages * pageSize
    _ ≤ maxPages * pageSize := Nat.mul_le_mul_right pageSize within.pages_le
    _ < UInt64.size := by decide

namespace Context

variable {σ : Type} {context : Context σ} {handle : MemoryHandle} {memory : Memory}

/-- What the answer to a request to write is, and the context after it. -/
inductive Writes (context : Context σ) (handle : MemoryHandle) (memory : Memory) :
    Except MemoryError PagedBytes → Except MemoryError Unit × Context σ → Prop where
  /-- The memory has the written bytes, and all other memories are as they were. -/
  | written {bytes : PagedBytes} {after : Context σ}
      (here : after.memory handle = .ok { memory with bytes := bytes })
      (elsewhere : ∀ other, other.address ≠ handle.address →
        after.memory other = context.memory other) :
      Writes context handle memory (.ok bytes) (.ok (), after)
  /-- A write that fails changes nothing. -/
  | refused (error : MemoryError) :
      Writes context handle memory (.error error) (.error error, context)

theorem memories_updateMemory (change : Memory → Memory) (address : Nat) :
    (context.updateMemory handle change).store.memories[address]? =
      if handle.address = address then context.store.memories[address]?.map change
      else context.store.memories[address]? := by
  simp only [updateMemory, Store.updateMemory, Array.getElem?_modify]

theorem writes_of_update (found : context.memory handle = .ok memory)
    (outcome : Except MemoryError PagedBytes) :
    context.Writes handle memory outcome (context.applied (outcome.map fun written =>
      context.updateMemory handle fun memory => { memory with bytes := written })) := by
  cases outcome with
  | error error => exact .refused error
  | ok written =>
      obtain ⟨own, isMemory⟩ := memory_eq_ok_iff.1 found
      refine .written (memory_eq_ok_iff.2 ⟨own, ?_⟩) fun other elsewhere => ?_
      · rw [memories_updateMemory, if_pos rfl, isMemory, Option.map_some]
      · unfold Context.memory
        rw [memories_updateMemory, if_neg elsewhere.symm]
        rfl

/-- How requests for the bytes of a memory are answered. -/
structure MemoryAccess (context : Context σ) (handle : MemoryHandle) (memory : Memory) :
    Prop where
  addressable : ByteSpace.size memory.bytes < UInt64.size
  read : ∀ offset length, context.answer (.readMemory handle offset length) =
    .answered (Bytes.read memory.bytes offset length, context)
  readWord : ∀ offset, context.answer (.readWord handle offset) =
    .answered (Bytes.readWord memory.bytes offset, context)
  write : ∀ offset bytes, ∃ result,
    context.answer (.writeMemory handle offset bytes) = .answered result ∧
      context.Writes handle memory (Bytes.write memory.bytes offset bytes) result
  writeWord : ∀ offset value, ∃ result,
    context.answer (.writeWord handle offset value) = .answered result ∧
      context.Writes handle memory (Bytes.writeWord memory.bytes offset value) result

theorem memoryAccess_of_addressable (found : context.memory handle = .ok memory)
    (addressable : ByteSpace.size memory.bytes < UInt64.size) :
    context.MemoryAccess handle memory where
  addressable := addressable
  read offset length := by
    rw [answer, readMemory, found]
    rfl
  readWord offset := by
    rw [answer, Context.readWord, found]
    rfl
  write offset bytes := by
    rw [answer, writeMemory, found]
    exact ⟨_, rfl, writes_of_update found (Bytes.write memory.bytes offset bytes)⟩
  writeWord offset value := by
    rw [answer, Context.writeWord, found]
    exact ⟨_, rfl, writes_of_update found (Bytes.writeWord memory.bytes offset value)⟩

end Context

/-- In every life of a context, requests for the bytes of a memory are answered from them. -/
theorem Life.memoryAccess {σ : Type} {id : ContextId} {environment : Environment} {data : σ}
    {past : List (Stage σ × Act σ)} {stage : Stage σ}
    (life : Life (.create id environment data) past stage) (valid : LinksValid past)
    {handle : MemoryHandle} {memory : Memory} (found : stage.context.memory handle = .ok memory) :
    stage.context.MemoryAccess handle memory := by
  have tended := life.tended (Context.create_tended id environment data) valid
  have isMemory := (Context.memory_eq_ok_iff.1 found).2
  have within := tended.bounded.memories memory (Array.mem_of_getElem? isMemory)
  exact Context.memoryAccess_of_addressable found within.addressable

end WasmSandbox
