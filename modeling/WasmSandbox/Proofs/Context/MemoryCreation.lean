import WasmSandbox.Proofs.Context.MemoryLimit

/-!
Contract: for which limits a context makes a memory.

Owns:
- the limits of which a memory is made, the ones that are refused with a reason, and the
  ones at which the engine panics;
- that each pair of limits is of one of these sorts;
- the memory that is made, and that nothing else changes.

Limits are checked twice.  The check at the boundary wants 32-bit numbers in order, the
engine's own wants no more pages than 32 bits address.  Limits between the two are in
order and pass the first check, so the engine meets them unprepared.

Does not own: how large a memory gets later (`WasmSandbox.Proofs.Context.MemoryLimit`).
-/

namespace WasmSandbox

open Wasm

/-! ## Sorts of limits -/

namespace Limits

variable {limits : Limits} {limit : Nat}

/-- The limits are in order, and no more than the pages a memory can have. -/
structure Addressed (limits : Limits) : Prop where
  ordered : ∀ maximum ∈ limits.maximum, limits.minimum ≤ maximum
  minimum_le : limits.minimum.toNat ≤ maxPages
  maximum_le : ∀ maximum ∈ limits.maximum, maximum.toNat ≤ maxPages

/-- A memory can have the limits where `limit` pages are allowed. -/
structure Allowed (limits : Limits) (limit : Nat) : Prop extends Addressed limits where
  within : limits.minimum.toNat ≤ limit

/-- The limits are 32-bit numbers in order, but one of them is more than the pages a memory
can have. -/
structure InGap (limits : Limits) : Prop where
  ordered : ∀ maximum ∈ limits.maximum, limits.minimum ≤ maximum
  minimum_lt : limits.minimum.toNat < UInt32.size
  maximum_lt : ∀ maximum ∈ limits.maximum, maximum.toNat < UInt32.size
  beyond : maxPages < limits.minimum.toNat ∨ ∃ maximum ∈ limits.maximum, maxPages < maximum.toNat

/-- Limits that are refused where `limit` pages are allowed, with the reason that is given. -/
inductive Refused (limits : Limits) (limit : Nat) : String → Prop where
  | minimum (large : UInt32.size ≤ limits.minimum.toNat) :
      Refused limits limit ("minimum " ++ toString limits.minimum ++ " pages")
  | maximum {bound : UInt64} (isBound : limits.maximum = some bound)
      (small : limits.minimum.toNat < UInt32.size) (large : UInt32.size ≤ bound.toNat) :
      Refused limits limit ("maximum " ++ Config.optionText limits.maximum ++ " pages")
  | inverted {bound : UInt64} (isBound : limits.maximum = some bound)
      (small : limits.minimum.toNat < UInt32.size) (below : bound < limits.minimum) :
      Refused limits limit ("maximum " ++ Config.optionText limits.maximum ++
        " below minimum " ++ toString limits.minimum)
  | tooMany (addressed : limits.Addressed) (beyond : limit < limits.minimum.toNat) :
      Refused limits limit (Store.tooManyPages limits.minimum.toNat)

/-- What becomes of limits. -/
inductive Verdict (limits : Limits) (limit : Nat) : Prop where
  | allowed (allowed : limits.Allowed limit)
  | inGap (inGap : limits.InGap)
  | refused (reason : String) (refused : limits.Refused limit reason)

/-- Limits that are in order and at most as large as the pages of a memory are judged by the
pages that are allowed. -/
private theorem verdict_of_ordered (ordered : ∀ maximum ∈ limits.maximum, limits.minimum ≤ maximum)
    (minimum_lt : limits.minimum.toNat < UInt32.size)
    (maximum_lt : ∀ maximum ∈ limits.maximum, maximum.toNat < UInt32.size) :
    limits.Verdict limit := by
  by_cases beyond :
      maxPages < limits.minimum.toNat ∨ ∃ maximum ∈ limits.maximum, maxPages < maximum.toNat
  · exact .inGap ⟨ordered, minimum_lt, maximum_lt, beyond⟩
  · simp only [not_or, not_exists, not_and, Nat.not_lt] at beyond
    have addressed : limits.Addressed := ⟨ordered, beyond.1, beyond.2⟩
    rcases Nat.lt_or_ge limit limits.minimum.toNat with tooMany | within
    · exact .refused _ (.tooMany addressed tooMany)
    · exact .allowed ⟨addressed, within⟩

theorem verdict (limits : Limits) (limit : Nat) : limits.Verdict limit := by
  rcases Nat.lt_or_ge limits.minimum.toNat UInt32.size with small | large
  case inr => exact .refused _ (.minimum large)
  cases isBound : limits.maximum with
  | none => exact verdict_of_ordered (by simp [isBound]) small (by simp [isBound])
  | some bound =>
      rcases Nat.lt_or_ge bound.toNat UInt32.size with smallBound | large
      case inr => exact .refused _ (.maximum isBound small large)
      rcases UInt64.lt_or_le bound limits.minimum with below | ordered
      · exact .refused _ (.inverted isBound small below)
      · exact verdict_of_ordered (by simpa [isBound] using ordered) small
          (by simpa [isBound] using smallBound)

end Limits

/-! ## What becomes of each sort -/

theorem PagedBytes.byte_zeros (count index : Nat) : (zeros count).byte index = 0 := by
  unfold byte zeros
  rw [Array.getElem?_replicate]
  by_cases inside : index / pageSize < count
  · simp only [if_pos inside, Page.byte_zero]
  · simp only [if_neg inside]

namespace Context

variable {σ : Type} {context : Context σ} {limits : Limits}

theorem checkLimits_of_ordered (ordered : ∀ maximum ∈ limits.maximum, limits.minimum ≤ maximum)
    (minimum_lt : limits.minimum.toNat < UInt32.size)
    (maximum_lt : ∀ maximum ∈ limits.maximum, maximum.toNat < UInt32.size) :
    checkLimits limits = .ok () := by
  unfold checkLimits
  rw [if_neg (Nat.not_le.2 minimum_lt)]
  cases isBound : limits.maximum with
  | none => rfl
  | some bound =>
      have small : ¬UInt32.size ≤ bound.toNat := Nat.not_le.2 (maximum_lt bound isBound)
      have inOrder : ¬bound < limits.minimum := UInt64.not_lt.2 (ordered bound isBound)
      simp [small, inOrder]

theorem checkLimits_of_addressed (addressed : limits.Addressed) : checkLimits limits = .ok () :=
  checkLimits_of_ordered addressed.ordered (Nat.lt_of_le_of_lt addressed.minimum_le (by decide))
    fun maximum isBound => Nat.lt_of_le_of_lt (addressed.maximum_le maximum isBound) (by decide)

/-- What is asked of the engine when limits pass the check at the boundary and its own. -/
private theorem createMemory_of_addressed (addressed : limits.Addressed) :
    context.createMemory ⟨limits⟩ =
      match context.store.addMemory?
        ⟨limits.minimum.toNat, limits.maximum.map UInt64.toNat⟩ with
      | some (address, store) =>
          .answered (.ok ⟨context.id, address, limits.maximum⟩, { context with store := store })
      | none =>
          .answered (.error (.limits (Store.tooManyPages limits.minimum.toNat)), context) := by
  have inside : (decide (limits.minimum.toNat > maxPages) ||
      limits.maximum.any (·.toNat > maxPages)) = false := by
    cases isBound : limits.maximum with
    | none => simpa using addressed.minimum_le
    | some bound => simpa using ⟨addressed.minimum_le, addressed.maximum_le bound isBound⟩
  simp only [createMemory, checkLimits_of_addressed addressed, inside]
  rfl

/-- The limit is configured in pages and checked in bytes. -/
private theorem byteLimit_iff (context : Context σ) (addressed : limits.Addressed) :
    pageSize * limits.minimum.toNat ≤ context.store.byteLimit ↔
      limits.minimum.toNat ≤ context.config.maxMemoryPages.toNat :=
  context.config.le_maxMemoryBytes_iff addressed.minimum_le

theorem createMemory_of_inGap (inGap : limits.InGap) :
    context.createMemory ⟨limits⟩ = .panicked := by
  have passes := checkLimits_of_ordered inGap.ordered inGap.minimum_lt inGap.maximum_lt
  have outside : (decide (limits.minimum.toNat > maxPages) ||
      limits.maximum.any (·.toNat > maxPages)) = true := by
    rcases inGap.beyond with beyond | ⟨bound, isBound, beyond⟩
    · simp [beyond]
    · simp [Option.mem_def.1 isBound, beyond]
  simp only [createMemory, passes, outside]
  rfl

theorem createMemory_of_refused {reason : String}
    (refused : limits.Refused context.config.maxMemoryPages.toNat reason) :
    context.createMemory ⟨limits⟩ = .answered (.error (.limits reason), context) := by
  cases refused with
  | minimum large => simp only [createMemory, checkLimits, ge_iff_le, if_pos large]
  | maximum isBound small large =>
      have notLarge : ¬UInt32.size ≤ limits.minimum.toNat := Nat.not_le.2 small
      simp [createMemory, checkLimits, notLarge, isBound, large]
  | inverted isBound small below =>
      have notLarge : ¬UInt32.size ≤ limits.minimum.toNat := Nat.not_le.2 small
      have alsoSmall := Nat.not_le.2 (Nat.lt_trans (UInt64.lt_iff_toNat_lt.1 below) small)
      simp [createMemory, checkLimits, notLarge, isBound, alsoSmall, below]
  | tooMany addressed beyond =>
      have tooLarge := mt (context.byteLimit_iff addressed).1 (Nat.not_le.2 beyond)
      rw [createMemory_of_addressed addressed]
      simp only [Store.addMemory?, if_neg tooLarge]

/-- The context with a memory more, which has the pages that the limits ask for. -/
def withMemory (context : Context σ) (limits : Limits) : Context σ :=
  let memory : Memory := ⟨.zeros limits.minimum.toNat, limits.maximum.map UInt64.toNat⟩
  { context with
    store := { context.store with memories := context.store.memories.push memory } }

theorem createMemory_of_allowed (allowed : limits.Allowed context.config.maxMemoryPages.toNat) :
    context.createMemory ⟨limits⟩ =
      .answered (.ok ⟨context.id, context.store.memories.size, limits.maximum⟩,
        context.withMemory limits) := by
  have small := (context.byteLimit_iff allowed.toAddressed).2 allowed.within
  rw [createMemory_of_addressed allowed.toAddressed]
  simp only [Store.addMemory?, if_pos small]
  rfl

/-! ## Exactly -/

/-- What becomes of a new memory where `limit` pages are allowed. -/
structure CreatesExactly (limit : Nat) (context : Context σ) (type : MemoryType) : Prop where
  /-- A memory is made exactly of the limits that are allowed. -/
  made : (∃ handle after, context.createMemory type = .answered (.ok handle, after)) ↔
    type.limits.Allowed limit
  /-- The engine panics exactly at the limits in the gap between the checks. -/
  panics : context.createMemory type = .panicked ↔ type.limits.InGap
  /-- A failure has one of the reasons, exactly where the reason holds, and changes nothing. -/
  refused : ∀ error after, context.createMemory type = .answered (.error error, after) ↔
    after = context ∧ ∃ reason, error = .limits reason ∧ type.limits.Refused limit reason
  /-- The memory has the type that was asked for and nothing but zeros, its handle stood for
  no memory before, and memories are the only thing that changes. -/
  fresh : ∀ handle after, context.createMemory type = .answered (.ok handle, after) →
    ∃ memory, after.memory handle = .ok memory ∧ memory.pages = type.limits.minimum.toNat ∧
      memory.greatest = type.limits.maximum.map UInt64.toNat ∧
      (∀ index, ByteSpace.byte memory.bytes index = 0) ∧ after.memoryType handle = .ok type ∧
      context.memory handle = .error .foreignHandle ∧
      (∀ other, other.address ≠ handle.address → after.memory other = context.memory other) ∧
      after = { context with store := { context.store with memories := after.store.memories } }

theorem memory_withMemory (context : Context σ) (limits : Limits) :
    (context.withMemory limits).memory
        ⟨context.id, context.store.memories.size, limits.maximum⟩ =
      .ok ⟨.zeros limits.minimum.toNat, limits.maximum.map UInt64.toNat⟩ :=
  memory_eq_ok_iff.2 ⟨rfl, Array.getElem?_push_size⟩

/-- Other memories are found, or not found, as before. -/
theorem memory_withMemory_of_ne (context : Context σ) (limits : Limits) {other : MemoryHandle}
    (differs : other.address ≠ context.store.memories.size) :
    (context.withMemory limits).memory other = context.memory other := by
  simp only [memory, withMemory, Array.getElem?_push, if_neg differs]

theorem memoryType_withMemory (context : Context σ) (limits : Limits) :
    (context.withMemory limits).memoryType
      ⟨context.id, context.store.memories.size, limits.maximum⟩ = .ok ⟨limits⟩ := by
  have pages : Memory.pages ⟨.zeros limits.minimum.toNat, limits.maximum.map UInt64.toNat⟩ =
      limits.minimum.toNat := PagedBytes.pageCount_zeros _
  simp only [memoryType, memory_withMemory, bind, Except.bind, pages, UInt64.ofNat_toNat]
  rfl

/-- Every new memory, failure and panic is due to the sort of its limits. -/
theorem createMemory_cases (context : Context σ) (limits : Limits) :
    limits.Allowed context.config.maxMemoryPages.toNat ∧
        context.createMemory ⟨limits⟩ =
          .answered (.ok ⟨context.id, context.store.memories.size, limits.maximum⟩,
            context.withMemory limits) ∨
      limits.InGap ∧ context.createMemory ⟨limits⟩ = .panicked ∨
      ∃ reason, limits.Refused context.config.maxMemoryPages.toNat reason ∧
        context.createMemory ⟨limits⟩ = .answered (.error (.limits reason), context) := by
  rcases limits.verdict context.config.maxMemoryPages.toNat with
    allowed | inGap | ⟨reason, refused⟩
  · exact .inl ⟨allowed, createMemory_of_allowed allowed⟩
  · exact .inr (.inl ⟨inGap, createMemory_of_inGap inGap⟩)
  · exact .inr (.inr ⟨reason, refused, createMemory_of_refused refused⟩)

/-- For every context and all limits, a memory is made, refused with a reason, or the engine
panics, each exactly for its sort of limits. -/
theorem createsExactly (context : Context σ) (type : MemoryType) :
    context.CreatesExactly context.config.maxMemoryPages.toNat type := by
  obtain ⟨limits⟩ := type
  have cases := context.createMemory_cases limits
  refine ⟨⟨?made, ?makes⟩, ⟨?panicked, createMemory_of_inGap⟩, ?refused, ?fresh⟩
  case made =>
    rintro ⟨handle, after, isMade⟩
    rw [isMade] at cases
    rcases cases with ⟨allowed, -⟩ | ⟨-, same⟩ | ⟨_, -, same⟩
    · exact allowed
    · contradiction
    · simp at same
  case makes => exact fun allowed => ⟨_, _, createMemory_of_allowed allowed⟩
  case panicked =>
    intro isPanic
    rw [isPanic] at cases
    rcases cases with ⟨-, same⟩ | ⟨inGap, -⟩ | ⟨_, -, same⟩
    · contradiction
    · exact inGap
    · contradiction
  case refused =>
    intro error after
    constructor
    · intro isError
      rw [isError] at cases
      rcases cases with ⟨-, same⟩ | ⟨-, same⟩ | ⟨reason, refused, same⟩
      · simp at same
      · contradiction
      · cases same
        exact ⟨rfl, reason, rfl, refused⟩
    · rintro ⟨rfl, reason, rfl, refused⟩
      exact createMemory_of_refused refused
  case fresh =>
    intro handle after isMade
    rw [isMade] at cases
    rcases cases with ⟨-, same⟩ | ⟨-, same⟩ | ⟨_, -, same⟩
    · cases same
      refine ⟨_, context.memory_withMemory limits, PagedBytes.pageCount_zeros _, rfl,
        PagedBytes.byte_zeros _, context.memoryType_withMemory limits, ?_,
        fun other => context.memory_withMemory_of_ne limits, rfl⟩
      simp [memory]
    · contradiction
    · simp at same

/-- Limits that pass the check at the boundary may be more than the engine takes: then there
is neither a memory nor a failure. -/
theorem not_createMemory_answers :
    ¬∀ (context : Context Unit) (type : MemoryType),
      (∃ handle after, context.createMemory type = .answered (.ok handle, after)) ∨
        ∃ reason, context.createMemory type = .answered (.error (.limits reason), context) := by
  intro answers
  have panics : createMemory (.create ⟨0⟩ { id := ⟨0⟩, config := {} } ()) ⟨⟨0, some 65537⟩⟩ =
      .panicked := rfl
  rcases answers (.create ⟨0⟩ { id := ⟨0⟩, config := {} } ()) ⟨⟨0, some 65537⟩⟩ with
    ⟨handle, after, same⟩ | ⟨reason, same⟩
  · rw [panics] at same
    contradiction
  · rw [panics] at same
    contradiction

end Context

end WasmSandbox
