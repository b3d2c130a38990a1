import WasmSandbox.Proofs.Context.Upkeep

/-!
Contract: how large memories get, and when they grow.

Owns:
- the limit in bytes as a limit in pages, for every number of pages that a memory can have;
- that every memory of a context keeps within the limit and within its declared greatest
  size, wherever it was made and however it grew;
- that a growth asked for by the host succeeds exactly within these bounds, and changes
  nothing otherwise.

The limit is configured in pages and handed to the engine in bytes, as a product that does
not exceed 64 bits.  Where the product is cut off, the limit is beyond what 32 bits address,
so it is never the bound that counts.

Does not own: growth by guest code, of which only the bounds are stated.
-/

namespace WasmSandbox

open Wasm

/-! ## Bytes of a memory that grows -/

/-- The size is kept as a variable, so that it is not counted out. -/
private theorem getElem_zeros (size index : Nat)
    (inside : index < (⟨Array.replicate size 0⟩ : ByteArray).size) :
    (⟨Array.replicate size 0⟩ : ByteArray)[index] = 0 :=
  Array.getElem_replicate ..

theorem Page.byte_zero (index : Nat) : Page.zero.byte index = 0 := by
  unfold Page.byte
  by_cases inside : index < Page.zero.val.size
  · rw [dif_pos inside]
    exact getElem_zeros pageSize index inside
  · rw [dif_neg inside]

namespace PagedBytes

/-- Outside of a sequence every byte is zero, so pages of zeros at its end do not show. -/
theorem byte_extend (bytes : PagedBytes) (count index : Nat) :
    (bytes.extend count).byte index = bytes.byte index := by
  unfold byte extend
  rw [Array.getElem?_append]
  by_cases inside : index / pageSize < bytes.pages.size
  · rw [if_pos inside]
  · rw [if_neg inside, Array.getElem?_eq_none (Nat.le_of_not_lt inside), Array.getElem?_replicate]
    by_cases added : index / pageSize - bytes.pages.size < count
    · simp only [if_pos added, Page.byte_zero]
    · simp only [if_neg added]

theorem byte_of_size_le {bytes : PagedBytes} {index : Nat}
    (outside : ByteSpace.size bytes ≤ index) :
    bytes.byte index = 0 := by
  have beyond : bytes.pages.size ≤ index / pageSize := by
    rw [Nat.le_div_iff_mul_le (by decide)]
    exact outside
  rw [byte, Array.getElem?_eq_none beyond]

end PagedBytes

/-! ## The limit in pages -/

/-- The most pages of a memory with a declared greatest size, where `limit` pages are
allowed. -/
def pageBound (limit : Nat) (declared : Option Nat) : Nat :=
  min limit (min (declared.getD maxPages) maxPages)

/-- That the limit in bytes may be cut off does not matter to a memory. -/
theorem Config.le_maxMemoryBytes_iff (config : Config) {pages : Nat} (small : pages ≤ maxPages) :
    pageSize * pages ≤ config.maxMemoryBytes.toNat ↔ pages ≤ config.maxMemoryPages.toNat := by
  have cut : min (config.maxMemoryPages.toNat * 65536) (UInt64.size - 1) < UInt64.size :=
    Nat.lt_of_le_of_lt (Nat.min_le_right ..) (by decide)
  have size : UInt64.size = 2 ^ 64 := rfl
  rw [maxMemoryBytes, UInt64.toNat_ofNat_of_lt' cut]
  simp only [pageSize, maxPages, size] at *
  omega

namespace Wasm

namespace Memory

variable {config : Config} {memory : Memory}

theorem within_iff :
    memory.Within config.maxMemoryBytes.toNat ↔
      memory.pages ≤ pageBound config.maxMemoryPages.toNat memory.greatest := by
  unfold pageBound
  constructor
  · intro within
    have inLimit := (config.le_maxMemoryBytes_iff within.pages_le).1 within.bytes
    exact Nat.le_min.2 ⟨inLimit, within.pages⟩
  · intro bounded
    obtain ⟨inLimit, inBound⟩ := Nat.le_min.1 bounded
    have small : memory.pages ≤ maxPages := Nat.le_trans inBound (Nat.min_le_right ..)
    exact ⟨inBound, (config.le_maxMemoryBytes_iff small).2 inLimit⟩

/-- A memory can grow exactly if it is within its bounds afterwards. -/
theorem canGrow_iff_within {limit delta : Nat} (within : memory.Within limit) :
    memory.canGrow limit delta = true ↔ (memory.grow delta).Within limit := by
  refine ⟨within.grow, fun grown => ?_⟩
  have pages := grown.pages
  have bytes := grown.bytes
  rw [memory.pages_grow, memory.bound_grow] at pages
  rw [memory.pages_grow] at bytes
  simp [canGrow, pages, bytes]

theorem canGrow_iff (within : memory.Within config.maxMemoryBytes.toNat) (delta : Nat) :
    memory.canGrow config.maxMemoryBytes.toNat delta = true ↔
      memory.pages + delta ≤ pageBound config.maxMemoryPages.toNat memory.greatest := by
  rw [canGrow_iff_within within, within_iff, memory.pages_grow]
  rfl

end Memory

end Wasm

/-! ## Growth asked for by the host -/

namespace Context

variable {σ : Type} (context : Context σ)

/-- What becomes of a memory that is asked to grow by `delta` pages. -/
structure GrowsExactly (limit : Nat) (handle : MemoryHandle) (memory : Memory)
    (delta : UInt64) : Prop where
  /-- Within the bound the memory gets its pages at the end, and nothing else changes. -/
  succeeds : memory.pages + delta.toNat ≤ pageBound limit memory.greatest →
    ∃ grown after,
      context.answer (.growMemory handle delta) = .answered (.ok memory.pages, after) ∧
        after.memory handle = .ok grown ∧ grown.greatest = memory.greatest ∧
          grown.pages = memory.pages + delta.toNat ∧
            (∀ index < memory.size,
              ByteSpace.byte grown.bytes index = ByteSpace.byte memory.bytes index) ∧
            (∀ index, memory.size ≤ index → ByteSpace.byte grown.bytes index = 0) ∧
            ∀ other, other ≠ handle.address →
              after.store.memories[other]? = context.store.memories[other]?
  /-- Beyond the bound the growth fails, and nothing changes. -/
  fails : pageBound limit memory.greatest < memory.pages + delta.toNat →
    context.answer (.growMemory handle delta) =
      .answered (.error (.grow ("failed to grow memory by `" ++ toString delta ++ "`")), context)

variable {context}

theorem growMemory_of_canGrow {handle : MemoryHandle} {memory : Memory} {delta : UInt64}
    (found : context.memory handle = .ok memory)
    (grows : memory.canGrow context.store.byteLimit delta.toNat = true) :
    context.growMemory handle delta = .ok (memory.pages,
      { context with store := context.store.growMemory handle.address delta.toNat }) := by
  simp only [growMemory, found, bind, Except.bind, if_pos grows, pure, Except.pure]

theorem growMemory_of_cannot {handle : MemoryHandle} {memory : Memory} {delta : UInt64}
    (found : context.memory handle = .ok memory)
    (refused : memory.canGrow context.store.byteLimit delta.toNat = false) :
    context.growMemory handle delta =
      .error (.grow ("failed to grow memory by `" ++ toString delta ++ "`")) := by
  simp only [growMemory, found, bind, Except.bind, refused]
  rfl

/-- A memory that is within its bounds grows exactly as far as they reach. -/
theorem growsExactly {handle : MemoryHandle} {memory : Memory}
    (found : context.memory handle = .ok memory)
    (within : memory.Within context.config.maxMemoryBytes.toNat) (delta : UInt64) :
    context.GrowsExactly context.config.maxMemoryPages.toNat handle memory delta := by
  have canGrow := Memory.canGrow_iff within delta.toNat
  obtain ⟨own, isMemory⟩ := memory_eq_ok_iff.1 found
  constructor
  · intro inBound
    have grown := growMemory_of_canGrow found (canGrow.2 inBound)
    refine ⟨memory.grow delta.toNat, _, by rw [answer, grown]; rfl, ?_, rfl,
      memory.pages_grow delta.toNat, ?_, ?_, ?_⟩
    · refine memory_eq_ok_iff.2 ⟨own, ?_⟩
      show (context.store.memories.modify handle.address _)[handle.address]? = _
      rw [Array.getElem?_modify, if_pos rfl, isMemory]
      rfl
    · intro index inside
      exact memory.bytes.byte_extend delta.toNat index
    · intro index outside
      exact (memory.bytes.byte_extend delta.toNat index).trans
        (PagedBytes.byte_of_size_le outside)
    · intro other differs
      simp [Store.growMemory, Store.updateMemory, Array.getElem?_modify, differs.symm]
  · intro beyond
    have refused : memory.canGrow context.store.byteLimit delta.toNat = false := by
      rw [Bool.eq_false_iff]
      intro grows
      have inBound := canGrow.1 grows
      omega
    rw [answer, growMemory_of_cannot found refused]
    rfl

/-- A memory that the host creates is there at first, with its declared greatest size. -/
theorem createMemory_declares {type : MemoryType} {handle : MemoryHandle} {after : Context σ}
    (made : context.answer (.createMemory type) = .answered (.ok handle, after)) :
    ∃ memory, after.memory handle = .ok memory ∧
      memory.greatest = type.limits.maximum.map UInt64.toNat := by
  simp only [answer, createMemory] at made
  split at made
  · simp at made
  · split at made
    · contradiction
    · split at made
      · rename_i address store added
        cases made
        unfold Store.addMemory? at added
        split at added
        · cases added
          exact ⟨_, memory_eq_ok_iff.2 ⟨rfl, Array.getElem?_push_size⟩, rfl⟩
        · contradiction
      · simp at made

end Context

/-! ## Every memory of a context -/

/-- How large the memories of a context are after a history, where `limit` pages are
allowed. -/
structure MemoryLimited {σ : Type} (limit : Nat) (past : List (Stage σ × Act σ))
    (context : Context σ) : Prop where
  /-- No memory exceeds the limit, the greatest size that was declared for it, or what 32
  bits address. -/
  every : ∀ memory ∈ context.store.memories, memory.pages ≤ pageBound limit memory.greatest
  /-- The greatest size of a memory that the host created is the one that it asked for. -/
  created : ∀ happened ∈ past, ∀ type handle after,
    happened.1.asked? happened.2 = some (.createMemory type) →
      happened.1.context.answer (.createMemory type) = .answered (.ok handle, after) →
        ∃ memory, context.memory handle = .ok memory ∧
          memory.greatest = type.limits.maximum.map UInt64.toNat ∧
            memory.pages ≤ pageBound limit (type.limits.maximum.map UInt64.toNat)
  /-- The greatest size of a memory that a linked module defines is the declared one. -/
  defined : ∀ inst made, context.instanceEntry? inst = some made →
    ∃ owning, context.store.instances[made.owner]? = some owning ∧
      ∀ index shape, made.artifact.module.memories[index]? = some shape →
        ∃ address memory,
          owning.memories[made.artifact.module.importedMemories.length + index]? = some address ∧
            context.store.memories[address]? = some memory ∧
              memory.greatest = shape.size.greatest ∧
                memory.pages ≤ pageBound limit shape.size.greatest
  /-- Every memory can grow as far as its bound, and no further. -/
  grows : ∀ handle memory, context.memory handle = .ok memory → ∀ delta,
    context.GrowsExactly limit handle memory delta

namespace Life

variable {σ : Type} {fresh : Context σ} {past : List (Stage σ × Act σ)} {stage : Stage σ}

/-- A memory that the host created is there from then on, with its declared greatest size. -/
theorem created_declares (life : Life fresh past stage) (begins : fresh.Sound)
    (tended : fresh.store.Tended) (valid : LinksValid past) {happened : Stage σ × Act σ}
    (member : happened ∈ past) {type : MemoryType} {handle : MemoryHandle} {after : Context σ}
    (asked : happened.1.asked? happened.2 = some (.createMemory type))
    (made : happened.1.context.answer (.createMemory type) = .answered (.ok handle, after)) :
    ∃ memory, stage.context.memory handle = .ok memory ∧
      memory.greatest = type.limits.maximum.map UInt64.toNat := by
  induction life with
  | created => contradiction
  | @acted past before next act life taken inductionHypothesis =>
      obtain ⟨now, earlier⟩ := List.forall_mem_cons.1 valid
      rcases List.mem_cons.1 member with rfl | before
      · rw [Stage.take_answered taken asked made]
        exact Context.createMemory_declares made
      · obtain ⟨memory, found, greatest⟩ := inductionHypothesis earlier before
        obtain ⟨own, isMemory⟩ := Context.memory_eq_ok_iff.1 found
        have ages := (take_tended (life.tended tended earlier) taken now).1
        have sameId := ((life.sound begins).take_leads taken).extension.id
        obtain ⟨later, isLater, aged⟩ := ages.memories _ memory isMemory
        exact ⟨later, Context.memory_eq_ok_iff.2 ⟨own.trans sameId.symm, isLater⟩,
          aged.greatest.trans greatest⟩

/-- In every life of a context, each memory is within the limit and its own greatest size,
and grows exactly within them. -/
theorem memoryLimited {id : ContextId} {environment : Environment} {data : σ}
    (life : Life (.create id environment data) past stage) (valid : LinksValid past) :
    MemoryLimited environment.config.maxMemoryPages.toNat past stage.context := by
  have begins := Context.create_sound id environment data
  have freshTended := Context.create_tended id environment data
  have tended := life.tended freshTended valid
  have sameConfig : stage.context.config = environment.config :=
    (life.extension begins).config_eq
  have within (memory : Memory) (member : memory ∈ stage.context.store.memories) :
      memory.Within environment.config.maxMemoryBytes.toNat := by
    rw [← sameConfig]
    exact tended.bounded.memories memory member
  have every (memory : Memory) (member : memory ∈ stage.context.store.memories) :
      memory.pages ≤ pageBound environment.config.maxMemoryPages.toNat memory.greatest :=
    Memory.within_iff.1 (within memory member)
  refine ⟨every, ?created, ?defined, ?grows⟩
  case created =>
    intro happened member type handle after asked made
    obtain ⟨memory, found, greatest⟩ :=
      life.created_declares begins freshTended valid member asked made
    have isMemory := (Context.memory_eq_ok_iff.1 found).2
    have bounded := every memory (Array.mem_of_getElem? isMemory)
    rw [greatest] at bounded
    exact ⟨memory, found, greatest, bounded⟩
  case defined =>
    intro inst made entry
    obtain ⟨-, owning, isOwning, isModule⟩ := life.instance_of_entry begins rfl valid entry
    refine ⟨owning, isOwning, ?_⟩
    intro index shape isShape
    have placed := tended.placed owning (Array.mem_of_getElem? isOwning)
    rw [← isModule] at isShape ⊢
    obtain ⟨address, isAddress, memory, isMemory, -, greatest⟩ :=
      Context.forall₂_getElem? placed.defined.flip isShape
    rw [List.getElem?_drop, Array.getElem?_toList] at isAddress
    have bounded := every memory (Array.mem_of_getElem? isMemory)
    rw [greatest] at bounded
    exact ⟨address, memory, isAddress, isMemory, greatest, bounded⟩
  case grows =>
    intro handle memory found delta
    have isMemory := (Context.memory_eq_ok_iff.1 found).2
    have isWithin := within memory (Array.mem_of_getElem? isMemory)
    rw [← sameConfig] at isWithin ⊢
    exact Context.growsExactly found isWithin delta

end Life

/-! ## Memories of the host and of a module -/

namespace MemoriesLimited

/-- A module that defines a memory of one page, and of four at most. -/
def artifact : Artifact where
  environment := ⟨0⟩
  serial := 0
  module := { memories := [⟨⟨1, some 4⟩, false⟩] }
  digest := []
  surface := ⟨[], []⟩
  surface_eq := rfl

/-- An environment that allows memories of three pages. -/
def environment : Environment := { id := ⟨0⟩, config := { maxMemoryPages := 3 } }

theorem artifact_valid : artifact.module.Valid := ⟨⟨false, false, false⟩, rfl⟩

/-- The host creates a memory of two pages, and a module is linked that has its own.  The
first one grows to the limit, and then not any more. -/
theorem lives : ∃ past context, Life (.create ⟨0⟩ environment ()) past (.idle context) ∧
    LinksValid past ∧ context.store.memories.toList.map Memory.pages = [3, 1] := by
  have made : Life (.create ⟨0⟩ environment ()) _ _ := Life.created.acted (show Stage.take _
    (.ask (.createMemory ⟨⟨2, none⟩⟩)) = some _ from rfl)
  have linked := made.acted (show Stage.take _ (.link artifact []) = some _ from rfl)
  have closed := linked.acted (show Stage.take _ .close = some _ from rfl)
  have grown := closed.acted
    (show Stage.take _ (.ask (.growMemory ⟨⟨0⟩, 0, none⟩ 1)) = some _ from rfl)
  have refused := grown.acted
    (show Stage.take _ (.ask (.growMemory ⟨⟨0⟩, 0, none⟩ 1)) = some _ from rfl)
  refine ⟨_, _, refused, ?_, rfl⟩
  exact .silent (.silent (.silent (.linked (.silent .nil rfl) rfl artifact_valid) rfl) rfl) rfl

end MemoriesLimited

/-- The memories of the host and of the module are within the limit. -/
theorem Life.memoryLimited_of_grown : ∃ past context,
    Life (.create ⟨0⟩ MemoriesLimited.environment ()) past (.idle context) ∧
      MemoryLimited 3 past context ∧ context.store.memories.toList.map Memory.pages = [3, 1] := by
  obtain ⟨past, context, life, valid, pages⟩ := MemoriesLimited.lives
  exact ⟨past, context, life, Life.memoryLimited life valid, pages⟩

end WasmSandbox
