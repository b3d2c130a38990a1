import WasmSandbox.Bytes.Paged

/-!
Contract: sequences of bytes as storage.

Owns:
- the laws of a `ByteSpace`, for plain buffers and for sequences of pages;
- what storing a list of bytes leaves at every address;
- that lists stored apart from each other commute, and that storing what is there changes
  nothing;
- access that gives up at an address outside of the sequence, and that it does not where the
  whole range is inside.

Does not own: the check of a range before its bytes are accessed
(`WasmSandbox.Proofs.Bytes.Access`).
-/

namespace WasmSandbox

/-- The laws of a sequence of bytes: replacing a byte keeps the size and all other bytes, and a
sequence is determined by its size and its bytes. -/
class LawfulByteSpace (β : Type) [ByteSpace β] : Prop where
  size_store : ∀ (space : β) (index : Nat) (value : UInt8),
    ByteSpace.size (ByteSpace.store space index value) = ByteSpace.size space
  byte_store : ∀ (space : β) (index : Nat) (value : UInt8) (address : Nat),
    ByteSpace.byte (ByteSpace.store space index value) address =
      if address = index ∧ index < ByteSpace.size space then value
      else ByteSpace.byte space address
  ext : ∀ one other : β, ByteSpace.size one = ByteSpace.size other →
    (∀ address < ByteSpace.size one, ByteSpace.byte one address = ByteSpace.byte other address) →
      one = other

/-! ## Buffers -/

section

variable (buffer : ByteArray) (index : Nat) (value : UInt8)

theorem byte_buffer : ByteSpace.byte buffer index = buffer.data[index]?.getD 0 := by
  simp only [ByteSpace.byte]
  by_cases inside : index < buffer.size
  · rw [dif_pos inside, Array.getElem?_eq_getElem inside]
    rfl
  · rw [dif_neg inside, Array.getElem?_eq_none (Nat.le_of_not_lt inside)]
    rfl

theorem byte_of_lt_buffer (inside : index < buffer.size) :
    ByteSpace.byte buffer index = buffer[index] :=
  dif_pos inside

theorem store_of_lt_buffer (inside : index < buffer.size) :
    ByteSpace.store buffer index value = buffer.set index value inside :=
  dif_pos inside

theorem store_of_not_lt_buffer (outside : ¬index < buffer.size) :
    ByteSpace.store buffer index value = buffer :=
  dif_neg outside

theorem store_buffer_data :
    (ByteSpace.store buffer index value).data = buffer.data.setIfInBounds index value := by
  by_cases inside : index < buffer.size
  · rw [store_of_lt_buffer buffer index value inside]
    have within : index < buffer.data.size := inside
    rw [Array.setIfInBounds, dif_pos within]
    rfl
  · rw [store_of_not_lt_buffer buffer index value inside]
    exact (Array.setIfInBounds_eq_of_size_le (Nat.le_of_not_lt inside)).symm

end

instance : LawfulByteSpace ByteArray where
  size_store buffer index value := by
    change (ByteSpace.store buffer index value).data.size = buffer.data.size
    rw [store_buffer_data, Array.size_setIfInBounds]
  byte_store buffer index value address := by
    rw [byte_buffer, byte_buffer, store_buffer_data, Array.getElem?_setIfInBounds]
    change _ = if address = index ∧ index < buffer.size then value else _
    by_cases here : index = address
    · subst here
      by_cases inside : index < buffer.size
      · simp [inside]
      · simp [inside]
    · simp [here, Ne.symm here]
  ext one other sameSize same := by
    refine ByteArray.ext_getElem sameSize ?_
    intro index inOne inOther
    rw [← byte_of_lt_buffer one index inOne, ← byte_of_lt_buffer other index inOther]
    exact same index inOne

/-! ## Pages -/

namespace Page

variable (page : Page) (index : Nat) (value : UInt8)

/-- The bytes of a page are those of a buffer. -/
theorem byte_eq : page.byte index = ByteSpace.byte page.val index :=
  rfl

theorem store_val : (page.store index value).val = ByteSpace.store page.val index value := by
  by_cases inside : index < page.val.size
  · rw [store_of_lt_buffer page.val index value inside]
    exact congrArg Subtype.val (dif_pos inside)
  · rw [store_of_not_lt_buffer page.val index value inside]
    exact congrArg Subtype.val (dif_neg inside)

theorem byte_store (address : Nat) :
    (page.store index value).byte address =
      if address = index ∧ index < pageSize then value else page.byte address := by
  rw [byte_eq, store_val, LawfulByteSpace.byte_store]
  change (if address = index ∧ index < page.val.size then value else _) = _
  rw [page.property]
  rfl

theorem ext {one other : Page}
    (same : ∀ index < pageSize, one.byte index = other.byte index) : one = other := by
  refine Subtype.ext (LawfulByteSpace.ext _ _ (one.property.trans other.property.symm) ?_)
  intro index inside
  exact same index (one.property ▸ inside)

end Page

/-- The byte of a page lies at an address of the sequence. -/
theorem PagedBytes.byte_of_page {bytes : PagedBytes} {number : Nat} {page : Page}
    (found : bytes.pages[number]? = some page) {index : Nat} (inside : index < pageSize) :
    bytes.byte (number * pageSize + index) = page.byte index := by
  have positive : 0 < pageSize := by decide
  have quotient : (number * pageSize + index) / pageSize = number := by
    rw [Nat.mul_comm, Nat.mul_add_div positive, Nat.div_eq_of_lt inside, Nat.add_zero]
  have remainder : (number * pageSize + index) % pageSize = index := by
    rw [Nat.mul_comm, Nat.mul_add_mod, Nat.mod_eq_of_lt inside]
  unfold byte
  rw [quotient, remainder, found]

instance : LawfulByteSpace PagedBytes where
  size_store bytes index value := by
    change (bytes.pages.modify _ _).size * pageSize = bytes.pages.size * pageSize
    rw [Array.size_modify]
  byte_store bytes index value address := by
    change (bytes.store index value).byte address =
      if address = index ∧ index < bytes.pages.size * pageSize then value
      else bytes.byte address
    have positive : 0 < pageSize := by decide
    unfold PagedBytes.byte PagedBytes.store
    rw [Array.getElem?_modify]
    cases found : bytes.pages[address / pageSize]? with
    | none =>
        have outside : bytes.pages.size ≤ address / pageSize := Array.getElem?_eq_none_iff.1 found
        have noStore : ¬(address = index ∧ index < bytes.pages.size * pageSize) := by
          rintro ⟨rfl, inside⟩
          exact Nat.not_lt.2 outside ((Nat.div_lt_iff_lt_mul positive).2 inside)
        rw [if_neg noStore]
        by_cases samePage : index / pageSize = address / pageSize <;> simp [samePage]
    | some page =>
        have isPage : address / pageSize < bytes.pages.size :=
          (Array.getElem?_eq_some_iff.1 found).1
        have inside : address < bytes.pages.size * pageSize :=
          (Nat.div_lt_iff_lt_mul positive).1 isPage
        by_cases here : address = index
        · subst here
          simp [Page.byte_store, Nat.mod_lt _ positive, inside]
        · have elsewhere : ¬(index / pageSize = address / pageSize ∧
              address % pageSize = index % pageSize) := by
            rintro ⟨samePage, sameIndex⟩
            exact here ((Nat.div_add_mod address pageSize).symm.trans
              (samePage ▸ sameIndex ▸ Nat.div_add_mod index pageSize))
          by_cases samePage : index / pageSize = address / pageSize
          · have sameIndex : ¬address % pageSize = index % pageSize :=
              fun same => elsewhere ⟨samePage, same⟩
            simp [samePage, Page.byte_store, sameIndex, here]
          · simp [samePage, here]
  ext one other sameSize same := by
    have positive : 0 < pageSize := by decide
    have sameCount : one.pages.size = other.pages.size :=
      Nat.eq_of_mul_eq_mul_right positive sameSize
    obtain ⟨onePages⟩ := one
    obtain ⟨otherPages⟩ := other
    refine congrArg PagedBytes.mk (Array.ext sameCount ?_)
    intro number inOne inOther
    refine Page.ext fun index inside => ?_
    have isAddress : number * pageSize + index < onePages.size * pageSize :=
      Nat.lt_of_lt_of_le (Nat.add_lt_add_left inside _)
        (Nat.succ_mul number pageSize ▸ Nat.mul_le_mul_right pageSize inOne)
    rw [← PagedBytes.byte_of_page (Array.getElem?_eq_getElem inOne) inside,
      ← PagedBytes.byte_of_page (Array.getElem?_eq_getElem inOther) inside]
    exact same _ isAddress

namespace Bytes

variable {β : Type} [ByteSpace β]

/-! ## Slices -/

section

variable (space : β) (start length : Nat)

theorem length_slice : (slice space start length).length = length := by
  rw [slice, List.length_map, List.length_range]

theorem getElem?_slice {index : Nat} (inside : index < length) :
    (slice space start length)[index]? = some (ByteSpace.byte space (start + index)) := by
  rw [slice, List.getElem?_map, List.getElem?_range inside, Option.map_some]

theorem slice_succ : slice space start (length + 1) =
    ByteSpace.byte space start :: slice space (start + 1) length := by
  unfold slice
  rw [List.range_succ_eq_map, List.map_cons, List.map_map, Nat.add_zero]
  refine congrArg (_ :: ·) (List.map_congr_left ?_)
  intro index _
  exact congrArg (ByteSpace.byte space) (by omega)

variable {space start length} in
theorem slice_congr {other : β} (same : ∀ index < length,
    ByteSpace.byte space (start + index) = ByteSpace.byte other (start + index)) :
    slice space start length = slice other start length :=
  List.map_congr_left fun index member => same index (List.mem_range.1 member)

end

/-! ## What is stored -/

/-- Two ranges have no address in common. -/
def Apart (start length other otherLength : Nat) : Prop :=
  ∀ address, ¬((start ≤ address ∧ address < start + length) ∧
    other ≤ address ∧ address < other + otherLength)

section

variable [LawfulByteSpace β] (space : β) (start : Nat) (bytes : List UInt8)

theorem size_storeAll :
    ByteSpace.size (storeAll space start bytes) = ByteSpace.size space := by
  induction bytes generalizing space start with
  | nil => rfl
  | cons value bytes inductionHypothesis =>
      rw [storeAll, inductionHypothesis, LawfulByteSpace.size_store]

/-- At every address of the sequence there is the byte stored for it, and the old one where
none is. -/
theorem byte_storeAll (address : Nat) :
    ByteSpace.byte (storeAll space start bytes) address =
      if start ≤ address ∧ address < ByteSpace.size space then
        bytes[address - start]?.getD (ByteSpace.byte space address)
      else ByteSpace.byte space address := by
  induction bytes generalizing space start with
  | nil => simp [storeAll]
  | cons value bytes inductionHypothesis =>
      rw [storeAll, inductionHypothesis, LawfulByteSpace.size_store, LawfulByteSpace.byte_store]
      rcases Nat.lt_trichotomy address start with before | rfl | after
      · simp [Nat.not_le.2 before, Nat.not_le.2 (Nat.lt_succ_of_lt before), Nat.ne_of_lt before]
      · have passed : ¬address + 1 ≤ address := Nat.not_succ_le_self address
        simp [passed]
      · have next : address - start = address - (start + 1) + 1 := by omega
        simp [next, Nat.le_of_lt after, Nat.succ_le_of_lt after, Nat.ne_of_gt after]

variable {space start bytes}

/-- Outside of the range nothing changes. -/
theorem byte_storeAll_of_outside {address : Nat}
    (outside : address < start ∨ start + bytes.length ≤ address) :
    ByteSpace.byte (storeAll space start bytes) address = ByteSpace.byte space address := by
  rw [byte_storeAll]
  by_cases before : address < start
  · rw [if_neg fun inside => Nat.not_le.2 before inside.1]
  · have beyond : bytes.length ≤ address - start := by omega
    rw [List.getElem?_eq_none beyond, Option.getD_none, ite_self]

/-- Inside of the range there is what was stored. -/
theorem byte_storeAll_of_inside (inside : start + bytes.length ≤ ByteSpace.size space)
    {index : Nat} {value : UInt8} (found : bytes[index]? = some value) :
    ByteSpace.byte (storeAll space start bytes) (start + index) = value := by
  have below : index < bytes.length := (List.getElem?_eq_some_iff.1 found).1
  have covered : start ≤ start + index ∧ start + index < ByteSpace.size space := by omega
  rw [byte_storeAll, if_pos covered, Nat.add_sub_cancel_left, found, Option.getD_some]

/-- What was stored is read back. -/
theorem slice_storeAll (inside : start + bytes.length ≤ ByteSpace.size space) :
    slice (storeAll space start bytes) start bytes.length = bytes := by
  refine List.ext_getElem? fun index => ?_
  by_cases below : index < bytes.length
  · have found := List.getElem?_eq_getElem below
    rw [getElem?_slice _ _ _ below, byte_storeAll_of_inside inside found, found]
  · have short : bytes.length ≤ index := Nat.le_of_not_lt below
    rw [List.getElem?_eq_none short, List.getElem?_eq_none (by rwa [length_slice])]

/-- A range apart from the one that was stored is read as before. -/
theorem slice_storeAll_of_apart {other length : Nat}
    (apart : Apart start bytes.length other length) :
    slice (storeAll space start bytes) other length = slice space other length := by
  refine slice_congr fun index below => byte_storeAll_of_outside ?_
  have := apart (other + index)
  omega

/-- Storing what is there changes nothing. -/
theorem storeAll_slice (space : β) (start length : Nat) :
    storeAll space start (slice space start length) = space := by
  refine LawfulByteSpace.ext _ _ (size_storeAll ..) fun address _ => ?_
  rw [byte_storeAll]
  by_cases covered : start ≤ address ∧ address < ByteSpace.size space
  · rw [if_pos covered]
    by_cases below : address - start < length
    · rw [getElem?_slice _ _ _ below, Option.getD_some, Nat.add_sub_cancel' covered.1]
    · have short : (slice space start length).length ≤ address - start := by
        rw [length_slice]
        exact Nat.le_of_not_lt below
      rw [List.getElem?_eq_none short, Option.getD_none]
  · rw [if_neg covered]

/-- At an address outside of one of two ranges, the order of storing them does not show. -/
theorem byte_storeAll_comm {other address : Nat} {otherBytes : List UInt8}
    (outside : address < other ∨ other + otherBytes.length ≤ address) :
    ByteSpace.byte (storeAll (storeAll space start bytes) other otherBytes) address =
      ByteSpace.byte (storeAll (storeAll space other otherBytes) start bytes) address := by
  rw [byte_storeAll_of_outside outside, byte_storeAll, byte_storeAll, size_storeAll,
    byte_storeAll_of_outside outside]

/-- Lists stored apart from each other can be stored in either order. -/
theorem storeAll_comm {other : Nat} {otherBytes : List UInt8}
    (apart : Apart start bytes.length other otherBytes.length) :
    storeAll (storeAll space start bytes) other otherBytes =
      storeAll (storeAll space other otherBytes) start bytes := by
  refine LawfulByteSpace.ext _ _ (by simp only [size_storeAll]) fun address _ => ?_
  have never := apart address
  by_cases inFirst : start ≤ address ∧ address < start + bytes.length
  · exact byte_storeAll_comm (by omega)
  · exact (byte_storeAll_comm (by omega)).symm

end

/-! ## Access that gives up -/

/-- The bytes from `start` on, if there is one at every address. -/
def slice? (space : β) (start : Nat) : (length : Nat) → Option (List UInt8)
  | 0 => some []
  | length + 1 =>
      if start < ByteSpace.size space then
        (slice? space (start + 1) length).map (ByteSpace.byte space start :: ·)
      else none

/-- The sequence with the given bytes stored from `start` on, if it has all the addresses. -/
def storeAll? (space : β) (start : Nat) : List UInt8 → Option β
  | [] => some space
  | byte :: bytes =>
      if start < ByteSpace.size space then
        storeAll? (ByteSpace.store space start byte) (start + 1) bytes
      else none

/-- Within the sequence no address is missed when it is read. -/
theorem slice?_of_inside (space : β) {start length : Nat}
    (inside : start + length ≤ ByteSpace.size space) :
    slice? space start length = some (slice space start length) := by
  induction length generalizing start with
  | zero => rfl
  | succ length inductionHypothesis =>
      have below : start < ByteSpace.size space := by omega
      have rest : start + 1 + length ≤ ByteSpace.size space := by omega
      rw [slice?, if_pos below, inductionHypothesis rest, Option.map_some, slice_succ]

/-- Within the sequence no address is missed when something is stored. -/
theorem storeAll?_of_inside [LawfulByteSpace β] (space : β) {start : Nat} {bytes : List UInt8}
    (inside : start + bytes.length ≤ ByteSpace.size space) :
    storeAll? space start bytes = some (storeAll space start bytes) := by
  induction bytes generalizing space start with
  | nil => rfl
  | cons value bytes inductionHypothesis =>
      rw [List.length_cons] at inside
      have below : start < ByteSpace.size space := by omega
      rw [storeAll?, if_pos below, storeAll]
      refine inductionHypothesis _ ?_
      rw [LawfulByteSpace.size_store]
      omega

end Bytes

end WasmSandbox
