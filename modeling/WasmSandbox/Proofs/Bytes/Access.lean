import WasmSandbox.Proofs.Bytes.Storage
import WasmSandbox.Proofs.Engine.Effects

/-!
Contract: which ranges of a sequence of bytes can be read and written, and what that does.

Owns:
- the check of a range, as a comparison of natural numbers;
- that ranges within the sequence, and no others, are read and written;
- that no address outside is used, and no end of a range wraps around;
- the laws of reading after writing, writing after reading, and writing twice.

The check adds in 64 bits and refuses a sum that does not fit.  That is no further condition
for a sequence whose size is a 64-bit number, as that of every sequence in a machine is.

Does not own: words (`WasmSandbox.Proofs.Bytes.Words`), or whose bytes they are
(`WasmSandbox.Proofs.Context.MemoryAccess`).
-/

namespace WasmSandbox.Bytes

/-! ## The check of a range -/

section

variable {size : Nat} {offset : UInt64} {length : Nat}

/-- The end of a range is its sum where 64 bits are enough for it. -/
theorem rangeEnd?_eq_some_iff {stop : UInt64} :
    rangeEnd? offset length = some stop ↔ stop.toNat = offset.toNat + length := by
  unfold rangeEnd?
  have wraps : (offset + UInt64.ofNat length).toNat = (offset.toNat + length) % UInt64.size := by
    simp [UInt64.toNat_add, UInt64.size]
  by_cases fits : offset.toNat + length < UInt64.size
  · rw [if_pos fits, Option.some.injEq, ← UInt64.toNat_inj, wraps, Nat.mod_eq_of_lt fits]
    exact eq_comm
  · rw [if_neg fits]
    have small : stop.toNat < UInt64.size := stop.toNat_lt
    exact ⟨nofun, fun same => absurd (same ▸ small) fits⟩

theorem exists_rangeEnd? (fits : offset.toNat + length < UInt64.size) :
    ∃ stop, rangeEnd? offset length = some stop ∧ stop.toNat = offset.toNat + length := by
  have isEnd : (UInt64.ofNat (offset.toNat + length)).toNat = offset.toNat + length :=
    UInt64.toNat_ofNat_of_lt' fits
  exact ⟨_, rangeEnd?_eq_some_iff.2 isEnd, isEnd⟩

theorem checkRange_of_inside (addressable : size < UInt64.size)
    (inside : offset.toNat + length ≤ size) : checkRange size offset length = .ok () := by
  obtain ⟨stop, found, isEnd⟩ := exists_rangeEnd? (Nat.lt_of_le_of_lt inside addressable)
  unfold checkRange
  rw [found]
  exact if_neg (Nat.not_lt.2 (isEnd ▸ inside))

/-- A range that passes the end is refused, with or without an overflow. -/
theorem checkRange_of_outside (outside : size < offset.toNat + length) :
    checkRange size offset length = .error (.outOfBounds offset.toNat length size) := by
  unfold checkRange
  cases isEnd : rangeEnd? offset length with
  | none => rfl
  | some stop =>
      rw [← rangeEnd?_eq_some_iff.1 isEnd] at outside
      exact if_pos outside

theorem inside_of_checkRange (passed : checkRange size offset length = .ok ()) :
    offset.toNat + length ≤ size := by
  refine Nat.le_of_not_lt fun outside => ?_
  rw [checkRange_of_outside outside] at passed
  contradiction

end

/-! ## Reading and writing -/

variable {β : Type} [ByteSpace β]

section

variable {space : β} {offset : UInt64} {length : Nat} {bytes : List UInt8}

theorem read_of_inside (addressable : ByteSpace.size space < UInt64.size)
    (inside : offset.toNat + length ≤ ByteSpace.size space) :
    read space offset length = .ok (slice space offset.toNat length) := by
  rw [read, checkRange_of_inside addressable inside]
  rfl

theorem read_of_outside (outside : ByteSpace.size space < offset.toNat + length) :
    read space offset length =
      .error (.outOfBounds offset.toNat length (ByteSpace.size space)) := by
  rw [read, checkRange_of_outside outside]
  rfl

theorem write_of_inside (addressable : ByteSpace.size space < UInt64.size)
    (inside : offset.toNat + bytes.length ≤ ByteSpace.size space) :
    write space offset bytes = .ok (storeAll space offset.toNat bytes) := by
  rw [write, checkRange_of_inside addressable inside]
  rfl

theorem write_of_outside (outside : ByteSpace.size space < offset.toNat + bytes.length) :
    write space offset bytes =
      .error (.outOfBounds offset.toNat bytes.length (ByteSpace.size space)) := by
  rw [write, checkRange_of_outside outside]
  rfl

/-- What was read is a slice within the sequence. -/
theorem read_eq_ok_iff (addressable : ByteSpace.size space < UInt64.size) :
    read space offset length = .ok bytes ↔
      offset.toNat + length ≤ ByteSpace.size space ∧ bytes = slice space offset.toNat length := by
  rcases Nat.lt_or_ge (ByteSpace.size space) (offset.toNat + length) with outside | inside
  · rw [read_of_outside outside]
    exact ⟨nofun, fun ⟨inside, _⟩ => absurd inside (Nat.not_le.2 outside)⟩
  · rw [read_of_inside addressable inside, Except.ok.injEq]
    exact ⟨fun same => ⟨inside, same.symm⟩, fun ⟨_, same⟩ => same.symm⟩

theorem write_eq_ok_iff (addressable : ByteSpace.size space < UInt64.size) {after : β} :
    write space offset bytes = .ok after ↔
      offset.toNat + bytes.length ≤ ByteSpace.size space ∧
        after = storeAll space offset.toNat bytes := by
  rcases Nat.lt_or_ge (ByteSpace.size space) (offset.toNat + bytes.length) with outside | inside
  · rw [write_of_outside outside]
    exact ⟨nofun, fun ⟨inside, _⟩ => absurd inside (Nat.not_le.2 outside)⟩
  · rw [write_of_inside addressable inside, Except.ok.injEq]
    exact ⟨fun same => ⟨inside, same.symm⟩, fun ⟨_, same⟩ => same.symm⟩

end

/-- What reading and writing do to a sequence of bytes, at every 64-bit offset and for every
length.  Ends of ranges are natural numbers, so a sum never wraps around. -/
structure ExactAccess (space : β) : Prop where
  /-- A range that ends within the sequence is read: every one of its bytes, in order. -/
  reads : ∀ (offset : UInt64) (length : Nat), offset.toNat + length ≤ ByteSpace.size space →
    ∃ bytes, read space offset length = .ok bytes ∧ bytes.length = length ∧
      ∀ index < length, bytes[index]? = some (ByteSpace.byte space (offset.toNat + index))
  /-- Any other range is refused with its offset, its length and the size. -/
  refusesRead : ∀ (offset : UInt64) (length : Nat), ByteSpace.size space < offset.toNat + length →
    read space offset length = .error (.outOfBounds offset.toNat length (ByteSpace.size space))
  /-- A range that ends within the sequence is written: the sequence keeps its size, has the
  data in the range, and its old bytes everywhere else. -/
  writes : ∀ (offset : UInt64) (bytes : List UInt8),
    offset.toNat + bytes.length ≤ ByteSpace.size space →
      ∃ after, write space offset bytes = .ok after ∧
        ByteSpace.size after = ByteSpace.size space ∧
        (∀ index value, bytes[index]? = some value →
          ByteSpace.byte after (offset.toNat + index) = value) ∧
        ∀ address, (address < offset.toNat ∨ offset.toNat + bytes.length ≤ address) →
          ByteSpace.byte after address = ByteSpace.byte space address
  /-- Any other range is refused, and there is no other sequence then. -/
  refusesWrite : ∀ (offset : UInt64) (bytes : List UInt8),
    ByteSpace.size space < offset.toNat + bytes.length →
      write space offset bytes =
        .error (.outOfBounds offset.toNat bytes.length (ByteSpace.size space))
  /-- A range that passes the check ends where it should and within the sequence, and no
  address is missing when it is read or when something of its length is stored. -/
  inRange : ∀ (offset : UInt64) (length : Nat),
    checkRange (ByteSpace.size space) offset length = .ok () →
      (∃ stop, rangeEnd? offset length = some stop ∧ stop.toNat = offset.toNat + length ∧
        offset ≤ stop ∧ stop.toNat ≤ ByteSpace.size space) ∧
      (slice? space offset.toNat length).isSome ∧
      ∀ bytes : List UInt8, bytes.length = length →
        (storeAll? space offset.toNat bytes).isSome
  /-- What was written is read. -/
  readsBack : ∀ (offset : UInt64) (bytes : List UInt8) (after : β),
    write space offset bytes = .ok after → read after offset bytes.length = .ok bytes
  /-- A range apart from the one that was written is read as before. -/
  unaffected : ∀ (offset : UInt64) (bytes : List UInt8) (after : β),
    write space offset bytes = .ok after → ∀ (other : UInt64) (length : Nat),
      Apart offset.toNat bytes.length other.toNat length →
        read after other length = read space other length
  /-- Writing what was read changes nothing. -/
  restores : ∀ (offset : UInt64) (length : Nat) (bytes : List UInt8),
    read space offset length = .ok bytes → write space offset bytes = .ok space
  /-- Two ranges apart from each other can be written in either order. -/
  commutes : ∀ (first : UInt64) (firstBytes : List UInt8) (second : UInt64)
    (secondBytes : List UInt8) (one other : β),
    Apart first.toNat firstBytes.length second.toNat secondBytes.length →
      write space first firstBytes = .ok one → write space second secondBytes = .ok other →
        ∃ both, write one second secondBytes = .ok both ∧ write other first firstBytes = .ok both

/-- Access to bytes is exact: ranges within a sequence, and no others, are read and written,
and nothing else of it changes. -/
theorem exactAccess [LawfulByteSpace β] (space : β)
    (addressable : ByteSpace.size space < UInt64.size) : ExactAccess space where
  reads offset length inside :=
    ⟨_, read_of_inside addressable inside, length_slice ..,
      fun _ below => getElem?_slice _ _ _ below⟩
  refusesRead _ _ outside := read_of_outside outside
  writes offset bytes inside :=
    ⟨_, write_of_inside addressable inside, size_storeAll ..,
      fun _ _ found => byte_storeAll_of_inside inside found,
      fun _ outside => byte_storeAll_of_outside outside⟩
  refusesWrite _ _ outside := write_of_outside outside
  inRange offset length passed := by
    have inside := inside_of_checkRange passed
    obtain ⟨stop, found, isEnd⟩ := exists_rangeEnd? (Nat.lt_of_le_of_lt inside addressable)
    refine ⟨⟨stop, found, isEnd, ?_, isEnd ▸ inside⟩, ?_, ?_⟩
    · rw [UInt64.le_iff_toNat_le, isEnd]
      exact Nat.le_add_right ..
    · rw [slice?_of_inside space inside]
      rfl
    · rintro bytes rfl
      rw [storeAll?_of_inside space inside]
      rfl
  readsBack offset bytes after written := by
    obtain ⟨inside, rfl⟩ := (write_eq_ok_iff addressable).1 written
    have sameSize := size_storeAll space offset.toNat bytes
    rw [read_of_inside (sameSize ▸ addressable) (sameSize ▸ inside), slice_storeAll inside]
  unaffected offset bytes after written other length apart := by
    obtain ⟨-, rfl⟩ := (write_eq_ok_iff addressable).1 written
    have sameSize := size_storeAll space offset.toNat bytes
    rw [read, read, sameSize, slice_storeAll_of_apart apart]
  restores offset length bytes isRead := by
    obtain ⟨inside, rfl⟩ := (read_eq_ok_iff addressable).1 isRead
    rw [write_of_inside addressable (by rwa [length_slice]), storeAll_slice]
  commutes first firstBytes second secondBytes one other apart firstWritten secondWritten := by
    obtain ⟨firstInside, rfl⟩ := (write_eq_ok_iff addressable).1 firstWritten
    obtain ⟨secondInside, rfl⟩ := (write_eq_ok_iff addressable).1 secondWritten
    have oneSize := size_storeAll space first.toNat firstBytes
    have otherSize := size_storeAll space second.toNat secondBytes
    refine ⟨_, write_of_inside (oneSize ▸ addressable) (oneSize ▸ secondInside), ?_⟩
    rw [write_of_inside (otherSize ▸ addressable) (otherSize ▸ firstInside), storeAll_comm apart]

/-- Access to a buffer of five bytes and to a page is exact.  Three bytes can be written at
the end of the buffer and nothing behind it, whether or not 64 bits hold its address. -/
theorem exactAccess_of_addressable :
    ExactAccess (⟨#[1, 2, 3, 4, 5]⟩ : ByteArray) ∧ ExactAccess (PagedBytes.zeros 1) ∧
      read (⟨#[1, 2, 3, 4, 5]⟩ : ByteArray) 2 3 = .ok [3, 4, 5] ∧
      read (⟨#[1, 2, 3, 4, 5]⟩ : ByteArray) 5 0 = .ok [] ∧
      read (⟨#[1, 2, 3, 4, 5]⟩ : ByteArray) 3 3 = .error (.outOfBounds 3 3 5) ∧
      read (⟨#[1, 2, 3, 4, 5]⟩ : ByteArray) 0xffffffffffffffff 2 =
        .error (.outOfBounds 0xffffffffffffffff 2 5) :=
  ⟨exactAccess _ (by decide), exactAccess _ (by decide), rfl, rfl, rfl, rfl⟩

end WasmSandbox.Bytes
