import Mathlib.Algebra.BigOperators.Ring.List
import Mathlib.Algebra.Ring.Nat
import WasmSandbox.Proofs.Bytes.Access

/-!
Contract: little-endian words in a sequence of bytes.

Owns:
- numbers in base 256: both round trips, and the number as a sum over its digits;
- that a word within the sequence is read and written, and what changes;
- that reading gives what was written, and writing what was read changes nothing.

A word that passes the end is refused as a range of four bytes is.

Does not own: other ranges of bytes (`WasmSandbox.Proofs.Bytes.Access`).
-/

namespace WasmSandbox.Bytes

/-! ## Numbers in base 256 -/

theorem length_toLittleEndian (count value : Nat) :
    (toLittleEndian count value).length = count := by
  induction count generalizing value with
  | zero => rfl
  | succ count inductionHypothesis => rw [toLittleEndian, List.length_cons, inductionHypothesis]

theorem ofLittleEndian_lt (bytes : List UInt8) : ofLittleEndian bytes < 256 ^ bytes.length := by
  induction bytes with
  | nil => decide
  | cons byte bytes inductionHypothesis =>
      have digit : byte.toNat < 256 := byte.toNat_lt
      rw [ofLittleEndian, List.length_cons, Nat.pow_succ]
      omega

/-- The lowest digits of a number write its remainder. -/
theorem ofLittleEndian_toLittleEndian (count value : Nat) :
    ofLittleEndian (toLittleEndian count value) = value % 256 ^ count := by
  induction count generalizing value with
  | zero => rw [Nat.pow_zero, Nat.mod_one]; rfl
  | succ count inductionHypothesis =>
      have digit : (UInt8.ofNat (value % 256)).toNat = value % 256 :=
        UInt8.toNat_ofNat_of_lt' (Nat.mod_lt _ (by decide))
      rw [toLittleEndian, ofLittleEndian, inductionHypothesis, digit, Nat.pow_succ,
        Nat.mul_comm (256 ^ count), Nat.mod_mul]

/-- The digits of a number that a list of bytes writes are these bytes. -/
theorem toLittleEndian_ofLittleEndian (bytes : List UInt8) :
    toLittleEndian bytes.length (ofLittleEndian bytes) = bytes := by
  induction bytes with
  | nil => rfl
  | cons byte bytes inductionHypothesis =>
      have digit : byte.toNat < 256 := byte.toNat_lt
      have lowest : (byte.toNat + 256 * ofLittleEndian bytes) % 256 = byte.toNat := by omega
      have others : (byte.toNat + 256 * ofLittleEndian bytes) / 256 = ofLittleEndian bytes := by
        omega
      rw [ofLittleEndian, List.length_cons, toLittleEndian, lowest, others, inductionHypothesis,
        UInt8.ofNat_toNat]

/-- A number is the sum of its digits, each times its power of 256. -/
theorem ofLittleEndian_slice {β : Type} [ByteSpace β] (space : β) (start length : Nat) :
    ofLittleEndian (slice space start length) =
      ((List.range length).map fun index =>
        (ByteSpace.byte space (start + index)).toNat * 256 ^ index).sum := by
  induction length generalizing start with
  | zero => rfl
  | succ length inductionHypothesis =>
      rw [slice_succ, ofLittleEndian, inductionHypothesis, List.range_succ_eq_map, List.map_cons,
        List.sum_cons, List.map_map, Nat.pow_zero, Nat.mul_one, Nat.add_zero,
        ← List.sum_map_mul_left]
      refine congrArg (_ + List.sum ·) (List.map_congr_left fun index _ => ?_)
      have next : start + 1 + index = start + index.succ := by omega
      rw [Function.comp, next, Nat.pow_succ, Nat.mul_left_comm, Nat.mul_comm 256]

/-! ## Words -/

variable {β : Type} [ByteSpace β]

section

variable {space : β} {offset : UInt64}

/-- Four bytes write a 32-bit number, which is not cut off. -/
theorem toNat_word (start : Nat) :
    (UInt32.ofNat (ofLittleEndian (slice space start 4))).toNat =
      ofLittleEndian (slice space start 4) := by
  refine UInt32.toNat_ofNat_of_lt' ?_
  have bound := ofLittleEndian_lt (slice space start 4)
  rwa [length_slice] at bound

/-- The four bytes of a word are its digits. -/
theorem toLittleEndian_word (start : Nat) :
    toLittleEndian 4 (UInt32.ofNat (ofLittleEndian (slice space start 4))).toNat =
      slice space start 4 := by
  have digits := toLittleEndian_ofLittleEndian (slice space start 4)
  rwa [length_slice, ← toNat_word] at digits

theorem ofLittleEndian_word (value : UInt32) :
    UInt32.ofNat (ofLittleEndian (toLittleEndian 4 value.toNat)) = value := by
  have small : value.toNat < 256 ^ 4 := value.toNat_lt
  rw [ofLittleEndian_toLittleEndian, Nat.mod_eq_of_lt small, UInt32.ofNat_toNat]

theorem readWord_of_inside (addressable : ByteSpace.size space < UInt64.size)
    (inside : offset.toNat + 4 ≤ ByteSpace.size space) :
    readWord space offset = .ok (.ofNat (ofLittleEndian (slice space offset.toNat 4))) := by
  rw [readWord, read_of_inside addressable inside]
  rfl

theorem readWord_of_outside (outside : ByteSpace.size space < offset.toNat + 4) :
    readWord space offset = .error (.outOfBounds offset.toNat 4 (ByteSpace.size space)) := by
  rw [readWord, read_of_outside outside]
  rfl

theorem writeWord_of_inside (addressable : ByteSpace.size space < UInt64.size)
    (inside : offset.toNat + 4 ≤ ByteSpace.size space) (value : UInt32) :
    writeWord space offset value =
      .ok (storeAll space offset.toNat (toLittleEndian 4 value.toNat)) :=
  write_of_inside addressable (by rwa [length_toLittleEndian])

theorem writeWord_of_outside (outside : ByteSpace.size space < offset.toNat + 4)
    (value : UInt32) :
    writeWord space offset value =
      .error (.outOfBounds offset.toNat 4 (ByteSpace.size space)) := by
  rw [writeWord, write_of_outside (by rwa [length_toLittleEndian]), length_toLittleEndian]

end

/-- What reading and writing of words do to a sequence of bytes, at every 64-bit offset and
for every 32-bit number. -/
structure ExactWords (space : β) : Prop where
  /-- A word within the sequence is the sum of its four bytes, each times its power of 256,
  in the order of their addresses. -/
  reads : ∀ offset : UInt64, offset.toNat + 4 ≤ ByteSpace.size space →
    ∃ value, readWord space offset = .ok value ∧
      value.toNat = ((List.range 4).map fun index =>
        (ByteSpace.byte space (offset.toNat + index)).toNat * 256 ^ index).sum
  /-- Every word can be written there.  It is read back, the size stays, and no byte outside
  of the four changes. -/
  writes : ∀ (offset : UInt64) (value : UInt32), offset.toNat + 4 ≤ ByteSpace.size space →
    ∃ after, writeWord space offset value = .ok after ∧ readWord after offset = .ok value ∧
      ByteSpace.size after = ByteSpace.size space ∧
      ∀ address, (address < offset.toNat ∨ offset.toNat + 4 ≤ address) →
        ByteSpace.byte after address = ByteSpace.byte space address
  /-- Writing the word that was read changes nothing. -/
  restores : ∀ (offset : UInt64) (value : UInt32), readWord space offset = .ok value →
    writeWord space offset value = .ok space
  /-- At every other offset both are refused as a range of four bytes is, and there is no other
  sequence then. -/
  refuses : ∀ offset : UInt64, ByteSpace.size space < offset.toNat + 4 →
    readWord space offset = .error (.outOfBounds offset.toNat 4 (ByteSpace.size space)) ∧
      ∀ value, writeWord space offset value =
        .error (.outOfBounds offset.toNat 4 (ByteSpace.size space))

/-- Reading and writing of words are inverse to each other, and use four bytes in
little-endian order. -/
theorem exactWords [LawfulByteSpace β] (space : β)
    (addressable : ByteSpace.size space < UInt64.size) : ExactWords space where
  reads offset inside :=
    ⟨_, readWord_of_inside addressable inside,
      (toNat_word offset.toNat).trans (ofLittleEndian_slice space offset.toNat 4)⟩
  writes offset value inside := by
    have sameSize := size_storeAll space offset.toNat (toLittleEndian 4 value.toNat)
    have digits := length_toLittleEndian 4 value.toNat
    have isBack : slice (storeAll space offset.toNat (toLittleEndian 4 value.toNat))
        offset.toNat 4 = toLittleEndian 4 value.toNat := by
      rw [← digits] at inside
      have stored := slice_storeAll inside
      rwa [digits] at stored
    refine ⟨_, writeWord_of_inside addressable inside value, ?_, sameSize, ?_⟩
    · rw [readWord_of_inside (sameSize ▸ addressable) (sameSize ▸ inside), isBack,
        ofLittleEndian_word]
    · intro address outside
      exact byte_storeAll_of_outside (by rwa [digits])
  restores offset value isRead := by
    rcases Nat.lt_or_ge (ByteSpace.size space) (offset.toNat + 4) with outside | inside
    · rw [readWord_of_outside outside] at isRead
      contradiction
    · rw [readWord_of_inside addressable inside, Except.ok.injEq] at isRead
      rw [← isRead, writeWord_of_inside addressable inside, toLittleEndian_word, storeAll_slice]
  refuses _ outside := ⟨readWord_of_outside outside, writeWord_of_outside outside⟩

/-- Words of a buffer of six bytes and of a page are exact.  The bytes of a word are not the
same in either order, and a word whose end needs more than 64 bits is refused. -/
theorem exactWords_of_addressable :
    ExactWords (⟨#[1, 2, 3, 4, 5, 6]⟩ : ByteArray) ∧ ExactWords (PagedBytes.zeros 1) ∧
      readWord (⟨#[1, 2, 3, 4, 5, 6]⟩ : ByteArray) 2 = .ok 0x06050403 ∧
      (writeWord (⟨#[1, 2, 3, 4, 5, 6]⟩ : ByteArray) 1 0x0a0b0c0d).map ByteArray.data =
        .ok #[1, 0x0d, 0x0c, 0x0b, 0x0a, 6] ∧
      readWord (⟨#[1, 2, 3, 4, 5, 6]⟩ : ByteArray) 3 = .error (.outOfBounds 3 4 6) ∧
      readWord (⟨#[1, 2, 3, 4, 5, 6]⟩ : ByteArray) 0xfffffffffffffffd =
        .error (.outOfBounds 0xfffffffffffffffd 4 6) :=
  ⟨exactWords _ (by decide), exactWords _ (by decide), rfl, rfl, rfl, rfl⟩

end WasmSandbox.Bytes
