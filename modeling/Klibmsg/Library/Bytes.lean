import Mathlib.Data.List.Basic
import Mathlib.Tactic.Ring

/-!
# Little-endian words and byte memories

A word of `8 * n` bits is laid out as `n` bytes, least significant first.  A byte memory is a
function from 64-bit addresses; a contiguous write followed by a read of the same range returns
the bytes written.
-/

/-- One octet. -/
abbrev Byte := BitVec 8

namespace Bytes

/-- The `n` low bytes of a number, least significant first. -/
def ofNat : Nat → Nat → List Byte
  | 0, _ => []
  | n + 1, value => BitVec.ofNat 8 value :: ofNat n (value / 256)

/-- The number whose little-endian bytes are given. -/
def toNat : List Byte → Nat
  | [] => 0
  | byte :: bytes => byte.toNat + 256 * toNat bytes

@[simp]
theorem length_ofNat (n value : Nat) : (ofNat n value).length = n := by
  induction n generalizing value with
  | zero => rfl
  | succ n ih => simp [ofNat, ih]

theorem toNat_lt (bytes : List Byte) : toNat bytes < 256 ^ bytes.length := by
  induction bytes with
  | nil => simp [toNat]
  | cons byte bytes ih =>
      have byte_lt : byte.toNat < 256 := byte.isLt
      simp only [toNat, List.length_cons, pow_succ]
      omega

theorem toNat_ofNat (n value : Nat) : toNat (ofNat n value) = value % 256 ^ n := by
  induction n generalizing value with
  | zero => simp [ofNat, toNat, Nat.mod_one]
  | succ n ih =>
      have low : (BitVec.ofNat 8 value).toNat = value % 256 := BitVec.toNat_ofNat value 8
      rw [ofNat, toNat, ih, low, Nat.pow_succ', Nat.mod_mul]

theorem ofNat_toNat (bytes : List Byte) : ofNat bytes.length (toNat bytes) = bytes := by
  induction bytes with
  | nil => rfl
  | cons byte bytes ih =>
      have byte_lt : byte.toNat < 256 := byte.isLt
      have low : (byte.toNat + 256 * toNat bytes) % 256 = byte.toNat := by omega
      have high : (byte.toNat + 256 * toNat bytes) / 256 = toNat bytes := by omega
      simp only [List.length_cons, ofNat, toNat, high, ih, List.cons.injEq, and_true]
      apply BitVec.eq_of_toNat_eq
      simp [low]

/-- A 64-bit word as eight bytes. -/
def ofWord (word : BitVec 64) : List Byte := ofNat 8 word.toNat

/-- The 64-bit word stored in the first eight bytes of a list. -/
def toWord (bytes : List Byte) : BitVec 64 := BitVec.ofNat 64 (toNat (bytes.take 8))

@[simp]
theorem length_ofWord (word : BitVec 64) : (ofWord word).length = 8 := by simp [ofWord]

@[simp]
theorem toWord_ofWord_append (word : BitVec 64) (rest : List Byte) :
    toWord (ofWord word ++ rest) = word := by
  rw [toWord, List.take_left' (length_ofWord word)]
  apply BitVec.eq_of_toNat_eq
  have word_lt : word.toNat < 2 ^ 64 := word.isLt
  rw [ofWord, toNat_ofNat, BitVec.toNat_ofNat]
  norm_num at word_lt ⊢
  omega

theorem ofWord_toWord {bytes : List Byte} (enough : 8 ≤ bytes.length) :
    ofWord (toWord bytes) = bytes.take 8 := by
  have length_eq : (bytes.take 8).length = 8 := by simp [enough]
  have value_lt := toNat_lt (bytes.take 8)
  rw [length_eq] at value_lt
  rw [ofWord, toWord, BitVec.toNat_ofNat, Nat.mod_eq_of_lt (by simpa using value_lt)]
  calc
    ofNat 8 (toNat (bytes.take 8)) =
        ofNat (bytes.take 8).length (toNat (bytes.take 8)) := by rw [length_eq]
    _ = bytes.take 8 := ofNat_toNat _

end Bytes

/-- A byte memory addressed by 64-bit pointers. -/
abbrev Memory := BitVec 64 → Byte

namespace Memory

/-- The `count` bytes starting at `address`. -/
def read (memory : Memory) (address : BitVec 64) (count : Nat) : List Byte :=
  (List.range count).map fun index => memory (address + BitVec.ofNat 64 index)

/-- Store a list of bytes from `address` on. -/
def write (memory : Memory) (address : BitVec 64) (bytes : List Byte) : Memory :=
  fun location => bytes[(location - address).toNat]?.getD (memory location)

@[simp]
theorem length_read (memory : Memory) (address : BitVec 64) (count : Nat) :
    (memory.read address count).length = count := by simp [read]

@[simp]
theorem write_nil (memory : Memory) (address : BitVec 64) : memory.write address [] = memory := by
  funext location
  simp [write]

theorem read_take (memory : Memory) (address : BitVec 64) {small large : Nat}
    (le : small ≤ large) :
    (memory.read address large).take small = memory.read address small := by
  simp [read, ← List.map_take, List.take_range, Nat.min_eq_left le]

theorem read_add (memory : Memory) (address : BitVec 64) (first second : Nat) :
    memory.read address (first + second) =
      memory.read address first ++ memory.read (address + BitVec.ofNat 64 first) second := by
  simp only [read, List.range_add, List.map_append, List.map_map]
  congr 1
  apply List.map_congr_left
  intro index _
  simp [BitVec.ofNat_add, BitVec.add_assoc]

theorem read_congr {memory other : Memory} {address : BitVec 64} {count : Nat}
    (agree : ∀ index < count,
      memory (address + BitVec.ofNat 64 index) = other (address + BitVec.ofNat 64 index)) :
    memory.read address count = other.read address count := by
  apply List.map_congr_left
  intro index member
  exact agree index (List.mem_range.mp member)

private theorem offset_toNat (address : BitVec 64) {index : Nat} (small : index < 2 ^ 64) :
    (address + BitVec.ofNat 64 index - address).toNat = index := by
  rw [BitVec.add_comm, BitVec.add_sub_cancel, BitVec.toNat_ofNat, Nat.mod_eq_of_lt small]

/-- Reading back a contiguous write. -/
theorem read_write (memory : Memory) (address : BitVec 64) {bytes : List Byte}
    (small : bytes.length ≤ 2 ^ 64) :
    (memory.write address bytes).read address bytes.length = bytes := by
  apply List.ext_getElem
  · simp
  · intro index _ inside
    simp only [read, List.getElem_map, List.getElem_range, write]
    rw [offset_toNat address (inside.trans_le small), List.getElem?_eq_getElem inside,
      Option.getD_some]

/-- A write behind a range leaves the range as it was. -/
theorem read_write_after (memory : Memory) (address : BitVec 64) (count : Nat)
    {bytes : List Byte} (small : count + bytes.length ≤ 2 ^ 64) :
    (memory.write (address + BitVec.ofNat 64 count) bytes).read address count =
      memory.read address count := by
  apply read_congr
  intro index index_lt
  have outside : bytes.length ≤
      (address + BitVec.ofNat 64 index - (address + BitVec.ofNat 64 count)).toNat := by
    have shift : address + BitVec.ofNat 64 index - (address + BitVec.ofNat 64 count) =
        BitVec.ofNat 64 index - BitVec.ofNat 64 count := by bv_omega
    rw [shift, BitVec.toNat_sub]
    simp only [BitVec.toNat_ofNat]
    omega
  rw [write, List.getElem?_eq_none outside, Option.getD_none]

/-- A write extending a range that was written before it. -/
theorem read_write_extend (memory : Memory) (address : BitVec 64) (count : Nat)
    {bytes : List Byte} (small : count + bytes.length ≤ 2 ^ 64) :
    (memory.write (address + BitVec.ofNat 64 count) bytes).read address
        (count + bytes.length) =
      memory.read address count ++ bytes := by
  rw [read_add, read_write_after memory address count small, read_write]
  omega

/-- A write changes nothing outside its range. -/
theorem write_of_ne (memory : Memory) (address : BitVec 64) {bytes : List Byte}
    {location : BitVec 64}
    (outside : ∀ index < bytes.length, location ≠ address + BitVec.ofNat 64 index) :
    memory.write address bytes location = memory location := by
  have beyond : bytes.length ≤ (location - address).toNat := by
    by_contra inside
    refine outside _ (Nat.not_le.mp inside) ?_
    rw [BitVec.ofNat_toNat, BitVec.setWidth_eq]
    bv_omega
  rw [write, List.getElem?_eq_none beyond, Option.getD_none]

/-- Two writes, the second one where the first one ends. -/
theorem write_append (memory : Memory) (address : BitVec 64) {first second : List Byte}
    (small : first.length + second.length ≤ 2 ^ 64) :
    (memory.write address first).write (address + BitVec.ofNat 64 first.length) second =
      memory.write address (first ++ second) := by
  funext location
  have shift : location - (address + BitVec.ofNat 64 first.length) =
      (location - address) - BitVec.ofNat 64 first.length := by bv_omega
  have bounded := (location - address).isLt
  simp only [write, shift, BitVec.toNat_sub (location - address), BitVec.toNat_ofNat]
  generalize (location - address).toNat = distance at bounded ⊢
  by_cases inside : distance < first.length
  · rw [List.getElem?_eq_none (show second.length ≤ _ by omega), Option.getD_none,
      List.getElem?_append_left inside]
  · by_cases last : first.length < 2 ^ 64
    · have behind : (2 ^ 64 - first.length % 2 ^ 64 + distance) % 2 ^ 64 =
          distance - first.length := by omega
      rw [behind, List.getElem?_append_right (by omega),
        List.getElem?_eq_none (show first.length ≤ distance by omega), Option.getD_none]
    · omega

end Memory
