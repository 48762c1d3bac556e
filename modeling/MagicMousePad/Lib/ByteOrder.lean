import Mathlib.Tactic.Ring
import Mathlib.Tactic.NormNum
import Mathlib.Data.List.Forall2

/-!
# Byte images of words and byte-addressed memory

A word of `width` bytes has a little-endian and a big-endian image, and `swap`
is the value a little-endian reader finds in the big-endian image.  The second
half is a memory of bytes that datagrams overwrite from its start on, with the
frame fact that a read below the written length does not depend on what the
memory held before.
-/

namespace ByteOrder

/-! ## Byte images -/

/-- The `width` low bytes of `n`, least significant first. -/
def littleEndian : ℕ → ℕ → List UInt8
  | 0, _ => []
  | width + 1, n => UInt8.ofNat n :: littleEndian width (n / 256)

/-- The `width` low bytes of `n`, most significant first. -/
def bigEndian (width n : ℕ) : List UInt8 := (littleEndian width n).reverse

/-- The number a little-endian reader finds in `bytes`. -/
def value : List UInt8 → ℕ
  | [] => 0
  | b :: bytes => b.toNat + 256 * value bytes

/-- The number a little-endian reader finds in the big-endian image of `n`. -/
def swap (width n : ℕ) : ℕ := value (bigEndian width n)

@[simp] theorem length_littleEndian (width n : ℕ) : (littleEndian width n).length = width := by
  induction width generalizing n with
  | zero => rfl
  | succ width ih => simp [littleEndian, ih]

@[simp] theorem length_bigEndian (width n : ℕ) : (bigEndian width n).length = width := by
  simp [bigEndian]

theorem value_littleEndian {width n : ℕ} (bound : n < 256 ^ width) :
    value (littleEndian width n) = n := by
  induction width generalizing n with
  | zero =>
      have zero : n = 0 := by simpa using bound
      rw [zero]
      rfl
  | succ width ih =>
      have high : n / 256 < 256 ^ width := by
        rw [Nat.div_lt_iff_lt_mul (by norm_num), ← pow_succ]
        exact bound
      have low : (UInt8.ofNat n).toNat = n % 256 := by simp
      rw [littleEndian, value, ih high, low]
      omega

theorem value_lt (bytes : List UInt8) : value bytes < 256 ^ bytes.length := by
  induction bytes with
  | nil => simp [value]
  | cons b bytes ih =>
      have low := b.toNat_lt
      rw [value, List.length_cons, pow_succ]
      omega

theorem littleEndian_value (bytes : List UInt8) :
    littleEndian bytes.length (value bytes) = bytes := by
  induction bytes with
  | nil => rfl
  | cons b bytes ih =>
      have low := b.toNat_lt
      have high : (b.toNat + 256 * value bytes) / 256 = value bytes := by omega
      have head : UInt8.ofNat (b.toNat + 256 * value bytes) = b := by
        apply UInt8.toNat_inj.mp
        rw [UInt8.toNat_ofNat']
        omega
      rw [List.length_cons, value, littleEndian, high, ih, head]

/-- Words of one width with the same image are equal. -/
theorem littleEndian_injOn {width n m : ℕ} (bound : n < 256 ^ width) (bound' : m < 256 ^ width)
    (images : littleEndian width n = littleEndian width m) : n = m := by
  rw [← value_littleEndian bound, images, value_littleEndian bound']

theorem bigEndian_injOn {width n m : ℕ} (bound : n < 256 ^ width) (bound' : m < 256 ^ width)
    (images : bigEndian width n = bigEndian width m) : n = m :=
  littleEndian_injOn bound bound' (List.reverse_injective images)

theorem swap_lt (width n : ℕ) : swap width n < 256 ^ width := by
  simpa [swap] using value_lt (bigEndian width n)

/-- Storing a swapped word little-endian leaves the big-endian image of the word. -/
theorem littleEndian_swap (width n : ℕ) :
    littleEndian width (swap width n) = bigEndian width n := by
  simpa [swap] using littleEndian_value (bigEndian width n)

/-- Swapping a word is reading its bytes in the opposite order. -/
theorem swap_value (bytes : List UInt8) :
    swap bytes.length (value bytes) = value bytes.reverse := by
  rw [swap, bigEndian, littleEndian_value]

theorem swap_swap {width n : ℕ} (bound : n < 256 ^ width) : swap width (swap width n) = n := by
  rw [swap, bigEndian, littleEndian_swap, bigEndian, List.reverse_reverse,
    value_littleEndian bound]

/-- A word stored unswapped has a big-endian image exactly when swapping does
not change it. -/
theorem littleEndian_eq_bigEndian_iff {width n : ℕ} (bound : n < 256 ^ width) :
    littleEndian width n = bigEndian width n ↔ swap width n = n := by
  constructor
  · intro images
    rw [swap, ← images, value_littleEndian bound]
  · intro fixed
    rw [← littleEndian_swap, fixed]

/-- Raising bytes raises the number. -/
theorem value_mono {low high : List UInt8}
    (le : List.Forall₂ (fun a b : UInt8 => a.toNat ≤ b.toNat) low high) :
    value low ≤ value high := by
  induction le with
  | nil => exact Nat.le_refl _
  | cons head _ ih =>
      rw [value, value]
      omega

/-! ## Bits -/

/-- A bit of a number stored little-endian lies in the byte of its own significance. -/
theorem testBit_value (bytes : List UInt8) (i : ℕ) :
    (value bytes).testBit i = (bytes.getD (i / 8) 0).toNat.testBit (i % 8) := by
  induction bytes generalizing i with
  | nil => simp [value]
  | cons b bytes ih =>
      have split : value (b :: bytes) = 2 ^ 8 * value bytes + b.toNat := by
        rw [value]
        omega
      rw [split, Nat.testBit_two_pow_mul_add _ b.toNat_lt]
      rcases Nat.lt_or_ge i 8 with low | high
      · rw [if_pos low, Nat.div_eq_of_lt low, Nat.mod_eq_of_lt low, List.getD_cons_zero]
      · have next : i / 8 = (i - 8) / 8 + 1 := by omega
        have same : (i - 8) % 8 = i % 8 := by omega
        rw [if_neg (not_lt.mpr high), ih, next, List.getD_cons_succ, same]

/-- The bit of a word that swapping puts at `i`: the bytes change places, the bits keep
theirs within a byte. -/
def swapIndex (width i : ℕ) : ℕ := 8 * (width - 1 - i / 8) + i % 8

theorem swapIndex_lt {width i : ℕ} (inside : i < 8 * width) : swapIndex width i < 8 * width := by
  unfold swapIndex
  omega

theorem swapIndex_swapIndex {width i : ℕ} (inside : i < 8 * width) :
    swapIndex width (swapIndex width i) = i := by
  unfold swapIndex
  omega

theorem testBit_swap {width n i : ℕ} (bound : n < 256 ^ width) (inside : i < 8 * width) :
    (swap width n).testBit i = n.testBit (swapIndex width i) := by
  have byte : (bigEndian width n).getD (i / 8) 0 =
      (littleEndian width n).getD (width - 1 - i / 8) 0 := by
    have place : i / 8 < (littleEndian width n).length := by
      rw [length_littleEndian]
      omega
    rw [bigEndian, List.getD_eq_getElem?_getD, List.getElem?_reverse place,
      List.getD_eq_getElem?_getD, length_littleEndian]
  have whole : n = value (littleEndian width n) := (value_littleEndian bound).symm
  have bit := testBit_value (littleEndian width n) (swapIndex width i)
  have byteIndex : swapIndex width i / 8 = width - 1 - i / 8 := by
    unfold swapIndex
    omega
  have bitIndex : swapIndex width i % 8 = i % 8 := by
    unfold swapIndex
    omega
  rw [byteIndex, bitIndex, ← whole] at bit
  rw [swap, testBit_value, byte, bit]

/-! ## Comparing byte images -/

/-- The first difference of two byte images, as `memcmp` reports it. -/
def memcmp : List UInt8 → List UInt8 → Int
  | a :: first, b :: second =>
      if a = b then memcmp first second else (a.toNat : Int) - b.toNat
  | _, _ => 0

theorem memcmp_self (bytes : List UInt8) : memcmp bytes bytes = 0 := by
  induction bytes with
  | nil => rfl
  | cons a bytes ih => rw [memcmp, if_pos rfl, ih]

theorem memcmp_antisymm (first second : List UInt8) :
    memcmp second first = -memcmp first second := by
  induction first generalizing second with
  | nil => cases second <;> rfl
  | cons a first ih =>
      cases second with
      | nil => rfl
      | cons b second =>
          rcases eq_or_ne a b with rfl | different
          · rw [memcmp, memcmp, if_pos rfl, if_pos rfl, ih]
          · rw [memcmp, memcmp, if_neg different, if_neg different.symm]
            omega

theorem memcmp_eq_zero {first second : List UInt8} (length : first.length = second.length)
    (same : memcmp first second = 0) : first = second := by
  induction first generalizing second with
  | nil =>
      cases second with
      | nil => rfl
      | cons b second => cases length
  | cons a first ih =>
      cases second with
      | nil => cases length
      | cons b second =>
          rcases eq_or_ne a b with rfl | different
          · rw [memcmp, if_pos rfl] at same
            rw [ih (Nat.succ.inj length) same]
          · rw [memcmp, if_neg different] at same
            exact (different (UInt8.toNat_inj.mp (by omega))).elim

theorem memcmp_trans {first second third : List UInt8}
    (below : memcmp first second < 0) (below' : memcmp second third < 0) :
    memcmp first third < 0 := by
  induction first generalizing second third with
  | nil => exact (lt_irrefl 0 below).elim
  | cons a first ih =>
      cases second with
      | nil => exact (lt_irrefl 0 below).elim
      | cons b second =>
          cases third with
          | nil => exact (lt_irrefl 0 below').elim
          | cons c third =>
              unfold memcmp at below below' ⊢
              rcases eq_or_ne a b with rfl | different
              · rw [if_pos rfl] at below
                rcases eq_or_ne a c with rfl | different'
                · rw [if_pos rfl] at below' ⊢
                  exact ih below below'
                · rw [if_neg different'] at below' ⊢
                  exact below'
              · rw [if_neg different] at below
                rcases eq_or_ne b c with rfl | different'
                · rw [if_neg different]
                  exact below
                · rw [if_neg different'] at below'
                  have apart : a ≠ c := by
                    intro same
                    subst same
                    omega
                  rw [if_neg apart]
                  omega

/-! ## Memory -/

/-- A memory of bytes, addressed from its start. -/
abbrev Memory := ℕ → UInt8

namespace Memory

/-- The memory after `data` has been copied over its start. -/
def overwrite (memory : Memory) (data : List UInt8) : Memory :=
  fun i => data.getD i (memory i)

/-- The `count` bytes from `offset` on. -/
def read (memory : Memory) (offset count : ℕ) : List UInt8 :=
  (List.range count).map fun i => memory (offset + i)

/-- The little-endian word of `width` bytes at `offset`. -/
def word (memory : Memory) (offset width : ℕ) : ℕ := value (memory.read offset width)

@[simp] theorem length_read (memory : Memory) (offset count : ℕ) :
    (memory.read offset count).length = count := by
  simp [read]

theorem word_lt (memory : Memory) (offset width : ℕ) : memory.word offset width < 256 ^ width := by
  simpa [word] using value_lt (memory.read offset width)

theorem overwrite_of_lt {memory : Memory} {data : List UInt8} {i : ℕ} (inside : i < data.length) :
    memory.overwrite data i = data[i] := by
  simp [overwrite, inside]

theorem overwrite_eq_getD {memory : Memory} {data : List UInt8} {i : ℕ} (inside : i < data.length)
    (fallback : UInt8) : memory.overwrite data i = data.getD i fallback := by
  simp [overwrite, inside]

theorem overwrite_of_le {memory : Memory} {data : List UInt8} {i : ℕ}
    (outside : data.length ≤ i) : memory.overwrite data i = memory i := by
  simp [overwrite, outside]

/-- A read below the written length returns the written bytes. -/
theorem read_overwrite {memory : Memory} {data : List UInt8} {offset count : ℕ}
    (inside : offset + count ≤ data.length) :
    (memory.overwrite data).read offset count = (data.drop offset).take count := by
  apply List.ext_getElem
  · simp
    omega
  · intro i low high
    have bound : i < count := by simpa using low
    have written : memory.overwrite data (offset + i) = data[offset + i] :=
      overwrite_of_lt (by omega)
    simp [read, written]

/-- A read below the written length does not see the memory's former content. -/
theorem read_overwrite_frame (first second : Memory) {data : List UInt8} {offset count : ℕ}
    (inside : offset + count ≤ data.length) :
    (first.overwrite data).read offset count = (second.overwrite data).read offset count := by
  rw [read_overwrite inside, read_overwrite inside]

theorem overwrite_frame (first second : Memory) {data : List UInt8} {i : ℕ}
    (inside : i < data.length) : first.overwrite data i = second.overwrite data i := by
  rw [overwrite_of_lt inside, overwrite_of_lt inside]

/-- Writing the same bytes keeps one memory below another. -/
theorem overwrite_mono {low high : Memory} (below : ∀ i, (low i).toNat ≤ (high i).toNat)
    (data : List UInt8) (i : ℕ) :
    (low.overwrite data i).toNat ≤ (high.overwrite data i).toNat := by
  rcases Nat.lt_or_ge i data.length with inside | outside
  · rw [overwrite_frame low high inside]
  · rw [overwrite_of_le outside, overwrite_of_le outside]
    exact below i

theorem read_mono {low high : Memory} (below : ∀ i, (low i).toNat ≤ (high i).toNat)
    (offset count : ℕ) :
    List.Forall₂ (fun a b : UInt8 => a.toNat ≤ b.toNat) (low.read offset count)
      (high.read offset count) := by
  unfold read
  rw [List.forall₂_map_left_iff, List.forall₂_map_right_iff, List.forall₂_same]
  exact fun i _ => below (offset + i)

end Memory

end ByteOrder
