import Mathlib.Tactic.Positivity
import Mathlib.Tactic.Ring

/-!
# Signed integers of a fixed width

`Fits w n` says that an integer is representable in `w` bits, two's complement.
A machine operation gives its exact integer result exactly when that result
fits.
-/

namespace SignedRange

/-- The integer is representable in `w` bits, two's complement. -/
def Fits (w : ℕ) (n : Int) : Prop := -2 ^ (w - 1) ≤ n ∧ n < 2 ^ (w - 1)

instance (w : ℕ) (n : Int) : Decidable (Fits w n) := inferInstanceAs (Decidable (_ ∧ _))

/-- Reducing modulo the number of words changes an integer unless it fits. -/
theorem bmod_eq_self_iff {w : ℕ} (positive : 0 < w) {n : Int} :
    n.bmod (2 ^ w) = n ↔ Fits w n := by
  obtain ⟨k, rfl⟩ := Nat.exists_eq_add_of_lt positive
  rw [Nat.zero_add]
  have double : ((2 ^ (k + 1) : ℕ) : Int) = 2 * 2 ^ k := by
    push_cast
    ring
  unfold Fits
  rw [Nat.add_sub_cancel]
  constructor
  · intro same
    have low := @Int.le_bmod n (2 ^ (k + 1)) (by positivity)
    have high := @Int.bmod_lt n (2 ^ (k + 1)) (by positivity)
    rw [same, double] at low high
    omega
  · intro fits
    exact Int.bmod_eq_of_le (by rw [double]; omega) (by rw [double]; omega)

/-! ## 32-bit operations -/

section Int32

variable (a b : Int32)

theorem toInt_add_eq_iff : (a + b).toInt = a.toInt + b.toInt ↔ Fits 32 (a.toInt + b.toInt) := by
  rw [Int32.toInt_add]
  exact bmod_eq_self_iff (by decide)

theorem toInt_sub_eq_iff : (a - b).toInt = a.toInt - b.toInt ↔ Fits 32 (a.toInt - b.toInt) := by
  rw [Int32.toInt_sub]
  exact bmod_eq_self_iff (by decide)

end Int32

end SignedRange
