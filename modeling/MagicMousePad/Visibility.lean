import MagicMousePad.Reception

/-!
# Clipping and the visibility of the cursor

With `mmp_flag_clip`, `mmp_flag_local` and `mmp_flag_hide_remote` every reported
message calls `ShowCursor` with what `clip` says about its local position.  The
result of `clip` misses positions above the screen, so the cursor is asked to be
shown on the local screen and above it.
-/

namespace MagicMousePad

/-! ## Clipping -/

/-- One axis of `clip`. -/
def clampAxis (n size : Int32) : Int32 :=
  if n < 0 then 0 else if n > size then size else n

/-- The position lies in the range to which `clip` clips. -/
def InRange (position : Int32 × Int32) (width height : UInt32) : Prop :=
  (0 ≤ position.1 ∧ position.1 ≤ width.toInt32) ∧ 0 ≤ position.2 ∧ position.2 ≤ height.toInt32

instance (position : Int32 × Int32) (width height : UInt32) :
    Decidable (InRange position width height) :=
  inferInstanceAs (Decidable ((_ ∧ _) ∧ _ ∧ _))

theorem clampAxis_toInt (n size : Int32) :
    (clampAxis n size).toInt =
      if n.toInt < 0 then 0 else if size.toInt < n.toInt then size.toInt else n.toInt := by
  unfold clampAxis
  rw [apply_ite Int32.toInt, apply_ite Int32.toInt]
  simp only [gt_iff_lt, Int32.lt_iff_toInt_lt, Int32.toInt_zero]

theorem clampAxis_eq_self_iff {n size : Int32} : clampAxis n size = n ↔ 0 ≤ n ∧ n ≤ size := by
  rw [← Int32.toInt_inj, clampAxis_toInt, Int32.le_iff_toInt_le, Int32.le_iff_toInt_le,
    Int32.toInt_zero]
  split
  · omega
  · split <;> omega

/-- A position moved onto the closed range from zero to `size`. -/
def clampInt (n size : Int) : Int := max 0 (min n size)

theorem toInt_clampAxis {n size : Int32} (nonneg : 0 ≤ size.toInt) :
    (clampAxis n size).toInt = clampInt n.toInt size.toInt := by
  rw [clampAxis_toInt, clampInt]
  split
  · omega
  · split <;> omega

theorem toInt_toInt32_of_lt {w : UInt32} (bound : w.toNat < 2 ^ 31) :
    w.toInt32.toInt = w.toNat := by
  have image : w.toInt32 = Int32.ofNat w.toNat := by
    rw [← UInt32.toInt32_ofNat', UInt32.ofNat_toNat]
  rw [image, Int32.toInt_ofNat_of_lt bound]

namespace MmpClient

variable (x y : Int32) (width height : UInt32)

/-- The axes are clipped separately, but the result of the first one survives
only when the second one is in range. -/
theorem clip_eq :
    clip x y width height =
      ((clampAxis x width.toInt32, clampAxis y height.toInt32),
        if y < 0 then false
        else if y > height.toInt32 then true
        else decide (x < 0) || decide (x > width.toInt32)) := by
  have column : (if x < 0 then (0, true)
      else if x > width.toInt32 then (width.toInt32, true) else (x, false)) =
        (clampAxis x width.toInt32, decide (x < 0) || decide (x > width.toInt32)) := by
    unfold clampAxis
    by_cases left : x < 0
    · simp [left]
    · by_cases right : x > width.toInt32
      · simp [left, right]
      · simp [left, right]
  unfold clip
  dsimp only
  rw [column]
  unfold clampAxis
  by_cases top : y < 0
  · simp only [top, if_true]
  · by_cases bottom : y > height.toInt32
    · simp only [top, bottom, if_true, if_false]
    · simp only [top, bottom, if_false]

/-- A position in range is the one that clipping does not change. -/
theorem clip_position_eq_iff :
    (clip x y width height).1 = (x, y) ↔ InRange (x, y) width height := by
  rw [clip_eq, Prod.mk.injEq, clampAxis_eq_self_iff, clampAxis_eq_self_iff]
  rfl

/-- `clip` denies having clipped in range, and also above it. -/
theorem clip_result_eq_false_iff :
    (clip x y width height).2 = false ↔ y < 0 ∨ InRange (x, y) width height := by
  rw [clip_eq, InRange]
  rcases Decidable.em (y < 0) with above | below
  · simp [above]
  · rcases Decidable.em (y > height.toInt32) with beyond | within
    · simp [below, beyond, Int32.not_le.mpr beyond]
    · rw [if_neg below, if_neg within]
      rw [gt_iff_lt, Int32.not_lt] at within
      rw [Int32.not_lt] at below
      simp [below, within]

end MmpClient

/-! ## What clipping reports -/

/-- The square of the distance between two positions. -/
def squaredDistance (p q : Int32 × Int32) : Int :=
  (p.1.toInt - q.1.toInt) ^ 2 + (p.2.toInt - q.2.toInt) ^ 2

/-- The one position in the range that is nearest to a given one. -/
def IsNearest (position nearest : Int32 × Int32) (width height : UInt32) : Prop :=
  InRange nearest width height ∧ ∀ other, InRange other width height → other ≠ nearest →
    squaredDistance position nearest < squaredDistance position other

/-- `clip` returns whether the position was outside, which is whether it has changed
it; it moves the position to the nearest one in the range, where it leaves it. -/
structure MmpClient.ReportsClipping (x y : Int32) (width height : UInt32) : Prop where
  outside : (clip x y width height).2 = true ↔ ¬ InRange (x, y) width height
  changed : (clip x y width height).2 = true ↔ (clip x y width height).1 ≠ (x, y)
  nearest : IsNearest (x, y) (clip x y width height).1 width height
  again : clip (clip x y width height).1.1 (clip x y width height).1.2 width height =
    ((clip x y width height).1, false)

/-- Towards a point of the range, the way leads over the clamped one. -/
theorem clampInt_between {size m : Int} (n : Int) (low : 0 ≤ m) (high : m ≤ size) :
    (n - clampInt n size) ^ 2 + (clampInt n size - m) ^ 2 ≤ (n - m) ^ 2 := by
  have split : (n - m) ^ 2 = (n - clampInt n size) ^ 2 + (clampInt n size - m) ^ 2 +
      2 * ((n - clampInt n size) * (clampInt n size - m)) := by ring
  have forward : 0 ≤ (n - clampInt n size) * (clampInt n size - m) := by
    unfold clampInt
    rcases lt_or_ge n 0 with below | above
    · have zero : max 0 (min n size) = 0 := by omega
      rw [zero]
      exact mul_nonneg_of_nonpos_of_nonpos (by omega) (by omega)
    · rcases lt_or_ge size n with beyond | within
      · have last : max 0 (min n size) = size := by omega
        rw [last]
        exact mul_nonneg (by omega) (by omega)
      · have same : max 0 (min n size) = n := by omega
        rw [same, sub_self, zero_mul]
  omega

namespace MmpClient

variable {x y : Int32} {width height : UInt32}

theorem inRange_clip (wide : width.toNat < 2 ^ 31) (high : height.toNat < 2 ^ 31) :
    InRange (clip x y width height).1 width height := by
  have w := toInt_toInt32_of_lt wide
  have h := toInt_toInt32_of_lt high
  rw [clip_eq]
  unfold InRange
  simp only [Int32.le_iff_toInt_le, Int32.toInt_zero]
  rw [toInt_clampAxis (by omega), toInt_clampAxis (by omega)]
  unfold clampInt
  omega

theorem isNearest_clip (wide : width.toNat < 2 ^ 31) (high : height.toNat < 2 ^ 31) :
    IsNearest (x, y) (clip x y width height).1 width height := by
  refine ⟨inRange_clip wide high, fun other inside different => ?_⟩
  have w := toInt_toInt32_of_lt wide
  have h := toInt_toInt32_of_lt high
  rcases inside with ⟨⟨left, right⟩, top, bottom⟩
  rw [Int32.le_iff_toInt_le, Int32.toInt_zero] at left top
  rw [Int32.le_iff_toInt_le] at right bottom
  have wayX := clampInt_between x.toInt left right
  have wayY := clampInt_between y.toInt top bottom
  rw [clip_eq] at different ⊢
  unfold squaredDistance
  dsimp only at different ⊢
  rw [toInt_clampAxis (by omega), toInt_clampAxis (by omega)]
  have apart : 0 < (clampInt x.toInt width.toInt32.toInt - other.1.toInt) ^ 2 +
      (clampInt y.toInt height.toInt32.toInt - other.2.toInt) ^ 2 := by
    by_contra zero
    have flatX := sq_nonneg (clampInt x.toInt width.toInt32.toInt - other.1.toInt)
    have flatY := sq_nonneg (clampInt y.toInt height.toInt32.toInt - other.2.toInt)
    have sameX := pow_eq_zero_iff (two_ne_zero) |>.mp (le_antisymm (by omega) flatX)
    have sameY := pow_eq_zero_iff (two_ne_zero) |>.mp (le_antisymm (by omega) flatY)
    refine different (Prod.ext ?_ ?_)
    · rw [← Int32.toInt_inj, toInt_clampAxis (by omega)]
      omega
    · rw [← Int32.toInt_inj, toInt_clampAxis (by omega)]
      omega
  omega

/-- For sizes in the signed range, `clip` reports what it does for the positions that
are not above the range, and for no other. -/
theorem reportsClipping_iff (wide : width.toNat < 2 ^ 31) (high : height.toNat < 2 ^ 31) :
    ReportsClipping x y width height ↔ 0 ≤ y := by
  have denied := clip_result_eq_false_iff x y width height
  have moved := clip_position_eq_iff x y width height
  constructor
  · intro reports
    by_contra above
    rw [Int32.not_le] at above
    have missed := denied.mpr (Or.inl above)
    have outside : ¬ InRange (x, y) width height := fun inside =>
      Int32.not_le.mpr above inside.2.1
    rw [reports.outside.mpr outside] at missed
    cases missed
  · intro below
    have notAbove : ¬ y < 0 := Int32.not_lt.mpr below
    have outside : (clip x y width height).2 = true ↔ ¬ InRange (x, y) width height := by
      rw [← Bool.not_eq_false, denied]
      tauto
    refine ⟨outside, outside.trans moved.not.symm, isNearest_clip wide high, ?_⟩
    have inside := inRange_clip (x := x) (y := y) wide high
    exact Prod.ext ((clip_position_eq_iff _ _ _ _).mpr inside)
      ((clip_result_eq_false_iff _ _ _ _).mpr (Or.inr inside))

/-- A position on the left of the range is reported. -/
theorem reportsClipping_left : ReportsClipping (-3) 4 10 10 :=
  (reportsClipping_iff (by decide) (by decide)).mpr (by decide)

/-- A position above it is moved, and denied. -/
theorem not_reportsClipping_above : ¬ ReportsClipping 4 (-3) 10 10 := by
  intro reports
  have changed := reports.changed
  revert changed
  decide

end MmpClient

/-! ## The argument of `ShowCursor` -/

/-- The flags of a client that shares a cursor with others. -/
structure MmpConfiguration.HidesRemote (config : MmpConfiguration) : Prop where
  clip : config.has mmpFlagClip = true
  isLocal : config.has mmpFlagLocal = true
  hide : config.has mmpFlagHideRemote = true

/-- The position on the local screen of a position on the whole range. -/
def MmpConfiguration.localPosition (config : MmpConfiguration) (x y : Int32) : Int32 × Int32 :=
  (clampAxis x config.width.toInt32 - config.offsetX,
    clampAxis y config.height.toInt32 - config.offsetY)

/-- The local position lies on the local screen. -/
def OnScreen (screen : Screen) (position : Int32 × Int32) : Prop :=
  InRange position screen.width.toUInt32 screen.height.toUInt32

instance (screen : Screen) (position : Int32 × Int32) : Decidable (OnScreen screen position) :=
  inferInstanceAs (Decidable (InRange _ _ _))

section HidesRemote

variable {config : MmpConfiguration} (hides : config.HidesRemote) (screen : Screen) (x y : Int32)
include hides

theorem MmpConfiguration.HidesRemote.place_eq :
    MmpClient.place config screen x y =
      ((MmpClient.clip (config.localPosition x y).1 (config.localPosition x y).2
          screen.width.toUInt32 screen.height.toUInt32).1,
        some (!(MmpClient.clip (config.localPosition x y).1 (config.localPosition x y).2
          screen.width.toUInt32 screen.height.toUInt32).2)) := by
  have clipped := congrArg Prod.fst (MmpClient.clip_eq x y config.width config.height)
  unfold MmpClient.place MmpConfiguration.localPosition
  simp only [hides.clip, hides.isLocal, hides.hide, if_true, clipped]

/-- The cursor is asked to be shown on the local screen and above it. -/
theorem MmpConfiguration.HidesRemote.shown_iff :
    (MmpClient.place config screen x y).2 = some true ↔
      (config.localPosition x y).2 < 0 ∨ OnScreen screen (config.localPosition x y) := by
  rw [hides.place_eq, Option.some_inj, Bool.not_eq_true', MmpClient.clip_result_eq_false_iff]
  rfl

theorem MmpConfiguration.HidesRemote.shown_cases :
    (MmpClient.place config screen x y).2 = some true ∨
      (MmpClient.place config screen x y).2 = some false := by
  rw [hides.place_eq]
  cases (MmpClient.clip (config.localPosition x y).1 (config.localPosition x y).2
    screen.width.toUInt32 screen.height.toUInt32).2
  · exact Or.inl rfl
  · exact Or.inr rfl

end HidesRemote

end MagicMousePad
