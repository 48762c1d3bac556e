import MagicMousePad.Visibility

/-!
# A wall of screens

Clients that tile one virtual screen and hide the cursor outside their own tile.
`clip` includes the far edges of its range and denies having clipped above it,
so a client shows the cursor on its closed tile and everywhere above, and there
is one owner only where the closed tiles do not overlap and none lies below.
-/

namespace MagicMousePad

/-- A family of clients that share a virtual screen which their local screens
partition. -/
structure Wall (ι : Type*) where
  config : ι → MmpConfiguration
  screen : ι → Screen
  width : UInt32
  height : UInt32
  hides : ∀ i, (config i).HidesRemote
  noStart : ∀ i, (config i).has mmpFlagSetStart = false
  shared : ∀ i, (config i).width = width ∧ (config i).height = height
  widthBounds : 1 ≤ width.toNat ∧ width.toNat < 2 ^ 31
  heightBounds : 1 ≤ height.toNat ∧ height.toNat < 2 ^ 31
  positive : ∀ i, 0 < (screen i).width.toInt ∧ 0 < (screen i).height.toInt
  inside : ∀ i, 0 ≤ (config i).offsetX.toInt ∧ 0 ≤ (config i).offsetY.toInt ∧
    (config i).offsetX.toInt + (screen i).width.toInt ≤ width.toNat ∧
    (config i).offsetY.toInt + (screen i).height.toInt ≤ height.toNat
  covers : ∀ x y : Int, 0 ≤ x → x < width.toNat → 0 ≤ y → y < height.toNat →
    ∃! i, ((config i).offsetX.toInt ≤ x ∧ x < (config i).offsetX.toInt + (screen i).width.toInt) ∧
      (config i).offsetY.toInt ≤ y ∧ y < (config i).offsetY.toInt + (screen i).height.toInt

/-- On one axis the local coordinate does not overflow. -/
theorem toInt_clampAxis_sub {n size offset : Int32} (nonneg : 0 ≤ offset.toInt)
    (fits : offset.toInt ≤ size.toInt) :
    (clampAxis n size - offset).toInt = clampInt n.toInt size.toInt - offset.toInt := by
  have top := size.toInt_lt
  rw [Int32.toInt_sub, toInt_clampAxis (nonneg.trans fits)]
  unfold clampInt
  exact Int.bmod_eq_of_le (by omega) (by omega)

namespace Wall

variable {ι : Type*} (wall : Wall ι)

/-- The tile of a client starts below the row. -/
def StartsBelow (i : ι) (y : Int) : Prop := y < (wall.config i).offsetY.toInt

/-- The tile of a client, with all its edges, contains the position. -/
def Closed (i : ι) (x y : Int) : Prop :=
  ((wall.config i).offsetX.toInt ≤ x ∧
      x ≤ (wall.config i).offsetX.toInt + (wall.screen i).width.toInt) ∧
    (wall.config i).offsetY.toInt ≤ y ∧
      y ≤ (wall.config i).offsetY.toInt + (wall.screen i).height.toInt

/-- At the position, clamped to the virtual screen, no tile starts further down
and no two closed tiles meet. -/
def Unambiguous (x y : Int) : Prop :=
  (∀ i, ¬ wall.StartsBelow i (clampInt y wall.height.toNat)) ∧
    ∀ i j, wall.Closed i (clampInt x wall.width.toNat) (clampInt y wall.height.toNat) →
      wall.Closed j (clampInt x wall.width.toNat) (clampInt y wall.height.toNat) → i = j

/-- The closed tiles cover the closed virtual screen. -/
theorem exists_closed {x y : Int} (x0 : 0 ≤ x) (x1 : x ≤ wall.width.toNat) (y0 : 0 ≤ y)
    (y1 : y ≤ wall.height.toNat) : ∃ i, wall.Closed i x y := by
  obtain ⟨wide, -⟩ := wall.widthBounds
  obtain ⟨high, -⟩ := wall.heightBounds
  -- The far edges belong to the tiles that cover the last column and row.
  obtain ⟨i, ⟨⟨left, right⟩, top, bottom⟩, -⟩ :=
    wall.covers (min x (wall.width.toNat - 1)) (min y (wall.height.toNat - 1)) (by omega)
      (by omega) (by omega) (by omega)
  refine ⟨i, ⟨?_, ?_⟩, ?_, ?_⟩ <;> omega

/-! ## The clients of the wall -/

/-- A client of the wall after any history of messages. -/
def client (history : ι → List Arrival) (i : ι) : MmpClient :=
  (Mealy.run MmpClient.step ((MmpClient.new (wall.config i)).start none).1 (history i)).1

/-- A client that has no start position to adjust to keeps the offset zero. -/
theorem client_eq (history : ι → List Arrival) (i : ι) :
    (∃ address, (wall.client history i).config = { wall.config i with client := address }) ∧
      (wall.client history i).offset = (0, 0) ∧
      (wall.client history i).updateOffset = false := by
  have idle : (MmpClient.new (wall.config i)).running = false := rfl
  obtain ⟨address, started⟩ := MmpClient.start_none idle
  refine Mealy.run_invariant (P := fun c : MmpClient =>
    (∃ address, c.config = { wall.config i with client := address }) ∧ c.offset = (0, 0) ∧
      c.updateOffset = false) (fun c arrival ⟨config, offset, fixed⟩ => ?_) ?_
  · have capturing : c.capturing arrival.msg = c := by
      unfold MmpClient.capturing MmpClient.captureOffset
      simp [fixed]
    unfold MmpClient.step
    rcases c.handle_cases arrival.screen arrival.msg with
      ⟨-, result⟩ | ⟨-, -, result⟩ | ⟨-, -, result⟩ <;> rw [result]
    · exact ⟨config, offset, fixed⟩
    · exact ⟨config, offset, fixed⟩
    · rw [capturing]
      exact ⟨config, offset, fixed⟩
  · rw [started]
    exact ⟨⟨address, rfl⟩, rfl, wall.noStart i⟩

/-- What a client of the wall makes of a position. -/
theorem xformPosition_client (history : ι → List Arrival) (i : ι) (msg : MouseMsg) :
    ((wall.client history i).xformPosition (wall.screen i) msg).2 =
      MmpClient.place (wall.config i) (wall.screen i) (ntohlInt msg.x) (ntohlInt msg.y) := by
  obtain ⟨⟨address, config⟩, offset, fixed⟩ := wall.client_eq history i
  have capturing : (wall.client history i).capturing msg = wall.client history i := by
    unfold MmpClient.capturing MmpClient.captureOffset
    simp [fixed]
  rw [MmpClient.xformPosition_eq, MmpClient.placed, capturing, offset, config]
  simp only [Int32.add_zero]
  rfl

/-- Where a position lies relative to a tile. -/
theorem localPosition_toInt (i : ι) (x y : Int32) :
    ((wall.config i).localPosition x y).1.toInt =
        clampInt x.toInt wall.width.toNat - (wall.config i).offsetX.toInt ∧
      ((wall.config i).localPosition x y).2.toInt =
        clampInt y.toInt wall.height.toNat - (wall.config i).offsetY.toInt := by
  obtain ⟨sharedX, sharedY⟩ := wall.shared i
  obtain ⟨positiveX, positiveY⟩ := wall.positive i
  obtain ⟨left, top, right, bottom⟩ := wall.inside i
  have width := toInt_toInt32_of_lt wall.widthBounds.2
  have height := toInt_toInt32_of_lt wall.heightBounds.2
  unfold MmpConfiguration.localPosition
  rw [sharedX, sharedY]
  constructor
  · rw [toInt_clampAxis_sub left (by omega), width]
  · rw [toInt_clampAxis_sub top (by omega), height]

/-- A client shows the cursor on its closed tile and above it. -/
theorem shown_iff (i : ι) (x y : Int32) :
    (MmpClient.place (wall.config i) (wall.screen i) x y).2 = some true ↔
      wall.StartsBelow i (clampInt y.toInt wall.height.toNat) ∨
        wall.Closed i (clampInt x.toInt wall.width.toNat)
          (clampInt y.toInt wall.height.toNat) := by
  obtain ⟨localX, localY⟩ := wall.localPosition_toInt i x y
  rw [(wall.hides i).shown_iff]
  unfold StartsBelow Closed OnScreen InRange
  rw [Int32.toInt32_toUInt32, Int32.toInt32_toUInt32]
  simp only [Int32.lt_iff_toInt_lt, Int32.le_iff_toInt_le, Int32.toInt_zero, localX, localY]
  omega

/-- Whatever the clients have received before, exactly one of them asks for the
cursor to be shown if and only if the position is unambiguous. -/
theorem owner_iff (history : ι → List Arrival) (msg : MouseMsg) :
    (∃! i, ((wall.client history i).xformPosition (wall.screen i) msg).2.2 = some true) ↔
      wall.Unambiguous (ntohlInt msg.x).toInt (ntohlInt msg.y).toInt := by
  obtain ⟨wide, -⟩ := wall.widthBounds
  obtain ⟨high, -⟩ := wall.heightBounds
  obtain ⟨i, closed⟩ := wall.exists_closed
    (x := clampInt (ntohlInt msg.x).toInt wall.width.toNat)
    (y := clampInt (ntohlInt msg.y).toInt wall.height.toNat)
    (by unfold clampInt; omega) (by unfold clampInt; omega)
    (by unfold clampInt; omega) (by unfold clampInt; omega)
  simp only [xformPosition_client, shown_iff]
  constructor
  · intro one
    rcases one with ⟨owner, -, unique⟩
    refine ⟨fun j below => ?_, fun j k closedJ closedK => ?_⟩
    · have same : j = i := (unique j (Or.inl below)).trans (unique i (Or.inr closed)).symm
      subst same
      exact absurd closed.2.1 (not_le.mpr below)
    · exact (unique j (Or.inr closedJ)).trans (unique k (Or.inr closedK)).symm
  · intro unambiguous
    rcases unambiguous with ⟨none, apart⟩
    refine ⟨i, Or.inr closed, fun j shown => ?_⟩
    exact apart j i (shown.resolve_left (none j)) closed

end Wall

/-- Two screens of one pixel side by side. -/
def twoScreens : Wall Bool where
  config right :=
    { flags := mmpFlagClip ||| mmpFlagLocal ||| mmpFlagHideRemote
      width := 2
      height := 1
      offsetX := if right then 1 else 0
      onMouseMove := 1 }
  screen _ := ⟨1, 1⟩
  width := 2
  height := 1
  hides right := by cases right <;> exact ⟨by decide, by decide, by decide⟩
  noStart := by decide
  shared _ := ⟨rfl, rfl⟩
  widthBounds := by decide
  heightBounds := by decide
  positive _ := by decide
  inside := by decide
  covers := by
    intro x y x0 x1 y0 y1
    have two : ((2 : UInt32).toNat : Int) = 2 := rfl
    have one : ((1 : UInt32).toNat : Int) = 1 := rfl
    rw [two] at x1
    rw [one] at y1
    have column : x = 0 ∨ x = 1 := by omega
    have row : y = 0 := by omega
    rcases column with rfl | rfl <;> rcases row with rfl
    · refine ⟨false, by decide, fun right => ?_⟩
      cases right <;> decide
    · refine ⟨true, by decide, fun right => ?_⟩
      cases right <;> decide

/-- Both of them show the cursor at the right edge of the left one. -/
theorem not_one_owner_between_screens :
    ¬ ∃! i, ((twoScreens.client (fun _ => []) i).xformPosition (twoScreens.screen i)
      (.mouseMove { sequenceNumber := htonl 1, x := ntohlInt 1 })).2.2 = some true := by
  intro one
  rcases one with ⟨owner, -, unique⟩
  have left := unique false (by dsimp only; rw [Wall.xformPosition_client]; decide)
  have right := unique true (by dsimp only; rw [Wall.xformPosition_client]; decide)
  rw [← right] at left
  cases left

end MagicMousePad
