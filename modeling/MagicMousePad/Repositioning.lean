import MagicMousePad.Treadmill
import MagicMousePad.Lib.SignedRange
import Mathlib.Data.Int.ModEq

/-!
# Repositioning the cursor

What one move and what a run of events do to the offset of the pad.  A move that
leaves the client area changes the offset by a full size, so the offset counts
the crossings and every broadcast is congruent to its reading.  The cursor is
put on the opposite edge whatever the overshoot, so the sum of cursor and offset
survives only an overshoot of a single pixel.  It has to survive in the `int` of
the source, so a move also asks that the offset it leaves fits 32 bits.
-/

namespace MagicMousePad

open SignedRange

/-! ## One move -/

/-- Where the cursor is after a handler that read it at `reading`, in client
coordinates. -/
def cursorAfter (origin reading : Point) (effects : List PadEffect) : Point :=
  match warpTarget effects with
  | some screen => ⟨screen.x - origin.x, screen.y - origin.y⟩
  | none => reading

/-- Where the last event left the offset, and by how much it changed it. -/
def MousePad.shiftOf (pad : MousePad) (event : WindowEvent) : Point :=
  match event.motion with
  | some m => ⟨shift m.wraps m.reading.x pad.width, shift m.wraps m.reading.y pad.height⟩
  | none => ⟨0, 0⟩

section OneMove

variable (pad : MousePad) (x y : Int16) (origin : Point)

theorem MousePad.onMouseMove_cursor :
    cursorAfter origin ⟨x.toInt, y.toInt⟩ (pad.onMouseMove x y origin).2 =
      ⟨landing true x.toInt pad.width, landing true y.toInt pad.height⟩ := by
  unfold cursorAfter MousePad.onMouseMove
  simp only [wrapAxis_eq]
  by_cases moved : landing true x.toInt pad.width ≠ x.toInt ∨
      landing true y.toInt pad.height ≠ y.toInt
  · rw [if_pos moved]
    simp [warpTarget]
  · obtain ⟨sameX, sameY⟩ := not_or.mp moved
    rw [not_not] at sameX sameY
    rw [if_neg moved, sameX, sameY]
    cases pad.active <;> rfl

/-- The offset moves by the shift of the event, whether the pad is active or
not. -/
theorem MousePad.step_offset (event : WindowEvent) :
    (pad.step event).1.dx = pad.dx + (pad.shiftOf event).x ∧
      (pad.step event).1.dy = pad.dy + (pad.shiftOf event).y := by
  cases event with
  | mouseMove x y origin =>
      simp [MousePad.step, MousePad.onMouseMove, wrapAxis_eq, MousePad.shiftOf,
        WindowEvent.motion]
  | mouseDown button x y client =>
      simp only [MousePad.step, MousePad.onMouseDown, MousePad.shiftOf, WindowEvent.motion,
        shift_of_still, Int.add_zero]
      split <;> exact ⟨rfl, rfl⟩
  | mouseUp button x y =>
      simp [MousePad.step, MousePad.onMouseUp, MousePad.shiftOf, WindowEvent.motion,
        shift_of_still]
  | keyDown key =>
      simp only [MousePad.step, MousePad.onKeyDown, MousePad.shiftOf, WindowEvent.motion,
        Int.add_zero]
      split <;> exact ⟨rfl, rfl⟩
  | keyUp key => simp [MousePad.step, MousePad.shiftOf, WindowEvent.motion]
  | resize width height =>
      simp [MousePad.step, MousePad.onResize, MousePad.shiftOf, WindowEvent.motion]
  | paint => simp [MousePad.step, MousePad.shiftOf, WindowEvent.motion]

/-- A move keeps the virtual position: the offset it leaves is an `int`, and the
cursor and this offset add up to the reading and the offset it found. -/
def MousePad.KeepsPosition : Prop :=
  let moved := pad.onMouseMove x y origin
  let cursor := cursorAfter origin ⟨x.toInt, y.toInt⟩ moved.2
  (Fits 32 moved.1.dx ∧ Fits 32 moved.1.dy) ∧
    cursor.x + moved.1.dx = x.toInt + pad.dx ∧ cursor.y + moved.1.dy = y.toInt + pad.dy

instance : Decidable (pad.KeepsPosition x y origin) :=
  inferInstanceAs (Decidable (_ ∧ _))

/-- On one axis the reading is in the client area or one pixel outside, and
crossing the edge it is over takes the offset neither below nor above the range of
`int`. -/
def OnePixelOff (reading size offset : Int) : Prop :=
  (-1 ≤ reading ∧ reading ≤ size) ∧
    (reading < 0 → -2 ^ 31 ≤ offset - size) ∧ (size ≤ reading → offset + size < 2 ^ 31)

instance (reading size offset : Int) : Decidable (OnePixelOff reading size offset) :=
  inferInstanceAs (Decidable (_ ∧ _))

/-- On one axis, putting the cursor on the opposite edge makes good an overshoot
of one pixel and no other. -/
theorem landing_add_shift_eq_iff {size : Int} (positive : 1 ≤ size) (reading offset : Int) :
    landing true reading size + (offset + shift true reading size) = reading + offset ↔
      -1 ≤ reading ∧ reading ≤ size := by
  unfold landing shift side
  by_cases low : reading < 0
  · simp only [low, and_self, if_true]
    omega
  · by_cases high : size ≤ reading
    · simp only [low, high, and_false, and_self, if_false, if_true]
      omega
    · simp only [low, high, and_false, if_false]
      omega

/-- Only the edge that is crossed can take an offset out of range. -/
theorem fits_add_shift_iff {size offset : Int} (positive : 1 ≤ size) (fits : Fits 32 offset)
    (reading : Int) :
    Fits 32 (offset + shift true reading size) ↔
      (reading < 0 → -2 ^ 31 ≤ offset - size) ∧ (size ≤ reading → offset + size < 2 ^ 31) := by
  unfold Fits at fits ⊢
  unfold shift side
  by_cases low : reading < 0
  · have notHigh : ¬ size ≤ reading := by omega
    simp only [low, notHigh, and_self, if_true, true_implies, false_implies, and_true]
    omega
  · by_cases high : size ≤ reading
    · simp only [low, high, and_false, and_self, if_false, if_true, true_implies, false_implies,
        true_and]
      omega
    · simp only [low, high, and_false, if_false, false_implies, and_true, iff_true]
      omega

/-- A move keeps the virtual position exactly when, on both axes, its reading is
in the client area or one pixel outside and the offset stays an `int`.  What
`set_position` sums up afterwards for the message changes neither of them. -/
theorem MousePad.keepsPosition_iff (positiveX : 1 ≤ pad.width) (positiveY : 1 ≤ pad.height)
    (fitsX : Fits 32 pad.dx) (fitsY : Fits 32 pad.dy) :
    pad.KeepsPosition x y origin ↔
      OnePixelOff x.toInt pad.width pad.dx ∧ OnePixelOff y.toInt pad.height pad.dy := by
  obtain ⟨moveX, moveY⟩ := pad.step_offset (.mouseMove x y origin)
  rw [MousePad.step] at moveX moveY
  have cursor := pad.onMouseMove_cursor x y origin
  have keptX := landing_add_shift_eq_iff positiveX x.toInt pad.dx
  have keptY := landing_add_shift_eq_iff positiveY y.toInt pad.dy
  have rangeX := fits_add_shift_iff positiveX fitsX x.toInt
  have rangeY := fits_add_shift_iff positiveY fitsY y.toInt
  unfold MousePad.KeepsPosition OnePixelOff
  simp only [cursor, moveX, moveY, MousePad.shiftOf, WindowEvent.motion]
  rw [keptX, keptY, rangeX, rangeY]
  exact and_and_and_comm.trans ⟨fun kept => ⟨kept.1.symm, kept.2.symm⟩,
    fun kept => ⟨kept.1.symm, kept.2.symm⟩⟩

end OneMove

/-- One pixel over the right edge of a pad of 100 by 80 pixels. -/
theorem keepsPosition_at_right_edge :
    MousePad.KeepsPosition ⟨true, 0, 0, 80, 100⟩ 100 40 ⟨0, 0⟩ :=
  (MousePad.keepsPosition_iff _ _ _ _ (by decide) (by decide) (by decide) (by decide)).mpr
    (by decide)

/-- Five pixels over its left edge: the cursor goes to 99 and the offset to -100,
so four pixels are lost. -/
theorem not_keepsPosition_at_left_edge :
    ¬ MousePad.KeepsPosition ⟨true, 0, 0, 80, 100⟩ (-5) 40 ⟨0, 0⟩ := by
  decide

/-! ## Runs of a pad of constant size -/

/-- What a handler broadcasts is its reading under the offset it leaves. -/
theorem MousePad.broadcast_step {pad : MousePad} {event : WindowEvent} {reading sent : Point}
    (read : event.reading = some reading) (broadcasts : broadcast (pad.step event).2 = some sent) :
    sent = ⟨reading.x + (pad.step event).1.dx, reading.y + (pad.step event).1.dy⟩ := by
  cases event with
  | mouseMove x y origin =>
      cases read
      simp only [MousePad.step, MousePad.onMouseMove] at broadcasts ⊢
      split at broadcasts <;> split at broadcasts <;> cases broadcasts <;> rfl
  | mouseDown button x y client =>
      cases read
      cases broadcasts
      rfl
  | mouseUp button x y =>
      cases read
      simp only [MousePad.step, MousePad.onMouseUp] at broadcasts ⊢
      split at broadcasts
      · cases broadcasts
        rfl
      · cases broadcasts
  | keyDown key => cases read
  | keyUp key => cases read
  | resize width height => cases read
  | paint => cases read

/-- The client area has the given size. -/
def MousePad.HasSize (width height : Int) (pad : MousePad) : Prop :=
  pad.width = width ∧ pad.height = height

/-- Every resize among the events announces the same size. -/
def ConstantSize (width height : Int) (events : List WindowEvent) : Prop :=
  ∀ w h : UInt16, .resize w h ∈ events → (w.toNat : Int) = width ∧ (h.toNat : Int) = height

/-- The moves among the events whose reading passes a test. -/
def moves (test : Point → Bool) (events : List WindowEvent) : ℕ :=
  events.countP fun
    | .mouseMove x y _ => test ⟨x.toInt, y.toInt⟩
    | _ => false

section ConstantSize

variable {width height : Int} {pad : MousePad} {event : WindowEvent} {events : List WindowEvent}

theorem MousePad.HasSize.step (positiveX : 1 ≤ width) (positiveY : 1 ≤ height)
    (constant : ConstantSize width height [event]) (size : pad.HasSize width height) :
    (pad.step event).1.HasSize width height := by
  rcases size with ⟨sizeX, sizeY⟩
  cases event with
  | mouseMove x y origin => exact ⟨sizeX, sizeY⟩
  | mouseDown button x y client =>
      have known : (!pad.active && (pad.width == 0 || pad.height == 0)) = false := by
        have wide : pad.width ≠ 0 := by omega
        have high : pad.height ≠ 0 := by omega
        simp [wide, high]
      simp only [MousePad.step, MousePad.onMouseDown, known]
      exact ⟨sizeX, sizeY⟩
  | mouseUp button x y => exact ⟨sizeX, sizeY⟩
  | keyDown key =>
      simp only [MousePad.step, MousePad.onKeyDown]
      split <;> exact ⟨sizeX, sizeY⟩
  | keyUp key => exact ⟨sizeX, sizeY⟩
  | resize w h => exact constant w h (List.mem_singleton_self _)
  | paint => exact ⟨sizeX, sizeY⟩

/-- The shift of an event, by the sides on which it leaves the client area. -/
theorem MousePad.shiftOf_eq (positiveX : 1 ≤ width) (positiveY : 1 ≤ height)
    (size : pad.HasSize width height) (event : WindowEvent) :
    (pad.shiftOf event).x =
        width * (moves (fun p => width ≤ p.x) [event] - moves (fun p => p.x < 0) [event]) ∧
      (pad.shiftOf event).y =
        height * (moves (fun p => height ≤ p.y) [event] - moves (fun p => p.y < 0) [event]) := by
  have axis : ∀ reading size : Int, 1 ≤ size → shift true reading size =
      size * ((if size ≤ reading then 1 else 0) - (if reading < 0 then 1 else 0)) := by
    intro reading size positive
    unfold shift side
    by_cases low : reading < 0
    · have notHigh : ¬ size ≤ reading := by omega
      simp [low, notHigh]
    · by_cases high : size ≤ reading
      · simp [low, high]
      · simp [low, high]
  rcases size with ⟨sizeX, sizeY⟩
  cases event with
  | mouseMove x y origin =>
      simp only [MousePad.shiftOf, WindowEvent.motion, sizeX, sizeY, axis _ _ positiveX,
        axis _ _ positiveY, moves, List.countP_singleton, decide_eq_true_eq]
      exact ⟨by split <;> split <;> simp, by split <;> split <;> simp⟩
  | mouseDown button x y client =>
      simp [MousePad.shiftOf, WindowEvent.motion, shift_of_still, moves]
  | mouseUp button x y => simp [MousePad.shiftOf, WindowEvent.motion, shift_of_still, moves]
  | keyDown key => simp [MousePad.shiftOf, WindowEvent.motion, moves]
  | keyUp key => simp [MousePad.shiftOf, WindowEvent.motion, moves]
  | resize w h => simp [MousePad.shiftOf, WindowEvent.motion, moves]
  | paint => simp [MousePad.shiftOf, WindowEvent.motion, moves]

theorem moves_cons (test : Point → Bool) :
    moves test (event :: events) = moves test [event] + moves test events := by
  rw [moves, moves, moves, ← List.countP_append, List.singleton_append]

theorem ConstantSize.cons_iff :
    ConstantSize width height (event :: events) ↔
      ConstantSize width height [event] ∧ ConstantSize width height events := by
  unfold ConstantSize
  simp only [List.mem_cons, List.not_mem_nil, or_false]
  constructor
  · intro constant
    exact ⟨fun w h here => constant w h (Or.inl here),
      fun w h later => constant w h (Or.inr later)⟩
  · intro constant w h member
    rcases member with here | later
    · exact constant.1 w h here
    · exact constant.2 w h later

/-- Along a run the offset moves by a full size for every crossing, and the size
stays. -/
theorem MousePad.HasSize.run (positiveX : 1 ≤ width) (positiveY : 1 ≤ height)
    (constant : ConstantSize width height events) (size : pad.HasSize width height) :
    (Mealy.run MousePad.step pad events).1.HasSize width height ∧
      (Mealy.run MousePad.step pad events).1.dx = pad.dx +
        width * (moves (fun p => width ≤ p.x) events - moves (fun p => p.x < 0) events) ∧
      (Mealy.run MousePad.step pad events).1.dy = pad.dy +
        height * (moves (fun p => height ≤ p.y) events - moves (fun p => p.y < 0) events) := by
  induction events generalizing pad with
  | nil => exact ⟨size, by simp [moves], by simp [moves]⟩
  | cons event events ih =>
      obtain ⟨here, later⟩ := ConstantSize.cons_iff.mp constant
      obtain ⟨shiftX, shiftY⟩ := MousePad.shiftOf_eq positiveX positiveY size event
      obtain ⟨moveX, moveY⟩ := pad.step_offset event
      obtain ⟨final, offsetX, offsetY⟩ := ih later (size.step positiveX positiveY here)
      have count : ∀ test, moves test (event :: events) = moves test [event] + moves test events :=
        moves_cons
      rw [Mealy.run_cons]
      refine ⟨final, ?_, ?_⟩
      · rw [offsetX, moveX, shiftX, count, count]
        push_cast
        ring
      · rw [offsetY, moveY, shiftY, count, count]
        push_cast
        ring

end ConstantSize

/-- A treadmill of a certain size: the offset counts the crossings, a move leaves
the cursor inside, and a broadcast is congruent to its reading. -/
structure Treadmill (width height : Int) (pad : MousePad) (events : List WindowEvent) : Prop where
  offset : ∀ earlier, earlier <+: events →
    (Mealy.run MousePad.step pad earlier).1.dx =
        width * (moves (fun p => width ≤ p.x) earlier - moves (fun p => p.x < 0) earlier) ∧
      (Mealy.run MousePad.step pad earlier).1.dy =
        height * (moves (fun p => height ≤ p.y) earlier - moves (fun p => p.y < 0) earlier)
  inside : ∀ t ∈ Mealy.trail MousePad.step pad events, ∀ x y origin,
    t.2 = .mouseMove x y origin →
      let cursor := cursorAfter origin ⟨x.toInt, y.toInt⟩ (t.1.step t.2).2
      (0 ≤ cursor.x ∧ cursor.x < width) ∧ 0 ≤ cursor.y ∧ cursor.y < height
  congruent : ∀ t ∈ Mealy.trail MousePad.step pad events, ∀ reading sent,
    t.2.reading = some reading → broadcast (t.1.step t.2).2 = some sent →
      sent.x ≡ reading.x [ZMOD width] ∧ sent.y ≡ reading.y [ZMOD height]

/-- On one axis a move leaves the cursor inside. -/
theorem landing_inside {size : Int} (positive : 1 ≤ size) (reading : Int) :
    0 ≤ landing true reading size ∧ landing true reading size < size := by
  unfold landing side
  by_cases low : reading < 0
  · simp only [low, and_self, if_true]
    omega
  · by_cases high : size ≤ reading
    · simp only [low, high, and_false, and_self, if_false, if_true]
      omega
    · simp only [low, high, and_false, if_false]
      omega

/-- A pad that starts inactive, without an offset and with its size known, is a
treadmill for as long as its size stays. -/
theorem MousePad.treadmill {width height : Int} (positiveX : 1 ≤ width) (positiveY : 1 ≤ height)
    {events : List WindowEvent} (constant : ConstantSize width height events) :
    Treadmill width height ⟨false, 0, 0, height, width⟩ events := by
  have size : MousePad.HasSize width height ⟨false, 0, 0, height, width⟩ := ⟨rfl, rfl⟩
  have along : ∀ earlier, earlier <+: events → _ := fun earlier initial =>
    size.run positiveX positiveY fun w h member => constant w h (initial.subset member)
  refine ⟨fun earlier initial => ?_, fun t member x y origin move => ?_,
    fun t member reading sent read broadcasts => ?_⟩
  · obtain ⟨-, offsetX, offsetY⟩ := along earlier initial
    rw [offsetX, offsetY]
    exact ⟨Int.zero_add _, Int.zero_add _⟩
  · obtain ⟨earlier, later, split, reached⟩ := Mealy.mem_trail_iff.mp member
    obtain ⟨⟨sizeX, sizeY⟩, -⟩ := along earlier ⟨_, split.symm⟩
    rw [move, MousePad.step, MousePad.onMouseMove_cursor, reached, sizeX, sizeY]
    exact ⟨landing_inside positiveX _, landing_inside positiveY _⟩
  · obtain ⟨earlier, later, split, reached⟩ := Mealy.mem_trail_iff.mp member
    obtain ⟨-, offsetX, offsetY⟩ := along (earlier ++ [t.2]) ⟨later, by simp [split]⟩
    rw [Mealy.run_concat, ← reached, Int.zero_add] at offsetX offsetY
    rw [MousePad.broadcast_step read broadcasts, offsetX, offsetY]
    exact ⟨Int.add_mul_emod_self_left .., Int.add_mul_emod_self_left ..⟩

/-- A press, a move over the right edge, Pause and a move over the top-left
corner on a pad of 100 by 80 pixels. -/
theorem treadmill_of_corner :
    Treadmill 100 80 ⟨false, 0, 0, 80, 100⟩
      [.mouseDown mmpMouseButtonLeft 50 40 ⟨0, 0, 100, 80⟩, .mouseMove 130 40 ⟨7, 9⟩,
        .keyDown mmpKeyPause, .mouseMove (-4) (-1) ⟨7, 9⟩, .resize 100 80] := by
  refine MousePad.treadmill (by decide) (by decide) fun w h member => ?_
  simp only [List.mem_cons, reduceCtorEq, List.not_mem_nil, false_or, or_false,
    WindowEvent.resize.injEq] at member
  rcases member with ⟨rfl, rfl⟩
  decide

end MagicMousePad
