import MagicMousePad.Repositioning
import MagicMousePad.Lib.SignedRange

/-!
# The range of the pad's sums

The handlers of the pad form sums of `int`: the offset plus or minus a size, and
the offset plus a reading.  Nothing bounds the offset, so the sums stay in range
exactly as long as the sizes of the edges crossed so far, counted with their
direction, do.  Which edges these are follows from the events alone.
-/

namespace MagicMousePad

open SignedRange

/-! ## The edges crossed -/

/-- Whether the mouse is captured, and the size of the client area. -/
structure Frame where
  active : Bool
  width : Int
  height : Int
  deriving DecidableEq

namespace Frame

/-- Before the first event. -/
def new : Frame := ⟨false, 0, 0⟩

/-- A press captures the mouse, and measures a client area whose size is not known
yet; Pause releases the mouse; a resize announces the size. -/
def next (frame : Frame) : WindowEvent → Frame
  | .mouseDown _ _ _ client =>
      if !frame.active && (frame.width == 0 || frame.height == 0) then
        ⟨true, |client.right - client.left|, |client.bottom - client.top|⟩
      else ⟨true, frame.width, frame.height⟩
  | .keyDown key => ⟨frame.active && key != mmpKeyPause, frame.width, frame.height⟩
  | .resize width height => ⟨frame.active, width.toNat, height.toNat⟩
  | _ => frame

/-- The size of the edge that an event crosses on each axis, positive to the right
and the bottom, negative to the left and the top. -/
def crossing (frame : Frame) : WindowEvent → Point
  | .mouseMove x y _ => ⟨shift true x.toInt frame.width, shift true y.toInt frame.height⟩
  | _ => ⟨0, 0⟩

/-- Whether a position is sent on an event. -/
def Sends (frame : Frame) : WindowEvent → Bool
  | .mouseMove _ _ _ => frame.active
  | .mouseDown _ _ _ _ => true
  | .mouseUp _ _ _ => frame.active
  | _ => false

/-- The total of the edges that the events cross. -/
def crossed (frame : Frame) : List WindowEvent → Point
  | [] => ⟨0, 0⟩
  | event :: events =>
      let later := (frame.next event).crossed events
      ⟨(frame.crossing event).x + later.x, (frame.crossing event).y + later.y⟩

end Frame

/-- At every event the edges crossed so far, also with the reading added to them
if it is sent, fit 32 bits. -/
def CrossingsFit (events : List WindowEvent) : Prop :=
  ∀ earlier event later, events = earlier ++ event :: later →
    let total := Frame.new.crossed (earlier ++ [event])
    (Fits 32 total.x ∧ Fits 32 total.y) ∧
      ((earlier.foldl Frame.next .new).Sends event →
        ∀ reading, event.reading = some reading →
          Fits 32 (reading.x + total.x) ∧ Fits 32 (reading.y + total.y))

/-! ## The sums of one event -/

/-- The sum by which one axis of `on_mouse_move` changes the offset. -/
def wrapSums (reading size offset : Int) : List Int :=
  if reading < 0 then [offset - size]
  else if size ≤ reading then [offset + size]
  else []

namespace MousePad

/-- The sums formed by `set_position`. -/
def positionSums (pad : MousePad) (x y : Int16) : List Int := [x.toInt + pad.dx, y.toInt + pad.dy]

/-- The exact results of the sums a handler forms. -/
def sums (pad : MousePad) : WindowEvent → List Int
  | .mouseMove x y origin =>
      wrapSums x.toInt pad.width pad.dx ++ wrapSums y.toInt pad.height pad.dy ++
        if pad.active then (pad.onMouseMove x y origin).1.positionSums x y else []
  | .mouseDown _ x y _ => pad.positionSums x y
  | .mouseUp _ x y => if pad.active then pad.positionSums x y else []
  | .keyDown _ => []
  | .keyUp _ => []
  | .resize _ _ => []
  | .paint => []

/-- What a pad knows of the edges. -/
def frame (pad : MousePad) : Frame := ⟨pad.active, pad.width, pad.height⟩

/-- The offset and the position sent after an event fit 32 bits. -/
def InRange (pad : MousePad) (event : WindowEvent) : Prop :=
  let after := (pad.step event).1
  (Fits 32 after.dx ∧ Fits 32 after.dy) ∧
    (pad.frame.Sends event → ∀ reading, event.reading = some reading →
      Fits 32 (reading.x + after.dx) ∧ Fits 32 (reading.y + after.dy))

end MousePad

/-- The frame after an event depends on the event and the frame before. -/
theorem MousePad.frame_step (pad : MousePad) (event : WindowEvent) :
    (pad.step event).1.frame = pad.frame.next event := by
  cases event with
  | mouseMove x y origin => rfl
  | mouseDown button x y client =>
      unfold frame step onMouseDown Frame.next
      dsimp only
      split <;> rfl
  | mouseUp button x y => rfl
  | keyDown key =>
      simp only [frame, step, onKeyDown, Frame.next]
      cases active : pad.active <;> cases pressed : key == mmpKeyPause <;>
        simp [active, bne, pressed]
  | keyUp key => rfl
  | resize width height => rfl
  | paint => rfl

theorem MousePad.shiftOf_eq_crossing (pad : MousePad) (event : WindowEvent) :
    pad.shiftOf event = pad.frame.crossing event := by
  cases event <;> rfl

/-- On one axis the sum that is formed is the new offset. -/
theorem wrapSums_fit_iff {offset : Int} (fits : Fits 32 offset) (reading size : Int) :
    (∀ n ∈ wrapSums reading size offset, Fits 32 n) ↔
      Fits 32 (offset + shift true reading size) := by
  unfold wrapSums shift side
  by_cases low : reading < 0
  · simp [low, Int.sub_eq_add_neg]
  · by_cases high : size ≤ reading
    · simp [low, high]
    · simpa [low, high] using fits

/-- From an offset in range, the sums of an event fit exactly when what it leaves
and sends does. -/
theorem MousePad.sums_fit_iff {pad : MousePad} (fitsX : Fits 32 pad.dx) (fitsY : Fits 32 pad.dy)
    (event : WindowEvent) : (∀ n ∈ pad.sums event, Fits 32 n) ↔ pad.InRange event := by
  obtain ⟨moveX, moveY⟩ := pad.step_offset event
  unfold MousePad.InRange
  dsimp only
  rw [moveX, moveY]
  cases event with
  | mouseMove x y origin =>
      have position : ∀ n, n ∈ (pad.onMouseMove x y origin).1.positionSums x y ↔
          n = x.toInt + (pad.dx + (pad.shiftOf (.mouseMove x y origin)).x) ∨
            n = y.toInt + (pad.dy + (pad.shiftOf (.mouseMove x y origin)).y) := by
        intro n
        rw [← moveX, ← moveY]
        simp [MousePad.positionSums, MousePad.step]
      have wrapX := wrapSums_fit_iff fitsX x.toInt pad.width
      have wrapY := wrapSums_fit_iff fitsY y.toInt pad.height
      cases active : pad.active with
      | true =>
          simp only [MousePad.sums, active, if_true, List.forall_mem_append, wrapX, wrapY, position,
            forall_eq_or_imp, forall_eq, forall_eq', MousePad.frame, Frame.Sends, forall_const,
            WindowEvent.reading, Option.some.injEq]
          rfl
      | false =>
          simp only [MousePad.sums, active, Bool.false_eq_true, if_false, List.append_nil,
            List.forall_mem_append, wrapX, wrapY, MousePad.frame, Frame.Sends, false_implies,
            and_true]
          rfl
  | mouseDown button x y client =>
      simp [MousePad.sums, MousePad.positionSums, Frame.Sends, MousePad.shiftOf,
        WindowEvent.motion, WindowEvent.reading, shift_of_still, fitsX, fitsY]
  | mouseUp button x y =>
      cases active : pad.active with
      | true =>
          simp [MousePad.sums, MousePad.positionSums, MousePad.frame, Frame.Sends, MousePad.shiftOf,
            WindowEvent.motion, WindowEvent.reading, shift_of_still, fitsX, fitsY, active]
      | false =>
          simp [MousePad.sums, MousePad.frame, Frame.Sends, MousePad.shiftOf, WindowEvent.motion,
            shift_of_still, fitsX, fitsY, active]
  | keyDown key =>
      simp [MousePad.sums, Frame.Sends, MousePad.shiftOf, WindowEvent.motion, fitsX, fitsY]
  | keyUp key =>
      simp [MousePad.sums, Frame.Sends, MousePad.shiftOf, WindowEvent.motion, fitsX, fitsY]
  | resize width height =>
      simp [MousePad.sums, Frame.Sends, MousePad.shiftOf, WindowEvent.motion, fitsX, fitsY]
  | paint =>
      simp [MousePad.sums, Frame.Sends, MousePad.shiftOf, WindowEvent.motion, fitsX, fitsY]

/-! ## Runs -/

/-- No sum formed along the run leaves the 32-bit range. -/
def OverflowFree (pad : MousePad) (events : List WindowEvent) : Prop :=
  ∀ t ∈ Mealy.trail MousePad.step pad events, ∀ n ∈ t.1.sums t.2, Fits 32 n

section Runs

variable {pad : MousePad} {events : List WindowEvent}

/-- Along a run the pad keeps to the frame of the events. -/
theorem frame_run :
    (Mealy.run MousePad.step pad events).1.frame = events.foldl Frame.next pad.frame := by
  induction events generalizing pad with
  | nil => rfl
  | cons event events ih => rw [Mealy.run_cons, ih, pad.frame_step, List.foldl_cons]

/-- The offset grows by what is crossed. -/
theorem offset_run :
    (Mealy.run MousePad.step pad events).1.dx = pad.dx + (pad.frame.crossed events).x ∧
      (Mealy.run MousePad.step pad events).1.dy = pad.dy + (pad.frame.crossed events).y := by
  induction events generalizing pad with
  | nil => exact ⟨(Int.add_zero _).symm, (Int.add_zero _).symm⟩
  | cons event events ih =>
      obtain ⟨moveX, moveY⟩ := pad.step_offset event
      obtain ⟨restX, restY⟩ := @ih (pad.step event).1
      rw [Mealy.run_cons, restX, restY, moveX, moveY, pad.shiftOf_eq_crossing, pad.frame_step,
        Int.add_assoc, Int.add_assoc]
      exact ⟨rfl, rfl⟩

/-- Along a run from an offset in range, the sums fit exactly when every event
leaves and sends what fits. -/
theorem overflowFree_iff_inRange (fitsX : Fits 32 pad.dx) (fitsY : Fits 32 pad.dy) :
    OverflowFree pad events ↔ ∀ t ∈ Mealy.trail MousePad.step pad events, t.1.InRange t.2 := by
  unfold OverflowFree
  induction events generalizing pad with
  | nil => simp
  | cons event events ih =>
      simp only [Mealy.trail_cons, List.forall_mem_cons]
      rw [MousePad.sums_fit_iff fitsX fitsY]
      exact and_congr_right fun inRange => ih inRange.1.1 inRange.1.2

end Runs

/-- From a new pad, no sum overflows exactly as long as the edges crossed so far,
and the readings added to them, fit 32 bits. -/
theorem overflowFree_iff (events : List WindowEvent) :
    OverflowFree .new events ↔ CrossingsFit events := by
  have total : ∀ earlier event,
      ((Mealy.run MousePad.step .new earlier).1.step event).1.dx =
          (Frame.new.crossed (earlier ++ [event])).x ∧
        ((Mealy.run MousePad.step .new earlier).1.step event).1.dy =
          (Frame.new.crossed (earlier ++ [event])).y := by
    intro earlier event
    obtain ⟨x, y⟩ := @offset_run .new (earlier ++ [event])
    rw [Mealy.run_concat] at x y
    exact ⟨x.trans (Int.zero_add _), y.trans (Int.zero_add _)⟩
  have frames : ∀ earlier, (Mealy.run MousePad.step .new earlier).1.frame =
      earlier.foldl Frame.next .new := fun _ => frame_run
  rw [overflowFree_iff_inRange (by decide) (by decide)]
  unfold CrossingsFit
  constructor
  · intro inRange earlier event later split
    have here := inRange (_, event) (Mealy.mem_trail_iff.mpr ⟨earlier, later, split, rfl⟩)
    unfold MousePad.InRange at here
    dsimp only at here ⊢
    rw [(total earlier event).1, (total earlier event).2, frames] at here
    exact here
  · intro fit t member
    obtain ⟨earlier, later, split, reached⟩ := Mealy.mem_trail_iff.mp member
    have here := fit earlier t.2 later split
    unfold MousePad.InRange
    dsimp only at here ⊢
    rw [reached, (total earlier t.2).1, (total earlier t.2).2, frames]
    exact here

/-- A pad of 1920 by 1080 pixels that is left to the left again and again. -/
theorem exists_sum_of_left_moves (n : ℕ) :
    ∃ t ∈ Mealy.trail MousePad.step .new
        (.resize 1920 1080 :: List.replicate (n + 1) (.mouseMove (-1) 0 ⟨0, 0⟩)),
      -1920 * ((n : Int) + 1) ∈ t.1.sums t.2 := by
  have size : MousePad.HasSize 1920 1080 (MousePad.new.step (.resize 1920 1080)).1 := ⟨rfl, rfl⟩
  have constant : ConstantSize 1920 1080 (List.replicate n (.mouseMove (-1) 0 ⟨0, 0⟩)) := by
    intro w h member
    cases List.eq_of_mem_replicate member
  obtain ⟨⟨width, -⟩, offset, -⟩ := size.run (by decide) (by decide) constant
  have right : moves (fun p => 1920 ≤ p.x) (List.replicate n (.mouseMove (-1) 0 ⟨0, 0⟩)) = 0 := by
    rw [moves, List.countP_replicate]
    rfl
  have left : moves (fun p => p.x < 0) (List.replicate n (.mouseMove (-1) 0 ⟨0, 0⟩)) = n := by
    rw [moves, List.countP_replicate]
    rfl
  rw [left, right] at offset
  refine ⟨(_, .mouseMove (-1) 0 ⟨0, 0⟩), Mealy.mem_trail_iff.mpr
    ⟨.resize 1920 1080 :: List.replicate n (.mouseMove (-1) 0 ⟨0, 0⟩), [],
      congrArg (List.cons _) List.replicate_succ', rfl⟩, ?_⟩
  have crossing : -1920 * ((n : Int) + 1) ∈ wrapSums (-1) 1920 (0 + 1920 * ((0 : ℕ) - n)) := by
    have below : (-1 : Int) < 0 := by decide
    rw [wrapSums, if_pos below, List.mem_singleton]
    push_cast
    ring
  rw [Mealy.run_cons, MousePad.sums, width, offset]
  exact List.mem_append_left _ (List.mem_append_left _ crossing)

/-- After 1118482 moves the offset is out of range. -/
theorem not_overflowFree_of_left_moves :
    ¬ OverflowFree .new
      (.resize 1920 1080 :: List.replicate 1118482 (.mouseMove (-1) 0 ⟨0, 0⟩)) := by
  intro free
  obtain ⟨t, member, sum⟩ := exists_sum_of_left_moves 1118481
  have overflow := free t member _ sum
  revert overflow
  decide

end MagicMousePad
