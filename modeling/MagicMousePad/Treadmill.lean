import MagicMousePad.Pad
import Mathlib.Data.List.Chain

/-!
# The treadmill

What clients see of the pad, message by message: the reading a message was
caused by, the place the handler left the cursor at, and the position it
broadcast.  A wrap is invisible to clients when consecutive broadcasts differ by
the way from the place the cursor was left at to the next reading.  The handler
broadcasts the raw reading under the offset of the repositioned cursor, so this
holds of a pair of events only if neither leaves the pad, or if both leave it on
the same side and the first by a single pixel.
-/

namespace MagicMousePad

/-! ## Strokes -/

/-- A broadcast: the reading that caused it, the place where the handler left
the cursor, and the position sent. -/
structure Stroke where
  reading : Point
  landing : Point
  sent : Point
  deriving DecidableEq

/-- The client coordinates a mouse event reports. -/
def WindowEvent.reading : WindowEvent → Option Point
  | .mouseMove x y _ => some ⟨x.toInt, y.toInt⟩
  | .mouseDown _ x y _ => some ⟨x.toInt, y.toInt⟩
  | .mouseUp _ x y => some ⟨x.toInt, y.toInt⟩
  | _ => none

/-- What `ClientToScreen` adds during the event. -/
def WindowEvent.origin : WindowEvent → Point
  | .mouseMove _ _ origin => origin
  | _ => ⟨0, 0⟩

/-- The last point passed to `SetCursorPos`. -/
def warpTarget (effects : List PadEffect) : Option Point :=
  effects.findSome? fun
    | .setCursorPos screen => some screen
    | _ => none

/-- The position of the message sent, if one was. -/
def broadcast (effects : List PadEffect) : Option Point :=
  effects.findSome? fun
    | .send msg => some msg.position
    | _ => none

/-- The broadcast of one event.  The cursor is left at the warp target, back in
client coordinates, or else where it was read. -/
def WindowEvent.stroke (event : WindowEvent) (effects : List PadEffect) : Option Stroke := do
  let reading ← event.reading
  let sent ← broadcast effects
  let landing :=
    match warpTarget effects with
    | some screen => ⟨screen.x - event.origin.x, screen.y - event.origin.y⟩
    | none => reading
  return ⟨reading, landing, sent⟩

/-- The broadcasts of a run, in order. -/
def strokes (pad : MousePad) (events : List WindowEvent) : List Stroke :=
  (Mealy.trail MousePad.step pad events).filterMap fun t => t.2.stroke (t.1.step t.2).2

/-- Two consecutive broadcasts differ by the displacement of the mouse. -/
def Stroke.Follows (first second : Stroke) : Prop :=
  second.sent.x - first.sent.x = second.reading.x - first.landing.x ∧
    second.sent.y - first.sent.y = second.reading.y - first.landing.y

instance (first second : Stroke) : Decidable (first.Follows second) :=
  inferInstanceAs (Decidable (_ ∧ _))

/-- No wrap of the run shows up as a jump in the broadcasts. -/
def PixelPerfect (pad : MousePad) (events : List WindowEvent) : Prop :=
  (strokes pad events).IsChain Stroke.Follows

instance (pad : MousePad) (events : List WindowEvent) : Decidable (PixelPerfect pad events) :=
  inferInstanceAs (Decidable ((strokes pad events).IsChain Stroke.Follows))

/-- The pad is capturing and its client area has the given size. -/
def MousePad.Steady (width height : Int) (pad : MousePad) : Prop :=
  pad.active = true ∧ pad.width = width ∧ pad.height = height

/-! ## The motions behind the strokes -/

/-- A mouse event as far as the treadmill is concerned: moves are wrapped,
presses and releases are not. -/
structure Motion where
  wraps : Bool
  reading : Point

def WindowEvent.motion : WindowEvent → Option Motion
  | .mouseMove x y _ => some ⟨true, ⟨x.toInt, y.toInt⟩⟩
  | .mouseDown _ x y _ => some ⟨false, ⟨x.toInt, y.toInt⟩⟩
  | .mouseUp _ x y => some ⟨false, ⟨x.toInt, y.toInt⟩⟩
  | _ => none

/-- Where a reading lies relative to a client area of the given extent. -/
inductive Side
  | inside
  | low
  | high
  deriving DecidableEq

/-- On which side a motion leaves the client area on one axis. -/
def side (wraps : Bool) (reading size : Int) : Side :=
  if wraps ∧ reading < 0 then .low
  else if wraps ∧ size ≤ reading then .high
  else .inside

/-- On one axis, neither motion leaves the client area, or both leave it on the
same side, the first by one pixel. -/
def AxisSmooth (size : Int) (wraps : Bool) (reading : Int) (wraps' : Bool) (reading' : Int) :
    Prop :=
  match side wraps reading size, side wraps' reading' size with
  | .inside, .inside => True
  | .low, .low => reading = -1
  | .high, .high => reading = size
  | _, _ => False

/-- Two consecutive motions that clients see without a jump. -/
def Motion.Smooth (width height : Int) (first second : Motion) : Prop :=
  AxisSmooth width first.wraps first.reading.x second.wraps second.reading.x ∧
    AxisSmooth height first.wraps first.reading.y second.wraps second.reading.y

/-- Where a motion leaves the cursor on one axis. -/
def landing (wraps : Bool) (reading size : Int) : Int :=
  match side wraps reading size with
  | .inside => reading
  | .low => size - 1
  | .high => 0

/-- By how much a motion changes the offset of one axis. -/
def shift (wraps : Bool) (reading size : Int) : Int :=
  match side wraps reading size with
  | .inside => 0
  | .low => -size
  | .high => size

theorem wrapAxis_eq (reading size offset : Int) :
    MousePad.wrapAxis reading size offset =
      (landing true reading size, offset + shift true reading size) := by
  unfold MousePad.wrapAxis landing shift side
  by_cases low : reading < 0
  · simp [low, Int.sub_eq_add_neg]
  · by_cases high : size ≤ reading
    · simp [low, high]
    · simp [low, high]

theorem landing_of_still (reading size : Int) : landing false reading size = reading := rfl

theorem shift_of_still (reading size : Int) : shift false reading size = 0 := rfl

/-- The way a motion overshoots is made good by the next shift exactly when the
two motions are smooth. -/
theorem shift_eq_overshoot_iff {size : Int} (positive : 1 ≤ size) (wraps wraps' : Bool)
    (reading reading' : Int) :
    shift wraps' reading' size = reading - landing wraps reading size ↔
      AxisSmooth size wraps reading wraps' reading' := by
  have low : side wraps reading size = .low → reading < 0 := by
    unfold side
    grind
  have high : side wraps reading size = .high → size ≤ reading := by
    unfold side
    grind
  unfold shift landing AxisSmooth
  cases first : side wraps reading size <;> cases second : side wraps' reading' size <;>
    simp only [first, reduceCtorEq, false_implies, forall_const, iff_true, iff_false]
      at low high ⊢ <;>
    omega

/-! ## One event of a steady pad -/

section Steady

variable {width height : Int} {pad : MousePad}

/-- The pad after a motion: only the offsets move. -/
def MousePad.shifted (pad : MousePad) (m : Motion) : MousePad :=
  { pad with
    dx := pad.dx + shift m.wraps m.reading.x pad.width
    dy := pad.dy + shift m.wraps m.reading.y pad.height }

/-- The stroke of a motion: the reading goes out under the offset the motion
has already moved. -/
def MousePad.strokeOf (pad : MousePad) (m : Motion) : Stroke where
  reading := m.reading
  landing := ⟨landing m.wraps m.reading.x pad.width, landing m.wraps m.reading.y pad.height⟩
  sent := ⟨m.reading.x + (pad.shifted m).dx, m.reading.y + (pad.shifted m).dy⟩

/-- An event of a capturing pad that is no motion sends nothing; if it leaves
the pad steady, it leaves it alone. -/
theorem step_of_not_motion {event : WindowEvent} (steady : pad.Steady width height)
    (after : (pad.step event).1.Steady width height) (still : event.motion = none) :
    (pad.step event).1 = pad ∧ event.stroke (pad.step event).2 = none := by
  rcases steady with ⟨active, sizeX, sizeY⟩
  cases event with
  | mouseMove x y origin => cases still
  | mouseDown button x y client => cases still
  | mouseUp button x y => cases still
  | keyUp key => exact ⟨rfl, rfl⟩
  | paint => exact ⟨rfl, rfl⟩
  | keyDown key =>
      refine ⟨?_, rfl⟩
      rcases after with ⟨stillActive, -, -⟩
      simp only [MousePad.step, MousePad.onKeyDown] at stillActive ⊢
      split at stillActive
      · cases stillActive
      · next other => rw [if_neg other]
  | resize newWidth newHeight =>
      refine ⟨?_, rfl⟩
      rcases after with ⟨-, sameX, sameY⟩
      simp only [MousePad.step, MousePad.onResize] at sameX sameY ⊢
      rw [sameX, sameY, ← sizeX, ← sizeY]

/-- A motion on a capturing pad moves the offsets and sends its stroke. -/
theorem step_of_motion {event : WindowEvent} {m : Motion} (active : pad.active = true)
    (motion : event.motion = some m) :
    (pad.step event).1 = pad.shifted m ∧
      event.stroke (pad.step event).2 = some (pad.strokeOf m) := by
  cases event with
  | keyDown key => cases motion
  | keyUp key => cases motion
  | resize newWidth newHeight => cases motion
  | paint => cases motion
  | mouseDown button x y client =>
      cases motion
      have same : (pad.step (.mouseDown button x y client)).1 = pad := by
        rcases pad with ⟨_, dx, dy, h, w⟩
        cases active
        rfl
      refine ⟨?_, ?_⟩
      · rw [same]
        simp [MousePad.shifted, shift_of_still]
      · simp [MousePad.step, MousePad.onMouseDown, active, WindowEvent.stroke, WindowEvent.reading,
          broadcast, warpTarget, MousePad.setPosition, MousePad.strokeOf, MousePad.shifted,
          landing_of_still, shift_of_still]
  | mouseUp button x y =>
      cases motion
      refine ⟨?_, ?_⟩
      · simp [MousePad.step, MousePad.onMouseUp, MousePad.shifted, shift_of_still]
      · simp [MousePad.step, MousePad.onMouseUp, active, WindowEvent.stroke, WindowEvent.reading,
          broadcast, warpTarget, MousePad.setPosition, MousePad.strokeOf, MousePad.shifted,
          landing_of_still, shift_of_still]
  | mouseMove x y origin =>
      cases motion
      refine ⟨?_, ?_⟩
      · simp [MousePad.step, MousePad.onMouseMove, wrapAxis_eq, MousePad.shifted]
      · by_cases moved : landing true x.toInt pad.width ≠ x.toInt ∨
          landing true y.toInt pad.height ≠ y.toInt
        · simp [MousePad.step, MousePad.onMouseMove, wrapAxis_eq, moved, active,
            WindowEvent.stroke, WindowEvent.reading, WindowEvent.origin, broadcast, warpTarget,
            MousePad.setPosition, MousePad.strokeOf, MousePad.shifted]
        · obtain ⟨sameX, sameY⟩ := not_or.mp moved
          rw [not_not] at sameX sameY
          simp [MousePad.step, MousePad.onMouseMove, wrapAxis_eq, sameX, sameY, active,
            WindowEvent.stroke, WindowEvent.reading, broadcast, warpTarget,
            MousePad.setPosition, MousePad.strokeOf, MousePad.shifted]

/-- The strokes of two motions in a row follow each other exactly when the
motions are smooth. -/
theorem strokeOf_follows_iff (positiveX : 1 ≤ pad.width) (positiveY : 1 ≤ pad.height)
    (first second : Motion) :
    (pad.strokeOf first).Follows ((pad.shifted first).strokeOf second) ↔
      first.Smooth pad.width pad.height second := by
  have horizontal := shift_eq_overshoot_iff positiveX first.wraps second.wraps
    first.reading.x second.reading.x
  have vertical := shift_eq_overshoot_iff positiveY first.wraps second.wraps
    first.reading.y second.reading.y
  unfold Stroke.Follows Motion.Smooth
  rw [← horizontal, ← vertical]
  simp only [MousePad.strokeOf, MousePad.shifted]
  constructor
  · intro follows
    rcases follows with ⟨x, y⟩
    exact ⟨by omega, by omega⟩
  · intro smooth
    rcases smooth with ⟨x, y⟩
    exact ⟨by omega, by omega⟩

end Steady

/-! ## Runs of a steady pad -/

/-- The motions among the events of a run. -/
def motions (events : List WindowEvent) : List Motion := events.filterMap WindowEvent.motion

section SteadyRuns

variable {width height : Int} {pad : MousePad} {events : List WindowEvent} {event : WindowEvent}

theorem strokes_cons :
    strokes pad (event :: events) =
      (event.stroke (pad.step event).2).toList ++ strokes (pad.step event).1 events := by
  rw [strokes, Mealy.trail_cons, List.filterMap_cons, strokes]
  cases event.stroke (pad.step event).2 <;> rfl

/-- An event that is no motion neither sends anything nor moves a steady pad. -/
theorem strokes_cons_of_not_motion (still : event.motion = none)
    (always : Mealy.Always MousePad.step (MousePad.Steady width height) pad (event :: events)) :
    strokes pad (event :: events) = strokes pad events ∧
      Mealy.Always MousePad.step (MousePad.Steady width height) pad events := by
  rcases always with ⟨steady, later⟩
  obtain ⟨same, silent⟩ := step_of_not_motion steady later.head still
  rw [same] at later
  refine ⟨?_, later⟩
  rw [strokes_cons, silent, same, Option.toList_none, List.nil_append]

/-- A motion sends its stroke first. -/
theorem strokes_cons_of_motion {m : Motion} (motion : event.motion = some m)
    (always : Mealy.Always MousePad.step (MousePad.Steady width height) pad (event :: events)) :
    strokes pad (event :: events) = pad.strokeOf m :: strokes (pad.shifted m) events ∧
      Mealy.Always MousePad.step (MousePad.Steady width height) (pad.shifted m) events := by
  rcases always with ⟨steady, later⟩
  obtain ⟨moved, sent⟩ := step_of_motion steady.1 motion
  rw [moved] at later
  refine ⟨?_, later⟩
  rw [strokes_cons, sent, moved, Option.toList_some, List.singleton_append]

/-- After a motion, the broadcasts follow each other without a jump exactly as
long as the motions are smooth. -/
theorem isChain_strokeOf_iff (positiveX : 1 ≤ width) (positiveY : 1 ≤ height) {m : Motion}
    (sizeX : pad.width = width) (sizeY : pad.height = height)
    (always : Mealy.Always MousePad.step (MousePad.Steady width height) (pad.shifted m) events) :
    (pad.strokeOf m :: strokes (pad.shifted m) events).IsChain Stroke.Follows ↔
      (m :: motions events).IsChain (Motion.Smooth width height) := by
  induction events generalizing pad m with
  | nil => simp [strokes, motions]
  | cons event events ih =>
      cases motion : event.motion with
      | none =>
          obtain ⟨sameStrokes, later⟩ := strokes_cons_of_not_motion motion always
          rw [sameStrokes, motions, List.filterMap_cons_none motion]
          exact ih sizeX sizeY later
      | some next =>
          obtain ⟨moreStrokes, later⟩ := strokes_cons_of_motion motion always
          have pair := strokeOf_follows_iff (sizeX ▸ positiveX) (sizeY ▸ positiveY) m next
          rw [sizeX, sizeY] at pair
          rw [moreStrokes, motions, List.filterMap_cons_some motion, List.isChain_cons_cons,
            List.isChain_cons_cons, pair]
          exact and_congr_right fun _ => ih sizeX sizeY later

/-- On a pad that stays active at one size, the broadcasts of a run differ by
the displacements of the mouse exactly when, for every two motions in a row and
on both axes, neither leaves the pad or both leave it on the same side, the
first by a single pixel. -/
theorem pixelPerfect_iff (positiveX : 1 ≤ width) (positiveY : 1 ≤ height)
    (always : Mealy.Always MousePad.step (MousePad.Steady width height) pad events) :
    PixelPerfect pad events ↔ (motions events).IsChain (Motion.Smooth width height) := by
  unfold PixelPerfect
  induction events generalizing pad with
  | nil => simp [strokes, motions]
  | cons event events ih =>
      cases motion : event.motion with
      | none =>
          obtain ⟨sameStrokes, later⟩ := strokes_cons_of_not_motion motion always
          rw [sameStrokes, motions, List.filterMap_cons_none motion]
          exact ih later
      | some m =>
          obtain ⟨moreStrokes, later⟩ := strokes_cons_of_motion motion always
          rw [moreStrokes, motions, List.filterMap_cons_some motion]
          rcases always with ⟨⟨-, sizeX, sizeY⟩, -⟩
          exact isChain_strokeOf_iff positiveX positiveY sizeX sizeY later

end SteadyRuns

/-- Two moves over the right edge of a capturing pad of 100 by 80 pixels, the first
by a single pixel: the cursor goes to 0 and on to 103, the broadcasts to 200 and
303. -/
theorem pixelPerfect_of_right_edge :
    PixelPerfect ⟨true, 0, 0, 80, 100⟩ [.mouseMove 100 10 ⟨0, 0⟩, .mouseMove 103 9 ⟨0, 0⟩] := by
  refine (pixelPerfect_iff (by decide : (1 : Int) ≤ 100) (by decide : (1 : Int) ≤ 80) ?_).mpr ?_
  · exact ⟨⟨rfl, rfl, rfl⟩, ⟨rfl, rfl, rfl⟩, rfl, rfl, rfl⟩
  · exact .cons_cons ⟨rfl, trivial⟩ (.singleton _)

/-- One pixel over the left edge of a pad of 100 by 80 pixels: the mouse moves
by one pixel and the broadcast jumps by 101. -/
theorem not_pixelPerfect_at_left_edge :
    Mealy.Always MousePad.step (MousePad.Steady 100 80) ⟨true, 0, 0, 80, 100⟩
        [.mouseMove 0 10 ⟨0, 0⟩, .mouseMove (-1) 10 ⟨0, 0⟩] ∧
      ¬ PixelPerfect ⟨true, 0, 0, 80, 100⟩
        [.mouseMove 0 10 ⟨0, 0⟩, .mouseMove (-1) 10 ⟨0, 0⟩] :=
  ⟨⟨⟨rfl, rfl, rfl⟩, ⟨rfl, rfl, rfl⟩, rfl, rfl, rfl⟩, by decide⟩

end MagicMousePad
