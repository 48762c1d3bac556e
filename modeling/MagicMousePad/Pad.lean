import MagicMousePad.Wire
import MagicMousePad.Lib.Mealy

/-!
# The mouse pad window

`mouse_pad` as a machine over window events: the capture state, the client size
and the offset accumulated by repositioning the cursor, with the calls each
handler makes.  The renderer only draws and is left out, and so are the handler
results, which are all zero.

The source keeps `_dx`, `_dy` and the sums formed with them in `int`.  Here
they are integers, which is the same as long as no sum leaves the 32-bit range;
beyond it the source has no defined result.
-/

namespace MagicMousePad

/-- A point in client or screen coordinates. -/
structure Point where
  x : Int
  y : Int
  deriving DecidableEq

/-- What `GetClientRect` fills in. -/
structure Rect where
  left : Int
  top : Int
  right : Int
  bottom : Int
  deriving DecidableEq

abbrev MmpKey := UInt32

def mmpKeyPause : MmpKey := 0x13

/-- The state of `mouse_pad` that its handlers read and write. -/
structure MousePad where
  active : Bool
  dx : Int
  dy : Int
  height : Int
  width : Int
  deriving DecidableEq

/-- A mouse message as a handler fills it in, its position still the sums formed
by `set_position`. -/
structure PadMessage where
  /-- The button and the down flag of a button message. -/
  button : Option (UInt8 × Bool)
  position : Point
  deriving DecidableEq

/-- `set_position` on a message: the position swapped into network-byte order. -/
def MouseMsg.setPosition (msg : MouseMsg) (position : Point) : MouseMsg :=
  msg.withPosition (ntohlInt (Int32.ofInt position.x)) (ntohlInt (Int32.ofInt position.y))

/-- The struct handed to `server::send`. -/
def PadMessage.toMouseMsg (padding : UInt8 × UInt8) (msg : PadMessage) : MouseMsg :=
  match msg.button with
  | none => (MouseMsg.mouseMove {}).setPosition msg.position
  | some (button, down) =>
      (MouseMsg.mouseButton { button := button, down := down, padding := padding }).setPosition
        msg.position

/-- What a handler asks of Windows and of the server. -/
inductive PadEffect
  | setCapture
  | releaseCapture
  | setCursorPos (screen : Point)
  | send (msg : PadMessage)
  deriving DecidableEq

namespace MousePad

/-- `mouse_pad::mouse_pad`. -/
def new : MousePad where
  active := false
  dx := 0
  dy := 0
  height := 0
  width := 0

/-- The sums of `set_position`. -/
def setPosition (pad : MousePad) (x y : Int16) : Point where
  x := x.toInt + pad.dx
  y := y.toInt + pad.dy

/-- `mouse_pad::on_key_down`. -/
def onKeyDown (pad : MousePad) (key : MmpKey) : MousePad × List PadEffect :=
  if pad.active && key == mmpKeyPause then
    ({ pad with active := false }, [.releaseCapture])
  else (pad, [])

/-- `mouse_pad::on_mouse_down`; `client` is what `GetClientRect` answers. -/
def onMouseDown (pad : MousePad) (button : UInt8) (x y : Int16) (client : Rect) :
    MousePad × List PadEffect :=
  let pad :=
    if !pad.active && (pad.width == 0 || pad.height == 0) then
      { pad with width := |client.right - client.left|, height := |client.bottom - client.top| }
    else pad
  let pad := { pad with active := true }
  (pad, [.setCapture, .send ⟨some (button, true), pad.setPosition x y⟩])

/-- One axis of `on_mouse_move`: where the cursor is put, and the new offset. -/
def wrapAxis (reading size offset : Int) : Int × Int :=
  if reading < 0 then (size - 1, offset - size)
  else if size ≤ reading then (0, offset + size)
  else (reading, offset)

/-- `mouse_pad::on_mouse_move`; `origin` is what `ClientToScreen` adds. -/
def onMouseMove (pad : MousePad) (x y : Int16) (origin : Point) : MousePad × List PadEffect :=
  let horizontal := wrapAxis x.toInt pad.width pad.dx
  let vertical := wrapAxis y.toInt pad.height pad.dy
  let pad := { pad with dx := horizontal.2, dy := vertical.2 }
  (pad,
    (if horizontal.1 ≠ x.toInt ∨ vertical.1 ≠ y.toInt then
      [.setCursorPos ⟨horizontal.1 + origin.x, vertical.1 + origin.y⟩] else []) ++
    (if pad.active then [.send ⟨none, pad.setPosition x y⟩] else []))

/-- `mouse_pad::on_mouse_up`. -/
def onMouseUp (pad : MousePad) (button : UInt8) (x y : Int16) : MousePad × List PadEffect :=
  (pad, if pad.active then [.send ⟨some (button, false), pad.setPosition x y⟩] else [])

/-- `mouse_pad::on_resize`. -/
def onResize (pad : MousePad) (width height : UInt16) : MousePad × List PadEffect :=
  ({ pad with width := width.toNat, height := height.toNat }, [])

end MousePad

/-- The messages `wnd_proc` dispatches to a handler, with what the handler reads
from Windows on the way. -/
inductive WindowEvent
  | mouseMove (x y : Int16) (origin : Point)
  | mouseDown (button : UInt8) (x y : Int16) (client : Rect)
  | mouseUp (button : UInt8) (x y : Int16)
  | keyDown (key : MmpKey)
  | keyUp (key : MmpKey)
  | resize (width height : UInt16)
  | paint
  deriving DecidableEq

/-- The dispatch of `mouse_pad::wnd_proc`. -/
def MousePad.step (pad : MousePad) : WindowEvent → MousePad × List PadEffect
  | .mouseMove x y origin => pad.onMouseMove x y origin
  | .mouseDown button x y client => pad.onMouseDown button x y client
  | .mouseUp button x y => pad.onMouseUp button x y
  | .keyDown key => pad.onKeyDown key
  | .keyUp _ => (pad, [])
  | .resize width height => pad.onResize width height
  | .paint => (pad, [])

end MagicMousePad
