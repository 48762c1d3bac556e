import MagicMousePad.Pad
import Mathlib.Data.Finset.Image
import Mathlib.Data.Fintype.Defs
import Mathlib.Data.List.Chain

/-!
# Buttons

The window procedure with the messages it dispatches, and the buttons that are
down for the user and for the clients.  A press always reaches the clients, since
it activates the pad.  A release reaches them only while the pad is active, so a
button that is held when Pause ends the capture stays down remotely, unless a
press reactivates the pad before the button is released.
-/

namespace MagicMousePad

/-! ## Window messages -/

/-- The buttons of a mouse. -/
inductive Button
  | left
  | middle
  | right
  | x1
  | x2
  deriving DecidableEq

instance : Fintype Button where
  elems := {.left, .middle, .right, .x1, .x2}
  complete b := by cases b <;> decide

/-- The `mmp_mouse_button` of a button. -/
def Button.code : Button → UInt8
  | .left => mmpMouseButtonLeft
  | .middle => mmpMouseButtonMiddle
  | .right => mmpMouseButtonRight
  | .x1 => mmpMouseButtonX1
  | .x2 => mmpMouseButtonX2

theorem Button.code_injective : Function.Injective Button.code := by decide

/-- The two words of `lParam`. -/
structure LParam where
  loword : UInt16
  hiword : UInt16
  deriving DecidableEq

/-- `XBUTTON1` and `XBUTTON2`, in the high word of `wParam`. -/
def xbutton1 : UInt16 := 1
def xbutton2 : UInt16 := 2

/-- The messages of the window, with what the handlers read from Windows; `other`
stands for those that no handler of the pad gets. -/
inductive WindowMessage
  | size (lParam : LParam)
  | paint
  | mouseMove (lParam : LParam) (origin : Point)
  | lButtonDown (lParam : LParam) (client : Rect)
  | mButtonDown (lParam : LParam) (client : Rect)
  | rButtonDown (lParam : LParam) (client : Rect)
  | xButtonDown (hiword : UInt16) (lParam : LParam) (client : Rect)
  | lButtonUp (lParam : LParam)
  | mButtonUp (lParam : LParam)
  | rButtonUp (lParam : LParam)
  | xButtonUp (hiword : UInt16) (lParam : LParam)
  | keyDown (wParam : UInt64)
  | keyUp (wParam : UInt64)
  | other
  deriving DecidableEq

namespace WindowMessage

/-- The call of `on_mouse_down` for a button. -/
def down (button : UInt8) (lParam : LParam) (client : Rect) : WindowEvent :=
  .mouseDown button lParam.loword.toInt16 lParam.hiword.toInt16 client

/-- The call of `on_mouse_up` for a button. -/
def up (button : UInt8) (lParam : LParam) : WindowEvent :=
  .mouseUp button lParam.loword.toInt16 lParam.hiword.toInt16

/-- The handler `mouse_pad::wnd_proc` calls for a message. -/
def event : WindowMessage → Option WindowEvent
  | .size lParam => some (.resize lParam.loword lParam.hiword)
  | .paint => some .paint
  | .mouseMove lParam origin =>
      some (.mouseMove lParam.loword.toInt16 lParam.hiword.toInt16 origin)
  | .lButtonDown lParam client => some (down mmpMouseButtonLeft lParam client)
  | .mButtonDown lParam client => some (down mmpMouseButtonMiddle lParam client)
  | .rButtonDown lParam client => some (down mmpMouseButtonRight lParam client)
  | .xButtonDown hiword lParam client =>
      if hiword = xbutton1 then some (down mmpMouseButtonX1 lParam client)
      else if hiword = xbutton2 then some (down mmpMouseButtonX2 lParam client)
      else none
  | .lButtonUp lParam => some (up mmpMouseButtonLeft lParam)
  | .mButtonUp lParam => some (up mmpMouseButtonMiddle lParam)
  | .rButtonUp lParam => some (up mmpMouseButtonRight lParam)
  | .xButtonUp hiword lParam =>
      if hiword = xbutton1 then some (up mmpMouseButtonX1 lParam)
      else if hiword = xbutton2 then some (up mmpMouseButtonX2 lParam)
      else none
  | .keyDown wParam => some (.keyDown wParam.toUInt32)
  | .keyUp wParam => some (.keyUp wParam.toUInt32)
  | .other => none

end WindowMessage

/-- `mouse_pad::wnd_proc`. -/
def MousePad.wndProc (pad : MousePad) (message : WindowMessage) : MousePad × List PadEffect :=
  match message.event with
  | some event => pad.step event
  | none => (pad, [])

/-! ## What the user does -/

/-- What the user does to a button: press (`true`) or release it. -/
def WindowMessage.press : WindowMessage → Option (Button × Bool)
  | .lButtonDown _ _ => some (.left, true)
  | .mButtonDown _ _ => some (.middle, true)
  | .rButtonDown _ _ => some (.right, true)
  | .xButtonDown hiword _ _ =>
      if hiword = xbutton1 then some (.x1, true)
      else if hiword = xbutton2 then some (.x2, true)
      else none
  | .lButtonUp _ => some (.left, false)
  | .mButtonUp _ => some (.middle, false)
  | .rButtonUp _ => some (.right, false)
  | .xButtonUp hiword _ =>
      if hiword = xbutton1 then some (.x1, false)
      else if hiword = xbutton2 then some (.x2, false)
      else none
  | _ => none

/-- The message is the key down of Pause. -/
def WindowMessage.IsPause : WindowMessage → Bool
  | .keyDown wParam => wParam.toUInt32 == mmpKeyPause
  | _ => false

/-- What the user did to one button, in order. -/
def presses (b : Button) (messages : List WindowMessage) : List Bool :=
  messages.filterMap fun message =>
    match message.press with
    | some (b', down) => if b' = b then some down else none
    | none => none

/-- Presses and releases of every button alternate, starting with a press: as if
it had been released before. -/
def Alternating (messages : List WindowMessage) : Prop :=
  ∀ b, (false :: presses b messages).IsChain (· ≠ ·)

/-- The buttons held after one more message. -/
def hold (held : Finset Button) (message : WindowMessage) : Finset Button :=
  match message.press with
  | some (b, true) => insert b held
  | some (b, false) => held.erase b
  | none => held

/-- The buttons the user holds after the messages. -/
def heldAfter (messages : List WindowMessage) : Finset Button := messages.foldl hold ∅

/-- Whether Pause has come since the last press. -/
def capturing (messages : List WindowMessage) : Bool :=
  messages.foldl (fun active message =>
    match message.press with
    | some (_, true) => true
    | _ => active && !message.IsPause) false

/-! ## What the clients are told -/

/-- The buttons that are down after one more effect of the pad. -/
def note (down : Finset UInt8) (effect : PadEffect) : Finset UInt8 :=
  match effect with
  | .send ⟨some (button, true), _⟩ => insert button down
  | .send ⟨some (button, false), _⟩ => down.erase button
  | _ => down

/-- The buttons that are down according to the messages broadcast. -/
def downAfter (effects : List PadEffect) : Finset UInt8 := effects.foldl note ∅

/-- After every message the buttons that are down for the clients are those the
user holds. -/
def Mirrored (messages : List WindowMessage) : Prop :=
  ∀ earlier, earlier <+: messages →
    downAfter (Mealy.run MousePad.wndProc .new earlier).2.flatten =
      (heldAfter earlier).image Button.code

/-! ## One message -/

section OneMessage

variable {messages : List WindowMessage} {message : WindowMessage} {b : Button}

theorem heldAfter_concat :
    heldAfter (messages ++ [message]) = hold (heldAfter messages) message := by
  rw [heldAfter, List.foldl_concat, heldAfter]

theorem downAfter_concat (effects effects' : List PadEffect) :
    downAfter (effects ++ effects') = effects'.foldl note (downAfter effects) := by
  rw [downAfter, List.foldl_append, downAfter]

theorem presses_append (b : Button) (messages later : List WindowMessage) :
    presses b (messages ++ later) = presses b messages ++ presses b later :=
  List.filterMap_append

theorem Alternating.of_append {later : List WindowMessage}
    (alternating : Alternating (messages ++ later)) : Alternating messages := by
  intro b
  have whole := alternating b
  rw [presses_append, ← List.cons_append] at whole
  exact whole.left_of_append

/-- A message is the press or the release of a button, or the key down of Pause,
or leaves both the pad's activity and the clients' buttons alone. -/
theorem MousePad.wndProc_cases (pad : MousePad) (message : WindowMessage) :
    (∃ b position, message.press = some (b, true) ∧ (pad.wndProc message).1.active = true ∧
        (pad.wndProc message).2 = [.setCapture, .send ⟨some (b.code, true), position⟩]) ∨
      (∃ b position, message.press = some (b, false) ∧
        (pad.wndProc message).1.active = pad.active ∧ message.IsPause = false ∧
        (pad.wndProc message).2 =
          if pad.active then [.send ⟨some (b.code, false), position⟩] else []) ∨
      (message.press = none ∧
        (pad.wndProc message).1.active = (pad.active && !message.IsPause) ∧
        ∀ down, (pad.wndProc message).2.foldl note down = down) := by
  cases message with
  | size lParam => exact Or.inr (Or.inr ⟨rfl, (Bool.and_true _).symm, fun _ => rfl⟩)
  | paint => exact Or.inr (Or.inr ⟨rfl, (Bool.and_true _).symm, fun _ => rfl⟩)
  | other => exact Or.inr (Or.inr ⟨rfl, (Bool.and_true _).symm, fun _ => rfl⟩)
  | keyUp wParam => exact Or.inr (Or.inr ⟨rfl, (Bool.and_true _).symm, fun _ => rfl⟩)
  | mouseMove lParam origin =>
      refine Or.inr (Or.inr ⟨rfl, (Bool.and_true _).symm, fun down => ?_⟩)
      simp only [wndProc, WindowMessage.event, step, onMouseMove]
      split <;> split <;> rfl
  | keyDown wParam =>
      refine Or.inr (Or.inr ⟨rfl, ?_, fun down => ?_⟩)
      · simp only [wndProc, WindowMessage.event, step, onKeyDown, WindowMessage.IsPause]
        cases active : pad.active <;> cases wParam.toUInt32 == mmpKeyPause <;> simp [active]
      · simp only [wndProc, WindowMessage.event, step, onKeyDown]
        split <;> rfl
  | lButtonDown lParam client => exact Or.inl ⟨.left, _, rfl, rfl, rfl⟩
  | mButtonDown lParam client => exact Or.inl ⟨.middle, _, rfl, rfl, rfl⟩
  | rButtonDown lParam client => exact Or.inl ⟨.right, _, rfl, rfl, rfl⟩
  | xButtonDown hiword lParam client =>
      by_cases first : hiword = xbutton1
      · subst first
        exact Or.inl ⟨.x1, _, rfl, rfl, rfl⟩
      · by_cases second : hiword = xbutton2
        · subst second
          exact Or.inl ⟨.x2, _, rfl, rfl, rfl⟩
        · refine Or.inr (Or.inr ⟨?_, ?_, ?_⟩)
          · simp [WindowMessage.press, first, second]
          · simp [wndProc, WindowMessage.event, WindowMessage.IsPause, first, second]
          · simp [wndProc, WindowMessage.event, first, second]
  | lButtonUp lParam => exact Or.inr (Or.inl ⟨.left, _, rfl, rfl, rfl, rfl⟩)
  | mButtonUp lParam => exact Or.inr (Or.inl ⟨.middle, _, rfl, rfl, rfl, rfl⟩)
  | rButtonUp lParam => exact Or.inr (Or.inl ⟨.right, _, rfl, rfl, rfl, rfl⟩)
  | xButtonUp hiword lParam =>
      by_cases first : hiword = xbutton1
      · subst first
        exact Or.inr (Or.inl ⟨.x1, _, rfl, rfl, rfl, rfl⟩)
      · by_cases second : hiword = xbutton2
        · subst second
          exact Or.inr (Or.inl ⟨.x2, _, rfl, rfl, rfl, rfl⟩)
        · refine Or.inr (Or.inr ⟨?_, ?_, ?_⟩)
          · simp [WindowMessage.press, first, second]
          · simp [wndProc, WindowMessage.event, WindowMessage.IsPause, first, second]
          · simp [wndProc, WindowMessage.event, first, second]

/-- A button is held when the last thing the user did to it was to press it. -/
theorem mem_heldAfter_iff :
    b ∈ heldAfter messages ↔ (false :: presses b messages).getLast? = some true := by
  induction messages using List.reverseRecOn with
  | nil => simp [heldAfter, presses]
  | append_singleton messages message ih =>
      rw [heldAfter_concat, presses_append, hold]
      cases press : message.press with
      | none =>
          have silent : presses b [message] = [] := by simp [presses, press]
          rw [silent, List.append_nil]
          exact ih
      | some pressed =>
          rcases pressed with ⟨b', down⟩
          by_cases same : b' = b
          · subst same
            have heard : presses b' [message] = [down] := by simp [presses, press]
            rw [heard, ← List.cons_append, List.getLast?_concat]
            cases down <;> simp
          · have silent : presses b [message] = [] := by simp [presses, press, same]
            rw [silent, List.append_nil, ← ih]
            cases down <;> simp [Ne.symm same]

/-- In an alternating run only held buttons are released. -/
theorem Alternating.mem_of_release (alternating : Alternating (messages ++ [message]))
    (release : message.press = some (b, false)) : b ∈ heldAfter messages := by
  have whole := alternating b
  have heard : presses b [message] = [false] := by simp [presses, release]
  rw [presses_append, heard, ← List.cons_append] at whole
  have last := (List.isChain_append.mp whole).2.2
  rw [mem_heldAfter_iff]
  cases final : (false :: presses b messages).getLast? with
  | none => simp at final
  | some down =>
      have different := last down final false rfl
      cases down with
      | true => rfl
      | false => exact (different rfl).elim

/-- The pad is active when no Pause has come since the last press. -/
theorem active_run : (Mealy.run MousePad.wndProc .new messages).1.active = capturing messages := by
  induction messages using List.reverseRecOn with
  | nil => rfl
  | append_singleton messages message ih =>
      rw [Mealy.run_concat, capturing, List.foldl_concat]
      change _ = match message.press with
        | some (_, true) => true
        | _ => capturing messages && !message.IsPause
      rcases MousePad.wndProc_cases (Mealy.run MousePad.wndProc .new messages).1 message with
        ⟨b, position, press, active, -⟩ | ⟨b, position, press, active, other, -⟩ |
          ⟨press, active, -⟩
      · rw [press, active]
      · rw [press, active, ih, other]
        exact (Bool.and_true _).symm
      · rw [press, active, ih]

/-- If the clients know the buttons held before a message, they know those held
after it unless it is a release under which the pad is not active. -/
theorem downAfter_concat_iff (alternating : Alternating (messages ++ [message]))
    (known : downAfter (Mealy.run MousePad.wndProc .new messages).2.flatten =
      (heldAfter messages).image Button.code) :
    downAfter (Mealy.run MousePad.wndProc .new (messages ++ [message])).2.flatten =
        (heldAfter (messages ++ [message])).image Button.code ↔
      ∀ b, message.press = some (b, false) → capturing messages = true := by
  rw [Mealy.run_concat, List.flatten_concat, downAfter_concat, known, heldAfter_concat, hold]
  have activity := @active_run messages
  rcases MousePad.wndProc_cases (Mealy.run MousePad.wndProc .new messages).1 message with
    ⟨b, position, press, -, sent⟩ | ⟨b, position, press, -, -, sent⟩ | ⟨press, -, silent⟩
  · rw [sent, press]
    refine iff_of_true (Finset.image_insert ..).symm fun b' release => ?_
    cases release
  · rw [sent, press, activity]
    cases active : capturing messages with
    | true => exact iff_of_true (Finset.image_erase Button.code_injective _ _).symm fun _ _ => rfl
    | false =>
        have held := alternating.mem_of_release press
        refine iff_of_false (fun same => ?_) (by simp)
        have still : b.code ∈ (heldAfter messages).image Button.code :=
          Finset.mem_image_of_mem _ held
        simp only [Bool.false_eq_true, if_false, List.foldl_nil] at same
        rw [same, Finset.image_erase Button.code_injective] at still
        exact Finset.notMem_erase b.code _ still
  · rw [press, silent]
    exact iff_of_true rfl (by simp)

end OneMessage

/-- In a run in which presses and releases alternate, the clients always know
which buttons are held if and only if no button is released with a Pause since
the last press. -/
theorem mirrored_iff {messages : List WindowMessage} (alternating : Alternating messages) :
    Mirrored messages ↔ ∀ earlier message later, messages = earlier ++ message :: later →
      ∀ b, message.press = some (b, false) → capturing earlier = true := by
  refine Mealy.forall_prefix_iff rfl fun earlier message later split known => ?_
  have whole : messages = (earlier ++ [message]) ++ later := by simp [split]
  rw [whole] at alternating
  exact downAfter_concat_iff alternating.of_append known

/-- Pause between a click and a drag. -/
theorem mirrored_of_click :
    Mirrored [.lButtonDown ⟨5, 5⟩ ⟨0, 0, 100, 80⟩, .lButtonUp ⟨5, 5⟩, .keyDown 0x13,
      .rButtonDown ⟨6, 5⟩ ⟨0, 0, 100, 80⟩, .mouseMove ⟨9, 5⟩ ⟨0, 0⟩, .rButtonUp ⟨9, 5⟩] := by
  refine (mirrored_iff (by unfold Alternating; decide)).mpr (Mealy.forall_split_iff.mpr ?_)
  decide

/-- The left button is released after Pause: it stays down for the clients. -/
theorem not_mirrored_of_pause :
    Alternating [.lButtonDown ⟨5, 5⟩ ⟨0, 0, 100, 80⟩, .keyDown 0x13, .lButtonUp ⟨5, 5⟩] ∧
      ¬ Mirrored [.lButtonDown ⟨5, 5⟩ ⟨0, 0, 100, 80⟩, .keyDown 0x13, .lButtonUp ⟨5, 5⟩] := by
  refine ⟨by unfold Alternating; decide, fun mirrored => ?_⟩
  have final := mirrored _ (List.prefix_refl _)
  revert final
  decide

end MagicMousePad
