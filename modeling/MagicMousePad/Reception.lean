import MagicMousePad.Client

/-!
# Datagrams received in full

A datagram that carries a whole mouse message is handled as that message,
whatever the receive buffer held before.  Over such datagrams the receiver
thread is the machine `MmpClient.step` over messages, which the results about
ordering, visibility and start positions are stated for.
-/

namespace MagicMousePad

open ByteOrder

/-! ## Handling a message -/

/-- The callback for a message. -/
def MmpConfiguration.callback (config : MmpConfiguration) : MouseMsg → Pointer
  | .mouseButton _ => config.onMouseButton
  | .mouseMove _ => config.onMouseMove

/-- The invocation of the callback with a position. -/
def MmpConfiguration.report (config : MmpConfiguration) : MouseMsg → Int32 → Int32 → Call
  | .mouseButton msg => fun x y => .mouseButton msg.button msg.down x y config.context
  | .mouseMove _ => fun x y => .mouseMove x y config.context

/-- The position a callback is given. -/
def Call.position : Call → Int32 × Int32
  | .mouseButton _ _ x y _ => (x, y)
  | .mouseMove x y _ => (x, y)

theorem MmpConfiguration.position_report (config : MmpConfiguration) (msg : MouseMsg)
    (x y : Int32) : (config.report msg x y).position = (x, y) := by
  cases msg <;> rfl

/-- The sequence number of a message in host byte order. -/
def MouseMsg.number (msg : MouseMsg) : UInt32 := ntohl msg.sequenceNumber

namespace MmpClient

variable (client : MmpClient) (screen : Screen) (msg : MouseMsg)

/-- The client with the number of a message it has accepted. -/
def storing : MmpClient := { client with sequenceNumber := msg.number }

/-- The client with the offset a message finds or fixes. -/
def capturing : MmpClient := client.captureOffset (ntohlInt msg.x) (ntohlInt msg.y)

/-- Where a message is reported, and the argument of `ShowCursor`. -/
def placed : (Int32 × Int32) × Option Bool :=
  place client.config screen (ntohlInt msg.x + (client.capturing msg).offset.1)
    (ntohlInt msg.y + (client.capturing msg).offset.2)

@[simp] theorem config_capturing : (client.capturing msg).config = client.config := by
  unfold capturing captureOffset
  split <;> rfl

@[simp] theorem running_capturing : (client.capturing msg).running = client.running := by
  unfold capturing captureOffset
  split <;> rfl

/-- Once an offset is fixed, no message changes it. -/
theorem capturing_of_fixed {client : MmpClient} (fixed : client.updateOffset = false)
    (msg : MouseMsg) : client.capturing msg = client := by
  simp [capturing, captureOffset, fixed]

@[simp] theorem updateOffset_capturing : (client.capturing msg).updateOffset = false := by
  unfold capturing captureOffset
  split
  · rfl
  · next fixed => exact eq_false_of_ne_true fixed

@[simp] theorem capturing_storing (other : MouseMsg) :
    (client.storing other).capturing msg = (client.capturing msg).storing other := by
  unfold capturing captureOffset storing
  split <;> rfl

@[simp] theorem placed_storing (other : MouseMsg) :
    (client.storing other).placed screen msg = client.placed screen msg := by
  rw [placed, capturing_storing]
  rfl

theorem xformPosition_eq : client.xformPosition screen msg =
    (client.capturing msg, client.placed screen msg) := by
  simp only [xformPosition, placed, capturing]
  rw [show (client.captureOffset _ _).config = client.config from client.config_capturing msg]

/-- A message is rejected, accepted without a callback, or accepted and
reported. -/
theorem handle_cases :
    (¬ client.sequenceNumber < msg.number ∧ client.handle screen msg = (client, {})) ∨
      (client.sequenceNumber < msg.number ∧ client.config.callback msg = nullptr ∧
        client.handle screen msg = (client.storing msg, { accepted := true })) ∨
      (client.sequenceNumber < msg.number ∧ client.config.callback msg ≠ nullptr ∧
        client.handle screen msg =
          ((client.capturing msg).storing msg,
            { accepted := true
              shown := (client.placed screen msg).2
              call := some (client.config.report msg (client.placed screen msg).1.1
                (client.placed screen msg).1.2) })) := by
  have common : client.handle screen msg =
      client.onMessage screen msg (client.config.callback msg) (client.config.report msg) := by
    cases msg <;> rfl
  rw [common, onMessage, trackSequenceNumber]
  by_cases above : client.sequenceNumber < msg.number
  · have newer : ntohl msg.sequenceNumber > client.sequenceNumber := above
    have stored : { client with sequenceNumber := ntohl msg.sequenceNumber } =
        client.storing msg := rfl
    simp only [if_pos newer, if_true, stored]
    by_cases absent : client.config.callback msg = nullptr
    · exact Or.inr (Or.inl ⟨above, absent, if_neg (not_not.mpr absent)⟩)
    · refine Or.inr (Or.inr ⟨above, absent, ?_⟩)
      rw [if_pos absent, xformPosition_eq, placed_storing, capturing_storing]
  · have older : ¬ ntohl msg.sequenceNumber > client.sequenceNumber := above
    refine Or.inl ⟨above, ?_⟩
    simp only [if_neg older]
    rfl

end MmpClient

/-! ## The machine over messages -/

/-- A message that has arrived, on a screen of a certain size. -/
structure Arrival where
  msg : MouseMsg
  screen : Screen
  deriving DecidableEq

/-- The client as a machine over whole messages. -/
def MmpClient.step (client : MmpClient) (arrival : Arrival) : MmpClient × Reaction :=
  client.handle arrival.screen arrival.msg

namespace MmpClient

variable {client : MmpClient} {arrival : Arrival} {arrivals : List Arrival}

@[simp] theorem config_step (client : MmpClient) (arrival : Arrival) :
    (client.step arrival).1.config = client.config := by
  unfold step
  rcases client.handle_cases arrival.screen arrival.msg with
    ⟨-, result⟩ | ⟨-, -, result⟩ | ⟨-, -, result⟩ <;> rw [result]
  · rfl
  · exact client.config_capturing arrival.msg

@[simp] theorem running_step (client : MmpClient) (arrival : Arrival) :
    (client.step arrival).1.running = client.running := by
  unfold step
  rcases client.handle_cases arrival.screen arrival.msg with
    ⟨-, result⟩ | ⟨-, -, result⟩ | ⟨-, -, result⟩ <;> rw [result]
  · rfl
  · exact client.running_capturing arrival.msg

/-- A message is accepted exactly when its number is above the stored one, and
then its number is stored. -/
theorem accepted_step (client : MmpClient) (arrival : Arrival) :
    (client.step arrival).2.accepted = decide (client.sequenceNumber < arrival.msg.number) ∧
      (client.step arrival).1.sequenceNumber =
        if client.sequenceNumber < arrival.msg.number then arrival.msg.number
        else client.sequenceNumber := by
  unfold step
  rcases client.handle_cases arrival.screen arrival.msg with
    ⟨older, result⟩ | ⟨newer, -, result⟩ | ⟨newer, -, result⟩ <;> rw [result]
  · simp [older]
  · simp [newer, storing]
  · simp [newer, storing]

end MmpClient

/-! ## Whole datagrams -/

/-- A datagram at least as long as the mouse message its id names. -/
structure MouseDatagram where
  data : Datagram
  msg : MouseMsg
  carried : mouseMsgOf (Memory.overwrite (fun _ => 0) data.bytes) = some msg
  covered : msg.size ≤ data.bytes.length

/-- The id at the start of the buffer decides which message is read from it. -/
theorem mouseMsgOf_eq_some_iff {buffer : Memory} {msg : MouseMsg} :
    mouseMsgOf buffer = some msg ↔
      ntohl (load32 buffer 0) = mmpMsgidMouseButton ∧ .mouseButton (.ofMemory buffer) = msg ∨
        ntohl (load32 buffer 0) = mmpMsgidMouseMove ∧ .mouseMove (.ofMemory buffer) = msg := by
  have different : mmpMsgidMouseMove ≠ mmpMsgidMouseButton := by decide
  unfold mouseMsgOf
  dsimp only
  by_cases button : ntohl (load32 buffer 0) = mmpMsgidMouseButton
  · simp [button, different.symm]
  · by_cases move : ntohl (load32 buffer 0) = mmpMsgidMouseMove
    · simp [move, different]
    · simp [button, move]

/-- The message read from a whole datagram does not depend on the buffer. -/
theorem MouseDatagram.mouseMsgOf_overwrite (d : MouseDatagram) (buffer : Memory) :
    mouseMsgOf (buffer.overwrite d.data.bytes) = some d.msg := by
  rcases d with ⟨data, msg, carried, covered⟩
  dsimp only
  have minimum : 0 + 4 ≤ data.bytes.length := msg.four_le_size.trans covered
  rw [mouseMsgOf_eq_some_iff] at carried ⊢
  rw [load32_overwrite_frame buffer (fun _ => 0) minimum]
  rcases carried with ⟨button, rfl⟩ | ⟨move, rfl⟩
  · exact Or.inl ⟨button, congrArg _ (MmpMsgMouseButton.ofMemory_overwrite_frame _ _ covered)⟩
  · exact Or.inr ⟨move, congrArg _ (MmpMsgMouseMove.ofMemory_overwrite_frame _ _ covered)⟩

/-- The thread is in its loop and the client is running. -/
structure Receiver.Live (r : Receiver) : Prop where
  inLoop : r.left = false
  running : r.client.running = true

/-- Receiving a whole datagram is one step of the machine over messages. -/
theorem Receiver.Live.step_eq {r : Receiver} (live : r.Live) (d : MouseDatagram)
    (screen : Screen) :
    r.step (.received d.data screen) =
      ({ r with
          buffer := r.buffer.overwrite d.data.bytes
          client := (r.client.step ⟨d.msg, screen⟩).1 },
        (r.client.step ⟨d.msg, screen⟩).2) := by
  have long : ¬ d.data.bytes.length < sizeofMmpMsgId :=
    not_lt.mpr (d.msg.four_le_size.trans d.covered)
  simp [Receiver.step, live.inLoop, live.running, long, d.mouseMsgOf_overwrite, MmpClient.step]

/-- Whatever is received, the thread stays in its loop, and the client is unchanged or
has handled a message. -/
theorem Receiver.Live.step_received {r : Receiver} (live : r.Live) (data : Datagram)
    (screen : Screen) :
    (r.step (.received data screen)).1.left = false ∧
      ((r.step (.received data screen)).1.client = r.client ∨
        ∃ msg, (r.step (.received data screen)).1.client = (r.client.step ⟨msg, screen⟩).1) := by
  rcases live with ⟨inLoop, running⟩
  simp only [Receiver.step, inLoop, running, Bool.not_true, Bool.false_eq_true, if_false]
  split
  · exact ⟨rfl, Or.inl rfl⟩
  · split
    · exact ⟨rfl, Or.inl rfl⟩
    · rename_i msg _
      exact ⟨rfl, Or.inr ⟨msg, rfl⟩⟩

/-- What an iteration does: it leaves the client alone and calls nothing, or the thread is in
its loop and handles a message. -/
theorem Receiver.step_cases (r : Receiver) (outcome : RecvOutcome) :
    ((r.step outcome).1.client = r.client ∧ (r.step outcome).2.call = none ∧
      (r.left = true → (r.step outcome).1.left = true)) ∨
      (r.Live ∧ ∃ data arrival, outcome = .received data arrival.screen ∧
        (r.step outcome).1.client = (r.client.step arrival).1 ∧
        (r.step outcome).2 = (r.client.step arrival).2) := by
  unfold step
  split
  · exact Or.inl ⟨rfl, rfl, id⟩
  · rename_i inLoop
    split
    · exact Or.inl ⟨rfl, rfl, fun left => absurd left inLoop⟩
    · rename_i running
      cases outcome with
      | failed => exact Or.inl ⟨rfl, rfl, fun left => absurd left inLoop⟩
      | received data screen =>
          dsimp only
          split
          · exact Or.inl ⟨rfl, rfl, id⟩
          · split
            · exact Or.inl ⟨rfl, rfl, id⟩
            · rename_i msg read
              have live : r.Live := ⟨by simpa using inLoop, by simpa using running⟩
              exact Or.inr ⟨live, data, ⟨msg, screen⟩, rfl, rfl, rfl⟩

/-- A thread that receives does not leave. -/
theorem Receiver.Live.received {r : Receiver} (live : r.Live) (data : Datagram)
    (screen : Screen) : (r.step (.received data screen)).1.Live := by
  obtain ⟨inLoop, same | ⟨msg, handled⟩⟩ := live.step_received data screen
  · exact ⟨inLoop, (congrArg MmpClient.running same).trans live.running⟩
  · exact ⟨inLoop, (congrArg MmpClient.running handled).trans
      ((r.client.running_step _).trans live.running)⟩

section Runs

variable {ι : Type*} (datagram : ι → MouseDatagram) (screen : ι → Screen)

/-- The reception of a whole datagram. -/
def receipt (i : ι) : RecvOutcome := .received (datagram i).data (screen i)

/-- The arrival of its message. -/
def arrivalOf (i : ι) : Arrival := ⟨(datagram i).msg, screen i⟩

/-- Over whole datagrams the receiver thread behaves like the machine over their
messages. -/
theorem Receiver.Live.run_eq {r : Receiver} (live : r.Live) (inputs : List ι) :
    (Mealy.run Receiver.step r (inputs.map (receipt datagram screen))).2 =
        (Mealy.run MmpClient.step r.client (inputs.map (arrivalOf datagram screen))).2 ∧
      (Mealy.run Receiver.step r (inputs.map (receipt datagram screen))).1.client =
        (Mealy.run MmpClient.step r.client (inputs.map (arrivalOf datagram screen))).1 := by
  induction inputs generalizing r with
  | nil => exact ⟨rfl, rfl⟩
  | cons i inputs ih =>
      have next : Receiver.Live (r.step (receipt datagram screen i)).1 := by
        rw [receipt, live.step_eq]
        exact ⟨live.inLoop, (r.client.running_step _).trans live.running⟩
      obtain ⟨outputs, client⟩ := ih next
      simp only [List.map_cons, Mealy.run_cons]
      rw [outputs, client, receipt, live.step_eq]
      exact ⟨rfl, rfl⟩

end Runs

/-- A tagged mouse message as the datagram of its bytes. -/
def MouseMsg.whole (msg : MouseMsg) (tagged : msg.WellTagged) : MouseDatagram where
  data := msg.datagram
  msg := msg
  carried := by
    rw [mouseMsgOf_eq_some_iff]
    cases msg with
    | mouseMove msg =>
        have whole := MmpMsgMouseMove.ofMemory_toBytes (fun _ => 0) msg
        have id : load32 (Memory.overwrite (fun _ => 0) msg.toBytes) 0 = msg.id :=
          congrArg MmpMsgMouseMove.id whole
        have tag : msg.id = htonl mmpMsgidMouseMove := tagged
        refine Or.inr ⟨?_, congrArg _ whole⟩
        change ntohl (load32 (Memory.overwrite (fun _ => 0) msg.toBytes) 0) = _
        rw [id, tag, ntohl_htonl]
    | mouseButton msg =>
        have whole := MmpMsgMouseButton.ofMemory_toBytes (fun _ => 0) msg
        have id : load32 (Memory.overwrite (fun _ => 0) msg.toBytes) 0 = msg.id :=
          congrArg MmpMsgMouseButton.id whole
        have tag : msg.id = htonl mmpMsgidMouseButton := tagged
        refine Or.inl ⟨?_, congrArg _ whole⟩
        change ntohl (load32 (Memory.overwrite (fun _ => 0) msg.toBytes) 0) = _
        rw [id, tag, ntohl_htonl]
  covered := by simp [MouseMsg.datagram]

end MagicMousePad
