import MagicMousePad.Reception

/-!
# Independence of the mouse pad's past

A client with `mmp_flag_set_start` fixes its offset on the first message it
reports, so that a displacement of all positions the mouse pad sends cancels
out, and the first position it reports is the configured one.
-/

namespace MagicMousePad

open ByteOrder

/-- The message with its position moved by a displacement, modulo 2^32. -/
def MouseMsg.shifted (cx cy : Int32) (msg : MouseMsg) : MouseMsg :=
  msg.withPosition (ntohlInt (ntohlInt msg.x + cx)) (ntohlInt (ntohlInt msg.y + cy))

section Shifted

variable (cx cy : Int32) (msg : MouseMsg)

@[simp] theorem MouseMsg.number_shifted : (msg.shifted cx cy).number = msg.number := by
  cases msg <;> rfl

theorem MouseMsg.position_shifted :
    ntohlInt (msg.shifted cx cy).x = ntohlInt msg.x + cx ∧
      ntohlInt (msg.shifted cx cy).y = ntohlInt msg.y + cy := by
  cases msg <;> exact ⟨ntohlInt_ntohlInt _, ntohlInt_ntohlInt _⟩

@[simp] theorem MmpConfiguration.callback_shifted (config : MmpConfiguration) :
    config.callback (msg.shifted cx cy) = config.callback msg := by
  cases msg <;> rfl

@[simp] theorem MmpConfiguration.report_shifted (config : MmpConfiguration) :
    config.report (msg.shifted cx cy) = config.report msg := by
  cases msg <;> rfl

end Shifted

@[simp] theorem MmpClient.storing_shifted (cx cy : Int32) (msg : MouseMsg) (client : MmpClient) :
    client.storing (msg.shifted cx cy) = client.storing msg := by
  rw [storing, storing, MouseMsg.number_shifted]

/-! ## Two runs -/

/-- Clients that differ by the displacement, or have not fixed their offset. -/
def Displaced (cx cy : Int32) (first second : MmpClient) : Prop :=
  ∃ offset, second = { first with offset := offset } ∧
    (first.updateOffset = true ∨ offset = (first.offset.1 - cx, first.offset.2 - cy))

namespace Displaced

variable {cx cy : Int32} {first second : MmpClient}

/-- Once the offset is fixed, it absorbs the displacement. -/
theorem capturing (displaced : Displaced cx cy first second) (msg : MouseMsg) :
    second.capturing (msg.shifted cx cy) =
      { first.capturing msg with
        offset := ((first.capturing msg).offset.1 - cx, (first.capturing msg).offset.2 - cy) } := by
  rcases displaced with ⟨offset, rfl, absorbs⟩
  obtain ⟨x, y⟩ := msg.position_shifted cx cy
  unfold MmpClient.capturing MmpClient.captureOffset
  rw [x, y]
  cases unfixed : first.updateOffset with
  | true =>
      have absorbX : first.config.startX - (ntohlInt msg.x + cx) =
          first.config.startX - ntohlInt msg.x - cx := by grind
      have absorbY : first.config.startY - (ntohlInt msg.y + cy) =
          first.config.startY - ntohlInt msg.y - cy := by grind
      simp [absorbX, absorbY]
  | false =>
      have fixed : offset = (first.offset.1 - cx, first.offset.2 - cy) :=
        absorbs.resolve_left (by simp [unfixed])
      simp [unfixed, fixed]

theorem placed (displaced : Displaced cx cy first second) (screen : Screen) (msg : MouseMsg) :
    second.placed screen (msg.shifted cx cy) = first.placed screen msg := by
  have captured := displaced.capturing msg
  rcases displaced with ⟨offset, rfl, -⟩
  obtain ⟨x, y⟩ := msg.position_shifted cx cy
  have cancelX : ∀ o : Int32, ntohlInt msg.x + cx + (o - cx) = ntohlInt msg.x + o := by grind
  have cancelY : ∀ o : Int32, ntohlInt msg.y + cy + (o - cy) = ntohlInt msg.y + o := by grind
  unfold MmpClient.placed
  rw [captured, x, y, cancelX, cancelY]

/-- A displaced message is answered in the same way. -/
theorem step (displaced : Displaced cx cy first second) (msg : MouseMsg) (screen : Screen) :
    Displaced cx cy (first.step ⟨msg, screen⟩).1 (second.step ⟨msg.shifted cx cy, screen⟩).1 ∧
      (second.step ⟨msg.shifted cx cy, screen⟩).2 = (first.step ⟨msg, screen⟩).2 := by
  have cases := second.handle_cases screen (msg.shifted cx cy)
  rw [MouseMsg.number_shifted, MmpConfiguration.callback_shifted, MmpConfiguration.report_shifted,
    displaced.placed, displaced.capturing, MmpClient.storing_shifted,
    MmpClient.storing_shifted] at cases
  rcases displaced with ⟨offset, rfl, absorbs⟩
  unfold MmpClient.step
  dsimp only at cases ⊢
  rcases first.handle_cases screen msg with
    ⟨older, result⟩ | ⟨newer, absent, result⟩ | ⟨newer, present, result⟩
  · have result' := (cases.resolve_right fun newer =>
      newer.elim (fun newer => older newer.1) (fun newer => older newer.1)).2
    rw [result, result']
    exact ⟨⟨offset, rfl, absorbs⟩, rfl⟩
  · have accepted := cases.resolve_left fun older => older.1 newer
    have result' := (accepted.resolve_right fun present => present.2.1 absent).2.2
    rw [result, result']
    exact ⟨⟨offset, rfl, absorbs⟩, rfl⟩
  · have accepted := cases.resolve_left fun older => older.1 newer
    have result' := (accepted.resolve_left fun absent => present absent.2.1).2.2
    rw [result, result']
    exact ⟨⟨_, rfl, Or.inr rfl⟩, rfl⟩

end Displaced

/-! ## The first report -/

namespace MmpClient

/-- Until a message is reported the offset stays unfixed. -/
theorem updateOffset_step (client : MmpClient) (arrival : Arrival)
    (silent : (client.step arrival).2.call = none) :
    (client.step arrival).1.updateOffset = client.updateOffset := by
  unfold step at silent ⊢
  rcases client.handle_cases arrival.screen arrival.msg with
    ⟨-, result⟩ | ⟨-, -, result⟩ | ⟨-, -, result⟩ <;> rw [result] at silent ⊢
  · rfl
  · cases silent

/-- A message reported while the offset is unfixed is reported at the start
position. -/
theorem position_step {client : MmpClient} (unfixed : client.updateOffset = true)
    {arrival : Arrival} {call : Call} (reported : (client.step arrival).2.call = some call) :
    call.position =
      (place client.config arrival.screen client.config.startX client.config.startY).1 := by
  have start : ∀ x s : Int32, x + (s - x) = s := by grind
  have placed : client.placed arrival.screen arrival.msg =
      place client.config arrival.screen client.config.startX client.config.startY := by
    unfold MmpClient.placed capturing captureOffset
    rw [if_pos unfixed, start, start]
  unfold step at reported
  rcases client.handle_cases arrival.screen arrival.msg with
    ⟨-, result⟩ | ⟨-, -, result⟩ | ⟨-, -, result⟩ <;> rw [result] at reported
  · cases reported
  · cases reported
  · cases reported
    rw [MmpConfiguration.position_report, placed]

/-- The first position reported is the start position. -/
theorem first_position {client : MmpClient} (unfixed : client.updateOffset = true)
    {arrivals : List Arrival} {i : ℕ} {call : Call}
    (reported : ((Mealy.run step client arrivals).2[i]?.bind Reaction.call) = some call)
    (first : ∀ j < i, ((Mealy.run step client arrivals).2[j]?.bind Reaction.call) = none) :
    ∃ arrival, arrivals[i]? = some arrival ∧
      call.position =
        (place client.config arrival.screen client.config.startX client.config.startY).1 := by
  induction arrivals generalizing client i with
  | nil => cases reported
  | cons arrival arrivals ih =>
      rw [Mealy.run_cons] at reported first
      cases i with
      | zero => exact ⟨arrival, rfl, position_step unfixed reported⟩
      | succ i =>
          have silent : (client.step arrival).2.call = none := first 0 (Nat.succ_pos i)
          have later := ih ((client.updateOffset_step arrival silent).trans unfixed) reported
            fun j before => first (j + 1) (Nat.succ_lt_succ before)
          rw [config_step] at later
          exact later

end MmpClient

/-! ## The receiver thread -/

/-- Whole datagrams that differ in their positions only, by a displacement. -/
def Shifted (cx cy : Int32) (d d' : MouseDatagram × Screen) : Prop :=
  d'.1.msg = d.1.msg.shifted cx cy ∧ d'.2 = d.2

/-- A client started with `mmp_flag_set_start` does the same about datagrams and
about the displaced datagrams, and its first report is the start position after
clipping and translation. -/
theorem start_independent {client : MmpClient} (idle : client.running = false)
    (setStart : client.config.has mmpFlagSetStart = true) (buffer buffer' : Memory)
    {cx cy : Int32} {inputs inputs' : List (MouseDatagram × Screen)}
    (shifted : List.Forall₂ (Shifted cx cy) inputs inputs') :
    let reactions := fun (buffer : Memory) (inputs : List (MouseDatagram × Screen)) =>
      (Mealy.run Receiver.step ⟨(client.start none).1, buffer, false⟩
        (inputs.map (receipt Prod.fst Prod.snd))).2
    reactions buffer' inputs' = reactions buffer inputs ∧
      ∀ (i : ℕ) (call : Call), ((reactions buffer inputs)[i]?.bind Reaction.call) = some call →
        (∀ j < i, ((reactions buffer inputs)[j]?.bind Reaction.call) = none) →
        ∃ d : MouseDatagram × Screen, inputs[i]? = some d ∧
          call.position =
            (MmpClient.place client.config d.2 client.config.startX client.config.startY).1 := by
  obtain ⟨address, started⟩ := MmpClient.start_none idle
  have live : ∀ buffer, Receiver.Live ⟨(client.start none).1, buffer, false⟩ :=
    fun buffer => ⟨rfl, by rw [started]⟩
  have unfixed : (client.start none).1.updateOffset = true := by rw [started]; exact setStart
  intro reactions
  have abstract : ∀ buffer inputs, reactions buffer inputs =
      (Mealy.run MmpClient.step (client.start none).1
        (inputs.map (arrivalOf Prod.fst Prod.snd))).2 :=
    fun buffer inputs => ((live buffer).run_eq _ _ inputs).1
  constructor
  · rw [abstract, abstract]
    have displaced : Displaced cx cy (client.start none).1 (client.start none).1 :=
      ⟨_, rfl, Or.inl unfixed⟩
    have arrivals : List.Forall₂
        (fun a a' : Arrival => a' = ⟨a.msg.shifted cx cy, a.screen⟩)
        (inputs.map (arrivalOf Prod.fst Prod.snd)) (inputs'.map (arrivalOf Prod.fst Prod.snd)) := by
      rw [List.forall₂_map_left_iff, List.forall₂_map_right_iff]
      refine shifted.imp fun d d' moved => ?_
      rw [arrivalOf, arrivalOf, moved.1, moved.2]
    have outputs := (Mealy.run_related MmpClient.step MmpClient.step (O := fun a b => b = a)
      (fun s t a a' displaced same => by
        subst same
        exact displaced.step a.msg a.screen) displaced arrivals).2
    exact List.forall₂_eq_eq_eq ▸ outputs.flip
  · intro i call reported first
    rw [abstract] at reported first
    obtain ⟨arrival, present, position⟩ := MmpClient.first_position unfixed reported
      fun j before => first j before
    rw [List.getElem?_map, Option.map_eq_some_iff] at present
    rcases present with ⟨d, present, rfl⟩
    refine ⟨d, present, ?_⟩
    rw [position, started]
    rfl

/-- A move received by a client that starts in the middle of its screen. -/
theorem start_independent_of_move :
    let client := MmpClient.new
      { flags := mmpFlagSetStart, onMouseMove := 1, startX := 400, startY := 300 }
    let move := fun x y : Int32 =>
      MouseMsg.whole
        (.mouseMove { sequenceNumber := htonl 1, x := ntohlInt x, y := ntohlInt y }) rfl
    let reactions := fun d : MouseDatagram =>
      (Mealy.run Receiver.step ⟨(client.start none).1, fun _ => 0, false⟩
        ([(d, ⟨800, 600⟩)].map (receipt Prod.fst Prod.snd))).2
    reactions (move (-3 + 40) (7 + -9)) = reactions (move (-3) 7) := by
  intro client move reactions
  have shifted : List.Forall₂ (Shifted 40 (-9)) [(move (-3) 7, ⟨800, 600⟩)]
      [(move (-3 + 40) (7 + -9), ⟨800, 600⟩)] := by
    refine .cons ⟨?_, rfl⟩ .nil
    decide
  have idle : client.running = false := rfl
  exact (start_independent idle (by decide) (fun _ => 0) (fun _ => 0) shifted).1

end MagicMousePad
