import MagicMousePad.Ordering

/-!
# Convergence

A client whose offset is fixed reports a message at a position that depends on
the message alone.  What it has reported last is therefore decided by the
messages that have reached it, and not by their order or their number: it is the
one with the highest sequence number.
-/

namespace MagicMousePad

open ByteOrder

/-- The callback that a client makes for a message it accepts. -/
def MmpClient.callOf (client : MmpClient) (arrival : Arrival) : Call :=
  let position := (client.placed arrival.screen arrival.msg).1
  client.config.report arrival.msg position.1 position.2

/-- The last callback among the reactions. -/
def lastCall (reactions : List Reaction) : Option Call :=
  (reactions.filterMap Reaction.call).getLast?

/-! ## A client with a fixed offset -/

/-- The client reports every message it accepts, relative to an offset that does
not change any more. -/
structure MmpClient.Settled (client : MmpClient) : Prop where
  fixed : client.updateOffset = false
  button : client.config.onMouseButton ≠ nullptr
  move : client.config.onMouseMove ≠ nullptr

namespace MmpClient.Settled

variable {client : MmpClient}

/-- Handling a message changes the stored number at most. -/
theorem step_eq (settled : client.Settled) (arrival : Arrival) :
    client.step arrival =
      if client.sequenceNumber < arrival.msg.number then
        (client.storing arrival.msg,
          { accepted := true
            shown := (client.placed arrival.screen arrival.msg).2
            call := some (client.callOf arrival) })
      else (client, {}) := by
  have fixed : client.capturing arrival.msg = client := capturing_of_fixed settled.fixed _
  unfold step
  rcases client.handle_cases arrival.screen arrival.msg with
    ⟨older, result⟩ | ⟨-, silent, -⟩ | ⟨newer, -, result⟩
  · rw [result, if_neg older]
  · cases kind : arrival.msg with
    | mouseButton msg => rw [kind] at silent; exact (settled.button silent).elim
    | mouseMove msg => rw [kind] at silent; exact (settled.move silent).elim
  · rw [result, if_pos newer, fixed]
    rfl

theorem storing (settled : client.Settled) (msg : MouseMsg) : (client.storing msg).Settled :=
  ⟨settled.fixed, settled.button, settled.move⟩

theorem callOf_storing (settled : client.Settled) (msg : MouseMsg) (arrival : Arrival) :
    (client.storing msg).callOf arrival = client.callOf arrival := by
  simp [callOf, placed, capturing, captureOffset, MmpClient.storing, settled.fixed]

theorem step (settled : client.Settled) (arrival : Arrival) : (client.step arrival).1.Settled := by
  rw [settled.step_eq]
  split
  · exact settled.storing arrival.msg
  · exact settled

/-- The callbacks of a run are those of the records. -/
theorem calls_run {ι : Type*} (settled : client.Settled) (arrival : ι → Arrival)
    (inputs : List ι) :
    (Mealy.run MmpClient.step client (inputs.map arrival)).2.filterMap Reaction.call =
      (Records.records (keyOf arrival) client.sequenceNumber.toNat inputs).map
        fun i => client.callOf (arrival i) := by
  induction inputs generalizing client with
  | nil => rfl
  | cons i inputs ih =>
      rw [List.map_cons, Mealy.run_cons, settled.step_eq]
      rcases Nat.lt_or_ge client.sequenceNumber.toNat (keyOf arrival i) with above | below
      · have newer : client.sequenceNumber < (arrival i).msg.number := above
        rw [if_pos newer, Records.records_cons_of_lt above, List.filterMap_cons, List.map_cons,
          ih (settled.storing _)]
        simp only [settled.callOf_storing]
        rfl
      · have newer : ¬ client.sequenceNumber < (arrival i).msg.number := not_lt.mpr below
        rw [if_neg newer, Records.records_cons_of_not_lt (not_lt.mpr below), List.filterMap_cons,
          ih settled]

/-- The last callback of a run is that of the last record. -/
theorem lastCall_run {ι : Type*} (settled : client.Settled) (arrival : ι → Arrival)
    (inputs : List ι) :
    lastCall (Mealy.run MmpClient.step client (inputs.map arrival)).2 =
      (Records.records (keyOf arrival) client.sequenceNumber.toNat inputs).getLast?.map
        fun i => client.callOf (arrival i) := by
  rw [lastCall, settled.calls_run, List.getLast?_map]

end MmpClient.Settled

/-! ## The receiver thread -/

/-- The reception of any datagram. -/
def anyReceipt (d : Datagram × Screen) : RecvOutcome := .received d.1 d.2

/-- Whatever is received, a running receiver keeps running, and its offset stays
fixed. -/
theorem Receiver.Live.run_settled {r : Receiver} (live : r.Live) (settled : r.client.Settled)
    (received : List (Datagram × Screen)) :
    let reached := (Mealy.run Receiver.step r (received.map anyReceipt)).1
    reached.Live ∧ reached.client.Settled := by
  induction received generalizing r with
  | nil => exact ⟨live, settled⟩
  | cons d received ih =>
      have next : (r.step (anyReceipt d)).1.client.Settled := by
        obtain ⟨-, same | ⟨msg, handled⟩⟩ := live.step_received d.1 d.2
        · exact same ▸ settled
        · exact handled ▸ settled.step ⟨msg, d.2⟩
      exact ih (live.received d.1 d.2) next

/-! ## Two histories -/

/-- Deliveries with one index are deliveries of one message. -/
theorem Delivered.msg_eq {log : List LogEntry} {d d' : Delivered log} (same : d.index = d'.index) :
    d.datagram.msg = d'.datagram.msg := by
  have sent := d.sent
  rw [same, d'.sent] at sent
  exact (Option.some.inj sent).symm

/-- The receiver after a history of deliveries, with its reactions. -/
def after {log : List LogEntry} (r : Receiver) (screen : Screen) (history : List (Delivered log)) :
    Receiver × List Reaction :=
  Mealy.run Receiver.step r (history.map (receipt Delivered.datagram fun _ => screen))

section Histories

variable {p : Process} {window : Pointer} {r : Receiver} {screen : Screen}
  {history history' : List (Delivered p.log)}

/-- Deliveries are compared by their position in the run. -/
theorem key_delivered (reachable : p.Reachable window) :
    keyOf (arrivalOf Delivered.datagram fun _ => screen) =
      (Delivered.index : Delivered p.log → ℕ) :=
  funext fun d => d.key_eq reachable.inv.sound

/-- The last callback is made for the message with the highest number, if that is
above the number stored before. -/
theorem lastCall_after_iff (reachable : p.Reachable window) (live : r.Live)
    (settled : r.client.Settled) {call : Call} :
    lastCall (after r screen history).2 = some call ↔
      ∃ d ∈ history, r.client.sequenceNumber.toNat < d.index ∧
        (∀ d' ∈ history, d'.index ≤ d.index) ∧
          r.client.callOf ⟨d.datagram.msg, screen⟩ = call := by
  rw [after, (live.run_eq _ _ history).1, settled.lastCall_run,
    key_delivered reachable, Option.map_eq_some_iff]
  constructor
  · intro called
    rcases called with ⟨d, last, rfl⟩
    obtain ⟨member, above, top⟩ := Records.of_getLast? last
    exact ⟨d, member, above, top, rfl⟩
  · intro highest
    rcases highest with ⟨d, member, above, top, rfl⟩
    obtain ⟨d', -, last, same⟩ := Records.exists_getLast? member above top
    exact ⟨d', last, by rw [arrivalOf, Delivered.msg_eq same]⟩

/-- A history with the same messages ends with the same last callback. -/
theorem lastCall_after_of_same (reachable : p.Reachable window) (live : r.Live)
    (settled : r.client.Settled)
    (same : ∀ i, i ∈ history.map Delivered.index ↔ i ∈ history'.map Delivered.index) {call : Call}
    (called : lastCall (after r screen history).2 = some call) :
    lastCall (after r screen history').2 = some call := by
  rw [lastCall_after_iff reachable live settled] at called ⊢
  rcases called with ⟨d, member, above, top, rfl⟩
  obtain ⟨d', member', index⟩ := List.mem_map.mp ((same d.index).mp (List.mem_map_of_mem member))
  refine ⟨d', member', index ▸ above, fun e inside => ?_, by rw [Delivered.msg_eq index]⟩
  obtain ⟨e', inside', index'⟩ := List.mem_map.mp ((same e.index).mpr (List.mem_map_of_mem inside))
  rw [← index', index]
  exact top e' inside'

/-- The number stored in the end depends only on which messages have arrived. -/
theorem sequenceNumber_after (reachable : p.Reachable window) (live : r.Live)
    (same : ∀ i, i ∈ history.map Delivered.index ↔ i ∈ history'.map Delivered.index) :
    (after r screen history).1.client.sequenceNumber =
      (after r screen history').1.client.sequenceNumber := by
  apply UInt32.toNat_inj.mp
  rw [after, after, (live.run_eq _ _ history).2, (live.run_eq _ _ history').2,
    MmpClient.stored_run, MmpClient.stored_run, key_delivered reachable]
  exact Records.peak_congr same

end Histories

/-- Convergence.  A client that reports both kinds of messages and does not choose
its offset by them, after any datagrams: two histories that deliver the same
messages of one server end with the same number and the same last callback, which
is that of the message with the highest number if the client did not have a number
as high before. -/
theorem convergence {client : MmpClient} (idle : client.running = false)
    (plain : client.config.has mmpFlagSetStart = false)
    (button : client.config.onMouseButton ≠ nullptr) (move : client.config.onMouseMove ≠ nullptr)
    (buffer : Memory) (received : List (Datagram × Screen)) {window : Pointer} {p : Process}
    (reachable : p.Reachable window) (screen : Screen) (history history' : List (Delivered p.log))
    (same : ∀ i, i ∈ history.map Delivered.index ↔ i ∈ history'.map Delivered.index) :
    let r := (Mealy.run Receiver.step ⟨(client.start none).1, buffer, false⟩
      (received.map anyReceipt)).1
    (after r screen history).1.client.sequenceNumber =
        (after r screen history').1.client.sequenceNumber ∧
      lastCall (after r screen history).2 = lastCall (after r screen history').2 ∧
      ∀ call, lastCall (after r screen history).2 = some call ↔
        ∃ d ∈ history, r.client.sequenceNumber.toNat < d.index ∧
          (∀ d' ∈ history, d'.index ≤ d.index) ∧
            r.client.callOf ⟨d.datagram.msg, screen⟩ = call := by
  intro r
  obtain ⟨address, started⟩ := MmpClient.start_none idle
  have begun : Receiver.Live ⟨(client.start none).1, buffer, false⟩ := ⟨rfl, by rw [started]⟩
  have steady : (client.start none).1.Settled := by
    rw [started]
    exact ⟨plain, button, move⟩
  obtain ⟨live, settled⟩ := begun.run_settled steady received
  have same' := fun i => (same i).symm
  refine ⟨sequenceNumber_after reachable live same, Option.ext fun call => ?_, fun call =>
    lastCall_after_iff reachable live settled⟩
  exact ⟨lastCall_after_of_same reachable live settled same,
    lastCall_after_of_same reachable live settled same'⟩

/-- Two messages, handed to a client in order, and with the first one last and
twice. -/
theorem convergence_of_late_duplicates :
    let client : MmpClient := .new { onMouseMove := 1, onMouseButton := 1 }
    let click : MouseMsg := .mouseButton { sequenceNumber := htonl 1, padding := (0, 0) }
    let log : List LogEntry :=
      [.broadcast ⟨.mouseMove {}, [], [], []⟩, .broadcast ⟨click, [], [], []⟩]
    let first : Delivered log := ⟨0, by decide, MouseMsg.whole (.mouseMove {}) rfl, ⟨800, 600⟩, rfl⟩
    let second : Delivered log := ⟨1, by decide, click.whole rfl, ⟨800, 600⟩, rfl⟩
    let r : Receiver := ⟨(client.start none).1, fun _ => 0, false⟩
    lastCall (after r ⟨800, 600⟩ [first, second]).2 =
      lastCall (after r ⟨800, 600⟩ [second, first, first]).2 := by
  intro client click log first second r
  have reachable : Process.Reachable nullptr _ :=
    Relation.ReflTransGen.refl
      |>.tail (.number (.mouseMove {}) rfl) |>.tail (.lock rfl rfl) |>.tail (.unlock rfl rfl)
      |>.tail (.number (.mouseButton { padding := (0, 0) }) rfl) |>.tail (.lock rfl rfl)
      |>.tail (.unlock rfl rfl)
  have same : ∀ i, i ∈ [0, 1] ↔ i ∈ [1, 0, 0] := by simp [or_comm]
  have idle : client.running = false := rfl
  exact (convergence idle (by decide) (by decide) (by decide) (fun _ => 0) [] reachable ⟨800, 600⟩
    [first, second] [second, first, first] same).2.1

end MagicMousePad
