import MagicMousePad.Reception
import MagicMousePad.Delivery
import MagicMousePad.Lib.Records

/-!
# Ordering on the client

`track_sequence_number` keeps the strict left-to-right maxima of the numbers it
sees, so whatever the network does to the messages of a server, what a client
reports is in the order in which the server numbered it.
-/

namespace MagicMousePad

/-! ## Messages -/

section Messages

variable {ι : Type*} (arrival : ι → Arrival)

/-- The number by which arrivals are compared. -/
def keyOf (i : ι) : ℕ := (arrival i).msg.number.toNat

/-- Along a run the accepted messages are those `Records.scan` keeps. -/
theorem MmpClient.accepted_run (client : MmpClient) (inputs : List ι) :
    (Mealy.run step client (inputs.map arrival)).2.map Reaction.accepted =
      (Records.scan (keyOf arrival) client.sequenceNumber.toNat inputs).map Option.isSome := by
  induction inputs generalizing client with
  | nil => rfl
  | cons i inputs ih =>
      obtain ⟨accepted, stored⟩ := client.accepted_step (arrival i)
      rw [List.map_cons, Mealy.run_cons, List.map_cons, ih, accepted, stored]
      rcases Nat.lt_or_ge client.sequenceNumber.toNat (keyOf arrival i) with above | below
      · have newer : client.sequenceNumber < (arrival i).msg.number := above
        rw [Records.scan_cons_of_lt above, if_pos newer, decide_eq_true newer]
        rfl
      · have newer : ¬ client.sequenceNumber < (arrival i).msg.number := not_lt.mpr below
        rw [Records.scan_cons_of_not_lt (not_lt.mpr below), if_neg newer, decide_eq_false newer]
        rfl

/-- The stored number is the largest of the first one and those seen. -/
theorem MmpClient.stored_run (client : MmpClient) (inputs : List ι) :
    (Mealy.run step client (inputs.map arrival)).1.sequenceNumber.toNat =
      Records.peak (keyOf arrival) client.sequenceNumber.toNat inputs := by
  induction inputs generalizing client with
  | nil => rfl
  | cons i inputs ih =>
      obtain ⟨-, stored⟩ := client.accepted_step (arrival i)
      rw [List.map_cons, Mealy.run_cons, ih, stored, Records.peak_cons]
      rcases Nat.lt_or_ge client.sequenceNumber.toNat (keyOf arrival i) with above | below
      · have newer : client.sequenceNumber < (arrival i).msg.number := above
        rw [if_pos newer, max_eq_right above.le, keyOf]
      · have newer : ¬ client.sequenceNumber < (arrival i).msg.number := not_lt.mpr below
        rw [if_neg newer, max_eq_left below]

/-- Only an accepted message is reported. -/
theorem MmpClient.accepted_of_call (client : MmpClient) (arrival : Arrival)
    (reported : (client.step arrival).2.call.isSome) : (client.step arrival).2.accepted := by
  unfold step at reported ⊢
  rcases client.handle_cases arrival.screen arrival.msg with
    ⟨-, result⟩ | ⟨-, -, result⟩ | ⟨-, -, result⟩ <;> rw [result] at reported ⊢
  cases reported

end Messages

/-! ## Inputs picked by the reaction to them -/

section Picked

variable {ι : Type*}

/-- The inputs whose reaction passes the test. -/
def picked (test : Reaction → Bool) (inputs : List ι) (reactions : List Reaction) : List ι :=
  ((inputs.zip reactions).filter fun t => test t.2).map Prod.fst

theorem picked_cons_of_pos {test : Reaction → Bool} {i : ι} {inputs : List ι} {reaction : Reaction}
    {reactions : List Reaction} (passes : test reaction = true) :
    picked test (i :: inputs) (reaction :: reactions) = i :: picked test inputs reactions := by
  simp [picked, passes]

theorem picked_cons_of_neg {test : Reaction → Bool} {i : ι} {inputs : List ι} {reaction : Reaction}
    {reactions : List Reaction} (fails : test reaction = false) :
    picked test (i :: inputs) (reaction :: reactions) = picked test inputs reactions := by
  simp [picked, fails]

/-- The inputs accepted by `track_sequence_number`. -/
def acceptedInputs (inputs : List ι) (reactions : List Reaction) : List ι :=
  picked Reaction.accepted inputs reactions

/-- The inputs reported through a callback. -/
def reportedInputs (inputs : List ι) (reactions : List Reaction) : List ι :=
  picked (fun reaction => reaction.call.isSome) inputs reactions

variable (arrival : ι → Arrival)

/-- The accepted inputs are the records. -/
theorem MmpClient.accepted_eq_records (client : MmpClient) (inputs : List ι) :
    acceptedInputs inputs (Mealy.run step client (inputs.map arrival)).2 =
      Records.records (keyOf arrival) client.sequenceNumber.toNat inputs := by
  unfold acceptedInputs
  induction inputs generalizing client with
  | nil => rfl
  | cons i inputs ih =>
      obtain ⟨accepted, stored⟩ := client.accepted_step (arrival i)
      rw [List.map_cons, Mealy.run_cons]
      rcases Nat.lt_or_ge client.sequenceNumber.toNat (keyOf arrival i) with above | below
      · have newer : client.sequenceNumber < (arrival i).msg.number := above
        rw [decide_eq_true newer] at accepted
        rw [picked_cons_of_pos accepted, ih, stored, if_pos newer,
          Records.records_cons_of_lt above]
        rfl
      · have newer : ¬ client.sequenceNumber < (arrival i).msg.number := not_lt.mpr below
        rw [decide_eq_false newer] at accepted
        rw [picked_cons_of_neg accepted, ih, stored, if_neg newer,
          Records.records_cons_of_not_lt (not_lt.mpr below)]

/-- What is reported is accepted. -/
theorem MmpClient.reported_sublist (client : MmpClient) (inputs : List ι) :
    (reportedInputs inputs (Mealy.run step client (inputs.map arrival)).2).Sublist
      (acceptedInputs inputs (Mealy.run step client (inputs.map arrival)).2) := by
  unfold acceptedInputs reportedInputs
  induction inputs generalizing client with
  | nil => exact .slnil
  | cons i inputs ih =>
      rw [List.map_cons, Mealy.run_cons]
      cases called : (client.step (arrival i)).2.call.isSome with
      | true =>
          rw [picked_cons_of_pos called, picked_cons_of_pos (client.accepted_of_call _ called)]
          exact (ih _).cons_cons i
      | false =>
          rw [picked_cons_of_neg called]
          cases accepted : (client.step (arrival i)).2.accepted with
          | true =>
              rw [picked_cons_of_pos accepted]
              exact (ih _).cons i
          | false =>
              rw [picked_cons_of_neg accepted]
              exact ih _

end Picked

/-! ## Messages of one server -/

/-- One of the first 2^32 messages of a server run, handed to a client. -/
structure Delivered (log : List LogEntry) where
  index : ℕ
  bound : index < 2 ^ 32
  datagram : MouseDatagram
  screen : Screen
  sent : (broadcasts log)[index]?.map Broadcast.msg = some datagram.msg

/-- Its number is its position in the run. -/
theorem Delivered.key_eq {log : List LogEntry} (sound : LogSound log) (d : Delivered log) :
    keyOf (arrivalOf datagram screen) d = d.index := by
  obtain ⟨b, present, same⟩ := Option.map_eq_some_iff.mp d.sent
  have whole : LogSound ([] ++ log) := sound
  have numbers := whole.numbers
  have number : some (ntohl b.msg.sequenceNumber) = some (UInt32.ofNat d.index) := by
    obtain ⟨bound, -⟩ := List.getElem?_eq_some_iff.mp present
    have here := congrArg (fun list => list[d.index]?) numbers
    rw [List.getElem?_map, List.getElem?_map, present, List.getElem?_range bound] at here
    simpa using here
  rw [same] at number
  rw [keyOf, arrivalOf, MouseMsg.number, Option.some.inj number]
  exact UInt32.toNat_ofNat_of_lt' d.bound

/-- Ordering safety.  Over any whole datagrams, the accepted ones are the strict
left-to-right maxima above the first stored number, the stored number is the
largest seen, and accepted and reported numbers strictly increase; two clients
fed messages of one server report those both of them report in the same order. -/
theorem Receiver.Live.ordering {r r' : Receiver} (live : r.Live) (live' : r'.Live)
    (inputs : List (MouseDatagram × Screen)) {window : Pointer} {p : Process}
    (reachable : p.Reachable window) (first second : List (Delivered p.log)) :
    let number := fun d : MouseDatagram × Screen => d.1.msg.number.toNat
    let ran := Mealy.run Receiver.step r (inputs.map (receipt Prod.fst Prod.snd))
    let indices := (reportedInputs first (Mealy.run Receiver.step r
      (first.map (receipt Delivered.datagram Delivered.screen))).2).map Delivered.index
    let indices' := (reportedInputs second (Mealy.run Receiver.step r'
      (second.map (receipt Delivered.datagram Delivered.screen))).2).map Delivered.index
    (∀ i, (ran.2.map Reaction.accepted)[i]? = some true ↔
        ∃ d, Records.IsRecord number r.client.sequenceNumber.toNat inputs i d) ∧
      ran.1.client.sequenceNumber.toNat =
        (inputs.map number).foldl max r.client.sequenceNumber.toNat ∧
      (acceptedInputs inputs ran.2).Pairwise (fun d d' => number d < number d') ∧
      (reportedInputs inputs ran.2).Pairwise (fun d d' => number d < number d') ∧
      indices.filter (· ∈ indices') = indices'.filter (· ∈ indices) := by
  intro number ran indices indices'
  obtain ⟨reactions, client⟩ := live.run_eq Prod.fst Prod.snd inputs
  have increasing : (acceptedInputs inputs ran.2).Pairwise (fun d d' => number d < number d') := by
    rw [reactions, MmpClient.accepted_eq_records]
    exact Records.records_pairwise
  have inOrder : ∀ {s : Receiver} (_ : s.Live) (list : List (Delivered p.log)),
      ((reportedInputs list (Mealy.run Receiver.step s
        (list.map (receipt Delivered.datagram Delivered.screen))).2).map
          Delivered.index).Pairwise fun a b => id a < id b := by
    intro s alive list
    rw [(alive.run_eq _ _ list).1, List.pairwise_map]
    refine List.Pairwise.sublist (MmpClient.reported_sublist _ _ _) ?_
    rw [MmpClient.accepted_eq_records]
    refine Records.records_pairwise.imp fun {d d'} above => ?_
    rw [Delivered.key_eq reachable.inv.sound, Delivered.key_eq reachable.inv.sound] at above
    exact above
  refine ⟨fun i => ?_, ?_, increasing, ?_, ?_⟩
  · rw [reactions, MmpClient.accepted_run, List.getElem?_map, Option.map_eq_some_iff]
    constructor
    · intro accepted
      rcases accepted with ⟨kept, present, isSome⟩
      obtain ⟨d, rfl⟩ := Option.isSome_iff_exists.mp isSome
      exact ⟨d, Records.scan_eq_some_iff.mp present⟩
    · intro found
      rcases found with ⟨d, record⟩
      exact ⟨some d, Records.scan_eq_some_iff.mpr record, rfl⟩
  · rw [client, MmpClient.stored_run]
    rfl
  · refine increasing.sublist ?_
    rw [reactions]
    exact MmpClient.reported_sublist _ _ _
  · exact Records.filter_mem_comm (inOrder live first) (inOrder live' second)

/-- The second message of a run, handed twice to a client that reports moves and
once to one that reports nothing. -/
theorem ordering_of_duplicate :
    let msg : MouseMsg := .mouseMove { sequenceNumber := htonl 1 }
    let log : List LogEntry :=
      [.broadcast ⟨.mouseMove {}, [], [], []⟩, .broadcast ⟨msg, [], [], []⟩]
    let d : Delivered log := ⟨1, by decide, msg.whole rfl, ⟨800, 600⟩, rfl⟩
    let indices := fun (config : MmpConfiguration) (list : List (Delivered log)) =>
      (reportedInputs list (Mealy.run Receiver.step
        ⟨((MmpClient.new config).start none).1, fun _ => 0, false⟩
        (list.map (receipt Delivered.datagram Delivered.screen))).2).map Delivered.index
    (indices { onMouseMove := 1 } [d, d]).filter (· ∈ indices {} [d]) =
      (indices {} [d]).filter (· ∈ indices { onMouseMove := 1 } [d, d]) := by
  intro msg log d indices
  have reachable : Process.Reachable nullptr _ :=
    Relation.ReflTransGen.refl
      |>.tail (.number (.mouseMove {}) rfl) |>.tail (.lock rfl rfl) |>.tail (.unlock rfl rfl)
      |>.tail (.number (.mouseMove {}) rfl) |>.tail (.lock rfl rfl) |>.tail (.unlock rfl rfl)
  have live : ∀ config : MmpConfiguration,
      Receiver.Live ⟨((MmpClient.new config).start none).1, fun _ => 0, false⟩ := by
    intro config
    have idle : (MmpClient.new config).running = false := rfl
    obtain ⟨address, started⟩ := MmpClient.start_none idle
    exact ⟨rfl, by rw [started]⟩
  exact ((live { onMouseMove := 1 }).ordering (live {}) [] reachable [d, d] [d]).2.2.2.2

end MagicMousePad
