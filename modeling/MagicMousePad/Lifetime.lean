import MagicMousePad.Ordering
import MagicMousePad.PerfectNetwork

/-!
# The numbers run out

The server counts in 32 bits and begins again at zero, but a client wants ever greater numbers.
So a client is told of a limited number of messages in its life, and of none any more after one
with the greatest number, whoever sent it.
-/

namespace MagicMousePad

open ByteOrder

/-! ## The receiver thread -/

/-- The greatest number. -/
def lastNumber : UInt32 := 0xFFFFFFFF

theorem not_lastNumber_lt (number : UInt32) : ¬ lastNumber < number := by
  have bound := number.toNat_lt
  have last : lastNumber.toNat = 2 ^ 32 - 1 := rfl
  rw [UInt32.lt_iff_toNat_lt, last]
  omega

theorem lt_lastNumber_iff {number : UInt32} : number < lastNumber ↔ number ≠ lastNumber := by
  have bound := number.toNat_lt
  have last : lastNumber.toNat = 2 ^ 32 - 1 := rfl
  rw [UInt32.lt_iff_toNat_lt, last, ne_eq, ← UInt32.toNat_inj, last]
  omega

/-- The callbacks made over a run. -/
def Receiver.calls (r : Receiver) (outcomes : List RecvOutcome) : List Call :=
  (Mealy.run Receiver.step r outcomes).2.filterMap Reaction.call

/-- The thread has left its loop or is about to, or its client has no number to wait for or
nothing to call. -/
def Receiver.Silent (r : Receiver) : Prop :=
  r.left = true ∨ r.client.running = false ∨ r.client.sequenceNumber = lastNumber ∨
    (r.client.config.onMouseButton = nullptr ∧ r.client.config.onMouseMove = nullptr)

namespace Receiver

variable {r : Receiver} {outcome : RecvOutcome}

/-- A call uses up a number. -/
theorem call_step (client : MmpClient) (arrival : Arrival) :
    (client.step arrival).2.call.toList.length + client.sequenceNumber.toNat ≤
      (client.step arrival).1.sequenceNumber.toNat := by
  obtain ⟨accepted, stored⟩ := client.accepted_step arrival
  rw [stored]
  split
  · rename_i newer
    have above := UInt32.lt_iff_toNat_lt.mp newer
    have once : (client.step arrival).2.call.toList.length ≤ 1 := by
      cases (client.step arrival).2.call <;> simp
    omega
  · rename_i older
    rw [decide_eq_false older] at accepted
    have none : (client.step arrival).2.call = none := by
      by_contra called
      have reported := client.accepted_of_call arrival (Option.isSome_iff_ne_none.mpr called)
      exact Bool.noConfusion (accepted.symm.trans reported)
    simp [none]

theorem call_iterate (r : Receiver) (outcome : RecvOutcome) :
    (r.step outcome).2.call.toList.length + r.client.sequenceNumber.toNat ≤
      (r.step outcome).1.client.sequenceNumber.toNat := by
  rcases r.step_cases outcome with ⟨same, none, -⟩ | ⟨-, data, arrival, -, client, reaction⟩
  · simp [same, none]
  · rw [client, reaction]
    exact call_step r.client arrival

theorem calls_cons (r : Receiver) (outcome : RecvOutcome) (outcomes : List RecvOutcome) :
    r.calls (outcome :: outcomes) =
      (r.step outcome).2.call.toList ++ (r.step outcome).1.calls outcomes := by
  rw [calls, Mealy.run_cons, List.filterMap_cons]
  cases (r.step outcome).2.call <;> rfl

/-- Each callback of a run uses up a number. -/
theorem length_calls_le (r : Receiver) (outcomes : List RecvOutcome) :
    (r.calls outcomes).length + r.client.sequenceNumber.toNat ≤
      (Mealy.run step r outcomes).1.client.sequenceNumber.toNat := by
  induction outcomes generalizing r with
  | nil => simp [calls]
  | cons outcome outcomes ih =>
      have here := r.call_iterate outcome
      have later := ih (r.step outcome).1
      rw [calls_cons, List.length_append, Mealy.run_cons]
      dsimp only
      omega

/-- A silent thread calls nothing and stays silent. -/
theorem Silent.step (silent : r.Silent) (outcome : RecvOutcome) :
    (r.step outcome).1.Silent ∧ (r.step outcome).2.call = none := by
  rcases r.step_cases outcome with
    ⟨same, none, left⟩ | ⟨live, data, arrival, -, client, reaction⟩
  · refine ⟨?_, none⟩
    unfold Silent at silent ⊢
    rw [same]
    exact silent.imp_left left
  · have config := r.client.config_step arrival
    obtain ⟨-, stored⟩ := r.client.accepted_step arrival
    rw [← client] at config stored
    rcases silent with left | idle | last | ⟨buttons, moves⟩
    · exact Bool.noConfusion (live.inLoop.symm.trans left)
    · exact Bool.noConfusion (idle.symm.trans live.running)
    · have older : ¬ r.client.sequenceNumber < arrival.msg.number :=
        last ▸ not_lastNumber_lt arrival.msg.number
      refine ⟨Or.inr (Or.inr (Or.inl ?_)), ?_⟩
      · rw [stored, if_neg older, last]
      · rw [reaction]
        rcases r.client.handle_cases arrival.screen arrival.msg with
          ⟨-, result⟩ | ⟨newer, -⟩ | ⟨newer, -⟩
        · rw [MmpClient.step, result]
        · exact absurd newer older
        · exact absurd newer older
    · have absent : r.client.config.callback arrival.msg = nullptr := by
        cases arrival.msg
        · exact moves
        · exact buttons
      refine ⟨Or.inr (Or.inr (Or.inr ?_)), ?_⟩
      · rw [config]
        exact ⟨buttons, moves⟩
      · rw [reaction]
        rcases r.client.handle_cases arrival.screen arrival.msg with
          ⟨-, result⟩ | ⟨-, -, result⟩ | ⟨-, present, -⟩
        · rw [MmpClient.step, result]
        · rw [MmpClient.step, result]
        · exact absurd absent present

theorem Silent.calls (silent : r.Silent) (outcomes : List RecvOutcome) :
    r.calls outcomes = [] := by
  induction outcomes generalizing r with
  | nil => rfl
  | cons outcome outcomes ih =>
      obtain ⟨still, none⟩ := silent.step outcome
      rw [calls_cons, none, ih still]
      rfl

/-- A message with the greatest number is reported if there is a callback for it. -/
theorem Live.call_of_lastNumber (live : r.Live) (below : r.client.sequenceNumber ≠ lastNumber)
    (msg : MouseMsg) (tagged : msg.WellTagged) (last : msg.number = lastNumber)
    (present : r.client.config.callback msg ≠ nullptr) :
    (r.step (.received msg.datagram ⟨0, 0⟩)).2.call ≠ none := by
  have newer : r.client.sequenceNumber < msg.number := last ▸ lt_lastNumber_iff.mpr below
  have whole : (msg.whole tagged).data = msg.datagram := rfl
  rw [← whole, live.step_eq]
  rcases r.client.handle_cases ⟨0, 0⟩ msg with ⟨older, -⟩ | ⟨-, absent, -⟩ | ⟨-, -, result⟩
  · exact absurd newer older
  · exact absurd absent present
  · dsimp only [MmpClient.step]
    rw [show (msg.whole tagged).msg = msg from rfl, result]
    simp

/-- A thread that is not silent can be made to call. -/
theorem exists_call (loud : ¬ r.Silent) : ∃ outcome, (r.step outcome).2.call ≠ none := by
  unfold Silent at loud
  simp only [not_or, not_and] at loud
  obtain ⟨inLoop, running, below, callbacks⟩ := loud
  have live : r.Live := ⟨by simpa using inLoop, by simpa using running⟩
  by_cases buttons : r.client.config.onMouseButton = nullptr
  · exact ⟨_, live.call_of_lastNumber below
      (.mouseMove { sequenceNumber := htonl lastNumber }) rfl rfl (callbacks buttons)⟩
  · exact ⟨_, live.call_of_lastNumber below
      (.mouseButton { sequenceNumber := htonl lastNumber, padding := (0, 0) }) rfl rfl buttons⟩

/-- Each callback uses up a number, and there is no callback ever again exactly if the thread
has left or is about to leave its loop, if the client has the greatest number, or if there is
nothing to call. -/
theorem falls_silent (r : Receiver) :
    (∀ outcomes, (r.calls outcomes).length + r.client.sequenceNumber.toNat ≤
      (Mealy.run Receiver.step r outcomes).1.client.sequenceNumber.toNat) ∧
      ((∀ outcomes, r.calls outcomes = []) ↔ r.Silent) := by
  refine ⟨r.length_calls_le, fun quiet => ?_, fun silent => silent.calls⟩
  by_contra loud
  obtain ⟨outcome, called⟩ := exists_call loud
  have nothing := quiet [outcome]
  rw [calls_cons, List.append_eq_nil_iff] at nothing
  exact called (by simpa using nothing.1)

end Receiver

/-! ## A perfect network -/

/-- Of messages with consecutive numbers, those are accepted that are above the stored number
and come before the counter wraps around. -/
theorem MmpClient.accepted_consecutive {ι : Type*} (arrival : ι → Arrival) (client : MmpClient)
    {inputs : List ι} {n : ℕ}
    (numbers : inputs.map (fun i => (arrival i).msg.number) =
      (List.range inputs.length).map fun i => UInt32.ofNat (n + i)) :
    (Mealy.run step client (inputs.map arrival)).2.map Reaction.accepted =
      (List.range inputs.length).map fun i =>
        decide (client.sequenceNumber.toNat < n % 2 ^ 32 + i ∧ n % 2 ^ 32 + i < 2 ^ 32) := by
  induction inputs generalizing client n with
  | nil => rfl
  | cons i inputs ih =>
      rw [List.length_cons, List.range_succ_eq_map, List.map_cons, List.map_cons, List.map_map,
        List.cons.injEq] at numbers
      rcases numbers with ⟨head, tail⟩
      have following : inputs.map (fun i => (arrival i).msg.number) =
          (List.range inputs.length).map fun i => UInt32.ofNat (n + 1 + i) := by
        rw [tail]
        refine List.map_congr_left fun j _ => congrArg UInt32.ofNat ?_
        omega
      obtain ⟨accepted, stored⟩ := client.accepted_step (arrival i)
      have here : (arrival i).msg.number.toNat = n % 2 ^ 32 := by
        rw [head, UInt32.toNat_ofNat']
        rfl
      have old := client.sequenceNumber.toNat_lt
      have largest : (client.step (arrival i)).1.sequenceNumber.toNat =
          max client.sequenceNumber.toNat (n % 2 ^ 32) := by
        rw [stored]
        split
        · rename_i newer
          rw [UInt32.lt_iff_toNat_lt, here] at newer
          rw [here, max_eq_right newer.le]
        · rename_i older
          rw [UInt32.lt_iff_toNat_lt, here] at older
          rw [max_eq_left (not_lt.mp older)]
      rw [List.map_cons, Mealy.run_cons, List.map_cons, ih _ following, accepted, List.length_cons,
        List.range_succ_eq_map, List.map_cons, List.map_map, largest]
      congr 1
      · rw [decide_eq_decide, UInt32.lt_iff_toNat_lt, here]
        omega
      · refine List.map_congr_left fun j _ => ?_
        rw [Function.comp_apply, decide_eq_decide]
        -- Behind the greatest number the counter is zero, and nothing is above the stored one.
        omega

/-- Of the messages sent after its registration, a client accepts exactly those whose place in
the sequence of the server is above its own number, up to the wrap of the counter, and none
of the messages behind that, however many are sent. -/
theorem accepts_until_wrap {window : Pointer} {p : Process} (reachable : p.Reachable window)
    {earlier later : List LogEntry} {registered : Client}
    (split : p.log = earlier ++ .registered registered :: later) {config : MmpConfiguration}
    {client : MmpClient} {stored : UInt32} (introduced : Introduced config earlier client stored)
    (buffer : Memory) {deliveries : List (MouseDatagram × Screen)}
    (perfect : deliveries.map (fun d => d.1.msg) = (broadcasts later).map Broadcast.msg) :
    (Mealy.run Receiver.step ⟨(client.start none).1, buffer, false⟩
        (deliveries.map (receipt Prod.fst Prod.snd))).2.map Reaction.accepted =
      (List.range (broadcasts later).length).map fun i =>
        decide (stored.toNat < (broadcasts earlier).length % 2 ^ 32 + i ∧
          (broadcasts earlier).length % 2 ^ 32 + i < 2 ^ 32) := by
  obtain ⟨idle, number⟩ := introduced.client_eq
  obtain ⟨address, started⟩ := MmpClient.start_none idle
  have live : Receiver.Live ⟨(client.start none).1, buffer, false⟩ := ⟨rfl, by rw [started]⟩
  have count : deliveries.length = (broadcasts later).length := by
    simpa using congrArg List.length perfect
  have sound : LogSound ((earlier ++ [.registered registered]) ++ later) := by
    have all := reachable.inv.sound
    rw [split] at all
    simpa using all
  have numbers := sound.numbers
  rw [broadcasts_append, broadcasts_registered_cons, broadcasts_nil, List.append_nil] at numbers
  have consecutive : deliveries.map (fun d => (arrivalOf Prod.fst Prod.snd d).msg.number) =
      (List.range deliveries.length).map fun i =>
        UInt32.ofNat ((broadcasts earlier).length + i) := by
    have decoded := congrArg (List.map MouseMsg.number) perfect
    rw [List.map_map, List.map_map] at decoded
    rw [count, ← numbers]
    exact decoded
  have first : (client.start none).1.sequenceNumber = stored := by rw [started]; exact number
  rw [(live.run_eq _ _ deliveries).1, MmpClient.accepted_consecutive _ _ consecutive, first, count]

/-- A client that is registered before the first message misses it and is told of the second. -/
theorem accepts_until_wrap_from_start :
    ∃ p : Process, p.Reachable nullptr ∧ (broadcasts p.log).length = 2 ∧
      (Mealy.run Receiver.step
        ⟨((MmpClient.new { onMouseMove := 1 }).start none).1, fun _ => 0, false⟩
        ([(MouseMsg.whole (.mouseMove {}) rfl, ⟨800, 600⟩),
          (MouseMsg.whole (.mouseMove { sequenceNumber := htonl 1 }) rfl, ⟨800, 600⟩)].map
            (receipt Prod.fst Prod.snd))).2.map Reaction.accepted = [false, true] := by
  have reachable : Process.Reachable nullptr _ :=
    Relation.ReflTransGen.refl
      |>.tail (.connect (.ofHost 1) 0 rfl) |>.tail (.register rfl rfl)
      |>.tail (.notified rfl (.inr rfl))
      |>.tail (.number (.mouseMove {}) rfl) |>.tail (.lock rfl rfl) |>.tail (.sent rfl rfl)
      |>.tail (.unlock rfl rfl)
      |>.tail (.number (.mouseMove {}) rfl) |>.tail (.lock rfl rfl) |>.tail (.sent rfl rfl)
      |>.tail (.unlock rfl rfl)
  have split : (_ : List LogEntry) = [] ++ .registered (Client.new (.ofHost 1) 0) ::
      [.broadcast
        ⟨.mouseMove {}, [Client.new (.ofHost 1) 0], [(Client.new (.ofHost 1) 0, true)],
          [Client.new (.ofHost 1) 0]⟩,
      .broadcast
        ⟨.mouseMove { sequenceNumber := htonl 1 }, [Client.new (.ofHost 1) 0],
          [(Client.new (.ofHost 1) 0, true)], [Client.new (.ofHost 1) 0]⟩] := rfl
  exact ⟨_, reachable, rfl,
    accepts_until_wrap reachable split .configured (fun _ => 0) rfl⟩

end MagicMousePad
