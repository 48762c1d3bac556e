import MagicMousePad.Delivery
import MagicMousePad.RoundTrip

/-!
# A perfect network

A client that is delivered everything sent after its registration, complete,
once and in order.  The server counts from zero and so does a client that has
not discovered anything, but the client wants numbers above its own; a client
that has discovered the server starts with the bytes of the announced number in
the opposite order; and neither side minds the counter wrapping around.
-/

namespace MagicMousePad

open ByteOrder

/-- `track_sequence_number` accepted every message. -/
def AllAccepted (reactions : List Reaction) : Prop :=
  ∀ reaction ∈ reactions, reaction.accepted = true

instance (reactions : List Reaction) : Decidable (AllAccepted reactions) :=
  inferInstanceAs (Decidable (∀ reaction ∈ reactions, reaction.accepted = true))

/-! ## Consecutive numbers -/

/-- Messages with consecutive numbers are all accepted exactly when the first is
above the stored number and the counter does not wrap around. -/
theorem MmpClient.all_accepted_iff {ι : Type*} (arrival : ι → Arrival) (client : MmpClient)
    {inputs : List ι} {n : ℕ}
    (numbers : inputs.map (fun i => (arrival i).msg.number) =
      (List.range inputs.length).map fun i => UInt32.ofNat (n + i)) :
    AllAccepted (Mealy.run step client (inputs.map arrival)).2 ↔
      inputs = [] ∨
        client.sequenceNumber.toNat < n % 2 ^ 32 ∧ n % 2 ^ 32 + inputs.length ≤ 2 ^ 32 := by
  unfold AllAccepted
  induction inputs generalizing client n with
  | nil => simp
  | cons i inputs ih =>
      rw [List.length_cons, List.range_succ_eq_map, List.map_cons, List.map_cons, List.map_map,
        List.cons.injEq] at numbers
      rcases numbers with ⟨head, tail⟩
      have following : inputs.map (fun i => (arrival i).msg.number) =
          (List.range inputs.length).map fun i => UInt32.ofNat (n + 1 + i) := by
        rw [tail]
        refine List.map_congr_left fun j _ => congrArg UInt32.ofNat ?_
        omega
      obtain ⟨accepted, stored⟩ := client.accepted_step (arrival i)
      have here : (arrival i).msg.number.toNat = n % 2 ^ 32 := by
        rw [head, UInt32.toNat_ofNat']
        rfl
      rw [List.map_cons, Mealy.run_cons, List.forall_mem_cons, accepted, decide_eq_true_eq,
        ih _ following, UInt32.lt_iff_toNat_lt, here]
      simp only [reduceCtorEq, false_or]
      refine and_congr_right fun above => ?_
      have newer : client.sequenceNumber < (arrival i).msg.number := by
        rw [UInt32.lt_iff_toNat_lt, here]
        exact above
      rw [stored, if_pos newer, here, List.length_cons]
      cases inputs with
      | nil =>
          refine iff_of_true (Or.inl rfl) ?_
          rw [List.length_nil]
          omega
      | cons j inputs =>
          simp only [reduceCtorEq, false_or]
          rw [List.length_cons]
          omega

/-! ## Registration and delivery -/

/-- A client that may be registered next, with its sequence number: directly
configured, or discovered through an announcement in the log. -/
inductive Introduced (config : MmpConfiguration) (log : List LogEntry) :
    MmpClient → UInt32 → Prop
  | configured : Introduced config log (.new config) 0
  | discovered {first later : List LogEntry} {number : UInt32} {client : MmpClient}
      (padding : UInt8 × UInt8) (buffer : Memory) (peer : SockaddrStorage) :
    log = first ++ .announced number :: later →
    (MmpClient.new config).discoverReceive buffer ((Emission.announce number).datagram padding)
      peer = some client →
    Introduced config log client (htonl number)

theorem Introduced.client_eq {config : MmpConfiguration} {log : List LogEntry}
    {client : MmpClient} {stored : UInt32} (introduced : Introduced config log client stored) :
    client.running = false ∧ client.sequenceNumber = stored := by
  cases introduced with
  | configured => exact ⟨rfl, rfl⟩
  | discovered padding buffer peer split answered =>
      rw [Emission.discoverReceive_announce] at answered
      cases answered
      exact ⟨rfl, rfl⟩

/-- Every message sent after the registration is accepted if and only if there
is none, or the number of messages sent before is above the client's sequence
number and the counter does not wrap around. -/
theorem noMessageLost_iff {window : Pointer} {p : Process} (reachable : p.Reachable window)
    {earlier later : List LogEntry} {registered : Client}
    (split : p.log = earlier ++ .registered registered :: later) {config : MmpConfiguration}
    {client : MmpClient} {stored : UInt32} (introduced : Introduced config earlier client stored)
    (buffer : Memory) {deliveries : List (MouseDatagram × Screen)}
    (perfect : deliveries.map (fun d => d.1.msg) = (broadcasts later).map Broadcast.msg) :
    AllAccepted (Mealy.run Receiver.step ⟨(client.start none).1, buffer, false⟩
        (deliveries.map (receipt Prod.fst Prod.snd))).2 ↔
      broadcasts later = [] ∨
        stored.toNat < (broadcasts earlier).length % 2 ^ 32 ∧
          (broadcasts earlier).length % 2 ^ 32 + (broadcasts later).length ≤ 2 ^ 32 := by
  obtain ⟨idle, number⟩ := introduced.client_eq
  obtain ⟨address, started⟩ := MmpClient.start_none idle
  have live : Receiver.Live ⟨(client.start none).1, buffer, false⟩ := ⟨rfl, by rw [started]⟩
  have count : deliveries.length = (broadcasts later).length := by
    simpa using congrArg List.length perfect
  have sound : LogSound ((earlier ++ [.registered registered]) ++ later) := by
    have all := reachable.inv.sound
    rw [split] at all
    simpa using all
  have numbers := sound.numbers
  rw [broadcasts_append, broadcasts_registered_cons, broadcasts_nil, List.append_nil] at numbers
  have consecutive : deliveries.map (fun d => (arrivalOf Prod.fst Prod.snd d).msg.number) =
      (List.range deliveries.length).map fun i =>
        UInt32.ofNat ((broadcasts earlier).length + i) := by
    have decoded := congrArg (List.map MouseMsg.number) perfect
    rw [List.map_map, List.map_map] at decoded
    rw [count, ← numbers]
    exact decoded
  have first : (client.start none).1.sequenceNumber = stored := by rw [started]; exact number
  rw [(live.run_eq _ _ deliveries).1, MmpClient.all_accepted_iff _ _ consecutive, first, count,
    ← List.length_eq_zero_iff, count, List.length_eq_zero_iff]

/-- A configured client registered after the first message is told of the
second. -/
theorem noMessageLost_after_first :
    AllAccepted (Mealy.run Receiver.step
        ⟨((MmpClient.new { onMouseMove := 1 }).start none).1, fun _ => 0, false⟩
        ([(MouseMsg.whole (.mouseMove { sequenceNumber := htonl 1 }) rfl, ⟨800, 600⟩)].map
          (receipt Prod.fst Prod.snd))).2 := by
  have reachable : Process.Reachable nullptr _ :=
    Relation.ReflTransGen.refl
      |>.tail (.number (.mouseMove {}) rfl) |>.tail (.lock rfl rfl) |>.tail (.unlock rfl rfl)
      |>.tail (.connect (.ofHost 1) 0 rfl) |>.tail (.register rfl rfl)
      |>.tail (.notified rfl (.inr rfl))
      |>.tail (.number (.mouseMove {}) rfl) |>.tail (.lock rfl rfl) |>.tail (.sent rfl rfl)
      |>.tail (.unlock rfl rfl)
  have split : (_ : List LogEntry) = [.broadcast ⟨.mouseMove {}, [], [], []⟩] ++
      .registered (Client.new (.ofHost 1) 0) :: [.broadcast
        ⟨.mouseMove { sequenceNumber := htonl 1 }, [Client.new (.ofHost 1) 0],
          [(Client.new (.ofHost 1) 0, true)], [Client.new (.ofHost 1) 0]⟩] := rfl
  refine (noMessageLost_iff reachable split .configured (fun _ => 0) ?_).mpr (Or.inr ?_)
  · rfl
  · decide

/-- A configured client registered before the first message misses it. -/
theorem not_noMessageLost_of_first :
    ∃ p : Process, p.Reachable nullptr ∧
      p.log = [.registered (Client.new (.ofHost 1) 0),
        .broadcast ⟨.mouseMove {}, [Client.new (.ofHost 1) 0],
          [(Client.new (.ofHost 1) 0, true)], [Client.new (.ofHost 1) 0]⟩] ∧
      ¬ AllAccepted (Mealy.run Receiver.step
          ⟨((MmpClient.new { onMouseMove := 1 }).start none).1, fun _ => 0, false⟩
          ([(MouseMsg.whole (.mouseMove {}) rfl, ⟨800, 600⟩)].map
            (receipt Prod.fst Prod.snd))).2 := by
  refine ⟨_, Relation.ReflTransGen.refl
      |>.tail (.connect (.ofHost 1) 0 rfl) |>.tail (.register rfl rfl)
      |>.tail (.notified rfl (.inr rfl))
      |>.tail (.number (.mouseMove {}) rfl) |>.tail (.lock rfl rfl) |>.tail (.sent rfl rfl)
      |>.tail (.unlock rfl rfl), rfl, ?_⟩
  decide

end MagicMousePad
