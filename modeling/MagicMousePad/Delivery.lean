import MagicMousePad.Interleaving

/-!
# Exactly-once delivery

What the log of any interleaving says about the clients: a broadcast reaches
everyone who is registered when it takes the lock and whose `sendto` does not
fail, so a client that never fails gets every message sent after its
registration, once, under consecutive numbers.
-/

namespace MagicMousePad

/-! ## Messages for one address -/

/-- The messages of a log that were delivered to an address, one copy for each
successful attempt. -/
def received (address : SockaddrStorage) (log : List LogEntry) : List MouseMsg :=
  (broadcasts log).flatMap fun b =>
    List.replicate (b.attempts.countP fun attempt => attempt.1.address = address ∧ attempt.2)
      b.msg

/-- No attempt of the log on the address failed. -/
def NeverFails (address : SockaddrStorage) (log : List LogEntry) : Prop :=
  ∀ b ∈ broadcasts log, ∀ attempt ∈ b.attempts, attempt.1.address = address → attempt.2 = true

section Complete

variable {address : SockaddrStorage} {earlier : List LogEntry} {b : Broadcast}

/-- A complete broadcast attempts a registered address once. -/
theorem Broadcast.Complete.attempted_once (complete : b.Complete earlier)
    (registered : (clientsAfter earlier).HasAddress address) :
    (b.attempts.countP fun attempt => attempt.1.address = address) = 1 := by
  have once := ClientSet.countP_address registered
  rw [← complete.snapshot, ← complete.visited, List.countP_map] at once
  exact once

/-- If the attempt does not fail, the address is delivered one copy and stays
registered. -/
theorem Broadcast.Complete.delivered_once (complete : b.Complete earlier)
    (registered : (clientsAfter earlier).HasAddress address)
    (succeeds : ∀ attempt ∈ b.attempts, attempt.1.address = address → attempt.2 = true) :
    (b.attempts.countP fun attempt => attempt.1.address = address ∧ attempt.2) = 1 := by
  rw [← complete.attempted_once registered]
  refine List.countP_congr fun attempt member => ?_
  simp only [decide_eq_true_eq, and_iff_left_iff_imp]
  exact succeeds attempt member

theorem Broadcast.Complete.keeps (complete : b.Complete earlier)
    (registered : (clientsAfter earlier).HasAddress address)
    (succeeds : ∀ attempt ∈ b.attempts, attempt.1.address = address → attempt.2 = true) :
    (clientsAfter (earlier ++ [.broadcast b])).HasAddress address := by
  rcases registered with ⟨client, member, same⟩
  have visited : client ∈ b.attempts.map Prod.fst := by
    rw [complete.visited, complete.snapshot]
    exact member
  obtain ⟨attempt, attempted, rfl⟩ := List.mem_map.mp visited
  refine ⟨attempt.1, ?_, same⟩
  rw [clientsAfter_concat, complete.apply_toList, Broadcast.reached]
  exact List.mem_map.mpr
    ⟨attempt, List.mem_filter.mpr ⟨attempted, succeeds attempt attempted same⟩, rfl⟩

end Complete

/-- An address that is registered and never fails is delivered every broadcast
once. -/
theorem received_eq_of_neverFails {address : SockaddrStorage} {earlier later : List LogEntry}
    (sound : LogSound (earlier ++ later))
    (registered : (clientsAfter earlier).HasAddress address)
    (succeeds : NeverFails address later) :
    received address later = (broadcasts later).map Broadcast.msg := by
  induction later generalizing earlier with
  | nil => rfl
  | cons entry later ih =>
      have regrouped : earlier ++ entry :: later = (earlier ++ [entry]) ++ later := by simp
      cases entry with
      | announced number =>
          rw [regrouped] at sound
          refine ih sound ?_ succeeds
          rw [clientsAfter_concat]
          exact registered
      | registered client =>
          rw [regrouped] at sound
          refine ih sound ?_ succeeds
          rw [clientsAfter_concat, LogEntry.apply, ClientSet.hasAddress_emplace]
          exact Or.inl registered
      | broadcast b =>
          have first := sound.complete rfl
          have here := succeeds b (List.mem_cons_self ..)
          have there : NeverFails address later :=
            fun b' member => succeeds b' (List.mem_cons_of_mem _ member)
          rw [regrouped] at sound
          have rest := ih sound (first.keeps registered here) there
          unfold received at rest ⊢
          rw [broadcasts_broadcast_cons, List.flatMap_cons, first.delivered_once registered here,
            rest]
          rfl

/-- The broadcasts of a log carry consecutive numbers. -/
theorem LogSound.numbers {earlier later : List LogEntry}
    (sound : LogSound (earlier ++ later)) :
    (broadcasts later).map (fun b => ntohl b.msg.sequenceNumber) =
      (List.range (broadcasts later).length).map fun i =>
        UInt32.ofNat ((broadcasts earlier).length + i) := by
  induction later generalizing earlier with
  | nil => rfl
  | cons entry later ih =>
      have regrouped : earlier ++ entry :: later = (earlier ++ [entry]) ++ later := by simp
      have current := sound earlier entry later rfl
      rw [regrouped] at sound
      have rest := ih sound
      rw [broadcasts_append, List.length_append] at rest
      cases entry with
      | announced number => exact rest
      | registered client => exact rest
      | broadcast b =>
          rw [broadcasts_broadcast_cons, List.map_cons, rest, List.length_cons,
            List.range_succ_eq_map, List.map_cons, List.map_map, current.number, Nat.add_zero]
          congr 1
          refine List.map_congr_left fun i _ => ?_
          rw [Function.comp_apply]
          congr 1
          simp only [broadcasts_broadcast_cons, broadcasts_nil, List.length_cons, List.length_nil]
          omega

/-! ## Every interleaving -/

/-- Exactly-once, gap-free delivery, as the log of a process shows it. -/
structure Process.ExactlyOnce (p : Process) : Prop where
  /-- A broadcast visits each client registered when it took the lock once, and
  the set it leaves is the set of those it reached. -/
  finished : ∀ earlier b later, p.log = earlier ++ .broadcast b :: later →
    b.snapshot = (clientsAfter earlier).toList ∧ b.snapshot.Nodup ∧
      b.attempts.map Prod.fst = b.snapshot ∧ b.remaining = b.reached ∧
      (clientsAfter (earlier ++ [.broadcast b])).toList = b.remaining
  /-- A broadcast under way has visited the first of them once. -/
  underway : ∀ msg snapshot it attempts, p.window = .sending msg snapshot it attempts →
    snapshot = (clientsAfter p.log).toList ∧ attempts.map Prod.fst <+: snapshot
  /-- Between broadcasts the set is what registrations and broadcasts made it. -/
  between : ¬ p.window.Sending → p.server.clients = clientsAfter p.log
  /-- A client that never fails after its registration is delivered every later
  broadcast once, under consecutive numbers. -/
  delivered : ∀ earlier client later, p.log = earlier ++ .registered client :: later →
    NeverFails client.address later →
    received client.address later = (broadcasts later).map Broadcast.msg ∧
      (received client.address later).map (fun msg => ntohl msg.sequenceNumber) =
        (List.range (broadcasts later).length).map fun i =>
          UInt32.ofNat ((broadcasts earlier).length + i)

/-- In any interleaving of the two threads, under any pattern of `sendto`
failures, delivery is exactly once and gap-free. -/
theorem Process.Reachable.exactlyOnce {window : Pointer} {p : Process}
    (reachable : p.Reachable window) : p.ExactlyOnce where
  finished := by
    intro earlier b later split
    have complete := reachable.inv.sound.complete split
    refine ⟨complete.snapshot, ?_, complete.visited, complete.remaining, ?_⟩
    · rw [complete.snapshot]
      exact OrderedSet.nodup _
    · rw [clientsAfter_concat, complete.apply_toList, complete.remaining]
  underway := by
    intro msg snapshot it attempts sending
    obtain ⟨same, ahead, -⟩ := reachable.inv.sweeping msg snapshot it attempts sending
    exact ⟨same, ⟨_, ahead⟩⟩
  between := reachable.inv.settled
  delivered := by
    intro earlier client later split succeeds
    have sound : LogSound ((earlier ++ [.registered client]) ++ later) := by
      have all := reachable.inv.sound
      rw [split] at all
      simpa using all
    have registered : (clientsAfter (earlier ++ [.registered client])).HasAddress
        client.address := by
      rw [clientsAfter_concat, LogEntry.apply, ClientSet.hasAddress_emplace]
      exact Or.inr rfl
    have all := received_eq_of_neverFails sound registered succeeds
    have numbers := sound.numbers
    rw [broadcasts_append, broadcasts_registered_cons, broadcasts_nil, List.append_nil] at numbers
    refine ⟨all, ?_⟩
    rw [all, List.map_map]
    exact numbers

/-- Of two registered clients the first is dead: the broadcast erases it and
still reaches the second. -/
theorem exactlyOnce_with_dead_neighbour :
    Process.ExactlyOnce
      { server := ⟨⟨[Client.new (.ofHost 2) 7], List.pairwise_singleton ..⟩, 1, 1⟩
        owner := none
        window := .idle
        serve := .polling
        log := [.registered (Client.new (.ofHost 1) 3), .registered (Client.new (.ofHost 2) 7),
          .broadcast
            { msg := .mouseMove { x := 5 }
              snapshot := [Client.new (.ofHost 1) 3, Client.new (.ofHost 2) 7]
              attempts := [(Client.new (.ofHost 1) 3, false), (Client.new (.ofHost 2) 7, true)]
              remaining := [Client.new (.ofHost 2) 7] }] } := by
  have run : Process.Reachable 1 _ :=
    Relation.ReflTransGen.refl
      |>.tail (.connect (.ofHost 1) 3 rfl) |>.tail (.register rfl rfl)
      |>.tail (.notified rfl (.inr rfl))
      |>.tail (.connect (.ofHost 2) 7 rfl) |>.tail (.register rfl rfl)
      |>.tail (.notified rfl (.inr rfl))
      |>.tail (.number (.mouseMove { x := 5 }) rfl) |>.tail (.lock rfl rfl)
      |>.tail (.failed rfl rfl) |>.tail (.sent rfl rfl) |>.tail (.unlock rfl rfl)
  exact run.exactlyOnce

end MagicMousePad
