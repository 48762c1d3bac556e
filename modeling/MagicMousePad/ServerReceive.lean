import MagicMousePad.Server

/-!
# Failed and short receives

`serve` compares the `int` returned by `recvfrom` with a `std::size_t`, so that
`SOCKET_ERROR` passes for a large length and the iteration goes on with the
datagram and the peer of an earlier one.  A failed receive goes unnoticed only
if the stale id asks for nothing, or for the registration of a peer that is
still registered.
-/

namespace MagicMousePad

open ByteOrder

namespace Serve

variable {family : Family}

/-! ## The length test -/

/-- `SOCKET_ERROR` passes for a length of 2^64 - 1. -/
theorem sizeT_socketError : sizeT socketError = 2 ^ 64 - 1 := by decide

/-! ## Events that count -/

/-- The events left of a run when only successfully received datagrams of at
least four bytes count. -/
def wellReceived : ServerEvent family → Bool
  | .receive .error _ => false
  | .receive (.received data _) _ => sizeofMmpMsgId ≤ data.bytes.length
  | .takeNumber => true
  | .broadcast _ _ => true

/-- The client set and the announce replies of a run. -/
def outcome (s : Serve) (events : List (ServerEvent family)) : ClientSet × List Reply :=
  let ran := Mealy.run step s events
  (ran.1.server.clients, replies ran.2.flatten)

/-- At every moment of the run, client set and replies are those that the
successfully received datagrams alone would have produced. -/
def FailuresInvisible (s : Serve) (events : List (ServerEvent family)) : Prop :=
  ∀ earlier, earlier <+: events → outcome s earlier = outcome s (earlier.filter wellReceived)

/-- The stale id asks for nothing, or for the registration of a peer that is
registered. -/
def HarmlessStale (s : Serve) : Prop :=
  ntohl (load32 s.buffer 0) ≠ mmpMsgidDiscover ∧
    (ntohl (load32 s.buffer 0) = mmpMsgidConnect → s.server.clients.HasAddress s.peer)

/-- If the event is a failed receive, the stale id is harmless. -/
def FailsHarmlessly (s : Serve) (event : ServerEvent family) : Prop :=
  ∀ now, event = .receive .error now → s.HarmlessStale

/-! ## One event -/

/-- Equal servers, and peers equal beyond the bytes that `recvfrom` reports. -/
def Agrees (family : Family) (s t : Serve) : Prop :=
  s.server = t.server ∧ s.peer.tail family = t.peer.tail family

/-- With equal server, id, peer and peer length, an iteration does the same. -/
theorem dispatch_agrees {s t : Serve} {cnt now : Int} (server : s.server = t.server)
    (peer : s.peer = t.peer) (cntPeer : s.cntPeer = t.cntPeer)
    (id : load32 s.buffer 0 = load32 t.buffer 0) :
    Agrees family (s.dispatch cnt now).1 (t.dispatch cnt now).1 ∧
      (s.dispatch cnt now).2 = (t.dispatch cnt now).2 := by
  unfold dispatch
  simp only [server, peer, cntPeer, id]
  split
  · exact ⟨⟨server, by rw [peer]⟩, rfl⟩
  · split
    · exact ⟨⟨server, by rw [peer]⟩, rfl⟩
    · split
      · exact ⟨⟨rfl, rfl⟩, rfl⟩
      · exact ⟨⟨server, by rw [peer]⟩, rfl⟩

theorem step_agrees_of_wellReceived {s t : Serve} {event : ServerEvent family}
    (counts : wellReceived event = true) (agrees : Agrees family s t) :
    Agrees family (s.step event).1 (t.step event).1 ∧ (s.step event).2 = (t.step event).2 := by
  rcases agrees with ⟨server, tails⟩
  cases event with
  | receive receipt now =>
      cases receipt with
      | error => cases counts
      | received data peer =>
          have long : sizeofMmpMsgId ≤ data.bytes.length := by simpa [wellReceived] using counts
          refine dispatch_agrees server ?_ rfl ?_
          · exact SockaddrStorage.overwrite_eq_of_tail peer tails
          · exact load32_overwrite_frame s.buffer t.buffer long
  | takeNumber =>
      refine ⟨⟨?_, tails⟩, rfl⟩
      simp only [step, server]
  | broadcast data fails =>
      refine ⟨⟨?_, tails⟩, ?_⟩
      · simp only [step, server]
      · simp only [step, server]

/-- A failed receive does nothing exactly when the stale id is harmless. -/
theorem step_error_iff (family : Family) (s : Serve) (now : Int) :
    (s.step (ServerEvent.receive (Receipt.error : Receipt family) now)).1.server.clients =
          s.server.clients ∧
        replies (s.step (ServerEvent.receive (Receipt.error : Receipt family) now)).2 = [] ↔
      s.HarmlessStale := by
  have long : ¬ sizeT socketError < sizeofMmpMsgId := by
    rw [sizeT_socketError]
    decide
  unfold HarmlessStale
  rw [step, iterate]
  rcases s.dispatch_cases socketError now with
    ⟨same, short | ⟨noDiscover, noConnect⟩⟩ | ⟨-, discover, same⟩ | ⟨-, connect, same⟩
  · exact (long short).elim
  · rw [same]
    exact ⟨fun _ => ⟨noDiscover, fun connect => (noConnect connect).elim⟩,
      fun _ => ⟨rfl, rfl⟩⟩
  · rw [same]
    constructor
    · intro nothing
      cases nothing.2
    · intro harmless
      exact (harmless.1 discover).elim
  · have known : (s.server.register s.peer now).clients = s.server.clients ↔
        s.server.clients.HasAddress s.peer := by
      unfold Server.register
      rw [OrderedSet.emplace_eq_self_iff, ClientSet.contains_iff]
      rfl
    rw [same, known]
    constructor
    · intro nothing
      exact ⟨by rw [connect]; decide, fun _ => nothing.1⟩
    · intro harmless
      exact ⟨harmless.2 connect, rfl⟩

/-- A short datagram, and a failed receive over a harmless stale id, emit
nothing and change nothing that counts. -/
theorem step_agrees_of_not_wellReceived {s t : Serve} {event : ServerEvent family}
    (ignored : wellReceived event = false) (harmless : s.FailsHarmlessly event)
    (agrees : Agrees family s t) :
    Agrees family (s.step event).1 t ∧ (s.step event).2 = [] := by
  rcases agrees with ⟨server, tails⟩
  cases event with
  | takeNumber => cases ignored
  | broadcast data fails => cases ignored
  | receive receipt now =>
      cases receipt with
      | received data peer =>
          have short : sizeT data.bytes.length < sizeofMmpMsgId := by
            rw [sizeT_length]
            simpa [wellReceived] using ignored
          rw [step, iterate, dispatch, if_pos short]
          exact ⟨⟨server, (SockaddrStorage.tail_overwrite s.peer peer).trans tails⟩, rfl⟩
      | error =>
          obtain ⟨noDiscover, known⟩ := harmless now rfl
          rw [step, iterate]
          rcases s.dispatch_cases socketError now with
            ⟨same, -⟩ | ⟨-, discover, same⟩ | ⟨-, connect, same⟩
          · rw [same]
            exact ⟨⟨server, tails⟩, rfl⟩
          · exact (noDiscover discover).elim
          · rw [same]
            have present : s.server.clients.Contains (Client.new s.peer now) :=
              ClientSet.contains_iff.mpr (known connect)
            refine ⟨⟨?_, tails⟩, rfl⟩
            rw [← server, Server.register, OrderedSet.emplace_eq_self_iff.mpr present]

/-! ## Runs -/

theorem outcome_concat (s : Serve) (events : List (ServerEvent family))
    (event : ServerEvent family) :
    outcome s (events ++ [event]) =
      (((Mealy.run step s events).1.step event).1.server.clients,
        (outcome s events).2 ++ replies ((Mealy.run step s events).1.step event).2) := by
  simp [outcome, Mealy.run_append, replies]

/-- Failed and short receives have no effect on client set and replies exactly
when every failed receive of the run finds a harmless stale id. -/
theorem failuresInvisible_iff (s : Serve) (events : List (ServerEvent family)) :
    FailuresInvisible s events ↔ ∀ m ∈ Mealy.trail step s events, m.1.FailsHarmlessly m.2 := by
  constructor
  · intro invisible t member now failed
    rcases t with ⟨state, event⟩
    dsimp only at failed ⊢
    obtain ⟨earlier, later, split, reached⟩ := Mealy.mem_trail_iff.mp member
    dsimp only at split reached
    subst failed
    have before := invisible earlier ⟨_, split.symm⟩
    have after := invisible (earlier ++ [.receive .error now]) ⟨later, by simp [split]⟩
    rw [List.filter_append, List.filter_cons_of_neg (by simp [wellReceived]), List.filter_nil,
      List.append_nil, ← before, outcome_concat, ← reached, outcome, ← reached] at after
    obtain ⟨clients, silent⟩ := Prod.mk.inj after
    exact (step_error_iff family state now).mp ⟨clients, List.append_right_eq_self.mp silent⟩
  · intro harmless earlier initial
    rcases initial with ⟨later, rfl⟩
    have mute : ∀ m ∈ Mealy.trail step s earlier, wellReceived m.2 = false →
        m.1.FailsHarmlessly m.2 := by
      intro m member _
      obtain ⟨first, rest, split, reached⟩ := Mealy.mem_trail_iff.mp member
      exact harmless m (Mealy.mem_trail_iff.mpr ⟨first, rest ++ later, by simp [split], reached⟩)
    obtain ⟨⟨server, -⟩, effects⟩ := Mealy.run_skip step (R := Agrees family) wellReceived
      (fun _ _ _ counts agrees => step_agrees_of_wellReceived counts agrees)
      (fun _ _ _ ignored harmless agrees => step_agrees_of_not_wellReceived ignored harmless agrees)
      ⟨rfl, rfl⟩ mute
    simp only [outcome, server, effects]

/-- A client connects, a broadcast to it fails, and the next `recvfrom` fails:
the client is registered again. -/
theorem not_failuresInvisible_of_dead_client :
    ¬ FailuresInvisible
      (Serve.enter nullptr (fun _ => 0) SockaddrStorage.zero)
      [.receive
          (.received ⟨MmpMsgConnect.toBytes {}, by decide⟩
            (⟨[2, 0, 0x30, 0x39, 127, 0, 0, 1, 0, 0, 0, 0, 0, 0, 0, 0], rfl, rfl⟩ :
              PeerAddress .inet)) 0,
        .broadcast [] (fun _ => true), .receive .error 1] := by
  intro invisible
  have same := congrArg (fun result => result.1.toList.length) (invisible _ (List.prefix_refl _))
  revert same
  decide

end Serve

end MagicMousePad
