import MagicMousePad.Interleaving
import MagicMousePad.Lib.Simulation

/-!
# The two threads as one

Whatever the two threads of the server do at the same time, they might have done one
after the other.  `Sequential` is the server for a single thread, in which a broadcast
visits all clients at once and a registration has no intermediate state.  Only
the number of a message is taken by itself, since an announcement may come between the
number and the broadcast.

A transcript keeps what is really sent, one `sendto` after another.  The operations of
the sequential server are in the order of the critical sections, with a broadcast at
its end and an announcement, which takes no lock, where it is made.  So an announcement
may have been sent between two datagrams of one broadcast, and then comes before all of
them in the sequential run; the announcements among themselves, and the datagrams among
themselves, are in the order in which they were sent.
-/

namespace MagicMousePad

/-! ## The sequential server -/

/-- The server, and the message that has its number but is not sent yet. -/
structure Sequential where
  server : Server
  pending : Option MouseMsg

/-- What the server does at once. -/
inductive Operation
  | number (msg : MouseMsg)
  | broadcast (fails : Client → Bool)
  | register (peer : SockaddrStorage) (now : Int)
  | announce

/-- What the server sends: an announced number, or a datagram to a client. -/
inductive Sent
  | announced (number : UInt32)
  | delivered (data : List UInt8) (client : Client) (succeeded : Bool)
  deriving DecidableEq

namespace Sequential

/-- Before anything has been done. -/
def start (window : Pointer) : Sequential := ⟨Server.new window, none⟩

/-- One operation.  Without a pending message there is nothing to broadcast. -/
def perform (s : Sequential) : Operation → Sequential × List Sent
  | .number msg =>
      let taken := s.server.takeNumber
      (⟨taken.1, some (msg.withSequenceNumber (htonl taken.2))⟩, [])
  | .broadcast fails =>
      match s.pending with
      | none => (s, [])
      | some msg =>
          let swept := s.server.clients.sweep fails
          (⟨{ s.server with clients := swept.1 }, none⟩,
            swept.2.map fun visit => .delivered msg.toBytes visit.1 visit.2)
  | .register peer now => ({ s with server := s.server.register peer now }, [])
  | .announce => (s, [.announced s.server.sequenceNumber])

/-- A number and the broadcast after it are `server::send`. -/
theorem perform_send (server : Server) (msg : MouseMsg) (fails : Client → Bool) :
    (Mealy.run perform ⟨server, none⟩ [.number msg, .broadcast fails]).1 =
      ⟨(server.send msg fails).1, none⟩ := rfl

end Sequential

/-! ## What an interleaving sends -/

def Sent.isAnnounced : Sent → Bool
  | .announced _ => true
  | .delivered _ _ _ => false

/-- The announcement that an entry of the log records. -/
def LogEntry.announcement : LogEntry → Option Sent
  | .announced number => some (.announced number)
  | .registered _ => none
  | .broadcast _ => none

/-- The datagrams of the broadcast under way. -/
def WindowPc.visits : WindowPc → List Sent
  | .idle => []
  | .numbered _ => []
  | .sending msg _ _ attempts =>
      attempts.map fun attempt => .delivered msg.toBytes attempt.1 attempt.2

/-- What is sent on the way from one state to another: the announcements that are new
in the log, and the new datagrams of the broadcast under way. -/
def Process.sends (p q : Process) : List Sent :=
  (q.log.drop p.log.length).filterMap LogEntry.announcement ++
    q.window.visits.drop p.window.visits.length

/-- A process, and everything that it has sent. -/
structure Transcript where
  process : Process
  sent : List Sent

namespace Transcript

/-- Nothing has been sent before either thread has done anything. -/
def start (window : Pointer) : Transcript := ⟨Process.start window, []⟩

/-- A step of either thread, with what it sends. -/
inductive Step : Transcript → Transcript → Prop
  | take {c : Transcript} {q : Process} (step : c.process.Step q) :
    Step c ⟨q, c.sent ++ c.process.sends q⟩

/-- The transcripts of the interleavings of the two threads. -/
def Reachable (window : Pointer) (c : Transcript) : Prop :=
  Relation.ReflTransGen Step (start window) c

/-- Every interleaving has a transcript. -/
theorem exists_of_reachable {window : Pointer} {p : Process} (reachable : p.Reachable window) :
    ∃ sent, Reachable window ⟨p, sent⟩ := by
  induction reachable with
  | refl => exact ⟨[], .refl⟩
  | tail _ step ih =>
      obtain ⟨sent, steps⟩ := ih
      exact ⟨_, steps.tail (.take step)⟩

end Transcript

/-- The process without the visits of a broadcast under way. -/
def Process.sequential (p : Process) : Sequential :=
  ⟨{ p.server with clients := clientsAfter p.log }, p.window.pending⟩

/-- Outside a broadcast nothing is left out. -/
theorem Process.Inv.sequential_eq {p : Process} (inv : p.Inv) (quiet : ¬ p.window.Sending) :
    p.sequential = ⟨p.server, p.window.pending⟩ := by
  rw [sequential, ← inv.settled quiet]

/-- The operations explain a transcript.  The sequential server ends where the process
is, has announced the same numbers, and has sent the same datagrams but for those of
the broadcast under way. -/
structure Linearizes (window : Pointer) (operations : List Operation) (c : Transcript) : Prop where
  state : (Mealy.run Sequential.perform (.start window) operations).1 = c.process.sequential
  quiet : ¬ c.process.window.Sending →
    (Mealy.run Sequential.perform (.start window) operations).1 =
      ⟨c.process.server, c.process.window.pending⟩
  announced : c.sent.filter Sent.isAnnounced =
    (Mealy.run Sequential.perform (.start window) operations).2.flatten.filter Sent.isAnnounced
  delivered : c.sent.filter (!·.isAnnounced) =
    (Mealy.run Sequential.perform (.start window) operations).2.flatten.filter (!·.isAnnounced) ++
      c.process.window.visits

namespace Transcript

/-- The process is where the sequential server is, and has sent the same, a broadcast
under way apart. -/
structure Matches (c : Transcript) (s : Sequential) (sent : List Sent) : Prop where
  inv : c.process.Inv
  state : c.process.sequential = s
  announced : c.sent.filter Sent.isAnnounced = sent.filter Sent.isAnnounced
  delivered : c.sent.filter (!·.isAnnounced) =
    sent.filter (!·.isAnnounced) ++ c.process.window.visits

variable {c : Transcript} {q : Process} {s : Sequential} {sent : List Sent}

/-- The sequential server follows a step with operations that announce what the step
announces, and deliver what it adds to the broadcast under way or takes from it. -/
theorem Matches.advance (matched : c.Matches s sent) (inv : q.Inv) (operations : List Operation)
    {out : List Sent}
    (state : q.sequential = (Mealy.run Sequential.perform c.process.sequential operations).1)
    (output : (Mealy.run Sequential.perform c.process.sequential operations).2.flatten = out)
    (announced : (c.process.sends q).filter Sent.isAnnounced = out.filter Sent.isAnnounced)
    (delivered : c.process.window.visits ++ (c.process.sends q).filter (!·.isAnnounced) =
      out.filter (!·.isAnnounced) ++ q.window.visits) :
    ∃ operations, Matches ⟨q, c.sent ++ c.process.sends q⟩
      (Mealy.run Sequential.perform s operations).1
      (sent ++ (Mealy.run Sequential.perform s operations).2.flatten) := by
  rw [matched.state] at state output
  refine ⟨operations, inv, state, ?_, ?_⟩
  · rw [output, List.filter_append, List.filter_append, matched.announced, announced]
  · rw [output, List.filter_append, List.filter_append, matched.delivered, List.append_assoc,
      delivered, List.append_assoc]

end Transcript

/-- Among distinct clients, an attempt has succeeded unless the broadcast failed on its
client. -/
theorem Broadcast.attempt_eq {b : Broadcast} (distinct : (b.attempts.map Prod.fst).Nodup)
    {attempt : Client × Bool} (member : attempt ∈ b.attempts) :
    (attempt.1, !b.failedOn attempt.1) = attempt := by
  rcases attempt with ⟨client, succeeded⟩
  cases succeeded with
  | false => simp [Broadcast.failedOn, member]
  | true =>
      have absent : (client, false) ∉ b.attempts := by
        intro other
        have same := List.inj_on_of_nodup_map distinct member other rfl
        cases same
      simp [Broadcast.failedOn, absent]

/-- A complete broadcast is a sweep that fails where the broadcast did. -/
theorem Broadcast.Complete.sweep_visits {earlier : List LogEntry} {b : Broadcast}
    (complete : b.Complete earlier) :
    ((clientsAfter earlier).sweep b.failedOn).2 = b.attempts := by
  have visited := complete.visited.trans complete.snapshot
  have distinct : (b.attempts.map Prod.fst).Nodup := by
    rw [visited]
    exact (clientsAfter earlier).nodup
  rw [OrderedSet.sweep_visits, ← visited, List.map_map]
  calc b.attempts.map ((fun client => (client, !b.failedOn client)) ∘ Prod.fst)
      = b.attempts.map id := List.map_congr_left fun attempt member =>
          Broadcast.attempt_eq distinct member
    _ = b.attempts := List.map_id b.attempts

/-- The visits of a broadcast are datagrams. -/
theorem WindowPc.filter_visits (window : WindowPc) :
    window.visits.filter Sent.isAnnounced = [] ∧
      window.visits.filter (!·.isAnnounced) = window.visits := by
  cases window with
  | idle => exact ⟨rfl, rfl⟩
  | numbered msg => exact ⟨rfl, rfl⟩
  | sending msg snapshot it attempts => simp [visits, List.filter_map, Function.comp_def,
      Sent.isAnnounced]

namespace Transcript

variable {c d : Transcript} {s : Sequential} {sent : List Sent}

/-- The sequential server follows every step of either thread. -/
theorem Matches.step (matched : c.Matches s sent) (step : c.Step d) :
    ∃ operations, d.Matches (Mealy.run Sequential.perform s operations).1
      (sent ++ (Mealy.run Sequential.perform s operations).2.flatten) := by
  rcases step with ⟨step⟩
  have inv := matched.inv
  have next := inv.step step
  have start : ∀ window, c.process.window = window →
      c.process.sequential = ⟨{ c.process.server with clients := clientsAfter c.process.log },
        window.pending⟩ := by
    intro window here
    rw [Process.sequential, here]
  cases step with
  | number msg idle =>
      refine matched.advance next [.number msg] ?_ rfl ?_ ?_
      · rw [start _ idle]
        rfl
      · simp [Process.sends, WindowPc.visits, Sequential.perform]
      · simp [Process.sends, idle, WindowPc.visits, Sequential.perform]
  | lock numbered free =>
      refine matched.advance next [] ?_ rfl ?_ ?_
      · rw [start _ numbered]
        rfl
      · simp [Process.sends, WindowPc.visits]
      · simp [Process.sends, numbered, WindowPc.visits]
  | sent sending visited =>
      refine matched.advance next [] ?_ rfl ?_ ?_
      · rw [start _ sending]
        rfl
      · simp [Process.sends, sending, WindowPc.visits, Sent.isAnnounced]
      · simp [Process.sends, sending, WindowPc.visits, Sent.isAnnounced]
  | failed sending visited =>
      refine matched.advance next [] ?_ rfl ?_ ?_
      · rw [start _ sending]
        rfl
      · simp [Process.sends, sending, WindowPc.visits, Sent.isAnnounced]
      · simp [Process.sends, sending, WindowPc.visits, Sent.isAnnounced]
  | @unlock msg snapshot it attempts sending atEnd =>
      have complete := (inv.sweeping _ _ _ _ sending).complete atEnd (inv.number_of sending rfl)
      have silent : c.process.sends
          { c.process with
            owner := none
            window := .idle
            log := c.process.log ++
              [.broadcast ⟨msg, snapshot, attempts, c.process.server.clients.toList⟩] } = [] := by
        simp [Process.sends, WindowPc.visits, LogEntry.announcement]
      have out : ((c.process.sequential).perform (.broadcast (Broadcast.failedOn
          ⟨msg, snapshot, attempts, c.process.server.clients.toList⟩))).2 =
          c.process.window.visits := by
        rw [start _ sending, sending]
        simp only [Sequential.perform, WindowPc.pending, complete.sweep_visits, WindowPc.visits]
      obtain ⟨unannounced, kept⟩ := c.process.window.filter_visits
      refine matched.advance next [.broadcast (Broadcast.failedOn ⟨msg, snapshot, attempts,
        c.process.server.clients.toList⟩)] ?_ (List.append_nil _) ?_ ?_
      · rw [start _ sending, Process.sequential, clientsAfter_concat]
        rfl
      · rw [silent, out, unannounced]
        rfl
      · rw [silent, out, kept]
        rfl
  | announce polling =>
      refine matched.advance next [.announce] ?_ rfl ?_ ?_
      · simp [Process.sequential, Sequential.perform, LogEntry.apply]
      · simp [Process.sends, LogEntry.announcement, Sequential.perform, Process.sequential]
      · simp [Process.sends, LogEntry.announcement, Sequential.perform, Sent.isAnnounced]
  | connect peer now polling =>
      refine matched.advance next [] rfl rfl ?_ ?_
      · simp [Process.sends]
      · simp [Process.sends]
  | @register peer now connecting free =>
      refine matched.advance next [.register peer now] ?_ rfl ?_ ?_
      · simp [Process.sequential, Sequential.perform, Server.register, LogEntry.apply]
      · simp [Process.sends, LogEntry.announcement, Sequential.perform]
      · simp [Process.sends, LogEntry.announcement, Sequential.perform]
  | notified notifying returned =>
      refine matched.advance next [] rfl rfl ?_ ?_
      · simp [Process.sends]
      · simp [Process.sends]

/-- What matches the run of some operations is explained by them. -/
theorem Matches.linearizes {window : Pointer} {operations : List Operation}
    (matched : c.Matches (Mealy.run Sequential.perform (.start window) operations).1
      (Mealy.run Sequential.perform (.start window) operations).2.flatten) :
    Linearizes window operations c where
  state := matched.state.symm
  quiet := fun quiet => matched.state.symm.trans (matched.inv.sequential_eq quiet)
  announced := matched.announced
  delivered := matched.delivered

end Transcript

end MagicMousePad
