import MagicMousePad.Buttons
import MagicMousePad.Ordering
import MagicMousePad.Tray

/-!
# The whole system

The mouse pad, the two threads of its server, a network, and desktops that receive from
it.  The network may lose, repeat, delay and reorder what the server has sent, as UDP
does, but it makes nothing up: a desktop is handed any datagram that a `sendto` to its
address has put on the wire, at any time and any number of times.

Every desktop replays a subsequence of what the pad has broadcast, in the pad's order, and
never its first message, whose number no client accepts (`System.Reachable.faithful`).
-/

namespace MagicMousePad

open ByteOrder

/-! ## The pad and its messages -/

/-- The messages that a handler hands to `server::send`. -/
def sentBy (effects : List PadEffect) : List PadMessage :=
  effects.filterMap fun
    | .send msg => some msg
    | _ => none

/-- The pad after the messages of its window. -/
def padAfter (events : List WindowMessage) : MousePad := (Mealy.run MousePad.wndProc .new events).1

/-- The messages the pad has handed to `server::send`. -/
def padMessages (events : List WindowMessage) : List PadMessage :=
  sentBy (Mealy.run MousePad.wndProc .new events).2.flatten

theorem padMessages_concat (events : List WindowMessage) (event : WindowMessage) :
    padMessages (events ++ [event]) =
      padMessages events ++ sentBy ((padAfter events).wndProc event).2 := by
  simp [padMessages, padAfter, sentBy, Mealy.run_concat]

/-- A handler sends at most one message. -/
theorem sentBy_wndProc (pad : MousePad) (event : WindowMessage) :
    sentBy (pad.wndProc event).2 = [] ∨ ∃ msg, sentBy (pad.wndProc event).2 = [msg] := by
  rcases pad.wndProc_cases event with
    ⟨b, position, -, -, sent⟩ | ⟨b, position, -, -, -, sent⟩ | ⟨press, -, -⟩
  · exact Or.inr ⟨_, by rw [sent]; rfl⟩
  · rw [sent]
    split
    · exact Or.inr ⟨_, rfl⟩
    · exact Or.inl rfl
  · cases event with
    | mouseMove lParam origin =>
        simp only [MousePad.wndProc, WindowMessage.event, MousePad.step, MousePad.onMouseMove]
        split
        · split
          · exact Or.inr ⟨_, rfl⟩
          · exact Or.inl rfl
        · split
          · exact Or.inr ⟨_, rfl⟩
          · exact Or.inl rfl
    | keyDown wParam =>
        simp only [MousePad.wndProc, WindowMessage.event, MousePad.step, MousePad.onKeyDown]
        split <;> exact Or.inl rfl
    | xButtonDown hiword lParam client =>
        simp only [WindowMessage.press] at press
        split at press
        · cases press
        · rename_i first
          split at press
          · cases press
          · rename_i second
            simp [MousePad.wndProc, WindowMessage.event, first, second, sentBy]
    | xButtonUp hiword lParam =>
        simp only [WindowMessage.press] at press
        split at press
        · cases press
        · rename_i first
          split at press
          · cases press
          · rename_i second
            simp [MousePad.wndProc, WindowMessage.event, first, second, sentBy]
    | lButtonDown lParam client => cases press
    | mButtonDown lParam client => cases press
    | rButtonDown lParam client => cases press
    | lButtonUp lParam => cases press
    | mButtonUp lParam => cases press
    | rButtonUp lParam => cases press
    | size lParam => exact Or.inl rfl
    | paint => exact Or.inl rfl
    | keyUp wParam => exact Or.inl rfl
    | other => exact Or.inl rfl

/-! ## The server and its messages -/

/-- The message on the wire is the one the handler filled in, with some number and
padding. -/
def Carries (filled : PadMessage) (msg : MouseMsg) : Prop :=
  ∃ padding number, msg = (filled.toMouseMsg padding).withSequenceNumber number

namespace Process

/-- The messages that have a number, in their order. -/
def messages (p : Process) : List MouseMsg :=
  (broadcasts p.log).map Broadcast.msg ++ p.window.pending.toList

/-- The attempts of a broadcast under way. -/
def underway (p : Process) : List (MouseMsg × Client × Bool) :=
  match p.window with
  | .sending msg _ _ attempts => attempts.map fun attempt => (msg, attempt)
  | _ => []

/-- A `sendto` has put the message on the wire to the address. -/
def InFlight (p : Process) (address : SockaddrStorage) (msg : MouseMsg) : Prop :=
  ∃ client : Client, client.address = address ∧
    ((∃ b ∈ broadcasts p.log, b.msg = msg ∧ (client, true) ∈ b.attempts) ∨
      (msg, client, true) ∈ p.underway)

/-- The process with a message that has just got its number. -/
def take (p : Process) (msg : MouseMsg) : Process :=
  { p with
    server := p.server.takeNumber.1
    window := .numbered (msg.withSequenceNumber (htonl p.server.takeNumber.2)) }

variable {p q : Process}

/-- The number of a message is its place, modulo 2^32. -/
theorem Inv.number_messages (inv : p.Inv) {k : ℕ} {msg : MouseMsg}
    (here : p.messages[k]? = some msg) : msg.number = UInt32.ofNat k := by
  have whole : LogSound ([] ++ p.log) := inv.sound
  have numbers := whole.numbers
  unfold messages at here
  rw [List.getElem?_append, List.length_map] at here
  split at here
  · rename_i inside
    have place := congrArg (fun list => list[k]?) numbers
    rw [List.getElem?_map] at here
    obtain ⟨b, found, rfl⟩ := Option.map_eq_some_iff.mp here
    rw [List.getElem?_map, List.getElem?_map, found, List.getElem?_range inside] at place
    simpa [MouseMsg.number] using place
  · rename_i beyond
    cases pending : p.window.pending with
    | none =>
        rw [pending] at here
        simp at here
    | some last =>
        rw [pending, Option.toList_some] at here
        obtain ⟨bound, rfl⟩ := List.getElem?_eq_some_iff.mp here
        rw [List.length_singleton] at bound
        have same : k = (broadcasts p.log).length := by omega
        rw [List.getElem_singleton, same]
        exact inv.number last pending

/-- What is in flight is one of the messages. -/
theorem InFlight.mem {address : SockaddrStorage} {msg : MouseMsg}
    (flying : p.InFlight address msg) : msg ∈ p.messages := by
  rcases flying with ⟨client, -, ⟨b, member, rfl, -⟩ | now⟩
  · exact List.mem_append_left _ (List.mem_map_of_mem member)
  · refine List.mem_append_right _ ?_
    unfold underway at now
    split at now
    · rename_i sending
      rw [sending]
      obtain ⟨attempt, -, same⟩ := List.mem_map.mp now
      cases same
      simp [WindowPc.pending]
    · cases now

/-- A step that starts no message leaves the messages as they are. -/
theorem messages_step (step : p.Step q) (quiet : p.window = .idle → q.window = .idle) :
    q.messages = p.messages := by
  unfold messages
  cases step with
  | number msg idle => cases quiet idle
  | lock numbered free => rw [numbered]; rfl
  | sent sending visited => rw [sending]; rfl
  | failed sending visited => rw [sending]; rfl
  | unlock sending atEnd => rw [sending]; simp [WindowPc.pending]
  | announce polling => simp
  | connect peer now polling => rfl
  | register connecting free => simp
  | notified notifying returned => rfl

/-- A message that gets its number is the last one. -/
theorem messages_take (idle : p.window = .idle) (msg : MouseMsg) :
    (p.take msg).messages =
      p.messages ++ [msg.withSequenceNumber (htonl p.server.takeNumber.2)] := by
  unfold messages take
  rw [idle]
  simp [WindowPc.pending]

end Process

/-! ## Messages on their way to the desktop -/

section Carried

variable {filled : PadMessage} {msg : MouseMsg} {client : MmpClient}

theorem Carries.wellTagged (carries : Carries filled msg) : msg.WellTagged := by
  rcases carries with ⟨padding, number, rfl⟩
  rcases filled with ⟨button, position⟩
  cases button <;> rfl

/-- The client reads the position that the handler filled in. -/
theorem Carries.position (carries : Carries filled msg) :
    ntohlInt msg.x = Int32.ofInt filled.position.x ∧
      ntohlInt msg.y = Int32.ofInt filled.position.y := by
  rcases carries with ⟨padding, number, rfl⟩
  rcases filled with ⟨button, position⟩
  cases button <;> exact ⟨ntohlInt_ntohlInt _, ntohlInt_ntohlInt _⟩

end Carried

/-- What the callbacks do to the desktop for a message, at an offset. -/
def MmpConfiguration.injected (config : MmpConfiguration) (offset : Int32 × Int32)
    (filled : PadMessage) (screen : Screen) : Option Input :=
  let p := (MmpClient.place config screen (Int32.ofInt filled.position.x + offset.1)
    (Int32.ofInt filled.position.y + offset.2)).1
  match filled.button with
  | none =>
      if config.onMouseMove = nullptr then none
      else TrayWindow.onMouseMove p.1 p.2 config.context
  | some (button, down) =>
      if config.onMouseButton = nullptr then none
      else TrayWindow.onMouseButton button down p.1 p.2 config.context

section Injected

variable {filled : PadMessage} {msg : MouseMsg} {client : MmpClient} {screen : Screen}

theorem MmpConfiguration.injected_of_null {config : MmpConfiguration}
    (carries : Carries filled msg) (absent : config.callback msg = nullptr)
    (offset : Int32 × Int32) : config.injected offset filled screen = none := by
  rcases carries with ⟨padding, number, rfl⟩
  rcases filled with ⟨button, position⟩
  cases button with
  | none =>
      have null : config.onMouseMove = nullptr := absent
      simp [injected, null]
  | some press =>
      have null : config.onMouseButton = nullptr := absent
      simp [injected, null]

theorem MmpConfiguration.injected_of_present {config : MmpConfiguration}
    (carries : Carries filled msg) (present : config.callback msg ≠ nullptr)
    (offset : Int32 × Int32) :
    config.injected offset filled screen =
      TrayWindow.inject (config.report msg
        (MmpClient.place config screen (ntohlInt msg.x + offset.1) (ntohlInt msg.y + offset.2)).1.1
        (MmpClient.place config screen (ntohlInt msg.x + offset.1)
          (ntohlInt msg.y + offset.2)).1.2) := by
  obtain ⟨x, y⟩ := carries.position
  rw [x, y]
  rcases carries with ⟨padding, number, rfl⟩
  rcases filled with ⟨button, position⟩
  cases button with
  | none => exact if_neg present
  | some press => exact if_neg present

/-- A message with a new number is stored, and injected at the offset that the client has
afterwards.  The offset changes only when the first message is reported. -/
theorem MmpClient.step_carried (carries : Carries filled msg)
    (newer : client.sequenceNumber < msg.number) (screen : Screen) :
    let result := client.step ⟨msg, screen⟩
    result.1.sequenceNumber = msg.number ∧
      result.2.call.bind TrayWindow.inject =
        client.config.injected result.1.offset filled screen ∧
      (client.updateOffset = false →
        result.1.updateOffset = false ∧ result.1.offset = client.offset) ∧
      (result.1.updateOffset = true → client.updateOffset = true ∧
        ∀ offset, client.config.injected offset filled screen = none) := by
  intro result
  rcases client.handle_cases screen msg with
    ⟨older, -⟩ | ⟨-, absent, handled⟩ | ⟨-, present, handled⟩
  · exact (older newer).elim
  · have none : ∀ offset, client.config.injected offset filled screen = none :=
      MmpConfiguration.injected_of_null carries absent
    have made : result = (client.storing msg, { accepted := true }) := handled
    rw [made]
    exact ⟨rfl, (none _).symm, fun fixed => ⟨fixed, rfl⟩, fun unfixed => ⟨unfixed, none⟩⟩
  · have made : result = _ := handled
    rw [made]
    refine ⟨rfl, ?_, fun fixed => ?_, fun unfixed => ?_⟩
    · rw [MmpConfiguration.injected_of_present carries present]
      simp only [Option.bind_some, placed, storing, config_capturing]
    · simp [storing, capturing, captureOffset, fixed]
    · simp only [storing, capturing, captureOffset] at unfixed
      split at unfixed
      · cases unfixed
      · rename_i fixed
        exact absurd unfixed fixed

end Injected

/-! ## Desktops -/

/-- A desktop: the address its socket receives at, the receiver thread, and what the
callbacks have done. -/
structure Station where
  address : SockaddrStorage
  receiver : Receiver
  inputs : List Input

namespace Station

/-- A client that has been started. -/
def launch (client : MmpClient) (address : SockaddrStorage) (buffer : Memory) : Station where
  address := address
  receiver := ⟨(client.start none).1, buffer, false⟩
  inputs := []

/-- One iteration of the receive loop, with what its callback does. -/
def receive (station : Station) (outcome : RecvOutcome) : Station :=
  let handled := station.receiver.step outcome
  { station with
    receiver := handled.1
    inputs := station.inputs ++ (handled.2.call.bind TrayWindow.inject).toList }

end Station

/-- A message that a client has accepted: its place among those of the pad, and the size
of the screen when it came. -/
structure Pick where
  index : ℕ
  filled : PadMessage
  screen : Screen

/-- The input comes from the messages that the client has picked, in the order of the pad
and without the first one. -/
structure Heard (sent : List PadMessage) (client : MmpClient) (inputs : List Input)
    (picks : List Pick) : Prop where
  placed : ∀ p ∈ picks, sent[p.index]? = some p.filled
  increasing : picks.Pairwise fun p p' => p.index < p'.index
  first : ∀ p ∈ picks, 1 ≤ p.index
  newest : ∀ p ∈ picks, p.index ≤ client.sequenceNumber.toNat
  inputs : inputs = picks.filterMap fun p => client.config.injected client.offset p.filled p.screen
  unfixed : client.updateOffset = true → ∀ offset, ∀ p ∈ picks,
    client.config.injected offset p.filled p.screen = none

namespace Heard

variable {sent : List PadMessage} {client : MmpClient} {inputs : List Input} {picks : List Pick}
  {filled : PadMessage} {msg : MouseMsg} {screen : Screen} {k : ℕ}

/-- More messages of the pad do no harm. -/
theorem mono (heard : Heard sent client inputs picks) (more : List PadMessage) :
    Heard (sent ++ more) client inputs picks := by
  refine ⟨fun p member => ?_, heard.increasing, heard.first, heard.newest, heard.inputs,
    heard.unfixed⟩
  have placed := heard.placed p member
  obtain ⟨inside, -⟩ := List.getElem?_eq_some_iff.mp placed
  rw [List.getElem?_append_left inside, placed]

/-- A message with an old number is not picked. -/
theorem ignore (heard : Heard sent client inputs picks)
    (older : ¬ client.sequenceNumber < msg.number) :
    let result := client.step ⟨msg, screen⟩
    Heard sent result.1 (inputs ++ (result.2.call.bind TrayWindow.inject).toList) picks := by
  intro result
  have same : result = (client, {}) := by
    rcases client.handle_cases screen msg with ⟨-, handled⟩ | ⟨above, -⟩ | ⟨above, -⟩
    · exact handled
    · exact (older above).elim
    · exact (older above).elim
  rw [same]
  simpa using heard

/-- A message with a new number is picked. -/
theorem pick (heard : Heard sent client inputs picks) (carries : Carries filled msg)
    (place : sent[k]? = some filled) (number : msg.number.toNat = k)
    (newer : client.sequenceNumber < msg.number) :
    let result := client.step ⟨msg, screen⟩
    Heard sent result.1 (inputs ++ (result.2.call.bind TrayWindow.inject).toList)
      (picks ++ [⟨k, filled, screen⟩]) := by
  intro result
  obtain ⟨stored, injected, fixed, unfixed⟩ :=
    MmpClient.step_carried carries newer screen
  have config : result.1.config = client.config := client.config_step ⟨msg, screen⟩
  have above : client.sequenceNumber.toNat < k := by
    rw [← number]
    exact UInt32.lt_iff_toNat_lt.mp newer
  have earlier : ∀ p ∈ picks, p.index < k :=
    fun p member => (heard.newest p member).trans_lt above
  refine ⟨?_, ?_, ?_, ?_, ?_, ?_⟩
  · rw [List.forall_mem_append, List.forall_mem_singleton]
    exact ⟨heard.placed, place⟩
  · rw [List.pairwise_append]
    refine ⟨heard.increasing, List.pairwise_singleton _ _, fun p member p' last => ?_⟩
    rw [List.mem_singleton.mp last]
    exact earlier p member
  · rw [List.forall_mem_append, List.forall_mem_singleton]
    exact ⟨heard.first, by dsimp only; omega⟩
  · rw [List.forall_mem_append, List.forall_mem_singleton, stored, number]
    exact ⟨fun p member => (earlier p member).le, le_refl k⟩
  · have before : inputs = picks.filterMap fun p =>
        client.config.injected result.1.offset p.filled p.screen := by
      cases update : client.updateOffset with
      | true =>
          -- The offset may change, but nothing has been injected yet.
          have none := heard.unfixed update
          rw [heard.inputs]
          refine List.filterMap_congr fun p member => ?_
          rw [none _ p member, none _ p member]
      | false =>
          rw [(fixed update).2]
          exact heard.inputs
    rw [config, List.filterMap_append, ← before, injected, List.filterMap_cons,
      List.filterMap_nil]
    cases client.config.injected result.1.offset filled screen <;> rfl
  · intro still offset
    obtain ⟨update, none⟩ := unfixed still
    rw [List.forall_mem_append, List.forall_mem_singleton, config]
    exact ⟨heard.unfixed update offset, none offset⟩

/-- The messages picked are a subsequence of those of the pad after the first. -/
theorem sublist (heard : Heard sent client inputs picks) :
    (picks.map Pick.filled).Sublist sent.tail := by
  rw [← List.drop_one]
  exact Records.map_sublist_drop heard.placed heard.increasing heard.first

end Heard

namespace Station

variable {station : Station} {config : MmpConfiguration} {sent : List PadMessage}
  {picks : List Pick} {filled : PadMessage} {msg : MouseMsg} {k : ℕ}

/-- The client runs with its configuration, and has heard nothing but messages of the
pad. -/
structure Follows (config : MmpConfiguration) (sent : List PadMessage) (station : Station) :
    Prop where
  running : station.receiver.client.running = true
  config : station.receiver.client.config = config
  heard : ∃ picks, Heard sent station.receiver.client station.inputs picks

theorem follows_launch {client : MmpClient} (idle : client.running = false)
    (address : SockaddrStorage) (buffer : Memory) :
    (launch client address buffer).Follows (client.start none).1.config [] := by
  obtain ⟨storage, started⟩ := MmpClient.start_none idle
  exact ⟨by simp [launch, started], rfl, [], by simp, .nil, by simp, by simp, rfl, by simp⟩

/-- When `recvfrom` fails nothing is injected. -/
theorem Follows.failed (follows : station.Follows config sent) :
    (station.receive .failed).Follows config sent := by
  have silent : (station.receive .failed).receiver.client = station.receiver.client ∧
      (station.receive .failed).inputs = station.inputs := by
    unfold receive Receiver.step
    split
    · simp
    · split <;> simp
  refine ⟨?_, ?_, ?_⟩
  · rw [silent.1]
    exact follows.running
  · rw [silent.1]
    exact follows.config
  · rw [silent.1, silent.2]
    exact follows.heard

/-- More messages of the pad do no harm. -/
theorem Follows.mono (follows : station.Follows config sent) (more : List PadMessage) :
    station.Follows config (sent ++ more) := by
  obtain ⟨picks, heard⟩ := follows.heard
  exact ⟨follows.running, follows.config, picks, heard.mono more⟩

/-- A datagram of the server adds at most its message to those picked. -/
theorem Follows.received (follows : station.Follows config sent) (carries : Carries filled msg)
    (place : sent[k]? = some filled) (number : msg.number = UInt32.ofNat k) (small : k < 2 ^ 32)
    (screen : Screen) : (station.receive (.received msg.datagram screen)).Follows config sent := by
  obtain ⟨picks, heard⟩ := follows.heard
  cases inLoop : station.receiver.left with
  | true =>
      -- The thread has left its loop.
      have same : station.receive (.received msg.datagram screen) = station := by
        simp [receive, Receiver.step, inLoop]
      rw [same]
      exact follows
  | false =>
      have live : station.receiver.Live := ⟨inLoop, follows.running⟩
      have step := live.step_eq (msg.whole carries.wellTagged) screen
      have client : (station.receive (.received msg.datagram screen)).receiver.client =
          (station.receiver.client.step ⟨msg, screen⟩).1 :=
        congrArg (fun r : Receiver × Reaction => r.1.client) step
      have inputs : (station.receive (.received msg.datagram screen)).inputs =
          station.inputs ++ ((station.receiver.client.step ⟨msg, screen⟩).2.call.bind
            TrayWindow.inject).toList :=
        congrArg (fun r : Receiver × Reaction =>
          station.inputs ++ (r.2.call.bind TrayWindow.inject).toList) step
      refine ⟨?_, ?_, ?_⟩
      · rw [client]
        exact (station.receiver.client.running_step _).trans follows.running
      · rw [client]
        exact (station.receiver.client.config_step _).trans follows.config
      · rw [client, inputs]
        by_cases newer : station.receiver.client.sequenceNumber < msg.number
        · have index : msg.number.toNat = k := by
            rw [number]
            exact UInt32.toNat_ofNat_of_lt' small
          exact ⟨_, heard.pick carries place index newer⟩
        · exact ⟨picks, heard.ignore newer⟩

end Station

/-! ## The system -/

/-- The pad with the messages of its window so far, the server and the desktops. -/
structure System (ι : Type*) where
  events : List WindowMessage
  process : Process
  stations : ι → Station

namespace System

variable {ι : Type*}

/-- The server has been started, and a client on every desktop. -/
def start (window : Pointer) (client : ι → MmpClient) (address : ι → SockaddrStorage)
    (buffer : Memory) : System ι where
  events := []
  process := .start window
  stations i := .launch (client i) (address i) buffer

/-- One step of the pad, the server or a desktop. -/
inductive Step [DecidableEq ι] : System ι → System ι → Prop
  /-- A handler that sends nothing. -/
  | handle {s : System ι} (event : WindowMessage) :
    s.process.window = .idle → sentBy ((padAfter s.events).wndProc event).2 = [] →
    Step s { s with events := s.events ++ [event] }
  /-- A handler calls `server::send`, which numbers its message. -/
  | send {s : System ι} (event : WindowMessage) (filled : PadMessage)
      (padding : UInt8 × UInt8) :
    s.process.window = .idle → sentBy ((padAfter s.events).wndProc event).2 = [filled] →
    Step s { s with
      events := s.events ++ [event]
      process := s.process.take (filled.toMouseMsg padding) }
  /-- Either thread of the server goes on. -/
  | thread {s : System ι} {process : Process} :
    s.process.Step process → (s.process.window = .idle → process.window = .idle) →
    Step s { s with process := process }
  /-- The network hands over a datagram that has been sent to the desktop. -/
  | deliver {s : System ι} (i : ι) (msg : MouseMsg) (screen : Screen) :
    s.process.InFlight (s.stations i).address msg →
    Step s { s with
      stations := Function.update s.stations i
        ((s.stations i).receive (.received msg.datagram screen)) }
  /-- `recvfrom` fails. -/
  | fail {s : System ι} (i : ι) :
    Step s { s with stations := Function.update s.stations i ((s.stations i).receive .failed) }

/-- The states of the system in any run. -/
def Reachable [DecidableEq ι] (initial s : System ι) : Prop := Relation.ReflTransGen Step initial s

/-- Whatever message comes to an idle window, its handler is one step. -/
theorem exists_step [DecidableEq ι] (s : System ι) (event : WindowMessage)
    (idle : s.process.window = .idle) : ∃ t, s.Step t ∧ t.events = s.events ++ [event] := by
  rcases sentBy_wndProc (padAfter s.events) event with silent | ⟨filled, sent⟩
  · exact ⟨_, .handle event idle silent, rfl⟩
  · exact ⟨_, .send event filled (0, 0) idle sent, rfl⟩

/-- The messages of the server are those of the pad, by their number and in their order, and
no desktop has heard anything else. -/
structure Inv (client : ι → MmpClient) (s : System ι) : Prop where
  process : s.process.Inv
  carried : List.Forall₂ Carries (padMessages s.events) s.process.messages
  follows : (padMessages s.events).length ≤ 2 ^ 32 →
    ∀ i, (s.stations i).Follows ((client i).start none).1.config (padMessages s.events)

section Invariant

variable {window : Pointer} {client : ι → MmpClient} {s t : System ι}

theorem inv_start (idle : ∀ i, (client i).running = false) (address : ι → SockaddrStorage)
    (buffer : Memory) : (start window client address buffer).Inv client where
  process := .start window
  carried := .nil
  follows _ i := Station.follows_launch (idle i) (address i) buffer

/-- What is in flight is a message of the pad, under its number. -/
theorem Inv.exists_place (inv : s.Inv client) {address : SockaddrStorage} {msg : MouseMsg}
    (flying : s.process.InFlight address msg) :
    ∃ k filled, (padMessages s.events)[k]? = some filled ∧ Carries filled msg ∧
      msg.number = UInt32.ofNat k := by
  obtain ⟨k, here⟩ := List.mem_iff_getElem?.mp flying.mem
  obtain ⟨bound, -⟩ := List.getElem?_eq_some_iff.mp here
  have inside : k < (padMessages s.events).length := by
    rw [inv.carried.length_eq]
    exact bound
  have carries := inv.carried.get inside bound
  rw [List.get_eq_getElem, List.get_eq_getElem] at carries
  refine ⟨k, _, List.getElem?_eq_getElem inside, ?_, inv.process.number_messages here⟩
  rwa [(List.getElem?_eq_some_iff.mp here).2] at carries

variable [DecidableEq ι]

/-- A desktop that follows may change, and the others stay as they are. -/
theorem Inv.update (inv : s.Inv client) (i : ι) (station : Station)
    (follows : (padMessages s.events).length ≤ 2 ^ 32 →
      station.Follows ((client i).start none).1.config (padMessages s.events)) :
    Inv client { s with stations := Function.update s.stations i station } := by
  refine ⟨inv.process, inv.carried, fun few j => ?_⟩
  by_cases same : j = i
  · subst same
    simpa using follows few
  · simpa [Function.update_of_ne same] using inv.follows few j

theorem Inv.step (inv : s.Inv client) (step : s.Step t) : t.Inv client := by
  cases step with
  | handle event idle silent =>
      have same : padMessages (s.events ++ [event]) = padMessages s.events := by
        rw [padMessages_concat, silent, List.append_nil]
      refine ⟨inv.process, ?_, ?_⟩
      · rw [same]
        exact inv.carried
      · rw [same]
        exact inv.follows
  | send event filled padding idle sent =>
      have more : padMessages (s.events ++ [event]) = padMessages s.events ++ [filled] := by
        rw [padMessages_concat, sent]
      refine ⟨inv.process.step (.number _ idle), ?_, fun few i => ?_⟩
      · rw [more, Process.messages_take idle]
        exact List.rel_append inv.carried (.cons ⟨padding, _, rfl⟩ .nil)
      · rw [more] at few ⊢
        rw [List.length_append] at few
        exact (inv.follows (by omega) i).mono [filled]
  | thread step quiet =>
      refine ⟨inv.process.step step, ?_, inv.follows⟩
      rw [Process.messages_step step quiet]
      exact inv.carried
  | deliver i msg screen flying =>
      refine inv.update i _ fun few => ?_
      obtain ⟨k, filled, place, carries, number⟩ := inv.exists_place flying
      obtain ⟨inside, -⟩ := List.getElem?_eq_some_iff.mp place
      exact (inv.follows few i).received carries place number (inside.trans_le few) screen
  | fail i => exact inv.update i _ fun few => (inv.follows few i).failed

/-- As long as the pad has sent at most 2^32 messages, every desktop has replayed a
subsequence of them in the order of the pad, without the first, and moved by one offset,
whatever the network and the threads have done. -/
theorem Reachable.faithful (idle : ∀ i, (client i).running = false)
    {address : ι → SockaddrStorage} {buffer : Memory}
    (reachable : Reachable (start window client address buffer) s)
    (few : (padMessages s.events).length ≤ 2 ^ 32) (i : ι) :
    ∃ (offset : Int32 × Int32) (heard : List (PadMessage × Screen)),
      (heard.map Prod.fst).Sublist (padMessages s.events).tail ∧
        (s.stations i).inputs =
          heard.filterMap fun h => (client i).config.injected offset h.1 h.2 := by
  have inv : s.Inv client :=
    Runs.invariant (fun _ _ inv step => Inv.step inv step) (inv_start idle address buffer)
      reachable
  obtain ⟨-, config, picks, heard⟩ := inv.follows few i
  obtain ⟨storage, started⟩ := MmpClient.start_none (idle i)
  refine ⟨(s.stations i).receiver.client.offset, picks.map fun p => (p.filled, p.screen), ?_, ?_⟩
  · rw [List.map_map]
    exact heard.sublist
  · -- Starting the client changes its address only.
    rw [List.filterMap_map, heard.inputs, config, started]
    rfl

end Invariant

/-- The button is pressed and the mouse moved, and only the move arrives, twice. -/
theorem faithful_of_move :
    ∃ s : System Unit, (s.stations ()).inputs = [.cursorPos 6 5] ∧
      ∃ (offset : Int32 × Int32) (heard : List (PadMessage × Screen)),
        (heard.map Prod.fst).Sublist [⟨none, ⟨6, 5⟩⟩] ∧
          (s.stations ()).inputs = heard.filterMap fun h =>
            MmpConfiguration.injected { onMouseButton := 1, onMouseMove := 2 } offset h.1 h.2 := by
  let client : Unit → MmpClient := fun _ => .new { onMouseButton := 1, onMouseMove := 2 }
  let address : Unit → SockaddrStorage := fun _ => .ofHost 1
  let move : MouseMsg :=
    ((PadMessage.mk none ⟨6, 5⟩).toMouseMsg (0, 0)).withSequenceNumber (htonl 1)
  have run : Reachable (start nullptr client address fun _ => 0) _ :=
    Relation.ReflTransGen.refl
      |>.tail (.thread (.connect (.ofHost 1) 7 rfl) fun _ => rfl)
      |>.tail (.thread (.register rfl rfl) fun _ => rfl)
      |>.tail (.thread (.notified rfl (.inl rfl)) fun _ => rfl)
      |>.tail (.send (.lButtonDown ⟨3, 3⟩ ⟨0, 0, 90, 90⟩) ⟨some (1, true), ⟨3, 3⟩⟩ (0, 0) rfl rfl)
      |>.tail (.thread (.lock rfl rfl) nofun)
      |>.tail (.thread (.sent rfl rfl) nofun)
      |>.tail (.thread (.unlock rfl rfl) fun _ => rfl)
      |>.tail (.send (.mouseMove ⟨6, 5⟩ ⟨0, 0⟩) ⟨none, ⟨6, 5⟩⟩ (0, 0) rfl rfl)
      |>.tail (.thread (.lock rfl rfl) nofun)
      |>.tail (.thread (.sent rfl rfl) nofun)
      |>.tail (.deliver () move ⟨800, 600⟩ ⟨.new (.ofHost 1) 7, rfl, .inr (by decide)⟩)
      |>.tail (.deliver () move ⟨800, 600⟩ ⟨.new (.ofHost 1) 7, rfl, .inr (by decide)⟩)
  exact ⟨_, by decide +kernel, run.faithful (fun _ => rfl) (by decide) ()⟩

end System

end MagicMousePad
