import MagicMousePad.Reception

/-!
# The running flag

The life of a client object: calls of `start`, the receiver thread, and the
destructor.  `start` sets the flag before its steps and no step that fails resets
it, nor does the receiver thread when it leaves, so the flag tells the truth as long
as nothing fails.
-/

namespace MagicMousePad

open ByteOrder

/-! ## The life of a client -/

/-- Where the receiver thread is. -/
inductive ReceiverPc
  | notLaunched
  | starting
  | looping (buffer : Memory)
  | left

/-- A client object and its thread. -/
structure ClientProcess where
  client : MmpClient
  receiver : ReceiverPc
  destroyed : Bool

/-- What happens to a client object, with what fails in it. -/
inductive ClientEvent
  | start (failing : Option StartStep)
  | startUp (started : Bool)
  | receive (outcome : RecvOutcome)
  | destroy

namespace ClientProcess

/-- A new client object. -/
def new (config : MmpConfiguration) : ClientProcess where
  client := .new config
  receiver := .notLaunched
  destroyed := false

/-- One event. -/
inductive Step : ClientProcess → ClientEvent → ClientProcess → Prop
  /-- A call of `start`; no step fails in one that is rejected. -/
  | start {o : ClientProcess} (failing : Option StartStep) :
    o.destroyed = false → (o.client.running = true → failing = none) →
    Step o (.start failing)
      { o with
        client := (o.client.start failing).1
        receiver := if (o.client.start failing).2 then .starting else o.receiver }
  /-- The receiver thread initialises Winsock. -/
  | startUp {o : ClientProcess} (started : Bool) :
    o.receiver = .starting →
    Step o (.startUp started)
      { o with receiver := if started then .looping fun _ => 0 else .left }
  /-- One iteration of the receive loop. -/
  | receive {o : ClientProcess} {buffer : Memory} (outcome : RecvOutcome) :
    o.receiver = .looping buffer →
    Step o (.receive outcome)
      (let r := (Receiver.step ⟨o.client, buffer, false⟩ outcome).1
      { o with
        client := r.client
        receiver := if r.left then .left else .looping r.buffer })
  /-- The destructor stops the receiver thread. -/
  | destroy {o : ClientProcess} :
    o.destroyed = false →
    Step o .destroy { o with client.running := false, destroyed := true }

/-- A run, with the process after each event. -/
inductive Runs : ClientProcess → List (ClientEvent × ClientProcess) → Prop
  | nil {o : ClientProcess} : Runs o []
  | cons {o o' : ClientProcess} {event : ClientEvent} {later : List (ClientEvent × ClientProcess)} :
    Step o event o' → Runs o' later → Runs o ((event, o') :: later)

/-- The receiver thread is launched and has not left. -/
def Receives (o : ClientProcess) : Prop :=
  o.receiver = .starting ∨ ∃ buffer, o.receiver = .looping buffer

/-- The flag is only set while the receiver thread is there. -/
def Truthful (o : ClientProcess) : Prop := o.client.running = true → o.Receives

end ClientProcess

namespace ClientEvent

/-- A call of `start`, the start-up of the thread, or a call of `recvfrom` fails. -/
def Fails : ClientEvent → Prop
  | .start failing => failing ≠ none
  | .startUp started => started = false
  | .receive outcome => outcome = .failed
  | .destroy => False

/-- The client survives the event. -/
def survived : ClientEvent → Bool
  | .destroy => false
  | _ => true

end ClientEvent

namespace ClientProcess

/-- The flag tells the truth all along, and after a call of `start` in which a step
has failed another one is not rejected. -/
structure TellsTruth (o : ClientProcess) (run : List (ClientEvent × ClientProcess)) : Prop where
  truthful : ∀ o' ∈ o :: run.map Prod.snd, o'.Truthful
  repeatable : ∀ after ∈ run, ∀ step, after.1 = .start (some step) →
    (after.2.client.start none).2 = true

/-! ## One event -/

/-- The flag is set exactly while the receiver thread is there. -/
structure Inv (o : ClientProcess) : Prop where
  alive : o.destroyed = false
  running : o.client.running = true → o.Receives
  idle : o.client.running = false → o.receiver = .notLaunched

/-- The destructor has reset the flag. -/
structure Stopped (o : ClientProcess) : Prop where
  destroyed : o.destroyed = true
  running : o.client.running = false

variable {o o' : ClientProcess} {event : ClientEvent}

theorem Inv.new (config : MmpConfiguration) : (new config).Inv where
  alive := rfl
  running running := Bool.noConfusion running
  idle _ := rfl

/-- A call of `start` in which a step fails has set the flag. -/
theorem start_some {client : MmpClient} (idle : client.running = false) (step : StartStep) :
    (client.start (some step)).1.running = true ∧ (client.start (some step)).2 = false := by
  obtain ⟨address, coerced⟩ := MmpClient.coerceFamily_eq { client with running := true }
  cases step <;> simp [MmpClient.start, idle, coerced]

/-- A running client is not started again. -/
theorem start_of_running {client : MmpClient} (running : client.running = true)
    (failing : Option StartStep) : client.start failing = (client, false) := by
  simp [MmpClient.start, running]

theorem Inv.running_of_receives (inv : o.Inv) (receives : o.Receives) :
    o.client.running = true := by
  by_contra stopped
  have absent := inv.idle (eq_false_of_ne_true stopped)
  simp [Receives, absent] at receives

/-- An event in which nothing fails keeps the flag and the thread together. -/
theorem Inv.step (inv : o.Inv) (step : Step o event o') (succeeds : ¬ event.Fails)
    (survived : event.survived = true) : o'.Inv := by
  cases step with
  | start failing alive possible =>
      have successful : failing = none := not_not.mp succeeds
      subst successful
      cases running : o.client.running with
      | true =>
          rw [start_of_running running]
          exact ⟨alive, inv.running, inv.idle⟩
      | false =>
          obtain ⟨address, started⟩ := MmpClient.start_none running
          rw [started]
          exact ⟨alive, fun _ => Or.inl rfl, fun idle => Bool.noConfusion idle⟩
  | startUp started starting =>
      have successful : started = true := eq_true_of_ne_false succeeds
      subst successful
      have running := inv.running_of_receives (Or.inl starting)
      exact ⟨inv.alive, fun _ => Or.inr ⟨_, rfl⟩, fun idle =>
        absurd (running.symm.trans idle) (by simp)⟩
  | @receive buffer outcome looping =>
      have running := inv.running_of_receives (Or.inr ⟨buffer, looping⟩)
      cases outcome with
      | failed => exact absurd rfl succeeds
      | received data screen =>
          have live : Receiver.Live ⟨o.client, buffer, false⟩ := ⟨rfl, running⟩
          obtain ⟨inLoop, running'⟩ := live.received data screen
          refine ⟨inv.alive, fun _ => Or.inr ⟨_, if_neg ?_⟩, fun idle => ?_⟩
          · exact ne_true_of_eq_false inLoop
          · exact absurd (running'.symm.trans idle) (by simp)
  | destroy _ => cases survived

/-- After an event in which something fails the flag is set and no thread is there. -/
theorem Inv.not_truthful (inv : o.Inv) (step : Step o event o') (fails : event.Fails) :
    ¬ o'.Truthful := by
  intro truthful
  cases step with
  | start failing alive possible =>
      obtain ⟨step, rfl⟩ := Option.ne_none_iff_exists'.mp fails
      cases running : o.client.running with
      | true => exact absurd (possible running) (by simp)
      | false =>
          obtain ⟨set, rejected⟩ := start_some running step
          have receives := truthful set
          simp [Receives, rejected, inv.idle running] at receives
  | startUp started starting =>
      have failed : started = false := fails
      subst failed
      have receives := truthful (inv.running_of_receives (Or.inl starting))
      simp [Receives] at receives
  | @receive buffer outcome looping =>
      have failed : outcome = .failed := fails
      subst failed
      have running := inv.running_of_receives (Or.inr ⟨buffer, looping⟩)
      have left : (Receiver.step ⟨o.client, buffer, false⟩ .failed).1 =
          ⟨o.client, buffer, true⟩ := by
        simp [Receiver.step, running]
      simp [Truthful, Receives, left, running] at truthful
  | destroy _ => exact fails

/-- After the destructor `start` is not called, and the flag stays reset. -/
theorem Stopped.step (stopped : o.Stopped) (step : Step o event o') :
    o'.Stopped ∧ ∀ failing, event ≠ .start failing := by
  cases step with
  | start failing alive possible => exact absurd alive (by simp [stopped.destroyed])
  | startUp started starting => exact ⟨⟨stopped.destroyed, stopped.running⟩, by simp⟩
  | @receive buffer outcome looping =>
      have left : (Receiver.step ⟨o.client, buffer, false⟩ outcome).1 =
          ⟨o.client, buffer, true⟩ := by
        simp [Receiver.step, stopped.running]
      exact ⟨⟨stopped.destroyed, by simp [left, stopped.running]⟩, by simp⟩
  | destroy alive => exact absurd alive (by simp [stopped.destroyed])

/-! ## Runs -/

section Runs

variable {later run : List (ClientEvent × ClientProcess)}

theorem tellsTruth_cons : TellsTruth o ((event, o') :: later) ↔
    o.Truthful ∧ (∀ step, event = .start (some step) → (o'.client.start none).2 = true) ∧
      TellsTruth o' later := by
  constructor
  · intro tells
    obtain ⟨here, truthful⟩ := List.forall_mem_cons.mp tells.truthful
    obtain ⟨again, repeatable⟩ := List.forall_mem_cons.mp tells.repeatable
    exact ⟨here, again, truthful, repeatable⟩
  · intro tells
    rcases tells with ⟨here, again, truthful, repeatable⟩
    exact ⟨List.forall_mem_cons.mpr ⟨here, truthful⟩, List.forall_mem_cons.mpr ⟨again, repeatable⟩⟩

theorem Stopped.tellsTruth (stopped : o.Stopped) (runs : Runs o run) : TellsTruth o run := by
  have truthful : ∀ {o : ClientProcess}, o.Stopped → o.Truthful := fun stopped running =>
    absurd running (by simp [stopped.running])
  induction runs with
  | nil => exact ⟨by simpa using truthful stopped, by simp⟩
  | cons step runs ih =>
      obtain ⟨stopped', other⟩ := stopped.step step
      exact tellsTruth_cons.mpr ⟨truthful stopped, fun failing same => absurd same (other _),
        ih stopped'⟩

/-- From a state in which the flag tells the truth it keeps telling it if and only if
nothing fails before the destructor. -/
theorem Inv.tells_iff (inv : o.Inv) (runs : Runs o run) :
    TellsTruth o run ↔ ∀ after ∈ run.takeWhile (·.1.survived), ¬ after.1.Fails := by
  induction runs with
  | @nil o =>
      have truthful : o.Truthful := inv.running
      exact iff_of_true ⟨by simpa using truthful, by simp⟩ (by simp)
  | @cons o o' event later step runs ih =>
      cases survived : event.survived with
      | false =>
          cases step with
          | destroy alive =>
              have stopped : Stopped { o with client.running := false, destroyed := true } :=
                ⟨rfl, rfl⟩
              refine iff_of_true (tellsTruth_cons.mpr
                ⟨inv.running, by simp, stopped.tellsTruth runs⟩) fun after among => ?_
              simp only [List.takeWhile_cons, survived, Bool.false_eq_true, if_false,
                List.not_mem_nil] at among
          | _ => cases survived
      | true =>
          simp only [List.takeWhile_cons, survived, if_true, List.forall_mem_cons, tellsTruth_cons]
          by_cases fails : event.Fails
          · refine iff_of_false ?_ (fun all => all.1 fails)
            intro tells
            exact inv.not_truthful step fails (tells.2.2.truthful _ List.mem_cons_self)
          · have again : ∀ step, event = .start (some step) → (o'.client.start none).2 = true := by
              rintro step rfl
              exact absurd (by simp [ClientEvent.Fails]) fails
            rw [ih (inv.step step fails survived)]
            exact ⟨fun tells => ⟨fails, tells.2.2⟩, fun all => ⟨inv.running, again, all.2⟩⟩

end Runs

/-- In a run of a client the flag tells the truth if and only if no call of `start`,
no start-up of the thread and no call of `recvfrom` fails before the destructor. -/
theorem tellsTruth_iff (config : MmpConfiguration) {run : List (ClientEvent × ClientProcess)}
    (runs : Runs (new config) run) :
    TellsTruth (new config) run ↔ ∀ after ∈ run.takeWhile (·.1.survived), ¬ after.1.Fails :=
  (Inv.new config).tells_iff runs

/-- A client is started, receives a datagram and is destroyed; then `recvfrom` fails. -/
theorem tellsTruth_of_destroyed :
    let started : ClientProcess :=
      ⟨((MmpClient.new {}).start none).1, .starting, false⟩
    let looping := { started with receiver := .looping fun _ => 0 }
    let left := { looping with
      client.running := false
      destroyed := true
      receiver := .left }
    TellsTruth (new {})
      [(.start none, started), (.startUp true, looping),
        (.destroy, { looping with client.running := false, destroyed := true }),
        (.receive .failed, left)] := by
  intro started looping left
  refine (tellsTruth_iff {} ?_).mpr ?_
  · exact .cons (.start none rfl fun _ => rfl) (.cons (.startUp true rfl)
      (.cons (.destroy rfl) (.cons (.receive .failed rfl) .nil)))
  · simp [ClientEvent.survived, ClientEvent.Fails]

/-- `WSASocket` fails in the first call of `start`: the second one is rejected. -/
theorem not_tellsTruth_of_socket :
    let failed : ClientProcess := ⟨((MmpClient.new {}).start (some .socket)).1, .notLaunched, false⟩
    let run := [(.start (some .socket), failed), (.start none, failed)]
    Runs (new {}) run ∧ ¬ TellsTruth (new {}) run := by
  intro failed run
  refine ⟨.cons (.start _ rfl fun running => Bool.noConfusion running)
    (.cons (.start none rfl fun _ => rfl) .nil), fun tells => ?_⟩
  have again := tells.repeatable _ List.mem_cons_self .socket rfl
  exact Bool.noConfusion again

end ClientProcess

end MagicMousePad
