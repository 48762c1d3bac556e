import MagicMousePad.Client
import MagicMousePad.Lib.Runs

/-!
# Discovery

`discover` up to the start of its receiver thread is a function of what the system
answers; from there on it is a machine of two threads, in which the receiver waits
for an announcement while the caller sends discovery messages until one has come
or the time is over.

The socket of the discovery is bound to the address of the client, and the result
is negated on the way to the error check, so the search begins only if `bind` has
failed.

The steps leave it open to which addresses `sendto` succeeds and what arrives.  What the
machine of the client allows of them, which does not broadcast on a socket without
`SO_BROADCAST`, is the subject of `Host`.
-/

namespace MagicMousePad

open ByteOrder

/-! ## Errors -/

def errorTimeout : Int32 := 1460
def wsaeafnosupport : Int32 := 10047

/-- `RETURN_LAST_ERROR_IF` of a call that may fail, and 0 behind it. -/
def lastErrorOf : Option Failure → Int32
  | none => 0
  | some failure => hresultFromWin32 failure.code

/-! ## Addresses -/

/-- A peer that `recvfrom` reports on the socket of the discovery: a sender has an
address. -/
structure Announcer where
  report : PeerAddress .inet
  concrete : (report.bytes.drop 4).take 4 ≠ inaddrAny

/-! ## The search -/

/-- Where the thread that called `discover` is. -/
inductive DiscoverPc
  | testing
  | sending (it : ℕ)
  | leaving
  | returned (code : Int32)
  | threw
  deriving DecidableEq

/-- The locals of `discover` and of its receiver thread, with the client; `attempts`
are the calls of `sendto` with their success. -/
structure Discovery where
  client : MmpClient
  buffer : Memory
  peer : SockaddrStorage
  receiving : Bool
  found : Bool
  addresses : List (PeerAddress .inet)
  deadline : Option Int
  attempts : List (List UInt8 × PeerAddress .inet × Bool)
  main : DiscoverPc

namespace Discovery

/-- `discover` has ended without a search. -/
def ended (client : MmpClient) (main : DiscoverPc) : Discovery where
  client := client
  buffer := fun _ => 0
  peer := .zero
  receiving := false
  found := false
  addresses := []
  deadline := none
  attempts := []
  main := main

/-- The datagram `discover` sends. -/
def message : List UInt8 := MmpMsgDiscover.toBytes {}

/-- One step of either thread. -/
inductive Step : Discovery → Discovery → Prop
  /-- The condition of the loop is evaluated, at a clock reading. -/
  | test {d : Discovery} (now : Int) :
    d.main = .testing →
    Step d { d with
      main := if (d.deadline.all fun deadline => now < deadline) && !d.found then .sending 0
        else .leaving }
  /-- `sendto` succeeds and the iterator advances. -/
  | sent {d : Discovery} {it : ℕ} {address : PeerAddress .inet} :
    d.main = .sending it → d.addresses[it]? = some address →
    Step d { d with
      attempts := d.attempts ++ [(message, address, true)]
      main := .sending (it + 1) }
  /-- `sendto` fails and the address is erased. -/
  | failed {d : Discovery} {it : ℕ} {address : PeerAddress .inet} :
    d.main = .sending it → d.addresses[it]? = some address →
    Step d { d with
      addresses := d.addresses.eraseIdx it
      attempts := d.attempts ++ [(message, address, false)]
      main := .sending it }
  /-- The iterator is at the end: the thread sleeps. -/
  | sleep {d : Discovery} {it : ℕ} :
    d.main = .sending it → d.addresses[it]? = none → d.addresses ≠ [] →
    Step d { d with main := .testing }
  /-- No address is left. -/
  | exhausted {d : Discovery} {it : ℕ} (error : Failure) :
    d.main = .sending it → d.addresses = [] →
    Step d { d with main := .returned (hresultFromWin32 error.code) }
  /-- `found` is read for the result. -/
  | leave {d : Discovery} :
    d.main = .leaving →
    Step d { d with main := .returned (if d.found then 0 else hresultFromWin32 errorTimeout) }
  /-- The receiver thread gets a datagram; it stores `found` last. -/
  | receive {d : Discovery} (data : Datagram) (peer : Announcer) :
    d.receiving = true → (∀ code, d.main ≠ .returned code) →
    Step d
      (match d.client.discoverReceive d.buffer data (d.peer.overwrite peer.report) with
      | none =>
          { d with
            buffer := d.buffer.overwrite data.bytes
            peer := d.peer.overwrite peer.report }
      | some client =>
          { d with
            client := client
            buffer := d.buffer.overwrite data.bytes
            peer := d.peer.overwrite peer.report
            receiving := false
            found := true })
  /-- `recvfrom` fails and the receiver thread leaves. -/
  | receiveFailed {d : Discovery} :
    d.receiving = true → (∀ code, d.main ≠ .returned code) →
    Step d { d with receiving := false }

end Discovery

/-! ## `discover` -/

/-- What the system answers to `discover` before the search: the broadcast
addresses for a port, the failures of `WSASocket` and of `::bind`, whether the
thread starts, the time, and the content of the uninitialised peer. -/
structure DiscoverEnv where
  bcastAddresses : UInt16 → Except Failure (List (PeerAddress .inet))
  socket : Option Failure
  bind : Option Failure
  threadStarts : Bool
  now : Int
  peer : SockaddrStorage

namespace MmpClient

/-- `mmp_client::bind` to an address, with the failure of `::bind`. -/
def bind (address : SockaddrStorage) (failure : Option Failure) : Int32 :=
  if address.ssFamily = Family.inet.value then lastErrorOf failure
  else if address.ssFamily = Family.inet6.value then lastErrorOf failure
  else hresultFromWin32 wsaeafnosupport

/-- What `discover` does about a server address that is no wildcard: an unspecified
client family gives way to the one of the server, any other has to be the same. -/
def matchFamilies (client : MmpClient) : MmpClient × Int32 :=
  let family := client.config.server.ssFamily
  if client.config.client.ssFamily = 0 then
    ({ client with config.client := SockaddrStorage.zero.withFamily family }, 0)
  else if client.config.client.ssFamily ≠ family then
    (client, hresultFromWin32 wsaeafnosupport)
  else (client, 0)

/-- The switch at the start of `discover`: its end, or the port to search at. -/
def serverPort (client : MmpClient) : (MmpClient × Int32) ⊕ UInt16 :=
  let server := client.config.server
  if server.ssFamily = Family.inet.value then
    if server.sinAddr = inaddrAny then .inr server.port else .inl client.matchFamilies
  else if server.ssFamily = Family.inet6.value then
    if server.sin6Addr = in6addrAny then .inr server.port else .inl client.matchFamilies
  else .inl (client, hresultFromWin32 wsaeafnosupport)

/-- The part of `discover` from the broadcast addresses on, up to the loop. -/
def search (client : MmpClient) (env : DiscoverEnv) (port : UInt16) : Discovery :=
  let port := if port = 0 then htons mmpDefaultPort else port
  match env.bcastAddresses port with
  | .error failure => .ended client (.returned failure.code)
  | .ok addresses =>
      match env.socket with
      | some failure => .ended client (.returned (hresultFromWin32 failure.code))
      | none =>
          let unbound := if bind client.config.client env.bind = 0 then 1 else 0
          if unbound ≠ 0 then .ended client (.returned (hresultFromWin32 unbound))
          else if !env.threadStarts then .ended client .threw
          else
            { client := client
              buffer := fun _ => 0
              peer := env.peer
              receiving := true
              found := false
              addresses := addresses
              deadline :=
                if client.config.timeout > 0 then some (env.now + client.config.timeout.toNat)
                else none
              attempts := []
              main := .testing }

/-- `mmp_client::discover`. -/
def discover (client : MmpClient) (env : DiscoverEnv) : Discovery :=
  match client.serverPort with
  | .inl (client, code) => .ended client (.returned code)
  | .inr port => client.search env port

/-- A run of `discover` returns a code and leaves a client. -/
def Discovers (client : MmpClient) (env : DiscoverEnv) (left : MmpClient) (code : Int32) : Prop :=
  ∃ d, Relation.ReflTransGen Discovery.Step (client.discover env) d ∧ d.main = .returned code ∧
    d.client = left

/-- The client has a server to send to and, once `start` has coerced it, a family
in which it can. -/
structure Usable (client : MmpClient) : Prop where
  supported : client.config.server.ssFamily = Family.inet.value ∨
    client.config.server.ssFamily = Family.inet6.value
  concrete : ¬ client.config.server.IsWildcard
  sameFamily : client.coerceFamily.config.client.ssFamily = client.config.server.ssFamily

/-! ## Before the search -/

variable {client left : MmpClient} {env : DiscoverEnv} {code : Int32}

/-- The switch ends `discover` unless the server is a wildcard. -/
theorem serverPort_cases (client : MmpClient) :
    (client.config.server.IsWildcard ∧ ∃ port, client.serverPort = .inr port) ∨
      (¬ client.config.server.IsWildcard ∧
        (client.config.server.ssFamily = Family.inet.value ∨
          client.config.server.ssFamily = Family.inet6.value) ∧
        client.serverPort = .inl client.matchFamilies) ∨
      (¬ client.config.server.IsWildcard ∧
        client.serverPort = .inl (client, hresultFromWin32 wsaeafnosupport)) := by
  have apart : Family.inet.value ≠ Family.inet6.value := by decide
  unfold serverPort SockaddrStorage.IsWildcard
  dsimp only
  by_cases inet : client.config.server.ssFamily = Family.inet.value
  · rw [if_pos inet]
    by_cases any : client.config.server.sinAddr = inaddrAny
    · exact Or.inl ⟨Or.inl ⟨inet, any⟩, _, if_pos any⟩
    · refine Or.inr (Or.inl ⟨?_, Or.inl inet, if_neg any⟩)
      simp [any, inet, apart]
  · rw [if_neg inet]
    by_cases inet6 : client.config.server.ssFamily = Family.inet6.value
    · rw [if_pos inet6]
      by_cases any : client.config.server.sin6Addr = in6addrAny
      · exact Or.inl ⟨Or.inr ⟨inet6, any⟩, _, if_pos any⟩
      · exact Or.inr (Or.inl ⟨by simp [inet, any], Or.inr inet6, if_neg any⟩)
    · exact Or.inr (Or.inr ⟨by simp [inet, inet6], if_neg inet6⟩)

theorem ssFamily_coerceFamily (client : MmpClient) :
    client.coerceFamily.config.client.ssFamily =
      if client.config.client.ssFamily = Family.inet.value ∨
          client.config.client.ssFamily = Family.inet6.value then client.config.client.ssFamily
      else client.config.server.ssFamily := by
  unfold coerceFamily
  dsimp only
  split
  · rfl
  · exact SockaddrStorage.ssFamily_withFamily _ client.config.server.ssFamily_lt

/-- Without a search, `discover` succeeds only with a usable client. -/
theorem usable_of_matchFamilies (concrete : ¬ client.config.server.IsWildcard)
    (supported : client.config.server.ssFamily = Family.inet.value ∨
      client.config.server.ssFamily = Family.inet6.value)
    (matched : client.matchFamilies = (left, 0)) : left.Usable := by
  unfold matchFamilies at matched
  dsimp only at matched
  split at matched
  · cases matched
    refine ⟨supported, concrete, ?_⟩
    rw [ssFamily_coerceFamily]
    split
    · exact SockaddrStorage.ssFamily_withFamily _ client.config.server.ssFamily_lt
    · rfl
  · split at matched
    · exact absurd (Prod.mk.inj matched).2 (by decide)
    · rename_i same
      cases matched
      refine ⟨supported, concrete, ?_⟩
      rw [ssFamily_coerceFamily]
      split
      · exact not_not.mp same
      · rfl

/-- Beyond the switch `discover` fails, or starts to search after `bind` has
failed. -/
theorem search_cases (client : MmpClient) (env : DiscoverEnv) (port : UInt16) :
    (∃ main, client.search env port = .ended client main ∧ main ≠ .returned 0 ∧
        (main = .threw ∨ ∃ code, main = .returned code)) ∨
      (bind client.config.client env.bind ≠ 0 ∧ (client.search env port).client = client ∧
        (client.search env port).found = false ∧ (client.search env port).main = .testing) := by
  have failing : ∀ failure : Failure, DiscoverPc.returned failure.code ≠ .returned 0 :=
    fun failure same => failure.nonzero (DiscoverPc.returned.inj same)
  have failing' : ∀ error, error ≠ 0 →
      DiscoverPc.returned (hresultFromWin32 error) ≠ .returned 0 := fun error nonzero same =>
    nonzero (hresultFromWin32_eq_zero_iff.mp (DiscoverPc.returned.inj same))
  unfold search
  dsimp only
  cases env.bcastAddresses (if port = 0 then htons mmpDefaultPort else port) with
  | error failure => exact Or.inl ⟨_, rfl, failing failure, Or.inr ⟨_, rfl⟩⟩
  | ok addresses =>
      cases env.socket with
      | some failure => exact Or.inl ⟨_, rfl, failing' _ failure.nonzero, Or.inr ⟨_, rfl⟩⟩
      | none =>
          by_cases bound : bind client.config.client env.bind = 0
          · have nonzero : (1 : Int32) ≠ 0 := by decide
            simp only [if_pos bound, if_pos nonzero]
            exact Or.inl ⟨_, rfl, failing' 1 (by decide), Or.inr ⟨_, rfl⟩⟩
          · simp only [if_neg bound, ne_eq, not_true_eq_false, if_false]
            cases env.threadStarts with
            | false => exact Or.inl ⟨_, rfl, by simp, Or.inl rfl⟩
            | true => exact Or.inr ⟨bound, rfl, rfl, rfl⟩

end MmpClient

/-! ## The search -/

namespace Discovery

variable {d d' : Discovery} {client left : MmpClient} {main : DiscoverPc}

/-- Nothing happens when neither thread is under way. -/
theorem ended_of_idle (idle : d.main ≠ .testing ∧ d.main ≠ .leaving ∧ ∀ it, d.main ≠ .sending it)
    (quiet : d.receiving = true → ∃ code, d.main = .returned code) : Runs.Ended Step d := by
  intro d' step
  cases step with
  | test _ testing => exact idle.1 testing
  | sent sending _ => exact idle.2.2 _ sending
  | failed sending _ => exact idle.2.2 _ sending
  | sleep sending _ _ => exact idle.2.2 _ sending
  | exhausted _ sending _ => exact idle.2.2 _ sending
  | leave leaving => exact idle.2.1 leaving
  | receive _ _ receiving running =>
      obtain ⟨code, returned⟩ := quiet receiving
      exact running code returned
  | receiveFailed receiving running =>
      obtain ⟨code, returned⟩ := quiet receiving
      exact running code returned

theorem ended_of_returned {code : Int32} (returned : d.main = .returned code) :
    Runs.Ended Step d :=
  ended_of_idle (by simp [returned]) fun _ => ⟨code, returned⟩

theorem ended_ended (final : main = .threw ∨ ∃ code, main = .returned code) :
    Runs.Ended Step (ended client main) := by
  refine ended_of_idle ?_ (fun receiving => Bool.noConfusion receiving)
  rcases final with rfl | ⟨code, rfl⟩ <;> simp [ended]

/-- Nothing happens any more when `discover` has ended without a search. -/
theorem eq_of_ended (run : Relation.ReflTransGen Step (ended client main) d)
    (final : main = .threw ∨ ∃ code, main = .returned code) : d = ended client main :=
  Runs.eq_of_ended (ended_ended final) run

/-- The client address stays as it was; the server is a sender of an announcement
as soon as one is found, and only then does `discover` succeed. -/
structure Inv (client : MmpClient) (d : Discovery) : Prop where
  client : d.client.config.client = client.config.client
  found : d.found = true → d.client.config.server.ssFamily = Family.inet.value ∧
    ¬ d.client.config.server.IsWildcard
  returned : d.main = .returned 0 → d.found = true

/-- A search that has not found anything. -/
theorem Inv.begin (same : d.client = client) (unfound : d.found = false)
    (running : d.main ≠ .returned 0) : d.Inv client :=
  ⟨by rw [same], fun found => Bool.noConfusion (unfound.symm.trans found),
    fun returned => absurd returned running⟩

/-- The sender of an announcement is an IPv4 address and no wildcard. -/
theorem announcer_concrete (peer : SockaddrStorage) (sender : Announcer) :
    (peer.overwrite sender.report).ssFamily = Family.inet.value ∧
      ¬ (peer.overwrite sender.report).IsWildcard := by
  have family : (peer.overwrite sender.report).ssFamily = Family.inet.value :=
    SockaddrStorage.ssFamily_overwrite sender.report
  have address := peer.sinAddr_overwrite sender.report
  refine ⟨family, fun wildcard => ?_⟩
  rcases wildcard with ⟨-, any⟩ | ⟨inet6, -⟩
  · exact sender.concrete (address.symm.trans any)
  · exact absurd (family.symm.trans inet6) (by decide)

theorem Inv.step (inv : d.Inv client) (step : d.Step d') : d'.Inv client := by
  cases step with
  | test now testing =>
      refine ⟨inv.client, inv.found, fun returned => ?_⟩
      dsimp only at returned
      split at returned <;> cases returned
  | sent _ _ => exact ⟨inv.client, inv.found, fun returned => by cases returned⟩
  | failed _ _ => exact ⟨inv.client, inv.found, fun returned => by cases returned⟩
  | sleep _ _ _ => exact ⟨inv.client, inv.found, fun returned => by cases returned⟩
  | exhausted error _ _ =>
      refine ⟨inv.client, inv.found, fun returned => ?_⟩
      have success := hresultFromWin32_eq_zero_iff.mp (DiscoverPc.returned.inj returned)
      exact absurd success error.nonzero
  | leave leaving =>
      refine ⟨inv.client, inv.found, fun returned => ?_⟩
      dsimp only at returned ⊢
      cases found : d.found with
      | true => rfl
      | false =>
          rw [found] at returned
          exact absurd (DiscoverPc.returned.inj returned) (by decide)
  | receive data sender receiving running =>
      cases answer : d.client.discoverReceive d.buffer data (d.peer.overwrite sender.report) with
      | none => exact ⟨inv.client, inv.found, fun returned => (running 0 returned).elim⟩
      | some client' =>
          unfold MmpClient.discoverReceive at answer
          dsimp only at answer
          split at answer
          · cases answer
          · split at answer
            · cases answer
              exact ⟨inv.client, fun _ => announcer_concrete d.peer sender,
                fun returned => (running 0 returned).elim⟩
            · cases answer
  | receiveFailed _ running =>
      exact ⟨inv.client, inv.found, fun returned => (running 0 returned).elim⟩

theorem Inv.run (inv : d.Inv client) (run : Relation.ReflTransGen Step d d') : d'.Inv client :=
  Runs.invariant (fun _ _ inv step => inv.step step) inv run

/-! ## The thread that has called `discover` -/

/-- A step of the caller, by which it changes where it is or what it has sent; a `sendto`
that succeeds is to an address that is accepted. -/
structure Calls (accepts : PeerAddress .inet → Prop) (d d' : Discovery) : Prop where
  step : Step d d'
  moves : d'.main ≠ d.main ∨ d'.attempts ≠ d.attempts
  accepted : ∀ attempt ∈ d'.attempts, attempt.2.2 = true →
    attempt ∈ d.attempts ∨ accepts attempt.2.1

/-- The caller leaves alone what the receiver changes. -/
theorem caller_frame (step : Step d d') (moves : d'.main ≠ d.main ∨ d'.attempts ≠ d.attempts) :
    d'.client = d.client ∧ d'.buffer = d.buffer ∧ d'.peer = d.peer ∧
      d'.receiving = d.receiving ∧ d'.found = d.found := by
  cases step with
  | test now testing => exact ⟨rfl, rfl, rfl, rfl, rfl⟩
  | sent sending here => exact ⟨rfl, rfl, rfl, rfl, rfl⟩
  | failed sending here => exact ⟨rfl, rfl, rfl, rfl, rfl⟩
  | sleep sending atEnd some => exact ⟨rfl, rfl, rfl, rfl, rfl⟩
  | exhausted error sending none => exact ⟨rfl, rfl, rfl, rfl, rfl⟩
  | leave leaving => exact ⟨rfl, rfl, rfl, rfl, rfl⟩
  | receive data sender receiving running =>
      split at moves <;> simp at moves
  | receiveFailed receiving running => simp at moves

/-- What has been sent stays sent. -/
theorem attempts_subset (step : Step d d') : d.attempts ⊆ d'.attempts := by
  cases step with
  | test now testing => exact List.Subset.refl _
  | sent sending here => exact List.subset_append_left _ _
  | failed sending here => exact List.subset_append_left _ _
  | sleep sending atEnd some => exact List.Subset.refl _
  | exhausted error sending none => exact List.Subset.refl _
  | leave leaving => exact List.Subset.refl _
  | receive data sender receiving running => split <;> exact List.Subset.refl _
  | receiveFailed receiving running => exact List.Subset.refl _

/-- `discover` returns 0 only if it has read `found`. -/
theorem found_of_returned (step : Step d d') (returned : d'.main = .returned 0) :
    d.found = true := by
  cases step with
  | test now testing =>
      dsimp only at returned
      split at returned <;> cases returned
  | sent sending here => cases returned
  | failed sending here => cases returned
  | sleep sending atEnd some => cases returned
  | exhausted error sending none =>
      have success := hresultFromWin32_eq_zero_iff.mp (DiscoverPc.returned.inj returned)
      exact absurd success error.nonzero
  | leave leaving =>
      cases found : d.found with
      | true => rfl
      | false =>
          rw [found] at returned
          exact absurd (DiscoverPc.returned.inj returned) (by decide)
  | receive data sender receiving running =>
      split at returned <;> exact absurd returned (running 0)
  | receiveFailed receiving running => exact absurd returned (running 0)

/-- A receiver that leaves when it has found the server stays away, and so does what it has
found. -/
theorem quiet_step (step : Step d d') (quiet : d.found = true → d.receiving = false) :
    (d'.found = true → d'.receiving = false) ∧
      (d.found = true → d'.client = d.client ∧ d'.found = true) := by
  cases step with
  | test now testing => exact ⟨quiet, fun found => ⟨rfl, found⟩⟩
  | sent sending here => exact ⟨quiet, fun found => ⟨rfl, found⟩⟩
  | failed sending here => exact ⟨quiet, fun found => ⟨rfl, found⟩⟩
  | sleep sending atEnd some => exact ⟨quiet, fun found => ⟨rfl, found⟩⟩
  | exhausted error sending none => exact ⟨quiet, fun found => ⟨rfl, found⟩⟩
  | leave leaving => exact ⟨quiet, fun found => ⟨rfl, found⟩⟩
  | receive data sender receiving running =>
      have unfound : d.found ≠ true := fun found =>
        Bool.noConfusion (receiving.symm.trans (quiet found))
      refine ⟨?_, fun found => absurd found unfound⟩
      split
      · exact fun found => absurd found unfound
      · exact fun _ => rfl
  | receiveFailed receiving running => exact ⟨fun _ => rfl, fun found => ⟨rfl, found⟩⟩

section Calls

variable {accepts : PeerAddress .inet → Prop} {address : PeerAddress .inet}

/-- A step that sends nothing. -/
theorem Calls.of_quiet (step : Step d d') (moves : d'.main ≠ d.main)
    (quiet : d'.attempts = d.attempts) : Calls accepts d d' :=
  ⟨step, .inl moves, fun _ attempt _ => .inl (quiet ▸ attempt)⟩

/-- A search that has not found anything begins another pass. -/
theorem Calls.begin (testing : d.main = .testing) (unfound : d.found = false) :
    Calls accepts d { d with main := .sending 0 } := by
  obtain ⟨now, early⟩ : ∃ now : Int, (d.deadline.all fun deadline => now < deadline) = true := by
    cases d.deadline with
    | none => exact ⟨0, rfl⟩
    | some deadline => exact ⟨deadline - 1, by simp⟩
  have test := Step.test now testing
  rw [if_pos (by simp [early, unfound])] at test
  exact .of_quiet test (by simp [testing]) rfl

/-- The caller fails to send to some of its addresses, which are erased. -/
theorem Calls.erase (front : List (PeerAddress .inet)) {middle back : List (PeerAddress .inet)}
    (sending : d.main = .sending front.length) (addresses : d.addresses = front ++ middle ++ back) :
    Relation.ReflTransGen (Calls accepts) d
      { d with
        addresses := front ++ back
        attempts := d.attempts ++ middle.map fun target => (message, target, false) } := by
  induction middle generalizing d with
  | nil =>
      rw [List.append_nil] at addresses
      rw [List.map_nil, List.append_nil, ← addresses]
  | cons target middle ih =>
      have place : d.addresses[front.length]? = some target := by
        rw [addresses, List.append_assoc, List.getElem?_append_right (Nat.le_refl _)]
        simp
      have erased : d.addresses.eraseIdx front.length = front ++ middle ++ back := by
        rw [addresses, List.append_assoc, List.eraseIdx_append_of_length_le (Nat.le_refl _)]
        simp
      have first : Calls accepts d
          { d with
            addresses := d.addresses.eraseIdx front.length
            attempts := d.attempts ++ [(message, target, false)]
            main := .sending front.length } := by
        refine ⟨.failed sending place, .inr (by simp), fun attempt member success => ?_⟩
        rcases List.mem_append.mp member with earlier | last
        · exact .inl earlier
        · rw [List.mem_singleton.mp last] at success
          cases success
      have rest := ih (d := { d with
        addresses := d.addresses.eraseIdx front.length
        attempts := d.attempts ++ [(message, target, false)]
        main := .sending front.length }) rfl erased
      refine .head first ?_
      rw [List.map_cons]
      simpa [sending] using rest

/-- In one pass the caller may have sent to any of its addresses that is accepted, and to
no other. -/
theorem Calls.exists_pass (accepts : PeerAddress .inet → Prop) (testing : d.main = .testing)
    (unfound : d.found = false) (known : address ∈ d.addresses) (accepted : accepts address) :
    ∃ attempts, (message, address, true) ∈ attempts ∧
      Relation.ReflTransGen (Calls accepts) d
        { d with
          addresses := [address]
          attempts := d.attempts ++ attempts
          main := .testing } := by
  obtain ⟨front, back, split⟩ := List.append_of_mem known
  let missed (targets : List (PeerAddress .inet)) : List (List UInt8 × PeerAddress .inet × Bool) :=
    targets.map fun target => (message, target, false)
  let reached : Discovery :=
    { d with
      addresses := address :: back
      attempts := d.attempts ++ missed front
      main := .sending 0 }
  have before : Relation.ReflTransGen (Calls accepts) d reached := by
    refine .head (.begin testing unfound) ?_
    exact Calls.erase (d := { d with main := .sending 0 }) [] rfl (by simp [split])
  let sent : Discovery :=
    { reached with
      attempts := reached.attempts ++ [(message, address, true)]
      main := .sending 1 }
  have success : Calls accepts reached sent := by
    refine ⟨.sent rfl rfl, .inl (by simp [reached, sent]), fun attempt member _ => ?_⟩
    rcases List.mem_append.mp member with earlier | last
    · exact .inl earlier
    · rw [List.mem_singleton.mp last]
      exact .inr accepted
  let swept : Discovery :=
    { sent with
      addresses := [address]
      attempts := sent.attempts ++ missed back }
  have after : Relation.ReflTransGen (Calls accepts) sent swept :=
    Calls.erase (d := sent) [address] rfl (by simp [sent, reached])
  have asleep : Calls accepts swept { swept with main := .testing } :=
    .of_quiet (.sleep rfl rfl (by simp [swept])) (by simp [swept, sent]) rfl
  refine ⟨missed front ++ [(message, address, true)] ++ missed back, by simp, ?_⟩
  have run := ((before.tail success).trans after).tail asleep
  simpa [swept, sent, reached] using run

/-- A search that has found the server returns with success. -/
theorem Calls.exists_returned (accepts : PeerAddress .inet → Prop) (testing : d.main = .testing)
    (found : d.found = true) :
    Relation.ReflTransGen (Calls accepts) d { d with main := .returned 0 } := by
  have test : Step d { d with main := .leaving } := by
    have test := Step.test 0 testing
    rwa [if_neg (by simp [found])] at test
  have leave : Step { d with main := .leaving } { d with main := .returned 0 } := by
    have leave := Step.leave (d := { d with main := .leaving }) rfl
    rwa [if_pos (show d.found = true from found)] at leave
  exact .tail (.single (.of_quiet test (by simp [testing]) rfl)) (.of_quiet leave (by simp) rfl)

/-- An announcement that arrives after a pass of the search ends it. -/
theorem Calls.exists_found (accepts : PeerAddress .inet → Prop) (testing : d.main = .testing)
    (receiving : d.receiving = true) (unfound : d.found = false) (known : address ∈ d.addresses)
    (accepted : accepts address) (data : Datagram) (sender : Announcer)
    (answer : d.client.discoverReceive d.buffer data (d.peer.overwrite sender.report) = some left) :
    ∃ swept found, Relation.ReflTransGen (Calls accepts) d swept ∧
      (message, address, true) ∈ swept.attempts ∧ Step swept found ∧
      found.attempts = swept.attempts ∧ found.client = left ∧
      Relation.ReflTransGen (Calls accepts) found { found with main := .returned 0 } := by
  obtain ⟨attempts, sent, pass⟩ := Calls.exists_pass accepts testing unfound known accepted
  let swept : Discovery :=
    { d with
      addresses := [address]
      attempts := d.attempts ++ attempts
      main := .testing }
  have received := Step.receive (d := swept) data sender receiving (by simp [swept])
  rw [show swept.client.discoverReceive swept.buffer data _ = some left from answer] at received
  exact ⟨swept, _, pass, List.mem_append_right _ sent, received, rfl, rfl,
    Calls.exists_returned accepts rfl rfl⟩

end Calls

/-- A search may end with the client that an announcement leaves. -/
theorem exists_run_of_announcement (testing : d.main = .testing) (receiving : d.receiving = true)
    (unfound : d.found = false) {address : PeerAddress .inet} (known : address ∈ d.addresses)
    (data : Datagram) (sender : Announcer)
    (answer : d.client.discoverReceive d.buffer data (d.peer.overwrite sender.report) = some left) :
    ∃ d', Relation.ReflTransGen Step d d' ∧ d'.main = .returned 0 ∧ d'.client = left := by
  obtain ⟨swept, found, pass, -, received, -, same, returned⟩ :=
    Calls.exists_found (fun _ => True) testing receiving unfound known trivial data sender answer
  have calls : ∀ first second, Calls (fun _ => True) first second → Step first second :=
    fun _ _ call => call.step
  exact ⟨_, ((Relation.ReflTransGen.mono calls _ _ pass).tail received).trans
    (Relation.ReflTransGen.mono calls _ _ returned), rfl, same⟩

end Discovery

namespace MmpClient

variable {client left : MmpClient} {env : DiscoverEnv}

/-- If the families agree in the end, a discovery that succeeds leaves a usable
client. -/
theorem Discovers.usable (ran : client.Discovers env left 0)
    (agree : client.config.server.IsWildcard →
      client.config.client.ssFamily ≠ Family.inet6.value) : left.Usable := by
  rcases ran with ⟨d, run, returned, rfl⟩
  unfold discover at run
  rcases client.serverPort_cases with
    ⟨wildcard, port, given⟩ | ⟨concrete, supported, given⟩ | ⟨-, given⟩
  · rw [given] at run
    dsimp only at run
    rcases client.search_cases env port with
      ⟨main, failed, nonzero, final⟩ | ⟨-, same, unfound, testing⟩
    · rw [failed] at run
      rw [Discovery.eq_of_ended run final] at returned
      exact (nonzero returned).elim
    · have inv := (Discovery.Inv.begin same unfound (by simp [testing])).run run
      obtain ⟨inet, concrete⟩ := inv.found (inv.returned returned)
      refine ⟨Or.inl inet, concrete, ?_⟩
      rw [ssFamily_coerceFamily, inv.client, inet]
      split
      · rename_i supported
        exact supported.resolve_right (agree wildcard)
      · rfl
  · rw [given] at run
    have finished := Discovery.eq_of_ended run (Or.inr ⟨_, rfl⟩)
    subst finished
    exact usable_of_matchFamilies concrete supported
      (Prod.ext rfl (DiscoverPc.returned.inj returned))
  · rw [given] at run
    have finished := Discovery.eq_of_ended run (Or.inr ⟨_, rfl⟩)
    subst finished
    exact absurd (DiscoverPc.returned.inj returned) (by decide)

/-- A system in which `bind` fails and nothing else does.  The one address to send to is
10.8.0.2. -/
def unbindable : DiscoverEnv where
  bcastAddresses := fun port => .ok [.ofSinAddr port 0x0200080A]
  socket := none
  bind := some ⟨10014, by decide⟩
  threadStarts := true
  now := 0
  peer := .zero

/-- A server at 10.8.0.2. -/
def localAnnouncer : Announcer where
  report := .ofSinAddr (htons mmpDefaultPort) 0x0200080A
  concrete := by decide

/-- A search for an IPv6 client finds an IPv4 server. -/
theorem discovers_of_inet6 (wildcard : client.config.server.IsWildcard)
    (inet6 : client.config.client.ssFamily = Family.inet6.value) :
    client.Discovers unbindable
      { client with
        config.server := SockaddrStorage.zero.overwrite localAnnouncer.report
        sequenceNumber := 0 } 0 := by
  have failed : bind client.config.client unbindable.bind ≠ 0 := by
    rw [bind, inet6]
    decide
  obtain ⟨port, given⟩ : ∃ port, client.serverPort = .inr port := by
    rcases client.serverPort_cases with ⟨-, given⟩ | ⟨concrete, -⟩ | ⟨concrete, -⟩
    · exact given
    · exact (concrete wildcard).elim
    · exact (concrete wildcard).elim
  have searching : client.search unbindable port =
      { Discovery.ended client .testing with
        receiving := true
        addresses :=
          [.ofSinAddr (if port = 0 then htons mmpDefaultPort else port) 0x0200080A]
        deadline :=
          if client.config.timeout > 0 then some (0 + client.config.timeout.toNat) else none } := by
    have zero : ¬ (0 : Int32) ≠ 0 := by decide
    simp only [search, if_neg failed, if_neg zero]
    rfl
  have answer : client.discoverReceive (fun _ => 0) (MmpMsgAnnounce.datagram {})
      (SockaddrStorage.zero.overwrite localAnnouncer.report) =
        some { client with
          config.server := SockaddrStorage.zero.overwrite localAnnouncer.report
          sequenceNumber := 0 } := by
    unfold discoverReceive
    dsimp only
    rw [if_neg (by decide), if_pos (by decide)]
    rfl
  unfold Discovers discover
  rw [given]
  dsimp only
  rw [searching]
  exact Discovery.exists_run_of_announcement rfl rfl rfl List.mem_cons_self
    (MmpMsgAnnounce.datagram {}) localAnnouncer answer

/-- What `discover` finds is usable, whatever the system does, if and only if it is
not asked to search for a server on behalf of an IPv6 client. -/
theorem discovers_usable_iff (client : MmpClient) :
    (∀ env left, client.Discovers env left 0 → left.Usable) ↔
      ¬ (client.config.server.IsWildcard ∧
        client.config.client.ssFamily = Family.inet6.value) := by
  constructor
  · intro usable asked
    rcases asked with ⟨wildcard, inet6⟩
    have families := (usable _ _ (discovers_of_inet6 wildcard inet6)).sameFamily
    rw [ssFamily_coerceFamily] at families
    dsimp only at families
    rw [inet6, if_pos (Or.inr rfl), SockaddrStorage.ssFamily_overwrite] at families
    exact absurd families (by decide)
  · intro fits env left ran
    exact ran.usable fun wildcard inet6 => fits ⟨wildcard, inet6⟩

/-- The client is configured for IPv6, and the server to be searched. -/
theorem not_usable_of_inet6 :
    let client := MmpClient.new
      { client := SockaddrStorage.zero.withFamily Family.inet6.value
        server := SockaddrStorage.zero.withFamily Family.inet.value }
    ∃ left, client.Discovers unbindable left 0 ∧ ¬ left.Usable := by
  intro client
  refine ⟨_, discovers_of_inet6 (by decide) (by decide), fun usable => ?_⟩
  have families := usable.sameFamily
  revert families
  decide

end MmpClient

end MagicMousePad
