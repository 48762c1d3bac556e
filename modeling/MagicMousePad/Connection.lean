import MagicMousePad.Host
import MagicMousePad.Tray

/-!
# Which configurations connect

`mmp_connect` as the sequence of its steps on a configuration, and what the machine of the
client allows of them.  Where sockets can be bound, a server that is given can be connected to
if the client has its family or none and the machine sends to it, which it does not if the
server is a broadcast address.  A server that is to be found is found only by a client without
a family: `discover` goes on only if its socket is not bound, and it is not bound for lack of a
family.  It is not found on a machine whose networks all have broadcast addresses either.

The tray window configures no client, and no server unless its registry key names one, and
without a server it never connects.
-/

namespace MagicMousePad

open ByteOrder

/-! ## The steps of a connection -/

/-- The outcome is one of `mmp_connect` on the configuration: where its first two steps
succeed, `discover` throws or returns the code, and if it succeeds `start` does so as
well unless one of its steps fails. -/
def ConnectOutcome.Of (outcome : ConnectOutcome) (config : MmpConfiguration) (env : DiscoverEnv)
    (failing : Option StartStep) : Prop :=
  outcome.allocates = true → outcome.startup = 0 →
    match outcome.discover with
    | none =>
        ∃ d, Relation.ReflTransGen Discovery.Step ((MmpClient.new config).discover env) d ∧
          d.main = .threw
    | some code =>
        ∃ left, (MmpClient.new config).Discovers env left code ∧
          (code = 0 → (outcome.start = 0 ↔ (left.start failing).2 = true))

/-- The first message of the client can be sent: its socket has the family of the server, and
the machine sends to the server. -/
def Host.SendsConnect (host : Host) (client : MmpClient) : Prop :=
  client.coerceFamily.config.client.ssFamily = client.config.server.ssFamily ∧
    host.sends client.config.server = true

/-- The outcome is one of `mmp_connect` on the machine, among servers that answer at given
addresses. -/
def ConnectOutcome.On (outcome : ConnectOutcome) (config : MmpConfiguration) (env : DiscoverEnv)
    (failing : Option StartStep) (host : Host) (answers : PeerAddress .inet → List Announcer) :
    Prop :=
  outcome.allocates = true → outcome.startup = 0 →
    ∃ d, Relation.ReflTransGen (host.Allows answers) ((MmpClient.new config).discover env) d ∧
      match outcome.discover with
      | none => d.main = .threw
      | some code =>
          d.main = .returned code ∧
            (code = 0 → (outcome.start = 0 ↔ (d.client.start failing).2 = true) ∧
              (failing = none → host.SendsConnect d.client))

/-- The system is the one of the machine, and sockets can be bound: the addresses to search at
are those of the adapters unless these cannot be queried, and `::bind` does not fail on the
IPv4 socket of a discovery for an IPv4 address. -/
structure DiscoverEnv.On (env : DiscoverEnv) (config : MmpConfiguration) (host : Host) : Prop where
  queried : ∃ size query,
    env.bcastAddresses = MmpClient.bcastAddresses ⟨size, query, host.adapters⟩
  bindable : config.client.ssFamily = Family.inet.value → env.bind = none

/-- The configuration connects, if all goes well, on a machine on which sockets can be
bound. -/
def MmpConfiguration.Connects (config : MmpConfiguration) (host : Host)
    (answers : PeerAddress .inet → List Announcer) : Prop :=
  ∃ (env : DiscoverEnv) (failing : Option StartStep) (outcome : ConnectOutcome),
    env.On config host ∧ outcome.On config env failing host answers ∧ outcome.Succeeds

/-- The family of an address is supported. -/
def SockaddrStorage.Supported (address : SockaddrStorage) : Prop :=
  address.ssFamily = Family.inet.value ∨ address.ssFamily = Family.inet6.value

instance (address : SockaddrStorage) : Decidable address.Supported :=
  inferInstanceAs (Decidable (_ ∨ _))

namespace MmpClient

variable {client : MmpClient} {env : DiscoverEnv}

theorem bind_none_iff {address : SockaddrStorage} : bind address none = 0 ↔ address.Supported := by
  have failure : hresultFromWin32 wsaeafnosupport ≠ 0 := by decide
  unfold bind SockaddrStorage.Supported lastErrorOf
  by_cases inet : address.ssFamily = Family.inet.value
  · simp [inet]
  · by_cases inet6 : address.ssFamily = Family.inet6.value
    · simp [inet6]
    · simp [inet, inet6, failure]

theorem supported_of_isWildcard (wildcard : client.config.server.IsWildcard) :
    client.config.server.Supported := by
  rcases wildcard with ⟨inet, -⟩ | ⟨inet6, -⟩
  · exact Or.inl inet
  · exact Or.inr inet6

theorem matchFamilies_eq_zero_iff :
    client.matchFamilies.2 = 0 ↔ client.config.client.ssFamily = 0 ∨
      client.config.client.ssFamily = client.config.server.ssFamily := by
  have failure : hresultFromWin32 wsaeafnosupport ≠ 0 := by decide
  unfold matchFamilies
  dsimp only
  split
  · rename_i unspecified
    exact iff_of_true rfl (Or.inl unspecified)
  · rename_i specified
    split
    · rename_i different
      exact iff_of_false failure (by simp [specified, different])
    · rename_i same
      exact iff_of_true rfl (Or.inr (not_not.mp same))

@[simp] theorem running_matchFamilies : client.matchFamilies.1.running = client.running := by
  unfold matchFamilies
  dsimp only
  split
  · rfl
  · split <;> rfl

@[simp] theorem server_matchFamilies :
    client.matchFamilies.1.config.server = client.config.server := by
  unfold matchFamilies
  dsimp only
  split
  · rfl
  · split <;> rfl

theorem serverPort_of_concrete (supported : client.config.server.Supported)
    (concrete : ¬ client.config.server.IsWildcard) :
    client.serverPort = .inl client.matchFamilies := by
  unfold SockaddrStorage.IsWildcard at concrete
  rw [not_or, not_and, not_and] at concrete
  unfold serverPort
  dsimp only
  by_cases inet : client.config.server.ssFamily = Family.inet.value
  · rw [if_pos inet, if_neg (concrete.1 inet)]
  · have inet6 := supported.resolve_left inet
    rw [if_neg inet, if_pos inet6, if_neg (concrete.2 inet6)]

/-- The search begins without having sent anything, at the last addresses of the networks. -/
theorem unsent_search (client : MmpClient) {size query : Option Failure} {adapters : List Adapter}
    (queried : env.bcastAddresses = bcastAddresses ⟨size, query, adapters⟩) (port : UInt16) :
    (client.search env port).attempts = [] ∧
      (client.search env port).addresses ⊆ (networks adapters).map fun network =>
        bcastAddress (if port = 0 then htons mmpDefaultPort else port) network.1 network.2 := by
  unfold search
  dsimp only
  rw [queried]
  cases size with
  | some failure => exact ⟨rfl, List.nil_subset _⟩
  | none =>
      cases query with
      | some failure => exact ⟨rfl, List.nil_subset _⟩
      | none =>
          rw [bcastAddresses_eq]
          cases env.socket with
          | some failure => exact ⟨rfl, List.nil_subset _⟩
          | none =>
              by_cases bound : bind client.config.client env.bind = 0
              · have nonzero : (1 : Int32) ≠ 0 := by decide
                simp only [if_pos bound, if_pos nonzero]
                exact ⟨rfl, List.nil_subset _⟩
              · simp only [if_neg bound, ne_eq, not_true_eq_false, if_false]
                cases env.threadStarts with
                | false => exact ⟨rfl, List.nil_subset _⟩
                | true => exact ⟨rfl, List.Subset.refl _⟩

/-- `start` succeeds only if none of its steps fails. -/
theorem eq_none_of_start {failing : Option StartStep} (started : (client.start failing).2 = true) :
    failing = none := by
  cases failing with
  | none => rfl
  | some step => cases step <;> simp [start] at started <;> split at started <;> cases started

/-- What a client needs to connect on a machine on which sockets can be bound. -/
def Connectable (client : MmpClient) (host : Host)
    (answers : PeerAddress .inet → List Announcer) : Prop :=
  client.config.server.Supported ∧
    if client.config.server.IsWildcard then
      ¬ client.config.client.Supported ∧
        ∃ network ∈ networks host.adapters,
          host.Accepts (bcastAddress client.searchPort network.1 network.2) ∧
            ∃ server ∈ answers (bcastAddress client.searchPort network.1 network.2),
              host.Accepts server.report
    else
      (client.config.client.ssFamily = 0 ∨
        client.config.client.ssFamily = client.config.server.ssFamily) ∧
        host.sends client.config.server = true

section Machine

variable {host : Host} {answers : PeerAddress .inet → List Announcer} {d : Discovery}

/-- What a search finds to which the client can send. -/
theorem connectable_of_found (wildcard : client.config.server.IsWildcard)
    (bindable : client.config.client.ssFamily = Family.inet.value → env.bind = none)
    (unbound : bind client.config.client env.bind ≠ 0)
    (search : host.Search answers ((networks host.adapters).map fun network =>
      bcastAddress client.searchPort network.1 network.2) d)
    (inv : d.Inv client) (returned : d.main = .returned 0) (sent : host.SendsConnect d.client) :
    client.Connectable host answers := by
  have found := search.returned returned
  obtain ⟨family, -⟩ := inv.found found
  obtain ⟨target, known, accepted, server, present, knows⟩ := search.found found
  obtain ⟨network, member, rfl⟩ := List.mem_map.mp known
  obtain ⟨same, sends⟩ := sent
  refine ⟨supported_of_isWildcard wildcard, ?_⟩
  rw [if_pos wildcard]
  refine ⟨fun supported => ?_, network, member, accepted, server, present, ?_⟩
  · rcases supported with inet | inet6
    · exact unbound (by rw [bindable inet]; exact bind_none_iff.mpr (.inl inet))
    · rw [ssFamily_coerceFamily, inv.client, if_pos (.inr inet6), inet6, family] at same
      exact absurd same (by decide)
  · rw [SockaddrStorage.eq_overwrite knows, host.regular] at sends
    exact sends

/-- A client that discovers a server and can send to it was able to. -/
theorem connectable_of_run (fits : env.On client.config host)
    (run : Relation.ReflTransGen (host.Allows answers) (client.discover env) d)
    (returned : d.main = .returned 0) (sent : host.SendsConnect d.client) :
    client.Connectable host answers := by
  obtain ⟨⟨size, query, queried⟩, bindable⟩ := fits
  have steps : Relation.ReflTransGen Discovery.Step (client.discover env) d :=
    Relation.ReflTransGen.mono (fun _ _ allows => allows.step) _ _ run
  rcases client.serverPort_cases with
    ⟨wildcard, -⟩ | ⟨concrete, supported, given⟩ | ⟨-, given⟩
  · have entered : client.discover env = client.search env client.config.server.port := by
      rw [discover, serverPort_of_isWildcard wildcard]
    rw [entered] at run steps
    rcases client.search_cases env client.config.server.port with
      ⟨main, failed, nonzero, final⟩ | ⟨unbound, same, unfound, testing⟩
    · rw [failed] at steps
      rw [Discovery.eq_of_ended steps final] at returned
      exact (nonzero returned).elim
    · obtain ⟨unsent, known⟩ := client.unsent_search queried client.config.server.port
      have running : (client.search env client.config.server.port).main ≠ .returned 0 := by
        simp [testing]
      have search : host.Search answers _ d :=
        (Host.Search.of_unsent known unsent unfound running).run run
      have inv := (Discovery.Inv.begin same unfound running).run steps
      exact connectable_of_found wildcard bindable unbound search inv returned sent
  · rw [discover, given] at steps
    have finished := Discovery.eq_of_ended steps (Or.inr ⟨_, rfl⟩)
    subst finished
    refine ⟨supported, ?_⟩
    rw [if_neg concrete]
    refine ⟨matchFamilies_eq_zero_iff.mp (DiscoverPc.returned.inj returned), ?_⟩
    have sends : host.sends client.matchFamilies.1.config.server = true := sent.2
    rw [server_matchFamilies] at sends
    exact sends
  · rw [discover, given] at steps
    have finished := Discovery.eq_of_ended steps (Or.inr ⟨_, rfl⟩)
    subst finished
    exact absurd (DiscoverPc.returned.inj returned) (by decide)

/-- The system of a machine in which nothing fails. -/
def obliging (host : Host) : DiscoverEnv where
  bcastAddresses := bcastAddresses ⟨none, none, host.adapters⟩
  socket := none
  bind := none
  threadStarts := true
  now := 0
  peer := .zero

/-- Such a client can discover a server to which it can send. -/
theorem Connectable.discovers (fits : client.Connectable host answers) :
    ∃ d, Relation.ReflTransGen (host.Allows answers) (client.discover (obliging host)) d ∧
      d.main = .returned 0 ∧ d.client.running = client.running ∧ host.SendsConnect d.client := by
  rcases fits with ⟨supported, family⟩
  by_cases wildcard : client.config.server.IsWildcard
  · rw [if_pos wildcard] at family
    obtain ⟨unsupported, network, member, accepted, server, present, sends⟩ := family
    have unbound : bind client.config.client (obliging host).bind ≠ 0 :=
      fun bound => unsupported (bind_none_iff.mp bound)
    have entered : client.discover (obliging host) = _ :=
      discover_of_isWildcard wildcard (bcastAddresses_eq host.adapters client.searchPort) rfl
    rw [if_neg unbound, if_pos (show (obliging host).threadStarts = true from rfl)] at entered
    rw [entered]
    have known : bcastAddress client.searchPort network.1 network.2 ∈
        (networks host.adapters).map fun network =>
          bcastAddress client.searchPort network.1 network.2 := List.mem_map.mpr ⟨_, member, rfl⟩
    obtain ⟨d, run, returned, number, found⟩ := Host.exists_run_of_server
      (d := client.searching (obliging host) _) rfl rfl rfl known accepted present
    refine ⟨d, run, returned, by rw [found]; rfl, ?_⟩
    rw [found]
    refine ⟨?_, sends⟩
    rw [ssFamily_coerceFamily]
    exact if_neg unsupported
  · rw [if_neg wildcard] at family
    obtain ⟨fitting, sends⟩ := family
    have given := serverPort_of_concrete supported wildcard
    have matched : client.matchFamilies = (client.matchFamilies.1, 0) :=
      Prod.ext rfl (matchFamilies_eq_zero_iff.mpr fitting)
    have usable := usable_of_matchFamilies wildcard supported matched
    rw [discover, given]
    refine ⟨_, .refl, congrArg DiscoverPc.returned (matchFamilies_eq_zero_iff.mpr fitting),
      running_matchFamilies, usable.sameFamily, ?_⟩
    change host.sends client.matchFamilies.1.config.server = true
    rw [server_matchFamilies]
    exact sends

/-- The last addresses of networks with broadcast addresses are refused. -/
theorem Connectable.exists_short (fits : client.Connectable host answers)
    (wildcard : client.config.server.IsWildcard) :
    ∃ network ∈ networks host.adapters, 30 < network.2.toNat := by
  obtain ⟨-, family⟩ := fits
  rw [if_pos wildcard] at family
  obtain ⟨-, network, member, accepted, -⟩ := family
  refine ⟨network, member, Nat.lt_of_not_le fun wide => ?_⟩
  exact Host.not_accepts_bcastAddress member wide client.searchPort accepted

end Machine

end MmpClient

/-! ## Connecting -/

variable {host : Host} {answers : PeerAddress .inet → List Announcer}

theorem MmpConfiguration.connects_iff_connectable (config : MmpConfiguration) :
    config.Connects host answers ↔ (MmpClient.new config).Connectable host answers := by
  constructor
  · rintro ⟨env, failing, outcome, fits, arises, allocates, started, found, begun⟩
    obtain ⟨d, run, ended⟩ := arises allocates started
    rw [found] at ended
    obtain ⟨returned, starts⟩ := ended
    obtain ⟨succeeded, sent⟩ := starts rfl
    exact MmpClient.connectable_of_run fits run returned
      (sent (MmpClient.eq_none_of_start (succeeded.mp begun)))
  · intro fits
    obtain ⟨d, run, returned, idle, sent⟩ := fits.discovers
    obtain ⟨address, started⟩ := MmpClient.start_none idle
    refine ⟨MmpClient.obliging host, none, ⟨true, 0, some 0, 0⟩, ⟨⟨none, none, rfl⟩, fun _ => rfl⟩,
      fun _ _ => ⟨d, run, returned, fun _ => ⟨?_, fun _ => sent⟩⟩, rfl, rfl, rfl, rfl⟩
    simp [started]

/-- Where sockets can be bound, a configuration connects if and only if its server has a
supported family, and, if the server is given, the client has the same family or none and the
machine sends to the server; if it is to be found, the client has no supported family and at
the end of a network to which the machine sends a server answers to which it sends as well.
A server that is to be found is not found where all networks have broadcast addresses. -/
theorem MmpConfiguration.connects_iff (config : MmpConfiguration) (host : Host)
    (answers : PeerAddress .inet → List Announcer) :
    (config.Connects host answers ↔ config.server.Supported ∧
      if config.server.IsWildcard then
        ¬ config.client.Supported ∧
          ∃ network ∈ networks host.adapters,
            host.Accepts (MmpClient.bcastAddress (MmpClient.new config).searchPort
              network.1 network.2) ∧
            ∃ server ∈ answers (MmpClient.bcastAddress (MmpClient.new config).searchPort
              network.1 network.2), host.Accepts server.report
      else
        (config.client.ssFamily = 0 ∨ config.client.ssFamily = config.server.ssFamily) ∧
          host.sends config.server = true) ∧
      (config.server.IsWildcard → (∀ network ∈ networks host.adapters, network.2.toNat ≤ 30) →
        ¬ config.Connects host answers) := by
  refine ⟨config.connects_iff_connectable, fun wildcard wide connects => ?_⟩
  obtain ⟨network, member, short⟩ :=
    (config.connects_iff_connectable.mp connects).exists_short wildcard
  exact absurd (wide network member) (Nat.not_le.mpr short)

/-- On 192.168.0.5 a client connects to 192.168.0.7, but not to the broadcast address of its
network. -/
theorem MmpConfiguration.connects_to_neighbour :
    let host : Host := .unicast
      [⟨.up, [⟨some (.overwrite .zero (.ofSinAddr 0 0x0500A8C0)), 24, by decide⟩]⟩]
    let config (sAddr : UInt32) : MmpConfiguration :=
      { server := .overwrite .zero (.ofSinAddr (htons mmpDefaultPort) sAddr) }
    (config 0x0700A8C0).Connects host (fun _ => []) ∧
      ¬ (config 0xFF00A8C0).Connects host fun _ => [] := by
  intro host config
  have connects := fun sAddr => (connects_iff (config sAddr) host fun _ => []).1
  exact ⟨(connects _).mpr (by decide), fun broadcast => absurd ((connects _).mp broadcast)
    (by decide)⟩

/-- What is possible on a machine is possible. -/
theorem ConnectOutcome.On.of {outcome : ConnectOutcome} {config : MmpConfiguration}
    {env : DiscoverEnv} {failing : Option StartStep}
    (arises : outcome.On config env failing host answers) : outcome.Of config env failing := by
  intro allocates started
  obtain ⟨d, run, ended⟩ := arises allocates started
  have steps : Relation.ReflTransGen Discovery.Step ((MmpClient.new config).discover env) d :=
    Relation.ReflTransGen.mono (fun _ _ allows => allows.step) _ _ run
  cases discovered : outcome.discover with
  | none =>
      rw [discovered] at ended
      exact ⟨d, steps, ended⟩
  | some code =>
      rw [discovered] at ended
      exact ⟨d.client, ⟨d, steps, ended.1, rfl⟩, fun success => (ended.2 success).1⟩

/-- Whatever the system does, a connection needs a server of a supported family. -/
theorem ConnectOutcome.Of.supported {outcome : ConnectOutcome} {config : MmpConfiguration}
    {env : DiscoverEnv} {failing : Option StartStep} (arises : outcome.Of config env failing)
    (succeeds : outcome.Succeeds) : config.server.Supported := by
  obtain ⟨allocates, started, found, -⟩ := succeeds
  have steps := arises allocates started
  rw [found] at steps
  obtain ⟨left, ⟨d, run, returned, -⟩, -⟩ := steps
  unfold MmpClient.discover at run
  rcases (MmpClient.new config).serverPort_cases with
    ⟨wildcard, -⟩ | ⟨-, supported, -⟩ | ⟨-, given⟩
  · exact MmpClient.supported_of_isWildcard wildcard
  · exact supported
  · rw [given] at run
    have finished := Discovery.eq_of_ended run (Or.inr ⟨_, rfl⟩)
    subst finished
    exact absurd (DiscoverPc.returned.inj returned) (by decide)

/-! ## The tray window -/

namespace TrayWindow

variable {api : EndPointApi} {callbacks : TrayCallbacks} {key : Option RegistryKey}
  {tray : TrayWindow} {config : MmpConfiguration}

/-- The settings leave the client address alone, and the server address as well if the key
names no server. -/
theorem addresses_of_configure (configured : (configure api key).1 = some config) :
    config.client = .zero ∧
      ((∀ values, key = some values → values.getValueString "Server" = none) →
        config.server = .zero) := by
  cases key with
  | none =>
      cases configured
      exact ⟨rfl, fun _ => rfl⟩
  | some values =>
      unfold configure mmpConfigureFromRegistryKey at configured
      cases named : values.getValueString "Server" with
      | none =>
          simp only [named] at configured
          cases configured
          exact ⟨rfl, fun _ => rfl⟩
      | some server =>
          simp only [named] at configured
          refine ⟨?_, fun unnamed => absurd (named.symm.trans (unnamed values rfl)) (by simp)⟩
          unfold mmpConfigureServerw at configured
          dsimp only at configured
          split at configured
          · cases configured
            rfl
          · cases configured
            rfl

/-- The client address of the window is never set. -/
theorem client_of_create (created : create api callbacks key = some tray) :
    tray.config.client = .zero ∧
      ((∀ values, key = some values → values.getValueString "Server" = none) →
        tray.config.server = .zero) := by
  unfold create at created
  split at created
  · cases created
  · obtain ⟨config, configured, rfl⟩ := Option.map_eq_some_iff.mp created
    obtain ⟨client, server⟩ := addresses_of_configure configured
    exact ⟨client, server⟩

/-- A window whose registry key names no server never connects, however often the menu is
used and whatever the system does, and each attempt for which there is memory leaves a
client behind. -/
theorem never_subscribes (created : create api callbacks key = some tray)
    (unnamed : ∀ values, key = some values → values.getValueString "Server" = none)
    (commands : List TrayCommand)
    (arise : ∀ outcome, .subscribe outcome ∈ commands →
      ∃ env failing, outcome.Of tray.config env failing) :
    (tray.after commands).mousePad = none ∧
      (tray.after commands).library.live.length =
        commands.countP fun
          | .subscribe outcome => outcome.allocates
          | _ => false := by
  have unset := (client_of_create created).2 unnamed
  have fails : ∀ outcome, .subscribe outcome ∈ commands → ¬ outcome.Succeeds := by
    intro outcome member succeeds
    obtain ⟨env, failing, arises⟩ := arise outcome member
    have supported := arises.supported succeeds
    rw [unset] at supported
    exact absurd supported (by decide)
  obtain ⟨accounts, unsubscribed, -⟩ := accounts_of_create created
  obtain ⟨final, handle⟩ := accounts.after commands
  have unconnected : TrayCommand.clientsOf TrayCommand.Subscribes tray.library.allocated
      commands = [] := by
    refine TrayCommand.clientsOf_eq_nil _ fun command member => ?_
    cases command with
    | subscribe outcome => exact decide_eq_false (fails outcome member)
    | exit => rfl
    | other => rfl
  have none : (tray.after commands).mousePad = none := by
    rw [handle, unconnected, unsubscribed]
    rfl
  refine ⟨none, ?_⟩
  have length := final.live.length_eq
  rw [none, List.nil_append, Option.toList_none, List.nil_append,
    TrayCommand.length_clientsOf_leaks] at length
  rw [length]
  refine List.countP_congr fun command member => ?_
  cases command with
  | subscribe outcome => simp [TrayCommand.Leaks, ConnectOutcome.Leaks, fails outcome member]
  | exit => rfl
  | other => rfl

/-- The key cannot be opened, and the menu is used twice. -/
theorem never_subscribes_without_key :
    let refused : TrayCommand := .subscribe ⟨true, 0, some (hresultFromWin32 wsaeafnosupport), 0⟩
    ∃ tray : TrayWindow, (tray.after [refused, refused]).mousePad = none ∧
      (tray.after [refused, refused]).library.live.length = 2 := by
  intro refused
  let api : EndPointApi :=
    { parseNetworkString := fun _ => .ok .unspecified
      getAddrInfo := fun _ _ => .ok []
      fromBytes := fun _ => none }
  have created : create api ⟨1, 2, by decide⟩ none = some
      { config := { onMouseButton := 1, onMouseMove := 2 }
        library := ⟨[], 0, 0, 0⟩
        mousePad := none
        quit := false } := rfl
  refine ⟨_, never_subscribes created (fun _ opened => by cases opened) [refused, refused] ?_⟩
  intro outcome member
  have same : outcome = ⟨true, 0, some (hresultFromWin32 wsaeafnosupport), 0⟩ := by
    simpa [refused] using member
  subst same
  refine ⟨MmpClient.obliging .loopback, none, fun _ _ => ⟨_, ⟨_, .refl, ?_, rfl⟩, fun zero => ?_⟩⟩
  · rfl
  · exact absurd zero (by decide)

end TrayWindow

end MagicMousePad
