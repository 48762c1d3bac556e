import MagicMousePad.Configuration
import MagicMousePad.Connection
import MagicMousePad.Pad
import MagicMousePad.Visibility

/-!
# Printing positions

`dumppos` connects to a mouse pad and prints what its callbacks are told.  It asks for the
positions to be clipped, but leaves the range that they are clipped to empty, so whatever it
receives, it prints the same position.
-/

namespace MagicMousePad

namespace MmpClient

variable {client left : MmpClient} {env : DiscoverEnv} {code : Int32}

/-- The client but for its addresses and its number. -/
def unaddressed (client : MmpClient) : MmpClient :=
  { client with
    config.client := .zero
    config.server := .zero
    sequenceNumber := 0 }

theorem unaddressed_discoverReceive {buffer : ByteOrder.Memory} {data : Datagram}
    {peer : SockaddrStorage} (found : client.discoverReceive buffer data peer = some left) :
    left.unaddressed = client.unaddressed := by
  unfold discoverReceive at found
  dsimp only at found
  split at found
  · cases found
  · split at found
    · rw [← Option.some.inj found]
      rfl
    · cases found

/-- A step of the search leaves the client alone or stores what was announced. -/
theorem client_step {d d' : Discovery} (step : d.Step d') :
    d'.client = d.client ∨
      ∃ buffer data peer, d.client.discoverReceive buffer data peer = some d'.client := by
  cases step with
  | receive data peer receiving running =>
      split
      · exact Or.inl rfl
      · rename_i found
        exact Or.inr ⟨_, _, _, found⟩
  | test | sent | failed | sleep | exhausted | leave | receiveFailed => exact Or.inl rfl

theorem unaddressed_step {d d' : Discovery} (step : d.Step d') :
    d'.client.unaddressed = d.client.unaddressed := by
  rcases client_step step with same | ⟨buffer, data, peer, found⟩
  · rw [same]
  · exact unaddressed_discoverReceive found

theorem unaddressed_matchFamilies (client : MmpClient) :
    client.matchFamilies.1.unaddressed = client.unaddressed := by
  unfold matchFamilies
  dsimp only
  split
  · rfl
  · split <;> rfl

theorem unaddressed_discover (client : MmpClient) (env : DiscoverEnv) :
    (client.discover env).client.unaddressed = client.unaddressed := by
  rcases client.serverPort_cases with
    ⟨-, port, given⟩ | ⟨-, -, given⟩ | ⟨-, given⟩
  · rw [discover, given]
    rcases client.search_cases env port with ⟨main, failed, -⟩ | ⟨-, same, -⟩
    · dsimp only
      rw [failed]
      rfl
    · dsimp only
      rw [same]
  · rw [discover, given]
    exact unaddressed_matchFamilies client
  · rw [discover, given]
    rfl

/-- `discover` changes nothing but the addresses and the number. -/
theorem Discovers.unaddressed (ran : client.Discovers env left code) :
    left.unaddressed = client.unaddressed := by
  rcases ran with ⟨d, run, -, rfl⟩
  induction run with
  | refl => exact unaddressed_discover client env
  | tail run step ih => exact (unaddressed_step step).trans ih

end MmpClient

namespace DumpPos

/-! ## `dumppos` -/

/-- The two digits of a byte for `%02x`. -/
def hex2 (n : UInt8) : String :=
  let digits := Nat.toDigits 16 n.toNat
  String.ofList (List.replicate (2 - digits.length) '0' ++ digits)

/-- What `on_mouse_button` prints. -/
def onMouseButton (button : UInt8) (down : Bool) (x y : Int32) : String :=
  let state := if down then "down" else "up"
  s!"{hex2 button} {state} at {x.toInt}, {y.toInt}\n"

/-- What `on_mouse_move` prints. -/
def onMouseMove (x y : Int32) : String :=
  s!"Mouse moved to: {x.toInt}, {y.toInt}\n"

/-- What a callback prints. -/
def print : Call → String
  | .mouseButton button down x y _ => onMouseButton button down x y
  | .mouseMove x y _ => onMouseMove x y

/-- The configuration at the start of `_tmain`. -/
def config (moves buttons : Pointer) : MmpConfiguration where
  onMouseMove := moves
  onMouseButton := buttons
  flags := mmpFlagClip ||| mmpFlagLocal

/-- `_tmain` up to the connection: `argv` ends with a null pointer, which
`ParseNetworkString` does not accept. -/
def configure (api : EndPointApi) (moves buttons : Pointer) (argv : List WideString) :
    Configured :=
  if argv.length > 0 then
    match argv[1]? with
    | none => (some (config moves buttons), hresultFromWin32 errorInvalidParameter)
    | some server => mmpConfigureServerw api (some (config moves buttons)) server
  else (some (config moves buttons), 0)

/-- What is printed while the receiver thread runs. -/
def printed (r : Receiver) (outcomes : List RecvOutcome) : List String :=
  (Mealy.run Receiver.step r outcomes).2.filterMap fun reaction => reaction.call.map print

/-! ## What is printed -/

/-- The positions are clipped to an empty range and not moved from there. -/
structure EmptyRange (config : MmpConfiguration) : Prop where
  clips : config.has mmpFlagClip = true
  range : config.width = 0 ∧ config.height = 0
  offset : config.offsetX = 0 ∧ config.offsetY = 0

/-- The size of a screen is not negative. -/
def Nonnegative : RecvOutcome → Prop
  | .failed => True
  | .received _ screen => ¬ screen.width < 0 ∧ ¬ screen.height < 0

theorem clampAxis_zero (n : Int32) : clampAxis n 0 = 0 := by
  have empty : (0 : Int32).toInt = 0 := rfl
  have clamped := toInt_clampAxis (n := n) empty.ge
  rw [empty] at clamped
  rw [← Int32.toInt_inj, clamped, empty]
  unfold clampInt
  omega

theorem zero_clampAxis {size : Int32} (nonneg : ¬ size < 0) : clampAxis 0 size = 0 :=
  clampAxis_eq_self_iff.mpr ⟨Int32.le_refl 0, Int32.not_lt.mp nonneg⟩

theorem EmptyRange.place {config : MmpConfiguration} (empty : EmptyRange config) {screen : Screen}
    (wide : ¬ screen.width < 0) (high : ¬ screen.height < 0) (x y : Int32) :
    (MmpClient.place config screen x y).1 = (0, 0) := by
  obtain ⟨width, height⟩ := empty.range
  obtain ⟨offsetX, offsetY⟩ := empty.offset
  have none : (0 : UInt32).toInt32 = 0 := rfl
  have back : ∀ n : Int32, n.toUInt32.toInt32 = n := fun n => rfl
  have still : (0 : Int32) - 0 = 0 := rfl
  unfold MmpClient.place
  simp only [empty.clips, if_true, width, height, offsetX, offsetY, MmpClient.clip_eq, none,
    clampAxis_zero, still, back, zero_clampAxis wide, zero_clampAxis high]
  split <;> rfl

/-- A datagram leaves the configuration alone and is printed with the position zero, if it
is printed. -/
theorem EmptyRange.step {r : Receiver} (empty : EmptyRange r.client.config) {outcome : RecvOutcome}
    (sizes : Nonnegative outcome) :
    EmptyRange (r.step outcome).1.client.config ∧
      ∀ call ∈ (r.step outcome).2.call, call.position = (0, 0) := by
  rcases r.step_cases outcome with ⟨same, none, -⟩ | ⟨-, data, arrival, rfl, client, reaction⟩
  · rw [same, none]
    exact ⟨empty, by simp⟩
  · have config : ((r.client.step arrival).1).config = r.client.config :=
      r.client.config_step arrival
    rw [client, reaction, config]
    refine ⟨empty, fun call called => ?_⟩
    rcases r.client.handle_cases arrival.screen arrival.msg with
      ⟨-, result⟩ | ⟨-, -, result⟩ | ⟨-, -, result⟩
    · rw [MmpClient.step, result] at called
      cases called
    · rw [MmpClient.step, result] at called
      cases called
    · rw [MmpClient.step, result] at called
      rw [← Option.some.inj called, MmpConfiguration.position_report]
      exact empty.place sizes.1 sizes.2 _ _

theorem EmptyRange.printed {r : Receiver} (empty : EmptyRange r.client.config)
    {outcomes : List RecvOutcome} (sizes : ∀ outcome ∈ outcomes, Nonnegative outcome) :
    ∀ line ∈ printed r outcomes,
      line = onMouseMove 0 0 ∨ ∃ button down, line = onMouseButton button down 0 0 := by
  induction outcomes generalizing r with
  | nil => simp [DumpPos.printed]
  | cons outcome outcomes ih =>
      obtain ⟨empty', origin⟩ := empty.step (sizes outcome List.mem_cons_self)
      have rest := ih empty' fun other member =>
        sizes other (List.mem_cons_of_mem outcome member)
      intro line member
      rw [DumpPos.printed, Mealy.run_cons, List.filterMap_cons] at member
      cases called : (r.step outcome).2.call with
      | none =>
          rw [called] at member
          exact rest line member
      | some call =>
          rw [called] at member
          rcases List.mem_cons.mp member with rfl | later
          · have position := origin call called
            cases call with
            | mouseButton button down x y context =>
                cases position
                exact Or.inr ⟨button, down, rfl⟩
            | mouseMove x y context =>
                cases position
                exact Or.inl rfl
          · exact rest line later

/-- What is configured without an error is empty, and has no server unless it comes from an
argument. -/
theorem empty_of_configure {api : EndPointApi} {moves buttons : Pointer} {argv : List WideString}
    {config : MmpConfiguration} (configured : configure api moves buttons argv = (some config, 0)) :
    EmptyRange config ∧ (config.server.Supported → 2 ≤ argv.length) := by
  have clips : ((mmpFlagClip ||| mmpFlagLocal) &&& mmpFlagClip != 0) = true := by decide
  have begun : EmptyRange (DumpPos.config moves buttons) := ⟨clips, ⟨rfl, rfl⟩, ⟨rfl, rfl⟩⟩
  have failure : hresultFromWin32 errorInvalidParameter ≠ 0 := by decide
  unfold configure at configured
  split at configured
  · split at configured
    · exact absurd (Prod.mk.inj configured).2 failure
    · rename_i server here
      have same := Option.some.inj (Prod.mk.inj configured).1
      rw [← same]
      obtain ⟨long, -⟩ := List.getElem?_eq_some_iff.mp here
      exact ⟨⟨begun.clips, begun.range, begun.offset⟩, fun _ => long⟩
  · have same := Option.some.inj (Prod.mk.inj configured).1
    rw [← same]
    refine ⟨begun, fun supported => absurd supported ?_⟩
    change ¬ SockaddrStorage.zero.Supported
    decide

theorem EmptyRange.of_unaddressed {client left : MmpClient} (empty : EmptyRange client.config)
    (same : left.unaddressed = client.unaddressed) : EmptyRange left.config := by
  have flags := congrArg (fun c : MmpClient => c.config.flags) same
  have width := congrArg (fun c : MmpClient => c.config.width) same
  have height := congrArg (fun c : MmpClient => c.config.height) same
  have offsetX := congrArg (fun c : MmpClient => c.config.offsetX) same
  have offsetY := congrArg (fun c : MmpClient => c.config.offsetY) same
  refine ⟨?_, ⟨width.trans empty.range.1, height.trans empty.range.2⟩,
    offsetX.trans empty.offset.1, offsetY.trans empty.offset.2⟩
  have clips := empty.clips
  unfold MmpConfiguration.has at clips ⊢
  rw [show left.config.flags = client.config.flags from flags]
  exact clips

/-- Whatever its arguments are, if `dumppos` connects, there is one, and every line that it
prints says that the position is zero, whatever it receives. -/
theorem prints_origin {api : EndPointApi} {moves buttons : Pointer} {argv : List WideString}
    {config : MmpConfiguration} {env : DiscoverEnv} {left : MmpClient}
    (configured : configure api moves buttons argv = (some config, 0))
    (found : (MmpClient.new config).Discovers env left 0) (buffer : ByteOrder.Memory)
    {outcomes : List RecvOutcome}
    (sizes : ∀ outcome ∈ outcomes, Nonnegative outcome) :
    2 ≤ argv.length ∧ ∀ line ∈ printed ⟨(left.start none).1, buffer, false⟩ outcomes,
      line = onMouseMove 0 0 ∨ ∃ button down, line = onMouseButton button down 0 0 := by
  obtain ⟨empty, argument⟩ := empty_of_configure configured
  have same := found.unaddressed
  have idle : left.running = false := congrArg MmpClient.running same
  obtain ⟨address, started⟩ := MmpClient.start_none idle
  have arises : ConnectOutcome.Of ⟨true, 0, some 0, 0⟩ config env none := fun _ _ =>
    ⟨left, found, fun _ => by simp [started]⟩
  refine ⟨argument (arises.supported ⟨rfl, rfl, rfl, rfl⟩), EmptyRange.printed ?_ sizes⟩
  have kept : EmptyRange left.config := EmptyRange.of_unaddressed empty same
  rw [started]
  exact ⟨kept.clips, kept.range, kept.offset⟩

/-- A mouse at (6, 5) is reported by a server at 127.0.0.1. -/
theorem prints_origin_of_move :
    let api : EndPointApi :=
      { parseNetworkString := fun _ =>
          .ok (.ipv4 ⟨[2, 0, 57, 161, 127, 0, 0, 1] ++ List.replicate 8 0, by decide⟩)
        getAddrInfo := fun _ _ => .error ⟨11001, by decide⟩
        fromBytes := fun _ => none }
    let move : MouseMsg :=
      ((PadMessage.mk none ⟨6, 5⟩).toMouseMsg (0, 0)).withSequenceNumber (htonl 1)
    ∃ config left, configure api 1 2 [[100], [49]] = (some config, 0) ∧
      (MmpClient.new config).Discovers (MmpClient.obliging .loopback) left 0 ∧
      ∃ line, printed ⟨(left.start none).1, fun _ => 0, false⟩
          [.received move.datagram ⟨800, 600⟩] = [line] ∧
        (line = onMouseMove 0 0 ∨ ∃ button down, line = onMouseButton button down 0 0) := by
  intro api move
  let config : MmpConfiguration :=
    { DumpPos.config 1 2 with
      server := SockaddrStorage.zero.memcpy
        ([2, 0, 57, 161, 127, 0, 0, 1] ++ List.replicate 8 0) (by decide) }
  have configured : configure api 1 2 [[100], [49]] = (some config, 0) := rfl
  have found : (MmpClient.new config).Discovers (MmpClient.obliging .loopback)
      (MmpClient.new config).matchFamilies.1 0 := ⟨_, .refl, by decide +kernel, by decide +kernel⟩
  have sizes : ∀ outcome ∈ [RecvOutcome.received move.datagram ⟨800, 600⟩],
      Nonnegative outcome := by
    intro outcome member
    rw [List.mem_singleton.mp member]
    exact ⟨by decide, by decide⟩
  obtain ⟨-, origin⟩ := prints_origin configured found (fun _ => 0) sizes
  obtain ⟨line, single⟩ : ∃ line, printed ⟨((MmpClient.new config).matchFamilies.1.start none).1,
      fun _ => 0, false⟩ [.received move.datagram ⟨800, 600⟩] = [line] :=
    List.length_eq_one_iff.mp (by decide +kernel)
  exact ⟨config, _, configured, found, line, single,
    origin line (single ▸ List.mem_singleton_self line)⟩

end DumpPos

end MagicMousePad
