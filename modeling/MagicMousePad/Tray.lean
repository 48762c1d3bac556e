import MagicMousePad.Connect
import MagicMousePad.Configuration

/-!
# The tray window

The application that moves the cursor of a remote desktop: a window that connects when
the menu says so, and the callbacks that turn what the client reports into input.

The window holds one handle.  A new connection is made before the handle of the old one
is destroyed, and if it is not made the old one stays.  The clients that
`visus::mmp::connect` leaves behind when it throws are never destroyed.
-/

namespace MagicMousePad

/-! ## Input -/

/-- The buttons that `SendInput` is asked for. -/
inductive SystemButton
  | left
  | middle
  | right
  deriving DecidableEq

/-- The calls by which the callbacks change the desktop: `SendInput` with one mouse
event, and `SetCursorPos`. -/
inductive Input
  | mouseEvent (button : SystemButton) (down : Bool)
  | cursorPos (x y : Int32)
  deriving DecidableEq

/-- The `mmp_mouse_button` for which `SendInput` is asked for a button. -/
def SystemButton.code : SystemButton → UInt8
  | .left => mmpMouseButtonLeft
  | .middle => mmpMouseButtonMiddle
  | .right => mmpMouseButtonRight

namespace TrayWindow

/-- `tray_window::on_mouse_button`. -/
def onMouseButton (button : UInt8) (down : Bool) (_x _y : Int32) (_context : Pointer) :
    Option Input :=
  if button = mmpMouseButtonLeft then some (.mouseEvent .left down)
  else if button = mmpMouseButtonMiddle then some (.mouseEvent .middle down)
  else if button = mmpMouseButtonRight then some (.mouseEvent .right down)
  else none

/-- `tray_window::on_mouse_move`. -/
def onMouseMove (x y : Int32) (_context : Pointer) : Option Input := some (.cursorPos x y)

/-- What a callback of the client does to the desktop. -/
def inject : Call → Option Input
  | .mouseButton button down x y context => onMouseButton button down x y context
  | .mouseMove x y context => onMouseMove x y context

theorem onMouseButton_eq_some_iff {button : UInt8} {down : Bool} {x y : Int32}
    {context : Pointer} {input : Input} :
    onMouseButton button down x y context = some input ↔
      ∃ b : SystemButton, b.code = button ∧ input = .mouseEvent b down := by
  unfold onMouseButton
  constructor
  · intro injected
    split at injected
    · rename_i left
      exact ⟨.left, left.symm, (Option.some.inj injected).symm⟩
    · split at injected
      · rename_i middle
        exact ⟨.middle, middle.symm, (Option.some.inj injected).symm⟩
      · split at injected
        · rename_i right
          exact ⟨.right, right.symm, (Option.some.inj injected).symm⟩
        · cases injected
  · intro pressed
    rcases pressed with ⟨b, rfl, rfl⟩
    cases b <;> rfl

end TrayWindow

/-! ## The window -/

/-- The addresses of the two callbacks. -/
structure TrayCallbacks where
  onMouseButton : Pointer
  onMouseMove : Pointer
  present : onMouseButton ≠ nullptr ∧ onMouseMove ≠ nullptr

/-- `tray_window`, with the clients of its process. -/
structure TrayWindow where
  config : MmpConfiguration
  library : ClientLibrary
  mousePad : MmpHandle
  quit : Bool
  deriving DecidableEq

/-- The low word of `wParam` in `WM_COMMAND`, and how the steps of `mmp_connect` end. -/
inductive TrayCommand
  | subscribe (outcome : ConnectOutcome)
  | exit
  | other
  deriving DecidableEq

namespace TrayWindow

/-- The settings in the registry key, if it can be opened. -/
def configure (api : EndPointApi) : Option RegistryKey → Configured
  | none => (some {}, 0)
  | some key => mmpConfigureFromRegistryKey api (some {}) (some key)

/-- `tray_window::create` once its window exists; an exception is thrown when the settings
are not read. -/
def create (api : EndPointApi) (callbacks : TrayCallbacks) (key : Option RegistryKey) :
    Option TrayWindow :=
  if (configure api key).2 ≠ 0 then none
  else
    (configure api key).1.map fun config =>
      { config :=
          { config with
            onMouseButton := callbacks.onMouseButton
            onMouseMove := callbacks.onMouseMove }
        library := ⟨[], 0, 0, 0⟩
        mousePad := none
        quit := false }

/-- `WM_COMMAND` in `tray_window::wnd_proc`.  The assignment to the handle destroys the
one that was there, and an exception skips the assignment. -/
def command (tray : TrayWindow) : TrayCommand → TrayWindow
  | .subscribe outcome =>
      match tray.library.connect outcome with
      | (library, none) => { tray with library := library }
      | (library, some handle) =>
          { tray with library := library.deleteMmpHandle tray.mousePad, mousePad := handle }
  | .exit => { tray with quit := true }
  | .other => tray

/-- The clients after `tray_window::~tray_window`. -/
def destroy (tray : TrayWindow) : ClientLibrary := tray.library.deleteMmpHandle tray.mousePad

end TrayWindow

/-! ## Connections -/

namespace ConnectOutcome

/-- Every step succeeds. -/
def Succeeds (outcome : ConnectOutcome) : Prop :=
  outcome.allocates = true ∧ outcome.startup = 0 ∧ outcome.discover = some 0 ∧ outcome.start = 0

instance (outcome : ConnectOutcome) : Decidable outcome.Succeeds :=
  inferInstanceAs (Decidable (_ ∧ _ ∧ _ ∧ _))

/-- A step fails after the client has been allocated. -/
def Leaks (outcome : ConnectOutcome) : Prop := outcome.allocates = true ∧ ¬ outcome.Succeeds

instance (outcome : ConnectOutcome) : Decidable outcome.Leaks :=
  inferInstanceAs (Decidable (_ ∧ _))

end ConnectOutcome

namespace ClientLibrary

/-- The library with another client, after `startups` successful calls of
`WSAStartup`. -/
def allocate (library : ClientLibrary) (startups : ℕ) : ClientLibrary where
  live := library.allocated :: library.live
  allocated := library.allocated + 1
  startups := library.startups + startups
  cleanups := library.cleanups

/-- `connect` does nothing without memory, and otherwise returns the new client or leaves
it behind. -/
theorem connect_outcome (library : ClientLibrary) (outcome : ConnectOutcome) :
    (outcome.allocates = false ∧ library.connect outcome = (library, none)) ∨
      (outcome.Succeeds ∧
        library.connect outcome = (library.allocate 1, some (some library.allocated))) ∨
      (outcome.Leaks ∧ library.connect outcome =
        (library.allocate (if outcome.startup = 0 then 1 else 0), none)) := by
  rcases outcome with ⟨allocates, startup, discover, start⟩
  cases allocates with
  | false =>
      have failure : hresultFromWin32 errorOutofmemory ≠ 0 := by decide
      exact Or.inl ⟨rfl, by simp [connect, mmpConnect, failure]⟩
  | true =>
      by_cases started : startup = 0
      · subst started
        cases discover with
        | none =>
            exact Or.inr (Or.inr ⟨⟨rfl, fun succeeds => by cases succeeds.2.2.1⟩, rfl⟩)
        | some code =>
            by_cases discovered : code = 0
            · subst discovered
              by_cases begun : start = 0
              · subst begun
                exact Or.inr (Or.inl ⟨⟨rfl, rfl, rfl, rfl⟩, rfl⟩)
              · refine Or.inr (Or.inr ⟨⟨rfl, fun succeeds => begun succeeds.2.2.2⟩, ?_⟩)
                simp [connect, mmpConnect, begun, allocate]
            · have failure : hresultFromWin32 code ≠ 0 :=
                fun zero => discovered (hresultFromWin32_eq_zero_iff.mp zero)
              refine Or.inr (Or.inr ⟨⟨rfl, fun succeeds => ?_⟩, ?_⟩)
              · exact discovered (Option.some.inj succeeds.2.2.1)
              · simp [connect, mmpConnect, discovered, failure, allocate]
      · have failure : hresultFromWin32 startup ≠ 0 :=
          fun zero => started (hresultFromWin32_eq_zero_iff.mp zero)
        refine Or.inr (Or.inr ⟨⟨rfl, fun succeeds => started succeeds.2.1⟩, ?_⟩)
        simp [connect, mmpConnect, started, failure, allocate]

end ClientLibrary

/-! ## Runs -/

namespace TrayCommand

/-- The command connects. -/
def Subscribes : TrayCommand → Bool
  | .subscribe outcome => outcome.Succeeds
  | _ => false

/-- The command leaves a client behind. -/
def Leaks : TrayCommand → Bool
  | .subscribe outcome => outcome.Leaks
  | _ => false

/-- The client left behind has initialised Winsock. -/
def LeaksWinsock : TrayCommand → Bool
  | .subscribe outcome => outcome.Leaks && outcome.startup = 0
  | _ => false

/-- The command allocates a client. -/
def Allocates : TrayCommand → Bool
  | .subscribe outcome => outcome.allocates
  | _ => false

/-- Of the clients that the commands allocate, which are numbered from `n` on, those of
the commands that pass a test. -/
def clientsOf (test : TrayCommand → Bool) (n : ℕ) (commands : List TrayCommand) : List ℕ :=
  (((commands.filter Allocates).zipIdx n).filter fun t => test t.1).map Prod.snd

theorem clientsOf_cons (test : TrayCommand → Bool) (n : ℕ) (command : TrayCommand)
    (commands : List TrayCommand) :
    clientsOf test n (command :: commands) =
      clientsOf test n [command] ++ clientsOf test (n + if command.Allocates then 1 else 0)
        commands := by
  unfold clientsOf
  cases allocates : command.Allocates with
  | false => simp [allocates]
  | true => cases passes : test command <;> simp [allocates, passes]

theorem clientsOf_singleton (test : TrayCommand → Bool) (n : ℕ) (command : TrayCommand) :
    clientsOf test n [command] = if command.Allocates && test command then [n] else [] := by
  unfold clientsOf
  cases allocates : command.Allocates with
  | false => simp [allocates]
  | true => cases passes : test command <;> simp [allocates, passes]

theorem clientsOf_eq_nil {test : TrayCommand → Bool} (n : ℕ) {commands : List TrayCommand}
    (fails : ∀ command ∈ commands, test command = false) : clientsOf test n commands = [] := by
  induction commands generalizing n with
  | nil => rfl
  | cons command commands ih =>
      obtain ⟨here, later⟩ := List.forall_mem_cons.mp fails
      rw [clientsOf_cons, clientsOf_singleton, here, Bool.and_false, ih _ later]
      rfl

/-- Only a command that allocates leaves a client behind. -/
theorem length_clientsOf_leaks (n : ℕ) (commands : List TrayCommand) :
    (clientsOf Leaks n commands).length = commands.countP Leaks := by
  induction commands generalizing n with
  | nil => rfl
  | cons command commands ih =>
      have allocates : command.Leaks = true → command.Allocates = true := by
        cases command with
        | subscribe outcome => exact fun leaks => (of_decide_eq_true leaks).1
        | exit => exact id
        | other => exact id
      rw [clientsOf_cons, clientsOf_singleton, List.length_append, ih, List.countP_cons,
        Nat.add_comm]
      cases leaks : command.Leaks with
      | false => simp
      | true => simp [allocates leaks]

end TrayCommand

namespace TrayWindow

open TrayCommand (clientsOf clientsOf_cons clientsOf_singleton)

/-- The clients that live are the one of the handle and those left behind, `winsock` of
them with Winsock. -/
structure Accounts (tray : TrayWindow) (leaked : List ℕ) (winsock : ℕ) : Prop where
  live : tray.library.live.Perm (tray.mousePad.toList ++ leaked)
  nodup : tray.library.live.Nodup
  fresh : ∀ handle ∈ tray.library.live, handle < tray.library.allocated
  started : tray.library.startups =
    tray.library.cleanups + tray.mousePad.toList.length + winsock

variable {tray : TrayWindow} {leaked : List ℕ} {winsock : ℕ}

/-- Destroying the handle leaves the clients left behind. -/
theorem Accounts.destroy (accounts : tray.Accounts leaked winsock) :
    tray.destroy.live.Perm leaked ∧
      tray.destroy.startups = tray.destroy.cleanups + winsock := by
  have live := accounts.live
  have started := accounts.started
  unfold TrayWindow.destroy ClientLibrary.deleteMmpHandle
  cases handle : tray.mousePad with
  | none =>
      rw [handle] at live started
      exact ⟨live, started⟩
  | some client =>
      rw [handle] at live started
      refine ⟨?_, ?_⟩
      · have erased := live.erase client
        simpa [ClientLibrary.mmpDisconnect] using erased
      · simp only [Option.toList_some, List.length_singleton] at started
        simp only [ClientLibrary.mmpDisconnect, ne_eq, reduceCtorEq, not_false_eq_true, if_true]
        omega

/-- A connection that is made takes the place of the one before. -/
theorem Accounts.subscribed (accounts : tray.Accounts leaked winsock) :
    Accounts
      { tray with
        library := (tray.library.allocate 1).deleteMmpHandle tray.mousePad
        mousePad := some tray.library.allocated } leaked winsock := by
  have live := accounts.live
  have nodup := accounts.nodup
  have fresh := accounts.fresh
  have started := accounts.started
  have unused : tray.library.allocated ∉ tray.library.live :=
    fun present => lt_irrefl _ (fresh _ present)
  unfold ClientLibrary.deleteMmpHandle
  cases handle : tray.mousePad with
  | none =>
      rw [handle] at live started
      refine ⟨live.cons _, List.nodup_cons.mpr ⟨unused, nodup⟩, ?_, ?_⟩
      · intro client member
        rcases List.mem_cons.mp member with rfl | older
        · exact Nat.lt_succ_self _
        · exact (fresh client older).trans (Nat.lt_succ_self _)
      · simpa [ClientLibrary.allocate, Nat.add_right_comm] using started
  | some client =>
      rw [handle] at live started
      have present : client ∈ tray.library.live := live.symm.subset (by simp)
      have other : client ≠ tray.library.allocated := fun same => unused (same ▸ present)
      have kept : (tray.library.allocated :: tray.library.live).erase client =
          tray.library.allocated :: tray.library.live.erase client := by
        rw [List.erase_cons_tail]
        simpa using other.symm
      have replaced : ((tray.library.allocate 1).mmpDisconnect (some client)).1.live =
          tray.library.allocated :: tray.library.live.erase client := kept
      refine ⟨?_, ?_, ?_, ?_⟩
      · simp only [ne_eq, reduceCtorEq, not_false_eq_true, if_true, replaced]
        refine List.Perm.cons _ ?_
        simpa using live.erase client
      · simp only [ne_eq, reduceCtorEq, not_false_eq_true, if_true, replaced]
        refine List.nodup_cons.mpr ⟨fun member => unused (List.mem_of_mem_erase member), ?_⟩
        exact nodup.erase client
      · simp only [ne_eq, reduceCtorEq, not_false_eq_true, if_true, replaced]
        intro handle member
        rcases List.mem_cons.mp member with rfl | older
        · exact Nat.lt_succ_self _
        · exact (fresh handle (List.mem_of_mem_erase older)).trans (Nat.lt_succ_self _)
      · simp only [Option.toList_some, List.length_singleton] at started ⊢
        simp only [ClientLibrary.mmpDisconnect, ClientLibrary.allocate, ne_eq, reduceCtorEq,
          not_false_eq_true, if_true]
        omega

/-- A connection that is not made leaves its client behind and the handle alone. -/
theorem Accounts.leak (accounts : tray.Accounts leaked winsock) (startups : ℕ) :
    Accounts { tray with library := tray.library.allocate startups }
      (leaked ++ [tray.library.allocated]) (winsock + startups) := by
  have unused : tray.library.allocated ∉ tray.library.live :=
    fun present => lt_irrefl _ (accounts.fresh _ present)
  refine ⟨?_, List.nodup_cons.mpr ⟨unused, accounts.nodup⟩, ?_, ?_⟩
  · refine (accounts.live.cons _).trans ?_
    rw [← List.append_assoc]
    exact (List.perm_append_singleton _ _).symm
  · intro client member
    rcases List.mem_cons.mp member with rfl | older
    · exact Nat.lt_succ_self _
    · exact (accounts.fresh client older).trans (Nat.lt_succ_self _)
  · have started := accounts.started
    simp only [ClientLibrary.allocate]
    omega

/-- A command connects anew, leaves a client behind, or does neither. -/
theorem Accounts.command (accounts : tray.Accounts leaked winsock) (command : TrayCommand) :
    (tray.command command).Accounts
        (leaked ++ clientsOf TrayCommand.Leaks tray.library.allocated [command])
        (winsock + if command.LeaksWinsock then 1 else 0) ∧
      (tray.command command).mousePad =
        (clientsOf TrayCommand.Subscribes tray.library.allocated [command]).getLast?.or
          tray.mousePad ∧
      (tray.command command).library.allocated =
        tray.library.allocated + if command.Allocates then 1 else 0 := by
  have kept : tray.Accounts (leaked ++ []) winsock := by rwa [List.append_nil]
  cases command with
  | exit => exact ⟨⟨kept.live, kept.nodup, kept.fresh, kept.started⟩, rfl, rfl⟩
  | other => exact ⟨kept, rfl, rfl⟩
  | subscribe outcome =>
      rw [clientsOf_singleton, clientsOf_singleton]
      rcases tray.library.connect_outcome outcome with
        ⟨refused, result⟩ | ⟨succeeds, result⟩ | ⟨leaks, result⟩
      · have clean : ¬ outcome.Leaks := fun leaks =>
          Bool.noConfusion (refused.symm.trans leaks.1)
        simp only [TrayWindow.command, result, TrayCommand.Allocates, TrayCommand.LeaksWinsock,
          refused, clean, decide_false, Bool.false_and, Bool.false_eq_true, if_false,
          List.getLast?_nil, Option.none_or, Nat.add_zero]
        exact ⟨kept, trivial, trivial⟩
      · have clean : ¬ outcome.Leaks := fun leaks => leaks.2 succeeds
        simp only [TrayWindow.command, result, TrayCommand.Allocates, TrayCommand.LeaksWinsock,
          TrayCommand.Leaks, TrayCommand.Subscribes, succeeds.1, succeeds, clean, decide_false,
          decide_true, Bool.and_self, Bool.and_false, Bool.false_and, Bool.false_eq_true, if_false,
          if_true, List.append_nil, List.getLast?_singleton, Option.some_or, Nat.add_zero]
        exact ⟨accounts.subscribed, trivial, by
          cases handle : tray.mousePad <;> simp [ClientLibrary.deleteMmpHandle,
            ClientLibrary.mmpDisconnect, ClientLibrary.allocate]⟩
      · simp only [TrayWindow.command, result, TrayCommand.Allocates, TrayCommand.LeaksWinsock,
          TrayCommand.Leaks, TrayCommand.Subscribes, leaks.1, leaks.2, leaks, decide_false,
          decide_true, Bool.and_self, Bool.and_false, Bool.true_and, Bool.false_eq_true,
          if_false, if_true, List.getLast?_nil, Option.none_or, decide_eq_true_eq]
        exact ⟨accounts.leak _, trivial, rfl⟩

/-- The window after commands of the menu. -/
def after (tray : TrayWindow) (commands : List TrayCommand) : TrayWindow :=
  commands.foldl command tray

theorem Accounts.after (accounts : tray.Accounts leaked winsock) (commands : List TrayCommand) :
    (tray.after commands).Accounts
        (leaked ++ clientsOf TrayCommand.Leaks tray.library.allocated commands)
        (winsock + commands.countP TrayCommand.LeaksWinsock) ∧
      (tray.after commands).mousePad =
        (clientsOf TrayCommand.Subscribes tray.library.allocated commands).getLast?.or
          tray.mousePad := by
  induction commands generalizing tray leaked winsock with
  | nil =>
      refine ⟨?_, rfl⟩
      rw [clientsOf, List.filter_nil, List.zipIdx_nil, List.filter_nil, List.map_nil,
        List.append_nil]
      exact accounts
  | cons command commands ih =>
      obtain ⟨next, handle, allocated⟩ := accounts.command command
      obtain ⟨final, handle'⟩ := ih next
      rw [allocated] at final handle'
      refine ⟨?_, ?_⟩
      · rw [clientsOf_cons, ← List.append_assoc, List.countP_cons,
          Nat.add_comm (commands.countP _), ← Nat.add_assoc]
        exact final
      · rw [TrayWindow.after, List.foldl_cons, ← TrayWindow.after, handle', handle,
          clientsOf_cons _ _ command commands, List.getLast?_append, Option.or_assoc]

/-- Nothing is connected in a window that has just been created. -/
theorem accounts_of_create {api : EndPointApi} {callbacks : TrayCallbacks}
    {key : Option RegistryKey} (created : create api callbacks key = some tray) :
    tray.Accounts [] 0 ∧ tray.mousePad = none ∧ tray.library.allocated = 0 := by
  unfold create at created
  split at created
  · cases created
  · obtain ⟨config, -, rfl⟩ := Option.map_eq_some_iff.mp created
    exact ⟨⟨.nil, .nil, by simp, rfl⟩, rfl, rfl⟩

/-- Whatever the menu is used for, the clients that live are the last one that has
connected, which the handle names, and those whose connections have failed after their
allocation, a client being known by how many were allocated before it; exactly the
latter outlive the window, together with their references to Winsock. -/
theorem clients_after {api : EndPointApi} {callbacks : TrayCallbacks} {key : Option RegistryKey}
    (created : create api callbacks key = some tray) (commands : List TrayCommand) :
    let last := tray.after commands
    last.mousePad = (clientsOf TrayCommand.Subscribes 0 commands).getLast? ∧
      last.library.live.Perm
        (last.mousePad.toList ++ clientsOf TrayCommand.Leaks 0 commands) ∧
      last.library.live.Nodup ∧
      last.destroy.live.Perm (clientsOf TrayCommand.Leaks 0 commands) ∧
      last.destroy.startups =
        last.destroy.cleanups + commands.countP TrayCommand.LeaksWinsock := by
  intro last
  obtain ⟨accounts, unsubscribed, unallocated⟩ := accounts_of_create created
  obtain ⟨final, handle⟩ := accounts.after commands
  rw [unallocated, List.nil_append, Nat.zero_add] at final
  rw [unallocated, unsubscribed, Option.or_none] at handle
  obtain ⟨left, winsock⟩ := final.destroy
  exact ⟨handle, final.live, final.nodup, left, winsock⟩

/-- A window without settings, in which there is no memory for the first of four
connections and the third runs into a timeout: the second client allocated remains. -/
theorem clients_after_of_timeout :
    let refused : TrayCommand := .subscribe ⟨false, 0, some 0, 0⟩
    let made : TrayCommand := .subscribe ⟨true, 0, some 0, 0⟩
    let timeout : TrayCommand := .subscribe ⟨true, 0, some (hresultFromWin32 1460), 0⟩
    ∃ tray : TrayWindow, (tray.after [refused, made, timeout, made]).mousePad = some 2 ∧
      (tray.after [refused, made, timeout, made]).destroy.live.Perm [1] := by
  intro refused made timeout
  let api : EndPointApi :=
    { parseNetworkString := fun _ => .ok .unspecified
      getAddrInfo := fun _ _ => .ok []
      fromBytes := fun _ => none }
  have created : create api ⟨1, 2, by decide⟩ none = some
      { config := { onMouseButton := 1, onMouseMove := 2 }
        library := ⟨[], 0, 0, 0⟩
        mousePad := none
        quit := false } := rfl
  obtain ⟨handle, -, -, left, -⟩ := clients_after created [refused, made, timeout, made]
  exact ⟨_, handle, left⟩

end TrayWindow

end MagicMousePad
