import MagicMousePad.Client

/-!
# Connecting and disconnecting

`mmp_connect` hands the client it allocates to its caller before it knows whether
the connection succeeds, and leaves it to the destructor to release Winsock.
`visus::mmp::connect` puts the handle into a `unique_handle` only after it has
seen that the call succeeded, so a connection that fails after the allocation
leaves a client that nobody owns.
-/

namespace MagicMousePad

/-! ## Handles -/

def errorOutofmemory : Int32 := 14

/-- `mmp_handle`: null, or the client with a number. -/
abbrev MmpHandle := Option ℕ

/-- What the clients of a process hold: the `mmp_client` objects that live, the
number of those allocated, and the successful calls of `WSAStartup` and the calls
of `WSACleanup`. -/
structure ClientLibrary where
  live : List ℕ
  allocated : ℕ
  startups : ℕ
  cleanups : ℕ
  deriving DecidableEq

/-- How the steps of `mmp_connect` end: whether there is memory for a client, and
the codes of `WSAStartup`, `discover` and `start`.  An exception may leave
`discover`. -/
structure ConnectOutcome where
  allocates : Bool
  startup : Int32
  discover : Option Int32
  start : Int32
  deriving DecidableEq

namespace ClientLibrary

/-- `mmp_connect`: the handle stored and the code returned, which is `none` if an
exception leaves it.  `null` says whether one of its arguments is null. -/
def mmpConnect (library : ClientLibrary) (null : Bool) (outcome : ConnectOutcome) :
    ClientLibrary × MmpHandle × Option Int32 :=
  if null then (library, none, some (hresultFromWin32 errorInvalidParameter))
  else if !outcome.allocates then (library, none, some (hresultFromWin32 errorOutofmemory))
  else
    let handle := library.allocated
    let library :=
      { library with live := handle :: library.live, allocated := library.allocated + 1 }
    if outcome.startup ≠ 0 then (library, some handle, some (hresultFromWin32 outcome.startup))
    else
      let library := { library with startups := library.startups + 1 }
      match outcome.discover with
      | none => (library, some handle, none)
      | some code =>
          if code ≠ 0 then (library, some handle, some (hresultFromWin32 code))
          else (library, some handle, some outcome.start)

/-- `mmp_disconnect`, with what the destructor of the client does. -/
def mmpDisconnect (library : ClientLibrary) : MmpHandle → ClientLibrary × Int32
  | none => (library, hresultFromWin32 errorInvalidParameter)
  | some handle =>
      ({ library with live := library.live.erase handle, cleanups := library.cleanups + 1 }, 0)

/-- `delete_mmp_handle`. -/
def deleteMmpHandle (library : ClientLibrary) (handle : MmpHandle) : ClientLibrary :=
  if handle ≠ none then (library.mmpDisconnect handle).1 else library

/-- `visus::mmp::connect`: the handle returned, or an exception. -/
def connect (library : ClientLibrary) (outcome : ConnectOutcome) :
    ClientLibrary × Option MmpHandle :=
  let (library, handle, status) := library.mmpConnect false outcome
  match status with
  | none => (library, none)
  | some status => if status ≠ 0 then (library, none) else (library, some handle)

end ClientLibrary

/-! ## Programs -/

/-- A program that connects through `visus::mmp::connect`: the library and the
handles that the program owns. -/
structure Program where
  library : ClientLibrary
  owned : List MmpHandle
  deriving DecidableEq

/-- A call of `connect`, or the destruction of a handle. -/
inductive ProgramCall
  | connect (outcome : ConnectOutcome)
  | destroy (handle : MmpHandle)
  deriving DecidableEq

namespace Program

/-- Nothing has been connected. -/
def start : Program := ⟨⟨[], 0, 0, 0⟩, []⟩

/-- One call, with the handle returned.  Only handles that the program owns are
destroyed. -/
def step (program : Program) : ProgramCall → Program × Option MmpHandle
  | .connect outcome =>
      let (library, returned) := program.library.connect outcome
      (⟨library, returned.toList ++ program.owned⟩, returned)
  | .destroy handle =>
      if handle ∈ program.owned then
        (⟨program.library.deleteMmpHandle handle, program.owned.erase handle⟩, none)
      else (program, none)

/-- As many clients live, and as many calls of `WSAStartup` are open, as there are
handles owned. -/
def Balanced (program : Program) : Prop :=
  program.library.live.length = program.owned.length ∧
    (program.library.startups : Int) - program.library.cleanups = program.owned.length

instance (program : Program) : Decidable program.Balanced :=
  inferInstanceAs (Decidable (program.library.live.length = program.owned.length ∧
    (program.library.startups : Int) - program.library.cleanups = program.owned.length))

/-- The handles owned are those of the clients that live, each with an open call
of `WSAStartup`. -/
structure Inv (program : Program) : Prop where
  owned : program.owned = program.library.live.map some
  winsock : program.library.startups = program.library.cleanups + program.library.live.length

end Program

/-- The connection fails when there is no memory for the client, or not at all. -/
def ConnectOutcome.AllOrNothing (outcome : ConnectOutcome) : Prop :=
  outcome.allocates = false ∨ outcome.startup = 0 ∧ outcome.discover = some 0 ∧ outcome.start = 0

instance (outcome : ConnectOutcome) : Decidable outcome.AllOrNothing :=
  inferInstanceAs (Decidable (outcome.allocates = false ∨
    outcome.startup = 0 ∧ outcome.discover = some 0 ∧ outcome.start = 0))

/-! ## One call -/

namespace Program

variable {program : Program} {outcome : ConnectOutcome} {handle : MmpHandle}

theorem Inv.start : Program.start.Inv := ⟨rfl, rfl⟩

theorem Inv.balanced (inv : program.Inv) : program.Balanced := by
  have winsock := inv.winsock
  rw [Balanced, inv.owned, List.length_map]
  exact ⟨rfl, by omega⟩

/-- Once there is memory, `mmp_connect` stores a new client in the handle, and
returns success when all steps succeed. -/
theorem mmpConnect_of_allocates (library : ClientLibrary) (allocates : outcome.allocates = true) :
    ∃ startups status,
      library.mmpConnect false outcome =
          ({ library with
              live := library.allocated :: library.live
              allocated := library.allocated + 1
              startups := startups }, some library.allocated, status) ∧
        (status = some 0 ↔ outcome.AllOrNothing) ∧
        (status = some 0 → startups = library.startups + 1) := by
  rcases outcome with ⟨_, startup, discover, begin⟩
  subst allocates
  by_cases started : startup = 0
  · subst started
    refine ⟨library.startups + 1, ?_⟩
    cases discover with
    | none => exact ⟨none, rfl, by simp [ConnectOutcome.AllOrNothing], fun _ => rfl⟩
    | some code =>
        by_cases discovered : code = 0
        · subst discovered
          exact ⟨some begin, rfl, by simp [ConnectOutcome.AllOrNothing], fun _ => rfl⟩
        · refine ⟨some (hresultFromWin32 code), ?_, ?_, fun _ => rfl⟩
          · simp [ClientLibrary.mmpConnect, discovered]
          · simp [ConnectOutcome.AllOrNothing, discovered, hresultFromWin32_eq_zero_iff]
  · refine ⟨library.startups, some (hresultFromWin32 startup), ?_, ?_, ?_⟩
    · simp [ClientLibrary.mmpConnect, started]
    · simp [ConnectOutcome.AllOrNothing, started, hresultFromWin32_eq_zero_iff]
    · simp [started, hresultFromWin32_eq_zero_iff]

/-- `connect` has no effect, or returns a client with Winsock, or leaves a client
without an owner. -/
theorem connect_cases (library : ClientLibrary) (outcome : ConnectOutcome) :
    (outcome.AllOrNothing ∧ library.connect outcome = (library, none)) ∨
      (outcome.AllOrNothing ∧
        library.connect outcome =
          ({ library with
              live := library.allocated :: library.live
              allocated := library.allocated + 1
              startups := library.startups + 1 }, some (some library.allocated))) ∨
      (¬ outcome.AllOrNothing ∧ (library.connect outcome).2 = none ∧
        (library.connect outcome).1.live = library.allocated :: library.live) := by
  cases allocates : outcome.allocates with
  | false =>
      refine Or.inl ⟨Or.inl allocates, ?_⟩
      have failure : hresultFromWin32 errorOutofmemory ≠ 0 := by decide
      simp [ClientLibrary.connect, ClientLibrary.mmpConnect, allocates, failure]
  | true =>
      obtain ⟨startups, status, made, success, counted⟩ :=
        mmpConnect_of_allocates library allocates
      by_cases succeeded : status = some 0
      · rw [counted succeeded, succeeded] at made
        exact Or.inr (Or.inl ⟨success.mp succeeded, by simp [ClientLibrary.connect, made]⟩)
      · refine Or.inr (Or.inr ⟨fun clean => succeeded (success.mpr clean), ?_⟩)
        cases status with
        | none => simp [ClientLibrary.connect, made]
        | some code =>
            have failure : code ≠ 0 := fun zero => succeeded (by rw [zero])
            simp [ClientLibrary.connect, made, failure]

/-- A connection that is made, or fails in the allocation, keeps the invariant. -/
theorem Inv.connect (inv : program.Inv) (clean : outcome.AllOrNothing) :
    (program.step (.connect outcome)).1.Inv := by
  have winsock := inv.winsock
  rcases connect_cases program.library outcome with ⟨-, nothing⟩ | ⟨-, made⟩ | ⟨leaks, -⟩
  · simp only [step, nothing]
    exact inv
  · simp only [step, made]
    refine ⟨by simp [inv.owned], ?_⟩
    simp only [List.length_cons]
    omega
  · exact (leaks clean).elim

/-- Any other connection leaves a client without an owner. -/
theorem Inv.leak (inv : program.Inv) (leaks : ¬ outcome.AllOrNothing) :
    ¬ (program.step (.connect outcome)).1.Balanced := by
  rcases connect_cases program.library outcome with ⟨clean, -⟩ | ⟨clean, -⟩ | ⟨-, thrown, live⟩
  · exact (leaks clean).elim
  · exact (leaks clean).elim
  · intro balanced
    have lengths := balanced.1
    simp only [step, thrown, live, inv.owned, Option.toList_none, List.nil_append, List.length_map,
      List.length_cons] at lengths
    omega

/-- Destroying a handle releases its client and one call of `WSAStartup`. -/
theorem Inv.destroy (inv : program.Inv) (handle : MmpHandle) :
    (program.step (.destroy handle)).1.Inv := by
  have winsock := inv.winsock
  unfold step
  dsimp only
  split
  · rename_i owned
    rw [inv.owned] at owned
    obtain ⟨client, member, rfl⟩ := List.mem_map.mp owned
    have shorter := List.length_erase_add_one member
    refine ⟨?_, ?_⟩
    · rw [inv.owned]
      exact (List.map_erase (Option.some_injective ℕ) _).symm
    · simp only [ClientLibrary.deleteMmpHandle, ClientLibrary.mmpDisconnect, ne_eq, reduceCtorEq,
        not_false_eq_true, if_true]
      omega
  · exact inv

/-! ## Runs -/

theorem Inv.always_iff (inv : program.Inv) (calls : List ProgramCall) :
    Mealy.Always step Balanced program calls ↔
      ∀ outcome, .connect outcome ∈ calls → outcome.AllOrNothing := by
  induction calls generalizing program with
  | nil => simpa [Mealy.Always] using inv.balanced
  | cons call calls ih =>
      rw [Mealy.Always]
      cases call with
      | connect outcome =>
          by_cases clean : outcome.AllOrNothing
          · rw [ih (inv.connect clean)]
            simp [inv.balanced, clean]
          · refine iff_of_false (fun always => inv.leak clean always.2.head) (fun all => ?_)
            exact clean (all outcome List.mem_cons_self)
      | destroy handle =>
          rw [ih (inv.destroy handle)]
          simp [inv.balanced]

/-- At every moment of a program there are as many clients and open calls of
`WSAStartup` as handles owned if and only if every connection it makes fails in the
allocation or not at all. -/
theorem balanced_iff (calls : List ProgramCall) :
    Mealy.Always step Balanced .start calls ↔
      ∀ outcome, .connect outcome ∈ calls → outcome.AllOrNothing :=
  Inv.start.always_iff calls

/-- No server answers: the client and its call of `WSAStartup` stay. -/
theorem not_balanced_of_timeout :
    ¬ Mealy.Always step Balanced .start
      [.connect ⟨true, 0, some (hresultFromWin32 1460), 0⟩] := by
  intro always
  have after : (Program.start.step _).1.Balanced := always.2
  revert after
  decide

end Program

end MagicMousePad
