import MagicMousePad.ClientRange

/-!
# The display counter

`ShowCursor` sets no state: its calls move a display counter, and the cursor is
visible while the counter is not negative.  So along a run the counter is the one
at the beginning, plus the messages that asked for the cursor, minus those that
asked it away, and the cursor is visible exactly on the local screen only as long
as this sum stays near zero.
-/

namespace MagicMousePad

/-! ## Desktops -/

/-- A client and the display counter of its desktop. -/
structure Desktop where
  client : MmpClient
  counter : Int

/-- `ShowCursor`, if it is called. -/
def showCursor (counter : Int) : Option Bool → Int
  | none => counter
  | some true => counter + 1
  | some false => counter - 1

namespace Desktop

/-- A message arrives. -/
def step (d : Desktop) (arrival : Arrival) : Desktop × Reaction :=
  let handled := d.client.step arrival
  ({ client := handled.1, counter := showCursor d.counter handled.2.shown }, handled.2)

def Visible (d : Desktop) : Prop := 0 ≤ d.counter

instance (d : Desktop) : Decidable d.Visible := inferInstanceAs (Decidable (0 ≤ d.counter))

/-- Where a message lies on the local screen. -/
def localPosition (d : Desktop) (msg : MouseMsg) : Int32 × Int32 :=
  d.client.config.localPosition (ntohlInt msg.x + (d.client.capturing msg).offset.1)
    (ntohlInt msg.y + (d.client.capturing msg).offset.2)

/-- After each accepted message of a run, the cursor is visible if and only if
the message lies on the local screen. -/
def Faithful (d : Desktop) (arrivals : List Arrival) : Prop :=
  ∀ t ∈ Mealy.trail step d arrivals, (t.1.step t.2).2.accepted = true →
    ((t.1.step t.2).1.Visible ↔ OnScreen t.2.screen (t.1.localPosition t.2.msg))

instance (d : Desktop) (arrivals : List Arrival) : Decidable (d.Faithful arrivals) :=
  inferInstanceAs (Decidable (∀ t ∈ Mealy.trail step d arrivals, _ → (_ ↔ _)))

end Desktop

/-! ## The counter that the messages leave -/

namespace MmpConfiguration

variable (config : MmpConfiguration) (offset : Int32 × Int32)

/-- Where a message lies on the local screen under an offset. -/
def positionUnder (msg : MouseMsg) : Int32 × Int32 :=
  config.localPosition (ntohlInt msg.x + offset.1) (ntohlInt msg.y + offset.2)

/-- The message lies on the local screen or above it. -/
def Shows (arrival : Arrival) : Prop :=
  (config.positionUnder offset arrival.msg).2 < 0 ∨
    OnScreen arrival.screen (config.positionUnder offset arrival.msg)

instance (arrival : Arrival) : Decidable (config.Shows offset arrival) :=
  inferInstanceAs (Decidable (_ ∨ _))

/-- The messages on the local screen or above it, minus the others. -/
def balance (reported : List Arrival) : Int :=
  reported.countP (fun arrival => config.Shows offset arrival) -
    reported.countP (fun arrival => ¬ config.Shows offset arrival)

/-- The counter lets the call for a message, or its absence, have the right
effect. -/
def Ready (counter : Int) (arrival : Arrival) : Prop :=
  if config.callback arrival.msg = nullptr then
    0 ≤ counter ↔ OnScreen arrival.screen (config.positionUnder offset arrival.msg)
  else if OnScreen arrival.screen (config.positionUnder offset arrival.msg) then -1 ≤ counter
  else if (config.positionUnder offset arrival.msg).2 < 0 then counter ≤ -2
  else counter ≤ 0

instance (counter : Int) (arrival : Arrival) : Decidable (config.Ready offset counter arrival) := by
  unfold Ready
  infer_instance

theorem balance_cons (arrival : Arrival) (reported : List Arrival) :
    config.balance offset (arrival :: reported) =
      (if config.Shows offset arrival then 1 else -1) + config.balance offset reported := by
  unfold balance
  by_cases shows : config.Shows offset arrival
  · simp [shows]
    ring
  · simp [shows]
    ring

end MmpConfiguration

namespace Desktop

variable (d : Desktop) (earlier : List Arrival) (arrival : Arrival)

/-- The messages reported of those that have arrived. -/
def reported : List Arrival := d.client.config.heard d.client.sequenceNumber earlier

/-- The offset under which a message lies after others: the first one reported fixes
it, and if there was none, the message itself. -/
def offsetAfter : Int32 × Int32 :=
  (d.client.capturing ((d.reported earlier).head?.getD arrival).msg).offset

/-- The counter that a message finds after others. -/
def counterAfter : Int :=
  d.counter + d.client.config.balance (d.offsetAfter earlier arrival) (d.reported earlier)

/-- Every message whose number is above the stored one and above those of all messages
before it finds the counter ready. -/
def Balanced (arrivals : List Arrival) : Prop :=
  ∀ earlier arrival later, arrivals = earlier ++ arrival :: later →
    d.client.sequenceNumber < arrival.msg.number →
    (∀ a ∈ earlier, a.msg.number < arrival.msg.number) →
      d.client.config.Ready (d.offsetAfter earlier arrival) (d.counterAfter earlier arrival) arrival

instance (arrivals : List Arrival) : Decidable (d.Balanced arrivals) :=
  decidable_of_iff _ Mealy.forall_split_iff.symm

end Desktop

/-! ## One message -/

namespace Desktop

variable {d : Desktop} {arrival next : Arrival} {arrivals : List Arrival}

/-- A message is rejected, accepted without a callback, or reported, and then it moves
the counter by one. -/
theorem step_cases (hides : d.client.config.HidesRemote) (arrival : Arrival) :
    (¬ d.client.sequenceNumber < arrival.msg.number ∧ (d.step arrival).2.accepted = false ∧
        (d.step arrival).1 = d) ∨
      (d.client.sequenceNumber < arrival.msg.number ∧ (d.step arrival).2.accepted = true ∧
        d.client.config.callback arrival.msg = nullptr ∧
        (d.step arrival).1 = ⟨d.client.storing arrival.msg, d.counter⟩) ∨
      (d.client.sequenceNumber < arrival.msg.number ∧ (d.step arrival).2.accepted = true ∧
        d.client.config.callback arrival.msg ≠ nullptr ∧
        (d.step arrival).1 =
          ⟨(d.client.capturing arrival.msg).storing arrival.msg,
            d.counter +
              if d.client.config.Shows (d.client.capturing arrival.msg).offset arrival then 1
              else -1⟩) := by
  have shown := hides.shown_iff arrival.screen
    (ntohlInt arrival.msg.x + (d.client.capturing arrival.msg).offset.1)
    (ntohlInt arrival.msg.y + (d.client.capturing arrival.msg).offset.2)
  have cases := hides.shown_cases arrival.screen
    (ntohlInt arrival.msg.x + (d.client.capturing arrival.msg).offset.1)
    (ntohlInt arrival.msg.y + (d.client.capturing arrival.msg).offset.2)
  change ((d.client.placed arrival.screen arrival.msg).2 = some true ↔
    d.client.config.Shows (d.client.capturing arrival.msg).offset arrival) at shown
  change ((d.client.placed arrival.screen arrival.msg).2 = some true ∨
    (d.client.placed arrival.screen arrival.msg).2 = some false) at cases
  unfold step MmpClient.step
  rcases d.client.handle_cases arrival.screen arrival.msg with
    ⟨old, result⟩ | ⟨new, absent, result⟩ | ⟨new, present, result⟩ <;> rw [result]
  · exact Or.inl ⟨old, rfl, rfl⟩
  · exact Or.inr (Or.inl ⟨new, rfl, absent, rfl⟩)
  · refine Or.inr (Or.inr ⟨new, rfl, present, ?_⟩)
    rcases cases with show_ | hide
    · simp only [show_, if_pos (shown.mp show_), showCursor]
    · have hidden : ¬ d.client.config.Shows (d.client.capturing arrival.msg).offset arrival := by
        rw [← shown, hide]
        decide
      simp only [hide, if_neg hidden, showCursor]
      rfl

/-- One accepted message leaves the cursor as its position asks for if and only if it
finds the counter ready. -/
theorem visible_step_iff (hides : d.client.config.HidesRemote)
    (new : d.client.sequenceNumber < arrival.msg.number) :
    ((d.step arrival).1.Visible ↔ OnScreen arrival.screen (d.localPosition arrival.msg)) ↔
      d.client.config.Ready (d.client.capturing arrival.msg).offset d.counter arrival := by
  change (_ ↔ OnScreen arrival.screen
    (d.client.config.positionUnder (d.client.capturing arrival.msg).offset arrival.msg)) ↔ _
  unfold MmpConfiguration.Ready Visible
  rcases step_cases hides arrival with
    ⟨old, -⟩ | ⟨-, -, absent, result⟩ | ⟨-, -, present, result⟩
  · exact absurd new old
  · rw [result, if_pos absent]
  · rw [result, if_neg present]
    unfold MmpConfiguration.Shows
    dsimp only
    by_cases onScreen : OnScreen arrival.screen
      (d.client.config.positionUnder (d.client.capturing arrival.msg).offset arrival.msg)
    · simp only [onScreen, or_true, if_true, iff_true]
      omega
    · by_cases above :
        (d.client.config.positionUnder (d.client.capturing arrival.msg).offset arrival.msg).2 < 0
      · simp only [onScreen, above, true_or, if_true, if_false, iff_false]
        omega
      · simp only [onScreen, above, or_false, if_false, iff_false]
        omega

/-! ## Runs -/

theorem client_run (arrivals : List Arrival) :
    (Mealy.run step d arrivals).1.client = (Mealy.run MmpClient.step d.client arrivals).1 := by
  induction arrivals generalizing d with
  | nil => rfl
  | cons arrival arrivals ih => exact @ih (d.step arrival).1

/-- A run leaves the counter with the balance of what it has reported, and the offset
that was fixed on the way. -/
theorem run_eq (hides : d.client.config.HidesRemote) (earlier : List Arrival) (next : Arrival) :
    ((Mealy.run step d earlier).1.client.capturing next.msg).offset = d.offsetAfter earlier next ∧
      (Mealy.run step d earlier).1.counter = d.counterAfter earlier next := by
  induction earlier generalizing d with
  | nil => exact ⟨rfl, (Int.add_zero d.counter).symm⟩
  | cons arrival earlier ih =>
      rw [Mealy.run_cons]
      rcases step_cases hides arrival with
        ⟨old, -, result⟩ | ⟨new, -, absent, result⟩ | ⟨new, -, present, result⟩
      · have same : d.reported (arrival :: earlier) = d.reported earlier := heard_cons_of_old old
        rw [result, offsetAfter, counterAfter, offsetAfter, same]
        exact ih hides
      · have same : d.reported (arrival :: earlier) = (d.step arrival).1.reported earlier := by
          rw [reported, heard_cons_of_new new, if_pos absent, result]
          rfl
        rw [offsetAfter, counterAfter, offsetAfter, same]
        rw [result]
        obtain ⟨offset, counter⟩ := @ih ⟨d.client.storing arrival.msg, d.counter⟩ hides
        rw [offset, counter, counterAfter, offsetAfter, MmpClient.capturing_storing]
        exact ⟨rfl, rfl⟩
      · have config : (d.step arrival).1.client.config = d.client.config := by
          rw [result]
          exact d.client.config_capturing arrival.msg
        have same : d.reported (arrival :: earlier) =
            arrival :: (d.step arrival).1.reported earlier := by
          rw [reported, heard_cons_of_new new, if_neg present, reported, config, result]
          rfl
        have fixed : d.offsetAfter (arrival :: earlier) next =
            (d.client.capturing arrival.msg).offset := by
          rw [offsetAfter, same]
          rfl
        have kept : (d.step arrival).1.offsetAfter earlier next =
            (d.client.capturing arrival.msg).offset := by
          rw [offsetAfter, MmpClient.capturing_of_fixed]
          · rw [result]
            rfl
          · rw [result]
            exact d.client.updateOffset_capturing arrival.msg
        obtain ⟨offset, counter⟩ := @ih (d.step arrival).1 (config ▸ hides)
        refine ⟨offset.trans (kept.trans fixed.symm), counter.trans ?_⟩
        rw [counterAfter, counterAfter, kept, fixed, same, config, MmpConfiguration.balance_cons,
          result, Int.add_assoc]

/-- A message is accepted after others when its number is above the stored one and
above theirs. -/
theorem number_run_lt_iff (d : Desktop) (earlier : List Arrival) (n : UInt32) :
    (Mealy.run step d earlier).1.client.sequenceNumber < n ↔
      d.client.sequenceNumber < n ∧ ∀ a ∈ earlier, a.msg.number < n := by
  have stored := MmpClient.stored_run id d.client earlier
  rw [List.map_id, ← client_run] at stored
  simp only [UInt32.lt_iff_toNat_lt, stored, Records.peak_lt_iff, keyOf, id]

/-- Along a run the cursor is visible exactly on the local screen if and only if every
message that is accepted finds the counter ready: the one at the beginning, with the
messages reported before it on the local screen or above added, and the others
subtracted. -/
theorem faithful_iff (hides : d.client.config.HidesRemote) (arrivals : List Arrival) :
    d.Faithful arrivals ↔ d.Balanced arrivals := by
  have always : ∀ earlier, (Mealy.run step d earlier).1.client.config = d.client.config := by
    intro earlier
    rw [client_run]
    exact Mealy.run_invariant (P := fun client : MmpClient => client.config = d.client.config)
      (fun client arrival kept => (client.config_step arrival).trans kept) rfl
  have accepted : ∀ (s : Desktop) arrival, (s.step arrival).2.accepted = true ↔
      s.client.sequenceNumber < arrival.msg.number := by
    intro s arrival
    rw [step, (s.client.accepted_step arrival).1, decide_eq_true_eq]
  refine (Mealy.forall_trail_iff (R := fun s arrival => (step s arrival).2.accepted = true →
    ((s.step arrival).1.Visible ↔ OnScreen arrival.screen (s.localPosition arrival.msg)))).trans ?_
  refine forall₄_congr fun earlier arrival later split => ?_
  obtain ⟨offset, counter⟩ := run_eq hides earlier arrival
  rw [accepted, ← and_imp, ← number_run_lt_iff]
  refine forall_congr' fun new => ?_
  rw [visible_step_iff (always earlier ▸ hides) new, offset, counter, always]

/-- Moves beyond the right edge of a screen of 10 by 10 pixels, inside it, and beyond it
again: the counter goes from 0 to -1, to 0 and to -1. -/
theorem faithful_of_returning :
    Desktop.Faithful
      ⟨.new { flags := 7, width := 20, height := 10, onMouseMove := 1 }, 0⟩
      [⟨.mouseMove { sequenceNumber := htonl 1, x := ntohlInt 15 }, ⟨10, 10⟩⟩,
        ⟨.mouseMove { sequenceNumber := htonl 2, x := ntohlInt 5 }, ⟨10, 10⟩⟩,
        ⟨.mouseMove { sequenceNumber := htonl 3, x := ntohlInt 16 }, ⟨10, 10⟩⟩] :=
  (faithful_iff ⟨rfl, rfl, rfl⟩ _).mpr (by decide)

/-- Two moves inside the screen, then one to the screen on the right: the cursor stays
visible. -/
theorem not_faithful_on_leaving :
    ¬ Desktop.Faithful
      ⟨.new { flags := 7, width := 20, height := 10, onMouseMove := 1 }, 0⟩
      [⟨.mouseMove { sequenceNumber := htonl 1, x := ntohlInt 5 }, ⟨10, 10⟩⟩,
        ⟨.mouseMove { sequenceNumber := htonl 2, x := ntohlInt 6 }, ⟨10, 10⟩⟩,
        ⟨.mouseMove { sequenceNumber := htonl 3, x := ntohlInt 15 }, ⟨10, 10⟩⟩] := by
  decide

end Desktop

end MagicMousePad
