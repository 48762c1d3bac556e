import MagicMousePad.Ordering
import MagicMousePad.Visibility
import MagicMousePad.Lib.SignedRange

/-!
# The range of the client's positions

`xform_position` subtracts the first position from the start position, adds the
difference to every position and subtracts the offset of the local screen, all in
32-bit arithmetic on whatever the network and the configuration contain, and `clip`
takes unsigned sizes for signed ones.  The operations are exact as long as their
results over the integers fit.
-/

namespace MagicMousePad

open SignedRange

/-! ## The operations -/

/-- The conversion to a signed number in `clip` keeps the size. -/
def Preserved (size : UInt32) : Prop := size.toInt32.toInt = size.toNat

/-- Where a message is on the whole range, from which the offset of the local
screen is subtracted. -/
def MmpClient.remotePosition (client : MmpClient) (msg : MouseMsg) : Int32 × Int32 :=
  let x := ntohlInt msg.x + (client.capturing msg).offset.1
  let y := ntohlInt msg.y + (client.capturing msg).offset.2
  if client.config.has mmpFlagClip then
    (MmpClient.clip x y client.config.width client.config.height).1
  else (x, y)

/-- From there `xform_position` goes on to the local screen. -/
theorem MmpClient.placed_eq (client : MmpClient) (screen : Screen) (msg : MouseMsg) :
    (client.placed screen msg).1 =
      let p := client.remotePosition msg
      if client.config.has mmpFlagLocal then
        let q := (p.1 - client.config.offsetX, p.2 - client.config.offsetY)
        if client.config.has mmpFlagClip then
          (MmpClient.clip q.1 q.2 screen.width.toUInt32 screen.height.toUInt32).1
        else q
      else p := by
  unfold placed place remotePosition
  dsimp only
  cases client.config.has mmpFlagLocal with
  | false => rfl
  | true => cases client.config.has mmpFlagClip <;> rfl

/-- Every operation of `xform_position` on the message gives its exact result. -/
structure MmpClient.Exact (client : MmpClient) (arrival : Arrival) : Prop where
  start : client.updateOffset = true →
    Fits 32 (client.config.startX.toInt - (ntohlInt arrival.msg.x).toInt) ∧
      Fits 32 (client.config.startY.toInt - (ntohlInt arrival.msg.y).toInt)
  add : Fits 32 ((ntohlInt arrival.msg.x).toInt + (client.capturing arrival.msg).offset.1.toInt) ∧
    Fits 32 ((ntohlInt arrival.msg.y).toInt + (client.capturing arrival.msg).offset.2.toInt)
  clip : client.config.has mmpFlagClip = true →
    Preserved client.config.width ∧ Preserved client.config.height
  subtract : client.config.has mmpFlagLocal = true →
    Fits 32 ((client.remotePosition arrival.msg).1.toInt - client.config.offsetX.toInt) ∧
      Fits 32 ((client.remotePosition arrival.msg).2.toInt - client.config.offsetY.toInt)
  clipLocal : client.config.has mmpFlagLocal = true → client.config.has mmpFlagClip = true →
    Preserved arrival.screen.width.toUInt32 ∧ Preserved arrival.screen.height.toUInt32

/-- Every message of a run that reaches `xform_position` is transformed exactly. -/
def ExactRun (client : MmpClient) (arrivals : List Arrival) : Prop :=
  ∀ t ∈ Mealy.trail MmpClient.step client arrivals,
    (t.1.step t.2).2.call.isSome → t.1.Exact t.2

/-! ## The bounds -/

namespace MmpConfiguration

/-- A coordinate of the whole range, over the integers. -/
def clamped (config : MmpConfiguration) (n : Int) (size : UInt32) : Int :=
  if config.has mmpFlagClip then clampInt n size.toNat else n

/-- All results stay in range for a message under an offset. -/
def Tolerates (config : MmpConfiguration) (offset : Int × Int) (arrival : Arrival) : Prop :=
  let x := (ntohlInt arrival.msg.x).toInt + offset.1
  let y := (ntohlInt arrival.msg.y).toInt + offset.2
  (Fits 32 x ∧ Fits 32 y) ∧
    (config.has mmpFlagClip = true → config.width.toNat < 2 ^ 31 ∧ config.height.toNat < 2 ^ 31) ∧
    (config.has mmpFlagLocal = true →
      Fits 32 (config.clamped x config.width - config.offsetX.toInt) ∧
        Fits 32 (config.clamped y config.height - config.offsetY.toInt)) ∧
    (config.has mmpFlagLocal = true → config.has mmpFlagClip = true →
      0 ≤ arrival.screen.width.toInt ∧ 0 ≤ arrival.screen.height.toInt)

/-- The messages with a number above the first one and all those before, whose
callback is set. -/
def heard (config : MmpConfiguration) (level : UInt32) (arrivals : List Arrival) : List Arrival :=
  (Records.records (keyOf id) level.toNat arrivals).filter fun arrival =>
    config.callback arrival.msg ≠ nullptr

/-- The offset that the first of these messages fixes, over the integers. -/
def origin (config : MmpConfiguration) (first : Arrival) : Int × Int :=
  if config.has mmpFlagSetStart then
    (config.startX.toInt - (ntohlInt first.msg.x).toInt,
      config.startY.toInt - (ntohlInt first.msg.y).toInt)
  else (0, 0)

end MmpConfiguration

/-! ## Conversions -/

theorem preserved_iff {size : UInt32} : Preserved size ↔ size.toNat < 2 ^ 31 := by
  constructor
  · intro preserved
    have bound := size.toInt32.toInt_lt
    rw [preserved] at bound
    exact_mod_cast bound
  · exact toInt_toInt32_of_lt

theorem preserved_toUInt32_iff {size : Int32} : Preserved size.toUInt32 ↔ 0 ≤ size.toInt := by
  unfold Preserved
  rw [Int32.toInt32_toUInt32]
  constructor
  · intro preserved
    rw [preserved]
    exact Int.natCast_nonneg _
  · intro nonneg
    rw [Int32.toNat_toUInt32_of_le (Int32.le_iff_toInt_le.mpr nonneg), ← Int32.toNat_toInt]
    exact (Int.toNat_of_nonneg nonneg).symm

/-! ## One message -/

namespace MmpClient

variable {client : MmpClient} {arrival : Arrival}

/-- Up to the first clipping the code computes over the integers. -/
theorem toInt_remotePosition {offset : Int × Int}
    (offsetX : (client.capturing arrival.msg).offset.1.toInt = offset.1)
    (offsetY : (client.capturing arrival.msg).offset.2.toInt = offset.2)
    (fitsX : Fits 32 ((ntohlInt arrival.msg.x).toInt + offset.1))
    (fitsY : Fits 32 ((ntohlInt arrival.msg.y).toInt + offset.2))
    (sizes : client.config.has mmpFlagClip = true →
      client.config.width.toNat < 2 ^ 31 ∧ client.config.height.toNat < 2 ^ 31) :
    (client.remotePosition arrival.msg).1.toInt =
        client.config.clamped ((ntohlInt arrival.msg.x).toInt + offset.1) client.config.width ∧
      (client.remotePosition arrival.msg).2.toInt =
        client.config.clamped ((ntohlInt arrival.msg.y).toInt + offset.2) client.config.height := by
  rw [← offsetX] at fitsX ⊢
  rw [← offsetY] at fitsY ⊢
  have x := (toInt_add_eq_iff _ _).mpr fitsX
  have y := (toInt_add_eq_iff _ _).mpr fitsY
  unfold remotePosition MmpConfiguration.clamped
  dsimp only
  cases clips : client.config.has mmpFlagClip with
  | false => exact ⟨x, y⟩
  | true =>
      obtain ⟨wide, high⟩ := sizes clips
      have width := toInt_toInt32_of_lt wide
      have height := toInt_toInt32_of_lt high
      simp only [if_true, clip_eq]
      rw [toInt_clampAxis (by omega), toInt_clampAxis (by omega), x, y, width, height]
      exact ⟨rfl, rfl⟩

/-- From a known offset on, the operations are exact when the integers are in
range. -/
theorem exact_iff_of_offset (offset : Int × Int)
    (offsetX : (client.capturing arrival.msg).offset.1.toInt = offset.1)
    (offsetY : (client.capturing arrival.msg).offset.2.toInt = offset.2) :
    client.Exact arrival ↔
      (client.updateOffset = true →
        Fits 32 (client.config.startX.toInt - (ntohlInt arrival.msg.x).toInt) ∧
          Fits 32 (client.config.startY.toInt - (ntohlInt arrival.msg.y).toInt)) ∧
        client.config.Tolerates offset arrival := by
  constructor
  · intro precise
    rcases precise with ⟨start, ⟨addX, addY⟩, sizes, subtract, screen⟩
    rw [offsetX] at addX
    rw [offsetY] at addY
    rw [preserved_iff, preserved_iff] at sizes
    rw [preserved_toUInt32_iff, preserved_toUInt32_iff] at screen
    obtain ⟨x, y⟩ := toInt_remotePosition offsetX offsetY addX addY sizes
    rw [x, y] at subtract
    exact ⟨start, ⟨addX, addY⟩, sizes, subtract, screen⟩
  · intro tolerated
    rcases tolerated with ⟨start, ⟨addX, addY⟩, sizes, subtract, screen⟩
    obtain ⟨x, y⟩ := toInt_remotePosition offsetX offsetY addX addY sizes
    refine ⟨start, ?_, ?_, ?_, ?_⟩
    · rw [offsetX, offsetY]
      exact ⟨addX, addY⟩
    · rw [preserved_iff, preserved_iff]
      exact sizes
    · rw [x, y]
      exact subtract
    · rw [preserved_toUInt32_iff, preserved_toUInt32_iff]
      exact screen

/-- Once the offset is fixed, only the message matters. -/
theorem exact_iff_of_fixed (fixed : client.updateOffset = false) :
    client.Exact arrival ↔
      client.config.Tolerates (client.offset.1.toInt, client.offset.2.toInt) arrival := by
  have kept : client.capturing arrival.msg = client := capturing_of_fixed fixed _
  rw [exact_iff_of_offset (client.offset.1.toInt, client.offset.2.toInt) (by rw [kept])
    (by rw [kept])]
  simp [fixed]

/-- The offset that a message fixes. -/
def fixing (client : MmpClient) (msg : MouseMsg) : Int × Int :=
  (client.config.startX.toInt - (ntohlInt msg.x).toInt,
    client.config.startY.toInt - (ntohlInt msg.y).toInt)

theorem toInt_offset_capturing (unfixed : client.updateOffset = true)
    (fitsX : Fits 32 (client.fixing arrival.msg).1)
    (fitsY : Fits 32 (client.fixing arrival.msg).2) :
    (client.capturing arrival.msg).offset.1.toInt = (client.fixing arrival.msg).1 ∧
      (client.capturing arrival.msg).offset.2.toInt = (client.fixing arrival.msg).2 := by
  have captured : (client.capturing arrival.msg).offset =
      (client.config.startX - ntohlInt arrival.msg.x,
        client.config.startY - ntohlInt arrival.msg.y) := by
    simp [capturing, captureOffset, unfixed]
  rw [captured]
  exact ⟨(toInt_sub_eq_iff _ _).mpr fitsX, (toInt_sub_eq_iff _ _).mpr fitsY⟩

/-- The first message has to be in range under the offset that it fixes, and that
offset too. -/
theorem exact_iff_of_unfixed (unfixed : client.updateOffset = true) :
    client.Exact arrival ↔
      (Fits 32 (client.fixing arrival.msg).1 ∧ Fits 32 (client.fixing arrival.msg).2) ∧
        client.config.Tolerates (client.fixing arrival.msg) arrival := by
  constructor
  · intro precise
    obtain ⟨fitsX, fitsY⟩ := precise.start unfixed
    obtain ⟨offsetX, offsetY⟩ := toInt_offset_capturing unfixed fitsX fitsY
    exact ⟨⟨fitsX, fitsY⟩, ((exact_iff_of_offset _ offsetX offsetY).mp precise).2⟩
  · intro tolerated
    rcases tolerated with ⟨⟨fitsX, fitsY⟩, tolerated⟩
    obtain ⟨offsetX, offsetY⟩ := toInt_offset_capturing unfixed fitsX fitsY
    exact (exact_iff_of_offset _ offsetX offsetY).mpr ⟨fun _ => ⟨fitsX, fitsY⟩, tolerated⟩

end MmpClient

/-! ## Runs -/

/-- A property holds of every message of a run that is reported, and of the client
that finds it. -/
def EveryReport (P : MmpClient → Arrival → Prop) (client : MmpClient) (arrivals : List Arrival) :
    Prop :=
  ∀ t ∈ Mealy.trail MmpClient.step client arrivals, (t.1.step t.2).2.call.isSome → P t.1 t.2

section Runs

variable {config : MmpConfiguration} {level : UInt32} {client : MmpClient} {arrival : Arrival}
  {arrivals : List Arrival} {P : MmpClient → Arrival → Prop}

theorem heard_cons_of_old (old : ¬ level < arrival.msg.number) :
    config.heard level (arrival :: arrivals) = config.heard level arrivals := by
  rw [MmpConfiguration.heard, Records.records_cons_of_not_lt old, MmpConfiguration.heard]

theorem heard_cons_of_new (new : level < arrival.msg.number) :
    config.heard level (arrival :: arrivals) =
      if config.callback arrival.msg = nullptr then config.heard arrival.msg.number arrivals
      else arrival :: config.heard arrival.msg.number arrivals := by
  have above : level.toNat < keyOf id arrival := new
  rw [MmpConfiguration.heard, Records.records_cons_of_lt above, List.filter_cons]
  by_cases silent : config.callback arrival.msg = nullptr
  · rw [if_pos silent, if_neg (by simpa using silent)]
    rfl
  · rw [if_neg silent, if_pos (by simpa using silent)]
    rfl

/-- A message that is not reported does not matter. -/
theorem everyReport_cases (client : MmpClient) (arrival : Arrival) (arrivals : List Arrival) :
    (¬ client.sequenceNumber < arrival.msg.number ∧
        (EveryReport P client (arrival :: arrivals) ↔ EveryReport P client arrivals)) ∨
      (client.sequenceNumber < arrival.msg.number ∧
        client.config.callback arrival.msg = nullptr ∧
        (EveryReport P client (arrival :: arrivals) ↔
          EveryReport P (client.storing arrival.msg) arrivals)) ∨
      (client.sequenceNumber < arrival.msg.number ∧
        client.config.callback arrival.msg ≠ nullptr ∧
        (EveryReport P client (arrival :: arrivals) ↔
          P client arrival ∧
            EveryReport P ((client.capturing arrival.msg).storing arrival.msg) arrivals)) := by
  have split : EveryReport P client (arrival :: arrivals) ↔
      ((client.step arrival).2.call.isSome → P client arrival) ∧
        EveryReport P (client.step arrival).1 arrivals := by
    simp only [EveryReport, Mealy.trail_cons, List.forall_mem_cons]
  rw [split, MmpClient.step]
  rcases client.handle_cases arrival.screen arrival.msg with
    ⟨old, result⟩ | ⟨new, silent, result⟩ | ⟨new, reported, result⟩
  · exact Or.inl ⟨old, by simp [result]⟩
  · exact Or.inr (Or.inl ⟨new, silent, by simp [result]⟩)
  · exact Or.inr (Or.inr ⟨new, reported, by simp [result]⟩)

/-- With a fixed offset, a property of all reports is one of the messages that are
heard. -/
theorem everyReport_iff_of_fixed
    (stored : ∀ client msg arrival, P (MmpClient.storing client msg) arrival ↔ P client arrival)
    (fixed : client.updateOffset = false) :
    EveryReport P client arrivals ↔
      ∀ a ∈ client.config.heard client.sequenceNumber arrivals, P client a := by
  induction arrivals generalizing client with
  | nil => simp [EveryReport, MmpConfiguration.heard]
  | cons arrival arrivals ih =>
      have rest := @ih (client.storing arrival.msg) fixed
      simp only [stored] at rest
      rcases everyReport_cases client arrival arrivals with
        ⟨old, run⟩ | ⟨new, silent, run⟩ | ⟨new, reported, run⟩
      · rw [run, heard_cons_of_old old]
        exact ih fixed
      · rw [run, heard_cons_of_new new, if_pos silent]
        exact rest
      · have kept : client.capturing arrival.msg = client :=
          MmpClient.capturing_of_fixed fixed _
        rw [run, kept, heard_cons_of_new new, if_neg reported, List.forall_mem_cons]
        exact and_congr_right fun _ => rest

/-- Before the offset is fixed, the first message that is heard fixes it for all
others. -/
theorem everyReport_iff_of_unfixed
    (stored : ∀ client msg arrival, P (MmpClient.storing client msg) arrival ↔ P client arrival)
    (unfixed : client.updateOffset = true) :
    EveryReport P client arrivals ↔
      ∀ first ∈ (client.config.heard client.sequenceNumber arrivals).head?,
        P client first ∧ ∀ a ∈ (client.config.heard client.sequenceNumber arrivals).tail,
          P (client.capturing first.msg) a := by
  induction arrivals generalizing client with
  | nil => simp [EveryReport, MmpConfiguration.heard]
  | cons arrival arrivals ih =>
      rcases everyReport_cases client arrival arrivals with
        ⟨old, run⟩ | ⟨new, silent, run⟩ | ⟨new, reported, run⟩
      · rw [run, heard_cons_of_old old]
        exact ih unfixed
      · rw [run, heard_cons_of_new new, if_pos silent]
        have rest := @ih (client.storing arrival.msg) unfixed
        simp only [stored, MmpClient.capturing_storing] at rest
        exact rest
      · have fixed := client.updateOffset_capturing arrival.msg
        have later := @everyReport_iff_of_fixed
          ((client.capturing arrival.msg).storing arrival.msg) arrivals P stored fixed
        simp only [stored] at later
        rw [run, later, heard_cons_of_new new, if_neg reported]
        simp only [List.head?_cons, List.tail_cons, Option.mem_some_iff, forall_eq']
        refine and_congr_right fun _ => ?_
        change (∀ a ∈ (client.capturing arrival.msg).config.heard arrival.msg.number arrivals,
          P (client.capturing arrival.msg) a) ↔ _
        rw [MmpClient.config_capturing]

/-- Whether the operations on a message are exact does not depend on the number
stored. -/
theorem exact_storing (client : MmpClient) (msg : MouseMsg) (arrival : Arrival) :
    (client.storing msg).Exact arrival ↔ client.Exact arrival := by
  cases offset : client.updateOffset with
  | false =>
      have fixed : (client.storing msg).updateOffset = false := offset
      rw [MmpClient.exact_iff_of_fixed offset, MmpClient.exact_iff_of_fixed fixed]
      rfl
  | true =>
      have unfixed : (client.storing msg).updateOffset = true := offset
      rw [MmpClient.exact_iff_of_unfixed offset, MmpClient.exact_iff_of_unfixed unfixed]
      rfl

/-- With a fixed offset a run is exact when every message that is reported is in
range. -/
theorem exactRun_iff_of_fixed (fixed : client.updateOffset = false) :
    ExactRun client arrivals ↔
      ∀ a ∈ client.config.heard client.sequenceNumber arrivals,
        client.config.Tolerates (client.offset.1.toInt, client.offset.2.toInt) a :=
  (everyReport_iff_of_fixed exact_storing fixed).trans
    (forall₂_congr fun _ _ => MmpClient.exact_iff_of_fixed fixed)

/-- Before the offset is fixed, a run is exact when the first message that is
reported fixes an offset in range under which all of them are. -/
theorem exactRun_iff_of_unfixed (unfixed : client.updateOffset = true) :
    ExactRun client arrivals ↔
      ∀ first ∈ (client.config.heard client.sequenceNumber arrivals).head?,
        (Fits 32 (client.fixing first.msg).1 ∧ Fits 32 (client.fixing first.msg).2) ∧
          ∀ a ∈ client.config.heard client.sequenceNumber arrivals,
            client.config.Tolerates (client.fixing first.msg) a := by
  refine (everyReport_iff_of_unfixed exact_storing unfixed).trans ?_
  refine forall₂_congr fun first isHead => ?_
  have fixed := client.updateOffset_capturing first.msg
  obtain ⟨rest, whole⟩ := List.head?_eq_some_iff.mp isHead
  rw [whole, List.tail_cons, List.forall_mem_cons, MmpClient.exact_iff_of_unfixed unfixed,
    and_assoc]
  refine and_congr_right fun fits => and_congr_right fun _ => forall₂_congr fun a _ => ?_
  obtain ⟨offsetX, offsetY⟩ := MmpClient.toInt_offset_capturing unfixed fits.1 fits.2
  rw [MmpClient.exact_iff_of_fixed fixed, MmpClient.config_capturing, offsetX, offsetY]

end Runs

/-- A started client.  All operations on the messages that reach it are exact if and
only if the first of those that are reported fixes an offset in range, under which
every one of them stays in range. -/
theorem exactRun_iff (config : MmpConfiguration) (level : UInt32) (arrivals : List Arrival) :
    let client := { MmpClient.new config with sequenceNumber := level }
    ExactRun (client.start none).1 arrivals ↔
      ∀ first ∈ (config.heard level arrivals).head?,
        (Fits 32 (config.origin first).1 ∧ Fits 32 (config.origin first).2) ∧
          ∀ a ∈ config.heard level arrivals, config.Tolerates (config.origin first) a := by
  intro client
  have idle : client.running = false := rfl
  obtain ⟨address, started⟩ := MmpClient.start_none idle
  rw [started]
  cases set : config.has mmpFlagSetStart with
  | true =>
      have origin : ∀ first, config.origin first =
          (config.startX.toInt - (ntohlInt first.msg.x).toInt,
            config.startY.toInt - (ntohlInt first.msg.y).toInt) := by
        intro first
        rw [MmpConfiguration.origin, if_pos set]
      simp only [origin]
      exact exactRun_iff_of_unfixed set
  | false =>
      have origin : ∀ first, config.origin first = (0, 0) := by
        intro first
        rw [MmpConfiguration.origin, if_neg (by simp [set])]
      have zero : Fits 32 0 ∧ Fits 32 0 := by decide
      simp only [origin, zero, true_and]
      refine Iff.trans (exactRun_iff_of_fixed set) ?_
      change (∀ a ∈ config.heard level arrivals, config.Tolerates (0, 0) a) ↔ _
      cases config.heard level arrivals with
      | nil => simp
      | cons first later => simp

/-- The first position is the smallest one there is: its distance to the start
position is not a number of 32 bits. -/
theorem not_exactRun_of_leftmost :
    ¬ ExactRun ((MmpClient.new { flags := mmpFlagSetStart, onMouseMove := 1 }).start none).1
      [⟨.mouseMove { sequenceNumber := htonl 1, x := ntohlInt (-2147483648) }, ⟨1920, 1080⟩⟩] := by
  intro run
  have start := (run _ List.mem_cons_self rfl).start rfl
  revert start
  decide

end MagicMousePad
