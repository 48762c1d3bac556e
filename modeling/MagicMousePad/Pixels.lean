import MagicMousePad.ClientRange

/-!
# Pixels

With `mmp_flag_clip` a client reports positions on the range up to and including
its width and height, which are numbers of pixels.  The last position on each axis
is therefore no pixel of the screen, and a size from 2^31 on is taken for a
negative one.
-/

namespace MagicMousePad

/-! ## The positions reported -/

/-- The position is a pixel of a screen of a certain size. -/
def IsPixel (position : Int32 × Int32) (size : Int × Int) : Prop :=
  (0 ≤ position.1.toInt ∧ position.1.toInt < size.1) ∧
    0 ≤ position.2.toInt ∧ position.2.toInt < size.2

instance (position : Int32 × Int32) (size : Int × Int) : Decidable (IsPixel position size) :=
  inferInstanceAs (Decidable ((_ ∧ _) ∧ _ ∧ _))

namespace MmpConfiguration

/-- The size of the screen on which positions are reported: the local one, or the
whole range. -/
def reportedSize (config : MmpConfiguration) (screen : Screen) : Int × Int :=
  if config.has mmpFlagLocal then (screen.width.toInt, screen.height.toInt)
  else (config.width.toNat, config.height.toNat)

/-- The offset that the first of the messages reported fixes. -/
def startOffset (config : MmpConfiguration) (first : Arrival) : Int32 × Int32 :=
  if config.has mmpFlagSetStart then
    (config.startX - ntohlInt first.msg.x, config.startY - ntohlInt first.msg.y)
  else (0, 0)

/-- A message does not go beyond the last pixel. -/
def StaysBelow (config : MmpConfiguration) (offset : Int32 × Int32) (arrival : Arrival) : Prop :=
  let x := ntohlInt arrival.msg.x + offset.1
  let y := ntohlInt arrival.msg.y + offset.2
  if config.has mmpFlagLocal then
    clampAxis x config.width.toInt32 - config.offsetX < arrival.screen.width ∧
      clampAxis y config.height.toInt32 - config.offsetY < arrival.screen.height
  else
    (x < 0 ∨ x < config.width.toInt32) ∧ (y < 0 ∨ y < config.height.toInt32)

instance (config : MmpConfiguration) (offset : Int32 × Int32) (arrival : Arrival) :
    Decidable (config.StaysBelow offset arrival) := by
  unfold StaysBelow
  infer_instance

end MmpConfiguration

/-- Every position that a run passes to a callback is a pixel. -/
def RealPixels (client : MmpClient) (arrivals : List Arrival) : Prop :=
  ∀ t ∈ Mealy.trail MmpClient.step client arrivals, ∀ call,
    (t.1.step t.2).2.call = some call →
      IsPixel call.position (t.1.config.reportedSize t.2.screen)

/-! ## One axis -/

/-- On the whole range, clipping leaves a pixel exactly when the coordinate is
negative or below the size as the code reads it. -/
theorem clampAxis_pixel_iff {n : Int32} {size : UInt32} (positive : 1 ≤ size.toNat) :
    (0 ≤ (clampAxis n size.toInt32).toInt ∧ (clampAxis n size.toInt32).toInt < size.toNat) ↔
      n < 0 ∨ n < size.toInt32 := by
  rw [clampAxis_toInt, Int32.lt_iff_toInt_lt, Int32.lt_iff_toInt_lt, Int32.toInt_zero]
  rcases Nat.lt_or_ge size.toNat (2 ^ 31) with signed | beyond
  · rw [toInt_toInt32_of_lt signed]
    split
    · omega
    · split <;> omega
  · have negative : size.toInt32.toInt < 0 := by
      have bound := size.toNat_lt
      have image : size.toInt32 = Int32.ofNat size.toNat := by
        rw [← UInt32.toInt32_ofNat', UInt32.ofNat_toNat]
      have words : ((Int32.size : ℕ) : Int) = 2 ^ 32 := rfl
      rw [image, Int32.toInt_ofNat', Int.bmod_def, words]
      omega
    split
    · omega
    · split <;> omega

/-- On the local screen, clipping leaves a pixel exactly when the coordinate is
below its size. -/
theorem clampAxis_screen_iff {n size : Int32} (positive : 0 < size.toInt) :
    (0 ≤ (clampAxis n size).toInt ∧ (clampAxis n size).toInt < size.toInt) ↔ n < size := by
  rw [clampAxis_toInt, Int32.lt_iff_toInt_lt]
  split
  · omega
  · split <;> omega

/-! ## One message -/

/-- The place a message is reported at is a pixel. -/
def MmpClient.PlacesPixel (client : MmpClient) (arrival : Arrival) : Prop :=
  IsPixel (client.placed arrival.screen arrival.msg).1
    (client.config.reportedSize arrival.screen)

section OneMessage

variable {client : MmpClient} {arrival : Arrival}

theorem placesPixel_iff (clips : client.config.has mmpFlagClip = true)
    (wide : 1 ≤ client.config.width.toNat) (high : 1 ≤ client.config.height.toNat)
    (screen : 0 < arrival.screen.width.toInt ∧ 0 < arrival.screen.height.toInt) :
    client.PlacesPixel arrival ↔
      client.config.StaysBelow (client.capturing arrival.msg).offset arrival := by
  unfold MmpClient.PlacesPixel MmpConfiguration.StaysBelow MmpConfiguration.reportedSize IsPixel
  rw [MmpClient.placed_eq, MmpClient.remotePosition]
  simp only [clips, if_true, MmpClient.clip_eq, Int32.toInt32_toUInt32]
  cases client.config.has mmpFlagLocal with
  | false =>
      simp only [Bool.false_eq_true, if_false]
      rw [clampAxis_pixel_iff wide, clampAxis_pixel_iff high]
  | true =>
      simp only [if_true]
      rw [clampAxis_screen_iff screen.1, clampAxis_screen_iff screen.2]

theorem placesPixel_storing (client : MmpClient) (msg : MouseMsg) (arrival : Arrival) :
    (client.storing msg).PlacesPixel arrival ↔ client.PlacesPixel arrival := by
  rw [MmpClient.PlacesPixel, MmpClient.placed_storing, MmpClient.PlacesPixel]
  rfl

/-- The callback of a message is passed the place where it is reported. -/
theorem realPixels_iff_everyReport {arrivals : List Arrival} :
    RealPixels client arrivals ↔ EveryReport MmpClient.PlacesPixel client arrivals := by
  refine forall₂_congr fun t _ => ?_
  rw [MmpClient.step]
  rcases t.1.handle_cases t.2.screen t.2.msg with
    ⟨-, result⟩ | ⟨-, -, result⟩ | ⟨-, -, result⟩
  · simp [result]
  · simp [result]
  · simp only [result, Option.some.injEq, forall_eq', Option.isSome_some, forall_const,
      MmpConfiguration.position_report]
    rfl

end OneMessage

/-! ## Runs -/

section Runs

variable {client : MmpClient} {arrivals : List Arrival}

theorem mem_of_heard {config : MmpConfiguration} {level : UInt32} {a : Arrival}
    (heard : a ∈ config.heard level arrivals) : a ∈ arrivals :=
  Records.records_sublist.subset (List.mem_of_mem_filter heard)

variable (clips : client.config.has mmpFlagClip = true) (wide : 1 ≤ client.config.width.toNat)
  (high : 1 ≤ client.config.height.toNat)
  (screens : ∀ a ∈ arrivals, 0 < a.screen.width.toInt ∧ 0 < a.screen.height.toInt)
include clips wide high screens

/-- With a fixed offset, all positions are pixels when every message that is
reported stays below the size. -/
theorem realPixels_iff_of_fixed (fixed : client.updateOffset = false) :
    RealPixels client arrivals ↔
      ∀ a ∈ client.config.heard client.sequenceNumber arrivals,
        client.config.StaysBelow client.offset a := by
  rw [realPixels_iff_everyReport, everyReport_iff_of_fixed placesPixel_storing fixed]
  refine forall₂_congr fun a heard => ?_
  have kept : client.capturing a.msg = client := MmpClient.capturing_of_fixed fixed _
  rw [placesPixel_iff clips wide high (screens a (mem_of_heard heard)), kept]

/-- Before the offset is fixed, all positions are pixels when every message that is
reported stays below the size under the offset that the first one fixes. -/
theorem realPixels_iff_of_unfixed (unfixed : client.updateOffset = true) :
    RealPixels client arrivals ↔
      ∀ first ∈ (client.config.heard client.sequenceNumber arrivals).head?,
        ∀ a ∈ client.config.heard client.sequenceNumber arrivals,
          client.config.StaysBelow (client.config.startX - ntohlInt first.msg.x,
            client.config.startY - ntohlInt first.msg.y) a := by
  rw [realPixels_iff_everyReport, everyReport_iff_of_unfixed placesPixel_storing unfixed]
  refine forall₂_congr fun first isHead => ?_
  have captured : (client.capturing first.msg).offset =
      (client.config.startX - ntohlInt first.msg.x,
        client.config.startY - ntohlInt first.msg.y) := by
    rw [MmpClient.capturing, MmpClient.captureOffset, if_pos unfixed]
  have same := client.config_capturing first.msg
  obtain ⟨rest, whole⟩ := List.head?_eq_some_iff.mp isHead
  have screen : ∀ a ∈ first :: rest, 0 < a.screen.width.toInt ∧ 0 < a.screen.height.toInt :=
    fun a heard => screens a (mem_of_heard (whole ▸ heard))
  rw [← captured, whole, List.tail_cons, List.forall_mem_cons,
    placesPixel_iff clips wide high (screen first List.mem_cons_self)]
  refine and_congr_right fun _ => forall₂_congr fun a inRest => ?_
  have kept : (client.capturing first.msg).capturing a.msg = client.capturing first.msg :=
    MmpClient.capturing_of_fixed (client.updateOffset_capturing first.msg) _
  rw [placesPixel_iff (by rwa [same]) (by rwa [same]) (by rwa [same])
    (screen a (List.mem_cons_of_mem first inRest)), kept, same]

end Runs

/-- A started client that clips, on screens of positive size: all positions it
reports are pixels if and only if no message that it reports goes beyond the last
one, under the offset that the first of them fixes. -/
theorem realPixels_iff (config : MmpConfiguration) (level : UInt32) (arrivals : List Arrival)
    (clips : config.has mmpFlagClip = true) (wide : 1 ≤ config.width.toNat)
    (high : 1 ≤ config.height.toNat)
    (screens : ∀ a ∈ arrivals, 0 < a.screen.width.toInt ∧ 0 < a.screen.height.toInt) :
    let client := { MmpClient.new config with sequenceNumber := level }
    RealPixels (client.start none).1 arrivals ↔
      ∀ first ∈ (config.heard level arrivals).head?,
        ∀ a ∈ config.heard level arrivals, config.StaysBelow (config.startOffset first) a := by
  intro client
  have idle : client.running = false := rfl
  obtain ⟨address, started⟩ := MmpClient.start_none idle
  rw [started]
  cases set : config.has mmpFlagSetStart with
  | true =>
      have offset : ∀ first, config.startOffset first =
          (config.startX - ntohlInt first.msg.x, config.startY - ntohlInt first.msg.y) := by
        intro first
        rw [MmpConfiguration.startOffset, if_pos set]
      simp only [offset]
      exact realPixels_iff_of_unfixed clips wide high screens set
  | false =>
      have offset : ∀ first, config.startOffset first = (0, 0) := by
        intro first
        rw [MmpConfiguration.startOffset, if_neg (by simp [set])]
      simp only [offset]
      refine (realPixels_iff_of_fixed clips wide high screens set).trans ?_
      change (∀ a ∈ config.heard level arrivals, config.StaysBelow (0, 0) a) ↔ _
      cases config.heard level arrivals with
      | nil => simp
      | cons first later => simp

/-- Two moves to the last pixels of a wall of 1920 by 1080. -/
theorem realPixels_in_corner :
    let client := { MmpClient.new { flags := 1, width := 1920, height := 1080, onMouseMove := 1 }
      with sequenceNumber := 0 }
    RealPixels (client.start none).1
      [⟨.mouseMove { sequenceNumber := htonl 1, x := ntohlInt 1919 }, ⟨1920, 1080⟩⟩,
        ⟨.mouseMove { sequenceNumber := htonl 2, y := ntohlInt 1079 }, ⟨1920, 1080⟩⟩] := by
  refine (realPixels_iff _ 0 _ (by decide) (by decide) (by decide) (by decide)).mpr ?_
  decide

/-- A move one pixel further: it is reported there. -/
theorem not_realPixels_beyond_corner :
    ¬ RealPixels
      ((MmpClient.new { flags := 1, width := 1920, height := 1080, onMouseMove := 1 }).start none).1
      [⟨.mouseMove { sequenceNumber := htonl 1, x := ntohlInt 1920 }, ⟨1920, 1080⟩⟩] := by
  intro pixels
  have reported := pixels _ List.mem_cons_self _ rfl
  revert reported
  decide

end MagicMousePad
