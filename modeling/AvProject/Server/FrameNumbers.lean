import AvProject.Lib.Numbering
import AvProject.Lib.Run
import AvProject.Rtp.LossCounters
import AvProject.Server.CaptureDevices

/-!
The numbers of the frames that a capture device returns. A client takes every gap in them for a
loss on the network, so there must be none at the source. A V4L2 device numbers a frame once it
has it. The null device takes the number first, and a picture that x264 keeps back or fails on
takes its number with it.
-/

namespace AvProject.Server

open AvProject.Lib AvProject.Client AvProject.Rtp

/-! ### One call -/

/-- The call takes a number for a picture of which x264 makes no frame. -/
def CaptureDevice.skipsNumber : CaptureDevice → DeviceCall → Bool
  | .null d, .captureFrame answers =>
      d.streaming && d.patternEncoder.isSome && answers.x264.output.isNone
  | _, _ => false

/-- What a call can do to the number of the next frame, and what it returns. -/
inductive NumberEffect (sequence : UInt64) : Bool → UInt64 → Option EncodedFrame → Prop
  | kept : NumberEffect sequence false sequence none
  | returned (frame : EncodedFrame) (hnumber : frame.sequence = sequence.toNat) :
      NumberEffect sequence false (sequence + 1) (some frame)
  | skipped : NumberEffect sequence true (sequence + 1) none

namespace NullCaptureDevice

variable (d : NullCaptureDevice)

theorem start_kept (x264Opens : Bool) :
    (d.start x264Opens).1.sequence = d.sequence ∧
      (d.start x264Opens).1.config = d.config := by
  rw [start]
  split
  · exact ⟨rfl, rfl⟩
  · split
    · split <;> exact ⟨rfl, rfl⟩
    · exact ⟨rfl, rfl⟩

theorem patternEncoder_takes {encoder : VideoEncoder} (h : d.patternEncoder = some encoder) :
    encoder.Takes d.syntheticYuyvFrameSize := by
  rw [patternEncoder] at h
  split at h
  · exact d.encoder_takes encoder h
  · cases h

/-- With an encoder, there is a frame if x264 makes one; the number is taken either way. -/
theorem captureFrame_of_patternEncoder {encoder : VideoEncoder} (hstreaming : d.streaming = true)
    (hencoder : d.patternEncoder = some encoder) (answers : CaptureAnswers) :
    d.captureFrame answers =
      ({ d with sequence := d.sequence + 1 }, answers.x264.output.map fun output =>
        assembledFrame d.sequence answers.capturedNs answers.encodeStartNs answers.encodeEndNs
          output.2 output.1) := by
  rw [captureFrame, hstreaming]
  simp only [Bool.not_true, Bool.false_eq_true, if_false, hencoder,
    (d.patternEncoder_takes hencoder).encodeYuyv422Frame answers.x264]
  cases answers.x264.output <;> rfl

/-- It goes on encoding, whatever x264 has answered. -/
theorem captureFrame_patternEncoder {encoder : VideoEncoder} (hstreaming : d.streaming = true)
    (hencoder : d.patternEncoder = some encoder) (answers : CaptureAnswers) :
    (d.captureFrame answers).1.streaming = true ∧
      (d.captureFrame answers).1.patternEncoder = some encoder := by
  rw [d.captureFrame_of_patternEncoder hstreaming hencoder]
  exact ⟨hstreaming, hencoder⟩

theorem captureFrame_effect (answers : CaptureAnswers) :
    NumberEffect d.sequence ((CaptureDevice.null d).skipsNumber (.captureFrame answers))
      (d.captureFrame answers).1.sequence (d.captureFrame answers).2 := by
  rw [CaptureDevice.skipsNumber]
  cases hstreaming : d.streaming with
  | false =>
      rw [captureFrame, hstreaming]
      exact .kept
  | true =>
      cases hencoder : d.patternEncoder with
      | none =>
          -- a frame of text, which cannot fail
          rw [captureFrame, hstreaming, hencoder]
          exact .returned _ rfl
      | some encoder =>
          rw [d.captureFrame_of_patternEncoder hstreaming hencoder]
          cases answers.x264.output with
          | none => exact .skipped
          | some output => exact .returned _ rfl

end NullCaptureDevice

namespace V4L2CaptureDevice

variable (d : V4L2CaptureDevice)

theorem openDevice_sequence (deviceStat : Option Bool) (opens : Bool) :
    (d.openDevice deviceStat opens).1.sequence = d.sequence := by
  cases deviceStat with
  | none => rfl
  | some isCharacterDevice =>
      rw [openDevice]
      split <;> rfl

theorem start_sequence (setup : DriverSetup) (x264Opens : Bool) :
    (d.start setup x264Opens).1.sequence = d.sequence := by
  rw [start]
  split
  · rfl
  · split
    · rfl
    · split
      · rfl
      · split <;> rfl

theorem stop_sequence : d.stop.sequence = d.sequence := by
  rw [stop]
  split <;> rfl

/-- Whatever fails, fails before the number is taken. -/
theorem captureFrame_effect (answers : CaptureAnswers) :
    NumberEffect d.sequence false (d.captureFrame answers).1.sequence
      (d.captureFrame answers).2 := by
  rw [captureFrame]
  split
  · exact .kept
  · split
    · exact .kept
    · split
      · exact .kept
      · -- The frame is lost if its buffer cannot be queued again, and still has no number.
        split
        · exact .kept
        · exact .returned _ rfl

theorem encodeRawFrame_effect (raw : Option RawCaptureFrame) (answers : CaptureAnswers) :
    NumberEffect d.sequence false (d.encodeRawFrame raw answers).1.sequence
      (d.encodeRawFrame raw answers).2 := by
  cases raw with
  | none => exact .kept
  | some raw =>
      rw [encodeRawFrame]
      split
      · exact .kept
      · exact .returned _ rfl

end V4L2CaptureDevice

theorem NumberEffect.number {sequence next : UInt64} {skips : Bool} {frame : EncodedFrame}
    (h : NumberEffect sequence skips next (some frame)) : frame.sequence = sequence.toNat := by
  cases h with
  | returned _ hnumber => exact hnumber

/-- A call that leaves the number as it is. -/
theorem NumberEffect.of_sequence_eq {before after : UInt64} (h : after = before) :
    NumberEffect before false after none := by
  rw [h]
  exact .kept

/-- The step lemma: a call keeps the next number, gives it to a frame, or skips it. -/
theorem CaptureDevice.call_effect (d : CaptureDevice) (call : DeviceCall) :
    NumberEffect d.sequence (d.skipsNumber call) (d.call call).1.sequence (d.call call).2 := by
  cases d with
  | null d =>
      cases call with
      | openDevice => exact .kept
      | start _ x264Opens => exact .of_sequence_eq (d.start_kept x264Opens).1
      | captureFrame answers => exact d.captureFrame_effect answers
      | captureRawFrame => exact .kept
      | encodeRawFrame => exact .kept
      | stop => exact .kept
      | close => exact .kept
  | v4l2 d =>
      cases call with
      | openDevice deviceStat opens =>
          exact .of_sequence_eq (d.openDevice_sequence deviceStat opens)
      | start setup x264Opens => exact .of_sequence_eq (d.start_sequence setup x264Opens)
      | captureFrame answers => exact d.captureFrame_effect answers
      | captureRawFrame => exact .kept
      | encodeRawFrame raw answers => exact d.encodeRawFrame_effect raw answers
      | stop => exact .of_sequence_eq d.stop_sequence
      | close => exact .kept

theorem NumberEffect.countsFrom {start skipped : ℕ} {sequence next : UInt64} {skips : Bool}
    {frame : Option EncodedFrame} {numbers : List ℕ}
    (heffect : NumberEffect sequence skips next frame)
    (h : CountsFrom (2 ^ 64) start sequence.toNat skipped numbers) :
    CountsFrom (2 ^ 64) start next.toNat (skipped + skips.toNat)
      (numbers ++ frame.toList.map (·.sequence)) := by
  have hnext : (sequence + 1).toNat = (sequence.toNat + 1) % 2 ^ 64 := UInt64.toNat_add sequence 1
  cases heffect with
  | kept =>
      rw [Option.toList_none, List.map_nil, List.append_nil]
      exact h
  | returned frame hnumber =>
      rw [hnext, Option.toList_some, List.map_singleton, hnumber]
      exact h.give
  | skipped =>
      rw [hnext, Option.toList_none, List.map_nil, List.append_nil]
      exact h.skip

/-! ### Any number of calls -/

structure CaptureRun where
  device : CaptureDevice
  returned : List EncodedFrame := []

namespace CaptureRun

def numbers (r : CaptureRun) : List ℕ := r.returned.map (·.sequence)

def afterCall (r : CaptureRun) (call : DeviceCall) : CaptureRun where
  device := (r.device.call call).1
  returned := r.returned ++ (r.device.call call).2.toList

/-- No call is refused. -/
def step (r : CaptureRun) (call : DeviceCall) : Option CaptureRun := some (r.afterCall call)

/-- The call does not take a number without a frame. -/
def Keeps (r : CaptureRun) (call : DeviceCall) : Prop := r.device.skipsNumber call = false

instance (r : CaptureRun) (call : DeviceCall) : Decidable (r.Keeps call) :=
  inferInstanceAs (Decidable (_ = _))

/-- How many numbers the calls take without a frame. -/
def skips (r : CaptureRun) : List DeviceCall → ℕ
  | [] => 0
  | call :: calls => (r.device.skipsNumber call).toNat + (r.afterCall call).skips calls

/-- Where the run stands, counted from the number `start`. -/
def Counted (start skipped : ℕ) (r : CaptureRun) : Prop :=
  CountsFrom (2 ^ 64) start r.device.sequence.toNat skipped r.numbers

variable {start skipped : ℕ} {r after : CaptureRun} {calls : List DeviceCall}

theorem counted_start (d : CaptureDevice) : Counted d.sequence.toNat 0 { device := d } :=
  .nil d.sequence.toNat_lt

theorem Counted.afterCall (h : r.Counted start skipped) (call : DeviceCall) :
    (r.afterCall call).Counted start (skipped + (r.device.skipsNumber call).toNat) := by
  rw [Counted, numbers, CaptureRun.afterCall, List.map_append]
  exact (r.device.call_effect call).countsFrom h

/-- The run lemma: every number that is not skipped is given to a frame. -/
theorem Counted.run (h : r.Counted start skipped) (hrun : runSteps step r calls = some after) :
    after.Counted start (skipped + r.skips calls) := by
  induction calls generalizing r skipped with
  | nil =>
      obtain rfl := Option.some.inj hrun
      exact h
  | cons call calls ih =>
      rw [skips, ← Nat.add_assoc]
      exact ih (h.afterCall call) hrun

theorem skips_eq_zero : r.skips calls = 0 ↔ StepsMeet step Keeps r calls := by
  induction calls generalizing r with
  | nil => exact iff_of_true rfl trivial
  | cons call calls ih =>
      rw [skips, Nat.add_eq_zero_iff, ih, stepsMeet_cons step rfl, Keeps, Bool.toNat_eq_zero]

/-- Calls that keep leave the count of skipped numbers as it is. -/
theorem Counted.run_of_keeps (h : r.Counted start skipped) (hkeeps : StepsMeet step Keeps r calls)
    (hrun : runSteps step r calls = some after) : after.Counted start skipped := by
  have hcounted := h.run hrun
  rw [skips_eq_zero.mpr hkeeps] at hcounted
  exact hcounted

theorem skips_le : r.skips calls ≤ calls.length := by
  induction calls generalizing r with
  | nil => exact Nat.le_refl 0
  | cons call calls ih =>
      rw [skips, List.length_cons, Nat.add_comm]
      exact Nat.add_le_add ih (Bool.toNat_le _)

end CaptureRun

/-! ### Gaps -/

/-- The frames are numbered one by one from `start`. -/
structure NoGaps (start : ℕ) (frames : List EncodedFrame) : Prop where
  numbered : NumberedFrom (2 ^ 64) start (frames.map (·.sequence))
  /-- Where a client finds that a frame does not follow the one before, it is not the next that
  the device returned. -/
  gap_means_loss : ∀ (st : StreamClient) (frame : ReceivedFrame) (nowNs i j : ℕ)
    (previous current : EncodedFrame), frames[i]? = some previous → frames[j]? = some current →
    st.lastCompletedFrameSequence = previous.sequence → key frame = current.sequence →
    (onCompletedUdpFrame st frame nowNs).udpReceiveStats.reorderedFrames ≠
      st.udpReceiveStats.reorderedFrames → j ≠ i + 1

/-- What a client makes of a number that does not follow. -/
theorem onCompletedUdpFrame_gap {st : StreamClient} {frame : ReceivedFrame}
    (hlast : st.hasLastCompletedFrameSequence = true)
    (hgap : key frame ≠ (st.lastCompletedFrameSequence + 1) % 2 ^ 64) (nowNs : ℕ) :
    (onCompletedUdpFrame st frame nowNs).udpReceiveStats.reorderedFrames =
      st.udpReceiveStats.reorderedFrames + 1 := by
  have hcounted := congrArg CompletionOrder.reorderedFrames
    (onCompletedUdpFrame_completionOrder st nowNs frame)
  rw [CompletionOrder.complete, if_pos ⟨hlast, hgap⟩] at hcounted
  exact hcounted

/-- The numbers are all that a client goes by. -/
theorem NoGaps.of_numbered {start : ℕ} {frames : List EncodedFrame}
    (h : NumberedFrom (2 ^ 64) start (frames.map (·.sequence))) : NoGaps start frames where
  numbered := h
  gap_means_loss st frame nowNs i j previous current hi hj hlast hkey hcounted := by
    rintro rfl
    apply hcounted
    have hi' : (frames.map (·.sequence))[i]? = some previous.sequence := by
      rw [List.getElem?_map, hi, Option.map_some]
    have hj' : (frames.map (·.sequence))[i + 1]? = some current.sequence := by
      rw [List.getElem?_map, hj, Option.map_some]
    have hnext : key frame = ((completionOrder st).lastCompletedFrameSequence + 1) % 2 ^ 64 := by
      rw [hkey, h.next hi' hj', ← hlast]
      rfl
    have hkept := CompletionOrder.complete_reorderedFrames (o := completionOrder st)
      fun _ => hnext
    rw [← onCompletedUdpFrame_completionOrder st nowNs frame] at hkept
    exact hkept

theorem NoGaps.initial {start : ℕ} {first frames : List EncodedFrame} (h : NoGaps start frames)
    (hinitial : first <+: frames) : NoGaps start first :=
  .of_numbered (h.numbered.initial (hinitial.map _))

theorem CaptureRun.Counted.noGaps {start : ℕ} {r : CaptureRun} (h : r.Counted start 0) :
    NoGaps start r.returned :=
  .of_numbered (h.numbered rfl)

/-- As long as no call takes a number without a frame, the frames that a device returns have
consecutive numbers from its own on, whatever else fails. -/
theorem returnedFrames_noGaps {d : CaptureDevice} {calls : List DeviceCall} {after : CaptureRun}
    (hkeeps : StepsMeet CaptureRun.step CaptureRun.Keeps { device := d } calls)
    (hrun : runSteps CaptureRun.step { device := d } calls = some after) :
    NoGaps d.sequence.toNat after.returned := by
  have hcounted := (CaptureRun.counted_start d).run_of_keeps hkeeps hrun
  exact hcounted.noGaps

/-- A driver with two buffers. -/
def twoBuffers : DriverSetup where
  capabilities := some (true, true)
  formatSet := true
  requestCount := some 2
  mapped _ := some 8
  queued _ := true
  streamOn := true

/-- A buffer is dequeued and queued again, and x264 makes a byte of it. -/
def oneByte : CaptureAnswers where
  dequeued := some
    { index := 0, bytesused := 0, monotonic := true, tvSec := 1, tvUsec := 2, memory := [] }
  requeued := true
  x264 := .encoded [[1]] true
  capturedNs := 0
  encodeStartNs := 0
  encodeEndNs := 0

def smallPicture : CaptureConfig where
  device := "/dev/video0"
  width := 2
  height := 2

/-- Both ways to capture, with each kind of failure between the frames. -/
def cameraCalls : List DeviceCall :=
  [.openDevice (some true) true, .start twoBuffers true, .captureFrame oneByte,
    .captureFrame { oneByte with dequeued := none },
    .captureFrame { oneByte with x264 := .failed },
    .captureFrame { oneByte with requeued := false },
    .captureRawFrame oneByte, .encodeRawFrame (some ⟨[], 5, 8⟩) { oneByte with x264 := .failed },
    .encodeRawFrame (some ⟨[], 5, 8⟩) oneByte, .captureFrame oneByte]

def camera : CaptureDevice := .v4l2 { captureConfig := smallPicture, codecConfig := {} }

theorem returnedFrames_noGaps_of_camera :
    ∃ after, runSteps CaptureRun.step { device := camera } cameraCalls = some after ∧
      after.numbers = [0, 1, 2] ∧ NoGaps camera.sequence.toNat after.returned := by
  have hkeeps : StepsMeet CaptureRun.step CaptureRun.Keeps { device := camera } cameraCalls := by
    decide
  exact ⟨_, rfl, by decide, returnedFrames_noGaps hkeeps rfl⟩

/-! ### A number without a frame -/

/-- A frame after a skipped number leaves a gap, at least before the numbers have gone round. -/
theorem not_noGaps_of_skips {d : CaptureDevice} {calls : List DeviceCall} {last : DeviceCall}
    {after : CaptureRun} {frame : EncodedFrame}
    (hskips : ¬ StepsMeet CaptureRun.step CaptureRun.Keeps { device := d } calls)
    (hfew : calls.length < 2 ^ 64)
    (hrun : runSteps CaptureRun.step { device := d } calls = some after)
    (hlast : (after.device.call last).2 = some frame) :
    ¬ NoGaps d.sequence.toNat (after.afterCall last).returned := by
  intro hnogaps
  have hcounted := (CaptureRun.counted_start d).run hrun
  rw [Nat.zero_add] at hcounted
  have hsome : CaptureRun.skips { device := d } calls ≠ 0 :=
    fun h => hskips (CaptureRun.skips_eq_zero.mp h)
  have hlt : CaptureRun.skips { device := d } calls < 2 ^ 64 :=
    Nat.lt_of_le_of_lt CaptureRun.skips_le hfew
  have hgap := hcounted.gap fun h => hsome (by rw [← Nat.mod_eq_of_lt hlt, h, Nat.zero_mod])
  have heffect := after.device.call_effect last
  rw [hlast] at heffect
  apply hgap
  have hnumbered := hnogaps.numbered
  rw [CaptureRun.afterCall, hlast, Option.toList_some, List.map_append, List.map_singleton,
    heffect.number] at hnumbered
  exact hnumbered

/-! ### Which devices skip -/

/-- The device has been told to encode pictures of its own. -/
def CaptureDevice.encodesPattern : CaptureDevice → Bool
  | .null d => d.config.nullPayloadMode = "h264_test_pattern"
  | .v4l2 _ => false

theorem CaptureDevice.encodesPattern_of_skipsNumber {d : CaptureDevice} {call : DeviceCall}
    (h : d.skipsNumber call = true) : d.encodesPattern = true := by
  cases d with
  | v4l2 d => cases call <;> cases h
  | null d =>
      cases call with
      | captureFrame answers =>
          rw [skipsNumber, Bool.and_eq_true, Bool.and_eq_true] at h
          obtain ⟨encoder, hencoder⟩ := Option.isSome_iff_exists.mp h.1.2
          rw [NullCaptureDevice.patternEncoder] at hencoder
          split at hencoder
          · exact decide_eq_true ‹_›
          · cases hencoder
      | _ => cases h

namespace NullCaptureDevice

variable (d : NullCaptureDevice)

theorem captureFrame_config (answers : CaptureAnswers) :
    (d.captureFrame answers).1.config = d.config := by
  rw [captureFrame]
  split
  · rfl
  · split
    · split <;> rfl
    · rfl

end NullCaptureDevice

/-- An open device starts to encode if it is to, and x264 can be opened. -/
theorem NullCaptureDevice.start_pattern {d : NullCaptureDevice} (hopened : d.opened = true)
    (hmode : d.config.nullPayloadMode = "h264_test_pattern")
    (hcodec : resolveVideoEncoderBackendSelection d.codecConfig = .ok ()) :
    (d.start true).1.streaming = true ∧ (d.start true).1.patternEncoder.isSome = true := by
  rw [start, if_neg (by rw [hopened]; decide), if_pos hmode]
  split
  · rename_i hnone
    rw [VideoEncoder.initialized, hcodec] at hnone
    cases hnone
  · refine ⟨rfl, ?_⟩
    rw [patternEncoder, if_pos hmode]
    rfl

/-- No call changes the settings. -/
theorem CaptureDevice.call_encodesPattern (d : CaptureDevice) (call : DeviceCall) :
    (d.call call).1.encodesPattern = d.encodesPattern := by
  cases d with
  | v4l2 d => cases call <;> rfl
  | null d =>
      cases call with
      | start _ x264Opens =>
          show encodesPattern (.null (d.start x264Opens).1) = _
          rw [encodesPattern, encodesPattern, (d.start_kept x264Opens).2]
      | captureFrame answers =>
          show encodesPattern (.null (d.captureFrame answers).1) = _
          rw [encodesPattern, encodesPattern, d.captureFrame_config]
      | _ => rfl

theorem CaptureRun.keeps_of_not_encodesPattern {r : CaptureRun}
    (h : r.device.encodesPattern = false) (calls : List DeviceCall) :
    StepsMeet step Keeps r calls := by
  induction calls generalizing r with
  | nil => exact trivial
  | cons call calls ih =>
      refine (stepsMeet_cons step rfl).mpr ⟨?_, ih ?_⟩
      · rw [Keeps, ← Bool.not_eq_true]
        intro hskips
        rw [CaptureDevice.encodesPattern_of_skipsNumber hskips] at h
        cases h
      · exact (r.device.call_encodesPattern call).trans h

theorem noGaps_of_not_encodesPattern {d : CaptureDevice} (h : d.encodesPattern = false)
    {calls : List DeviceCall} {after : CaptureRun}
    (hrun : runSteps CaptureRun.step { device := d } calls = some after) :
    NoGaps d.sequence.toNat after.returned := by
  have hkeeps := CaptureRun.keeps_of_not_encodesPattern (r := { device := d }) h calls
  exact ((CaptureRun.counted_start d).run_of_keeps hkeeps hrun).noGaps

/-- x264 fails on the first picture. -/
def failingCalls : List DeviceCall :=
  [.openDevice none false, .start twoBuffers true, .captureFrame { oneByte with x264 := .failed }]

/-- A device that is to encode has a gap after a failure. -/
theorem NullCaptureDevice.gap_of_failure {d : NullCaptureDevice}
    (hmode : d.config.nullPayloadMode = "h264_test_pattern")
    (hcodec : resolveVideoEncoderBackendSelection d.codecConfig = .ok ()) :
    ∃ after, runSteps CaptureRun.step { device := .null d }
        (failingCalls ++ [.captureFrame oneByte]) = some after ∧
      ¬ NoGaps d.sequence.toNat after.returned := by
  obtain ⟨hstreaming, hsome⟩ := start_pattern (d := d.openDevice.1) rfl hmode hcodec
  obtain ⟨encoder, hencoder⟩ := Option.isSome_iff_exists.mp hsome
  -- The third call takes a number, and there is no frame before the fourth.
  have hfails : ¬ StepsMeet CaptureRun.step CaptureRun.Keeps { device := .null d }
      failingCalls := by
    intro hkeeps
    have hthird := ((stepsMeet_cons _ rfl).mp ((stepsMeet_cons _ rfl).mp
      ((stepsMeet_cons _ rfl).mp hkeeps).2).2).1
    have hskips : (CaptureDevice.null (d.openDevice.1.start true).1).skipsNumber
        (.captureFrame { oneByte with x264 := .failed }) = true := by
      rw [CaptureDevice.skipsNumber, hstreaming, hsome]
      rfl
    rw [CaptureRun.Keeps] at hthird
    exact Bool.false_ne_true (hthird.symm.trans hskips)
  obtain ⟨hstreaming', hencoder'⟩ := captureFrame_patternEncoder _ hstreaming hencoder
    { oneByte with x264 := .failed }
  have hreturned : (((d.openDevice.1.start true).1.captureFrame
      { oneByte with x264 := .failed }).1.captureFrame oneByte).2.isSome = true := by
    rw [captureFrame_of_patternEncoder _ hstreaming' hencoder']
    rfl
  obtain ⟨frame, hframe⟩ := Option.isSome_iff_exists.mp hreturned
  exact ⟨_, rfl, not_noGaps_of_skips (d := .null d) hfails (by decide) rfl hframe⟩

/-- Of the devices that a valid configuration gives, those that encode no pictures of their own
are the ones whose frames have no gaps under any failures. -/
theorem create_noGaps_iff {capture : CaptureConfig} {codec : CodecConfig} {d : CaptureDevice}
    (hcodec : resolveVideoEncoderBackendSelection codec = .ok ())
    (hcreate : CaptureDevice.create capture codec = .ok d) :
    (∀ calls after, runSteps CaptureRun.step { device := d } calls = some after →
      NoGaps d.sequence.toNat after.returned) ↔ d.encodesPattern = false := by
  constructor
  · intro hall
    cases d with
    | v4l2 => rfl
    | null d =>
        obtain rfl : d = { config := capture, codecConfig := codec } := by
          rw [CaptureDevice.create] at hcreate
          split at hcreate <;> cases hcreate
          rfl
        refine decide_eq_false fun hmode => ?_
        obtain ⟨after, hrun, hgap⟩ := NullCaptureDevice.gap_of_failure
          (d := { config := capture, codecConfig := codec }) hmode hcodec
        exact hgap (hall _ after hrun)
  · intro hpattern calls after hrun
    exact noGaps_of_not_encodesPattern hpattern hrun

def patternPicture : CaptureConfig :=
  { smallPicture with source := "null", nullPayloadMode := "h264_test_pattern" }

/-- x264 fails on the second of three pictures. -/
def patternCalls : List DeviceCall :=
  [.openDevice none false, .start twoBuffers true, .captureFrame oneByte,
    .captureFrame { oneByte with x264 := .failed }, .captureFrame oneByte]

/-- Two frames in a row are numbered 0 and 2, and a client that completes the one after the
other counts the second as out of order. -/
theorem nullDevice_gap :
    ∃ d after, validateCapture patternPicture = .ok () ∧ validateCodec {} = .ok () ∧
      CaptureDevice.create patternPicture {} = .ok d ∧
      runSteps CaptureRun.step { device := d } patternCalls = some after ∧
      after.numbers = [0, 2] ∧ ¬ NoGaps d.sequence.toNat after.returned ∧
      ∀ (st : StreamClient) (frame : ReceivedFrame) (nowNs : ℕ),
        st.hasLastCompletedFrameSequence = true → st.lastCompletedFrameSequence = 0 →
        key frame = 2 →
        (onCompletedUdpFrame st frame nowNs).udpReceiveStats.reorderedFrames =
          st.udpReceiveStats.reorderedFrames + 1 := by
  refine ⟨_, _, by decide, by decide, rfl, rfl, by decide, ?_, ?_⟩
  · intro h
    exact absurd h.numbered (by decide)
  · intro st frame nowNs hlast hzero htwo
    apply onCompletedUdpFrame_gap hlast
    rw [hzero, htwo]
    decide

end AvProject.Server
