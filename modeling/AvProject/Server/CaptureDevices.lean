import AvProject.Server.ConfigLoader
import AvProject.Server.UdpStreamingBackend

/-!
The two capture devices, `NullCaptureDevice` and `V4L2CaptureDevice`, and the encoder behind
them. What the driver and x264 answer comes with each call, and so do the times that the clock
shows. Pictures are left out up to their size: only the colour conversion and x264 look at them.
The descriptor is left out, and what is only logged.
-/

namespace AvProject.Server

open AvProject.Lib

/-! ### The encoder -/

/-- What `x264_encoder_encode` answers. -/
inductive X264Answer
  | failed
  | encoded (nals : List Bytes) (isKeyframe : Bool)
  deriving DecidableEq, Repr

/-- What comes out and whether it is a keyframe. x264 may keep a picture back, and then
nothing comes out, which counts as a failure. -/
def X264Answer.output : X264Answer → Option (Bytes × Bool)
  | .failed => none
  | .encoded nals isKeyframe =>
      if nals.flatten.isEmpty then none else some (nals.flatten, isKeyframe)

/-- The size of a YUYV picture; both sides are positive where x264 can be opened. -/
def yuyvSize (width height : ℤ) : ℕ := (width * height * 2).toNat

structure X264VideoEncoderBackend where
  width : ℤ
  height : ℤ
  deriving DecidableEq, Repr

/-- `EncodeYuyv422Frame`; `none` where it returns false. -/
def X264VideoEncoderBackend.encodeYuyv422Frame (backend : X264VideoEncoderBackend)
    (inputLength : ℕ) (answer : X264Answer) : Option (Bytes × Bool) :=
  if inputLength < yuyvSize backend.width backend.height then none else answer.output

structure VideoEncoder where
  backend : Option X264VideoEncoderBackend := none
  deriving DecidableEq, Repr

namespace VideoEncoder

/-- A new encoder after `Initialize`; `x264Opens` tells whether x264 can be opened. -/
def initialized (width height : ℤ) (codec : CodecConfig) (x264Opens : Bool) :
    Option VideoEncoder :=
  match resolveVideoEncoderBackendSelection codec with
  | .error _ => none
  | .ok _ => if x264Opens then some { backend := some { width, height } } else none

def encodeYuyv422Frame (encoder : VideoEncoder) (inputLength : ℕ) (answer : X264Answer) :
    Option (Bytes × Bool) :=
  match encoder.backend with
  | none => none
  | some backend => backend.encodeYuyv422Frame inputLength answer

/-- The encoder is open, and input of this length is enough for a picture. -/
def Takes (encoder : VideoEncoder) (inputLength : ℕ) : Prop :=
  ∃ backend, encoder.backend = some backend ∧
    yuyvSize backend.width backend.height ≤ inputLength

/-- With enough input, x264 decides alone. -/
theorem Takes.encodeYuyv422Frame {encoder : VideoEncoder} {inputLength : ℕ}
    (h : encoder.Takes inputLength) (answer : X264Answer) :
    encoder.encodeYuyv422Frame inputLength answer = answer.output := by
  obtain ⟨backend, hbackend, hle⟩ := h
  rw [VideoEncoder.encodeYuyv422Frame, hbackend]
  exact if_neg (Nat.not_lt.mpr hle)

theorem takes_of_initialized {width height : ℤ} {codec : CodecConfig} {x264Opens : Bool}
    {encoder : VideoEncoder} (h : initialized width height codec x264Opens = some encoder) :
    encoder.Takes (yuyvSize width height) := by
  rw [initialized] at h
  split at h
  · cases h
  · split at h
    · cases h
      exact ⟨_, rfl, Nat.le_refl _⟩
    · cases h

end VideoEncoder

/-! ### Answers -/

/-- What `VIDIOC_DQBUF` fills in. -/
structure V4l2Buffer where
  index : ℕ
  bytesused : ℕ
  /-- The timestamp is of the monotonic clock. -/
  monotonic : Bool
  tvSec : UInt64
  tvUsec : UInt64
  /-- The memory from the start of the mapped buffer on. -/
  memory : Bytes

/-- What a call that captures or encodes meets with. -/
structure CaptureAnswers where
  /-- `VIDIOC_DQBUF`; `none` where it fails, for now or for good. -/
  dequeued : Option V4l2Buffer
  /-- `VIDIOC_QBUF`. -/
  requeued : Bool
  x264 : X264Answer
  capturedNs : UInt64
  encodeStartNs : UInt64
  encodeEndNs : UInt64

/-- The image as it comes from the driver. -/
structure RawCaptureFrame where
  data : Bytes
  captureTimestampNs : UInt64
  bytesUsed : ℕ
  deriving DecidableEq, Repr

/-- A video frame with this number. -/
def assembledFrame (sequence captureNs startNs endNs : UInt64) (isKeyframe : Bool)
    (payload : Bytes) : EncodedFrame where
  type := .kVideo
  sequence := sequence.toNat
  captureTimestampNs := captureNs.toNat
  encodeStartTimestampNs := startNs.toNat
  encodeEndTimestampNs := endNs.toNat
  isKeyframe := isKeyframe
  payload := payload
  sequence_lt := sequence.toNat_lt
  captureTimestampNs_lt := captureNs.toNat_lt
  encodeStartTimestampNs_lt := startNs.toNat_lt
  encodeEndTimestampNs_lt := endNs.toNat_lt

/-! ### `NullCaptureDevice` -/

structure NullCaptureDevice where
  config : CaptureConfig
  codecConfig : CodecConfig
  opened : Bool := false
  streaming : Bool := false
  sequence : UInt64 := 0
  encoder : Option VideoEncoder := none
  syntheticYuyvFrameSize : ℕ := 0
  /-- The synthetic picture is large enough for the encoder. -/
  encoder_takes : ∀ e ∈ encoder, e.Takes syntheticYuyvFrameSize := by simp

namespace NullCaptureDevice

/-- `Open`. -/
def openDevice (d : NullCaptureDevice) : NullCaptureDevice × Bool :=
  ({ d with opened := true }, true)

def start (d : NullCaptureDevice) (x264Opens : Bool) : NullCaptureDevice × Bool :=
  if !d.opened then (d, false)
  else if d.config.nullPayloadMode = "h264_test_pattern" then
    match hencoder : VideoEncoder.initialized d.config.width d.config.height d.codecConfig
        x264Opens with
    | none => ({ d with encoder := none, encoder_takes := by simp }, false)
    | some encoder =>
        ({ d with
            encoder := some encoder
            syntheticYuyvFrameSize := yuyvSize d.config.width d.config.height
            streaming := true
            encoder_takes := by
              rintro e ⟨⟩
              exact VideoEncoder.takes_of_initialized hencoder }, true)
  else ({ d with streaming := true }, true)

/-- The payload of a frame that is no picture: its number, filled up with a letter. -/
def textPayload (config : CaptureConfig) (sequence : UInt64) : Bytes :=
  let text := ("null-frame-".toList ++ decimal sequence.toNat).map fun c => UInt8.ofNat c.toNat
  text ++ List.replicate (config.nullPayloadBytes - text.length)
    (UInt8.ofNat ('A'.toNat + sequence.toNat % 26))

/-- The encoder of a device that encodes its pictures. -/
def patternEncoder (d : NullCaptureDevice) : Option VideoEncoder :=
  if d.config.nullPayloadMode = "h264_test_pattern" then d.encoder else none

def captureFrame (d : NullCaptureDevice) (answers : CaptureAnswers) :
    NullCaptureDevice × Option EncodedFrame :=
  if !d.streaming then (d, none)
  else
    -- the number is taken before it is known whether there will be a frame
    let numbered := { d with sequence := d.sequence + 1 }
    match d.patternEncoder with
    | some encoder =>
        match encoder.encodeYuyv422Frame d.syntheticYuyvFrameSize answers.x264 with
        | none => (numbered, none)
        | some (payload, isKeyframe) =>
            (numbered, some (assembledFrame d.sequence answers.capturedNs answers.encodeStartNs
              answers.encodeEndNs isKeyframe payload))
    | none =>
        (numbered, some (assembledFrame d.sequence answers.capturedNs answers.capturedNs
          answers.encodeEndNs true (textPayload d.config d.sequence)))

def stop (d : NullCaptureDevice) : NullCaptureDevice :=
  { d with streaming := false, encoder := none, encoder_takes := by simp }

def close (d : NullCaptureDevice) : NullCaptureDevice := { d with opened := false }

end NullCaptureDevice

/-! ### `V4L2CaptureDevice` -/

/-- What the driver answers to `Start`. -/
structure DriverSetup where
  /-- `VIDIOC_QUERYCAP`: whether video can be captured, and whether it can be streamed. -/
  capabilities : Option (Bool × Bool)
  /-- `VIDIOC_S_FMT`. -/
  formatSet : Bool
  /-- `VIDIOC_REQBUFS`: how many buffers there will be. -/
  requestCount : Option ℕ
  /-- `VIDIOC_QUERYBUF` and `mmap`: the length of each buffer. -/
  mapped : ℕ → Option ℕ
  /-- `VIDIOC_QBUF` of each buffer. -/
  queued : ℕ → Bool
  /-- `VIDIOC_STREAMON`. -/
  streamOn : Bool

namespace DriverSetup

def queryCapabilities (setup : DriverSetup) : Bool :=
  match setup.capabilities with
  | none => false
  | some (videoCapture, streaming) => videoCapture && streaming

/-- The lengths of the buffers. -/
def initializeMemoryMapping (setup : DriverSetup) : Option (List ℕ) :=
  match setup.requestCount with
  | none => none
  | some count => if count < 2 then none else (List.range count).mapM setup.mapped

def queueCaptureBuffers (setup : DriverSetup) (buffers : List ℕ) : Bool :=
  (List.range buffers.length).all setup.queued

/-- The preparations before the encoder; the frame rate cannot make them fail. -/
def prepared (setup : DriverSetup) : Option (List ℕ) :=
  if !setup.queryCapabilities || !setup.formatSet then none
  else
    match setup.initializeMemoryMapping with
    | none => none
    | some buffers => if setup.queueCaptureBuffers buffers then some buffers else none

end DriverSetup

structure V4L2CaptureDevice where
  captureConfig : CaptureConfig
  codecConfig : CodecConfig
  opened : Bool := false
  streaming : Bool := false
  sequence : UInt64 := 0
  encoder : Option VideoEncoder := none
  /-- The lengths of the mapped buffers. -/
  buffers : List ℕ := []

namespace V4L2CaptureDevice

/-- `Open`: what `stat` finds, a character device or something else, and whether `open` gives
a descriptor. -/
def openDevice (d : V4L2CaptureDevice) (deviceStat : Option Bool) (opens : Bool) :
    V4L2CaptureDevice × Bool :=
  match deviceStat with
  | none => (d, false)
  | some isCharacterDevice =>
      if !isCharacterDevice || !opens then (d, false) else ({ d with opened := true }, true)

def start (d : V4L2CaptureDevice) (setup : DriverSetup) (x264Opens : Bool) :
    V4L2CaptureDevice × Bool :=
  if !d.opened then (d, false)
  else
    match setup.prepared with
    | none => ({ d with buffers := [] }, false)
    | some buffers =>
        match VideoEncoder.initialized d.captureConfig.width d.captureConfig.height d.codecConfig
            x264Opens with
        | none => ({ d with buffers := [], encoder := none }, false)
        | some encoder =>
            if !setup.streamOn then ({ d with buffers := [], encoder := none }, false)
            else ({ d with buffers, encoder := some encoder, streaming := true }, true)

def timevalToNs (tvSec tvUsec : UInt64) : UInt64 := tvSec * 1000000000 + tvUsec * 1000

/-- The time of the driver, or else that of the dequeuing. -/
def captureTimestampNs (buffer : V4l2Buffer) (nowNs : UInt64) : UInt64 :=
  if buffer.monotonic then timevalToNs buffer.tvSec buffer.tvUsec else nowNs

/-- How much of a buffer is used. -/
def usedLength (d : V4L2CaptureDevice) (buffer : V4l2Buffer) : ℕ :=
  if 0 < buffer.bytesused then buffer.bytesused else d.buffers.getD buffer.index 0

/-- What the encoder makes of so much input, if there is one. -/
def encode (d : V4L2CaptureDevice) (length : ℕ) (answer : X264Answer) : Option (Bytes × Bool) :=
  match d.encoder with
  | none => none
  | some encoder => encoder.encodeYuyv422Frame length answer

def captureFrame (d : V4L2CaptureDevice) (answers : CaptureAnswers) :
    V4L2CaptureDevice × Option EncodedFrame :=
  if !d.streaming then (d, none)
  else
    match answers.dequeued with
    | none => (d, none)
    | some buffer =>
        match d.encode (d.usedLength buffer) answers.x264 with
        -- the buffer goes back to the driver, and nothing looks at the answer
        | none => (d, none)
        | some (payload, isKeyframe) =>
            if !answers.requeued then (d, none)
            else
              ({ d with sequence := d.sequence + 1 },
                some (assembledFrame d.sequence (captureTimestampNs buffer answers.capturedNs)
                  answers.encodeStartNs answers.encodeEndNs isKeyframe payload))

def captureRawFrame (d : V4L2CaptureDevice) (answers : CaptureAnswers) :
    Option RawCaptureFrame :=
  if !d.streaming then none
  else
    answers.dequeued.map fun buffer =>
      { data := buffer.memory.take (d.usedLength buffer)
        captureTimestampNs := captureTimestampNs buffer answers.capturedNs
        bytesUsed := d.usedLength buffer }

def encodeRawFrame (d : V4L2CaptureDevice) (raw : Option RawCaptureFrame)
    (answers : CaptureAnswers) : V4L2CaptureDevice × Option EncodedFrame :=
  match raw with
  | none => (d, none)
  | some raw =>
      match d.encode raw.bytesUsed answers.x264 with
      | none => (d, none)
      | some (payload, isKeyframe) =>
          ({ d with sequence := d.sequence + 1 },
            some (assembledFrame d.sequence raw.captureTimestampNs answers.encodeStartNs
              answers.encodeEndNs isKeyframe payload))

def stop (d : V4L2CaptureDevice) : V4L2CaptureDevice :=
  if !d.opened then d else { d with streaming := false, encoder := none, buffers := [] }

def close (d : V4L2CaptureDevice) : V4L2CaptureDevice := { d with opened := false }

end V4L2CaptureDevice

/-! ### Either device -/

inductive CaptureDevice
  | null (device : NullCaptureDevice)
  | v4l2 (device : V4L2CaptureDevice)

namespace CaptureDevice

/-- `CaptureBackendFactory::Create`, with the backend resolved. -/
def create (capture : CaptureConfig) (codec : CodecConfig) : Except String CaptureDevice :=
  match resolveCaptureBackendSelection capture with
  | .error message => .error message
  | .ok .kNull => .ok (.null { config := capture, codecConfig := codec })
  | .ok .kV4L2 => .ok (.v4l2 { captureConfig := capture, codecConfig := codec })

def sequence : CaptureDevice → UInt64
  | .null d => d.sequence
  | .v4l2 d => d.sequence

/-! The functions of `ICaptureDevice`. The null device has the default ones for raw frames. -/

def openDevice (deviceStat : Option Bool) (opens : Bool) : CaptureDevice → CaptureDevice × Bool
  | .null d => d.openDevice.map .null id
  | .v4l2 d => (d.openDevice deviceStat opens).map .v4l2 id

def start (setup : DriverSetup) (x264Opens : Bool) : CaptureDevice → CaptureDevice × Bool
  | .null d => (d.start x264Opens).map .null id
  | .v4l2 d => (d.start setup x264Opens).map .v4l2 id

def captureFrame (answers : CaptureAnswers) : CaptureDevice → CaptureDevice × Option EncodedFrame
  | .null d => (d.captureFrame answers).map .null id
  | .v4l2 d => (d.captureFrame answers).map .v4l2 id

def supportsRawCapture : CaptureDevice → Bool
  | .null _ => false
  | .v4l2 _ => true

def captureRawFrame (answers : CaptureAnswers) : CaptureDevice → Option RawCaptureFrame
  | .null _ => none
  | .v4l2 d => d.captureRawFrame answers

def encodeRawFrame (raw : Option RawCaptureFrame) (answers : CaptureAnswers) :
    CaptureDevice → CaptureDevice × Option EncodedFrame
  | .null d => (.null d, none)
  | .v4l2 d => (d.encodeRawFrame raw answers).map .v4l2 id

def stop : CaptureDevice → CaptureDevice
  | .null d => .null d.stop
  | .v4l2 d => .v4l2 d.stop

def close : CaptureDevice → CaptureDevice
  | .null d => .null d.close
  | .v4l2 d => .v4l2 d.close

end CaptureDevice

/-- A call of a device, with the answers that it meets with. -/
inductive DeviceCall
  | openDevice (deviceStat : Option Bool) (opens : Bool)
  | start (setup : DriverSetup) (x264Opens : Bool)
  | captureFrame (answers : CaptureAnswers)
  | captureRawFrame (answers : CaptureAnswers)
  | encodeRawFrame (raw : Option RawCaptureFrame) (answers : CaptureAnswers)
  | stop
  | close

/-- The device after a call, and the frame that the call returns. -/
def CaptureDevice.call (d : CaptureDevice) : DeviceCall → CaptureDevice × Option EncodedFrame
  | .openDevice deviceStat opens => ((d.openDevice deviceStat opens).1, none)
  | .start setup x264Opens => ((d.start setup x264Opens).1, none)
  | .captureFrame answers => d.captureFrame answers
  | .captureRawFrame _ => (d, none)
  | .encodeRawFrame raw answers => d.encodeRawFrame raw answers
  | .stop => (d.stop, none)
  | .close => (d.close, none)

end AvProject.Server
