import AvProject.Lib.Numerals
import AvProject.Server.AppConfig

/-!
`AppConfig` and `ConfigLoader::LoadFromFile`: lines of the form `key = value` that change the
default configuration one after the other, and the validation of what they lead to.
-/

namespace AvProject.Server

open AvProject.Lib

/-! ### The configuration -/

structure RuntimeConfig where
  shutdownGracePeriodMs : ℤ := 500
  latencyLogIntervalFrames : ℤ := 120
  deriving DecidableEq, Repr

structure CaptureConfig where
  enabled : Bool := true
  source : String := "v4l2"
  device : String := "/dev/video0"
  width : ℤ := 640
  height : ℤ := 360
  fps : ℤ := 30
  frameIntervalMs : ℤ := 0
  deviceBufferCount : ℤ := 2
  nullPayloadBytes : ℕ := 0
  nullPayloadMode : String := "text"
  deriving DecidableEq, Repr

/-- The transport section with the settings that nothing validates. -/
structure TransportSection extends TransportConfig where
  bindAddress : String := "0.0.0.0"
  enableNodelay : Bool := true
  rtpSdpPath : String := "sserver_rtp.sdp"
  deriving DecidableEq, Repr

structure CodecConfig where
  backend : String := "x264"
  x264Preset : String := "ultrafast"
  x264Tune : String := "zerolatency"
  x264Profile : String := "baseline"
  x264Annexb : Bool := true
  x264RepeatHeaders : Bool := true
  x264KeyintMax : ℤ := 30
  x264KeyintMin : ℤ := 30
  x264Bframes : ℤ := 0
  x264Threads : ℤ := 1
  x264SlicedThreads : Bool := true
  x264SliceCount : ℤ := 1
  x264SliceCountMax : ℤ := 1
  x264FrameReference : ℤ := 1
  x264Lookahead : ℤ := 0
  x264SyncLookahead : ℤ := 0
  x264SubpelRefine : ℤ := 0
  x264MbTree : Bool := false
  x264Scenecut : ℤ := 0
  deriving DecidableEq, Repr

structure AppConfig where
  appName : String := "sserver"
  runtime : RuntimeConfig := {}
  capture : CaptureConfig := {}
  transport : TransportSection := {}
  codec : CodecConfig := {}
  deriving DecidableEq, Repr

/-! ### Validation -/

inductive CaptureBackend | kNull | kV4L2
  deriving DecidableEq, Repr

/-- `ResolveCaptureBackendSelection`. -/
def resolveCaptureBackendSelection (capture : CaptureConfig) : Except String CaptureBackend :=
  if capture.source = "null" then .ok .kNull
  else if capture.source = "v4l2" then .ok .kV4L2
  else .error "capture.source must be either 'v4l2' or 'null'"

/-- `ResolveVideoEncoderBackendSelection`; the only backend is x264. -/
def resolveVideoEncoderBackendSelection (codec : CodecConfig) : Except String Unit :=
  if codec.backend = "" then .error "codec.backend must not be empty"
  else if codec.backend = "x264" then .ok ()
  else if codec.backend = "libx264" then
    .error "codec.backend=libx264 is no longer supported; use codec.backend=x264 for software encoding"
  else .error "codec.backend must be 'x264'"

def validateCapture (capture : CaptureConfig) : Except String Unit := do
  let _ ← resolveCaptureBackendSelection capture
  reject (capture.width ≤ 0 || capture.height ≤ 0 || capture.fps ≤ 0 ||
      capture.frameIntervalMs < 0)
    "capture dimensions, fps and frame_interval_ms must be positive"
  reject (capture.deviceBufferCount ≤ 0) "capture.device_buffer_count must be > 0"
  reject (capture.nullPayloadMode != "text" && capture.nullPayloadMode != "h264_test_pattern")
    "capture.null_payload_mode must be 'text' or 'h264_test_pattern'"

def validateCodec (codec : CodecConfig) : Except String Unit := do
  resolveVideoEncoderBackendSelection codec
  reject (codec.x264KeyintMax ≤ 0 || codec.x264KeyintMin ≤ 0 || codec.x264Threads ≤ 0 ||
      codec.x264SliceCount ≤ 0 || codec.x264SliceCountMax ≤ 0 || codec.x264FrameReference ≤ 0)
    "codec x264 integer settings must be positive"
  reject (codec.x264Bframes < 0 || codec.x264Lookahead < 0 || codec.x264SyncLookahead < 0 ||
      codec.x264SubpelRefine < 0)
    "codec x264 lookahead/bframes/subpel settings must be >= 0"

/-- `AppConfig::Validate`. -/
def AppConfig.validate (config : AppConfig) : Except String Unit := do
  reject (config.appName == "") "app.name must not be empty"
  reject (config.runtime.shutdownGracePeriodMs < 0)
    "runtime.shutdown_grace_period_ms must be >= 0"
  reject (config.runtime.latencyLogIntervalFrames ≤ 0)
    "runtime.latency_log_interval_frames must be > 0"
  if config.capture.enabled then validateCapture config.capture
  Server.validate config.transport.toTransportConfig
  validateCodec config.codec

/-! ### Values -/

def parseBool (value : List Char) : Option Bool :=
  let normalized := trim value
  if ["true", "1", "yes", "on"].any fun word => word.toList == normalized then some true
  else if ["false", "0", "no", "off"].any fun word => word.toList == normalized then some false
  else none

/-- What an extraction read, if it read to the end. -/
def toTheEnd {α : Type*} : Option (α × List Char) → Option α
  | some (value, []) => some value
  | _ => none

def parseInt (value : List Char) : Option ℤ := toTheEnd (readInt (trim value))

def parseSize (value : List Char) : Option ℕ := toTheEnd (readSize (trim value))

/-! ### Keys -/

inductive SizeKey
  | nullPayloadBytes
  | maxPendingFrames
  | udpMaxDatagramSize
  | udpTargetPayloadSize
  | udpRetransmitCacheFrames
  | udpRetransmitMaxFragmentsPerRequest
  | rtpMaxPayloadSize
  deriving DecidableEq, Repr

namespace AppConfig

def size (config : AppConfig) : SizeKey → ℕ
  | .nullPayloadBytes => config.capture.nullPayloadBytes
  | .maxPendingFrames => config.transport.maxPendingFrames
  | .udpMaxDatagramSize => config.transport.udpMaxDatagramSize
  | .udpTargetPayloadSize => config.transport.udpTargetPayloadSize
  | .udpRetransmitCacheFrames => config.transport.udpRetransmitCacheFrames
  | .udpRetransmitMaxFragmentsPerRequest => config.transport.udpRetransmitMaxFragmentsPerRequest
  | .rtpMaxPayloadSize => config.transport.rtpMaxPayloadSize

def setRuntime (config : AppConfig) (set : RuntimeConfig → RuntimeConfig) : AppConfig :=
  { config with runtime := set config.runtime }

def setCapture (config : AppConfig) (set : CaptureConfig → CaptureConfig) : AppConfig :=
  { config with capture := set config.capture }

def setTransport (config : AppConfig) (set : TransportSection → TransportSection) : AppConfig :=
  { config with transport := set config.transport }

def setCodec (config : AppConfig) (set : CodecConfig → CodecConfig) : AppConfig :=
  { config with codec := set config.codec }

def setSize (config : AppConfig) (value : ℕ) : SizeKey → AppConfig
  | .nullPayloadBytes => config.setCapture ({ · with nullPayloadBytes := value })
  | .maxPendingFrames => config.setTransport ({ · with maxPendingFrames := value })
  | .udpMaxDatagramSize => config.setTransport ({ · with udpMaxDatagramSize := value })
  | .udpTargetPayloadSize => config.setTransport ({ · with udpTargetPayloadSize := value })
  | .udpRetransmitCacheFrames => config.setTransport ({ · with udpRetransmitCacheFrames := value })
  | .udpRetransmitMaxFragmentsPerRequest =>
      config.setTransport ({ · with udpRetransmitMaxFragmentsPerRequest := value })
  | .rtpMaxPayloadSize => config.setTransport ({ · with rtpMaxPayloadSize := value })

theorem size_setSize (config : AppConfig) (value : ℕ) (key other : SizeKey) :
    (config.setSize value key).size other = if key = other then value else config.size other := by
  cases key <;> cases other <;> rfl

end AppConfig

/-- What is done with the value of a key; `what` is what an invalid value is called. -/
inductive Setting
  | text (set : AppConfig → String → AppConfig)
  | int (what : String) (set : AppConfig → ℤ → AppConfig)
  | bool (what : String) (set : AppConfig → Bool → AppConfig)
  | size (what : String) (key : SizeKey)

def textSetting (name : String) (set : AppConfig → String → AppConfig) : String × Setting :=
  (name, .text set)

def intSetting (name : String) (set : AppConfig → ℤ → AppConfig) : String × Setting :=
  (name, .int name set)

def boolSetting (name : String) (set : AppConfig → Bool → AppConfig) : String × Setting :=
  (name, .bool name set)

def sizeSetting (name : String) (key : SizeKey) : String × Setting := (name, .size name key)

/-- The keys in the order in which `LoadFromFile` compares them. -/
def settings : List (String × Setting) := [
  textSetting "app.name" fun c v => { c with appName := v },
  ("runtime.shutdown_grace_period_ms", .int "integer" fun c v =>
    c.setRuntime ({ · with shutdownGracePeriodMs := v })),
  intSetting "runtime.latency_log_interval_frames" fun c v =>
    c.setRuntime ({ · with latencyLogIntervalFrames := v }),
  ("capture.enabled", .bool "boolean" fun c v => c.setCapture ({ · with enabled := v })),
  textSetting "capture.source" fun c v => c.setCapture ({ · with source := v }),
  textSetting "capture.device" fun c v => c.setCapture ({ · with device := v }),
  intSetting "capture.width" fun c v => c.setCapture ({ · with width := v }),
  intSetting "capture.height" fun c v => c.setCapture ({ · with height := v }),
  intSetting "capture.fps" fun c v => c.setCapture ({ · with fps := v }),
  intSetting "capture.frame_interval_ms" fun c v => c.setCapture ({ · with frameIntervalMs := v }),
  intSetting "capture.device_buffer_count" fun c v =>
    c.setCapture ({ · with deviceBufferCount := v }),
  sizeSetting "capture.null_payload_bytes" .nullPayloadBytes,
  textSetting "capture.null_payload_mode" fun c v => c.setCapture ({ · with nullPayloadMode := v }),
  boolSetting "transport.enabled" fun c v => c.setTransport ({ · with enabled := v }),
  textSetting "transport.backend" fun c v => c.setTransport ({ · with backend := v }),
  textSetting "transport.bind_address" fun c v => c.setTransport ({ · with bindAddress := v }),
  intSetting "transport.listen_port" fun c v => c.setTransport ({ · with listenPort := v }),
  sizeSetting "transport.max_pending_frames" .maxPendingFrames,
  intSetting "transport.max_queue_wait_ms" fun c v =>
    c.setTransport ({ · with maxQueueWaitMs := v }),
  textSetting "transport.queue_drop_policy" fun c v =>
    c.setTransport ({ · with queueDropPolicy := v }),
  intSetting "transport.accept_loop_interval_ms" fun c v =>
    c.setTransport ({ · with acceptLoopIntervalMs := v }),
  boolSetting "transport.enable_nodelay" fun c v => c.setTransport ({ · with enableNodelay := v }),
  boolSetting "transport.embed_frame_metadata" fun c v =>
    c.setTransport ({ · with embedFrameMetadata := v }),
  intSetting "transport.udp_client_timeout_ms" fun c v =>
    c.setTransport ({ · with udpClientTimeoutMs := v }),
  sizeSetting "transport.udp_max_datagram_size" .udpMaxDatagramSize,
  sizeSetting "transport.udp_target_payload_size" .udpTargetPayloadSize,
  intSetting "transport.udp_receive_buffer_bytes" fun c v =>
    c.setTransport ({ · with udpReceiveBufferBytes := v }),
  intSetting "transport.udp_send_buffer_bytes" fun c v =>
    c.setTransport ({ · with udpSendBufferBytes := v }),
  boolSetting "transport.udp_enable_nack" fun c v => c.setTransport ({ · with udpEnableNack := v }),
  boolSetting "transport.udp_enable_fec" fun c v => c.setTransport ({ · with udpEnableFec := v }),
  sizeSetting "transport.udp_retransmit_cache_frames" .udpRetransmitCacheFrames,
  intSetting "transport.udp_retransmit_cache_max_age_ms" fun c v =>
    c.setTransport ({ · with udpRetransmitCacheMaxAgeMs := v }),
  sizeSetting "transport.udp_retransmit_max_fragments_per_request"
    .udpRetransmitMaxFragmentsPerRequest,
  textSetting "transport.rtp_remote_host" fun c v => c.setTransport ({ · with rtpRemoteHost := v }),
  intSetting "transport.rtp_remote_port" fun c v => c.setTransport ({ · with rtpRemotePort := v }),
  intSetting "transport.rtp_payload_type" fun c v =>
    c.setTransport ({ · with rtpPayloadType := v }),
  intSetting "transport.rtp_clock_rate" fun c v => c.setTransport ({ · with rtpClockRate := v }),
  intSetting "transport.rtp_ssrc" fun c v => c.setTransport ({ · with rtpSsrc := v }),
  sizeSetting "transport.rtp_max_payload_size" .rtpMaxPayloadSize,
  boolSetting "transport.rtp_enable_latency_extension" fun c v =>
    c.setTransport ({ · with rtpEnableLatencyExtension := v }),
  textSetting "transport.rtp_sdp_path" fun c v => c.setTransport ({ · with rtpSdpPath := v }),
  textSetting "codec.backend" fun c v => c.setCodec ({ · with backend := v }),
  textSetting "codec.x264_preset" fun c v => c.setCodec ({ · with x264Preset := v }),
  textSetting "codec.x264_tune" fun c v => c.setCodec ({ · with x264Tune := v }),
  textSetting "codec.x264_profile" fun c v => c.setCodec ({ · with x264Profile := v }),
  boolSetting "codec.x264_annexb" fun c v => c.setCodec ({ · with x264Annexb := v }),
  boolSetting "codec.x264_repeat_headers" fun c v => c.setCodec ({ · with x264RepeatHeaders := v }),
  intSetting "codec.x264_keyint_max" fun c v => c.setCodec ({ · with x264KeyintMax := v }),
  intSetting "codec.x264_keyint_min" fun c v => c.setCodec ({ · with x264KeyintMin := v }),
  intSetting "codec.x264_bframes" fun c v => c.setCodec ({ · with x264Bframes := v }),
  intSetting "codec.x264_threads" fun c v => c.setCodec ({ · with x264Threads := v }),
  boolSetting "codec.x264_sliced_threads" fun c v => c.setCodec ({ · with x264SlicedThreads := v }),
  intSetting "codec.x264_slice_count" fun c v => c.setCodec ({ · with x264SliceCount := v }),
  intSetting "codec.x264_slice_count_max" fun c v => c.setCodec ({ · with x264SliceCountMax := v }),
  intSetting "codec.x264_frame_reference" fun c v =>
    c.setCodec ({ · with x264FrameReference := v }),
  intSetting "codec.x264_lookahead" fun c v => c.setCodec ({ · with x264Lookahead := v }),
  intSetting "codec.x264_sync_lookahead" fun c v => c.setCodec ({ · with x264SyncLookahead := v }),
  intSetting "codec.x264_subpel_refine" fun c v => c.setCodec ({ · with x264SubpelRefine := v }),
  boolSetting "codec.x264_mb_tree" fun c v => c.setCodec ({ · with x264MbTree := v }),
  intSetting "codec.x264_scenecut" fun c v => c.setCodec ({ · with x264Scenecut := v })]

def settingOf (key : List Char) : Option Setting :=
  (settings.find? fun entry => entry.1.toList == key).map (·.2)

/-! ### Lines -/

/-- A line, up to white space around its parts. -/
inductive ConfigLine
  | skipped
  | malformed
  | assignment (key value : List Char)
  deriving DecidableEq, Repr

def readConfigLine (line : List Char) : ConfigLine :=
  let trimmed := trim line
  if trimmed = [] ∨ trimmed.head? = some '#' then .skipped
  else if '=' ∉ trimmed then .malformed
  else .assignment (trim (trimmed.takeWhile fun c => c != '='))
    (trim ((trimmed.dropWhile fun c => c != '=').drop 1))

/-- The value has been read, or it is invalid. -/
def orInvalid {α : Type} (value : Option α) (what : String) (lineNumber : ℕ) : Except String α :=
  match value with
  | some value => .ok value
  | none => .error ("invalid " ++ what ++ " at line " ++ toString lineNumber)

def Setting.apply (setting : Setting) (lineNumber : ℕ) (value : List Char)
    (loaded : AppConfig) : Except String AppConfig :=
  match setting with
  | .text set => .ok (set loaded (String.ofList value))
  | .int what set => (orInvalid (parseInt value) what lineNumber).map (set loaded)
  | .bool what set => (orInvalid (parseBool value) what lineNumber).map (set loaded)
  | .size what key =>
      (orInvalid (parseSize value) what lineNumber).map fun size => loaded.setSize size key

/-- One turn of the loop. -/
def applyLine (lineNumber : ℕ) (line : List Char) (loaded : AppConfig) :
    Except String AppConfig :=
  match readConfigLine line with
  | .skipped => .ok loaded
  | .malformed =>
      .error ("invalid config line " ++ toString lineNumber ++ ": missing '='")
  | .assignment key value =>
      match settingOf key with
      | some setting => setting.apply lineNumber value loaded
      | none => .error ("unsupported config key at line " ++ toString lineNumber ++ ": " ++
          String.ofList key)

/-- The lines behind the first `lineNumber` ones. -/
def loadLines (lineNumber : ℕ) (loaded : AppConfig) : List (List Char) → Except String AppConfig
  | [] => .ok loaded
  | line :: lines => do
      let loaded ← applyLine (lineNumber + 1) line loaded
      loadLines (lineNumber + 1) loaded lines

/-- `LoadFromFile`; no contents where the file cannot be opened. -/
def loadFromFile (filePath : String) (contents : Option (List Char)) :
    Except String AppConfig := do
  match contents with
  | none => .error ("failed to open config file: " ++ filePath)
  | some contents =>
      let loaded ← loadLines 0 {} (getlines contents)
      loaded.validate
      return loaded

end AvProject.Server
