import AvProject.Lib.Bytes

/-!
The transport section of the server configuration and its validation.
-/

namespace AvProject.Server

inductive TransportBackend | kTcp | kUdp | kRtp
  deriving DecidableEq, Repr, Inhabited

structure TransportConfig where
  enabled : Bool := true
  backend : String := "tcp"
  listenPort : ℤ := 9999
  maxPendingFrames : ℕ := 3
  maxQueueWaitMs : ℤ := 50
  queueDropPolicy : String := "drop_oldest_non_key"
  acceptLoopIntervalMs : ℤ := 5
  embedFrameMetadata : Bool := false
  udpClientTimeoutMs : ℤ := 5000
  udpMaxDatagramSize : ℕ := 65507
  udpTargetPayloadSize : ℕ := 65000
  udpReceiveBufferBytes : ℤ := 4 * 1024 * 1024
  udpSendBufferBytes : ℤ := 4 * 1024 * 1024
  udpEnableNack : Bool := false
  udpEnableFec : Bool := false
  udpRetransmitCacheFrames : ℕ := 32
  udpRetransmitCacheMaxAgeMs : ℤ := 500
  udpRetransmitMaxFragmentsPerRequest : ℕ := 16
  rtpRemoteHost : String := "127.0.0.1"
  rtpRemotePort : ℤ := 5004
  rtpPayloadType : ℤ := 96
  rtpClockRate : ℤ := 90000
  rtpSsrc : ℤ := 305419896
  rtpMaxPayloadSize : ℕ := 1200
  rtpEnableLatencyExtension : Bool := true
  deriving DecidableEq, Repr, Inhabited

/-- Header, extension header and latency payload of an RTP packet. -/
def kRtpPacketOverheadWithLatencyExtension : ℕ := 12 + 4 + 16

/-- `ResolveTransportBackendSelection`. -/
def resolveTransportBackendSelection (transport : TransportConfig) :
    Except String TransportBackend :=
  if transport.backend = "tcp" then .ok .kTcp
  else if transport.backend = "udp" then .ok .kUdp
  else if transport.backend = "rtp" then .ok .kRtp
  else .error "transport.backend must be one of 'tcp', 'udp' or 'rtp'"

/-- Fail with `message` if `bad`. -/
def reject (bad : Bool) (message : String) : Except String Unit :=
  if bad then .error message else .ok ()

/-- The checks for the RTP backend. -/
def validateRtp (transport : TransportConfig) : Except String Unit := do
  let maxRtpPayloadSize :=
    if transport.udpMaxDatagramSize > kRtpPacketOverheadWithLatencyExtension then
      transport.udpMaxDatagramSize - kRtpPacketOverheadWithLatencyExtension
    else 0
  reject (transport.rtpRemotePort ≤ 0 || transport.rtpRemotePort > 65535)
    "transport.rtp_remote_port must be in [1, 65535]"
  reject (transport.rtpPayloadType < 0 || transport.rtpPayloadType > 127)
    "transport.rtp_payload_type must be in [0, 127]"
  reject (transport.rtpClockRate ≤ 0) "transport.rtp_clock_rate must be > 0"
  reject (transport.rtpSsrc < 0) "transport.rtp_ssrc must be >= 0"
  reject (transport.rtpMaxPayloadSize < 64 || transport.rtpMaxPayloadSize > maxRtpPayloadSize)
    "transport.rtp_max_payload_size must be in [64, transport.udp_max_datagram_size - RTP header overhead]"
  reject (transport.rtpRemoteHost == "") "transport.rtp_remote_host must not be empty"

/-- The part of `AppConfig::Validate` about an enabled transport. -/
def validateTransport (transport : TransportConfig) : Except String Unit := do
  let _ ← resolveTransportBackendSelection transport
  reject (transport.listenPort < 0 || transport.listenPort > 65535)
    "transport.listen_port must be in [0, 65535]"
  reject (transport.maxPendingFrames == 0) "transport.max_pending_frames must be > 0"
  reject (transport.maxQueueWaitMs < 0) "transport.max_queue_wait_ms must be >= 0"
  reject (transport.queueDropPolicy != "drop_oldest" &&
      transport.queueDropPolicy != "drop_oldest_non_key")
    "transport.queue_drop_policy must be 'drop_oldest' or 'drop_oldest_non_key'"
  reject (transport.acceptLoopIntervalMs < 0) "transport.accept_loop_interval_ms must be >= 0"
  reject (transport.udpClientTimeoutMs ≤ 0) "transport.udp_client_timeout_ms must be > 0"
  reject (transport.udpMaxDatagramSize < 512 || transport.udpMaxDatagramSize > 65507)
    "transport.udp_max_datagram_size must be in [512, 65507]"
  reject (transport.udpTargetPayloadSize < 256 ||
      transport.udpTargetPayloadSize > transport.udpMaxDatagramSize)
    "transport.udp_target_payload_size must be in [256, transport.udp_max_datagram_size]"
  reject (transport.udpReceiveBufferBytes ≤ 0 || transport.udpSendBufferBytes ≤ 0)
    "transport UDP buffer sizes must be > 0"
  reject (transport.udpRetransmitCacheFrames == 0)
    "transport.udp_retransmit_cache_frames must be > 0"
  reject (transport.udpRetransmitCacheMaxAgeMs ≤ 0)
    "transport.udp_retransmit_cache_max_age_ms must be > 0"
  reject (transport.udpRetransmitMaxFragmentsPerRequest == 0)
    "transport.udp_retransmit_max_fragments_per_request must be > 0"
  if transport.backend == "rtp" then validateRtp transport

/-- `Validate` skips the section when the transport is disabled. -/
def validate (transport : TransportConfig) : Except String Unit :=
  if transport.enabled then validateTransport transport else .ok ()

@[simp] theorem reject_eq_ok {bad : Bool} {message : String} {u : Unit} :
    reject bad message = .ok u ↔ bad = false := by
  cases bad <;> simp [reject]

/-- A check that passed can be split off a sequence of checks. -/
theorem bind_eq_ok {α β ε : Type} {x : Except ε α} {f : α → Except ε β} {b : β} :
    (x >>= f) = .ok b ↔ ∃ a, x = .ok a ∧ f a = .ok b := by
  cases x <;> simp [bind, Except.bind]

/-- A setting in milliseconds, converted to `uint64_t` and scaled to nanoseconds. -/
theorem msToNs_eq {ms : ℤ} (hnonneg : 0 ≤ ms) (hint : ms < 2 ^ 31) :
    (ms % 2 ^ 64).toNat * 1000 * 1000 % 2 ^ 64 = ms.toNat * 1000000 := by
  rw [Int.emod_eq_of_lt hnonneg (by omega)]
  omega

/-- The bounds on datagrams of an accepted configuration. -/
theorem validate_datagramSize {transport : TransportConfig} (henabled : transport.enabled = true)
    (h : validate transport = .ok ()) :
    512 ≤ transport.udpMaxDatagramSize ∧ transport.udpMaxDatagramSize ≤ 65507 ∧
      256 ≤ transport.udpTargetPayloadSize ∧
      transport.udpTargetPayloadSize ≤ transport.udpMaxDatagramSize := by
  rw [validate, if_pos henabled] at h
  simp only [validateTransport, bind_eq_ok, reject_eq_ok, Bool.or_eq_false_iff,
    decide_eq_false_iff_not, exists_const] at h
  obtain ⟨-, -, -, -, -, -, -, -, hmax, htarget, -⟩ := h
  omega

end AvProject.Server
