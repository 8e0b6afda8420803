import AvProject.Client.SdpSessionDescription
import AvProject.Server.RtpStreamingBackend

/-!
The SDP file of the server as the client reads it.
-/

namespace AvProject.Rtp

open AvProject.Lib AvProject.Client AvProject.Server

/-- What the configuration says about the stream. -/
def describedStream (cfg : TransportConfig) : RtpVideoSessionDescription where
  connectionAddress := cfg.rtpRemoteHost.toList
  videoPort := cfg.rtpRemotePort
  payloadType := cfg.rtpPayloadType
  clockRate := cfg.rtpClockRate

/-- The settings that appear in the file have a form in which they can be read back. -/
structure Describable (cfg : TransportConfig) : Prop where
  port_pos : 0 < cfg.rtpRemotePort
  port_le : cfg.rtpRemotePort ≤ 65535
  payloadType_nonneg : 0 ≤ cfg.rtpPayloadType
  payloadType_le : cfg.rtpPayloadType ≤ 127
  clockRate_pos : 0 < cfg.rtpClockRate
  clockRate_lt : cfg.rtpClockRate < 2 ^ 31
  host : inetPton cfg.rtpRemoteHost.toList = true

theorem Describable.of_validate {cfg : TransportConfig} (henabled : cfg.enabled = true)
    (hvalid : validate cfg = .ok ()) (hbackend : cfg.backend = "rtp")
    (hint : cfg.rtpClockRate < 2 ^ 31) (hhost : inetPton cfg.rtpRemoteHost.toList = true) :
    Describable cfg := by
  rw [validate, if_pos henabled] at hvalid
  simp only [validateTransport, validateRtp, hbackend, beq_self_eq_true, if_true, bind_eq_ok,
    reject_eq_ok, Bool.or_eq_false_iff, decide_eq_false_iff_not, exists_const] at hvalid
  obtain ⟨-, -, -, -, -, -, -, -, -, -, -, -, -, -, hport, hpayloadType, hclockRate, -⟩ := hvalid
  exact
    { port_pos := by omega
      port_le := by omega
      payloadType_nonneg := by omega
      payloadType_le := by omega
      clockRate_pos := by omega
      clockRate_lt := hint
      host := hhost }

section

variable {cfg : TransportConfig}

theorem not_lineFeed_of_not_isSpace {text : List Char} (h : ∀ c ∈ text, isSpace c = false) :
    '\n' ∉ text := fun hmem => absurd (h _ hmem) (by decide)

theorem not_lineFeed_decimal {n : ℤ} (hn : 0 ≤ n) : '\n' ∉ decimal n :=
  not_lineFeed_of_not_isSpace fun _ hc =>
    isSpace_eq_false_of_isDigit (isDigit_of_mem_decimal hn hc)

/-- Each line of the file ends where it should. -/
theorem Describable.not_lineFeed (h : Describable cfg) : ∀ line ∈ sdpLines cfg, '\n' ∉ line := by
  have hhost := not_lineFeed_of_not_isSpace (trimmed_of_inetPton h.host).2
  have hport := not_lineFeed_decimal h.port_pos.le
  have hpayloadType := not_lineFeed_decimal h.payloadType_nonneg
  have hclockRate := not_lineFeed_decimal h.clockRate_pos.le
  rw [sdpLines]
  simp only [List.forall_mem_cons, List.mem_append, not_or, hhost, hport, hpayloadType,
    hclockRate, and_true, not_false_eq_true]
  decide

theorem foldlM_cons_of_ok {st next : SdpParseState} {line : List Char} {lines : List (List Char)}
    (h : parseSdpLine st line = .ok next) :
    (line :: lines).foldlM parseSdpLine st = lines.foldlM parseSdpLine next := by
  rw [List.foldlM_cons, h]
  rfl

/-- The loop over the lines of the file, line by line. -/
theorem Describable.parse (h : Describable cfg) :
    parseRtpVideoSessionDescription (unlines (sdpLines cfg)) = .ok (describedStream cfg) := by
  have hhost := (trimmed_of_inetPton h.host).1
  have hport := h.port_le
  have hpayloadType := h.payloadType_le
  have hversion : Trimmed "v=0".toList := .of_all (by decide) rfl
  have horigin : Trimmed ("o=- 0 0 IN IP4 ".toList ++ cfg.rtpRemoteHost.toList) :=
    hhost.append_left rfl _
  have hstream : Trimmed "stream".toList := .of_all (by decide) rfl
  have hname : Trimmed "s=sserver RTP stream".toList :=
    hstream.append_left rfl "=sserver RTP ".toList
  have hzero : Trimmed "0".toList := .of_all (by decide) rfl
  have htime : Trimmed "t=0 0".toList := hzero.append_left rfl "=0 ".toList
  have hformat : Trimmed ("a=fmtp:".toList ++ (decimal cfg.rtpPayloadType ++
      " packetization-mode=1".toList)) := by
    have hmode : Trimmed "packetization-mode=1".toList := .of_all (by decide) rfl
    have hsplit : "a=fmtp:".toList ++ (decimal cfg.rtpPayloadType ++
        " packetization-mode=1".toList) = "a=fmtp:".toList ++ (decimal cfg.rtpPayloadType ++
          [' ']) ++ "packetization-mode=1".toList := by
      rw [List.append_assoc, List.append_assoc]
      rfl
    rw [hsplit]
    exact hmode.append_left rfl _
  have hdirection : Trimmed "a=recvonly".toList := .of_all (by decide) rfl
  rw [parseRtpVideoSessionDescription, getlines_unlines h.not_lineFeed, sdpLines,
    foldlM_cons_of_ok (parseSdpLine_other hversion rfl rfl rfl),
    foldlM_cons_of_ok (parseSdpLine_other horigin rfl rfl rfl),
    foldlM_cons_of_ok (parseSdpLine_other hname rfl rfl rfl),
    foldlM_cons_of_ok (parseSdpLine_connection hhost),
    foldlM_cons_of_ok (parseSdpLine_other htime rfl rfl rfl),
    foldlM_cons_of_ok (parseSdpLine_media h.port_pos (by omega) h.payloadType_nonneg hpayloadType),
    foldlM_cons_of_ok (parseSdpLine_rtpmap h.payloadType_nonneg (by omega) h.clockRate_pos
      h.clockRate_lt rfl),
    foldlM_cons_of_ok (parseSdpLine_other hformat rfl rfl rfl),
    foldlM_cons_of_ok (parseSdpLine_other hdirection rfl rfl rfl)]
  rfl

end

/-- The client reads in the SDP file what the server's configuration says about the stream. -/
theorem parse_startRtp {cfg : TransportConfig} {rtpSdpPath : String}
    {socketOpens fileOpens : Bool} {text : List Char} (hvalid : validate cfg = .ok ())
    (hbackend : cfg.backend = "rtp") (hint : cfg.rtpClockRate < 2 ^ 31)
    (hhost : inetPton cfg.rtpRemoteHost.toList = true)
    (hwritten : (startRtp cfg rtpSdpPath socketOpens fileOpens).2 = some text) :
    parseRtpVideoSessionDescription text = .ok
      { connectionAddress := cfg.rtpRemoteHost.toList
        videoPort := cfg.rtpRemotePort
        payloadType := cfg.rtpPayloadType
        clockRate := cfg.rtpClockRate } := by
  rw [startRtp] at hwritten
  split at hwritten
  · cases hwritten
  rename_i henabled
  split at hwritten
  · cases hwritten
  rw [writeSdpFile] at hwritten
  split at hwritten
  · cases hwritten
  split at hwritten
  · cases hwritten
  obtain rfl := Option.some.inj hwritten
  exact (Describable.of_validate (by simpa using henabled) hvalid hbackend hint hhost).parse

/-- The RTP settings of the default configuration. -/
def rtpConfig : TransportConfig := { backend := "rtp" }

theorem parse_startRtp_rtpConfig :
    parseRtpVideoSessionDescription (unlines (sdpLines rtpConfig)) = .ok
      { connectionAddress := "127.0.0.1".toList
        videoPort := 5004
        payloadType := 96
        clockRate := 90000 } :=
  @parse_startRtp rtpConfig "stream.sdp" true true (unlines (sdpLines rtpConfig))
    (by decide +kernel) rfl (by decide) (by decide +kernel) rfl

end AvProject.Rtp
