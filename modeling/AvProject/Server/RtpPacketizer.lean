import AvProject.Protocol.AnnexB
import AvProject.Protocol.Rtp
import AvProject.Server.UdpStreamingBackend

/-!
`RtpPacketizer`: the NAL units of a frame become RTP packets, one packet for a unit
that fits and a run of FU-A fragments for one that does not.
-/

namespace AvProject.Server

open AvProject.Lib AvProject.Protocol

structure RtpPacketizer where
  payloadType : UInt8
  clockRate : UInt32
  maxPayloadSize : ℕ
  ssrc : UInt32
  enableLatencyExtension : Bool
  sequenceNumber : UInt16
  deriving DecidableEq, Repr, Inhabited

/-! ### Building one packet -/

/-- `WriteRtpHeaderToBuffer`: the fields are written at their offsets. -/
def writeRtpHeaderToBuffer (buffer : Bytes) (fields : RtpHeaderFields)
    (extension : Option RtpHeaderExtension) : Bytes :=
  let extended := hasExtension extension
  let buffer := writeAt buffer 0 [rtpFlagsByte extended]
  let buffer := writeAt buffer 1 [rtpTypeByte fields]
  let buffer := writeAt buffer 2 (writeBe16 fields.sequenceNumber)
  let buffer := writeAt buffer 4 (writeBe32 fields.timestamp)
  let buffer := writeAt buffer 8 (writeBe32 fields.ssrc)
  match extension with
  | none => buffer
  | some e =>
      if extended then
        let buffer := writeAt buffer kRtpHeaderSize (writeBe16 e.profileId)
        let buffer :=
          writeAt buffer (kRtpHeaderSize + 2) (writeBe16 (UInt16.ofNat (e.payload.length / 4)))
        writeAt buffer (kRtpHeaderSize + 4) e.payload
      else buffer

/-- `BuildRtpPacketInto`; `none` is the packet that stays empty. -/
def buildRtpPacketInto (fields : RtpHeaderFields) (extension : Option RtpHeaderExtension)
    (payload : Bytes) : Option Bytes :=
  (writeRtpHeader fields extension).map (· ++ payload)

/-- `ext_size` of a fragment. -/
def extensionSize (extension : Option RtpHeaderExtension) : ℕ :=
  if hasExtension extension then
    kRtpExtensionHeaderSize + extension.elim 0 fun e => e.payload.length
  else 0

/-- The packet of one FU-A fragment, built in a buffer of its final size. -/
def buildFragmentPacket (fields : RtpHeaderFields) (extension : Option RtpHeaderExtension)
    (fuIndicator fuHeader : UInt8) (chunk : Bytes) : Bytes :=
  let hdrSize := kRtpHeaderSize + extensionSize extension
  let packet := List.replicate (hdrSize + 2 + chunk.length) 0
  let packet := writeRtpHeaderToBuffer packet fields extension
  let packet := writeAt packet hdrSize [fuIndicator]
  let packet := writeAt packet (hdrSize + 1) [fuHeader]
  writeAt packet (hdrSize + 2) chunk

/-- FU indicator: the three high bits of the NAL header and type 28. -/
def fuIndicator (naluHeader : UInt8) : UInt8 := (naluHeader &&& 0xE0) ||| kH264FuAType

/-- FU header: start and end bit, and the type of the NAL unit. -/
def fuHeader (naluHeader : UInt8) (first last : Bool) : UInt8 :=
  (if first then 0x80 else 0) ||| (if last then 0x40 else 0) ||| (naluHeader &&& 0x1F)

namespace RtpPacketizer

/-- The RTP timestamp: the capture time in ticks of the clock, or the frame's number
where there is no capture time. -/
def buildTimestamp (p : RtpPacketizer) (frame : EncodedFrame) : UInt32 :=
  if frame.captureTimestampNs = 0 then UInt32.ofNat frame.sequence
  else UInt32.ofNat (frame.captureTimestampNs * p.clockRate.toNat % 2 ^ 64 / 1000000000)

def latencyExtension (p : RtpPacketizer) (frame : EncodedFrame) : Option RtpHeaderExtension :=
  if p.enableLatencyExtension then
    some (buildRtpLatencyHeaderExtension
      { captureTimestampNs := UInt64.ofNat frame.captureTimestampNs
        transportSendTimestampNs := 0 })
  else none

/-- The header of the next packet. -/
def headerFields (p : RtpPacketizer) (marker : Bool) (timestamp : UInt32) : RtpHeaderFields where
  marker := marker
  payloadType := p.payloadType
  sequenceNumber := p.sequenceNumber
  timestamp := timestamp
  ssrc := p.ssrc

/-- `sequence_number_++`. -/
def advance (p : RtpPacketizer) : RtpPacketizer :=
  { p with sequenceNumber := p.sequenceNumber + 1 }

section

variable (timestamp : UInt32) (extension : Option RtpHeaderExtension)

def packetizeSingleNalu (p : RtpPacketizer) (nalu : Bytes) (marker : Bool) :
    RtpPacketizer × Option Bytes :=
  (p.advance, buildRtpPacketInto (p.headerFields marker timestamp) extension nalu)

/-- The loop of `PacketizeFragmentedNalu`, run at most `fuel` times. -/
def fragmentLoop (nalu : Bytes) (marker : Bool) (fragmentPayloadCapacity : ℕ) :
    ℕ → RtpPacketizer → ℕ → RtpPacketizer × List Bytes
  | 0, p, _ => (p, [])
  | fuel + 1, p, offset =>
      if offset < nalu.length then
        let remaining := nalu.length - offset
        let chunkSize := min fragmentPayloadCapacity remaining
        let first : Bool := offset = 1
        let last : Bool := nalu.length ≤ offset + chunkSize
        let packet := buildFragmentPacket (p.headerFields (marker && last) timestamp) extension
          (fuIndicator (byteAt nalu 0)) (fuHeader (byteAt nalu 0) first last)
          (sliceAt nalu offset chunkSize)
        let (p, packets) :=
          fragmentLoop nalu marker fragmentPayloadCapacity fuel p.advance (offset + chunkSize)
        (p, packet :: packets)
      else (p, [])

def packetizeFragmentedNalu (p : RtpPacketizer) (nalu : Bytes) (marker : Bool) :
    RtpPacketizer × Except String (List Bytes) :=
  if nalu.length < 2 then (p, .error "cannot fragment empty H264 NAL unit")
  else
    let fragmentPayloadCapacity := p.maxPayloadSize - 2
    if fragmentPayloadCapacity = 0 then
      (p, .error "rtp max payload size is too small for FU-A")
    else
      let (p, packets) :=
        fragmentLoop timestamp extension nalu marker fragmentPayloadCapacity nalu.length p 1
      (p, .ok packets)

/-- The loop of `Packetize` over the NAL units; the last one gets the marker. -/
def packetizeNalus : RtpPacketizer → List Bytes → RtpPacketizer × Except String (List Bytes)
  | p, [] => (p, .ok [])
  | p, nalu :: nalus =>
      let marker := nalus.isEmpty
      if nalu.length ≤ p.maxPayloadSize then
        match packetizeSingleNalu timestamp extension p nalu marker with
        | (p, none) => (p, .error "failed to packetize single RTP/H264 NAL unit")
        | (p, some packet) =>
            let (p, packets) := packetizeNalus p nalus
            (p, packets.map (packet :: ·))
      else
        match packetizeFragmentedNalu timestamp extension p nalu marker with
        | (p, .error message) => (p, .error message)
        | (p, .ok fragments) =>
            let (p, packets) := packetizeNalus p nalus
            (p, packets.map (fragments ++ ·))

end

/-- `Packetize`; `none` is the null pointer. -/
def packetize (p : RtpPacketizer) (frame : Option EncodedFrame) :
    RtpPacketizer × Except String (List Bytes) :=
  match frame with
  | none => (p, .error "frame or packet output is null")
  | some frame =>
      if frame.type ≠ .kVideo then (p, .error "rtp packetizer currently supports video only")
      else if p.maxPayloadSize ≤ 2 then (p, .error "rtp max payload size is too small")
      else
        match splitAnnexBNalus frame.payload with
        | [] => (p, .error "frame payload does not contain Annex-B H264 NAL units")
        | nalu :: nalus =>
            -- there is a packet for every unit, so the output is not empty
            packetizeNalus (p.buildTimestamp frame) (p.latencyExtension frame) p (nalu :: nalus)

end RtpPacketizer

end AvProject.Server
