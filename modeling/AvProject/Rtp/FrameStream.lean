import AvProject.Rtp.Packetization

/-!
The packets of one frame as a receiver reads them, whoever sent them: they belong
together, follow each other, spell the frame, and the last one is marked.
-/

namespace AvProject.Rtp

open AvProject.Lib AvProject.Protocol AvProject.Server

/-- What the packets of one frame have in common. -/
structure StreamId where
  timestamp : UInt32
  ssrc : UInt32
  payloadType : UInt8
  deriving DecidableEq

def BelongsTo (packet : RtpPacket) (id : StreamId) : Prop :=
  packet.fields.timestamp = id.timestamp ∧ packet.fields.ssrc = id.ssrc ∧
    packet.fields.payloadType = id.payloadType

/-- The next packet has the next sequence number, modulo `2 ^ 16`. -/
def Consecutive (packet next : RtpPacket) : Prop :=
  next.fields.sequenceNumber = packet.fields.sequenceNumber + 1

instance (packet next : RtpPacket) : Decidable (Consecutive packet next) :=
  inferInstanceAs (Decidable (_ = _))

/-- The packets are those of one frame. -/
structure FrameStream (id : StreamId) (stream : List RtpPacket) (bytes : Bytes) : Prop where
  belongs : ∀ packet ∈ stream, BelongsTo packet id
  spells : Spells false (stream.map RtpPacket.payload) bytes
  consecutive : stream.IsChain Consecutive
  marked : ∃ init last, stream = init ++ [last] ∧ last.fields.marker = true ∧
    ∀ packet ∈ init, packet.fields.marker = false

/-! ### What the packetizer sends -/

/-- A packet as the receiver reads it. -/
def readPacket (p : RtpPacketizer) (timestamp : UInt32) (extension : Option RtpHeaderExtension)
    (marker : Bool) (payload : Bytes) : RtpPacket where
  fields := { p.headerFields marker timestamp with payloadType := p.payloadType &&& 0x7F }
  extension := if hasExtension extension then extension.getD {} else {}
  payload := payload

/-- The packets with these payloads, as the receiver reads them. -/
def readPackets (timestamp : UInt32) (extension : Option RtpHeaderExtension) :
    RtpPacketizer → List Bytes → List RtpPacket
  | _, [] => []
  | p, payload :: payloads =>
      readPacket p timestamp extension payloads.isEmpty payload ::
        readPackets timestamp extension p.advance payloads

/-- The common part of the packets of a frame. -/
def streamId (p : RtpPacketizer) (frame : EncodedFrame) : StreamId where
  timestamp := p.buildTimestamp frame
  ssrc := p.ssrc
  payloadType := p.payloadType &&& 0x7F

section

variable {timestamp : UInt32} {extension : Option RtpHeaderExtension}

theorem map_readRtpPacket_packets (hfits : ∀ e ∈ extension, e.Fits) (p : RtpPacketizer)
    {payloads : List Bytes} (hpayloads : ∀ payload ∈ payloads, payload ≠ []) :
    (packets timestamp extension true p payloads).map readRtpPacket =
      (readPackets timestamp extension p payloads).map some := by
  induction payloads generalizing p with
  | nil => rfl
  | cons payload payloads ih =>
      obtain ⟨hpayload, hrest⟩ := List.forall_mem_cons.mp hpayloads
      rw [packets, readPackets, List.map_cons, List.map_cons, ih p.advance hrest,
        readRtpPacket_rtpHeaderBytes_append _ hfits hpayload, Bool.true_and]
      rfl

@[simp] theorem map_payload_readPackets (p : RtpPacketizer) (payloads : List Bytes) :
    (readPackets timestamp extension p payloads).map RtpPacket.payload = payloads := by
  induction payloads generalizing p with
  | nil => rfl
  | cons payload payloads ih =>
      rw [readPackets, List.map_cons, ih]
      rfl

theorem readPackets_belongs (p : RtpPacketizer) (payloads : List Bytes) :
    ∀ packet ∈ readPackets timestamp extension p payloads,
      BelongsTo packet
        { timestamp := timestamp, ssrc := p.ssrc, payloadType := p.payloadType &&& 0x7F } := by
  induction payloads generalizing p with
  | nil => simp [readPackets]
  | cons payload payloads ih => exact List.forall_mem_cons.mpr ⟨⟨rfl, rfl, rfl⟩, ih p.advance⟩

theorem readPackets_consecutive (p : RtpPacketizer) (payloads : List Bytes) :
    (readPackets timestamp extension p payloads).IsChain Consecutive := by
  induction payloads generalizing p with
  | nil => exact List.isChain_nil
  | cons payload payloads ih =>
      rw [readPackets, List.isChain_cons]
      refine ⟨fun next hnext => ?_, ih p.advance⟩
      cases payloads with
      | nil => simp [readPackets] at hnext
      | cons payload' payloads =>
          obtain rfl := Option.some.inj hnext
          rfl

theorem readPackets_marked (p : RtpPacketizer) {payloads : List Bytes} (hne : payloads ≠ []) :
    ∃ init last, readPackets timestamp extension p payloads = init ++ [last] ∧
      last.fields.marker = true ∧ ∀ packet ∈ init, packet.fields.marker = false := by
  induction payloads generalizing p with
  | nil => exact absurd rfl hne
  | cons payload payloads ih =>
      cases payloads with
      | nil => exact ⟨[], _, rfl, rfl, by simp⟩
      | cons next payloads =>
          obtain ⟨init, last, heq, hlast, hinit⟩ := ih p.advance (List.cons_ne_nil _ _)
          refine ⟨readPacket p timestamp extension false payload :: init, last, ?_, hlast, ?_⟩
          · rw [readPackets, heq]
            rfl
          · exact List.forall_mem_cons.mpr ⟨rfl, hinit⟩

end

section

variable {p : RtpPacketizer} {frame : EncodedFrame}

theorem framePayloads_spells (haccepts : Accepts p frame)
    (hsendable : ∀ nalu ∈ splitAnnexBNalus frame.payload, Sendable nalu) :
    Spells false (framePayloads p frame) (annexB (splitAnnexBNalus frame.payload)) :=
  flatMap_naluPayloads_spells haccepts.2.1 haccepts.2.2 hsendable

/-- The packets of a frame are read back as the packets of one frame. -/
theorem framePackets_stream (haccepts : Accepts p frame)
    (hsendable : ∀ nalu ∈ splitAnnexBNalus frame.payload, Sendable nalu) :
    ∃ stream, (framePackets p frame).map readRtpPacket = stream.map some ∧
      FrameStream (streamId p frame) stream (annexB (splitAnnexBNalus frame.payload)) := by
  have hspells := framePayloads_spells haccepts hsendable
  refine ⟨readPackets (p.buildTimestamp frame) (p.latencyExtension frame) p
    (framePayloads p frame), ?_, ?_⟩
  · exact map_readRtpPacket_packets (latencyExtension_fits p frame) p
      fun payload hpayload => (hspells.wellFormed payload hpayload).ne_nil
  · exact
      { belongs := readPackets_belongs p _
        spells := by rwa [map_payload_readPackets]
        consecutive := readPackets_consecutive p _
        marked := readPackets_marked p hspells.ne_nil }

end

end AvProject.Rtp
