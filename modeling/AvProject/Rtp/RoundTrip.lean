import AvProject.Rtp.Delivery

/-!
Without loss, every frame that is packetized is delivered once, in order, as its NAL
units behind start codes of four bytes.
-/

namespace AvProject.Rtp

open AvProject.Lib AvProject.Protocol AvProject.Server AvProject.Client

/-! ### The packets that are sent -/

section

variable {p : RtpPacketizer} {frame : EncodedFrame} {id : StreamId} {stream : List RtpPacket}
  {bytes : Bytes}

/-- All packets of a frame look complete. -/
theorem FrameStream.looksComplete (h : FrameStream id stream bytes) : LooksComplete stream := by
  obtain ⟨init, last, hstream, hmarker, -⟩ := h.marked
  refine ⟨⟨last, by simp [hstream], hmarker⟩, fun packet hpacket hcontinues => ?_, ?_⟩
  · have hhead : packet.payload ∈ (stream.map RtpPacket.payload).head? := by
      rw [List.head?_map, Option.mem_def, Option.mem_def.mp hpacket, Option.map_some]
    exact absurd ((h.spells.first _ hhead).mp hcontinues) Bool.false_ne_true
  · have hfollows := (List.isChain_map RtpPacket.payload).mp h.spells.chain
    have hconsecutive := h.consecutive
    rw [List.isChain_iff_getElem] at hconsecutive hfollows ⊢
    exact fun i hi => ⟨hconsecutive i hi, hfollows i hi⟩

theorem FrameStream.packetBytes_eq (h : FrameStream id stream bytes) :
    packetBytes stream = bytes := by
  rw [← h.spells.bytes, packetBytes, List.flatMap_map]

theorem getElem?_readPackets {timestamp : UInt32} {extension : Option RtpHeaderExtension}
    (p : RtpPacketizer) (payloads : List Bytes) (i : ℕ) :
    (readPackets timestamp extension p payloads)[i]? =
      payloads[i]?.map
        (readPacket (advanceBy p i) timestamp extension (decide (i + 1 = payloads.length))) := by
  induction payloads generalizing p i with
  | nil => rfl
  | cons payload payloads ih =>
      cases i with
      | zero =>
          have hlast : decide (0 + 1 = (payload :: payloads).length) = payloads.isEmpty := by
            cases payloads <;> simp
          rw [hlast, advanceBy_zero]
          rfl
      | succ i =>
          rw [readPackets, List.getElem?_cons_succ, List.getElem?_cons_succ, ih,
            advanceBy_advance, List.length_cons]
          simp

/-- What one packet of a frame says. -/
theorem getElem?_framePackets (haccepts : Accepts p frame)
    (hsendable : ∀ nalu ∈ splitAnnexBNalus frame.payload, Sendable nalu) {i : ℕ} {packet : Bytes}
    (hpacket : (framePackets p frame)[i]? = some packet) :
    ∃ r, readRtpPacket packet = some r ∧
      r.fields.sequenceNumber = p.sequenceNumber + UInt16.ofNat i ∧
      (r.fields.marker = true ↔ i + 1 = (framePackets p frame).length) ∧
      ¬StartsAndEnds r.payload := by
  have hspells := framePayloads_spells haccepts hsendable
  have hread : (framePackets p frame).map readRtpPacket =
      (readPackets (p.buildTimestamp frame) (p.latencyExtension frame) p
        (framePayloads p frame)).map some :=
    map_readRtpPacket_packets (latencyExtension_fits p frame) p
      fun payload hpayload => (hspells.wellFormed payload hpayload).ne_nil
  have hi := congrArg (fun read : List (Option RtpPacket) => read[i]?) hread
  simp only [List.getElem?_map, getElem?_readPackets, hpacket, Option.map_some,
    Option.map_map] at hi
  obtain ⟨payload, hpayload, hr⟩ := Option.map_eq_some_iff.mp hi.symm
  refine ⟨_, hr.symm, rfl, ?_, hspells.notBoth payload (List.mem_of_getElem? hpayload)⟩
  rw [framePackets, length_packets]
  exact decide_eq_true_iff

theorem sentPackets_cons (p : RtpPacketizer) (frame : EncodedFrame)
    (frames : List EncodedFrame) :
    sentPackets p (frame :: frames) =
      (p.packetize (some frame)).2.toOption.getD [] ::
        sentPackets (p.packetize (some frame)).1 frames := rfl

theorem sentPackets_cons_of_accepts (haccepts : Accepts p frame)
    (hsendable : ∀ nalu ∈ splitAnnexBNalus frame.payload, Sendable nalu)
    (frames : List EncodedFrame) :
    sentPackets p (frame :: frames) =
      framePackets p frame :: sentPackets (advanceBy p (framePackets p frame).length) frames := by
  rw [sentPackets_cons, packetize_of_accepts haccepts hsendable]
  rfl

end

/-- A video frame with NAL units, all of types that H.264 itself defines. -/
structure VideoFrame (frame : EncodedFrame) : Prop where
  video : frame.type = .kVideo
  hasNalus : splitAnnexBNalus frame.payload ≠ []
  sendable : ∀ nalu ∈ splitAnnexBNalus frame.payload, Sendable nalu

section

variable {p : RtpPacketizer} {frames : List EncodedFrame}

theorem VideoFrame.accepts {frame : EncodedFrame} (h : VideoFrame frame)
    (hmax : 2 < p.maxPayloadSize) : Accepts p frame :=
  ⟨h.video, hmax, h.hasNalus⟩

/-- The sequence numbers go on from one frame to the next. -/
theorem getElem?_sentPackets_flatten (hmax : 2 < p.maxPayloadSize)
    (hframes : ∀ frame ∈ frames, VideoFrame frame) {i : ℕ} {packet : Bytes}
    (hpacket : (sentPackets p frames).flatten[i]? = some packet) :
    ∃ r, readRtpPacket packet = some r ∧
      r.fields.sequenceNumber = p.sequenceNumber + UInt16.ofNat i ∧
      ¬StartsAndEnds r.payload := by
  induction frames generalizing p i with
  | nil => simp [sentPackets] at hpacket
  | cons frame frames ih =>
      obtain ⟨hframe, hrest⟩ := List.forall_mem_cons.mp hframes
      rw [sentPackets_cons_of_accepts (hframe.accepts hmax) hframe.sendable, List.flatten_cons,
        List.getElem?_append] at hpacket
      split at hpacket
      · obtain ⟨r, hr, hsequence, -, hboth⟩ :=
          getElem?_framePackets (hframe.accepts hmax) hframe.sendable hpacket
        exact ⟨r, hr, hsequence, hboth⟩
      · rename_i hlater
        obtain ⟨r, hr, hsequence, hboth⟩ := ih (p := advanceBy p _) hmax hrest hpacket
        refine ⟨r, hr, ?_, hboth⟩
        rw [hsequence, advanceBy, UInt16.add_assoc, ← UInt16.ofNat_add,
          Nat.add_sub_cancel' (by omega)]

/-- The marker is on the last packet of each frame. -/
theorem marker_sentPackets (hmax : 2 < p.maxPayloadSize)
    (hframes : ∀ frame ∈ frames, VideoFrame frame) :
    ∀ sent ∈ sentPackets p frames, ∀ (i : ℕ) packet, sent[i]? = some packet →
      ∃ r, readRtpPacket packet = some r ∧ (r.fields.marker = true ↔ i + 1 = sent.length) := by
  induction frames generalizing p with
  | nil => simp [sentPackets]
  | cons frame frames ih =>
      obtain ⟨hframe, hrest⟩ := List.forall_mem_cons.mp hframes
      rw [sentPackets_cons_of_accepts (hframe.accepts hmax) hframe.sendable]
      refine List.forall_mem_cons.mpr ⟨fun i packet hpacket => ?_, ih hmax hrest⟩
      obtain ⟨r, hr, -, hmarker, -⟩ :=
        getElem?_framePackets (hframe.accepts hmax) hframe.sendable hpacket
      exact ⟨r, hr, hmarker⟩

/-! ### Reception -/

/-- All packets of all frames, one after the other. -/
theorem receiveAll_sentPackets {cfg : ClientConfig}
    (hjitter : cfg.udpJitterBufferEnabled = false)
    (haccepts : acceptsPayloadType cfg (p.payloadType &&& 0x7F) = true)
    (hmax : 2 < p.maxPayloadSize) (hframes : ∀ frame ∈ frames, VideoFrame frame)
    {st : StreamClient} (hst : st.rtpFrameAssembly.active = false)
    {arrivals : List (Bytes × ℕ)}
    (harrivals : arrivals.map Prod.fst = (sentPackets p frames).flatten) :
    (receiveAll cfg st arrivals).2.map ReceivedFrame.payload =
      frames.map fun frame => annexB (splitAnnexBNalus frame.payload) := by
  induction frames generalizing p st arrivals with
  | nil =>
      obtain rfl := List.map_eq_nil_iff.mp harrivals
      rfl
  | cons frame frames ih =>
      obtain ⟨hframe, hrest⟩ := List.forall_mem_cons.mp hframes
      rw [sentPackets_cons_of_accepts (hframe.accepts hmax) hframe.sendable, List.flatten_cons,
        List.map_eq_append_iff] at harrivals
      obtain ⟨first, rest, rfl, hfirst, hlater⟩ := harrivals
      obtain ⟨stream, hread, hstream⟩ :=
        framePackets_stream (hframe.accepts hmax) hframe.sendable
      have hcarry : Carry first stream := by
        rw [Carry, ← hread, ← hfirst, List.map_map]
        rfl
      obtain ⟨hdelivered, -, hafter⟩ := receiveAll_frame hjitter haccepts hstream
        (List.Sublist.refl stream) hcarry (.inl hst)
      have hcomplete := hstream.looksComplete
      have hinactive : (receiveAll cfg st first).1.rtpFrameAssembly.active = false := by
        refine hafter.resolve_right fun hunmarked => ?_
        obtain ⟨packet, hpacket, hmarker⟩ := hcomplete.1
        rw [hunmarked.1 packet hpacket] at hmarker
        exact absurd hmarker Bool.false_ne_true
      have hone : (receiveAll cfg st first).2.map ReceivedFrame.payload =
          [annexB (splitAnnexBNalus frame.payload)] := by
        have hpayloads := congrArg (List.map Prod.snd) (hdelivered hcomplete)
        rwa [List.map_map, hstream.packetBytes_eq] at hpayloads
      have hmore := ih (p := advanceBy p _) haccepts hmax hrest hinactive hlater
      rw [receiveAll_append, List.map_append, hone, hmore]
      rfl

end

/-- Packets that are received in order and without loss yield every frame once, in
order; on the way the sequence numbers go up by one, the last packet of a frame has the
marker, and no fragment both starts and ends a NAL unit. -/
theorem receiveRtp_round_trip (cfg : ClientConfig) (hjitter : cfg.udpJitterBufferEnabled = false)
    (p : RtpPacketizer) (hmax : 2 < p.maxPayloadSize)
    (hfilter : cfg.rtpPayloadType < 0 ∨
      cfg.rtpPayloadType = ((p.payloadType &&& 0x7F).toNat : ℤ))
    (frames : List EncodedFrame) (hframes : ∀ frame ∈ frames, VideoFrame frame)
    (events : List RtpReceiveEvent) (s : RtpReceiveState)
    (hrun : runRtpReceive cfg (RtpReceiveState.start cfg) events = some s)
    (hfeed : receivedDatagrams events = (sentPackets p frames).flatten) :
    (s.delivered.map ReceivedFrame.payload =
        frames.map fun frame => annexB (splitAnnexBNalus frame.payload)) ∧
      (∀ (i : ℕ) packet, (sentPackets p frames).flatten[i]? = some packet →
        ∃ r, readRtpPacket packet = some r ∧
          r.fields.sequenceNumber = p.sequenceNumber + UInt16.ofNat i ∧
          ¬StartsAndEnds r.payload) ∧
      ∀ sent ∈ sentPackets p frames, ∀ (i : ℕ) packet, sent[i]? = some packet →
        ∃ r, readRtpPacket packet = some r ∧ (r.fields.marker = true ↔ i + 1 = sent.length) := by
  have haccepts : acceptsPayloadType cfg (p.payloadType &&& 0x7F) = true := by
    rw [acceptsPayloadType, Bool.or_eq_true, decide_eq_true_iff]
    refine hfilter.imp_right fun hequal => ?_
    have hlt : (p.payloadType &&& 0x7F).toNat < 256 := (p.payloadType &&& 0x7F).toNat_lt
    have hmod : (((p.payloadType &&& 0x7F).toNat : ℤ) % 256).toNat =
        (p.payloadType &&& 0x7F).toNat := by omega
    rw [hequal, hmod, UInt8.ofNat_toNat, beq_self_eq_true]
  refine ⟨?_, fun i packet => getElem?_sentPackets_flatten hmax hframes,
    marker_sentPackets hmax hframes⟩
  rw [runRtpReceive_eq hjitter hrun]
  exact receiveAll_sentPackets hjitter haccepts hmax hframes rfl
    ((map_fst_arrivalsOf events).trans hfeed)

/-- A frame with this capture time and payload. -/
def capturedFrame (captureTimestampNs : UInt64) (payload : Bytes) : EncodedFrame :=
  .numbered 0 captureTimestampNs false payload

/-- Two NAL units, the second too long for one packet. -/
def twoNaluFrame : EncodedFrame :=
  capturedFrame 1000000 [0, 0, 0, 1, 0x67, 0x64, 0, 0, 1, 0x65, 1, 2, 3, 4, 5, 6]

/-- One NAL unit. -/
def oneNaluFrame : EncodedFrame := capturedFrame 34000000 [0, 0, 0, 1, 0x41, 7]

theorem videoFrame_twoNaluFrame : VideoFrame twoNaluFrame :=
  ⟨rfl, by decide +kernel, by decide +kernel⟩

theorem videoFrame_oneNaluFrame : VideoFrame oneNaluFrame :=
  ⟨rfl, by decide +kernel, by decide +kernel⟩

/-- A packetizer just before its sequence numbers wrap around. -/
def smallPacketizer : RtpPacketizer where
  payloadType := 96
  clockRate := 90000
  maxPayloadSize := 5
  ssrc := 0x12345678
  enableLatencyExtension := true
  sequenceNumber := 65534

def directClient : ClientConfig :=
  { transport := .rtp, rtpPayloadType := 96, udpJitterBufferEnabled := false }

/-- The calls and datagrams of a session that receives these packets; the application
calls again after every frame. -/
def rtpSession (sent : List (List Bytes)) : List RtpReceiveEvent :=
  sent.flatMap fun packets =>
    .call :: .proceed 0 :: (packets.map fun data => .datagram data 0).intersperse (.proceed 0)

theorem rtpSession_round_trip :
    ∃ s, runRtpReceive directClient (RtpReceiveState.start directClient)
        (rtpSession (sentPackets smallPacketizer [twoNaluFrame, oneNaluFrame])) = some s ∧
      s.delivered.map ReceivedFrame.payload =
        [twoNaluFrame, oneNaluFrame].map fun frame => annexB (splitAnnexBNalus frame.payload) := by
  obtain ⟨s, hs⟩ := Option.isSome_iff_exists.mp (by decide +kernel :
    (runRtpReceive directClient (RtpReceiveState.start directClient)
      (rtpSession (sentPackets smallPacketizer [twoNaluFrame, oneNaluFrame]))).isSome = true)
  have hframes : ∀ frame ∈ [twoNaluFrame, oneNaluFrame], VideoFrame frame := by
    simp [videoFrame_twoNaluFrame, videoFrame_oneNaluFrame]
  exact ⟨s, hs, (receiveRtp_round_trip directClient rfl smallPacketizer (by decide)
    (.inr (by decide)) _ hframes _ s hs (by decide +kernel)).1⟩

end AvProject.Rtp
