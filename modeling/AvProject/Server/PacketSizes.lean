import AvProject.Rtp.Packetization
import AvProject.Server.BatchSending
import AvProject.Udp.Layout

/-!
What an accepted configuration guarantees about sizes: datagrams within the limit and
inside the send buffer, header fields that no cast changes, fragments that tile the
payload, and RTP packets that fit a datagram.
-/

namespace AvProject.Server

open AvProject.Lib AvProject.Protocol

/-! ### The send buffer -/

/-- `send_datagram_` is grown to the datagram limit before a frame is sent. -/
def prepareSendBuffer (cfg : TransportConfig) (buffer : Bytes) : Bytes :=
  buffer ++ List.replicate (cfg.udpMaxDatagramSize - buffer.length) 0

/-- The copies into the send buffer that build one datagram. -/
def datagramWrites (sent : SentFrame) (fragment : UdpFrameFragmentHeader) (body : Bytes) :
    List (ℕ × Bytes) :=
  [(0, (buildMessageHeader .kAvStream sent.frame.type.code
      (sizeofUdpFrameFragmentHeader + body.length)).toBytes),
    (sizeofMessageHeader, fragment.toBytes)] ++
    if body = [] then [] else [(headerSize, body)]

/-- The datagrams of a list of fragments, built in one buffer; of each the first
`datagram_size` bytes are sent. -/
def buildInBuffer (sent : SentFrame) : List (UdpFrameFragmentHeader × Bytes) → Bytes → List Bytes
  | [], _ => []
  | (fragment, body) :: rest, buffer =>
      let buffer := writeAll buffer (datagramWrites sent fragment body)
      buffer.take (headerSize + body.length) :: buildInBuffer sent rest buffer

/-- The header and the body of each datagram of a frame. -/
def frameParts (cfg : TransportConfig) (sent : SentFrame) :
    List (UdpFrameFragmentHeader × Bytes) :=
  ((List.range (fragmentCountSize cfg sent.frame)).map fun index =>
      (dataHeader cfg sent index, fragmentPayload cfg sent.frame index)) ++
    if HasParity cfg sent.frame then
      [(parityHeader cfg sent, parity (maxFragmentPayloadSize cfg) sent.frame.payload)]
    else []

section

variable {cfg : TransportConfig} {sent : SentFrame} {fragment : UdpFrameFragmentHeader}
  {body buffer : Bytes}

theorem frameDatagrams_eq_frameParts (cfg : TransportConfig) (sent : SentFrame) :
    frameDatagrams cfg sent =
      (frameParts cfg sent).map fun part => buildDatagram sent part.1 part.2 := by
  rw [frameDatagrams, frameParts, List.map_append, List.map_map]
  congr 1
  split <;> rfl

/-- Each copy stays inside the first `datagram_size` bytes. -/
theorem write_le_of_mem {w : ℕ × Bytes} (hw : w ∈ datagramWrites sent fragment body) :
    w.1 + w.2.length ≤ headerSize + body.length := by
  have hheader : headerSize = sizeofMessageHeader + sizeofUdpFrameFragmentHeader := rfl
  rw [datagramWrites, List.mem_append] at hw
  rcases hw with hheaders | hbody
  · rcases List.mem_pair.mp hheaders with rfl | rfl
    · simp only [length_toBytes_buildMessageHeader]
      omega
    · simp only [length_toBytes_udpFrameFragmentHeader]
      omega
  · split at hbody
    · simp at hbody
    · obtain rfl := List.mem_singleton.mp hbody
      rfl

theorem writeAll_datagramWrites (buffer : Bytes) :
    writeAll buffer (datagramWrites sent fragment body) =
      writeAt (writeAt (writeAt buffer 0 (buildMessageHeader .kAvStream sent.frame.type.code
        (sizeofUdpFrameFragmentHeader + body.length)).toBytes) sizeofMessageHeader
        fragment.toBytes) headerSize body := by
  by_cases hbody : body = []
  · rw [datagramWrites, if_pos hbody, hbody, writeAt_nil]
    rfl
  · rw [datagramWrites, if_neg hbody]
    rfl

/-- Whatever the buffer held before, the datagram is what was copied. -/
theorem take_writeAll_datagramWrites (buffer : Bytes) :
    (writeAll buffer (datagramWrites sent fragment body)).take (headerSize + body.length) =
      buildDatagram sent fragment body := by
  have hmessage := length_toBytes_buildMessageHeader .kAvStream sent.frame.type.code
    (sizeofUdpFrameFragmentHeader + body.length)
  have hfragment := length_toBytes_udpFrameFragmentHeader fragment
  have hfirst := writeAt_append [] buffer (buildMessageHeader .kAvStream sent.frame.type.code
    (sizeofUdpFrameFragmentHeader + body.length)).toBytes List.length_nil
  rw [List.nil_append, List.nil_append] at hfirst
  rw [writeAll_datagramWrites, hfirst, writeAt_append _ _ _ hmessage,
    writeAt_append _ _ _ (by rw [List.length_append, hmessage, hfragment, headerSize]),
    List.take_left' (by
      simp only [List.length_append, hmessage, hfragment, headerSize]), buildDatagram,
    List.append_assoc]

/-- One buffer serves for all datagrams. -/
theorem buildInBuffer_eq {parts : List (UdpFrameFragmentHeader × Bytes)} :
    buildInBuffer sent parts buffer =
      parts.map fun part => buildDatagram sent part.1 part.2 := by
  induction parts generalizing buffer with
  | nil => rfl
  | cons part rest ih =>
      obtain ⟨fragment, body⟩ := part
      rw [buildInBuffer, List.map_cons]
      simp only [take_writeAll_datagramWrites, ih]

end

/-! ### Datagrams -/

section

variable {cfg : TransportConfig} {sent : SentFrame}

theorem length_body_le {part : UdpFrameFragmentHeader × Bytes}
    (hpart : part ∈ frameParts cfg sent) : part.2.length ≤ maxFragmentPayloadSize cfg := by
  rw [frameParts, List.mem_append] at hpart
  rcases hpart with hdata | hparity
  · obtain ⟨index, -, rfl⟩ := List.mem_map.mp hdata
    exact length_piece_le _ _ _
  · split at hparity
    · obtain rfl := List.mem_singleton.mp hparity
      exact length_parity_le _ _
    · simp at hparity

/-- The limits on the datagrams of a frame, in a send buffer with any contents. -/
structure DatagramsFit (cfg : TransportConfig) (sent : SentFrame) (buffer : Bytes) : Prop where
  length_le : ∀ datagram ∈ frameDatagrams cfg sent, datagram.length ≤ cfg.udpMaxDatagramSize
  inBounds : ∀ part ∈ frameParts cfg sent, ∀ w ∈ datagramWrites sent part.1 part.2,
    w.1 + w.2.length ≤ (prepareSendBuffer cfg buffer).length
  built : buildInBuffer sent (frameParts cfg sent) (prepareSendBuffer cfg buffer) =
    frameDatagrams cfg sent

theorem datagramsFit (hmax : headerSize ≤ cfg.udpMaxDatagramSize) (sent : SentFrame)
    (buffer : Bytes) : DatagramsFit cfg sent buffer := by
  have hsize : ∀ part ∈ frameParts cfg sent,
      headerSize + part.2.length ≤ cfg.udpMaxDatagramSize := by
    intro part hpart
    have hbody := length_body_le hpart
    rw [maxFragmentPayloadSize] at hbody
    omega
  refine ⟨?_, fun part hpart w hw => ?_, ?_⟩
  · rw [frameDatagrams_eq_frameParts, List.forall_mem_map]
    intro part hpart
    rw [Udp.length_buildDatagram]
    exact hsize part hpart
  · have hwrite := write_le_of_mem hw
    have hpart := hsize part hpart
    rw [prepareSendBuffer, List.length_append, List.length_replicate]
    omega
  · rw [buildInBuffer_eq, frameDatagrams_eq_frameParts]

/-! ### Header fields and fragments -/

/-- The loop over the fragments with its 16-bit counter; `none` where it is still running
after `fuel` tests of its condition. -/
def fragmentIndices (fragmentCount : UInt16) : ℕ → UInt16 → Option (List UInt16)
  | 0, _ => none
  | fuel + 1, fragmentIndex =>
      if fragmentIndex < fragmentCount then
        (fragmentIndices fragmentCount fuel (fragmentIndex + 1)).map (fragmentIndex :: ·)
      else some []

/-- The loop ends, and visits each index once. -/
theorem fragmentIndices_eq {count start fuel : ℕ} (hcount : count < 2 ^ 16) (hstart : start ≤ count)
    (hfuel : count - start < fuel) :
    fragmentIndices (UInt16.ofNat count) fuel (UInt16.ofNat start) =
      some ((List.range' start (count - start)).map UInt16.ofNat) := by
  induction fuel generalizing start with
  | zero => omega
  | succ fuel ih =>
      have hlt : UInt16.ofNat start < UInt16.ofNat count ↔ start < count := by
        rw [UInt16.lt_iff_toNat_lt, UInt16.toNat_ofNat', UInt16.toNat_ofNat',
          Nat.mod_eq_of_lt hcount, Nat.mod_eq_of_lt (by omega)]
      rw [fragmentIndices]
      split
      · rename_i hmore
        rw [hlt] at hmore
        have hnext : UInt16.ofNat start + 1 = UInt16.ofNat (start + 1) := by
          rw [UInt16.ofNat_add]
          rfl
        rw [hnext, ih (by omega) (by omega),
          show count - start = count - (start + 1) + 1 by omega, List.range'_succ]
        rfl
      · rename_i hdone
        rw [hlt] at hdone
        rw [show count - start = 0 by omega]
        rfl

/-- The fields of the fragment headers are what they were before the casts, and the
fragments tile the payload. -/
structure LosslessHeaders (cfg : TransportConfig) (sent : SentFrame) : Prop where
  fragmentCount : ∀ part ∈ frameParts cfg sent,
    part.1.fragmentCount = fragmentCountSize cfg sent.frame
  framePayloadSize : ∀ part ∈ frameParts cfg sent,
    part.1.framePayloadSize = sent.frame.payload.length
  fragmentIndex : ∀ index, index < fragmentCountSize cfg sent.frame →
    (dataHeader cfg sent index).fragmentIndex = (UInt16.ofNat index).toNat
  fragmentOffset : ∀ index, index < fragmentCountSize cfg sent.frame →
    (dataHeader cfg sent index).fragmentOffset =
      ((List.range index).flatMap (fragmentPayload cfg sent.frame)).length
  tiles : (List.range (fragmentCountSize cfg sent.frame)).flatMap
    (fragmentPayload cfg sent.frame) = sent.frame.payload
  terminates : fragmentIndices (UInt16.ofNat (fragmentCountSize cfg sent.frame))
      (fragmentCountSize cfg sent.frame + 1) 0 =
    some ((List.range (fragmentCountSize cfg sent.frame)).map UInt16.ofNat)

theorem losslessHeaders (h : Udp.Sendable cfg sent.frame) : LosslessHeaders cfg sent := by
  have hcount := h.count_lt
  have hlength := h.length_lt
  have hsize := h.maxFragmentPayloadSize_pos
  have hfields : ∀ part ∈ frameParts cfg sent,
      part.1.fragmentCount = fragmentCountSize cfg sent.frame % 2 ^ 16 ∧
        part.1.framePayloadSize = sent.frame.payload.length % 2 ^ 32 := by
    intro part hpart
    rw [frameParts, List.mem_append] at hpart
    rcases hpart with hdata | hparity
    · obtain ⟨index, -, rfl⟩ := List.mem_map.mp hdata
      exact ⟨rfl, rfl⟩
    · split at hparity
      · obtain rfl := List.mem_singleton.mp hparity
        exact ⟨rfl, rfl⟩
      · simp at hparity
  have hpieces : ∀ index ≤ fragmentCountSize cfg sent.frame,
      (List.range index).flatMap (fragmentPayload cfg sent.frame) =
        sent.frame.payload.take (index * maxFragmentPayloadSize cfg) :=
    fun index _ => flatMap_piece index
  refine ⟨fun part hpart => ?_, fun part hpart => ?_, fun index hindex => ?_,
    fun index hindex => ?_, ?_, ?_⟩
  · rw [(hfields part hpart).1, Nat.mod_eq_of_lt hcount]
  · rw [(hfields part hpart).2, Nat.mod_eq_of_lt hlength]
  · rw [UInt16.toNat_ofNat', Nat.mod_eq_of_lt (hindex.trans hcount)]
    rfl
  · have hoffset := h.offset_lt hindex
    rw [hpieces index hindex.le, List.length_take_of_le (mul_le_length hsize hindex)]
    exact Nat.mod_eq_of_lt hoffset
  · rw [hpieces _ le_rfl]
    exact List.take_of_length_le (length_le_pieceCount_mul hsize)
  · have hloop := fragmentIndices_eq hcount (Nat.zero_le _)
      (Nat.lt_succ_self (fragmentCountSize cfg sent.frame - 0))
    rw [Nat.sub_zero, ← List.range_eq_range'] at hloop
    exact hloop

end

/-! ### RTP packets -/

/-- A packet within the limits: a header, and a payload that is not too long. -/
def PacketFits (cfg : TransportConfig) (extension : Option RtpHeaderExtension)
    (packet : Bytes) : Prop :=
  packet.length ≤ cfg.udpMaxDatagramSize ∧
    ∃ fields payload, packet = rtpHeaderBytes fields extension ++ payload ∧
      payload.length ≤ cfg.rtpMaxPayloadSize

section

variable {cfg : TransportConfig} {timestamp : UInt32} {extension : Option RtpHeaderExtension}
  {marker : Bool}

theorem mem_packets {p : RtpPacketizer} {payloads : List Bytes} {packet : Bytes}
    (h : packet ∈ Rtp.packets timestamp extension marker p payloads) :
    ∃ fields, ∃ payload ∈ payloads, packet = rtpHeaderBytes fields extension ++ payload := by
  induction payloads generalizing p with
  | nil => simp [Rtp.packets] at h
  | cons payload payloads ih =>
      rw [Rtp.packets, List.mem_cons] at h
      rcases h with rfl | hrest
      · exact ⟨_, payload, List.mem_cons_self, rfl⟩
      · obtain ⟨fields, other, hother, rfl⟩ := ih hrest
        exact ⟨fields, other, List.mem_cons_of_mem _ hother, rfl⟩

theorem length_fragmentPayloads_le {nalu payload : Bytes} {capacity fuel offset : ℕ}
    (h : payload ∈ Rtp.fragmentPayloads nalu capacity fuel offset) :
    payload.length ≤ capacity + 2 := by
  induction fuel generalizing offset with
  | zero => simp [Rtp.fragmentPayloads] at h
  | succ fuel ih =>
      rw [Rtp.fragmentPayloads] at h
      split at h
      · rcases List.mem_cons.mp h with rfl | hrest
        · have hslice := length_sliceAt_le nalu offset (min capacity (nalu.length - offset))
          simp only [Rtp.fragmentPayload, List.length_cons]
          omega
        · exact ih hrest
      · simp at h

/-- Each packet of the NAL units is a header and a payload of at most the configured size. -/
theorem packetizeNalus_packets (hfits : ∀ e ∈ extension, e.Fits) {nalus packets : List Bytes}
    {p : RtpPacketizer} (hmax : 2 < p.maxPayloadSize)
    (h : (RtpPacketizer.packetizeNalus timestamp extension p nalus).2 = .ok packets) :
    ∀ packet ∈ packets, ∃ fields payload, packet = rtpHeaderBytes fields extension ++ payload ∧
      payload.length ≤ p.maxPayloadSize := by
  induction nalus generalizing p packets with
  | nil =>
      obtain rfl := Except.ok.inj h
      simp
  | cons nalu nalus ih =>
      rw [RtpPacketizer.packetizeNalus] at h
      split at h
      · rename_i hshort
        rw [RtpPacketizer.packetizeSingleNalu, Rtp.buildRtpPacketInto_of_fits _ hfits] at h
        simp only at h
        cases hrest : (RtpPacketizer.packetizeNalus timestamp extension p.advance nalus).2 with
        | error message => simp [hrest, Except.map] at h
        | ok others =>
            rw [hrest] at h
            obtain rfl := Except.ok.inj h
            refine List.forall_mem_cons.mpr ⟨⟨_, nalu, rfl, hshort⟩, ?_⟩
            exact ih (p := p.advance) hmax hrest
      · rename_i hlong
        rw [Rtp.packetizeFragmentedNalu_eq p hmax (by omega)] at h
        simp only at h
        cases hrest : (RtpPacketizer.packetizeNalus timestamp extension
            (Rtp.advanceBy p (Rtp.naluPayloads p.maxPayloadSize nalu).length) nalus).2 with
        | error message => simp [hrest, Except.map] at h
        | ok others =>
            rw [hrest] at h
            obtain rfl := Except.ok.inj h
            refine List.forall_mem_append.mpr ⟨fun packet hpacket => ?_, ?_⟩
            · obtain ⟨fields, payload, hpayload, rfl⟩ := mem_packets hpacket
              refine ⟨fields, payload, rfl, ?_⟩
              rw [Rtp.naluPayloads, if_neg hlong] at hpayload
              have hle := length_fragmentPayloads_le hpayload
              omega
            · exact ih (p := Rtp.advanceBy p _) hmax hrest

theorem length_rtpHeaderBytes_le (p : RtpPacketizer) (frame : EncodedFrame)
    (fields : RtpHeaderFields) :
    (rtpHeaderBytes fields (p.latencyExtension frame)).length ≤
      kRtpPacketOverheadWithLatencyExtension := by
  rw [Rtp.length_rtpHeaderBytes, RtpPacketizer.latencyExtension]
  split
  · simp [extensionSize, hasExtension, buildRtpLatencyHeaderExtension,
      serializeRtpLatencyExtension, kRtpHeaderSize, kRtpExtensionHeaderSize,
      kRtpPacketOverheadWithLatencyExtension, length_writeBe64]
    split <;> omega
  · simp [extensionSize, hasExtension, kRtpHeaderSize, kRtpPacketOverheadWithLatencyExtension]

/-- What `Validate` guarantees about the payload of an RTP packet. -/
theorem validate_rtpPayloadSize {transport : TransportConfig}
    (henabled : transport.enabled = true) (hrtp : transport.backend = "rtp")
    (h : validate transport = .ok ()) :
    64 ≤ transport.rtpMaxPayloadSize ∧
      transport.rtpMaxPayloadSize + kRtpPacketOverheadWithLatencyExtension ≤
        transport.udpMaxDatagramSize := by
  obtain ⟨hmin, -⟩ := validate_datagramSize henabled h
  have hoverhead : kRtpPacketOverheadWithLatencyExtension < transport.udpMaxDatagramSize :=
    Nat.lt_of_lt_of_le (by decide) hmin
  rw [validate, if_pos henabled] at h
  simp only [validateTransport, validateRtp, hrtp, if_pos hoverhead, bind_eq_ok, reject_eq_ok,
    Bool.or_eq_false_iff, decide_eq_false_iff_not, exists_const, beq_self_eq_true, if_true] at h
  obtain ⟨-, -, -, -, -, -, -, -, -, -, -, -, -, -, -, -, -, -, hsize, -⟩ := h
  omega

/-- The limits on the packets that one call of `packetize` builds. -/
def PacketsFit (cfg : TransportConfig) (p : RtpPacketizer) (frame : EncodedFrame) : Prop :=
  ∀ packets, (p.packetize (some frame)).2 = .ok packets → ∀ packet ∈ packets,
    PacketFits cfg (p.latencyExtension frame) packet

theorem packetsFit {p : RtpPacketizer} (hmax : p.maxPayloadSize = cfg.rtpMaxPayloadSize)
    (hlow : 64 ≤ cfg.rtpMaxPayloadSize)
    (hhigh : cfg.rtpMaxPayloadSize + kRtpPacketOverheadWithLatencyExtension ≤
      cfg.udpMaxDatagramSize) (frame : EncodedFrame) : PacketsFit cfg p frame := by
  intro packets hpackets packet hpacket
  rw [RtpPacketizer.packetize] at hpackets
  split at hpackets
  · simp at hpackets
  split at hpackets
  · simp at hpackets
  split at hpackets
  · simp at hpackets
  · obtain ⟨fields, payload, rfl, hpayload⟩ := packetizeNalus_packets
      (Rtp.latencyExtension_fits p frame) (by omega) hpackets packet hpacket
    have hheader := length_rtpHeaderBytes_le p frame fields
    refine ⟨?_, fields, payload, rfl, by omega⟩
    rw [List.length_append]
    omega

end

/-- What an accepted configuration guarantees for every frame: its datagrams fit, its
header fields are exact unless it has too many fragments, and so are its RTP packets. -/
theorem validate_packetSizes {cfg : TransportConfig} (henabled : cfg.enabled = true)
    (hvalid : validate cfg = .ok ()) (sent : SentFrame) (buffer : Bytes) :
    DatagramsFit cfg sent buffer ∧
      (fragmentCountSize cfg sent.frame ≤ 0xFFFF → LosslessHeaders cfg sent) ∧
      (cfg.backend = "rtp" → ∀ p : RtpPacketizer, p.maxPayloadSize = cfg.rtpMaxPayloadSize →
        PacketsFit cfg p sent.frame) := by
  obtain ⟨hmin, hlimit, htarget, -⟩ := validate_datagramSize henabled hvalid
  have hheader : headerSize = 68 := rfl
  refine ⟨datagramsFit (by omega) sent buffer, fun hcount => ?_, fun hrtp p hmax => ?_⟩
  · have hfragmentable : Fragmentable cfg sent.frame := ⟨by omega, by omega, hcount⟩
    exact losslessHeaders (Udp.sendable_of_validate henabled hvalid hfragmentable)
  · obtain ⟨hlow, hhigh⟩ := validate_rtpPayloadSize henabled hrtp hvalid
    exact packetsFit hmax hlow hhigh sent.frame

/-- An RTP backend with small datagrams. -/
def smallRtpConfig : TransportConfig :=
  { backend := "rtp", udpTargetPayloadSize := 256, udpMaxDatagramSize := 512
    rtpMaxPayloadSize := 100 }

/-- Its packetizer, before the sequence numbers wrap. -/
def smallPacketizer : RtpPacketizer where
  payloadType := 96
  clockRate := 90000
  maxPayloadSize := 100
  ssrc := 7
  enableLatencyExtension := true
  sequenceNumber := 65534

/-- A short NAL unit and a long one. -/
def longFrame : EncodedFrame :=
  .numbered 7 1000000 true
    ([0, 0, 0, 1, 0x67, 1, 2, 0, 0, 0, 1, 0x65] ++ List.replicate 250 9)

/-- The frame is cut into two UDP fragments, or into four RTP packets of which three are FU-A. -/
theorem longFrame_packetSizes :
    fragmentCountSize smallRtpConfig longFrame = 2 ∧
      ((smallPacketizer.packetize (some longFrame)).2.toOption.map List.length) = some 4 ∧
      DatagramsFit smallRtpConfig ⟨longFrame, 5⟩ [] ∧
      LosslessHeaders smallRtpConfig ⟨longFrame, 5⟩ ∧
      PacketsFit smallRtpConfig smallPacketizer longFrame := by
  have hcount : fragmentCountSize smallRtpConfig longFrame = 2 := by decide +kernel
  obtain ⟨hdatagrams, hheaders, hpackets⟩ :=
    validate_packetSizes (show smallRtpConfig.enabled = true from rfl) (by decide)
      ⟨longFrame, 5⟩ []
  exact ⟨hcount, by decide +kernel, hdatagrams, hheaders (by simp only [hcount]; decide),
    hpackets rfl smallPacketizer rfl⟩

end AvProject.Server
