import AvProject.Client.UdpInvariant
import AvProject.Server.UdpEmission

/-!
The datagrams of a frame as the client reads them: each passes the validity checks
and is read back as the headers and the piece of the payload that the server put
into it.
-/

namespace AvProject.Udp

open AvProject.Lib AvProject.Protocol AvProject.Client AvProject.Server

/-! ### Frames that fit their datagrams -/

/-- Largest body of a datagram that IPv4 can carry. -/
def maxBodySize : ℕ := 65507 - headerSize

/-- The frame passes the size tests and each of its fragments fits a datagram. -/
structure Sendable (cfg : TransportConfig) (frame : EncodedFrame) : Prop
    extends Fragmentable cfg frame where
  fragment_le : ∀ index, index < fragmentCountSize cfg frame →
    (fragmentPayload cfg frame index).length ≤ maxBodySize

namespace Sendable

variable {cfg : TransportConfig} {frame : EncodedFrame}

/-- The payload fits the 32-bit size field. -/
theorem length_lt (h : Sendable cfg frame) : frame.payload.length < 2 ^ 32 := by
  have hsize := h.maxFragmentPayloadSize_pos
  have hpos : 0 < fragmentCountSize cfg frame := pieceCount_pos hsize _
  have hcount := h.count_le
  obtain ⟨last, hlast⟩ : ∃ last, fragmentCountSize cfg frame = last + 1 :=
    ⟨_, (Nat.succ_pred_eq_of_pos hpos).symm⟩
  have hend : (piece (maxFragmentPayloadSize cfg) frame.payload last).length = _ :=
    length_piece_last hsize hlast.symm
  have htail := h.fragment_le last (by omega)
  rw [fragmentPayload, hend] at htail
  have hstart : last * maxFragmentPayloadSize cfg ≤ last * maxBodySize := by
    rcases Nat.eq_zero_or_pos last with rfl | hmany
    · simp
    · -- with several fragments the first one is full
      have hfull : (piece (maxFragmentPayloadSize cfg) frame.payload 0).length = _ :=
        length_piece_of_succ_lt hsize (show 0 + 1 < fragmentCountSize cfg frame by omega)
      have hfirst := h.fragment_le 0 hpos
      rw [fragmentPayload, hfull] at hfirst
      exact Nat.mul_le_mul_left last hfirst
  have hbody : maxBodySize = 65439 := rfl
  have hlastle : last * maxBodySize ≤ 65534 * maxBodySize :=
    Nat.mul_le_mul_right _ (by omega)
  omega

theorem offset_lt (h : Sendable cfg frame) {index : ℕ}
    (hindex : index < fragmentCountSize cfg frame) :
    index * maxFragmentPayloadSize cfg < 2 ^ 32 :=
  (mul_le_length h.maxFragmentPayloadSize_pos hindex).trans_lt h.length_lt

theorem count_lt (h : Sendable cfg frame) : fragmentCountSize cfg frame < 2 ^ 16 := by
  have hcount := h.count_le
  omega

theorem offset_add_length_le (h : Sendable cfg frame) {index : ℕ}
    (hindex : index < fragmentCountSize cfg frame) :
    index * maxFragmentPayloadSize cfg + (fragmentPayload cfg frame index).length ≤
      frame.payload.length :=
  mul_add_length_piece_le h.maxFragmentPayloadSize_pos hindex

/-- The parity block is no longer than the first fragment. -/
theorem length_parity_le (h : Sendable cfg frame) :
    (parity (maxFragmentPayloadSize cfg) frame.payload).length ≤ maxBodySize := by
  refine length_foldl_xorInto_le (by simp) fun block hblock => ?_
  obtain ⟨index, hindex, rfl⟩ := List.mem_map.mp hblock
  exact h.fragment_le index (List.mem_range.mp hindex)

end Sendable

/-- With an accepted configuration the size tests are enough. -/
theorem sendable_of_validate {cfg : TransportConfig} {frame : EncodedFrame}
    (henabled : cfg.enabled = true) (hvalid : validate cfg = .ok ())
    (h : Fragmentable cfg frame) : Sendable cfg frame where
  toFragmentable := h
  fragment_le := by
    intro index _
    obtain ⟨-, hmax, -⟩ := validate_datagramSize henabled hvalid
    have hpiece := length_piece_le (maxFragmentPayloadSize cfg) frame.payload index
    rw [fragmentPayload]
    simp only [maxFragmentPayloadSize, maxBodySize] at hpiece ⊢
    omega

theorem length_dataDatagram (cfg : TransportConfig) (sent : SentFrame) (index : ℕ) :
    (dataDatagram cfg sent index).length =
      headerSize + (fragmentPayload cfg sent.frame index).length := by
  rw [dataDatagram, buildDatagram, List.length_append, List.length_append,
    length_toBytes_buildMessageHeader, length_toBytes_udpFrameFragmentHeader, headerSize,
    Nat.add_assoc]

/-- A frame that was not rejected is one, whatever the configuration. -/
theorem sendable_of_sendFrameFragments {env : ServerEnv} (hsocket : env.RefusesOversized)
    {cfg : TransportConfig} {frame : EncodedFrame} {clients : List Endpoint}
    {transportSendNs cacheNs : UInt64} {st : UdpStreamingBackend}
    (h : (sendFrameFragments env cfg frame clients transportSendNs cacheNs st).2 = true) :
    Sendable cfg frame := by
  obtain ⟨hfragmentable, hlength⟩ := sendFrameFragments_accepted hsocket h
  refine ⟨hfragmentable, fun index hindex => ?_⟩
  have hfits := hlength index hindex
  rw [length_dataDatagram] at hfits
  rw [maxBodySize]
  exact Nat.le_sub_of_add_le' hfits

/-! ### Reading a datagram back -/

section

variable {cfg : TransportConfig} {sent : SentFrame}

theorem fragmentHeader_fits (cfg : TransportConfig) (sent : SentFrame)
    (role : UdpFragmentRole) {index : ℕ} (hindex : index < 2 ^ 16) (offset : ℕ) :
    (fragmentHeader cfg sent role index offset).Fits where
  frameSequence := sent.frame.sequence_lt
  captureTimestampNs := by
    simp only [fragmentHeader]
    split
    · exact sent.frame.captureTimestampNs_lt
    · norm_num
  encodeStartTimestampNs := by
    simp only [fragmentHeader]
    split
    · exact sent.frame.encodeStartTimestampNs_lt
    · norm_num
  encodeEndTimestampNs := by
    simp only [fragmentHeader]
    split
    · exact sent.frame.encodeEndTimestampNs_lt
    · norm_num
  transportSendTimestampNs := by
    simp only [fragmentHeader]
    split
    · exact sent.transportSendTimestampNs.toNat_lt
    · norm_num
  framePayloadSize := Nat.mod_lt _ (by norm_num)
  fragmentOffset := Nat.mod_lt _ (by norm_num)
  fragmentIndex := hindex
  fragmentCount := Nat.mod_lt _ (by norm_num)
  fragmentRole := by cases role <;> norm_num [fragmentHeader, UdpFragmentRole.code]
  reserved := by norm_num [fragmentHeader]

/-- The message header of a datagram with the given body. -/
def messageHeader (sent : SentFrame) (body : Bytes) : MessageHeader :=
  buildMessageHeader .kAvStream sent.frame.type.code (sizeofUdpFrameFragmentHeader + body.length)

theorem length_buildDatagram (sent : SentFrame) (fragment : UdpFrameFragmentHeader)
    (body : Bytes) : (buildDatagram sent fragment body).length = headerSize + body.length := by
  simp only [buildDatagram, List.length_append, length_toBytes_buildMessageHeader,
    length_toBytes_udpFrameFragmentHeader, headerSize]
  omega

/-- A datagram that the server builds is read back as it was built, if the checks
on the fragment header let it through. -/
theorem parseUdpDatagram_buildDatagram {fragment : UdpFrameFragmentHeader} {body : Bytes}
    (hfits : fragment.Fits) (hbody : body.length ≤ maxBodySize)
    (haccept : acceptsFragment (messageHeader sent body) fragment body = true) :
    parseUdpDatagram (buildDatagram sent fragment body) =
      some (messageHeader sent body, fragment, body) := by
  have hmessage : (messageHeader sent body).toBytes.length = sizeofMessageHeader :=
    length_toBytes_buildMessageHeader ..
  have hheader : MessageHeader.ofBytes (buildDatagram sent fragment body) =
      messageHeader sent body := MessageHeader.ofBytes_toBytes_append ..
  have hdrop : (buildDatagram sent fragment body).drop sizeofMessageHeader =
      fragment.toBytes ++ body := List.drop_left' hmessage
  have hfragment : UdpFrameFragmentHeader.ofBytes
      ((buildDatagram sent fragment body).drop sizeofMessageHeader) = fragment := by
    rw [hdrop, UdpFrameFragmentHeader.ofBytes_toBytes_append hfits]
  have hrest : (buildDatagram sent fragment body).drop
      (sizeofMessageHeader + sizeofUdpFrameFragmentHeader) = body := by
    rw [← List.drop_drop, hdrop]
    exact List.drop_left' (length_toBytes_udpFrameFragmentHeader fragment)
  have hlength : ¬(buildDatagram sent fragment body).length <
      sizeofMessageHeader + sizeofUdpFrameFragmentHeader := by
    rw [length_buildDatagram, headerSize]
    omega
  have hpayload : (messageHeader sent body).payloadLength =
      sizeofUdpFrameFragmentHeader + body.length := by
    simp only [maxBodySize, headerSize, sizeofMessageHeader,
      sizeofUdpFrameFragmentHeader] at hbody
    rw [messageHeader, buildMessageHeader, sizeofUdpFrameFragmentHeader]
    exact Nat.mod_eq_of_lt (by omega)
  have hmagic : acceptsHeader (messageHeader sent body) = true := by
    simp only [acceptsHeader, hpayload, Bool.and_eq_true, decide_eq_true_eq]
    refine ⟨⟨?_, ?_⟩, by omega⟩
    · exact hasValidMessageMagic_buildMessageHeader ..
    · simp [messageHeader, buildMessageHeader]
  rw [parseUdpDatagram, if_neg hlength]
  simp only [hheader, hfragment, hrest, hmagic, haccept, Bool.and_self, if_true]

/-- A data datagram is accepted and read back. -/
theorem parseUdpDatagram_dataDatagram (h : Sendable cfg sent.frame) {index : ℕ}
    (hindex : index < fragmentCountSize cfg sent.frame) :
    parseUdpDatagram (dataDatagram cfg sent index) =
      some (messageHeader sent (fragmentPayload cfg sent.frame index),
        dataHeader cfg sent index, fragmentPayload cfg sent.frame index) := by
  have hcount := h.count_lt
  have hbody := h.fragment_le index hindex
  have hinside := h.offset_add_length_le hindex
  refine parseUdpDatagram_buildDatagram (fragmentHeader_fits cfg sent _ (by omega) _) hbody ?_
  simp only [acceptsFragment, dataHeader, fragmentHeader, UdpFragmentRole.code,
    messageHeader, buildMessageHeader, Nat.mod_eq_of_lt hcount,
    Nat.mod_eq_of_lt (h.offset_lt hindex), Nat.mod_eq_of_lt h.length_lt]
  simp only [maxBodySize, headerSize, sizeofMessageHeader, sizeofUdpFrameFragmentHeader] at *
  simp only [Bool.and_eq_true, Bool.not_eq_true', Bool.or_eq_false_iff, beq_iff_eq,
    beq_eq_false_iff_ne, decide_eq_false_iff_not, Bool.and_eq_false_iff]
  refine ⟨⟨⟨⟨?_, ?_⟩, ?_⟩, ?_⟩, ?_⟩ <;> omega

/-- So is the parity datagram. -/
theorem parseUdpDatagram_parityDatagram (h : Sendable cfg sent.frame) {fecPayload : Bytes}
    (hbody : fecPayload.length ≤ maxBodySize) :
    parseUdpDatagram (parityDatagram cfg sent fecPayload) =
      some (messageHeader sent fecPayload, parityHeader cfg sent, fecPayload) := by
  have hcount := h.count_lt
  have hpos : 0 < fragmentCountSize cfg sent.frame :=
    pieceCount_pos h.maxFragmentPayloadSize_pos _
  refine parseUdpDatagram_buildDatagram (fragmentHeader_fits cfg sent _ (by norm_num) _) hbody ?_
  simp only [acceptsFragment, parityHeader, fragmentHeader, UdpFragmentRole.code,
    messageHeader, buildMessageHeader, Nat.mod_eq_of_lt hcount]
  simp only [maxBodySize, headerSize, sizeofMessageHeader, sizeofUdpFrameFragmentHeader] at *
  simp only [Bool.and_eq_true, Bool.not_eq_true', Bool.or_eq_false_iff, beq_iff_eq,
    beq_eq_false_iff_ne, decide_eq_false_iff_not, Bool.and_eq_false_iff]
  refine ⟨⟨⟨⟨?_, ?_⟩, ?_⟩, ?_⟩, ?_⟩ <;> omega

/-! ### Truncated datagrams -/

/-- The message header only depends on the first bytes. -/
theorem ofBytes_take_messageHeader (data : Bytes) {length : ℕ}
    (h : sizeofMessageHeader ≤ length) :
    MessageHeader.ofBytes (data.take length) = MessageHeader.ofBytes data := by
  rw [sizeofMessageHeader] at h
  have hread (offset width : ℕ) (hle : offset + width ≤ length) :
      ((data.take length).drop offset).take width = (data.drop offset).take width := by
    rw [List.drop_take, List.take_take, Nat.min_eq_left (by omega)]
  have hmagic : (data.take length).take 4 = data.take 4 := by
    rw [List.take_take, Nat.min_eq_left (by omega)]
  simp only [MessageHeader.ofBytes, takeLe, List.drop_drop, hmagic,
    hread 4 2 (by omega), hread (4 + 2) 2 (by omega), hread (4 + 2 + 2) 4 (by omega)]

/-- The parts of an accepted datagram, and the length that its header states. -/
theorem parseUdpDatagram_parts {data : Bytes} {header : MessageHeader}
    {fragment : UdpFrameFragmentHeader} {body : Bytes}
    (h : parseUdpDatagram data = some (header, fragment, body)) :
    headerSize ≤ data.length ∧ header = MessageHeader.ofBytes data ∧
      body = data.drop headerSize ∧
      body.length + sizeofUdpFrameFragmentHeader = header.payloadLength := by
  unfold parseUdpDatagram at h
  split at h
  · simp at h
  rename_i hlong
  simp only at h
  split at h
  · rename_i haccept
    simp only [Option.some.injEq, Prod.mk.injEq] at h
    obtain ⟨rfl, rfl, rfl⟩ := h
    refine ⟨not_lt.mp hlong, rfl, rfl, ?_⟩
    simp only [acceptsFragment, Bool.and_eq_true, beq_iff_eq] at haccept
    exact haccept.2.1.2
  · simp at h

/-- A datagram that the receive buffer has cut short does not pass the checks. -/
theorem parseUdpDatagram_take {data : Bytes} {length : ℕ}
    {parts parts' : MessageHeader × UdpFrameFragmentHeader × Bytes}
    (h : parseUdpDatagram data = some parts)
    (htake : parseUdpDatagram (data.take length) = some parts') : parts' = parts := by
  obtain ⟨header, fragment, body⟩ := parts
  obtain ⟨header', fragment', body'⟩ := parts'
  obtain ⟨hlong, hheader, hbody, hlength⟩ := parseUdpDatagram_parts h
  obtain ⟨hlong', hheader', hbody', hlength'⟩ := parseUdpDatagram_parts htake
  have hle : headerSize ≤ length := by
    rw [List.length_take] at hlong'
    omega
  have hsame : header' = header := by
    rw [hheader', hheader]
    exact ofBytes_take_messageHeader data (by
      simp only [headerSize, sizeofMessageHeader] at hle ⊢
      omega)
  -- both headers state the same length, so nothing was cut off
  rw [hsame, ← hlength, hbody, hbody', List.length_drop, List.length_drop,
    List.length_take] at hlength'
  have hwhole : data.take length = data := List.take_of_length_le (by omega)
  rw [hwhole, h, Option.some.injEq] at htake
  exact htake.symm

end

end AvProject.Udp
