import AvProject.Rtp.Payload
import AvProject.Server.RtpPacketizer

/-!
The packets of a frame: the payloads spell its NAL units, the sequence numbers go up
by one, and the last packet has the marker.
-/

namespace AvProject.Rtp

open AvProject.Lib AvProject.Protocol AvProject.Server

/-! ### Fragments of a NAL unit -/

/-- The payload of the fragment at `offset`. -/
def fragmentPayload (nalu : Bytes) (capacity offset : ℕ) : Bytes :=
  let chunkSize := min capacity (nalu.length - offset)
  fuIndicator (byteAt nalu 0) ::
    fuHeader (byteAt nalu 0) (offset = 1) (nalu.length ≤ offset + chunkSize) ::
      sliceAt nalu offset chunkSize

/-- The payloads of the fragments from `offset` on. -/
def fragmentPayloads (nalu : Bytes) (capacity : ℕ) : ℕ → ℕ → List Bytes
  | 0, _ => []
  | fuel + 1, offset =>
      if offset < nalu.length then
        fragmentPayload nalu capacity offset ::
          fragmentPayloads nalu capacity fuel (offset + min capacity (nalu.length - offset))
      else []

/-- The payloads that a NAL unit is sent in. -/
def naluPayloads (maxPayloadSize : ℕ) (nalu : Bytes) : List Bytes :=
  if nalu.length ≤ maxPayloadSize then [nalu]
  else fragmentPayloads nalu (maxPayloadSize - 2) nalu.length 1

theorem nalType_fuIndicator (naluHeader : UInt8) :
    fuIndicator naluHeader &&& 0x1F = kH264FuAType := by
  rw [fuIndicator, kH264FuAType]
  apply UInt8.toBitVec_inj.mp
  ext i hi
  interval_cases i <;> simp

theorem fuHeader_first (naluHeader : UInt8) (first last : Bool) :
    fuHeader naluHeader first last &&& 0x80 = if first then 0x80 else 0 := by
  rw [fuHeader]
  apply UInt8.toBitVec_inj.mp
  ext i hi
  cases first <;> cases last <;> interval_cases i <;> simp

theorem fuHeader_last (naluHeader : UInt8) (first last : Bool) :
    fuHeader naluHeader first last &&& 0x40 = if last then 0x40 else 0 := by
  rw [fuHeader]
  apply UInt8.toBitVec_inj.mp
  ext i hi
  cases first <;> cases last <;> interval_cases i <;> simp

/-- The header of the NAL unit is put together again from its two parts. -/
theorem reconstructed_naluHeader (naluHeader : UInt8) (first last : Bool) :
    (fuIndicator naluHeader &&& 0xE0) ||| (fuHeader naluHeader first last &&& 0x1F) =
      naluHeader := by
  rw [fuIndicator, fuHeader, kH264FuAType]
  apply UInt8.toBitVec_inj.mp
  ext i hi
  cases first <;> cases last <;> interval_cases i <;> simp

section

variable {nalu : Bytes} {capacity offset : ℕ}

theorem nalType_fragmentPayload : nalType (fragmentPayload nalu capacity offset) = kH264FuAType :=
  nalType_fuIndicator _

theorem byteAt_one_fragmentPayload :
    byteAt (fragmentPayload nalu capacity offset) 1 = fuHeader (byteAt nalu 0) (offset = 1)
      (nalu.length ≤ offset + min capacity (nalu.length - offset)) := rfl

theorem continuesNalu_fragmentPayload :
    ContinuesNalu (fragmentPayload nalu capacity offset) ↔ offset ≠ 1 := by
  rw [ContinuesNalu, nalType_fragmentPayload, byteAt_one_fragmentPayload, fuHeader_first]
  by_cases h : offset = 1 <;> simp [h]

theorem leavesNaluOpen_fragmentPayload :
    LeavesNaluOpen (fragmentPayload nalu capacity offset) ↔
      offset + min capacity (nalu.length - offset) < nalu.length := by
  rw [LeavesNaluOpen, nalType_fragmentPayload, byteAt_one_fragmentPayload, fuHeader_last,
    ← Nat.not_le]
  by_cases h : nalu.length ≤ offset + min capacity (nalu.length - offset)
  · rw [decide_eq_true h]
    simp [h]
  · rw [decide_eq_false h]
    simp [h]

theorem startsAndEnds_fragmentPayload (h : StartsAndEnds (fragmentPayload nalu capacity offset)) :
    offset = 1 ∧ nalu.length ≤ offset + min capacity (nalu.length - offset) := by
  obtain ⟨htype, hfirst, hlast⟩ := h
  constructor
  · by_contra hne
    exact hfirst (continuesNalu_fragmentPayload.mpr hne).2
  · by_contra hlt
    exact hlast (leavesNaluOpen_fragmentPayload.mpr (by omega)).2

theorem wellFormed_fragmentPayload (hcapacity : 0 < capacity) (hoffset : offset < nalu.length) :
    WellFormed (fragmentPayload nalu capacity offset) := by
  refine .inr ⟨nalType_fragmentPayload, ?_⟩
  simp only [fragmentPayload, List.length_cons]
  rw [length_sliceAt (by omega)]
  omega

/-- What the fragments from `offset` on add to the frame. -/
def fragmentBytes (nalu : Bytes) (offset : ℕ) : Bytes :=
  (if offset = 1 then [0, 0, 0, 1] ++ [byteAt nalu 0] else []) ++ nalu.drop offset

theorem naluBytes_fragmentPayload_append :
    naluBytes (fragmentPayload nalu capacity offset) ++
        nalu.drop (offset + min capacity (nalu.length - offset)) =
      fragmentBytes nalu offset := by
  have hrest : sliceAt nalu offset (min capacity (nalu.length - offset)) ++
      nalu.drop (offset + min capacity (nalu.length - offset)) = nalu.drop offset := by
    rw [sliceAt, ← List.drop_drop, List.take_append_drop]
  rw [naluBytes, if_pos nalType_fragmentPayload, byteAt_one_fragmentPayload, fuHeader_first,
    fragmentBytes]
  by_cases hfirst : offset = 1
  · have hheader := reconstructed_naluHeader (byteAt nalu 0) (offset = 1)
      (nalu.length ≤ offset + min capacity (nalu.length - offset))
    rw [decide_eq_true hfirst] at hheader ⊢
    rw [if_pos hfirst, ← hrest]
    simp [fragmentPayload, hfirst] at hheader ⊢
    exact hheader
  · rw [decide_eq_false hfirst, if_neg hfirst, ← hrest]
    simp [fragmentPayload]

/-- The fragments from one offset on spell the rest of the NAL unit. -/
theorem fragmentPayloads_spells (hcapacity : 0 < capacity)
    (hlong : capacity + 1 < nalu.length) {fuel : ℕ} (hoffset : 0 < offset)
    (hlt : offset < nalu.length) (hfuel : nalu.length - offset ≤ fuel) :
    Spells (offset ≠ 1) (fragmentPayloads nalu capacity fuel offset)
      (fragmentBytes nalu offset) := by
  induction fuel generalizing offset with
  | zero => omega
  | succ fuel ih =>
      have hwellFormed := wellFormed_fragmentPayload hcapacity hlt
      have hfirst : ContinuesNalu (fragmentPayload nalu capacity offset) ↔
          decide (offset ≠ 1) = true := by
        rw [continuesNalu_fragmentPayload, decide_eq_true_iff]
      have hboth : ¬StartsAndEnds (fragmentPayload nalu capacity offset) := by
        intro h
        obtain ⟨hone, hend⟩ := startsAndEnds_fragmentPayload h
        omega
      rw [fragmentPayloads, if_pos hlt, ← naluBytes_fragmentPayload_append]
      by_cases hmore : offset + min capacity (nalu.length - offset) < nalu.length
      · -- the fragment is not the last one
        have hrest := ih (by omega) hmore (by omega)
        have hlater : offset + min capacity (nalu.length - offset) ≠ 1 := by omega
        rw [decide_eq_true hlater, fragmentBytes, if_neg hlater, List.nil_append] at hrest
        exact hrest.cons hwellFormed hboth hfirst (leavesNaluOpen_fragmentPayload.mpr hmore)
      · have hdrop : nalu.drop (offset + min capacity (nalu.length - offset)) = [] :=
          List.drop_of_length_le (by omega)
        have hnone : fragmentPayloads nalu capacity fuel
            (offset + min capacity (nalu.length - offset)) = [] := by
          cases fuel with
          | zero => rfl
          | succ fuel => rw [fragmentPayloads, if_neg hmore]
        rw [hdrop, hnone, List.append_nil]
        exact .singleton hwellFormed hboth hfirst
          fun hopen => hmore (leavesNaluOpen_fragmentPayload.mp hopen)

/-- A NAL unit of a type that H.264 itself defines. -/
def Sendable (nalu : Bytes) : Prop := 0 < nalType nalu ∧ nalType nalu < 24

instance (nalu : Bytes) : Decidable (Sendable nalu) := inferInstanceAs (Decidable (_ ∧ _))

/-- The payloads of a NAL unit spell it. -/
theorem naluPayloads_spells {maxPayloadSize : ℕ} (hmax : 2 < maxPayloadSize)
    (hnalu : Sendable nalu) :
    Spells false (naluPayloads maxPayloadSize nalu) ([0, 0, 0, 1] ++ nalu) := by
  obtain ⟨hpos, hlt⟩ := hnalu
  have htype : nalType nalu ≠ kH264FuAType := by
    intro heq
    rw [heq] at hlt
    exact absurd hlt (by decide)
  rw [naluPayloads]
  split
  · have hbytes : naluBytes nalu = [0, 0, 0, 1] ++ nalu := if_neg htype
    rw [← hbytes]
    exact .singleton (.inl ⟨hpos, hlt⟩) (fun h => htype h.1)
      ⟨fun h => absurd h.1 htype, fun h => absurd h Bool.false_ne_true⟩ (fun h => htype h.1)
  · rename_i hlong
    have hspells : Spells (decide (1 ≠ 1))
        (fragmentPayloads nalu (maxPayloadSize - 2) nalu.length 1) (fragmentBytes nalu 1) :=
      fragmentPayloads_spells (by omega) (by omega) Nat.one_pos (by omega) (by omega)
    obtain ⟨naluHeader, rest, rfl⟩ := List.exists_cons_of_length_pos (show 0 < nalu.length by omega)
    simpa [fragmentBytes] using hspells

/-- The payloads of several NAL units, none of them open in between. -/
theorem flatMap_naluPayloads_spells {maxPayloadSize : ℕ} (hmax : 2 < maxPayloadSize)
    {nalus : List Bytes} (hne : nalus ≠ []) (hnalus : ∀ nalu ∈ nalus, Sendable nalu) :
    Spells false (nalus.flatMap (naluPayloads maxPayloadSize)) (annexB nalus) := by
  induction nalus with
  | nil => exact absurd rfl hne
  | cons nalu nalus ih =>
      obtain ⟨hnalu, hrest⟩ := List.forall_mem_cons.mp hnalus
      have hspells := naluPayloads_spells hmax hnalu
      cases nalus with
      | nil => simpa [annexB] using hspells
      | cons next nalus => exact hspells.append (ih (List.cons_ne_nil _ _) hrest)

end

/-! ### Packets of a frame -/

/-- The packetizer after `n` more packets. -/
def advanceBy (p : RtpPacketizer) (n : ℕ) : RtpPacketizer :=
  { p with sequenceNumber := p.sequenceNumber + UInt16.ofNat n }

/-- The packets with these payloads; the last of them has the marker if `marker`. -/
def packets (timestamp : UInt32) (extension : Option RtpHeaderExtension) (marker : Bool) :
    RtpPacketizer → List Bytes → List Bytes
  | _, [] => []
  | p, payload :: payloads =>
      (rtpHeaderBytes (p.headerFields (marker && payloads.isEmpty) timestamp) extension ++
          payload) ::
        packets timestamp extension marker p.advance payloads

@[simp] theorem advanceBy_zero (p : RtpPacketizer) : advanceBy p 0 = p := by
  simp [advanceBy]

theorem advanceBy_one (p : RtpPacketizer) : advanceBy p 1 = p.advance := rfl

theorem advanceBy_advance (p : RtpPacketizer) (n : ℕ) :
    advanceBy p.advance n = advanceBy p (n + 1) := by
  simp only [advanceBy, RtpPacketizer.advance, UInt16.ofNat_add]
  congr 1
  rw [UInt16.add_assoc, UInt16.add_comm 1]
  rfl

theorem advanceBy_advanceBy (p : RtpPacketizer) (m n : ℕ) :
    advanceBy (advanceBy p m) n = advanceBy p (m + n) := by
  simp only [advanceBy, UInt16.ofNat_add, UInt16.add_assoc]

section

variable {timestamp : UInt32} {extension : Option RtpHeaderExtension} {marker : Bool}

@[simp] theorem length_packets (p : RtpPacketizer) (payloads : List Bytes) :
    (packets timestamp extension marker p payloads).length = payloads.length := by
  induction payloads generalizing p with
  | nil => rfl
  | cons payload payloads ih => rw [packets, List.length_cons, List.length_cons, ih]

/-- The marker is for the last packet of all. -/
theorem packets_append (p : RtpPacketizer) (payloads : List Bytes) {payloads' : List Bytes}
    (hne : payloads' ≠ []) :
    packets timestamp extension marker p (payloads ++ payloads') =
      packets timestamp extension false p payloads ++
        packets timestamp extension marker (advanceBy p payloads.length) payloads' := by
  induction payloads generalizing p with
  | nil => simp [packets]
  | cons payload payloads ih =>
      have hmore : (payloads ++ payloads').isEmpty = false := by simp [hne]
      rw [List.cons_append, packets, packets, ih, hmore, advanceBy_advance, List.length_cons,
        List.cons_append, Bool.and_false, Bool.false_and]

/-- The fixed fields, written into a buffer one after the other. -/
theorem writeAt_fixed (buffer : Bytes) (fields : RtpHeaderFields) (extended : Bool) :
    writeAt (writeAt (writeAt (writeAt (writeAt buffer 0 [rtpFlagsByte extended])
      1 [rtpTypeByte fields]) 2 (writeBe16 fields.sequenceNumber))
      4 (writeBe32 fields.timestamp)) 8 (writeBe32 fields.ssrc) =
      rtpFixedBytes fields extended ++ buffer.drop kRtpHeaderSize := by
  have hflags : writeAt buffer 0 [rtpFlagsByte extended] =
      [rtpFlagsByte extended] ++ buffer.drop 1 :=
    writeAt_append [] buffer [rtpFlagsByte extended] List.length_nil
  rw [hflags, writeAt_append _ _ _ (by simp), writeAt_append _ _ _ (by simp),
    writeAt_append _ _ _ (by simp), writeAt_append _ _ _ (by simp)]
  simp [rtpFixedBytes, kRtpHeaderSize]

/-- A header written into a buffer, and what the buffer holds behind it. -/
theorem writeRtpHeaderToBuffer_eq (buffer : Bytes) (fields : RtpHeaderFields)
    (extension : Option RtpHeaderExtension) :
    writeRtpHeaderToBuffer buffer fields extension =
      rtpHeaderBytes fields extension ++
        buffer.drop (kRtpHeaderSize + extensionSize extension) := by
  simp only [writeRtpHeaderToBuffer, writeAt_fixed]
  cases extension with
  | none => simp [rtpHeaderBytes, hasExtension, extensionSize]
  | some e =>
      cases hhas : hasExtension (some e) with
      | false => simp [rtpHeaderBytes, hhas, extensionSize]
      | true =>
          have hfixed := length_rtpFixedBytes fields true
          simp only [extensionSize, hhas, if_true, Option.elim, rtpHeaderBytes]
          rw [writeAt_append _ _ _ hfixed, writeAt_append _ _ _ (by simp),
            writeAt_append _ _ _ (by simp)]
          simp only [rtpExtensionBytes, List.append_assoc, List.drop_drop, length_writeBe16,
            kRtpExtensionHeaderSize]
          rw [show kRtpHeaderSize + 2 + 2 + e.payload.length =
            kRtpHeaderSize + (4 + e.payload.length) by omega]

theorem length_rtpHeaderBytes (fields : RtpHeaderFields)
    (extension : Option RtpHeaderExtension) :
    (rtpHeaderBytes fields extension).length = kRtpHeaderSize + extensionSize extension := by
  rw [rtpHeaderBytes, List.length_append, length_rtpFixedBytes, extensionSize]
  cases extension with
  | none => simp [hasExtension]
  | some e =>
      split
      · simp [length_rtpExtensionBytes]
      · rfl

/-- A fragment's packet is its header and its payload, as with a single NAL unit. -/
theorem buildFragmentPacket_eq (fields : RtpHeaderFields)
    (extension : Option RtpHeaderExtension) (indicator header : UInt8) (chunk : Bytes) :
    buildFragmentPacket fields extension indicator header chunk =
      rtpHeaderBytes fields extension ++ (indicator :: header :: chunk) := by
  have hlength := length_rtpHeaderBytes fields extension
  simp only [buildFragmentPacket]
  rw [Nat.add_assoc _ 2, writeRtpHeaderToBuffer_eq, List.drop_replicate, Nat.add_sub_cancel_left,
    writeAt_append_replicate (1 + chunk.length) hlength (by simp; omega),
    writeAt_append_replicate chunk.length (by simp [hlength]) (by simp),
    writeAt_append_replicate 0 (by simp [hlength]) (by simp)]
  simp

theorem isEmpty_fragmentPayloads {nalu : Bytes} {capacity fuel offset : ℕ}
    (hfuel : nalu.length - offset ≤ fuel) :
    (fragmentPayloads nalu capacity fuel offset).isEmpty = decide (nalu.length ≤ offset) := by
  cases fuel with
  | zero =>
      rw [decide_eq_true (by omega)]
      rfl
  | succ fuel =>
      rw [fragmentPayloads]
      split
      · rw [decide_eq_false (by omega)]
        rfl
      · rw [decide_eq_true (by omega)]
        rfl

/-- The loop over the fragments of a unit yields the packets with their payloads. -/
theorem fragmentLoop_eq {nalu : Bytes} {capacity fuel offset : ℕ} (hcapacity : 0 < capacity)
    (hfuel : nalu.length - offset ≤ fuel) (p : RtpPacketizer) :
    RtpPacketizer.fragmentLoop timestamp extension nalu marker capacity fuel p offset =
      (advanceBy p (fragmentPayloads nalu capacity fuel offset).length,
        packets timestamp extension marker p (fragmentPayloads nalu capacity fuel offset)) := by
  induction fuel generalizing p offset with
  | zero => simp [RtpPacketizer.fragmentLoop, fragmentPayloads, packets]
  | succ fuel ih =>
      rw [RtpPacketizer.fragmentLoop, fragmentPayloads]
      split
      · rename_i hlt
        have hfuel' : nalu.length - (offset + min capacity (nalu.length - offset)) ≤ fuel := by
          omega
        simp only
        rw [ih hfuel' p.advance, packets, isEmpty_fragmentPayloads hfuel', buildFragmentPacket_eq,
          List.length_cons, advanceBy_advance]
        rfl
      · simp [packets]

theorem buildRtpPacketInto_of_fits (fields : RtpHeaderFields)
    (hfits : ∀ e ∈ extension, e.Fits) (payload : Bytes) :
    buildRtpPacketInto fields extension payload =
      some (rtpHeaderBytes fields extension ++ payload) := by
  have hwords : (hasExtension extension &&
      (extension.elim 0 fun e => e.payload.length % 4) != 0) = false := by
    cases extension with
    | none => rfl
    | some e => simp [(hfits e rfl).1]
  rw [buildRtpPacketInto, writeRtpHeader, hwords, if_neg Bool.false_ne_true, Option.map_some]

theorem packetizeFragmentedNalu_eq {nalu : Bytes} (p : RtpPacketizer)
    (hmax : 2 < p.maxPayloadSize) (hlong : p.maxPayloadSize < nalu.length) :
    RtpPacketizer.packetizeFragmentedNalu timestamp extension p nalu marker =
      (advanceBy p (naluPayloads p.maxPayloadSize nalu).length,
        .ok (packets timestamp extension marker p (naluPayloads p.maxPayloadSize nalu))) := by
  rw [RtpPacketizer.packetizeFragmentedNalu, if_neg (by omega), naluPayloads,
    if_neg (by omega)]
  simp only
  rw [if_neg (by omega), fragmentLoop_eq (by omega) (by omega)]

/-- The packets of a unit and those of the units after it. -/
theorem packets_cons_nalu {nalu : Bytes} {nalus : List Bytes} (p : RtpPacketizer)
    (hmax : 2 < p.maxPayloadSize) (hnalus : ∀ nalu ∈ nalus, Sendable nalu) :
    packets timestamp extension nalus.isEmpty p (naluPayloads p.maxPayloadSize nalu) ++
        packets timestamp extension true
          (advanceBy p (naluPayloads p.maxPayloadSize nalu).length)
          (nalus.flatMap (naluPayloads p.maxPayloadSize)) =
      packets timestamp extension true p
        (naluPayloads p.maxPayloadSize nalu ++
          nalus.flatMap (naluPayloads p.maxPayloadSize)) := by
  cases nalus with
  | nil => simp [packets]
  | cons next nalus =>
      have hspells := flatMap_naluPayloads_spells hmax (List.cons_ne_nil next nalus) hnalus
      rw [packets_append p _ hspells.ne_nil]
      rfl

/-- The loop over the NAL units yields the packets of all their payloads. -/
theorem packetizeNalus_eq (timestamp : UInt32) (hfits : ∀ e ∈ extension, e.Fits)
    {nalus : List Bytes} (p : RtpPacketizer) (hmax : 2 < p.maxPayloadSize)
    (hnalus : ∀ nalu ∈ nalus, Sendable nalu) :
    RtpPacketizer.packetizeNalus timestamp extension p nalus =
      (advanceBy p (nalus.flatMap (naluPayloads p.maxPayloadSize)).length,
        .ok (packets timestamp extension true p
          (nalus.flatMap (naluPayloads p.maxPayloadSize)))) := by
  induction nalus generalizing p with
  | nil => simp [RtpPacketizer.packetizeNalus, packets]
  | cons nalu nalus ih =>
      obtain ⟨hnalu, hrest⟩ := List.forall_mem_cons.mp hnalus
      have hrec := ih (advanceBy p (naluPayloads p.maxPayloadSize nalu).length) hmax hrest
      rw [RtpPacketizer.packetizeNalus, List.flatMap_cons, List.length_append,
        ← advanceBy_advanceBy, ← packets_cons_nalu p hmax hrest]
      split
      · rename_i hshort
        have hone : naluPayloads p.maxPayloadSize nalu = [nalu] := if_pos hshort
        rw [hone, List.length_singleton, advanceBy_one] at hrec ⊢
        rw [RtpPacketizer.packetizeSingleNalu, buildRtpPacketInto_of_fits _ hfits]
        simp only [hrec]
        rw [packets, packets, List.isEmpty_nil, Bool.and_true]
        rfl
      · rename_i hlong
        rw [packetizeFragmentedNalu_eq p hmax (by omega)]
        simp only [hrec]
        rfl

end

/-- The payloads that a frame is sent in. -/
def framePayloads (p : RtpPacketizer) (frame : EncodedFrame) : List Bytes :=
  (splitAnnexBNalus frame.payload).flatMap (naluPayloads p.maxPayloadSize)

/-- The packets of a frame, for a packetizer that is ready to send the first of them. -/
def framePackets (p : RtpPacketizer) (frame : EncodedFrame) : List Bytes :=
  packets (p.buildTimestamp frame) (p.latencyExtension frame) true p (framePayloads p frame)

/-- A frame that the packetizer does not refuse. -/
def Accepts (p : RtpPacketizer) (frame : EncodedFrame) : Prop :=
  frame.type = .kVideo ∧ 2 < p.maxPayloadSize ∧ splitAnnexBNalus frame.payload ≠ []

theorem latencyExtension_fits (p : RtpPacketizer) (frame : EncodedFrame) :
    ∀ e ∈ p.latencyExtension frame, e.Fits := by
  intro e he
  rw [RtpPacketizer.latencyExtension] at he
  split at he
  · obtain rfl := Option.some.inj he
    exact buildRtpLatencyHeaderExtension_fits _
  · simp at he

section

variable {p : RtpPacketizer} {frame : EncodedFrame}

theorem packetize_of_accepts (haccepts : Accepts p frame)
    (hsendable : ∀ nalu ∈ splitAnnexBNalus frame.payload, Sendable nalu) :
    p.packetize (some frame) =
      (advanceBy p (framePackets p frame).length, .ok (framePackets p frame)) := by
  obtain ⟨hvideo, hmax, hne⟩ := haccepts
  have heq := packetizeNalus_eq (p.buildTimestamp frame) (latencyExtension_fits p frame) p hmax
    hsendable
  simp only [RtpPacketizer.packetize]
  rw [if_neg (not_not.mpr hvideo), if_neg (by omega)]
  rw [framePackets, length_packets, framePayloads]
  split
  · exact absurd ‹_› hne
  · rename_i nalu nalus hsplit
    rw [hsplit] at heq ⊢
    exact heq

theorem packetize_of_not_accepts (haccepts : ¬Accepts p frame) :
    ∃ message, p.packetize (some frame) = (p, .error message) := by
  simp only [RtpPacketizer.packetize]
  split
  · exact ⟨_, rfl⟩
  rename_i hvideo
  split
  · exact ⟨_, rfl⟩
  rename_i hmax
  split
  · exact ⟨_, rfl⟩
  · rename_i nalu nalus hsplit
    refine absurd ⟨not_not.mp hvideo, by omega, ?_⟩ haccepts
    rw [hsplit]
    exact List.cons_ne_nil _ _

end

/-- The packets of every frame in turn; a frame that is refused has none. -/
def sentPackets : RtpPacketizer → List EncodedFrame → List (List Bytes)
  | _, [] => []
  | p, frame :: frames =>
      let (p, result) := p.packetize (some frame)
      result.toOption.getD [] :: sentPackets p frames

end AvProject.Rtp
