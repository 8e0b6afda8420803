import AvProject.Client.StreamClientRtp
import AvProject.Rtp.FrameStream

/-!
What the assembly of `ReceiveRtpFrame` holds after some of the packets of a frame: it
is undamaged exactly if the receiver can see no gap between them.
-/

namespace AvProject.Rtp

open AvProject.Lib AvProject.Protocol AvProject.Client

/-- The receiver takes `next` for the packet right after this one. -/
def Joins (packet next : RtpPacket) : Prop :=
  Consecutive packet next ∧ Follows packet.payload next.payload

instance (packet next : RtpPacket) : Decidable (Joins packet next) :=
  inferInstanceAs (Decidable (_ ∧ _))

/-- Packets without a gap that the receiver can see. -/
structure Seamless (arrived : List RtpPacket) : Prop where
  first : ∀ packet ∈ arrived.head?, ¬ContinuesNalu packet.payload
  chain : arrived.IsChain Joins

/-! ### One packet -/

/-- The assembly is that of the frame of this packet, and this was the last one. -/
structure Tracks (a : RtpFrameAssembly) (packet : RtpPacket) : Prop where
  active : a.active = true
  timestamp : a.timestamp = packet.fields.timestamp
  ssrc : a.ssrc = packet.fields.ssrc
  hasSequence : a.hasSequenceNumber = true
  next : a.nextSequenceNumber = packet.fields.sequenceNumber + 1

/-- The assembly is of another frame than this packet, or of none. -/
def Foreign (a : RtpFrameAssembly) (packet : RtpPacket) : Prop :=
  a.active = false ∨ a.timestamp ≠ packet.fields.timestamp ∨ a.ssrc ≠ packet.fields.ssrc

/-- What the metadata of the sender does not touch. -/
theorem trackSenderMetadata_eq (cfg : ClientConfig) (a : RtpFrameAssembly)
    (extension : RtpHeaderExtension) :
    ∃ capture send available invalid,
      trackSenderMetadata cfg a extension =
        { a with
          captureTimestampNs := capture
          transportSendTimestampNs := send
          senderMetadataAvailable := available
          senderMetadataInvalid := invalid } := by
  simp only [trackSenderMetadata]
  split
  · split
    · exact ⟨_, _, _, _, rfl⟩
    · split
      · exact ⟨_, _, _, _, rfl⟩
      split
      · exact ⟨_, _, _, _, rfl⟩
      split
      · exact ⟨_, _, _, _, rfl⟩
      · exact ⟨_, _, _, _, rfl⟩
  · exact ⟨_, _, _, _, rfl⟩

/-- The branch of `appendRtpPayload` for fragments. -/
theorem appendRtpPayload_of_fragment (a : RtpFrameAssembly) {payload : Bytes}
    (htype : nalType payload = kH264FuAType) (hlength : 2 < payload.length) :
    appendRtpPayload a payload =
      if byteAt payload 1 &&& 0x80 != 0 then
        { a with
          payload := appendAnnexBStartCode a.payload ++
            [(byteAt payload 0 &&& 0xE0) ||| (byteAt payload 1 &&& 0x1F)] ++ payload.drop 2
          fuInProgress := !(byteAt payload 1 &&& 0x40 != 0) }
      else if !a.fuInProgress then a.damage
      else
        { a with
          payload := a.payload ++ payload.drop 2
          fuInProgress := if byteAt payload 1 &&& 0x40 != 0 then false else a.fuInProgress } := by
  have hne : payload ≠ [] := List.ne_nil_of_length_pos (by omega)
  have hsingle : ¬(0 < nalType payload ∧ nalType payload < 24) := by
    rw [htype]
    decide
  have hshort : decide (payload.length ≤ 2) = false := decide_eq_false (by omega)
  simp only [appendRtpPayload]
  rw [if_neg hne, if_neg hsingle, if_pos ⟨htype, hlength.le⟩, hshort, Bool.or_false,
    if_neg (show ¬payload.length ≤ 2 by omega)]

/-- A payload that fits goes to the end of the frame. -/
theorem appendRtpPayload_of_follows {a : RtpFrameAssembly} {payload : Bytes}
    (hwellFormed : WellFormed payload) (hfollows : ContinuesNalu payload → a.fuInProgress = true) :
    appendRtpPayload a payload =
      { a with
        payload := a.payload ++ naluBytes payload
        fuInProgress := decide (LeavesNaluOpen payload) } := by
  rcases hwellFormed with ⟨hpos, hlt⟩ | ⟨htype, hlength⟩
  · -- a single NAL unit
    have hne : payload ≠ [] := WellFormed.ne_nil (.inl ⟨hpos, hlt⟩)
    have htype : nalType payload ≠ kH264FuAType := by
      intro heq
      rw [heq] at hlt
      exact absurd hlt (by decide)
    have hclosed : ¬LeavesNaluOpen payload := fun h => htype h.1
    rw [appendRtpPayload, if_neg hne, if_pos ⟨hpos, hlt⟩, naluBytes, if_neg htype,
      decide_eq_false hclosed, appendAnnexBNalu, if_neg hne, appendAnnexBStartCode,
      List.append_assoc]
  · rw [appendRtpPayload_of_fragment a htype hlength, naluBytes, if_pos htype]
    have hopen : decide (LeavesNaluOpen payload) = !(byteAt payload 1 &&& 0x40 != 0) := by
      simp [LeavesNaluOpen, htype, bne, beq_eq_decide]
    rw [hopen]
    by_cases hfirst : byteAt payload 1 &&& 0x80 = 0
    · -- it continues a unit that is open
      have hcontinued := hfollows ⟨htype, hfirst⟩
      rw [hfirst, if_neg (by decide), hcontinued, if_neg (by decide), if_pos rfl]
      cases byteAt payload 1 &&& 0x40 != 0 <;> rfl
    · rw [if_pos (by simpa using hfirst), if_neg hfirst, appendAnnexBStartCode]
      simp

/-- A continuation without its beginning damages the frame. -/
theorem appendRtpPayload_of_continues {a : RtpFrameAssembly} {payload : Bytes}
    (hwellFormed : WellFormed payload) (hcontinues : ContinuesNalu payload)
    (hclosed : a.fuInProgress = false) : appendRtpPayload a payload = a.damage := by
  obtain ⟨htype, hfirst⟩ := hcontinues
  rcases hwellFormed with ⟨-, hlt⟩ | ⟨-, hlength⟩
  · rw [htype] at hlt
    exact absurd hlt (by decide)
  · rw [appendRtpPayload_of_fragment a htype hlength, hfirst, if_neg (by decide), hclosed]
    rfl

/-! ### One packet after another -/

/-- The assembly is without damage and in the middle of a unit if the last packet is. -/
structure Whole (a : RtpFrameAssembly) (packet : RtpPacket) (bytes : Bytes) : Prop where
  undamaged : a.frameDamaged = false
  fuInProgress : a.fuInProgress = decide (LeavesNaluOpen packet.payload)
  payload : a.payload = bytes

section

variable (cfg : ClientConfig) {a : RtpFrameAssembly} {packet next : RtpPacket} (bytes : Bytes)

/-- The payload decides about damage; it never undoes any. -/
theorem appendRtpPayload_cases (a : RtpFrameAssembly) {payload : Bytes}
    (hwellFormed : WellFormed payload) :
    (ContinuesNalu payload → a.fuInProgress = true) ∧
        appendRtpPayload a payload =
          { a with
            payload := a.payload ++ naluBytes payload
            fuInProgress := decide (LeavesNaluOpen payload) } ∨
      (ContinuesNalu payload ∧ a.fuInProgress = false) ∧
        appendRtpPayload a payload = a.damage := by
  by_cases hcontinues : ContinuesNalu payload
  · cases hopen : a.fuInProgress with
    | true => exact .inl ⟨fun _ => rfl, appendRtpPayload_of_follows hwellFormed fun _ => hopen⟩
    | false =>
        exact .inr ⟨⟨hcontinues, rfl⟩,
          appendRtpPayload_of_continues hwellFormed hcontinues hopen⟩
  · exact .inl ⟨fun h => absurd h hcontinues,
      appendRtpPayload_of_follows hwellFormed fun h => absurd h hcontinues⟩

/-- The first packet of another frame. -/
theorem assembleRtpPacket_of_foreign (hforeign : Foreign a packet)
    (hwellFormed : WellFormed packet.payload) :
    Tracks (assembleRtpPacket cfg a packet) packet ∧
      (¬ContinuesNalu packet.payload →
        Whole (assembleRtpPacket cfg a packet) packet (naluBytes packet.payload)) ∧
      (ContinuesNalu packet.payload →
        (assembleRtpPacket cfg a packet).frameDamaged = true) := by
  have hfresh : (!a.active || a.timestamp != packet.fields.timestamp ||
      a.ssrc != packet.fields.ssrc) = true := by
    rcases hforeign with h | h | h <;> simp [h]
  obtain ⟨capture, send, available, invalid, hmetadata⟩ :=
    trackSenderMetadata_eq cfg (trackRtpSequence a packet.fields) packet.extension
  simp only [assembleRtpPacket]
  rw [hmetadata, trackRtpSequence, if_pos hfresh]
  rcases appendRtpPayload_cases _ hwellFormed with ⟨hfollows, heq⟩ | ⟨⟨hcontinues, -⟩, heq⟩
  · rw [heq]
    exact ⟨⟨rfl, rfl, rfl, rfl, rfl⟩, fun _ => ⟨rfl, rfl, rfl⟩,
      fun hcontinues => absurd (hfollows hcontinues) Bool.false_ne_true⟩
  · rw [heq]
    exact ⟨⟨rfl, rfl, rfl, rfl, rfl⟩, fun h => absurd hcontinues h, fun _ => rfl⟩

/-- A further packet of the frame. -/
theorem assembleRtpPacket_of_tracks (htracks : Tracks a packet)
    (htimestamp : next.fields.timestamp = packet.fields.timestamp)
    (hssrc : next.fields.ssrc = packet.fields.ssrc) (hwellFormed : WellFormed next.payload) :
    Tracks (assembleRtpPacket cfg a next) next ∧
      (a.frameDamaged = true → (assembleRtpPacket cfg a next).frameDamaged = true) ∧
      (Whole a packet bytes → Joins packet next →
        Whole (assembleRtpPacket cfg a next) next (bytes ++ naluBytes next.payload)) ∧
      (Whole a packet bytes → ¬Joins packet next →
        (assembleRtpPacket cfg a next).frameDamaged = true) := by
  have hsame : ¬(!a.active || a.timestamp != next.fields.timestamp ||
      a.ssrc != next.fields.ssrc) = true := by
    simp [htracks.active, htracks.timestamp, htracks.ssrc, htimestamp, hssrc]
  obtain ⟨capture, send, available, invalid, hmetadata⟩ :=
    trackSenderMetadata_eq cfg (trackRtpSequence a next.fields) next.extension
  simp only [assembleRtpPacket]
  rw [hmetadata, trackRtpSequence, if_neg hsame]
  by_cases hconsecutive : Consecutive packet next
  · have hexpected : ¬(a.hasSequenceNumber &&
        next.fields.sequenceNumber != a.nextSequenceNumber) = true := by
      simp [htracks.next, hconsecutive.symm]
    rw [if_neg hexpected]
    rcases appendRtpPayload_cases _ hwellFormed with ⟨hfollows, heq⟩ | ⟨⟨hcontinues, hclosed⟩, heq⟩
    · rw [heq]
      refine ⟨⟨htracks.active, htracks.timestamp.trans htimestamp.symm,
        htracks.ssrc.trans hssrc.symm, rfl, rfl⟩, fun h => h, fun hwhole _ => ?_, ?_⟩
      · exact ⟨hwhole.undamaged, rfl, congrArg (· ++ naluBytes next.payload) hwhole.payload⟩
      · intro hwhole hjoins
        refine absurd ⟨hconsecutive, fun hcontinues => ?_⟩ hjoins
        have hopen := hfollows hcontinues
        exact of_decide_eq_true (hwhole.fuInProgress.symm.trans hopen)
    · rw [heq]
      refine ⟨⟨htracks.active, htracks.timestamp.trans htimestamp.symm,
        htracks.ssrc.trans hssrc.symm, rfl, rfl⟩, fun _ => rfl, ?_, fun _ _ => rfl⟩
      intro hwhole hjoins
      have hopen := hwhole.fuInProgress.trans (decide_eq_true (hjoins.2 hcontinues))
      exact absurd (hclosed.symm.trans hopen) Bool.false_ne_true
  · have hgap : (a.hasSequenceNumber &&
        next.fields.sequenceNumber != a.nextSequenceNumber) = true := by
      simpa [htracks.hasSequence, htracks.next, Consecutive] using hconsecutive
    rw [if_pos hgap]
    have htracked : Tracks { a with nextSequenceNumber := next.fields.sequenceNumber + 1 } next :=
      ⟨htracks.active, htracks.timestamp.trans htimestamp.symm, htracks.ssrc.trans hssrc.symm,
        htracks.hasSequence, rfl⟩
    -- a gap is damage, whatever the payload is
    rcases appendRtpPayload_cases _ hwellFormed with ⟨-, heq⟩ | ⟨-, heq⟩
    all_goals
      rw [heq]
      exact ⟨⟨htracked.active, htracked.timestamp, htracked.ssrc, htracked.hasSequence, rfl⟩,
        fun _ => rfl, fun _ hjoins => absurd hjoins.1 hconsecutive, fun _ _ => rfl⟩

/-- What a sequence of packets adds to the frame. -/
def packetBytes (arrived : List RtpPacket) : Bytes :=
  arrived.flatMap fun packet => naluBytes packet.payload

/-- All further packets of the frame. -/
theorem foldl_assembleRtpPacket_of_tracks {id : StreamId} {rest : List RtpPacket}
    (htracks : Tracks a packet) (hpacket : BelongsTo packet id)
    (hrest : ∀ r ∈ rest, BelongsTo r id ∧ WellFormed r.payload) :
    ∃ last ∈ (packet :: rest).getLast?, Tracks (rest.foldl (assembleRtpPacket cfg) a) last ∧
      (a.frameDamaged = true → (rest.foldl (assembleRtpPacket cfg) a).frameDamaged = true) ∧
      (Whole a packet bytes → (packet :: rest).IsChain Joins →
        Whole (rest.foldl (assembleRtpPacket cfg) a) last (bytes ++ packetBytes rest)) ∧
      (Whole a packet bytes → ¬(packet :: rest).IsChain Joins →
        (rest.foldl (assembleRtpPacket cfg) a).frameDamaged = true) := by
  induction rest generalizing a packet bytes with
  | nil =>
      refine ⟨packet, rfl, htracks, fun h => h, fun hwhole _ => ?_, fun _ hchain => ?_⟩
      · simpa [packetBytes] using hwhole
      · exact absurd (List.isChain_singleton packet) hchain
  | cons next rest ih =>
      obtain ⟨⟨hnext, hwellFormed⟩, hlater⟩ := List.forall_mem_cons.mp hrest
      obtain ⟨htracks', hdamaged, hjoined, hgap⟩ :=
    assembleRtpPacket_of_tracks cfg bytes htracks (hnext.1.trans hpacket.1.symm)
        (hnext.2.1.trans hpacket.2.1.symm) hwellFormed
      obtain ⟨last, hlast, hlastTracks, hlastDamaged, hlastJoined, hlastGap⟩ :=
        ih (bytes ++ naluBytes next.payload) htracks' hnext hlater
      rw [List.foldl_cons, List.isChain_cons_cons, List.getLast?_cons_cons]
      refine ⟨last, hlast, hlastTracks, fun h => hlastDamaged (hdamaged h), ?_, ?_⟩
      · rintro hwhole ⟨hjoins, hchain⟩
        have hresult := hlastJoined (hjoined hwhole hjoins) hchain
        rwa [List.append_assoc] at hresult
      · intro hwhole hchain
        by_cases hjoins : Joins packet next
        · exact hlastGap (hjoined hwhole hjoins) fun h => hchain ⟨hjoins, h⟩
        · exact hlastDamaged (hgap hwhole hjoins)

/-- The packets of a frame that arrive, from the first one on. -/
theorem foldl_assembleRtpPacket_of_foreign {id : StreamId} {rest : List RtpPacket}
    (hforeign : Foreign a packet)
    (harrived : ∀ r ∈ packet :: rest, BelongsTo r id ∧ WellFormed r.payload) :
    ∃ last ∈ (packet :: rest).getLast?,
      Tracks ((packet :: rest).foldl (assembleRtpPacket cfg) a) last ∧
      (Seamless (packet :: rest) →
        Whole ((packet :: rest).foldl (assembleRtpPacket cfg) a) last
          (packetBytes (packet :: rest))) ∧
      (¬Seamless (packet :: rest) →
        ((packet :: rest).foldl (assembleRtpPacket cfg) a).frameDamaged = true) := by
  obtain ⟨⟨hpacket, hwellFormed⟩, hrest⟩ := List.forall_mem_cons.mp harrived
  obtain ⟨htracks, hwhole, hcontinues⟩ :=
    assembleRtpPacket_of_foreign cfg hforeign hwellFormed
  obtain ⟨last, hlast, hlastTracks, hlastDamaged, hlastJoined, hlastGap⟩ :=
    foldl_assembleRtpPacket_of_tracks cfg (naluBytes packet.payload) htracks hpacket hrest
  rw [List.foldl_cons]
  refine ⟨last, hlast, hlastTracks, fun hseamless => ?_, fun hseamless => ?_⟩
  · exact hlastJoined (hwhole (hseamless.first packet rfl)) hseamless.chain
  · by_cases hfirst : ContinuesNalu packet.payload
    · exact hlastDamaged (hcontinues hfirst)
    · refine hlastGap (hwhole hfirst) fun hchain => hseamless ⟨?_, hchain⟩
      simpa using hfirst

end

end AvProject.Rtp
