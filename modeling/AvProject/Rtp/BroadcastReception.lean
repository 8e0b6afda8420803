import AvProject.Rtp.RoundTrip
import AvProject.Rtp.SenderMetadata
import AvProject.Rtp.SendTimeUpdate
import AvProject.Server.RtpRuns

/-!
From one program to the other: what a client makes of the packets of a backend some of whose
sends fail.
-/

namespace AvProject.Rtp

open AvProject.Lib AvProject.Protocol AvProject.Server AvProject.Client
open AvProject.Server.RtpStreamingBackend

/-! ### A packet with its send time -/

section

variable {packet bytes : Bytes} {r : RtpPacket} {cfg : TransportConfig} {sendTimestampNs : ℕ}

/-- A receiver reads the send time that was written into the packet, and what it would have
read before. -/
theorem readRtpPacket_stampPacket (hlatency : cfg.rtpEnableLatencyExtension = true)
    (hstamp : stampPacket cfg packet sendTimestampNs = some bytes)
    (hread : readRtpPacket packet = some r) :
    ∃ extension latency, readRtpPacket bytes = some { r with extension := extension } ∧
      parseRtpLatencyExtension r.extension = some latency ∧
      parseRtpLatencyExtension extension =
        some { latency with transportSendTimestampNs := UInt64.ofNat sendTimestampNs } := by
  rw [stampPacket, if_pos hlatency] at hstamp
  by_cases hcarries : CarriesLatency packet
  · rw [hcarries.update] at hstamp
    obtain rfl := Option.some.inj hstamp
    have hupdated : UpdatedInPlace packet (latencyHeader packet) (latencyOf packet)
        (UInt64.ofNat sendTimestampNs) (withSendTime packet (UInt64.ofNat sendTimestampNs)) :=
      hcarries.updatedInPlace
    obtain ⟨parsed', ⟨hparse', hlatency'⟩, hfields, hsize⟩ := hupdated.reparsed
    rw [readRtpPacket, hcarries.parses.1] at hread
    simp only at hread
    split at hread
    · cases hread
    rename_i hlong
    obtain rfl := Option.some.inj hread
    refine ⟨parsed'.extension, latencyOf packet, ?_, hcarries.parses.2, hlatency'⟩
    rw [readRtpPacket, hparse']
    simp only
    rw [hupdated.length_eq, hsize, if_neg hlong, hupdated.body_eq, hfields]
  · rw [update_of_not_carriesLatency hcarries] at hstamp
    cases hstamp

end

/-! ### The packets of a frame -/

theorem FrameStream.congr {id : StreamId} {stream stream' : List RtpPacket} {bytes : Bytes}
    (h : FrameStream id stream bytes)
    (hfields : stream'.map RtpPacket.fields = stream.map RtpPacket.fields)
    (hpayload : stream'.map RtpPacket.payload = stream.map RtpPacket.payload) :
    FrameStream id stream' bytes where
  belongs packet hpacket := by
    have hmem : packet.fields ∈ stream.map RtpPacket.fields :=
      hfields ▸ List.mem_map_of_mem hpacket
    obtain ⟨other, hother, hsame⟩ := List.mem_map.mp hmem
    have hbelongs := h.belongs other hother
    rw [BelongsTo, hsame] at hbelongs
    exact hbelongs
  spells := by
    rw [hpayload]
    exact h.spells
  consecutive := by
    have hchain (packets : List RtpPacket) : packets.IsChain Consecutive ↔
        (packets.map RtpPacket.fields).IsChain fun fields next =>
          next.sequenceNumber = fields.sequenceNumber + 1 := by
      rw [List.isChain_map]
      rfl
    rw [hchain, hfields, ← hchain]
    exact h.consecutive
  marked := by
    obtain ⟨init, last, rfl, hmarker, hunmarked⟩ := h.marked
    rw [List.map_append, List.map_eq_append_iff] at hfields
    obtain ⟨init', rest, rfl, hinit, hrest⟩ := hfields
    obtain ⟨last', rfl, hlast⟩ := List.map_eq_singleton_iff.mp hrest
    refine ⟨init', last', rfl, ?_, fun packet hpacket => ?_⟩
    · rw [hlast]
      exact hmarker
    · have hmem : packet.fields ∈ init.map RtpPacket.fields := hinit ▸ List.mem_map_of_mem hpacket
      obtain ⟨other, hother, hsame⟩ := List.mem_map.mp hmem
      rw [← hsame]
      exact hunmarked other hother

/-- What a transmission puts on the wire, as a receiver reads it: the first packets of the
frame, and all of them if the frame counts as sent. -/
structure ArrivesAs (t : RtpTransmission) (stream arrived : List RtpPacket) : Prop where
  ofFrame : FrameStream (streamId t.packetizer t.frame) stream
    (annexB (splitAnnexBNalus t.frame.payload))
  initial : arrived <+: stream
  read : t.handed.map (fun x => readRtpPacket x.bytes) = arrived.map some
  whole_iff : t.whole = true ↔ arrived = stream
  latency : ∀ (i : ℕ) x packet, t.handed[i]? = some x → arrived[i]? = some packet →
    parseRtpLatencyExtension packet.extension = some
      { captureTimestampNs := UInt64.ofNat t.frame.captureTimestampNs
        transportSendTimestampNs := UInt64.ofNat x.sendTimestampNs }

/-- The packets that the packetizer makes carry the capture time of their frame. -/
theorem extension_readPackets {timestamp : UInt32} {extension : Option RtpHeaderExtension}
    (p : RtpPacketizer) (payloads : List Bytes) :
    ∀ packet ∈ readPackets timestamp extension p payloads,
      packet.extension = if hasExtension extension then extension.getD {} else {} := by
  induction payloads generalizing p with
  | nil => simp [readPackets]
  | cons payload payloads ih => exact List.forall_mem_cons.mpr ⟨rfl, ih p.advance⟩

section

variable {cfg : TransportConfig} {t : RtpTransmission}

/-- The packets of a frame that was packetized. -/
theorem accepts_of_accounted (h : t.Accounted cfg) : Accepts t.packetizer t.frame := by
  by_contra hnot
  obtain ⟨message, hmessage⟩ := packetize_of_not_accepts hnot
  have hok := h.packetized
  rw [hmessage] at hok
  cases hok

theorem packets_eq_framePackets (h : t.Accounted cfg) (hvideo : VideoFrame t.frame) :
    t.packets = framePackets t.packetizer t.frame := by
  have hpacketize := packetize_of_accepts (accepts_of_accounted h) hvideo.sendable
  rw [RtpTransmission.packets, hpacketize]
  rfl

/-- What a receiver reads of a packet that was sent: the packet of the frame, with the send
time. -/
theorem read_handed (hlatency : cfg.rtpEnableLatencyExtension = true)
    (h : t.Accounted cfg) (hvideo : VideoFrame t.frame)
    (hextension : t.packetizer.enableLatencyExtension = true) {base : List RtpPacket}
    (hread : t.packets.map readRtpPacket = base.map some) {i : ℕ} {x : SentRtpPacket}
    (hx : t.handed[i]? = some x) :
    ∃ r extension, base[i]? = some r ∧
      readRtpPacket x.bytes = some { r with extension := extension } ∧
      parseRtpLatencyExtension extension = some
        { captureTimestampNs := UInt64.ofNat t.frame.captureTimestampNs
          transportSendTimestampNs := UInt64.ofNat x.sendTimestampNs } := by
  obtain ⟨packet, hpacket, -, hstamp⟩ := h.stamped i x hx
  have hi := congrArg (fun read : List (Option RtpPacket) => read[i]?) hread
  simp only [List.getElem?_map, hpacket, Option.map_some] at hi
  obtain ⟨r, hr, hsame⟩ := Option.map_eq_some_iff.mp hi.symm
  obtain ⟨extension, latency, hstamped, hbefore, hafter⟩ :=
    readRtpPacket_stampPacket hlatency hstamp hsame.symm
  refine ⟨r, extension, hr, hstamped, ?_⟩
  -- the packetizer wrote the capture time
  have hpackets := packets_eq_framePackets h hvideo
  have hspells := framePayloads_spells (accepts_of_accounted h) hvideo.sendable
  have hmade : (framePackets t.packetizer t.frame).map readRtpPacket = _ :=
    map_readRtpPacket_packets (latencyExtension_fits t.packetizer t.frame) t.packetizer
      fun payload hpayload => (hspells.wellFormed payload hpayload).ne_nil
  rw [← hpackets, hread] at hmade
  have hbase := List.map_injective_iff.mpr (Option.some_injective _) hmade
  have hcarried := extension_readPackets t.packetizer _ r (hbase ▸ List.mem_of_getElem? hr)
  have hbuilt : r.extension = buildRtpLatencyHeaderExtension
      { captureTimestampNs := UInt64.ofNat t.frame.captureTimestampNs
        transportSendTimestampNs := 0 } := by
    rw [hcarried, RtpPacketizer.latencyExtension, if_pos hextension]
    rfl
  rw [hbuilt, parseRtpLatencyExtension_build] at hbefore
  obtain rfl := Option.some.inj hbefore
  exact hafter

theorem exists_arrivesAs (hlatency : cfg.rtpEnableLatencyExtension = true)
    (h : t.Accounted cfg) (hvideo : VideoFrame t.frame)
    (hextension : t.packetizer.enableLatencyExtension = true) :
    ∃ stream arrived, ArrivesAs t stream arrived := by
  obtain ⟨base, hread, hstream⟩ := framePackets_stream (accepts_of_accounted h) hvideo.sendable
  rw [← packets_eq_framePackets h hvideo] at hread
  have hlength : t.packets.length = base.length := by
    simpa using congrArg List.length hread
  have hhanded (i : ℕ) (x : SentRtpPacket) (hx : t.handed[i]? = some x) :=
    read_handed hlatency h hvideo hextension hread hx
  generalize harrived : t.handed.filterMap (fun x => readRtpPacket x.bytes) = arrived
  have hmap : t.handed.map (fun x => readRtpPacket x.bytes) = arrived.map some := by
    rw [← harrived, List.map_filterMap_some_eq_filter_map_isSome, eq_comm, List.filter_eq_self]
    intro read hmem
    obtain ⟨x, hx, rfl⟩ := List.mem_map.mp hmem
    obtain ⟨i, hi⟩ := List.getElem?_of_mem hx
    obtain ⟨r, extension, -, hsome, -⟩ := hhanded i x hi
    rw [hsome]
    rfl
  -- a packet that arrived is the one of the frame but for the extension
  have hat (i : ℕ) (x : SentRtpPacket) (packet : RtpPacket) (hx : t.handed[i]? = some x)
      (hpacket : arrived[i]? = some packet) :
      ∃ r extension, base[i]? = some r ∧ packet = { r with extension := extension } ∧
        parseRtpLatencyExtension extension = some
          { captureTimestampNs := UInt64.ofNat t.frame.captureTimestampNs
            transportSendTimestampNs := UInt64.ofNat x.sendTimestampNs } := by
    obtain ⟨r, extension, hr, hsome, hlatency⟩ := hhanded i x hx
    have hi := congrArg (fun read : List (Option RtpPacket) => read[i]?) hmap
    simp only [List.getElem?_map, hx, hpacket, Option.map_some, hsome] at hi
    exact ⟨r, extension, hr, (Option.some.inj (Option.some.inj hi)).symm, hlatency⟩
  have hcount : arrived.length = t.handed.length := by
    simpa using (congrArg List.length hmap).symm
  have hle : arrived.length ≤ base.length := by
    rw [hcount, ← hlength]
    exact h.length_le
  have hsame {β : Type} (part : RtpPacket → β) (hpart : ∀ r extension,
      part { r with extension := extension } = part r) :
      (arrived ++ base.drop arrived.length).map part = base.map part := by
    have hfirst : arrived.map part = (base.take arrived.length).map part := by
      refine List.ext_getElem (by simpa using hle) fun i hi hi' => ?_
      simp only [List.length_map] at hi
      obtain ⟨r, extension, hr, hpacket, -⟩ := hat i t.handed[i] arrived[i]
        (List.getElem?_eq_getElem (hcount ▸ hi)) (List.getElem?_eq_getElem hi)
      obtain ⟨hlt, hget⟩ := List.getElem?_eq_some_iff.mp hr
      rw [List.getElem_map, List.getElem_map, List.getElem_take, hget, hpacket, hpart]
    rw [List.map_append, hfirst, ← List.map_append, List.take_append_drop]
  exact ⟨arrived ++ base.drop arrived.length, arrived,
    { ofFrame := hstream.congr (hsame RtpPacket.fields fun _ _ => rfl)
        (hsame RtpPacket.payload fun _ _ => rfl)
      initial := List.prefix_append _ _
      read := hmap
      whole_iff := by
        rw [h.whole_iff, hlength, ← hcount, List.self_eq_append_right, List.drop_eq_nil_iff]
        exact ⟨fun heq => heq.ge, fun hge => le_antisymm hle hge⟩
      latency := fun i x packet hx hpacket => by
        obtain ⟨r, extension, -, rfl, hlatency⟩ := hat i x packet hx hpacket
        exact hlatency }⟩

end

/-! ### Reception -/

/-- The frame that a client has got for a transmission. The send time is that of the last
packet; a frame without a capture time has neither. -/
structure DeliveredAs (t : RtpTransmission) (frame : ReceivedFrame) : Prop where
  payload : frame.payload = annexB (splitAnnexBNalus t.frame.payload)
  sequence : frame.metadata.sequence = (t.packetizer.buildTimestamp t.frame).toNat
  times : t.frame.captureTimestampNs ≠ 0 → frame.senderMetadataAvailable = true ∧
    frame.metadata.captureTimestampNs = t.frame.captureTimestampNs ∧
    ∃ x ∈ t.handed.getLast?, frame.metadata.transportSendTimestampNs = x.sendTimestampNs

section

variable {cfg : ClientConfig} {a : RtpFrameAssembly} {id : StreamId}

theorem Gathers.trackRtpSequence {packets : List RtpPacket} (h : Gathers a packets)
    {fields : RtpHeaderFields} (hactive : a.active = true)
    (htimestamp : a.timestamp = fields.timestamp) (hssrc : a.ssrc = fields.ssrc) :
    Gathers (Client.trackRtpSequence a fields) packets := by
  have hgoes : ¬(!a.active || a.timestamp != fields.timestamp || a.ssrc != fields.ssrc) = true := by
    simp [hactive, htimestamp, hssrc]
  rw [Client.trackRtpSequence, if_neg hgoes]
  split
  · exact h.congr rfl rfl rfl rfl
  · exact h.congr rfl rfl rfl rfl

/-- The packets of a frame, from the first one on. -/
theorem foldl_gathers (hexpect : cfg.expectMetadata = true) {packet : RtpPacket}
    {rest : List RtpPacket} (hforeign : Foreign a packet)
    (hbelongs : ∀ r ∈ packet :: rest, BelongsTo r id) :
    Gathers ((packet :: rest).foldl (assembleRtpPacket cfg) a) (packet :: rest) ∧
      ((packet :: rest).foldl (assembleRtpPacket cfg) a).active = true ∧
      ((packet :: rest).foldl (assembleRtpPacket cfg) a).timestamp = id.timestamp ∧
      ((packet :: rest).foldl (assembleRtpPacket cfg) a).ssrc = id.ssrc := by
  induction rest using List.reverseRecOn with
  | nil =>
      obtain ⟨htimestamp, hssrc, -⟩ := hbelongs packet List.mem_cons_self
      obtain ⟨hactive, hts, hs⟩ := assembleRtpPacket_identity cfg {} packet
      rw [List.foldl_cons, List.foldl_nil, assembleRtpPacket_foreign hforeign]
      exact ⟨gathers_first hexpect packet, hactive, hts.trans htimestamp, hs.trans hssrc⟩
  | append_singleton rest last ih =>
      obtain ⟨hgathers, hactive, htimestamp, hssrc⟩ := ih fun r hr => hbelongs r (by
        rw [← List.cons_append]
        exact List.mem_append_left _ hr)
      obtain ⟨hlastTimestamp, hlastSsrc, -⟩ := hbelongs last (by simp)
      rw [← List.cons_append, List.foldl_append, List.foldl_cons, List.foldl_nil]
      generalize (packet :: rest).foldl (assembleRtpPacket cfg) a = held at *
      obtain ⟨hactive', hts, hs⟩ := assembleRtpPacket_identity cfg held last
      refine ⟨?_, hactive', hts.trans hlastTimestamp, hs.trans hlastSsrc⟩
      exact (hgathers.trackRtpSequence hactive (htimestamp.trans hlastTimestamp.symm)
        (hssrc.trans hlastSsrc.symm)).assemble hexpect

/-- A frame whose packets all arrive ends the assembly. -/
theorem receiveAll_of_stream (hjitter : cfg.udpJitterBufferEnabled = false)
    (haccepts : acceptsPayloadType cfg id.payloadType = true) {stream : List RtpPacket}
    {bytes : Bytes} (hstream : FrameStream id stream bytes) {arrivals : List (Bytes × ℕ)}
    (hcarry : Carry arrivals stream) (st : StreamClient)
    (hforeign : ForeignTo st.rtpFrameAssembly id) :
    ∃ nowNs, (receiveAll cfg st arrivals).2 =
        [completedRtpFrame cfg (stream.foldl (assembleRtpPacket cfg) st.rtpFrameAssembly) nowNs] ∧
      (receiveAll cfg st arrivals).1.rtpFrameAssembly.active = false ∧
      (stream.foldl (assembleRtpPacket cfg) st.rtpFrameAssembly).payload = bytes ∧
      (stream.foldl (assembleRtpPacket cfg) st.rtpFrameAssembly).timestamp = id.timestamp := by
  have hwellFormed (packet) (h : packet ∈ stream) : BelongsTo packet id ∧
      WellFormed packet.payload :=
    ⟨hstream.belongs packet h, hstream.spells.wellFormed _ (List.mem_map_of_mem h)⟩
  have haccepted (packet) (h : packet ∈ stream) :
      acceptsPayloadType cfg packet.fields.payloadType = true := by
    rw [(hwellFormed packet h).1.2.2]
    exact haccepts
  have hseamless := hstream.looksComplete.2
  have hbytes := hstream.packetBytes_eq
  obtain ⟨init, last, rfl, hmarker, hunmarked⟩ := hstream.marked
  obtain ⟨first, second, rfl, hfirst, hsecond⟩ := hcarry.append
  have hclosed : ¬LeavesNaluOpen last.payload := hstream.spells.last _ (by simp)
  obtain ⟨hready, -, htimestamp⟩ := ready_iff_seamless cfg hforeign hwellFormed
    (by simp : (init ++ [last]).getLast? = some last) hclosed
  obtain ⟨hreadyTrue, hpayload⟩ := hready hseamless
  have hinit := receiveAll_of_unmarked st hfirst
    (fun packet h => haccepted packet (List.mem_append_left _ h)) hunmarked
  obtain ⟨nowNs, hmarked⟩ := receiveAll_of_marked hjitter
    { st with rtpFrameAssembly := init.foldl (assembleRtpPacket cfg) st.rtpFrameAssembly }
    hsecond (haccepted last (by simp)) hmarker
  have hlast : assembleRtpPacket cfg (init.foldl (assembleRtpPacket cfg) st.rtpFrameAssembly) last =
      (init ++ [last]).foldl (assembleRtpPacket cfg) st.rtpFrameAssembly := by
    rw [List.foldl_append, List.foldl_cons, List.foldl_nil]
  rw [hlast, if_pos hreadyTrue] at hmarked
  refine ⟨nowNs, ?_, ?_, hpayload.trans hbytes, htimestamp⟩
  · rw [receiveAll_append, hinit, hmarked, List.nil_append]
  · rw [receiveAll_append, hinit, hmarked]
    rfl

section

variable {t : RtpTransmission} {stream arrived : List RtpPacket} {arrivals : List (Bytes × ℕ)}

theorem ArrivesAs.carry (h : ArrivesAs t stream arrived)
    (harrivals : arrivals.map Prod.fst = t.handed.map SentRtpPacket.bytes) :
    Carry arrivals arrived := by
  have hread := congrArg (List.map readRtpPacket) harrivals
  rw [List.map_map, List.map_map] at hread
  exact hread.trans h.read

/-- A frame that was sent is handed out. -/
theorem ArrivesAs.receive_whole (h : ArrivesAs t stream arrived) (hwhole : t.whole = true)
    (hstamps : ∀ x ∈ t.handed, 0 < x.sendTimestampNs ∧ x.sendTimestampNs < 2 ^ 64)
    (hjitter : cfg.udpJitterBufferEnabled = false) (hexpect : cfg.expectMetadata = true)
    (haccepts : acceptsPayloadType cfg (t.packetizer.payloadType &&& 0x7F) = true)
    (harrivals : arrivals.map Prod.fst = t.handed.map SentRtpPacket.bytes) (st : StreamClient)
    (hforeign : ForeignTo st.rtpFrameAssembly (streamId t.packetizer t.frame)) :
    ∃ frame, (receiveAll cfg st arrivals).2 = [frame] ∧ DeliveredAs t frame ∧
      (receiveAll cfg st arrivals).1.rtpFrameAssembly.active = false := by
  have hcarry := h.carry harrivals
  obtain rfl := h.whole_iff.mp hwhole
  obtain ⟨nowNs, hdelivered, hinactive, hpayload, htimestamp⟩ :=
    receiveAll_of_stream hjitter haccepts h.ofFrame hcarry st hforeign
  refine ⟨_, hdelivered, ⟨hpayload, congrArg UInt32.toNat htimestamp, fun hcapture => ?_⟩,
    hinactive⟩
  have hlength : t.handed.length = arrived.length := by
    simpa using congrArg List.length h.read
  have hcaptureNe : UInt64.ofNat t.frame.captureTimestampNs ≠ 0 := by
    intro hzero
    have htoNat := congrArg UInt64.toNat hzero
    rw [UInt64.toNat_ofNat_of_lt' t.frame.captureTimestampNs_lt] at htoNat
    exact hcapture htoNat
  have hstamped (i : ℕ) (x : SentRtpPacket) (packet : RtpPacket) (hx : t.handed[i]? = some x)
      (hpacket : arrived[i]? = some packet) : CarriesStamps packet
        (UInt64.ofNat t.frame.captureTimestampNs) (UInt64.ofNat x.sendTimestampNs) := by
    refine carriesStamps_iff.mpr ⟨h.latency i x packet hx hpacket, hcaptureNe, fun hzero => ?_⟩
    obtain ⟨hpos, hlt⟩ := hstamps x (List.mem_of_getElem? hx)
    have htoNat := congrArg UInt64.toNat hzero
    rw [UInt64.toNat_ofNat_of_lt' hlt] at htoNat
    exact absurd htoNat hpos.ne'
  have hall : AllStamped arrived (UInt64.ofNat t.frame.captureTimestampNs) := by
    intro packet hpacket
    obtain ⟨i, hi⟩ := List.getElem?_of_mem hpacket
    obtain ⟨hlt, -⟩ := List.getElem?_eq_some_iff.mp hi
    exact ⟨_, hstamped i t.handed[i] packet (List.getElem?_eq_getElem (hlength ▸ hlt)) hi⟩
  cases arrived with
  | nil =>
      obtain ⟨init, last, hnil, -⟩ := h.ofFrame.marked
      simp at hnil
  | cons packet rest =>
      have hforeign' : Foreign st.rtpFrameAssembly packet :=
        hforeign.toPacket (h.ofFrame.belongs packet List.mem_cons_self)
      obtain ⟨hgathers, -⟩ := foldl_gathers hexpect hforeign' h.ofFrame.belongs
      have htimes := hgathers.completed (List.cons_ne_nil _ _) hexpect nowNs
      obtain ⟨hcaptured, hsent⟩ := htimes.all _ hall
      refine ⟨htimes.available_iff.mpr ⟨_, hall⟩, ?_, ?_⟩
      · rw [hcaptured, UInt64.toNat_ofNat_of_lt' t.frame.captureTimestampNs_lt]
      · have hlast : (packet :: rest).length - 1 < (packet :: rest).length :=
          Nat.sub_lt (Nat.succ_pos rest.length) Nat.one_pos
        have hlt : (packet :: rest).length - 1 < t.handed.length := hlength ▸ hlast
        have hx := List.getElem?_eq_getElem hlt
        have hpacket := List.getElem?_eq_getElem hlast
        refine ⟨t.handed[(packet :: rest).length - 1], ?_, ?_⟩
        · rw [Option.mem_def, List.getLast?_eq_getElem?, hlength]
          exact hx
        · rw [hsent _ (List.getLast?_eq_getElem?.trans hpacket) _ (hstamped _ _ _ hx hpacket)]
          exact UInt64.toNat_ofNat_of_lt' (hstamps _ (List.mem_of_getElem? hx)).2

/-- Of a frame that failed, nothing is handed out. -/
theorem ArrivesAs.receive_partial (h : ArrivesAs t stream arrived) (hpart : t.whole = false)
    (haccepts : acceptsPayloadType cfg (t.packetizer.payloadType &&& 0x7F) = true)
    (harrivals : arrivals.map Prod.fst = t.handed.map SentRtpPacket.bytes) (st : StreamClient)
    (hforeign : t.handed ≠ [] →
      ForeignTo st.rtpFrameAssembly (streamId t.packetizer t.frame)) :
    (receiveAll cfg st arrivals).2 = [] ∧
      (t.handed = [] → (receiveAll cfg st arrivals).1 = st) ∧
      (t.handed ≠ [] → (receiveAll cfg st arrivals).1.rtpFrameAssembly.timestamp =
        t.packetizer.buildTimestamp t.frame) := by
  have hcarry := h.carry harrivals
  have hbelongs (packet) (hpacket : packet ∈ arrived) :
      BelongsTo packet (streamId t.packetizer t.frame) ∧ WellFormed packet.payload :=
    ⟨h.ofFrame.belongs packet (h.initial.subset hpacket),
      h.ofFrame.spells.wellFormed _ (List.mem_map_of_mem (h.initial.subset hpacket))⟩
  have hunmarked : ∀ packet ∈ arrived, packet.fields.marker = false := by
    obtain ⟨init, last, rfl, -, hinit⟩ := h.ofFrame.marked
    rcases List.prefix_concat_iff.mp h.initial with heq | hshorter
    · rw [h.whole_iff.mpr heq] at hpart
      cases hpart
    · exact fun packet hpacket => hinit packet (hshorter.subset hpacket)
  have haccepted : ∀ packet ∈ arrived,
      acceptsPayloadType cfg packet.fields.payloadType = true := by
    intro packet hpacket
    rw [(hbelongs packet hpacket).1.2.2]
    exact haccepts
  rw [receiveAll_of_unmarked st hcarry haccepted hunmarked]
  have hlength : t.handed.length = arrived.length := by
    simpa using congrArg List.length h.read
  refine ⟨rfl, fun hnone => ?_, fun hsome => ?_⟩
  · rw [hnone, List.length_nil] at hlength
    rw [List.length_eq_zero_iff.mp hlength.symm]
    rfl
  · cases arrived with
    | nil => exact absurd (List.length_eq_zero_iff.mp hlength) hsome
    | cons packet rest => exact timestamp_foldl_assembleRtpPacket cfg (hforeign hsome) hbelongs

end

/-- The RTP timestamps of the frames of which something was sent. -/
def wireTimestamps (ts : List RtpTransmission) : List UInt32 :=
  (ts.filter fun t => !t.handed.isEmpty).map fun t => t.packetizer.buildTimestamp t.frame

/-- One transmission after the other; `held` is the timestamp of what is left of an earlier
one. -/
theorem receiveAll_transmissions (hjitter : cfg.udpJitterBufferEnabled = false)
    (hexpect : cfg.expectMetadata = true) {ts : List RtpTransmission}
    (hts : ∀ t ∈ ts, ∃ stream arrived, ArrivesAs t stream arrived)
    (hstamps : ∀ t ∈ ts, ∀ x ∈ t.handed, 0 < x.sendTimestampNs ∧ x.sendTimestampNs < 2 ^ 64)
    (haccepts : ∀ t ∈ ts, acceptsPayloadType cfg (t.packetizer.payloadType &&& 0x7F) = true)
    {held : Option UInt32} (hchain : (held.toList ++ wireTimestamps ts).IsChain (· ≠ ·))
    {st : StreamClient} (hheld : st.rtpFrameAssembly.active = false ∨
      held = some st.rtpFrameAssembly.timestamp)
    {arrivals : List (Bytes × ℕ)} (harrivals : arrivals.map Prod.fst =
      (ts.flatMap fun t => t.handed).map SentRtpPacket.bytes) :
    List.Forall₂ DeliveredAs (ts.filter fun t => t.whole) (receiveAll cfg st arrivals).2 := by
  induction ts generalizing held st arrivals with
  | nil =>
      obtain rfl := List.map_eq_nil_iff.mp harrivals
      exact .nil
  | cons t ts ih =>
      obtain ⟨⟨stream, arrived, harrives⟩, hrest⟩ := List.forall_mem_cons.mp hts
      obtain ⟨hstamp, hlater⟩ := List.forall_mem_cons.mp hstamps
      obtain ⟨haccept, haccepts⟩ := List.forall_mem_cons.mp haccepts
      rw [List.flatMap_cons, List.map_append, List.map_eq_append_iff] at harrivals
      obtain ⟨first, rest, rfl, hfirst, hothers⟩ := harrivals
      rw [receiveAll_append]
      by_cases hnone : t.handed = []
      · -- nothing was sent of the frame
        have hpart : t.whole = false := by
          by_contra hwhole
          rw [Bool.not_eq_false] at hwhole
          obtain rfl := harrives.whole_iff.mp hwhole
          obtain ⟨init, last, heq, -⟩ := harrives.ofFrame.marked
          have hread := harrives.read
          simp [hnone, heq] at hread
        obtain ⟨hnothing, hsame, -⟩ := harrives.receive_partial hpart haccept hfirst st
          fun hsome => absurd hnone hsome
        rw [hnothing, hsame hnone, List.filter_cons_of_neg (by simp [hpart]), List.nil_append]
        refine ih hrest hlater haccepts ?_ hheld hothers
        rwa [wireTimestamps, List.filter_cons_of_neg (by simp [hnone])] at hchain
      have hwire : wireTimestamps (t :: ts) =
          t.packetizer.buildTimestamp t.frame :: wireTimestamps ts := by
        rw [wireTimestamps, List.filter_cons_of_pos (by simp [hnone])]
        rfl
      rw [hwire] at hchain
      have hforeign : ForeignTo st.rtpFrameAssembly (streamId t.packetizer t.frame) := by
        refine hheld.imp_right fun heq => ?_
        rw [heq] at hchain
        exact (List.isChain_cons_cons.mp hchain).1
      have hnext : ((some (t.packetizer.buildTimestamp t.frame)).toList ++
          wireTimestamps ts).IsChain (· ≠ ·) := hchain.right_of_append
      cases hwhole : t.whole with
      | true =>
          obtain ⟨frame, hone, hdelivered, hinactive⟩ := harrives.receive_whole hwhole hstamp
            hjitter hexpect haccept hfirst st hforeign
          rw [hone, List.filter_cons_of_pos hwhole]
          exact .cons hdelivered (ih hrest hlater haccepts hnext (.inl hinactive) hothers)
      | false =>
          obtain ⟨hnothing, -, htimestamp⟩ := harrives.receive_partial hwhole haccept hfirst st
            fun _ => hforeign
          rw [hnothing, List.filter_cons_of_neg (by simp [hwhole]), List.nil_append]
          exact ih hrest hlater haccepts hnext (.inr (congrArg some (htimestamp hnone).symm))
            hothers

end

/-- From the encoder to the application: a client that gets the packets of a backend in the
order in which they were sent hands out exactly the frames that count as sent, in order, each
with its payload, its capture time and the time at which its last packet was sent. What is left
of the others is dropped, whatever sends failed and whenever the backend was restarted. -/
theorem runRtp_received (env : RtpEnv) (cfg : TransportConfig) (frameIntervalMs fps : ℤ)
    (nowNs : ℕ) (ops : List RtpOperation) (st : RtpStreamingBackend)
    (hst : runRtp env cfg (initialized frameIntervalMs fps nowNs) ops = st)
    (hnow : 0 < nowNs) (hclock : st.nowNs < 2 ^ 64)
    (hlatency : cfg.rtpEnableLatencyExtension = true)
    (hpayloadType : 0 ≤ cfg.rtpPayloadType ∧ cfg.rtpPayloadType ≤ 127)
    (hvideo : ∀ t ∈ st.transmissions, VideoFrame t.frame)
    (hdistinct : (wireTimestamps st.transmissions).IsChain (· ≠ ·)) (ccfg : ClientConfig)
    (hjitter : ccfg.udpJitterBufferEnabled = false) (hexpect : ccfg.expectMetadata = true)
    (hfilter : ccfg.rtpPayloadType < 0 ∨ ccfg.rtpPayloadType = cfg.rtpPayloadType)
    (events : List RtpReceiveEvent) (s : RtpReceiveState)
    (hrun : runRtpReceive ccfg (RtpReceiveState.start ccfg) events = some s)
    (hfeed : receivedDatagrams events =
      (st.transmissions.flatMap fun t => t.handed).map SentRtpPacket.bytes) :
    List.Forall₂ DeliveredAs (st.transmissions.filter fun t => t.whole) s.delivered := by
  have hinv := runRtp_invariant env cfg frameIntervalMs fps nowNs ops
  rw [hst] at hinv
  have hcreated (t : RtpTransmission) (ht : t ∈ st.transmissions) :
      t.packetizer.payloadType = UInt8.ofNat (cfg.rtpPayloadType % 2 ^ 8).toNat ∧
        t.packetizer.enableLatencyExtension = true := by
    obtain ⟨first, sequenceNumber, heq⟩ := hinv.created t ht
    rw [heq]
    exact ⟨rfl, hlatency⟩
  rw [runRtpReceive_eq hjitter hrun]
  have hchain : ((none : Option UInt32).toList ++ wireTimestamps st.transmissions).IsChain
      (· ≠ ·) := hdistinct
  refine receiveAll_transmissions hjitter hexpect (fun t ht => ?_) (fun t ht x hx => ?_)
    (fun t ht => ?_) hchain (.inl rfl) ((map_fst_arrivalsOf events).trans hfeed)
  · exact exists_arrivesAs hlatency (hinv.accounted t ht) (hvideo t ht) (hcreated t ht).2
  · obtain ⟨hfrom, hto⟩ := hinv.stamps t ht x hx
    exact ⟨hnow.trans_le hfrom, hto.trans_lt hclock⟩
  · -- the marker bit is no part of a payload type below 128
    have hmask : ∀ k < 128, UInt8.ofNat k &&& 0x7F = UInt8.ofNat k := by decide
    have hsmall : (cfg.rtpPayloadType % 2 ^ 8).toNat < 128 := by omega
    rw [(hcreated t ht).1, hmask _ hsmall, acceptsPayloadType, Bool.or_eq_true,
      decide_eq_true_iff]
    refine hfilter.imp_right fun hsame => ?_
    rw [hsame]
    exact beq_self_eq_true _

/-! #### A send that fails -/

/-- The socket refuses its second packet. -/
def refusesSecondEnv : RtpEnv where
  sendto call packet := if call = 4 then -1 else packet.length
  elapsed _ := 10000
  slept _ ns := ns

def lossyRun : List RtpOperation :=
  [.start "" true true 65534, .broadcast twoNaluFrame, .broadcast oneNaluFrame]

/-- The first frame is cut off behind its first packet. -/
def lossySent : RtpStreamingBackend :=
  runRtp refusesSecondEnv plainRtpConfig (initialized 33 0 5000000) lossyRun

example : lossySent.transmissions.map (fun t => (t.handed.length, t.whole)) =
    [(1, false), (1, true)] := by
  decide +kernel

def metadataClient : ClientConfig :=
  { transport := .rtp, rtpPayloadType := 96, udpJitterBufferEnabled := false }

/-- The calls and datagrams of a client that receives what was sent. -/
def lossySession : List RtpReceiveEvent :=
  .call :: .proceed 0 :: (((lossySent.transmissions.flatMap fun t => t.handed).map fun x =>
    .datagram x.bytes 0).intersperse (.proceed 0))

theorem lossySession_received :
    ∃ s, runRtpReceive metadataClient (RtpReceiveState.start metadataClient) lossySession =
        some s ∧
      List.Forall₂ DeliveredAs (lossySent.transmissions.filter fun t => t.whole) s.delivered := by
  obtain ⟨s, hs⟩ := Option.isSome_iff_exists.mp (by decide +kernel :
    (runRtpReceive metadataClient (RtpReceiveState.start metadataClient) lossySession).isSome =
      true)
  refine ⟨s, hs, runRtp_received refusesSecondEnv plainRtpConfig 33 0 5000000 lossyRun lossySent rfl
    (by decide) (by decide +kernel) rfl ⟨by decide, by decide⟩ ?_ (by decide +kernel)
    metadataClient rfl rfl (.inr rfl) lossySession s hs (by decide +kernel)⟩
  have hframes : ∀ t ∈ lossySent.transmissions,
      t.frame = twoNaluFrame ∨ t.frame = oneNaluFrame := by decide +kernel
  intro t ht
  rcases hframes t ht with heq | heq
  · rw [heq]
    exact videoFrame_twoNaluFrame
  · rw [heq]
    exact videoFrame_oneNaluFrame

end AvProject.Rtp
