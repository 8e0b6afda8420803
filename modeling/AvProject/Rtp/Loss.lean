import AvProject.Rtp.RoundTrip

/-!
What is delivered when the network loses packets and keeps the rest in order. A frame
that has lost packets is delivered exactly if the receiver cannot see the gap: it does
not compare the first packet of a frame with the last one of the frame before.
-/

namespace AvProject.Rtp

open AvProject.Lib AvProject.Protocol AvProject.Server AvProject.Client

section

variable {cfg : ClientConfig} {p : RtpPacketizer} {frame : EncodedFrame} {got : List Bytes}
  {arrivals : List (Bytes × ℕ)}

/-- The packets of a frame, as many of them as arrive. -/
theorem receiveAll_of_sublist (hjitter : cfg.udpJitterBufferEnabled = false)
    (haccepts : acceptsPayloadType cfg (p.payloadType &&& 0x7F) = true)
    (hsendable : ∀ nalu ∈ splitAnnexBNalus frame.payload, Sendable nalu)
    (hsub : got.Sublist ((p.packetize (some frame)).2.toOption.getD [])) {st : StreamClient}
    (hforeign : ForeignTo st.rtpFrameAssembly (streamId p frame))
    (harrivals : arrivals.map Prod.fst = got) :
    (∀ x, x ∈ (receiveAll cfg st arrivals).2.map summary ↔
        LooksComplete (got.filterMap readRtpPacket) ∧
          x = ((p.buildTimestamp frame).toNat, packetBytes (got.filterMap readRtpPacket))) ∧
      ((receiveAll cfg st arrivals).1.rtpFrameAssembly.active = false ∨
        (receiveAll cfg st arrivals).1.rtpFrameAssembly.timestamp = p.buildTimestamp frame ∨
        (receiveAll cfg st arrivals).1.rtpFrameAssembly = st.rtpFrameAssembly) := by
  by_cases hframe : Accepts p frame
  · obtain ⟨stream, hread, hstream⟩ := framePackets_stream hframe hsendable
    rw [packetize_of_accepts hframe hsendable] at hsub
    have hsub' : (got.map readRtpPacket).Sublist (stream.map some) := hread ▸ hsub.map readRtpPacket
    obtain ⟨arrived, harrived, hgot⟩ := List.sublist_map_iff.mp hsub'
    have hpackets : got.filterMap readRtpPacket = arrived := by
      have hread := congrArg (List.filterMap id) hgot
      simpa [List.filterMap_map] using hread
    have hcarry : Carry arrivals arrived := by
      rw [Carry, ← hgot, ← harrivals, List.map_map]
      rfl
    obtain ⟨hcomplete, hincomplete, hafter⟩ :=
      receiveAll_frame hjitter haccepts hstream harrived hcarry hforeign
    rw [hpackets]
    refine ⟨fun x => ?_, hafter.imp_right fun h => h.2⟩
    by_cases hlooks : LooksComplete arrived
    · rw [hcomplete hlooks, List.mem_singleton]
      exact ⟨fun hx => ⟨hlooks, hx⟩, fun hx => hx.2⟩
    · rw [hincomplete hlooks]
      exact ⟨fun hx => absurd hx (by simp), fun hx => absurd hx.1 hlooks⟩
  · obtain ⟨message, hmessage⟩ := packetize_of_not_accepts hframe
    rw [hmessage] at hsub
    obtain rfl := List.sublist_nil.mp hsub
    obtain rfl := List.map_eq_nil_iff.mp harrivals
    refine ⟨fun x => ?_, .inr (.inr rfl)⟩
    simp [receiveAll, LooksComplete]

theorem packetize_fst
    (hsendable : ∀ nalu ∈ splitAnnexBNalus frame.payload, Sendable nalu) :
    ∃ n, (p.packetize (some frame)).1 = advanceBy p n := by
  by_cases hframe : Accepts p frame
  · exact ⟨_, congrArg Prod.fst (packetize_of_accepts hframe hsendable)⟩
  · obtain ⟨message, hmessage⟩ := packetize_of_not_accepts hframe
    exact ⟨0, by rw [hmessage, advanceBy_zero]⟩

end

/-- What is delivered of several frames with different timestamps. -/
theorem mem_receiveAll_iff {cfg : ClientConfig} (hjitter : cfg.udpJitterBufferEnabled = false)
    {p : RtpPacketizer} (haccepts : acceptsPayloadType cfg (p.payloadType &&& 0x7F) = true)
    {frames : List EncodedFrame}
    (hsendable : ∀ frame ∈ frames, ∀ nalu ∈ splitAnnexBNalus frame.payload, Sendable nalu)
    (htimestamps : (frames.map p.buildTimestamp).Nodup) {arrived : List (List Bytes)}
    (hloss : List.Forall₂ List.Sublist arrived (sentPackets p frames)) {st : StreamClient}
    (hforeign : ∀ frame ∈ frames, ForeignTo st.rtpFrameAssembly (streamId p frame))
    {arrivals : List (Bytes × ℕ)} (harrivals : arrivals.map Prod.fst = arrived.flatten)
    (x : ℕ × Bytes) :
    x ∈ (receiveAll cfg st arrivals).2.map summary ↔
      ∃ pair ∈ frames.zip arrived, LooksComplete (pair.2.filterMap readRtpPacket) ∧
        x = ((p.buildTimestamp pair.1).toNat, packetBytes (pair.2.filterMap readRtpPacket)) := by
  induction frames generalizing p arrived st arrivals with
  | nil =>
      rw [sentPackets, List.forall₂_nil_right_iff] at hloss
      subst hloss
      obtain rfl := List.map_eq_nil_iff.mp harrivals
      simp [receiveAll]
  | cons frame frames ih =>
      obtain ⟨hnalus, hrestNalus⟩ := List.forall_mem_cons.mp hsendable
      obtain ⟨hdistinct, hrestDistinct⟩ := List.nodup_cons.mp htimestamps
      obtain ⟨hforeignFirst, hforeignRest⟩ := List.forall_mem_cons.mp hforeign
      obtain ⟨n, hn⟩ := packetize_fst (p := p) hnalus
      rw [sentPackets_cons, hn] at hloss
      generalize hsent : (p.packetize (some frame)).2.toOption.getD [] = sent at hloss
      obtain ⟨got, rest, hsub, hrestLoss, rfl⟩ := List.forall₂_cons_right_iff.mp hloss
      rw [← hsent] at hsub
      rw [List.flatten_cons, List.map_eq_append_iff] at harrivals
      obtain ⟨first, later, rfl, hfirst, hlater⟩ := harrivals
      obtain ⟨hdelivered, hafter⟩ :=
        receiveAll_of_sublist hjitter haccepts hnalus hsub hforeignFirst hfirst
      have hforeignLater : ∀ later ∈ frames,
          ForeignTo (receiveAll cfg st first).1.rtpFrameAssembly (streamId p later) := by
        intro later hmem
        rcases hafter with hinactive | htimestamp | hkept
        · exact .inl hinactive
        · refine .inr fun heq => hdistinct ?_
          rw [← htimestamp, heq]
          exact List.mem_map_of_mem hmem
        · rw [hkept]
          exact hforeignRest later hmem
      have hmore := ih (p := advanceBy p n) haccepts hrestNalus hrestDistinct hrestLoss
        hforeignLater hlater
      rw [receiveAll_append, List.map_append, List.mem_append, hdelivered, hmore,
        List.zip_cons_cons, List.exists_mem_cons_iff]
      rfl

/-- A frame of which nothing was lost is delivered as all its NAL units. -/
theorem packetBytes_sentPackets {p : RtpPacketizer} {frames : List EncodedFrame}
    (hsendable : ∀ frame ∈ frames, ∀ nalu ∈ splitAnnexBNalus frame.payload, Sendable nalu) :
    ∀ pair ∈ frames.zip (sentPackets p frames), LooksComplete (pair.2.filterMap readRtpPacket) →
      packetBytes (pair.2.filterMap readRtpPacket) = annexB (splitAnnexBNalus pair.1.payload) := by
  induction frames generalizing p with
  | nil => simp
  | cons frame frames ih =>
      obtain ⟨hnalus, hrest⟩ := List.forall_mem_cons.mp hsendable
      rw [sentPackets_cons, List.zip_cons_cons]
      refine List.forall_mem_cons.mpr ⟨fun hcomplete => ?_, ih hrest⟩
      by_cases hframe : Accepts p frame
      · obtain ⟨stream, hread, hstream⟩ := framePackets_stream hframe hnalus
        rw [packetize_of_accepts hframe hnalus]
        have hpackets : (framePackets p frame).filterMap readRtpPacket = stream := by
          have hids := congrArg (List.filterMap id) hread
          simpa [List.filterMap_map] using hids
        rw [← hstream.packetBytes_eq, ← hpackets]
        rfl
      · obtain ⟨message, hmessage⟩ := packetize_of_not_accepts hframe
        rw [hmessage] at hcomplete
        obtain ⟨⟨packet, hpacket, -⟩, -⟩ := hcomplete
        exact absurd hpacket List.not_mem_nil

/-- All packets have the payload type of the packetizer. -/
theorem payloadType_sentPackets {p : RtpPacketizer} {frames : List EncodedFrame}
    (hsendable : ∀ frame ∈ frames, ∀ nalu ∈ splitAnnexBNalus frame.payload, Sendable nalu) :
    ∀ data ∈ (sentPackets p frames).flatten, ∀ packet ∈ readRtpPacket data,
      packet.fields.payloadType = p.payloadType &&& 0x7F := by
  induction frames generalizing p with
  | nil => simp [sentPackets]
  | cons frame frames ih =>
      obtain ⟨hnalus, hrest⟩ := List.forall_mem_cons.mp hsendable
      obtain ⟨n, hn⟩ := packetize_fst (p := p) hnalus
      rw [sentPackets_cons, hn, List.flatten_cons]
      refine List.forall_mem_append.mpr ⟨fun data hdata packet hpacket => ?_, ih hrest⟩
      by_cases hframe : Accepts p frame
      · obtain ⟨stream, hread, hstream⟩ := framePackets_stream hframe hnalus
        rw [packetize_of_accepts hframe hnalus] at hdata
        have hmem : some packet ∈ stream.map some := by
          rw [← hread, ← Option.mem_def.mp hpacket]
          exact List.mem_map_of_mem hdata
        obtain ⟨packet', hmem', heq⟩ := List.mem_map.mp hmem
        obtain rfl := Option.some.inj heq
        exact (hstream.belongs packet' hmem').2.2
      · obtain ⟨message, hmessage⟩ := packetize_of_not_accepts hframe
        rw [hmessage] at hdata
        exact absurd hdata List.not_mem_nil

theorem length_sentPackets (p : RtpPacketizer) (frames : List EncodedFrame) :
    (sentPackets p frames).length = frames.length := by
  induction frames generalizing p with
  | nil => rfl
  | cons frame frames ih => rw [sentPackets_cons, List.length_cons, List.length_cons, ih]

theorem sublist_flatten {α : Type*} {arrived sent : List (List α)}
    (h : List.Forall₂ List.Sublist arrived sent) : arrived.flatten.Sublist sent.flatten := by
  induction h with
  | nil => exact List.Sublist.refl _
  | cons hfirst _ ih => exact hfirst.append ih

/-- Every frame that was delivered is one of which every packet has arrived, with all
its NAL units. -/
def DeliversOnlyComplete (p : RtpPacketizer) (frames : List EncodedFrame)
    (arrived : List (List Bytes)) (delivered : List ReceivedFrame) : Prop :=
  ∀ d ∈ delivered, ∃ (i : ℕ) (frame : EncodedFrame), frames[i]? = some frame ∧
    arrived[i]? = (sentPackets p frames)[i]? ∧
    d.metadata.sequence = (p.buildTimestamp frame).toNat ∧
    d.payload = annexB (splitAnnexBNalus frame.payload)

/-- Only complete frames are delivered exactly if the filter refuses the packets, or if
no frame that has lost packets looks complete: its last packet has not arrived either,
or its first packet to arrive continues a NAL unit, or somewhere the next packet to
arrive does not join the one before it. -/
theorem receiveRtp_delivers_complete_iff (cfg : ClientConfig)
    (hjitter : cfg.udpJitterBufferEnabled = false) (p : RtpPacketizer)
    (frames : List EncodedFrame)
    (hsendable : ∀ frame ∈ frames, ∀ nalu ∈ splitAnnexBNalus frame.payload, Sendable nalu)
    (htimestamps : (frames.map p.buildTimestamp).Nodup) (arrived : List (List Bytes))
    (hloss : List.Forall₂ List.Sublist arrived (sentPackets p frames))
    (events : List RtpReceiveEvent) (s : RtpReceiveState)
    (hrun : runRtpReceive cfg (RtpReceiveState.start cfg) events = some s)
    (hfeed : receivedDatagrams events = arrived.flatten) :
    DeliversOnlyComplete p frames arrived s.delivered ↔
      acceptsPayloadType cfg (p.payloadType &&& 0x7F) = false ∨
        ∀ (i : ℕ) (sent got : List Bytes), (sentPackets p frames)[i]? = some sent →
          arrived[i]? = some got → got ≠ sent → ¬LooksComplete (got.filterMap readRtpPacket) := by
  have harrivals : (arrivalsOf events).map Prod.fst = arrived.flatten :=
    (map_fst_arrivalsOf events).trans hfeed
  rw [runRtpReceive_eq hjitter hrun]
  change DeliversOnlyComplete p frames arrived
    (receiveAll cfg (StreamClient.connected cfg) (arrivalsOf events)).2 ↔ _
  cases haccepts : acceptsPayloadType cfg (p.payloadType &&& 0x7F) with
  | false =>
      have hnothing : receiveAll cfg (StreamClient.connected cfg) (arrivalsOf events) =
          (StreamClient.connected cfg, []) := by
        refine receiveAll_of_refused _ fun arrival harrival packet hpacket => ?_
        have hdata : arrival.1 ∈ (sentPackets p frames).flatten := by
          refine (sublist_flatten hloss).subset ?_
          rw [← harrivals]
          exact List.mem_map_of_mem harrival
        rw [payloadType_sentPackets hsendable _ hdata packet hpacket, haccepts]
      rw [hnothing]
      simp [DeliversOnlyComplete]
  | true =>
      have hforeign (frame : EncodedFrame) (_ : frame ∈ frames) :
          ForeignTo (StreamClient.connected cfg).rtpFrameAssembly (streamId p frame) := .inl rfl
      have hmem := mem_receiveAll_iff hjitter haccepts hsendable htimestamps hloss hforeign
        harrivals
      rw [Bool.true_eq_false, false_or]
      constructor
      · intro hcomplete i sent got hsent hgot hne hlooks
        have hi : i < frames.length := by
          rw [← length_sentPackets p frames]
          exact (List.getElem?_eq_some_iff.mp hsent).1
        have hframe := List.getElem?_eq_getElem hi
        -- the frame is delivered, so by its timestamp it is a complete one
        have hpair : (frames[i], got) ∈ frames.zip arrived :=
          List.mem_of_getElem? (List.getElem?_zip_eq_some.mpr ⟨hframe, hgot⟩)
        obtain ⟨d, hd, hsummary⟩ := List.mem_map.mp ((hmem _).mpr ⟨_, hpair, hlooks, rfl⟩)
        obtain ⟨j, frame', hframe', hall, hsequence, -⟩ := hcomplete d hd
        have htimestamp : p.buildTimestamp frames[i] = p.buildTimestamp frame' := by
          apply UInt32.toNat_inj.mp
          rw [← hsequence]
          exact (congrArg Prod.fst hsummary).symm
        have hij : i = j := by
          rw [← List.getElem?_inj (by simpa using hi) htimestamps, List.getElem?_map,
            List.getElem?_map, hframe, hframe', Option.map_some, Option.map_some, htimestamp]
        subst hij
        rw [hgot, hsent] at hall
        exact hne (Option.some.inj hall)
      · intro hcondition d hd
        obtain ⟨pair, hpair, hlooks, hsummary⟩ :=
          (hmem (summary d)).mp (List.mem_map_of_mem hd)
        obtain ⟨i, hi⟩ := List.mem_iff_getElem?.mp hpair
        obtain ⟨hframe, hgot⟩ := List.getElem?_zip_eq_some.mp hi
        have hlt : i < (sentPackets p frames).length := by
          rw [length_sentPackets]
          exact (List.getElem?_eq_some_iff.mp hframe).1
        have hsent := List.getElem?_eq_getElem hlt
        have hall : pair.2 = (sentPackets p frames)[i] := by
          by_contra hne
          exact hcondition i _ pair.2 hsent hgot hne hlooks
        have hsentPair : pair ∈ frames.zip (sentPackets p frames) :=
          List.mem_of_getElem? (List.getElem?_zip_eq_some.mpr ⟨hframe, hall ▸ hsent⟩)
        have hbytes := packetBytes_sentPackets hsendable pair hsentPair hlooks
        exact ⟨i, pair.1, hframe, by rw [hgot, hsent, hall], congrArg Prod.fst hsummary,
          (congrArg Prod.snd hsummary).trans hbytes⟩

/-! #### A frame without its first unit -/

/-- The packets of `twoNaluFrame` but the first. -/
def withoutFirstUnit : List (List Bytes) :=
  (sentPackets smallPacketizer [twoNaluFrame]).map List.tail

theorem withoutFirstUnit_sublist :
    List.Forall₂ List.Sublist withoutFirstUnit (sentPackets smallPacketizer [twoNaluFrame]) :=
  List.forall₂_map_left_iff.mpr (List.forall₂_same.mpr fun sent _ => List.tail_sublist sent)

/-- The frame is delivered all the same, with only one of its two units. -/
theorem withoutFirstUnit_delivered :
    ∃ s, runRtpReceive directClient (RtpReceiveState.start directClient)
        (rtpSession withoutFirstUnit) = some s ∧
      receivedDatagrams (rtpSession withoutFirstUnit) = withoutFirstUnit.flatten ∧
      List.Forall₂ List.Sublist withoutFirstUnit
        (sentPackets smallPacketizer [twoNaluFrame]) ∧
      ¬DeliversOnlyComplete smallPacketizer [twoNaluFrame] withoutFirstUnit s.delivered := by
  have hpayloads : (runRtpReceive directClient (RtpReceiveState.start directClient)
      (rtpSession withoutFirstUnit)).map (fun s => s.delivered.map ReceivedFrame.payload) =
      some [annexB [[0x65, 1, 2, 3, 4, 5, 6]]] := by decide +kernel
  obtain ⟨s, hs, hdelivered⟩ := Option.map_eq_some_iff.mp hpayloads
  refine ⟨s, hs, by decide +kernel, withoutFirstUnit_sublist, fun hcomplete => ?_⟩
  obtain ⟨d, hd, hpayload⟩ := List.map_eq_singleton_iff.mp hdelivered
  obtain ⟨i, frame, hframe, -, -, hall⟩ := hcomplete d (by rw [hd]; exact List.mem_singleton_self d)
  obtain rfl := List.mem_singleton.mp (List.mem_of_getElem? hframe)
  rw [hpayload] at hall
  exact absurd hall (by decide +kernel)

theorem withoutFirstUnit_iff :
    ∃ s, runRtpReceive directClient (RtpReceiveState.start directClient)
        (rtpSession withoutFirstUnit) = some s ∧
      (DeliversOnlyComplete smallPacketizer [twoNaluFrame] withoutFirstUnit s.delivered ↔
        acceptsPayloadType directClient (smallPacketizer.payloadType &&& 0x7F) = false ∨
          ∀ (i : ℕ) (sent got : List Bytes),
            (sentPackets smallPacketizer [twoNaluFrame])[i]? = some sent →
            withoutFirstUnit[i]? = some got → got ≠ sent →
            ¬LooksComplete (got.filterMap readRtpPacket)) := by
  obtain ⟨s, hs⟩ := Option.isSome_iff_exists.mp (by decide +kernel :
    (runRtpReceive directClient (RtpReceiveState.start directClient)
      (rtpSession withoutFirstUnit)).isSome = true)
  have hsendable : ∀ frame ∈ [twoNaluFrame], ∀ nalu ∈ splitAnnexBNalus frame.payload,
      Sendable nalu := by
    simpa using videoFrame_twoNaluFrame.sendable
  exact ⟨s, hs, receiveRtp_delivers_complete_iff directClient rfl smallPacketizer [twoNaluFrame]
    hsendable (by simp) withoutFirstUnit withoutFirstUnit_sublist _ s hs (by decide +kernel)⟩

end AvProject.Rtp
