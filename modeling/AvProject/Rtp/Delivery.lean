import AvProject.Rtp.Reception

/-!
What `ReceiveRtpFrame` delivers, without the jitter buffer, of the packets of a frame
that arrive.
-/

namespace AvProject.Rtp

open AvProject.Lib AvProject.Protocol AvProject.Client

/-- The datagrams that `recv` returns one after the other, each with the time of its
arrival, and the frames that this yields. -/
def receiveAll (cfg : ClientConfig) (st : StreamClient) :
    List (Bytes × ℕ) → StreamClient × List ReceivedFrame
  | [] => (st, [])
  | (data, nowNs) :: arrivals =>
      let first := receiveRtpDatagram cfg st data nowNs
      let rest := receiveAll cfg first.1 arrivals
      (rest.1, first.2.toList ++ rest.2)

/-- The datagrams of a run and their times. -/
def arrivalsOf (events : List RtpReceiveEvent) : List (Bytes × ℕ) :=
  events.filterMap fun
    | .datagram data nowNs => some (data, nowNs)
    | _ => none

theorem map_fst_arrivalsOf (events : List RtpReceiveEvent) :
    (arrivalsOf events).map Prod.fst = receivedDatagrams events := by
  rw [arrivalsOf, receivedDatagrams, List.map_filterMap]
  congr 1
  funext event
  cases event <;> rfl

theorem receiveAll_append (cfg : ClientConfig) (st : StreamClient)
    (arrivals arrivals' : List (Bytes × ℕ)) :
    receiveAll cfg st (arrivals ++ arrivals') =
      ((receiveAll cfg (receiveAll cfg st arrivals).1 arrivals').1,
        (receiveAll cfg st arrivals).2 ++
          (receiveAll cfg (receiveAll cfg st arrivals).1 arrivals').2) := by
  induction arrivals generalizing st with
  | nil => rfl
  | cons arrival arrivals ih =>
      rw [List.cons_append, receiveAll, receiveAll, ih]
      simp

/-- An empty datagram has no effect. -/
theorem receiveAll_of_nothing {event : RtpReceiveEvent} (h : event.received = [])
    (cfg : ClientConfig) (st : StreamClient) :
    receiveAll cfg st (arrivalsOf [event]) = (st, []) := by
  cases event with
  | datagram data nowNs =>
      obtain rfl : data = [] := h
      simp [arrivalsOf, receiveAll, receiveRtpDatagram, readRtpPacket, parseRtpHeader,
        kRtpHeaderSize]
  | _ => rfl

/-- Without the jitter buffer a step has no effect other than that of its datagram. -/
theorem rtpReceiveStep_eq {cfg : ClientConfig} (hjitter : cfg.udpJitterBufferEnabled = false)
    {event : RtpReceiveEvent} {s s' : RtpReceiveState}
    (hstep : rtpReceiveStep cfg s event = some s') :
    s'.client = (receiveAll cfg s.client (arrivalsOf [event])).1 ∧
      s'.delivered = s.delivered ++ (receiveAll cfg s.client (arrivalsOf [event])).2 := by
  cases rtpReceiveStep_effect hstep with
  | moved _ point hnothing =>
      rw [receiveAll_of_nothing hnothing]
      exact ⟨rfl, (List.append_nil s.delivered).symm⟩
  | popped _ _ _ _ hpops =>
      rw [hjitter] at hpops
      cases hpops
  | taken data nowNs =>
      have hone : receiveAll cfg s.client (arrivalsOf [.datagram data nowNs]) =
          ((receiveRtpDatagram cfg s.client data nowNs).1,
            (receiveRtpDatagram cfg s.client data nowNs).2.toList) := by
        simp [arrivalsOf, receiveAll]
      rw [hone]
      exact ⟨s.returnOr_client _ _, s.returnOr_delivered _ _⟩

/-- Without the jitter buffer only the datagrams of a run count. -/
theorem runRtpReceive_eq {cfg : ClientConfig} (hjitter : cfg.udpJitterBufferEnabled = false)
    {events : List RtpReceiveEvent} {s s' : RtpReceiveState}
    (hrun : runRtpReceive cfg s events = some s') :
    s'.delivered = s.delivered ++ (receiveAll cfg s.client (arrivalsOf events)).2 := by
  induction events generalizing s with
  | nil =>
      obtain rfl := Option.some.inj hrun
      simp [arrivalsOf, receiveAll]
  | cons event events ih =>
      rw [runRtpReceive, Option.bind_eq_some_iff] at hrun
      obtain ⟨next, hnext, hrest⟩ := hrun
      obtain ⟨hclient, hdelivered⟩ := rtpReceiveStep_eq hjitter hnext
      have hsplit : arrivalsOf (event :: events) = arrivalsOf [event] ++ arrivalsOf events := by
        rw [arrivalsOf, ← List.singleton_append, List.filterMap_append]
        rfl
      rw [ih hrest, hsplit, receiveAll_append, hclient, hdelivered, List.append_assoc]

/-! ### The packets of one frame -/

/-- The packet with the marker has arrived, and no gap can be seen before it. -/
def LooksComplete (arrived : List RtpPacket) : Prop :=
  (∃ packet ∈ arrived, packet.fields.marker = true) ∧ Seamless arrived

/-- The number of a frame and its payload. -/
def summary (frame : ReceivedFrame) : ℕ × Bytes := (frame.metadata.sequence, frame.payload)

section

variable {cfg : ClientConfig} {arrivals : List (Bytes × ℕ)} {arrived stream : List RtpPacket}
  {id : StreamId} {bytes : Bytes}

/-- The datagrams are those of the packets. -/
def Carry (arrivals : List (Bytes × ℕ)) (arrived : List RtpPacket) : Prop :=
  arrivals.map (fun arrival => readRtpPacket arrival.1) = arrived.map some

/-- Datagrams that the filter refuses do nothing. -/
theorem receiveAll_of_refused (st : StreamClient)
    (hrefused : ∀ arrival ∈ arrivals, ∀ packet ∈ readRtpPacket arrival.1,
      acceptsPayloadType cfg packet.fields.payloadType = false) :
    receiveAll cfg st arrivals = (st, []) := by
  induction arrivals with
  | nil => rfl
  | cons arrival arrivals ih =>
      obtain ⟨hfirst, hrest⟩ := List.forall_mem_cons.mp hrefused
      have hnothing : receiveRtpDatagram cfg st arrival.1 arrival.2 = (st, none) := by
        rw [receiveRtpDatagram]
        cases hread : readRtpPacket arrival.1 with
        | none => rfl
        | some packet =>
            simp only [hfirst packet hread]
            rfl
      simp only [receiveAll, hnothing, ih hrest]
      rfl

/-- Packets without the marker only go into the assembly. -/
theorem receiveAll_of_unmarked (st : StreamClient) (hcarry : Carry arrivals arrived)
    (haccepted : ∀ packet ∈ arrived, acceptsPayloadType cfg packet.fields.payloadType = true)
    (hunmarked : ∀ packet ∈ arrived, packet.fields.marker = false) :
    receiveAll cfg st arrivals =
      ({ st with
          rtpFrameAssembly := arrived.foldl (assembleRtpPacket cfg) st.rtpFrameAssembly }, []) := by
  induction arrivals generalizing arrived st with
  | nil =>
      cases arrived with
      | nil => rfl
      | cons packet arrived => simp [Carry] at hcarry
  | cons arrival arrivals ih =>
      cases arrived with
      | nil => simp [Carry] at hcarry
      | cons packet arrived =>
          obtain ⟨hread, hrest⟩ := List.cons.inj hcarry
          obtain ⟨hpacket, hlater⟩ := List.forall_mem_cons.mp haccepted
          obtain ⟨hmarker, hlaterMarker⟩ := List.forall_mem_cons.mp hunmarked
          have hone : receiveRtpDatagram cfg st arrival.1 arrival.2 =
              ({ st with
                  rtpFrameAssembly := assembleRtpPacket cfg st.rtpFrameAssembly packet }, none) := by
            simp only [receiveRtpDatagram, hread, hpacket, hmarker]
            rfl
          simp only [receiveAll, hone, ih _ hrest hlater hlaterMarker]
          rfl

theorem finishRtpFrame_eq (hjitter : cfg.udpJitterBufferEnabled = false) (st : StreamClient)
    (nowNs : ℕ) :
    finishRtpFrame cfg st nowNs =
      (resetRtpState st,
        if st.rtpFrameAssembly.ready then some (completedRtpFrame cfg st.rtpFrameAssembly nowNs)
        else none) := by
  rw [finishRtpFrame, hjitter]
  cases st.rtpFrameAssembly.ready <;> rfl

/-- The assembly is of another frame, or of none. -/
def ForeignTo (a : RtpFrameAssembly) (id : StreamId) : Prop :=
  a.active = false ∨ a.timestamp ≠ id.timestamp

theorem ForeignTo.toPacket {a : RtpFrameAssembly} {packet : RtpPacket} (h : ForeignTo a id)
    (hpacket : BelongsTo packet id) : Foreign a packet := by
  rcases h with hinactive | htimestamp
  · exact .inl hinactive
  · exact .inr (.inl (hpacket.1 ▸ htimestamp))

theorem Carry.append {arrived' : List RtpPacket} (h : Carry arrivals (arrived ++ arrived')) :
    ∃ first second, arrivals = first ++ second ∧ Carry first arrived ∧ Carry second arrived' := by
  rw [Carry, List.map_append, List.map_eq_append_iff] at h
  obtain ⟨first, second, hsplit, hfirst, hsecond⟩ := h
  exact ⟨first, second, hsplit, hfirst, hsecond⟩

theorem naluBytes_ne_nil {payload : Bytes} (hwellFormed : WellFormed payload) :
    naluBytes payload ≠ [] := by
  rw [naluBytes]
  split
  · rename_i htype
    rcases hwellFormed with ⟨-, hlt⟩ | ⟨-, hlength⟩
    · rw [htype] at hlt
      exact absurd hlt (by decide)
    · split
      · apply List.ne_nil_of_length_pos
        rw [List.length_drop]
        omega
      · simp
  · simp

variable (cfg) in
theorem timestamp_foldl_assembleRtpPacket {a : RtpFrameAssembly} {packet : RtpPacket}
    {rest : List RtpPacket} (hforeign : ForeignTo a id)
    (harrived : ∀ r ∈ packet :: rest, BelongsTo r id ∧ WellFormed r.payload) :
    ((packet :: rest).foldl (assembleRtpPacket cfg) a).timestamp = id.timestamp := by
  obtain ⟨last, hlast, htracks, -⟩ :=
    foldl_assembleRtpPacket_of_foreign cfg (hforeign.toPacket (harrived packet (by simp)).1)
      harrived
  exact htracks.timestamp.trans (harrived last (List.mem_of_getLast? hlast)).1.1

/-- The packet with the marker ends the frame. -/
theorem receiveAll_of_marked (hjitter : cfg.udpJitterBufferEnabled = false) (st : StreamClient)
    {last : RtpPacket} (hcarry : Carry arrivals [last])
    (haccepted : acceptsPayloadType cfg last.fields.payloadType = true)
    (hmarker : last.fields.marker = true) :
    ∃ nowNs, receiveAll cfg st arrivals =
      (resetRtpState st,
        if (assembleRtpPacket cfg st.rtpFrameAssembly last).ready then
          [completedRtpFrame cfg (assembleRtpPacket cfg st.rtpFrameAssembly last) nowNs]
        else []) := by
  obtain ⟨⟨data, nowNs⟩, rfl, hread⟩ := List.map_eq_singleton_iff.mp hcarry
  have hone : receiveRtpDatagram cfg st data nowNs =
      finishRtpFrame cfg
        { st with rtpFrameAssembly := assembleRtpPacket cfg st.rtpFrameAssembly last } nowNs := by
    simp only [receiveRtpDatagram, hread, haccepted, hmarker]
    rfl
  refine ⟨nowNs, ?_⟩
  simp only [receiveAll, hone, finishRtpFrame_eq hjitter]
  cases (assembleRtpPacket cfg st.rtpFrameAssembly last).ready <;> rfl

variable (cfg) in
/-- With the packet that ends its frame, an assembly is ready if there is no gap. -/
theorem ready_iff_seamless {a : RtpFrameAssembly} (hforeign : ForeignTo a id)
    (harrived : ∀ packet ∈ arrived, BelongsTo packet id ∧ WellFormed packet.payload)
    {last : RtpPacket} (hlast : arrived.getLast? = some last)
    (hclosed : ¬LeavesNaluOpen last.payload) :
    (Seamless arrived → (arrived.foldl (assembleRtpPacket cfg) a).ready = true ∧
        (arrived.foldl (assembleRtpPacket cfg) a).payload = packetBytes arrived) ∧
      (¬Seamless arrived → (arrived.foldl (assembleRtpPacket cfg) a).ready = false) ∧
      (arrived.foldl (assembleRtpPacket cfg) a).timestamp = id.timestamp := by
  cases arrived with
  | nil => simp at hlast
  | cons packet rest =>
      obtain ⟨hbelongs, hwellFormed⟩ := harrived packet List.mem_cons_self
      have hforeign' := hforeign.toPacket hbelongs
      obtain ⟨last', hlast', htracks, hwhole, hdamaged⟩ :=
        foldl_assembleRtpPacket_of_foreign cfg hforeign' harrived
      obtain rfl : last' = last := Option.some.inj (hlast'.symm.trans hlast)
      have hmem := List.mem_of_getLast? hlast
      refine ⟨fun hseamless => ?_, fun hseamless => ?_, ?_⟩
      · obtain ⟨hundamaged, hopen, hpayload⟩ := hwhole hseamless
        have hne : packetBytes (packet :: rest) ≠ [] := by
          rw [packetBytes, List.flatMap_cons]
          exact List.append_ne_nil_of_left_ne_nil (naluBytes_ne_nil hwellFormed) _
        rw [decide_eq_false hclosed] at hopen
        refine ⟨?_, hpayload⟩
        rw [RtpFrameAssembly.ready, htracks.active, hpayload, hundamaged, hopen]
        simpa using hne
      · rw [RtpFrameAssembly.ready, hdamaged hseamless]
        simp
      · exact htracks.timestamp.trans (harrived last' hmem).1.1

/-- A frame is delivered if what arrives of it looks complete. -/
theorem receiveAll_frame (hjitter : cfg.udpJitterBufferEnabled = false)
    (haccepts : acceptsPayloadType cfg id.payloadType = true)
    (hstream : FrameStream id stream bytes) (hsub : arrived.Sublist stream)
    (hcarry : Carry arrivals arrived) {st : StreamClient}
    (hforeign : ForeignTo st.rtpFrameAssembly id) :
    (LooksComplete arrived →
        (receiveAll cfg st arrivals).2.map summary =
          [(id.timestamp.toNat, packetBytes arrived)]) ∧
      (¬LooksComplete arrived → (receiveAll cfg st arrivals).2 = []) ∧
      ((receiveAll cfg st arrivals).1.rtpFrameAssembly.active = false ∨
        (∀ packet ∈ arrived, packet.fields.marker = false) ∧
          ((receiveAll cfg st arrivals).1.rtpFrameAssembly.timestamp = id.timestamp ∨
            (receiveAll cfg st arrivals).1.rtpFrameAssembly = st.rtpFrameAssembly)) := by
  have hwellFormed (packet) (h : packet ∈ arrived) : BelongsTo packet id ∧
      WellFormed packet.payload :=
    ⟨hstream.belongs packet (hsub.subset h),
      hstream.spells.wellFormed _ (List.mem_map_of_mem (hsub.subset h))⟩
  have haccepted (packet) (h : packet ∈ arrived) :
      acceptsPayloadType cfg packet.fields.payloadType = true := by
    rw [(hwellFormed packet h).1.2.2]
    exact haccepts
  obtain ⟨init, last, rfl, hmarker, hunmarked⟩ := hstream.marked
  obtain ⟨before, final, rfl, hbefore, hfinal⟩ := List.sublist_append_iff.mp hsub
  have hbeforeMarker (packet) (h : packet ∈ before) : packet.fields.marker = false :=
    hunmarked packet (hbefore.subset h)
  rcases List.sublist_singleton.mp hfinal with rfl | rfl
  · -- the last packet is lost
    rw [List.append_nil] at *
    rw [receiveAll_of_unmarked st hcarry haccepted hbeforeMarker]
    refine ⟨fun hcomplete => ?_, fun _ => rfl, .inr ⟨hbeforeMarker, ?_⟩⟩
    · obtain ⟨⟨packet, hpacket, hmarked⟩, -⟩ := hcomplete
      rw [hbeforeMarker packet hpacket] at hmarked
      exact absurd hmarked Bool.false_ne_true
    · cases before with
      | nil => exact .inr rfl
      | cons packet rest => exact .inl (timestamp_foldl_assembleRtpPacket cfg hforeign hwellFormed)
  · -- the last packet is there
    obtain ⟨first, second, rfl, hfirst, hsecond⟩ := hcarry.append
    have hunmarkedPart := receiveAll_of_unmarked st hfirst
      (fun packet h => haccepted packet (List.mem_append_left _ h)) hbeforeMarker
    obtain ⟨nowNs, hmarkedPart⟩ := receiveAll_of_marked hjitter
      { st with rtpFrameAssembly := before.foldl (assembleRtpPacket cfg) st.rtpFrameAssembly }
      hsecond (haccepted last (by simp)) hmarker
    have hclosed : ¬LeavesNaluOpen last.payload := hstream.spells.last _ (by simp)
    obtain ⟨hready, hdamaged, htimestamp⟩ := ready_iff_seamless cfg hforeign hwellFormed
      (by simp : (before ++ [last]).getLast? = some last) hclosed
    rw [List.foldl_append, List.foldl_cons, List.foldl_nil] at hready hdamaged htimestamp
    rw [receiveAll_append, hunmarkedPart, hmarkedPart, List.nil_append]
    refine ⟨fun hcomplete => ?_, fun hcomplete => ?_, .inl rfl⟩
    · obtain ⟨hreadyTrue, hpayload⟩ := hready hcomplete.2
      rw [if_pos hreadyTrue, List.map_singleton, ← htimestamp, ← hpayload]
      rfl
    · have hgap : ¬Seamless (before ++ [last]) := fun h => hcomplete ⟨⟨last, by simp, hmarker⟩, h⟩
      rw [hdamaged hgap]
      rfl

end

end AvProject.Rtp
