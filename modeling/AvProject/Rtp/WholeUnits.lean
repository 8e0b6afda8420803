import AvProject.Rtp.Playout
import AvProject.Rtp.Reception

/-!
The NAL units of a delivered frame. A frame is made of whole units as long as no packet
begins a unit while the one before it is still open; the receiver does not notice when
one does.
-/

namespace AvProject.Rtp

open AvProject.Lib AvProject.Protocol AvProject.Client

/-! ### Units -/

/-- A payload that is a NAL unit of its own. -/
def IsSingleNalu (payload : Bytes) : Prop := 0 < nalType payload ∧ nalType payload < 24

/-- A FU-A fragment that carries data. -/
def IsFragment (payload : Bytes) : Prop := nalType payload = kH264FuAType ∧ 2 < payload.length

/-- A fragment with the start bit. -/
def StartsNalu (payload : Bytes) : Prop := IsFragment payload ∧ byteAt payload 1 &&& 0x80 ≠ 0

/-- What a start fragment has of its unit. -/
def beginningOfNalu (payload : Bytes) : Bytes :=
  ((byteAt payload 0 &&& 0xE0) ||| (byteAt payload 1 &&& 0x1F)) :: payload.drop 2

/-- A run of fragments from a start fragment on, with what they have of the unit. None but
the last one has the end bit, and the sequence numbers are consecutive. -/
inductive FragmentRun : List RtpPacket → Bytes → Prop
  | start (packet : RtpPacket) (hstart : StartsNalu packet.payload) :
      FragmentRun [packet] (beginningOfNalu packet.payload)
  | next (run : List RtpPacket) (nalu : Bytes) (packet : RtpPacket) (h : FragmentRun run nalu)
      (hopen : ∀ last ∈ run.getLast?, LeavesNaluOpen last.payload ∧ Consecutive last packet)
      (hfragment : IsFragment packet.payload) (hcontinues : ContinuesNalu packet.payload) :
      FragmentRun (run ++ [packet]) (nalu ++ packet.payload.drop 2)

/-- The packets of one whole NAL unit. -/
inductive NaluPackets : List RtpPacket → Bytes → Prop
  | single (packet : RtpPacket) (h : IsSingleNalu packet.payload) :
      NaluPackets [packet] packet.payload
  | fragments (run : List RtpPacket) (nalu : Bytes) (h : FragmentRun run nalu)
      (hend : ∀ last ∈ run.getLast?, ¬LeavesNaluOpen last.payload) : NaluPackets run nalu

/-- The packets are those of whole units, which the payload has behind start codes. -/
def MadeOfNalus (packets : List RtpPacket) (payload : Bytes) : Prop :=
  ∃ units : List (List RtpPacket × Bytes), (∀ unit ∈ units, NaluPackets unit.1 unit.2) ∧
    packets = units.flatMap Prod.fst ∧ payload = annexB (units.map Prod.snd)

/-- Whole units, and after them one that is open. -/
def EndsOpen (packets : List RtpPacket) (payload : Bytes) : Prop :=
  ∃ before whole run nalu, MadeOfNalus before whole ∧ FragmentRun run nalu ∧
    (∀ last ∈ run.getLast?, LeavesNaluOpen last.payload) ∧
    packets = before ++ run ∧ payload = whole ++ ([0, 0, 0, 1] ++ nalu)

/-- What a frame may be made of so far, with a unit open or not. -/
def MadeOfUnits (isOpen : Bool) (packets : List RtpPacket) (payload : Bytes) : Prop :=
  match isOpen with
  | true => EndsOpen packets payload
  | false => MadeOfNalus packets payload

section

variable {packets : List RtpPacket} {payload : Bytes} {packet : RtpPacket} {isOpen : Bool}

theorem MadeOfNalus.nil : MadeOfNalus [] [] := ⟨[], by simp, rfl, rfl⟩

theorem MadeOfNalus.append {run : List RtpPacket} {nalu : Bytes} (h : MadeOfNalus packets payload)
    (hrun : NaluPackets run nalu) :
    MadeOfNalus (packets ++ run) (payload ++ ([0, 0, 0, 1] ++ nalu)) := by
  obtain ⟨units, hunits, rfl, rfl⟩ := h
  refine ⟨units ++ [(run, nalu)], ?_, by simp, by simp [annexB]⟩
  intro unit hmem
  rcases List.mem_append.mp hmem with hold | hnew
  · exact hunits unit hold
  · rw [List.mem_singleton.mp hnew]
    exact hrun

theorem FragmentRun.ne_nil {run : List RtpPacket} {nalu : Bytes} (h : FragmentRun run nalu) :
    run ≠ [] := by
  cases h <;> simp

/-- A fragment run goes behind whole units, as one more or as an open one. -/
theorem MadeOfNalus.append_run {run : List RtpPacket} {nalu : Bytes}
    (h : MadeOfNalus packets payload) (hrun : FragmentRun run nalu)
    (hlast : run.getLast? = some packet) :
    MadeOfUnits (decide (LeavesNaluOpen packet.payload)) (packets ++ run)
      (payload ++ ([0, 0, 0, 1] ++ nalu)) := by
  by_cases hopen : LeavesNaluOpen packet.payload
  · rw [decide_eq_true hopen]
    refine ⟨packets, payload, run, nalu, h, hrun, fun last hmem => ?_, rfl, rfl⟩
    obtain rfl : packet = last := Option.some.inj (hlast.symm.trans hmem)
    exact hopen
  · rw [decide_eq_false hopen]
    refine h.append (.fragments run nalu hrun fun last hmem => ?_)
    obtain rfl : packet = last := Option.some.inj (hlast.symm.trans hmem)
    exact hopen

/-- Where the packets are those of whole units, the fragment after one without the end bit
continues it: no unit has been left open by the beginning of another one. -/
theorem MadeOfNalus.isChain (h : MadeOfNalus packets payload) :
    packets.IsChain fun packet next =>
      LeavesNaluOpen packet.payload → ContinuesNalu next.payload := by
  obtain ⟨units, hunits, rfl, -⟩ := h
  have hfragments {run : List RtpPacket} {nalu : Bytes} (hrun : FragmentRun run nalu) :
      run.IsChain fun packet next =>
        LeavesNaluOpen packet.payload → ContinuesNalu next.payload := by
    induction hrun with
    | start packet => exact List.isChain_singleton _
    | next run nalu packet h hopen hfragment hcontinues ih =>
        rw [List.isChain_append]
        refine ⟨ih, List.isChain_singleton _, fun _ _ next hmem _ => ?_⟩
        obtain rfl : packet = next := Option.some.inj hmem
        exact hcontinues
  induction units with
  | nil => exact List.isChain_nil
  | cons unit units ih =>
      obtain ⟨hunit, hrest⟩ := List.forall_mem_cons.mp hunits
      obtain ⟨run, nalu⟩ := unit
      rw [List.flatMap_cons, List.isChain_append]
      cases hunit with
      | single packet hsingle =>
          refine ⟨List.isChain_singleton _, ih hrest, fun last hmem _ _ hopen => ?_⟩
          obtain rfl : packet = last := Option.some.inj hmem
          obtain ⟨-, hlt⟩ := hsingle
          rw [hopen.1] at hlt
          exact absurd hlt (by decide)
      | fragments _ _ hrun hend =>
          exact ⟨hfragments hrun, ih hrest, fun last hmem _ _ hopen =>
            absurd hopen (hend last hmem)⟩

/-- One more packet that begins a unit, or continues the open one. -/
theorem MadeOfUnits.append (h : MadeOfUnits isOpen packets payload)
    (hwellFormed : WellFormed packet.payload)
    (hfits : ContinuesNalu packet.payload ↔ isOpen = true)
    (hnext : isOpen = true → ∀ last ∈ packets.getLast?, Consecutive last packet) :
    MadeOfUnits (decide (LeavesNaluOpen packet.payload)) (packets ++ [packet])
      (payload ++ naluBytes packet.payload) := by
  cases isOpen with
  | false =>
      have hbegins : ¬ContinuesNalu packet.payload := fun h => Bool.false_ne_true (hfits.mp h)
      rcases hwellFormed with hsingle | hfragment
      · -- a single unit
        have htype : nalType packet.payload ≠ kH264FuAType := by
          intro heq
          rw [heq] at hsingle
          exact absurd hsingle.2 (by decide)
        rw [decide_eq_false fun hopen : LeavesNaluOpen packet.payload => htype hopen.1, naluBytes,
          if_neg htype]
        exact MadeOfNalus.append h (.single packet hsingle)
      · have hfirst : ¬(byteAt packet.payload 1 &&& 0x80 = 0) :=
          fun hzero => hbegins ⟨hfragment.1, hzero⟩
        rw [naluBytes, if_pos hfragment.1, if_neg hfirst]
        exact MadeOfNalus.append_run h (.start packet ⟨hfragment, hfirst⟩) rfl
  | true =>
      obtain ⟨before, whole, run, nalu, hbefore, hrun, hopen, rfl, rfl⟩ := h
      have hcontinues : ContinuesNalu packet.payload := hfits.mpr rfl
      have hfragment : IsFragment packet.payload := by
        rcases hwellFormed with ⟨-, hlt⟩ | hfragment
        · rw [hcontinues.1] at hlt
          exact absurd hlt (by decide)
        · exact hfragment
      have hrun' := FragmentRun.next run nalu packet hrun (fun last hmem => ⟨hopen last hmem, by
        refine hnext rfl last ?_
        rw [List.getLast?_append_of_ne_nil _ hrun.ne_nil]
        exact hmem⟩) hfragment hcontinues
      have hmade := hbefore.append_run hrun' List.getLast?_concat
      rw [naluBytes, if_pos hcontinues.1, if_pos hcontinues.2]
      simpa only [List.append_assoc] using hmade

end

/-! ### Frames -/

/-- Packets of one timestamp and source. -/
def SameFrame (packet next : RtpPacket) : Prop :=
  packet.fields.timestamp = next.fields.timestamp ∧ packet.fields.ssrc = next.fields.ssrc

instance (packet next : RtpPacket) : Decidable (SameFrame packet next) :=
  inferInstanceAs (Decidable (_ ∧ _))

/-- A packet joins the frame before it, unless that has had its marker or is another one. -/
def joinFrame (frame : List RtpPacket) (packet : RtpPacket) : List RtpPacket :=
  match frame.getLast? with
  | none => [packet]
  | some last =>
      if last.fields.marker = false ∧ SameFrame last packet then frame ++ [packet] else [packet]

/-- The packets of the frame that arrived last. -/
def lastFrame (arrived : List RtpPacket) : List RtpPacket := arrived.foldl joinFrame []

/-- The frame has been made of the packets that had arrived for it when its marker came,
and these are packets of whole units. -/
def IsWhole (accepted : List RtpPacket) (frame : ReceivedFrame) : Prop :=
  ∃ arrived last, arrived <+: accepted ∧ (lastFrame arrived).getLast? = some last ∧
    last.fields.marker = true ∧ frame.metadata.sequence = last.fields.timestamp.toNat ∧
    MadeOfNalus (lastFrame arrived) frame.payload

theorem IsWhole.mono {accepted accepted' : List RtpPacket} {frame : ReceivedFrame}
    (h : IsWhole accepted frame) (harrives : accepted <+: accepted') : IsWhole accepted' frame := by
  obtain ⟨arrived, last, harrived, hrest⟩ := h
  exact ⟨arrived, last, harrived.trans harrives, hrest⟩

@[simp] theorem lastFrame_append (arrived : List RtpPacket) (packet : RtpPacket) :
    lastFrame (arrived ++ [packet]) = joinFrame (lastFrame arrived) packet := by
  rw [lastFrame, List.foldl_append]
  rfl

/-- The packet is the last one of the frame it joins. -/
theorem joinFrame_cases (frame : List RtpPacket) (packet : RtpPacket) :
    (∃ last, frame.getLast? = some last ∧ last.fields.marker = false ∧ SameFrame last packet ∧
        joinFrame frame packet = frame ++ [packet]) ∨
      joinFrame frame packet = [packet] := by
  rw [joinFrame]
  split
  · exact .inr rfl
  · rename_i last hlast
    split
    · rename_i hjoins
      exact .inl ⟨last, hlast, hjoins.1, hjoins.2, rfl⟩
    · exact .inr rfl

/-! ### The assembly -/

/-- What the assembly has of the frame that arrived last: nothing if its marker has come. -/
inductive Assembles (a : RtpFrameAssembly) (frame : List RtpPacket) : Prop
  | idle (hinactive : a.active = false)
      (hend : ∀ last ∈ frame.getLast?, last.fields.marker = true)
  | busy (last : RtpPacket) (hlast : frame.getLast? = some last)
      (hunmarked : last.fields.marker = false) (htracks : Tracks a last)
      (hunits : a.frameDamaged = false → MadeOfUnits a.fuInProgress frame a.payload)

/-- The packet begins a unit although the frame it belongs to has one open. -/
def Interrupts (a : RtpFrameAssembly) (packet : RtpPacket) : Prop :=
  a.active = true ∧ a.timestamp = packet.fields.timestamp ∧ a.ssrc = packet.fields.ssrc ∧
    a.nextSequenceNumber = packet.fields.sequenceNumber ∧
    a.fuInProgress = true ∧ a.frameDamaged = false ∧
    (IsSingleNalu packet.payload ∨ StartsNalu packet.payload)

/-- What the assembly has of the frame before the payload of its newest packet is added. -/
structure Expects (a : RtpFrameAssembly) (earlier : List RtpPacket) (packet : RtpPacket) :
    Prop where
  tracks : Tracks a packet
  units : a.frameDamaged = false → MadeOfUnits a.fuInProgress earlier a.payload
  next : a.frameDamaged = false → a.fuInProgress = true →
    ∀ last ∈ earlier.getLast?, Consecutive last packet
  begins : a.frameDamaged = false → a.fuInProgress = true →
    ¬(IsSingleNalu packet.payload ∨ StartsNalu packet.payload)

section

variable {a : RtpFrameAssembly} {frame : List RtpPacket} {packet : RtpPacket}

/-- The sequence number decides whether the assembly goes on. -/
theorem Assembles.track (h : Assembles a frame) (hinterrupts : ¬Interrupts a packet) :
    ∃ earlier, joinFrame frame packet = earlier ++ [packet] ∧
      Expects (trackRtpSequence a packet.fields) earlier packet := by
  have hnew (hforeign : Foreign a packet) :
      Expects (trackRtpSequence a packet.fields) [] packet := by
    have hfresh : (!a.active || a.timestamp != packet.fields.timestamp ||
        a.ssrc != packet.fields.ssrc) = true := by
      rcases hforeign with h | h | h <;> simp [h]
    rw [trackRtpSequence, if_pos hfresh]
    exact ⟨⟨rfl, rfl, rfl, rfl, rfl⟩, fun _ => .nil, fun _ hopen => (by cases hopen),
      fun _ hopen => (by cases hopen)⟩
  cases h with
  | idle hinactive hend =>
      refine ⟨[], ?_, hnew (.inl hinactive)⟩
      rcases joinFrame_cases frame packet with ⟨last, hlast, hunmarked, -⟩ | hjoin
      · rw [hend last hlast] at hunmarked
        cases hunmarked
      · exact hjoin
  | busy last hlast hunmarked htracks hunits =>
      by_cases hsame : SameFrame last packet
      · refine ⟨frame, ?_, ?_⟩
        · rw [joinFrame, hlast]
          exact if_pos ⟨hunmarked, hsame⟩
        have hgoes : ¬(!a.active || a.timestamp != packet.fields.timestamp ||
            a.ssrc != packet.fields.ssrc) = true := by
          simp [htracks.active, htracks.timestamp, htracks.ssrc, hsame.1, hsame.2]
        have htimestamp := htracks.timestamp.trans hsame.1
        have hssrc := htracks.ssrc.trans hsame.2
        rw [trackRtpSequence, if_neg hgoes]
        split
        · -- a gap: the frame is damaged
          exact ⟨⟨htracks.active, htimestamp, hssrc, htracks.hasSequence, rfl⟩,
            fun hundamaged => (by cases hundamaged), fun hundamaged => (by cases hundamaged),
            fun hundamaged => (by cases hundamaged)⟩
        · rename_i hexpected
          have hnext : packet.fields.sequenceNumber = a.nextSequenceNumber := by
            simpa [htracks.hasSequence] using hexpected
          refine ⟨⟨htracks.active, htimestamp, hssrc, rfl, rfl⟩, hunits, ?_, ?_⟩
          · intro _ _ other hmem
            obtain rfl : last = other := Option.some.inj (hlast.symm.trans hmem)
            exact hnext.trans htracks.next
          · intro hundamaged hopen hbegins
            exact hinterrupts ⟨htracks.active, htimestamp, hssrc, hnext.symm, hopen, hundamaged,
              hbegins⟩
      · refine ⟨[], ?_, hnew ?_⟩
        · rw [joinFrame, hlast]
          exact if_neg fun hjoins => hsame hjoins.2
        · rw [SameFrame, not_and_or, ← htracks.timestamp, ← htracks.ssrc] at hsame
          exact .inr hsame

/-- A payload that is neither a unit nor a fragment damages the frame. -/
theorem appendRtpPayload_of_malformed (a : RtpFrameAssembly) {payload : Bytes}
    (hne : payload ≠ []) (hmalformed : ¬WellFormed payload) :
    appendRtpPayload a payload = a.damage := by
  rw [WellFormed, not_or, not_and] at hmalformed
  obtain ⟨hsingle, hfragment⟩ := hmalformed
  simp only [appendRtpPayload]
  rw [if_neg hne, if_neg fun h => hsingle h.1 h.2]
  split
  · rename_i hshort
    have hlength : payload.length ≤ 2 := Nat.le_of_not_lt fun hlt => hfragment ⟨hshort.1, hlt⟩
    rw [if_pos hlength]
    split
    · rfl
    · rw [if_pos (by simp [hlength])]
  · rfl

/-- The payload of a packet that interrupts nothing adds to the units or damages the frame. -/
theorem Expects.append {earlier : List RtpPacket} (h : Expects a earlier packet)
    (hne : packet.payload ≠ []) :
    Tracks (appendRtpPayload a packet.payload) packet ∧
      ((appendRtpPayload a packet.payload).frameDamaged = false →
        MadeOfUnits (appendRtpPayload a packet.payload).fuInProgress (earlier ++ [packet])
          (appendRtpPayload a packet.payload).payload) := by
  have hdamage : Tracks a.damage packet ∧ (a.damage.frameDamaged = false →
      MadeOfUnits a.damage.fuInProgress (earlier ++ [packet]) a.damage.payload) :=
    ⟨⟨h.tracks.active, h.tracks.timestamp, h.tracks.ssrc, h.tracks.hasSequence, h.tracks.next⟩,
      fun hundamaged => by cases hundamaged⟩
  by_cases hwellFormed : WellFormed packet.payload
  · rcases appendRtpPayload_cases a hwellFormed with ⟨hfollows, heq⟩ | ⟨-, heq⟩
    · rw [heq]
      refine ⟨⟨h.tracks.active, h.tracks.timestamp, h.tracks.ssrc, h.tracks.hasSequence,
        h.tracks.next⟩, fun hundamaged => ?_⟩
      refine (h.units hundamaged).append hwellFormed ⟨hfollows, fun hopen => ?_⟩
        (h.next hundamaged)
      -- Nothing but a continuation comes while a unit is open.
      have hbegins := h.begins hundamaged hopen
      rcases hwellFormed with hsingle | hfragment
      · exact absurd (.inl hsingle) hbegins
      · refine ⟨hfragment.1, ?_⟩
        by_contra hfirst
        exact hbegins (.inr ⟨hfragment, hfirst⟩)
    · rw [heq]
      exact hdamage
  · rw [appendRtpPayload_of_malformed a hne hwellFormed]
    exact hdamage

end

/-! ### The receiver -/

/-- The packet that a datagram holds, when the receiver takes it. -/
def acceptedPacket (cfg : ClientConfig) (data : Bytes) : Option RtpPacket :=
  (readRtpPacket data).filter fun packet => acceptsPayloadType cfg packet.fields.payloadType

theorem acceptedPacket_payload {cfg : ClientConfig} {data : Bytes} {packet : RtpPacket}
    (h : acceptedPacket cfg data = some packet) : packet.payload ≠ [] := by
  rw [acceptedPacket, Option.filter_eq_some_iff, readRtpPacket] at h
  obtain ⟨h, -⟩ := h
  split at h
  · cases h
  · split at h
    · cases h
    · rename_i header hlength
      cases h
      intro hempty
      have hdrop := congrArg List.length hempty
      rw [List.length_drop, List.length_nil] at hdrop
      omega

/-- The frame that a packet completes. -/
def completedWith (cfg : ClientConfig) (a : RtpFrameAssembly) (packet : RtpPacket) (nowNs : ℕ) :
    Option ReceivedFrame :=
  if packet.fields.marker = true ∧ (assembleRtpPacket cfg a packet).ready = true then
    some (completedRtpFrame cfg (assembleRtpPacket cfg a packet) nowNs)
  else none

theorem completedWith_eq_some {cfg : ClientConfig} {a : RtpFrameAssembly} {packet : RtpPacket}
    {nowNs : ℕ} {frame : ReceivedFrame} : completedWith cfg a packet nowNs = some frame ↔
      (packet.fields.marker = true ∧ (assembleRtpPacket cfg a packet).ready = true) ∧
        completedRtpFrame cfg (assembleRtpPacket cfg a packet) nowNs = frame := by
  rw [completedWith, Option.ite_none_right_eq_some, Option.some.injEq]

section

variable (cfg : ClientConfig) (st : StreamClient) (nowNs : ℕ)

theorem receiveRtpDatagram_of_rejected {data : Bytes} (h : acceptedPacket cfg data = none) :
    receiveRtpDatagram cfg st data nowNs = (st, none) := by
  rw [acceptedPacket] at h
  rw [receiveRtpDatagram]
  cases hread : readRtpPacket data with
  | none => rfl
  | some packet =>
      rw [hread, Option.filter_some_eq_none] at h
      simp [h]

theorem bufferCompletedUdpFrame_udpJitterBuffer (frame : ReceivedFrame) :
    (bufferCompletedUdpFrame st frame).udpJitterBuffer = st.udpJitterBuffer ∨
      (bufferCompletedUdpFrame st frame).udpJitterBuffer =
        st.udpJitterBuffer.insert frame.metadata.sequence
          { frame := frame, bufferedTimestampNs := frame.receiveTimestampNs } := by
  rw [bufferCompletedUdpFrame]
  split
  · exact .inl rfl
  · exact .inr rfl

/-- What the receiver does with a packet that it takes. -/
theorem receiveRtpDatagram_of_accepted {data : Bytes} {packet : RtpPacket}
    (h : acceptedPacket cfg data = some packet) :
    (receiveRtpDatagram cfg st data nowNs).1.rtpFrameAssembly =
        (if packet.fields.marker then {}
          else assembleRtpPacket cfg st.rtpFrameAssembly packet) ∧
      ((receiveRtpDatagram cfg st data nowNs).2 = none ∨
        (receiveRtpDatagram cfg st data nowNs).2 =
          completedWith cfg st.rtpFrameAssembly packet nowNs) ∧
      ((receiveRtpDatagram cfg st data nowNs).1.udpJitterBuffer = st.udpJitterBuffer ∨
        ∃ frame, completedWith cfg st.rtpFrameAssembly packet nowNs = some frame ∧
          (receiveRtpDatagram cfg st data nowNs).1.udpJitterBuffer =
            st.udpJitterBuffer.insert frame.metadata.sequence
              { frame := frame, bufferedTimestampNs := frame.receiveTimestampNs }) := by
  rw [acceptedPacket, Option.filter_eq_some_iff] at h
  obtain ⟨hread, haccepts⟩ := h
  simp only [receiveRtpDatagram, hread, haccepts, completedWith, Bool.not_true,
    Bool.false_eq_true, if_false]
  cases hmarker : packet.fields.marker with
  | false => exact ⟨rfl, .inl rfl, .inl rfl⟩
  | true =>
      simp only [finishRtpFrame]
      cases hready : (assembleRtpPacket cfg st.rtpFrameAssembly packet).ready with
      | false => exact ⟨rfl, .inl rfl, .inl rfl⟩
      | true =>
          cases hjitter : cfg.udpJitterBufferEnabled with
          | false => exact ⟨rfl, .inr rfl, .inl rfl⟩
          | true =>
              refine ⟨rfl, .inl rfl, ?_⟩
              have hcore := onCompletedUdpFrame_core
                { st with rtpFrameAssembly := assembleRtpPacket cfg st.rtpFrameAssembly packet }
                (completedRtpFrame cfg (assembleRtpPacket cfg st.rtpFrameAssembly packet) nowNs)
                nowNs
              have hsame := congrArg ReceiverCore.udpJitterBuffer hcore
              simp only [StreamClient.core] at hsame
              have hinserts := bufferCompletedUdpFrame_udpJitterBuffer (onCompletedUdpFrame
                { st with rtpFrameAssembly := assembleRtpPacket cfg st.rtpFrameAssembly packet }
                (completedRtpFrame cfg (assembleRtpPacket cfg st.rtpFrameAssembly packet) nowNs)
                nowNs) (completedRtpFrame cfg
                  (assembleRtpPacket cfg st.rtpFrameAssembly packet) nowNs)
              rw [hsame] at hinserts
              exact hinserts.imp_right fun h => ⟨_, if_pos ⟨trivial, rfl⟩, h⟩

theorem emitExpectedUdpFrame_rtpFrameAssembly (targetDelayNs : ℕ) (expected : BufferedUdpFrame) :
    (emitExpectedUdpFrame cfg st nowNs targetDelayNs expected).1.rtpFrameAssembly =
      st.rtpFrameAssembly := by
  simp only [emitExpectedUdpFrame]
  split
  · rfl
  · rfl

/-- The jitter buffer has nothing to do with the frame that is being put together. -/
theorem tryPopReadyRtpFrame_rtpFrameAssembly :
    (tryPopReadyRtpFrame cfg st nowNs).1.rtpFrameAssembly = st.rtpFrameAssembly := by
  have htarget : (currentJitterBufferTargetDelayNs cfg st).2.rtpFrameAssembly =
      st.rtpFrameAssembly := by
    rw [currentJitterBufferTargetDelayNs]
    cases cfg.udpJitterBufferStrategy <;> rfl
  have hanchor (st : StreamClient) (oldest : ℕ) :
      (anchorJitterBuffer st oldest).rtpFrameAssembly = st.rtpFrameAssembly := by
    rw [anchorJitterBuffer]
    split <;> rfl
  simp only [tryPopReadyRtpFrame, tryPopReadyUdpFrame]
  split
  · rfl
  split
  · rfl
  split
  · rfl
  split
  · rw [emitExpectedUdpFrame_rtpFrameAssembly, hanchor, htarget]
  split
  · rw [emitExpectedUdpFrame_rtpFrameAssembly]
    exact (hanchor _ _).trans htarget
  · rw [hanchor, htarget]

end

/-! ### Runs -/

/-- A run of the receiver, with the packets it has taken. -/
structure RtpReception where
  receiver : RtpReceiveState
  accepted : List RtpPacket := []

def RtpReception.start (cfg : ClientConfig) : RtpReception where
  receiver := RtpReceiveState.start cfg

/-- The packet that the receiver takes with an event. -/
def packetOf (cfg : ClientConfig) : RtpReceiveEvent → Option RtpPacket
  | .datagram data _ => acceptedPacket cfg data
  | _ => none

def rtpReceptionStep (cfg : ClientConfig) (p : RtpReception) (event : RtpReceiveEvent) :
    Option RtpReception :=
  (rtpReceiveStep cfg p.receiver event).map fun receiver =>
    { receiver := receiver, accepted := p.accepted ++ (packetOf cfg event).toList }

/-- What is held of the frame in progress, and what is true of every frame that is held back or
has been delivered. -/
structure FramesMeet (Held : RtpFrameAssembly → List RtpPacket → Prop)
    (Good : List RtpPacket → ReceivedFrame → Prop) (p : RtpReception) : Prop where
  assembly : Held p.receiver.client.rtpFrameAssembly p.accepted
  buffered : ∀ (k : ℕ) b,
    p.receiver.client.udpJitterBuffer[k]? = some b → Good p.accepted b.frame
  delivered : ∀ frame ∈ p.receiver.delivered, Good p.accepted frame

/-- One packet keeps what is held, and a frame that it completes is good. -/
structure FrameRule (cfg : ClientConfig) (Held : RtpFrameAssembly → List RtpPacket → Prop)
    (Good : List RtpPacket → ReceivedFrame → Prop)
    (Allowed : RtpFrameAssembly → RtpPacket → Prop) : Prop where
  mono : ∀ accepted accepted' frame, accepted <+: accepted' → Good accepted frame →
    Good accepted' frame
  packet : ∀ a accepted packet, Held a accepted → packet.payload ≠ [] → Allowed a packet →
    Held (if packet.fields.marker then {} else assembleRtpPacket cfg a packet)
        (accepted ++ [packet]) ∧
      ∀ nowNs, ∀ frame ∈ completedWith cfg a packet nowNs, Good (accepted ++ [packet]) frame

section

variable {cfg : ClientConfig} {Held : RtpFrameAssembly → List RtpPacket → Prop}
  {Good : List RtpPacket → ReceivedFrame → Prop} {Allowed : RtpFrameAssembly → RtpPacket → Prop}
  {p p' : RtpReception}

/-- A step that may return a frame, after what the client has done. -/
theorem FramesMeet.returnOr (h : FramesMeet Held Good p) (hrule : FrameRule cfg Held Good Allowed)
    (next : RtpReceivePoint) {result : StreamClient × Option ReceivedFrame}
    {accepted : List RtpPacket} (harrives : p.accepted <+: accepted)
    (hassembly : Held result.1.rtpFrameAssembly accepted)
    (hbuffered : ∀ (k : ℕ) b, result.1.udpJitterBuffer[k]? = some b → Good accepted b.frame)
    (hframe : ∀ frame ∈ result.2, Good accepted frame) :
    FramesMeet Held Good
      { receiver := p.receiver.returnOr next result, accepted := accepted } := by
  have hclient := p.receiver.returnOr_client next result
  have hdelivered := p.receiver.returnOr_delivered next result
  constructor
  case assembly =>
    rw [hclient]
    exact hassembly
  case buffered =>
    rw [hclient]
    exact hbuffered
  case delivered =>
    intro frame hmem
    rw [hdelivered, List.mem_append, Option.mem_toList] at hmem
    rcases hmem with hold | hnew
    · exact hrule.mono _ _ frame harrives (h.delivered frame hold)
    · exact hframe frame hnew

/-- A pop hands out what is in the buffer. -/
theorem FramesMeet.pop (h : FramesMeet Held Good p) (hrule : FrameRule cfg Held Good Allowed)
    (next : RtpReceivePoint) (nowNs : ℕ) : FramesMeet Held Good
      { receiver := p.receiver.returnOr next (tryPopReadyRtpFrame cfg p.receiver.client nowNs)
        accepted := p.accepted } := by
  have houtcome := tryPopReadyRtpFrame_outcome cfg p.receiver.client nowNs
  have hassembly : Held (tryPopReadyRtpFrame cfg p.receiver.client nowNs).1.rtpFrameAssembly
      p.accepted := by
    rw [tryPopReadyRtpFrame_rtpFrameAssembly]
    exact h.assembly
  have hkept (k : ℕ) (b : BufferedUdpFrame) (sequence : ℕ)
      (hb : (p.receiver.client.playout.emit sequence).udpJitterBuffer[k]? = some b) :
      Good p.accepted b.frame := by
    rw [PlayoutState.emit, OrdMap.getElem?_erase] at hb
    split at hb
    · cases hb
    · exact h.buffered k b hb
  have hpopped : (∀ (k : ℕ) b, (tryPopReadyRtpFrame cfg p.receiver.client
        nowNs).1.playout.udpJitterBuffer[k]? = some b → Good p.accepted b.frame) ∧
      ∀ frame ∈ (tryPopReadyRtpFrame cfg p.receiver.client nowNs).2, Good p.accepted frame := by
    generalize (tryPopReadyRtpFrame cfg p.receiver.client nowNs).1.playout = playout at houtcome ⊢
    generalize (tryPopReadyRtpFrame cfg p.receiver.client nowNs).2 = popped at houtcome ⊢
    cases houtcome with
    | kept => exact ⟨h.buffered, fun _ hmem => by cases hmem⟩
    | anchored => exact ⟨h.buffered, fun _ hmem => by cases hmem⟩
    | expected b hhas hb =>
        refine ⟨fun k b' hb' => hkept k b' _ hb', ?_⟩
        rintro frame ⟨⟩
        exact h.buffered _ b hb
    | oldest sequence b hfront =>
        refine ⟨fun k b' hb' => hkept k b' _ hb', ?_⟩
        rintro frame ⟨⟩
        exact h.buffered _ b (OrdMap.front?_eq_some hfront).1
  exact h.returnOr hrule next List.prefix_rfl hassembly hpopped.1 hpopped.2

/-- A datagram may hold a packet, and that may complete a frame. -/
theorem FramesMeet.datagram (h : FramesMeet Held Good p) (hrule : FrameRule cfg Held Good Allowed)
    (next : RtpReceivePoint) {data : Bytes} (nowNs : ℕ)
    (hallowed : ∀ packet, acceptedPacket cfg data = some packet →
      Allowed p.receiver.client.rtpFrameAssembly packet) :
    FramesMeet Held Good
      { receiver := p.receiver.returnOr next
          (receiveRtpDatagram cfg p.receiver.client data nowNs)
        accepted := p.accepted ++ (acceptedPacket cfg data).toList } := by
  cases haccepted : acceptedPacket cfg data with
  | none =>
      rw [receiveRtpDatagram_of_rejected cfg _ nowNs haccepted, Option.toList_none, List.append_nil]
      exact h.returnOr hrule next List.prefix_rfl h.assembly h.buffered fun _ hmem => by cases hmem
  | some packet =>
      obtain ⟨hassembly, hframe, hbuffer⟩ :=
        receiveRtpDatagram_of_accepted cfg p.receiver.client nowNs haccepted
      obtain ⟨hheld, hcompleted⟩ := hrule.packet _ _ packet h.assembly
        (acceptedPacket_payload haccepted) (hallowed packet haccepted)
      have hlonger : p.accepted <+: p.accepted ++ [packet] := List.prefix_append _ _
      refine h.returnOr hrule next hlonger (hassembly ▸ hheld) (fun k b hb => ?_)
        fun frame hmem => ?_
      · rcases hbuffer with hsame | ⟨frame, hnew, hinsert⟩
        · rw [hsame] at hb
          exact hrule.mono _ _ _ hlonger (h.buffered k b hb)
        · rw [hinsert, OrdMap.getElem?_insert] at hb
          split at hb
          · obtain rfl := Option.some.inj hb
            exact hcompleted nowNs frame hnew
          · exact hrule.mono _ _ _ hlonger (h.buffered k b hb)
      · rcases hframe with hnone | hnew
        · rw [hnone] at hmem
          cases hmem
        · rw [hnew] at hmem
          exact hcompleted nowNs frame hmem

/-- Only a datagram brings a packet. -/
theorem packetOf_of_nothing {event : RtpReceiveEvent} (h : event.received = [])
    (cfg : ClientConfig) : packetOf cfg event = none := by
  cases event with
  | datagram data nowNs =>
      obtain rfl : data = [] := h
      rfl
  | _ => rfl

/-- One step of the receiver. -/
theorem framesMeet_step (hrule : FrameRule cfg Held Good Allowed) {event : RtpReceiveEvent}
    (hallowed : ∀ packet, packetOf cfg event = some packet →
      Allowed p.receiver.client.rtpFrameAssembly packet)
    (h : FramesMeet Held Good p) (hstep : rtpReceptionStep cfg p event = some p') :
    FramesMeet Held Good p' := by
  rw [rtpReceptionStep, Option.map_eq_some_iff] at hstep
  obtain ⟨receiver, hreceiver, rfl⟩ := hstep
  cases rtpReceiveStep_effect hreceiver with
  | moved _ point hnothing =>
      rw [packetOf_of_nothing hnothing, Option.toList_none, List.append_nil]
      exact ⟨h.assembly, h.buffered, h.delivered⟩
  | popped _ point nowNs hnothing =>
      rw [packetOf_of_nothing hnothing, Option.toList_none, List.append_nil]
      exact h.pop hrule point nowNs
  | taken data nowNs => exact h.datagram hrule .loopTop nowNs hallowed

/-- The client of a first connection holds nothing. -/
theorem framesMeet_start (hheld : Held {} []) : FramesMeet Held Good (RtpReception.start cfg) :=
  ⟨hheld, fun _ _ hb => (by cases hb), fun _ hmem => (by cases hmem)⟩

end

/-- No packet begins a unit in a frame that has one open. -/
def InterruptsNothing (cfg : ClientConfig) (p : RtpReception) (event : RtpReceiveEvent) : Prop :=
  ∀ packet, packetOf cfg event = some packet →
    ¬Interrupts p.receiver.client.rtpFrameAssembly packet

structure WholeSoFar (client : StreamClient) (accepted : List RtpPacket) : Prop where
  assembles : Assembles client.rtpFrameAssembly (lastFrame accepted)
  buffered : ∀ (k : ℕ) b, client.udpJitterBuffer[k]? = some b → IsWhole accepted b.frame

/-- All that is held and all that has been delivered is whole. -/
structure DeliversWhole (p : RtpReception) : Prop where
  held : WholeSoFar p.receiver.client p.accepted
  delivered : ∀ frame ∈ p.receiver.delivered, IsWhole p.accepted frame

/-- A packet that interrupts nothing keeps what the assembly has, and what it completes is
whole. -/
theorem isWhole_rule (cfg : ClientConfig) :
    FrameRule cfg (fun a accepted => Assembles a (lastFrame accepted)) IsWhole
      (fun a packet => ¬Interrupts a packet) where
  mono accepted accepted' frame harrives h := h.mono harrives
  packet a accepted packet h hne hinterrupts := by
    obtain ⟨earlier, hjoin, hexpects⟩ := h.track hinterrupts
    obtain ⟨htracks, hunits⟩ : Tracks (assembleRtpPacket cfg a packet) packet ∧
        ((assembleRtpPacket cfg a packet).frameDamaged = false →
          MadeOfUnits (assembleRtpPacket cfg a packet).fuInProgress (earlier ++ [packet])
            (assembleRtpPacket cfg a packet).payload) := by
      obtain ⟨capture, send, available, invalid, hmetadata⟩ :=
        trackSenderMetadata_eq cfg (trackRtpSequence a packet.fields) packet.extension
      simp only [assembleRtpPacket]
      rw [hmetadata]
      refine Expects.append ⟨⟨?_, ?_, ?_, ?_, ?_⟩, hexpects.units, hexpects.next,
        hexpects.begins⟩ hne
      · exact hexpects.tracks.active
      · exact hexpects.tracks.timestamp
      · exact hexpects.tracks.ssrc
      · exact hexpects.tracks.hasSequence
      · exact hexpects.tracks.next
    rw [← hjoin, ← lastFrame_append] at hunits
    have hlast : (lastFrame (accepted ++ [packet])).getLast? = some packet := by
      rw [lastFrame_append, hjoin, List.getLast?_concat]
    constructor
    · cases hmarker : packet.fields.marker with
      | false => exact .busy packet hlast hmarker htracks hunits
      | true =>
          refine .idle rfl fun last hmem => ?_
          obtain rfl : packet = last := Option.some.inj (hlast.symm.trans hmem)
          exact hmarker
    · intro nowNs frame hcompleted
      obtain ⟨⟨hmarker, hready⟩, rfl⟩ := completedWith_eq_some.mp hcompleted
      simp only [RtpFrameAssembly.ready, Bool.and_eq_true, Bool.not_eq_true'] at hready
      obtain ⟨⟨-, hundamaged⟩, hclosed⟩ := hready
      have hmade := hunits hundamaged
      rw [hclosed] at hmade
      exact ⟨_, packet, List.prefix_rfl, hlast, hmarker,
        congrArg UInt32.toNat htracks.timestamp, hmade⟩

theorem deliversWhole_iff {p : RtpReception} : DeliversWhole p ↔
    FramesMeet (fun a accepted => Assembles a (lastFrame accepted)) IsWhole p :=
  ⟨fun h => ⟨h.held.assembles, h.held.buffered, h.delivered⟩,
    fun h => ⟨⟨h.assembly, h.buffered⟩, h.delivered⟩⟩

/-- One step delivers nothing but whole frames if its packet interrupts nothing. -/
theorem deliversWhole_step {cfg : ClientConfig} {p p' : RtpReception} {event : RtpReceiveEvent}
    (hinterrupts : InterruptsNothing cfg p event) (h : DeliversWhole p)
    (hstep : rtpReceptionStep cfg p event = some p') : DeliversWhole p' := by
  rw [deliversWhole_iff] at h ⊢
  exact framesMeet_step (isWhole_rule cfg) hinterrupts h hstep

/-- In every run in which no packet begins a NAL unit while its frame has one open, every
frame that is handed out is made of whole units. -/
theorem runRtpReception_whole {cfg : ClientConfig} {events : List RtpReceiveEvent}
    {p : RtpReception}
    (hinterrupts : StepsMeet (rtpReceptionStep cfg) (InterruptsNothing cfg)
      (RtpReception.start cfg) events)
    (hrun : runSteps (rtpReceptionStep cfg) (RtpReception.start cfg) events = some p) :
    ∀ frame ∈ p.receiver.delivered, IsWhole p.accepted frame := by
  have hstart : DeliversWhole (RtpReception.start cfg) :=
    deliversWhole_iff.mpr (framesMeet_start (.idle rfl fun _ hmem => (by cases hmem)))
  exact (runSteps_invariant_of_meet (rtpReceptionStep cfg)
    (fun _ _ _ => deliversWhole_step) hinterrupts hstart hrun).delivered

/-! #### A unit that is left open -/

/-- The packets of one frame, number `sequence` of the stream and with this payload. -/
def unitPacket (marker : Bool) (sequence : ℕ) (payload : Bytes) : Bytes :=
  [0x80, if marker then 0xE0 else 0x60] ++ writeBe 2 sequence ++ [0, 0, 0, 5, 0, 0, 0, 1] ++ payload

def directConfig : ClientConfig :=
  { transport := .rtp, expectMetadata := false, udpJitterBufferEnabled := false }

/-- An IDR unit in two fragments. -/
def fragmentedRun : List RtpReceiveEvent :=
  [.call, .proceed 1000, .datagram (unitPacket false 1 [0x7C, 0x85, 0xAA]) 1000,
    .proceed 2000, .datagram (unitPacket true 2 [0x7C, 0x45, 0xBB]) 2000]

theorem fragmentedRun_interrupts_nothing : StepsMeet (rtpReceptionStep directConfig)
    (InterruptsNothing directConfig) (RtpReception.start directConfig) fragmentedRun := by
  have hidle (p : RtpReception) (event : RtpReceiveEvent)
      (hnone : packetOf directConfig event = none) : InterruptsNothing directConfig p event := by
    intro packet hpacket
    rw [hnone] at hpacket
    cases hpacket
  refine ⟨hidle _ _ rfl, fun p hp => ⟨hidle _ _ rfl, fun q hq => ?_⟩⟩
  obtain rfl := Option.some.inj hp
  obtain rfl := Option.some.inj hq
  refine ⟨?_, fun r _ => ⟨hidle _ _ rfl, fun s _ => ⟨?_, fun _ _ => trivial⟩⟩⟩
  · -- the first packet finds no frame
    rintro packet - ⟨hactive, -⟩
    cases hactive
  · -- the second one continues the unit
    rintro packet hpacket ⟨-, -, -, -, -, -, hbegins⟩
    have hpayload : (packetOf directConfig (.datagram (unitPacket true 2 [0x7C, 0x45, 0xBB])
        2000)).map RtpPacket.payload = some [0x7C, 0x45, 0xBB] := by decide +kernel
    rw [hpacket] at hpayload
    rw [Option.some.inj hpayload] at hbegins
    revert hbegins
    simp only [IsSingleNalu, StartsNalu, IsFragment]
    decide

theorem fragmentedRun_whole : ∃ p,
    runSteps (rtpReceptionStep directConfig) (RtpReception.start directConfig) fragmentedRun =
      some p ∧ ∀ frame ∈ p.receiver.delivered, IsWhole p.accepted frame := by
  have hruns : (runSteps (rtpReceptionStep directConfig) (RtpReception.start directConfig)
      fragmentedRun).isSome = true := by decide +kernel
  obtain ⟨p, hp⟩ := Option.isSome_iff_exists.mp hruns
  exact ⟨p, hp, runRtpReception_whole fragmentedRun_interrupts_nothing hp⟩

/-- The first fragment of an IDR unit, and behind it another unit instead of the rest. -/
def leftOpenRun : List RtpReceiveEvent :=
  [.call, .proceed 1000, .datagram (unitPacket false 1 [0x7C, 0x85, 0xAA]) 1000,
    .proceed 2000, .datagram (unitPacket true 2 [0x61, 0xBB]) 2000]

/-- The truncated unit is handed out. -/
theorem leftOpenRun_not_whole : ∃ p,
    runSteps (rtpReceptionStep directConfig) (RtpReception.start directConfig) leftOpenRun =
      some p ∧
    ∃ frame ∈ p.receiver.delivered,
      frame.payload = [0, 0, 0, 1, 0x65, 0xAA, 0, 0, 0, 1, 0x61, 0xBB] ∧
        ¬IsWhole p.accepted frame := by
  have hseen : (runSteps (rtpReceptionStep directConfig) (RtpReception.start directConfig)
      leftOpenRun).map (fun p => (decide (∀ arrived ∈ p.accepted.inits,
          ∀ last ∈ (lastFrame arrived).getLast?, last.fields.marker = true →
            ¬(lastFrame arrived).IsChain fun packet next =>
              LeavesNaluOpen packet.payload → ContinuesNalu next.payload),
        p.receiver.delivered.map ReceivedFrame.payload)) =
      some (true, [[0, 0, 0, 1, 0x65, 0xAA, 0, 0, 0, 1, 0x61, 0xBB]]) := by decide +kernel
  rw [Option.map_eq_some_iff] at hseen
  obtain ⟨p, hp, hseen⟩ := hseen
  obtain ⟨hbroken, hdelivered⟩ := Prod.mk.inj hseen
  obtain ⟨frame, hframe, hpayload⟩ := List.map_eq_singleton_iff.mp hdelivered
  refine ⟨p, hp, frame, by rw [hframe]; exact List.mem_singleton_self frame, hpayload, ?_⟩
  rintro ⟨arrived, last, harrived, hlast, hmarker, -, hmade⟩
  -- The frame has a fragment without the end bit and no continuation behind it.
  exact of_decide_eq_true hbroken arrived ((List.mem_inits _ _).mpr harrived) last hlast hmarker
    hmade.isChain

end AvProject.Rtp
