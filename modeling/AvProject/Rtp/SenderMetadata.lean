import AvProject.Rtp.WholeUnits

/-!
The timestamps of the sender on a delivered frame. The receiver keeps them as long as every
packet of the frame carries them and all agree on the capture time; it has two flags for this,
and one packet that does not fit settles the frame.
-/

namespace AvProject.Rtp

open AvProject.Lib AvProject.Protocol AvProject.Client

/-! ### What the packets of a frame carry -/

/-- The packet has a latency extension with these times, neither of them zero. -/
structure CarriesStamps (packet : RtpPacket) (capture send : UInt64) : Prop where
  profileId : packet.extension.profileId = 0x5353
  length_payload : packet.extension.payload.length = 16
  capture_eq : readBe64 packet.extension.payload 0 = capture
  send_eq : readBe64 packet.extension.payload 8 = send
  capture_ne : capture ≠ 0
  send_ne : send ≠ 0

/-- All packets carry times, and the same capture time. -/
def AllStamped (packets : List RtpPacket) (capture : UInt64) : Prop :=
  ∀ packet ∈ packets, ∃ send, CarriesStamps packet capture send

/-- The frame has the times of its packets, or none. -/
structure AllOrNothing (packets : List RtpPacket) (frame : ReceivedFrame) : Prop where
  available_iff : frame.senderMetadataAvailable = true ↔ ∃ capture, AllStamped packets capture
  /-- The capture time is the common one, the other the one of the last packet. -/
  all : ∀ capture, AllStamped packets capture →
    frame.metadata.captureTimestampNs = capture.toNat ∧
      ∀ last ∈ packets.getLast?, ∀ send, CarriesStamps last capture send →
        frame.metadata.transportSendTimestampNs = send.toNat
  nothing : (¬∃ capture, AllStamped packets capture) →
    frame.metadata.captureTimestampNs = 0 ∧ frame.metadata.transportSendTimestampNs = 0

section

variable {packet : RtpPacket} {packets : List RtpPacket} {capture capture' send send' : UInt64}

theorem carriesStamps_iff : CarriesStamps packet capture send ↔
    parseRtpLatencyExtension packet.extension =
        some { captureTimestampNs := capture, transportSendTimestampNs := send } ∧
      capture ≠ 0 ∧ send ≠ 0 := by
  rw [parseRtpLatencyExtension]
  constructor
  · intro h
    have hpresent : ¬(packet.extension.profileId ≠ kRtpLatencyExtensionProfileId ∨
        packet.extension.payload.length ≠ kRtpLatencyExtensionPayloadSize) :=
      not_or.mpr ⟨not_not.mpr h.profileId, not_not.mpr h.length_payload⟩
    rw [if_neg hpresent, h.capture_eq, h.send_eq]
    exact ⟨rfl, h.capture_ne, h.send_ne⟩
  · rintro ⟨hparsed, hcapture, hsend⟩
    split at hparsed
    · cases hparsed
    · rename_i hpresent
      obtain ⟨hprofile, hlength⟩ := not_or.mp hpresent
      obtain ⟨hcaptureEq, hsendEq⟩ := RtpLatencyExtension.mk.inj (Option.some.inj hparsed)
      exact ⟨not_not.mp hprofile, not_not.mp hlength, hcaptureEq, hsendEq, hcapture, hsend⟩

theorem CarriesStamps.unique (h : CarriesStamps packet capture send)
    (h' : CarriesStamps packet capture' send') : capture = capture' ∧ send = send' :=
  ⟨h.capture_eq.symm.trans h'.capture_eq, h.send_eq.symm.trans h'.send_eq⟩

theorem allStamped_append : AllStamped (packets ++ [packet]) capture ↔
    AllStamped packets capture ∧ ∃ send, CarriesStamps packet capture send := by
  simp only [AllStamped, List.mem_append, List.mem_singleton, or_imp, forall_and, forall_eq]

end

/-! ### The two flags -/

/-- The flags and times of the assembly after these packets. -/
inductive Gathers (a : RtpFrameAssembly) (packets : List RtpPacket) : Prop
  /-- No packet has come. -/
  | fresh (hnone : packets = []) (havailable : a.senderMetadataAvailable = false)
      (hinvalid : a.senderMetadataInvalid = false)
  | agreed (last : RtpPacket) (hlast : packets.getLast? = some last)
      (havailable : a.senderMetadataAvailable = true) (hinvalid : a.senderMetadataInvalid = false)
      (hstamped : AllStamped packets a.captureTimestampNs)
      (hsend : CarriesStamps last a.captureTimestampNs a.transportSendTimestampNs)
  | settled (havailable : a.senderMetadataAvailable = false)
      (hinvalid : a.senderMetadataInvalid = true) (hne : packets ≠ [])
      (hnever : ∀ capture, ¬AllStamped packets capture)

section

variable {cfg : ClientConfig} {a : RtpFrameAssembly} {packets : List RtpPacket}
  {packet : RtpPacket}

/-- One more packet of the frame. -/
theorem Gathers.track (h : Gathers a packets) (hexpect : cfg.expectMetadata = true) :
    Gathers (trackSenderMetadata cfg a packet.extension) (packets ++ [packet]) := by
  have hne : packets ++ [packet] ≠ [] := List.append_ne_nil_of_right_ne_nil _ (List.cons_ne_nil _ _)
  by_cases hinvalid : a.senderMetadataInvalid = true
  · -- what has been settled stays
    have hsame : trackSenderMetadata cfg a packet.extension = a := by
      simp only [trackSenderMetadata, hexpect, hinvalid]
      rfl
    rw [hsame]
    cases h with
    | fresh _ _ hvalid => exact absurd hinvalid (by simp [hvalid])
    | agreed _ _ _ hvalid => exact absurd hinvalid (by simp [hvalid])
    | settled havailable _ _ hnever =>
        exact .settled havailable hinvalid hne fun capture hall =>
          hnever capture (allStamped_append.mp hall).1
  have hvalid : (cfg.expectMetadata && !a.senderMetadataInvalid) = true := by
    simp [hexpect, hinvalid]
  simp only [trackSenderMetadata]
  rw [if_pos hvalid]
  -- a packet without both times settles the frame
  have hunstamped (hno : ∀ capture send, ¬CarriesStamps packet capture send) :
      Gathers { a with senderMetadataAvailable := false, senderMetadataInvalid := true }
        (packets ++ [packet]) :=
    .settled rfl rfl hne fun capture hall =>
      (allStamped_append.mp hall).2.elim fun send hsend => hno capture send hsend
  cases hparsed : parseRtpLatencyExtension packet.extension with
  | none =>
      refine hunstamped fun capture send hcarries => ?_
      rw [carriesStamps_iff, hparsed] at hcarries
      cases hcarries.1
  | some latency =>
      obtain ⟨capture, send⟩ := latency
      simp only
      by_cases hzero : capture = 0 ∨ send = 0
      · rw [if_pos hzero]
        refine hunstamped fun capture' send' hcarries => ?_
        rw [carriesStamps_iff, hparsed] at hcarries
        obtain ⟨heq, hcapture, hsend⟩ := hcarries
        obtain ⟨rfl, rfl⟩ := RtpLatencyExtension.mk.inj (Option.some.inj heq)
        exact hzero.elim hcapture hsend
      rw [if_neg hzero]
      obtain ⟨hcapture, hsend⟩ := not_or.mp hzero
      have hcarries : CarriesStamps packet capture send :=
        carriesStamps_iff.mpr ⟨hparsed, hcapture, hsend⟩
      cases h with
      | fresh hnone havailable _ =>
          subst hnone
          rw [havailable]
          refine .agreed packet rfl rfl (by simpa using hinvalid) ?_ hcarries
          intro other hmem
          rw [List.nil_append, List.mem_singleton] at hmem
          exact ⟨send, hmem ▸ hcarries⟩
      | agreed last hlast havailable _ hstamped _ =>
          rw [havailable]
          simp only [Bool.not_true, Bool.false_eq_true, if_false]
          by_cases hsame : a.captureTimestampNs ≠ capture
          · rw [if_pos hsame]
            refine .settled rfl rfl hne fun common hall => ?_
            -- the packets so far have another capture time than this one
            obtain ⟨hearlier, send', hlater⟩ := allStamped_append.mp hall
            obtain ⟨_, hold⟩ := hstamped last (List.mem_of_getLast? hlast)
            obtain ⟨_, hnew⟩ := hearlier last (List.mem_of_getLast? hlast)
            exact hsame ((hold.unique hnew).1.trans (hlater.unique hcarries).1)
          · rw [if_neg hsame]
            obtain rfl : a.captureTimestampNs = capture := not_not.mp hsame
            exact .agreed packet List.getLast?_concat rfl (by simpa using hinvalid)
              (allStamped_append.mpr ⟨hstamped, send, hcarries⟩) hcarries
      | settled _ hsettled => exact absurd hsettled hinvalid

theorem Gathers.congr {a' : RtpFrameAssembly} (h : Gathers a packets)
    (hcapture : a'.captureTimestampNs = a.captureTimestampNs)
    (hsend : a'.transportSendTimestampNs = a.transportSendTimestampNs)
    (havailable : a'.senderMetadataAvailable = a.senderMetadataAvailable)
    (hinvalid : a'.senderMetadataInvalid = a.senderMetadataInvalid) : Gathers a' packets := by
  cases h with
  | fresh hnone ha hi => exact .fresh hnone (havailable.trans ha) (hinvalid.trans hi)
  | agreed last hlast ha hi hstamped hcarries =>
      refine .agreed last hlast (havailable.trans ha) (hinvalid.trans hi) ?_ ?_
      · rw [hcapture]
        exact hstamped
      · rw [hcapture, hsend]
        exact hcarries
  | settled ha hi hne hnever => exact .settled (havailable.trans ha) (hinvalid.trans hi) hne hnever

/-- The frame made of an assembly. -/
theorem Gathers.completed (h : Gathers a packets) (hne : packets ≠ [])
    (hexpect : cfg.expectMetadata = true) (nowNs : ℕ) :
    AllOrNothing packets (completedRtpFrame cfg a nowNs) := by
  cases h with
  | fresh hnone => exact absurd hnone hne
  | agreed last hlast havailable hinvalid hstamped hcarries =>
      have hshown : (cfg.expectMetadata && a.senderMetadataAvailable &&
          !a.senderMetadataInvalid) = true := by
        simp [hexpect, havailable, hinvalid]
      simp only [completedRtpFrame, hshown, if_true]
      refine ⟨⟨fun _ => ⟨_, hstamped⟩, fun _ => rfl⟩, fun capture hall => ?_, fun hno =>
        absurd ⟨_, hstamped⟩ hno⟩
      obtain ⟨send, hcommon⟩ := hall last (List.mem_of_getLast? hlast)
      have hcapture := (hcommon.unique hcarries).1
      refine ⟨congrArg UInt64.toNat hcapture.symm, fun other hmem send' hother => ?_⟩
      obtain rfl : last = other := Option.some.inj (hlast.symm.trans hmem)
      exact congrArg UInt64.toNat (hcarries.unique hother).2
  | settled havailable hinvalid _ hnever =>
      have hhidden : (cfg.expectMetadata && a.senderMetadataAvailable &&
          !a.senderMetadataInvalid) = false := by
        simp [havailable]
      simp only [completedRtpFrame, hhidden, Bool.false_eq_true, if_false]
      exact ⟨⟨fun h => (by cases h), fun ⟨capture, hall⟩ => absurd hall (hnever capture)⟩,
        fun capture hall => absurd hall (hnever capture), fun _ => ⟨rfl, rfl⟩⟩

end

/-! ### The packets of a frame -/

/-- The assembly that these packets of one frame lead to. -/
def assembledFrom (cfg : ClientConfig) (packets : List RtpPacket) : RtpFrameAssembly :=
  packets.foldl (assembleRtpPacket cfg) {}

/-- What the assembly has of the frame that arrived last: nothing if its marker has come. -/
inductive HoldsFrame (cfg : ClientConfig) (a : RtpFrameAssembly) (frame : List RtpPacket) : Prop
  | idle (hempty : a = {}) (hend : ∀ last ∈ frame.getLast?, last.fields.marker = true)
  | busy (last : RtpPacket) (hlast : frame.getLast? = some last)
      (hunmarked : last.fields.marker = false) (hactive : a.active = true)
      (htimestamp : a.timestamp = last.fields.timestamp) (hssrc : a.ssrc = last.fields.ssrc)
      (hassembled : a = assembledFrom cfg frame) (hgathers : Gathers a frame)

/-- The frame is what the packets of a marked frame lead to, and has their times or none. -/
def MadeOfPackets (cfg : ClientConfig) (accepted : List RtpPacket) (frame : ReceivedFrame) :
    Prop :=
  ∃ arrived last nowNs, arrived <+: accepted ∧ (lastFrame arrived).getLast? = some last ∧
    last.fields.marker = true ∧
    frame = completedRtpFrame cfg (assembledFrom cfg (lastFrame arrived)) nowNs ∧
    AllOrNothing (lastFrame arrived) frame

section

variable {cfg : ClientConfig} {a : RtpFrameAssembly} {packet : RtpPacket}

/-- What the payload does not touch. -/
theorem appendRtpPayload_eq (a : RtpFrameAssembly) (payload : Bytes) :
    ∃ bytes damaged inProgress, appendRtpPayload a payload =
      { a with payload := bytes, frameDamaged := damaged, fuInProgress := inProgress } := by
  simp only [appendRtpPayload]
  split
  · exact ⟨_, _, _, rfl⟩
  split
  · exact ⟨_, _, _, rfl⟩
  split
  · split
    · split
      · exact ⟨_, _, _, rfl⟩
      · exact ⟨_, _, _, rfl⟩
    · split
      · exact ⟨_, _, _, rfl⟩
      · exact ⟨_, _, _, rfl⟩
  · exact ⟨_, _, _, rfl⟩

/-- The newest packet names the frame. -/
theorem assembleRtpPacket_identity (cfg : ClientConfig) (a : RtpFrameAssembly)
    (packet : RtpPacket) :
    (assembleRtpPacket cfg a packet).active = true ∧
      (assembleRtpPacket cfg a packet).timestamp = packet.fields.timestamp ∧
      (assembleRtpPacket cfg a packet).ssrc = packet.fields.ssrc := by
  have htracked : (trackRtpSequence a packet.fields).active = true ∧
      (trackRtpSequence a packet.fields).timestamp = packet.fields.timestamp ∧
      (trackRtpSequence a packet.fields).ssrc = packet.fields.ssrc := by
    rw [trackRtpSequence]
    split
    · exact ⟨rfl, rfl, rfl⟩
    · rename_i hsame
      simp only [Bool.or_eq_true, Bool.not_eq_true', bne_iff_ne, not_or, ne_eq, not_not,
        Bool.not_eq_false] at hsame
      split
      · exact ⟨hsame.1.1, hsame.1.2, hsame.2⟩
      · exact ⟨hsame.1.1, hsame.1.2, hsame.2⟩
  rw [assembleRtpPacket]
  obtain ⟨_, _, _, _, hmetadata⟩ :=
    trackSenderMetadata_eq cfg (trackRtpSequence a packet.fields) packet.extension
  obtain ⟨_, _, _, hpayload⟩ := appendRtpPayload_eq
    (trackSenderMetadata cfg (trackRtpSequence a packet.fields) packet.extension) packet.payload
  rw [hpayload, hmetadata]
  exact htracked

/-- A packet of another frame leaves nothing of the assembly. -/
theorem assembleRtpPacket_foreign (hforeign : Foreign a packet) :
    assembleRtpPacket cfg a packet = assembleRtpPacket cfg {} packet := by
  have hfresh : (!a.active || a.timestamp != packet.fields.timestamp ||
      a.ssrc != packet.fields.ssrc) = true := by
    rcases hforeign with h | h | h <;> simp [h]
  have htracked : trackRtpSequence a packet.fields = trackRtpSequence {} packet.fields := by
    rw [trackRtpSequence, if_pos hfresh]
    rfl
  rw [assembleRtpPacket, assembleRtpPacket, htracked]

/-- The flags and times after a packet that goes on with the frame. -/
theorem Gathers.assemble {packets : List RtpPacket} (hexpect : cfg.expectMetadata = true)
    (h : Gathers (trackRtpSequence a packet.fields) packets) :
    Gathers (assembleRtpPacket cfg a packet) (packets ++ [packet]) := by
  have htracked : Gathers (trackSenderMetadata cfg (trackRtpSequence a packet.fields)
      packet.extension) (packets ++ [packet]) := h.track hexpect
  rw [assembleRtpPacket]
  obtain ⟨_, _, _, hpayload⟩ := appendRtpPayload_eq
    (trackSenderMetadata cfg (trackRtpSequence a packet.fields) packet.extension) packet.payload
  rw [hpayload]
  exact htracked.congr rfl rfl rfl rfl

/-- The first packet of a frame. -/
theorem gathers_first (hexpect : cfg.expectMetadata = true) (packet : RtpPacket) :
    Gathers (assembleRtpPacket cfg {} packet) [packet] :=
  @Gathers.assemble cfg {} packet [] hexpect (.fresh rfl rfl rfl)

/-- A packet joins the frame of the assembly or begins another one. -/
theorem HoldsFrame.append {frame : List RtpPacket} (h : HoldsFrame cfg a frame)
    (hexpect : cfg.expectMetadata = true) (packet : RtpPacket) :
    assembleRtpPacket cfg a packet = assembledFrom cfg (joinFrame frame packet) ∧
      Gathers (assembleRtpPacket cfg a packet) (joinFrame frame packet) ∧
      (joinFrame frame packet).getLast? = some packet := by
  have hbegins (hjoin : joinFrame frame packet = [packet]) (hforeign : Foreign a packet) :
      assembleRtpPacket cfg a packet = assembledFrom cfg (joinFrame frame packet) ∧
        Gathers (assembleRtpPacket cfg a packet) (joinFrame frame packet) ∧
        (joinFrame frame packet).getLast? = some packet := by
    rw [hjoin, assembleRtpPacket_foreign hforeign]
    exact ⟨rfl, gathers_first hexpect packet, rfl⟩
  cases h with
  | idle hempty hend =>
      refine hbegins ?_ (.inl (by rw [hempty]))
      rcases joinFrame_cases frame packet with ⟨last, hlast, hunmarked, -⟩ | hjoin
      · rw [hend last hlast] at hunmarked
        cases hunmarked
      · exact hjoin
  | busy last hlast hunmarked hactive htimestamp hssrc hassembled hgathers =>
      by_cases hsame : SameFrame last packet
      · have hjoin : joinFrame frame packet = frame ++ [packet] := by
          rw [joinFrame, hlast]
          exact if_pos ⟨hunmarked, hsame⟩
        have hgoes : ¬(!a.active || a.timestamp != packet.fields.timestamp ||
            a.ssrc != packet.fields.ssrc) = true := by
          simp [hactive, htimestamp, hssrc, hsame.1, hsame.2]
        have htracked : Gathers (trackRtpSequence a packet.fields) frame := by
          rw [trackRtpSequence, if_neg hgoes]
          split
          · exact hgathers.congr rfl rfl rfl rfl
          · exact hgathers.congr rfl rfl rfl rfl
        rw [hjoin]
        refine ⟨?_, htracked.assemble hexpect, List.getLast?_concat⟩
        rw [assembledFrom, List.foldl_append, ← assembledFrom, ← hassembled]
        rfl
      · refine hbegins ?_ ?_
        · rw [joinFrame, hlast]
          exact if_neg fun hjoins => hsame hjoins.2
        · rw [SameFrame, not_and_or, ← htimestamp, ← hssrc] at hsame
          exact .inr hsame

/-- A packet keeps what the assembly has, and what it completes has all times or none. -/
theorem madeOfPackets_rule (hexpect : cfg.expectMetadata = true) :
    FrameRule cfg (fun a accepted => HoldsFrame cfg a (lastFrame accepted)) (MadeOfPackets cfg)
      (fun _ _ => True) where
  mono accepted accepted' frame harrives h := by
    obtain ⟨arrived, last, nowNs, harrived, hrest⟩ := h
    exact ⟨arrived, last, nowNs, harrived.trans harrives, hrest⟩
  packet a accepted packet h _ _ := by
    obtain ⟨hassembled, hgathers, hlast⟩ := h.append hexpect packet
    rw [← lastFrame_append] at hassembled hgathers hlast
    obtain ⟨hactive, htimestamp, hssrc⟩ := assembleRtpPacket_identity cfg a packet
    constructor
    · cases hmarker : packet.fields.marker with
      | false => exact .busy packet hlast hmarker hactive htimestamp hssrc hassembled hgathers
      | true =>
          refine .idle rfl fun last hmem => ?_
          obtain rfl : packet = last := Option.some.inj (hlast.symm.trans hmem)
          exact hmarker
    · intro nowNs frame hcompleted
      obtain ⟨⟨hmarker, -⟩, rfl⟩ := completedWith_eq_some.mp hcompleted
      have hne : lastFrame (accepted ++ [packet]) ≠ [] := by
        intro hnil
        rw [hnil] at hlast
        cases hlast
      exact ⟨_, packet, nowNs, List.prefix_rfl, hlast, hmarker, by rw [← hassembled],
        hgathers.completed hne hexpect nowNs⟩

end

/-- In every run, a frame that is handed out is what the packets of one marked frame lead to. It
has the common capture time of these packets and the send time of the last one if all of them
carry times and the capture times agree, and no times otherwise. -/
theorem runRtpReception_metadata {cfg : ClientConfig} (hexpect : cfg.expectMetadata = true)
    {events : List RtpReceiveEvent} {p : RtpReception}
    (hrun : runSteps (rtpReceptionStep cfg) (RtpReception.start cfg) events = some p) :
    ∀ frame ∈ p.receiver.delivered, ∃ arrived last nowNs, arrived <+: p.accepted ∧
      (lastFrame arrived).getLast? = some last ∧ last.fields.marker = true ∧
      frame = completedRtpFrame cfg (assembledFrom cfg (lastFrame arrived)) nowNs ∧
      AllOrNothing (lastFrame arrived) frame := by
  have hstart : FramesMeet (fun a accepted => HoldsFrame cfg a (lastFrame accepted))
      (MadeOfPackets cfg) (RtpReception.start cfg) :=
    framesMeet_start (.idle rfl fun _ hmem => (by cases hmem))
  exact (runSteps_invariant (rtpReceptionStep cfg)
    (fun _ _ _ => framesMeet_step (madeOfPackets_rule hexpect) fun _ _ => trivial)
    hstart hrun).delivered

/-- A packet of one frame with a latency extension. -/
def stampedPacket (marker : Bool) (sequence capture send : ℕ) : Bytes :=
  [0x90, if marker then 0xE0 else 0x60] ++ writeBe 2 sequence ++ [0, 0, 0, 5, 0, 0, 0, 1] ++
    [0x53, 0x53, 0, 4] ++ writeBe 8 capture ++ writeBe 8 send ++ [0x41, 7]

/-- Two packets, sent one after the other. -/
def stampedRun : List RtpReceiveEvent :=
  [.call, .proceed 1000, .datagram (stampedPacket false 1 500 600) 1000,
    .proceed 2000, .datagram (stampedPacket true 2 500 700) 2000]

theorem stampedRun_metadata : ∃ p,
    runSteps (rtpReceptionStep { udpJitterBufferEnabled := false })
      (RtpReception.start { udpJitterBufferEnabled := false }) stampedRun = some p ∧
    ∀ frame ∈ p.receiver.delivered, ∃ arrived last nowNs, arrived <+: p.accepted ∧
      (lastFrame arrived).getLast? = some last ∧ last.fields.marker = true ∧
      frame = completedRtpFrame { udpJitterBufferEnabled := false }
        (assembledFrom { udpJitterBufferEnabled := false } (lastFrame arrived)) nowNs ∧
      AllOrNothing (lastFrame arrived) frame := by
  have hruns : (runSteps (rtpReceptionStep { udpJitterBufferEnabled := false })
      (RtpReception.start { udpJitterBufferEnabled := false }) stampedRun).isSome = true := by
    decide +kernel
  obtain ⟨p, hp⟩ := Option.isSome_iff_exists.mp hruns
  exact ⟨p, hp, runRtpReception_metadata rfl hp⟩

/-- The frame of these packets has the send time of the second one. -/
example : (runSteps (rtpReceptionStep { udpJitterBufferEnabled := false })
    (RtpReception.start { udpJitterBufferEnabled := false }) stampedRun).map
      (·.receiver.delivered.map fun frame => (frame.senderMetadataAvailable,
        frame.metadata.captureTimestampNs, frame.metadata.transportSendTimestampNs)) =
    some [(true, 500, 700)] := by
  decide +kernel

end AvProject.Rtp
