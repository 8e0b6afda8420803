import AvProject.Udp.Carries

/-!
End-to-end integrity of the UDP transport: whatever the network does to the
datagrams of a server, every frame that a client hands out is one that was sent.
-/

namespace AvProject.Udp

open AvProject.Lib AvProject.Protocol AvProject.Client AvProject.Server

/-- The parity datagram of a frame. -/
def frameParityDatagram (cfg : TransportConfig) (sent : SentFrame) : Bytes :=
  parityDatagram cfg sent (parity (maxFragmentPayloadSize cfg) sent.frame.payload)

/-- The parts of the datagrams of one frame, as the client reads them. -/
inductive FramePart (cfg : TransportConfig) (sent : SentFrame) :
    MessageHeader → UdpFrameFragmentHeader → Bytes → Prop
  | data (index : ℕ) (hindex : index < fragmentCountSize cfg sent.frame) :
      FramePart cfg sent (messageHeader sent (fragmentPayload cfg sent.frame index))
        (dataHeader cfg sent index) (fragmentPayload cfg sent.frame index)
  | parity (hmany : 1 < fragmentCountSize cfg sent.frame) :
      FramePart cfg sent
        (messageHeader sent (parity (maxFragmentPayloadSize cfg) sent.frame.payload))
        (parityHeader cfg sent) (parity (maxFragmentPayloadSize cfg) sent.frame.payload)

/-- Every datagram of a frame is read back as one of its parts. -/
theorem parseUdpDatagram_frameDatagram {cfg : TransportConfig} {sent : SentFrame}
    {datagram : Bytes} (hsend : Sendable cfg sent.frame)
    (h : FrameDatagram cfg sent datagram) :
    ∃ header fragment body, parseUdpDatagram datagram = some (header, fragment, body) ∧
      FramePart cfg sent header fragment body := by
  cases h with
  | data index hindex =>
      exact ⟨_, _, _, parseUdpDatagram_dataDatagram hsend hindex, .data index hindex⟩
  | parity hfec hmany =>
      exact ⟨_, _, _, parseUdpDatagram_parityDatagram hsend hsend.length_parity_le,
        .parity hmany⟩

section

variable {ccfg : ClientConfig} {scfg : TransportConfig} {frames : List SentFrame}

/-- The datagrams that the server may have sent. -/
def PartOf (scfg : TransportConfig) (frames : List SentFrame) (header : MessageHeader)
    (fragment : UdpFrameFragmentHeader) (body : Bytes) : Prop :=
  ∃ sent ∈ frames, Sendable scfg sent.frame ∧ FramePart scfg sent header fragment body

/-- The assembly is a well-formed part of the sent frame with its number. -/
def CarriesOneOf (ccfg : ClientConfig) (scfg : TransportConfig) (frames : List SentFrame)
    (key : ℕ) (a : UdpFrameAssembly) : Prop :=
  a.WellFormed key ∧ ∃ sent ∈ frames, Sendable scfg sent.frame ∧
    sent.frame.sequence = key ∧ Carries ccfg scfg sent a

/-- The frame is one that was sent. -/
def IsOneOf (ccfg : ClientConfig) (scfg : TransportConfig) (frames : List SentFrame)
    (frame : ReceivedFrame) : Prop :=
  ∃ sent ∈ frames, frame.metadata = embeddedMetadata ccfg scfg sent ∧
    frame.payload = sent.frame.payload

/-- No two of the frames have the same sequence number. -/
def DistinctSequences (frames : List SentFrame) : Prop :=
  (frames.map fun sent => sent.frame.sequence).Nodup

theorem DistinctSequences.eq (h : DistinctSequences frames) {sent sent' : SentFrame}
    (hsent : sent ∈ frames) (hsent' : sent' ∈ frames)
    (heq : sent.frame.sequence = sent'.frame.sequence) : sent = sent' :=
  List.inj_on_of_nodup_map h hsent hsent' heq

theorem integrityRules (hdistinct : DistinctSequences frames) :
    AssemblyRules ccfg (PartOf scfg frames) (CarriesOneOf ccfg scfg frames) (fun _ => True)
      (IsOneOf ccfg scfg frames) where
  wellFormed h := h.1
  opened := by
    rintro header fragment body nowNs ⟨sent, hmem, hsend, hpart⟩ hvalid
    refine ⟨UdpFrameAssembly.WellFormed.opened hvalid ccfg header nowNs, sent, hmem, hsend, ?_⟩
    cases hpart with
    | data index hindex => exact ⟨rfl, Carries.opened hsend _ _ _ _ _⟩
    | parity hmany => exact ⟨rfl, Carries.opened hsend _ _ _ _ _⟩
  parity := by
    rintro header fragment body a nowNs ⟨sent, hmem, hsend, hpart⟩ hvalid hrole hcount hpayload
      ⟨hwf, sent', hmem', -, hsequence, hcarries⟩
    refine ⟨hwf.storeParity ccfg body nowNs, sent, hmem, hsend, ?_⟩
    cases hpart with
    | data index hindex => simp [dataHeader, fragmentHeader, UdpFragmentRole.code] at hrole
    | parity hmany =>
        obtain rfl := hdistinct.eq hmem' hmem hsequence
        exact ⟨rfl, hcarries.storeParity nowNs⟩
  data := by
    rintro header fragment body a nowNs ⟨sent, hmem, hsend, hpart⟩ hvalid hrole hcount hpayload
      hnew ⟨hwf, sent', hmem', -, hsequence, hcarries⟩
    refine ⟨hwf.storeFragment hvalid hrole hcount hpayload hnew nowNs, sent, hmem, hsend, ?_⟩
    cases hpart with
    | data index hindex =>
        obtain rfl := hdistinct.eq hmem' hmem hsequence
        exact ⟨rfl, hcarries.storeFragment hwf hsend hindex nowNs⟩
    | parity hmany => simp [parityHeader, fragmentHeader, UdpFragmentRole.code] at hrole
  recovered := by
    rintro key a missing offset size bytes - hparity hrec
      ⟨hwf, sent, hmem, hsend, hsequence, hcarries⟩
    refine ⟨hwf.place_recovery hrec, sent, hmem, hsend, hsequence, ?_⟩
    obtain ⟨hindex, rfl, rfl, rfl⟩ := hcarries.recovery_eq hsend hparity hrec
    exact hcarries.place hwf hsend hindex true
  retried := by
    rintro key a nowNs attempts ⟨hwf, sent, hmem, hsend, hsequence, hcarries⟩
    exact ⟨hwf.retried nowNs attempts, sent, hmem, hsend, hsequence, { hcarries with }⟩
  finished := by
    rintro key a nowNs ⟨hwf, sent, hmem, hsend, hsequence, hcarries⟩ hcomplete
    exact ⟨trivial, sent, hmem, hcarries.metadata, hcarries.payload_eq hwf hsend hcomplete⟩

end

/-- A datagram of `emitted` as it arrives, possibly cut to the size of the receive
buffer. -/
def Arrives (emitted : List (Endpoint × Bytes)) (data : Bytes) : Prop :=
  ∃ e ∈ emitted, ∃ length, data = e.2.take length

theorem partOf_of_arrives {senv : ServerEnv} {scfg : TransportConfig}
    (hvalid : validate scfg = .ok ()) {sops : List ServerOperation} {data : Bytes}
    (harrives : Arrives (runServer senv scfg sops).emitted data) {header : MessageHeader}
    {fragment : UdpFrameFragmentHeader} {body : Bytes}
    (hparse : parseUdpDatagram data = some (header, fragment, body)) :
    PartOf scfg (sentFrames sops) header fragment body := by
  obtain ⟨e, he, length, rfl⟩ := harrives
  obtain ⟨henabled, sent, hsent, hfragmentable, hdatagram⟩ :=
    runServer_emitted senv scfg sops e he
  have hsend := sendable_of_validate henabled hvalid hfragmentable
  obtain ⟨header', fragment', body', hwhole, hpart⟩ :=
    parseUdpDatagram_frameDatagram hsend hdatagram
  have hsame := parseUdpDatagram_take hwhole hparse
  simp only [Prod.mk.injEq] at hsame
  obtain ⟨rfl, rfl, rfl⟩ := hsame
  exact ⟨sent, hsent, hsend, hpart⟩

/-- For every accepted server configuration, every run of the server over frames
with distinct sequence numbers, every delivery of what it emitted and every run of
the client: a frame that is handed out carries the number, the payload and the
embedded timestamps of a frame that was sent. -/
theorem runOperations_frames_sent (senv : ServerEnv) (scfg : TransportConfig)
    (hvalid : validate scfg = .ok ()) (sops : List ServerOperation)
    (hdistinct : DistinctSequences (sentFrames sops)) (cenv : ClientEnv) (ccfg : ClientConfig)
    (cops : List UdpOperation)
    (hnetwork : ∀ data nowNs deferReadyPop,
      .processUdpDatagram data nowNs deferReadyPop ∈ cops →
        Arrives (runServer senv scfg sops).emitted data) :
    ∀ frame ∈ (runOperations cenv ccfg (StreamClient.connected ccfg) cops).2,
      ∃ sent ∈ sentFrames sops,
        frame.metadata.sequence = sent.frame.sequence ∧
        frame.payload = sent.frame.payload ∧
        frame.metadata = embeddedMetadata ccfg scfg sent := by
  have hallowed : ∀ op ∈ cops,
      ReceiverInv.AllowsOperation (PartOf scfg (sentFrames sops)) op := by
    intro op hop
    cases op with
    | processUdpDatagram data nowNs deferReadyPop =>
        exact fun header fragment body hparse =>
          partOf_of_arrives hvalid (hnetwork data nowNs deferReadyPop hop) hparse
    | _ => trivial
  intro frame hframe
  obtain ⟨sent, hsent, hmetadata, hpayload⟩ := ((ReceiverInv.connected ccfg).runOperations
    (integrityRules hdistinct) cenv cops hallowed).2 frame hframe
  exact ⟨sent, hsent, by rw [hmetadata]; rfl, hpayload, hmetadata⟩

/-! #### Frames of a few fragments -/

/-- Retransmission and parity together, with the smallest datagrams that are accepted. -/
def smallConfig : TransportConfig :=
  { backend := "udp", embedFrameMetadata := true, udpEnableNack := true, udpEnableFec := true
    udpTargetPayloadSize := 256, udpMaxDatagramSize := 512 }

/-- Two fragments. -/
def smallFrame : SentFrame :=
  { frame := .numbered 9 4 false (countedBytes 300), transportSendTimestampNs := 5 }

/-- Three fragments. -/
def largerFrame : SentFrame :=
  { frame := .numbered 10 6 true (countedBytes 600), transportSendTimestampNs := 8 }

def twoFramesRun : List ServerOperation :=
  [.broadcast smallFrame.frame [0] 5 5, .broadcast largerFrame.frame [0] 8 8]

/-- The fragments come in another order and between each other, one of them twice; one is
lost and reconstructed from the parity. -/
def lossyDatagrams : List (Bytes × ℕ) :=
  [(dataDatagram smallConfig largerFrame 2, 10), (dataDatagram smallConfig smallFrame 1, 11),
    (frameParityDatagram smallConfig largerFrame, 12), (dataDatagram smallConfig largerFrame 2, 13),
    (dataDatagram smallConfig smallFrame 0, 14), (dataDatagram smallConfig largerFrame 0, 15)]

def lossyClientRun : List UdpOperation :=
  lossyDatagrams.map fun d => .processUdpDatagram d.1 d.2 false

def directClient : ClientConfig := { udpJitterBufferEnabled := false }

/-- What the client hands out. -/
def lossyClientFrames : List ReceivedFrame :=
  (runOperations .idle directClient (StreamClient.connected directClient) lossyClientRun).2

/-- Both frames are handed out, the one that was reconstructed as it was sent. -/
theorem lossyClientRun_frame_sent :
    lossyClientFrames.map (fun frame => frame.metadata.sequence) = [9, 10] ∧
      ∃ sent ∈ sentFrames twoFramesRun,
        (lossyClientFrames.getLast (by decide +kernel)).metadata.sequence = sent.frame.sequence ∧
        (lossyClientFrames.getLast (by decide +kernel)).payload = sent.frame.payload ∧
        (lossyClientFrames.getLast (by decide +kernel)).metadata =
          embeddedMetadata directClient smallConfig sent := by
  refine ⟨by decide +kernel, runOperations_frames_sent .single smallConfig rfl twoFramesRun
    (show ((sentFrames twoFramesRun).map fun sent => sent.frame.sequence).Nodup by decide) .idle
    directClient lossyClientRun ?_ _ (List.getLast_mem _)⟩
  intro data nowNs deferReadyPop hmem
  obtain ⟨d, hd, heq⟩ := List.mem_map.mp hmem
  obtain ⟨rfl, -, -⟩ := UdpOperation.processUdpDatagram.inj heq
  have hemitted : ∀ d ∈ lossyDatagrams,
      d.1 ∈ (runServer .single smallConfig twoFramesRun).emitted.map Prod.snd := by
    decide +kernel
  obtain ⟨e, he, hdata⟩ := List.mem_map.mp (hemitted d hd)
  exact ⟨e, he, d.1.length, by rw [hdata, List.take_length]⟩

end AvProject.Udp
