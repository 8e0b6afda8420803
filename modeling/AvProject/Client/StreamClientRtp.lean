import AvProject.Client.StreamClientUdp
import AvProject.Protocol.AnnexB
import AvProject.Protocol.Rtp

/-!
`StreamClient::ReceiveRtpFrame`: RTP packets are put together to frames. The loop is a
machine like the one of the UDP receiver: an event is what the next step gets from
outside.
-/

namespace AvProject.Client

open AvProject.Lib AvProject.Protocol

/-! ### One packet -/

/-- The filter on the payload type; a negative setting accepts every type. -/
def acceptsPayloadType (cfg : ClientConfig) (payloadType : UInt8) : Bool :=
  cfg.rtpPayloadType < 0 || payloadType == UInt8.ofNat (cfg.rtpPayloadType % 256).toNat

/-- A packet of another frame starts the assembly anew; one of the same frame has to
carry the next sequence number. -/
def trackRtpSequence (a : RtpFrameAssembly) (fields : RtpHeaderFields) : RtpFrameAssembly :=
  if !a.active || a.timestamp != fields.timestamp || a.ssrc != fields.ssrc then
    { payload := []
      timestamp := fields.timestamp
      ssrc := fields.ssrc
      nextSequenceNumber := fields.sequenceNumber + 1
      active := true
      hasSequenceNumber := true
      captureTimestampNs := 0
      transportSendTimestampNs := 0
      senderMetadataAvailable := false
      senderMetadataInvalid := false
      frameDamaged := false
      fuInProgress := false }
  else if a.hasSequenceNumber && fields.sequenceNumber != a.nextSequenceNumber then
    { a with
      frameDamaged := true
      fuInProgress := false
      nextSequenceNumber := fields.sequenceNumber + 1 }
  else { a with nextSequenceNumber := fields.sequenceNumber + 1, hasSequenceNumber := true }

/-- The timestamps of the sender, as long as all packets agree on them. -/
def trackSenderMetadata (cfg : ClientConfig) (a : RtpFrameAssembly)
    (extension : RtpHeaderExtension) : RtpFrameAssembly :=
  let invalid := { a with senderMetadataAvailable := false, senderMetadataInvalid := true }
  if cfg.expectMetadata && !a.senderMetadataInvalid then
    match parseRtpLatencyExtension extension with
    | none => invalid
    | some latency =>
        if latency.captureTimestampNs = 0 ∨ latency.transportSendTimestampNs = 0 then invalid
        else if !a.senderMetadataAvailable then
          { a with
            captureTimestampNs := latency.captureTimestampNs
            transportSendTimestampNs := latency.transportSendTimestampNs
            senderMetadataAvailable := true }
        else if a.captureTimestampNs ≠ latency.captureTimestampNs then invalid
        else { a with transportSendTimestampNs := latency.transportSendTimestampNs }
  else a

/-- `frame_damaged` is set and an open NAL unit is given up. -/
def RtpFrameAssembly.damage (a : RtpFrameAssembly) : RtpFrameAssembly :=
  { a with frameDamaged := true, fuInProgress := false }

/-- A single NAL unit or a FU-A fragment goes to the end of the frame. -/
def appendRtpPayload (a : RtpFrameAssembly) (payload : Bytes) : RtpFrameAssembly :=
  if payload = [] then a
  else if 0 < nalType payload ∧ nalType payload < 24 then
    { a with payload := appendAnnexBNalu payload a.payload, fuInProgress := false }
  else if nalType payload = kH264FuAType ∧ 2 ≤ payload.length then
    let fuHeader := byteAt payload 1
    let first := fuHeader &&& 0x80 != 0
    let last := fuHeader &&& 0x40 != 0
    let reconstructedNalHeader := (byteAt payload 0 &&& 0xE0) ||| (fuHeader &&& 0x1F)
    if first then
      if payload.length ≤ 2 then a.damage
      else
        { a with
          payload := appendAnnexBStartCode a.payload ++ [reconstructedNalHeader] ++ payload.drop 2
          fuInProgress := !last }
    else if !a.fuInProgress || payload.length ≤ 2 then a.damage
    else
      { a with
        payload := a.payload ++ payload.drop 2
        fuInProgress := if last then false else a.fuInProgress }
  else a.damage

/-- The assembly after one more packet. -/
def assembleRtpPacket (cfg : ClientConfig) (a : RtpFrameAssembly) (packet : RtpPacket) :
    RtpFrameAssembly :=
  let a := trackRtpSequence a packet.fields
  let a := trackSenderMetadata cfg a packet.extension
  appendRtpPayload a packet.payload

/-- `frame_ready`. -/
def RtpFrameAssembly.ready (a : RtpFrameAssembly) : Bool :=
  a.active && !a.payload.isEmpty && !a.frameDamaged && !a.fuInProgress

/-- The frame made of an assembly. -/
def completedRtpFrame (cfg : ClientConfig) (a : RtpFrameAssembly) (nowNs : ℕ) : ReceivedFrame :=
  let available := cfg.expectMetadata && a.senderMetadataAvailable && !a.senderMetadataInvalid
  { header :=
      { headId := kMessageMagic
        messageType := MessageType.kAvStream.code
        subType := 0
        payloadLength := a.payload.length % 2 ^ 32 }
    metadata :=
      { sequence := a.timestamp.toNat
        captureTimestampNs := if available then a.captureTimestampNs.toNat else 0
        encodeStartTimestampNs := 0
        encodeEndTimestampNs := 0
        transportSendTimestampNs := if available then a.transportSendTimestampNs.toNat else 0 }
    senderMetadataAvailable := available
    receiveTimestampNs := nowNs
    payload := a.payload }

def resetRtpState (st : StreamClient) : StreamClient := { st with rtpFrameAssembly := {} }

/-- A packet with the marker ends its frame, which is handed out, buffered or dropped. -/
def finishRtpFrame (cfg : ClientConfig) (st : StreamClient) (nowNs : ℕ) :
    StreamClient × Option ReceivedFrame :=
  if st.rtpFrameAssembly.ready then
    let frame := completedRtpFrame cfg st.rtpFrameAssembly nowNs
    if cfg.udpJitterBufferEnabled then
      (resetRtpState (bufferCompletedUdpFrame (onCompletedUdpFrame st frame nowNs) frame), none)
    else (resetRtpState st, some frame)
  else (resetRtpState st, none)

/-- What an iteration of `ReceiveRtpFrame` does with the bytes that `recv` returned. -/
def receiveRtpDatagram (cfg : ClientConfig) (st : StreamClient) (data : Bytes) (nowNs : ℕ) :
    StreamClient × Option ReceivedFrame :=
  match readRtpPacket data with
  | none => (st, none)
  | some packet =>
      if !acceptsPayloadType cfg packet.fields.payloadType then (st, none)
      else
        let st :=
          { st with rtpFrameAssembly := assembleRtpPacket cfg st.rtpFrameAssembly packet }
        if packet.fields.marker then finishRtpFrame cfg st nowNs else (st, none)

def tryPopReadyRtpFrame (cfg : ClientConfig) (st : StreamClient) (nowNs : ℕ) :
    StreamClient × Option ReceivedFrame :=
  if st.udpJitterBuffer.isEmpty then (st, none) else tryPopReadyUdpFrame cfg st nowNs

/-! ### The loop -/

/-- Where the thread is in `ReceiveRtpFrame`. -/
inductive RtpReceivePoint
  /-- Between two calls. -/
  | returned
  /-- Before the pop at the top of the loop. -/
  | loopTop
  /-- Before `recv`. -/
  | receiving
  deriving DecidableEq, Repr

/-- What a step gets from outside. -/
inductive RtpReceiveEvent
  | call
  /-- `running_` is cleared. -/
  | stopped
  /-- The top of the loop runs at this time. -/
  | proceed (nowNs : ℕ)
  /-- `recv` returns a datagram. -/
  | datagram (data : Bytes) (nowNs : ℕ)
  /-- `recv` is interrupted. -/
  | interrupted
  /-- `recv` fails or times out. -/
  | failed (nowNs : ℕ)
  deriving DecidableEq, Repr

structure RtpReceiveState where
  point : RtpReceivePoint
  client : StreamClient
  delivered : List ReceivedFrame := []

/-- A step that may return a frame; without one it goes on at `next`. -/
def RtpReceiveState.returnOr (s : RtpReceiveState) (next : RtpReceivePoint)
    (result : StreamClient × Option ReceivedFrame) : RtpReceiveState :=
  match result with
  | (client, some frame) =>
      { point := .returned, client := client, delivered := s.delivered ++ [frame] }
  | (client, none) => { s with point := next, client := client }

theorem RtpReceiveState.returnOr_client (s : RtpReceiveState) (next : RtpReceivePoint)
    (result : StreamClient × Option ReceivedFrame) :
    (s.returnOr next result).client = result.1 := by
  obtain ⟨client, frame⟩ := result
  cases frame <;> rfl

theorem RtpReceiveState.returnOr_delivered (s : RtpReceiveState) (next : RtpReceivePoint)
    (result : StreamClient × Option ReceivedFrame) :
    (s.returnOr next result).delivered = s.delivered ++ result.2.toList := by
  obtain ⟨client, frame⟩ := result
  cases frame with
  | none => exact (List.append_nil s.delivered).symm
  | some frame => rfl

/-- One step; `none` where the event does not fit the place. -/
def rtpReceiveStep (cfg : ClientConfig) (s : RtpReceiveState) :
    RtpReceiveEvent → Option RtpReceiveState
  | .call =>
      match s.point with
      | .returned => some { s with point := .loopTop }
      | _ => none
  | .stopped =>
      match s.point with
      | .loopTop => some { s with point := .returned }
      | _ => none
  | .proceed nowNs =>
      match s.point with
      | .loopTop =>
          if cfg.udpJitterBufferEnabled then
            some (s.returnOr .receiving (tryPopReadyRtpFrame cfg s.client nowNs))
          else some { s with point := .receiving }
      | _ => none
  | .datagram data nowNs =>
      match s.point with
      | .receiving =>
          if data = [] then some { s with point := .loopTop }
          else some (s.returnOr .loopTop (receiveRtpDatagram cfg s.client data nowNs))
      | _ => none
  | .interrupted =>
      match s.point with
      | .receiving => some { s with point := .loopTop }
      | _ => none
  | .failed nowNs =>
      match s.point with
      | .receiving =>
          if cfg.udpJitterBufferEnabled then
            some (s.returnOr .returned (tryPopReadyRtpFrame cfg s.client nowNs))
          else some { s with point := .returned }
      | _ => none

/-- What `recv` has given to the step. -/
def RtpReceiveEvent.received : RtpReceiveEvent → Bytes
  | .datagram data _ => data
  | _ => []

/-- What a step can do: it goes on, it pops, or it takes a datagram in. -/
inductive RtpReceiveEffect (cfg : ClientConfig) (s : RtpReceiveState) :
    RtpReceiveEvent → RtpReceiveState → Prop
  | moved (event : RtpReceiveEvent) (point : RtpReceivePoint) (hnothing : event.received = []) :
      RtpReceiveEffect cfg s event { s with point := point }
  | popped (event : RtpReceiveEvent) (point : RtpReceivePoint) (nowNs : ℕ)
      (hnothing : event.received = []) (hjitter : cfg.udpJitterBufferEnabled = true) :
      RtpReceiveEffect cfg s event (s.returnOr point (tryPopReadyRtpFrame cfg s.client nowNs))
  | taken (data : Bytes) (nowNs : ℕ) (hdata : data ≠ []) :
      RtpReceiveEffect cfg s (.datagram data nowNs)
        (s.returnOr .loopTop (receiveRtpDatagram cfg s.client data nowNs))

/-- The step lemma, by the events. -/
theorem rtpReceiveStep_effect {cfg : ClientConfig} {s s' : RtpReceiveState}
    {event : RtpReceiveEvent} (hstep : rtpReceiveStep cfg s event = some s') :
    RtpReceiveEffect cfg s event s' := by
  cases event with
  | call | stopped | interrupted =>
      rw [rtpReceiveStep] at hstep
      split at hstep <;> cases hstep
      exact .moved _ _ rfl
  | proceed nowNs | failed nowNs =>
      rw [rtpReceiveStep] at hstep
      split at hstep
      · split at hstep
        · rename_i hjitter
          cases hstep
          exact .popped _ _ nowNs rfl hjitter
        · cases hstep
          exact .moved _ _ rfl
      · cases hstep
  | datagram data nowNs =>
      rw [rtpReceiveStep] at hstep
      split at hstep
      · split at hstep
        · rename_i hempty
          cases hstep
          exact .moved _ _ hempty
        · rename_i hdata
          cases hstep
          exact .taken data nowNs hdata
      · cases hstep

/-- A run over a list of events. -/
def runRtpReceive (cfg : ClientConfig) (s : RtpReceiveState) :
    List RtpReceiveEvent → Option RtpReceiveState
  | [] => some s
  | event :: events => (rtpReceiveStep cfg s event).bind fun next => runRtpReceive cfg next events

/-- The client before the first call. -/
def RtpReceiveState.start (cfg : ClientConfig) : RtpReceiveState where
  point := .returned
  client := StreamClient.connected cfg

/-- The datagrams that `recv` returned in the course of the events. -/
def receivedDatagrams (events : List RtpReceiveEvent) : List Bytes :=
  events.filterMap fun
    | .datagram data _ => some data
    | _ => none

end AvProject.Client
