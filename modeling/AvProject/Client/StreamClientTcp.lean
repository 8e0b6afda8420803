import AvProject.Client.StreamClientUdp

/-!
`ReceiveTcpFrame`: a frame read from a stream of bytes, of which `recv` returns as many at
a time as it likes.
-/

namespace AvProject.Client

open AvProject.Lib AvProject.Protocol

def kMaxPayloadLength : ℕ := 50 * 1024 * 1024

def kMaxConsecutiveTimeouts : ℕ := 10

/-- What one `recv` meets. -/
inductive RecvResult
  /-- This many bytes have arrived; `recv` returns those it is asked for, and none where
  there are no more. -/
  | data (count : ℕ)
  /-- `EINTR` -/
  | interrupted
  /-- `EAGAIN` or `EWOULDBLOCK` -/
  | wouldBlock
  /-- Any other error. -/
  | failed (reason : String)
  deriving DecidableEq, Repr

/-- What the next calls of `recv` meet, and the bytes that have not been read yet. -/
structure TcpSocket where
  results : List RecvResult
  stream : Bytes
  deriving DecidableEq, Repr

/-- The loop of `ReceiveAll`, with `missing` bytes left to read and the bytes read so far in
`buffer`; `none` while the thread is still in `recv`. -/
def receiveAllLoop : List RecvResult → Bytes → ℕ → ℕ → Bytes →
    Option (Except String Bytes × TcpSocket)
  | results, stream, 0, _, buffer => some (.ok buffer, ⟨results, stream⟩)
  | [], _, _ + 1, _, _ => none
  | .interrupted :: results, stream, missing + 1, timeouts, buffer =>
      receiveAllLoop results stream (missing + 1) timeouts buffer
  | .wouldBlock :: results, stream, missing + 1, timeouts, buffer =>
      if kMaxConsecutiveTimeouts ≤ timeouts + 1 then
        some (.error "receive timed out", ⟨results, stream⟩)
      else receiveAllLoop results stream (missing + 1) (timeouts + 1) buffer
  | .failed reason :: results, stream, _ + 1, _, _ =>
      some (.error ("failed to receive data: " ++ reason), ⟨results, stream⟩)
  | .data count :: results, stream, missing + 1, _, buffer =>
      let chunk := stream.take (min count (missing + 1))
      if chunk = [] then some (.error "server closed the connection", ⟨results, stream⟩)
      else receiveAllLoop results (stream.drop chunk.length) (missing + 1 - chunk.length) 0
        (buffer ++ chunk)

def receiveAll (socket : TcpSocket) (length : ℕ) : Option (Except String Bytes × TcpSocket) :=
  receiveAllLoop socket.results socket.stream length 0 []

/-- Goes on with the bytes that `ReceiveAll` has read, or returns its error. -/
def receiveThen {α : Type} (socket : TcpSocket) (length : ℕ)
    (next : Bytes → TcpSocket → Option (Except String α × TcpSocket)) :
    Option (Except String α × TcpSocket) :=
  match receiveAll socket length with
  | none => none
  | some (.error message, socket) => some (.error message, socket)
  | some (.ok bytes, socket) => next bytes socket

/-- The part of `ReceiveTcpFrame` after the metadata. -/
def receiveTcpPayload (header : MessageHeader) (metadata : FrameDiagnosticMetadata)
    (senderMetadataAvailable : Bool) (payloadLength nowNs : ℕ) (socket : TcpSocket) :
    Option (Except String ReceivedFrame × TcpSocket) :=
  receiveThen socket payloadLength fun payload socket =>
    some (.ok {
      header := header
      metadata := metadata
      senderMetadataAvailable := senderMetadataAvailable
      receiveTimestampNs := nowNs
      payload := payload }, socket)

/-- `ReceiveTcpFrame`; `nowNs` is the clock after the last read. -/
def receiveTcpFrame (cfg : ClientConfig) (nowNs : ℕ) (socket : TcpSocket) :
    Option (Except String ReceivedFrame × TcpSocket) :=
  receiveThen socket sizeofMessageHeader fun bytes socket =>
    let header := MessageHeader.ofBytes bytes
    if hasValidMessageMagic header = false then
      some (.error "received invalid message magic", socket)
    else if kMaxPayloadLength < header.payloadLength then
      some (.error "payload length exceeds maximum", socket)
    else if cfg.expectMetadata then
      if header.payloadLength < sizeofFrameDiagnosticMetadata then
        some (.error "payload is smaller than metadata", socket)
      else
        receiveThen socket sizeofFrameDiagnosticMetadata fun bytes socket =>
          let metadata := FrameDiagnosticMetadata.ofBytes bytes
          receiveTcpPayload header metadata (hasSenderLatencyMetadata metadata)
            (header.payloadLength - sizeofFrameDiagnosticMetadata) nowNs socket
    else receiveTcpPayload header FrameDiagnosticMetadata.zero false header.payloadLength nowNs socket

/-- One call of `ReceiveTcpFrame` after the other, one for each reading of the clock, up to
the first that fails. -/
def receiveTcpFrames (cfg : ClientConfig) :
    List ℕ → TcpSocket → Option (Except String (List ReceivedFrame) × TcpSocket)
  | [], socket => some (.ok [], socket)
  | nowNs :: clocks, socket =>
      match receiveTcpFrame cfg nowNs socket with
      | none => none
      | some (.error message, socket) => some (.error message, socket)
      | some (.ok frame, socket) =>
          match receiveTcpFrames cfg clocks socket with
          | none => none
          | some (.error message, socket) => some (.error message, socket)
          | some (.ok frames, socket) => some (.ok (frame :: frames), socket)

end AvProject.Client
