import AvProject.Lib.Fragments
import AvProject.Protocol.Message
import AvProject.Server.AppConfig

/-!
The sending side of `UdpStreamingBackend`: fragmentation of a frame, the XOR
parity datagram, the retransmit cache and the answers to NACK requests.

`emitted` and `sendCalls` are history variables; no branch of the code reads them.
-/

namespace AvProject.Server

open AvProject.Lib AvProject.Protocol

/-! ### Frames -/

inductive StreamPayloadType | kVideo | kAudio
  deriving DecidableEq, Repr, Inhabited

def StreamPayloadType.code : StreamPayloadType → ℕ
  | .kVideo => 3
  | .kAudio => 4

/-- An encoded frame; its numbers are those that 64 bits can hold. -/
structure EncodedFrame where
  type : StreamPayloadType := .kVideo
  sequence : ℕ := 0
  captureTimestampNs : ℕ := 0
  encodeStartTimestampNs : ℕ := 0
  encodeEndTimestampNs : ℕ := 0
  isKeyframe : Bool := false
  payload : Bytes := []
  sequence_lt : sequence < 2 ^ 64 := by decide
  captureTimestampNs_lt : captureTimestampNs < 2 ^ 64 := by decide
  encodeStartTimestampNs_lt : encodeStartTimestampNs < 2 ^ 64 := by decide
  encodeEndTimestampNs_lt : encodeEndTimestampNs < 2 ^ 64 := by decide
  deriving DecidableEq, Repr

theorem two_pow_64_pos : 0 < 2 ^ 64 := Nat.two_pow_pos 64

/-- A frame with this number, which was captured at this time. -/
def EncodedFrame.numbered (sequence captureTimestampNs : UInt64) (isKeyframe : Bool)
    (payload : Bytes) : EncodedFrame where
  sequence := sequence.toNat
  captureTimestampNs := captureTimestampNs.toNat
  isKeyframe := isKeyframe
  payload := payload
  sequence_lt := sequence.toNat_lt
  captureTimestampNs_lt := captureTimestampNs.toNat_lt
  encodeStartTimestampNs_lt := two_pow_64_pos
  encodeEndTimestampNs_lt := two_pow_64_pos

/-- The bytes 0, 1, 2 and so on, as a payload of this length. -/
def countedBytes (length : ℕ) : Bytes := (List.range length).map UInt8.ofNat

/-- A frame together with the time at which its transmission started. -/
structure SentFrame where
  frame : EncodedFrame
  transportSendTimestampNs : UInt64
  deriving DecidableEq, Repr

/-! ### State -/

abbrev Endpoint := ℕ

structure CachedUdpFragment where
  fragmentIndex : ℕ
  datagramSize : ℕ
  datagram : Bytes
  deriving DecidableEq, Repr, Inhabited

structure CachedUdpFrame where
  frameSequence : ℕ
  cachedTimestampNs : ℕ
  fragments : List CachedUdpFragment
  deriving DecidableEq, Repr, Inhabited

structure UdpStreamingBackend where
  socketOpen : Bool := true
  retransmitCache : List CachedUdpFrame := []
  sentFragments : ℕ := 0
  fecFragmentsSent : ℕ := 0
  failedFragments : ℕ := 0
  nackRequestsReceived : ℕ := 0
  nackFragmentsRequested : ℕ := 0
  retransmittedFragmentsSent : ℕ := 0
  retransmitFragmentMisses : ℕ := 0
  retransmitFragmentsThrottled : ℕ := 0
  sendCalls : ℕ := 0
  emitted : List (Endpoint × Bytes) := []
  deriving DecidableEq, Repr, Inhabited

/-- How many messages the `n`-th call of `sendmmsg` or `sendto` hands to the
network, for the datagram it is given. -/
structure ServerEnv where
  accepted : ℕ → Bytes → ℕ

/-- The socket refuses what does not fit an IPv4 datagram. -/
def ServerEnv.RefusesOversized (env : ServerEnv) : Prop :=
  ∀ call datagram, 65507 < datagram.length → env.accepted call datagram = 0

/-- A socket that hands every datagram that fits to one client. -/
def ServerEnv.single : ServerEnv where
  accepted _ datagram := if datagram.length ≤ 65507 then 1 else 0

theorem ServerEnv.single_refusesOversized : ServerEnv.single.RefusesOversized := by
  intro call datagram hlong
  exact if_neg (by omega)

/-! ### Layout of a frame -/

def headerSize : ℕ := sizeofMessageHeader + sizeofUdpFrameFragmentHeader

def maxFragmentPayloadSize (cfg : TransportConfig) : ℕ :=
  min cfg.udpTargetPayloadSize (cfg.udpMaxDatagramSize - headerSize)

def fragmentCountSize (cfg : TransportConfig) (frame : EncodedFrame) : ℕ :=
  pieceCount (maxFragmentPayloadSize cfg) frame.payload.length

/-- The fragment header of one datagram of the frame. -/
def fragmentHeader (cfg : TransportConfig) (sent : SentFrame) (role : UdpFragmentRole)
    (index offset : ℕ) : UdpFrameFragmentHeader :=
  let embed (timestampNs : ℕ) := if cfg.embedFrameMetadata then timestampNs else 0
  { frameSequence := sent.frame.sequence
    captureTimestampNs := embed sent.frame.captureTimestampNs
    encodeStartTimestampNs := embed sent.frame.encodeStartTimestampNs
    encodeEndTimestampNs := embed sent.frame.encodeEndTimestampNs
    transportSendTimestampNs := embed sent.transportSendTimestampNs.toNat
    framePayloadSize := sent.frame.payload.length % 2 ^ 32
    fragmentOffset := offset % 2 ^ 32
    fragmentIndex := index
    fragmentCount := fragmentCountSize cfg sent.frame % 2 ^ 16
    fragmentRole := role.code
    reserved := 0 }

/-- Message header, fragment header and body, one after the other. -/
def buildDatagram (sent : SentFrame) (fragment : UdpFrameFragmentHeader) (body : Bytes) :
    Bytes :=
  (buildMessageHeader .kAvStream sent.frame.type.code
      (sizeofUdpFrameFragmentHeader + body.length)).toBytes ++ (fragment.toBytes ++ body)

def dataHeader (cfg : TransportConfig) (sent : SentFrame) (index : ℕ) :
    UdpFrameFragmentHeader :=
  fragmentHeader cfg sent .kData index (index * maxFragmentPayloadSize cfg)

def fragmentPayload (cfg : TransportConfig) (frame : EncodedFrame) (index : ℕ) : Bytes :=
  piece (maxFragmentPayloadSize cfg) frame.payload index

def dataDatagram (cfg : TransportConfig) (sent : SentFrame) (index : ℕ) : Bytes :=
  buildDatagram sent (dataHeader cfg sent index) (fragmentPayload cfg sent.frame index)

def parityHeader (cfg : TransportConfig) (sent : SentFrame) : UdpFrameFragmentHeader :=
  fragmentHeader cfg sent .kXorParity 0 0

def parityDatagram (cfg : TransportConfig) (sent : SentFrame) (fecPayload : Bytes) : Bytes :=
  buildDatagram sent (parityHeader cfg sent) fecPayload

/-! ### Sending -/

/-- One call of `sendmmsg` or `sendto`: the first clients get the datagram. -/
def transmit (env : ServerEnv) (clients : List Endpoint) (datagram : Bytes)
    (st : UdpStreamingBackend) : UdpStreamingBackend × ℕ :=
  let count := min (env.accepted st.sendCalls datagram) clients.length
  ({ st with
      sendCalls := st.sendCalls + 1
      emitted := st.emitted ++ (clients.take count).map fun client => (client, datagram) },
    count)

/-- Send one datagram to all clients: `sendmmsg` for several, `sendto` for one.
The result is the number of clients reached; zero is a failure. -/
def sendToClients (env : ServerEnv) (clients : List Endpoint) (datagram : Bytes)
    (st : UdpStreamingBackend) : UdpStreamingBackend × ℕ :=
  if clients.length > 1 then
    let (st, count) := transmit env clients datagram st
    if count > 0 then
      ({ st with
          sentFragments := st.sentFragments + count
          failedFragments := st.failedFragments + (clients.length - count) }, count)
    else (st, 0)
  else if clients ≠ [] then
    let (st, count) := transmit env clients datagram st
    if count = 1 then ({ st with sentFragments := st.sentFragments + 1 }, 1)
    else ({ st with failedFragments := st.failedFragments + 1 }, 0)
  else (st, 0)

/-- The loop over the data fragments, with the cached datagrams and the parity
block accumulated so far; `none` where the source returns `false`. -/
def sendDataFragments (env : ServerEnv) (cfg : TransportConfig) (sent : SentFrame)
    (clients : List Endpoint) : List ℕ → UdpStreamingBackend → List CachedUdpFragment →
    Bytes → UdpStreamingBackend × Option (List CachedUdpFragment × Bytes)
  | [], st, cached, fecPayload => (st, some (cached, fecPayload))
  | index :: rest, st, cached, fecPayload =>
      let datagram := dataDatagram cfg sent index
      let cached :=
        if cfg.udpEnableNack then
          cached ++ [{ fragmentIndex := index
                       datagramSize := datagram.length
                       datagram := datagram }]
        else cached
      let body := fragmentPayload cfg sent.frame index
      let fecPayload := if cfg.udpEnableFec then xorInto fecPayload body else fecPayload
      let (st, count) := sendToClients env clients datagram st
      if count = 0 then (st, none)
      else sendDataFragments env cfg sent clients rest st cached fecPayload

/-- The parity datagram, where there is one; the flag is `false` on a failure. -/
def sendParity (env : ServerEnv) (cfg : TransportConfig) (sent : SentFrame)
    (clients : List Endpoint) (fecPayload : Bytes) (st : UdpStreamingBackend) :
    UdpStreamingBackend × Bool :=
  if cfg.udpEnableFec ∧ fragmentCountSize cfg sent.frame > 1 ∧ fecPayload ≠ [] then
    let (st, count) := sendToClients env clients (parityDatagram cfg sent fecPayload) st
    ({ st with fecFragmentsSent := st.fecFragmentsSent + count }, decide (count > 0))
  else (st, true)

/-! ### Retransmit cache -/

/-- `PruneRetransmitCacheLocked`: expired frames leave at the front. -/
def pruneRetransmitCache (cfg : TransportConfig) (nowNs : UInt64) :
    List CachedUdpFrame → List CachedUdpFrame
  | [] => []
  | frame :: rest =>
      let maxAgeNs := (cfg.udpRetransmitCacheMaxAgeMs % 2 ^ 64).toNat * 1000 * 1000 % 2 ^ 64
      if nowNs.toNat ≥ frame.cachedTimestampNs ∧
          nowNs.toNat - frame.cachedTimestampNs > maxAgeNs then
        pruneRetransmitCache cfg nowNs rest
      else frame :: rest

def cacheFrameFragments (cfg : TransportConfig) (frame : CachedUdpFrame) (nowNs : UInt64)
    (st : UdpStreamingBackend) : UdpStreamingBackend :=
  let cache := pruneRetransmitCache cfg nowNs st.retransmitCache ++ [frame]
  { st with retransmitCache := cache.drop (cache.length - cfg.udpRetransmitCacheFrames) }

/-- `sendFrameFragments`; the clock is read when the transmission starts and when
the frame enters the cache. -/
def sendFrameFragments (env : ServerEnv) (cfg : TransportConfig) (frame : EncodedFrame)
    (clients : List Endpoint) (transportSendNs cacheNs : UInt64) (st : UdpStreamingBackend) :
    UdpStreamingBackend × Bool :=
  if cfg.udpTargetPayloadSize ≤ headerSize ∨ cfg.udpMaxDatagramSize ≤ headerSize then
    (st, false)
  else if fragmentCountSize cfg frame > 0xFFFF then (st, false)
  else
    let sent : SentFrame := { frame := frame, transportSendTimestampNs := transportSendNs }
    let indices := List.range (fragmentCountSize cfg frame)
    match sendDataFragments env cfg sent clients indices st [] [] with
    | (st, none) => (st, false)
    | (st, some (cached, fecPayload)) =>
        match sendParity env cfg sent clients fecPayload st with
        | (st, false) => (st, false)
        | (st, true) =>
            if cfg.udpEnableNack ∧ cached ≠ [] then
              (cacheFrameFragments cfg
                { frameSequence := frame.sequence
                  cachedTimestampNs := transportSendNs.toNat
                  fragments := cached } cacheNs st, true)
            else (st, true)

/-! ### NACK requests -/

/-- `ParseNackRequest` on the bytes that were received: the NACK header and the request
items behind it. -/
def parseNackRequest (data : Bytes) : Option (UdpNackHeader × List UdpNackItem) :=
  let header := MessageHeader.ofBytes data
  if data.length < sizeofMessageHeader ∨ !hasValidMessageMagic header ∨
      header.messageType ≠ MessageType.kUdpNack.code ∨
      header.payloadLength < sizeofUdpNackHeader ∨
      data.length < sizeofMessageHeader + sizeofUdpNackHeader then none
  else
    let nackHeader := UdpNackHeader.ofBytes (data.drop sizeofMessageHeader)
    let expectedPayloadLength :=
      sizeofUdpNackHeader + nackHeader.requestCount * sizeofUdpNackItem
    if header.payloadLength ≠ expectedPayloadLength ∨
        data.length < sizeofMessageHeader + expectedPayloadLength then none
    else
      some (nackHeader, (List.range nackHeader.requestCount).map fun i =>
        UdpNackItem.ofBytes
          (data.drop (sizeofMessageHeader + sizeofUdpNackHeader + i * sizeofUdpNackItem)))

/-- The first cached fragment that a request item names. -/
def findCachedFragment (cache : List CachedUdpFrame) (item : UdpNackItem) :
    Option CachedUdpFragment :=
  (cache.filter fun frame => frame.frameSequence == item.frameSequence).findSome? fun frame =>
    frame.fragments.find? fun fragment => fragment.fragmentIndex == item.fragmentIndex

def retransmitFragment (env : ServerEnv) (address : Endpoint) (st : UdpStreamingBackend)
    (item : UdpNackItem) : UdpStreamingBackend :=
  match findCachedFragment st.retransmitCache item with
  | none => { st with retransmitFragmentMisses := st.retransmitFragmentMisses + 1 }
  | some fragment =>
      let datagram := fragment.datagram.take fragment.datagramSize
      let (st, count) := transmit env [address] datagram st
      { st with retransmittedFragmentsSent := st.retransmittedFragmentsSent + count }

def handleNackRequest (env : ServerEnv) (cfg : TransportConfig) (address : Endpoint)
    (nowNs : UInt64) (nackItems : List UdpNackItem) (st : UdpStreamingBackend) :
    UdpStreamingBackend :=
  if !cfg.udpEnableNack || nackItems.isEmpty || !st.socketOpen then st
  else
    let allowed := min nackItems.length cfg.udpRetransmitMaxFragmentsPerRequest
    let st :=
      { st with
        retransmitCache := pruneRetransmitCache cfg nowNs st.retransmitCache
        nackRequestsReceived := st.nackRequestsReceived + 1
        nackFragmentsRequested := st.nackFragmentsRequested + nackItems.length
        retransmitFragmentsThrottled :=
          st.retransmitFragmentsThrottled + (nackItems.length - allowed) }
    (nackItems.take allowed).foldl (retransmitFragment env address) st

/-! ### Runs -/

/-- `Broadcast` to the clients that are registered at the moment. -/
def broadcast (env : ServerEnv) (cfg : TransportConfig) (frame : EncodedFrame)
    (clients : List Endpoint) (transportSendNs cacheNs : UInt64) (st : UdpStreamingBackend) :
    UdpStreamingBackend :=
  if !cfg.enabled || !st.socketOpen || clients.isEmpty then st
  else (sendFrameFragments env cfg frame clients transportSendNs cacheNs st).1

inductive ServerOperation
  | broadcast (frame : EncodedFrame) (clients : List Endpoint)
      (transportSendNs cacheNs : UInt64)
  | handleNackRequest (address : Endpoint) (nowNs : UInt64) (nackItems : List UdpNackItem)
  deriving Repr

def runServerOperation (env : ServerEnv) (cfg : TransportConfig) (st : UdpStreamingBackend) :
    ServerOperation → UdpStreamingBackend
  | .broadcast frame clients transportSendNs cacheNs =>
      broadcast env cfg frame clients transportSendNs cacheNs st
  | .handleNackRequest address nowNs nackItems =>
      handleNackRequest env cfg address nowNs nackItems st

def runServer (env : ServerEnv) (cfg : TransportConfig) (ops : List ServerOperation) :
    UdpStreamingBackend :=
  ops.foldl (runServerOperation env cfg) {}

/-- The frames that a run was asked to send. -/
def sentFrames (ops : List ServerOperation) : List SentFrame :=
  ops.filterMap fun
    | .broadcast frame _ transportSendNs _ =>
        some { frame := frame, transportSendTimestampNs := transportSendNs }
    | .handleNackRequest .. => none

end AvProject.Server
