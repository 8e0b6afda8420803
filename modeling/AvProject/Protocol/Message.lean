import AvProject.Lib.Bytes

/-!
The binary message protocol shared by server and client: the 12-byte message
header, the 56-byte UDP fragment header and the NACK records. All structures are
packed and copied in host byte order, which is little-endian on both sides.
-/

namespace AvProject.Protocol

open AvProject.Lib

inductive MessageType | kKeepAlive | kAvStream | kUdpNack
  deriving DecidableEq, Repr

def MessageType.code : MessageType → ℕ
  | .kKeepAlive => 0
  | .kAvStream => 1
  | .kUdpNack => 2

inductive UdpFragmentRole | kData | kXorParity
  deriving DecidableEq, Repr

def UdpFragmentRole.code : UdpFragmentRole → ℕ
  | .kData => 0
  | .kXorParity => 1

/-- The magic bytes `CCTC`. -/
def kMessageMagic : Bytes := [0x43, 0x43, 0x54, 0x43]

structure MessageHeader where
  headId : Bytes
  messageType : ℕ
  subType : ℕ
  payloadLength : ℕ
  deriving DecidableEq, Repr, Inhabited

structure FrameDiagnosticMetadata where
  sequence : ℕ
  captureTimestampNs : ℕ
  encodeStartTimestampNs : ℕ
  encodeEndTimestampNs : ℕ
  transportSendTimestampNs : ℕ
  deriving DecidableEq, Repr, Inhabited

structure UdpFrameFragmentHeader where
  frameSequence : ℕ
  captureTimestampNs : ℕ
  encodeStartTimestampNs : ℕ
  encodeEndTimestampNs : ℕ
  transportSendTimestampNs : ℕ
  framePayloadSize : ℕ
  fragmentOffset : ℕ
  fragmentIndex : ℕ
  fragmentCount : ℕ
  fragmentRole : ℕ
  reserved : ℕ
  deriving DecidableEq, Repr, Inhabited

structure UdpNackHeader where
  requestTimestampNs : ℕ
  requestCount : ℕ
  reserved : ℕ
  deriving DecidableEq, Repr, Inhabited

structure UdpNackItem where
  frameSequence : ℕ
  fragmentIndex : ℕ
  reserved : ℕ
  deriving DecidableEq, Repr, Inhabited

/-! ### Sizes -/

def sizeofMessageHeader : ℕ := 12
def sizeofFrameDiagnosticMetadata : ℕ := 40
def sizeofUdpFrameFragmentHeader : ℕ := 56
def sizeofUdpNackHeader : ℕ := 12
def sizeofUdpNackItem : ℕ := 12

/-! ### Message header -/

def MessageHeader.toBytes (h : MessageHeader) : Bytes :=
  h.headId ++ (writeLe 2 h.messageType ++ (writeLe 2 h.subType ++ writeLe 4 h.payloadLength))

/-- `memcpy` of the first bytes of a datagram into a `MessageHeader`. -/
def MessageHeader.ofBytes (b : Bytes) : MessageHeader :=
  let messageType := takeLe 2 (b.drop 4)
  let subType := takeLe 2 messageType.2
  let payloadLength := takeLe 4 subType.2
  { headId := b.take 4
    messageType := messageType.1
    subType := subType.1
    payloadLength := payloadLength.1 }

def hasValidMessageMagic (h : MessageHeader) : Bool := h.headId == kMessageMagic

/-- The header of an outgoing message; the casts are those of the assignments to
the packed fields. -/
def buildMessageHeader (type : MessageType) (subType payloadLength : ℕ) : MessageHeader :=
  { headId := kMessageMagic
    messageType := type.code
    subType := subType % 2 ^ 16
    payloadLength := payloadLength % 2 ^ 32 }

@[simp] theorem length_kMessageMagic : kMessageMagic.length = 4 := rfl

theorem MessageType.code_lt (t : MessageType) : t.code < 256 ^ 2 := by
  cases t <;> decide

@[simp] theorem length_toBytes_buildMessageHeader (type : MessageType)
    (subType payloadLength : ℕ) :
    (buildMessageHeader type subType payloadLength).toBytes.length = sizeofMessageHeader := by
  simp [MessageHeader.toBytes, buildMessageHeader, sizeofMessageHeader]

@[simp] theorem hasValidMessageMagic_buildMessageHeader (type : MessageType)
    (subType payloadLength : ℕ) :
    hasValidMessageMagic (buildMessageHeader type subType payloadLength) = true := by
  simp [hasValidMessageMagic, buildMessageHeader]

/-- Reading back the header of an outgoing message. -/
@[simp] theorem MessageHeader.ofBytes_toBytes_append (type : MessageType)
    (subType payloadLength : ℕ) (rest : Bytes) :
    MessageHeader.ofBytes ((buildMessageHeader type subType payloadLength).toBytes ++ rest) =
      buildMessageHeader type subType payloadLength := by
  have htake (b : Bytes) : (kMessageMagic ++ b).take 4 = kMessageMagic :=
    List.take_left' length_kMessageMagic
  have hdrop (b : Bytes) : (kMessageMagic ++ b).drop 4 = b :=
    List.drop_left' length_kMessageMagic
  have hcode : type.code % 256 ^ 2 = type.code := Nat.mod_eq_of_lt type.code_lt
  simp only [MessageHeader.ofBytes, MessageHeader.toBytes, buildMessageHeader,
    List.append_assoc, htake, hdrop, takeLe_writeLe_append, hcode]
  norm_num

/-! ### Frame metadata -/

def FrameDiagnosticMetadata.toBytes (m : FrameDiagnosticMetadata) : Bytes :=
  writeLe 8 m.sequence ++ (writeLe 8 m.captureTimestampNs ++
    (writeLe 8 m.encodeStartTimestampNs ++ (writeLe 8 m.encodeEndTimestampNs ++
    writeLe 8 m.transportSendTimestampNs)))

/-- `recv` into a `FrameDiagnosticMetadata`. -/
def FrameDiagnosticMetadata.ofBytes (b : Bytes) : FrameDiagnosticMetadata :=
  let sequence := takeLe 8 b
  let captureTimestampNs := takeLe 8 sequence.2
  let encodeStartTimestampNs := takeLe 8 captureTimestampNs.2
  let encodeEndTimestampNs := takeLe 8 encodeStartTimestampNs.2
  let transportSendTimestampNs := takeLe 8 encodeEndTimestampNs.2
  { sequence := sequence.1
    captureTimestampNs := captureTimestampNs.1
    encodeStartTimestampNs := encodeStartTimestampNs.1
    encodeEndTimestampNs := encodeEndTimestampNs.1
    transportSendTimestampNs := transportSendTimestampNs.1 }

/-- `memset` to zero. -/
def FrameDiagnosticMetadata.zero : FrameDiagnosticMetadata := ⟨0, 0, 0, 0, 0⟩

@[simp] theorem length_toBytes_frameDiagnosticMetadata (m : FrameDiagnosticMetadata) :
    m.toBytes.length = sizeofFrameDiagnosticMetadata := by
  simp [FrameDiagnosticMetadata.toBytes, sizeofFrameDiagnosticMetadata]

theorem FrameDiagnosticMetadata.ofBytes_toBytes {m : FrameDiagnosticMetadata}
    (h0 : m.sequence < 2 ^ 64) (h1 : m.captureTimestampNs < 2 ^ 64)
    (h2 : m.encodeStartTimestampNs < 2 ^ 64) (h3 : m.encodeEndTimestampNs < 2 ^ 64)
    (h4 : m.transportSendTimestampNs < 2 ^ 64) :
    FrameDiagnosticMetadata.ofBytes m.toBytes = m := by
  have hlast : takeLe 8 (writeLe 8 m.transportSendTimestampNs) =
      (m.transportSendTimestampNs % 256 ^ 8, []) := by
    simpa using takeLe_writeLe_append 8 m.transportSendTimestampNs []
  simp only [FrameDiagnosticMetadata.ofBytes, FrameDiagnosticMetadata.toBytes,
    takeLe_writeLe_append, hlast]
  cases m
  simp only [FrameDiagnosticMetadata.mk.injEq]
  refine ⟨?_, ?_, ?_, ?_, ?_⟩ <;> exact Nat.mod_eq_of_lt (by simpa using ‹_›)

/-! ### UDP fragment header -/

def UdpFrameFragmentHeader.toBytes (h : UdpFrameFragmentHeader) : Bytes :=
  writeLe 8 h.frameSequence ++ (writeLe 8 h.captureTimestampNs ++
    (writeLe 8 h.encodeStartTimestampNs ++ (writeLe 8 h.encodeEndTimestampNs ++
    (writeLe 8 h.transportSendTimestampNs ++ (writeLe 4 h.framePayloadSize ++
    (writeLe 4 h.fragmentOffset ++ (writeLe 2 h.fragmentIndex ++
    (writeLe 2 h.fragmentCount ++ (writeLe 2 h.fragmentRole ++ writeLe 2 h.reserved)))))))))

/-- `memcpy` into a `UdpFrameFragmentHeader`. -/
def UdpFrameFragmentHeader.ofBytes (b : Bytes) : UdpFrameFragmentHeader :=
  let frameSequence := takeLe 8 b
  let captureTimestampNs := takeLe 8 frameSequence.2
  let encodeStartTimestampNs := takeLe 8 captureTimestampNs.2
  let encodeEndTimestampNs := takeLe 8 encodeStartTimestampNs.2
  let transportSendTimestampNs := takeLe 8 encodeEndTimestampNs.2
  let framePayloadSize := takeLe 4 transportSendTimestampNs.2
  let fragmentOffset := takeLe 4 framePayloadSize.2
  let fragmentIndex := takeLe 2 fragmentOffset.2
  let fragmentCount := takeLe 2 fragmentIndex.2
  let fragmentRole := takeLe 2 fragmentCount.2
  let reserved := takeLe 2 fragmentRole.2
  { frameSequence := frameSequence.1
    captureTimestampNs := captureTimestampNs.1
    encodeStartTimestampNs := encodeStartTimestampNs.1
    encodeEndTimestampNs := encodeEndTimestampNs.1
    transportSendTimestampNs := transportSendTimestampNs.1
    framePayloadSize := framePayloadSize.1
    fragmentOffset := fragmentOffset.1
    fragmentIndex := fragmentIndex.1
    fragmentCount := fragmentCount.1
    fragmentRole := fragmentRole.1
    reserved := reserved.1 }

/-- Every field fits the width the packed structure gives it. -/
structure UdpFrameFragmentHeader.Fits (h : UdpFrameFragmentHeader) : Prop where
  frameSequence : h.frameSequence < 2 ^ 64
  captureTimestampNs : h.captureTimestampNs < 2 ^ 64
  encodeStartTimestampNs : h.encodeStartTimestampNs < 2 ^ 64
  encodeEndTimestampNs : h.encodeEndTimestampNs < 2 ^ 64
  transportSendTimestampNs : h.transportSendTimestampNs < 2 ^ 64
  framePayloadSize : h.framePayloadSize < 2 ^ 32
  fragmentOffset : h.fragmentOffset < 2 ^ 32
  fragmentIndex : h.fragmentIndex < 2 ^ 16
  fragmentCount : h.fragmentCount < 2 ^ 16
  fragmentRole : h.fragmentRole < 2 ^ 16
  reserved : h.reserved < 2 ^ 16

@[simp] theorem length_toBytes_udpFrameFragmentHeader (h : UdpFrameFragmentHeader) :
    h.toBytes.length = sizeofUdpFrameFragmentHeader := by
  simp [UdpFrameFragmentHeader.toBytes, sizeofUdpFrameFragmentHeader]

theorem UdpFrameFragmentHeader.ofBytes_fits (b : Bytes) :
    (UdpFrameFragmentHeader.ofBytes b).Fits := by
  constructor <;>
    exact (takeLe_fst_lt _ _).trans_le (by norm_num)

theorem UdpFrameFragmentHeader.ofBytes_toBytes_append {h : UdpFrameFragmentHeader}
    (hfits : h.Fits) (rest : Bytes) :
    UdpFrameFragmentHeader.ofBytes (h.toBytes ++ rest) = h := by
  obtain ⟨h0, h1, h2, h3, h4, h5, h6, h7, h8, h9, h10⟩ := hfits
  simp only [UdpFrameFragmentHeader.ofBytes, UdpFrameFragmentHeader.toBytes,
    List.append_assoc, takeLe_writeLe_append]
  cases h
  simp only [UdpFrameFragmentHeader.mk.injEq]
  refine ⟨?_, ?_, ?_, ?_, ?_, ?_, ?_, ?_, ?_, ?_, ?_⟩ <;>
    exact Nat.mod_eq_of_lt (by simpa using ‹_›)

/-! ### NACK records -/

def UdpNackHeader.toBytes (h : UdpNackHeader) : Bytes :=
  writeLe 8 h.requestTimestampNs ++ (writeLe 2 h.requestCount ++ writeLe 2 h.reserved)

def UdpNackHeader.ofBytes (b : Bytes) : UdpNackHeader :=
  let requestTimestampNs := takeLe 8 b
  let requestCount := takeLe 2 requestTimestampNs.2
  let reserved := takeLe 2 requestCount.2
  { requestTimestampNs := requestTimestampNs.1
    requestCount := requestCount.1
    reserved := reserved.1 }

def UdpNackItem.toBytes (i : UdpNackItem) : Bytes :=
  writeLe 8 i.frameSequence ++ (writeLe 2 i.fragmentIndex ++ writeLe 2 i.reserved)

def UdpNackItem.ofBytes (b : Bytes) : UdpNackItem :=
  let frameSequence := takeLe 8 b
  let fragmentIndex := takeLe 2 frameSequence.2
  let reserved := takeLe 2 fragmentIndex.2
  { frameSequence := frameSequence.1
    fragmentIndex := fragmentIndex.1
    reserved := reserved.1 }

@[simp] theorem length_toBytes_udpNackHeader (h : UdpNackHeader) :
    h.toBytes.length = sizeofUdpNackHeader := by
  simp [UdpNackHeader.toBytes, sizeofUdpNackHeader]

@[simp] theorem length_toBytes_udpNackItem (i : UdpNackItem) :
    i.toBytes.length = sizeofUdpNackItem := by
  simp [UdpNackItem.toBytes, sizeofUdpNackItem]

/-- The count of a NACK header survives the copy, if 16 bits can hold it. -/
theorem UdpNackHeader.requestCount_ofBytes_toBytes_append {h : UdpNackHeader}
    (hcount : h.requestCount < 2 ^ 16) (rest : Bytes) :
    (UdpNackHeader.ofBytes (h.toBytes ++ rest)).requestCount = h.requestCount := by
  simp only [UdpNackHeader.ofBytes, UdpNackHeader.toBytes, List.append_assoc,
    takeLe_writeLe_append]
  exact Nat.mod_eq_of_lt (by simpa using hcount)

theorem UdpNackItem.ofBytes_toBytes_append {i : UdpNackItem}
    (hsequence : i.frameSequence < 2 ^ 64) (hindex : i.fragmentIndex < 2 ^ 16)
    (hreserved : i.reserved < 2 ^ 16) (rest : Bytes) :
    UdpNackItem.ofBytes (i.toBytes ++ rest) = i := by
  simp only [UdpNackItem.ofBytes, UdpNackItem.toBytes, List.append_assoc,
    takeLe_writeLe_append]
  cases i
  simp only [UdpNackItem.mk.injEq]
  refine ⟨?_, ?_, ?_⟩ <;> exact Nat.mod_eq_of_lt (by simpa using ‹_›)

end AvProject.Protocol
