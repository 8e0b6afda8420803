import AvProject.Lib.Bytes

/-!
RTP packets: the fixed header, one header extension, and the latency extension that
carries the timestamps of a frame.
-/

namespace AvProject.Protocol

open AvProject.Lib

def kRtpHeaderSize : ℕ := 12
def kRtpExtensionHeaderSize : ℕ := 4
def kRtpVersion : UInt8 := 2
def kH264FuAType : UInt8 := 28
def kRtpLatencyExtensionProfileId : UInt16 := 0x5353
def kRtpLatencyExtensionPayloadSize : ℕ := 16

structure RtpHeaderFields where
  marker : Bool := false
  payloadType : UInt8 := 96
  sequenceNumber : UInt16 := 0
  timestamp : UInt32 := 0
  ssrc : UInt32 := 0
  deriving DecidableEq, Repr, Inhabited

structure RtpHeaderExtension where
  profileId : UInt16 := 0
  payload : Bytes := []
  deriving DecidableEq, Repr, Inhabited

structure RtpLatencyExtension where
  captureTimestampNs : UInt64 := 0
  transportSendTimestampNs : UInt64 := 0
  deriving DecidableEq, Repr, Inhabited

def readBe16 (data : Bytes) (offset : ℕ) : UInt16 := UInt16.ofNat (readBe (sliceAt data offset 2))
def readBe32 (data : Bytes) (offset : ℕ) : UInt32 := UInt32.ofNat (readBe (sliceAt data offset 4))
def readBe64 (data : Bytes) (offset : ℕ) : UInt64 := UInt64.ofNat (readBe (sliceAt data offset 8))

def writeBe16 (value : UInt16) : Bytes := writeBe 2 value.toNat
def writeBe32 (value : UInt32) : Bytes := writeBe 4 value.toNat
def writeBe64 (value : UInt64) : Bytes := writeBe 8 value.toNat

/-! ### The latency extension -/

def serializeRtpLatencyExtension (extension : RtpLatencyExtension) : Bytes :=
  writeBe64 extension.captureTimestampNs ++ writeBe64 extension.transportSendTimestampNs

def buildRtpLatencyHeaderExtension (extension : RtpLatencyExtension) : RtpHeaderExtension where
  profileId := kRtpLatencyExtensionProfileId
  payload := serializeRtpLatencyExtension extension

def parseRtpLatencyExtension (headerExtension : RtpHeaderExtension) :
    Option RtpLatencyExtension :=
  if headerExtension.profileId ≠ kRtpLatencyExtensionProfileId ∨
      headerExtension.payload.length ≠ kRtpLatencyExtensionPayloadSize then none
  else
    some
      { captureTimestampNs := readBe64 headerExtension.payload 0
        transportSendTimestampNs := readBe64 headerExtension.payload 8 }

/-! ### Writing a header -/

/-- `extension != nullptr && !extension->payload.empty()`. -/
def hasExtension (extension : Option RtpHeaderExtension) : Bool :=
  extension.any fun e => !e.payload.isEmpty

/-- The first byte: version, extension bit, no padding and no CSRC. -/
def rtpFlagsByte (extended : Bool) : UInt8 := (kRtpVersion <<< 6) ||| (if extended then 0x10 else 0)

/-- The second byte: marker bit and payload type. -/
def rtpTypeByte (fields : RtpHeaderFields) : UInt8 :=
  (if fields.marker then 0x80 else 0) ||| (fields.payloadType &&& 0x7F)

/-- The extension header and its payload, the length counted in words of 32 bits. -/
def rtpExtensionBytes (extension : RtpHeaderExtension) : Bytes :=
  writeBe16 extension.profileId ++
    (writeBe16 (UInt16.ofNat (extension.payload.length / 4)) ++ extension.payload)

/-- The fixed part of a header, in the order of the offsets. -/
def rtpFixedBytes (fields : RtpHeaderFields) (extended : Bool) : Bytes :=
  rtpFlagsByte extended :: rtpTypeByte fields ::
    (writeBe16 fields.sequenceNumber ++ (writeBe32 fields.timestamp ++ writeBe32 fields.ssrc))

def rtpHeaderBytes (fields : RtpHeaderFields) (extension : Option RtpHeaderExtension) : Bytes :=
  rtpFixedBytes fields (hasExtension extension) ++
    if hasExtension extension then extension.elim [] rtpExtensionBytes else []

/-- `WriteRtpHeader`; it refuses an extension that does not fill whole words. -/
def writeRtpHeader (fields : RtpHeaderFields) (extension : Option RtpHeaderExtension) :
    Option Bytes :=
  if hasExtension extension && (extension.elim 0 fun e => e.payload.length % 4) != 0 then none
  else some (rtpHeaderBytes fields extension)

/-! ### Reading a header -/

/-- What `ParseRtpHeader` returns. -/
structure ParsedRtpHeader where
  fields : RtpHeaderFields
  headerSize : ℕ
  extension : RtpHeaderExtension
  deriving DecidableEq, Repr, Inhabited

def readRtpFields (data : Bytes) : RtpHeaderFields where
  marker := byteAt data 1 &&& 0x80 != 0
  payloadType := byteAt data 1 &&& 0x7F
  sequenceNumber := readBe16 data 2
  timestamp := readBe32 data 4
  ssrc := readBe32 data 8

def parseRtpHeader (data : Bytes) : Option ParsedRtpHeader :=
  if data.length < kRtpHeaderSize then none
  else
    let version := byteAt data 0 >>> 6
    let hasPadding := byteAt data 0 &&& 0x20 != 0
    let extended := byteAt data 0 &&& 0x10 != 0
    let csrcCount := byteAt data 0 &&& 0x0F
    let baseHeaderSize := kRtpHeaderSize + csrcCount.toNat * 4
    if version ≠ kRtpVersion ∨ hasPadding ∨ data.length < baseHeaderSize then none
    else if extended then
      if data.length < baseHeaderSize + kRtpExtensionHeaderSize then none
      else
        let extensionPayloadSize := (readBe16 data (baseHeaderSize + 2)).toNat * 4
        let headerSize := baseHeaderSize + kRtpExtensionHeaderSize + extensionPayloadSize
        if data.length < headerSize then none
        else
          some
            { fields := readRtpFields data
              headerSize := headerSize
              extension :=
                { profileId := readBe16 data baseHeaderSize
                  payload := sliceAt data (baseHeaderSize + kRtpExtensionHeaderSize)
                    extensionPayloadSize } }
    else
      some { fields := readRtpFields data, headerSize := baseHeaderSize, extension := {} }

/-- A packet with its header taken apart. -/
structure RtpPacket where
  fields : RtpHeaderFields
  extension : RtpHeaderExtension
  payload : Bytes
  deriving DecidableEq, Repr, Inhabited

/-- What a receiver makes of a datagram; one without a body is no packet. -/
def readRtpPacket (data : Bytes) : Option RtpPacket :=
  match parseRtpHeader data with
  | none => none
  | some header =>
      if data.length ≤ header.headerSize then none
      else
        some
          { fields := header.fields
            extension := header.extension
            payload := data.drop header.headerSize }

/-! ### Round trips -/

@[simp] theorem length_writeBe16 (value : UInt16) : (writeBe16 value).length = 2 := by
  simp [writeBe16]

@[simp] theorem length_writeBe32 (value : UInt32) : (writeBe32 value).length = 4 := by
  simp [writeBe32]

@[simp] theorem length_writeBe64 (value : UInt64) : (writeBe64 value).length = 8 := by
  simp [writeBe64]

section

variable {a : Bytes} {offset : ℕ}

theorem readBe16_append (ha : a.length = offset) (value : UInt16) (rest : Bytes) :
    readBe16 (a ++ (writeBe16 value ++ rest)) offset = value := by
  have hmod : value.toNat % 256 ^ 2 = value.toNat := Nat.mod_eq_of_lt value.toNat_lt
  rw [readBe16, sliceAt_append ha (length_writeBe16 value), writeBe16, readBe_writeBe, hmod,
    UInt16.ofNat_toNat]

theorem readBe32_append (ha : a.length = offset) (value : UInt32) (rest : Bytes) :
    readBe32 (a ++ (writeBe32 value ++ rest)) offset = value := by
  have hmod : value.toNat % 256 ^ 4 = value.toNat := Nat.mod_eq_of_lt value.toNat_lt
  rw [readBe32, sliceAt_append ha (length_writeBe32 value), writeBe32, readBe_writeBe, hmod,
    UInt32.ofNat_toNat]

theorem readBe64_append (ha : a.length = offset) (value : UInt64) (rest : Bytes) :
    readBe64 (a ++ (writeBe64 value ++ rest)) offset = value := by
  have hmod : value.toNat % 256 ^ 8 = value.toNat := Nat.mod_eq_of_lt value.toNat_lt
  rw [readBe64, sliceAt_append ha (length_writeBe64 value), writeBe64, readBe_writeBe, hmod,
    UInt64.ofNat_toNat]

end

/-- The bits of the first byte, read back. -/
theorem rtpFlagsByte_bits (extended : Bool) :
    rtpFlagsByte extended >>> 6 = kRtpVersion ∧ rtpFlagsByte extended &&& 0x20 = 0 ∧
      rtpFlagsByte extended &&& 0x0F = 0 ∧
      (rtpFlagsByte extended &&& 0x10 != 0) = extended := by
  cases extended <;> decide

/-- The bits of the second byte, read back. -/
theorem rtpTypeByte_bits (fields : RtpHeaderFields) :
    (rtpTypeByte fields &&& 0x80 != 0) = fields.marker ∧
      rtpTypeByte fields &&& 0x7F = fields.payloadType &&& 0x7F := by
  have hset (x : UInt8) :
      (0x80 ||| (x &&& 0x7F)) &&& 0x80 = 0x80 ∧ (0x80 ||| (x &&& 0x7F)) &&& 0x7F = x &&& 0x7F := by
    constructor <;> apply UInt8.toBitVec_inj.mp <;> ext i hi <;> interval_cases i <;> simp
  have hclear (x : UInt8) :
      (0 ||| (x &&& 0x7F)) &&& 0x80 = 0 ∧ (0 ||| (x &&& 0x7F)) &&& 0x7F = x &&& 0x7F := by
    constructor <;> apply UInt8.toBitVec_inj.mp <;> ext i hi <;> interval_cases i <;> simp
  rw [rtpTypeByte]
  cases fields.marker with
  | true =>
      obtain ⟨hbit, htype⟩ := hset fields.payloadType
      rw [if_pos rfl, hbit, htype]
      exact ⟨rfl, rfl⟩
  | false =>
      obtain ⟨hbit, htype⟩ := hclear fields.payloadType
      rw [if_neg Bool.false_ne_true, hbit, htype]
      exact ⟨rfl, rfl⟩

@[simp] theorem length_rtpFixedBytes (fields : RtpHeaderFields) (extended : Bool) :
    (rtpFixedBytes fields extended).length = kRtpHeaderSize := by
  simp [rtpFixedBytes, kRtpHeaderSize]

/-- The fixed fields are read back. -/
theorem readRtpFields_rtpFixedBytes_append (fields : RtpHeaderFields) (extended : Bool)
    (rest : Bytes) :
    readRtpFields (rtpFixedBytes fields extended ++ rest) =
      { fields with payloadType := fields.payloadType &&& 0x7F } := by
  obtain ⟨hmarker, htype⟩ := rtpTypeByte_bits fields
  have hsequence : readBe16 (rtpFixedBytes fields extended ++ rest) 2 = fields.sequenceNumber := by
    have hlen : [rtpFlagsByte extended, rtpTypeByte fields].length = 2 := rfl
    have h := readBe16_append hlen fields.sequenceNumber
      (writeBe32 fields.timestamp ++ (writeBe32 fields.ssrc ++ rest))
    simpa [rtpFixedBytes] using h
  have htimestamp : readBe32 (rtpFixedBytes fields extended ++ rest) 4 = fields.timestamp := by
    have hlen : (rtpFlagsByte extended :: rtpTypeByte fields ::
        writeBe16 fields.sequenceNumber).length = 4 := by simp
    have h := readBe32_append hlen fields.timestamp (writeBe32 fields.ssrc ++ rest)
    simpa [rtpFixedBytes] using h
  have hssrc : readBe32 (rtpFixedBytes fields extended ++ rest) 8 = fields.ssrc := by
    have hlen : (rtpFlagsByte extended :: rtpTypeByte fields ::
        (writeBe16 fields.sequenceNumber ++ writeBe32 fields.timestamp)).length = 8 := by simp
    have h := readBe32_append hlen fields.ssrc rest
    simpa [rtpFixedBytes] using h
  rw [readRtpFields, hsequence, htimestamp, hssrc, rtpFixedBytes, List.cons_append,
    List.cons_append, byteAt_cons_succ, byteAt_cons_zero, hmarker, htype]

/-- An extension that fills whole words, no more of them than 16 bits can count. -/
def RtpHeaderExtension.Fits (extension : RtpHeaderExtension) : Prop :=
  extension.payload.length % 4 = 0 ∧ extension.payload.length < 4 * 2 ^ 16

theorem buildRtpLatencyHeaderExtension_fits (extension : RtpLatencyExtension) :
    (buildRtpLatencyHeaderExtension extension).Fits := by
  simp [RtpHeaderExtension.Fits, buildRtpLatencyHeaderExtension, serializeRtpLatencyExtension]

theorem parseRtpLatencyExtension_build (extension : RtpLatencyExtension) :
    parseRtpLatencyExtension (buildRtpLatencyHeaderExtension extension) = some extension := by
  have hcapture := readBe64_append List.length_nil extension.captureTimestampNs
    (writeBe64 extension.transportSendTimestampNs)
  have hsend := readBe64_append (length_writeBe64 extension.captureTimestampNs)
    extension.transportSendTimestampNs []
  rw [List.nil_append] at hcapture
  rw [List.append_nil] at hsend
  have hlength : (serializeRtpLatencyExtension extension).length =
      kRtpLatencyExtensionPayloadSize := by
    simp [serializeRtpLatencyExtension, kRtpLatencyExtensionPayloadSize]
  rw [parseRtpLatencyExtension, buildRtpLatencyHeaderExtension, if_neg (by simp [hlength])]
  simp only [serializeRtpLatencyExtension, hcapture, hsend]

theorem length_rtpExtensionBytes (extension : RtpHeaderExtension) :
    (rtpExtensionBytes extension).length = kRtpExtensionHeaderSize + extension.payload.length := by
  simp [rtpExtensionBytes, kRtpExtensionHeaderSize]
  omega

/-- An extension is read back from behind a header of any length. -/
theorem read_rtpExtensionBytes_append {extension : RtpHeaderExtension} (hfits : extension.Fits)
    {a : Bytes} {offset : ℕ} (ha : a.length = offset) (rest : Bytes) :
    readBe16 (a ++ (rtpExtensionBytes extension ++ rest)) offset = extension.profileId ∧
      (readBe16 (a ++ (rtpExtensionBytes extension ++ rest)) (offset + 2)).toNat * 4 =
        extension.payload.length ∧
      sliceAt (a ++ (rtpExtensionBytes extension ++ rest)) (offset + kRtpExtensionHeaderSize)
        extension.payload.length = extension.payload := by
  obtain ⟨hwords, hshort⟩ := hfits
  have hcount : (UInt16.ofNat (extension.payload.length / 4)).toNat * 4 =
      extension.payload.length := by
    rw [UInt16.toNat_ofNat', Nat.mod_eq_of_lt (by omega)]
    omega
  refine ⟨?_, ?_, ?_⟩
  · rw [rtpExtensionBytes, List.append_assoc]
    exact readBe16_append ha _ _
  · have hlen : (a ++ writeBe16 extension.profileId).length = offset + 2 := by simp [ha]
    rw [← hcount, ← readBe16_append hlen (UInt16.ofNat (extension.payload.length / 4))
      (extension.payload ++ rest)]
    simp [rtpExtensionBytes]
  · have hlen : (a ++ (writeBe16 extension.profileId ++
        writeBe16 (UInt16.ofNat (extension.payload.length / 4)))).length =
        offset + kRtpExtensionHeaderSize := by simp [ha, kRtpExtensionHeaderSize]
    have h := sliceAt_append hlen (rfl : extension.payload.length = _) rest
    simpa [rtpExtensionBytes] using h

/-- A header that fits its packet is read back from it, and the body starts where the
header ends. -/
theorem parseRtpHeader_rtpHeaderBytes_append (fields : RtpHeaderFields)
    {extension : Option RtpHeaderExtension} (hfits : ∀ e ∈ extension, e.Fits) (body : Bytes) :
    parseRtpHeader (rtpHeaderBytes fields extension ++ body) =
      some
        { fields := { fields with payloadType := fields.payloadType &&& 0x7F }
          headerSize := (rtpHeaderBytes fields extension).length
          extension := if hasExtension extension then extension.getD {} else {} } := by
  obtain ⟨hversion, hpadding, hcsrc, hextended⟩ := rtpFlagsByte_bits (hasExtension extension)
  have hflags (rest : Bytes) : byteAt (rtpFixedBytes fields (hasExtension extension) ++ rest) 0 =
      rtpFlagsByte (hasExtension extension) := by
    rw [rtpFixedBytes, List.cons_append, byteAt_cons_zero]
  have hbase : kRtpHeaderSize + (0 : UInt8).toNat * 4 = kRtpHeaderSize := rfl
  rw [rtpHeaderBytes, List.append_assoc]
  cases hhas : hasExtension extension with
  | false =>
      rw [hhas] at hversion hpadding hcsrc hextended hflags
      simp only [parseRtpHeader, hflags, hversion, hpadding, hcsrc, hextended, hbase,
        readRtpFields_rtpFixedBytes_append]
      simp
  | true =>
      rw [hhas] at hversion hpadding hcsrc hextended hflags
      obtain ⟨e, rfl⟩ : ∃ e, extension = some e := by
        cases extension with
        | none => simp [hasExtension] at hhas
        | some e => exact ⟨e, rfl⟩
      obtain ⟨hprofile, hwords, hpayload⟩ :=
        read_rtpExtensionBytes_append (hfits e rfl) (length_rtpFixedBytes fields true) body
      simp only [parseRtpHeader, hflags, hversion, hpadding, hcsrc, hextended, hbase, hprofile,
        hwords, hpayload, readRtpFields_rtpFixedBytes_append, if_true, Option.elim]
      have hlength := length_rtpExtensionBytes e
      simp only [List.length_append, length_rtpFixedBytes, hlength]
      rw [if_neg (by omega), if_neg (by simp), if_neg (by omega), if_neg (by omega)]
      simp [Nat.add_assoc]

theorem readRtpPacket_rtpHeaderBytes_append (fields : RtpHeaderFields)
    {extension : Option RtpHeaderExtension} (hfits : ∀ e ∈ extension, e.Fits) {payload : Bytes}
    (hpayload : payload ≠ []) :
    readRtpPacket (rtpHeaderBytes fields extension ++ payload) =
      some
        { fields := { fields with payloadType := fields.payloadType &&& 0x7F }
          extension := if hasExtension extension then extension.getD {} else {}
          payload := payload } := by
  have hpos : 0 < payload.length := List.length_pos_iff.mpr hpayload
  rw [readRtpPacket, parseRtpHeader_rtpHeaderBytes_append fields hfits payload]
  simp only [List.length_append, List.drop_left]
  rw [if_neg (by omega)]

end AvProject.Protocol
