import AvProject.Lib.CheckedAccess
import AvProject.Protocol.Rtp

/-!
`ParseRtpHeader` and `UpdateRtpLatencyExtensionTransportSendTimestamp` by their accesses to
the packet: each of them has to stay inside.
-/

namespace AvProject.Protocol

open AvProject.Lib

def kRtpLatencyExtensionWordSize : UInt16 := 4

def readBe16At (data : Bytes) (offset : ℕ) : Option UInt16 :=
  (readAt data offset 2).map fun bytes => UInt16.ofNat (readBe bytes)

def readBe32At (data : Bytes) (offset : ℕ) : Option UInt32 :=
  (readAt data offset 4).map fun bytes => UInt32.ofNat (readBe bytes)

def readRtpFieldsAt (data : Bytes) : Option RtpHeaderFields := do
  let second : UInt8 ← data[1]?
  let sequenceNumber ← readBe16At data 2
  let timestamp ← readBe32At data 4
  let ssrc ← readBe32At data 8
  return {
    marker := second &&& 0x80 != 0
    payloadType := second &&& 0x7F
    sequenceNumber := sequenceNumber
    timestamp := timestamp
    ssrc := ssrc }

/-- `ParseRtpHeader` by its reads; the outer `none` is a read outside the packet. -/
def parseRtpHeaderReads (data : Bytes) : Option (Option ParsedRtpHeader) :=
  if data.length < kRtpHeaderSize then some none
  else do
    let flags : UInt8 ← data[0]?
    let baseHeaderSize := kRtpHeaderSize + (flags &&& 0x0F).toNat * 4
    if flags >>> 6 ≠ kRtpVersion ∨ (flags &&& 0x20 != 0) = true ∨
        data.length < baseHeaderSize then
      return none
    else if (flags &&& 0x10 != 0) = true then
      if data.length < baseHeaderSize + kRtpExtensionHeaderSize then return none
      else
        let words ← readBe16At data (baseHeaderSize + 2)
        let extensionPayloadSize := words.toNat * 4
        let headerSize := baseHeaderSize + kRtpExtensionHeaderSize + extensionPayloadSize
        if data.length < headerSize then return none
        else
          let profileId ← readBe16At data baseHeaderSize
          let payload ←
            readAt data (baseHeaderSize + kRtpExtensionHeaderSize) extensionPayloadSize
          let fields ← readRtpFieldsAt data
          return some {
            fields := fields
            headerSize := headerSize
            extension := { profileId := profileId, payload := payload } }
    else
      let fields ← readRtpFieldsAt data
      return some { fields := fields, headerSize := baseHeaderSize, extension := {} }

/-- `UpdateRtpLatencyExtensionTransportSendTimestamp` by its reads and writes: what it
returns, and the buffer after it. `none` is an access outside the buffer. -/
def updateRtpLatencyExtensionTransportSendTimestamp (data : Bytes)
    (transportSendTimestampNs : UInt64) : Option (Bool × Bytes) :=
  if data.length < kRtpHeaderSize + kRtpExtensionHeaderSize + kRtpLatencyExtensionPayloadSize then
    some (false, data)
  else do
    let flags : UInt8 ← data[0]?
    let baseHeaderSize := kRtpHeaderSize + (flags &&& 0x0F).toNat * 4
    if flags >>> 6 ≠ kRtpVersion ∨ (flags &&& 0x20 != 0) = true ∨
        (flags &&& 0x10 != 0) = false ∨ data.length < baseHeaderSize + kRtpExtensionHeaderSize then
      return (false, data)
    else
      let profileId ← readBe16At data baseHeaderSize
      let words ← readBe16At data (baseHeaderSize + 2)
      if profileId ≠ kRtpLatencyExtensionProfileId ∨ words ≠ kRtpLatencyExtensionWordSize ∨
          data.length <
            baseHeaderSize + kRtpExtensionHeaderSize + kRtpLatencyExtensionPayloadSize then
        return (false, data)
      else
        let updated ← storeAt data (baseHeaderSize + kRtpExtensionHeaderSize + 8)
          (writeBe64 transportSendTimestampNs)
        return (true, updated)

/-! ### Reads that stay inside -/

section

variable {data : Bytes} {offset : ℕ}

theorem readBe16At_eq (h : offset + 2 ≤ data.length) :
    readBe16At data offset = some (readBe16 data offset) := by
  rw [readBe16At, readAt_eq h]
  rfl

theorem readBe32At_eq (h : offset + 4 ≤ data.length) :
    readBe32At data offset = some (readBe32 data offset) := by
  rw [readBe32At, readAt_eq h]
  rfl

theorem readRtpFieldsAt_eq (h : kRtpHeaderSize ≤ data.length) :
    readRtpFieldsAt data = some (readRtpFields data) := by
  rw [kRtpHeaderSize] at h
  rw [readRtpFieldsAt, getElem?_eq_byteAt (show 1 < data.length by omega),
    readBe16At_eq (show 2 + 2 ≤ data.length by omega),
    readBe32At_eq (show 4 + 4 ≤ data.length by omega),
    readBe32At_eq (show 8 + 4 ≤ data.length by omega)]
  rfl

/-- Every read of the parser lies inside the packet. -/
theorem parseRtpHeaderReads_eq (data : Bytes) :
    parseRtpHeaderReads data = some (parseRtpHeader data) := by
  rw [parseRtpHeaderReads, parseRtpHeader]
  split
  · rfl
  rename_i hfixed
  rw [not_lt] at hfixed
  have hfirst : 0 < data.length := by
    rw [kRtpHeaderSize] at hfixed
    omega
  rw [getElem?_eq_byteAt hfirst]
  simp only [Option.bind_eq_bind, Option.bind_some, Option.pure_def]
  split
  · rfl
  split
  · split
    · rfl
    rename_i hheader
    rw [not_lt] at hheader
    have hwords : kRtpHeaderSize + (byteAt data 0 &&& 0x0F).toNat * 4 + 2 + 2 ≤ data.length :=
      hheader
    rw [readBe16At_eq hwords]
    simp only [Option.bind_some]
    split
    · rfl
    rename_i hpayload
    rw [not_lt] at hpayload
    rw [readBe16At_eq (by omega), readAt_eq hpayload, readRtpFieldsAt_eq hfixed]
    rfl
  · rw [readRtpFieldsAt_eq hfixed]
    rfl

end

/-- An accepted header lies inside the packet. -/
theorem parseRtpHeader_headerSize_le {data : Bytes} {header : ParsedRtpHeader}
    (h : parseRtpHeader data = some header) : header.headerSize ≤ data.length := by
  rw [parseRtpHeader] at h
  split at h
  · cases h
  simp only at h
  split at h
  · cases h
  rename_i hbase
  split at h
  · split at h
    · cases h
    split at h
    · cases h
    rename_i hsize
    obtain rfl := Option.some.inj h
    exact not_lt.mp hsize
  · obtain rfl := Option.some.inj h
    push Not at hbase
    exact hbase.2.2

end AvProject.Protocol
