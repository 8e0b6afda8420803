import AvProject.Protocol.RtpAccess

/-!
The send time of a packet is written into the packet when it is handed to the socket. The
function that does this looks for the latency extension on its own, and finds it exactly
where the parser does.
-/

namespace AvProject.Rtp

open AvProject.Lib AvProject.Protocol

/-- The size of the header up to its extension. -/
def baseHeaderSize (data : Bytes) : ℕ := kRtpHeaderSize + (byteAt data 0 &&& 0x0F).toNat * 4

/-- The packet carries a latency extension, in terms of its bytes. -/
structure CarriesLatency (data : Bytes) : Prop where
  version : byteAt data 0 >>> 6 = kRtpVersion
  unpadded : (byteAt data 0 &&& 0x20 != 0) = false
  extended : (byteAt data 0 &&& 0x10 != 0) = true
  room : baseHeaderSize data + 20 ≤ data.length
  profileId : readBe16 data (baseHeaderSize data) = kRtpLatencyExtensionProfileId
  words : readBe16 data (baseHeaderSize data + 2) = kRtpLatencyExtensionWordSize

def latencyOf (data : Bytes) : RtpLatencyExtension where
  captureTimestampNs := readBe64 data (baseHeaderSize data + 4)
  transportSendTimestampNs := readBe64 data (baseHeaderSize data + 12)

def latencyHeader (data : Bytes) : ParsedRtpHeader where
  fields := readRtpFields data
  headerSize := baseHeaderSize data + 20
  extension :=
    { profileId := kRtpLatencyExtensionProfileId
      payload := sliceAt data (baseHeaderSize data + 4) 16 }

/-- The parsers accept the packet. -/
def ParsesWithLatency (data : Bytes) (parsed : ParsedRtpHeader) (latency : RtpLatencyExtension) :
    Prop :=
  parseRtpHeader data = some parsed ∧ parseRtpLatencyExtension parsed.extension = some latency

/-- What an update leaves of a packet: the parsers return the same but for the send time, and
only the eight bytes at the end of the header may differ. -/
structure UpdatedInPlace (data : Bytes) (parsed : ParsedRtpHeader) (latency : RtpLatencyExtension)
    (transportSendTimestampNs : UInt64) (updated : Bytes) : Prop where
  length_eq : updated.length = data.length
  reparsed : ∃ parsed', ParsesWithLatency updated parsed'
      { latency with transportSendTimestampNs := transportSendTimestampNs } ∧
    parsed'.fields = parsed.fields ∧ parsed'.headerSize = parsed.headerSize
  body_eq : updated.drop parsed.headerSize = data.drop parsed.headerSize
  others_eq : ∀ p, p < parsed.headerSize - 8 ∨ parsed.headerSize ≤ p → updated[p]? = data[p]?

/-! ### Where the extension is found -/

theorem le_baseHeaderSize (data : Bytes) : 12 ≤ baseHeaderSize data := by
  rw [baseHeaderSize, kRtpHeaderSize]
  omega

section

variable {data : Bytes}

theorem CarriesLatency.parses (h : CarriesLatency data) :
    ParsesWithLatency data (latencyHeader data) (latencyOf data) := by
  have hroom := h.room
  have hbase := le_baseHeaderSize data
  have hwords : (readBe16 data (baseHeaderSize data + 2)).toNat * 4 = 16 := by
    rw [h.words]
    rfl
  have hunfold : kRtpHeaderSize + (byteAt data 0 &&& 0x0F).toNat * 4 = baseHeaderSize data := rfl
  constructor
  · rw [parseRtpHeader, if_neg (by rw [kRtpHeaderSize]; omega)]
    simp only [hunfold, hwords, h.version, h.unpadded, h.extended, h.profileId, if_true,
      kRtpExtensionHeaderSize]
    rw [if_neg (by simp; omega), if_neg (by omega), if_neg (by omega)]
    rfl
  · have hpayload : (sliceAt data (baseHeaderSize data + 4) 16).length = 16 :=
      length_sliceAt (by omega)
    rw [parseRtpLatencyExtension, latencyHeader, if_neg (by simp [hpayload,
      kRtpLatencyExtensionPayloadSize])]
    simp only [readBe64]
    rw [sliceAt_sliceAt (by omega), sliceAt_sliceAt (by omega)]
    rfl

theorem carriesLatency_of_parses {parsed : ParsedRtpHeader} {latency : RtpLatencyExtension}
    (h : ParsesWithLatency data parsed latency) : CarriesLatency data := by
  obtain ⟨hparse, hlatency⟩ := h
  have hunfold : kRtpHeaderSize + (byteAt data 0 &&& 0x0F).toNat * 4 = baseHeaderSize data := rfl
  rw [parseRtpLatencyExtension] at hlatency
  split at hlatency
  · cases hlatency
  rename_i haccepted
  push Not at haccepted
  obtain ⟨hprofile, hsize⟩ := haccepted
  rw [parseRtpHeader] at hparse
  simp only [hunfold] at hparse
  split at hparse
  · cases hparse
  split at hparse
  · cases hparse
  rename_i hflags
  push Not at hflags
  obtain ⟨hversion, hpadding, -⟩ := hflags
  split at hparse
  · rename_i hextended
    split at hparse
    · cases hparse
    split at hparse
    · cases hparse
    rename_i hroom
    obtain rfl := Option.some.inj hparse
    simp only [kRtpExtensionHeaderSize, not_lt] at hroom
    rw [kRtpLatencyExtensionPayloadSize, kRtpExtensionHeaderSize,
      length_sliceAt (by omega)] at hsize
    -- the parser cuts the payload by the word size, the update compares it
    have hwords : readBe16 data (baseHeaderSize data + 2) = kRtpLatencyExtensionWordSize := by
      apply UInt16.toNat_inj.mp
      show _ = 4
      omega
    exact ⟨hversion, by simpa using hpadding, hextended, by omega, hprofile, hwords⟩
  · -- without an extension the profile is 0
    obtain rfl := Option.some.inj hparse
    exact absurd hprofile (show (0 : UInt16) ≠ kRtpLatencyExtensionProfileId by decide)

theorem parsesWithLatency_iff {parsed : ParsedRtpHeader} {latency : RtpLatencyExtension} :
    ParsesWithLatency data parsed latency ↔
      CarriesLatency data ∧ parsed = latencyHeader data ∧ latency = latencyOf data := by
  constructor
  · intro h
    have hcarries := carriesLatency_of_parses h
    obtain ⟨hparse, hlatency⟩ := hcarries.parses
    obtain rfl := Option.some.inj (h.1.symm.trans hparse)
    exact ⟨hcarries, rfl, Option.some.inj (h.2.symm.trans hlatency)⟩
  · rintro ⟨h, rfl, rfl⟩
    exact h.parses

/-! ### The update -/

/-- The packet with the send time written into it. -/
def withSendTime (data : Bytes) (transportSendTimestampNs : UInt64) : Bytes :=
  writeAt data (baseHeaderSize data + 12) (writeBe64 transportSendTimestampNs)

variable {transportSendTimestampNs : UInt64}

theorem CarriesLatency.update (h : CarriesLatency data) :
    updateRtpLatencyExtensionTransportSendTimestamp data transportSendTimestampNs =
      some (true, withSendTime data transportSendTimestampNs) := by
  have hroom := h.room
  have hbase := le_baseHeaderSize data
  have hunfold : kRtpHeaderSize + (byteAt data 0 &&& 0x0F).toNat * 4 = baseHeaderSize data := rfl
  rw [updateRtpLatencyExtensionTransportSendTimestamp, if_neg, getElem?_eq_byteAt (by omega)]
  · simp only [Option.bind_eq_bind, Option.bind_some, Option.pure_def, hunfold]
    rw [if_neg, readBe16At_eq (by omega), readBe16At_eq (by omega)]
    · simp only [Option.bind_some]
      rw [if_neg, storeAt_eq]
      · rfl
      · rw [length_writeBe64, kRtpExtensionHeaderSize]
        omega
      · push Not
        exact ⟨h.profileId, h.words, h.room⟩
    · push Not
      exact ⟨h.version, by simpa using h.unpadded, by simpa using h.extended, by
        rw [kRtpExtensionHeaderSize]
        omega⟩
  · rw [kRtpHeaderSize, kRtpExtensionHeaderSize, kRtpLatencyExtensionPayloadSize]
    omega

theorem update_of_not_carriesLatency (h : ¬ CarriesLatency data) :
    updateRtpLatencyExtensionTransportSendTimestamp data transportSendTimestampNs =
      some (false, data) := by
  have hunfold : kRtpHeaderSize + (byteAt data 0 &&& 0x0F).toNat * 4 = baseHeaderSize data := rfl
  rw [updateRtpLatencyExtensionTransportSendTimestamp]
  split
  · rfl
  rename_i hsize
  rw [kRtpHeaderSize, kRtpExtensionHeaderSize, kRtpLatencyExtensionPayloadSize] at hsize
  rw [getElem?_eq_byteAt (by omega)]
  simp only [Option.bind_eq_bind, Option.bind_some, Option.pure_def, hunfold]
  split
  · rfl
  rename_i hflags
  push Not at hflags
  obtain ⟨hversion, hpadding, hextended, hheader⟩ := hflags
  rw [kRtpExtensionHeaderSize] at hheader
  rw [readBe16At_eq (by omega), readBe16At_eq (by omega)]
  simp only [Option.bind_some]
  rw [if_pos]
  -- otherwise the extension would be there
  by_contra hall
  push Not at hall
  obtain ⟨hprofile, hwords, hroom⟩ := hall
  exact h ⟨hversion, by simpa using hpadding, by simpa using hextended, hroom, hprofile, hwords⟩

section

variable (h : CarriesLatency data)

include h

theorem CarriesLatency.write_fits :
    baseHeaderSize data + 12 + (writeBe64 transportSendTimestampNs).length ≤ data.length := by
  have hroom := h.room
  rw [length_writeBe64]
  omega

theorem CarriesLatency.sliceAt_withSendTime {start length : ℕ}
    (hout : start + length ≤ baseHeaderSize data + 12) :
    sliceAt (withSendTime data transportSendTimestampNs) start length = sliceAt data start length :=
  sliceAt_writeAt_of_disjoint h.write_fits (.inl hout)

theorem CarriesLatency.byteAt_withSendTime {p : ℕ} (hp : p < 24) :
    byteAt (withSendTime data transportSendTimestampNs) p = byteAt data p := by
  have hbase := le_baseHeaderSize data
  exact byteAt_writeAt_of_outside h.write_fits (.inl (by omega))

theorem CarriesLatency.baseHeaderSize_withSendTime :
    baseHeaderSize (withSendTime data transportSendTimestampNs) = baseHeaderSize data := by
  rw [baseHeaderSize, h.byteAt_withSendTime (by norm_num), baseHeaderSize]

theorem CarriesLatency.withSendTime :
    CarriesLatency (withSendTime data transportSendTimestampNs) := by
  have hfirst : byteAt (Rtp.withSendTime data transportSendTimestampNs) 0 = byteAt data 0 :=
    h.byteAt_withSendTime (by norm_num)
  have hbase : baseHeaderSize (Rtp.withSendTime data transportSendTimestampNs) =
      baseHeaderSize data :=
    h.baseHeaderSize_withSendTime
  have hlength : (Rtp.withSendTime data transportSendTimestampNs).length = data.length :=
    length_writeAt h.write_fits
  refine ⟨?_, ?_, ?_, ?_, ?_, ?_⟩
  · rw [hfirst, h.version]
  · rw [hfirst, h.unpadded]
  · rw [hfirst, h.extended]
  · rw [hbase, hlength]
    exact h.room
  · rw [hbase, readBe16, h.sliceAt_withSendTime (by omega)]
    exact h.profileId
  · rw [hbase, readBe16, h.sliceAt_withSendTime (by omega)]
    exact h.words

theorem CarriesLatency.latencyOf_withSendTime :
    latencyOf (Rtp.withSendTime data transportSendTimestampNs) =
      { latencyOf data with transportSendTimestampNs := transportSendTimestampNs } := by
  have hfits : baseHeaderSize data + 12 + (writeBe64 transportSendTimestampNs).length ≤
      data.length := h.write_fits
  have hwritten := sliceAt_writeAt_self hfits
  rw [length_writeBe64] at hwritten
  have hmod : transportSendTimestampNs.toNat % 256 ^ 8 = transportSendTimestampNs.toNat :=
    Nat.mod_eq_of_lt transportSendTimestampNs.toNat_lt
  have hsend : readBe64 (Rtp.withSendTime data transportSendTimestampNs)
      (baseHeaderSize data + 12) = transportSendTimestampNs := by
    rw [readBe64, Rtp.withSendTime, hwritten, writeBe64, readBe_writeBe, hmod, UInt64.ofNat_toNat]
  have hcapture : readBe64 (Rtp.withSendTime data transportSendTimestampNs)
      (baseHeaderSize data + 4) = readBe64 data (baseHeaderSize data + 4) := by
    rw [readBe64, h.sliceAt_withSendTime (by omega), readBe64]
  rw [latencyOf, h.baseHeaderSize_withSendTime, hsend, hcapture, latencyOf]

theorem CarriesLatency.readRtpFields_withSendTime :
    readRtpFields (Rtp.withSendTime data transportSendTimestampNs) = readRtpFields data := by
  have hbase := le_baseHeaderSize data
  simp only [readRtpFields, readBe16, readBe32]
  rw [h.byteAt_withSendTime (by norm_num), h.sliceAt_withSendTime (by omega),
    h.sliceAt_withSendTime (by omega), h.sliceAt_withSendTime (by omega)]

/-- An accepted packet is updated in place. -/
theorem CarriesLatency.updatedInPlace :
    UpdatedInPlace data (latencyHeader data) (latencyOf data) transportSendTimestampNs
      (Rtp.withSendTime data transportSendTimestampNs) where
  length_eq := length_writeAt h.write_fits
  reparsed := by
    refine ⟨_, parsesWithLatency_iff.mpr ⟨h.withSendTime, rfl, h.latencyOf_withSendTime.symm⟩,
      h.readRtpFields_withSendTime, ?_⟩
    show baseHeaderSize _ + 20 = baseHeaderSize data + 20
    rw [h.baseHeaderSize_withSendTime]
  body_eq := by
    refine drop_writeAt h.write_fits ?_
    rw [length_writeBe64]
    exact le_rfl
  others_eq p hp := by
    refine getElem?_writeAt_outside h.write_fits ?_
    rw [length_writeBe64]
    exact hp

end

end

/-- The function stays inside the buffer; it returns true exactly for what the parsers
accept, updates that in place, and leaves everything else as it is. -/
theorem updateTransportSendTimestamp_exact (data : Bytes) (transportSendTimestampNs : UInt64) :
    ∃ accepted updated,
      updateRtpLatencyExtensionTransportSendTimestamp data transportSendTimestampNs =
        some (accepted, updated) ∧
      (accepted = true ↔ ∃ parsed latency, ParsesWithLatency data parsed latency) ∧
      (accepted = true → ∀ parsed latency, ParsesWithLatency data parsed latency →
        UpdatedInPlace data parsed latency transportSendTimestampNs updated) ∧
      (accepted = false → updated = data) := by
  by_cases hcarries : CarriesLatency data
  · refine ⟨true, _, hcarries.update, ⟨fun _ => ⟨_, _, hcarries.parses⟩, fun _ => rfl⟩, ?_, ?_⟩
    · intro _ parsed latency hparses
      obtain ⟨-, rfl, rfl⟩ := parsesWithLatency_iff.mp hparses
      exact hcarries.updatedInPlace
    · rintro ⟨⟩
  · refine ⟨false, data, update_of_not_carriesLatency hcarries, ⟨by rintro ⟨⟩, ?_⟩, by rintro ⟨⟩,
      fun _ => rfl⟩
    rintro ⟨parsed, latency, hparses⟩
    exact absurd (carriesLatency_of_parses hparses) hcarries

end AvProject.Rtp
