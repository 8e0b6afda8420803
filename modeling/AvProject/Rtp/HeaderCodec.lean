import AvProject.Protocol.RtpAccess
import AvProject.Rtp.Packetization

/-!
The header of an RTP packet between the two programs: the server has two ways to write it,
and one to change it in place; the client reads it.
-/

namespace AvProject.Rtp

open AvProject.Lib AvProject.Protocol AvProject.Server

/-! ### Writing and reading -/

/-- An extension that a header can carry. -/
structure Attachable (extension : RtpHeaderExtension) : Prop where
  nonempty : extension.payload ≠ []
  whole : extension.payload.length % 4 = 0
  short : extension.payload.length / 4 ≤ 65535

section

variable {fields : RtpHeaderFields} {extension : Option RtpHeaderExtension}

theorem payloadType_and (htype : fields.payloadType < 128) :
    fields.payloadType &&& 0x7F = fields.payloadType := by
  apply UInt8.toNat_inj.mp
  have hlt : fields.payloadType.toNat < 2 ^ 7 := htype
  rw [UInt8.toNat_and]
  show fields.payloadType.toNat &&& (2 ^ 7 - 1) = _
  rw [Nat.and_two_pow_sub_one_eq_mod, Nat.mod_eq_of_lt hlt]

theorem Attachable.fits {e : RtpHeaderExtension} (h : Attachable e) : e.Fits := by
  have hwhole := h.whole
  have hshort := h.short
  exact ⟨hwhole, by omega⟩

theorem hasExtension_eq_isSome (hextension : ∀ e ∈ extension, Attachable e) :
    hasExtension extension = extension.isSome := by
  cases extension with
  | none => rfl
  | some e => simp [hasExtension, (hextension e rfl).nonempty]

theorem writeRtpHeader_eq (hextension : ∀ e ∈ extension, Attachable e) :
    writeRtpHeader fields extension = some (rtpHeaderBytes fields extension) := by
  rw [writeRtpHeader, if_neg]
  cases extension with
  | none => simp
  | some e => simp [(hextension e rfl).whole]

end

/-- What the writers and the parser make of a header with the bytes `header`: both writers
write them, and the parser returns what was written, with the body right behind. -/
structure HeaderAgrees (fields : RtpHeaderFields) (extension : Option RtpHeaderExtension)
    (header : Bytes) : Prop where
  written : writeRtpHeader fields extension = some header
  writtenToBuffer : ∀ buffer : Bytes, header.length ≤ buffer.length →
    writeRtpHeaderToBuffer buffer fields extension = header ++ buffer.drop header.length
  parsed : ∀ body, ∃ parsed, parseRtpHeader (header ++ body) = some parsed ∧
    parsed.fields = fields ∧ parsed.extension = extension.getD {} ∧
      (header ++ body).drop parsed.headerSize = body

/-- The parser reads inside of what it is given only, and a header that it accepts lies
inside. -/
structure ParsedInside (data : Bytes) : Prop where
  reads : parseRtpHeaderReads data = some (parseRtpHeader data)
  headerSize_le : ∀ parsed, parseRtpHeader data = some parsed → parsed.headerSize ≤ data.length

theorem headerAgrees {fields : RtpHeaderFields} (htype : fields.payloadType < 128)
    {extension : Option RtpHeaderExtension} (hextension : ∀ e ∈ extension, Attachable e) :
    HeaderAgrees fields extension (rtpHeaderBytes fields extension) where
  written := writeRtpHeader_eq hextension
  writtenToBuffer buffer _ := by
    rw [length_rtpHeaderBytes]
    exact writeRtpHeaderToBuffer_eq buffer fields extension
  parsed body := by
    refine ⟨_, parseRtpHeader_rtpHeaderBytes_append fields
      (fun e he => (hextension e he).fits) body, ?_, ?_, List.drop_left⟩
    · show { fields with payloadType := fields.payloadType &&& 0x7F } = fields
      rw [payloadType_and htype]
    · show (if hasExtension extension then extension.getD {} else {}) = _
      rw [hasExtension_eq_isSome hextension]
      cases extension with
      | none => rfl
      | some e => rfl

theorem rtpHeader_codec {fields : RtpHeaderFields} (htype : fields.payloadType < 128)
    {extension : Option RtpHeaderExtension} (hextension : ∀ e ∈ extension, Attachable e) :
    (∃ header, HeaderAgrees fields extension header) ∧ ∀ data, ParsedInside data :=
  ⟨⟨_, headerAgrees htype hextension⟩,
    fun data => ⟨parseRtpHeaderReads_eq data, fun _ => parseRtpHeader_headerSize_le⟩⟩

/-- The last packet of a frame, with its timestamps. -/
def stampedFields : RtpHeaderFields where
  marker := true
  sequenceNumber := 65535
  timestamp := 90000

def stampedExtension : RtpHeaderExtension :=
  buildRtpLatencyHeaderExtension { captureTimestampNs := 1, transportSendTimestampNs := 2 }

theorem rtpHeader_codec_stamped :
    (∃ header, HeaderAgrees stampedFields (some stampedExtension) header) ∧
      ∀ data, ParsedInside data := by
  refine rtpHeader_codec (by decide) fun e he => ?_
  obtain rfl := Option.some.inj he
  exact ⟨by decide, by decide, by decide⟩

end AvProject.Rtp
