import AvProject.Lib.Text

/-!
`SdpSessionDescription.cpp`: the video stream that an SDP file describes.
-/

namespace AvProject.Client

open AvProject.Lib

structure RtpVideoSessionDescription where
  connectionAddress : List Char := []
  videoPort : ℤ := 0
  payloadType : ℤ := -1
  clockRate : ℤ := 0
  deriving DecidableEq, Repr

/-- The description and the flags of the loop over the lines. -/
structure SdpParseState where
  description : RtpVideoSessionDescription := {}
  haveConnectionAddress : Bool := false
  haveMediaDescription : Bool := false
  haveRtpmap : Bool := false
  deriving DecidableEq, Repr

/-- The line starts with the text. -/
def startsWith (text : String) (line : List Char) : Bool := text.toList.isPrefixOf line

/-- `ParseInt`: a number and nothing behind it. -/
def parseInt (text : List Char) : Option ℤ :=
  match readInt text with
  | some (value, []) => some value
  | _ => none

/-- Port and payload type of a media line, behind `m=video `. -/
def parseMedia (text : List Char) : Option (ℤ × ℤ) := do
  let (port, rest) ← readInt text
  let (transport, rest) ← readWord rest
  let (payloadType, _) ← readInt rest
  if transport ≠ "RTP/AVP".toList ∨ port ≤ 0 ∨ payloadType < 0 ∨ payloadType > 127 then none
  else some (port, payloadType)

/-- An `a=rtpmap:` line; encodings other than H264 are passed over. -/
def parseRtpmap (st : SdpParseState) (trimmed : List Char) : Except String SdpParseState :=
  if ' ' ∉ trimmed then .error "invalid rtpmap line in SDP"
  else
    match parseInt ((trimmed.takeWhile fun c => c != ' ').drop 9) with
    | none => .error "invalid payload type in SDP rtpmap"
    | some payloadType =>
        let encoding := (trimmed.dropWhile fun c => c != ' ').drop 1
        if !startsWith "H264/" encoding then .ok st
        else
          match parseInt (encoding.drop 5) with
          | none => .error "invalid H264 clock rate in SDP"
          | some clockRate =>
              if clockRate ≤ 0 then .error "invalid H264 clock rate in SDP"
              else if st.description.payloadType ≥ 0 ∧
                  payloadType ≠ st.description.payloadType then
                .error "SDP rtpmap payload type does not match video media description"
              else
                .ok { st with
                  description := { st.description with
                    payloadType := payloadType
                    clockRate := clockRate }
                  haveRtpmap := true }

/-- One turn of the loop. -/
def parseSdpLine (st : SdpParseState) (line : List Char) : Except String SdpParseState :=
  let trimmed := trim line
  if trimmed = [] then .ok st
  else if startsWith "c=IN IP4 " trimmed then
    let address := trim (trimmed.drop 9)
    .ok { st with
      description := { st.description with connectionAddress := address }
      haveConnectionAddress := !address.isEmpty }
  else if startsWith "m=video " trimmed then
    match parseMedia (trimmed.drop 8) with
    | none => .error "invalid video media description in SDP"
    | some (port, payloadType) =>
        .ok { st with
          description := { st.description with
            videoPort := port
            payloadType := payloadType }
          haveMediaDescription := true }
  else if startsWith "a=rtpmap:" trimmed then parseRtpmap st trimmed
  else .ok st

/-- The fields that must have been there. -/
def checkSdp (st : SdpParseState) : Except String RtpVideoSessionDescription :=
  if !st.haveConnectionAddress then .error "SDP is missing connection address"
  else if !st.haveMediaDescription then .error "SDP is missing video media description"
  else if !st.haveRtpmap then .error "SDP is missing H264 rtpmap"
  else .ok st.description

def parseRtpVideoSessionDescription (contents : List Char) :
    Except String RtpVideoSessionDescription :=
  (getlines contents).foldlM parseSdpLine {} >>= checkSdp

theorem parseInt_decimal {n : ℤ} (hn : 0 ≤ n) (hint : n < 2 ^ 31) :
    parseInt (decimal n) = some n := by
  have hread := readInt_decimal_append hn hint [] (by simp)
  rw [List.append_nil] at hread
  rw [parseInt, hread]

/-! ### Lines of one kind -/

section

variable {st : SdpParseState} {line : List Char}

theorem parseSdpLine_other (h : Trimmed line) (hconnection : startsWith "c=IN IP4 " line = false)
    (hmedia : startsWith "m=video " line = false)
    (hrtpmap : startsWith "a=rtpmap:" line = false) : parseSdpLine st line = .ok st := by
  rw [parseSdpLine]
  simp only [h.trim_eq, if_neg h.nonempty, hconnection, hmedia, hrtpmap, Bool.false_eq_true,
    if_false]

theorem parseSdpLine_connection {address : List Char} (h : Trimmed address) :
    parseSdpLine st ("c=IN IP4 ".toList ++ address) = .ok { st with
      description := { st.description with connectionAddress := address }
      haveConnectionAddress := true } := by
  have htrimmed : Trimmed ("c=IN IP4 ".toList ++ address) := h.append_left rfl _
  have hstarts : startsWith "c=IN IP4 " ("c=IN IP4 ".toList ++ address) = true := rfl
  have hdrop : ("c=IN IP4 ".toList ++ address).drop 9 = address := rfl
  have hempty : address.isEmpty = false := by simpa using h.nonempty
  rw [parseSdpLine]
  simp only [htrimmed.trim_eq, if_neg htrimmed.nonempty, hstarts, if_true, hdrop, h.trim_eq,
    hempty, Bool.not_false]

/-- A media line with three fields that pass the checks. -/
theorem parseMedia_eq_some {text afterPort afterTransport last : List Char}
    {port payloadType : ℤ} (hport : readInt text = some (port, afterPort))
    (htransport : readWord afterPort = some ("RTP/AVP".toList, afterTransport))
    (hpayloadType : readInt afterTransport = some (payloadType, last))
    (hbounds : 0 < port ∧ 0 ≤ payloadType ∧ payloadType ≤ 127) :
    parseMedia text = some (port, payloadType) := by
  have hchecked : ¬ ("RTP/AVP".toList ≠ "RTP/AVP".toList ∨ port ≤ 0 ∨ payloadType < 0 ∨
      payloadType > 127) := by
    rintro (hne | hbad)
    · exact hne rfl
    · omega
  rw [parseMedia, hport, Option.bind_eq_bind, Option.bind_some]
  show (readWord afterPort).bind _ = _
  rw [htransport, Option.bind_some]
  show (readInt afterTransport).bind _ = _
  rw [hpayloadType, Option.bind_some]
  exact if_neg hchecked

theorem parseMedia_decimal {port payloadType : ℤ} (hport : 0 < port) (hportInt : port < 2 ^ 31)
    (hpayloadType : 0 ≤ payloadType) (hpayloadTypeLe : payloadType ≤ 127) :
    parseMedia (decimal port ++ (" RTP/AVP ".toList ++ decimal payloadType)) =
      some (port, payloadType) := by
  have hblank : ∀ c ∈ [' '], isSpace c = true := by
    intro c hc
    obtain rfl := List.mem_singleton.mp hc
    rfl
  have hfirst := readInt_decimal_append (by omega : 0 ≤ port) hportInt
    (" RTP/AVP ".toList ++ decimal payloadType) (by rintro _ ⟨⟩; rfl)
  have hword : readWord (" RTP/AVP ".toList ++ decimal payloadType) =
      some ("RTP/AVP".toList, ' ' :: decimal payloadType) :=
    readWord_append hblank "RTP/AVP".toList (' ' :: decimal payloadType) (by decide) rfl
      (by rintro _ ⟨⟩; rfl)
  have hlast : readInt (' ' :: decimal payloadType) = some (payloadType, []) := by
    have hread := readInt_decimal_append hpayloadType (by omega) [] (by simp)
    rw [List.append_nil] at hread
    exact hread
  exact parseMedia_eq_some hfirst hword hlast ⟨hport, hpayloadType, hpayloadTypeLe⟩

theorem trimmed_decimal {n : ℤ} (hn : 0 ≤ n) : Trimmed (decimal n) :=
  .of_forall (decimal_ne_nil hn) fun _ hc =>
    isSpace_eq_false_of_isDigit (isDigit_of_mem_decimal hn hc)

theorem parseSdpLine_media {port payloadType : ℤ} (hport : 0 < port) (hportInt : port < 2 ^ 31)
    (hpayloadType : 0 ≤ payloadType) (hpayloadTypeLe : payloadType ≤ 127) :
    parseSdpLine st ("m=video ".toList ++ (decimal port ++
        (" RTP/AVP ".toList ++ decimal payloadType))) =
      .ok { st with
        description := { st.description with
          videoPort := port
          payloadType := payloadType }
        haveMediaDescription := true } := by
  generalize hbody : decimal port ++ (" RTP/AVP ".toList ++ decimal payloadType) = body
  have hread := parseMedia_decimal hport hportInt hpayloadType hpayloadTypeLe
  rw [hbody] at hread
  have htrimmed : Trimmed ("m=video ".toList ++ body) := by
    rw [← hbody, ← List.append_assoc, ← List.append_assoc]
    exact (trimmed_decimal hpayloadType).append_left rfl _
  have hconnection : startsWith "c=IN IP4 " ("m=video ".toList ++ body) = false := rfl
  have hmedia : startsWith "m=video " ("m=video ".toList ++ body) = true := rfl
  have hdrop : ("m=video ".toList ++ body).drop 8 = body := rfl
  rw [parseSdpLine]
  simp only [htrimmed.trim_eq, if_neg htrimmed.nonempty, hconnection, Bool.false_eq_true,
    if_false, hmedia, if_true, hdrop, hread]

theorem parseSdpLine_rtpmap {payloadType clockRate : ℤ} (hpayloadType : 0 ≤ payloadType)
    (hpayloadTypeInt : payloadType < 2 ^ 31) (hclockRate : 0 < clockRate)
    (hclockRateInt : clockRate < 2 ^ 31)
    (hmatches : payloadType = st.description.payloadType) :
    parseSdpLine st ("a=rtpmap:".toList ++ (decimal payloadType ++
        (" H264/".toList ++ decimal clockRate))) =
      .ok { st with
        description := { st.description with clockRate := clockRate }
        haveRtpmap := true } := by
  have hnonneg : 0 ≤ clockRate := by omega
  have hname : ∀ c ∈ "a=rtpmap:".toList, (c != ' ') = true := List.all_eq_true.mp rfl
  have hspace : ∀ c ∈ "a=rtpmap:".toList ++ decimal payloadType, (c != ' ') = true := by
    intro c hc
    rcases List.mem_append.mp hc with hkey | hdigit
    · exact hname c hkey
    · rw [bne_iff_ne]
      rintro rfl
      exact absurd (isDigit_of_mem_decimal hpayloadType hdigit) (by decide)
  have hassoc : "a=rtpmap:".toList ++ (decimal payloadType ++
      (" H264/".toList ++ decimal clockRate)) =
        ("a=rtpmap:".toList ++ decimal payloadType) ++ (" H264/".toList ++ decimal clockRate) :=
    (List.append_assoc _ _ _).symm
  rw [hassoc]
  generalize hline : ("a=rtpmap:".toList ++ decimal payloadType) ++
    (" H264/".toList ++ decimal clockRate) = line
  have htrimmed : Trimmed line := by
    rw [← hline, ← List.append_assoc]
    exact (trimmed_decimal hnonneg).append_left rfl _
  have hconnection : startsWith "c=IN IP4 " line = false := hline ▸ rfl
  have hmedia : startsWith "m=video " line = false := hline ▸ rfl
  have hrtpmap : startsWith "a=rtpmap:" line = true := hline ▸ rfl
  have hmem : ¬ ' ' ∉ line := by
    rw [← hline]
    exact not_not.mpr (List.mem_append_right _ List.mem_cons_self)
  have htake : line.takeWhile (fun c => c != ' ') = "a=rtpmap:".toList ++ decimal payloadType := by
    rw [← hline, List.takeWhile_append_of_pos hspace]
    exact List.append_nil _
  have hdrop : line.dropWhile (fun c => c != ' ') = " H264/".toList ++ decimal clockRate := by
    rw [← hline, List.dropWhile_append_of_pos hspace]
    rfl
  have hfield : ("a=rtpmap:".toList ++ decimal payloadType).drop 9 = decimal payloadType := rfl
  have hencoding : (" H264/".toList ++ decimal clockRate).drop 1 =
      "H264/".toList ++ decimal clockRate := rfl
  have hstarts : startsWith "H264/" ("H264/".toList ++ decimal clockRate) = true := rfl
  have hrate : ("H264/".toList ++ decimal clockRate).drop 5 = decimal clockRate := rfl
  rw [parseSdpLine]
  simp only [htrimmed.trim_eq, if_neg htrimmed.nonempty, hconnection, hmedia, hrtpmap,
    Bool.false_eq_true, if_false, if_true]
  rw [parseRtpmap, if_neg hmem, htake, hfield, parseInt_decimal hpayloadType hpayloadTypeInt]
  simp only
  rw [hdrop, hencoding, hstarts, if_neg (by decide), hrate,
    parseInt_decimal hnonneg hclockRateInt]
  simp only
  rw [if_neg (by omega), if_neg (by simp [hmatches]), hmatches]

end

end AvProject.Client
