import AvProject.Lib.Text
import AvProject.Server.AppConfig

/-!
The start of `RtpStreamingBackend`: the address of the receiver and the SDP file that
describes the stream to it.
-/

namespace AvProject.Server

open AvProject.Lib

/-- `inet_pton` for IPv4: four decimal numbers of up to three digits, none above 255, with
dots between them. -/
def inetPton (text : List Char) : Bool :=
  let fields := text.splitOn '.'
  fields.length == 4 && fields.all fun field =>
    !field.isEmpty && field.length ≤ 3 && field.all Char.isDigit &&
      Nat.ofDigitChars 10 field 0 ≤ 255

/-- What a C function reads of a string. -/
def cString (text : List Char) : List Char := text.takeWhile fun c => c.toNat != 0

def configureRemoteAddress (cfg : TransportConfig) : Bool :=
  inetPton (cString cfg.rtpRemoteHost.toList)

/-- The lines of the SDP file. -/
def sdpLines (cfg : TransportConfig) : List (List Char) :=
  [ "v=0".toList,
    "o=- 0 0 IN IP4 ".toList ++ cfg.rtpRemoteHost.toList,
    "s=sserver RTP stream".toList,
    "c=IN IP4 ".toList ++ cfg.rtpRemoteHost.toList,
    "t=0 0".toList,
    "m=video ".toList ++ (decimal cfg.rtpRemotePort ++
      (" RTP/AVP ".toList ++ decimal cfg.rtpPayloadType)),
    "a=rtpmap:".toList ++ (decimal cfg.rtpPayloadType ++
      (" H264/".toList ++ decimal cfg.rtpClockRate)),
    "a=fmtp:".toList ++ (decimal cfg.rtpPayloadType ++ " packetization-mode=1".toList),
    "a=recvonly".toList ]

/-- `WriteSdpFile`: its result and the contents of the file, where one is written. -/
def writeSdpFile (cfg : TransportConfig) (rtpSdpPath : String) (fileOpens : Bool) :
    Bool × Option (List Char) :=
  if rtpSdpPath = "" then (true, none)
  else if !fileOpens then (false, none)
  else (true, some (unlines (sdpLines cfg)))

/-- `start`, up to the SDP file. -/
def startRtp (cfg : TransportConfig) (rtpSdpPath : String) (socketOpens fileOpens : Bool) :
    Bool × Option (List Char) :=
  if !cfg.enabled then (true, none)
  else if !configureRemoteAddress cfg || !socketOpens then (false, none)
  else writeSdpFile cfg rtpSdpPath fileOpens

/-! ### Addresses -/

theorem mem_splitOn_of_mem {text : List Char} {sep c : Char} (hc : c ∈ text) (hne : c ≠ sep) :
    ∃ field ∈ text.splitOn sep, c ∈ field := by
  induction text with
  | nil => simp at hc
  | cons first rest ih =>
      obtain ⟨field, fields, hfields⟩ := List.exists_cons_of_ne_nil (List.splitOn_ne_nil sep rest)
      rw [List.splitOn_cons_eq_if_modifyHead]
      rw [hfields] at ih ⊢
      rcases List.mem_cons.mp hc with rfl | hrest
      · rw [if_neg (by simpa using hne)]
        exact ⟨c :: field, List.mem_cons_self, List.mem_cons_self⟩
      · obtain ⟨found, hfound, hmem⟩ := ih hrest
        split
        · exact ⟨found, List.mem_cons_of_mem _ hfound, hmem⟩
        · rcases List.mem_cons.mp hfound with rfl | hlater
          · exact ⟨first :: found, List.mem_cons_self, List.mem_cons_of_mem _ hmem⟩
          · exact ⟨found, List.mem_cons_of_mem _ hlater, hmem⟩

/-- An address in dotted decimal notation has no white space in it. -/
theorem trimmed_of_inetPton {text : List Char} (h : inetPton text = true) :
    Trimmed text ∧ ∀ c ∈ text, isSpace c = false := by
  rw [inetPton, Bool.and_eq_true, List.all_eq_true] at h
  obtain ⟨hlength, hfields⟩ := h
  have hspace : ∀ c ∈ text, isSpace c = false := by
    intro c hc
    rcases eq_or_ne c '.' with rfl | hne
    · rfl
    obtain ⟨field, hfield, hmem⟩ := mem_splitOn_of_mem hc hne
    have hall := hfields field hfield
    simp only [Bool.and_eq_true, List.all_eq_true] at hall
    exact isSpace_eq_false_of_isDigit (hall.1.2 c hmem)
  refine ⟨.of_forall ?_ hspace, hspace⟩
  rintro rfl
  revert hlength
  decide

end AvProject.Server
