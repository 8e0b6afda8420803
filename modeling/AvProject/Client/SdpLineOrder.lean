import AvProject.Client.SdpSessionDescription

/-!
The order of the lines of an SDP text. The payload type of an `a=rtpmap:` line is compared
with that of the `m=video` lines above it, and not with that of an `m=video` line below it,
which takes its place.
-/

namespace AvProject.Client

open AvProject.Lib

/-- What a line says about the video stream. -/
inductive SdpFact
  | media (payloadType : ℤ)
  | rtpmap (payloadType clockRate : ℤ)
  deriving DecidableEq, Repr

def SdpFact.media? : SdpFact → Option ℤ
  | .media payloadType => some payloadType
  | .rtpmap _ _ => none

def SdpFact.clockRate? : SdpFact → Option ℤ
  | .media _ => none
  | .rtpmap _ clockRate => some clockRate

/-- An `a=rtpmap:` line for H264. -/
def rtpmapFact (trimmed : List Char) : Option SdpFact := do
  let payloadType ← parseInt ((trimmed.takeWhile fun c => c != ' ').drop 9)
  let encoding := (trimmed.dropWhile fun c => c != ' ').drop 1
  if startsWith "H264/" encoding then
    return .rtpmap payloadType (← parseInt (encoding.drop 5))
  else none

def factOf (line : List Char) : Option SdpFact :=
  let trimmed := trim line
  if startsWith "m=video " trimmed then
    (parseMedia (trimmed.drop 8)).map fun media => .media media.2
  else if startsWith "a=rtpmap:" trimmed then rtpmapFact trimmed
  else none

def sdpFacts (contents : List Char) : List SdpFact := (getlines contents).filterMap factOf

def lastMedia (facts : List SdpFact) : Option ℤ := (facts.filterMap (·.media?)).getLast?

def lastClockRate (facts : List SdpFact) : Option ℤ := (facts.filterMap (·.clockRate?)).getLast?

/-- Payload type and clock rate of the description come from lines that fit together. -/
structure ConsistentWith (contents : List Char) (d : RtpVideoSessionDescription) : Prop where
  bounds : 0 ≤ d.payloadType ∧ d.payloadType ≤ 127
  media : ∃ line ∈ getlines contents, factOf line = some (.media d.payloadType)
  rtpmap : ∃ line ∈ getlines contents,
    factOf line = some (.rtpmap d.payloadType d.clockRate)

/-- No `m=video` line below the last `a=rtpmap:` line, or the clock rate of this line stands in
one for the payload type of the last `m=video` line, too. -/
def ClockRateFits (contents : List Char) : Prop :=
  (∃ payloadType clockRate,
      (sdpFacts contents).getLast? = some (.rtpmap payloadType clockRate)) ∨
    ∃ payloadType clockRate, lastMedia (sdpFacts contents) = some payloadType ∧
      lastClockRate (sdpFacts contents) = some clockRate ∧
      .rtpmap payloadType clockRate ∈ sdpFacts contents

/-! ### One line -/

section

variable {st next : SdpParseState} {line trimmed : List Char}

theorem head?_of_startsWith {text : String} {c : Char} (h : startsWith text trimmed = true)
    (hc : text.toList.head? = some c) : trimmed.head? = some c := by
  obtain ⟨rest, rfl⟩ := List.isPrefixOf_iff_prefix.mp h
  rw [List.head?_append, hc]
  rfl

/-- A line is of one kind. -/
theorem not_startsWith {text other : String} {c d : Char} (h : startsWith text trimmed = true)
    (hc : text.toList.head? = some c) (hd : other.toList.head? = some d) (hne : c ≠ d) :
    startsWith other trimmed = false := by
  by_contra hstarts
  rw [Bool.not_eq_false] at hstarts
  have hhead := (head?_of_startsWith h hc).symm.trans (head?_of_startsWith hstarts hd)
  exact hne (Option.some.inj hhead)

/-- What a line does to the fields that it may change. -/
inductive Reads (st next : SdpParseState) : Option SdpFact → Prop
  | nothing (hpayloadType : next.description.payloadType = st.description.payloadType)
      (hclockRate : next.description.clockRate = st.description.clockRate)
      (hmedia : next.haveMediaDescription = st.haveMediaDescription)
      (hrtpmap : next.haveRtpmap = st.haveRtpmap) : Reads st next none
  | media (hbounds : 0 ≤ next.description.payloadType ∧ next.description.payloadType ≤ 127)
      (hclockRate : next.description.clockRate = st.description.clockRate)
      (hrtpmap : next.haveRtpmap = st.haveRtpmap) :
      Reads st next (some (.media next.description.payloadType))
  | rtpmap (hchecked : 0 ≤ st.description.payloadType →
        next.description.payloadType = st.description.payloadType)
      (hmedia : next.haveMediaDescription = st.haveMediaDescription) :
      Reads st next
        (some (.rtpmap next.description.payloadType next.description.clockRate))

theorem parseMedia_bounds {text : List Char} {port payloadType : ℤ}
    (h : parseMedia text = some (port, payloadType)) : 0 ≤ payloadType ∧ payloadType ≤ 127 := by
  rw [parseMedia] at h
  simp only [Option.bind_eq_bind, Option.bind_eq_some_iff] at h
  obtain ⟨first, -, second, -, third, -, hchecked⟩ := h
  split at hchecked
  · cases hchecked
  · rename_i hbounds
    cases hchecked
    push Not at hbounds
    exact ⟨hbounds.2.2.1, hbounds.2.2.2⟩

theorem parseRtpmap_reads (h : parseRtpmap st trimmed = .ok next) :
    Reads st next (rtpmapFact trimmed) := by
  rw [parseRtpmap] at h
  split at h
  · cases h
  · split at h
    · cases h
    · rename_i payloadType hpayloadType
      rw [rtpmapFact, hpayloadType]
      simp only [Option.bind_eq_bind, Option.bind_some]
      dsimp only at h
      split at h
      -- another encoding is passed over
      · rename_i hother
        cases h
        rw [if_neg (by simpa using hother)]
        exact .nothing rfl rfl rfl rfl
      · rename_i hH264
        rw [if_pos (by simpa using hH264)]
        split at h
        · cases h
        · rename_i clockRate hclockRate
          rw [hclockRate]
          split at h
          · cases h
          · split at h
            · cases h
            · rename_i hchecked
              cases h
              refine .rtpmap (fun hseen => ?_) rfl
              by_contra hne
              exact hchecked ⟨hseen, hne⟩

theorem parseSdpLine_reads (h : parseSdpLine st line = .ok next) :
    Reads st next (factOf line) := by
  rw [parseSdpLine] at h
  rw [factOf]
  generalize trim line = trimmed at h
  simp only at h ⊢
  split at h
  · rename_i hempty
    cases h
    rw [hempty]
    exact .nothing rfl rfl rfl rfl
  · split at h
    -- a `c=` line, which is no line of another kind
    · rename_i hconnection
      cases h
      have hmedia : startsWith "m=video " trimmed = false :=
        not_startsWith hconnection rfl rfl (show 'c' ≠ 'm' by decide)
      have hrtpmap : startsWith "a=rtpmap:" trimmed = false :=
        not_startsWith hconnection rfl rfl (show 'c' ≠ 'a' by decide)
      rw [hmedia, hrtpmap]
      exact .nothing rfl rfl rfl rfl
    · split at h
      · rename_i hstarts
        rw [if_pos hstarts]
        split at h
        · cases h
        · rename_i port payloadType hmedia
          cases h
          rw [hmedia]
          exact .media (parseMedia_bounds hmedia) rfl rfl
      · rename_i hstarts
        rw [if_neg hstarts]
        split at h
        · rename_i hrtpmap
          rw [if_pos hrtpmap]
          exact parseRtpmap_reads h
        · rename_i hrtpmap
          cases h
          rw [if_neg hrtpmap]
          exact .nothing rfl rfl rfl rfl

end

/-! ### All lines -/

section

variable {facts : List SdpFact} {fact : SdpFact} {st next : SdpParseState}
  {payloadType clockRate : ℤ}

theorem lastMedia_media (facts : List SdpFact) (payloadType : ℤ) :
    lastMedia (facts ++ [.media payloadType]) = some payloadType := by
  rw [lastMedia, List.filterMap_append]
  exact List.getLast?_concat

theorem lastMedia_rtpmap (facts : List SdpFact) (payloadType clockRate : ℤ) :
    lastMedia (facts ++ [.rtpmap payloadType clockRate]) = lastMedia facts := by
  rw [lastMedia, List.filterMap_append]
  exact congrArg List.getLast? (List.append_nil _)

theorem lastClockRate_media (facts : List SdpFact) (payloadType : ℤ) :
    lastClockRate (facts ++ [.media payloadType]) = lastClockRate facts := by
  rw [lastClockRate, List.filterMap_append]
  exact congrArg List.getLast? (List.append_nil _)

theorem lastClockRate_rtpmap (facts : List SdpFact) (payloadType clockRate : ℤ) :
    lastClockRate (facts ++ [.rtpmap payloadType clockRate]) = some clockRate := by
  rw [lastClockRate, List.filterMap_append]
  exact List.getLast?_concat

/-- What the description holds after lines with these facts. -/
structure Describes (facts : List SdpFact) (st : SdpParseState) : Prop where
  media : st.haveMediaDescription = true →
    (0 ≤ st.description.payloadType ∧ st.description.payloadType ≤ 127) ∧
      lastMedia facts = some st.description.payloadType
  rtpmap : st.haveRtpmap = true → lastClockRate facts = some st.description.clockRate
  last : ∀ payloadType clockRate, facts.getLast? = some (.rtpmap payloadType clockRate) →
    st.description.payloadType = payloadType

theorem Describes.reads {found : Option SdpFact} (h : Describes facts st)
    (hreads : Reads st next found) : Describes (facts ++ found.toList) next := by
  cases hreads with
  | nothing hpayloadType hclockRate hmedia hrtpmap =>
      rw [Option.toList_none, List.append_nil]
      refine ⟨fun hseen => ?_, fun hseen => ?_, fun p c hlast => ?_⟩
      · rw [hpayloadType]
        exact h.media (hmedia.symm.trans hseen)
      · rw [hclockRate]
        exact h.rtpmap (hrtpmap.symm.trans hseen)
      · rw [hpayloadType]
        exact h.last p c hlast
  | media hbounds hclockRate hrtpmap =>
      refine ⟨fun _ => ⟨hbounds, lastMedia_media _ _⟩, fun hseen => ?_, fun p c hlast => ?_⟩
      · rw [hclockRate]
        exact (lastClockRate_media _ _).trans (h.rtpmap (hrtpmap.symm.trans hseen))
      -- the last line is this one, and no line for an encoding
      · rw [Option.toList_some, List.getLast?_concat] at hlast
        cases hlast
  | rtpmap hchecked hmedia =>
      refine ⟨fun hseen => ?_, fun _ => lastClockRate_rtpmap _ _ _, fun p c hlast => ?_⟩
      · -- a media line above has set a payload type, so the comparison was made
        obtain ⟨hbounds, hlast⟩ := h.media (hmedia.symm.trans hseen)
        rw [hchecked hbounds.1]
        exact ⟨hbounds, (lastMedia_rtpmap _ _ _).trans hlast⟩
      · rw [Option.toList_some, List.getLast?_concat] at hlast
        cases hlast
        rfl

theorem foldlM_describes {lines : List (List Char)} (h : Describes facts st)
    (hfold : lines.foldlM parseSdpLine st = .ok next) :
    Describes (facts ++ lines.filterMap factOf) next := by
  induction lines generalizing facts st with
  | nil =>
      cases hfold
      rw [List.filterMap_nil, List.append_nil]
      exact h
  | cons line lines ih =>
      rw [List.foldlM_cons] at hfold
      cases hline : parseSdpLine st line with
      | error message =>
          rw [hline] at hfold
          cases hfold
      | ok middle =>
          rw [hline] at hfold
          have hrest := ih (h.reads (parseSdpLine_reads hline)) hfold
          rw [List.append_assoc] at hrest
          rw [List.filterMap_cons]
          cases hfact : factOf line with
          | none =>
              rw [hfact] at hrest
              exact hrest
          | some fact =>
              rw [hfact] at hrest
              exact hrest

end

section

variable {contents : List Char} {d : RtpVideoSessionDescription}

/-- A text that is accepted: its last `m=video` line and its last `a=rtpmap:` line are what the
description tells of. -/
theorem parse_describes (h : parseRtpVideoSessionDescription contents = .ok d) :
    ((0 ≤ d.payloadType ∧ d.payloadType ≤ 127) ∧
        lastMedia (sdpFacts contents) = some d.payloadType) ∧
      lastClockRate (sdpFacts contents) = some d.clockRate ∧
      ∀ payloadType clockRate,
        (sdpFacts contents).getLast? = some (.rtpmap payloadType clockRate) →
        d.payloadType = payloadType := by
  rw [parseRtpVideoSessionDescription] at h
  cases hfold : (getlines contents).foldlM parseSdpLine {} with
  | error message =>
      rw [hfold] at h
      cases h
  | ok st =>
      rw [hfold] at h
      have hstart : Describes [] {} :=
        ⟨fun hseen => (Bool.false_ne_true hseen).elim,
          fun hseen => (Bool.false_ne_true hseen).elim, fun p c hlast => by cases hlast⟩
      have hdescribes := foldlM_describes hstart hfold
      change checkSdp st = .ok d at h
      rw [checkSdp] at h
      split at h
      · cases h
      · split at h
        · cases h
        · rename_i hmedia
          split at h
          · cases h
          · rename_i hrtpmap
            cases h
            exact ⟨hdescribes.media (by simpa using hmedia),
              hdescribes.rtpmap (by simpa using hrtpmap), hdescribes.last⟩

theorem mem_of_lastMedia {facts : List SdpFact} {payloadType : ℤ}
    (h : lastMedia facts = some payloadType) : .media payloadType ∈ facts := by
  obtain ⟨fact, hfact, hmedia⟩ := List.mem_filterMap.mp (List.mem_of_getLast? h)
  cases fact with
  | media p =>
      cases hmedia
      exact hfact
  | rtpmap p c => cases hmedia

/-- The payload type of an accepted text always comes from an `m=video` line; the clock rate
belongs to it exactly where no later `m=video` line has changed what it belongs to. -/
theorem consistentWith_iff (h : parseRtpVideoSessionDescription contents = .ok d) :
    ConsistentWith contents d ↔ ClockRateFits contents := by
  obtain ⟨⟨hbounds, hmedia⟩, hclockRate, hlast⟩ := parse_describes h
  constructor
  · rintro ⟨-, -, line, hline, hfact⟩
    exact .inr ⟨_, _, hmedia, hclockRate, List.mem_filterMap.mpr ⟨line, hline, hfact⟩⟩
  · intro hfits
    have hrtpmap : .rtpmap d.payloadType d.clockRate ∈ sdpFacts contents := by
      rcases hfits with ⟨payloadType, clockRate, hrtpmap⟩ | ⟨payloadType, clockRate, hm, hc, hmem⟩
      -- the last line of the two kinds has been compared with what is above it
      · obtain ⟨facts, hfacts⟩ := List.getLast?_eq_some_iff.mp hrtpmap
        rw [hfacts, lastClockRate_rtpmap] at hclockRate
        rw [hlast payloadType clockRate hrtpmap, ← Option.some.inj hclockRate]
        exact List.mem_of_getLast? hrtpmap
      · rw [hmedia] at hm
        rw [hclockRate] at hc
        rw [Option.some.inj hm, Option.some.inj hc]
        exact hmem
    exact ⟨hbounds, List.mem_filterMap.mp (mem_of_lastMedia hmedia),
      List.mem_filterMap.mp hrtpmap⟩

end

/-- The usual order of the lines. -/
def orderedSdp : List Char :=
  "c=IN IP4 10.0.0.1\nm=video 5004 RTP/AVP 96\na=rtpmap:96 H264/90000\n".toList

theorem orderedSdp_consistent :
    ConsistentWith orderedSdp ⟨"10.0.0.1".toList, 5004, 96, 90000⟩ :=
  (consistentWith_iff (show parseRtpVideoSessionDescription orderedSdp = .ok _ by decide)).mpr
    (.inl ⟨96, 90000, by decide⟩)

/-- The media line below the line for another payload type. -/
def swappedSdp : List Char :=
  "c=IN IP4 10.0.0.1\na=rtpmap:97 H264/90000\nm=video 5004 RTP/AVP 96\n".toList

theorem not_consistent_swappedSdp :
    ∃ d, parseRtpVideoSessionDescription swappedSdp = .ok d ∧ ¬ ConsistentWith swappedSdp d := by
  refine ⟨⟨"10.0.0.1".toList, 5004, 96, 90000⟩, by decide, ?_⟩
  rintro ⟨-, -, line, hline, hfact⟩
  have hmem : SdpFact.rtpmap 96 90000 ∈ sdpFacts swappedSdp :=
    List.mem_filterMap.mpr ⟨line, hline, hfact⟩
  revert hmem
  decide

end AvProject.Client
