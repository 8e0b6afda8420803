import AvProject.Client.JitterBuffer
import AvProject.Client.StreamClientRtp
import AvProject.Lib.Run

/-!
The order in which the jitter buffer plays RTP frames out. It keeps them by the raw 32-bit
timestamp, so after the timestamp has wrapped around the new frames come before the old
ones that are still there, unless the cursor takes those first.
-/

namespace AvProject.Rtp

open AvProject.Lib AvProject.Protocol AvProject.Client

/-! ### Frames in turn -/

/-- The number under which a frame is buffered. -/
def key (frame : ReceivedFrame) : ℕ := frame.metadata.sequence

/-- The frame comes after all that are buffered: it has the largest number, or it lies below
the cursor as the last of those that do, and the numbers from the cursor on leave no gap. -/
def InTurn (s : PlayoutState) (frame : ReceivedFrame) : Prop :=
  (∀ (k : ℕ) b, s.udpJitterBuffer[k]? = some b →
      k < key frame ∧ (s.hasNextJitterBufferSequence = true → s.nextJitterBufferSequence ≤ k)) ∨
    s.hasNextJitterBufferSequence = true ∧ key frame < s.nextJitterBufferSequence ∧
      (∀ (k : ℕ) b, s.udpJitterBuffer[k]? = some b → k < s.nextJitterBufferSequence →
        k < key frame) ∧
      ∃ count, ∀ k : ℕ, s.nextJitterBufferSequence ≤ k →
        (s.udpJitterBuffer[k]?.isSome = true ↔ k < s.nextJitterBufferSequence + count)

/-- The buffer holds these frames, which completed in this order: those from the cursor on,
then those that have wrapped around to numbers below it. -/
structure Waiting (s : PlayoutState) (ahead behind : List ReceivedFrame) : Prop where
  held : ∀ frame ∈ ahead ++ behind, ∃ b, s.udpJitterBuffer[key frame]? = some b ∧ b.frame = frame
  only : ∀ (k : ℕ) b, s.udpJitterBuffer[k]? = some b → b.frame ∈ ahead ++ behind ∧ key b.frame = k
  bounded : ∀ frame ∈ ahead ++ behind, key frame < 2 ^ 32
  ahead_sorted : ahead.Pairwise (key · < key ·)
  behind_sorted : behind.Pairwise (key · < key ·)
  ahead_ge : s.hasNextJitterBufferSequence = true →
    ∀ frame ∈ ahead, s.nextJitterBufferSequence ≤ key frame
  behind_lt : ∀ frame ∈ behind, s.hasNextJitterBufferSequence = true ∧
    key frame < s.nextJitterBufferSequence
  reached : behind ≠ [] → ahead.map key = List.range' s.nextJitterBufferSequence ahead.length
  nonempty : s.hasNextJitterBufferSequence = true → ahead ++ behind ≠ []

namespace Waiting

variable {s s' : PlayoutState} {ahead behind : List ReceivedFrame} {frame first : ReceivedFrame}
  {k : ℕ} {b : BufferedUdpFrame}

theorem start (hbuffer : s.udpJitterBuffer = ∅) (hhas : s.hasNextJitterBufferSequence = false) :
    Waiting s [] [] := by
  constructor <;> simp [hbuffer, hhas]

/-- The buffer holds these frames, each under its number. -/
def Holds (s : PlayoutState) (frames : List ReceivedFrame) : Prop :=
  (∀ frame ∈ frames, ∃ b, s.udpJitterBuffer[key frame]? = some b ∧ b.frame = frame) ∧
    ∀ (k : ℕ) b, s.udpJitterBuffer[k]? = some b → b.frame ∈ frames ∧ key b.frame = k

theorem holds (h : Waiting s ahead behind) : Holds s (ahead ++ behind) := ⟨h.held, h.only⟩

/-- One frame is taken out, where the others have other numbers. -/
theorem Holds.emit {frames : List ReceivedFrame} (h : Holds s (first :: frames))
    (hother : ∀ other ∈ frames, key other ≠ key first) : Holds (s.emit (key first)) frames := by
  constructor
  · intro other hmem
    obtain ⟨b, hb, hframe⟩ := h.1 other (List.mem_cons_of_mem first hmem)
    refine ⟨b, ?_, hframe⟩
    rw [PlayoutState.emit, OrdMap.getElem?_erase, if_neg (hother other hmem).symm]
    exact hb
  · intro k b hb
    rw [PlayoutState.emit, OrdMap.getElem?_erase] at hb
    split at hb
    · cases hb
    · rename_i hne
      obtain ⟨hmem, hkey⟩ := h.2 k b hb
      refine ⟨?_, hkey⟩
      rcases List.mem_cons.mp hmem with hfirst | hmem
      · exact absurd (hfirst ▸ hkey) hne
      · exact hmem

/-- The cursor goes on as long as something is buffered. -/
theorem hasNext_emit {frames : List ReceivedFrame} (h : Holds (s.emit k) frames) :
    (s.emit k).hasNextJitterBufferSequence = true ↔ frames ≠ [] := by
  have hempty : (s.emit k).hasNextJitterBufferSequence = true ↔
      (s.emit k).udpJitterBuffer ≠ ∅ := by
    show (!(s.udpJitterBuffer.erase k).isEmpty) = true ↔ s.udpJitterBuffer.erase k ≠ ∅
    rw [Bool.not_eq_true', ← Bool.not_eq_true, not_iff_not, Std.ExtTreeMap.isEmpty_iff]
  rw [hempty]
  constructor
  · intro hne hnil
    apply hne
    apply OrdMap.ext
    intro i
    rw [Std.ExtTreeMap.getElem?_empty]
    by_contra hsome
    obtain ⟨b, hb⟩ := Option.ne_none_iff_exists'.mp hsome
    have hmem := (h.2 i b hb).1
    rw [hnil] at hmem
    cases hmem
  · rintro hne hnil
    obtain ⟨other, hmem⟩ := List.exists_mem_of_ne_nil _ hne
    obtain ⟨b, hb, -⟩ := h.1 other hmem
    rw [hnil, Std.ExtTreeMap.getElem?_empty] at hb
    cases hb

theorem next_emit (hk : k < 2 ^ 32) : (s.emit k).nextJitterBufferSequence = k + 1 := by
  show (k + 1) % 2 ^ 64 = k + 1
  exact Nat.mod_eq_of_lt (by omega)

/-- The first frame leaves; where newer ones wait below the cursor it was at the cursor. -/
theorem emit_ahead (h : Waiting s (first :: ahead) behind) :
    Waiting (s.emit (key first)) ahead behind := by
  have hbound := h.bounded first (by simp)
  have hlater (other : ReceivedFrame) (hmem : other ∈ ahead) : key first < key other :=
    List.rel_of_pairwise_cons h.ahead_sorted hmem
  have hwrapped (other : ReceivedFrame) (hmem : other ∈ behind) : key other < key first := by
    obtain ⟨hhas, hlt⟩ := h.behind_lt other hmem
    exact hlt.trans_le (h.ahead_ge hhas first List.mem_cons_self)
  have hholds : Holds (s.emit (key first)) (ahead ++ behind) := by
    refine Holds.emit h.holds fun other hmem => ?_
    rcases List.mem_append.mp hmem with hmem | hmem
    · exact (hlater other hmem).ne'
    · exact (hwrapped other hmem).ne
  have hhas := hasNext_emit hholds
  constructor
  case held => exact hholds.1
  case only => exact hholds.2
  case bounded => exact fun other hmem => h.bounded other (List.mem_cons_of_mem first hmem)
  case ahead_sorted => exact h.ahead_sorted.of_cons
  case behind_sorted => exact h.behind_sorted
  case ahead_ge =>
    intro _ other hmem
    rw [next_emit hbound]
    exact hlater other hmem
  case behind_lt =>
    intro other hmem
    rw [hhas, next_emit hbound]
    exact ⟨List.append_ne_nil_of_right_ne_nil _ (List.ne_nil_of_mem hmem),
      (hwrapped other hmem).trans (Nat.lt_succ_self _)⟩
  case reached =>
    intro hne
    have hreached := h.reached hne
    rw [List.map_cons, List.length_cons, List.range'_succ, List.cons.injEq] at hreached
    rw [next_emit hbound, hreached.1]
    exact hreached.2
  case nonempty => exact hhas.mp

/-- The first of the frames below the cursor leaves once there are no others. -/
theorem emit_behind (h : Waiting s [] (first :: behind)) :
    Waiting (s.emit (key first)) behind [] := by
  have hbound := h.bounded first (by simp)
  have hlater (other : ReceivedFrame) (hmem : other ∈ behind) : key first < key other :=
    List.rel_of_pairwise_cons h.behind_sorted hmem
  have hholds : Holds (s.emit (key first)) (behind ++ []) := by
    rw [List.append_nil]
    exact Holds.emit h.holds fun other hmem => (hlater other hmem).ne'
  have hhas := hasNext_emit hholds
  constructor
  case held => exact hholds.1
  case only => exact hholds.2
  case bounded =>
    rw [List.append_nil]
    exact fun other hmem => h.bounded other (List.mem_cons_of_mem first hmem)
  case ahead_sorted => exact h.behind_sorted.of_cons
  case behind_sorted => exact List.Pairwise.nil
  case ahead_ge =>
    intro _ other hmem
    rw [next_emit hbound]
    exact hlater other hmem
  case behind_lt => simp
  case reached => simp
  case nonempty => exact hhas.mp

/-- A cursor is set at the first frame. -/
theorem anchor (h : Waiting s ahead behind) (hhas : s.hasNextJitterBufferSequence = false)
    (hb : s.udpJitterBuffer[k]? = some b)
    (hfirst : ∀ (k' : ℕ) b', s.udpJitterBuffer[k']? = some b' → k ≤ k') :
    Waiting (s.anchor k) ahead behind := by
  obtain rfl : behind = [] := by
    apply List.eq_nil_iff_forall_not_mem.mpr
    intro other hmem
    rw [(h.behind_lt other hmem).1] at hhas
    cases hhas
  constructor
  case held => exact h.held
  case only => exact h.only
  case bounded => exact h.bounded
  case ahead_sorted => exact h.ahead_sorted
  case behind_sorted => exact h.behind_sorted
  case ahead_ge =>
    intro _ other hmem
    obtain ⟨b', hb', -⟩ := h.held other (List.mem_append_left [] hmem)
    exact hfirst _ b' hb'
  case behind_lt => simp
  case reached => simp
  case nonempty => exact fun _ => List.ne_nil_of_mem (h.only k b hb).1

/-- The frame with the smallest number of a sorted list is the first one. -/
theorem eq_head {frames : List ReceivedFrame} (hsorted : (first :: frames).Pairwise (key · < key ·))
    (hmem : frame ∈ first :: frames) (hle : key frame ≤ key first) : frame = first := by
  rcases List.mem_cons.mp hmem with heq | hmem
  · exact heq
  · exact absurd (List.rel_of_pairwise_cons hsorted hmem) (Nat.not_lt.mpr hle)

/-- Whatever a pop does, the frames leave in the order in which they came. -/
theorem pop (h : Waiting s ahead behind) {popped : Option ReceivedFrame}
    (hpop : PopOutcome s s' popped) :
    ∃ ahead' behind', Waiting s' ahead' behind' ∧
      ahead ++ behind = popped.toList ++ (ahead' ++ behind') := by
  cases hpop with
  | kept => exact ⟨ahead, behind, h, rfl⟩
  | anchored oldest b hfront hhas =>
      obtain ⟨hb, hfirst⟩ := OrdMap.front?_eq_some hfront
      exact ⟨ahead, behind, h.anchor hhas hb hfirst, rfl⟩
  | expected b hhas hb =>
      obtain ⟨hmem, hkey⟩ := h.only _ b hb
      have hahead : b.frame ∈ ahead := by
        rcases List.mem_append.mp hmem with hmem | hmem
        · exact hmem
        · exact absurd hkey (h.behind_lt b.frame hmem).2.ne
      cases ahead with
      | nil => cases hahead
      | cons first ahead =>
          have hle : key b.frame ≤ key first :=
            hkey.trans_le (h.ahead_ge hhas first List.mem_cons_self)
          have heq := eq_head h.ahead_sorted hahead hle
          rw [← hkey, heq]
          exact ⟨ahead, behind, h.emit_ahead, rfl⟩
  | oldest k b hfront hskip =>
      obtain ⟨hb, hfirst⟩ := OrdMap.front?_eq_some hfront
      obtain ⟨hmem, hkey⟩ := h.only k b hb
      have hle (other : ReceivedFrame) (hother : other ∈ ahead ++ behind) :
          key b.frame ≤ key other := by
        obtain ⟨b', hb', -⟩ := h.held other hother
        exact hkey.trans_le (hfirst _ b' hb')
      rw [← hkey]
      cases ahead with
      | nil =>
          cases behind with
          | nil => cases hmem
          | cons first behind =>
              have heq := eq_head h.behind_sorted hmem (hle first List.mem_cons_self)
              rw [heq]
              exact ⟨behind, [], h.emit_behind, by simp⟩
      | cons first ahead =>
          have hbehind : behind = [] := by
            -- With newer frames below it, the frame at the cursor would have been found.
            by_contra hne
            obtain ⟨other, hother⟩ := List.exists_mem_of_ne_nil behind hne
            have hreached := h.reached hne
            rw [List.map_cons, List.length_cons, List.range'_succ, List.cons.injEq] at hreached
            obtain ⟨b', hb', -⟩ := h.held first List.mem_cons_self
            rw [hreached.1, hskip (h.behind_lt other hother).1] at hb'
            cases hb'
          subst hbehind
          rw [List.append_nil] at hmem
          have heq := eq_head h.ahead_sorted hmem (hle first List.mem_cons_self)
          rw [heq]
          exact ⟨ahead, [], h.emit_ahead, rfl⟩

/-- A frame that completes in turn comes last. -/
theorem complete (h : Waiting s ahead behind) (hturn : InTurn s frame) (hkey : key frame < 2 ^ 32)
    (hb : b.frame = frame) :
    key frame ∉ s.udpJitterBuffer ∧ ∃ ahead' behind',
      Waiting { s with udpJitterBuffer := s.udpJitterBuffer.insert (key frame) b } ahead' behind' ∧
        ahead' ++ behind' = ahead ++ behind ++ [frame] := by
  have hentry (other : ReceivedFrame) (hmem : other ∈ ahead ++ behind) :
      ∃ b', s.udpJitterBuffer[key other]? = some b' := by
    obtain ⟨b', hb', -⟩ := h.held other hmem
    exact ⟨b', hb'⟩
  have hnew : s.udpJitterBuffer[key frame]? = none := by
    by_contra hsome
    obtain ⟨b', hb'⟩ := Option.ne_none_iff_exists'.mp hsome
    rcases hturn with hlast | ⟨hhas, hlt, hbelow, -⟩
    · exact absurd (hlast _ b' hb').1 (lt_irrefl _)
    · exact absurd (hbelow _ b' hb' hlt) (lt_irrefl _)
  have hholds (frames : List ReceivedFrame) (hframes : ∀ other, other ∈ frames ↔
      other ∈ ahead ++ behind ∨ other = frame) :
      Holds { s with udpJitterBuffer := s.udpJitterBuffer.insert (key frame) b } frames := by
    constructor
    · intro other hmem
      rcases (hframes other).mp hmem with hold | rfl
      · obtain ⟨b', hb', hframe⟩ := h.held other hold
        refine ⟨b', ?_, hframe⟩
        rw [OrdMap.getElem?_insert, if_neg, hb']
        intro heq
        rw [heq, hb'] at hnew
        cases hnew
      · exact ⟨b, by rw [OrdMap.getElem?_insert, if_pos rfl], hb⟩
    · intro k b' hb'
      rw [OrdMap.getElem?_insert] at hb'
      split at hb'
      · rename_i heq
        obtain rfl := Option.some.inj hb'
        exact ⟨(hframes _).mpr (.inr hb), by rw [hb]; exact heq⟩
      · obtain ⟨hmem, hkey'⟩ := h.only k b' hb'
        exact ⟨(hframes _).mpr (.inl hmem), hkey'⟩
  refine ⟨OrdMap.not_mem_iff.mpr hnew, ?_⟩
  rcases hturn with hlast | ⟨hhas, hlt, hbelow, count, hgap⟩
  · -- No wrap: the frame joins those from the cursor on.
    obtain rfl : behind = [] := by
      apply List.eq_nil_iff_forall_not_mem.mpr
      intro other hmem
      obtain ⟨hhas, hlt⟩ := h.behind_lt other hmem
      obtain ⟨b', hb'⟩ := hentry other (List.mem_append_right ahead hmem)
      exact absurd ((hlast _ b' hb').2 hhas) (Nat.not_le.mpr hlt)
    have hlater (other : ReceivedFrame) (hmem : other ∈ ahead) : key other < key frame := by
      obtain ⟨b', hb'⟩ := hentry other (List.mem_append_left [] hmem)
      exact (hlast _ b' hb').1
    have hall := hholds (ahead ++ [frame] ++ []) (by simp)
    refine ⟨ahead ++ [frame], [], ?_, by simp⟩
    constructor
    case held => exact hall.1
    case only => exact hall.2
    case bounded =>
      intro other hmem
      rw [List.append_nil, List.mem_append, List.mem_singleton] at hmem
      rcases hmem with hmem | rfl
      · exact h.bounded other (List.mem_append_left [] hmem)
      · exact hkey
    case ahead_sorted =>
      rw [List.pairwise_append]
      refine ⟨h.ahead_sorted, List.pairwise_singleton _ _, fun other hmem new hnew => ?_⟩
      rw [List.mem_singleton.mp hnew]
      exact hlater other hmem
    case behind_sorted => exact List.Pairwise.nil
    case ahead_ge =>
      intro hhas other hmem
      obtain ⟨old, hold⟩ := List.exists_mem_of_ne_nil _ (h.nonempty hhas)
      rw [List.append_nil] at hold
      rcases List.mem_append.mp hmem with hmem | hmem
      · exact h.ahead_ge hhas other hmem
      · rw [List.mem_singleton.mp hmem]
        exact (h.ahead_ge hhas old hold).trans (hlater old hold).le
    case behind_lt => simp
    case reached => simp
    case nonempty => simp
  · -- A wrap, or a frame after one: it joins those below the cursor.
    have hlater (other : ReceivedFrame) (hmem : other ∈ behind) : key other < key frame := by
      obtain ⟨b', hb'⟩ := hentry other (List.mem_append_right ahead hmem)
      exact hbelow _ b' hb' (h.behind_lt other hmem).2
    have hall := hholds (ahead ++ (behind ++ [frame])) (by simp [or_assoc])
    refine ⟨ahead, behind ++ [frame], ?_, by simp⟩
    constructor
    case held => exact hall.1
    case only => exact hall.2
    case bounded =>
      intro other hmem
      rw [← List.append_assoc, List.mem_append, List.mem_singleton] at hmem
      rcases hmem with hmem | rfl
      · exact h.bounded other hmem
      · exact hkey
    case ahead_sorted => exact h.ahead_sorted
    case behind_sorted =>
      rw [List.pairwise_append]
      refine ⟨h.behind_sorted, List.pairwise_singleton _ _, fun other hmem new hnew => ?_⟩
      rw [List.mem_singleton.mp hnew]
      exact hlater other hmem
    case ahead_ge => exact h.ahead_ge
    case behind_lt =>
      intro other hmem
      rcases List.mem_append.mp hmem with hmem | hmem
      · exact h.behind_lt other hmem
      · rw [List.mem_singleton.mp hmem]
        exact ⟨hhas, hlt⟩
    case reached =>
      intro _
      have hmem (k : ℕ) : k ∈ ahead.map key ↔
          k ∈ List.range' s.nextJitterBufferSequence count := by
        rw [List.mem_range'_1]
        constructor
        · intro hk
          obtain ⟨other, hother, rfl⟩ := List.mem_map.mp hk
          have hge := h.ahead_ge hhas other hother
          obtain ⟨b', hb'⟩ := hentry other (List.mem_append_left behind hother)
          exact ⟨hge, (hgap _ hge).mp (by rw [hb']; rfl)⟩
        · rintro ⟨hge, hcount⟩
          obtain ⟨b', hb'⟩ := Option.isSome_iff_exists.mp ((hgap k hge).mpr hcount)
          obtain ⟨hheld, hkey'⟩ := h.only k b' hb'
          rcases List.mem_append.mp hheld with hheld | hheld
          · exact List.mem_map.mpr ⟨b'.frame, hheld, hkey'⟩
          · have hlt' := (h.behind_lt b'.frame hheld).2
            omega
      have hsorted : (ahead.map key).Pairwise (· < ·) := List.pairwise_map.mpr h.ahead_sorted
      have hrange : (List.range' s.nextJitterBufferSequence count).Pairwise (· < ·) :=
        List.pairwise_lt_range'
      have heq : ahead.map key = List.range' s.nextJitterBufferSequence count :=
        List.Perm.eq_of_pairwise' hsorted hrange
          ((List.perm_ext_iff_of_nodup (hsorted.imp ne_of_lt) (hrange.imp ne_of_lt)).mpr hmem)
      have hlength : ahead.length = count := by
        rw [← List.length_map (f := key), heq, List.length_range']
      show ahead.map key = List.range' s.nextJitterBufferSequence ahead.length
      rw [hlength]
      exact heq
    case nonempty => simp

end Waiting

/-! ### The receiver -/

/-- The frame that a datagram completes. -/
def completedBy (cfg : ClientConfig) (st : StreamClient) (data : Bytes) (nowNs : ℕ) :
    Option ReceivedFrame :=
  match readRtpPacket data with
  | none => none
  | some packet =>
      if acceptsPayloadType cfg packet.fields.payloadType = true ∧ packet.fields.marker = true ∧
          (assembleRtpPacket cfg st.rtpFrameAssembly packet).ready = true then
        some (completedRtpFrame cfg (assembleRtpPacket cfg st.rtpFrameAssembly packet) nowNs)
      else none

theorem completedBy_key_lt {cfg : ClientConfig} {st : StreamClient} {data : Bytes} {nowNs : ℕ}
    {frame : ReceivedFrame} (h : completedBy cfg st data nowNs = some frame) :
    key frame < 2 ^ 32 := by
  rw [completedBy] at h
  split at h
  · cases h
  split at h
  · obtain rfl := Option.some.inj h
    exact UInt32.toNat_lt _
  · cases h

/-- The buffer after `BufferCompletedUdpFrame`. -/
def bufferFrame (s : PlayoutState) (frame : ReceivedFrame) : PlayoutState :=
  if key frame ∈ s.udpJitterBuffer then s
  else { s with
    udpJitterBuffer := s.udpJitterBuffer.insert (key frame)
      { frame := frame, bufferedTimestampNs := frame.receiveTimestampNs } }

/-- With the jitter buffer a datagram hands out nothing. A frame that it completes is counted
and enters the buffer; without one, only the assembly changes. -/
theorem receiveRtpDatagram_effect {cfg : ClientConfig} (hjitter : cfg.udpJitterBufferEnabled = true)
    (st : StreamClient) (data : Bytes) (nowNs : ℕ) :
    (receiveRtpDatagram cfg st data nowNs).2 = none ∧ ∃ before after,
      (receiveRtpDatagram cfg st data nowNs).1 =
        match completedBy cfg st data nowNs with
        | none => { st with rtpFrameAssembly := after }
        | some frame => resetRtpState (bufferCompletedUdpFrame
            (onCompletedUdpFrame { st with rtpFrameAssembly := before } frame nowNs) frame) := by
  rw [receiveRtpDatagram, completedBy]
  cases readRtpPacket data with
  | none => exact ⟨rfl, {}, st.rtpFrameAssembly, rfl⟩
  | some packet =>
      simp only
      cases haccepts : acceptsPayloadType cfg packet.fields.payloadType with
      | false => exact ⟨rfl, {}, st.rtpFrameAssembly, rfl⟩
      | true =>
          cases hmarker : packet.fields.marker with
          | false => exact ⟨rfl, {}, assembleRtpPacket cfg st.rtpFrameAssembly packet, rfl⟩
          | true =>
              cases hready : (assembleRtpPacket cfg st.rtpFrameAssembly packet).ready with
              | false =>
                  simp only [finishRtpFrame, hready]
                  exact ⟨rfl, {}, {}, rfl⟩
              | true =>
                  simp only [finishRtpFrame, hready, hjitter]
                  exact ⟨rfl, assembleRtpPacket cfg st.rtpFrameAssembly packet, {}, rfl⟩

/-- What a datagram does to the buffer, when there is one: a completed frame enters it. -/
theorem receiveRtpDatagram_playout {cfg : ClientConfig} (hjitter : cfg.udpJitterBufferEnabled = true)
    (st : StreamClient) (data : Bytes) (nowNs : ℕ) :
    (receiveRtpDatagram cfg st data nowNs).2 = none ∧
      (receiveRtpDatagram cfg st data nowNs).1.playout =
        match completedBy cfg st data nowNs with
        | none => st.playout
        | some frame => bufferFrame st.playout frame := by
  obtain ⟨hnone, before, after, heffect⟩ := receiveRtpDatagram_effect hjitter st data nowNs
  refine ⟨hnone, ?_⟩
  rw [heffect]
  cases completedBy cfg st data nowNs with
  | none => rfl
  | some frame =>
      -- The assembly and the statistics are no part of the buffer.
      have hsame := StreamClient.playout_eq_of_core (onCompletedUdpFrame_core
        { st with rtpFrameAssembly := before } frame nowNs)
      show (bufferCompletedUdpFrame _ _).playout = bufferFrame st.playout _
      rw [bufferCompletedUdpFrame_playout]
      exact congrArg (bufferFrame · _) hsame

/-- A run of the receiver, with the frames it has completed. -/
structure RtpPlayback where
  receiver : RtpReceiveState
  completed : List ReceivedFrame := []

def RtpPlayback.start (cfg : ClientConfig) : RtpPlayback where
  receiver := RtpReceiveState.start cfg

/-- The frame that the event completes. -/
def completedAt (cfg : ClientConfig) (p : RtpPlayback) : RtpReceiveEvent → Option ReceivedFrame
  | .datagram data nowNs =>
      if data = [] then none else completedBy cfg p.receiver.client data nowNs
  | _ => none

def rtpPlaybackStep (cfg : ClientConfig) (p : RtpPlayback) (event : RtpReceiveEvent) :
    Option RtpPlayback :=
  (rtpReceiveStep cfg p.receiver event).map fun receiver =>
    { receiver := receiver, completed := p.completed ++ (completedAt cfg p event).toList }

/-- A frame only completes in turn. -/
def CompletesInTurn (cfg : ClientConfig) (p : RtpPlayback) (event : RtpReceiveEvent) : Prop :=
  ∀ frame, completedAt cfg p event = some frame → InTurn p.receiver.client.playout frame

/-- The completed frames are those that have been handed out and those that wait. -/
def PlaysInOrder (p : RtpPlayback) : Prop :=
  ∃ ahead behind, Waiting p.receiver.client.playout ahead behind ∧
    p.completed = p.receiver.delivered ++ (ahead ++ behind)

theorem tryPopReadyRtpFrame_outcome (cfg : ClientConfig) (st : StreamClient) (nowNs : ℕ) :
    PopOutcome st.playout (tryPopReadyRtpFrame cfg st nowNs).1.playout
      (tryPopReadyRtpFrame cfg st nowNs).2 := by
  rw [tryPopReadyRtpFrame]
  split
  · exact .kept
  · exact tryPopReadyUdpFrame_outcome cfg st nowNs

/-- A pop keeps the order. -/
theorem playsInOrder_pop {p : RtpPlayback} (cfg : ClientConfig) (nowNs : ℕ) (next : RtpReceivePoint)
    (h : PlaysInOrder p) : PlaysInOrder { p with
      receiver := p.receiver.returnOr next (tryPopReadyRtpFrame cfg p.receiver.client nowNs) } := by
  obtain ⟨ahead, behind, hwaiting, hcompleted⟩ := h
  have hclient := p.receiver.returnOr_client next (tryPopReadyRtpFrame cfg p.receiver.client nowNs)
  have hdelivered := p.receiver.returnOr_delivered next
    (tryPopReadyRtpFrame cfg p.receiver.client nowNs)
  obtain ⟨ahead', behind', hwaiting', hsplit⟩ :=
    hwaiting.pop (tryPopReadyRtpFrame_outcome cfg p.receiver.client nowNs)
  refine ⟨ahead', behind', ?_, ?_⟩
  · rw [hclient]
    exact hwaiting'
  · rw [hdelivered, hcompleted, hsplit, List.append_assoc]

/-- A datagram keeps the order if what it completes is in turn. -/
theorem playsInOrder_datagram {cfg : ClientConfig} (hjitter : cfg.udpJitterBufferEnabled = true)
    {p : RtpPlayback} {data : Bytes} {nowNs : ℕ} (next : RtpReceivePoint)
    (hturn : ∀ frame, completedBy cfg p.receiver.client data nowNs = some frame →
      InTurn p.receiver.client.playout frame)
    (h : PlaysInOrder p) : PlaysInOrder
      { receiver := p.receiver.returnOr next (receiveRtpDatagram cfg p.receiver.client data nowNs)
        completed := p.completed ++
          (completedBy cfg p.receiver.client data nowNs).toList } := by
  obtain ⟨ahead, behind, hwaiting, hcompleted⟩ := h
  have hclient := p.receiver.returnOr_client next
    (receiveRtpDatagram cfg p.receiver.client data nowNs)
  have hdelivered := p.receiver.returnOr_delivered next
    (receiveRtpDatagram cfg p.receiver.client data nowNs)
  obtain ⟨hnone, hplayout⟩ := receiveRtpDatagram_playout hjitter p.receiver.client data nowNs
  rw [hnone, Option.toList_none, List.append_nil] at hdelivered
  rw [PlaysInOrder, hclient, hdelivered, hplayout]
  cases hcompletes : completedBy cfg p.receiver.client data nowNs with
  | none => exact ⟨ahead, behind, hwaiting, by simpa using hcompleted⟩
  | some frame =>
      let entry : BufferedUdpFrame :=
        { frame := frame, bufferedTimestampNs := frame.receiveTimestampNs }
      obtain ⟨hnew, ahead', behind', hwaiting', hsplit⟩ := hwaiting.complete
        (hturn frame hcompletes) (completedBy_key_lt hcompletes) (show entry.frame = frame from rfl)
      refine ⟨ahead', behind', ?_, ?_⟩
      · show Waiting (bufferFrame _ frame) ahead' behind'
        rw [bufferFrame, if_neg hnew]
        exact hwaiting'
      · show p.completed ++ [frame] = _
        rw [hcompleted, hsplit, List.append_assoc]

/-- Only a datagram completes a frame. -/
theorem completedAt_of_nothing {event : RtpReceiveEvent} (h : event.received = [])
    (cfg : ClientConfig) (p : RtpPlayback) : completedAt cfg p event = none := by
  cases event with
  | datagram data nowNs => exact if_pos h
  | _ => rfl

theorem playsInOrder_step {cfg : ClientConfig} (hjitter : cfg.udpJitterBufferEnabled = true)
    {p p' : RtpPlayback} {event : RtpReceiveEvent} (hturn : CompletesInTurn cfg p event)
    (h : PlaysInOrder p) (hstep : rtpPlaybackStep cfg p event = some p') : PlaysInOrder p' := by
  rw [rtpPlaybackStep, Option.map_eq_some_iff] at hstep
  obtain ⟨receiver, hreceiver, rfl⟩ := hstep
  cases rtpReceiveStep_effect hreceiver with
  | moved _ point hnothing =>
      rw [completedAt_of_nothing hnothing, Option.toList_none, List.append_nil]
      exact h
  | popped _ point nowNs hnothing =>
      rw [completedAt_of_nothing hnothing, Option.toList_none, List.append_nil]
      exact playsInOrder_pop cfg nowNs point h
  | taken data nowNs hdata =>
      simp only [CompletesInTurn, completedAt, if_neg hdata] at hturn ⊢
      exact playsInOrder_datagram hjitter .loopTop hturn h

/-- With the jitter buffer, in every run in which the frames complete in turn, those that
are handed out are the first of those that completed, in the same order. -/
theorem runRtpPlayback_prefix {cfg : ClientConfig} (hjitter : cfg.udpJitterBufferEnabled = true)
    {events : List RtpReceiveEvent} {p : RtpPlayback}
    (hturn : StepsMeet (rtpPlaybackStep cfg) (CompletesInTurn cfg) (RtpPlayback.start cfg) events)
    (hrun : runSteps (rtpPlaybackStep cfg) (RtpPlayback.start cfg) events = some p) :
    p.receiver.delivered <+: p.completed := by
  have hstart : PlaysInOrder (RtpPlayback.start cfg) := by
    refine ⟨[], [], Waiting.start ?_ ?_, rfl⟩
    · rfl
    · rfl
  obtain ⟨ahead, behind, -, hcompleted⟩ := runSteps_invariant_of_meet (rtpPlaybackStep cfg)
    (fun _ _ _ => playsInOrder_step hjitter) hturn hstart hrun
  exact ⟨ahead ++ behind, hcompleted.symm⟩

/-! #### A wrap of the timestamp -/

/-- A packet with this timestamp that is a frame of its own. -/
def framePacket (timestamp : ℕ) : Bytes :=
  [0x80, 0xE0, 0, 1] ++ writeBe 4 timestamp ++ [0, 0, 0, 1, 0x65, 7]

def playoutConfig : ClientConfig :=
  { transport := .rtp, expectMetadata := false, udpJitterBufferStrategy := .fixed }

instance (s : PlayoutState) (frame : ReceivedFrame) : Decidable (InTurn s frame) :=
  decidable_of_iff
    ((∀ k ∈ s.udpJitterBuffer.keys, k < key frame ∧
        (s.hasNextJitterBufferSequence = true → s.nextJitterBufferSequence ≤ k)) ∨
      s.hasNextJitterBufferSequence = true ∧ key frame < s.nextJitterBufferSequence ∧
        (∀ k ∈ s.udpJitterBuffer.keys, k < s.nextJitterBufferSequence → k < key frame) ∧
        s.udpJitterBuffer.keys.filter (s.nextJitterBufferSequence ≤ ·) =
          List.range' s.nextJitterBufferSequence
            (s.udpJitterBuffer.keys.filter (s.nextJitterBufferSequence ≤ ·)).length)
    (by rw [InTurn, OrdMap.forall_keys_iff, OrdMap.forall_keys_iff, OrdMap.keys_consecutive_iff])

instance (cfg : ClientConfig) (p : RtpPlayback) (event : RtpReceiveEvent) :
    Decidable (CompletesInTurn cfg p event) :=
  inferInstanceAs (Decidable (∀ frame ∈ completedAt cfg p event,
    InTurn p.receiver.client.playout frame))

/-- Three frames with the last timestamps before the wrap. The first one has been taken when two
more complete behind it, with the timestamps 0 and 1. -/
def inTurnRun : List RtpReceiveEvent :=
  [.call, .proceed 1000000, .datagram (framePacket 4294967293) 1000000,
    .proceed 5000000, .datagram (framePacket 4294967294) 5000000,
    .proceed 6000000, .datagram (framePacket 4294967295) 6000000,
    .proceed 10000000, .call, .proceed 11000000, .datagram (framePacket 0) 11000000,
    .proceed 12000000, .datagram (framePacket 1) 12000000,
    .proceed 20000000, .call, .proceed 20000000, .call, .proceed 100000000]

theorem inTurnRun_prefix : ∃ p,
    runSteps (rtpPlaybackStep playoutConfig) (RtpPlayback.start playoutConfig) inTurnRun =
        some p ∧
      p.completed.map key = [4294967293, 4294967294, 4294967295, 0, 1] ∧
      p.receiver.delivered.map key = [4294967293, 4294967294, 4294967295, 0] ∧
      p.receiver.delivered <+: p.completed := by
  have hturn : StepsMeet (rtpPlaybackStep playoutConfig) (CompletesInTurn playoutConfig)
      (RtpPlayback.start playoutConfig) inTurnRun := by decide +kernel
  have hkeys : (runSteps (rtpPlaybackStep playoutConfig) (RtpPlayback.start playoutConfig)
      inTurnRun).map (fun p => (p.completed.map key, p.receiver.delivered.map key)) =
        some ([4294967293, 4294967294, 4294967295, 0, 1],
          [4294967293, 4294967294, 4294967295, 0]) := by decide +kernel
  rw [Option.map_eq_some_iff] at hkeys
  obtain ⟨p, hp, hkeys⟩ := hkeys
  obtain ⟨hcompleted, hdelivered⟩ := Prod.mk.inj hkeys
  exact ⟨p, hp, hcompleted, hdelivered, runRtpPlayback_prefix rfl hturn hp⟩

/-- Three frames, 3000 ticks apart, while the first one still waits; the timestamp of the
third has wrapped around to zero. -/
def wrapRun : List RtpReceiveEvent :=
  [.call, .proceed 1000000, .datagram (framePacket 4294961296) 1000000,
    .proceed 2000000, .datagram (framePacket 4294964296) 2000000,
    .proceed 3000000, .datagram (framePacket 0) 3000000,
    .proceed 20000000, .call, .proceed 100000000]

/-- The frame after the wrap is handed out before the second one. -/
theorem wrapRun_out_of_order : ∃ p,
    runSteps (rtpPlaybackStep playoutConfig) (RtpPlayback.start playoutConfig) wrapRun = some p ∧
      p.completed.map key = [4294961296, 4294964296, 0] ∧
      p.receiver.delivered.map key = [4294961296, 0] ∧
      ¬ p.receiver.delivered <+: p.completed := by
  have hkeys : (runSteps (rtpPlaybackStep playoutConfig) (RtpPlayback.start playoutConfig)
      wrapRun).map (fun p => (p.completed.map key, p.receiver.delivered.map key)) =
        some ([4294961296, 4294964296, 0], [4294961296, 0]) := by decide +kernel
  rw [Option.map_eq_some_iff] at hkeys
  obtain ⟨p, hp, hkeys⟩ := hkeys
  obtain ⟨hcompleted, hdelivered⟩ := Prod.mk.inj hkeys
  refine ⟨p, hp, hcompleted, hdelivered, fun hprefix => ?_⟩
  have hmap := hprefix.map key
  rw [hcompleted, hdelivered] at hmap
  revert hmap
  decide

end AvProject.Rtp
