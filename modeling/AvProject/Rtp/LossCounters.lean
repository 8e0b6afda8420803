import AvProject.Client.PlayoutLedger
import AvProject.Rtp.Playout

/-!
What the receiver of an RTP stream counts as lost. It compares the numbers of frames as if
they were counted one by one, but an RTP frame bears its timestamp as its number: nothing is
counted exactly as long as every timestamp is one more than the one before.
-/

namespace AvProject.Rtp

open AvProject.Lib AvProject.Protocol AvProject.Client

/-! ### The order of completion -/

/-- The count of frames out of order, and the number that the next one is compared with. -/
structure CompletionOrder where
  reorderedFrames : ℕ
  lastCompletedFrameSequence : ℕ
  hasLastCompletedFrameSequence : Bool

def completionOrder (st : StreamClient) : CompletionOrder where
  reorderedFrames := st.udpReceiveStats.reorderedFrames
  lastCompletedFrameSequence := st.lastCompletedFrameSequence
  hasLastCompletedFrameSequence := st.hasLastCompletedFrameSequence

/-- A frame with this number completes. -/
def CompletionOrder.complete (o : CompletionOrder) (sequence : ℕ) : CompletionOrder where
  reorderedFrames := o.reorderedFrames +
    if o.hasLastCompletedFrameSequence = true ∧
      sequence ≠ (o.lastCompletedFrameSequence + 1) % 2 ^ 64 then 1 else 0
  lastCompletedFrameSequence := sequence
  hasLastCompletedFrameSequence := true

theorem CompletionOrder.complete_reorderedFrames {o : CompletionOrder} {sequence : ℕ}
    (h : o.hasLastCompletedFrameSequence = true →
      sequence = (o.lastCompletedFrameSequence + 1) % 2 ^ 64) :
    (o.complete sequence).reorderedFrames = o.reorderedFrames := by
  rw [complete, if_neg (fun hother => hother.2 (h hother.1))]
  rfl

section

variable (cfg : ClientConfig) (st : StreamClient) (nowNs : ℕ)

theorem onCompletedUdpFrame_completionOrder (frame : ReceivedFrame) :
    completionOrder (onCompletedUdpFrame st frame nowNs) =
      (completionOrder st).complete (key frame) := by
  simp only [onCompletedUdpFrame]
  split
  · rfl
  · split <;> rfl

theorem bufferCompletedUdpFrame_completionOrder (frame : ReceivedFrame) :
    completionOrder (bufferCompletedUdpFrame st frame) = completionOrder st := by
  rw [bufferCompletedUdpFrame]
  split <;> rfl

theorem emitExpectedUdpFrame_completionOrder (targetDelayNs : ℕ) (expected : BufferedUdpFrame) :
    completionOrder (emitExpectedUdpFrame cfg st nowNs targetDelayNs expected).1 =
      completionOrder st := by
  simp only [emitExpectedUdpFrame]
  split <;> rfl

/-- A pop completes nothing. -/
theorem tryPopReadyUdpFrame_completionOrder :
    completionOrder (tryPopReadyUdpFrame cfg st nowNs).1 = completionOrder st := by
  have htarget (st : StreamClient) :
      completionOrder (currentJitterBufferTargetDelayNs cfg st).2 = completionOrder st := by
    rw [currentJitterBufferTargetDelayNs]
    cases cfg.udpJitterBufferStrategy <;> rfl
  have hanchor (st : StreamClient) (oldest : ℕ) :
      completionOrder (anchorJitterBuffer st oldest) = completionOrder st := by
    rw [anchorJitterBuffer]
    split <;> rfl
  exact tryPopReadyUdpFrame_kept htarget hanchor (fun _ _ => rfl)
    (fun st => emitExpectedUdpFrame_completionOrder cfg st nowNs) st

theorem tryPopReadyRtpFrame_completionOrder :
    completionOrder (tryPopReadyRtpFrame cfg st nowNs).1 = completionOrder st := by
  rw [tryPopReadyRtpFrame]
  split
  · rfl
  · exact tryPopReadyUdpFrame_completionOrder cfg st nowNs

theorem tryPopReadyRtpFrame_ledger :
    LedgerPop st.ledger (tryPopReadyRtpFrame cfg st nowNs).1.ledger
      (tryPopReadyRtpFrame cfg st nowNs).2 := by
  rw [tryPopReadyRtpFrame]
  split
  · exact .kept
  · exact tryPopReadyUdpFrame_ledger cfg st nowNs

end

theorem bufferCompletedUdpFrame_skippedFrames (st : StreamClient) (frame : ReceivedFrame) :
    (bufferCompletedUdpFrame st frame).ledger.skippedFrames = st.ledger.skippedFrames := by
  rw [bufferCompletedUdpFrame]
  split <;> rfl

/-- With the jitter buffer, a datagram counts by the frame that it completes, and skips none. -/
theorem receiveRtpDatagram_counts {cfg : ClientConfig} (hjitter : cfg.udpJitterBufferEnabled = true)
    (st : StreamClient) (data : Bytes) (nowNs : ℕ) :
    (receiveRtpDatagram cfg st data nowNs).1.ledger.skippedFrames = st.ledger.skippedFrames ∧
      completionOrder (receiveRtpDatagram cfg st data nowNs).1 =
        match completedBy cfg st data nowNs with
        | none => completionOrder st
        | some frame => (completionOrder st).complete (key frame) := by
  obtain ⟨-, before, after, heffect⟩ := receiveRtpDatagram_effect hjitter st data nowNs
  rw [heffect]
  cases completedBy cfg st data nowNs with
  | none => exact ⟨rfl, rfl⟩
  | some frame =>
      constructor
      · show (bufferCompletedUdpFrame (onCompletedUdpFrame _ frame nowNs)
          frame).ledger.skippedFrames = _
        rw [bufferCompletedUdpFrame_skippedFrames, onCompletedUdpFrame_ledger]
        rfl
      · show completionOrder (bufferCompletedUdpFrame
          (onCompletedUdpFrame _ frame nowNs) frame) = _
        rw [bufferCompletedUdpFrame_completionOrder, onCompletedUdpFrame_completionOrder]
        rfl

/-! ### The buffer -/

/-- The buffer holds the numbers from its cursor, where it has one, up to `bound`. -/
def HoldsUpTo (s : PlayoutState) (bound : ℕ) : Prop :=
  ∃ first ≤ bound, (∀ k : ℕ, s.udpJitterBuffer[k]?.isSome = true ↔ first ≤ k ∧ k < bound) ∧
    (s.hasNextJitterBufferSequence = true → s.nextJitterBufferSequence = first ∧ first < bound)

namespace HoldsUpTo

variable {s : PlayoutState} {bound : ℕ}

/-- Nothing is held, so that it does not matter which number comes next. -/
theorem of_zero (h : HoldsUpTo s 0) (bound : ℕ) : HoldsUpTo s bound := by
  obtain ⟨first, -, hheld, hcursor⟩ := h
  refine ⟨bound, Nat.le_refl bound, fun k => ?_, fun hhas => ?_⟩
  · rw [hheld]
    omega
  · exact absurd (hcursor hhas).2 (Nat.not_lt_zero first)

/-- The first of the frames leaves. -/
theorem emit {first : ℕ} (hbound : bound ≤ 2 ^ 32) (hfirst : first < bound)
    (hheld : ∀ k : ℕ, s.udpJitterBuffer[k]?.isSome = true ↔ first ≤ k ∧ k < bound) :
    HoldsUpTo (s.emit first) bound := by
  have hleft (k : ℕ) :
      (s.udpJitterBuffer.erase first)[k]?.isSome = true ↔ first + 1 ≤ k ∧ k < bound := by
    rw [OrdMap.getElem?_erase]
    split
    · rename_i heq
      rw [← heq]
      simp
    · rename_i hne
      rw [hheld]
      omega
  refine ⟨first + 1, hfirst, hleft, fun hhas => ⟨?_, ?_⟩⟩
  · exact Nat.mod_eq_of_lt (by omega)
  · -- A cursor is kept only where something is left.
    have hsome : (!(s.udpJitterBuffer.erase first).isEmpty) = true := hhas
    rw [Bool.not_eq_true', ← Bool.not_eq_true, Std.ExtTreeMap.isEmpty_iff] at hsome
    by_contra hnone
    apply hsome
    apply OrdMap.ext
    intro k
    rw [Std.ExtTreeMap.getElem?_empty, ← Option.not_isSome_iff_eq_none, hleft]
    omega

/-- A pop skips nothing. -/
theorem pop {l l' : PlayoutLedger} {popped : Option ReceivedFrame} (h : HoldsUpTo l.playout bound)
    (hbound : bound ≤ 2 ^ 32) (hpop : LedgerPop l l' popped) :
    HoldsUpTo l'.playout bound ∧ l'.skippedFrames = l.skippedFrames := by
  have hkept := h
  obtain ⟨first, hle, hheld, hcursor⟩ := h
  have hoccupied {k : ℕ} {b : BufferedUdpFrame} (hb : l.playout.udpJitterBuffer[k]? = some b) :
      first ≤ k ∧ k < bound := (hheld k).mp (by rw [hb]; rfl)
  have hfront {k : ℕ} {b : BufferedUdpFrame}
      (hfront : OrdMap.front? l.playout.udpJitterBuffer = some (k, b)) : k = first := by
    obtain ⟨hb, hsmallest⟩ := OrdMap.front?_eq_some hfront
    obtain ⟨hge, hlt⟩ := hoccupied hb
    obtain ⟨b', hb'⟩ := Option.isSome_iff_exists.mp
      ((hheld first).mpr ⟨Nat.le_refl first, Nat.lt_of_le_of_lt hge hlt⟩)
    exact Nat.le_antisymm (hsmallest first b' hb') hge
  cases hpop with
  | kept => exact ⟨hkept, rfl⟩
  | anchored oldest b hoffered hhas =>
      obtain rfl := hfront hoffered
      exact ⟨⟨oldest, hle, hheld, fun _ =>
        ⟨rfl, (hoccupied (OrdMap.front?_eq_some hoffered).1).2⟩⟩, rfl⟩
  | expected b hhas hb =>
      obtain ⟨hnext, hlt⟩ := hcursor hhas
      refine ⟨?_, rfl⟩
      show HoldsUpTo (l.playout.emit l.playout.nextJitterBufferSequence) bound
      rw [hnext]
      exact emit hbound hlt hheld
  | first sequence b hoffered hhas =>
      obtain rfl := hfront hoffered
      exact ⟨emit hbound (hoccupied (OrdMap.front?_eq_some hoffered).1).2 hheld, rfl⟩
  | skipped sequence b hoffered hhas hmissing =>
      obtain ⟨hnext, hlt⟩ := hcursor hhas
      have hpresent := (hheld first).mpr ⟨Nat.le_refl first, hlt⟩
      rw [← hnext, hmissing] at hpresent
      cases hpresent

/-- The frame that comes next enters the buffer. -/
theorem complete (h : HoldsUpTo s bound) {frame : ReceivedFrame} (hkey : key frame = bound) :
    HoldsUpTo (bufferFrame s frame) (bound + 1) := by
  obtain ⟨first, hle, hheld, hcursor⟩ := h
  have hnew : key frame ∉ s.udpJitterBuffer := by
    rw [Std.ExtTreeMap.mem_iff_isSome_getElem?, hheld, hkey]
    omega
  rw [bufferFrame, if_neg hnew]
  refine ⟨first, Nat.le_succ_of_le hle, fun k => ?_, fun hhas => ?_⟩
  · show (s.udpJitterBuffer.insert (key frame) _)[k]?.isSome = true ↔ _
    rw [OrdMap.getElem?_insert, hkey]
    split
    · rename_i heq
      simp only [Option.isSome_some, true_iff]
      omega
    · rename_i hne
      rw [hheld]
      omega
  · obtain ⟨hnext, hlt⟩ := hcursor hhas
    exact ⟨hnext, Nat.lt_succ_of_lt hlt⟩

end HoldsUpTo

/-! ### The counters -/

/-- Every timestamp of a completed frame is one more than that of the frame before. -/
def CompletesNext (cfg : ClientConfig) (s : RtpReceiveState) (event : RtpReceiveEvent) : Prop :=
  ∀ frame, completedAt cfg { receiver := s } event = some frame →
    s.client.hasLastCompletedFrameSequence = true →
      key frame = s.client.lastCompletedFrameSequence + 1

/-- The number after that of the last completed frame. -/
def nextSequence (st : StreamClient) : ℕ :=
  if st.hasLastCompletedFrameSequence then st.lastCompletedFrameSequence + 1 else 0

/-- No frame has been counted as lost or out of order, and none will be if the next one bears
the next number. -/
structure CountsNoLoss (st : StreamClient) : Prop where
  reordered : st.udpReceiveStats.reorderedFrames = 0
  skipped : st.udpReceiveStats.jitterBufferSkippedFrames = 0
  bounded : nextSequence st ≤ 2 ^ 32
  held : HoldsUpTo st.playout (nextSequence st)

namespace CountsNoLoss

variable {cfg : ClientConfig} {st : StreamClient}

theorem start (cfg : ClientConfig) : CountsNoLoss (StreamClient.connected cfg) where
  reordered := rfl
  skipped := rfl
  bounded := Nat.zero_le _
  held := by
    refine ⟨0, Nat.le_refl 0, fun k => ?_, fun hhas => by cases hhas⟩
    show (∅ : OrdMap BufferedUdpFrame)[k]?.isSome = true ↔ 0 ≤ k ∧ k < 0
    simp

theorem pop (h : CountsNoLoss st) (cfg : ClientConfig) (nowNs : ℕ) :
    CountsNoLoss (tryPopReadyRtpFrame cfg st nowNs).1 := by
  have horder := tryPopReadyRtpFrame_completionOrder cfg st nowNs
  obtain ⟨hheld, hskipped⟩ := h.held.pop h.bounded (tryPopReadyRtpFrame_ledger cfg st nowNs)
  simp only [completionOrder, CompletionOrder.mk.injEq] at horder
  obtain ⟨hreordered, hlast, hhas⟩ := horder
  have hnext : nextSequence (tryPopReadyRtpFrame cfg st nowNs).1 = nextSequence st := by
    rw [nextSequence, nextSequence, hlast, hhas]
  constructor
  case reordered => rw [hreordered, h.reordered]
  case skipped => exact hskipped.trans h.skipped
  case bounded => rw [hnext]; exact h.bounded
  case held => rw [hnext]; exact hheld

theorem datagram (h : CountsNoLoss st) (hjitter : cfg.udpJitterBufferEnabled = true)
    {data : Bytes} {nowNs : ℕ}
    (hcompletes : ∀ frame, completedBy cfg st data nowNs = some frame →
      st.hasLastCompletedFrameSequence = true →
        key frame = st.lastCompletedFrameSequence + 1) :
    CountsNoLoss (receiveRtpDatagram cfg st data nowNs).1 := by
  obtain ⟨hskipped, horder⟩ := receiveRtpDatagram_counts hjitter st data nowNs
  have hplayout := (receiveRtpDatagram_playout hjitter st data nowNs).2
  cases hframe : completedBy cfg st data nowNs with
  | none =>
      rw [hframe] at horder hplayout
      simp only [completionOrder, CompletionOrder.mk.injEq] at horder
      obtain ⟨hreordered, hlast, hhas⟩ := horder
      have hnext : nextSequence (receiveRtpDatagram cfg st data nowNs).1 = nextSequence st := by
        rw [nextSequence, nextSequence, hlast, hhas]
      constructor
      case reordered => rw [hreordered, h.reordered]
      case skipped => exact hskipped.trans h.skipped
      case bounded => rw [hnext]; exact h.bounded
      case held => rw [hnext, hplayout]; exact h.held
  | some frame =>
      have hfollows := hcompletes frame hframe
      have hlt := completedBy_key_lt hframe
      rw [hframe] at horder hplayout
      have hlast : (receiveRtpDatagram cfg st data nowNs).1.lastCompletedFrameSequence =
          key frame :=
        congrArg CompletionOrder.lastCompletedFrameSequence horder
      have hhas : (receiveRtpDatagram cfg st data nowNs).1.hasLastCompletedFrameSequence = true :=
        congrArg CompletionOrder.hasLastCompletedFrameSequence horder
      have hreordered := congrArg CompletionOrder.reorderedFrames horder
      have hnext : nextSequence (receiveRtpDatagram cfg st data nowNs).1 = key frame + 1 := by
        rw [nextSequence, hlast, hhas, if_pos rfl]
      constructor
      case reordered =>
        refine hreordered.trans ((CompletionOrder.complete_reorderedFrames fun hany => ?_).trans
          h.reordered)
        have hkey : key frame = st.lastCompletedFrameSequence + 1 := hfollows hany
        rw [hkey]
        exact (Nat.mod_eq_of_lt (by omega)).symm
      case skipped => exact hskipped.trans h.skipped
      case bounded => rw [hnext]; exact hlt
      case held =>
        rw [hnext, hplayout]
        have hheld : HoldsUpTo st.playout (key frame) := by
          have hheld := h.held
          rw [nextSequence] at hheld
          split at hheld
          · rename_i hany
            rw [hfollows hany]
            exact hheld
          · exact hheld.of_zero (key frame)
        exact hheld.complete rfl

end CountsNoLoss

/-- Another number is counted as a frame out of order. -/
theorem receiveRtpDatagram_reordered {cfg : ClientConfig}
    (hjitter : cfg.udpJitterBufferEnabled = true) {st : StreamClient} {data : Bytes} {nowNs : ℕ}
    {frame : ReceivedFrame} (hbound : nextSequence st ≤ 2 ^ 32)
    (hframe : completedBy cfg st data nowNs = some frame)
    (hany : st.hasLastCompletedFrameSequence = true)
    (hother : key frame ≠ st.lastCompletedFrameSequence + 1) :
    (receiveRtpDatagram cfg st data nowNs).1.udpReceiveStats.reorderedFrames ≠ 0 := by
  have horder := (receiveRtpDatagram_counts hjitter st data nowNs).2
  rw [hframe] at horder
  have hcounted := congrArg CompletionOrder.reorderedFrames horder
  rw [nextSequence, if_pos hany] at hbound
  have hmod : (st.lastCompletedFrameSequence + 1) % 2 ^ 64 = st.lastCompletedFrameSequence + 1 :=
    Nat.mod_eq_of_lt (by omega)
  simp only [CompletionOrder.complete, completionOrder, hany, hmod, hother, ne_eq,
    not_false_eq_true, and_self, if_true] at hcounted
  rw [hcounted]
  exact Nat.succ_ne_zero _

/-- The count of frames out of order never goes down. -/
theorem receiveRtpDatagram_reordered_mono {cfg : ClientConfig}
    (hjitter : cfg.udpJitterBufferEnabled = true) (st : StreamClient) (data : Bytes)
    (nowNs : ℕ) :
    st.udpReceiveStats.reorderedFrames ≤
      (receiveRtpDatagram cfg st data nowNs).1.udpReceiveStats.reorderedFrames := by
  have horder := (receiveRtpDatagram_counts hjitter st data nowNs).2
  have hcounted := congrArg CompletionOrder.reorderedFrames horder
  show _ ≤ (completionOrder (receiveRtpDatagram cfg st data nowNs).1).reorderedFrames
  rw [hcounted]
  cases completedBy cfg st data nowNs with
  | none => exact Nat.le_refl _
  | some frame => exact Nat.le_add_right _ _

/-! ### The loop -/

section

variable {cfg : ClientConfig} {s s' : RtpReceiveState} {event : RtpReceiveEvent}

/-- With the jitter buffer, what a step does to the client. -/
inductive ClientMove (cfg : ClientConfig) (s : RtpReceiveState) :
    RtpReceiveEvent → StreamClient → Prop
  | kept (event : RtpReceiveEvent) (hnone : completedAt cfg { receiver := s } event = none) :
      ClientMove cfg s event s.client
  | pop (event : RtpReceiveEvent) (nowNs : ℕ)
      (hnone : completedAt cfg { receiver := s } event = none) :
      ClientMove cfg s event (tryPopReadyRtpFrame cfg s.client nowNs).1
  | datagram (data : Bytes) (nowNs : ℕ) (hdata : data ≠ []) :
      ClientMove cfg s (.datagram data nowNs) (receiveRtpDatagram cfg s.client data nowNs).1

theorem rtpReceiveStep_move (hstep : rtpReceiveStep cfg s event = some s') :
    ClientMove cfg s event s'.client := by
  cases rtpReceiveStep_effect hstep with
  | moved _ _ hnothing => exact .kept event (completedAt_of_nothing hnothing cfg _)
  | popped _ point nowNs hnothing =>
      rw [RtpReceiveState.returnOr_client]
      exact .pop event nowNs (completedAt_of_nothing hnothing cfg _)
  | taken data nowNs hdata =>
      rw [RtpReceiveState.returnOr_client]
      exact .datagram data nowNs hdata

theorem countsNoLoss_step (hjitter : cfg.udpJitterBufferEnabled = true)
    (hnext : CompletesNext cfg s event) (h : CountsNoLoss s.client)
    (hstep : rtpReceiveStep cfg s event = some s') : CountsNoLoss s'.client := by
  have hmove := rtpReceiveStep_move hstep
  generalize s'.client = client at hmove
  cases hmove with
  | kept event hnone => exact h
  | pop event nowNs hnone => exact h.pop cfg nowNs
  | datagram data nowNs hdata =>
      simp only [CompletesNext, completedAt, if_neg hdata] at hnext
      exact h.datagram hjitter hnext

theorem reordered_step (hjitter : cfg.udpJitterBufferEnabled = true)
    (hnext : ¬CompletesNext cfg s event) (h : CountsNoLoss s.client)
    (hstep : rtpReceiveStep cfg s event = some s') :
    s'.client.udpReceiveStats.reorderedFrames ≠ 0 := by
  simp only [CompletesNext, not_forall] at hnext
  obtain ⟨frame, hframe, hany, hother⟩ := hnext
  have hmove := rtpReceiveStep_move hstep
  generalize s'.client = client at hmove
  cases hmove with
  | kept event hnone =>
      rw [hnone] at hframe
      cases hframe
  | pop event nowNs hnone =>
      rw [hnone] at hframe
      cases hframe
  | datagram data nowNs hdata =>
      simp only [completedAt, if_neg hdata] at hframe
      exact receiveRtpDatagram_reordered hjitter h.bounded hframe hany hother

theorem reordered_mono_step (hjitter : cfg.udpJitterBufferEnabled = true)
    (h : s.client.udpReceiveStats.reorderedFrames ≠ 0)
    (hstep : rtpReceiveStep cfg s event = some s') :
    s'.client.udpReceiveStats.reorderedFrames ≠ 0 := by
  have hmove := rtpReceiveStep_move hstep
  generalize s'.client = client at hmove
  cases hmove with
  | kept event hnone => exact h
  | pop event nowNs hnone =>
      have hsame : (tryPopReadyRtpFrame cfg s.client nowNs).1.udpReceiveStats.reorderedFrames =
          s.client.udpReceiveStats.reorderedFrames := congrArg CompletionOrder.reorderedFrames
        (tryPopReadyRtpFrame_completionOrder cfg s.client nowNs)
      rw [hsame]
      exact h
  | datagram data nowNs hdata =>
      have hmono := receiveRtpDatagram_reordered_mono hjitter s.client data nowNs
      exact Nat.ne_of_gt (Nat.lt_of_lt_of_le (Nat.pos_of_ne_zero h) hmono)

end

/-- With the jitter buffer, a run counts no frame as skipped or out of order exactly if the
timestamp of every completed frame is one more than that of the frame before. -/
theorem runRtpReceive_countsNoLoss_iff {cfg : ClientConfig}
    (hjitter : cfg.udpJitterBufferEnabled = true) {events : List RtpReceiveEvent}
    {s : RtpReceiveState}
    (hrun : runSteps (rtpReceiveStep cfg) (RtpReceiveState.start cfg) events = some s) :
    (s.client.udpReceiveStats.reorderedFrames = 0 ∧
        s.client.udpReceiveStats.jitterBufferSkippedFrames = 0) ↔
      StepsMeet (rtpReceiveStep cfg) (CompletesNext cfg) (RtpReceiveState.start cfg) events := by
  have hgood (s : RtpReceiveState) (event : RtpReceiveEvent) (t : RtpReceiveState)
      (hnext : CompletesNext cfg s event) (h : CountsNoLoss s.client)
      (hstep : rtpReceiveStep cfg s event = some t) : CountsNoLoss t.client :=
    countsNoLoss_step hjitter hnext h hstep
  have hbad (s : RtpReceiveState) (event : RtpReceiveEvent) (t : RtpReceiveState)
      (hnext : ¬CompletesNext cfg s event) (h : CountsNoLoss s.client)
      (hstep : rtpReceiveStep cfg s event = some t) :
      t.client.udpReceiveStats.reorderedFrames ≠ 0 := reordered_step hjitter hnext h hstep
  have hstuck (s : RtpReceiveState) (event : RtpReceiveEvent) (t : RtpReceiveState)
      (h : s.client.udpReceiveStats.reorderedFrames ≠ 0)
      (hstep : rtpReceiveStep cfg s event = some t) :
      t.client.udpReceiveStats.reorderedFrames ≠ 0 := reordered_mono_step hjitter h hstep
  rcases runSteps_good_iff (rtpReceiveStep cfg) hgood hbad hstuck (CountsNoLoss.start cfg) hrun
    with ⟨hmeet, hcounts⟩ | ⟨hmeet, hcounts⟩
  · exact iff_of_true ⟨hcounts.reordered, hcounts.skipped⟩ hmeet
  · exact iff_of_false (fun h => hcounts h.1) hmeet

/-! #### Two frames of a stream -/

/-- A packet that is a frame of its own. -/
def streamPacket (sequence timestamp : ℕ) : Bytes :=
  [0x80, 0xE0] ++ writeBe 2 sequence ++ writeBe 4 timestamp ++ [0, 0, 0, 1, 0x65, 7]

/-- Two frames with these timestamps, the second of which comes while the first one waits. -/
def twoFrameRun (first second : ℕ) : List RtpReceiveEvent :=
  [.call, .proceed 1000000, .datagram (streamPacket 1 first) 1000000,
    .proceed 2000000, .datagram (streamPacket 2 second) 2000000,
    .proceed 20000000, .call, .proceed 100000000]

/-- Timestamps that go up by one. -/
theorem twoFrameRun_completesNext : ∃ s,
    runSteps (rtpReceiveStep playoutConfig) (RtpReceiveState.start playoutConfig)
      (twoFrameRun 5 6) = some s ∧
      StepsMeet (rtpReceiveStep playoutConfig) (CompletesNext playoutConfig)
        (RtpReceiveState.start playoutConfig) (twoFrameRun 5 6) := by
  have hcounts : (runSteps (rtpReceiveStep playoutConfig) (RtpReceiveState.start playoutConfig)
      (twoFrameRun 5 6)).any (fun s => decide (s.client.udpReceiveStats.reorderedFrames = 0 ∧
        s.client.udpReceiveStats.jitterBufferSkippedFrames = 0)) = true := by decide +kernel
  obtain ⟨s, hs, hnone⟩ := (Option.any_eq_true _ _).mp hcounts
  exact ⟨s, hs, (runRtpReceive_countsNoLoss_iff rfl hs).mp (of_decide_eq_true hnone)⟩

/-- Two frames in order, 3000 ticks apart as at 30 frames a second: both are handed out, and
2999 are counted as skipped and one as out of order. -/
theorem twoFrameRun_counts_loss : ∃ s,
    runSteps (rtpReceiveStep playoutConfig) (RtpReceiveState.start playoutConfig)
      (twoFrameRun 3000 6000) = some s ∧
      s.delivered.map key = [3000, 6000] ∧
      s.client.udpReceiveStats.reorderedFrames = 1 ∧
      s.client.udpReceiveStats.jitterBufferSkippedFrames = 2999 := by
  have hcounts : (runSteps (rtpReceiveStep playoutConfig) (RtpReceiveState.start playoutConfig)
      (twoFrameRun 3000 6000)).any (fun s => decide (s.delivered.map key = [3000, 6000] ∧
        s.client.udpReceiveStats.reorderedFrames = 1 ∧
        s.client.udpReceiveStats.jitterBufferSkippedFrames = 2999)) = true := by decide +kernel
  obtain ⟨s, hs, hseen⟩ := (Option.any_eq_true _ _).mp hcounts
  exact ⟨s, hs, of_decide_eq_true hseen⟩

end AvProject.Rtp
