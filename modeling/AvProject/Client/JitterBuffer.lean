import AvProject.Client.UdpInvariant

/-!
The jitter buffer: what one call of `tryPopReadyUdpFrame` or
`bufferCompletedUdpFrame` does to the buffer and to its cursor.
-/

namespace AvProject.Client

open AvProject.Lib AvProject.Protocol

/-- The buffer and its cursor. -/
structure PlayoutState where
  udpJitterBuffer : OrdMap BufferedUdpFrame
  nextJitterBufferSequence : ℕ
  hasNextJitterBufferSequence : Bool

def StreamClient.playout (st : StreamClient) : PlayoutState where
  udpJitterBuffer := st.udpJitterBuffer
  nextJitterBufferSequence := st.nextJitterBufferSequence
  hasNextJitterBufferSequence := st.hasNextJitterBufferSequence

theorem StreamClient.playout_eq_of_core {st st' : StreamClient} (h : st'.core = st.core) :
    st'.playout = st.playout := by
  simp only [StreamClient.core, ReceiverCore.mk.injEq] at h
  obtain ⟨-, hbuffer, hnext, hhas, -⟩ := h
  rw [StreamClient.playout, StreamClient.playout, hbuffer, hnext, hhas]

/-- The frame under `sequence` leaves the buffer and the cursor moves past it. -/
def PlayoutState.emit (p : PlayoutState) (sequence : ℕ) : PlayoutState where
  udpJitterBuffer := p.udpJitterBuffer.erase sequence
  nextJitterBufferSequence := (sequence + 1) % 2 ^ 64
  hasNextJitterBufferSequence := !(p.udpJitterBuffer.erase sequence).isEmpty

/-- The cursor is set to `sequence`. -/
def PlayoutState.anchor (p : PlayoutState) (sequence : ℕ) : PlayoutState where
  udpJitterBuffer := p.udpJitterBuffer
  nextJitterBufferSequence := sequence
  hasNextJitterBufferSequence := true

/-- What a call of `tryPopReadyUdpFrame` has done. -/
inductive PopOutcome (p : PlayoutState) : PlayoutState → Option ReceivedFrame → Prop
  | kept : PopOutcome p p none
  /-- A buffer without a cursor gets one; its first frame has to wait. -/
  | anchored (oldest : ℕ) (b : BufferedUdpFrame)
      (hfront : OrdMap.front? p.udpJitterBuffer = some (oldest, b))
      (hhas : p.hasNextJitterBufferSequence = false) : PopOutcome p (p.anchor oldest) none
  /-- The frame at the cursor. -/
  | expected (b : BufferedUdpFrame) (hhas : p.hasNextJitterBufferSequence = true)
      (hb : p.udpJitterBuffer[p.nextJitterBufferSequence]? = some b) :
      PopOutcome p (p.emit p.nextJitterBufferSequence) (some b.frame)
  /-- The oldest frame: there was no cursor, or the one at the cursor is missing. -/
  | oldest (sequence : ℕ) (b : BufferedUdpFrame)
      (hfront : OrdMap.front? p.udpJitterBuffer = some (sequence, b))
      (hskip : p.hasNextJitterBufferSequence = true →
        p.udpJitterBuffer[p.nextJitterBufferSequence]? = none) :
      PopOutcome p (p.emit sequence) (some b.frame)

/-- The buffer with its counters and with the frames that have completed. -/
structure PlayoutLedger where
  playout : PlayoutState
  emittedFrames : ℕ
  skippedFrames : ℕ
  completed : List CompletedFrame

def StreamClient.ledger (st : StreamClient) : PlayoutLedger where
  playout := st.playout
  emittedFrames := st.udpReceiveStats.jitterBufferEmittedFrames
  skippedFrames := st.udpReceiveStats.jitterBufferSkippedFrames
  completed := st.history.completed

/-- The frame under `sequence` leaves the buffer after `skipped` others were given up. -/
def PlayoutLedger.emit (l : PlayoutLedger) (sequence skipped : ℕ) : PlayoutLedger where
  playout := l.playout.emit sequence
  emittedFrames := l.emittedFrames + 1
  skippedFrames := l.skippedFrames + skipped
  completed := l.completed

def PlayoutLedger.anchor (l : PlayoutLedger) (sequence : ℕ) : PlayoutLedger :=
  { l with playout := l.playout.anchor sequence }

/-- What a call of `tryPopReadyUdpFrame` has done and counted. -/
inductive LedgerPop (l : PlayoutLedger) : PlayoutLedger → Option ReceivedFrame → Prop
  | kept : LedgerPop l l none
  | anchored (oldest : ℕ) (b : BufferedUdpFrame)
      (hfront : OrdMap.front? l.playout.udpJitterBuffer = some (oldest, b))
      (hhas : l.playout.hasNextJitterBufferSequence = false) : LedgerPop l (l.anchor oldest) none
  | expected (b : BufferedUdpFrame) (hhas : l.playout.hasNextJitterBufferSequence = true)
      (hb : l.playout.udpJitterBuffer[l.playout.nextJitterBufferSequence]? = some b) :
      LedgerPop l (l.emit l.playout.nextJitterBufferSequence 0) (some b.frame)
  /-- There was no cursor. -/
  | first (sequence : ℕ) (b : BufferedUdpFrame)
      (hfront : OrdMap.front? l.playout.udpJitterBuffer = some (sequence, b))
      (hhas : l.playout.hasNextJitterBufferSequence = false) :
      LedgerPop l (l.emit sequence 0) (some b.frame)
  /-- The frame at the cursor is missing: the numbers from there on are skipped. -/
  | skipped (sequence : ℕ) (b : BufferedUdpFrame)
      (hfront : OrdMap.front? l.playout.udpJitterBuffer = some (sequence, b))
      (hhas : l.playout.hasNextJitterBufferSequence = true)
      (hmissing : l.playout.udpJitterBuffer[l.playout.nextJitterBufferSequence]? = none) :
      LedgerPop l (l.emit sequence (sequence - l.playout.nextJitterBufferSequence)) (some b.frame)

theorem LedgerPop.outcome {l l' : PlayoutLedger} {popped : Option ReceivedFrame}
    (h : LedgerPop l l' popped) : PopOutcome l.playout l'.playout popped := by
  cases h with
  | kept => exact .kept
  | anchored oldest b hfront hhas => exact .anchored oldest b hfront hhas
  | expected b hhas hb => exact .expected b hhas hb
  | first sequence b hfront hhas =>
      refine .oldest sequence b hfront fun htrue => ?_
      rw [hhas] at htrue
      cases htrue
  | skipped sequence b hfront _ hmissing => exact .oldest sequence b hfront fun _ => hmissing

section

variable {st : StreamClient}

@[simp] theorem currentJitterBufferTargetDelayNs_ledger (cfg : ClientConfig)
    (st : StreamClient) : (currentJitterBufferTargetDelayNs cfg st).2.ledger = st.ledger := by
  rw [currentJitterBufferTargetDelayNs]
  cases cfg.udpJitterBufferStrategy <;> rfl

/-- The last part of the pop either does nothing or emits the frame at the cursor. -/
theorem emitExpectedUdpFrame_cases (cfg : ClientConfig) (st : StreamClient)
    (nowNs targetDelayNs : ℕ) (expected : BufferedUdpFrame)
    (hhas : st.hasNextJitterBufferSequence = true) :
    (emitExpectedUdpFrame cfg st nowNs targetDelayNs expected).2 = none ∧
        (emitExpectedUdpFrame cfg st nowNs targetDelayNs expected).1.ledger = st.ledger ∨
      (emitExpectedUdpFrame cfg st nowNs targetDelayNs expected).2 = some expected.frame ∧
        (emitExpectedUdpFrame cfg st nowNs targetDelayNs expected).1.ledger =
          st.ledger.emit st.nextJitterBufferSequence 0 := by
  simp only [emitExpectedUdpFrame]
  split
  · exact .inl ⟨rfl, rfl⟩
  · refine .inr ⟨rfl, ?_⟩
    cases hempty : (st.udpJitterBuffer.erase st.nextJitterBufferSequence).isEmpty <;>
      simp [StreamClient.ledger, StreamClient.playout, PlayoutLedger.emit, PlayoutState.emit,
        updateJitterBufferDepthStats, recordJitterBufferWait, hempty, hhas]

/-- A frame that is skipped to has reached the limit that made it be skipped to. -/
theorem emitExpectedUdpFrame_of_shouldSkipMissing {cfg : ClientConfig} {nowNs : ℕ}
    {oldest : BufferedUdpFrame} (hskip : shouldSkipMissing cfg st nowNs oldest = true)
    (targetDelayNs sequence : ℕ) :
    (emitExpectedUdpFrame cfg (skipMissing st sequence) nowNs targetDelayNs oldest).2 ≠
      none := by
  have hwait : effectiveMaxWaitMs cfg (skipMissing st sequence) = effectiveMaxWaitMs cfg st := rfl
  have hframes : effectiveMaxFrames cfg (skipMissing st sequence) =
      effectiveMaxFrames cfg st := rfl
  have hsize : (skipMissing st sequence).udpJitterBuffer.size = st.udpJitterBuffer.size := rfl
  simp only [shouldSkipMissing, Bool.or_eq_true, Bool.and_eq_true, decide_eq_true_eq] at hskip
  simp only [emitExpectedUdpFrame, hwait, hframes, hsize]
  rw [if_neg (by tauto)]
  exact Option.some_ne_none _

/-- A frame that is skipped to is emitted, and those before it are counted. -/
theorem skipMissing_ledger (st : StreamClient) (oldest : ℕ) :
    (skipMissing st oldest).ledger.emit oldest 0 =
      st.ledger.emit oldest (oldest - st.nextJitterBufferSequence) := by
  have hskipped : (if oldest > st.nextJitterBufferSequence then
      oldest - st.nextJitterBufferSequence else 0) = oldest - st.nextJitterBufferSequence := by
    split
    · rfl
    · omega
  simp only [StreamClient.ledger, PlayoutLedger.emit, skipMissing, hskipped, Nat.add_zero]
  rfl

theorem tryPopReadyUdpFrame_ledger (cfg : ClientConfig) (st : StreamClient) (nowNs : ℕ) :
    LedgerPop st.ledger (tryPopReadyUdpFrame cfg st nowNs).1.ledger
      (tryPopReadyUdpFrame cfg st nowNs).2 := by
  unfold tryPopReadyUdpFrame
  split
  · exact .kept
  split
  · exact .kept
  rename_i oldest b hfront
  have htarget := currentJitterBufferTargetDelayNs_ledger cfg st
  have hsame : (currentJitterBufferTargetDelayNs cfg st).2.udpJitterBuffer =
      st.udpJitterBuffer := congrArg (·.playout.udpJitterBuffer) htarget
  rw [← hsame] at hfront
  simp only
  generalize (currentJitterBufferTargetDelayNs cfg st).2 = st' at htarget hfront ⊢
  generalize (currentJitterBufferTargetDelayNs cfg st).1 = targetDelayNs
  rw [← htarget]
  cases hhas : st'.hasNextJitterBufferSequence with
  | true =>
      have hanchor : anchorJitterBuffer st' oldest = st' := if_pos hhas
      rw [hanchor]
      split
      · -- the frame at the cursor is there
        rename_i expected hexpected
        rcases emitExpectedUdpFrame_cases cfg st' nowNs targetDelayNs expected hhas with
          ⟨hnone, hkept⟩ | ⟨hsome, hemit⟩
        · rw [hnone, hkept]
          exact .kept
        · rw [hsome, hemit]
          exact .expected expected hhas hexpected
      · rename_i hmissing
        split
        · rename_i hskip
          rcases emitExpectedUdpFrame_cases cfg (skipMissing st' oldest) nowNs
            targetDelayNs b hhas with ⟨hnone, -⟩ | ⟨hsome, hemit⟩
          · exact absurd hnone
              (emitExpectedUdpFrame_of_shouldSkipMissing hskip targetDelayNs oldest)
          · rw [hsome, hemit]
            show LedgerPop _ ((skipMissing st' oldest).ledger.emit oldest 0) _
            rw [skipMissing_ledger]
            exact .skipped oldest b hfront hhas hmissing
        · exact .kept
  | false =>
      have hanchor : (anchorJitterBuffer st' oldest).ledger = st'.ledger.anchor oldest := by
        rw [anchorJitterBuffer, if_neg (by simp [hhas])]
        rfl
      have hplayout := congrArg PlayoutLedger.playout hanchor
      have hnext : (anchorJitterBuffer st' oldest).nextJitterBufferSequence = oldest :=
        congrArg PlayoutState.nextJitterBufferSequence hplayout
      have hset : (anchorJitterBuffer st' oldest).hasNextJitterBufferSequence = true :=
        congrArg PlayoutState.hasNextJitterBufferSequence hplayout
      have hbuffer : (anchorJitterBuffer st' oldest).udpJitterBuffer = st'.udpJitterBuffer :=
        congrArg PlayoutState.udpJitterBuffer hplayout
      have hfound : (anchorJitterBuffer st' oldest).udpJitterBuffer[
          (anchorJitterBuffer st' oldest).nextJitterBufferSequence]? = some b := by
        rw [hnext, hbuffer]
        exact (OrdMap.front?_eq_some hfront).1
      rw [hfound]
      rcases emitExpectedUdpFrame_cases cfg _ nowNs targetDelayNs b hset with
        ⟨hnone, hkept⟩ | ⟨hsome, hemit⟩
      · simp only
        rw [hnone, hkept, hanchor]
        exact .anchored oldest b hfront hhas
      · simp only
        rw [hsome, hemit, hanchor, hnext]
        exact .first oldest b hfront hhas

theorem tryPopReadyUdpFrame_outcome (cfg : ClientConfig) (st : StreamClient) (nowNs : ℕ) :
    PopOutcome st.playout (tryPopReadyUdpFrame cfg st nowNs).1.playout
      (tryPopReadyUdpFrame cfg st nowNs).2 :=
  (tryPopReadyUdpFrame_ledger cfg st nowNs).outcome

/-- A frame enters the buffer under its number, unless one with that number is there. -/
theorem bufferCompletedUdpFrame_playout (st : StreamClient) (frame : ReceivedFrame) :
    (bufferCompletedUdpFrame st frame).playout =
      if frame.metadata.sequence ∈ st.udpJitterBuffer then st.playout
      else
        { st.playout with
          udpJitterBuffer := st.udpJitterBuffer.insert frame.metadata.sequence
            { frame := frame, bufferedTimestampNs := frame.receiveTimestampNs } } := by
  unfold bufferCompletedUdpFrame
  split <;> rfl

end

end AvProject.Client
