import AvProject.Client.JitterBuffer
import AvProject.Client.UdpRepresentation

/-!
The order in which the jitter buffer plays frames out: it is the order of their
numbers as long as no frame is buffered below the cursor.
-/

namespace AvProject.Client

open AvProject.Lib AvProject.Protocol

/-! ### Runs of the jitter buffer -/

inductive PlayoutOperation
  | bufferCompletedUdpFrame (frame : ReceivedFrame)
  | tryPopReadyUdpFrame (nowNs : ℕ)
  /-- Anything else that changes what the pop reads of the client. -/
  | measure (adaptiveJitter : AdaptiveJitterBuffer id) (udpReceiveStats : UdpReceiveStats)

/-- The client and the numbers of the frames that were popped, in order. -/
structure Playback where
  client : StreamClient
  emitted : List ℕ := []

def playbackStep (cfg : ClientConfig) (p : Playback) : PlayoutOperation → Playback
  | .bufferCompletedUdpFrame frame =>
      { p with client := bufferCompletedUdpFrame p.client frame }
  | .tryPopReadyUdpFrame nowNs =>
      let (client, frame) := tryPopReadyUdpFrame cfg p.client nowNs
      { client := client
        emitted := p.emitted ++ (frame.map fun f => f.metadata.sequence).toList }
  | .measure adaptiveJitter udpReceiveStats =>
      { p with
        client.adaptiveJitter := adaptiveJitter
        client.udpReceiveStats := udpReceiveStats }

def runPlayback (cfg : ClientConfig) (p : Playback) (ops : List PlayoutOperation) : Playback :=
  ops.foldl (playbackStep cfg) p

def Playback.start (cfg : ClientConfig) : Playback := { client := StreamClient.connected cfg }

/-- There has been a cursor. -/
def CursorSet (s : PlayoutState) (emitted : List ℕ) : Prop :=
  s.hasNextJitterBufferSequence = true ∨ emitted ≠ []

/-- The largest number has been emitted and the cursor is back at zero. -/
def CursorWrapped (s : PlayoutState) (emitted : List ℕ) : Prop :=
  s.nextJitterBufferSequence = 0 ∧ emitted ≠ []

/-- A frame that is buffered once there has been a cursor is not below it. -/
def BuffersAhead (p : Playback) : PlayoutOperation → Prop
  | .bufferCompletedUdpFrame frame =>
      frame.metadata.sequence < 2 ^ 64 ∧
        (CursorSet p.client.playout p.emitted → ¬CursorWrapped p.client.playout p.emitted ∧
          p.client.nextJitterBufferSequence ≤ frame.metadata.sequence)
  | _ => True

/-- Every frame of the run is buffered ahead. -/
def PlaysAhead (cfg : ClientConfig) : Playback → List PlayoutOperation → Prop
  | _, [] => True
  | p, op :: ops => BuffersAhead p op ∧ PlaysAhead cfg (playbackStep cfg p op) ops

instance (s : PlayoutState) (emitted : List ℕ) : Decidable (CursorSet s emitted) :=
  inferInstanceAs (Decidable (_ ∨ _))

instance (s : PlayoutState) (emitted : List ℕ) : Decidable (CursorWrapped s emitted) :=
  inferInstanceAs (Decidable (_ ∧ _))

instance (p : Playback) : (op : PlayoutOperation) → Decidable (BuffersAhead p op)
  | .bufferCompletedUdpFrame _ => inferInstanceAs (Decidable (_ ∧ (_ → _ ∧ _)))
  | .tryPopReadyUdpFrame _ => isTrue trivial
  | .measure _ _ => isTrue trivial

instance decidablePlaysAhead (cfg : ClientConfig) :
    (p : Playback) → (ops : List PlayoutOperation) → Decidable (PlaysAhead cfg p ops)
  | _, [] => isTrue trivial
  | p, op :: ops =>
      have := decidablePlaysAhead cfg (playbackStep cfg p op) ops
      inferInstanceAs (Decidable (BuffersAhead p op ∧ _))

/-! ### The invariant -/

/-- What has been emitted lies in order below the cursor, what is buffered above it. -/
structure InOrder (s : PlayoutState) (emitted : List ℕ) : Prop where
  sequence : ∀ (k : ℕ) b, s.udpJitterBuffer[k]? = some b → b.frame.metadata.sequence = k
  bounded : ∀ (k : ℕ) b, s.udpJitterBuffer[k]? = some b → k < 2 ^ 64
  ahead : CursorSet s emitted → ∀ (k : ℕ) b, s.udpJitterBuffer[k]? = some b →
    ¬CursorWrapped s emitted ∧ s.nextJitterBufferSequence ≤ k
  past : ¬CursorWrapped s emitted → ∀ e ∈ emitted, e < s.nextJitterBufferSequence
  sorted : emitted.Pairwise (· < ·)

namespace InOrder

variable {s : PlayoutState} {emitted : List ℕ} {k : ℕ} {b : BufferedUdpFrame}

/-- All that has been emitted is below all that is buffered. -/
theorem lt_of_mem (h : InOrder s emitted) (hb : s.udpJitterBuffer[k]? = some b) {e : ℕ}
    (he : e ∈ emitted) : e < k := by
  obtain ⟨hwrapped, hle⟩ := h.ahead (.inr (List.ne_nil_of_mem he)) k b hb
  exact (h.past hwrapped e he).trans_le hle

/-- The first frame is emitted. -/
theorem emit (h : InOrder s emitted) (hb : s.udpJitterBuffer[k]? = some b)
    (hfirst : ∀ (k' : ℕ) b', s.udpJitterBuffer[k']? = some b' → k ≤ k') :
    InOrder (s.emit k) (emitted ++ [k]) := by
  have hk := h.bounded k b hb
  have herase (k' : ℕ) (b' : BufferedUdpFrame)
      (hb' : (s.emit k).udpJitterBuffer[k']? = some b') :
      k ≠ k' ∧ s.udpJitterBuffer[k']? = some b' := by
    rw [PlayoutState.emit, OrdMap.getElem?_erase] at hb'
    split at hb'
    · simp at hb'
    · exact ⟨‹_›, hb'⟩
  have hnext (hlt : k + 1 < 2 ^ 64) : (s.emit k).nextJitterBufferSequence = k + 1 :=
    Nat.mod_eq_of_lt hlt
  constructor
  case sequence => exact fun k' b' hb' => h.sequence k' b' (herase k' b' hb').2
  case bounded => exact fun k' b' hb' => h.bounded k' b' (herase k' b' hb').2
  case ahead =>
    intro _ k' b' hb'
    obtain ⟨hne, hold⟩ := herase k' b' hb'
    have hle := hfirst k' b' hold
    have hbound := h.bounded k' b' hold
    rw [CursorWrapped, hnext (by omega)]
    exact ⟨by simp, by omega⟩
  case past =>
    intro hwrapped e he
    have hlt : k + 1 < 2 ^ 64 := by
      by_contra hlast
      apply hwrapped
      have heq : k + 1 = 2 ^ 64 := by omega
      exact ⟨by rw [PlayoutState.emit, heq, Nat.mod_self], by simp⟩
    rw [hnext hlt]
    rcases List.mem_append.mp he with hold | hnew
    · exact (h.lt_of_mem hb hold).trans (Nat.lt_succ_self k)
    · rw [List.mem_singleton.mp hnew]
      exact Nat.lt_succ_self k
  case sorted =>
    rw [List.pairwise_append]
    refine ⟨h.sorted, List.pairwise_singleton _ _, fun e he e' he' => ?_⟩
    rw [List.mem_singleton.mp he']
    exact h.lt_of_mem hb he

/-- A cursor is set at the first frame. -/
theorem anchor (h : InOrder s emitted) (hb : s.udpJitterBuffer[k]? = some b)
    (hfirst : ∀ (k' : ℕ) b', s.udpJitterBuffer[k']? = some b' → k ≤ k') :
    InOrder (s.anchor k) emitted := by
  constructor
  case sequence => exact h.sequence
  case bounded => exact h.bounded
  case ahead =>
    refine fun _ k' b' hb' => ⟨?_, hfirst k' b' hb'⟩
    rintro ⟨hzero, hne⟩
    obtain ⟨hwrapped, hle⟩ := h.ahead (.inr hne) k b hb
    have hk : k = 0 := hzero
    exact hwrapped ⟨by omega, hne⟩
  case past => exact fun _ e he => h.lt_of_mem hb he
  case sorted => exact h.sorted

/-- A frame that is not below the cursor is buffered. -/
theorem insert (h : InOrder s emitted) (hsequence : b.frame.metadata.sequence = k)
    (hbounded : k < 2 ^ 64)
    (hahead : CursorSet s emitted →
      ¬CursorWrapped s emitted ∧ s.nextJitterBufferSequence ≤ k) :
    InOrder { s with udpJitterBuffer := s.udpJitterBuffer.insert k b } emitted := by
  have hcases (k' : ℕ) (b' : BufferedUdpFrame)
      (hb' : (s.udpJitterBuffer.insert k b)[k']? = some b') :
      k' = k ∧ b' = b ∨ s.udpJitterBuffer[k']? = some b' := by
    rw [OrdMap.getElem?_insert] at hb'
    split at hb'
    · exact .inl ⟨Eq.symm ‹_›, (Option.some.inj hb').symm⟩
    · exact .inr hb'
  constructor
  case sequence =>
    intro k' b' hb'
    rcases hcases k' b' hb' with ⟨rfl, rfl⟩ | hold
    · exact hsequence
    · exact h.sequence k' b' hold
  case bounded =>
    intro k' b' hb'
    rcases hcases k' b' hb' with ⟨rfl, rfl⟩ | hold
    · exact hbounded
    · exact h.bounded k' b' hold
  case ahead =>
    intro hset k' b' hb'
    rcases hcases k' b' hb' with ⟨rfl, rfl⟩ | hold
    · exact hahead hset
    · exact h.ahead hset k' b' hold
  case past => exact h.past
  case sorted => exact h.sorted

/-- Whatever a pop does, the order is kept. -/
theorem pop (h : InOrder s emitted) {s' : PlayoutState} {frame : Option ReceivedFrame}
    (hpop : PopOutcome s s' frame) :
    InOrder s' (emitted ++ (frame.map fun f => f.metadata.sequence).toList) := by
  cases hpop with
  | kept => simpa using h
  | anchored oldest b hfront hhas =>
      obtain ⟨hb, hfirst⟩ := OrdMap.front?_eq_some hfront
      simpa using h.anchor hb hfirst
  | expected b hhas hb =>
      have hemit := h.emit hb fun k' b' hb' => (h.ahead (.inl hhas) k' b' hb').2
      rw [← h.sequence _ b hb] at hemit ⊢
      exact hemit
  | oldest sequence b hfront hskip =>
      obtain ⟨hb, hfirst⟩ := OrdMap.front?_eq_some hfront
      have hemit := h.emit hb hfirst
      rw [← h.sequence _ b hb] at hemit ⊢
      exact hemit

/-- Every allowed operation keeps the order. -/
theorem step {cfg : ClientConfig} {p : Playback} (h : InOrder p.client.playout p.emitted)
    {op : PlayoutOperation} (hahead : BuffersAhead p op) :
    InOrder (playbackStep cfg p op).client.playout (playbackStep cfg p op).emitted := by
  cases op with
  | bufferCompletedUdpFrame frame =>
      rw [playbackStep, bufferCompletedUdpFrame_playout]
      split
      · exact h
      · exact h.insert rfl hahead.1 hahead.2
  | tryPopReadyUdpFrame nowNs => exact h.pop (tryPopReadyUdpFrame_outcome cfg p.client nowNs)
  | measure adaptiveJitter udpReceiveStats => exact h

end InOrder

/-- In every run in which no frame is buffered below the cursor, the numbers of the
frames that are popped are strictly increasing. -/
theorem runPlayback_in_order (cfg : ClientConfig) (ops : List PlayoutOperation)
    (hahead : PlaysAhead cfg (Playback.start cfg) ops) :
    (runPlayback cfg (Playback.start cfg) ops).emitted.Pairwise (· < ·) := by
  suffices hrun : ∀ p : Playback, InOrder p.client.playout p.emitted → PlaysAhead cfg p ops →
      (runPlayback cfg p ops).emitted.Pairwise (· < ·) by
    refine hrun _ ?_ hahead
    constructor <;> simp [Playback.start, StreamClient.connected, StreamClient.connect,
      StreamClient.playout]
  clear hahead
  induction ops with
  | nil => exact fun p h _ => h.sorted
  | cons op ops ih => exact fun p h hahead => ih _ (h.step hahead.1) hahead.2

/-! #### A late frame -/

/-- A frame with this number, finished at this time. -/
def numberedFrame (sequence receiveTimestampNs : ℕ) : ReceivedFrame :=
  { (default : ReceivedFrame) with
    metadata.sequence := sequence
    receiveTimestampNs := receiveTimestampNs }

/-- Every frame is popped as soon as it is in the buffer. -/
def eagerClient : ClientConfig :=
  { udpJitterBufferStrategy := .fixed, udpJitterBufferTargetDelayMs := 0 }

/-- Frame 3 completes after frame 5 has been popped. -/
def lateFrameRun : List PlayoutOperation :=
  [.bufferCompletedUdpFrame (numberedFrame 5 10), .tryPopReadyUdpFrame 10,
   .bufferCompletedUdpFrame (numberedFrame 3 20), .tryPopReadyUdpFrame 20]

/-- It is popped all the same. -/
theorem lateFrameRun_out_of_order :
    (runPlayback eagerClient (Playback.start eagerClient) lateFrameRun).emitted = [5, 3] := by
  decide +kernel

theorem orderedRun_in_order :
    (runPlayback eagerClient (Playback.start eagerClient)
      [.bufferCompletedUdpFrame (numberedFrame 5 10), .tryPopReadyUdpFrame 10,
       .bufferCompletedUdpFrame (numberedFrame 7 20), .bufferCompletedUdpFrame (numberedFrame 6 20),
       .tryPopReadyUdpFrame 20, .tryPopReadyUdpFrame 20]).emitted.Pairwise (· < ·) :=
  runPlayback_in_order eagerClient _ (by decide +kernel)

end AvProject.Client
