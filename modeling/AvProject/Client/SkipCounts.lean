import AvProject.Client.NackRequests
import AvProject.Client.PlayoutLedger
import AvProject.Client.PlayoutOrder

/-!
The count of the skipped frames. Every number between the first and the last emitted frame
is counted once, as emitted or as skipped, as long as no gap opens while the buffer is
empty: then there is no cursor that a gap could be measured from.
-/

namespace AvProject.Client

open AvProject.Lib AvProject.Protocol

/-- The numbers of the frames that have completed, in order. -/
def PlayoutLedger.numbers (l : PlayoutLedger) : List ℕ :=
  l.completed.map fun c => c.frame.metadata.sequence

/-- From the first to the last frame handed out every number has been counted once. -/
def CountedOnce (l : PlayoutLedger) (delivered : List ReceivedFrame) : Prop :=
  ∀ first ∈ delivered.head?, ∀ last ∈ delivered.getLast?,
    l.emittedFrames + l.skippedFrames + first.metadata.sequence = last.metadata.sequence + 1

/-- What is buffered, and how the cursor stands to what has been handed out. -/
structure CountsEvery (l : PlayoutLedger) (delivered : List ReceivedFrame) : Prop where
  buffered : ∀ (k : ℕ) b, l.playout.udpJitterBuffer[k]? = some b →
    b.frame.metadata.sequence = k ∧ k ∈ l.numbers
  ahead : ∀ last ∈ delivered.getLast?, last.metadata.sequence ∈ l.numbers ∧
    ∀ (k : ℕ) b, l.playout.udpJitterBuffer[k]? = some b → last.metadata.sequence < k
  cursor : l.playout.hasNextJitterBufferSequence = true →
    (∀ (k : ℕ) b, l.playout.udpJitterBuffer[k]? = some b →
      l.playout.nextJitterBufferSequence ≤ k) ∧
    ∀ last ∈ delivered.getLast?,
      l.playout.nextJitterBufferSequence = last.metadata.sequence + 1
  anchored : l.playout.hasNextJitterBufferSequence = true → delivered = [] →
    ∃ b, l.playout.udpJitterBuffer[l.playout.nextJitterBufferSequence]? = some b
  follows : l.playout.hasNextJitterBufferSequence = false → ∀ last ∈ delivered.getLast?,
    l.playout.udpJitterBuffer ≠ ∅ →
      ∃ b, l.playout.udpJitterBuffer[last.metadata.sequence + 1]? = some b
  nothing : delivered = [] → l.emittedFrames = 0 ∧ l.skippedFrames = 0
  counted : CountedOnce l delivered

namespace CountsEvery

variable {l l' : PlayoutLedger} {delivered : List ReceivedFrame} {k : ℕ} {b : BufferedUdpFrame}

/-- The first frame is emitted, and the numbers before it are counted as skipped. -/
theorem emit (h : CountsEvery l delivered) (hbounded : ∀ n ∈ l.numbers, n < 2 ^ 64)
    (hb : l.playout.udpJitterBuffer[k]? = some b)
    (hfirst : ∀ (k' : ℕ) b', l.playout.udpJitterBuffer[k']? = some b' → k ≤ k') {skipped : ℕ}
    (hnone : delivered = [] → skipped = 0)
    (hskipped : ∀ last ∈ delivered.getLast?, k = last.metadata.sequence + 1 + skipped) :
    CountsEvery (l.emit k skipped) (delivered ++ [b.frame]) := by
  obtain ⟨hnumber, hmem⟩ := h.buffered k b hb
  have herase (k' : ℕ) (b' : BufferedUdpFrame)
      (hb' : (l.emit k skipped).playout.udpJitterBuffer[k']? = some b') :
      k < k' ∧ l.playout.udpJitterBuffer[k']? = some b' := by
    simp only [PlayoutLedger.emit, PlayoutState.emit, OrdMap.getElem?_erase] at hb'
    split at hb'
    · cases hb'
    · rename_i hne
      exact ⟨Nat.lt_of_le_of_ne (hfirst k' b' hb') hne, hb'⟩
  have hlast (last : ReceivedFrame) (hmem : last ∈ (delivered ++ [b.frame]).getLast?) :
      last.metadata.sequence = k := by
    rw [List.getLast?_concat] at hmem
    cases hmem
    exact hnumber
  constructor
  case buffered => exact fun k' b' hb' => h.buffered k' b' (herase k' b' hb').2
  case ahead =>
    intro last hmemLast
    rw [hlast last hmemLast]
    exact ⟨hmem, fun k' b' hb' => (herase k' b' hb').1⟩
  case cursor =>
    intro hhas
    -- Something is left, so the largest number has not been emitted.
    have hnonempty : (l.emit k skipped).playout.udpJitterBuffer ≠ ∅ := by
      intro hempty
      simp only [PlayoutLedger.emit, PlayoutState.emit] at hhas hempty
      rw [hempty] at hhas
      cases hhas
    obtain ⟨k', b', hb'⟩ : ∃ (k' : ℕ) (b' : BufferedUdpFrame),
        (l.emit k skipped).playout.udpJitterBuffer[k']? = some b' := by
      obtain ⟨⟨k', b'⟩, hfront⟩ := Option.ne_none_iff_exists'.mp
        (mt OrdMap.front?_eq_none.mp hnonempty)
      exact ⟨k', b', (OrdMap.front?_eq_some hfront).1⟩
    obtain ⟨hlt, hold⟩ := herase k' b' hb'
    have hbound := hbounded k' (h.buffered k' b' hold).2
    have hnext : (l.emit k skipped).playout.nextJitterBufferSequence = k + 1 :=
      Nat.mod_eq_of_lt (by omega)
    rw [hnext]
    refine ⟨fun k' b' hb' => (herase k' b' hb').1, fun last hmemLast => ?_⟩
    rw [hlast last hmemLast]
  case anchored => simp
  case follows =>
    intro hhas _ _ hnonempty
    simp only [PlayoutLedger.emit, PlayoutState.emit, Bool.not_eq_false'] at hhas hnonempty
    exact absurd (Std.ExtTreeMap.isEmpty_iff.mp hhas) hnonempty
  case nothing => simp
  case counted =>
    intro first hmemFirst last hmemLast
    rw [hlast last hmemLast]
    simp only [PlayoutLedger.emit]
    cases delivered with
    | nil =>
        obtain rfl : b.frame = first := Option.some.inj hmemFirst
        obtain ⟨hemitted, hskips⟩ := h.nothing rfl
        rw [hnumber, hemitted, hskips, hnone rfl]
        omega
    | cons head rest =>
        obtain ⟨before, hbefore⟩ := Option.ne_none_iff_exists'.mp
          (List.getLast?_eq_none_iff.not.mpr (List.cons_ne_nil head rest))
        have hcounted := h.counted first hmemFirst before hbefore
        have hk := hskipped before hbefore
        omega

/-- A cursor is set at the first frame. -/
theorem anchor (h : CountsEvery l delivered)
    (hb : l.playout.udpJitterBuffer[k]? = some b)
    (hfirst : ∀ (k' : ℕ) b', l.playout.udpJitterBuffer[k']? = some b' → k ≤ k')
    (hhas : l.playout.hasNextJitterBufferSequence = false) :
    CountsEvery (l.anchor k) delivered where
  buffered := h.buffered
  ahead := h.ahead
  cursor := by
    refine fun _ => ⟨hfirst, fun last hmem => ?_⟩
    have hlt := (h.ahead last hmem).2 k b hb
    obtain ⟨b', hb'⟩ := h.follows hhas last hmem fun hempty => by
      rw [hempty, Std.ExtTreeMap.getElem?_empty] at hb
      cases hb
    exact Nat.le_antisymm (hfirst _ b' hb') hlt
  anchored := fun _ _ => ⟨b, hb⟩
  follows := fun hfalse => by cases hfalse
  nothing := h.nothing
  counted := h.counted

/-- A frame with a new largest number completes; into an empty buffer it comes right after
the last one that was handed out. -/
theorem complete (h : CountsEvery l delivered) {c : CompletedFrame}
    (hnew : ∀ n ∈ l.numbers, n < c.frame.metadata.sequence)
    (hfollows : l.playout.udpJitterBuffer = ∅ → ∀ last ∈ delivered.getLast?,
      c.frame.metadata.sequence = last.metadata.sequence + 1) :
    CountsEvery (l.complete c) delivered := by
  have hbuffer : (l.complete c).playout.udpJitterBuffer =
      l.playout.udpJitterBuffer.insert c.frame.metadata.sequence
        { frame := c.frame, bufferedTimestampNs := c.frame.receiveTimestampNs } := by
    have hnot : c.frame.metadata.sequence ∉ l.playout.udpJitterBuffer := by
      intro hmem
      obtain ⟨b, hb⟩ := OrdMap.mem_iff.mp hmem
      exact absurd (hnew _ (h.buffered _ b hb).2) (lt_irrefl _)
    simp only [PlayoutLedger.complete, PlayoutState.buffer]
    rw [if_neg hnot]
  have hhas : (l.complete c).playout.hasNextJitterBufferSequence =
      l.playout.hasNextJitterBufferSequence := by
    simp only [PlayoutLedger.complete, PlayoutState.buffer]
    split <;> rfl
  have hnext : (l.complete c).playout.nextJitterBufferSequence =
      l.playout.nextJitterBufferSequence := by
    simp only [PlayoutLedger.complete, PlayoutState.buffer]
    split <;> rfl
  have hnumbers : (l.complete c).numbers = l.numbers ++ [c.frame.metadata.sequence] := by
    simp [PlayoutLedger.numbers, PlayoutLedger.complete]
  have hcases (k : ℕ) (b : BufferedUdpFrame)
      (hb : (l.complete c).playout.udpJitterBuffer[k]? = some b) :
      k = c.frame.metadata.sequence ∧ b.frame = c.frame ∨
        l.playout.udpJitterBuffer[k]? = some b := by
    rw [hbuffer, OrdMap.getElem?_insert] at hb
    split at hb
    · cases hb
      exact .inl ⟨Eq.symm ‹_›, rfl⟩
    · exact .inr hb
  have hkept (k : ℕ) (b : BufferedUdpFrame) (hb : l.playout.udpJitterBuffer[k]? = some b) :
      (l.complete c).playout.udpJitterBuffer[k]? = some b := by
    have hne : c.frame.metadata.sequence ≠ k := (hnew k (h.buffered k b hb).2).ne'
    rw [hbuffer, OrdMap.getElem?_insert, if_neg hne, hb]
  constructor
  case buffered =>
    intro k b hb
    rw [hnumbers]
    rcases hcases k b hb with ⟨rfl, hframe⟩ | hold
    · exact ⟨congrArg (·.metadata.sequence) hframe, by simp⟩
    · obtain ⟨hsequence, hmem⟩ := h.buffered k b hold
      exact ⟨hsequence, List.mem_append_left _ hmem⟩
  case ahead =>
    intro last hmem
    obtain ⟨hseen, hlt⟩ := h.ahead last hmem
    rw [hnumbers]
    refine ⟨List.mem_append_left _ hseen, fun k b hb => ?_⟩
    rcases hcases k b hb with ⟨rfl, -⟩ | hold
    · exact hnew _ hseen
    · exact hlt k b hold
  case cursor =>
    rw [hhas, hnext]
    intro htrue
    obtain ⟨hle, hafter⟩ := h.cursor htrue
    refine ⟨fun k b hb => ?_, hafter⟩
    rcases hcases k b hb with ⟨rfl, -⟩ | hold
    · cases hdelivered : delivered.getLast? with
      | none =>
          obtain ⟨b', hb'⟩ := h.anchored htrue (List.getLast?_eq_none_iff.mp hdelivered)
          exact (hnew _ (h.buffered _ b' hb').2).le
      | some last =>
          rw [hafter last hdelivered]
          exact hnew _ (h.ahead last hdelivered).1
    · exact hle k b hold
  case anchored =>
    rw [hhas, hnext]
    intro htrue hnil
    obtain ⟨b, hb⟩ := h.anchored htrue hnil
    exact ⟨b, hkept _ b hb⟩
  case follows =>
    rw [hhas]
    intro hfalse last hmem _
    by_cases hempty : l.playout.udpJitterBuffer = ∅
    · rw [← hfollows hempty last hmem, hbuffer, OrdMap.getElem?_insert, if_pos rfl]
      exact ⟨_, rfl⟩
    · obtain ⟨b, hb⟩ := h.follows hfalse last hmem hempty
      exact ⟨b, hkept _ b hb⟩
  case nothing => exact h.nothing
  case counted => exact h.counted

/-- Whatever a pop does, every number stays counted once. -/
theorem pop (h : CountsEvery l delivered) (hbounded : ∀ n ∈ l.numbers, n < 2 ^ 64)
    {popped : Option ReceivedFrame} (hpop : LedgerPop l l' popped) :
    CountsEvery l' (delivered ++ popped.toList) := by
  cases hpop with
  | kept => simpa using h
  | anchored oldest b hfront hhas =>
      obtain ⟨hb, hfirst⟩ := OrdMap.front?_eq_some hfront
      simpa using h.anchor hb hfirst hhas
  | expected b hhas hb =>
      obtain ⟨hle, hafter⟩ := h.cursor hhas
      exact h.emit hbounded hb hle (fun _ => rfl) hafter
  | first sequence b hfront hhas =>
      obtain ⟨hb, hfirst⟩ := OrdMap.front?_eq_some hfront
      refine h.emit hbounded hb hfirst (fun _ => rfl) fun last hmem => ?_
      exact ((h.anchor hb hfirst hhas).cursor rfl).2 last hmem
  | skipped sequence b hfront hhas hmissing =>
      obtain ⟨hb, hfirst⟩ := OrdMap.front?_eq_some hfront
      obtain ⟨hle, hafter⟩ := h.cursor hhas
      refine h.emit hbounded hb hfirst (fun hnil => ?_) fun last hmem => ?_
      · obtain ⟨b', hb'⟩ := h.anchored hhas hnil
        rw [hmissing] at hb'
        cases hb'
      · have hsequence := hle sequence b hb
        rw [hafter last hmem] at hsequence ⊢
        omega

end CountsEvery

/-! ### The receiver -/

section

variable {l m : PlayoutLedger} {delivered : List ReceivedFrame}

/-- Where the buffer is empty after frames may have completed, none has. -/
theorem Fills.eq_of_empty (h : Fills l m) (hempty : m.playout.udpJitterBuffer = ∅) :
    l.playout.udpJitterBuffer = ∅ ∧ m.completed = l.completed := by
  induction h with
  | refl => exact ⟨hempty, rfl⟩
  | complete m c h ih =>
      simp only [PlayoutLedger.complete, PlayoutState.buffer] at hempty
      split at hempty
      · rename_i hmem
        rw [hempty] at hmem
        exact absurd hmem Std.ExtTreeMap.not_mem_empty
      · have hsome : (m.playout.udpJitterBuffer.insert c.frame.metadata.sequence
            { frame := c.frame, bufferedTimestampNs := c.frame.receiveTimestampNs })[
              c.frame.metadata.sequence]? = none := by
          rw [show m.playout.udpJitterBuffer.insert _ _ = ∅ from hempty,
            Std.ExtTreeMap.getElem?_empty]
        rw [OrdMap.getElem?_insert, if_pos rfl] at hsome
        cases hsome
  | anchor m oldest b h hfront hhas ih => exact ih hempty

theorem Fills.extends_numbers (h : Fills l m) : l.numbers <+: m.numbers :=
  h.extends_completed.map _

/-- Frames that complete in ascending order keep the counts, if the first of them goes on
where an empty buffer has stopped. -/
theorem CountsEvery.fills (h : CountsEvery l delivered) (hfills : Fills l m)
    (hincreasing : m.numbers.Pairwise (· < ·))
    (hfollows : l.playout.udpJitterBuffer = ∅ → ∀ last ∈ delivered.getLast?,
      ∀ c ∈ (m.completed.drop l.completed.length).head?,
        c.frame.metadata.sequence = last.metadata.sequence + 1) :
    CountsEvery m delivered := by
  induction hfills with
  | refl => exact h
  | complete m c hfills ih =>
      have hnumbers : (m.complete c).numbers = m.numbers ++ [c.frame.metadata.sequence] := by
        simp [PlayoutLedger.numbers, PlayoutLedger.complete]
      rw [hnumbers, List.pairwise_append] at hincreasing
      obtain ⟨hincreasing, -, hnew⟩ := hincreasing
      have hcompleted : (m.complete c).completed = m.completed ++ [c] := rfl
      rw [hcompleted, List.drop_append_of_le_length hfills.extends_completed.length_le] at hfollows
      have hbefore := ih hincreasing fun hempty last hlast other hother => by
        refine hfollows hempty last hlast other ?_
        rw [List.head?_append, Option.mem_def.mp hother]
        rfl
      refine hbefore.complete (fun n hn => hnew n hn _ (by simp)) fun hempty last hlast => ?_
      obtain ⟨hstart, hsame⟩ := hfills.eq_of_empty hempty
      refine hfollows hstart last hlast c ?_
      rw [hsame, List.drop_length]
      rfl
  | anchor m oldest b hfills hfront hhas ih =>
      obtain ⟨hb, hfirst⟩ := OrdMap.front?_eq_some hfront
      exact (ih hincreasing hfollows).anchor hb hfirst hhas

end

/-- The frames that complete in a step. -/
def completedIn (env : ClientEnv) (cfg : ClientConfig) (s : ReceiveState) (event : ReceiveEvent) :
    List CompletedFrame :=
  match receiveStep env cfg s event with
  | none => []
  | some next => next.client.history.completed.drop s.client.history.completed.length

/-- What comes into an empty buffer goes on right after the last frame handed out. -/
def FollowsOn (env : ClientEnv) (cfg : ClientConfig) (s : ReceiveState) (event : ReceiveEvent) :
    Prop :=
  s.client.udpJitterBuffer = ∅ → ∀ last ∈ s.delivered.getLast?,
    ∀ c ∈ (completedIn env cfg s event).head?,
      c.frame.metadata.sequence = last.metadata.sequence + 1

section

variable {env : ClientEnv} {cfg : ClientConfig} {s s' : ReceiveState} {event : ReceiveEvent}

/-- The number of a completed frame is one of 64 bits. -/
theorem StreamClient.Reachable.numbers_lt {st : StreamClient} (h : st.Reachable env cfg) :
    ∀ n ∈ st.ledger.numbers, n < 2 ^ 64 := by
  have hrules : AssemblyRules cfg (fun _ _ _ => True) (fun key a => a.Requestable key)
      (fun c => c.frame.metadata.sequence < 2 ^ 64) (fun _ => True) :=
    { requestableRules cfg with
      finished := fun nowNs hrequestable _ => by
        refine ⟨?_, trivial⟩
        have hsequence := hrequestable.wellFormed.sequence
        exact hsequence.trans_lt hrequestable.key_lt }
  obtain ⟨ops, rfl⟩ := h
  have hinv := ((ReceiverInv.connected cfg).runOperations hrules env ops
    fun op _ => allowsOperation_true op).1
  intro n hn
  obtain ⟨c, hc, rfl⟩ := List.mem_map.mp hn
  exact hinv.completed c hc

/-- One step of the receiver. -/
theorem receiveStep_countsEvery (hjitter : cfg.udpJitterBufferEnabled = true)
    (hreach : s'.client.Reachable env cfg) (hfollows : FollowsOn env cfg s event)
    (hstep : receiveStep env cfg s event = some s')
    (hincreasing : s'.client.ledger.numbers.Pairwise (· < ·))
    (h : CountsEvery s.client.ledger s.delivered) :
    CountsEvery s'.client.ledger s'.delivered := by
  obtain ⟨popped, hserves, hdelivered⟩ := receiveStep_serves hjitter hstep
  rw [FollowsOn, completedIn, hstep] at hfollows
  rw [hdelivered]
  cases hserves with
  | filled hfills =>
      rw [Option.toList_none, List.append_nil]
      exact h.fills hfills hincreasing hfollows
  | popped m frame hfills hpop =>
      have hsame : s'.client.ledger.completed = m.completed := hpop.completed
      have hnumbers : s'.client.ledger.numbers = m.numbers := by
        rw [PlayoutLedger.numbers, hsame, PlayoutLedger.numbers]
      have hbounded := hreach.numbers_lt
      rw [hnumbers] at hincreasing hbounded
      refine (h.fills hfills hincreasing ?_).pop hbounded hpop
      rw [← hsame]
      exact hfollows

theorem receiveStep_extends_numbers (hjitter : cfg.udpJitterBufferEnabled = true)
    (hstep : receiveStep env cfg s event = some s') :
    s.client.ledger.numbers <+: s'.client.ledger.numbers := by
  obtain ⟨popped, hserves, -⟩ := receiveStep_serves hjitter hstep
  cases hserves with
  | filled hfills => exact hfills.extends_numbers
  | popped m frame hfills hpop =>
      have hsame : s'.client.ledger.numbers = m.numbers := by
        rw [PlayoutLedger.numbers, hpop.completed, PlayoutLedger.numbers]
      rw [hsame]
      exact hfills.extends_numbers

end

instance (env : ClientEnv) (cfg : ClientConfig) (s : ReceiveState) (event : ReceiveEvent) :
    Decidable (FollowsOn env cfg s event) :=
  inferInstanceAs (Decidable (_ → ∀ last ∈ s.delivered.getLast?,
    ∀ c ∈ (completedIn env cfg s event).head?,
      c.frame.metadata.sequence = last.metadata.sequence + 1))

/-- The datagram of a frame of one byte. -/
def wholeFrameDatagram (frameSequence : ℕ) : Bytes :=
  (buildMessageHeader .kAvStream 0 (sizeofUdpFrameFragmentHeader + 1)).toBytes ++
    (UdpFrameFragmentHeader.toBytes
      { frameSequence := frameSequence, captureTimestampNs := 0, encodeStartTimestampNs := 0
        encodeEndTimestampNs := 0, transportSendTimestampNs := 0, framePayloadSize := 1
        fragmentOffset := 0, fragmentIndex := 0, fragmentCount := 1
        fragmentRole := UdpFragmentRole.kData.code, reserved := 0 } ++ [7])

/-- Frames 1 and 3 arrive together, and the second call skips frame 2 after 80 ms. -/
def busyGapRun : List ReceiveEvent :=
  [.call, .proceed 10, .datagram (wholeFrameDatagram 1) 11, .datagram (wholeFrameDatagram 3) 12,
   .nothing, .proceed 13, .proceed 13, .call, .proceed 90000000]

/-- Frame 3 arrives after frame 1 has been handed out. -/
def idleGapRun : List ReceiveEvent :=
  [.call, .proceed 10, .datagram (wholeFrameDatagram 1) 11, .nothing, .proceed 12, .proceed 12,
   .call, .proceed 20, .datagram (wholeFrameDatagram 3) 21, .nothing, .proceed 22, .proceed 22]

end AvProject.Client
