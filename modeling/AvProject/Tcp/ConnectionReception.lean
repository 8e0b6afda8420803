import AvProject.Tcp.ConnectionLedger

/-!
What a client reads from what a session's socket has taken so far: the frames that were sent,
from the first on, and never the beginning of a message as a frame.
-/

namespace AvProject.Tcp

open AvProject.Lib AvProject.Protocol AvProject.Server AvProject.Client

/-! ### Reads that succeed -/

/-- Bytes behind those that it needs do not change what a reader returns. -/
def ReadsPrefix {α : Type} (read : TcpSocket → Option (Except String α × TcpSocket)) : Prop :=
  ∀ results results' stream more value value' socket socket',
    read ⟨results, stream⟩ = some (.ok value, socket) →
      read ⟨results', stream ++ more⟩ = some (.ok value', socket') →
        value' = value ∧ socket'.stream = socket.stream ++ more

theorem receiveAllLoop_ok {results : List RecvResult} {stream bytes buffer : Bytes}
    {missing timeouts : ℕ} {socket : TcpSocket}
    (h : receiveAllLoop results stream missing timeouts buffer = some (.ok bytes, socket)) :
    missing ≤ stream.length ∧ bytes = buffer ++ stream.take missing ∧
      socket.stream = stream.drop missing := by
  induction results generalizing stream missing timeouts buffer with
  | nil =>
      cases missing with
      | zero =>
          rw [receiveAllLoop] at h
          cases h
          exact ⟨Nat.zero_le _, by simp, rfl⟩
      | succ missing => cases h
  | cons result results ih =>
      cases missing with
      | zero =>
          rw [receiveAllLoop] at h
          cases h
          exact ⟨Nat.zero_le _, by simp, rfl⟩
      | succ missing =>
          cases result with
          | interrupted => exact ih h
          | wouldBlock =>
              rw [receiveAllLoop] at h
              split at h
              · cases h
              · exact ih h
          | failed reason => cases h
          | data count =>
              rw [receiveAllLoop] at h
              split at h
              · cases h
              obtain ⟨hlength, hbytes, hstream⟩ := ih h
              obtain ⟨size, hsize⟩ :
                  ∃ size, (stream.take (min count (missing + 1))).length = size := ⟨_, rfl⟩
              have hle : size ≤ missing + 1 ∧ size ≤ stream.length := by
                rw [List.length_take] at hsize
                omega
              have hchunk : stream.take (min count (missing + 1)) = stream.take size := by
                rw [List.length_take] at hsize
                rw [← hsize, List.take_eq_take_iff]
                omega
              rw [hsize] at hlength hbytes hstream
              rw [List.length_drop] at hlength
              refine ⟨by omega, ?_, ?_⟩
              · rw [hbytes, hchunk, List.append_assoc, ← List.take_add]
                congr 2
                omega
              · rw [hstream, List.drop_drop]
                congr 1
                omega

theorem readsPrefix_return {α : Type} (value : α) :
    ReadsPrefix fun socket => some (.ok value, socket) := by
  intro results results' stream more value₁ value₂ socket socket' h h'
  cases h
  cases h'
  exact ⟨rfl, rfl⟩

theorem readsPrefix_error {α : Type} (message : String) :
    ReadsPrefix (α := α) fun socket => some (.error message, socket) := by
  intro results results' stream more value value' socket socket' h
  cases h

theorem receiveThen_readsPrefix {α : Type} {length : ℕ}
    {next : Bytes → TcpSocket → Option (Except String α × TcpSocket)}
    (hnext : ∀ bytes, ReadsPrefix (next bytes)) :
    ReadsPrefix fun socket => receiveThen socket length next := by
  intro results results' stream more value value' socket socket' h h'
  simp only [receiveThen, receiveAll] at h h'
  split at h
  · cases h
  · cases h
  rename_i bytes first hfirst
  split at h'
  · cases h'
  · cases h'
  rename_i bytes' first' hfirst'
  obtain ⟨hlength, hbytes, hstream⟩ := receiveAllLoop_ok hfirst
  obtain ⟨-, hbytes', hstream'⟩ := receiveAllLoop_ok hfirst'
  rw [List.take_append_of_le_length hlength, ← hbytes] at hbytes'
  rw [List.drop_append_of_le_length hlength, ← hstream] at hstream'
  subst hbytes'
  obtain ⟨results₁, stream₁⟩ := first
  obtain ⟨results₂, stream₂⟩ := first'
  subst hstream'
  exact hnext bytes' _ _ _ _ _ _ _ _ h h'

theorem receiveTcpPayload_readsPrefix (header : MessageHeader) (metadata : FrameDiagnosticMetadata)
    (senderMetadataAvailable : Bool) (payloadLength nowNs : ℕ) :
    ReadsPrefix (receiveTcpPayload header metadata senderMetadataAvailable payloadLength nowNs) :=
  receiveThen_readsPrefix fun _ => readsPrefix_return _

theorem receiveTcpFrame_readsPrefix (client : ClientConfig) (nowNs : ℕ) :
    ReadsPrefix (receiveTcpFrame client nowNs) := by
  refine receiveThen_readsPrefix fun bytes => ?_
  simp only
  split
  · exact readsPrefix_error _
  split
  · exact readsPrefix_error _
  split
  · split
    · exact readsPrefix_error _
    · exact receiveThen_readsPrefix fun bytes => receiveTcpPayload_readsPrefix _ _ _ _ _
  · exact receiveTcpPayload_readsPrefix _ _ _ _ _

/-! ### Messages and their beginnings -/

section

variable {server : TransportConfig} {client : ClientConfig} {sent : SentFrame} {nowNs : ℕ}
  {results : List RecvResult} {frame : ReceivedFrame} {socket : TcpSocket}

/-- Some readings of the socket return the whole message. -/
theorem exists_receiveTcpFrame (nowNs : ℕ) (rest : Bytes)
    (hmetadata : server.embedFrameMetadata = client.expectMetadata)
    (hsize : Acceptable server sent) :
    ∃ results results', receiveTcpFrame client nowNs ⟨results, tcpMessage server sent ++ rest⟩ =
      some (.ok (deliveredTcpFrame server sent nowNs), ⟨results', rest⟩) := by
  have htimely : Timely [] :=
    ⟨fun _ hmem => (by cases hmem), fun _ hmem => (by cases hmem), fun block hblock _ => by
      rw [List.infix_nil.mp hblock]
      exact Nat.succ_pos _⟩
  obtain ⟨results', hread, -⟩ := receiveTcpFrame_append nowNs rest hmetadata hsize
    (htimely.append_data _) (chunks_append_data [] _)
  exact ⟨_, results', hread⟩

/-- A frame that is read where a message begins is the frame of this message. -/
theorem receiveTcpFrame_message {rest : Bytes}
    (hmetadata : server.embedFrameMetadata = client.expectMetadata)
    (hsize : Acceptable server sent)
    (hread : receiveTcpFrame client nowNs ⟨results, tcpMessage server sent ++ rest⟩ =
      some (.ok frame, socket)) :
    frame = deliveredTcpFrame server sent nowNs ∧ socket.stream = rest := by
  obtain ⟨first, last, hwhole⟩ := exists_receiveTcpFrame nowNs rest hmetadata hsize
  have hsame := receiveTcpFrame_readsPrefix client nowNs first results _ [] _ _ _ _ hwhole
    (by rwa [List.append_nil])
  exact ⟨hsame.1, hsame.2.trans (List.append_nil rest)⟩

/-- The beginning of a message is not read as a frame. -/
theorem receiveTcpFrame_part {part : Bytes}
    (hmetadata : server.embedFrameMetadata = client.expectMetadata)
    (hsize : Acceptable server sent) (hpart : part <+: tcpMessage server sent)
    (hproper : part ≠ tcpMessage server sent) :
    receiveTcpFrame client nowNs ⟨results, part⟩ ≠ some (.ok frame, socket) := by
  intro hread
  obtain ⟨more, hmore⟩ := hpart
  obtain ⟨first, last, hwhole⟩ := exists_receiveTcpFrame nowNs [] hmetadata hsize
  rw [List.append_nil, ← hmore] at hwhole
  have hrest := (receiveTcpFrame_readsPrefix client nowNs _ _ part more _ _ _ _ hread hwhole).2
  have hnil : more = [] := (List.append_eq_nil_iff.mp hrest.symm).2
  exact hproper (by rw [← hmore, hnil, List.append_nil])

theorem receiveTcpFrame_nil :
    receiveTcpFrame client nowNs ⟨results, []⟩ ≠ some (.ok frame, socket) := by
  intro hread
  simp only [receiveTcpFrame, receiveThen, receiveAll] at hread
  split at hread
  · cases hread
  · cases hread
  rename_i bytes first hfirst
  have hlength := (receiveAllLoop_ok hfirst).1
  rw [List.length_nil, sizeofMessageHeader] at hlength
  omega

end

/-! ### What a session has sent -/

/-- Frames that the client takes. -/
def TakenBy (server : TransportConfig) (frames : List EncodedFrame) : Prop :=
  ∀ frame ∈ frames, ∀ nowNs, Acceptable server ⟨frame, nowNs⟩

/-- No frame is behind the last message. -/
def NoFrame (client : ClientConfig) (tail : Bytes) : Prop :=
  ∀ nowNs results frame socket,
    receiveTcpFrame client nowNs ⟨results, tail⟩ ≠ some (.ok frame, socket)

theorem receiveTcpFrames_sent {server : TransportConfig} {client : ClientConfig} {tail : Bytes}
    {clocks : List ℕ} {sent : List SentFrame} {results : List RecvResult}
    {frames : List ReceivedFrame} {socket : TcpSocket}
    (hmetadata : server.embedFrameMetadata = client.expectMetadata)
    (hsize : ∀ frame ∈ sent, Acceptable server frame) (htail : NoFrame client tail)
    (hread : receiveTcpFrames client clocks ⟨results, sent.flatMap (tcpMessage server) ++ tail⟩ =
      some (.ok frames, socket)) :
    clocks.length ≤ sent.length ∧ frames = List.zipWith (deliveredTcpFrame server) sent clocks := by
  induction clocks generalizing sent results frames with
  | nil =>
      cases hread
      exact ⟨Nat.zero_le _, by simp⟩
  | cons nowNs clocks ih =>
      rw [receiveTcpFrames] at hread
      split at hread
      · cases hread
      · cases hread
      rename_i frame first hfirst
      split at hread
      · cases hread
      · cases hread
      rename_i rest last hrest
      cases hread
      cases sent with
      | nil => exact absurd hfirst (htail nowNs results frame first)
      | cons message sent =>
          rw [List.flatMap_cons, List.append_assoc] at hfirst
          obtain ⟨hframe, hstream⟩ :=
            receiveTcpFrame_message hmetadata (hsize message List.mem_cons_self) hfirst
          obtain ⟨results', stream'⟩ := first
          subst hstream
          obtain ⟨hlength, hframes⟩ :=
            ih (fun other hother => hsize other (List.mem_cons_of_mem _ hother)) hrest
          exact ⟨Nat.succ_le_succ hlength, by rw [hframe, hframes, List.zipWith_cons_cons]⟩

section

variable {cfg : TransportConfig} {client : ClientConfig} {c : TcpConnection}

/-- The frame that the send thread has in hand was offered to the session, like those sent. -/
theorem ConnectionAccount.offered (h : ConnectionAccount cfg c) :
    ∀ frame ∈ c.sent.map SentFrame.frame ++ frameInHand c, frame ∈ c.session.offered := by
  intro frame hframe
  have hpopped := h.ledger.popped_order.subset hframe
  obtain ⟨queued, hqueued, rfl⟩ := List.mem_map.mp hpopped
  have haccepted := h.ledger.accepted_order.subset (List.mem_append_left _ hqueued)
  exact h.ledger.offered_order.subset
    (List.mem_append_left _ (List.mem_map_of_mem (f := QueuedFrame.frame) haccepted))

theorem ConnectionAccount.acceptable (h : ConnectionAccount cfg c)
    (hsize : TakenBy cfg c.session.offered) : ∀ message ∈ c.sent, Acceptable cfg message := by
  rintro ⟨frame, nowNs⟩ hmessage
  exact hsize frame (h.offered frame (List.mem_append_left _
    (List.mem_map_of_mem (f := SentFrame.frame) hmessage))) nowNs

theorem ConnectionAccount.written_eq (h : ConnectionAccount cfg c) :
    ∃ part, c.written = sentBytes cfg c ++ part := by
  have hpart := h.wire.part
  rw [PartWritten] at hpart
  split at hpart
  · exact ⟨[], hpart.trans (List.append_nil _).symm⟩
  · obtain ⟨part, hwritten, -⟩ := hpart
    exact ⟨part, hwritten⟩

/-- What a client reads from what the socket of a session has taken. -/
theorem ConnectionAccount.received (h : ConnectionAccount cfg c)
    (hmetadata : cfg.embedFrameMetadata = client.expectMetadata)
    (hsize : TakenBy cfg c.session.offered) {clocks : List ℕ} {results : List RecvResult}
    {frames : List ReceivedFrame} {socket : TcpSocket}
    (hread : receiveTcpFrames client clocks ⟨results, c.written⟩ = some (.ok frames, socket)) :
    clocks.length ≤ c.sent.length ∧
      frames = List.zipWith (deliveredTcpFrame cfg) c.sent clocks := by
  have hsent := h.acceptable hsize
  have hpart := h.wire.part
  rw [PartWritten] at hpart
  split at hpart
  · rw [hpart, ← List.append_nil (sentBytes cfg c)] at hread
    exact receiveTcpFrames_sent hmetadata hsent (fun _ _ _ _ => receiveTcpFrame_nil) hread
  · rename_i message hunfinished
    obtain ⟨part, hwritten, hbeginning, hproper⟩ := hpart
    rw [hwritten] at hread
    have hacceptable : Acceptable cfg message := by
      refine hsize message.frame (h.offered _ (List.mem_append_right _ ?_)) _
      rw [h.wire.frameInHand_of_unfinished hunfinished]
      exact List.mem_singleton_self _
    exact receiveTcpFrames_sent hmetadata hsent
      (fun _ _ _ _ => receiveTcpFrame_part hmetadata hacceptable hbeginning hproper) hread

end

end AvProject.Tcp
