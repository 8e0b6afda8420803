import AvProject.Client.StreamClientTcp
import AvProject.Tcp.SessionQueue
import Mathlib.Data.List.Infix

/-!
Frames over TCP. `SendFrame` writes a header, the metadata where it is embedded, and the
payload; `ReceiveTcpFrame` reads the same three parts back, from a stream cut anywhere.
-/

namespace AvProject.Tcp

open AvProject.Lib AvProject.Protocol AvProject.Server AvProject.Client

/-! ### Sending -/

/-- Where the loop returns true, the socket has taken all of the message, once. -/
theorem sendPartsLoop_sent {outcomes : List SendOutcome} {parts : List Bytes}
    (h : (sendPartsLoop outcomes parts).2 = some true) :
    (sendPartsLoop outcomes parts).1 = parts.flatten := by
  induction outcomes generalizing parts with
  | nil =>
      cases parts with
      | nil => rfl
      | cons part parts => cases h
  | cons outcome outcomes ih =>
      cases parts with
      | nil => rfl
      | cons part parts =>
          cases outcome with
          | stopped => cases h
          | failed => cases h
          | interrupted => exact ih h
          | sent count =>
              rw [sendPartsLoop] at h ⊢
              split at h
              · cases h
              · rename_i hcount
                rw [if_neg hcount]
                show _ ++ (sendPartsLoop outcomes _).1 = _
                rw [ih h, flatten_advanceParts, List.take_append_drop]

/-- What a frame is on the wire. -/
def tcpMessage (cfg : TransportConfig) (sent : SentFrame) : Bytes :=
  (tcpMessageHeader cfg sent).toBytes ++ (tcpMetadataBytes cfg sent ++ sent.frame.payload)

theorem sendFrame_sent {cfg : TransportConfig} {sent : SentFrame} {outcomes : List SendOutcome}
    (h : (sendFrame cfg sent outcomes).2 = some true) :
    (sendFrame cfg sent outcomes).1 = tcpMessage cfg sent := by
  have hfilter (parts : List Bytes) :
      (parts.filter fun part => part ≠ []).flatten = parts.flatten := by
    induction parts with
    | nil => rfl
    | cons part parts ih =>
        by_cases hpart : part = []
        · simp [hpart, ← ih]
        · simp [hpart, ← ih]
  rw [sendFrame, sendMessageParts] at h ⊢
  rw [sendPartsLoop_sent h, hfilter, tcpMessage]
  simp

/-! ### Receiving -/

def isData : RecvResult → Bool
  | .data _ => true
  | _ => false

/-- `recv` only fails by being interrupted or by timing out, and does not time out too often
between two chunks of data. -/
structure Timely (results : List RecvResult) : Prop where
  pos : ∀ count, .data count ∈ results → 0 < count
  not_failed : ∀ reason, .failed reason ∉ results
  timeouts : ∀ block, block <:+: results → (∀ result ∈ block, isData result = false) →
    block.count .wouldBlock < kMaxConsecutiveTimeouts

/-- The chunks that are still to come. -/
def chunks (results : List RecvResult) : ℕ := results.countP isData

theorem Timely.tail {result : RecvResult} {results : List RecvResult}
    (h : Timely (result :: results)) : Timely results where
  pos count hmem := h.pos count (List.mem_cons_of_mem result hmem)
  not_failed reason hmem := h.not_failed reason (List.mem_cons_of_mem result hmem)
  timeouts block hblock := h.timeouts block (hblock.trans (List.suffix_cons result results).isInfix)

/-- The timeouts before the next chunk, on top of those since the last one. -/
def PatientFor (timeouts : ℕ) (results : List RecvResult) : Prop :=
  ∀ block, block <+: results → (∀ result ∈ block, isData result = false) →
    timeouts + block.count .wouldBlock < kMaxConsecutiveTimeouts

theorem Timely.patientFor {results : List RecvResult} (h : Timely results) :
    PatientFor 0 results := by
  intro block hblock hdata
  rw [Nat.zero_add]
  exact h.timeouts block hblock.isInfix hdata

theorem PatientFor.tail {timeouts : ℕ} {result : RecvResult} {results : List RecvResult}
    (h : PatientFor timeouts (result :: results)) (hresult : isData result = false) :
    PatientFor (timeouts + [result].count .wouldBlock) results := by
  intro block hblock hdata
  have hcons := h (result :: block) (List.cons_prefix_cons.mpr ⟨rfl, hblock⟩) (by
    intro other hother
    rcases List.mem_cons.mp hother with rfl | hother
    · exact hresult
    · exact hdata other hother)
  rw [← List.singleton_append, List.count_append] at hcons
  omega

/-- The loop reads exactly the bytes it is asked for, however they come. -/
theorem receiveAllLoop_append {results : List RecvResult} {timeouts : ℕ} (wanted rest buffer : Bytes)
    (htimely : Timely results) (hpatient : PatientFor timeouts results)
    (hchunks : wanted.length ≤ chunks results) :
    ∃ results', receiveAllLoop results (wanted ++ rest) wanted.length timeouts buffer =
        some (.ok (buffer ++ wanted), ⟨results', rest⟩) ∧
      Timely results' ∧ chunks results ≤ chunks results' + wanted.length := by
  induction results generalizing timeouts wanted buffer with
  | nil =>
      obtain rfl : wanted = [] := List.eq_nil_of_length_eq_zero (Nat.le_zero.mp hchunks)
      exact ⟨[], by simp [receiveAllLoop], htimely, Nat.le_refl _⟩
  | cons result results ih =>
      rcases Nat.eq_zero_or_pos wanted.length with hzero | hpos
      · obtain rfl := List.eq_nil_of_length_eq_zero hzero
        exact ⟨result :: results, by simp [receiveAllLoop], htimely, by simp⟩
      obtain ⟨missing, hmissing⟩ : ∃ missing, wanted.length = missing + 1 :=
        ⟨wanted.length - 1, by omega⟩
      cases result with
      | interrupted =>
          obtain ⟨results', hloop, htimely', hleft⟩ :=
            ih wanted buffer htimely.tail (hpatient.tail rfl) hchunks
          refine ⟨results', ?_, htimely', hleft⟩
          rw [hmissing] at hloop ⊢
          exact hloop
      | wouldBlock =>
          obtain ⟨results', hloop, htimely', hleft⟩ :=
            ih wanted buffer htimely.tail (hpatient.tail rfl) hchunks
          refine ⟨results', ?_, htimely', hleft⟩
          have hfew := hpatient [.wouldBlock] (by simp) (by simp [isData])
          rw [List.count_singleton_self] at hfew
          rw [hmissing] at hloop ⊢
          rw [receiveAllLoop, if_neg (by omega)]
          exact hloop
      | failed reason => exact absurd (List.mem_cons_self) (htimely.not_failed reason)
      | data count =>
          have hcount : 0 < count := htimely.pos count List.mem_cons_self
          have hrecv : chunks (.data count :: results) = chunks results + 1 :=
            List.countP_cons_of_pos rfl
          obtain ⟨size, hsize⟩ : ∃ size, min count (missing + 1) = size := ⟨_, rfl⟩
          have htake : (wanted ++ rest).take size = wanted.take size :=
            List.take_append_of_le_length (by omega)
          have hlength : (wanted.take size).length = size := by
            rw [List.length_take]
            omega
          have hdrop : (wanted ++ rest).drop size = wanted.drop size ++ rest :=
            List.drop_append_of_le_length (by omega)
          have hrest : (wanted.drop size).length = missing + 1 - size := by
            rw [List.length_drop, hmissing]
          obtain ⟨results', hloop, htimely', hleft⟩ := ih (wanted.drop size)
            (buffer ++ wanted.take size) htimely.tail htimely.tail.patientFor (by omega)
          refine ⟨results', ?_, htimely', by omega⟩
          rw [hmissing, receiveAllLoop, hsize, htake, hlength, hdrop,
            if_neg (List.ne_nil_of_length_pos (by omega)), ← hrest, hloop, List.append_assoc,
            List.take_append_drop]

/-- A read that is followed by something else. -/
theorem receiveThen_append {α : Type} {results : List RecvResult} {length : ℕ} (wanted rest : Bytes)
    (hlength : wanted.length = length) (htimely : Timely results)
    (hchunks : wanted.length ≤ chunks results) :
    ∃ results', (∀ next : Bytes → TcpSocket → Option (Except String α × TcpSocket),
        receiveThen ⟨results, wanted ++ rest⟩ length next = next wanted ⟨results', rest⟩) ∧
      Timely results' ∧ chunks results ≤ chunks results' + wanted.length := by
  obtain ⟨results', hloop, htimely', hleft⟩ :=
    receiveAllLoop_append wanted rest [] htimely htimely.patientFor hchunks
  refine ⟨results', fun next => ?_, htimely', hleft⟩
  rw [receiveThen, receiveAll, ← hlength, hloop, List.nil_append]

/-- What the client makes of the frame. -/
def deliveredTcpFrame (cfg : TransportConfig) (sent : SentFrame) (nowNs : ℕ) : ReceivedFrame where
  header := tcpMessageHeader cfg sent
  metadata := if cfg.embedFrameMetadata then tcpFrameMetadata sent else FrameDiagnosticMetadata.zero
  senderMetadataAvailable :=
    cfg.embedFrameMetadata && hasSenderLatencyMetadata (tcpFrameMetadata sent)
  receiveTimestampNs := nowNs
  payload := sent.frame.payload

/-- The frame is as long as the client allows. -/
def Acceptable (cfg : TransportConfig) (sent : SentFrame) : Prop :=
  (tcpMetadataBytes cfg sent).length + sent.frame.payload.length ≤ kMaxPayloadLength

theorem tcpFrameMetadata_ofBytes_toBytes (sent : SentFrame) :
    FrameDiagnosticMetadata.ofBytes (tcpFrameMetadata sent).toBytes = tcpFrameMetadata sent :=
  FrameDiagnosticMetadata.ofBytes_toBytes sent.frame.sequence_lt sent.frame.captureTimestampNs_lt
    sent.frame.encodeStartTimestampNs_lt sent.frame.encodeEndTimestampNs_lt
    sent.transportSendTimestampNs.toNat_lt

/-- The length field covers metadata and payload, and does not overflow. -/
theorem tcpMessageHeader_payloadLength {cfg : TransportConfig} {sent : SentFrame}
    (hsize : Acceptable cfg sent) : (tcpMessageHeader cfg sent).payloadLength =
      (tcpMetadataBytes cfg sent).length + sent.frame.payload.length := by
  have hlength : (if cfg.embedFrameMetadata then
        sizeofFrameDiagnosticMetadata + sent.frame.payload.length
      else sent.frame.payload.length) =
      (tcpMetadataBytes cfg sent).length + sent.frame.payload.length := by
    rw [tcpMetadataBytes]
    split <;> simp
  have hsmall : kMaxPayloadLength < 2 ^ 32 := by norm_num [kMaxPayloadLength]
  rw [tcpMessageHeader, hlength]
  exact Nat.mod_eq_of_lt (lt_of_le_of_lt hsize hsmall)

/-- The last part of a call: the payload, up to the next header. -/
theorem receiveTcpPayload_append {results : List RecvResult} {header : MessageHeader}
    {metadata : FrameDiagnosticMetadata} {senderMetadataAvailable : Bool} {payloadLength : ℕ}
    (nowNs : ℕ) (payload rest : Bytes) (hlength : payload.length = payloadLength)
    (htimely : Timely results) (hchunks : payload.length ≤ chunks results) :
    ∃ results', receiveTcpPayload header metadata senderMetadataAvailable payloadLength nowNs
        ⟨results, payload ++ rest⟩ =
        some (.ok ⟨header, metadata, senderMetadataAvailable, nowNs, payload⟩, ⟨results', rest⟩) ∧
      Timely results' ∧ chunks results ≤ chunks results' + payload.length := by
  obtain ⟨results', hread, hrest⟩ := receiveThen_append payload rest hlength htimely hchunks
  exact ⟨results', by rw [receiveTcpPayload, hread], hrest⟩

/-- One call reads one frame and stops at the next header. -/
theorem receiveTcpFrame_append {server : TransportConfig} {client : ClientConfig}
    {sent : SentFrame} {results : List RecvResult} (nowNs : ℕ) (rest : Bytes)
    (hmetadata : server.embedFrameMetadata = client.expectMetadata)
    (hsize : Acceptable server sent) (htimely : Timely results)
    (hchunks : (tcpMessage server sent).length ≤ chunks results) :
    ∃ results', receiveTcpFrame client nowNs ⟨results, tcpMessage server sent ++ rest⟩ =
        some (.ok (deliveredTcpFrame server sent nowNs), ⟨results', rest⟩) ∧
      Timely results' ∧
      chunks results ≤ chunks results' + (tcpMessage server sent).length := by
  have hheader : (tcpMessageHeader server sent).toBytes.length = sizeofMessageHeader :=
    length_toBytes_buildMessageHeader _ _ _
  have hread : MessageHeader.ofBytes (tcpMessageHeader server sent).toBytes =
      tcpMessageHeader server sent := by
    have happend := MessageHeader.ofBytes_toBytes_append .kAvStream sent.frame.type.code
      (if server.embedFrameMetadata then sizeofFrameDiagnosticMetadata + sent.frame.payload.length
        else sent.frame.payload.length) []
    rwa [List.append_nil] at happend
  have hmagic : hasValidMessageMagic (tcpMessageHeader server sent) = true :=
    hasValidMessageMagic_buildMessageHeader _ _ _
  have hlength := tcpMessageHeader_payloadLength hsize
  rw [Acceptable] at hsize
  rw [tcpMessage, List.length_append, List.length_append] at hchunks ⊢
  rw [List.append_assoc, List.append_assoc]
  obtain ⟨results₁, hfirst, htimely₁, hleft₁⟩ := receiveThen_append
    (tcpMessageHeader server sent).toBytes (tcpMetadataBytes server sent ++
      (sent.frame.payload ++ rest)) hheader htimely (by omega)
  rw [receiveTcpFrame, hfirst]
  simp only [hread, hmagic, Bool.true_eq_false, if_false]
  rw [if_neg (by omega)]
  -- The two sides agree on whether the metadata comes next.
  cases hembed : server.embedFrameMetadata with
  | true =>
      have hbytes : tcpMetadataBytes server sent = (tcpFrameMetadata sent).toBytes := by
        rw [tcpMetadataBytes, hembed, if_pos rfl]
      have hbytesLength : (tcpFrameMetadata sent).toBytes.length = sizeofFrameDiagnosticMetadata :=
        length_toBytes_frameDiagnosticMetadata _
      rw [hbytes] at hlength hchunks ⊢
      rw [if_pos (hmetadata.symm.trans hembed), if_neg (by omega)]
      obtain ⟨results₂, hsecond, htimely₂, hleft₂⟩ := receiveThen_append
        (tcpFrameMetadata sent).toBytes (sent.frame.payload ++ rest) hbytesLength htimely₁
        (by omega)
      rw [hsecond]
      simp only [tcpFrameMetadata_ofBytes_toBytes]
      obtain ⟨results₃, hthird, htimely₃, hleft₃⟩ := receiveTcpPayload_append nowNs
        sent.frame.payload rest (show sent.frame.payload.length =
          (tcpMessageHeader server sent).payloadLength - sizeofFrameDiagnosticMetadata by omega)
        htimely₂ (by omega)
      refine ⟨results₃, ?_, htimely₃, by omega⟩
      rw [hthird, deliveredTcpFrame, hembed, if_pos rfl, Bool.true_and]
  | false =>
      have hbytes : tcpMetadataBytes server sent = [] := by
        rw [tcpMetadataBytes, hembed, if_neg Bool.false_ne_true]
      have hexpect : ¬ client.expectMetadata = true := by
        rw [← hmetadata, hembed]
        exact Bool.false_ne_true
      rw [hbytes, List.length_nil] at hlength hchunks
      rw [hbytes, List.nil_append, List.length_nil, if_neg hexpect]
      obtain ⟨results₃, hthird, htimely₃, hleft₃⟩ := receiveTcpPayload_append nowNs
        sent.frame.payload rest
        (show sent.frame.payload.length = (tcpMessageHeader server sent).payloadLength by omega)
        htimely₁ (by omega)
      refine ⟨results₃, ?_, htimely₃, by omega⟩
      rw [hthird, deliveredTcpFrame, hembed, if_neg Bool.false_ne_true, Bool.false_and]

/-! ### Many frames -/

/-- A call of `SendFrame`: the frame, what its `sendmsg` calls meet, and the client's clock
when it has read the frame. -/
structure TcpTransfer where
  sent : SentFrame
  outcomes : List SendOutcome
  receivedNs : ℕ

/-- The stream that the calls write. -/
def tcpStream (cfg : TransportConfig) (transfers : List TcpTransfer) : Bytes :=
  transfers.flatMap fun transfer => (sendFrame cfg transfer.sent transfer.outcomes).1

theorem receiveTcpFrames_messages {server : TransportConfig} {client : ClientConfig}
    {transfers : List TcpTransfer} {results : List RecvResult} (rest : Bytes)
    (hmetadata : server.embedFrameMetadata = client.expectMetadata)
    (hsize : ∀ transfer ∈ transfers, Acceptable server transfer.sent) (htimely : Timely results)
    (hchunks : (transfers.flatMap fun transfer => tcpMessage server transfer.sent).length ≤
      chunks results) :
    ∃ results', receiveTcpFrames client (transfers.map TcpTransfer.receivedNs)
        ⟨results, (transfers.flatMap fun transfer => tcpMessage server transfer.sent) ++ rest⟩ =
        some (.ok (transfers.map fun transfer =>
          deliveredTcpFrame server transfer.sent transfer.receivedNs), ⟨results', rest⟩) := by
  induction transfers generalizing results with
  | nil => exact ⟨results, rfl⟩
  | cons transfer transfers ih =>
      rw [List.flatMap_cons, List.length_append] at hchunks
      obtain ⟨results₁, hfirst, htimely₁, hleft₁⟩ := receiveTcpFrame_append transfer.receivedNs
        ((transfers.flatMap fun transfer => tcpMessage server transfer.sent) ++ rest) hmetadata
        (hsize transfer List.mem_cons_self) htimely (by omega)
      obtain ⟨results₂, hrest⟩ :=
        ih (fun other hother => hsize other (List.mem_cons_of_mem _ hother)) htimely₁ (by omega)
      refine ⟨results₂, ?_⟩
      rw [List.flatMap_cons, List.append_assoc, List.map_cons, receiveTcpFrames, hfirst]
      simp only [hrest, List.map_cons]

/-! ### Reads that have returned -/

/-- What a reader returns does not depend on what `recv` would meet afterwards. -/
def Settled {α : Type} (read : TcpSocket → Option (α × TcpSocket)) : Prop :=
  ∀ results stream more result socket, read ⟨results, stream⟩ = some (result, socket) →
    read ⟨results ++ more, stream⟩ = some (result, ⟨socket.results ++ more, socket.stream⟩)

theorem settled_return {α : Type} (result : α) : Settled fun socket => some (result, socket) := by
  intro results stream more result' socket h
  cases h
  rfl

theorem receiveAllLoop_settled {results : List RecvResult} {stream : Bytes}
    {missing timeouts : ℕ} {buffer : Bytes} {result : Except String Bytes} {socket : TcpSocket}
    (more : List RecvResult)
    (h : receiveAllLoop results stream missing timeouts buffer = some (result, socket)) :
    receiveAllLoop (results ++ more) stream missing timeouts buffer =
      some (result, ⟨socket.results ++ more, socket.stream⟩) := by
  induction results generalizing stream missing timeouts buffer with
  | nil =>
      cases missing with
      | zero =>
          rw [receiveAllLoop] at h ⊢
          cases h
          rfl
      | succ missing => cases h
  | cons first results ih =>
      cases missing with
      | zero =>
          rw [receiveAllLoop] at h ⊢
          cases h
          rfl
      | succ missing =>
          cases first with
          | interrupted => exact ih h
          | wouldBlock =>
              rw [List.cons_append]
              rw [receiveAllLoop] at h ⊢
              split at h
              · rename_i hlimit
                rw [if_pos hlimit]
                cases h
                rfl
              · rename_i hlimit
                rw [if_neg hlimit]
                exact ih h
          | failed reason =>
              cases h
              rfl
          | data count =>
              rw [List.cons_append]
              rw [receiveAllLoop] at h ⊢
              split at h
              · rename_i hchunk
                rw [if_pos hchunk]
                cases h
                rfl
              · rename_i hchunk
                rw [if_neg hchunk]
                exact ih h

theorem receiveThen_settled {α : Type} {length : ℕ}
    {next : Bytes → TcpSocket → Option (Except String α × TcpSocket)}
    (hnext : ∀ bytes, Settled (next bytes)) :
    Settled fun socket => receiveThen socket length next := by
  intro results stream more result socket h
  simp only [receiveThen, receiveAll] at h ⊢
  cases hread : receiveAllLoop results stream length 0 [] with
  | none =>
      rw [hread] at h
      cases h
  | some read =>
      obtain ⟨bytes, socket'⟩ := read
      rw [hread] at h
      rw [receiveAllLoop_settled more hread]
      cases bytes with
      | error message =>
          cases h
          rfl
      | ok bytes => exact hnext bytes _ _ more result socket h

theorem receiveTcpPayload_settled (header : MessageHeader) (metadata : FrameDiagnosticMetadata)
    (senderMetadataAvailable : Bool) (payloadLength nowNs : ℕ) :
    Settled (receiveTcpPayload header metadata senderMetadataAvailable payloadLength nowNs) :=
  receiveThen_settled fun _ => settled_return _

theorem receiveTcpFrame_settled (client : ClientConfig) (nowNs : ℕ) :
    Settled (receiveTcpFrame client nowNs) := by
  refine receiveThen_settled fun bytes => ?_
  simp only
  split
  · exact settled_return _
  split
  · exact settled_return _
  split
  · split
    · exact settled_return _
    · exact receiveThen_settled fun bytes => receiveTcpPayload_settled _ _ _ _ _
  · exact receiveTcpPayload_settled _ _ _ _ _

theorem receiveTcpFrames_settled (client : ClientConfig) (clocks : List ℕ) :
    Settled (receiveTcpFrames client clocks) := by
  induction clocks with
  | nil => exact settled_return _
  | cons nowNs clocks ih =>
      intro results stream more result socket h
      rw [receiveTcpFrames] at h ⊢
      cases hfirst : receiveTcpFrame client nowNs ⟨results, stream⟩ with
      | none =>
          rw [hfirst] at h
          cases h
      | some first =>
          obtain ⟨frame, socket₁⟩ := first
          rw [hfirst] at h
          rw [receiveTcpFrame_settled client nowNs results stream more frame socket₁ hfirst]
          cases frame with
          | error message =>
              cases h
              rfl
          | ok frame =>
              simp only at h ⊢
              cases hrest : receiveTcpFrames client clocks socket₁ with
              | none =>
                  rw [hrest] at h
                  cases h
              | some rest =>
                  obtain ⟨frames, socket₂⟩ := rest
                  rw [hrest] at h
                  rw [ih socket₁.results socket₁.stream more frames socket₂ hrest]
                  cases frames <;> cases h <;> rfl

theorem Timely.append_data {results : List RecvResult} (h : Timely results) (count : ℕ) :
    Timely (results ++ List.replicate count (.data 1)) where
  pos size hmem := by
    rcases List.mem_append.mp hmem with hmem | hmem
    · exact h.pos size hmem
    · obtain ⟨-, hsize⟩ := List.mem_replicate.mp hmem
      obtain rfl : size = 1 := RecvResult.data.inj hsize
      exact Nat.one_pos
  not_failed reason hmem := by
    rcases List.mem_append.mp hmem with hmem | hmem
    · exact h.not_failed reason hmem
    · cases (List.mem_replicate.mp hmem).2
  timeouts block hblock hdata := by
    obtain ⟨before, after, hsplit⟩ := hblock
    -- A block without data ends before the chunks that were added.
    rcases List.eq_nil_or_concat block with rfl | ⟨init, last, rfl⟩
    · simp [kMaxConsecutiveTimeouts]
    · refine h.timeouts _ ?_ hdata
      rw [List.append_eq_append_iff] at hsplit
      rcases hsplit with ⟨middle, hmiddle, -⟩ | ⟨middle, hmiddle, hreplicate⟩
      · exact ⟨before, middle, hmiddle.symm⟩
      · rcases List.eq_nil_or_concat middle with rfl | ⟨start, final, rfl⟩
        · rw [List.append_nil] at hmiddle
          exact ⟨before, [], by rw [List.append_nil]; exact hmiddle⟩
        · have hfinal : final = last := by
            have hcongr := congrArg List.getLast? hmiddle
            simpa using hcongr.symm
          have hmem : final ∈ List.replicate count (RecvResult.data 1) := by
            rw [hreplicate]
            simp
          obtain ⟨-, rfl⟩ := List.mem_replicate.mp hmem
          have hlast := hdata last (by simp)
          rw [← hfinal] at hlast
          cases hlast

theorem chunks_append_data (results : List RecvResult) (count : ℕ) :
    count ≤ chunks (results ++ List.replicate count (.data 1)) := by
  have hdata : (List.replicate count (RecvResult.data 1)).countP isData = count := by
    rw [List.countP_replicate]
    exact if_pos rfl
  rw [chunks, List.countP_append, hdata]
  exact Nat.le_add_left count _

/-- Frames that `SendFrame` has sent come out of successive calls of `ReceiveTcpFrame` as they
were, and the next call begins where they end; the calls return once `recv` has returned
often enough. -/
theorem receiveTcpFrames_round_trip {server : TransportConfig} {client : ClientConfig}
    {transfers : List TcpTransfer} {results : List RecvResult} (rest : Bytes)
    (hmetadata : server.embedFrameMetadata = client.expectMetadata)
    (hsize : ∀ transfer ∈ transfers, Acceptable server transfer.sent)
    (hsent : ∀ transfer ∈ transfers,
      (sendFrame server transfer.sent transfer.outcomes).2 = some true)
    (htimely : Timely results) :
    (∀ result socket, receiveTcpFrames client (transfers.map TcpTransfer.receivedNs)
        ⟨results, tcpStream server transfers ++ rest⟩ = some (result, socket) →
      result = .ok (transfers.map fun transfer =>
        deliveredTcpFrame server transfer.sent transfer.receivedNs) ∧ socket.stream = rest) ∧
      ((tcpStream server transfers).length ≤ chunks results →
        (receiveTcpFrames client (transfers.map TcpTransfer.receivedNs)
          ⟨results, tcpStream server transfers ++ rest⟩).isSome = true) := by
  have hstream : tcpStream server transfers =
      transfers.flatMap fun transfer => tcpMessage server transfer.sent := by
    rw [tcpStream]
    exact List.flatMap_congr fun transfer hmem => sendFrame_sent (hsent transfer hmem)
  rw [hstream]
  constructor
  · intro result socket hread
    let count := (transfers.flatMap fun transfer => tcpMessage server transfer.sent).length
    obtain ⟨results', hmore⟩ := receiveTcpFrames_messages rest hmetadata hsize
      (htimely.append_data count) (chunks_append_data results count)
    rw [receiveTcpFrames_settled _ _ _ _ _ _ _ hread] at hmore
    obtain ⟨hresult, hsocket⟩ := Prod.mk.inj (Option.some.inj hmore)
    exact ⟨hresult, congrArg TcpSocket.stream hsocket⟩
  · intro hchunks
    obtain ⟨results', hread⟩ := receiveTcpFrames_messages rest hmetadata hsize htimely hchunks
    rw [hread]
    rfl

/-- Frames with their timestamps. -/
def embedding : TransportConfig := { embedFrameMetadata := true }

/-- Two frames with data; the socket takes the first in three parts. -/
def twoTransfers : List TcpTransfer :=
  [⟨⟨.numbered 1 40 true [9, 8, 7], 50⟩, [.sent 5, .interrupted, .sent 20, .sent 30], 60⟩,
    ⟨⟨.numbered 2 80 false (countedBytes 20), 90⟩, [.sent 72], 100⟩]

/-- Timeouts, then data in chunks; most of them hold more than is asked for. -/
def fewTimeouts : List RecvResult :=
  List.replicate 3 .wouldBlock ++ .interrupted :: .data 7 :: List.replicate 4 .wouldBlock ++
    List.replicate 130 (.data 30)

theorem timely_fewTimeouts : Timely fewTimeouts where
  pos count hmem := by
    have hcount : count = 7 ∨ count = 30 := by simpa [fewTimeouts] using hmem
    omega
  not_failed reason := by simp [fewTimeouts]
  timeouts block hblock _ := by
    have hle := hblock.sublist.count_le .wouldBlock
    have hcount : fewTimeouts.count .wouldBlock = 7 := by decide
    rw [hcount] at hle
    exact lt_of_le_of_lt hle (by decide)

/-- Both frames come out, and the next bytes are left. -/
theorem twoTransfers_round_trip :
    ∃ socket, receiveTcpFrames {} [60, 100]
        ⟨fewTimeouts, tcpStream embedding twoTransfers ++ [1, 2]⟩ =
      some (.ok (twoTransfers.map fun transfer =>
        deliveredTcpFrame embedding transfer.sent transfer.receivedNs), socket) ∧
      socket.stream = [1, 2] := by
  have hsize : ∀ transfer ∈ twoTransfers, Acceptable embedding transfer.sent := by
    simp only [Acceptable]
    decide +kernel
  have hsent : ∀ transfer ∈ twoTransfers,
      (sendFrame embedding transfer.sent transfer.outcomes).2 = some true := by decide +kernel
  have hmetadata : embedding.embedFrameMetadata = ({} : ClientConfig).expectMetadata := rfl
  obtain ⟨hread, hreturns⟩ :=
    receiveTcpFrames_round_trip [1, 2] hmetadata hsize hsent timely_fewTimeouts
  have hchunks : (tcpStream embedding twoTransfers).length ≤ chunks fewTimeouts := by
    decide +kernel
  obtain ⟨⟨result, socket⟩, heq⟩ := Option.isSome_iff_exists.mp (hreturns hchunks)
  obtain ⟨rfl, hstream⟩ := hread result socket heq
  exact ⟨socket, heq, hstream⟩

/-- An empty frame, its header taken by the socket in two parts. -/
def emptyTransfer : TcpTransfer := ⟨⟨emptyFrame true, 7⟩, [.sent 5, .interrupted, .sent 7], 9⟩

theorem acceptable_emptyTransfer : Acceptable {} emptyTransfer.sent := Nat.zero_le _

/-- Ten timeouts without data, but with an interruption after the ninth. -/
def interruptedTimeouts : List RecvResult :=
  List.replicate 9 .wouldBlock ++ .interrupted :: .wouldBlock :: List.replicate 12 (.data 1)

/-- An interruption does not start the count of timeouts again. -/
theorem interruptedTimeouts_fail :
    (∀ count, .data count ∈ interruptedTimeouts → 0 < count) ∧
      (∀ reason, .failed reason ∉ interruptedTimeouts) ∧
      (∀ count, List.replicate count .wouldBlock <:+: interruptedTimeouts → count < 10) ∧
      Acceptable {} emptyTransfer.sent ∧
      (sendFrame {} emptyTransfer.sent emptyTransfer.outcomes).2 = some true ∧
      (tcpStream {} [emptyTransfer]).length ≤ chunks interruptedTimeouts ∧
      ∃ socket, receiveTcpFrames { expectMetadata := false } [9]
          ⟨interruptedTimeouts, tcpStream {} [emptyTransfer]⟩ =
        some (.error "receive timed out", socket) := by
  refine ⟨fun count hmem => ?_, by simp [interruptedTimeouts], fun count hblock => ?_,
    acceptable_emptyTransfer, rfl, by decide, _, rfl⟩
  · obtain rfl : count = 1 := by simpa [interruptedTimeouts] using hmem
    exact Nat.one_pos
  · by_contra hcount
    have hten : List.replicate 10 RecvResult.wouldBlock <:+: interruptedTimeouts := by
      refine List.IsInfix.trans ?_ hblock
      exact ⟨[], List.replicate (count - 10) .wouldBlock, by
        rw [List.nil_append, ← List.replicate_add]
        congr 1
        omega⟩
    revert hten
    decide

end AvProject.Tcp
