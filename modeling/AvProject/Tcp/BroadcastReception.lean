import AvProject.Server.TcpOffers
import AvProject.Tcp.ConnectionReception

/-!
From the encoder to the clients over TCP. Whatever the threads of the backend and of its
sessions do, each session accounts for every frame that is broadcast while it is registered, and
its client reads the frames that were sent, in the order of the broadcasts.
-/

namespace AvProject.Tcp

open AvProject.Lib AvProject.Protocol AvProject.Server AvProject.Client

/-! ### The account of a session -/

/-- Every frame that was offered is in one place; frames are sent in order; what is dropped is no
keyframe, or gives way to one; and the socket has taken the messages of the frames that were
sent, and a part of one more at most. -/
structure SessionAccount (cfg : TransportConfig) (c : TcpConnection) : Prop where
  places : c.session.offered.Perm
    (c.sent.map SentFrame.frame ++ frameInHand c ++ c.stale.map QueuedFrame.frame ++
      (evicted c.session).map QueuedFrame.frame ++ c.session.outboundFrames.map QueuedFrame.frame ++
      c.cleared.map QueuedFrame.frame ++ c.refused ++ heldFrames c.session.enqueuePoint)
  order : (c.sent.map SentFrame.frame ++ frameInHand c).Sublist c.session.offered
  counted : Counted c
  refused : ∀ frame ∈ c.refused, frame.isKeyframe = false
  stale : ∀ queued ∈ c.stale, queued.frame.isKeyframe = false ∧ 0 < cfg.maxQueueWaitMs
  evicted : cfg.queueDropPolicy = "drop_oldest_non_key" →
    ∀ push ∈ c.session.pushes, SparesKeyframes cfg push
  written : PartWritten cfg c

section

variable {cfg : TransportConfig} {c : TcpConnection}

theorem Ledger.order (h : Ledger cfg c) :
    (c.sent.map SentFrame.frame ++ frameInHand c).Sublist c.session.offered := by
  have hpopped : (c.session.popped.map QueuedFrame.frame).Sublist
      ((accepted c.session).map QueuedFrame.frame) :=
    ((List.sublist_append_left _ _).trans h.accepted_order).map QueuedFrame.frame
  exact h.popped_order.trans (hpopped.trans ((List.sublist_append_left _ _).trans h.offered_order))

theorem Ledger.places (h : Ledger cfg c) : c.session.offered.Perm
    (c.sent.map SentFrame.frame ++ frameInHand c ++ c.stale.map QueuedFrame.frame ++
      (evicted c.session).map QueuedFrame.frame ++ c.session.outboundFrames.map QueuedFrame.frame ++
      c.cleared.map QueuedFrame.frame ++ c.refused ++ heldFrames c.session.enqueuePoint) := by
  have hoffered := h.offered_perm
  have haccepted := h.accepted_perm.map QueuedFrame.frame
  have hpopped := h.popped_perm
  rw [← Multiset.coe_eq_coe] at hoffered haccepted hpopped ⊢
  simp only [List.map_append, ← Multiset.coe_add] at hoffered haccepted hpopped ⊢
  rw [hoffered, haccepted, hpopped]
  abel

theorem ConnectionAccount.session (h : ConnectionAccount cfg c) : SessionAccount cfg c :=
  ⟨h.ledger.places, h.ledger.order, h.counted, h.spared.refused, h.spared.stale, h.spared.evicted,
    h.wire.part⟩

end

/-- The account of every session, in every run of the backend. -/
theorem runTcpBackend_accounts {cfg : TransportConfig} {events : List TcpBackendEvent}
    {s : TcpStreamingBackend} (hmax : 0 < cfg.maxPendingFrames)
    (hrun : runTcpBackend cfg events = some s) :
    ∀ client ∈ s.sessions, SessionAccount cfg client.connection := by
  intro client hmem
  obtain ⟨id, hclient⟩ := List.mem_iff_getElem?.mp hmem
  obtain ⟨stream, hreaches⟩ := (runTcpBackend_invariant hrun).session id client hclient
  exact (ConnectionAccount.of_reaches hmax hreaches).session

/-- Frames are sent with their timestamps, and a queue holds one of them. -/
def shortQueue : TransportConfig := { embedFrameMetadata := true, maxPendingFrames := 1 }

/-- The first session takes a frame from its queue, and the socket its bytes. -/
def sendEvents (nowNs : UInt64) (outcomes : List SendOutcome) : List TcpBackendEvent :=
  [.thread 0 .sendProceed, .thread 0 .sendProceed, .thread 0 (.sendClock nowNs)] ++
    outcomes.map fun outcome => .thread 0 (.sendmsg outcome)

/-- A client is sent a frame, and a second one connects that is sent nothing. Of the next two
frames the second takes the place of the first; it is sent, and another one in part. -/
def twoAndAPart : List TcpBackendEvent :=
  .start true :: acceptEvents [] ++ broadcastEvents (streamFrame 1) 7 ++
    sendEvents 5 [.sent 5, .interrupted, .sent 50] ++ acceptEvents [] ++
    broadcastEvents (streamFrame 2) 12 ++ broadcastEvents (streamFrame 3) 14 ++
    sendEvents 6 [.sent 55] ++ broadcastEvents (streamFrame 4) 13 ++ sendEvents 7 [.sent 20]

theorem twoAndAPart_accounts :
    ∃ s, runTcpBackend shortQueue twoAndAPart = some s ∧
      s.sessions.map (fun client =>
        (client.connection.sent.map fun sent => sent.frame.sequence,
          (evicted client.connection.session).map fun queued => queued.frame.sequence)) =
        [([1, 3], [2]), ([], [2, 3])] ∧
      ∀ client ∈ s.sessions, SessionAccount shortQueue client.connection :=
  have hrun : runTcpBackend shortQueue twoAndAPart = some _ :=
    (Option.some_get (by decide +kernel)).symm
  ⟨_, hrun, by decide +kernel, runTcpBackend_accounts Nat.one_pos hrun⟩

/-! ### What the clients read -/

/-- The frames that are broadcast from the registration of the session on. -/
def broadcastsSince (s : TcpStreamingBackend) (client : AcceptedClient) : List EncodedFrame :=
  s.broadcasts.drop (client.joined.getD s.broadcasts.length)

theorem offered_beginning {cfg : TransportConfig} {s : TcpStreamingBackend} {id : ℕ}
    {client : AcceptedClient} (h : BackendInvariant cfg s)
    (hclient : s.sessions[id]? = some client) :
    client.connection.session.offered <+: broadcastsSince s client := by
  have hfollows := h.follows id client hclient
  rw [broadcastsSince]
  cases hjoined : client.joined with
  | none =>
      rw [(hfollows.unjoined hjoined).1]
      exact List.nil_prefix
  | some k => exact (hfollows.since k hjoined).2

section

variable {cfg : TransportConfig} {s : TcpStreamingBackend} {id : ℕ} {client : AcceptedClient}

theorem sent_sublist (h : BackendInvariant cfg s) (hclient : s.sessions[id]? = some client)
    (haccount : ConnectionAccount cfg client.connection) :
    (client.connection.sent.map SentFrame.frame).Sublist (broadcastsSince s client) :=
  ((List.sublist_append_left _ _).trans haccount.ledger.order).trans
    (offered_beginning h hclient).sublist

theorem takenBy_offered (h : BackendInvariant cfg s) (hclient : s.sessions[id]? = some client)
    (hsize : TakenBy cfg s.broadcasts) : TakenBy cfg client.connection.session.offered :=
  fun frame hframe =>
    hsize frame (List.mem_of_mem_drop ((offered_beginning h hclient).subset hframe))

end

/-- One call of `ReceiveTcpFrame` for each of the messages. -/
theorem receiveTcpFrames_all {server : TransportConfig} {client : ClientConfig}
    {sent : List SentFrame} {clocks : List ℕ} {results : List RecvResult} (rest : Bytes)
    (hmetadata : server.embedFrameMetadata = client.expectMetadata)
    (hsize : ∀ frame ∈ sent, Acceptable server frame) (hlength : clocks.length = sent.length)
    (htimely : Timely results)
    (hchunks : (sent.flatMap (tcpMessage server)).length ≤ chunks results) :
    ∃ socket, receiveTcpFrames client clocks
        ⟨results, sent.flatMap (tcpMessage server) ++ rest⟩ =
      some (.ok (List.zipWith (deliveredTcpFrame server) sent clocks), socket) := by
  obtain ⟨transfers, rfl, rfl⟩ : ∃ transfers : List TcpTransfer,
      transfers.map TcpTransfer.sent = sent ∧ transfers.map TcpTransfer.receivedNs = clocks := by
    refine ⟨(List.zip sent clocks).map fun pair => ⟨pair.1, [], pair.2⟩, ?_, ?_⟩
    · rw [List.map_map]
      exact List.map_fst_zip hlength.ge
    · rw [List.map_map]
      exact List.map_snd_zip hlength.le
  rw [List.flatMap_map] at hchunks ⊢
  obtain ⟨results', hread⟩ := receiveTcpFrames_messages rest hmetadata
    (fun transfer hmem => hsize _ (List.mem_map_of_mem hmem)) htimely hchunks
  refine ⟨⟨results', rest⟩, ?_⟩
  rw [hread, List.zipWith_map, List.zipWith_self]

/-- What the client of a session gets. -/
structure ClientReads (server : TransportConfig) (client : ClientConfig)
    (s : TcpStreamingBackend) (accepted : AcceptedClient) : Prop where
  sent : (accepted.connection.sent.map SentFrame.frame).Sublist (broadcastsSince s accepted)
  sound : ∀ clocks results frames socket,
    receiveTcpFrames client clocks ⟨results, accepted.connection.written⟩ =
        some (.ok frames, socket) →
      clocks.length ≤ accepted.connection.sent.length ∧
        frames = List.zipWith (deliveredTcpFrame server) accepted.connection.sent clocks
  complete : ∀ clocks results, clocks.length = accepted.connection.sent.length → Timely results →
    accepted.connection.written.length ≤ chunks results →
      ∃ socket, receiveTcpFrames client clocks ⟨results, accepted.connection.written⟩ =
        some (.ok (List.zipWith (deliveredTcpFrame server) accepted.connection.sent clocks), socket)

/-- Calls of `ReceiveTcpFrame` that succeed return the frames that were sent to this client, in
the order of the broadcasts since it was registered and each as it was; and where the reads do not
fail, there are as many as have been sent. -/
theorem runTcpBackend_received {cfg : TransportConfig} {client : ClientConfig}
    {events : List TcpBackendEvent} {s : TcpStreamingBackend} (hmax : 0 < cfg.maxPendingFrames)
    (hmetadata : cfg.embedFrameMetadata = client.expectMetadata)
    (hsize : TakenBy cfg s.broadcasts) (hrun : runTcpBackend cfg events = some s) :
    ∀ accepted ∈ s.sessions, ClientReads cfg client s accepted := by
  intro accepted hmem
  obtain ⟨id, hclient⟩ := List.mem_iff_getElem?.mp hmem
  have hinv := runTcpBackend_invariant hrun
  obtain ⟨stream, hreaches⟩ := hinv.session id accepted hclient
  have haccount : ConnectionAccount cfg accepted.connection := .of_reaches hmax hreaches
  have htaken := takenBy_offered hinv hclient hsize
  refine ⟨sent_sublist hinv hclient haccount,
    fun clocks results frames socket => haccount.received hmetadata htaken,
    fun clocks results hlength htimely hchunks => ?_⟩
  obtain ⟨part, hwritten⟩ := haccount.written_eq
  rw [hwritten] at hchunks ⊢
  rw [List.length_append] at hchunks
  exact receiveTcpFrames_all part hmetadata (haccount.acceptable htaken) hlength htimely
    (by rw [sentBytes] at hchunks; omega)

theorem takenBy_streamFrames (sequences : List UInt64) :
    TakenBy shortQueue (sequences.map streamFrame) := by
  intro frame hframe nowNs
  obtain ⟨sequence, -, rfl⟩ := List.mem_map.mp hframe
  exact (by decide : 43 ≤ kMaxPayloadLength)

/-- What the socket of the first client returns, over three of its frames. -/
def clientResults : List RecvResult :=
  [.data 5, .wouldBlock, .data 20] ++ List.replicate 5 (.data 60)

/-- The first client reads the two frames that it was sent. -/
def twoReceived : List ReceivedFrame :=
  [deliveredTcpFrame shortQueue ⟨streamFrame 1, 5⟩ 9,
    deliveredTcpFrame shortQueue ⟨streamFrame 3, 6⟩ 10]

theorem twoAndAPart_reads :
    ∃ s, runTcpBackend shortQueue twoAndAPart = some s ∧ TakenBy shortQueue s.broadcasts ∧
      ∃ accepted ∈ s.sessions, ∃ socket,
        receiveTcpFrames {} [9, 10] ⟨clientResults, accepted.connection.written⟩ =
          some (.ok twoReceived, socket) := by
  have hread : (receiveTcpFrames {} [9, 10] ⟨clientResults,
      (((runTcpBackend shortQueue twoAndAPart).get (by decide +kernel)).sessions.head
        (by decide +kernel)).connection.written⟩).map Prod.fst = some (.ok twoReceived) := by
    decide +kernel
  have hbroadcasts : ((runTcpBackend shortQueue twoAndAPart).get (by decide +kernel)).broadcasts =
      [1, 2, 3, 4].map streamFrame := by decide +kernel
  obtain ⟨⟨result, socket⟩, hread, rfl⟩ := Option.map_eq_some_iff.mp hread
  refine ⟨_, (Option.some_get (by decide +kernel)).symm, ?_, _, List.head_mem _, socket, hread⟩
  rw [hbroadcasts]
  exact takenBy_streamFrames [1, 2, 3, 4]

theorem twoAndAPart_received :
    ∃ s, runTcpBackend shortQueue twoAndAPart = some s ∧
      (∃ accepted ∈ s.sessions, ∃ socket,
        receiveTcpFrames {} [9, 10] ⟨clientResults, accepted.connection.written⟩ =
          some (.ok twoReceived, socket)) ∧
      ∀ accepted ∈ s.sessions, ClientReads shortQueue {} s accepted := by
  obtain ⟨s, hrun, hsize, hread⟩ := twoAndAPart_reads
  exact ⟨s, hrun, hread, runTcpBackend_received Nat.one_pos rfl hsize hrun⟩

end AvProject.Tcp
