import AvProject.Client.DisplayOrder
import AvProject.Tcp.BroadcastReception

/-!
From the encoder to the screen over TCP. The server may drop frames before they are sent, the
client after they have arrived, and the connection may end at any byte; what the client shows
are still images of frames that were broadcast while it was registered, in their order.
-/

namespace AvProject.Tcp

open AvProject.Lib AvProject.Protocol AvProject.Server AvProject.Client

variable {δ : Type}

/-- A received frame carries the broadcast one. -/
def Carries (server : TransportConfig) (frame : ReceivedFrame) (broadcast : EncodedFrame) : Prop :=
  ∃ sentNs receivedNs, frame = deliveredTcpFrame server ⟨broadcast, sentNs⟩ receivedNs

/-- A frame on the screen is what the decoder made of the broadcast one. -/
def Shows (server : TransportConfig) (decodes : List (ReceivedFrame × δ))
    (output : PipelineDecodedFrame δ) (broadcast : EncodedFrame) : Prop :=
  ∃ decode ∈ decodes, DecodedFrom output decode ∧ Carries server decode.1 broadcast

theorem zipWith_carries {server : TransportConfig} {sent : List SentFrame}
    {broadcasts : List EncodedFrame} (clocks : List ℕ)
    (hsent : (sent.map SentFrame.frame).Sublist broadcasts) :
    StemsInOrder (Carries server) (List.zipWith (deliveredTcpFrame server) sent clocks)
      broadcasts := by
  have hdelivered := StemsInOrder.zipWith (deliveredTcpFrame server) sent clocks
  refine (hdelivered.comp (.of_sublist_map hsent)).mono ?_
  rintro frame broadcast ⟨⟨sentFrame, sentNs⟩, -, ⟨receivedNs, hframe⟩, rfl⟩
  exact ⟨sentNs, receivedNs, hframe⟩

theorem rendered_stems {cfg : PipelineConfig} {events : List (PipelineEvent δ)}
    {r : RecordedPipeline δ} {server : TransportConfig} {broadcasts : List EncodedFrame}
    (hrun : runRecorded cfg events = some r)
    (hreceived : StemsInOrder (Carries server) r.received broadcasts) :
    StemsInOrder (Shows server r.decodes) r.rendered broadcasts := by
  have h := linesInOrder_of_run hrun
  have hdecodes : StemsInOrder (fun decode frame => decode.1 = frame) r.decodes r.received :=
    .of_sublist_map ((List.sublist_append_left _ _).trans h.received)
  have hrendered := h.decoded.drop (List.sublist_append_left r.rendered (decodedLine r.state))
  refine (hrendered.comp (hdecodes.comp hreceived)).mono ?_
  rintro output broadcast ⟨decode, hmem, hfrom, frame, -, rfl, hcarries⟩
  exact ⟨decode, hmem, hfrom, hcarries⟩

/-- Whatever the threads of the server and of the client do: if the frames that the client's
receive thread has got are what calls of `ReceiveTcpFrame` returned on this connection, then the
frames on its screen stem from broadcasts since it was registered, in their order and each from
one of its own. -/
theorem runTcpBackend_shown {server : TransportConfig} {client : ClientConfig}
    {events : List TcpBackendEvent} {s : TcpStreamingBackend} (hmax : 0 < server.maxPendingFrames)
    (hmetadata : server.embedFrameMetadata = client.expectMetadata)
    (hsize : TakenBy server s.broadcasts) (hrun : runTcpBackend server events = some s)
    {accepted : AcceptedClient} (hmem : accepted ∈ s.sessions) {cfg : PipelineConfig}
    {pipelineEvents : List (PipelineEvent δ)} {r : RecordedPipeline δ} {clocks : List ℕ}
    {results : List RecvResult} {socket : TcpSocket}
    (hpipeline : runRecorded cfg pipelineEvents = some r)
    (hread : receiveTcpFrames client clocks ⟨results, accepted.connection.written⟩ =
      some (.ok r.received, socket)) :
    StemsInOrder (Shows server r.decodes) r.rendered (broadcastsSince s accepted) := by
  obtain ⟨id, hclient⟩ := List.mem_iff_getElem?.mp hmem
  have hinv := runTcpBackend_invariant hrun
  obtain ⟨stream, hreaches⟩ := hinv.session id accepted hclient
  have haccount : ConnectionAccount server accepted.connection := .of_reaches hmax hreaches
  obtain ⟨-, hreceived⟩ :=
    haccount.received hmetadata (takenBy_offered hinv hclient hsize) hread
  refine rendered_stems hpipeline ?_
  rw [hreceived]
  exact zipWith_carries clocks (sent_sublist hinv hclient haccount)

/-- Both frames arrive and are decoded, and the second is shown. -/
def twoReceivedEvents : List (PipelineEvent Unit) :=
  secondShownEvents (deliveredTcpFrame shortQueue ⟨streamFrame 1, 5⟩ 9)
    (deliveredTcpFrame shortQueue ⟨streamFrame 3, 6⟩ 10)

theorem twoAndAPart_shown : ∃ s, runTcpBackend shortQueue twoAndAPart = some s ∧
    ∃ accepted ∈ s.sessions, ∃ r, runRecorded {} twoReceivedEvents = some r ∧
      r.received = twoReceived ∧ r.rendered.length = 1 ∧
        StemsInOrder (Shows shortQueue r.decodes) r.rendered (broadcastsSince s accepted) := by
  obtain ⟨s, hrun, hsize, accepted, hmem, socket, hread⟩ := twoAndAPart_reads
  have hpipeline : runRecorded {} twoReceivedEvents = some _ := rfl
  exact ⟨s, hrun, accepted, hmem, _, hpipeline, rfl, rfl,
    runTcpBackend_shown Nat.one_pos rfl hsize hrun hmem hpipeline hread⟩

end AvProject.Tcp
