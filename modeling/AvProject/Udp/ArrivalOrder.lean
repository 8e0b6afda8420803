import AvProject.Client.UdpRepresentation
import AvProject.Udp.RoundTrip

/-!
Two deliveries of one frame: payload and metadata do not depend on the order in
which the datagrams arrive, but the message header is that of the datagram that
set the assembly up.
-/

namespace AvProject.Udp

open AvProject.Lib AvProject.Protocol AvProject.Client AvProject.Server

/-! ### The datagram that sets an assembly up -/

/-- The frame that a valid datagram belongs to. -/
def datagramSequence? (data : Bytes) : Option ℕ :=
  (parseUdpDatagram data).map fun parts => parts.2.1.frameSequence

/-- The datagram that set up the assembly of `sequence`: the last one of that frame
that was processed while no assembly was stored or the stored one had expired. -/
def openerAfter (sequence : ℕ) (st : StreamClient) (opener : Option Bytes) :
    UdpOperation → Option Bytes
  | .processUdpDatagram data nowNs _ =>
      if datagramSequence? data = some sequence ∧
          (pruneExpiredUdpAssemblies st nowNs).udpAssemblies[sequence]? = none then some data
      else opener
  | _ => opener

/-- That datagram at the end of a run. -/
def openerOf (env : ClientEnv) (cfg : ClientConfig) (sequence : ℕ) :
    StreamClient → Option Bytes → List UdpOperation → Option Bytes
  | _, opener, [] => opener
  | st, opener, op :: ops =>
      openerOf env cfg sequence (runOperation env cfg st op).1
        (openerAfter sequence st opener op) ops

theorem openerOf_append (env : ClientEnv) (cfg : ClientConfig) (sequence : ℕ)
    (st : StreamClient) (opener : Option Bytes) (first rest : List UdpOperation) :
    openerOf env cfg sequence st opener (first ++ rest) =
      openerOf env cfg sequence (runOperations env cfg st first).1
        (openerOf env cfg sequence st opener first) rest := by
  induction first generalizing st opener with
  | nil => rfl
  | cons op first ih =>
      rw [List.cons_append, runOperations_cons]
      exact ih ..

/-! ### Deliveries of a frame -/

/-- All datagrams with the number of the frame are datagrams of the frame. -/
def OnlyFrame (scfg : TransportConfig) (sent : SentFrame) (ops : List UdpOperation) : Prop :=
  ∀ data nowNs deferReadyPop, .processUdpDatagram data nowNs deferReadyPop ∈ ops →
    datagramSequence? data = some sent.frame.sequence → FrameDatagram scfg sent data

/-- The run delivers the frame: the operation `op` completes it, out of the assembly
that the datagram `opener` set up, and the frame made of it is handed out. -/
structure Delivers (env : ClientEnv) (ccfg : ClientConfig) (scfg : TransportConfig)
    (sent : SentFrame) (before : List UdpOperation) (op : UdpOperation)
    (after : List UdpOperation) (opener : Bytes) (out : ReceivedFrame) : Prop where
  datagrams : OnlyFrame scfg sent (before ++ [op])
  completes : ∃ c ∈ (runOperations env ccfg (StreamClient.connected ccfg)
      (before ++ [op])).1.history.completed,
    c ∉ (runOperations env ccfg (StreamClient.connected ccfg) before).1.history.completed ∧
      c.sequence = sent.frame.sequence ∧ c.frame = out
  opened : openerOf env ccfg sent.frame.sequence (StreamClient.connected ccfg) none
    (before ++ [op]) = some opener
  handedOut : out ∈ (runOperations env ccfg (StreamClient.connected ccfg)
    (before ++ op :: after)).2

/-- The same frame, up to the time of its reception. -/
def SameFrame (frame frame' : ReceivedFrame) : Prop :=
  frame.header = frame'.header ∧ frame.metadata = frame'.metadata ∧
    frame.senderMetadataAvailable = frame'.senderMetadataAvailable ∧
    frame.payload = frame'.payload

instance (frame frame' : ReceivedFrame) : Decidable (SameFrame frame frame') :=
  inferInstanceAs (Decidable (_ ∧ _))

section

variable {env : ClientEnv} {ccfg : ClientConfig} {scfg : TransportConfig} {sent : SentFrame}
  {st : StreamClient}

/-! ### The header of an assembly -/

theorem parseUdpDatagram_header {data : Bytes} {header : MessageHeader}
    {fragment : UdpFrameFragmentHeader} {body : Bytes}
    (h : parseUdpDatagram data = some (header, fragment, body)) :
    header = MessageHeader.ofBytes data := by
  unfold parseUdpDatagram at h
  split at h
  · simp at h
  · simp only at h
    split at h
    · simp only [Option.some.injEq, Prod.mk.injEq] at h
      exact h.1.symm
    · simp at h

/-- The assembly of the frame carries it under the given message header; nothing
is said about the other assemblies. -/
def CarriesUnder (ccfg : ClientConfig) (scfg : TransportConfig) (sent : SentFrame)
    (header : MessageHeader) (key : ℕ) (a : UdpFrameAssembly) : Prop :=
  a.WellFormed key ∧
    (key = sent.frame.sequence → Carries ccfg scfg sent a ∧ a.header = header)

/-- A part of the frame under the given message header, or of another frame. -/
def PartUnder (scfg : TransportConfig) (sent : SentFrame) (header header' : MessageHeader)
    (fragment : UdpFrameFragmentHeader) (body : Bytes) : Prop :=
  fragment.frameSequence = sent.frame.sequence →
    header' = header ∧ ∃ own, FramePart scfg sent own fragment body

/-- The frame that is made of a finished assembly with this header. -/
structure DeliveredUnder (ccfg : ClientConfig) (scfg : TransportConfig) (sent : SentFrame)
    (header : MessageHeader) (frame : ReceivedFrame) : Prop where
  header : frame.header = header
  metadata : frame.metadata = embeddedMetadata ccfg scfg sent
  available : frame.senderMetadataAvailable =
    (ccfg.expectMetadata && hasSenderLatencyMetadata (embeddedMetadata ccfg scfg sent))
  payload : frame.payload = sent.frame.payload

/-- The record is an earlier one, of another frame, or of this frame with the
given header. -/
def CompletedUnder (ccfg : ClientConfig) (scfg : TransportConfig) (sent : SentFrame)
    (header : MessageHeader) (earlier : List CompletedFrame) (c : CompletedFrame) : Prop :=
  c ∈ earlier ∨ (c.sequence = sent.frame.sequence →
    DeliveredUnder ccfg scfg sent header c.frame)

theorem headerRules (hsend : Sendable scfg sent.frame) (header : MessageHeader)
    (earlier : List CompletedFrame) :
    AssemblyRules ccfg (PartUnder scfg sent header) (CarriesUnder ccfg scfg sent header)
      (CompletedUnder ccfg scfg sent header earlier) (fun _ => True) where
  wellFormed h := h.1
  opened := by
    intro header' fragment body nowNs hpart hvalid
    refine ⟨UdpFrameAssembly.WellFormed.opened hvalid ccfg header' nowNs, fun hown => ?_⟩
    obtain ⟨rfl, own, hpart⟩ := hpart hown
    refine ⟨?_, rfl⟩
    cases hpart with
    | data index hindex => exact Carries.opened hsend _ _ _ _ _
    | parity hmany => exact Carries.opened hsend _ _ _ _ _
  parity := by
    rintro header' fragment body a nowNs hpart hvalid hrole hcount hpayload ⟨hwf, hcarries⟩
    refine ⟨hwf.storeParity ccfg body nowNs, fun hown => ?_⟩
    obtain ⟨-, own, hpart⟩ := hpart hown
    obtain ⟨hcarried, hheader⟩ := hcarries hown
    cases hpart with
    | data index hindex => simp [dataHeader, fragmentHeader, UdpFragmentRole.code] at hrole
    | parity hmany =>
        refine ⟨hcarried.storeParity nowNs, ?_⟩
        rw [← hheader]
        unfold storeParity
        split <;> rfl
  data := by
    rintro header' fragment body a nowNs hpart hvalid hrole hcount hpayload hnew ⟨hwf, hcarries⟩
    refine ⟨hwf.storeFragment hvalid hrole hcount hpayload hnew nowNs, fun hown => ?_⟩
    obtain ⟨-, own, hpart⟩ := hpart hown
    obtain ⟨hcarried, hheader⟩ := hcarries hown
    cases hpart with
    | data index hindex => exact ⟨hcarried.storeFragment hwf hsend hindex nowNs, hheader⟩
    | parity hmany => simp [parityHeader, fragmentHeader, UdpFragmentRole.code] at hrole
  recovered := by
    rintro key a missing offset size bytes _ hparity hrec ⟨hwf, hcarries⟩
    refine ⟨hwf.place_recovery hrec, fun hown => ?_⟩
    obtain ⟨hcarried, hheader⟩ := hcarries hown
    obtain ⟨hindex, rfl, rfl, rfl⟩ := hcarried.recovery_eq hsend hparity hrec
    exact ⟨hcarried.place hwf hsend hindex true, hheader⟩
  retried := by
    rintro key a nowNs attempts ⟨hwf, hcarries⟩
    refine ⟨hwf.retried nowNs attempts, fun hown => ?_⟩
    obtain ⟨hcarried, hheader⟩ := hcarries hown
    exact ⟨{ hcarried with }, hheader⟩
  finished := by
    rintro key a nowNs ⟨hwf, hcarries⟩ hcomplete
    refine ⟨.inr fun hown => ?_, trivial⟩
    obtain ⟨hcarried, hheader⟩ := hcarries hown
    exact
      { header := hheader
        metadata := hcarried.metadata
        available := by
          rw [← hcarried.metadata]
          rfl
        payload := hcarried.payload_eq hwf hsend hcomplete }

/-! ### One operation -/

/-- An assembly that exists does not take its header from a later datagram. -/
theorem acceptFragment_of_stored {fragment : UdpFrameFragmentHeader} {a : UdpFrameAssembly}
    (hstored : st.udpAssemblies[fragment.frameSequence]? = some a)
    (hwf : a.WellFormed fragment.frameSequence) (header header' : MessageHeader)
    (body : Bytes) (nowNs : ℕ) (deferReadyPop : Bool) :
    acceptFragment env ccfg st header fragment body nowNs deferReadyPop =
      acceptFragment env ccfg st header' fragment body nowNs deferReadyPop := by
  have hcore := shouldInjectUdpLoss_core ccfg st fragment
  unfold acceptFragment
  split
  · rfl
  · rename_i st' heq
    rw [heq] at hcore
    have hmap : st'.udpAssemblies = st.udpAssemblies := congrArg ReceiverCore.udpAssemblies hcore
    split
    · rfl
    · unfold assembleFragment
      rw [hmap, hstored, hwf.openAssembly_some, hwf.openAssembly_some]

/-- The message header of the datagram that set the assembly up. -/
def openerHeader (opener : Option Bytes) : MessageHeader := MessageHeader.ofBytes (opener.getD [])

/-- The receiver between two operations of a run that has set up the assembly of the
frame from `opener`. -/
structure Seeded (ccfg : ClientConfig) (scfg : TransportConfig) (sent : SentFrame)
    (opener : Option Bytes) (earlier : List CompletedFrame) (st : StreamClient) : Prop where
  receiver : ReceiverInv (CarriesUnder ccfg scfg sent (openerHeader opener))
    (CompletedUnder ccfg scfg sent (openerHeader opener) earlier) (fun _ => True) st
  opener : ∀ data, opener = some data → FrameDatagram scfg sent data

namespace Seeded

variable {opener : Option Bytes} {earlier : List CompletedFrame}

/-- The completions so far are forgotten. -/
theorem forget (h : Seeded ccfg scfg sent opener earlier st) :
    Seeded ccfg scfg sent opener st.history.completed st where
  receiver := { h.receiver with completed := fun _ hc => .inl hc }
  opener := h.opener

/-- While the frame has no assembly, any datagram may be the one to set it up. -/
theorem reopen (h : Seeded ccfg scfg sent opener st.history.completed st)
    (hnone : st.udpAssemblies[sent.frame.sequence]? = none) {data : Bytes}
    (hdata : FrameDatagram scfg sent data) :
    Seeded ccfg scfg sent (some data) st.history.completed st where
  receiver :=
    { assemblies := by
        intro key a ha
        refine ⟨(h.receiver.assemblies key a ha).1, ?_⟩
        rintro rfl
        rw [hnone] at ha
        cases ha
      notRecent := h.receiver.notRecent
      buffered := h.receiver.buffered
      completed := fun _ hc => .inl hc
      checks := h.receiver.checks
      window := h.receiver.window }
  opener := by
    rintro _ ⟨rfl⟩
    exact hdata

/-- A datagram of the frame. -/
theorem acceptFragment (h : Seeded ccfg scfg sent opener st.history.completed st)
    (hsend : Sendable scfg sent.frame) (env : ClientEnv) {data : Bytes}
    {header : MessageHeader} {fragment : UdpFrameFragmentHeader} {body : Bytes}
    (hparse : parseUdpDatagram data = some (header, fragment, body))
    (hown : fragment.frameSequence = sent.frame.sequence)
    (hdata : FrameDatagram scfg sent data) (nowNs : ℕ) (deferReadyPop : Bool) :
    Seeded ccfg scfg sent
      (if st.udpAssemblies[sent.frame.sequence]? = none then some data else opener)
      st.history.completed
      (Client.acceptFragment env ccfg st header fragment body nowNs deferReadyPop).1 := by
  have hvalid := parseUdpDatagram_valid hparse
  have hpart : ∃ own, FramePart scfg sent own fragment body := by
    obtain ⟨own, fragment', body', hparse', hpart⟩ := parseUdpDatagram_frameDatagram hsend hdata
    rw [hparse, Option.some.injEq, Prod.mk.injEq, Prod.mk.injEq] at hparse'
    obtain ⟨-, rfl, rfl⟩ := hparse'
    exact ⟨own, hpart⟩
  cases hstored : st.udpAssemblies[sent.frame.sequence]? with
  | none =>
      -- the datagram sets the assembly up, so the header is its own
      rw [if_pos rfl]
      have hopened := h.reopen hstored hdata
      refine ⟨?_, hopened.opener⟩
      have hheader : header = openerHeader (some data) := parseUdpDatagram_header hparse
      exact (hopened.receiver.acceptFragment (headerRules hsend _ _)
        (fun _ => ⟨hheader, hpart⟩) hvalid env nowNs deferReadyPop).1
  | some a =>
      rw [if_neg (by simp)]
      refine ⟨?_, h.opener⟩
      rw [← hown] at hstored
      have hwf := (h.receiver.assemblies _ a hstored).1
      rw [acceptFragment_of_stored hstored hwf header (openerHeader opener)]
      exact (h.receiver.acceptFragment (headerRules hsend _ _)
        (fun _ => ⟨rfl, hpart⟩) hvalid env nowNs deferReadyPop).1

theorem noteDatagram (h : Seeded ccfg scfg sent opener earlier st)
    (hsend : Sendable scfg sent.frame) (data : Bytes) (nowNs : ℕ) :
    Seeded ccfg scfg sent opener earlier (Client.noteDatagram st data nowNs) where
  receiver := h.receiver.noteDatagram (headerRules hsend _ _) data nowNs
  opener := h.opener

/-- One operation; a new record of the frame has the header of the datagram that
set the assembly up. -/
theorem runOperation (h : Seeded ccfg scfg sent opener earlier st)
    (hsend : Sendable scfg sent.frame) (env : ClientEnv) (op : UdpOperation)
    (hop : OnlyFrame scfg sent [op]) :
    Seeded ccfg scfg sent (openerAfter sent.frame.sequence st opener op)
      st.history.completed (Client.runOperation env ccfg st op).1 := by
  have hforgot := h.forget
  have hother (hop : openerAfter sent.frame.sequence st opener op = opener)
      (hallows : ReceiverInv.AllowsOperation
        (PartUnder scfg sent (openerHeader opener)) op) :
      Seeded ccfg scfg sent (openerAfter sent.frame.sequence st opener op)
        st.history.completed (Client.runOperation env ccfg st op).1 := by
    rw [hop]
    exact ⟨(hforgot.receiver.runOperation (headerRules hsend _ _) hallows env).1, h.opener⟩
  cases op with
  | processUdpDatagram data nowNs deferReadyPop =>
      by_cases hown : datagramSequence? data = some sent.frame.sequence
      · have hdata := hop data nowNs deferReadyPop (List.mem_singleton.mpr rfl) hown
        obtain ⟨⟨header, fragment, body⟩, hparse, hsequence⟩ := Option.map_eq_some_iff.mp hown
        -- noting the datagram completes nothing
        have hnoted : Seeded ccfg scfg sent opener
            (Client.noteDatagram st data nowNs).history.completed
            (Client.noteDatagram st data nowNs) := hforgot.noteDatagram hsend data nowNs
        have haccepted := hnoted.acceptFragment hsend env hparse hsequence hdata nowNs
          deferReadyPop
        have hopener : openerAfter sent.frame.sequence st opener
            (.processUdpDatagram data nowNs deferReadyPop) =
            if (Client.noteDatagram st data nowNs).udpAssemblies[sent.frame.sequence]? = none
            then some data else opener := by
          rw [openerAfter, hown]
          simp only [true_and]
          rfl
        rw [hopener]
        have hrun : Client.runOperation env ccfg st
            (.processUdpDatagram data nowNs deferReadyPop) =
            Client.acceptFragment env ccfg (Client.noteDatagram st data nowNs) header fragment
              body nowNs deferReadyPop := by
          simp only [Client.runOperation, processUdpDatagram, hparse]
        rw [hrun]
        exact haccepted
      · refine hother ?_ ?_
        · rw [openerAfter, if_neg (fun h => hown h.1)]
        · intro header fragment body hparse hsequence
          refine absurd ?_ hown
          rw [datagramSequence?, hparse, Option.map_some, hsequence]
  | _ => exact hother rfl trivial

theorem connected (ccfg : ClientConfig) (scfg : TransportConfig) (sent : SentFrame) :
    Seeded ccfg scfg sent none [] (StreamClient.connected ccfg) where
  receiver := ReceiverInv.connected ccfg
  opener := by simp

theorem runOperations (h : Seeded ccfg scfg sent opener earlier st)
    (hsend : Sendable scfg sent.frame) (env : ClientEnv) (ops : List UdpOperation)
    (hops : OnlyFrame scfg sent ops) :
    ∃ completed, Seeded ccfg scfg sent
      (openerOf env ccfg sent.frame.sequence st opener ops) completed
      (Client.runOperations env ccfg st ops).1 := by
  induction ops generalizing st opener earlier with
  | nil => exact ⟨earlier, h⟩
  | cons op ops ih =>
      have hnext := h.runOperation hsend env op
        fun data nowNs defer hmem => hops data nowNs defer (by simp_all)
      exact ih hnext fun data nowNs defer hmem =>
        hops data nowNs defer (List.mem_cons_of_mem _ hmem)

end Seeded

/-! ### The delivered frame -/

/-- Whatever else the run does, the frame is delivered with its payload, its
metadata and the message header of the datagram that set its assembly up. -/
theorem Delivers.deliveredUnder {before after : List UdpOperation} {op : UdpOperation}
    {opener : Bytes} {out : ReceivedFrame} (hsend : Sendable scfg sent.frame)
    (h : Delivers env ccfg scfg sent before op after opener out) :
    DeliveredUnder ccfg scfg sent (MessageHeader.ofBytes opener) out ∧
      FrameDatagram scfg sent opener := by
  obtain ⟨completed, hbefore⟩ := (Seeded.connected ccfg scfg sent).runOperations
    hsend env before
    fun data nowNs defer hmem => h.datagrams data nowNs defer (List.mem_append_left _ hmem)
  have hdone := hbefore.runOperation hsend env op
    fun data nowNs defer hmem => h.datagrams data nowNs defer (List.mem_append_right _ hmem)
  have hopened := h.opened
  rw [openerOf_append] at hopened
  obtain ⟨c, hc, hnew, hsequence, rfl⟩ := h.completes
  rw [runOperations_append] at hc
  change openerAfter _ _ _ op = some opener at hopened
  rw [hopened] at hdone
  refine ⟨?_, hdone.opener opener rfl⟩
  exact (hdone.receiver.completed c hc).resolve_left hnew hsequence

/-- Two datagrams of a frame have the same message header only if they are equally
long. -/
theorem messageHeader_eq_iff (hsend : Sendable scfg sent.frame) {data data' : Bytes}
    (hdata : FrameDatagram scfg sent data) (hdata' : FrameDatagram scfg sent data') :
    MessageHeader.ofBytes data = MessageHeader.ofBytes data' ↔ data.length = data'.length := by
  have hread {data : Bytes} (hdata : FrameDatagram scfg sent data) :
      ∃ body : Bytes, body.length ≤ maxBodySize ∧ data.length = headerSize + body.length ∧
        MessageHeader.ofBytes data = messageHeader sent body := by
    cases hdata with
    | data index hindex =>
        exact ⟨_, hsend.fragment_le index hindex, length_buildDatagram ..,
          (parseUdpDatagram_header (parseUdpDatagram_dataDatagram hsend hindex)).symm⟩
    | parity hfec hmany =>
        exact ⟨_, hsend.length_parity_le, length_buildDatagram ..,
          (parseUdpDatagram_header
            (parseUdpDatagram_parityDatagram hsend hsend.length_parity_le)).symm⟩
  obtain ⟨body, hbody, hlength, hheader⟩ := hread hdata
  obtain ⟨body', hbody', hlength', hheader'⟩ := hread hdata'
  have hmax : maxBodySize = 65439 := rfl
  rw [hheader, hheader', hlength, hlength', messageHeader, messageHeader, buildMessageHeader,
    buildMessageHeader, MessageHeader.mk.injEq, sizeofUdpFrameFragmentHeader]
  constructor
  · rintro ⟨-, -, -, hpayload⟩
    omega
  · intro heq
    exact ⟨rfl, rfl, rfl, by omega⟩

end

/-- A frame that the server did not reject and that two runs of the receiver deliver,
out of its datagrams in any order, with repetitions, parity anywhere and whatever
else happens in between: the two delivered frames agree in header, metadata and
payload exactly if the datagrams that set the two assemblies up are equally long. -/
theorem delivered_sameFrame_iff (senv : ServerEnv) (hsocket : senv.RefusesOversized)
    (scfg : TransportConfig) (frame : EncodedFrame) (clients : List Endpoint)
    (transportSendNs cacheNs : UInt64) (sst : UdpStreamingBackend)
    (hsent : (sendFrameFragments senv scfg frame clients transportSendNs cacheNs sst).2 = true)
    (ccfg : ClientConfig) (cenv cenv' : ClientEnv)
    (before after before' after' : List UdpOperation) (op op' : UdpOperation)
    (opener opener' : Bytes) (out out' : ReceivedFrame)
    (h : Delivers cenv ccfg scfg
      { frame := frame, transportSendTimestampNs := transportSendNs } before op after opener out)
    (h' : Delivers cenv' ccfg scfg
      { frame := frame, transportSendTimestampNs := transportSendNs } before' op' after' opener'
      out') :
    SameFrame out out' ↔ opener.length = opener'.length := by
  have hsend : Sendable scfg frame := sendable_of_sendFrameFragments hsocket hsent
  obtain ⟨hout, hopener⟩ := h.deliveredUnder hsend
  obtain ⟨hout', hopener'⟩ := h'.deliveredUnder hsend
  rw [← messageHeader_eq_iff hsend hopener hopener', ← hout.header, ← hout'.header]
  constructor
  · rintro ⟨hheader, -, -, -⟩
    exact hheader
  · intro hheader
    exact ⟨hheader, hout.metadata.trans hout'.metadata.symm,
      hout.available.trans hout'.available.symm, hout.payload.trans hout'.payload.symm⟩

/-! #### Two datagrams of one frame -/

/-- What the receiver hands out when two datagrams arrive. -/
def receivedPair (first second : Bytes) : ReceivedFrame :=
  (runOperations .idle directClient (StreamClient.connected directClient)
    [.processUdpDatagram first 10 false, .processUdpDatagram second 20 false]).2.headD default

/-- The second datagram completes the frame that the first one has set up. -/
theorem receivedPair_delivers {first second : Bytes}
    (hfirst : FrameDatagram smallConfig smallFrame first)
    (hsecond : FrameDatagram smallConfig smallFrame second)
    (hcompletes : ∃ c ∈ (runOperations .idle directClient (StreamClient.connected directClient)
        [.processUdpDatagram first 10 false,
          .processUdpDatagram second 20 false]).1.history.completed,
      c ∉ (runOperations .idle directClient (StreamClient.connected directClient)
          [.processUdpDatagram first 10 false]).1.history.completed ∧
        c.sequence = smallFrame.frame.sequence ∧ c.frame = receivedPair first second)
    (hopened : openerOf .idle directClient smallFrame.frame.sequence
      (StreamClient.connected directClient) none
      [.processUdpDatagram first 10 false, .processUdpDatagram second 20 false] = some first)
    (hhanded : receivedPair first second ∈ (runOperations .idle directClient
      (StreamClient.connected directClient)
      [.processUdpDatagram first 10 false, .processUdpDatagram second 20 false]).2) :
    Delivers .idle directClient smallConfig smallFrame [.processUdpDatagram first 10 false]
      (.processUdpDatagram second 20 false) [] first (receivedPair first second) where
  datagrams := by
    intro data nowNs defer hmem _
    simp only [List.cons_append, List.nil_append, List.mem_cons, List.not_mem_nil, or_false,
      UdpOperation.processUdpDatagram.injEq] at hmem
    rcases hmem with ⟨rfl, -⟩ | ⟨rfl, -⟩
    · exact hfirst
    · exact hsecond
  completes := hcompletes
  opened := hopened
  handedOut := hhanded

theorem inOrderPair_delivers :
    Delivers .idle directClient smallConfig smallFrame
      [.processUdpDatagram (dataDatagram smallConfig smallFrame 0) 10 false]
      (.processUdpDatagram (dataDatagram smallConfig smallFrame 1) 20 false) []
      (dataDatagram smallConfig smallFrame 0)
      (receivedPair (dataDatagram smallConfig smallFrame 0)
        (dataDatagram smallConfig smallFrame 1)) :=
  receivedPair_delivers (smallFrame_data Nat.two_pos) (smallFrame_data Nat.one_lt_two)
    (by decide +kernel) (by decide +kernel) (by decide +kernel)

theorem swappedPair_delivers :
    Delivers .idle directClient smallConfig smallFrame
      [.processUdpDatagram (dataDatagram smallConfig smallFrame 1) 10 false]
      (.processUdpDatagram (dataDatagram smallConfig smallFrame 0) 20 false) []
      (dataDatagram smallConfig smallFrame 1)
      (receivedPair (dataDatagram smallConfig smallFrame 1)
        (dataDatagram smallConfig smallFrame 0)) :=
  receivedPair_delivers (smallFrame_data Nat.one_lt_two) (smallFrame_data Nat.two_pos)
    (by decide +kernel) (by decide +kernel) (by decide +kernel)

/-- The parity replaces the first fragment. -/
theorem parityPair_delivers :
    Delivers .idle directClient smallConfig smallFrame
      [.processUdpDatagram (frameParityDatagram smallConfig smallFrame) 10 false]
      (.processUdpDatagram (dataDatagram smallConfig smallFrame 1) 20 false) []
      (frameParityDatagram smallConfig smallFrame)
      (receivedPair (frameParityDatagram smallConfig smallFrame)
        (dataDatagram smallConfig smallFrame 1)) :=
  receivedPair_delivers smallFrame_parity (smallFrame_data Nat.one_lt_two) (by decide +kernel)
    (by decide +kernel) (by decide +kernel)

theorem parityPair_sameFrame :
    SameFrame
      (receivedPair (dataDatagram smallConfig smallFrame 0)
        (dataDatagram smallConfig smallFrame 1))
      (receivedPair (frameParityDatagram smallConfig smallFrame)
        (dataDatagram smallConfig smallFrame 1)) ↔
      (dataDatagram smallConfig smallFrame 0).length =
        (frameParityDatagram smallConfig smallFrame).length :=
  delivered_sameFrame_iff .single ServerEnv.single_refusesOversized smallConfig
    smallFrame.frame [0] 5 6 {} (by decide +kernel) directClient .idle .idle _ _ _ _ _ _ _ _ _ _
    inOrderPair_delivers parityPair_delivers

/-- The two fragments in the other order: the message header of the delivered frame
states another length. -/
theorem swappedPair_not_sameFrame :
    ¬∀ (senv : ServerEnv), senv.RefusesOversized →
      ∀ (scfg : TransportConfig) (frame : EncodedFrame) (clients : List Endpoint)
        (transportSendNs cacheNs : UInt64) (sst : UdpStreamingBackend),
      (sendFrameFragments senv scfg frame clients transportSendNs cacheNs sst).2 = true →
      ∀ (ccfg : ClientConfig) (cenv cenv' : ClientEnv)
        (before after before' after' : List UdpOperation) (op op' : UdpOperation)
        (opener opener' : Bytes) (out out' : ReceivedFrame),
      Delivers cenv ccfg scfg { frame := frame, transportSendTimestampNs := transportSendNs }
        before op after opener out →
      Delivers cenv' ccfg scfg { frame := frame, transportSendTimestampNs := transportSendNs }
        before' op' after' opener' out' →
      SameFrame out out' := by
  intro h
  have hsame := h .single ServerEnv.single_refusesOversized smallConfig smallFrame.frame [0]
    5 6 {} (by decide +kernel) directClient .idle .idle _ _ _ _ _ _ _ _ _ _
    inOrderPair_delivers swappedPair_delivers
  revert hsame
  decide +kernel

end AvProject.Udp
