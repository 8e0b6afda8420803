import AvProject.Client.UdpRepresentation
import AvProject.Udp.Reception

/-!
Fragmentation and reassembly: the datagrams of one frame, in any order and with
repetitions, give the frame back exactly once.
-/

namespace AvProject.Udp

open AvProject.Lib AvProject.Protocol AvProject.Client AvProject.Server

/-! ### Deliveries -/

/-- One call of `processUdpDatagram`. -/
structure Delivery where
  data : Bytes
  nowNs : ℕ
  deferReadyPop : Bool := false
  deriving DecidableEq, Repr

def Delivery.arrival (d : Delivery) : Arrival := (d.data, d.nowNs)

def Delivery.operation (d : Delivery) : UdpOperation :=
  .processUdpDatagram d.data d.nowNs d.deferReadyPop

/-- Hand the deliveries to the receiver, one after the other. -/
def receive (env : ClientEnv) (cfg : ClientConfig) (st : StreamClient)
    (deliveries : List Delivery) : StreamClient × List ReceivedFrame :=
  runOperations env cfg st (deliveries.map Delivery.operation)

/-- Whenever one of the deliveries is processed, the assembly stored under
`sequence` is not older than the timeout: no gap is long enough for it. -/
def StaysAlive (env : ClientEnv) (cfg : ClientConfig) (sequence : ℕ) :
    StreamClient → List Delivery → Prop
  | _, [] => True
  | st, d :: rest =>
      (∀ a, st.udpAssemblies[sequence]? = some a → a.expired d.nowNs = false) ∧
        StaysAlive env cfg sequence
          (processUdpDatagram env cfg st d.data d.nowNs d.deferReadyPop).1 rest

section

variable {env : ClientEnv} {cfg : ClientConfig} {st : StreamClient}

@[simp] theorem receive_nil : receive env cfg st [] = (st, []) := rfl

theorem receive_cons (d : Delivery) (rest : List Delivery) :
    receive env cfg st (d :: rest) =
      ((receive env cfg
          (processUdpDatagram env cfg st d.data d.nowNs d.deferReadyPop).1 rest).1,
        (processUdpDatagram env cfg st d.data d.nowNs d.deferReadyPop).2.toList ++
          (receive env cfg
            (processUdpDatagram env cfg st d.data d.nowNs d.deferReadyPop).1 rest).2) := rfl

theorem receive_append (first rest : List Delivery) :
    receive env cfg st (first ++ rest) =
      ((receive env cfg (receive env cfg st first).1 rest).1,
        (receive env cfg st first).2 ++
          (receive env cfg (receive env cfg st first).1 rest).2) := by
  rw [receive, List.map_append, runOperations_append]
  rfl

end

section

variable {env : ClientEnv} {ccfg : ClientConfig} {scfg : TransportConfig} {sent : SentFrame}
  {arrived : List Arrival} {st : StreamClient} {deliveries : List Delivery}

/-- The state that the frame starts from. -/
theorem Assembling.start (hreach : st.Reachable env ccfg)
    (hassembly : sent.frame.sequence ∉ st.udpAssemblies)
    (hrecent : sent.frame.sequence ∉ st.recentlyCompletedUdpSequences) :
    Assembling ccfg scfg sent [] st where
  awaits := ⟨hreach.receiverInv.window, hrecent⟩
  stored := by
    intro a ha
    rw [OrdMap.getElem?_eq_none hassembly] at ha
    simp at ha
  present := by simp

/-! ### Up to the datagram that finishes the frame -/

/-- How the deliveries of one frame end: either the frame is still not finished and
nothing was handed out, or one of the deliveries finished it. -/
inductive ReceiveOutcome (env : ClientEnv) (ccfg : ClientConfig) (scfg : TransportConfig)
    (sent : SentFrame) (arrived : List Arrival) (st : StreamClient)
    (deliveries : List Delivery) : Prop
  | pending (hnone : (receive env ccfg st deliveries).2 = [])
      (hlog : (receive env ccfg st deliveries).1.log = st.log)
      (hassembling : Assembling ccfg scfg sent
        (arrived ++ deliveries.map Delivery.arrival) (receive env ccfg st deliveries).1)
  | finished (before after : List Delivery) (last : Delivery) (a : UdpFrameAssembly)
      (hsplit : deliveries = before ++ last :: after)
      (hfinished : FinishedFrom ccfg scfg sent
        (arrived ++ (before ++ [last]).map Delivery.arrival) a)
      (hbefore : (receive env ccfg st before).2 = [])
      (hlog : (receive env ccfg st (before ++ [last])).1.log = st.log.retire
        { sequence := sent.frame.sequence, assembly := a,
          frame := completedUdpFrame ccfg a last.nowNs })
      (hdirect : ccfg.udpJitterBufferEnabled = false →
        (receive env ccfg st (before ++ [last])).2 = [completedUdpFrame ccfg a last.nowNs])

theorem receive_frame (hsend : Sendable scfg sent.frame)
    (hloss : ccfg.udpTestLossPattern = .none) (h : Assembling ccfg scfg sent arrived st)
    (hdatagrams : ∀ d ∈ deliveries, FrameDatagram scfg sent d.data)
    (halive : StaysAlive env ccfg sent.frame.sequence st deliveries) :
    ReceiveOutcome env ccfg scfg sent arrived st deliveries := by
  induction deliveries generalizing st arrived with
  | nil => exact .pending rfl rfl (by simpa using h)
  | cons d rest ih =>
      obtain ⟨hlive, hrest⟩ := halive
      have hstep := processUdpDatagram_frameDatagram env hsend hloss h
        (hdatagrams d List.mem_cons_self) hlive d.deferReadyPop
      cases hstep with
      | finished a hfinished hlog hdirect =>
          refine .finished [] rest d a rfl hfinished rfl hlog fun hjitter => ?_
          rw [List.nil_append, receive_cons, hdirect hjitter]
          rfl
      | pending hnone hlog hassembling =>
          have hih := ih hassembling (fun e he => hdatagrams e (List.mem_cons_of_mem _ he)) hrest
          cases hih with
          | pending hnone' hlog' hassembling' =>
              refine .pending ?_ ?_ ?_
              · rw [receive_cons, hnone, hnone']
                rfl
              · rw [receive_cons, hlog', hlog]
              · rw [List.append_assoc] at hassembling'
                exact hassembling'
          | finished before after last a hsplit hfinished hbefore hlog' hdirect =>
              refine .finished (d :: before) after last a (by rw [hsplit]; rfl) ?_ ?_ ?_ ?_
              · rw [List.append_assoc] at hfinished
                exact hfinished
              · rw [receive_cons, hnone, hbefore]
                rfl
              · rw [List.cons_append, receive_cons, hlog', hlog]
              · intro hjitter
                rw [List.cons_append, receive_cons, hnone, hdirect hjitter]
                rfl

/-- Deliveries that contain all data fragments do not leave the frame unfinished. -/
theorem Assembling.not_all_arrived (h : Assembling ccfg scfg sent arrived st)
    (hne : arrived ≠ [])
    (hall : ∀ index, index < fragmentCountSize scfg sent.frame →
      HasArrived arrived (dataDatagram scfg sent index)) : False := by
  obtain ⟨a, ha⟩ := h.present hne
  obtain ⟨hpart, hincomplete⟩ := h.stored a ha
  have hcomplete : a.complete = true := by
    rw [hpart.wellFormed.complete_iff]
    intro i hi
    rw [hpart.carries.count] at hi
    exact (hpart.has_iff i hi).mpr (hall i hi)
  rw [hincomplete] at hcomplete
  exact absurd hcomplete (by simp)

/-! ### Afterwards -/

/-- What happens to a datagram of a frame that is remembered: it is counted, and
the assemblies of the other frames only feel the passing of time. -/
structure CountedStale (env : ClientEnv) (cfg : ClientConfig) (st : StreamClient)
    (d : Delivery) : Prop where
  nothing : (processUdpDatagram env cfg st d.data d.nowNs d.deferReadyPop).2 = none
  counted : (processUdpDatagram env cfg st d.data d.nowNs
      d.deferReadyPop).1.udpReceiveStats.staleDatagramsDropped =
    st.udpReceiveStats.staleDatagramsDropped + 1
  assemblies : (processUdpDatagram env cfg st d.data d.nowNs
      d.deferReadyPop).1.udpAssemblies =
    (pruneExpiredUdpAssemblies st d.nowNs).udpAssemblies
  log : (processUdpDatagram env cfg st d.data d.nowNs d.deferReadyPop).1.log = st.log

theorem countedStale_of_frameDatagram (hsend : Sendable scfg sent.frame)
    (hloss : ccfg.udpTestLossPattern = .none)
    (hrecent : sent.frame.sequence ∈ st.recentlyCompletedUdpSequences) {d : Delivery}
    (hdatagram : FrameDatagram scfg sent d.data) : CountedStale env ccfg st d := by
  obtain ⟨header, fragment, body, hparse, hpart⟩ :=
    parseUdpDatagram_frameDatagram hsend hdatagram
  have hsequence : fragment.frameSequence ∈ st.recentlyCompletedUdpSequences := by
    cases hpart <;> exact hrecent
  have hstale := processUdpDatagram_stale env hloss hparse hsequence d.nowNs d.deferReadyPop
  constructor <;> rw [hstale] <;> rfl

theorem receive_stale (hsend : Sendable scfg sent.frame)
    (hloss : ccfg.udpTestLossPattern = .none)
    (hrecent : sent.frame.sequence ∈ st.log.recentlyCompletedUdpSequences)
    (hdatagrams : ∀ d ∈ deliveries, FrameDatagram scfg sent d.data) :
    (receive env ccfg st deliveries).2 = [] ∧
      (receive env ccfg st deliveries).1.log = st.log := by
  induction deliveries generalizing st with
  | nil => exact ⟨rfl, rfl⟩
  | cons d rest ih =>
      have hstale : CountedStale env ccfg st d :=
        countedStale_of_frameDatagram hsend hloss hrecent (hdatagrams d List.mem_cons_self)
      rw [← hstale.log] at hrecent
      obtain ⟨hnone, hlog⟩ := ih hrecent fun e he => hdatagrams e (List.mem_cons_of_mem _ he)
      rw [receive_cons, hstale.nothing, hnone, hlog, hstale.log]
      exact ⟨rfl, rfl⟩

/-! ### Deliveries within the timeout -/

/-- A frame that is remembered has no assembly that could expire. -/
theorem staysAlive_of_remembered (hsend : Sendable scfg sent.frame)
    (hloss : ccfg.udpTestLossPattern = .none) (hreach : st.Reachable env ccfg)
    (hrecent : sent.frame.sequence ∈ st.log.recentlyCompletedUdpSequences)
    (hdatagrams : ∀ d ∈ deliveries, FrameDatagram scfg sent d.data) :
    StaysAlive env ccfg sent.frame.sequence st deliveries := by
  induction deliveries generalizing st with
  | nil => trivial
  | cons d rest ih =>
      have hstale : CountedStale env ccfg st d :=
        countedStale_of_frameDatagram hsend hloss hrecent (hdatagrams d List.mem_cons_self)
      refine ⟨fun a ha => ?_, ?_⟩
      · exact absurd hrecent (hreach.receiverInv.notRecent _ a ha)
      · rw [← hstale.log] at hrecent
        exact ih (hreach.runOperation d.operation) hrecent
          fun e he => hdatagrams e (List.mem_cons_of_mem _ he)

/-- Deliveries that lie within the timeout of one another never let the frame
expire. -/
theorem Assembling.staysAlive (hsend : Sendable scfg sent.frame)
    (hloss : ccfg.udpTestLossPattern = .none) (hreach : st.Reachable env ccfg)
    (h : Assembling ccfg scfg sent arrived st)
    (hfirst : ∀ a, st.udpAssemblies[sent.frame.sequence]? = some a → arrived ≠ [])
    (hdatagrams : ∀ d ∈ deliveries, FrameDatagram scfg sent d.data)
    (harrived : ∀ arrival ∈ arrived, ∀ d ∈ deliveries,
      d.nowNs ≤ arrival.2 + kUdpAssemblyTimeoutNs)
    (hwithin : deliveries.Pairwise fun d e => e.nowNs ≤ d.nowNs + kUdpAssemblyTimeoutNs) :
    StaysAlive env ccfg sent.frame.sequence st deliveries := by
  induction deliveries generalizing st arrived with
  | nil => trivial
  | cons d rest ih =>
      obtain ⟨hsoon, hrest⟩ := List.pairwise_cons.mp hwithin
      have hlive (a : UdpFrameAssembly)
          (ha : st.udpAssemblies[sent.frame.sequence]? = some a) : a.expired d.nowNs = false := by
        have htouched := (h.stored a ha).1.touched (hfirst a ha)
        obtain ⟨arrival, harrival, heq⟩ := List.mem_map.mp htouched
        have htime := harrived arrival harrival d List.mem_cons_self
        simp only [UdpFrameAssembly.expired, ← heq, Bool.and_eq_false_iff,
          decide_eq_false_iff_not]
        omega
      have hstep := processUdpDatagram_frameDatagram env hsend hloss h
        (hdatagrams d List.mem_cons_self) hlive d.deferReadyPop
      have hreach' := hreach.runOperation d.operation
      refine ⟨hlive, ?_⟩
      cases hstep with
      | pending hnone hlog hassembling =>
          refine ih hreach' hassembling (fun _ _ => by simp)
            (fun e he => hdatagrams e (List.mem_cons_of_mem _ he)) ?_ hrest
          intro arrival harrival e he
          rcases List.mem_append.mp harrival with hold | hnew
          · exact harrived arrival hold e (List.mem_cons_of_mem _ he)
          · obtain rfl := List.mem_singleton.mp hnew
            exact hsoon e he
      | finished a hfinished hlog hdirect =>
          refine staysAlive_of_remembered hsend hloss hreach' ?_
            fun e he => hdatagrams e (List.mem_cons_of_mem _ he)
          rw [hlog]
          exact h.awaits.mem_retire

/-! ### The round trip -/

/-- A frame that the server did not reject, whose data fragments all arrive in any
order among repetitions and parity datagrams, is handed out exactly once, with its
payload; all its datagrams after that are stale. -/
theorem receive_roundTrip (senv : ServerEnv) (hsocket : senv.RefusesOversized)
    (scfg : TransportConfig) (frame : EncodedFrame) (clients : List Endpoint)
    (transportSendNs cacheNs : UInt64) (sst : UdpStreamingBackend)
    (hsent : (sendFrameFragments senv scfg frame clients transportSendNs cacheNs sst).2 = true)
    (cenv : ClientEnv) (ccfg : ClientConfig) (hjitter : ccfg.udpJitterBufferEnabled = false)
    (hloss : ccfg.udpTestLossPattern = .none) (st : StreamClient)
    (hreach : st.Reachable cenv ccfg) (hassembly : frame.sequence ∉ st.udpAssemblies)
    (hrecent : frame.sequence ∉ st.recentlyCompletedUdpSequences) (deliveries : List Delivery)
    (hdatagrams : ∀ d ∈ deliveries,
      FrameDatagram scfg { frame := frame, transportSendTimestampNs := transportSendNs } d.data)
    (hall : ∀ index, index < fragmentCountSize scfg frame →
      ∃ d ∈ deliveries, d.data = dataDatagram scfg
        { frame := frame, transportSendTimestampNs := transportSendNs } index)
    (halive : StaysAlive cenv ccfg frame.sequence st deliveries) :
    ∃ before last after out,
      deliveries = before ++ last :: after ∧
      (receive cenv ccfg st before).2 = [] ∧
      (receive cenv ccfg st (before ++ [last])).2 = [out] ∧
      (receive cenv ccfg st deliveries).2 = [out] ∧
      out.payload = frame.payload ∧
      (receive cenv ccfg st deliveries).1.history.completed.map CompletedFrame.frame =
        st.history.completed.map CompletedFrame.frame ++ [out] ∧
      ∀ (more : List Delivery) (d : Delivery),
        (∀ e ∈ more, FrameDatagram scfg
          { frame := frame, transportSendTimestampNs := transportSendNs } e.data) →
        FrameDatagram scfg
          { frame := frame, transportSendTimestampNs := transportSendNs } d.data →
        CountedStale cenv ccfg (receive cenv ccfg st (before ++ last :: more)).1 d := by
  set sent : SentFrame := { frame := frame, transportSendTimestampNs := transportSendNs }
    with hsentFrame
  have hsend : Sendable scfg sent.frame := sendable_of_sendFrameFragments hsocket hsent
  have hstart : Assembling ccfg scfg sent [] st := .start hreach hassembly hrecent
  have hpos : 0 < fragmentCountSize scfg frame := pieceCount_pos hsend.maxFragmentPayloadSize_pos _
  cases receive_frame hsend hloss hstart hdatagrams halive with
  | pending hnone hlog hassembling =>
      obtain ⟨first, hfirst, -⟩ := hall 0 hpos
      refine absurd (hassembling.not_all_arrived ?_ fun index hindex => ?_) not_false
      · simpa using List.ne_nil_of_mem hfirst
      · obtain ⟨d, hd, hdata⟩ := hall index hindex
        rw [HasArrived, List.nil_append, List.map_map, ← hdata]
        exact List.mem_map_of_mem hd
  | finished before after last a hsplit hfinished hbefore hlog hdirect =>
      have hremembered : sent.frame.sequence ∈ (receive cenv ccfg st
          (before ++ [last])).1.log.recentlyCompletedUdpSequences := by
        rw [hlog]
        exact hstart.awaits.mem_retire
      -- what is received after `last` is stale
      have hlater (more : List Delivery) (hmore : ∀ e ∈ more, FrameDatagram scfg sent e.data) :
          (receive cenv ccfg st (before ++ last :: more)).2 =
              [completedUdpFrame ccfg a last.nowNs] ∧
            (receive cenv ccfg st (before ++ last :: more)).1.log =
              (receive cenv ccfg st (before ++ [last])).1.log := by
        obtain ⟨hnone, hsame⟩ := receive_stale hsend hloss hremembered hmore
        rw [List.append_cons, receive_append, hdirect hjitter, hnone, hsame]
        exact ⟨rfl, rfl⟩
      obtain ⟨hout, hfinal⟩ := hlater after fun d hd => hdatagrams d (by simp [hsplit, hd])
      refine ⟨before, last, after, completedUdpFrame ccfg a last.nowNs, hsplit, hbefore,
        hdirect hjitter, by rw [hsplit, hout], hfinished.payload, ?_, ?_⟩
      · have hcompleted := congrArg CompletionLog.completed (hfinal.trans hlog)
        rw [hsplit]
        simp only [StreamClient.log, CompletionLog.retire] at hcompleted
        rw [hcompleted, List.map_append]
        rfl
      · intro more d hmore hd
        apply countedStale_of_frameDatagram hsend hloss _ hd
        rw [← (hlater more hmore).2] at hremembered
        exact hremembered

end

/-! #### Two fragments and their parity -/

theorem fragmentCountSize_smallFrame : fragmentCountSize smallConfig smallFrame.frame = 2 := by
  decide +kernel

theorem smallFrame_data {index : ℕ} (hindex : index < 2) :
    FrameDatagram smallConfig smallFrame (dataDatagram smallConfig smallFrame index) :=
  .data index (fragmentCountSize_smallFrame.symm ▸ hindex)

theorem smallFrame_parity :
    FrameDatagram smallConfig smallFrame (frameParityDatagram smallConfig smallFrame) :=
  .parity rfl (fragmentCountSize_smallFrame.symm ▸ Nat.one_lt_two)

/-- The parity arrives first and completes the frame together with the last fragment,
one fragment early. -/
def shuffledDeliveries : List Delivery :=
  [{ data := frameParityDatagram smallConfig smallFrame, nowNs := 10 },
   { data := dataDatagram smallConfig smallFrame 1, nowNs := 20 },
   { data := dataDatagram smallConfig smallFrame 0, nowNs := 30 },
   { data := dataDatagram smallConfig smallFrame 1, nowNs := 40 }]

theorem shuffledDeliveries_frameDatagram :
    ∀ d ∈ shuffledDeliveries, FrameDatagram smallConfig smallFrame d.data := by
  intro d hd
  simp only [shuffledDeliveries, List.mem_cons, List.not_mem_nil, or_false] at hd
  rcases hd with rfl | rfl | rfl | rfl
  · exact smallFrame_parity
  · exact smallFrame_data Nat.one_lt_two
  · exact smallFrame_data Nat.two_pos
  · exact smallFrame_data Nat.one_lt_two

theorem shuffledDeliveries_roundTrip :
    ∃ out, (receive .idle directClient (StreamClient.connected directClient)
        shuffledDeliveries).2 = [out] ∧
      out.payload = smallFrame.frame.payload := by
  have hsent : (sendFrameFragments .single smallConfig smallFrame.frame [0] 5 6 {}).2 =
      true := by decide +kernel
  have hsend := sendable_of_sendFrameFragments ServerEnv.single_refusesOversized hsent
  have hreach : (StreamClient.connected directClient).Reachable .idle directClient := ⟨[], rfl⟩
  have hstart : Assembling directClient smallConfig smallFrame []
      (StreamClient.connected directClient) := .start hreach (by decide) (by decide)
  have hempty : (StreamClient.connected directClient).udpAssemblies[smallFrame.frame.sequence]? =
      none := rfl
  obtain ⟨_, _, _, out, -, -, -, hout, hpayload, -⟩ :=
    receive_roundTrip .single ServerEnv.single_refusesOversized smallConfig smallFrame.frame
      [0] 5 6 {} hsent .idle directClient rfl rfl (StreamClient.connected directClient) hreach
      (by decide) (by decide) shuffledDeliveries shuffledDeliveries_frameDatagram
      (by decide +kernel)
      (hstart.staysAlive hsend rfl hreach (fun a ha => by simp [hempty] at ha)
        shuffledDeliveries_frameDatagram (by simp) (by decide))
  exact ⟨out, hout, hpayload⟩

end AvProject.Udp
