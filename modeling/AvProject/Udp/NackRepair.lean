import AvProject.Client.AtMostOnce
import AvProject.Client.FragmentProgress
import AvProject.Server.RetransmitService
import AvProject.Udp.NackExchange
import AvProject.Udp.RoundTrip

/-!
A round of NACK requests repairs a frame: the client asks for what it misses, the server
answers from its cache, and with the last answer the client has the frame that was sent.
In the meantime either side goes on with everything else it does.
-/

namespace AvProject.Udp

open AvProject.Lib AvProject.Protocol AvProject.Client AvProject.Server

/-! ### The client -/

/-- A completed frame is the sent one with its number. -/
def CompletesSent (ccfg : ClientConfig) (scfg : TransportConfig) (frames : List SentFrame)
    (c : CompletedFrame) : Prop :=
  ∃ sent ∈ frames, sent.frame.sequence = c.sequence ∧
    c.frame.metadata = embeddedMetadata ccfg scfg sent ∧ c.frame.payload = sent.frame.payload

section

variable {env : ClientEnv} {ccfg : ClientConfig} {scfg : TransportConfig}
  {frames : List SentFrame} {sent : SentFrame} {st : StreamClient} {a : UdpFrameAssembly}
  {sinceNs : ℕ}

theorem completionRules (hdistinct : DistinctSequences frames) :
    AssemblyRules ccfg (PartOf scfg frames) (CarriesOneOf ccfg scfg frames)
      (CompletesSent ccfg scfg frames) (IsOneOf ccfg scfg frames) :=
  { integrityRules hdistinct with
    finished := by
      rintro key a nowNs h hcomplete
      refine ⟨?_, ((integrityRules hdistinct).finished nowNs h hcomplete).2⟩
      obtain ⟨hwf, sent, hmem, hsend, hsequence, hcarries⟩ := h
      exact ⟨sent, hmem, hsequence, hcarries.metadata,
        hcarries.payload_eq hwf hsend hcomplete⟩ }

/-- The receiver, as long as it is only given datagrams of the frames that were sent. -/
abbrev ReceivesSent (ccfg : ClientConfig) (scfg : TransportConfig) (frames : List SentFrame)
    (st : StreamClient) : Prop :=
  ReceiverInv (CarriesOneOf ccfg scfg frames) (CompletesSent ccfg scfg frames)
    (IsOneOf ccfg scfg frames) st

theorem ReceivesSent.wellFormed (h : ReceivesSent ccfg scfg frames st) :
    ReceiverInv (fun key a => a.WellFormed key) (fun _ => True) (fun _ => True) st where
  assemblies key a ha := (h.assemblies key a ha).1
  notRecent := h.notRecent
  buffered _ _ _ := trivial
  completed _ _ := trivial
  checks := h.checks
  window := h.window

/-- The assembly under the number of a sent frame is one of this frame. -/
theorem ReceivesSent.carries (h : ReceivesSent ccfg scfg frames st)
    (hdistinct : DistinctSequences frames) (hsent : sent ∈ frames)
    (hstored : st.udpAssemblies[sent.frame.sequence]? = some a) :
    Sendable scfg sent.frame ∧ Carries ccfg scfg sent a := by
  obtain ⟨-, other, hother, hsend, hsequence, hcarries⟩ := h.assemblies _ a hstored
  obtain rfl := hdistinct.eq hother hsent hsequence
  exact ⟨hsend, hcarries⟩

theorem Carries.hasLayout (h : Carries ccfg scfg sent a) (hsend : Sendable scfg sent.frame)
    (role : UdpFragmentRole) (index offset : ℕ) :
    HasLayout (fragmentHeader scfg sent role index offset) a :=
  ⟨h.count.trans (Nat.mod_eq_of_lt hsend.count_lt).symm,
    h.length.trans (Nat.mod_eq_of_lt hsend.length_lt).symm⟩

/-- A time at which an assembly that was touched at `sinceNs` or later is alive. -/
def WithinTimeout (sinceNs : ℕ) (op : UdpOperation) : Prop :=
  ∃ nowNs, op.nowNs? = some nowNs ∧ sinceNs ≤ nowNs ∧ nowNs ≤ sinceNs + kUdpAssemblyTimeoutNs

theorem ReceivesSent.undisturbed (h : ReceivesSent ccfg scfg frames st)
    (hdistinct : DistinctSequences frames) (hsent : sent ∈ frames)
    (hstored : st.udpAssemblies[sent.frame.sequence]? = some a)
    (hlast : sinceNs ≤ a.lastFragmentTimestampNs) {op : UdpOperation}
    (hop : ReceiverInv.AllowsOperation (PartOf scfg frames) op)
    (htime : WithinTimeout sinceNs op) : Undisturbed st sent.frame.sequence sinceNs op where
  time := by
    obtain ⟨nowNs, hnow, hsince, hin⟩ := htime
    refine ⟨nowNs, hnow, hsince, fun b hb => ?_⟩
    obtain rfl := Option.some.inj (hstored.symm.trans hb)
    simp only [UdpFrameAssembly.expired, Bool.and_eq_false_iff, decide_eq_false_iff_not]
    omega
  layout := by
    rintro data nowNs deferReadyPop rfl header fragment body hparse hsequence b hb
    obtain ⟨other, hother, hsend, hpart⟩ := hop header fragment body hparse
    have hsame : other.frame.sequence = sent.frame.sequence := by
      rw [← hsequence]
      cases hpart <;> rfl
    obtain rfl := hdistinct.eq hother hsent hsame
    obtain ⟨-, hcarries⟩ := h.carries hdistinct hsent hb
    cases hpart with
    | data index hindex => exact hcarries.hasLayout hsend _ _ _
    | parity hmany => exact hcarries.hasLayout hsend _ _ _

/-- The operation brings the data fragment `index` of the frame. -/
def BringsFragment (scfg : TransportConfig) (sent : SentFrame) (index : ℕ)
    (op : UdpOperation) : Prop :=
  ∃ nowNs deferReadyPop,
    op = .processUdpDatagram (dataDatagram scfg sent index) nowNs deferReadyPop

/-- What the client knows of the frame: at least the fragments in `there`. -/
structure HoldsAtLeast (scfg : TransportConfig) (sent : SentFrame) (sinceNs : ℕ)
    (there : ℕ → Prop) (st : StreamClient) (a : UdpFrameAssembly) : Prop where
  stored : st.udpAssemblies[sent.frame.sequence]? = some a
  touched : sinceNs ≤ a.lastFragmentTimestampNs
  has : ∀ i, i < fragmentCountSize scfg sent.frame → there i → a.Has i

/-- An operation brings the frame forward: it is completed, or the client holds what it held,
and the fragment that was delivered, which was not the last one. -/
theorem HoldsAtLeast.step {there : ℕ → Prop}
    (hheld : HoldsAtLeast scfg sent sinceNs there st a) (h : ReceivesSent ccfg scfg frames st)
    (hdistinct : DistinctSequences frames) (hsent : sent ∈ frames)
    (hloss : ccfg.udpTestLossPattern = .none) {op : UdpOperation}
    (hop : ReceiverInv.AllowsOperation (PartOf scfg frames) op)
    (htime : WithinTimeout sinceNs op) {index : ℕ}
    (hindex : index < fragmentCountSize scfg sent.frame)
    (hbrings : BringsFragment scfg sent index op) :
    CompletesBetween sent.frame.sequence st (runOperation env ccfg st op).1 ∨
      ∃ b, HoldsAtLeast scfg sent sinceNs (fun i => there i ∨ i = index)
          (runOperation env ccfg st op).1 b ∧
        ∃ i, i < fragmentCountSize scfg sent.frame ∧ ¬ (there i ∨ i = index) := by
  obtain ⟨hsend, hcarries⟩ := h.carries hdistinct hsent hheld.stored
  have hundisturbed := h.undisturbed hdistinct hsent hheld.stored hheld.touched hop htime
  have hnext : ReceivesSent ccfg scfg frames (runOperation env ccfg st op).1 :=
    (h.runOperation (completionRules hdistinct) hop env).1
  rcases (runOperation_retains h.wellFormed env ccfg hundisturbed).kept with hdone | hkept
  · exact .inl hdone
  obtain ⟨b, hb, hgrows⟩ := hkept a hheld.stored
  obtain ⟨nowNs, deferReadyPop, rfl⟩ := hbrings
  obtain ⟨time, htime, -, hlive⟩ := hundisturbed.time
  obtain rfl := Option.some.inj htime
  have hdelivered := processUdpDatagram_delivers hloss (parseUdpDatagram_dataDatagram hsend hindex)
    rfl hheld.stored (h.wellFormed.assemblies _ a hheld.stored)
    (h.notRecent _ a hheld.stored) hlive (hcarries.hasLayout hsend _ _ _) env deferReadyPop
  rcases hdelivered with hdone | ⟨c, hc, hhas, hopen⟩
  · exact .inl hdone
  obtain rfl := Option.some.inj (hb.symm.trans hc)
  have hthere : ∀ i, i < fragmentCountSize scfg sent.frame → there i ∨ i = index → b.Has i := by
    rintro i hi (hold | rfl)
    · exact hgrows.has i (hheld.has i hi hold)
    · exact hhas
  refine .inr ⟨b, ⟨hb, hgrows.touched hheld.touched, hthere⟩, ?_⟩
  -- the assembly is not complete, so it misses a fragment
  by_contra hall
  push Not at hall
  have hcount : b.fragmentCount = fragmentCountSize scfg sent.frame :=
    hgrows.fragmentCount.trans hcarries.count
  have hcomplete : b.complete = true := by
    rw [(hnext.wellFormed.assemblies _ b hb).complete_iff]
    intro i hi
    rw [hcount] at hi
    exact hthere i hi (hall i hi)
  rw [hopen] at hcomplete
  cases hcomplete

theorem HoldsAtLeast.kept {there : ℕ → Prop}
    (hheld : HoldsAtLeast scfg sent sinceNs there st a) (h : ReceivesSent ccfg scfg frames st)
    (hdistinct : DistinctSequences frames) (hsent : sent ∈ frames) {op : UdpOperation}
    (hop : ReceiverInv.AllowsOperation (PartOf scfg frames) op)
    (htime : WithinTimeout sinceNs op) :
    CompletesBetween sent.frame.sequence st (runOperation env ccfg st op).1 ∨
      ∃ b, HoldsAtLeast scfg sent sinceNs there (runOperation env ccfg st op).1 b := by
  have hundisturbed := h.undisturbed hdistinct hsent hheld.stored hheld.touched hop htime
  rcases (runOperation_retains h.wellFormed env ccfg hundisturbed).kept with hdone | hkept
  · exact .inl hdone
  · obtain ⟨b, hb, hgrows⟩ := hkept a hheld.stored
    exact .inr ⟨b, hb, hgrows.touched hheld.touched,
      fun i hi hthere => hgrows.has i (hheld.has i hi hthere)⟩

theorem WithinTimeout.ne_connect {op : UdpOperation} (h : WithinTimeout sinceNs op) :
    op ≠ .connect := by
  rintro rfl
  obtain ⟨nowNs, hnow, -⟩ := h
  cases hnow

/-- If what a client misses of a frame is delivered before the frame times out, then the
frame is completed, whatever else happens in the meantime. -/
theorem completes_of_deliveries (hdistinct : DistinctSequences frames) (hsent : sent ∈ frames)
    (hloss : ccfg.udpTestLossPattern = .none) {ops : List UdpOperation}
    (hops : ∀ op ∈ ops, ReceiverInv.AllowsOperation (PartOf scfg frames) op)
    (htimes : ∀ op ∈ ops, WithinTimeout sinceNs op) (hreach : st.Reachable env ccfg)
    (h : ReceivesSent ccfg scfg frames st) {there : ℕ → Prop}
    (hheld : HoldsAtLeast scfg sent sinceNs there st a)
    (hmissing : ∃ i, i < fragmentCountSize scfg sent.frame ∧ ¬ there i)
    (hdelivered : ∀ i, i < fragmentCountSize scfg sent.frame → ¬ there i →
      ∃ op ∈ ops, BringsFragment scfg sent i op) :
    CompletesBetween sent.frame.sequence st (runOperations env ccfg st ops).1 := by
  induction ops generalizing st a there with
  | nil =>
      obtain ⟨i, hi, hnot⟩ := hmissing
      obtain ⟨op, hop, -⟩ := hdelivered i hi hnot
      cases hop
  | cons op ops ih =>
      obtain ⟨hop, hops⟩ := List.forall_mem_cons.mp hops
      obtain ⟨htime, htimes⟩ := List.forall_mem_cons.mp htimes
      have hnext : ReceivesSent ccfg scfg frames (runOperation env ccfg st op).1 :=
        (h.runOperation (completionRules hdistinct) hop env).1
      have hreach' := hreach.runOperation op
      obtain ⟨since, hsince⟩ := runOperation_extends hreach htime.ne_connect
      have hdone (hfirst : CompletesBetween sent.frame.sequence st
          (runOperation env ccfg st op).1) :
          CompletesBetween sent.frame.sequence st (runOperations env ccfg st (op :: ops)).1 := by
        have hnot : .connect ∉ ops := fun hmem =>
          (htimes _ hmem).ne_connect rfl
        obtain ⟨more, hmore⟩ := runOperations_extends hreach' hnot
        exact hfirst.append ⟨more, hmore.completed_eq⟩
      by_cases hlast : ∃ i, i < fragmentCountSize scfg sent.frame ∧ BringsFragment scfg sent i op
      · obtain ⟨index, hindex, hbrings⟩ := hlast
        rcases hheld.step h hdistinct hsent hloss hop htime hindex hbrings with
          hfirst | ⟨b, hb, hmissing⟩
        · exact hdone hfirst
        · refine (ih hops htimes hreach' hnext hb hmissing ?_).prepend ⟨since, hsince.completed_eq⟩
          intro i hi hnot
          rw [not_or] at hnot
          obtain ⟨o, ho, hbrings'⟩ := hdelivered i hi hnot.1
          rcases List.mem_cons.mp ho with rfl | ho
          · obtain ⟨nowNs, deferReadyPop, rfl⟩ := hbrings
            obtain ⟨nowNs', deferReadyPop', heq⟩ := hbrings'
            have hdata := (UdpOperation.processUdpDatagram.inj heq).1
            obtain ⟨hsend, -⟩ := h.carries hdistinct hsent hheld.stored
            exact absurd (dataDatagram_injective hsend hindex hi hdata).symm hnot.2
          · exact ⟨o, ho, hbrings'⟩
      · have hkept : CompletesBetween sent.frame.sequence st (runOperation env ccfg st op).1 ∨ _ :=
          hheld.kept h hdistinct hsent hop htime
        rcases hkept with hfirst | ⟨b, hb⟩
        · exact hdone hfirst
        · refine (ih hops htimes hreach' hnext hb hmissing ?_).prepend ⟨since, hsince.completed_eq⟩
          intro i hi hnot
          obtain ⟨o, ho, hbrings⟩ := hdelivered i hi hnot
          rcases List.mem_cons.mp ho with rfl | ho
          · exact absurd ⟨i, hi, hbrings⟩ hlast
          · exact ⟨o, ho, hbrings⟩

end

/-! ### The server -/

/-- A datagram of one of the frames. -/
def OfFrames (cfg : TransportConfig) (frames : List SentFrame) (datagram : Bytes) : Prop :=
  ∃ sent ∈ frames, Sendable cfg sent.frame ∧ FrameDatagram cfg sent datagram

section

variable {env : ServerEnv} {cfg : TransportConfig} {ops : List ServerOperation}
  {st next : UdpStreamingBackend}

theorem emits_serviceStep (hsocket : env.RefusesOversized) {frames : List SentFrame}
    (h : Emits (OfFrames cfg frames) st) {op : ServerOperation}
    (hop : ∀ sent ∈ sentFrames [op], sent ∈ frames)
    (hstep : serviceStep env cfg st op = some next) : Emits (OfFrames cfg frames) next := by
  cases op with
  | broadcast frame clients transportSendNs cacheNs =>
      rw [serviceStep] at hstep
      split at hstep
      · cases hstep
      have hsent : Emits (OfFrames cfg frames)
          (sendFrameFragments env cfg frame clients transportSendNs cacheNs st).1 ∨
            (sendFrameFragments env cfg frame clients transportSendNs cacheNs st).2 = false := by
        cases hok : (sendFrameFragments env cfg frame clients transportSendNs cacheNs st).2 with
        | false => exact .inr rfl
        | true =>
            have hsend := sendable_of_sendFrameFragments hsocket hok
            refine .inl (h.sendFrameFragments fun _ datagram hdatagram => ?_)
            exact ⟨_, hop _ (List.mem_singleton_self _), hsend, hdatagram⟩
      split at hstep
      · rename_i heq
        rw [heq] at hsent
        obtain rfl := Option.some.inj hstep
        exact hsent.resolve_right (by simp)
      · cases hstep
  | handleNackRequest address nowNs nackItems =>
      obtain rfl := Option.some.inj hstep
      exact h.handleNackRequest address nowNs nackItems

/-- What a run of the service hands to the network are datagrams of the frames it has sent. -/
theorem runService_emits (hsocket : env.RefusesOversized)
    (hrun : runSteps (serviceStep env cfg) {} ops = some st) :
    Emits (OfFrames cfg (sentFrames ops)) st := by
  have hfrom (rest : List ServerOperation) (start : UdpStreamingBackend)
      (hops : ∀ op ∈ rest, op ∈ ops) (h : Emits (OfFrames cfg (sentFrames ops)) start)
      (hrun : runSteps (serviceStep env cfg) start rest = some st) :
      Emits (OfFrames cfg (sentFrames ops)) st := by
    induction rest generalizing start with
    | nil =>
        obtain rfl := Option.some.inj hrun
        exact h
    | cons op rest ih =>
        obtain ⟨hop, hops⟩ := List.forall_mem_cons.mp hops
        obtain ⟨next, hstep, hrest⟩ := (runSteps_cons_eq_some _).mp hrun
        refine ih next hops (emits_serviceStep hsocket h ?_ hstep) hrest
        intro sent hsent
        obtain ⟨o, ho, hsome⟩ := List.mem_filterMap.mp hsent
        obtain rfl := List.mem_singleton.mp ho
        exact List.mem_filterMap.mpr ⟨o, hop, hsome⟩
  exact hfrom ops {} (fun _ => id) ⟨nofun, nofun⟩ hrun

/-- What arrives at the client is part of a frame that was sent. -/
theorem partOf_of_runService (hsocket : env.RefusesOversized)
    (hrun : runSteps (serviceStep env cfg) {} ops = some st) {data : Bytes}
    (harrives : Arrives st.emitted data) {header : MessageHeader}
    {fragment : UdpFrameFragmentHeader} {body : Bytes}
    (hparse : parseUdpDatagram data = some (header, fragment, body)) :
    PartOf cfg (sentFrames ops) header fragment body := by
  obtain ⟨e, he, length, rfl⟩ := harrives
  obtain ⟨sent, hsent, hsend, hdatagram⟩ := (runService_emits hsocket hrun).emitted e he
  obtain ⟨header', fragment', body', hwhole, hpart⟩ :=
    parseUdpDatagram_frameDatagram hsend hdatagram
  have hsame := parseUdpDatagram_take hwhole hparse
  simp only [Prod.mk.injEq] at hsame
  obtain ⟨rfl, rfl, rfl⟩ := hsame
  exact ⟨sent, hsent, hsend, hpart⟩

/-- The datagrams that one request makes the server hand to its socket. -/
def answers (env : ServerEnv) (cfg : TransportConfig) (address : Endpoint) (nowNs : UInt64)
    (nackItems : List UdpNackItem) (st : UdpStreamingBackend) : List (Endpoint × Bytes) :=
  (handleNackRequest env cfg address nowNs nackItems st).emitted.drop st.emitted.length

theorem mem_handed_of_accepts {address : Endpoint} {datagrams : List Bytes} {datagram : Bytes}
    {call : ℕ}
    (hmem : datagram ∈ datagrams) (haccepts : ∀ call, 1 ≤ env.accepted call datagram) :
    (address, datagram) ∈ handed env [address] call datagrams := by
  induction datagrams generalizing call with
  | nil => cases hmem
  | cons first rest ih =>
      rw [handed, List.mem_append]
      rcases List.mem_cons.mp hmem with rfl | hrest
      · refine .inl ?_
        rw [List.take_of_length_le (by simpa using haccepts call)]
        exact List.mem_singleton_self _
      · exact .inr (ih hrest)

/-- A request that names a fragment of a frame in time is answered with the fragment. -/
theorem mem_answers {address : Endpoint} {nowNs : UInt64} {nackItems : List UdpNackItem}
    (hnack : cfg.udpEnableNack = true) (hnonneg : 0 ≤ cfg.udpRetransmitCacheMaxAgeMs)
    (hint : cfg.udpRetransmitCacheMaxAgeMs < 2 ^ 31)
    (hrun : runSteps (serviceStep env cfg) {} ops = some st) (htime : InTime ops)
    (hdistinct : DistinctSequences (sentFrames ops)) (hlast : ∀ op ∈ ops, op.atNs ≤ nowNs)
    {item : UdpNackItem} (hitem : item ∈ nackItems.take cfg.udpRetransmitMaxFragmentsPerRequest)
    {datagram : Bytes} (hserves : Serves cfg (sentFrames ops) nowNs item datagram)
    (haccepts : ∀ call, 1 ≤ env.accepted call datagram) :
    (address, datagram) ∈ answers env cfg address nowNs nackItems st := by
  have hinv := serviceInvariant_of_run hnack hnonneg hint hrun htime
  obtain ⟨start, hkeeps, hcache, hfresh⟩ := hinv.prune hnonneg hint (serviceClock_le hlast)
  have hhandles := handleNackRequest_handles env address nowNs nackItems hnack hinv.socketOpen
  have hcached := (cachedDatagram_eq_some_iff hdistinct hkeeps (hfresh htime.transmitted)).mpr
    hserves
  rw [answers, hhandles.emitted, List.drop_left]
  refine mem_handed_of_accepts (List.mem_filterMap.mpr ⟨item, hitem, ?_⟩) haccepts
  rw [hcache]
  exact hcached

end

/-! ### A round -/

/-- The server has read the datagram as a request and has handed `answered` to its socket for
it, while the frame was one of the latest and not too old. -/
def AnswersFor (env : ServerEnv) (cfg : TransportConfig) (ops : List ServerOperation)
    (sent : SentFrame) (data : Bytes) (answered : List (Endpoint × Bytes)) : Prop :=
  ∃ first address nowNs nackItems rest st,
    ops = first ++ ServerOperation.handleNackRequest address nowNs nackItems :: rest ∧
    (parseNackRequest (data.take cfg.udpMaxDatagramSize)).map Prod.snd = some nackItems ∧
    runSteps (serviceStep env cfg) {} first = some st ∧
    sent ∈ latestFrames cfg (sentFrames first) ∧
    nowNs.toNat - sendTimeNs sent ≤ maxAgeNs cfg ∧
    answered = answers env cfg address nowNs nackItems st

section

variable {env : ServerEnv} {cfg : TransportConfig} {ops : List ServerOperation}
  {sent : SentFrame}

/-- The answer has the fragments that the request asks for. -/
theorem AnswersFor.has {data : Bytes} {answered : List (Endpoint × Bytes)}
    (h : AnswersFor env cfg ops sent data answered) (hnack : cfg.udpEnableNack = true)
    (hnonneg : 0 ≤ cfg.udpRetransmitCacheMaxAgeMs)
    (hint : cfg.udpRetransmitCacheMaxAgeMs < 2 ^ 31) (htime : InTime ops)
    (hdistinct : DistinctSequences (sentFrames ops)) {nackItems : List UdpNackItem}
    (hread : (parseNackRequest (data.take cfg.udpMaxDatagramSize)).map Prod.snd = some nackItems)
    (hlimit : nackItems.length ≤ cfg.udpRetransmitMaxFragmentsPerRequest) {index : ℕ}
    (hitem : nackItem sent.frame.sequence index ∈ nackItems)
    (hindex : index < fragmentCountSize cfg sent.frame)
    (haccepts : ∀ call, 1 ≤ env.accepted call (dataDatagram cfg sent index)) :
    ∃ address, (address, dataDatagram cfg sent index) ∈ answered := by
  obtain ⟨first, address, nowNs, items, rest, st, rfl, hitems, hrun, hlatest, hage, rfl⟩ := h
  obtain rfl := Option.some.inj (hitems.symm.trans hread)
  have hfirst : DistinctSequences (sentFrames first) := by
    rw [sentFrames, List.filterMap_append] at hdistinct
    exact hdistinct.sublist ((List.sublist_append_left _ _).map _)
  have hlast : ∀ op ∈ first, op.atNs ≤ nowNs := fun op hop =>
    (List.pairwise_append.mp htime.ordered).2.2 op hop _ List.mem_cons_self
  have hserves : Serves cfg (sentFrames first) nowNs (nackItem sent.frame.sequence index)
      (dataDatagram cfg sent index) := ⟨sent, hlatest, rfl, hage, hindex, rfl⟩
  have hin : nackItem sent.frame.sequence index ∈
      items.take cfg.udpRetransmitMaxFragmentsPerRequest := by
    rwa [List.take_of_length_le hlimit]
  exact ⟨address, mem_answers hnack hnonneg hint hrun htime.initial hfirst hlast hin hserves
    haccepts⟩

end

/-- A round asks for everything that an eligible assembly misses, in datagrams that the server
can read. -/
theorem nackRound_asks {env : ClientEnv} {cfg : ClientConfig} {nowNs key : ℕ}
    {st : StreamClient} {a : UdpFrameAssembly} (htimes : NackTimes nowNs st)
    (hinv : RequestableInv st) (hnack : cfg.udpNackEnabled = true)
    (hmax : 1 ≤ cfg.udpNackMaxRequestsPerPacket)
    (hstored : st.udpAssemblies[key]? = some a) (heligible : NackEligible cfg nowNs a)
    (hsends : ∀ n, st.history.nackDatagrams.length ≤ n → env.sendSucceeds n = true) {i : ℕ}
    (hi : i < a.fragmentCount) (hmissing : ¬a.Has i) :
    ∃ x ∈ (maybeSendUdpNackRequests env cfg st nowNs).history.nackDatagrams.drop
        st.history.nackDatagrams.length,
      x.frameSequence = key ∧ nackItem key i ∈ sendItems x ∧
        (parseNackRequest x.datagram).map Prod.snd = some (sendItems x) ∧
        (sendItems x).length ≤ cfg.udpNackMaxRequestsPerPacket := by
  have hentries := roundEntries_toList htimes.socketOpen hinv.assemblies
  obtain ⟨-, hitems⟩ := roundSends_sent env cfg nowNs hentries.requestable hsends
  have hentry : (key, a) ∈ st.udpAssemblies.toList :=
    Std.ExtTreeMap.mem_toList_iff_getElem?_eq_some.mpr hstored
  have hdue : nackDue cfg nowNs a = true :=
    (nackDue_iff (hentries.requestable _ hentry).wellFormed (htimes.seen _ _ hstored)
      (htimes.asked _ _ hstored)).mpr heligible
  have hasked : nackItem key i ∈ (roundSends env cfg nowNs st.history.nackDatagrams.length
      st.udpAssemblies.toList).flatMap sendItems := by
    rw [hitems]
    exact List.mem_flatMap.mpr ⟨(key, a), List.mem_filter.mpr ⟨hentry, hdue⟩,
      List.mem_map.mpr ⟨i, UdpFrameAssembly.mem_missingFragments.mpr ⟨hi, hmissing⟩, rfl⟩⟩
  obtain ⟨x, hx, hitem⟩ := List.mem_flatMap.mp hasked
  have hparsed : (parseNackRequest x.datagram).map Prod.snd = some (sendItems x) ∧
      (sendItems x).length ≤ nackChunk cfg :=
    parseNackRequest_roundSends env cfg nowNs hentries.requestable x hx
  refine ⟨x, ?_, ?_, hitem, hparsed.1, hparsed.2.trans_eq (Nat.max_eq_right hmax)⟩
  · rw [maybeSendUdpNackRequests_eq env hnack hmax, hentries.foldl_nackDatagrams, List.drop_left]
    exact hx
  · obtain ⟨j, -, hsame⟩ := List.mem_map.mp hitem
    exact congrArg UdpNackItem.frameSequence hsame

/-- A round of requests repairs a frame: if the server reads each datagram that asks for the
frame while it still has it, and what it answers arrives before the assembly times out, then
the client completes the frame with the payload and the timestamps that were sent. -/
theorem nackRound_repairs {senv : ServerEnv} {scfg : TransportConfig}
    {sops : List ServerOperation} {sst : UdpStreamingBackend} {cenv : ClientEnv}
    {ccfg : ClientConfig} {before after : List UdpOperation} {nowNs : ℕ}
    {st asked : StreamClient} {sent : SentFrame} {a : UdpFrameAssembly}
    (hsocket : senv.RefusesOversized)
    (hrun : runSteps (serviceStep senv scfg) {} sops = some sst) (htime : InTime sops)
    (hdistinct : DistinctSequences (sentFrames sops)) (hretransmit : scfg.udpEnableNack = true)
    (hnonneg : 0 ≤ scfg.udpRetransmitCacheMaxAgeMs)
    (hint : scfg.udpRetransmitCacheMaxAgeMs < 2 ^ 31)
    (hnack : ccfg.udpNackEnabled = true) (hmax : 1 ≤ ccfg.udpNackMaxRequestsPerPacket)
    (hlimit : ccfg.udpNackMaxRequestsPerPacket ≤ scfg.udpRetransmitMaxFragmentsPerRequest)
    (hloss : ccfg.udpTestLossPattern = .none)
    (hnetwork : ∀ data time deferReadyPop,
      .processUdpDatagram data time deferReadyPop ∈ before ++ after → Arrives sst.emitted data)
    (hclock : ∀ t ∈ clock before, 0 < t ∧ t ≤ nowNs)
    (hst : (runOperations cenv ccfg (StreamClient.connected ccfg) before).1 = st)
    (hasked : maybeSendUdpNackRequests cenv ccfg st nowNs = asked)
    (hsends : ∀ n, st.history.nackDatagrams.length ≤ n → cenv.sendSucceeds n = true)
    (hsent : sent ∈ sentFrames sops)
    (hstored : st.udpAssemblies[sent.frame.sequence]? = some a)
    (heligible : NackEligible ccfg nowNs a)
    (hanswered : ∀ x ∈ asked.history.nackDatagrams.drop st.history.nackDatagrams.length,
      x.frameSequence = sent.frame.sequence → x.datagram.length ≤ scfg.udpMaxDatagramSize ∧
        ∃ answered, AnswersFor senv scfg sops sent x.datagram answered ∧
          ∀ answer ∈ answered, ∃ time deferReadyPop,
            .processUdpDatagram answer.2 time deferReadyPop ∈ after)
    (haccepts : ∀ call i, i < fragmentCountSize scfg sent.frame →
      1 ≤ senv.accepted call (dataDatagram scfg sent i))
    (htimes : ∀ op ∈ after, WithinTimeout a.lastFragmentTimestampNs op) :
    ∃ c ∈ (runOperations cenv ccfg asked after).1.history.completed.drop
        st.history.completed.length,
      c.sequence = sent.frame.sequence ∧ c.frame.payload = sent.frame.payload ∧
        c.frame.metadata = embeddedMetadata ccfg scfg sent := by
  have hallowed : ∀ op ∈ before ++ after,
      ReceiverInv.AllowsOperation (PartOf scfg (sentFrames sops)) op := by
    intro op hop
    cases op with
    | processUdpDatagram data time deferReadyPop =>
        exact fun header fragment body hparse =>
          partOf_of_runService hsocket hrun (hnetwork data time deferReadyPop hop) hparse
    | _ => trivial
  have hrules : AssemblyRules ccfg (PartOf scfg (sentFrames sops))
      (CarriesOneOf ccfg scfg (sentFrames sops)) (CompletesSent ccfg scfg (sentFrames sops))
      (IsOneOf ccfg scfg (sentFrames sops)) := completionRules hdistinct
  have hreceives : ReceivesSent ccfg scfg (sentFrames sops) st := by
    rw [← hst]
    exact ((ReceiverInv.connected ccfg).runOperations hrules cenv before
      fun op hop => hallowed op (List.mem_append_left _ hop)).1
  have hreach : st.Reachable cenv ccfg := ⟨before, hst⟩
  have hround : (runOperation cenv ccfg st (.maybeSendUdpNackRequests nowNs)).1 = asked := hasked
  have hinv := hreach.requestableInv
  have hnackTimes : NackTimes nowNs st := by
    rw [← hst]
    exact (runOperations_nackTimes hclock (.connect ccfg nowNs {}) (.connected ccfg)).1
  obtain ⟨hsend, hcarries⟩ := hreceives.carries hdistinct hsent hstored
  have hcount : a.fragmentCount = fragmentCountSize scfg sent.frame := hcarries.count
  have hmissing : ∃ i, i < fragmentCountSize scfg sent.frame ∧ ¬ a.Has i := by
    obtain ⟨⟨i, hi, hnot⟩, -⟩ := heligible
    exact ⟨i, hcount ▸ hi, hnot⟩
  -- the answers bring all that is missing
  have hdelivered : ∀ i, i < fragmentCountSize scfg sent.frame → ¬ a.Has i →
      ∃ op ∈ after, BringsFragment scfg sent i op := by
    intro i hi hnot
    obtain ⟨x, hx, hsequence, hitem, hparse, hlength⟩ := nackRound_asks hnackTimes hinv hnack hmax
      hstored heligible hsends (hcount.symm ▸ hi) hnot
    rw [hasked] at hx
    obtain ⟨hfits, answered, hanswers, harrive⟩ := hanswered x hx hsequence
    rw [← List.take_of_length_le hfits] at hparse
    obtain ⟨address, hanswer⟩ := hanswers.has hretransmit hnonneg hint htime hdistinct hparse
      (hlength.trans hlimit) hitem hi fun call => haccepts call i hi
    obtain ⟨time, deferReadyPop, hmem⟩ := harrive _ hanswer
    exact ⟨_, hmem, time, deferReadyPop, rfl⟩
  -- the round keeps what is there
  have hlog : asked.log = st.log := by
    rw [← hasked, maybeSendUdpNackRequests_log]
  have hkept : ∃ b, HoldsAtLeast scfg sent a.lastFragmentTimestampNs a.Has asked b := by
    have hretains : Retains sent.frame.sequence a.lastFragmentTimestampNs st asked :=
      hasked ▸ maybeSendUdpNackRequests_retains cenv ccfg st nowNs
    rcases hretains.kept with ⟨since, hsince, c, hc, -⟩ | hkept
    · rw [hlog, List.self_eq_append_right] at hsince
      rw [hsince] at hc
      cases hc
    · obtain ⟨b, hb, hgrows⟩ := hkept a hstored
      exact ⟨b, hb, hgrows.touched le_rfl, fun i _ => hgrows.has i⟩
  obtain ⟨b, hheld⟩ := hkept
  have hreceives' : ReceivesSent ccfg scfg (sentFrames sops) asked := by
    have hallows : ReceiverInv.AllowsOperation (PartOf scfg (sentFrames sops))
        (.maybeSendUdpNackRequests nowNs) := trivial
    rw [← hround]
    exact (hreceives.runOperation hrules hallows cenv).1
  have hafter : ∀ op ∈ after, ReceiverInv.AllowsOperation (PartOf scfg (sentFrames sops)) op :=
    fun op hop => hallowed op (List.mem_append_right _ hop)
  have hreach' : asked.Reachable cenv ccfg := hround ▸ hreach.runOperation _
  obtain ⟨since, hsince, c, hc, hkey⟩ := completes_of_deliveries hdistinct hsent hloss hafter
    htimes hreach' hreceives' hheld hmissing hdelivered
  have hnew : c ∈ (runOperations cenv ccfg asked after).1.log.completed.drop
      st.log.completed.length := by
    rw [hsince, hlog, List.drop_left]
    exact hc
  refine ⟨c, hnew, hkey, ?_⟩
  have hfinal : ReceivesSent ccfg scfg (sentFrames sops) (runOperations cenv ccfg asked after).1 :=
    (hreceives'.runOperations hrules cenv after hafter).1
  have hcompleted : c ∈ (runOperations cenv ccfg asked after).1.log.completed :=
    hsince ▸ List.mem_append_right _ hc
  obtain ⟨other, hother, hsequence, hmetadata, hpayload⟩ := hfinal.completed c hcompleted
  obtain rfl := hdistinct.eq hother hsent (hsequence.trans hkey)
  exact ⟨hpayload, hmetadata⟩

/-! #### One fragment of two is lost -/

def lostSecondServerRun : List ServerOperation :=
  [.broadcast smallFrame.frame [0] 5 5, .handleNackRequest 0 30000005 [nackItem 9 1]]

/-- The server when the request comes. -/
def lostSecondSent : UdpStreamingBackend :=
  (sendFrameFragments .single smallConfig smallFrame.frame [0] 5 5 {}).1

def lostSecondClientRun : List UdpOperation :=
  [.processUdpDatagram (dataDatagram smallConfig smallFrame 0) 10 false]

/-- The client when it asks. -/
def lostSecondClient : StreamClient :=
  (runOperations .idle {} (StreamClient.connected {}) lostSecondClientRun).1

/-- The assembly of the frame. -/
def lostSecondAssembly : UdpFrameAssembly := lostSecondClient.udpAssemblies[9]?.getD default

theorem lostSecond_repaired :
    ∃ c ∈ (runOperations .idle {} (maybeSendUdpNackRequests .idle {} lostSecondClient 30000010)
        [.processUdpDatagram (dataDatagram smallConfig smallFrame 1) 40000000
          false]).1.history.completed.drop lostSecondClient.history.completed.length,
      c.sequence = smallFrame.frame.sequence ∧ c.frame.payload = smallFrame.frame.payload ∧
        c.frame.metadata = embeddedMetadata {} smallConfig smallFrame := by
  have hround : ((maybeSendUdpNackRequests .idle {} lostSecondClient
      30000010).history.nackDatagrams.drop lostSecondClient.history.nackDatagrams.length).map
        NackSend.datagram = [buildNackDatagram 9 0 [1]] := by decide +kernel
  have hanswers : answers .single smallConfig 0 30000005 [nackItem 9 1] lostSecondSent =
      [(0, dataDatagram smallConfig smallFrame 1)] := by decide +kernel
  have hrun : runSteps (serviceStep .single smallConfig) {} lostSecondServerRun =
      some (handleNackRequest .single smallConfig 0 30000005 [nackItem 9 1] lostSecondSent) := by
    decide +kernel
  have htime : InTime lostSecondServerRun := by
    refine ⟨by simp [lostSecondServerRun, ServerOperation.atNs], by
      simp [lostSecondServerRun, sentFrames], ?_⟩
    intro frame clients transportSendNs cacheNs hmem
    simp only [lostSecondServerRun, List.mem_cons, ServerOperation.broadcast.injEq,
      List.not_mem_nil, or_false, reduceCtorEq] at hmem
    obtain ⟨-, -, rfl, rfl⟩ := hmem
    decide
  have hemitted : ∀ i < 2, (0, dataDatagram smallConfig smallFrame i) ∈
      (handleNackRequest .single smallConfig 0 30000005 [nackItem 9 1]
        lostSecondSent).emitted := by decide +kernel
  refine nackRound_repairs ServerEnv.single_refusesOversized hrun htime (List.nodup_singleton _)
    rfl (by decide) (by decide) rfl (by decide) (by decide) rfl ?_
    (show ∀ t ∈ clock lostSecondClientRun, 0 < t ∧ t ≤ 30000010 by decide) rfl rfl
    (fun _ _ => rfl) (List.mem_singleton_self _)
    (show lostSecondClient.udpAssemblies[9]? = some lostSecondAssembly by decide +kernel)
    (by decide +kernel) ?_ ?_ ?_
  · intro data time deferReadyPop hmem
    simp only [lostSecondClientRun, List.cons_append, List.nil_append, List.mem_cons,
      UdpOperation.processUdpDatagram.injEq, List.not_mem_nil, or_false] at hmem
    rcases hmem with ⟨rfl, -, -⟩ | ⟨rfl, -, -⟩
    · exact ⟨_, hemitted 0 (by decide), _, List.take_length.symm⟩
    · exact ⟨_, hemitted 1 (by decide), _, List.take_length.symm⟩
  · intro x hx _
    have hdatagram : x.datagram = buildNackDatagram 9 0 [1] := by
      rw [← List.mem_singleton, ← hround]
      exact List.mem_map_of_mem hx
    rw [hdatagram]
    refine ⟨by decide, _, ⟨[.broadcast smallFrame.frame [0] 5 5], 0, 30000005, [nackItem 9 1], [],
      lostSecondSent, rfl, by decide +kernel, by decide +kernel, by decide +kernel, by decide,
      rfl⟩, ?_⟩
    rw [hanswers]
    intro answer hanswer
    obtain rfl := List.mem_singleton.mp hanswer
    exact ⟨_, _, List.mem_singleton_self _⟩
  · intro call i hi
    have hlength : ∀ i < fragmentCountSize smallConfig smallFrame.frame,
        (dataDatagram smallConfig smallFrame i).length ≤ 65507 := by decide +kernel
    exact (if_pos (hlength i hi)).ge
  · intro op hop
    obtain rfl := List.mem_singleton.mp hop
    exact ⟨_, rfl, by decide +kernel, by decide +kernel⟩

end AvProject.Udp
