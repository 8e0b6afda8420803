import AvProject.Server.UdpStreamingBackend

/-!
What the server hands to the network: every datagram of a run, retransmissions
included, is a data or the parity datagram of one of the frames it was asked to
send.
-/

namespace AvProject.Server

open AvProject.Lib AvProject.Protocol

/-- The two tests of `sendFrameFragments` that let a frame through. -/
structure Fragmentable (cfg : TransportConfig) (frame : EncodedFrame) : Prop where
  target : headerSize < cfg.udpTargetPayloadSize
  maxDatagram : headerSize < cfg.udpMaxDatagramSize
  count_le : fragmentCountSize cfg frame ≤ 0xFFFF

theorem Fragmentable.maxFragmentPayloadSize_pos {cfg : TransportConfig} {frame : EncodedFrame}
    (h : Fragmentable cfg frame) : 0 < maxFragmentPayloadSize cfg := by
  have htarget := h.target
  have hmax := h.maxDatagram
  rw [maxFragmentPayloadSize]
  omega

/-- The datagrams of one frame. -/
inductive FrameDatagram (cfg : TransportConfig) (sent : SentFrame) : Bytes → Prop
  | data (index : ℕ) (hindex : index < fragmentCountSize cfg sent.frame) :
      FrameDatagram cfg sent (dataDatagram cfg sent index)
  | parity (hfec : cfg.udpEnableFec = true) (hcount : 1 < fragmentCountSize cfg sent.frame) :
      FrameDatagram cfg sent
        (parityDatagram cfg sent (parity (maxFragmentPayloadSize cfg) sent.frame.payload))

/-- Everything sent or kept for retransmission satisfies `P`. -/
structure Emits (P : Bytes → Prop) (st : UdpStreamingBackend) : Prop where
  emitted : ∀ e ∈ st.emitted, P e.2
  cached : ∀ frame ∈ st.retransmitCache, ∀ fragment ∈ frame.fragments,
    P (fragment.datagram.take fragment.datagramSize)

section

variable {env : ServerEnv} {cfg : TransportConfig} {P : Bytes → Prop}
  {st : UdpStreamingBackend} {clients : List Endpoint} {sent : SentFrame}

theorem Emits.transmit (h : Emits P st) {datagram : Bytes} (hP : P datagram) :
    Emits P (transmit env clients datagram st).1 where
  emitted := by
    refine List.forall_mem_append.mpr ⟨h.emitted, fun e he => ?_⟩
    obtain ⟨client, -, rfl⟩ := List.mem_map.mp he
    exact hP
  cached := h.cached

theorem Emits.sendToClients (h : Emits P st) {datagram : Bytes} (hP : P datagram) :
    Emits P (sendToClients env clients datagram st).1 := by
  have hsent : Emits P (Server.transmit env clients datagram st).1 := h.transmit hP
  unfold Server.sendToClients
  split
  · simp only
    split
    · exact { hsent with }
    · exact hsent
  · split
    · simp only
      split <;> exact { hsent with }
    · exact h

/-- The loop over the data fragments: what it sends, what it caches and the parity
block it has accumulated when it reaches the end. -/
theorem Emits.sendDataFragments (h : Emits P st) (env : ServerEnv) (clients : List Endpoint)
    {indices : List ℕ} (hP : ∀ index ∈ indices, P (dataDatagram cfg sent index))
    (fecPayload : Bytes) {cached : List CachedUdpFragment}
    (hcached : ∀ fragment ∈ cached, P (fragment.datagram.take fragment.datagramSize)) :
    Emits P (sendDataFragments env cfg sent clients indices st cached fecPayload).1 ∧
      ∀ result ∈ (sendDataFragments env cfg sent clients indices st cached fecPayload).2,
        (∀ fragment ∈ result.1, P (fragment.datagram.take fragment.datagramSize)) ∧
        (cfg.udpEnableFec = true →
          result.2 = (indices.map (fragmentPayload cfg sent.frame)).foldl xorInto
            fecPayload) := by
  induction indices generalizing st cached fecPayload with
  | nil => exact ⟨h, by simpa [Server.sendDataFragments] using hcached⟩
  | cons index rest ih =>
      have hdatagram := hP index List.mem_cons_self
      have hsent : Emits P
          (Server.sendToClients env clients (dataDatagram cfg sent index) st).1 :=
        h.sendToClients hdatagram
      unfold Server.sendDataFragments
      simp only
      split
      · exact ⟨hsent, by simp⟩
      · have hnext : ∀ fragment ∈ (if cfg.udpEnableNack = true then
            cached ++ [{ fragmentIndex := index
                         datagramSize := (dataDatagram cfg sent index).length
                         datagram := dataDatagram cfg sent index }]
            else cached), P (fragment.datagram.take fragment.datagramSize) := by
          split
          · exact List.forall_mem_append.mpr ⟨hcached, by simpa using hdatagram⟩
          · exact hcached
        obtain ⟨hemits, hresult⟩ :=
          ih hsent (fun i hi => hP i (List.mem_cons_of_mem _ hi))
            (if cfg.udpEnableFec = true then
              xorInto fecPayload (fragmentPayload cfg sent.frame index) else fecPayload) hnext
        refine ⟨hemits, fun result hmem => ?_⟩
        obtain ⟨hfragments, hfec⟩ := hresult result hmem
        refine ⟨hfragments, fun henabled => ?_⟩
        rw [hfec henabled, if_pos henabled, List.map_cons, List.foldl_cons]

theorem Emits.sendParity (h : Emits P st) {fecPayload : Bytes}
    (hP : cfg.udpEnableFec = true → 1 < fragmentCountSize cfg sent.frame →
      P (parityDatagram cfg sent fecPayload)) :
    Emits P (sendParity env cfg sent clients fecPayload st).1 := by
  unfold Server.sendParity
  split
  · rename_i hsend
    exact { h.sendToClients (hP hsend.1 hsend.2.1) with }
  · exact h

theorem mem_pruneRetransmitCache {nowNs : UInt64} {cache : List CachedUdpFrame}
    {frame : CachedUdpFrame} (h : frame ∈ pruneRetransmitCache cfg nowNs cache) :
    frame ∈ cache := by
  induction cache with
  | nil => exact h
  | cons oldest rest ih =>
      simp only [pruneRetransmitCache] at h
      split at h
      · exact List.mem_cons_of_mem _ (ih h)
      · exact h

theorem Emits.cacheFrameFragments (h : Emits P st) {frame : CachedUdpFrame} {nowNs : UInt64}
    (hP : ∀ fragment ∈ frame.fragments, P (fragment.datagram.take fragment.datagramSize)) :
    Emits P (cacheFrameFragments cfg frame nowNs st) where
  emitted := h.emitted
  cached := by
    intro cachedFrame hmem
    have hmem := List.mem_of_mem_drop hmem
    rcases List.mem_append.mp hmem with hold | hnew
    · exact h.cached _ (mem_pruneRetransmitCache hold)
    · obtain rfl := List.mem_singleton.mp hnew
      exact hP

/-- One call of `sendFrameFragments` only emits datagrams of its frame. -/
theorem Emits.sendFrameFragments (h : Emits P st) {frame : EncodedFrame}
    {transportSendNs cacheNs : UInt64}
    (hP : Fragmentable cfg frame → ∀ datagram,
      FrameDatagram cfg { frame := frame, transportSendTimestampNs := transportSendNs }
        datagram → P datagram) :
    Emits P (sendFrameFragments env cfg frame clients transportSendNs cacheNs st).1 := by
  unfold Server.sendFrameFragments
  split
  · exact h
  rename_i hsizes
  split
  · exact h
  rename_i hcount
  push Not at hsizes hcount
  have hP := hP ⟨hsizes.1, hsizes.2, hcount⟩
  obtain ⟨hemits, hresult⟩ := h.sendDataFragments env clients
    (fun index hindex => hP _ (.data index (List.mem_range.mp hindex))) []
    (List.forall_mem_nil fun fragment : CachedUdpFragment =>
      P (fragment.datagram.take fragment.datagramSize))
  simp only
  split
  · rename_i heq
    rw [heq] at hemits
    exact hemits
  rename_i cached fecPayload heq
  rw [heq] at hemits hresult
  obtain ⟨hcached, hfec⟩ := hresult _ rfl
  have hparity : Emits P (Server.sendParity env cfg
      { frame := frame, transportSendTimestampNs := transportSendNs } clients fecPayload
      _).1 := hemits.sendParity fun henabled hmany => by
    obtain rfl : fecPayload = _ := hfec henabled
    exact hP _ (.parity henabled hmany)
  split
  · rename_i heq
    rw [heq] at hparity
    exact hparity
  · rename_i heq
    rw [heq] at hparity
    split
    · exact hparity.cacheFrameFragments hcached
    · exact hparity

/-! ### What has been accepted -/

theorem length_le_of_transmit (hsocket : env.RefusesOversized) {datagram : Bytes}
    (h : (transmit env clients datagram st).2 ≠ 0) : datagram.length ≤ 65507 := by
  by_contra hlong
  have hrefused := hsocket st.sendCalls datagram (by omega)
  apply h
  simp [Server.transmit, hrefused]

/-- A datagram that reached a client fits an IPv4 datagram. -/
theorem length_le_of_sendToClients (hsocket : env.RefusesOversized) {datagram : Bytes}
    (h : (sendToClients env clients datagram st).2 ≠ 0) : datagram.length ≤ 65507 := by
  by_contra hlong
  have hzero : (transmit env clients datagram st).2 = 0 := by
    by_contra hsome
    exact hlong (length_le_of_transmit hsocket hsome)
  apply h
  simp only [Server.sendToClients, hzero]
  split
  · rfl
  · split <;> rfl

/-- So does every datagram of a loop that reached its end. -/
theorem length_le_of_sendDataFragments (hsocket : env.RefusesOversized) {indices : List ℕ}
    {cached : List CachedUdpFragment} {fecPayload : Bytes}
    (h : (sendDataFragments env cfg sent clients indices st cached fecPayload).2.isSome) :
    ∀ index ∈ indices, (dataDatagram cfg sent index).length ≤ 65507 := by
  induction indices generalizing st cached fecPayload with
  | nil => simp
  | cons index rest ih =>
      simp only [Server.sendDataFragments] at h
      split at h
      · simp at h
      · rename_i hcount
        intro i hi
        rcases List.mem_cons.mp hi with rfl | hi
        · exact length_le_of_sendToClients hsocket hcount
        · exact ih h i hi

/-- A frame that `sendFrameFragments` does not reject passed its tests, and all its
data datagrams were accepted. -/
theorem sendFrameFragments_accepted (hsocket : env.RefusesOversized) {frame : EncodedFrame}
    {transportSendNs cacheNs : UInt64}
    (h : (sendFrameFragments env cfg frame clients transportSendNs cacheNs st).2 = true) :
    Fragmentable cfg frame ∧ ∀ index, index < fragmentCountSize cfg frame →
      (dataDatagram cfg { frame := frame, transportSendTimestampNs := transportSendNs }
        index).length ≤ 65507 := by
  simp only [Server.sendFrameFragments] at h
  split at h
  · simp at h
  rename_i hsizes
  split at h
  · simp at h
  rename_i hcount
  push Not at hsizes hcount
  refine ⟨⟨hsizes.1, hsizes.2, hcount⟩, fun index hindex => ?_⟩
  split at h
  · simp at h
  · rename_i heq
    have hloop := congrArg (fun outcome => outcome.2.isSome) heq
    exact length_le_of_sendDataFragments hsocket hloop index (List.mem_range.mpr hindex)

/-! ### Retransmission -/

theorem Emits.findCachedFragment (h : Emits P st) {item : UdpNackItem}
    {fragment : CachedUdpFragment}
    (hfound : findCachedFragment st.retransmitCache item = some fragment) :
    P (fragment.datagram.take fragment.datagramSize) := by
  obtain ⟨frame, hframe, hfragment⟩ := List.exists_of_findSome?_eq_some hfound
  exact h.cached frame (List.mem_of_mem_filter hframe) fragment
    (List.mem_of_find?_eq_some hfragment)

theorem Emits.retransmitFragment (h : Emits P st) (address : Endpoint) (item : UdpNackItem) :
    Emits P (retransmitFragment env address st item) := by
  unfold Server.retransmitFragment
  split
  · exact { h with }
  · rename_i fragment hfound
    exact { h.transmit (h.findCachedFragment hfound) with }

theorem Emits.handleNackRequest (h : Emits P st) (address : Endpoint) (nowNs : UInt64)
    (nackItems : List UdpNackItem) :
    Emits P (handleNackRequest env cfg address nowNs nackItems st) := by
  unfold Server.handleNackRequest
  split
  · exact h
  simp only
  generalize nackItems.take _ = items
  have hpruned : Emits P
      { st with
        retransmitCache := pruneRetransmitCache cfg nowNs st.retransmitCache
        nackRequestsReceived := st.nackRequestsReceived + 1
        nackFragmentsRequested := st.nackFragmentsRequested + nackItems.length
        retransmitFragmentsThrottled := st.retransmitFragmentsThrottled +
          (nackItems.length - min nackItems.length cfg.udpRetransmitMaxFragmentsPerRequest) } :=
    ⟨h.emitted, fun frame hframe => h.cached frame (mem_pruneRetransmitCache hframe)⟩
  revert hpruned
  generalize ({ st with
    retransmitCache := pruneRetransmitCache cfg nowNs st.retransmitCache
    nackRequestsReceived := st.nackRequestsReceived + 1
    nackFragmentsRequested := st.nackFragmentsRequested + nackItems.length
    retransmitFragmentsThrottled := st.retransmitFragmentsThrottled +
      (nackItems.length - min nackItems.length
        cfg.udpRetransmitMaxFragmentsPerRequest) } : UdpStreamingBackend) = pruned
  intro hpruned
  induction items generalizing pruned with
  | nil => exact hpruned
  | cons item items ih => exact ih _ (hpruned.retransmitFragment address item)

end

/-! ### Runs -/

/-- The datagram belongs to one of the frames, which passed the size tests. -/
def EmittedFor (cfg : TransportConfig) (frames : List SentFrame) (datagram : Bytes) : Prop :=
  cfg.enabled = true ∧
    ∃ sent ∈ frames, Fragmentable cfg sent.frame ∧ FrameDatagram cfg sent datagram

theorem Emits.runServerOperation {env : ServerEnv} {cfg : TransportConfig}
    {ops : List ServerOperation} {st : UdpStreamingBackend}
    (h : Emits (EmittedFor cfg (sentFrames ops)) st) {op : ServerOperation} (hop : op ∈ ops) :
    Emits (EmittedFor cfg (sentFrames ops)) (runServerOperation env cfg st op) := by
  cases op with
  | broadcast frame clients transportSendNs cacheNs =>
      simp only [Server.runServerOperation, broadcast]
      split
      · exact h
      · rename_i hopen
        have henabled : cfg.enabled = true := by
          simp only [Bool.or_eq_true, Bool.not_eq_true', not_or, Bool.not_eq_false] at hopen
          exact hopen.1.1
        have hmem : { frame := frame, transportSendTimestampNs := transportSendNs } ∈
            sentFrames ops := List.mem_filterMap.mpr ⟨_, hop, rfl⟩
        exact h.sendFrameFragments fun hfragmentable datagram hdatagram =>
          ⟨henabled, _, hmem, hfragmentable, hdatagram⟩
  | handleNackRequest address nowNs nackItems =>
      exact h.handleNackRequest address nowNs nackItems

/-- Every datagram that a run emits belongs to a frame that it was asked to send. -/
theorem runServer_emitted (env : ServerEnv) (cfg : TransportConfig)
    (ops : List ServerOperation) :
    ∀ e ∈ (runServer env cfg ops).emitted, EmittedFor cfg (sentFrames ops) e.2 := by
  suffices h : ∀ (rest : List ServerOperation) (st : UdpStreamingBackend),
      (∀ op ∈ rest, op ∈ ops) → Emits (EmittedFor cfg (sentFrames ops)) st →
      Emits (EmittedFor cfg (sentFrames ops)) (rest.foldl (runServerOperation env cfg) st) from
    (h ops {} (fun op hop => hop) ⟨by simp, by simp⟩).emitted
  intro rest
  induction rest with
  | nil => exact fun st _ hst => hst
  | cons op rest ih =>
      intro st hops hst
      exact ih _ (fun o ho => hops o (List.mem_cons_of_mem _ ho))
        (hst.runServerOperation (hops op List.mem_cons_self))

end AvProject.Server
