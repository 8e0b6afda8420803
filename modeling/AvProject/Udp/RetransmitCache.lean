import AvProject.Server.RetransmitService
import AvProject.Udp.Layout

/-!
What the retransmit cache holds over a run: the frames that clients may ask for again,
as long as they are neither too many nor too old.
-/

namespace AvProject.Udp

open AvProject.Lib AvProject.Protocol AvProject.Server

/-! ### Frames that were handed over -/

/-- The data datagrams of a frame, in the order in which they are sent. -/
def dataDatagrams (cfg : TransportConfig) (sent : SentFrame) : List Bytes :=
  (List.range (fragmentCountSize cfg sent.frame)).map (dataDatagram cfg sent)

/-- The call sends the frame, and hands each of its data fragments to some client. -/
def HandsOver (env : ServerEnv) (cfg : TransportConfig) (st : UdpStreamingBackend) :
    ServerOperation → Prop
  | .broadcast frame clients transportSendNs cacheNs =>
      Fragmentable cfg frame ∧ ∀ datagram ∈ dataDatagrams cfg ⟨frame, transportSendNs⟩,
        ∃ client ∈ clients, (client, datagram) ∈
          (broadcast env cfg frame clients transportSendNs cacheNs st).emitted.drop
            st.emitted.length
  | .handleNackRequest .. => False

instance (cfg : TransportConfig) (frame : EncodedFrame) : Decidable (Fragmentable cfg frame) :=
  decidable_of_iff (headerSize < cfg.udpTargetPayloadSize ∧ headerSize < cfg.udpMaxDatagramSize ∧
      fragmentCountSize cfg frame ≤ 0xFFFF)
    ⟨fun h => ⟨h.1, h.2.1, h.2.2⟩, fun h => ⟨h.target, h.maxDatagram, h.count_le⟩⟩

instance (env : ServerEnv) (cfg : TransportConfig) (st : UdpStreamingBackend) :
    (op : ServerOperation) → Decidable (HandsOver env cfg st op)
  | .broadcast .. => inferInstanceAs (Decidable (_ ∧ _))
  | .handleNackRequest .. => inferInstanceAs (Decidable False)

/-- How many frames are handed over in the course of the operations. -/
def handedOver (env : ServerEnv) (cfg : TransportConfig) :
    UdpStreamingBackend → List ServerOperation → ℕ
  | _, [] => 0
  | st, op :: ops =>
      (if HandsOver env cfg st op then 1 else 0) +
        handedOver env cfg (runServerOperation env cfg st op) ops

/-- `max_age_ns` of `PruneRetransmitCacheLocked`. -/
def cacheMaxAgeNs (cfg : TransportConfig) : ℕ :=
  (cfg.udpRetransmitCacheMaxAgeMs % 2 ^ 64).toNat * 1000 * 1000 % 2 ^ 64

/-- What was sent can be retransmitted: a frame that was handed over is in the cache with
all its data fragments, if the frames handed over after it leave room for it and it is
not too old at any later time at which the backend is called. -/
def KeepsWhatWasSent (env : ServerEnv) (cfg : TransportConfig) (ops : List ServerOperation) :
    Prop :=
  ∀ before after frame clients transportSendNs cacheNs,
    ops = before ++ .broadcast frame clients transportSendNs cacheNs :: after →
    HandsOver env cfg (runServer env cfg before)
      (.broadcast frame clients transportSendNs cacheNs) →
    handedOver env cfg
        (runServer env cfg (before ++ [.broadcast frame clients transportSendNs cacheNs]))
        after < cfg.udpRetransmitCacheFrames →
    (∀ op ∈ after, op.atNs.toNat - transportSendNs.toNat ≤ cacheMaxAgeNs cfg) →
    cachedFrame cfg ⟨frame, transportSendNs⟩ ∈ (runServer env cfg ops).retransmitCache

/-- Where each data datagram of a frame is taken, its parity datagram is taken too. -/
def ParityTaken (env : ServerEnv) (cfg : TransportConfig) (st : UdpStreamingBackend) :
    ServerOperation → Prop
  | .broadcast frame clients transportSendNs _ =>
      cfg.enabled = true → st.socketOpen = true → clients ≠ [] → Fragmentable cfg frame →
        EachTakes env 1 st.sendCalls (dataDatagrams cfg ⟨frame, transportSendNs⟩) →
        HasParity cfg frame →
        1 ≤ env.accepted (st.sendCalls + fragmentCountSize cfg frame)
          (parityDatagram cfg ⟨frame, transportSendNs⟩
            (parity (maxFragmentPayloadSize cfg) frame.payload))
  | .handleNackRequest .. => True

section

variable {env : ServerEnv} {cfg : TransportConfig} {sent : SentFrame} {clients : List Endpoint}
  {st : UdpStreamingBackend}

/-! ### Telling the fragments of a frame apart -/

theorem dataDatagram_ne {i j : ℕ} (hi : i < 2 ^ 16) (hj : j < 2 ^ 16) (hne : i ≠ j) :
    dataDatagram cfg sent i ≠ dataDatagram cfg sent j := by
  intro heq
  apply hne
  have hlength : ∀ size, (buildMessageHeader .kAvStream sent.frame.type.code size).toBytes.length =
      sizeofMessageHeader := fun _ => length_toBytes_buildMessageHeader ..
  have hbodies := congrArg (List.drop sizeofMessageHeader) heq
  simp only [dataDatagram, buildDatagram] at hbodies
  rw [List.drop_left' (hlength _), List.drop_left' (hlength _)] at hbodies
  have hheaders := congrArg UdpFrameFragmentHeader.ofBytes hbodies
  rw [dataHeader, dataHeader,
    UdpFrameFragmentHeader.ofBytes_toBytes_append (fragmentHeader_fits cfg sent .kData hi _),
    UdpFrameFragmentHeader.ofBytes_toBytes_append (fragmentHeader_fits cfg sent .kData hj _)]
    at hheaders
  exact congrArg UdpFrameFragmentHeader.fragmentIndex hheaders

/-! ### What a call hands over -/

theorem mem_handed {call : ℕ} {datagrams : List Bytes} {client : Endpoint} {datagram : Bytes}
    (hmem : (client, datagram) ∈ handed env clients call datagrams) : datagram ∈ datagrams := by
  induction datagrams generalizing call with
  | nil => simp [handed] at hmem
  | cons first rest ih =>
      rw [handed, List.mem_append] at hmem
      rcases hmem with hfirst | hrest
      · obtain ⟨_, _, heq⟩ := List.mem_map.mp hfirst
        obtain rfl : first = datagram := congrArg Prod.snd heq
        exact List.mem_cons_self
      · exact List.mem_cons_of_mem _ (ih hrest)

/-- The first client gets what is taken at all. -/
theorem exists_mem_handed {call : ℕ} {datagrams : List Bytes} (hclients : clients ≠ [])
    (htakes : EachTakes env 1 call datagrams) {datagram : Bytes} (hmem : datagram ∈ datagrams) :
    ∃ client ∈ clients, (client, datagram) ∈ handed env clients call datagrams := by
  obtain ⟨client, others, rfl⟩ := List.exists_cons_of_ne_nil hclients
  refine ⟨client, List.mem_cons_self, ?_⟩
  induction datagrams generalizing call with
  | nil => simp at hmem
  | cons first rest ih =>
      rw [handed, List.mem_append]
      rcases List.mem_cons.mp hmem with rfl | hrest
      · obtain ⟨count, hcount⟩ := Nat.exists_eq_add_of_le htakes.1
        left
        rw [hcount, Nat.add_comm, List.take_succ_cons]
        exact List.mem_map_of_mem List.mem_cons_self
      · exact .inr (ih htakes.2 hrest)

/-- The loop over the data fragments ends at the first one that no client gets. -/
theorem sendDataFragments_stops (hclients : clients ≠ []) (indices : List ℕ)
    (cached : List CachedUdpFragment) (fecPayload : Bytes)
    (hnot : ¬ EachTakes env 1 st.sendCalls (indices.map (dataDatagram cfg sent))) :
    ∃ count < indices.length,
      (sendDataFragments env cfg sent clients indices st cached fecPayload).1.emitted =
        st.emitted ++ handed env clients st.sendCalls
          ((indices.take count).map (dataDatagram cfg sent)) := by
  induction indices generalizing st cached fecPayload with
  | nil => exact absurd trivial hnot
  | cons index rest ih =>
      obtain ⟨hfirst, hcount⟩ := sendToClients_sentTo env st hclients
        (dataDatagram cfg sent index)
      have hpos := List.length_pos_of_ne_nil hclients
      rw [sendDataFragments]
      simp only
      by_cases htakes : 1 ≤ env.accepted st.sendCalls (dataDatagram cfg sent index)
      · have hrest : ¬ EachTakes env 1
            (sendToClients env clients (dataDatagram cfg sent index) st).1.sendCalls
            (rest.map (dataDatagram cfg sent)) := by
          rw [hfirst.sendCalls]
          exact fun hrest => hnot ⟨htakes, hrest⟩
        rw [if_neg (by omega)]
        obtain ⟨count, hlt, hemitted⟩ := ih _ _ hrest
        refine ⟨count + 1, Nat.succ_lt_succ hlt, hemitted.trans ?_⟩
        rw [hfirst.emitted, hfirst.sendCalls, List.append_assoc, ← handed_append]
        rfl
      · rw [if_pos (by omega)]
        refine ⟨0, Nat.succ_pos _, hfirst.emitted.trans ?_⟩
        simp [handed, show env.accepted st.sendCalls (dataDatagram cfg sent index) = 0 by omega]

/-- A frame that is not sent leaves the cache as it was. -/
theorem sendFrameFragments_failed {frame : EncodedFrame} {transportSendNs cacheNs : UInt64}
    (hclients : clients ≠ [])
    (h : (sendFrameFragments env cfg frame clients transportSendNs cacheNs st).2 = false) :
    SendsOnly st (sendFrameFragments env cfg frame clients transportSendNs cacheNs st).1 := by
  revert h
  rw [sendFrameFragments]
  split
  · exact fun _ => .refl st
  split
  · exact fun _ => .refl st
  have hdata := sendDataFragments_outcome env cfg ⟨frame, transportSendNs⟩ st hclients
    (List.range (fragmentCountSize cfg frame)) [] []
  simp only
  generalize sendDataFragments env cfg ⟨frame, transportSendNs⟩ clients
    (List.range (fragmentCountSize cfg frame)) st [] [] = loop at hdata ⊢
  obtain ⟨afterData, _ | ⟨cached, fecPayload⟩⟩ := loop
  · exact fun _ => hdata.keeps
  · have hparity := (sendParity_sentTo env cfg ⟨frame, transportSendNs⟩ afterData hclients
      fecPayload).1.keeps
    simp only
    generalize sendParity env cfg ⟨frame, transportSendNs⟩ clients fecPayload afterData = sending
      at hparity ⊢
    obtain ⟨afterParity, _ | _⟩ := sending
    · exact fun _ => hdata.keeps.trans hparity
    · simp only
      split <;> simp

/-- Where a data fragment is taken by nobody, the call ends with the loop over them. -/
theorem sendFrameFragments_of_not_taken {frame : EncodedFrame} {transportSendNs cacheNs : UInt64}
    (hclients : clients ≠ []) (hfragmentable : Fragmentable cfg frame)
    (hnot : ¬ EachTakes env 1 st.sendCalls (dataDatagrams cfg ⟨frame, transportSendNs⟩)) :
    (sendFrameFragments env cfg frame clients transportSendNs cacheNs st).1 =
      (sendDataFragments env cfg ⟨frame, transportSendNs⟩ clients
        (List.range (fragmentCountSize cfg frame)) st [] []).1 := by
  have htarget := hfragmentable.target
  have hmax := hfragmentable.maxDatagram
  have hcount := hfragmentable.count_le
  have hfailed := (sendDataFragments_outcome env cfg ⟨frame, transportSendNs⟩ st hclients
    (List.range (fragmentCountSize cfg frame)) [] []).failed hnot
  rw [sendFrameFragments, if_neg (by omega), if_neg (by omega)]
  simp only
  generalize sendDataFragments env cfg ⟨frame, transportSendNs⟩ clients
    (List.range (fragmentCountSize cfg frame)) st [] [] = loop at hfailed ⊢
  obtain ⟨afterData, result⟩ := loop
  obtain rfl : result = none := hfailed
  rfl

/-- A frame that was handed over got past the guard of `Broadcast`, and a socket call took
each of its data fragments. -/
theorem HandsOver.taken {frame : EncodedFrame} {transportSendNs cacheNs : UInt64}
    (h : HandsOver env cfg st (.broadcast frame clients transportSendNs cacheNs)) :
    cfg.enabled = true ∧ st.socketOpen = true ∧ clients ≠ [] ∧ Fragmentable cfg frame ∧
      EachTakes env 1 st.sendCalls (dataDatagrams cfg ⟨frame, transportSendNs⟩) := by
  obtain ⟨hfragmentable, hall⟩ := h
  have hpos : 0 < fragmentCountSize cfg frame :=
    pieceCount_pos hfragmentable.maxFragmentPayloadSize_pos _
  rw [broadcast] at hall
  split at hall
  · obtain ⟨_, _, hmem⟩ := hall (dataDatagram cfg ⟨frame, transportSendNs⟩ 0)
      (List.mem_map_of_mem (List.mem_range.mpr hpos))
    rw [List.drop_length] at hmem
    cases hmem
  rename_i hguard
  simp only [Bool.or_eq_true, Bool.not_eq_true', List.isEmpty_iff, not_or, Bool.not_eq_false]
    at hguard
  obtain ⟨⟨henabled, hopen⟩, hclients⟩ := hguard
  refine ⟨henabled, hopen, hclients, hfragmentable, ?_⟩
  by_contra hnot
  rw [sendFrameFragments_of_not_taken hclients hfragmentable hnot] at hall
  obtain ⟨count, hlt, hemitted⟩ := sendDataFragments_stops hclients
    (List.range (fragmentCountSize cfg frame)) [] [] hnot
  rw [List.length_range] at hlt
  -- the fragment at which the loop stopped was not among those handed over
  obtain ⟨_, _, hmem⟩ := hall (dataDatagram cfg ⟨frame, transportSendNs⟩ count)
    (List.mem_map_of_mem (List.mem_range.mpr hlt))
  rw [hemitted, List.drop_left] at hmem
  obtain ⟨index, hindex, heq⟩ := List.mem_map.mp (mem_handed hmem)
  rw [List.take_range, List.mem_range] at hindex
  have hcount := hfragmentable.count_le
  exact dataDatagram_ne (by omega) (by omega) (by omega) heq

/-- A frame that was sent was handed over. -/
theorem handsOver_of_sent {frame : EncodedFrame} {transportSendNs : UInt64} (cacheNs : UInt64)
    (hguard : ¬ (!cfg.enabled || !st.socketOpen || clients.isEmpty) = true)
    (hclients : clients ≠ [])
    (hsent : (sendFrameFragments env cfg frame clients transportSendNs cacheNs st).2 = true) :
    HandsOver env cfg st (.broadcast frame clients transportSendNs cacheNs) := by
  obtain ⟨hfragmentable, htakes⟩ := (sendFrameFragments_outcome env cfg frame hclients
    transportSendNs cacheNs st).result.mp hsent
  refine ⟨hfragmentable, fun datagram hmem => ?_⟩
  rw [broadcast, if_neg hguard, emitted_sendFrameFragments hclients hsent, List.drop_left]
  exact exists_mem_handed hclients htakes (List.mem_append_left _ hmem)

/-! ### Entries of the cache -/

/-- The entry is in the cache, with at most `later` entries behind it. -/
def Holds (entry : CachedUdpFrame) (later : ℕ) (cache : List CachedUdpFrame) : Prop :=
  ∃ older newer, cache = older ++ entry :: newer ∧ newer.length ≤ later

theorem Holds.mem {entry : CachedUdpFrame} {later : ℕ} {cache : List CachedUdpFrame}
    (h : Holds entry later cache) : entry ∈ cache := by
  obtain ⟨older, newer, rfl, -⟩ := h
  exact List.mem_append_right _ List.mem_cons_self

theorem Holds.mono {entry : CachedUdpFrame} {fewer later : ℕ} {cache : List CachedUdpFrame}
    (h : Holds entry fewer cache) (hle : fewer ≤ later) : Holds entry later cache := by
  obtain ⟨older, newer, hcache, hlength⟩ := h
  exact ⟨older, newer, hcache, hlength.trans hle⟩

/-- Pruning stops at the latest at an entry that is not expired. -/
theorem Holds.prune {entry : CachedUdpFrame} {later : ℕ} {cache : List CachedUdpFrame}
    {nowNs : UInt64} (h : Holds entry later cache)
    (hage : nowNs.toNat - entry.cachedTimestampNs ≤ cacheMaxAgeNs cfg) :
    Holds entry later (pruneRetransmitCache cfg nowNs cache) := by
  obtain ⟨older, newer, rfl, hlength⟩ := h
  induction older with
  | nil =>
      have hfresh : ¬ (nowNs.toNat ≥ entry.cachedTimestampNs ∧
          nowNs.toNat - entry.cachedTimestampNs > cacheMaxAgeNs cfg) := by omega
      rw [List.nil_append, pruneRetransmitCache, ← cacheMaxAgeNs, if_neg hfresh]
      exact ⟨[], newer, rfl, hlength⟩
  | cons frame older ih =>
      rw [List.cons_append, pruneRetransmitCache]
      split
      · exact ih
      · exact ⟨frame :: older, newer, rfl, hlength⟩

/-- A new entry pushes out an older one only while there are too many. -/
theorem Holds.cacheFrameFragments {entry frame : CachedUdpFrame} {later : ℕ} {nowNs : UInt64}
    (h : Holds entry later st.retransmitCache)
    (hage : nowNs.toNat - entry.cachedTimestampNs ≤ cacheMaxAgeNs cfg)
    (hlater : later + 1 < cfg.udpRetransmitCacheFrames) :
    Holds entry (later + 1) (cacheFrameFragments cfg frame nowNs st).retransmitCache := by
  obtain ⟨older, newer, hcache, hlength⟩ := h.prune hage
  have hroom : (older ++ entry :: (newer ++ [frame])).length - cfg.udpRetransmitCacheFrames ≤
      older.length := by
    simp only [List.length_append, List.length_cons, List.length_nil]
    omega
  refine ⟨older.drop ((older ++ entry :: (newer ++ [frame])).length -
    cfg.udpRetransmitCacheFrames), newer ++ [frame], ?_, by simpa using hlength⟩
  rw [← List.drop_append_of_le_length hroom]
  simp only [Server.cacheFrameFragments, hcache, List.append_assoc, List.cons_append]

/-- The new entry itself stays, where there is room for any. -/
theorem holds_cacheFrameFragments (frame : CachedUdpFrame) (nowNs : UInt64)
    (st : UdpStreamingBackend) (hroom : 0 < cfg.udpRetransmitCacheFrames) :
    Holds frame 0 (cacheFrameFragments cfg frame nowNs st).retransmitCache := by
  generalize hpruned : pruneRetransmitCache cfg nowNs st.retransmitCache = older
  have hkept : (older ++ [frame]).length - cfg.udpRetransmitCacheFrames ≤ older.length := by
    rw [List.length_append, List.length_singleton]
    omega
  refine ⟨older.drop ((older ++ [frame]).length - cfg.udpRetransmitCacheFrames), [], ?_, le_rfl⟩
  rw [← List.drop_append_of_le_length hkept]
  simp only [cacheFrameFragments, hpruned]

/-! ### Runs -/

/-- The cache after a NACK request. -/
theorem retransmitCache_handleNackRequest (env : ServerEnv) (st : UdpStreamingBackend)
    (address : Endpoint) (nowNs : UInt64) (nackItems : List UdpNackItem)
    (hnack : cfg.udpEnableNack = true) :
    (handleNackRequest env cfg address nowNs nackItems st).retransmitCache =
        st.retransmitCache ∨
      (handleNackRequest env cfg address nowNs nackItems st).retransmitCache =
        pruneRetransmitCache cfg nowNs st.retransmitCache := by
  cases hopen : st.socketOpen with
  | false =>
      left
      rw [handleNackRequest, if_pos (by simp [hopen])]
  | true =>
      have hhandles := handleNackRequest_handles env address nowNs nackItems hnack hopen
      rcases eq_or_ne nackItems [] with hnone | hsome
      · exact .inl (hhandles.ignored hnone)
      · exact .inr (hhandles.retransmitCache hsome)

/-- An entry stays in the cache over one call. -/
theorem Holds.runServerOperation {entry : CachedUdpFrame} {later : ℕ} (op : ServerOperation)
    (h : Holds entry later st.retransmitCache) (hnack : cfg.udpEnableNack = true)
    (hage : op.atNs.toNat - entry.cachedTimestampNs ≤ cacheMaxAgeNs cfg)
    (hroom : later + (if HandsOver env cfg st op then 1 else 0) < cfg.udpRetransmitCacheFrames) :
    Holds entry (later + if HandsOver env cfg st op then 1 else 0)
      (runServerOperation env cfg st op).retransmitCache := by
  cases op with
  | broadcast frame clients transportSendNs cacheNs =>
      by_cases hguard : (!cfg.enabled || !st.socketOpen || clients.isEmpty) = true
      · rw [Server.runServerOperation, broadcast, if_pos hguard]
        exact h.mono (Nat.le_add_right _ _)
      have hclients : clients ≠ [] := by
        rintro rfl
        simp at hguard
      cases hsent : (sendFrameFragments env cfg frame clients transportSendNs cacheNs st).2 with
      | false =>
          rw [Server.runServerOperation, broadcast, if_neg hguard,
            (sendFrameFragments_failed hclients hsent).retransmitCache]
          exact h.mono (Nat.le_add_right _ _)
      | true =>
          have hover := handsOver_of_sent cacheNs hguard hclients hsent
          obtain ⟨next, hnext, heq⟩ := (sendFrameFragments_outcome env cfg frame hclients
            transportSendNs cacheNs st).sent hsent
          rw [if_pos hover] at hroom ⊢
          rw [Server.runServerOperation, broadcast, if_neg hguard, heq, if_pos hnack]
          rw [← hnext.keeps.retransmitCache] at h
          exact h.cacheFrameFragments hage hroom
  | handleNackRequest address nowNs nackItems =>
      rw [Server.runServerOperation]
      rcases retransmitCache_handleNackRequest env st address nowNs nackItems hnack with
        hcache | hcache
      · rw [hcache]
        exact h.mono (Nat.le_add_right _ _)
      · rw [hcache]
        exact (h.prune hage).mono (Nat.le_add_right _ _)

theorem Holds.runServer {entry : CachedUdpFrame} {later : ℕ} {ops : List ServerOperation}
    (h : Holds entry later st.retransmitCache) (hnack : cfg.udpEnableNack = true)
    (hage : ∀ op ∈ ops, op.atNs.toNat - entry.cachedTimestampNs ≤ cacheMaxAgeNs cfg)
    (hroom : later + handedOver env cfg st ops < cfg.udpRetransmitCacheFrames) :
    Holds entry (later + handedOver env cfg st ops)
      (ops.foldl (Server.runServerOperation env cfg) st).retransmitCache := by
  induction ops generalizing st later with
  | nil => exact h
  | cons op ops ih =>
      rw [handedOver, ← Nat.add_assoc] at hroom ⊢
      have hnext := Holds.runServerOperation op h hnack (hage op List.mem_cons_self)
        (Nat.lt_of_le_of_lt (Nat.le_add_right _ _) hroom)
      exact ih hnext (fun later hlater => hage later (List.mem_cons_of_mem _ hlater)) hroom

/-- A frame that is handed over enters the cache, where its parity datagram is taken too. -/
theorem HandsOver.cached {frame : EncodedFrame} {transportSendNs cacheNs : UInt64}
    (h : HandsOver env cfg st (.broadcast frame clients transportSendNs cacheNs))
    (hnack : cfg.udpEnableNack = true) (hroom : 0 < cfg.udpRetransmitCacheFrames)
    (hparity : ParityTaken env cfg st (.broadcast frame clients transportSendNs cacheNs)) :
    Holds (cachedFrame cfg ⟨frame, transportSendNs⟩) 0
      (runServerOperation env cfg st
        (.broadcast frame clients transportSendNs cacheNs)).retransmitCache := by
  obtain ⟨henabled, hopen, hclients, hfragmentable, htakes⟩ := h.taken
  have hall : EachTakes env 1 st.sendCalls (frameDatagrams cfg ⟨frame, transportSendNs⟩) := by
    rw [frameDatagrams, eachTakes_append]
    refine ⟨htakes, ?_⟩
    rw [List.length_map, List.length_range]
    split
    · rename_i hhas
      exact ⟨hparity henabled hopen hclients hfragmentable htakes hhas, trivial⟩
    · trivial
  have houtcome := sendFrameFragments_outcome env cfg frame hclients transportSendNs cacheNs st
  obtain ⟨next, -, heq⟩ := houtcome.sent (houtcome.result.mpr ⟨hfragmentable, hall⟩)
  have hguard : ¬ (!cfg.enabled || !st.socketOpen || clients.isEmpty) = true := by
    simp [henabled, hopen, hclients]
  rw [runServerOperation, broadcast, if_neg hguard, heq, if_pos hnack]
  exact holds_cacheFrameFragments _ cacheNs next hroom

end

/-- One call of the backend, as a step that none refuses. -/
def serverStep (env : ServerEnv) (cfg : TransportConfig) (st : UdpStreamingBackend)
    (op : ServerOperation) : Option UdpStreamingBackend :=
  some (runServerOperation env cfg st op)

/-- What was sent can be retransmitted, in every run in which no socket call refuses the
parity datagram of a frame whose data fragments were all taken before it. -/
theorem runServer_keepsWhatWasSent {env : ServerEnv} {cfg : TransportConfig}
    {ops : List ServerOperation} (hnack : cfg.udpEnableNack = true)
    (hmeet : StepsMeet (serverStep env cfg) (ParityTaken env cfg) {} ops) :
    KeepsWhatWasSent env cfg ops := by
  rintro before after frame clients transportSendNs cacheNs rfl hover hroom hage
  have hparity := stepsMeet_total.mp hmeet before _ after rfl
  have hcached := hover.cached hnack (Nat.zero_lt_of_lt hroom) hparity
  have hsplit : runServer env cfg
      (before ++ [.broadcast frame clients transportSendNs cacheNs]) =
        runServerOperation env cfg (runServer env cfg before)
          (.broadcast frame clients transportSendNs cacheNs) := by
    simp [runServer]
  rw [← hsplit] at hcached
  have hheld := hcached.runServer hnack hage (by simpa using hroom)
  rw [List.append_cons, runServer, List.foldl_append]
  exact hheld.mem

/-- Retransmission and parity together, with the smallest fragments that are accepted. -/
def resilientConfig : TransportConfig :=
  { backend := "udp", udpEnableNack := true, udpEnableFec := true
    udpTargetPayloadSize := 256 }

/-- A frame of two fragments. -/
def twoFragments (sequence : UInt64) : EncodedFrame :=
  numberedFrame sequence (List.replicate 257 1)

/-- Two frames, sent to one client. -/
def twoBroadcasts : List ServerOperation :=
  [.broadcast (twoFragments 1) [1] 10 20, .broadcast (twoFragments 2) [1] 30 40]

theorem twoBroadcasts_keepsWhatWasSent :
    KeepsWhatWasSent oneMessage resilientConfig twoBroadcasts := by
  refine runServer_keepsWhatWasSent rfl (StepsMeet.of_forall _ ?_ _ _)
  intro st op
  cases op with
  | broadcast frame clients transportSendNs cacheNs => exact fun _ _ _ _ _ _ => le_rfl
  | handleNackRequest address nowNs nackItems => trivial

/-- A socket that takes two messages and refuses the rest. -/
def twoMessages : ServerEnv where
  accepted call _ := if call < 2 then 1 else 0

/-- Both data fragments reach the client and the parity datagram does not: the cache stays
empty. -/
theorem not_keepsWhatWasSent_twoMessages :
    ¬ KeepsWhatWasSent twoMessages resilientConfig [.broadcast (twoFragments 1) [1] 10 20] := by
  intro h
  have hcached := h [] [] (twoFragments 1) [1] 10 20 rfl (by decide +kernel) (by decide +kernel)
    (by simp)
  have hempty : (runServer twoMessages resilientConfig
      [.broadcast (twoFragments 1) [1] 10 20]).retransmitCache = [] := by
    decide +kernel
  rw [hempty] at hcached
  cases hcached

end AvProject.Udp
