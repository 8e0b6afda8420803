import AvProject.Lib.AgeingQueue
import AvProject.Lib.Run
import AvProject.Server.BatchSending

/-!
The retransmission service over whole runs: which fragments a NACK request is answered
with, in terms of the frames that were sent before it.
-/

namespace AvProject.Server

open AvProject.Lib AvProject.Protocol

/-! ### Runs -/

/-- A successful call of `sendFrameFragments`, or a NACK request. -/
def serviceStep (env : ServerEnv) (cfg : TransportConfig) (st : UdpStreamingBackend) :
    ServerOperation → Option UdpStreamingBackend
  | .broadcast frame clients transportSendNs cacheNs =>
      if clients = [] then none
      else
        match sendFrameFragments env cfg frame clients transportSendNs cacheNs st with
        | (next, true) => some next
        | (_, false) => none
  | .handleNackRequest address nowNs nackItems =>
      some (handleNackRequest env cfg address nowNs nackItems st)

/-- The time at which an operation comes to the retransmit cache. -/
def ServerOperation.atNs : ServerOperation → UInt64
  | .broadcast _ _ _ cacheNs => cacheNs
  | .handleNackRequest _ nowNs _ => nowNs

/-- Operations at nondecreasing times; each transmission starts before its frame is
cached, and not before the one ahead of it. -/
structure InTime (ops : List ServerOperation) : Prop where
  ordered : ops.Pairwise fun a b => a.atNs ≤ b.atNs
  transmitted : (sentFrames ops).Pairwise fun a b =>
    a.transportSendTimestampNs ≤ b.transportSendTimestampNs
  cached : ∀ frame clients transportSendNs cacheNs,
    .broadcast frame clients transportSendNs cacheNs ∈ ops → transportSendNs ≤ cacheNs

/-- The items of a request for which the search in the cache succeeds. -/
def foundInRequest (cfg : TransportConfig) (st : UdpStreamingBackend) : ServerOperation → ℕ
  | .broadcast .. => 0
  | .handleNackRequest _ nowNs nackItems =>
      if !cfg.udpEnableNack || nackItems.isEmpty || !st.socketOpen then 0
      else
        ((nackItems.take cfg.udpRetransmitMaxFragmentsPerRequest).filter fun item =>
          (findCachedFragment (pruneRetransmitCache cfg nowNs st.retransmitCache) item).isSome).length

def foundItems (env : ServerEnv) (cfg : TransportConfig) :
    UdpStreamingBackend → List ServerOperation → ℕ
  | _, [] => 0
  | st, op :: ops =>
      foundInRequest cfg st op +
        match serviceStep env cfg st op with
        | some next => foundItems env cfg next ops
        | none => 0

/-! ### Answers -/

/-- How long a frame may be retransmitted. -/
def maxAgeNs (cfg : TransportConfig) : ℕ := cfg.udpRetransmitCacheMaxAgeMs.toNat * 1000000

/-- The age of a frame counts from the start of its transmission. -/
def sendTimeNs (sent : SentFrame) : ℕ := sent.transportSendTimestampNs.toNat

/-- The frames that the cache has room for. -/
def latestFrames (cfg : TransportConfig) (frames : List SentFrame) : List SentFrame :=
  frames.drop (frames.length - cfg.udpRetransmitCacheFrames)

/-- The item names a fragment of one of the latest frames, which is not too old, and
`datagram` is what was sent for this fragment. -/
def Serves (cfg : TransportConfig) (frames : List SentFrame) (nowNs : UInt64)
    (item : UdpNackItem) (datagram : Bytes) : Prop :=
  ∃ sent ∈ latestFrames cfg frames, sent.frame.sequence = item.frameSequence ∧
    nowNs.toNat - sendTimeNs sent ≤ maxAgeNs cfg ∧
    item.fragmentIndex < fragmentCountSize cfg sent.frame ∧
    datagram = dataDatagram cfg sent item.fragmentIndex

/-- A request at `nowNs` hands the socket one datagram for each of the first items that
can be served, and the requesting client is the only one it is for. -/
structure AnswersRequest (env : ServerEnv) (cfg : TransportConfig) (frames : List SentFrame)
    (address : Endpoint) (nowNs : UInt64) (nackItems : List UdpNackItem)
    (st next : UdpStreamingBackend) (answers : List (Option Bytes)) : Prop where
  served : List.Forall₂ (fun item answer =>
      ∀ datagram, answer = some datagram ↔ Serves cfg frames nowNs item datagram)
    (nackItems.take cfg.udpRetransmitMaxFragmentsPerRequest) answers
  emitted : next.emitted =
    st.emitted ++ handed env [address] st.sendCalls answers.reduceOption
  sendCalls : next.sendCalls = st.sendCalls + answers.reduceOption.length

/-! ### The cache -/

/-- The entry of the cache for a frame that was sent. -/
def cachedFrame (cfg : TransportConfig) (sent : SentFrame) : CachedUdpFrame where
  frameSequence := sent.frame.sequence
  cachedTimestampNs := sendTimeNs sent
  fragments := fragmentCopies cfg sent (List.range (fragmentCountSize cfg sent.frame))

@[simp] theorem frameSequence_cachedFrame (cfg : TransportConfig) (sent : SentFrame) :
    (cachedFrame cfg sent).frameSequence = sent.frame.sequence := rfl

@[simp] theorem cachedTimestampNs_cachedFrame (cfg : TransportConfig) (sent : SentFrame) :
    (cachedFrame cfg sent).cachedTimestampNs = sendTimeNs sent := rfl

section

variable {env : ServerEnv} {cfg : TransportConfig} {st : UdpStreamingBackend}
  {frames : List SentFrame} {nowNs : UInt64} {item : UdpNackItem} {address : Endpoint}

theorem pruneRetransmitCache_cachedFrame (hnonneg : 0 ≤ cfg.udpRetransmitCacheMaxAgeMs)
    (hint : cfg.udpRetransmitCacheMaxAgeMs < 2 ^ 31) (nowNs : UInt64)
    (frames : List SentFrame) :
    pruneRetransmitCache cfg nowNs (frames.map (cachedFrame cfg)) =
      (frames.dropWhile fun sent =>
        decide (sendTimeNs sent + maxAgeNs cfg < nowNs.toNat)).map (cachedFrame cfg) := by
  induction frames with
  | nil => rfl
  | cons sent rest ih =>
      rw [List.map_cons, pruneRetransmitCache, List.dropWhile_cons]
      simp only [msToNs_eq hnonneg hint]
      rw [← maxAgeNs]
      have hexpired : (nowNs.toNat ≥ (cachedFrame cfg sent).cachedTimestampNs ∧
          nowNs.toNat - (cachedFrame cfg sent).cachedTimestampNs > maxAgeNs cfg) ↔
          sendTimeNs sent + maxAgeNs cfg < nowNs.toNat := by
        rw [cachedTimestampNs_cachedFrame]
        omega
      by_cases hold : sendTimeNs sent + maxAgeNs cfg < nowNs.toNat
      · rw [if_pos (hexpired.mpr hold), if_pos (decide_eq_true hold), ih]
      · rw [if_neg (fun h => hold (hexpired.mp h)), if_neg (by simpa using hold), List.map_cons]

theorem find?_fragmentCopies (sent : SentFrame) (count index : ℕ) :
    (fragmentCopies cfg sent (List.range count)).find?
        (fun fragment => fragment.fragmentIndex == index) =
      if index < count then
        some { fragmentIndex := index
               datagramSize := (dataDatagram cfg sent index).length
               datagram := dataDatagram cfg sent index }
      else none := by
  induction count with
  | zero => rfl
  | succ count ih =>
      rw [fragmentCopies, List.range_succ, List.map_append, List.find?_append,
        ← fragmentCopies, ih]
      rcases lt_trichotomy index count with hlt | rfl | hgt
      · rw [if_pos hlt, if_pos (by omega)]
        rfl
      · rw [if_neg (lt_irrefl _), if_pos (by omega)]
        simp
      · rw [if_neg (by omega), if_neg (by omega)]
        simp [hgt.ne]

theorem findCachedFragment_cons (frame : CachedUdpFrame) (rest : List CachedUdpFrame) :
    findCachedFragment (frame :: rest) item =
      if frame.frameSequence = item.frameSequence then
        (frame.fragments.find? fun fragment => fragment.fragmentIndex == item.fragmentIndex).or
          (findCachedFragment rest item)
      else findCachedFragment rest item := by
  rw [findCachedFragment, List.filter_cons]
  by_cases hsequence : frame.frameSequence = item.frameSequence
  · rw [if_pos (by simpa using hsequence), if_pos hsequence, List.findSome?_cons]
    cases frame.fragments.find? fun fragment => fragment.fragmentIndex == item.fragmentIndex <;>
      rfl
  · rw [if_neg (by simpa using hsequence), if_neg hsequence]
    rfl

/-- What the search in the cache returns, where no two frames share a sequence number. -/
theorem findCachedFragment_cachedFrame (hdistinct : (frames.map (·.frame.sequence)).Nodup)
    {fragment : CachedUdpFragment} :
    findCachedFragment (frames.map (cachedFrame cfg)) item = some fragment ↔
      ∃ sent ∈ frames, sent.frame.sequence = item.frameSequence ∧
        item.fragmentIndex < fragmentCountSize cfg sent.frame ∧
        fragment = { fragmentIndex := item.fragmentIndex
                     datagramSize := (dataDatagram cfg sent item.fragmentIndex).length
                     datagram := dataDatagram cfg sent item.fragmentIndex } := by
  induction frames with
  | nil => simp [findCachedFragment]
  | cons sent rest ih =>
      rw [List.map_cons, List.nodup_cons] at hdistinct
      rw [List.map_cons, List.exists_mem_cons_iff, ← ih hdistinct.2, findCachedFragment_cons,
        frameSequence_cachedFrame]
      by_cases hsequence : sent.frame.sequence = item.frameSequence
      · -- no later frame has this number, so the search ends here
        have hrest : findCachedFragment (rest.map (cachedFrame cfg)) item = none := by
          rw [findCachedFragment, List.filter_eq_nil_iff.mpr]
          · rfl
          · intro frame hframe
            obtain ⟨other, hother, rfl⟩ := List.mem_map.mp hframe
            rw [beq_iff_eq]
            intro hsame
            exact hdistinct.1 (hsequence.trans hsame.symm ▸ List.mem_map_of_mem hother)
        rw [if_pos hsequence, hrest, Option.or_none, cachedFrame, find?_fragmentCopies]
        split
        · rename_i hindex
          simp [hsequence, hindex, eq_comm]
        · rename_i hindex
          simp [hindex]
      · rw [if_neg hsequence]
        simp [hsequence]

/-! ### One request -/

/-- What the loop over the request items does: one `sendto` for each item that is found. -/
structure Retransmits (env : ServerEnv) (address : Endpoint) (datagrams : List Bytes)
    (items : ℕ) (st next : UdpStreamingBackend) : Prop where
  emitted : next.emitted = st.emitted ++ handed env [address] st.sendCalls datagrams
  sendCalls : next.sendCalls = st.sendCalls + datagrams.length
  retransmitCache : next.retransmitCache = st.retransmitCache
  socketOpen : next.socketOpen = st.socketOpen
  requested : next.nackFragmentsRequested = st.nackFragmentsRequested
  throttled : next.retransmitFragmentsThrottled = st.retransmitFragmentsThrottled
  misses : next.retransmitFragmentMisses + datagrams.length =
    st.retransmitFragmentMisses + items

/-- The bytes that the search in the cache yields for an item. -/
def cachedDatagram (cache : List CachedUdpFrame) (item : UdpNackItem) : Option Bytes :=
  (findCachedFragment cache item).map fun fragment =>
    fragment.datagram.take fragment.datagramSize

theorem Retransmits.nil (st : UdpStreamingBackend) : Retransmits env address [] 0 st st :=
  ⟨by simp [handed], rfl, rfl, rfl, rfl, rfl, rfl⟩

theorem Retransmits.trans {a b c : UdpStreamingBackend} {first rest : List Bytes} {m n : ℕ}
    (hab : Retransmits env address first m a b) (hbc : Retransmits env address rest n b c) :
    Retransmits env address (first ++ rest) (m + n) a c where
  emitted := by
    rw [hbc.emitted, hab.emitted, hab.sendCalls, handed_append, List.append_assoc]
  sendCalls := by
    rw [hbc.sendCalls, hab.sendCalls, List.length_append, Nat.add_assoc]
  retransmitCache := hbc.retransmitCache.trans hab.retransmitCache
  socketOpen := hbc.socketOpen.trans hab.socketOpen
  requested := hbc.requested.trans hab.requested
  throttled := hbc.throttled.trans hab.throttled
  misses := by
    have hfirst := hab.misses
    have hrest := hbc.misses
    rw [List.length_append]
    omega

theorem retransmitFragment_retransmits (env : ServerEnv) (address : Endpoint)
    (st : UdpStreamingBackend) (item : UdpNackItem) :
    Retransmits env address (cachedDatagram st.retransmitCache item).toList 1 st
      (retransmitFragment env address st item) := by
  rw [retransmitFragment, cachedDatagram]
  cases findCachedFragment st.retransmitCache item with
  | none => exact ⟨by simp [handed], rfl, rfl, rfl, rfl, rfl, rfl⟩
  | some fragment =>
      have hsent := transmit_sentTo env [address]
        (fragment.datagram.take fragment.datagramSize) st
      have hkeeps := hsent.keeps
      exact ⟨hsent.emitted, hsent.sendCalls, hkeeps.retransmitCache, hkeeps.socketOpen,
        hkeeps.nackFragmentsRequested, hkeeps.retransmitFragmentsThrottled,
        congrArg (· + 1) hkeeps.retransmitFragmentMisses⟩

theorem foldl_retransmitFragment (env : ServerEnv) (address : Endpoint)
    (st : UdpStreamingBackend) (items : List UdpNackItem) :
    Retransmits env address (items.filterMap (cachedDatagram st.retransmitCache)) items.length st
      (items.foldl (retransmitFragment env address) st) := by
  induction items generalizing st with
  | nil => exact .nil st
  | cons item rest ih =>
      have hfirst := retransmitFragment_retransmits env address st item
      have hrest := ih (retransmitFragment env address st item)
      rw [hfirst.retransmitCache] at hrest
      have hboth := hfirst.trans hrest
      rw [List.foldl_cons, List.length_cons, Nat.add_comm rest.length]
      have hsplit : (item :: rest).filterMap (cachedDatagram st.retransmitCache) =
          (cachedDatagram st.retransmitCache item).toList ++
            rest.filterMap (cachedDatagram st.retransmitCache) := by
        rw [List.filterMap_cons]
        cases cachedDatagram st.retransmitCache item <;> rfl
      rw [hsplit]
      exact hboth

/-- What one request does to the counters and the cache. -/
structure HandlesRequest (env : ServerEnv) (cfg : TransportConfig) (address : Endpoint)
    (nowNs : UInt64) (nackItems : List UdpNackItem) (st next : UdpStreamingBackend) : Prop where
  emitted : next.emitted = st.emitted ++ handed env [address] st.sendCalls
    ((nackItems.take cfg.udpRetransmitMaxFragmentsPerRequest).filterMap
      (cachedDatagram (pruneRetransmitCache cfg nowNs st.retransmitCache)))
  sendCalls : next.sendCalls = st.sendCalls +
    ((nackItems.take cfg.udpRetransmitMaxFragmentsPerRequest).filterMap
      (cachedDatagram (pruneRetransmitCache cfg nowNs st.retransmitCache))).length
  retransmitCache : nackItems ≠ [] →
    next.retransmitCache = pruneRetransmitCache cfg nowNs st.retransmitCache
  ignored : nackItems = [] → next.retransmitCache = st.retransmitCache
  socketOpen : next.socketOpen = st.socketOpen
  counted : next.nackFragmentsRequested + st.retransmitFragmentsThrottled +
      st.retransmitFragmentMisses =
    st.nackFragmentsRequested + next.retransmitFragmentsThrottled +
      next.retransmitFragmentMisses +
      foundInRequest cfg st (.handleNackRequest address nowNs nackItems)

theorem length_filterMap_cachedDatagram (cache : List CachedUdpFrame)
    (items : List UdpNackItem) :
    (items.filterMap (cachedDatagram cache)).length =
      (items.filter fun item => (findCachedFragment cache item).isSome).length := by
  induction items with
  | nil => rfl
  | cons item rest ih =>
      rw [List.filterMap_cons, List.filter_cons, cachedDatagram]
      cases findCachedFragment cache item with
      | none => simpa using ih
      | some fragment => simpa using ih

theorem handleNackRequest_handles (env : ServerEnv) (address : Endpoint) (nowNs : UInt64)
    (nackItems : List UdpNackItem) (hnack : cfg.udpEnableNack = true)
    (hopen : st.socketOpen = true) :
    HandlesRequest env cfg address nowNs nackItems st
      (handleNackRequest env cfg address nowNs nackItems st) := by
  cases hitems : nackItems with
  | nil =>
      refine ⟨?_, ?_, by simp, ?_, ?_, ?_⟩ <;>
        simp [handleNackRequest, handed, foundInRequest]
  | cons item rest =>
      have hproceeds : ¬ (!cfg.udpEnableNack || nackItems.isEmpty || !st.socketOpen) = true := by
        simp [hnack, hopen, hitems]
      rw [← hitems, handleNackRequest, if_neg hproceeds]
      simp only
      have htake : nackItems.take (min nackItems.length cfg.udpRetransmitMaxFragmentsPerRequest) =
          nackItems.take cfg.udpRetransmitMaxFragmentsPerRequest := by
        rw [min_comm, ← List.take_eq_take_min]
      rw [htake]
      have hfold := foldl_retransmitFragment env address
        { st with
          retransmitCache := pruneRetransmitCache cfg nowNs st.retransmitCache
          nackRequestsReceived := st.nackRequestsReceived + 1
          nackFragmentsRequested := st.nackFragmentsRequested + nackItems.length
          retransmitFragmentsThrottled := st.retransmitFragmentsThrottled +
            (nackItems.length - min nackItems.length cfg.udpRetransmitMaxFragmentsPerRequest) }
        (nackItems.take cfg.udpRetransmitMaxFragmentsPerRequest)
      refine ⟨hfold.emitted, hfold.sendCalls, fun _ => hfold.retransmitCache, ?_,
        hfold.socketOpen, ?_⟩
      · intro hempty
        simp [hitems] at hempty
      · have hrequested := hfold.requested
        have hthrottled := hfold.throttled
        have hmisses := hfold.misses
        simp only [length_filterMap_cachedDatagram, List.length_take] at hmisses
        rw [foundInRequest, if_neg hproceeds]
        simp only at hrequested hthrottled hmisses ⊢
        omega

/-! ### Runs -/

/-- The state after the operations so far, at a time that none of them lies behind. -/
structure ServiceInvariant (cfg : TransportConfig) (ops : List ServerOperation)
    (clockNs : ℕ) (st : UdpStreamingBackend) : Prop where
  socketOpen : st.socketOpen = true
  cache : ∃ start,
    KeepsRecent sendTimeNs (maxAgeNs cfg) cfg.udpRetransmitCacheFrames (sentFrames ops) clockNs
      start ∧
    st.retransmitCache = ((sentFrames ops).drop start).map (cachedFrame cfg)

/-- A pruned cache holds exactly what can be served. -/
theorem ServiceInvariant.prune {ops : List ServerOperation} {clockNs : ℕ}
    (h : ServiceInvariant cfg ops clockNs st) (hnonneg : 0 ≤ cfg.udpRetransmitCacheMaxAgeMs)
    (hint : cfg.udpRetransmitCacheMaxAgeMs < 2 ^ 31) (hclock : clockNs ≤ nowNs.toNat) :
    ∃ start, KeepsRecent sendTimeNs (maxAgeNs cfg) cfg.udpRetransmitCacheFrames (sentFrames ops)
        nowNs.toNat start ∧
      pruneRetransmitCache cfg nowNs st.retransmitCache =
        ((sentFrames ops).drop start).map (cachedFrame cfg) ∧
      ((sentFrames ops).Pairwise (fun a b => sendTimeNs a ≤ sendTimeNs b) →
        ∀ sent ∈ (sentFrames ops).drop start, nowNs.toNat ≤ sendTimeNs sent + maxAgeNs cfg) := by
  obtain ⟨start, hkeeps, hcache⟩ := h.cache
  obtain ⟨next, hdrop, hnext⟩ := hkeeps.prune hclock
  refine ⟨next, hnext, ?_, fun hsorted sent hsent => ?_⟩
  · rw [hcache, pruneRetransmitCache_cachedFrame hnonneg hint, hdrop]
  · rw [← hdrop] at hsent
    exact not_expired_of_mem_dropWhile (hsorted.sublist (List.drop_sublist _ _)) hsent

/-- Caching a frame, in terms of the frames that the pruned cache holds. -/
theorem retransmitCache_cacheFrameFragments (sent : SentFrame)
    (hcache : pruneRetransmitCache cfg nowNs st.retransmitCache = frames.map (cachedFrame cfg)) :
    (cacheFrameFragments cfg (cachedFrame cfg sent) nowNs st).retransmitCache =
      ((frames ++ [sent]).drop
        ((frames ++ [sent]).length - cfg.udpRetransmitCacheFrames)).map (cachedFrame cfg) := by
  have hcopies : frames.map (cachedFrame cfg) ++ [cachedFrame cfg sent] =
      (frames ++ [sent]).map (cachedFrame cfg) := by
    rw [List.map_append, List.map_singleton]
  rw [cacheFrameFragments]
  simp only [hcache, hcopies, List.length_map, List.map_drop]

theorem sentFrames_append (ops : List ServerOperation) (op : ServerOperation) :
    sentFrames (ops ++ [op]) = sentFrames ops ++ sentFrames [op] :=
  List.filterMap_append

/-- A broadcast that a run goes on from has sent the frame and cached its fragments. -/
theorem serviceStep_broadcast {frame : EncodedFrame} {clients : List Endpoint}
    {transportSendNs cacheNs : UInt64} {next : UdpStreamingBackend}
    (hnack : cfg.udpEnableNack = true)
    (hstep : serviceStep env cfg st (.broadcast frame clients transportSendNs cacheNs) =
      some next) :
    ∃ before, SentTo env clients (frameDatagrams cfg ⟨frame, transportSendNs⟩) st before ∧
      next = cacheFrameFragments cfg (cachedFrame cfg ⟨frame, transportSendNs⟩) cacheNs
        before := by
  rw [serviceStep] at hstep
  split at hstep
  · cases hstep
  rename_i hclients
  have houtcome := sendFrameFragments_outcome env cfg frame hclients transportSendNs cacheNs st
  generalize sendFrameFragments env cfg frame clients transportSendNs cacheNs st = outcome
    at hstep houtcome
  obtain ⟨sentState, ok⟩ := outcome
  cases ok with
  | false => cases hstep
  | true =>
      obtain rfl := Option.some.inj hstep
      obtain ⟨before, hsent, hnext⟩ := houtcome.sent rfl
      rw [if_pos hnack] at hnext
      exact ⟨before, hsent, hnext⟩

theorem ServiceInvariant.serviceStep {ops : List ServerOperation} {op : ServerOperation}
    {clockNs : ℕ} {next : UdpStreamingBackend} (h : ServiceInvariant cfg ops clockNs st)
    (hnack : cfg.udpEnableNack = true) (hnonneg : 0 ≤ cfg.udpRetransmitCacheMaxAgeMs)
    (hint : cfg.udpRetransmitCacheMaxAgeMs < 2 ^ 31) (hclock : clockNs ≤ op.atNs.toNat)
    (hstep : serviceStep env cfg st op = some next) :
    ServiceInvariant cfg (ops ++ [op]) op.atNs.toNat next := by
  obtain ⟨start, hkeeps, hcache, -⟩ := h.prune hnonneg hint hclock
  cases op with
  | broadcast frame clients transportSendNs cacheNs =>
      obtain ⟨before, hsent, rfl⟩ := serviceStep_broadcast hnack hstep
      obtain ⟨last, hlast, hpush⟩ := hkeeps.push ⟨frame, transportSendNs⟩
      refine ⟨?_, last, ?_, ?_⟩
      · exact hsent.keeps.socketOpen.trans h.socketOpen
      · rw [sentFrames_append]
        exact hpush
      · rw [← hsent.keeps.retransmitCache] at hcache
        rw [sentFrames_append]
        exact (retransmitCache_cacheFrameFragments _ hcache).trans
          (congrArg (List.map (cachedFrame cfg)) hlast)
  | handleNackRequest address nowNs nackItems =>
      obtain rfl := Option.some.inj hstep
      have hhandles := handleNackRequest_handles env address nowNs nackItems hnack h.socketOpen
      have hframes : sentFrames (ops ++ [.handleNackRequest address nowNs nackItems]) =
          sentFrames ops := by
        rw [sentFrames_append]
        exact List.append_nil _
      refine ⟨hhandles.socketOpen.trans h.socketOpen, ?_⟩
      rw [hframes]
      cases nackItems with
      | nil =>
          obtain ⟨start, hkeeps, hcache⟩ := h.cache
          refine ⟨start, { hkeeps with expired := fun sent hsent => ?_ }, ?_⟩
          · exact (hkeeps.expired sent hsent).trans_le hclock
          · rw [hhandles.ignored rfl, hcache]
      | cons item rest =>
          refine ⟨start, hkeeps, ?_⟩
          rw [hhandles.retransmitCache (List.cons_ne_nil _ _), ← hcache]
          rfl

theorem InTime.initial {ops rest : List ServerOperation} (h : InTime (ops ++ rest)) :
    InTime ops where
  ordered := (List.pairwise_append.mp h.ordered).1
  transmitted := by
    have htransmitted := h.transmitted
    rw [sentFrames, List.filterMap_append, List.pairwise_append] at htransmitted
    exact htransmitted.1
  cached frame clients transportSendNs cacheNs hmem :=
    h.cached frame clients transportSendNs cacheNs (List.mem_append_left _ hmem)

/-- The time of the last operation. -/
def serviceClock (ops : List ServerOperation) : ℕ := (ops.getLast?.map (·.atNs.toNat)).getD 0

theorem serviceClock_le {ops : List ServerOperation} (h : ∀ op ∈ ops, op.atNs ≤ nowNs) :
    serviceClock ops ≤ nowNs.toNat := by
  rw [serviceClock]
  cases hlast : ops.getLast? with
  | none => exact Nat.zero_le _
  | some op => exact h op (List.mem_of_getLast? hlast)

theorem serviceInvariant_of_run (hnack : cfg.udpEnableNack = true)
    (hnonneg : 0 ≤ cfg.udpRetransmitCacheMaxAgeMs)
    (hint : cfg.udpRetransmitCacheMaxAgeMs < 2 ^ 31) {ops : List ServerOperation}
    (hrun : runSteps (serviceStep env cfg) {} ops = some st) (htime : InTime ops) :
    ServiceInvariant cfg ops (serviceClock ops) st := by
  induction ops using List.reverseRecOn generalizing st with
  | nil =>
      obtain rfl := Option.some.inj hrun
      exact ⟨rfl, 0, .nil, rfl⟩
  | append_singleton ops op ih =>
      rw [runSteps_append, Option.bind_eq_some_iff] at hrun
      obtain ⟨before, hbefore, hlast⟩ := hrun
      rw [runSteps_cons_eq_some] at hlast
      obtain ⟨next, hstep, hnext⟩ := hlast
      obtain rfl := Option.some.inj hnext
      have hclock : serviceClock ops ≤ op.atNs.toNat := by
        refine serviceClock_le fun other hother => ?_
        exact (List.pairwise_append.mp htime.ordered).2.2 other hother op (by simp)
      have hinv := (ih hbefore htime.initial).serviceStep hnack hnonneg hint hclock hstep
      simpa [serviceClock] using hinv

/-- What a step adds to the counters of the requests. -/
theorem serviceStep_counted {op : ServerOperation} {next : UdpStreamingBackend}
    (hnack : cfg.udpEnableNack = true) (hopen : st.socketOpen = true)
    (hstep : Server.serviceStep env cfg st op = some next) :
    next.socketOpen = true ∧
      next.nackFragmentsRequested + st.retransmitFragmentsThrottled +
          st.retransmitFragmentMisses =
        st.nackFragmentsRequested + next.retransmitFragmentsThrottled +
          next.retransmitFragmentMisses + foundInRequest cfg st op := by
  cases op with
  | broadcast frame clients transportSendNs cacheNs =>
      obtain ⟨before, hsent, rfl⟩ := serviceStep_broadcast hnack hstep
      refine ⟨hsent.keeps.socketOpen.trans hopen, ?_⟩
      have hrequested := hsent.keeps.nackFragmentsRequested
      have hthrottled := hsent.keeps.retransmitFragmentsThrottled
      have hmisses := hsent.keeps.retransmitFragmentMisses
      simp only [cacheFrameFragments, foundInRequest]
      omega
  | handleNackRequest address nowNs nackItems =>
      obtain rfl := Option.some.inj hstep
      have hhandles := handleNackRequest_handles env address nowNs nackItems hnack hopen
      exact ⟨hhandles.socketOpen.trans hopen, hhandles.counted⟩

theorem runService_counted (hnack : cfg.udpEnableNack = true) {ops : List ServerOperation}
    {last : UdpStreamingBackend} (hopen : st.socketOpen = true)
    (hrun : runSteps (Server.serviceStep env cfg) st ops = some last) :
    last.nackFragmentsRequested + st.retransmitFragmentsThrottled +
        st.retransmitFragmentMisses =
      st.nackFragmentsRequested + last.retransmitFragmentsThrottled +
        last.retransmitFragmentMisses + foundItems env cfg st ops := by
  induction ops generalizing st with
  | nil =>
      obtain rfl := Option.some.inj hrun
      rw [foundItems]
      omega
  | cons op ops ih =>
      obtain ⟨next, hstep, hrest⟩ := (runSteps_cons_eq_some _).mp hrun
      obtain ⟨hnext, hcounted⟩ := serviceStep_counted hnack hopen hstep
      have hih := ih hnext hrest
      rw [foundItems, hstep]
      simp only
      omega

/-- What a pruned cache yields for an item is what the item may be served with. -/
theorem cachedDatagram_eq_some_iff {start : ℕ} {datagram : Bytes}
    (hdistinct : (frames.map (·.frame.sequence)).Nodup)
    (hkeeps : KeepsRecent sendTimeNs (maxAgeNs cfg) cfg.udpRetransmitCacheFrames frames
      nowNs.toNat start)
    (hfresh : ∀ sent ∈ frames.drop start, nowNs.toNat ≤ sendTimeNs sent + maxAgeNs cfg) :
    cachedDatagram ((frames.drop start).map (cachedFrame cfg)) item = some datagram ↔
      Serves cfg frames nowNs item datagram := by
  have hdrop : ((frames.drop start).map (·.frame.sequence)).Nodup :=
    hdistinct.sublist ((List.drop_sublist start frames).map _)
  rw [cachedDatagram, Option.map_eq_some_iff]
  constructor
  · rintro ⟨fragment, hfound, rfl⟩
    obtain ⟨sent, hsent, hsequence, hindex, rfl⟩ :=
      (findCachedFragment_cachedFrame hdrop).mp hfound
    obtain ⟨hlatest, hrecent⟩ := (hkeeps.mem_iff hfresh).mp hsent
    exact ⟨sent, hlatest, hsequence, by omega, hindex, List.take_length⟩
  · rintro ⟨sent, hlatest, hsequence, hrecent, hindex, rfl⟩
    have hsent : sent ∈ frames.drop start :=
      (hkeeps.mem_iff hfresh).mpr ⟨hlatest, by omega⟩
    exact ⟨_, (findCachedFragment_cachedFrame hdrop).mpr ⟨sent, hsent, hsequence, hindex, rfl⟩,
      List.take_length⟩

end

/-- The retransmission service after any run of successful sends and of requests: which
items the next request is answered for, and what the counters add up to.  The age of a
frame counts from the start of its transmission, not from when it was cached. -/
theorem runService_answers {env : ServerEnv} {cfg : TransportConfig}
    {st : UdpStreamingBackend} {ops : List ServerOperation} (hnack : cfg.udpEnableNack = true)
    (hnonneg : 0 ≤ cfg.udpRetransmitCacheMaxAgeMs)
    (hint : cfg.udpRetransmitCacheMaxAgeMs < 2 ^ 31)
    (hrun : runSteps (serviceStep env cfg) {} ops = some st) (htime : InTime ops)
    (hdistinct : ((sentFrames ops).map (·.frame.sequence)).Nodup) :
    (∀ address nowNs nackItems, (∀ op ∈ ops, op.atNs ≤ nowNs) →
      ∃ answers, AnswersRequest env cfg (sentFrames ops) address nowNs nackItems st
        (handleNackRequest env cfg address nowNs nackItems st) answers) ∧
      st.nackFragmentsRequested = st.retransmitFragmentsThrottled +
        st.retransmitFragmentMisses + foundItems env cfg {} ops := by
  have hinv := serviceInvariant_of_run hnack hnonneg hint hrun htime
  refine ⟨fun address nowNs nackItems hlast => ?_, ?_⟩
  · obtain ⟨start, hkeeps, hcache, hfresh⟩ := hinv.prune hnonneg hint (serviceClock_le hlast)
    have hhandles := handleNackRequest_handles env address nowNs nackItems hnack hinv.socketOpen
    have hfilter : ((nackItems.take cfg.udpRetransmitMaxFragmentsPerRequest).map
        (cachedDatagram (pruneRetransmitCache cfg nowNs st.retransmitCache))).reduceOption =
          (nackItems.take cfg.udpRetransmitMaxFragmentsPerRequest).filterMap
            (cachedDatagram (pruneRetransmitCache cfg nowNs st.retransmitCache)) := by
      show List.filterMap id _ = _
      rw [List.filterMap_map]
      rfl
    refine ⟨(nackItems.take cfg.udpRetransmitMaxFragmentsPerRequest).map
      (cachedDatagram (pruneRetransmitCache cfg nowNs st.retransmitCache)), ?_, ?_, ?_⟩
    · rw [List.forall₂_map_right_iff, List.forall₂_same]
      intro item _ datagram
      rw [hcache]
      exact cachedDatagram_eq_some_iff hdistinct hkeeps (hfresh htime.transmitted)
    · rw [hfilter]
      exact hhandles.emitted
    · rw [hfilter]
      exact hhandles.sendCalls
  · have hcounted := runService_counted hnack rfl hrun
    simpa using hcounted

/-- A server that keeps frames for half a second. -/
def nackConfig : TransportConfig := { backend := "udp", udpEnableNack := true }

/-- A frame whose transmission took ten milliseconds. -/
def slowTransmission : List ServerOperation :=
  [.broadcast (numberedFrame 7 [1, 2, 3]) [1, 2] 0 10000000]

/-- The state after it. -/
def afterSlowTransmission : UdpStreamingBackend :=
  (sendFrameFragments ⟨fun _ _ => 2⟩ nackConfig (numberedFrame 7 [1, 2, 3]) [1, 2] 0 10000000 {}).1

theorem inTime_slowTransmission : InTime slowTransmission where
  ordered := List.pairwise_singleton _ _
  transmitted := List.pairwise_singleton _ _
  cached := by
    intro frame clients transportSendNs cacheNs hmem
    obtain h := List.mem_singleton.mp hmem
    cases h
    decide

theorem run_slowTransmission :
    runSteps (serviceStep ⟨fun _ _ => 2⟩ nackConfig) {} slowTransmission =
      some afterSlowTransmission := by
  decide +kernel

theorem slowTransmission_answers :
    (∀ address nowNs nackItems, (∀ op ∈ slowTransmission, op.atNs ≤ nowNs) →
      ∃ answers, AnswersRequest ⟨fun _ _ => 2⟩ nackConfig (sentFrames slowTransmission) address
        nowNs nackItems afterSlowTransmission
        (handleNackRequest ⟨fun _ _ => 2⟩ nackConfig address nowNs nackItems
          afterSlowTransmission) answers) ∧
      afterSlowTransmission.nackFragmentsRequested =
        afterSlowTransmission.retransmitFragmentsThrottled +
          afterSlowTransmission.retransmitFragmentMisses +
          foundItems ⟨fun _ _ => 2⟩ nackConfig {} slowTransmission :=
  runService_answers rfl (by decide) (by decide) run_slowTransmission inTime_slowTransmission
    (List.nodup_singleton _)

/-- A request within half a second of the time at which the frame was cached, but not of
the start of its transmission, is not answered. -/
theorem slowTransmission_unanswered :
    runSteps (serviceStep ⟨fun _ _ => 2⟩ nackConfig) {} slowTransmission =
        some afterSlowTransmission ∧
      505000000 - 10000000 ≤ maxAgeNs nackConfig ∧
      0 < fragmentCountSize nackConfig (numberedFrame 7 [1, 2, 3]) ∧
      (handleNackRequest ⟨fun _ _ => 2⟩ nackConfig 1 505000000 [⟨7, 0, 0⟩]
        afterSlowTransmission).sendCalls = afterSlowTransmission.sendCalls ∧
      (handleNackRequest ⟨fun _ _ => 2⟩ nackConfig 1 495000000 [⟨7, 0, 0⟩]
        afterSlowTransmission).sendCalls = afterSlowTransmission.sendCalls + 1 := by
  decide +kernel

end AvProject.Server
