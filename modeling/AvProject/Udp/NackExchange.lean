import AvProject.Client.NackRequests
import AvProject.Server.UdpStreamingBackend

/-!
NACK requests from one program to the other: what the client writes into its datagrams,
the server reads back.
-/

namespace AvProject.Udp

open AvProject.Lib AvProject.Protocol AvProject.Client AvProject.Server

/-! ### One datagram -/

/-- The item that asks for a fragment. -/
def nackItem (frameSequence fragmentIndex : ℕ) : UdpNackItem where
  frameSequence := frameSequence
  fragmentIndex := fragmentIndex
  reserved := 0

section

variable {frameSequence : ℕ} {chunk : List ℕ}

/-- The items of a datagram are read back one by one. -/
theorem ofBytes_nackItems (hsequence : frameSequence < 2 ^ 64)
    (hchunk : ∀ i ∈ chunk, i < 2 ^ 16) :
    ((List.range chunk.length).map fun k => UdpNackItem.ofBytes
      ((chunk.flatMap fun i => (nackItem frameSequence i).toBytes).drop
        (k * sizeofUdpNackItem))) = chunk.map (nackItem frameSequence) := by
  apply List.ext_getElem
  · simp
  intro k hk hk'
  rw [List.length_map] at hk'
  have hrest : (chunk.flatMap fun i => (nackItem frameSequence i).toBytes).drop
      (k * sizeofUdpNackItem) = (nackItem frameSequence chunk[k]).toBytes ++
        (chunk.drop (k + 1)).flatMap fun i => (nackItem frameSequence i).toBytes := by
    rw [drop_mul_flatMap fun i => length_toBytes_udpNackItem _, List.drop_eq_getElem_cons hk',
      List.flatMap_cons]
  simp only [List.getElem_map, List.getElem_range, hrest]
  exact UdpNackItem.ofBytes_toBytes_append hsequence (hchunk _ (List.getElem_mem hk'))
    (by simp [nackItem]) _

/-- The server reads the items that the client wrote. -/
theorem parseNackRequest_buildNackDatagram (hsequence : frameSequence < 2 ^ 64)
    (hlength : chunk.length < 2 ^ 16) (hchunk : ∀ i ∈ chunk, i < 2 ^ 16)
    (requestTimestampNs : ℕ) :
    ∃ nackHeader, parseNackRequest (buildNackDatagram frameSequence requestTimestampNs chunk) =
      some (nackHeader, chunk.map (nackItem frameSequence)) := by
  generalize hheader : UdpNackHeader.mk requestTimestampNs (chunk.length % 2 ^ 16) 0 = header
  have hcount : header.requestCount = chunk.length := by
    rw [← hheader]
    exact Nat.mod_eq_of_lt hlength
  generalize hitems : (chunk.flatMap fun i => (nackItem frameSequence i).toBytes) = items
  have hlengthItems : items.length = chunk.length * sizeofUdpNackItem := by
    simp [← hitems, List.length_flatMap]
  have hread : ((List.range chunk.length).map fun k =>
      UdpNackItem.ofBytes (items.drop (k * sizeofUdpNackItem))) =
        chunk.map (nackItem frameSequence) := by
    rw [← hitems]
    exact ofBytes_nackItems hsequence hchunk
  generalize hpayload : sizeofUdpNackHeader + chunk.length * sizeofUdpNackItem = payloadLength
  have hdatagram : buildNackDatagram frameSequence requestTimestampNs chunk =
      (buildMessageHeader .kUdpNack 0 payloadLength).toBytes ++ (header.toBytes ++ items) := by
    rw [← hpayload, ← hheader, ← hitems, buildNackDatagram, List.append_assoc]
    rfl
  -- the casts to 16 and 32 bits lose nothing
  have hfits : (buildMessageHeader .kUdpNack 0 payloadLength).payloadLength =
      payloadLength := by
    apply Nat.mod_eq_of_lt
    rw [← hpayload, sizeofUdpNackHeader, sizeofUdpNackItem]
    omega
  have hrequestCount : (UdpNackHeader.ofBytes (header.toBytes ++ items)).requestCount =
      chunk.length := by
    rw [UdpNackHeader.requestCount_ofBytes_toBytes_append (by omega), hcount]
  have hbody : ((buildMessageHeader .kUdpNack 0 payloadLength).toBytes ++
      (header.toBytes ++ items)).drop sizeofMessageHeader = header.toBytes ++ items :=
    List.drop_left' (by simp)
  have hbehind (k : ℕ) : ((buildMessageHeader .kUdpNack 0 payloadLength).toBytes ++
      (header.toBytes ++ items)).drop (sizeofMessageHeader + sizeofUdpNackHeader + k) =
        items.drop k := by
    rw [Nat.add_assoc, ← List.drop_drop, hbody, ← List.drop_drop,
      List.drop_left' (length_toBytes_udpNackHeader header)]
  have htotal : ((buildMessageHeader .kUdpNack 0 payloadLength).toBytes ++
      (header.toBytes ++ items)).length = sizeofMessageHeader + payloadLength := by
    simp [hlengthItems, ← hpayload]
  refine ⟨UdpNackHeader.ofBytes (header.toBytes ++ items), ?_⟩
  have hlong : sizeofUdpNackHeader ≤ payloadLength := by omega
  have htype : (buildMessageHeader .kUdpNack 0 payloadLength).messageType =
      MessageType.kUdpNack.code := rfl
  rw [hdatagram, parseNackRequest]
  simp only [MessageHeader.ofBytes_toBytes_append, hasValidMessageMagic_buildMessageHeader,
    htotal, hbody, hbehind, hrequestCount, hread, hpayload, hfits, htype]
  rw [if_neg (by simp [hlong]), if_neg (by simp)]

end

/-! ### One round -/

/-- The items of a datagram that asks for the fragments of one frame. -/
def sendItems (x : NackSend) : List UdpNackItem := x.fragments.map (nackItem x.frameSequence)

/-- When fragments of an assembly are to be asked for: some are missing, the first one was
seen long enough ago, and neither the number of attempts nor the retry interval forbids it. -/
def NackEligible (cfg : ClientConfig) (nowNs : ℕ) (a : UdpFrameAssembly) : Prop :=
  (∃ i < a.fragmentCount, ¬a.Has i) ∧
    cfg.udpNackRequestDelayMs * 1000000 ≤ (nowNs : ℤ) - a.firstSeenTimestampNs ∧
    (a.nackAttempts : ℤ) < cfg.udpNackMaxRetries ∧
    (a.lastNackTimestampNs = 0 ∨
      cfg.udpNackRetryIntervalMs * 1000000 ≤ (nowNs : ℤ) - a.lastNackTimestampNs)

instance (cfg : ClientConfig) (nowNs : ℕ) (a : UdpFrameAssembly) :
    Decidable (NackEligible cfg nowNs a) :=
  inferInstanceAs (Decidable (_ ∧ _ ∧ _ ∧ _))

/-- The items that a round at `nowNs` asks for, by frame and fragment. -/
def eligibleItems (cfg : ClientConfig) (nowNs : ℕ) (st : StreamClient) : List UdpNackItem :=
  (st.udpAssemblies.toList.filter fun entry => NackEligible cfg nowNs entry.2).flatMap
    fun entry => entry.2.missingFragments.map (nackItem entry.1)

/-- With clocks that do not go back, the two `continue` tests decide eligibility. -/
theorem nackDue_iff {cfg : ClientConfig} {nowNs key : ℕ} {a : UdpFrameAssembly}
    (hwf : a.WellFormed key)
    (hseen : 0 < a.firstSeenTimestampNs ∧ a.firstSeenTimestampNs ≤ nowNs)
    (hasked : a.lastNackTimestampNs ≤ nowNs) :
    nackDue cfg nowNs a = true ↔ NackEligible cfg nowNs a := by
  have hincomplete : a.receivedFragmentCount < a.receivedFragments.length ↔
      ∃ i < a.fragmentCount, ¬a.Has i := by
    have hle : a.receivedFragmentCount ≤ a.receivedFragments.length := hwf.count_le
    have hcomplete : a.receivedFragmentCount = a.receivedFragments.length ↔
        ∀ i, i < a.fragmentCount → a.Has i := by
      rw [← hwf.complete_iff, UdpFrameAssembly.complete, beq_iff_eq]
    rw [lt_iff_le_and_ne, Ne, hcomplete]
    push Not
    exact and_iff_right hle
  have hnonempty : a.receivedFragments ≠ [] := List.length_pos_iff.mp hwf.nonempty
  -- the clock is at or behind neither of the two times of the assembly
  have hdelay : millisecondsToNs cfg.udpNackRequestDelayMs ≤ nowNs - a.firstSeenTimestampNs ↔
      cfg.udpNackRequestDelayMs * 1000000 ≤ (nowNs : ℤ) - a.firstSeenTimestampNs := by
    rw [millisecondsToNs]
    omega
  have hretry : (a.lastNackTimestampNs = 0 ∨ ¬nowNs - a.lastNackTimestampNs <
        millisecondsToNs cfg.udpNackRetryIntervalMs) ↔
      (a.lastNackTimestampNs = 0 ∨
        cfg.udpNackRetryIntervalMs * 1000000 ≤ (nowNs : ℤ) - a.lastNackTimestampNs) := by
    rw [millisecondsToNs]
    omega
  rw [NackEligible, ← hincomplete, ← hdelay, ← hretry]
  simp only [nackDue, Bool.and_eq_true, Bool.not_eq_true', List.isEmpty_eq_false_iff,
    decide_eq_true_eq, bne_iff_ne, Bool.and_eq_false_iff, bne_eq_false_iff_eq,
    decide_eq_false_iff_not]
  have hfirst : a.firstSeenTimestampNs ≠ 0 := hseen.1.ne'
  simp only [hnonempty, hfirst, hseen.2, hasked, ne_eq, not_false_eq_true, true_and,
    not_true_eq_false, or_false, and_true, and_assoc]

section

variable (env : ClientEnv) (cfg : ClientConfig) (nowNs : ℕ) {number : ℕ}

/-- When every send succeeds, a due assembly is asked for all it misses. -/
theorem assemblySends_sent {a : UdpFrameAssembly} {key : ℕ} (hready : a.Requestable key)
    (hsends : ∀ n, number ≤ n → env.sendSucceeds n = true) :
    (∀ x ∈ assemblySends env cfg nowNs number a, x.sent = true) ∧
      (assemblySends env cfg nowNs number a).flatMap sendItems =
        if nackDue cfg nowNs a = true then a.missingFragments.map (nackItem key) else [] := by
  unfold assemblySends
  split
  · have hsucceeds : ∀ k < a.missingFragments.length ⌈/⌉ nackChunk cfg,
        env.sendSucceeds (number + k) = true := fun k _ => hsends _ (Nat.le_add_right _ _)
    have hsent := (requestSends_sent nowNs a.metadata.sequence (nackChunk_pos cfg) le_rfl
      hsucceeds).1
    refine ⟨hsent, ?_⟩
    have hitems : ∀ x ∈ requestSends env nowNs a.metadata.sequence (nackChunk cfg)
        a.missingFragments.length number a.missingFragments,
        sendItems x = x.fragments.map (nackItem key) := fun x hx => by
      rw [sendItems, (requests_of_mem hx).frameSequence_eq, hready.wellFormed.sequence]
    calc (requestSends env nowNs a.metadata.sequence (nackChunk cfg) a.missingFragments.length
          number a.missingFragments).flatMap sendItems
        = (requestSends env nowNs a.metadata.sequence (nackChunk cfg) a.missingFragments.length
          number a.missingFragments).flatMap fun x => x.fragments.map (nackItem key) :=
          List.flatMap_congr hitems
      _ = ((requestSends env nowNs a.metadata.sequence (nackChunk cfg) a.missingFragments.length
          number a.missingFragments).flatMap NackSend.fragments).map (nackItem key) :=
          List.map_flatMap.symm
      _ = a.missingFragments.map (nackItem key) := by
          rw [requestSends_flatMap_fragments (nackChunk_pos cfg) le_rfl hsent]
  · simp

/-- The same for a whole round. -/
theorem roundSends_sent {entries : List (ℕ × UdpFrameAssembly)}
    (hready : ∀ entry ∈ entries, entry.2.Requestable entry.1)
    (hsends : ∀ n, number ≤ n → env.sendSucceeds n = true) :
    (∀ x ∈ roundSends env cfg nowNs number entries, x.sent = true) ∧
      (roundSends env cfg nowNs number entries).flatMap sendItems =
        (entries.filter fun entry => nackDue cfg nowNs entry.2).flatMap fun entry =>
          entry.2.missingFragments.map (nackItem entry.1) := by
  induction entries generalizing number with
  | nil => simp [roundSends]
  | cons entry entries ih =>
      obtain ⟨hfirst, hitems⟩ := assemblySends_sent env cfg nowNs
        (hready entry List.mem_cons_self) hsends
      obtain ⟨hrest, hitems'⟩ := ih (fun e he => hready e (List.mem_cons_of_mem _ he))
        fun n hn => hsends n ((Nat.le_add_right _ _).trans hn)
      rw [roundSends, List.flatMap_append, hitems, hitems']
      refine ⟨fun x hx => (List.mem_append.mp hx).elim (hfirst x) (hrest x), ?_⟩
      rw [List.filter_cons]
      split <;> simp

/-- What the server reads in a datagram for an assembly. -/
theorem parseNackRequest_assemblySends {a : UdpFrameAssembly} {key : ℕ}
    (hready : a.Requestable key) {x : NackSend}
    (hx : x ∈ assemblySends env cfg nowNs number a) :
    (parseNackRequest x.datagram).map Prod.snd = some (sendItems x) ∧
      (sendItems x).length ≤ nackChunk cfg := by
  obtain ⟨hrequests, hsublist⟩ := requests_of_mem_assemblySends hready hx
  have hindex : ∀ i ∈ a.missingFragments, i < a.fragmentCount := fun i hi =>
    (UdpFrameAssembly.mem_missingFragments.mp hi).1
  have hlength : x.fragments.length < 2 ^ 16 := by
    have hmissing : a.missingFragments.length ≤ a.receivedFragments.length := by
      have hfilter := List.length_filter_le (fun i => !(a.receivedFragments.getD i false))
        (List.range a.receivedFragments.length)
      rwa [List.length_range] at hfilter
    exact (hsublist.length_le.trans hmissing).trans_lt hready.count_lt
  obtain ⟨requestTimestampNs, hdatagram⟩ := hrequests.datagram_eq
  obtain ⟨nackHeader, hparse⟩ := parseNackRequest_buildNackDatagram hready.key_lt hlength
    (fun i hi => (hindex i (hsublist.subset hi)).trans hready.count_lt) requestTimestampNs
  rw [hdatagram, hparse, sendItems, hrequests.frameSequence_eq]
  exact ⟨rfl, by simpa using hrequests.length_le⟩

theorem parseNackRequest_roundSends {entries : List (ℕ × UdpFrameAssembly)}
    (hready : ∀ entry ∈ entries, entry.2.Requestable entry.1) :
    ∀ x ∈ roundSends env cfg nowNs number entries,
      (parseNackRequest x.datagram).map Prod.snd = some (sendItems x) ∧
        (sendItems x).length ≤ nackChunk cfg := by
  induction entries generalizing number with
  | nil => simp [roundSends]
  | cons entry entries ih =>
      intro x hx
      rw [roundSends] at hx
      rcases List.mem_append.mp hx with hfirst | hrest
      · exact parseNackRequest_assemblySends env cfg nowNs (hready entry List.mem_cons_self) hfirst
      · exact ih (fun e he => hready e (List.mem_cons_of_mem _ he)) x hrest

end

/-! ### Requests and what the server reads -/

/-- The client's requests arrive: in every state reached at positive times that do not go
back, the datagrams of a round whose sends succeed are accepted by the server, and the items
it reads are those of the eligible assemblies. -/
theorem maybeSendUdpNackRequests_parsed (env : ClientEnv) (cfg : ClientConfig)
    (serverConfig : TransportConfig) (ops : List UdpOperation) (nowNs : ℕ)
    (hclock : Clocked (ops ++ [.maybeSendUdpNackRequests nowNs]))
    (hnack : cfg.udpNackEnabled = true) (hmax : 1 ≤ cfg.udpNackMaxRequestsPerPacket)
    (st st' : StreamClient) (hst : (runOperations env cfg (StreamClient.connected cfg) ops).1 = st)
    (hst' : maybeSendUdpNackRequests env cfg st nowNs = st')
    (hsends : ∀ n, st.history.nackDatagrams.length ≤ n → env.sendSucceeds n = true)
    (hbuffer : ∀ x ∈ st'.history.nackDatagrams.drop st.history.nackDatagrams.length,
      x.datagram.length ≤ serverConfig.udpMaxDatagramSize) :
    ∃ (sends : List NackSend) (items : List (List UdpNackItem)),
      st'.history.nackDatagrams = st.history.nackDatagrams ++ sends ∧
      (∀ x ∈ sends, x.sent = true) ∧
      (sends.map fun x => (parseNackRequest
        (x.datagram.take serverConfig.udpMaxDatagramSize)).map Prod.snd) = items.map some ∧
      (∀ parsed ∈ items, parsed.length ≤ cfg.udpNackMaxRequestsPerPacket) ∧
      items.flatten = eligibleItems cfg nowNs st ∧
      (st.udpAssemblies.toList.map Prod.fst).Pairwise (· < ·) ∧
      ∀ item ∈ items.flatten, item.frameSequence ∈ st.udpAssemblies ∧
        item.frameSequence ∉ st.recentlyCompletedUdpSequences := by
  have hreach : st.Reachable env cfg := ⟨ops, hst⟩
  have hinv := hreach.requestableInv
  have htimes : NackTimes nowNs st := by
    rw [← hst]
    refine (runOperations_nackTimes (fun t ht => ?_) (.connect cfg nowNs {})
      (.connected cfg)).1
    have hlast := hclock.nondecreasing
    rw [clock, List.filterMap_append, List.pairwise_append] at hlast
    refine ⟨hclock.positive t ?_, hlast.2.2 t ht nowNs (by simp [UdpOperation.nowNs?])⟩
    rw [clock, List.filterMap_append]
    exact List.mem_append_left _ ht
  have hentries := roundEntries_toList htimes.socketOpen hinv.assemblies
  generalize hround : roundSends env cfg nowNs st.history.nackDatagrams.length
    st.udpAssemblies.toList = sends
  have hlog : st'.history.nackDatagrams = st.history.nackDatagrams ++ sends := by
    rw [← hst', ← hround, maybeSendUdpNackRequests_eq env hnack hmax,
      hentries.foldl_nackDatagrams]
  rw [hlog, List.drop_left] at hbuffer
  obtain ⟨hsent, hitems⟩ := roundSends_sent env cfg nowNs hentries.requestable hsends
  have hparsed : ∀ x ∈ roundSends env cfg nowNs st.history.nackDatagrams.length
      st.udpAssemblies.toList, (parseNackRequest x.datagram).map Prod.snd = some (sendItems x) ∧
        (sendItems x).length ≤ nackChunk cfg :=
    parseNackRequest_roundSends env cfg nowNs hentries.requestable
  rw [hround] at hsent hitems hparsed
  -- with these clocks the due assemblies are the eligible ones
  have heligible : sends.flatMap sendItems = eligibleItems cfg nowNs st := by
    rw [hitems, eligibleItems]
    congr 1
    refine List.filter_congr fun entry hentry => ?_
    have hstored := hentries.stored entry hentry
    rw [Bool.eq_iff_iff, decide_eq_true_eq]
    exact nackDue_iff (hentries.requestable entry hentry).wellFormed
      (htimes.seen _ _ hstored) (htimes.asked _ _ hstored)
  refine ⟨sends, sends.map sendItems, hlog, hsent, ?_, ?_, heligible, ?_, ?_⟩
  · rw [List.map_map]
    refine List.map_congr_left fun x hx => ?_
    rw [List.take_of_length_le (hbuffer x hx)]
    exact (hparsed x hx).1
  · intro parsed hmem
    obtain ⟨x, hx, rfl⟩ := List.mem_map.mp hmem
    exact (hparsed x hx).2.trans_eq (Nat.max_eq_right hmax)
  · rw [Std.ExtTreeMap.map_fst_toList_eq_keys]
    exact Std.ExtTreeMap.ordered_keys.imp fun h => Nat.compare_eq_lt.mp h
  · intro item hitem
    have hmem : item ∈ eligibleItems cfg nowNs st := heligible ▸ hitem
    obtain ⟨entry, hentry, hin⟩ := List.mem_flatMap.mp hmem
    obtain ⟨i, -, rfl⟩ := List.mem_map.mp hin
    have hstored := hentries.stored entry (List.mem_filter.mp hentry).1
    refine ⟨?_, hinv.notRecent _ _ hstored⟩
    rw [OrdMap.mem_iff]
    exact ⟨_, hstored⟩

/-- A frame of which one fragment of three has arrived. -/
theorem firstOfThree_parsed :
    ∃ items : List (List UdpNackItem),
      (∀ parsed ∈ items, parsed.length ≤ 16) ∧ items.flatten = [nackItem 7 1, nackItem 7 2] := by
  obtain ⟨-, items, -, -, -, hlength, hitems, -⟩ :=
    maybeSendUdpNackRequests_parsed .idle {} {}
      [.processUdpDatagram firstOfThreeDatagram 1 false] 30000000
      ⟨by decide, by decide⟩ rfl (by decide) _ _ rfl rfl (fun _ _ => rfl) (by decide +kernel)
  have heligible : eligibleItems {} 30000000
      (runOperations .idle {} (StreamClient.connected {})
        [.processUdpDatagram firstOfThreeDatagram 1 false]).1 =
        [nackItem 7 1, nackItem 7 2] := by
    decide +kernel
  exact ⟨items, hlength, hitems.trans heligible⟩

end AvProject.Udp
