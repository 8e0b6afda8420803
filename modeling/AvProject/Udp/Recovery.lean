import AvProject.Client.UdpRecoveryPass
import AvProject.Udp.RoundTrip

/-!
Recovery of a lost fragment: when all datagrams of a frame but one data datagram
have arrived, the missing fragment is reconstructed and the frame completes.
-/

namespace AvProject.Udp

open AvProject.Lib AvProject.Protocol AvProject.Client AvProject.Server

section

variable {ccfg : ClientConfig} {scfg : TransportConfig} {sent : SentFrame}
  {arrived : List Arrival} {a : UdpFrameAssembly} {key missing : ℕ}

/-- With one fragment missing and the parity block there, the recovery succeeds. -/
theorem Carries.recovers (h : Carries ccfg scfg sent a) (hwf : a.WellFormed key)
    (hsend : Sendable scfg sent.frame) (henabled : ccfg.udpFecEnabled = true)
    (hparity : a.hasFecPayload = true) (htime : a.fecPayloadTimestampNs ≠ 0)
    (hmany : 1 < fragmentCountSize scfg sent.frame)
    (hmissing : a.missingFragments = [missing]) :
    (maybeRecoverWithUdpFec ccfg a).recovered = true := by
  obtain ⟨hlt, hnot⟩ := UdpFrameAssembly.missing_of_missingFragments_singleton hmissing
  have hindex : missing < fragmentCountSize scfg sent.frame := h.count ▸ hlt
  have hincomplete : a.receivedFragmentCount < a.receivedFragments.length := by
    refine lt_of_le_of_ne hwf.count_le fun heq => hnot ?_
    exact hwf.complete_iff.mp (beq_iff_eq.mpr heq) missing hlt
  have hguard : ¬(!ccfg.udpFecEnabled || !a.hasFecPayload || a.fecPayloadTimestampNs == 0 ||
      a.receivedFragments.isEmpty ||
      decide (a.receivedFragmentCount ≥ a.receivedFragments.length)) = true := by
    have hne : a.receivedFragments ≠ [] := List.ne_nil_of_length_pos (by omega)
    simp [henabled, hparity, htime, hne, hincomplete]
  have hpos : 0 < (fragmentPayload scfg sent.frame missing).length :=
    length_piece_pos hsend.maxFragmentPayloadSize_pos hmany hindex
  have hle : (fragmentPayload scfg sent.frame missing).length ≤ a.fecPayload.length := by
    rw [h.parity hparity]
    exact length_piece_le_parity hindex
  have hinside : missing * maxFragmentPayloadSize scfg +
      (fragmentPayload scfg sent.frame missing).length ≤ a.payload.length :=
    (hsend.offset_add_length_le hindex).trans_eq h.length.symm
  have hfits : ¬((fragmentPayload scfg sent.frame missing).length = 0 ∨
      (fragmentPayload scfg sent.frame missing).length > a.fecPayload.length ∨
      missing * maxFragmentPayloadSize scfg +
        (fragmentPayload scfg sent.frame missing).length > a.payload.length) := by
    omega
  rw [maybeRecoverWithUdpFec, if_neg hguard, hmissing]
  simp only [h.missingSize_eq hsend hmissing, h.missingOffset_eq hsend hmissing,
    h.xorReceivedFragments_eq hsend, if_neg hfits]

/-- The missing fragment was written by a recovery, at the offset and with the bytes
that the server gave it, and the payload is the one that was sent. -/
structure Reconstructed (scfg : TransportConfig) (frame : EncodedFrame) (missing : ℕ)
    (a : UdpFrameAssembly) : Prop where
  written :
    { index := missing, offset := missing * maxFragmentPayloadSize scfg,
      bytes := fragmentPayload scfg frame missing, recovered := true } ∈ a.writes
  payload : a.payload = frame.payload

theorem FinishedFrom.reconstructed (h : FinishedFrom ccfg scfg sent arrived a)
    (hmissing : missing < fragmentCountSize scfg sent.frame)
    (hlost : ¬HasArrived arrived (dataDatagram scfg sent missing)) :
    Reconstructed scfg sent.frame missing a :=
  ⟨(h.fragments missing hmissing).resolve_left hlost, h.payload⟩

/-- Everything but one data datagram has arrived: the recovery succeeds and
reconstructs the fragment. -/
theorem PartlyArrived.recovers (h : PartlyArrived ccfg scfg sent arrived a)
    (hsend : Sendable scfg sent.frame) (henabled : ccfg.udpFecEnabled = true)
    (hmany : 1 < fragmentCountSize scfg sent.frame)
    (hmissing : missing < fragmentCountSize scfg sent.frame)
    (hparity : HasArrived arrived (frameParityDatagram scfg sent))
    (htimes : ∀ arrival ∈ arrived, arrival.2 ≠ 0)
    (hothers : ∀ index, index < fragmentCountSize scfg sent.frame → index ≠ missing →
      HasArrived arrived (dataDatagram scfg sent index))
    (hlost : ¬HasArrived arrived (dataDatagram scfg sent missing)) :
    (maybeRecoverWithUdpFec ccfg a).recovered = true ∧
      Reconstructed scfg sent.frame missing (maybeRecoverWithUdpFec ccfg a).assembly := by
  obtain ⟨hfec, htime⟩ := h.fec henabled hparity htimes
  have hsingle : a.missingFragments = [missing] := by
    apply UdpFrameAssembly.missingFragments_eq_singleton
    · exact h.carries.count ▸ hmissing
    · rw [h.has_iff missing hmissing]
      exact hlost
    · intro index hindex hne
      rw [h.carries.count] at hindex
      exact (h.has_iff index hindex).mpr (hothers index hindex hne)
  have hrecovers := h.carries.recovers h.wellFormed hsend henabled hfec htime hmany hsingle
  refine ⟨hrecovers, ?_⟩
  rcases maybeRecoverWithUdpFec_cases ccfg a with
    ⟨hfalse, -⟩ | ⟨-, -, -, -, index, offset, size, bytes, hrec, heq⟩
  · rw [hrecovers] at hfalse
    simp at hfalse
  · rw [heq]
    exact (h.recovered hsend hfec hrec).2.reconstructed hmissing hlost

end

/-! ### The recovery pass -/

/-- The frame was completed, from an assembly with the property, after `before`. -/
def CompletedSince (before after : CompletionLog) (key : ℕ) (P : UdpFrameAssembly → Prop) :
    Prop :=
  ∃ earlier c later, after.completed = before.completed ++ earlier ++ c :: later ∧
    c.sequence = key ∧ P c.assembly ∧ c.frame.payload = c.assembly.payload

/-- What the pass completes without being cut short: either frames only go to the
jitter buffer, or it has just the one frame to complete. -/
theorem finalizeRecoverableUdpFecFrames_completes {env : ClientEnv} {ccfg : ClientConfig}
    {st : StreamClient} (hwf : ∀ (k : ℕ) (b : UdpFrameAssembly),
      st.udpAssemblies[k]? = some b → b.WellFormed k)
    {key : ℕ} {a : UdpFrameAssembly} (hstored : st.udpAssemblies[key]? = some a)
    (hrecovers : (maybeRecoverWithUdpFec ccfg a).recovered = true) (nowNs : ℕ)
    {deferReadyPop : Bool}
    (hpass : ccfg.udpJitterBufferEnabled = true ∧ deferReadyPop = true ∨
      ∀ k, k ≠ key → recoverable ccfg st k = false) :
    CompletedSince st.log
      (finalizeRecoverableUdpFecFrames env ccfg st nowNs deferReadyPop).1.log key
      (fun b => b = (maybeRecoverWithUdpFec ccfg a).assembly) := by
  have hkey : key ∈ recoverableKeys ccfg st := by
    rw [mem_recoverableKeys, recoverable_of_getElem? hstored]
    exact hrecovers
  have hrecovered : (recoveredState ccfg st).udpAssemblies[key]? =
      some (maybeRecoverWithUdpFec ccfg a).assembly := by
    rw [getElem?_recoveredState, hstored, Option.map_some]
  rw [finalizeRecoverableUdpFecFrames_eq]
  rcases hpass with ⟨hjitter, rfl⟩ | honly
  · obtain ⟨-, -, hcompleted⟩ := finalizeRecovered_deferred env hjitter nowNs
      (nodup_recoverableKeys ccfg st) fun k hk => recoveredState_complete hwf hk
    obtain ⟨earlier, later, hsplit⟩ := List.append_of_mem hkey
    rw [hsplit, List.filterMap_append, List.filterMap_cons, hrecovered, Option.map_some,
      recoveredState_log, ← List.append_assoc, ← hsplit] at hcompleted
    exact ⟨_, _, _, hcompleted, rfl, rfl, rfl⟩
  · have hsingle : recoverableKeys ccfg st = [key] := by
      refine List.perm_singleton.mp ?_
      rw [List.perm_ext_iff_of_nodup (nodup_recoverableKeys ccfg st) (List.nodup_singleton _)]
      intro k
      rw [mem_recoverableKeys, List.mem_singleton]
      constructor
      · intro hk
        by_contra hne
        rw [honly k hne] at hk
        simp at hk
      · rintro rfl
        exact mem_recoverableKeys.mp hkey
    have hcomplete := (hwf key a hstored).complete_recovered hrecovers
    rw [hsingle, finalizeRecovered_singleton env nowNs deferReadyPop hrecovered hcomplete,
      finalizeCompletedUdpFrame_log env ccfg _ key hcomplete, recoveredState_log]
    exact ⟨[], _, [], by rw [List.append_nil]; rfl, rfl, rfl, rfl⟩

/-! ### Recovery after any order of arrivals -/

/-- The datagrams of a frame with exactly one data fragment, `missing`, left out. -/
structure LosesOne (scfg : TransportConfig) (sent : SentFrame) (missing : ℕ)
    (deliveries : List Delivery) : Prop where
  datagrams : ∀ d ∈ deliveries, FrameDatagram scfg sent d.data
  times : ∀ d ∈ deliveries, 0 < d.nowNs
  missing_lt : missing < fragmentCountSize scfg sent.frame
  others : ∀ index, index < fragmentCountSize scfg sent.frame → index ≠ missing →
    ∃ d ∈ deliveries, d.data = dataDatagram scfg sent index
  parity : ∃ d ∈ deliveries, d.data = frameParityDatagram scfg sent
  lost : ∀ d ∈ deliveries, d.data ≠ dataDatagram scfg sent missing

theorem hasArrived_map {deliveries : List Delivery} {data : Bytes} :
    HasArrived (deliveries.map Delivery.arrival) data ↔ ∃ d ∈ deliveries, d.data = data := by
  rw [HasArrived, List.map_map, List.mem_map]
  rfl

/-- A frame of several fragments, sent with parity, of which every datagram but one
data datagram arrives before the assembly times out: the fragment that is missing is
reconstructed, while the datagrams are processed or by the next recovery pass, and the
frame is completed with its payload. Two missing fragments are not touched. -/
theorem receive_recovers (senv : ServerEnv) (hsocket : senv.RefusesOversized)
    (scfg : TransportConfig) (frame : EncodedFrame) (clients : List Endpoint)
    (transportSendNs cacheNs : UInt64) (sst : UdpStreamingBackend)
    (hsent : (sendFrameFragments senv scfg frame clients transportSendNs cacheNs sst).2 = true)
    (hmany : 2 ≤ fragmentCountSize scfg frame) (cenv : ClientEnv) (ccfg : ClientConfig)
    (henabled : ccfg.udpFecEnabled = true) (hloss : ccfg.udpTestLossPattern = .none)
    (st : StreamClient) (hreach : st.Reachable cenv ccfg)
    (hassembly : frame.sequence ∉ st.udpAssemblies)
    (hrecent : frame.sequence ∉ st.recentlyCompletedUdpSequences) (missing : ℕ)
    (deliveries : List Delivery)
    (hloses : LosesOne scfg { frame := frame, transportSendTimestampNs := transportSendNs }
      missing deliveries)
    (halive : StaysAlive cenv ccfg frame.sequence st deliveries) :
    (CompletedSince st.log (receive cenv ccfg st deliveries).1.log frame.sequence
        (Reconstructed scfg frame missing) ∨
      ∃ a, (receive cenv ccfg st deliveries).1.udpAssemblies[frame.sequence]? = some a ∧
        (maybeRecoverWithUdpFec ccfg a).recovered = true ∧
        Reconstructed scfg frame missing (maybeRecoverWithUdpFec ccfg a).assembly ∧
        ∀ nowNs deferReadyPop,
          (ccfg.udpJitterBufferEnabled = true ∧ deferReadyPop = true ∨
            ∀ key, key ≠ frame.sequence →
              recoverable ccfg (receive cenv ccfg st deliveries).1 key = false) →
          CompletedSince st.log (finalizeRecoverableUdpFecFrames cenv ccfg
            (receive cenv ccfg st deliveries).1 nowNs deferReadyPop).1.log frame.sequence
            (Reconstructed scfg frame missing)) ∧
    ∀ a : UdpFrameAssembly, 2 ≤ a.missingFragments.length →
      (maybeRecoverWithUdpFec ccfg a).recovered = false ∧
        (maybeRecoverWithUdpFec ccfg a).assembly = a := by
  refine ⟨?_, fun a htwo => maybeRecoverWithUdpFec_of_two_missing ccfg htwo⟩
  set sent : SentFrame := { frame := frame, transportSendTimestampNs := transportSendNs }
  have hsend : Sendable scfg sent.frame := sendable_of_sendFrameFragments hsocket hsent
  have hstart : Assembling ccfg scfg sent [] st := .start hreach hassembly hrecent
  cases receive_frame hsend hloss hstart hloses.datagrams halive with
  | finished before after last a hsplit hfinished hbefore hlog hdirect =>
      left
      have hlost : ¬HasArrived ((before ++ [last]).map Delivery.arrival)
          (dataDatagram scfg sent missing) := by
        rw [hasArrived_map]
        rintro ⟨d, hd, hdata⟩
        refine hloses.lost d ?_ hdata
        rw [hsplit]
        simp only [List.mem_append, List.mem_cons] at hd ⊢
        tauto
      have hremembered : sent.frame.sequence ∈ (receive cenv ccfg st
          (before ++ [last])).1.log.recentlyCompletedUdpSequences := by
        rw [hlog]
        exact hstart.awaits.mem_retire
      have hafter : ∀ d ∈ after, FrameDatagram scfg sent d.data :=
        fun d hd => hloses.datagrams d (by simp [hsplit, hd])
      obtain ⟨-, hsame⟩ := receive_stale hsend hloss hremembered hafter
      rw [hsplit, List.append_cons, receive_append, hsame, hlog]
      exact ⟨[], _, [], by rw [List.append_nil]; rfl, rfl,
        hfinished.reconstructed hloses.missing_lt hlost, rfl⟩
  | pending hnone hlog hassembling =>
      right
      rw [List.nil_append] at hassembling
      have hparity := hasArrived_map.mpr hloses.parity
      have hne : deliveries.map Delivery.arrival ≠ [] := by
        intro hnil
        simp [hnil, HasArrived] at hparity
      obtain ⟨a, ha⟩ := hassembling.present hne
      obtain ⟨hpart, -⟩ := hassembling.stored a ha
      have htimes : ∀ arrival ∈ deliveries.map Delivery.arrival, arrival.2 ≠ 0 := by
        intro arrival harrival
        obtain ⟨d, hd, rfl⟩ := List.mem_map.mp harrival
        exact (hloses.times d hd).ne'
      have hlost : ¬HasArrived (deliveries.map Delivery.arrival)
          (dataDatagram scfg sent missing) := by
        rw [hasArrived_map]
        rintro ⟨d, hd, hdata⟩
        exact hloses.lost d hd hdata
      obtain ⟨hrecovers, hreconstructed⟩ := hpart.recovers hsend henabled hmany
        hloses.missing_lt hparity htimes
        (fun index hindex hother => hasArrived_map.mpr (hloses.others index hindex hother)) hlost
      refine ⟨a, ha, hrecovers, hreconstructed, fun nowNs deferReadyPop hpass => ?_⟩
      have hnext : (receive cenv ccfg st deliveries).1.Reachable cenv ccfg :=
        hreach.runOperations _
      have hdone : CompletedSince _ (finalizeRecoverableUdpFecFrames cenv ccfg
          (receive cenv ccfg st deliveries).1 nowNs deferReadyPop).1.log _ _ :=
        finalizeRecoverableUdpFecFrames_completes hnext.receiverInv.assemblies ha
          hrecovers nowNs hpass
      obtain ⟨earlier, c, later, hcompleted, hkey, hsame, hpayload⟩ := hdone
      rw [hlog] at hcompleted
      rw [← hsame] at hreconstructed
      exact ⟨earlier, c, later, hcompleted, hkey, hreconstructed, hpayload⟩

/-! #### The last fragment of two is lost -/

/-- The first fragment and the parity arrive, the second fragment does not. -/
def lossyDeliveries (parityNs : ℕ) : List Delivery :=
  [{ data := dataDatagram smallConfig smallFrame 0, nowNs := 1 },
   { data := frameParityDatagram smallConfig smallFrame, nowNs := parityNs }]

theorem lossyDeliveries_losesOne {parityNs : ℕ} (h : 0 < parityNs) :
    LosesOne smallConfig smallFrame 1 (lossyDeliveries parityNs) where
  datagrams := by
    rw [lossyDeliveries, List.forall_mem_cons, List.forall_mem_singleton]
    exact ⟨smallFrame_data Nat.two_pos, smallFrame_parity⟩
  times := by simp [lossyDeliveries, h]
  missing_lt := by decide +kernel
  others := by
    intro index hindex hne
    have hcount := fragmentCountSize_smallFrame
    obtain rfl : index = 0 := by omega
    exact ⟨_, List.mem_cons_self, rfl⟩
  parity := ⟨_, List.mem_cons_of_mem _ List.mem_cons_self, rfl⟩
  lost := by
    have hdata : dataDatagram smallConfig smallFrame 0 ≠
        dataDatagram smallConfig smallFrame 1 := by decide +kernel
    have hparity : frameParityDatagram smallConfig smallFrame ≠
        dataDatagram smallConfig smallFrame 1 := by decide +kernel
    rw [lossyDeliveries, List.forall_mem_cons, List.forall_mem_singleton]
    exact ⟨hdata, hparity⟩

/-- The receiver with all defaults, the jitter buffer included. -/
def bufferedClient : ClientConfig := {}

/-- The recovery pass after the arrivals completes the frame. -/
theorem lossyDeliveries_recovers :
    ∃ c ∈ (finalizeRecoverableUdpFecFrames .idle bufferedClient
        (receive .idle bufferedClient (StreamClient.connected bufferedClient)
          (lossyDeliveries 2)).1 3 true).1.log.completed,
      c.sequence = 9 ∧ c.frame.payload = smallFrame.frame.payload := by
  have hsent : (sendFrameFragments .single smallConfig smallFrame.frame [0] 5 6 {}).2 =
      true := by decide +kernel
  have hreach : (StreamClient.connected bufferedClient).Reachable .idle bufferedClient :=
    ⟨[], rfl⟩
  have hloses := lossyDeliveries_losesOne (show 0 < 2 by norm_num)
  have hstart : Assembling bufferedClient smallConfig smallFrame []
      (StreamClient.connected bufferedClient) := .start hreach (by decide) (by decide)
  have hempty : (StreamClient.connected bufferedClient).udpAssemblies[
      smallFrame.frame.sequence]? = none := rfl
  have halive : StaysAlive .idle bufferedClient smallFrame.frame.sequence
      (StreamClient.connected bufferedClient) (lossyDeliveries 2) :=
    hstart.staysAlive (sendable_of_sendFrameFragments ServerEnv.single_refusesOversized hsent)
      rfl hreach (fun a ha => by simp [hempty] at ha) hloses.datagrams (by simp) (by decide)
  obtain ⟨hcases, -⟩ := receive_recovers .single ServerEnv.single_refusesOversized smallConfig
    smallFrame.frame [0] 5 6 {} hsent (by decide +kernel) .idle bufferedClient rfl rfl
    (StreamClient.connected bufferedClient) hreach (by decide) (by decide) 1 (lossyDeliveries 2)
    hloses halive
  have hnone : (receive .idle bufferedClient (StreamClient.connected bufferedClient)
      (lossyDeliveries 2)).1.log.completed = [] := by decide +kernel
  rcases hcases with ⟨earlier, c, later, hcompleted, -⟩ | ⟨a, -, -, -, hpass⟩
  · rw [hnone] at hcompleted
    simp at hcompleted
  · obtain ⟨earlier, c, later, hcompleted, hkey, hreconstructed, hpayload⟩ :=
      hpass 3 true (.inl ⟨rfl, rfl⟩)
    refine ⟨c, ?_, hkey, hpayload.trans hreconstructed.payload⟩
    rw [hcompleted]
    simp

/-- More than the timeout apart, the parity finds the first fragment gone: nothing is
recovered and no frame completed. -/
theorem lossyDeliveries_late_not_recovered :
    LosesOne smallConfig smallFrame 1 (lossyDeliveries (10 ^ 9)) ∧
      recoverable bufferedClient (receive .idle bufferedClient
        (StreamClient.connected bufferedClient) (lossyDeliveries (10 ^ 9))).1 9 = false ∧
      (finalizeRecoverableUdpFecFrames .idle bufferedClient
        (receive .idle bufferedClient (StreamClient.connected bufferedClient)
          (lossyDeliveries (10 ^ 9))).1 (10 ^ 9) true).1.log.completed = [] :=
  ⟨lossyDeliveries_losesOne (by norm_num), by decide +kernel, by decide +kernel⟩

end AvProject.Udp
