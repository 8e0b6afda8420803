import AvProject.Client.UdpCompletion
import AvProject.Udp.Integrity

/-!
Reception of the datagrams of one frame, step by step: as long as the frame is not
finished its assembly holds exactly the data fragments that have arrived, and the
datagram that finishes it yields the payload that was sent.
-/

namespace AvProject.Udp

open AvProject.Lib AvProject.Protocol AvProject.Client AvProject.Server

/-! ### Telling the datagrams of a frame apart -/

section

variable {cfg : TransportConfig} {sent : SentFrame}

theorem dataDatagram_injective (h : Sendable cfg sent.frame) {i j : ℕ}
    (hi : i < fragmentCountSize cfg sent.frame) (hj : j < fragmentCountSize cfg sent.frame)
    (heq : dataDatagram cfg sent i = dataDatagram cfg sent j) : i = j := by
  have hparse := parseUdpDatagram_dataDatagram h hi
  rw [heq, parseUdpDatagram_dataDatagram h hj, Option.some.injEq, Prod.mk.injEq,
    Prod.mk.injEq] at hparse
  exact (congrArg UdpFrameFragmentHeader.fragmentIndex hparse.2.1).symm

theorem dataDatagram_ne_parity (h : Sendable cfg sent.frame) {i : ℕ}
    (hi : i < fragmentCountSize cfg sent.frame) :
    dataDatagram cfg sent i ≠ frameParityDatagram cfg sent := by
  intro heq
  have hparse := parseUdpDatagram_dataDatagram h hi
  rw [heq, frameParityDatagram, parseUdpDatagram_parityDatagram h h.length_parity_le,
    Option.some.injEq, Prod.mk.injEq, Prod.mk.injEq] at hparse
  have hrole := congrArg UdpFrameFragmentHeader.fragmentRole hparse.2.1
  simp [parityHeader, dataHeader, fragmentHeader, UdpFragmentRole.code] at hrole

end

/-! ### Assemblies on the way -/

/-- A datagram and the time of its arrival. -/
abbrev Arrival := Bytes × ℕ

/-- The datagram is among the arrivals. -/
def HasArrived (arrived : List Arrival) (data : Bytes) : Prop :=
  data ∈ arrived.map Prod.fst

theorem hasArrived_concat {arrived : List Arrival} {arrival : Arrival} {data : Bytes} :
    HasArrived (arrived ++ [arrival]) data ↔ HasArrived arrived data ∨ data = arrival.1 := by
  simp [HasArrived]

/-- An assembly that holds exactly the data fragments that have arrived. -/
structure PartlyArrived (ccfg : ClientConfig) (scfg : TransportConfig) (sent : SentFrame)
    (arrived : List Arrival) (a : UdpFrameAssembly) : Prop where
  wellFormed : a.WellFormed sent.frame.sequence
  carries : Carries ccfg scfg sent a
  has_iff : ∀ i, i < fragmentCountSize scfg sent.frame →
    (a.Has i ↔ HasArrived arrived (dataDatagram scfg sent i))
  fec : ccfg.udpFecEnabled = true → HasArrived arrived (frameParityDatagram scfg sent) →
    (∀ arrival ∈ arrived, arrival.2 ≠ 0) →
    a.hasFecPayload = true ∧ a.fecPayloadTimestampNs ≠ 0
  touched : arrived ≠ [] → a.lastFragmentTimestampNs ∈ arrived.map Prod.snd

/-- The receiver while the frame is not finished. -/
structure Assembling (ccfg : ClientConfig) (scfg : TransportConfig) (sent : SentFrame)
    (arrived : List Arrival) (st : StreamClient) : Prop where
  awaits : st.log.Awaits sent.frame.sequence
  stored : ∀ a, st.udpAssemblies[sent.frame.sequence]? = some a →
    PartlyArrived ccfg scfg sent arrived a ∧ a.complete = false
  present : arrived ≠ [] → ∃ a, st.udpAssemblies[sent.frame.sequence]? = some a

/-- A finished assembly of the frame; a fragment that has not arrived was
reconstructed, at its place and with its bytes. -/
structure FinishedFrom (ccfg : ClientConfig) (scfg : TransportConfig) (sent : SentFrame)
    (arrived : List Arrival) (a : UdpFrameAssembly) : Prop where
  payload : a.payload = sent.frame.payload
  metadata : a.metadata = embeddedMetadata ccfg scfg sent
  fragments : ∀ i, i < fragmentCountSize scfg sent.frame →
    HasArrived arrived (dataDatagram scfg sent i) ∨
      { index := i, offset := i * maxFragmentPayloadSize scfg,
        bytes := fragmentPayload scfg sent.frame i, recovered := true } ∈ a.writes

section

variable {env : ClientEnv} {ccfg : ClientConfig} {scfg : TransportConfig} {sent : SentFrame}
  {arrived : List Arrival} {st : StreamClient} {a : UdpFrameAssembly}

namespace PartlyArrived

/-- The assembly that the first datagram of the frame opens. -/
theorem opened (hsend : Sendable scfg sent.frame) {header : MessageHeader}
    {role : UdpFragmentRole} {index offset : ℕ} {body : Bytes}
    (hvalid : ValidFragment (fragmentHeader scfg sent role index offset) body) (nowNs : ℕ) :
    PartlyArrived ccfg scfg sent []
        (openAssembly ccfg none header (fragmentHeader scfg sent role index offset) nowNs) ∧
      (openAssembly ccfg none header (fragmentHeader scfg sent role index offset)
        nowNs).complete = false := by
  have hcarries : Carries ccfg scfg sent (openAssembly ccfg none header
      (fragmentHeader scfg sent role index offset) nowNs) :=
    Carries.opened hsend header role index offset nowNs
  have hwf : (openAssembly ccfg none header (fragmentHeader scfg sent role index offset)
      nowNs).WellFormed sent.frame.sequence :=
    UdpFrameAssembly.WellFormed.opened hvalid ccfg header nowNs
  refine ⟨⟨hwf, hcarries, ?_, ?_, ?_⟩, ?_⟩
  · intro i hi
    simp [openAssembly, UdpFrameAssembly.Has, List.getElem?_replicate, HasArrived]
  · simp [HasArrived]
  · simp
  · have hcount := hwf.nonempty
    simp only [UdpFrameAssembly.complete, beq_eq_false_iff_ne, ne_eq]
    intro heq
    rw [← heq] at hcount
    simp [openAssembly] at hcount

/-- The datagram refers to the frame's assembly, be it stored or opened now. -/
theorem openAssembly (h : Assembling ccfg scfg sent arrived st)
    (hsend : Sendable scfg sent.frame) (header : MessageHeader) {role : UdpFragmentRole}
    {index offset : ℕ} {body : Bytes}
    (hvalid : ValidFragment (fragmentHeader scfg sent role index offset) body) (nowNs : ℕ) :
    PartlyArrived ccfg scfg sent arrived (Client.openAssembly ccfg
        st.udpAssemblies[sent.frame.sequence]? header
        (fragmentHeader scfg sent role index offset) nowNs) ∧
      (Client.openAssembly ccfg st.udpAssemblies[sent.frame.sequence]? header
        (fragmentHeader scfg sent role index offset) nowNs).complete = false := by
  cases hstored : st.udpAssemblies[sent.frame.sequence]? with
  | none =>
      have hnil : arrived = [] := by
        by_contra hne
        obtain ⟨a, ha⟩ := h.present hne
        simp [hstored] at ha
      rw [hnil]
      exact opened hsend hvalid nowNs
  | some a =>
      obtain ⟨hpart, hincomplete⟩ := h.stored a hstored
      rw [hpart.wellFormed.openAssembly_some]
      exact ⟨hpart, hincomplete⟩

/-- The datagrams of the frame describe the layout of its assembly. -/
theorem layout (h : PartlyArrived ccfg scfg sent arrived a) (hsend : Sendable scfg sent.frame)
    (role : UdpFragmentRole) (index offset : ℕ) :
    a.receivedFragments.length =
        (fragmentHeader scfg sent role index offset).fragmentCount ∧
      a.payload.length = (fragmentHeader scfg sent role index offset).framePayloadSize :=
  ⟨h.carries.count.trans (Nat.mod_eq_of_lt hsend.count_lt).symm,
    h.carries.length.trans (Nat.mod_eq_of_lt hsend.length_lt).symm⟩

/-- After a data datagram the parity block is as it was. -/
theorem fec_concat_data (h : PartlyArrived ccfg scfg sent arrived a)
    (hsend : Sendable scfg sent.frame) {index : ℕ}
    (hindex : index < fragmentCountSize scfg sent.frame) (nowNs : ℕ)
    (henabled : ccfg.udpFecEnabled = true)
    (hparity : HasArrived (arrived ++ [(dataDatagram scfg sent index, nowNs)])
      (frameParityDatagram scfg sent))
    (htimes : ∀ arrival ∈ arrived ++ [(dataDatagram scfg sent index, nowNs)],
      arrival.2 ≠ 0) : a.hasFecPayload = true ∧ a.fecPayloadTimestampNs ≠ 0 := by
  rcases hasArrived_concat.mp hparity with hold | heq
  · exact h.fec henabled hold fun arrival hmem => htimes arrival (by simp [hmem])
  · exact absurd heq.symm (dataDatagram_ne_parity hsend hindex)

/-- A data fragment that has arrived before changes nothing. -/
theorem duplicate (h : PartlyArrived ccfg scfg sent arrived a)
    (hsend : Sendable scfg sent.frame) {index : ℕ}
    (hindex : index < fragmentCountSize scfg sent.frame) (hhas : a.Has index) (nowNs : ℕ) :
    PartlyArrived ccfg scfg sent (arrived ++ [(dataDatagram scfg sent index, nowNs)]) a where
  wellFormed := h.wellFormed
  carries := h.carries
  has_iff := by
    intro i hi
    rw [h.has_iff i hi, hasArrived_concat]
    refine ⟨Or.inl, fun hor => hor.elim id fun heq => ?_⟩
    rw [dataDatagram_injective hsend hi hindex heq]
    exact (h.has_iff index hindex).mp hhas
  fec := h.fec_concat_data hsend hindex nowNs
  touched := by
    intro _
    have hne : arrived ≠ [] := by
      rintro rfl
      simpa [HasArrived] using (h.has_iff index hindex).mp hhas
    rw [List.map_append]
    exact List.mem_append_left _ (h.touched hne)

/-- A new data fragment is there afterwards. -/
theorem storeFragment (h : PartlyArrived ccfg scfg sent arrived a)
    (hsend : Sendable scfg sent.frame) {index : ℕ}
    (hindex : index < fragmentCountSize scfg sent.frame)
    (hvalid : ValidFragment (dataHeader scfg sent index)
      (fragmentPayload scfg sent.frame index))
    (hnew : ¬a.Has index) (nowNs : ℕ) :
    PartlyArrived ccfg scfg sent (arrived ++ [(dataDatagram scfg sent index, nowNs)])
      (Client.storeFragment a (dataHeader scfg sent index)
        (fragmentPayload scfg sent.frame index) nowNs) where
  wellFormed := by
    obtain ⟨hcount, hpayload⟩ := h.layout hsend .kData index
      (index * maxFragmentPayloadSize scfg)
    exact h.wellFormed.storeFragment hvalid rfl hcount hpayload hnew nowNs
  carries := h.carries.storeFragment h.wellFormed hsend hindex nowNs
  has_iff := by
    intro i hi
    have hlt : index < a.fragmentCount := h.carries.count ▸ hindex
    rw [UdpFrameAssembly.has_storeFragment hlt, h.has_iff i hi, hasArrived_concat, or_comm]
    refine or_congr_right ⟨?_, fun heq => dataDatagram_injective hsend hi hindex heq⟩
    rintro rfl
    rfl
  fec := h.fec_concat_data hsend hindex nowNs
  touched := fun _ => by simp [Client.storeFragment]

/-- The parity block is stored; the data fragments stay as they are. -/
theorem storeParity (h : PartlyArrived ccfg scfg sent arrived a)
    (hsend : Sendable scfg sent.frame) (nowNs : ℕ) :
    PartlyArrived ccfg scfg sent (arrived ++ [(frameParityDatagram scfg sent, nowNs)])
      (Client.storeParity ccfg a
        (parity (maxFragmentPayloadSize scfg) sent.frame.payload) nowNs) where
  wellFormed := h.wellFormed.storeParity ccfg _ nowNs
  carries := h.carries.storeParity nowNs
  has_iff := by
    intro i hi
    have hsame : (Client.storeParity ccfg a
        (parity (maxFragmentPayloadSize scfg) sent.frame.payload) nowNs).Has i ↔ a.Has i := by
      unfold Client.storeParity
      split <;> rfl
    rw [hsame, h.has_iff i hi, hasArrived_concat]
    exact ⟨Or.inl, fun hor => hor.elim id fun heq =>
      absurd heq (dataDatagram_ne_parity hsend hi)⟩
  fec := by
    intro henabled _ htimes
    have hnow : nowNs ≠ 0 := htimes (frameParityDatagram scfg sent, nowNs) (by simp)
    simp [Client.storeParity, henabled, hnow]
  touched := fun _ => by simp [Client.storeParity]

/-- Once every fragment is there, whether it has arrived or not, the frame is
what was sent. -/
theorem finished (h : PartlyArrived ccfg scfg sent arrived a)
    (hsend : Sendable scfg sent.frame) (hcomplete : a.complete = true) :
    FinishedFrom ccfg scfg sent arrived a where
  payload := h.carries.payload_eq h.wellFormed hsend hcomplete
  metadata := h.carries.metadata
  fragments := by
    intro i hi
    have hhas := h.wellFormed.complete_iff.mp hcomplete i (h.carries.count ▸ hi)
    exact .inl ((h.has_iff i hi).mp hhas)

/-- Recovery of the one missing fragment finishes the frame. -/
theorem recovered (h : PartlyArrived ccfg scfg sent arrived a)
    (hsend : Sendable scfg sent.frame) (hparity : a.hasFecPayload = true)
    {missing offset size : ℕ} {bytes : Bytes} (hrec : Recovery a missing offset size bytes) :
    (a.place missing offset size bytes true).complete = true ∧
      FinishedFrom ccfg scfg sent arrived (a.place missing offset size bytes true) := by
  have hwf := h.wellFormed.place_recovery hrec
  have hcomplete := h.wellFormed.complete_place_recovery hrec
  refine ⟨hcomplete, ?_⟩
  obtain ⟨hindex, rfl, rfl, rfl⟩ := h.carries.recovery_eq hsend hparity hrec
  constructor
  case payload =>
    exact (h.carries.place h.wellFormed hsend hindex true).payload_eq hwf hsend hcomplete
  case metadata => exact h.carries.metadata
  case fragments =>
    intro i hi
    by_cases heq : i = missing
    · subst heq
      exact .inr (by simp [UdpFrameAssembly.place])
    · have hhas := UdpFrameAssembly.has_of_missingFragments_singleton hrec.missing_eq
        (h.carries.count ▸ hi) heq
      exact .inl ((h.has_iff i hi).mp hhas)

end PartlyArrived

/-! ### One datagram -/

/-- How a call can end that was given a datagram of the frame: the frame is still
not finished, or it has been retired now. -/
inductive FrameOutcome (ccfg : ClientConfig) (scfg : TransportConfig) (sent : SentFrame)
    (arrived : List Arrival) (nowNs : ℕ) (log : CompletionLog)
    (result : StreamClient × Option ReceivedFrame) : Prop
  | pending (hnone : result.2 = none) (hlog : result.1.log = log)
      (hassembling : Assembling ccfg scfg sent arrived result.1)
  | finished (a : UdpFrameAssembly) (hfinished : FinishedFrom ccfg scfg sent arrived a)
      (hlog : result.1.log = log.retire
        { sequence := sent.frame.sequence, assembly := a,
          frame := completedUdpFrame ccfg a nowNs })
      (hdirect : ccfg.udpJitterBufferEnabled = false →
        result.2 = some (completedUdpFrame ccfg a nowNs))

/-- The end of the call, for an assembly that is finished or holds what has
arrived. -/
theorem FrameOutcome.finishIfComplete (hawaits : st.log.Awaits sent.frame.sequence)
    (hstored : st.udpAssemblies[sent.frame.sequence]? = some a)
    (hcomplete : a.complete = true → FinishedFrom ccfg scfg sent arrived a)
    (hincomplete : a.complete = false → PartlyArrived ccfg scfg sent arrived a)
    (nowNs : ℕ) (deferReadyPop : Bool) :
    FrameOutcome ccfg scfg sent arrived nowNs st.log
      (Client.finishIfComplete env ccfg st sent.frame.sequence a nowNs deferReadyPop) := by
  unfold Client.finishIfComplete
  split
  · rename_i hdone
    refine .finished a (hcomplete hdone) (finalizeCompletedUdpFrame_log env ccfg st _ hdone ..) ?_
    intro hjitter
    rw [finalizeCompletedUdpFrame_direct env hjitter st _ hdone]
  · rename_i hopen
    rw [Bool.not_eq_true] at hopen
    refine .pending rfl rfl ⟨hawaits, fun b hb => ?_, fun _ => ⟨a, hstored⟩⟩
    rw [hstored, Option.some.injEq] at hb
    subst hb
    exact ⟨hincomplete hopen, hopen⟩

/-- After a data fragment: recovery is tried, then the frame may be finished. -/
theorem FrameOutcome.afterDataFragment (hsend : Sendable scfg sent.frame)
    (hawaits : st.log.Awaits sent.frame.sequence)
    (hstored : st.udpAssemblies[sent.frame.sequence]? = some a)
    (hpart : PartlyArrived ccfg scfg sent arrived a) (nowNs : ℕ) (deferReadyPop : Bool) :
    FrameOutcome ccfg scfg sent arrived nowNs st.log
      (Client.finishIfComplete env ccfg
        (recoverIfIncomplete ccfg st sent.frame.sequence a).1 sent.frame.sequence
        (recoverIfIncomplete ccfg st sent.frame.sequence a).2 nowNs deferReadyPop) := by
  unfold recoverIfIncomplete
  split
  · have hlog := recoverAssembly_log ccfg st sent.frame.sequence a
    have hcases := recoverAssembly_cases ccfg st sent.frame.sequence a
    generalize recoverAssembly ccfg st sent.frame.sequence a = outcome at hlog hcases
    obtain ⟨st', b, flag⟩ := outcome
    simp only at hlog hcases ⊢
    rw [← hlog] at hawaits ⊢
    rcases hcases with
      ⟨heq, hmap, -⟩ | ⟨missing, offset, size, bytes, hrec, hparity, heq, hmap⟩
    · obtain ⟨rfl, -⟩ := Prod.mk.inj heq
      rw [← hmap] at hstored
      exact .finishIfComplete hawaits hstored (hpart.finished hsend) (fun _ => hpart)
        nowNs deferReadyPop
    · obtain ⟨rfl, -⟩ := Prod.mk.inj heq
      obtain ⟨hcomplete, hfinished⟩ := hpart.recovered hsend hparity hrec
      refine .finishIfComplete hawaits ?_ (fun _ => hfinished) (fun hfalse => ?_)
        nowNs deferReadyPop
      · rw [hmap, OrdMap.getElem?_insert, if_pos rfl]
      · rw [hcomplete] at hfalse
        exact absurd hfalse (by simp)
  · exact .finishIfComplete hawaits hstored (hpart.finished hsend) (fun _ => hpart)
      nowNs deferReadyPop

/-- A data datagram of the frame. -/
theorem FrameOutcome.acceptDataFragment (hsend : Sendable scfg sent.frame)
    (hawaits : st.log.Awaits sent.frame.sequence)
    (hstored : st.udpAssemblies[sent.frame.sequence]? = some a)
    (hpart : PartlyArrived ccfg scfg sent arrived a) {index : ℕ}
    (hindex : index < fragmentCountSize scfg sent.frame)
    (hvalid : ValidFragment (dataHeader scfg sent index)
      (fragmentPayload scfg sent.frame index)) (nowNs : ℕ) (deferReadyPop : Bool) :
    FrameOutcome ccfg scfg sent (arrived ++ [(dataDatagram scfg sent index, nowNs)]) nowNs
      st.log
      (Client.acceptDataFragment env ccfg st a (dataHeader scfg sent index)
        (fragmentPayload scfg sent.frame index) nowNs deferReadyPop) := by
  have hlog := receiveFragment_log st a (dataHeader scfg sent index)
    (fragmentPayload scfg sent.frame index) nowNs
  have hreceived : (receiveFragment st a (dataHeader scfg sent index)
        (fragmentPayload scfg sent.frame index) nowNs).1.udpAssemblies[sent.frame.sequence]? =
        some (receiveFragment st a (dataHeader scfg sent index)
          (fragmentPayload scfg sent.frame index) nowNs).2 ∧
      PartlyArrived ccfg scfg sent (arrived ++ [(dataDatagram scfg sent index, nowNs)])
        (receiveFragment st a (dataHeader scfg sent index)
          (fragmentPayload scfg sent.frame index) nowNs).2 := by
    by_cases hhas : a.Has (dataHeader scfg sent index).fragmentIndex
    · obtain ⟨heq, hmap⟩ := receiveFragment_duplicate (a := a) hhas st
        (fragmentPayload scfg sent.frame index) nowNs
      rw [heq, hmap]
      exact ⟨hstored, hpart.duplicate hsend hindex hhas nowNs⟩
    · obtain ⟨heq, hmap⟩ := receiveFragment_new (a := a) hhas st
        (fragmentPayload scfg sent.frame index) nowNs
      rw [heq, hmap]
      exact ⟨(OrdMap.getElem?_insert _ _ _ _).trans (if_pos rfl),
        hpart.storeFragment hsend hindex hvalid hhas nowNs⟩
  rw [← hlog] at hawaits ⊢
  exact .afterDataFragment hsend hawaits hreceived.1 hreceived.2 nowNs deferReadyPop

/-- The parity datagram of the frame. -/
theorem FrameOutcome.acceptParityFragment (hsend : Sendable scfg sent.frame)
    (hawaits : st.log.Awaits sent.frame.sequence)
    (hpart : PartlyArrived ccfg scfg sent arrived a) (hincomplete : a.complete = false)
    (nowNs : ℕ) (deferReadyPop : Bool) :
    FrameOutcome ccfg scfg sent (arrived ++ [(frameParityDatagram scfg sent, nowNs)]) nowNs
      st.log
      (Client.acceptParityFragment env ccfg st a sent.frame.sequence
        (parity (maxFragmentPayloadSize scfg) sent.frame.payload) nowNs deferReadyPop) := by
  have hstill : (Client.storeParity ccfg a
      (parity (maxFragmentPayloadSize scfg) sent.frame.payload) nowNs).complete = false := by
    rw [← hincomplete]
    unfold Client.storeParity
    split <;> rfl
  have hfinish (st' : StreamClient) (hlog : st'.log = st.log)
      (hmap : st'.udpAssemblies = st.udpAssemblies.insert sent.frame.sequence
        (Client.storeParity ccfg a
          (parity (maxFragmentPayloadSize scfg) sent.frame.payload) nowNs)) :
      FrameOutcome ccfg scfg sent (arrived ++ [(frameParityDatagram scfg sent, nowNs)]) nowNs
        st.log (Client.finishIfComplete env ccfg st' sent.frame.sequence
          (Client.storeParity ccfg a
            (parity (maxFragmentPayloadSize scfg) sent.frame.payload) nowNs)
          nowNs deferReadyPop) := by
    rw [← hlog] at hawaits ⊢
    refine .finishIfComplete hawaits ?_ (fun htrue => ?_)
      (fun _ => hpart.storeParity hsend nowNs) nowNs deferReadyPop
    · rw [hmap, OrdMap.getElem?_insert, if_pos rfl]
    · rw [hstill] at htrue
      exact absurd htrue (by simp)
  exact hfinish _ rfl rfl

/-- The expiry scan that each datagram triggers leaves the frame alone, if its
assembly has not expired. -/
theorem Assembling.noteDatagram (h : Assembling ccfg scfg sent arrived st) {nowNs : ℕ}
    (hlive : ∀ a, st.udpAssemblies[sent.frame.sequence]? = some a → a.expired nowNs = false)
    (data : Bytes) :
    Assembling ccfg scfg sent arrived (Client.noteDatagram st data nowNs) := by
  have hmap : (Client.noteDatagram st data nowNs).udpAssemblies[sent.frame.sequence]? =
      st.udpAssemblies[sent.frame.sequence]? := by
    have hfilter : (Client.noteDatagram st data nowNs).udpAssemblies[sent.frame.sequence]? =
        st.udpAssemblies[sent.frame.sequence]?.filter fun a => !a.expired nowNs :=
      OrdMap.getElem?_filter ..
    rw [hfilter]
    cases hstored : st.udpAssemblies[sent.frame.sequence]? with
    | none => rfl
    | some a => simp [hlive a hstored]
  refine ⟨h.awaits, ?_, ?_⟩
  · rw [hmap]
    exact h.stored
  · rw [hmap]
    exact h.present

/-- One datagram of an unfinished frame. -/
theorem processUdpDatagram_frameDatagram (env : ClientEnv)
    (hsend : Sendable scfg sent.frame) (hloss : ccfg.udpTestLossPattern = .none)
    (h : Assembling ccfg scfg sent arrived st)
    {data : Bytes} (hdata : FrameDatagram scfg sent data) {nowNs : ℕ}
    (hlive : ∀ a, st.udpAssemblies[sent.frame.sequence]? = some a → a.expired nowNs = false)
    (deferReadyPop : Bool) :
    FrameOutcome ccfg scfg sent (arrived ++ [(data, nowNs)]) nowNs st.log
      (processUdpDatagram env ccfg st data nowNs deferReadyPop) := by
  have hnoted := h.noteDatagram hlive data
  have hrecent := h.awaits.notRecent
  -- neither noting the datagram nor storing the assembly touches the log
  have hlog (data : Bytes) (b : UdpFrameAssembly) : (storeUdpAssembly
      (Client.noteDatagram st data nowNs) sent.frame.sequence b).log = st.log := rfl
  have hawaits := h.awaits
  cases hdata with
  | data index hindex =>
      have hparse := parseUdpDatagram_dataDatagram hsend hindex
      have hvalid := parseUdpDatagram_valid hparse
      have hopened := (PartlyArrived.openAssembly hnoted hsend
        (messageHeader sent (fragmentPayload scfg sent.frame index)) hvalid nowNs).1
      generalize hopen : Client.openAssembly ccfg _ _ _ nowNs = a at hopened
      have hlayout : a.receivedFragments.length = (dataHeader scfg sent index).fragmentCount ∧
          a.payload.length = (dataHeader scfg sent index).framePayloadSize :=
        hopened.layout hsend .kData index (index * maxFragmentPayloadSize scfg)
      have hrole : (dataHeader scfg sent index).fragmentRole ≠
          UdpFragmentRole.kXorParity.code := by
        simp [dataHeader, fragmentHeader, UdpFragmentRole.code]
      have hstep : processUdpDatagram env ccfg st (dataDatagram scfg sent index) nowNs
            deferReadyPop =
          Client.acceptDataFragment env ccfg (storeUdpAssembly (Client.noteDatagram st
            (dataDatagram scfg sent index) nowNs) sent.frame.sequence a) a
            (dataHeader scfg sent index) (fragmentPayload scfg sent.frame index) nowNs
            deferReadyPop := by
        rw [processUdpDatagram_fresh env hloss hparse hrecent,
          assembleFragment_of_layout env hopen hlayout, if_neg hrole]
        rfl
      rw [← hlog (dataDatagram scfg sent index) a] at hawaits ⊢
      rw [hstep]
      exact FrameOutcome.acceptDataFragment hsend hawaits
        (storeUdpAssembly_self _ _ _) hopened hindex hvalid nowNs deferReadyPop
  | parity hfec hmany =>
      have hparse := parseUdpDatagram_parityDatagram hsend hsend.length_parity_le
      have hvalid := parseUdpDatagram_valid hparse
      have hopened := PartlyArrived.openAssembly hnoted hsend
        (messageHeader sent (parity (maxFragmentPayloadSize scfg) sent.frame.payload))
        hvalid nowNs
      generalize hopen : Client.openAssembly ccfg _ _ _ nowNs = a at hopened
      have hlayout : a.receivedFragments.length = (parityHeader scfg sent).fragmentCount ∧
          a.payload.length = (parityHeader scfg sent).framePayloadSize :=
        hopened.1.layout hsend .kXorParity 0 0
      have hrole : (parityHeader scfg sent).fragmentRole = UdpFragmentRole.kXorParity.code := rfl
      have hstep : processUdpDatagram env ccfg st (frameParityDatagram scfg sent) nowNs
            deferReadyPop =
          Client.acceptParityFragment env ccfg (storeUdpAssembly (Client.noteDatagram st
            (frameParityDatagram scfg sent) nowNs) sent.frame.sequence a) a
            sent.frame.sequence
            (parity (maxFragmentPayloadSize scfg) sent.frame.payload) nowNs
            deferReadyPop := by
        unfold frameParityDatagram
        rw [processUdpDatagram_fresh env hloss hparse hrecent,
          assembleFragment_of_layout env hopen hlayout, if_pos hrole]
        rfl
      change FrameOutcome _ _ _ (arrived ++ [(frameParityDatagram scfg sent, nowNs)]) _ _
        (processUdpDatagram env ccfg st (frameParityDatagram scfg sent) nowNs deferReadyPop)
      rw [← hlog (frameParityDatagram scfg sent) a] at hawaits ⊢
      rw [hstep]
      exact FrameOutcome.acceptParityFragment hsend hawaits hopened.1 hopened.2 nowNs
        deferReadyPop

end

end AvProject.Udp
