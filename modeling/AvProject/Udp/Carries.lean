import AvProject.Udp.Layout

/-!
The relation between a partial assembly of the client and the frame that the
server sent: it survives every datagram of the frame and every recovery, and a
finished assembly in it holds the payload.
-/

namespace AvProject.Udp

open AvProject.Lib AvProject.Protocol AvProject.Client AvProject.Server

/-- The metadata that the client has for a frame: the timestamps that the server
embedded, or zeros where either side leaves them out. -/
def embeddedMetadata (ccfg : ClientConfig) (scfg : TransportConfig) (sent : SentFrame) :
    FrameDiagnosticMetadata :=
  let embedded (timestampNs : ℕ) :=
    if ccfg.expectMetadata ∧ scfg.embedFrameMetadata then timestampNs else 0
  { sequence := sent.frame.sequence
    captureTimestampNs := embedded sent.frame.captureTimestampNs
    encodeStartTimestampNs := embedded sent.frame.encodeStartTimestampNs
    encodeEndTimestampNs := embedded sent.frame.encodeEndTimestampNs
    transportSendTimestampNs := embedded sent.transportSendTimestampNs.toNat }

theorem assemblyMetadata_fragmentHeader (ccfg : ClientConfig) (scfg : TransportConfig)
    (sent : SentFrame) (role : UdpFragmentRole) (index offset : ℕ) :
    assemblyMetadata ccfg (fragmentHeader scfg sent role index offset) =
      embeddedMetadata ccfg scfg sent := by
  unfold assemblyMetadata fragmentHeader embeddedMetadata
  cases ccfg.expectMetadata <;> cases scfg.embedFrameMetadata <;> simp

/-- The assembly is part of the frame: its layout is the frame's, each fragment
that is there sits where the server cut it out, and a parity block is the
frame's. -/
structure Carries (ccfg : ClientConfig) (scfg : TransportConfig) (sent : SentFrame)
    (a : UdpFrameAssembly) : Prop where
  metadata : a.metadata = embeddedMetadata ccfg scfg sent
  count : a.fragmentCount = fragmentCountSize scfg sent.frame
  length : a.payload.length = sent.frame.payload.length
  offset : ∀ i, a.Has i → a.fragmentOffsets.getD i 0 = i * maxFragmentPayloadSize scfg
  size : ∀ i, a.Has i →
    a.fragmentPayloadSizes.getD i 0 = (fragmentPayload scfg sent.frame i).length
  bytes : ∀ p, p < sent.frame.payload.length → a.Has (p / maxFragmentPayloadSize scfg) →
    a.payload[p]? = sent.frame.payload[p]?
  parity : a.hasFecPayload = true →
    a.fecPayload = parity (maxFragmentPayloadSize scfg) sent.frame.payload

namespace Carries

variable {ccfg : ClientConfig} {scfg : TransportConfig} {sent : SentFrame}
  {a : UdpFrameAssembly} {key : ℕ}

/-- The assembly that any datagram of the frame opens. -/
theorem opened (hsend : Sendable scfg sent.frame) (header : MessageHeader)
    (role : UdpFragmentRole) (index offset nowNs : ℕ) :
    Carries ccfg scfg sent
      (openAssembly ccfg none header (fragmentHeader scfg sent role index offset) nowNs) where
  metadata := assemblyMetadata_fragmentHeader ccfg scfg sent role index offset
  count := by
    simpa [openAssembly, UdpFrameAssembly.fragmentCount, fragmentHeader] using hsend.count_lt
  length := by
    simpa [openAssembly, fragmentHeader] using hsend.length_lt
  offset := by simp [openAssembly, UdpFrameAssembly.Has, List.getElem?_replicate]
  size := by simp [openAssembly, UdpFrameAssembly.Has, List.getElem?_replicate]
  bytes := by simp [openAssembly, UdpFrameAssembly.Has, List.getElem?_replicate]
  parity := by simp [openAssembly]

/-- Placing a piece of the payload where it belongs. -/
theorem place (h : Carries ccfg scfg sent a) (hwf : a.WellFormed key)
    (hsend : Sendable scfg sent.frame) {index : ℕ}
    (hindex : index < fragmentCountSize scfg sent.frame) (recovered : Bool) :
    Carries ccfg scfg sent
      (a.place index (index * maxFragmentPayloadSize scfg)
        (fragmentPayload scfg sent.frame index).length
        (fragmentPayload scfg sent.frame index) recovered) := by
  have hlt : index < a.fragmentCount := h.count ▸ hindex
  have hinside : index * maxFragmentPayloadSize scfg +
      (fragmentPayload scfg sent.frame index).length ≤ a.payload.length :=
    (hsend.offset_add_length_le hindex).trans_eq h.length.symm
  constructor
  case metadata => exact h.metadata
  case count => rw [UdpFrameAssembly.place_fragmentCount, h.count]
  case length => rw [UdpFrameAssembly.length_place_payload hinside, h.length]
  case offset =>
    intro i hi
    rw [UdpFrameAssembly.getD_place_offsets (hwf.offsets ▸ hlt)]
    split
    · rename_i heq
      rw [heq]
    · rename_i hne
      exact h.offset i (((UdpFrameAssembly.has_place hlt i).mp hi).resolve_left hne)
  case size =>
    intro i hi
    rw [UdpFrameAssembly.getD_place_sizes (hwf.sizes ▸ hlt)]
    split
    · rename_i heq
      rw [heq]
    · rename_i hne
      exact h.size i (((UdpFrameAssembly.has_place hlt i).mp hi).resolve_left hne)
  case bytes =>
    intro p hp hi
    have hsize := hsend.maxFragmentPayloadSize_pos
    have hrange : p / maxFragmentPayloadSize scfg = index ↔ _ := div_eq_iff_inside hsize hp
    by_cases heq : p / maxFragmentPayloadSize scfg = index
    · -- the written range
      obtain ⟨hlo, hhi⟩ := hrange.mp heq
      have hoffset : p - index * maxFragmentPayloadSize scfg < maxFragmentPayloadSize scfg := by
        have hle := length_piece_le (maxFragmentPayloadSize scfg) sent.frame.payload index
        omega
      have hback : index * maxFragmentPayloadSize scfg +
          (p - index * maxFragmentPayloadSize scfg) = p := by omega
      rw [UdpFrameAssembly.place, getElem?_writeAt_inside hinside hlo hhi, fragmentPayload,
        getElem?_piece hoffset, hback]
    · -- any other position belongs to a fragment that was there before
      have hout : p < index * maxFragmentPayloadSize scfg ∨
          index * maxFragmentPayloadSize scfg +
            (fragmentPayload scfg sent.frame index).length ≤ p := by
        by_contra hin
        push Not at hin
        exact heq (hrange.mpr hin)
      rw [UdpFrameAssembly.place, getElem?_writeAt_outside hinside hout]
      exact h.bytes p hp (((UdpFrameAssembly.has_place hlt _).mp hi).resolve_left heq)
  case parity => exact h.parity

theorem storeFragment (h : Carries ccfg scfg sent a) (hwf : a.WellFormed key)
    (hsend : Sendable scfg sent.frame) {index : ℕ}
    (hindex : index < fragmentCountSize scfg sent.frame) (nowNs : ℕ) :
    Carries ccfg scfg sent
      (Client.storeFragment a (dataHeader scfg sent index)
        (fragmentPayload scfg sent.frame index) nowNs) := by
  have hplaced := h.place hwf hsend hindex false
  have hbody : (fragmentPayload scfg sent.frame index).length % 2 ^ 32 =
      (fragmentPayload scfg sent.frame index).length := by
    refine Nat.mod_eq_of_lt ?_
    have hinside := hsend.offset_add_length_le hindex
    have hlength := hsend.length_lt
    omega
  have hoffset : (dataHeader scfg sent index).fragmentOffset =
      index * maxFragmentPayloadSize scfg := Nat.mod_eq_of_lt (hsend.offset_lt hindex)
  rw [Client.storeFragment, hbody, hoffset]
  exact { hplaced with }

theorem storeParity (h : Carries ccfg scfg sent a) (nowNs : ℕ) :
    Carries ccfg scfg sent
      (Client.storeParity ccfg a
        (Lib.parity (maxFragmentPayloadSize scfg) sent.frame.payload) nowNs) := by
  unfold Client.storeParity
  split
  · exact { h with parity := fun _ => rfl }
  · exact { h with }

/-! ### Recovery -/

/-- A fragment that is there can be read off the payload. -/
theorem sliceAt_payload (h : Carries ccfg scfg sent a) (hsend : Sendable scfg sent.frame)
    {i : ℕ} (hi : a.Has i) :
    sliceAt a.payload (i * maxFragmentPayloadSize scfg)
      (fragmentPayload scfg sent.frame i).length = fragmentPayload scfg sent.frame i := by
  have hindex : i < fragmentCountSize scfg sent.frame := h.count ▸ hi.lt
  have hsize := hsend.maxFragmentPayloadSize_pos
  have hinside := hsend.offset_add_length_le hindex
  have hlength : (sliceAt a.payload (i * maxFragmentPayloadSize scfg)
      (fragmentPayload scfg sent.frame i).length).length =
      (fragmentPayload scfg sent.frame i).length :=
    length_sliceAt (hinside.trans_eq h.length.symm)
  apply List.ext_getElem?
  intro q
  by_cases hq : q < (fragmentPayload scfg sent.frame i).length
  · have hle := length_piece_le (maxFragmentPayloadSize scfg) sent.frame.payload i
    have hp : i * maxFragmentPayloadSize scfg + q < sent.frame.payload.length := by omega
    have hdiv : (i * maxFragmentPayloadSize scfg + q) / maxFragmentPayloadSize scfg = i :=
      (div_eq_iff_inside hsize hp).mpr ⟨by omega, by rw [fragmentPayload] at hq; omega⟩
    rw [getElem?_sliceAt hq, h.bytes _ hp (hdiv.symm ▸ hi), fragmentPayload,
      getElem?_piece (by rw [fragmentPayload] at hq; omega)]
  · rw [List.getElem?_eq_none (by omega), List.getElem?_eq_none (by omega)]

/-- The XOR loop accumulates the pieces that are there. -/
theorem xorReceivedFragments_eq (h : Carries ccfg scfg sent a)
    (hsend : Sendable scfg sent.frame) (indices : List ℕ) (acc : Bytes) :
    xorReceivedFragments a indices acc =
      some (((indices.filter fun i => decide (a.Has i)).map
        (fragmentPayload scfg sent.frame)).foldl xorInto acc) := by
  induction indices generalizing acc with
  | nil => rfl
  | cons i rest ih =>
      rw [xorReceivedFragments]
      by_cases hi : a.Has i
      · have hindex : i < fragmentCountSize scfg sent.frame := h.count ▸ hi.lt
        have hguard : ¬i * maxFragmentPayloadSize scfg +
            (fragmentPayload scfg sent.frame i).length > a.payload.length :=
          not_lt.mpr ((hsend.offset_add_length_le hindex).trans_eq h.length.symm)
        rw [if_pos (UdpFrameAssembly.getD_receivedFragments.mpr hi)]
        simp only [h.offset i hi, h.size i hi, if_neg hguard, h.sliceAt_payload hsend hi]
        rw [ih, List.filter_cons_of_pos (by simpa using hi), List.map_cons, List.foldl_cons]
      · rw [if_neg (by rwa [UdpFrameAssembly.getD_receivedFragments]), ih,
          List.filter_cons_of_neg (by simpa using hi)]

/-- The hole is located by its neighbours exactly where the fragment was cut out. -/
theorem missingOffset_eq (h : Carries ccfg scfg sent a) (hsend : Sendable scfg sent.frame)
    {missing : ℕ} (hmissing : a.missingFragments = [missing]) :
    missingOffset a missing = missing * maxFragmentPayloadSize scfg := by
  obtain ⟨hlt, -⟩ := UdpFrameAssembly.missing_of_missingFragments_singleton hmissing
  rw [h.count] at hlt
  unfold missingOffset
  split
  · rename_i hpos
    have hprev : a.Has (missing - 1) :=
      UdpFrameAssembly.has_of_missingFragments_singleton hmissing
        (by rw [h.count]; omega) (by omega)
    have hfull : (fragmentPayload scfg sent.frame (missing - 1)).length =
        maxFragmentPayloadSize scfg :=
      length_piece_of_succ_lt hsend.maxFragmentPayloadSize_pos (by
        have hsucc : missing - 1 + 1 = missing := by omega
        rw [hsucc]
        exact hlt)
    have hsum : (missing - 1) * maxFragmentPayloadSize scfg + maxFragmentPayloadSize scfg =
        missing * maxFragmentPayloadSize scfg := by
      rw [← Nat.succ_mul, Nat.succ_eq_add_one, Nat.sub_add_cancel hpos]
    rw [h.offset _ hprev, h.size _ hprev, hfull, hsum, Nat.mod_eq_of_lt (hsend.offset_lt hlt)]
  · have hzero : missing = 0 := by omega
    rw [hzero, Nat.zero_mul]

/-- Its size, inferred from the next fragment or from the end of the frame, is the
size of the missing piece. -/
theorem missingSize_eq (h : Carries ccfg scfg sent a) (hsend : Sendable scfg sent.frame)
    {missing : ℕ} (hmissing : a.missingFragments = [missing]) :
    missingSize a missing = some (fragmentPayload scfg sent.frame missing).length := by
  obtain ⟨hlt, -⟩ := UdpFrameAssembly.missing_of_missingFragments_singleton hmissing
  have hindex : missing < fragmentCountSize scfg sent.frame := h.count ▸ hlt
  have hsize := hsend.maxFragmentPayloadSize_pos
  have hlast := h.count
  rw [UdpFrameAssembly.fragmentCount] at hlast
  simp only [missingSize, h.missingOffset_eq hsend hmissing, hlast]
  split
  · -- an inner hole ends where the next fragment starts
    rename_i hinner
    have hnext : a.Has (missing + 1) :=
      UdpFrameAssembly.has_of_missingFragments_singleton hmissing
        (by rw [h.count]; exact hinner) (by omega)
    rw [h.offset _ hnext, Nat.succ_mul, if_neg (by omega), Nat.add_sub_cancel_left]
    rw [fragmentPayload, length_piece_of_succ_lt hsize hinner]
  · -- the last hole reaches the end of the frame
    rename_i hend
    have hstop : missing + 1 = pieceCount (maxFragmentPayloadSize scfg)
        sent.frame.payload.length := by
      have heq : fragmentCountSize scfg sent.frame = pieceCount (maxFragmentPayloadSize scfg)
        sent.frame.payload.length := rfl
      omega
    have hle := mul_le_length hsize hindex
    have hlength := hsend.length_lt
    rw [h.length, if_pos hle, fragmentPayload, length_piece_last hsize hstop,
      Nat.mod_eq_of_lt (by omega)]

/-- What a successful recovery reconstructs is the missing piece, byte for byte, at
its own offset. -/
theorem recovery_eq (h : Carries ccfg scfg sent a) (hsend : Sendable scfg sent.frame)
    (hparity : a.hasFecPayload = true) {missing offset size : ℕ} {bytes : Bytes}
    (hrec : Recovery a missing offset size bytes) :
    missing < fragmentCountSize scfg sent.frame ∧
      offset = missing * maxFragmentPayloadSize scfg ∧
      size = (fragmentPayload scfg sent.frame missing).length ∧
      bytes = fragmentPayload scfg sent.frame missing := by
  obtain ⟨hlt, hnot⟩ := UdpFrameAssembly.missing_of_missingFragments_singleton hrec.missing_eq
  have hindex : missing < fragmentCountSize scfg sent.frame := h.count ▸ hlt
  have hsizeEq := hrec.size_eq
  rw [h.missingSize_eq hsend hrec.missing_eq, Option.some.injEq] at hsizeEq
  refine ⟨hindex, hrec.offset_eq.trans (h.missingOffset_eq hsend hrec.missing_eq),
    hsizeEq.symm, ?_⟩
  obtain ⟨whole, hwhole, hbytes⟩ := hrec.bytes_eq
  have hcount := h.count
  rw [UdpFrameAssembly.fragmentCount] at hcount
  have hothers : (List.range a.receivedFragments.length).filter (fun i => decide (a.Has i)) =
      (List.range (fragmentCountSize scfg sent.frame)).filter
        fun i => decide (i ≠ missing) := by
    rw [hcount]
    refine List.filter_congr fun i hi => ?_
    have hi : i < a.fragmentCount := h.count ▸ List.mem_range.mp hi
    rw [decide_eq_decide]
    constructor
    · rintro hhas rfl
      exact hnot hhas
    · exact UdpFrameAssembly.has_of_missingFragments_singleton hrec.missing_eq hi
  rw [h.xorReceivedFragments_eq hsend, hothers, h.parity hparity, Option.some.injEq] at hwhole
  rw [hbytes, ← hsizeEq, ← hwhole]
  exact take_parity_xor_others hindex

/-! ### A finished assembly -/

theorem payload_eq (h : Carries ccfg scfg sent a) (hwf : a.WellFormed key)
    (hsend : Sendable scfg sent.frame) (hcomplete : a.complete = true) :
    a.payload = sent.frame.payload := by
  apply List.ext_getElem?
  intro p
  by_cases hp : p < sent.frame.payload.length
  · have hpiece := div_lt_pieceCount hsend.maxFragmentPayloadSize_pos hp
    exact h.bytes p hp (hwf.complete_iff.mp hcomplete _ (h.count ▸ hpiece))
  · rw [List.getElem?_eq_none (by rw [h.length]; omega), List.getElem?_eq_none (by omega)]

end Carries

end AvProject.Udp
