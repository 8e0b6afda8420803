import AvProject.Client.UdpReceiver

/-!
Assemblies of UDP frames: which fragments are there, what the validity checks of
a datagram ensure, what recovery does when it succeeds, and the representation
invariant of one assembly under each update.
-/

namespace AvProject.Client

open AvProject.Lib AvProject.Protocol

/-! ### Fragments that have arrived -/

namespace UdpFrameAssembly

/-- The fragment at `index` has been received or recovered. -/
def Has (a : UdpFrameAssembly) (index : ℕ) : Prop := a.receivedFragments[index]? = some true

instance (a : UdpFrameAssembly) (index : ℕ) : Decidable (a.Has index) :=
  inferInstanceAs (Decidable (_ = _))

/-- The number of fragments of the frame. -/
def fragmentCount (a : UdpFrameAssembly) : ℕ := a.receivedFragments.length

theorem Has.lt {a : UdpFrameAssembly} {index : ℕ} (h : a.Has index) :
    index < a.fragmentCount :=
  (List.getElem?_eq_some_iff.mp h).1

theorem getD_receivedFragments {a : UdpFrameAssembly} {index : ℕ} :
    a.receivedFragments.getD index false = true ↔ a.Has index := by
  rw [Has, List.getD_eq_getElem?_getD]
  cases a.receivedFragments[index]? <;> simp

theorem mem_missingFragments {a : UdpFrameAssembly} {index : ℕ} :
    index ∈ a.missingFragments ↔ index < a.fragmentCount ∧ ¬a.Has index := by
  rw [missingFragments, List.mem_filter, List.mem_range, ← getD_receivedFragments]
  simp [fragmentCount]

/-- With exactly one fragment missing all others are there. -/
theorem has_of_missingFragments_singleton {a : UdpFrameAssembly} {missing index : ℕ}
    (h : a.missingFragments = [missing]) (hlt : index < a.fragmentCount)
    (hne : index ≠ missing) : a.Has index := by
  by_contra hnot
  have hmem : index ∈ a.missingFragments := mem_missingFragments.mpr ⟨hlt, hnot⟩
  rw [h] at hmem
  exact hne (by simpa using hmem)

theorem missing_of_missingFragments_singleton {a : UdpFrameAssembly} {missing : ℕ}
    (h : a.missingFragments = [missing]) : missing < a.fragmentCount ∧ ¬a.Has missing :=
  mem_missingFragments.mp (by simp [h])

theorem missingFragments_eq_singleton {a : UdpFrameAssembly} {missing : ℕ}
    (hlt : missing < a.fragmentCount) (hmissing : ¬a.Has missing)
    (hothers : ∀ index, index < a.fragmentCount → index ≠ missing → a.Has index) :
    a.missingFragments = [missing] := by
  have hnodup : a.missingFragments.Nodup := List.nodup_range.filter _
  have hperm : a.missingFragments.Perm [missing] := by
    rw [List.perm_ext_iff_of_nodup hnodup (List.nodup_singleton _)]
    intro index
    rw [mem_missingFragments, List.mem_singleton]
    constructor
    · rintro ⟨hindex, hnot⟩
      by_contra hne
      exact hnot (hothers index hindex hne)
    · rintro rfl
      exact ⟨hlt, hmissing⟩
  exact List.perm_singleton.mp hperm

/-! ### Placing a fragment -/

@[simp] theorem place_metadata (a : UdpFrameAssembly) (index offset size : ℕ) (bytes : Bytes)
    (recovered : Bool) : (a.place index offset size bytes recovered).metadata = a.metadata := rfl

@[simp] theorem place_fragmentCount (a : UdpFrameAssembly) (index offset size : ℕ)
    (bytes : Bytes) (recovered : Bool) :
    (a.place index offset size bytes recovered).fragmentCount = a.fragmentCount := by
  simp [place, fragmentCount]

theorem length_place_payload {a : UdpFrameAssembly} {index offset size : ℕ} {bytes : Bytes}
    {recovered : Bool} (h : offset + bytes.length ≤ a.payload.length) :
    (a.place index offset size bytes recovered).payload.length = a.payload.length :=
  length_writeAt h

theorem has_place {a : UdpFrameAssembly} {index offset size : ℕ} {bytes : Bytes}
    {recovered : Bool} (hindex : index < a.fragmentCount) (i : ℕ) :
    (a.place index offset size bytes recovered).Has i ↔ i = index ∨ a.Has i := by
  simp only [Has, place]
  by_cases heq : i = index
  · subst heq
    simp [List.getElem?_set_self hindex]
  · simp [heq, Ne.symm heq]

theorem has_storeFragment {a : UdpFrameAssembly} {fragment : UdpFrameFragmentHeader}
    {body : Bytes} {nowNs : ℕ} (hindex : fragment.fragmentIndex < a.fragmentCount) (i : ℕ) :
    (storeFragment a fragment body nowNs).Has i ↔ i = fragment.fragmentIndex ∨ a.Has i := by
  have hplace : (a.place fragment.fragmentIndex fragment.fragmentOffset (body.length % 2 ^ 32)
      body false).Has i ↔ i = fragment.fragmentIndex ∨ a.Has i := has_place hindex i
  exact hplace

/-- Offset and size recorded for a fragment. -/
theorem getD_place_offsets {a : UdpFrameAssembly} {index offset size : ℕ} {bytes : Bytes}
    {recovered : Bool} (hindex : index < a.fragmentOffsets.length) (i : ℕ) :
    (a.place index offset size bytes recovered).fragmentOffsets.getD i 0 =
      if i = index then offset else a.fragmentOffsets.getD i 0 := by
  by_cases heq : i = index
  · subst heq
    simp [place, List.getD_eq_getElem?_getD, List.getElem?_set_self hindex]
  · simp [place, List.getD_eq_getElem?_getD, heq, Ne.symm heq]

theorem getD_place_sizes {a : UdpFrameAssembly} {index offset size : ℕ} {bytes : Bytes}
    {recovered : Bool} (hindex : index < a.fragmentPayloadSizes.length) (i : ℕ) :
    (a.place index offset size bytes recovered).fragmentPayloadSizes.getD i 0 =
      if i = index then size else a.fragmentPayloadSizes.getD i 0 := by
  by_cases heq : i = index
  · subst heq
    simp [place, List.getD_eq_getElem?_getD, List.getElem?_set_self hindex]
  · simp [place, List.getD_eq_getElem?_getD, heq, Ne.symm heq]

/-! ### The representation invariant -/

/-- The representation invariant of the assembly stored under `key`. -/
structure WellFormed (a : UdpFrameAssembly) (key : ℕ) : Prop where
  sequence : a.metadata.sequence = key
  offsets : a.fragmentOffsets.length = a.receivedFragments.length
  sizes : a.fragmentPayloadSizes.length = a.receivedFragments.length
  nonempty : 0 < a.receivedFragments.length
  count : a.receivedFragmentCount = a.receivedFragments.count true
  bounded : a.payload.length < 2 ^ 32
  inside : ∀ i, a.Has i →
    a.fragmentOffsets.getD i 0 + a.fragmentPayloadSizes.getD i 0 ≤ a.payload.length

namespace WellFormed

variable {a : UdpFrameAssembly} {key : ℕ}

/-- No fragment is counted that the frame does not have. -/
theorem count_le (h : a.WellFormed key) : a.receivedFragmentCount ≤ a.fragmentCount :=
  h.count ▸ List.count_le_length

/-- The frame is finished exactly when every fragment is there. -/
theorem complete_iff (h : a.WellFormed key) :
    a.complete = true ↔ ∀ i, i < a.fragmentCount → a.Has i := by
  rw [complete, beq_iff_eq, h.count, List.count_eq_length]
  constructor
  · intro hall i hi
    rw [Has, List.getElem?_eq_getElem hi, ← hall _ (List.getElem_mem hi)]
  · intro hall b hb
    obtain ⟨i, hi, rfl⟩ := List.mem_iff_getElem.mp hb
    have hhas := hall i hi
    rw [Has, List.getElem?_eq_getElem hi, Option.some.injEq] at hhas
    exact hhas.symm

theorem place (h : a.WellFormed key) {index offset size : ℕ} {bytes : Bytes}
    {recovered : Bool} (hindex : index < a.fragmentCount) (hnew : ¬a.Has index)
    (hsize : size = bytes.length) (hinside : offset + bytes.length ≤ a.payload.length) :
    (a.place index offset size bytes recovered).WellFormed key where
  sequence := h.sequence
  offsets := by simp [UdpFrameAssembly.place, h.offsets]
  sizes := by simp [UdpFrameAssembly.place, h.sizes]
  nonempty := by simpa [UdpFrameAssembly.place] using h.nonempty
  count := by
    have hlt : index < a.receivedFragments.length := hindex
    have hfalse : a.receivedFragments[index] = false := by
      rw [Has, List.getElem?_eq_getElem hlt] at hnew
      simpa using hnew
    simp [UdpFrameAssembly.place, h.count, List.count_set hlt, hfalse]
  bounded := by
    rw [length_place_payload hinside]
    exact h.bounded
  inside := by
    intro i hi
    rw [length_place_payload hinside, getD_place_offsets (h.offsets ▸ hindex),
      getD_place_sizes (h.sizes ▸ hindex)]
    rcases (has_place hindex i).mp hi with heq | hold
    · simp only [if_pos heq]
      omega
    · by_cases heq : i = index
      · simp only [if_pos heq]
        omega
      · simp only [if_neg heq]
        exact h.inside i hold

end WellFormed

end UdpFrameAssembly

/-! ### Datagrams that pass the checks -/

/-- What the checks of `processUdpDatagram` ensure of a datagram. -/
structure ValidFragment (fragment : UdpFrameFragmentHeader) (body : Bytes) : Prop where
  fits : fragment.Fits
  count_pos : 0 < fragment.fragmentCount
  role : fragment.fragmentRole = UdpFragmentRole.kData.code ∨
    fragment.fragmentRole = UdpFragmentRole.kXorParity.code
  index_lt : fragment.fragmentRole = UdpFragmentRole.kData.code →
    fragment.fragmentIndex < fragment.fragmentCount
  inside : fragment.fragmentRole = UdpFragmentRole.kData.code →
    fragment.fragmentOffset + body.length ≤ fragment.framePayloadSize

theorem parseUdpDatagram_valid {data : Bytes} {header : MessageHeader}
    {fragment : UdpFrameFragmentHeader} {body : Bytes}
    (h : parseUdpDatagram data = some (header, fragment, body)) :
    ValidFragment fragment body := by
  unfold parseUdpDatagram at h
  split at h
  · simp at h
  · simp only at h
    split at h
    · rename_i haccept
      simp only [Option.some.injEq, Prod.mk.injEq] at h
      obtain ⟨rfl, rfl, rfl⟩ := h
      simp only [acceptsFragment, Bool.and_eq_true, Bool.not_eq_true', Bool.or_eq_false_iff,
        beq_eq_false_iff_ne, decide_eq_false_iff_not, Bool.and_eq_false_iff, not_lt,
        ge_iff_le, gt_iff_lt, not_le, UdpFragmentRole.code] at haccept
      obtain ⟨-, ⟨⟨⟨hcount, hrole⟩, hindex⟩, -⟩, hinside⟩ := haccept
      refine ⟨UdpFrameFragmentHeader.ofBytes_fits _, by omega, ?_, fun hdata => ?_,
        fun hdata => ?_⟩
      · simp only [UdpFragmentRole.code]
        omega
      · exact hindex.resolve_left (not_not.mpr hdata)
      · exact hinside.resolve_left (not_not.mpr hdata)
    · simp at h

/-- A new assembly has the layout of its fragment. -/
theorem openAssembly_layout (cfg : ClientConfig) (header : MessageHeader)
    (fragment : UdpFrameFragmentHeader) (nowNs : ℕ) :
    (openAssembly cfg none header fragment nowNs).receivedFragments.length =
        fragment.fragmentCount ∧
      (openAssembly cfg none header fragment nowNs).payload.length = fragment.framePayloadSize :=
  ⟨List.length_replicate, List.length_replicate⟩

namespace UdpFrameAssembly.WellFormed

variable {a : UdpFrameAssembly} {key : ℕ} {fragment : UdpFrameFragmentHeader} {body : Bytes}

/-- The assembly that the first datagram of a frame sets up. -/
theorem opened (hvalid : ValidFragment fragment body) (cfg : ClientConfig)
    (header : MessageHeader) (nowNs : ℕ) :
    (openAssembly cfg none header fragment nowNs).WellFormed fragment.frameSequence := by
  have hnot (i : ℕ) : ¬(openAssembly cfg none header fragment nowNs).Has i := by
    simp [openAssembly, Has, List.getElem?_replicate]
  constructor
  case sequence => rfl
  case offsets => simp [openAssembly]
  case sizes => simp [openAssembly]
  case nonempty => simpa [openAssembly] using hvalid.count_pos
  case count => simp [openAssembly, List.count_replicate]
  case bounded => simpa [openAssembly] using hvalid.fits.framePayloadSize
  case inside => exact fun i hi => absurd hi (hnot i)

/-- An assembly that exists is used as it is. -/
theorem openAssembly_some (h : a.WellFormed key) (cfg : ClientConfig)
    (header : MessageHeader) (fragment : UdpFrameFragmentHeader) (nowNs : ℕ) :
    openAssembly cfg (some a) header fragment nowNs = a := by
  have hne : a.receivedFragments.isEmpty = false := by
    simpa [List.isEmpty_iff, ← List.length_pos_iff] using h.nonempty
  simp [openAssembly, hne]

theorem storeParity (h : a.WellFormed key) (cfg : ClientConfig) (body : Bytes) (nowNs : ℕ) :
    (Client.storeParity cfg a body nowNs).WellFormed key := by
  unfold Client.storeParity
  split <;> exact { h with }

theorem storeFragment (h : a.WellFormed key) (hvalid : ValidFragment fragment body)
    (hdata : fragment.fragmentRole = UdpFragmentRole.kData.code)
    (hcount : a.receivedFragments.length = fragment.fragmentCount)
    (hpayload : a.payload.length = fragment.framePayloadSize)
    (hnew : ¬a.Has fragment.fragmentIndex) (nowNs : ℕ) :
    (Client.storeFragment a fragment body nowNs).WellFormed key := by
  have hindex : fragment.fragmentIndex < a.fragmentCount :=
    (hvalid.index_lt hdata).trans_eq hcount.symm
  have hinside : fragment.fragmentOffset + body.length ≤ a.payload.length :=
    (hvalid.inside hdata).trans_eq hpayload.symm
  have hbody : body.length % 2 ^ 32 = body.length :=
    Nat.mod_eq_of_lt (by have := h.bounded; omega)
  have hplaced : (a.place fragment.fragmentIndex fragment.fragmentOffset
      (body.length % 2 ^ 32) body false).WellFormed key :=
    h.place hindex hnew hbody hinside
  exact { hplaced with }

/-- The fields that a NACK request updates do not matter. -/
theorem retried (h : a.WellFormed key) (nowNs attempts : ℕ) :
    ({ a with lastNackTimestampNs := nowNs, nackAttempts := attempts } :
      UdpFrameAssembly).WellFormed key :=
  { h with }

end UdpFrameAssembly.WellFormed

/-! ### Recovery -/

/-- What a successful recovery has found and done. -/
structure Recovery (a : UdpFrameAssembly) (missing offset size : ℕ) (bytes : Bytes) : Prop where
  missing_eq : a.missingFragments = [missing]
  offset_eq : offset = missingOffset a missing
  size_eq : missingSize a missing = some size
  size_pos : 0 < size
  size_le : size ≤ a.fecPayload.length
  inside : offset + size ≤ a.payload.length
  bytes_eq : ∃ whole, xorReceivedFragments a (List.range a.receivedFragments.length)
    a.fecPayload = some whole ∧ bytes = whole.take size
  length_bytes : bytes.length = size

theorem le_length_xorReceivedFragments {a : UdpFrameAssembly} {indices : List ℕ}
    {acc whole : Bytes} (h : xorReceivedFragments a indices acc = some whole) :
    acc.length ≤ whole.length := by
  induction indices generalizing acc with
  | nil =>
      simp only [xorReceivedFragments, Option.some.injEq] at h
      rw [h]
  | cons i rest ih =>
      simp only [xorReceivedFragments] at h
      split at h
      · split at h
        · simp at h
        · exact (by simp : acc.length ≤ (xorInto acc _).length).trans (ih h)
      · exact ih h

/-- The two ways `maybeRecoverWithUdpFec` can end. -/
theorem maybeRecoverWithUdpFec_cases (cfg : ClientConfig) (a : UdpFrameAssembly) :
    ((maybeRecoverWithUdpFec cfg a).recovered = false ∧
      (maybeRecoverWithUdpFec cfg a).assembly = a) ∨
    ((maybeRecoverWithUdpFec cfg a).recovered = true ∧
      cfg.udpFecEnabled = true ∧ a.hasFecPayload = true ∧ a.fecPayloadTimestampNs ≠ 0 ∧
      ∃ missing offset size bytes, Recovery a missing offset size bytes ∧
        (maybeRecoverWithUdpFec cfg a).assembly = a.place missing offset size bytes true) := by
  unfold maybeRecoverWithUdpFec
  split
  · exact .inl ⟨rfl, rfl⟩
  rename_i hguard
  split
  · rename_i missing hmissing
    split
    · exact .inl ⟨rfl, rfl⟩
    rename_i size hsize
    simp only
    split
    · exact .inl ⟨rfl, rfl⟩
    rename_i hfits
    split
    · exact .inl ⟨rfl, rfl⟩
    rename_i whole hwhole
    refine .inr ⟨rfl, ?_⟩
    simp only [Bool.or_eq_true, Bool.not_eq_true', not_or, Bool.not_eq_false,
      beq_iff_eq] at hguard
    push Not at hfits
    have hlen := le_length_xorReceivedFragments hwhole
    refine ⟨hguard.1.1.1.1, hguard.1.1.1.2, hguard.1.1.2, missing, _, size, _, ?_, rfl⟩
    exact
      { missing_eq := hmissing
        offset_eq := rfl
        size_eq := hsize
        size_pos := by omega
        size_le := hfits.2.1
        inside := hfits.2.2
        bytes_eq := ⟨whole, hwhole, rfl⟩
        length_bytes := by
          rw [List.length_take]
          omega }
  · exact .inl ⟨rfl, rfl⟩

namespace UdpFrameAssembly.WellFormed

variable {a : UdpFrameAssembly} {key : ℕ}

theorem place_recovery (h : a.WellFormed key) {missing offset size : ℕ} {bytes : Bytes}
    (hrec : Recovery a missing offset size bytes) :
    (a.place missing offset size bytes true).WellFormed key := by
  obtain ⟨hlt, hnot⟩ := missing_of_missingFragments_singleton hrec.missing_eq
  exact h.place hlt hnot hrec.length_bytes.symm (hrec.length_bytes ▸ hrec.inside)

/-- Recovery finishes the frame. -/
theorem complete_place_recovery (h : a.WellFormed key) {missing offset size : ℕ}
    {bytes : Bytes} (hrec : Recovery a missing offset size bytes) :
    (a.place missing offset size bytes true).complete = true := by
  obtain ⟨hlt, -⟩ := missing_of_missingFragments_singleton hrec.missing_eq
  rw [(h.place_recovery hrec).complete_iff]
  intro i hi
  rw [place_fragmentCount] at hi
  rw [has_place hlt]
  by_cases hmissing : i = missing
  · exact .inl hmissing
  · exact .inr (has_of_missingFragments_singleton hrec.missing_eq hi hmissing)

/-- Recovery keeps the invariant. -/
theorem recovered (h : a.WellFormed key) (cfg : ClientConfig) :
    (maybeRecoverWithUdpFec cfg a).assembly.WellFormed key := by
  rcases maybeRecoverWithUdpFec_cases cfg a with
    ⟨-, heq⟩ | ⟨-, -, -, -, missing, offset, size, bytes, hrec, heq⟩
  · rwa [heq]
  · rw [heq]
    exact h.place_recovery hrec

/-- All reads of the XOR loop are guarded. -/
theorem xorReceivedChecks_holds (a : UdpFrameAssembly) (indices : List ℕ) :
    ∀ c ∈ xorReceivedChecks a indices, c.Holds := by
  induction indices with
  | nil => simp [xorReceivedChecks]
  | cons i rest ih =>
      simp only [xorReceivedChecks]
      split
      · split
        · simp
        · rename_i hle
          intro c hc
          rcases List.mem_cons.mp hc with rfl | hin
          · exact not_lt.mp hle
          · exact ih c hin
      · exact ih

/-- The fragment before the hole is there, so it ends inside the payload. -/
theorem missingOffsetChecks_holds (h : a.WellFormed key) {missing : ℕ}
    (hmissing : a.missingFragments = [missing]) :
    ∀ c ∈ missingOffsetChecks a missing, c.Holds := by
  intro c hc
  unfold missingOffsetChecks at hc
  split at hc
  · rename_i hpos
    obtain rfl := List.mem_singleton.mp hc
    have hlt := (missing_of_missingFragments_singleton hmissing).1
    have hhas : a.Has (missing - 1) :=
      has_of_missingFragments_singleton hmissing (by omega) (by omega)
    exact (h.inside _ hhas).trans_lt h.bounded
  · simp at hc

/-- Recovery reads and writes inside its buffers and no offset sum wraps. -/
theorem maybeRecoverWithUdpFec_checks (h : a.WellFormed key) (cfg : ClientConfig) :
    ∀ c ∈ (maybeRecoverWithUdpFec cfg a).checks, c.Holds := by
  unfold maybeRecoverWithUdpFec
  split
  · simp
  split
  · rename_i missing hmissing
    have hsums := h.missingOffsetChecks_holds hmissing
    have hreads : ∀ c ∈ missingOffsetChecks a missing ++
        xorReceivedChecks a (List.range a.receivedFragments.length), c.Holds :=
      List.forall_mem_append.mpr ⟨hsums, xorReceivedChecks_holds a _⟩
    simp only
    split
    · exact hsums
    rename_i size hsize
    split
    · exact hsums
    rename_i hfits
    split
    · exact hreads
    rename_i whole hwhole
    push Not at hfits
    have hlen := le_length_xorReceivedFragments hwhole
    refine List.forall_mem_append.mpr ⟨hreads, ?_⟩
    simp only [List.forall_mem_cons, RuntimeCheck.Holds]
    exact ⟨hfits.2.2, by omega, by simp⟩
  · simp

end UdpFrameAssembly.WellFormed

end AvProject.Client
