import AvProject.Client.UdpInvariant

/-!
What holds of the assemblies whatever is received: the representation invariant
with the safety of all buffer accesses, and what a completed frame is made of.
-/

namespace AvProject.Client

open AvProject.Lib AvProject.Protocol

/-! ### Representation -/

theorem wellFormedRules (cfg : ClientConfig) :
    AssemblyRules cfg (fun _ _ _ => True) (fun key a => a.WellFormed key) (fun _ => True)
      (fun _ => True) where
  wellFormed := id
  opened nowNs _ hvalid := UdpFrameAssembly.WellFormed.opened hvalid cfg _ nowNs
  parity nowNs _ _ _ _ _ h := h.storeParity cfg _ nowNs
  data nowNs _ hvalid hdata hcount hpayload hnew h :=
    h.storeFragment hvalid hdata hcount hpayload hnew nowNs
  recovered _ _ hrec h := h.place_recovery hrec
  retried nowNs attempts h := h.retried nowNs attempts
  finished _ _ _ := ⟨trivial, trivial⟩

theorem allowsOperation_true (op : UdpOperation) :
    ReceiverInv.AllowsOperation (fun _ _ _ => True) op := by
  cases op <;> simp [ReceiverInv.AllowsOperation]

theorem StreamClient.Reachable.receiverInv {env : ClientEnv} {cfg : ClientConfig}
    {st : StreamClient} (h : st.Reachable env cfg) :
    ReceiverInv (fun key a => a.WellFormed key) (fun _ => True) (fun _ => True) st := by
  obtain ⟨ops, rfl⟩ := h
  exact ((ReceiverInv.connected cfg).runOperations (wellFormedRules cfg) env ops
    fun op _ => allowsOperation_true op).1

/-- After every run, over datagrams of arbitrary bytes, each assembly satisfies
the representation invariant and is not among the recently completed ones; all
buffer accesses were inside their buffers, no 32-bit sum wrapped and no
subtraction underflowed. -/
theorem runOperations_wellFormed (env : ClientEnv) (cfg : ClientConfig)
    (ops : List UdpOperation) :
    (∀ (key : ℕ) (a : UdpFrameAssembly),
      (runOperations env cfg (StreamClient.connected cfg) ops).1.udpAssemblies[key]? = some a →
      a.WellFormed key ∧ key ∉ (runOperations env cfg
        (StreamClient.connected cfg) ops).1.recentlyCompletedUdpSequences) ∧
    ∀ c ∈ (runOperations env cfg (StreamClient.connected cfg) ops).1.history.checks,
      c.Holds := by
  have hinv := StreamClient.Reachable.receiverInv (⟨ops, rfl⟩ : (runOperations env cfg
    (StreamClient.connected cfg) ops).1.Reachable env cfg)
  exact ⟨fun key a ha => ⟨hinv.assemblies key a ha, hinv.notRecent key a ha⟩, hinv.checks⟩

/-! ### What a completed frame is made of -/

/-- Offset and bytes of a write. -/
def PayloadWrite.block (w : PayloadWrite) : ℕ × Bytes := (w.offset, w.bytes)

/-- The write copied the body of a processed data fragment of frame `key` with the
given layout, or it was a recovery. -/
def PayloadWrite.FromOperations (cfg : ClientConfig) (ops : List UdpOperation)
    (key count size : ℕ) (w : PayloadWrite) : Prop :=
  if w.recovered then cfg.udpFecEnabled = true
  else
    ∃ data nowNs deferReadyPop header fragment,
      .processUdpDatagram data nowNs deferReadyPop ∈ ops ∧
      parseUdpDatagram data = some (header, fragment, w.bytes) ∧
      fragment.fragmentRole = UdpFragmentRole.kData.code ∧
      fragment.frameSequence = key ∧
      fragment.fragmentCount = count ∧ fragment.framePayloadSize = size ∧
      fragment.fragmentIndex = w.index ∧ fragment.fragmentOffset = w.offset

/-- The payload is what the recorded writes made of a zeroed buffer, one write
for each fragment that is there. -/
structure UdpFrameAssembly.Written (cfg : ClientConfig) (ops : List UdpOperation) (key : ℕ)
    (a : UdpFrameAssembly) : Prop where
  payload : a.payload =
    writeAll (List.replicate a.payload.length 0) (a.writes.map PayloadWrite.block)
  inside : ∀ w ∈ a.writes, w.offset + w.bytes.length ≤ a.payload.length
  nodup : (a.writes.map PayloadWrite.index).Nodup
  mem : ∀ i, a.Has i ↔ i ∈ a.writes.map PayloadWrite.index
  sources : ∀ w ∈ a.writes, w.FromOperations cfg ops key a.fragmentCount a.payload.length

namespace UdpFrameAssembly.Written

variable {cfg : ClientConfig} {ops : List UdpOperation} {key : ℕ} {a : UdpFrameAssembly}

theorem opened {fragment : UdpFrameFragmentHeader} (header : MessageHeader) (nowNs : ℕ) :
    (openAssembly cfg none header fragment nowNs).Written cfg ops key := by
  constructor <;> simp [openAssembly, Has, List.getElem?_replicate]

theorem place (h : a.Written cfg ops key) {index offset size : ℕ} {bytes : Bytes}
    {recovered : Bool} (hindex : index < a.fragmentCount) (hnew : ¬a.Has index)
    (hinside : offset + bytes.length ≤ a.payload.length)
    (hsource : PayloadWrite.FromOperations cfg ops key a.fragmentCount a.payload.length
      { index := index, offset := offset, bytes := bytes, recovered := recovered }) :
    (a.place index offset size bytes recovered).Written cfg ops key := by
  have hlength : (a.place index offset size bytes recovered).payload.length =
      a.payload.length := length_place_payload hinside
  constructor
  case payload =>
    rw [hlength]
    simp only [UdpFrameAssembly.place, List.map_append, List.map_cons, List.map_nil]
    rw [writeAll_append_singleton, ← h.payload]
    rfl
  case inside =>
    rw [hlength]
    exact List.forall_mem_append.mpr ⟨h.inside, by simpa using hinside⟩
  case nodup =>
    simp only [UdpFrameAssembly.place, List.map_append, List.map_cons, List.map_nil]
    refine List.nodup_append.mpr ⟨h.nodup, by simp, fun x hx y hy heq => ?_⟩
    obtain rfl := List.mem_singleton.mp hy
    exact hnew ((h.mem _).mpr (heq ▸ hx))
  case mem =>
    intro i
    rw [has_place hindex, h.mem]
    simp [UdpFrameAssembly.place, or_comm]
  case sources =>
    rw [hlength, place_fragmentCount]
    exact List.forall_mem_append.mpr ⟨h.sources, by simpa using hsource⟩

theorem storeParity (h : a.Written cfg ops key) (cfg' : ClientConfig) (body : Bytes)
    (nowNs : ℕ) : (Client.storeParity cfg' a body nowNs).Written cfg ops key := by
  unfold Client.storeParity
  split <;> exact { h with }

/-- Every fragment of a finished frame has been written exactly once. -/
theorem perm_range (h : a.Written cfg ops key) (hwf : a.WellFormed key)
    (hcomplete : a.complete = true) :
    (a.writes.map PayloadWrite.index).Perm (List.range a.fragmentCount) := by
  rw [List.perm_ext_iff_of_nodup h.nodup List.nodup_range]
  intro i
  rw [← h.mem, List.mem_range]
  exact ⟨Has.lt, hwf.complete_iff.mp hcomplete i⟩

/-- A byte of the payload comes from a write that reaches it, or no write does
and it is zero. -/
theorem getElem?_payload (h : a.Written cfg ops key) {p : ℕ} (hp : p < a.payload.length) :
    (∃ w ∈ a.writes, Covers w.block p ∧ a.payload[p]? = w.bytes[p - w.offset]?) ∨
      ((∀ w ∈ a.writes, ¬Covers w.block p) ∧ a.payload[p]? = some 0) := by
  have hinside : ∀ b ∈ a.writes.map PayloadWrite.block,
      b.1 + b.2.length ≤ (List.replicate a.payload.length (0 : UInt8)).length := by
    simpa [PayloadWrite.block] using h.inside
  by_cases hcov : ∃ b ∈ a.writes.map PayloadWrite.block, Covers b p
  · left
    obtain ⟨b, hb, hcov, hbyte⟩ := getElem?_writeAll_covered hinside hcov
    obtain ⟨w, hw, rfl⟩ := List.mem_map.mp hb
    rw [← h.payload] at hbyte
    exact ⟨w, hw, hcov, hbyte⟩
  · right
    push Not at hcov
    have hbyte := getElem?_writeAll_uncovered hinside hcov
    rw [← h.payload] at hbyte
    exact ⟨fun w hw => hcov _ (List.mem_map_of_mem hw), by simpa [hp] using hbyte⟩

end UdpFrameAssembly.Written

/-- What the history says about one completed frame. -/
structure CompletedFrame.MadeOfFragments (cfg : ClientConfig) (ops : List UdpOperation)
    (c : CompletedFrame) : Prop where
  sources : ∀ w ∈ c.assembly.writes,
    w.FromOperations cfg ops c.sequence c.assembly.fragmentCount c.frame.payload.length ∧
      w.offset + w.bytes.length ≤ c.frame.payload.length
  once : (c.assembly.writes.map PayloadWrite.index).Perm (List.range c.assembly.fragmentCount)
  bytes : ∀ p, p < c.frame.payload.length →
    (∃ w ∈ c.assembly.writes,
      Covers w.block p ∧ c.frame.payload[p]? = w.bytes[p - w.offset]?) ∨
    ((∀ w ∈ c.assembly.writes, ¬Covers w.block p) ∧ c.frame.payload[p]? = some 0)

/-- The body was processed as part of a valid datagram. -/
def ProcessedIn (ops : List UdpOperation) (header : MessageHeader)
    (fragment : UdpFrameFragmentHeader) (body : Bytes) : Prop :=
  ∃ data nowNs deferReadyPop, .processUdpDatagram data nowNs deferReadyPop ∈ ops ∧
    parseUdpDatagram data = some (header, fragment, body)

theorem writtenRules (cfg : ClientConfig) (ops : List UdpOperation) :
    AssemblyRules cfg (ProcessedIn ops)
      (fun key a => a.WellFormed key ∧ a.Written cfg ops key)
      (fun c => c.MadeOfFragments cfg ops) (fun _ => True) where
  wellFormed := And.left
  opened nowNs _ hvalid :=
    ⟨UdpFrameAssembly.WellFormed.opened hvalid cfg _ nowNs, .opened _ nowNs⟩
  parity nowNs _ _ _ _ _ h := ⟨h.1.storeParity cfg _ nowNs, h.2.storeParity cfg _ nowNs⟩
  data := by
    rintro header fragment body a nowNs ⟨data, now, defer, hop, hparse⟩ hvalid hdata hcount
      hpayload hnew ⟨hwf, hwritten⟩
    refine ⟨hwf.storeFragment hvalid hdata hcount hpayload hnew nowNs, ?_⟩
    have hplaced : (a.place fragment.fragmentIndex fragment.fragmentOffset
        (body.length % 2 ^ 32) body false).Written cfg ops fragment.frameSequence :=
      hwritten.place ((hvalid.index_lt hdata).trans_eq hcount.symm) hnew
        ((hvalid.inside hdata).trans_eq hpayload.symm)
        ⟨data, now, defer, header, fragment, hop, hparse, hdata, rfl, hcount.symm,
          hpayload.symm, rfl, rfl⟩
    exact { hplaced with }
  recovered := by
    rintro key a missing offset size bytes henabled - hrec ⟨hwf, hwritten⟩
    obtain ⟨hlt, hnot⟩ :=
      UdpFrameAssembly.missing_of_missingFragments_singleton hrec.missing_eq
    exact ⟨hwf.place_recovery hrec,
      hwritten.place hlt hnot (hrec.length_bytes ▸ hrec.inside) henabled⟩
  retried nowNs attempts h := ⟨h.1.retried nowNs attempts, { h.2 with }⟩
  finished := by
    rintro key a nowNs ⟨hwf, hwritten⟩ hcomplete
    exact ⟨⟨fun w hw => ⟨hwritten.sources w hw, hwritten.inside w hw⟩,
      hwritten.perm_range hwf hcomplete, fun p hp => hwritten.getElem?_payload hp⟩, trivial⟩

/-- A datagram of a frame of `size` bytes in `count` fragments. -/
def fragmentDatagram (role : UdpFragmentRole) (sequence size count index offset : ℕ)
    (body : Bytes) : Bytes :=
  (buildMessageHeader .kAvStream 0 (sizeofUdpFrameFragmentHeader + body.length)).toBytes ++
    UdpFrameFragmentHeader.toBytes
      { frameSequence := sequence, captureTimestampNs := 0, encodeStartTimestampNs := 0
        encodeEndTimestampNs := 0, transportSendTimestampNs := 0, framePayloadSize := size
        fragmentOffset := offset, fragmentIndex := index, fragmentCount := count
        fragmentRole := role.code, reserved := 0 } ++ body

/-- A data fragment without a body that announces a frame of one byte, received without a
jitter buffer. -/
def emptyFragmentRun : List UdpOperation :=
  [.processUdpDatagram (fragmentDatagram .kData 7 1 1 0 0 []) 1 false]

/-- A datagram that arrives at this millisecond. -/
def arrivalAt (nowMs : ℕ) (data : Bytes) : UdpOperation :=
  .processUdpDatagram data (nowMs * 1000000) true

/-- Five frames, received with all defaults. Of the first, the last fragment comes first and
twice, one is reconstructed and still arrives later; the second times out, the fourth is
asked for and stays incomplete, the fifth stays in the jitter buffer. -/
def mixedRun : List UdpOperation :=
  [arrivalAt 10 (fragmentDatagram .kData 1 5 3 2 4 [5]),
    arrivalAt 11 (fragmentDatagram .kData 2 4 2 1 2 [7, 8]),
    arrivalAt 12 (fragmentDatagram .kData 1 5 3 2 4 [5]),
    arrivalAt 13 (fragmentDatagram .kXorParity 1 5 3 0 0 [7, 6]),
    arrivalAt 14 (fragmentDatagram .kData 1 5 3 0 0 [1, 2]),
    .finalizeRecoverableUdpFecFrames 15000000 true,
    arrivalAt 16 (fragmentDatagram .kData 3 1 1 0 0 [9]),
    arrivalAt 17 (fragmentDatagram .kData 1 5 3 1 2 [3, 4]),
    .tryPopReadyUdpFrame 60000000,
    .tryPopReadyUdpFrame 100000000,
    arrivalAt 120 (fragmentDatagram .kData 4 2 2 0 0 [6]),
    .maybeSendUdpNackRequests 150000000,
    .pruneExpiredUdpAssemblies 300000000,
    arrivalAt 310 (fragmentDatagram .kData 5 1 1 0 0 [10])]

/-- The client after this run. -/
def mixedClient : StreamClient := (runOperations .idle {} (StreamClient.connected {}) mixedRun).1

/-- Whatever is received, a completed frame has had each of its fragments written
exactly once and inside the frame, by a data fragment with this layout or by a
recovery. A byte that one of these writes reaches holds a written byte; the
others are still zero. -/
theorem runOperations_completed_madeOfFragments (env : ClientEnv) (cfg : ClientConfig)
    (ops : List UdpOperation) :
    ∀ c ∈ (runOperations env cfg (StreamClient.connected cfg) ops).1.history.completed,
      c.MadeOfFragments cfg ops := by
  have hallowed : ∀ op ∈ ops, ReceiverInv.AllowsOperation (ProcessedIn ops) op := by
    intro op hop
    cases op with
    | processUdpDatagram data nowNs deferReadyPop =>
        exact fun header fragment body hparse => ⟨data, nowNs, deferReadyPop, hop, hparse⟩
    | _ => trivial
  exact ((ReceiverInv.connected cfg).runOperations (writtenRules cfg ops) env ops
    hallowed).1.completed

/-- The frame of which a fragment was reconstructed. -/
theorem mixedRun_madeOfFragments :
    (mixedClient.history.completed.map fun c => (c.sequence, c.frame.payload)) =
        [(1, [1, 2, 3, 4, 5]), (3, [9]), (5, [10])] ∧
      (mixedClient.history.completed.head (by decide +kernel)).MadeOfFragments {} mixedRun :=
  ⟨by decide +kernel,
    runOperations_completed_madeOfFragments .idle {} mixedRun _ (List.head_mem _)⟩

/-- A position of a completed frame need not be written: only the fragments are
counted. -/
theorem runOperations_completed_not_covered :
    ¬∀ (env : ClientEnv) (cfg : ClientConfig) (ops : List UdpOperation),
      ∀ c ∈ (runOperations env cfg (StreamClient.connected cfg) ops).1.history.completed,
        ∀ p, p < c.frame.payload.length → ∃ w ∈ c.assembly.writes, Covers w.block p := by
  intro h
  have hcovered := h .idle { udpJitterBufferEnabled := false } emptyFragmentRun
  revert hcovered
  decide +kernel

end AvProject.Client
