import AvProject.Client.State

/-!
UDP reception of `StreamClient`: validation of datagrams, assembly of fragments
by frame sequence, XOR recovery, NACK requests and the jitter buffer. The output
pointers of the source are never null on these paths; a returned frame is
modelled by `some`.
-/

namespace AvProject.Client

open AvProject.Lib AvProject.Protocol

/-! ### Statistics helpers -/

def millisecondsToNs (ms : ℤ) : ℕ := (max ms 0).toNat * 1000 * 1000

/-- `updateJitterBufferDepthStats`. -/
def updateJitterBufferDepthStats (st : StreamClient) : StreamClient :=
  let depth := st.udpJitterBuffer.size
  { st with
    udpReceiveStats.jitterBufferCurrentDepth := depth
    udpReceiveStats.jitterBufferMaxDepth := max st.udpReceiveStats.jitterBufferMaxDepth depth }

def recordJitterBufferWait (st : StreamClient) (waitNs : ℕ) : StreamClient :=
  let waitMs : ℚ := (waitNs : ℚ) / 1000000
  let samples := st.udpReceiveStats.jitterBufferWaitSamples + 1
  let avg := st.udpReceiveStats.jitterBufferWaitAvgMs
  { st with
    udpReceiveStats.jitterBufferWaitLastMs := waitMs
    udpReceiveStats.jitterBufferWaitSamples := samples
    udpReceiveStats.jitterBufferWaitAvgMs := avg + (waitMs - avg) / (samples : ℚ)
    udpReceiveStats.jitterBufferWaitMaxMs :=
      max st.udpReceiveStats.jitterBufferWaitMaxMs waitMs }

/-! ### Deduplication window -/

def isRecentlyCompletedUdpFrameSequence (st : StreamClient) (sequence : ℕ) : Bool :=
  decide (sequence ∈ st.recentlyCompletedUdpSequences)

/-- The eviction loop of `rememberCompletedUdpFrameSequence`. -/
def evictRecentlyCompleted : List ℕ → Finset ℕ → List ℕ × Finset ℕ
  | [], set => ([], set)
  | oldest :: rest, set =>
      if (oldest :: rest).length > kRecentCompletedUdpSequenceWindow then
        evictRecentlyCompleted rest (set.erase oldest)
      else (oldest :: rest, set)

/-- The window once `sequence` is remembered. -/
def rememberInWindow (order : List ℕ) (set : Finset ℕ) (sequence : ℕ) : List ℕ × Finset ℕ :=
  if sequence ∈ set then (order, set)
  else evictRecentlyCompleted (order ++ [sequence]) (insert sequence set)

def rememberCompletedUdpFrameSequence (st : StreamClient) (sequence : ℕ) : StreamClient :=
  let (order, set) := rememberInWindow st.recentlyCompletedUdpSequenceOrder
    st.recentlyCompletedUdpSequences sequence
  { st with
    recentlyCompletedUdpSequenceOrder := order
    recentlyCompletedUdpSequences := set }

/-! ### Expiry of assemblies -/

def UdpFrameAssembly.expired (a : UdpFrameAssembly) (nowNs : ℕ) : Bool :=
  a.lastFragmentTimestampNs != 0 &&
    decide (nowNs > a.lastFragmentTimestampNs) &&
    decide (nowNs - a.lastFragmentTimestampNs > kUdpAssemblyTimeoutNs)

def pruneExpiredUdpAssemblies (st : StreamClient) (nowNs : ℕ) : StreamClient :=
  let dead := st.udpAssemblies.toList.filter fun e => e.2.expired nowNs
  let st := st.check (dead.map fun e =>
    .difference e.2.receivedFragments.length e.2.receivedFragmentCount)
  { st with
    udpReceiveStats.timedOutFrames := st.udpReceiveStats.timedOutFrames + dead.length
    udpReceiveStats.timedOutFragments := st.udpReceiveStats.timedOutFragments +
      (dead.map fun e => e.2.receivedFragments.length - e.2.receivedFragmentCount).sum
    udpTestDroppedFragments :=
      dead.foldl (fun m e => m.erase e.1) st.udpTestDroppedFragments
    udpAssemblies := st.udpAssemblies.filter fun _ a => !a.expired nowNs }

/-! ### Jitter buffer -/

/-- `currentJitterBufferTargetDelayNs`; the statistics record the target. -/
def currentJitterBufferTargetDelayNs (cfg : ClientConfig) (st : StreamClient) :
    ℕ × StreamClient :=
  match cfg.udpJitterBufferStrategy with
  | .auto | .off | .low | .smooth =>
      let (targetNs, jitter) := st.adaptiveJitter.targetDelayNs
      (targetNs,
        { st with
          adaptiveJitter := jitter
          udpReceiveStats.jitterBufferTargetDelayMs := (targetNs : ℚ) / 1000000 })
  | .fixed | .adaptive =>
      let configured : ℚ := (max cfg.udpJitterBufferTargetDelayMs 0 : ℤ)
      let targetDelayMs :=
        if cfg.udpJitterBufferStrategy = .adaptive ∧ st.udpReceiveStats.jitterSamples > 0 then
          min ((max cfg.udpJitterBufferAdaptiveMaxDelayMs cfg.udpJitterBufferTargetDelayMs : ℤ) : ℚ)
            (configured + st.udpReceiveStats.jitterAvgMs * 2)
        else configured
      (toUint64 (targetDelayMs * 1000000),
        { st with udpReceiveStats.jitterBufferTargetDelayMs := targetDelayMs })

def useAdaptiveParams (cfg : ClientConfig) : Bool :=
  match cfg.udpJitterBufferStrategy with
  | .auto | .off | .low | .smooth => true
  | .fixed | .adaptive => false

def effectiveMaxWaitMs (cfg : ClientConfig) (st : StreamClient) : ℤ :=
  if useAdaptiveParams cfg then st.adaptiveJitter.qualityMaxWaitMs
  else cfg.udpJitterBufferMaxWaitMs

def effectiveMaxFrames (cfg : ClientConfig) (st : StreamClient) : ℕ :=
  if useAdaptiveParams cfg then st.adaptiveJitter.qualityMaxFrames
  else cfg.udpJitterBufferMaxFrames

/-- The last part of `tryPopReadyUdpFrame`: the frame under the expected sequence
number leaves the buffer once one of the three limits is reached. -/
def emitExpectedUdpFrame (cfg : ClientConfig) (st : StreamClient) (nowNs targetDelayNs : ℕ)
    (expected : BufferedUdpFrame) : StreamClient × Option ReceivedFrame :=
  let maxWaitNs := millisecondsToNs (effectiveMaxWaitMs cfg st)
  let waitNs := nowNs - expected.bufferedTimestampNs
  let reachedTargetDelay := targetDelayNs = 0 ∨ waitNs ≥ targetDelayNs
  let reachedDepthLimit := st.udpJitterBuffer.size ≥ max (effectiveMaxFrames cfg st) 1
  let reachedMaxWait := maxWaitNs > 0 ∧ waitNs ≥ maxWaitNs
  if ¬reachedTargetDelay ∧ ¬reachedDepthLimit ∧ ¬reachedMaxWait then (st, none)
  else
    let st := recordJitterBufferWait st waitNs
    let buffer := st.udpJitterBuffer.erase st.nextJitterBufferSequence
    let st :=
      { st with
        udpReceiveStats.jitterBufferEmittedFrames :=
          st.udpReceiveStats.jitterBufferEmittedFrames + 1
        udpJitterBuffer := buffer
        nextJitterBufferSequence := (st.nextJitterBufferSequence + 1) % 2 ^ 64
        hasNextJitterBufferSequence :=
          if buffer.isEmpty then false else st.hasNextJitterBufferSequence }
    (updateJitterBufferDepthStats st, some expected.frame)

/-- The first frame of a buffer without a cursor becomes the next one to emit. -/
def anchorJitterBuffer (st : StreamClient) (oldestSequence : ℕ) : StreamClient :=
  if st.hasNextJitterBufferSequence then st
  else
    { st with
      nextJitterBufferSequence := oldestSequence
      hasNextJitterBufferSequence := true }

/-- `should_skip_missing`: the expected frame is not waited for any longer. -/
def shouldSkipMissing (cfg : ClientConfig) (st : StreamClient) (nowNs : ℕ)
    (oldest : BufferedUdpFrame) : Bool :=
  let maxWaitNs := millisecondsToNs (effectiveMaxWaitMs cfg st)
  let oldestWaitNs := nowNs - oldest.bufferedTimestampNs
  (decide (maxWaitNs > 0) && decide (oldestWaitNs ≥ maxWaitNs)) ||
    decide (st.udpJitterBuffer.size ≥ max (effectiveMaxFrames cfg st) 1)

/-- The cursor moves to the oldest frame. -/
def skipMissing (st : StreamClient) (oldestSequence : ℕ) : StreamClient :=
  let skipped :=
    if oldestSequence > st.nextJitterBufferSequence then
      oldestSequence - st.nextJitterBufferSequence
    else 0
  { st with
    udpReceiveStats.jitterBufferSkippedFrames :=
      st.udpReceiveStats.jitterBufferSkippedFrames + skipped
    nextJitterBufferSequence := oldestSequence }

def tryPopReadyUdpFrame (cfg : ClientConfig) (st : StreamClient) (nowNs : ℕ) :
    StreamClient × Option ReceivedFrame :=
  if !cfg.udpJitterBufferEnabled then (st, none)
  else
    match OrdMap.front? st.udpJitterBuffer with
    | none => (st, none)
    | some (oldestSequence, oldest) =>
        let (targetDelayNs, st) := currentJitterBufferTargetDelayNs cfg st
        let st := anchorJitterBuffer st oldestSequence
        match st.udpJitterBuffer[st.nextJitterBufferSequence]? with
        | some expected => emitExpectedUdpFrame cfg st nowNs targetDelayNs expected
        | none =>
            if shouldSkipMissing cfg st nowNs oldest then
              emitExpectedUdpFrame cfg (skipMissing st oldestSequence) nowNs targetDelayNs oldest
            else (st, none)

/-- `bufferCompletedUdpFrame`: a sequence number already buffered is a duplicate. -/
def bufferCompletedUdpFrame (st : StreamClient) (frame : ReceivedFrame) : StreamClient :=
  if frame.metadata.sequence ∈ st.udpJitterBuffer then
    { st with
      udpReceiveStats.jitterBufferDroppedFrames :=
        st.udpReceiveStats.jitterBufferDroppedFrames + 1 }
  else
    updateJitterBufferDepthStats
      { st with
        udpJitterBuffer := st.udpJitterBuffer.insert frame.metadata.sequence
          { frame := frame, bufferedTimestampNs := frame.receiveTimestampNs } }

/-- The share of a count in a total, in percent. -/
def percentOf (part total : ℕ) : ℚ :=
  if total = 0 then 0 else (part : ℚ) * 100 / (total : ℚ)

def onCompletedUdpFrame (st : StreamClient) (frame : ReceivedFrame) (nowNs : ℕ) :
    StreamClient :=
  let sequence := frame.metadata.sequence
  let reordered := st.hasLastCompletedFrameSequence ∧
    sequence ≠ (st.lastCompletedFrameSequence + 1) % 2 ^ 64
  let st :=
    { st with
      udpReceiveStats.reorderedFrames :=
        st.udpReceiveStats.reorderedFrames + (if reordered then 1 else 0)
      lastCompletedFrameSequence := sequence
      hasLastCompletedFrameSequence := true }
  let sendNs := frame.metadata.transportSendTimestampNs
  if sendNs = 0 ∨ frame.receiveTimestampNs < sendNs then st
  else
    let networkLatencyMs : ℚ := ((frame.receiveTimestampNs - sendNs : ℕ) : ℚ) / 1000000
    let st :=
      if st.hasPreviousNetworkLatency then
        let jitterMs := |networkLatencyMs - st.previousNetworkLatencyMs|
        let stats := st.udpReceiveStats
        let samples := stats.jitterSamples + 1
        let lossPct := percentOf stats.timedOutFragments
          (stats.fragmentsReceived + stats.timedOutFragments)
        let skipPct := percentOf stats.jitterBufferSkippedFrames stats.jitterBufferEmittedFrames
        let jitter := st.adaptiveJitter.recordJitter jitterMs lossPct skipPct nowNs
        { st with
          adaptiveJitter := jitter
          udpReceiveStats.jitterLastMs := jitterMs
          udpReceiveStats.jitterSamples := samples
          udpReceiveStats.jitterAvgMs :=
            stats.jitterAvgMs + (jitterMs - stats.jitterAvgMs) / (samples : ℚ)
          udpReceiveStats.jitterMaxMs := max stats.jitterMaxMs jitterMs
          udpReceiveStats.jitterP50Ms := jitter.jitterP50Ms
          udpReceiveStats.jitterP95Ms := jitter.jitterP95Ms
          udpReceiveStats.jitterBufferActiveMode := jitter.activeMode
          udpReceiveStats.jitterBufferQuality := jitter.networkQuality }
      else st
    { st with previousNetworkLatencyMs := networkLatencyMs, hasPreviousNetworkLatency := true }

/-! ### NACK requests -/

/-- The indices of the fragments that have not arrived, in ascending order. -/
def UdpFrameAssembly.missingFragments (a : UdpFrameAssembly) : List ℕ :=
  (List.range a.receivedFragments.length).filter fun i => !(a.receivedFragments.getD i false)

/-- One NACK datagram for the fragments of `chunk`. -/
def buildNackDatagram (frameSequence requestTimestampNs : ℕ) (chunk : List ℕ) : Bytes :=
  (buildMessageHeader .kUdpNack 0
      (sizeofUdpNackHeader + chunk.length * sizeofUdpNackItem)).toBytes ++
    UdpNackHeader.toBytes
      { requestTimestampNs := requestTimestampNs
        requestCount := chunk.length % 2 ^ 16
        reserved := 0 } ++
    chunk.flatMap fun i =>
      UdpNackItem.toBytes { frameSequence := frameSequence, fragmentIndex := i, reserved := 0 }

/-- The sending loop of `sendUdpNack`, at most `maxRequests` items a datagram;
`fuel` bounds the number of datagrams by the number of missing fragments. -/
def sendUdpNackLoop (env : ClientEnv) (nowNs frameSequence maxRequests : ℕ) :
    ℕ → List ℕ → StreamClient → StreamClient × Bool
  | 0, _, st => (st, true)
  | fuel + 1, missing, st =>
      if missing = [] then (st, true)
      else
        let chunk := missing.take maxRequests
        let number := st.history.nackDatagrams.length
        let sent := env.sendSucceeds number
        let datagram := buildNackDatagram frameSequence (env.monotonicNowNs number) chunk
        let st :=
          { st with
            history.nackDatagrams := st.history.nackDatagrams ++
              [{ nowNs := nowNs, frameSequence := frameSequence, fragments := chunk,
                 datagram := datagram, sent := sent }] }
        if !sent then (st, false)
        else
          sendUdpNackLoop env nowNs frameSequence maxRequests fuel (missing.drop maxRequests)
            { st with
              udpReceiveStats.nackRequestsSent := st.udpReceiveStats.nackRequestsSent + 1
              udpReceiveStats.nackFragmentsRequested :=
                st.udpReceiveStats.nackFragmentsRequested + chunk.length }

def sendUdpNack (env : ClientEnv) (cfg : ClientConfig) (st : StreamClient)
    (nowNs frameSequence : ℕ) (missing : List ℕ) : StreamClient × Bool :=
  if !st.socketOpen || missing.isEmpty then (st, false)
  else
    sendUdpNackLoop env nowNs frameSequence (max 1 cfg.udpNackMaxRequestsPerPacket)
      missing.length missing st

/-- The two `continue` tests of the request loop. -/
def nackDue (cfg : ClientConfig) (nowNs : ℕ) (a : UdpFrameAssembly) : Bool :=
  !a.receivedFragments.isEmpty &&
    decide (a.receivedFragmentCount < a.receivedFragments.length) &&
    a.firstSeenTimestampNs != 0 &&
    decide (a.firstSeenTimestampNs ≤ nowNs) &&
    decide (millisecondsToNs cfg.udpNackRequestDelayMs ≤ nowNs - a.firstSeenTimestampNs) &&
    decide ((a.nackAttempts : ℤ) < cfg.udpNackMaxRetries) &&
    !(a.lastNackTimestampNs != 0 &&
      decide (a.lastNackTimestampNs ≤ nowNs) &&
      decide (nowNs - a.lastNackTimestampNs < millisecondsToNs cfg.udpNackRetryIntervalMs))

/-- One iteration of the request loop, for the assembly under `key`. -/
def requestMissingFragments (env : ClientEnv) (cfg : ClientConfig) (nowNs : ℕ)
    (st : StreamClient) (key : ℕ) : StreamClient :=
  match st.udpAssemblies[key]? with
  | none => st
  | some a =>
      if !nackDue cfg nowNs a then st
      else
        let st := st.check [.difference a.receivedFragments.length a.receivedFragmentCount]
        let missing := a.missingFragments.map (· % 2 ^ 16)
        let (st, sent) := sendUdpNack env cfg st nowNs a.metadata.sequence missing
        if sent then
          { st with
            udpAssemblies := st.udpAssemblies.insert key
              { a with lastNackTimestampNs := nowNs, nackAttempts := a.nackAttempts + 1 } }
        else st

def maybeSendUdpNackRequests (env : ClientEnv) (cfg : ClientConfig) (st : StreamClient)
    (nowNs : ℕ) : StreamClient :=
  if !cfg.udpNackEnabled || cfg.udpNackMaxRequestsPerPacket == 0 then st
  else st.udpAssemblies.keys.foldl (requestMissingFragments env cfg nowNs) st

/-! ### Completion of a frame -/

/-- `injectedUdpJitterDelayNs`: a deterministic delay for tests. -/
def injectedUdpJitterDelayNs (cfg : ClientConfig) (sequence : ℕ) : ℕ :=
  if cfg.udpTestJitterPattern = .none ∨ cfg.udpTestJitterAmplitudeMs ≤ 0 then 0
  else
    let period := max cfg.udpTestJitterPeriod 2
    let phase : ℤ := (sequence % period.toNat : ℕ)
    let amplitude : ℚ := cfg.udpTestJitterAmplitudeMs
    let delayMs : ℚ := match cfg.udpTestJitterPattern with
      | .saw => amplitude * (phase : ℚ) / ((period - 1 : ℤ) : ℚ)
      | .burst => if phase < period.tdiv 2 then amplitude else 0
      | .alternate => if sequence % 2 = 0 then 0 else amplitude
      | .none => 0
    toUint64 (delayMs * 1000000)

def hasSenderLatencyMetadata (metadata : FrameDiagnosticMetadata) : Bool :=
  metadata.captureTimestampNs != 0 && metadata.transportSendTimestampNs != 0

/-- The frame that `finalizeCompletedUdpFrame` makes of a finished assembly. -/
def completedUdpFrame (cfg : ClientConfig) (a : UdpFrameAssembly) (nowNs : ℕ) :
    ReceivedFrame :=
  { header := a.header
    metadata := a.metadata
    senderMetadataAvailable := cfg.expectMetadata && hasSenderLatencyMetadata a.metadata
    receiveTimestampNs :=
      (nowNs + injectedUdpJitterDelayNs cfg a.metadata.sequence) % 2 ^ 64
    payload := a.payload }

def countCompletedUdpFrame (st : StreamClient) (frameSequence : ℕ) (a : UdpFrameAssembly)
    (frame : ReceivedFrame) : StreamClient :=
  { st with
    udpReceiveStats.completedFrames := st.udpReceiveStats.completedFrames + 1
    history.completed := st.history.completed ++
      [{ sequence := frameSequence, assembly := a, frame := frame }] }

def forgetUdpAssembly (st : StreamClient) (frameSequence : ℕ) : StreamClient :=
  { st with
    udpTestDroppedFragments := st.udpTestDroppedFragments.erase frameSequence
    udpAssemblies := st.udpAssemblies.erase frameSequence }

/-- The bookkeeping of a completed frame, up to the removal of its assembly. -/
def retireCompletedUdpFrame (st : StreamClient) (frameSequence : ℕ) (a : UdpFrameAssembly)
    (frame : ReceivedFrame) (nowNs : ℕ) : StreamClient :=
  let st := countCompletedUdpFrame st frameSequence a frame
  let st := onCompletedUdpFrame st frame nowNs
  let st := rememberCompletedUdpFrameSequence st frameSequence
  forgetUdpAssembly st frameSequence

/-- `finalizeCompletedUdpFrame` for the assembly `a` stored under `frameSequence`. -/
def finalizeCompletedUdpFrame (env : ClientEnv) (cfg : ClientConfig) (st : StreamClient)
    (frameSequence : ℕ) (a : UdpFrameAssembly) (nowNs : ℕ) (deferReadyPop : Bool) :
    StreamClient × Option ReceivedFrame :=
  if a.receivedFragmentCount ≠ a.receivedFragments.length then (st, none)
  else
    let frame := completedUdpFrame cfg a nowNs
    let st := retireCompletedUdpFrame st frameSequence a frame nowNs
    if !cfg.udpJitterBufferEnabled then (st, some frame)
    else
      let st := bufferCompletedUdpFrame st frame
      if deferReadyPop then (st, none)
      else tryPopReadyUdpFrame cfg (maybeSendUdpNackRequests env cfg st nowNs) nowNs

/-! ### Filling a fragment -/

/-- Copy `bytes` to `offset` of the payload and record that the fragment at
`index` is there. -/
def UdpFrameAssembly.place (a : UdpFrameAssembly) (index offset size : ℕ) (bytes : Bytes)
    (recovered : Bool) : UdpFrameAssembly :=
  { a with
    payload := writeAt a.payload offset bytes
    receivedFragments := a.receivedFragments.set index true
    fragmentOffsets := a.fragmentOffsets.set index offset
    fragmentPayloadSizes := a.fragmentPayloadSizes.set index size
    receivedFragmentCount := a.receivedFragmentCount + 1
    writes := a.writes ++
      [{ index := index, offset := offset, bytes := bytes, recovered := recovered }] }

/-! ### XOR recovery -/

structure RecoverOutcome where
  recovered : Bool
  assembly : UdpFrameAssembly
  checks : List RuntimeCheck := []

/-- Where the fragment at `index` starts, judged by its predecessor. -/
def missingOffset (a : UdpFrameAssembly) (index : ℕ) : ℕ :=
  if index > 0 then
    (a.fragmentOffsets.getD (index - 1) 0 + a.fragmentPayloadSizes.getD (index - 1) 0) % 2 ^ 32
  else 0

def missingOffsetChecks (a : UdpFrameAssembly) (index : ℕ) : List RuntimeCheck :=
  if index > 0 then
    [.sum32 (a.fragmentOffsets.getD (index - 1) 0 + a.fragmentPayloadSizes.getD (index - 1) 0)]
  else []

/-- How long the fragment at `index` is, judged by its successor or by the end of
the frame; `none` where the source gives up. -/
def missingSize (a : UdpFrameAssembly) (index : ℕ) : Option ℕ :=
  let offset := missingOffset a index
  if index + 1 < a.receivedFragments.length then
    let nextOffset := a.fragmentOffsets.getD (index + 1) 0
    if nextOffset < offset then none else some (nextOffset - offset)
  else if a.payload.length ≥ offset then some ((a.payload.length - offset) % 2 ^ 32)
  else some 0

/-- The XOR loop over the fragments that have arrived; `none` where the source
returns early. -/
def xorReceivedFragments (a : UdpFrameAssembly) : List ℕ → Bytes → Option Bytes
  | [], recovered => some recovered
  | index :: rest, recovered =>
      if a.receivedFragments.getD index false then
        let offset := a.fragmentOffsets.getD index 0
        let size := a.fragmentPayloadSizes.getD index 0
        if offset + size > a.payload.length then none
        else xorReceivedFragments a rest (xorInto recovered (sliceAt a.payload offset size))
      else xorReceivedFragments a rest recovered

/-- The reads of that loop, up to an early return. -/
def xorReceivedChecks (a : UdpFrameAssembly) : List ℕ → List RuntimeCheck
  | [] => []
  | index :: rest =>
      if a.receivedFragments.getD index false then
        let offset := a.fragmentOffsets.getD index 0
        let size := a.fragmentPayloadSizes.getD index 0
        if offset + size > a.payload.length then []
        else .access a.payload.length offset size :: xorReceivedChecks a rest
      else xorReceivedChecks a rest

def maybeRecoverWithUdpFec (cfg : ClientConfig) (a : UdpFrameAssembly) : RecoverOutcome :=
  if !cfg.udpFecEnabled || !a.hasFecPayload || a.fecPayloadTimestampNs == 0 ||
      a.receivedFragments.isEmpty ||
      decide (a.receivedFragmentCount ≥ a.receivedFragments.length) then
    { recovered := false, assembly := a }
  else
    match a.missingFragments with
    | [missingIndex] =>
        let offset := missingOffset a missingIndex
        let sums := missingOffsetChecks a missingIndex
        match missingSize a missingIndex with
        | none => { recovered := false, assembly := a, checks := sums }
        | some size =>
            if size = 0 ∨ size > a.fecPayload.length ∨ offset + size > a.payload.length then
              { recovered := false, assembly := a, checks := sums }
            else
              let indices := List.range a.receivedFragments.length
              let reads := sums ++ xorReceivedChecks a indices
              match xorReceivedFragments a indices a.fecPayload with
              | none => { recovered := false, assembly := a, checks := reads }
              | some recovered =>
                  { recovered := true
                    assembly := a.place missingIndex offset size (recovered.take size) true
                    checks := reads ++
                      [.access a.payload.length offset size, .access recovered.length 0 size] }
    | _ => { recovered := false, assembly := a }

/-- Run the recovery for the assembly `a` stored under `key`: it is updated in
place and the statistics count a success. -/
def recoverAssembly (cfg : ClientConfig) (st : StreamClient) (key : ℕ) (a : UdpFrameAssembly) :
    StreamClient × UdpFrameAssembly × Bool :=
  let outcome := maybeRecoverWithUdpFec cfg a
  let st := st.check outcome.checks
  if outcome.recovered then
    let stats := st.udpReceiveStats
    ({ st with
        udpAssemblies := st.udpAssemblies.insert key outcome.assembly
        udpReceiveStats.fecRecoveredFragments := stats.fecRecoveredFragments + 1
        udpReceiveStats.fecRecoveredFrames :=
          stats.fecRecoveredFrames + (if outcome.assembly.complete then 1 else 0) },
      outcome.assembly, true)
  else (st, a, false)

/-- The first loop of `finalizeRecoverableUdpFecFrames`. -/
def recoverAssemblies (cfg : ClientConfig) :
    List ℕ → StreamClient → List ℕ → StreamClient × List ℕ
  | [], st, recovered => (st, recovered)
  | key :: rest, st, recovered =>
      match st.udpAssemblies[key]? with
      | none => recoverAssemblies cfg rest st recovered
      | some a =>
          if a.receivedFragmentCount ≥ a.receivedFragments.length then
            recoverAssemblies cfg rest st recovered
          else
            match recoverAssembly cfg st key a with
            | (st, _, true) => recoverAssemblies cfg rest st (recovered ++ [key])
            | (st, _, false) => recoverAssemblies cfg rest st recovered

/-- The second loop of `finalizeRecoverableUdpFecFrames`, which returns with the
first frame that is handed out. -/
def finalizeRecovered (env : ClientEnv) (cfg : ClientConfig) (nowNs : ℕ)
    (deferReadyPop : Bool) : List ℕ → StreamClient → StreamClient × Option ReceivedFrame
  | [], st => (st, none)
  | sequence :: rest, st =>
      match st.udpAssemblies[sequence]? with
      | none => finalizeRecovered env cfg nowNs deferReadyPop rest st
      | some a =>
          if a.receivedFragmentCount ≠ a.receivedFragments.length then
            finalizeRecovered env cfg nowNs deferReadyPop rest st
          else
            match finalizeCompletedUdpFrame env cfg st sequence a nowNs deferReadyPop with
            | (st, some frame) => (st, some frame)
            | (st, none) => finalizeRecovered env cfg nowNs deferReadyPop rest st

def finalizeRecoverableUdpFecFrames (env : ClientEnv) (cfg : ClientConfig) (st : StreamClient)
    (nowNs : ℕ) (deferReadyPop : Bool) : StreamClient × Option ReceivedFrame :=
  let (st, recovered) := recoverAssemblies cfg st.udpAssemblies.keys st []
  finalizeRecovered env cfg nowNs deferReadyPop recovered st

/-! ### Datagrams -/

/-- The checks of `processUdpDatagram` on the message header. -/
def acceptsHeader (header : MessageHeader) : Bool :=
  hasValidMessageMagic header && header.messageType == MessageType.kAvStream.code &&
    decide (sizeofUdpFrameFragmentHeader ≤ header.payloadLength)

/-- The checks on the fragment header and on the body that follows it. -/
def acceptsFragment (header : MessageHeader) (fragment : UdpFrameFragmentHeader)
    (body : Bytes) : Bool :=
  let isData := fragment.fragmentRole == UdpFragmentRole.kData.code
  !(fragment.fragmentCount == 0 ||
      decide (fragment.fragmentRole > UdpFragmentRole.kXorParity.code) ||
      (isData && decide (fragment.fragmentIndex ≥ fragment.fragmentCount))) &&
    body.length + sizeofUdpFrameFragmentHeader == header.payloadLength &&
    !(isData && decide (fragment.fragmentOffset + body.length > fragment.framePayloadSize))

/-- The validity checks of `processUdpDatagram`, all of which count the datagram
as invalid; otherwise the two headers and the fragment payload. -/
def parseUdpDatagram (data : Bytes) :
    Option (MessageHeader × UdpFrameFragmentHeader × Bytes) :=
  if data.length < sizeofMessageHeader + sizeofUdpFrameFragmentHeader then none
  else
    let header := MessageHeader.ofBytes data
    let fragment := UdpFrameFragmentHeader.ofBytes (data.drop sizeofMessageHeader)
    let body := data.drop (sizeofMessageHeader + sizeofUdpFrameFragmentHeader)
    if acceptsHeader header && acceptsFragment header fragment body then
      some (header, fragment, body)
    else none

/-- The two header reads of `processUdpDatagram`. -/
def headerReads (data : Bytes) : List RuntimeCheck :=
  if data.length < sizeofMessageHeader + sizeofUdpFrameFragmentHeader then []
  else if acceptsHeader (MessageHeader.ofBytes data) then
    [.access data.length 0 sizeofMessageHeader,
     .access data.length sizeofMessageHeader sizeofUdpFrameFragmentHeader]
  else [.access data.length 0 sizeofMessageHeader]

/-- Whether the configured test pattern drops this fragment. -/
def shouldDropFragment (cfg : ClientConfig) (fragment : UdpFrameFragmentHeader) : Bool :=
  let period := (max cfg.udpTestLossPeriod 1).toNat
  match cfg.udpTestLossPattern with
  | .none => false
  | .single => fragment.frameSequence % period == 0 && fragment.fragmentIndex == 0
  | .burst =>
      fragment.frameSequence % period == 0 &&
        decide (fragment.fragmentIndex <
          min (max cfg.udpTestLossCount 1).toNat fragment.fragmentCount)
  | .alternate => fragment.frameSequence % 2 == 1 && fragment.fragmentIndex == 0

/-- `shouldInjectUdpLoss`: each fragment is dropped once, then let through. -/
def shouldInjectUdpLoss (cfg : ClientConfig) (st : StreamClient)
    (fragment : UdpFrameFragmentHeader) : StreamClient × Bool :=
  if cfg.udpTestLossPattern = .none ∨ fragment.fragmentCount = 0 ∨
      fragment.fragmentRole ≠ UdpFragmentRole.kData.code then (st, false)
  else if !shouldDropFragment cfg fragment then (st, false)
  else
    let stored := st.udpTestDroppedFragments[fragment.frameSequence]?.getD []
    let dropped :=
      if stored.length = fragment.fragmentCount then stored
      else List.replicate fragment.fragmentCount false
    if dropped.getD fragment.fragmentIndex false then
      ({ st with
          udpTestDroppedFragments :=
            st.udpTestDroppedFragments.insert fragment.frameSequence dropped }, false)
    else
      ({ st with
          udpTestDroppedFragments := st.udpTestDroppedFragments.insert fragment.frameSequence
            (dropped.set fragment.fragmentIndex true)
          udpReceiveStats.injectedLossDatagrams := st.udpReceiveStats.injectedLossDatagrams + 1
          udpReceiveStats.injectedLossFragments := st.udpReceiveStats.injectedLossFragments + 1 },
        true)

/-- The metadata that the first datagram of a frame gives its assembly. -/
def assemblyMetadata (cfg : ClientConfig) (fragment : UdpFrameFragmentHeader) :
    FrameDiagnosticMetadata :=
  { sequence := fragment.frameSequence
    captureTimestampNs := if cfg.expectMetadata then fragment.captureTimestampNs else 0
    encodeStartTimestampNs := if cfg.expectMetadata then fragment.encodeStartTimestampNs else 0
    encodeEndTimestampNs := if cfg.expectMetadata then fragment.encodeEndTimestampNs else 0
    transportSendTimestampNs :=
      if cfg.expectMetadata then fragment.transportSendTimestampNs else 0 }

/-- The assembly that `udp_assemblies_[sequence]` refers to after the first
branch: an entry without fragments is set up from this datagram. -/
def openAssembly (cfg : ClientConfig) (stored : Option UdpFrameAssembly)
    (header : MessageHeader) (fragment : UdpFrameFragmentHeader) (nowNs : ℕ) :
    UdpFrameAssembly :=
  let a := stored.getD {}
  if a.receivedFragments.isEmpty then
    { a with
      header := header
      metadata := assemblyMetadata cfg fragment
      payload := List.replicate fragment.framePayloadSize 0
      receivedFragments := List.replicate fragment.fragmentCount false
      fragmentOffsets := List.replicate fragment.fragmentCount 0
      fragmentPayloadSizes := List.replicate fragment.fragmentCount 0
      firstSeenTimestampNs := nowNs
      lastFragmentTimestampNs := nowNs
      writes := [] }
  else a

def storeParity (cfg : ClientConfig) (a : UdpFrameAssembly) (body : Bytes) (nowNs : ℕ) :
    UdpFrameAssembly :=
  let a :=
    if cfg.udpFecEnabled then
      { a with fecPayload := body, hasFecPayload := true, fecPayloadTimestampNs := nowNs }
    else a
  { a with lastFragmentTimestampNs := nowNs }

/-- Copy a fragment that has not arrived before into the payload. -/
def storeFragment (a : UdpFrameAssembly) (fragment : UdpFrameFragmentHeader) (body : Bytes)
    (nowNs : ℕ) : UdpFrameAssembly :=
  { a.place fragment.fragmentIndex fragment.fragmentOffset (body.length % 2 ^ 32) body false with
    lastFragmentTimestampNs := nowNs }

/-- The end of `processUdpDatagram`: finish the frame once all fragments are in. -/
def finishIfComplete (env : ClientEnv) (cfg : ClientConfig) (st : StreamClient)
    (sequence : ℕ) (a : UdpFrameAssembly) (nowNs : ℕ) (deferReadyPop : Bool) :
    StreamClient × Option ReceivedFrame :=
  if a.complete then finalizeCompletedUdpFrame env cfg st sequence a nowNs deferReadyPop
  else (st, none)

/-- Store a data fragment under the opened assembly `a`, or count a duplicate. -/
def receiveFragment (st : StreamClient) (a : UdpFrameAssembly)
    (fragment : UdpFrameFragmentHeader) (body : Bytes) (nowNs : ℕ) :
    StreamClient × UdpFrameAssembly :=
  let st :=
    { st with
      udpReceiveStats.fragmentsReceived := st.udpReceiveStats.fragmentsReceived + 1 }
  if a.receivedFragments.getD fragment.fragmentIndex false then
    ({ st with
        udpReceiveStats.duplicateFragments := st.udpReceiveStats.duplicateFragments + 1 }, a)
  else
    let headersSize := sizeofMessageHeader + sizeofUdpFrameFragmentHeader
    let st := st.check
      [.access a.payload.length fragment.fragmentOffset body.length,
       .access (headersSize + body.length) headersSize body.length]
    let stored := storeFragment a fragment body nowNs
    ({ st with udpAssemblies := st.udpAssemblies.insert fragment.frameSequence stored }, stored)

/-- After a data fragment the recovery is tried at once. -/
def recoverIfIncomplete (cfg : ClientConfig) (st : StreamClient) (sequence : ℕ)
    (a : UdpFrameAssembly) : StreamClient × UdpFrameAssembly :=
  if a.receivedFragmentCount < a.receivedFragments.length then
    let (st, a, _) := recoverAssembly cfg st sequence a
    (st, a)
  else (st, a)

/-- The data branch of `processUdpDatagram`, for the opened assembly `a`. -/
def acceptDataFragment (env : ClientEnv) (cfg : ClientConfig) (st : StreamClient)
    (a : UdpFrameAssembly) (fragment : UdpFrameFragmentHeader) (body : Bytes) (nowNs : ℕ)
    (deferReadyPop : Bool) : StreamClient × Option ReceivedFrame :=
  let (st, a) := receiveFragment st a fragment body nowNs
  let (st, a) := recoverIfIncomplete cfg st fragment.frameSequence a
  finishIfComplete env cfg st fragment.frameSequence a nowNs deferReadyPop

/-- The parity branch of `processUdpDatagram`, for the opened assembly `a`. -/
def acceptParityFragment (env : ClientEnv) (cfg : ClientConfig) (st : StreamClient)
    (a : UdpFrameAssembly) (sequence : ℕ) (body : Bytes) (nowNs : ℕ)
    (deferReadyPop : Bool) : StreamClient × Option ReceivedFrame :=
  let stored := storeParity cfg a body nowNs
  let st :=
    { st with
      udpAssemblies := st.udpAssemblies.insert sequence stored
      udpReceiveStats.fecFragmentsReceived := st.udpReceiveStats.fecFragmentsReceived +
        (if cfg.udpFecEnabled then 1 else 0) }
  finishIfComplete env cfg st sequence stored nowNs deferReadyPop

/-- Another layout arrived under the same sequence number: the assembly goes. -/
def giveUpAssembly (st : StreamClient) (sequence : ℕ) (a : UdpFrameAssembly) : StreamClient :=
  let st := st.check [.difference a.receivedFragments.length a.receivedFragmentCount]
  let st :=
    { st with
      udpReceiveStats.timedOutFrames := st.udpReceiveStats.timedOutFrames + 1
      udpReceiveStats.timedOutFragments := st.udpReceiveStats.timedOutFragments +
        (a.receivedFragments.length - a.receivedFragmentCount) }
  forgetUdpAssembly st sequence

/-- `udp_assemblies_[sequence] = a`. -/
def storeUdpAssembly (st : StreamClient) (sequence : ℕ) (a : UdpFrameAssembly) : StreamClient :=
  { st with udpAssemblies := st.udpAssemblies.insert sequence a }

/-- Hand a datagram to the assembly of its frame. -/
def assembleFragment (env : ClientEnv) (cfg : ClientConfig) (st : StreamClient)
    (header : MessageHeader) (fragment : UdpFrameFragmentHeader) (body : Bytes) (nowNs : ℕ)
    (deferReadyPop : Bool) : StreamClient × Option ReceivedFrame :=
  let a := openAssembly cfg st.udpAssemblies[fragment.frameSequence]? header fragment nowNs
  if a.receivedFragments.length ≠ fragment.fragmentCount ∨
      a.payload.length ≠ fragment.framePayloadSize then
    (giveUpAssembly st fragment.frameSequence a, none)
  else
    let st := storeUdpAssembly st fragment.frameSequence a
    if fragment.fragmentRole = UdpFragmentRole.kXorParity.code then
      acceptParityFragment env cfg st a fragment.frameSequence body nowNs deferReadyPop
    else acceptDataFragment env cfg st a fragment body nowNs deferReadyPop

/-- The part of `processUdpDatagram` after validation. -/
def acceptFragment (env : ClientEnv) (cfg : ClientConfig) (st : StreamClient)
    (header : MessageHeader) (fragment : UdpFrameFragmentHeader) (body : Bytes) (nowNs : ℕ)
    (deferReadyPop : Bool) : StreamClient × Option ReceivedFrame :=
  match shouldInjectUdpLoss cfg st fragment with
  | (st, true) => (st, none)
  | (st, false) =>
      if isRecentlyCompletedUdpFrameSequence st fragment.frameSequence then
        ({ st with
            udpReceiveStats.staleDatagramsDropped :=
              st.udpReceiveStats.staleDatagramsDropped + 1 }, none)
      else assembleFragment env cfg st header fragment body nowNs deferReadyPop

/-- What `processUdpDatagram` does with every datagram before it looks at it. -/
def noteDatagram (st : StreamClient) (data : Bytes) (nowNs : ℕ) : StreamClient :=
  let st :=
    { st with udpReceiveStats.datagramsReceived := st.udpReceiveStats.datagramsReceived + 1 }
  (pruneExpiredUdpAssemblies st nowNs).check (headerReads data)

def processUdpDatagram (env : ClientEnv) (cfg : ClientConfig) (st : StreamClient)
    (data : Bytes) (nowNs : ℕ) (deferReadyPop : Bool) :
    StreamClient × Option ReceivedFrame :=
  let st := noteDatagram st data nowNs
  match parseUdpDatagram data with
  | none =>
      ({ st with
          udpReceiveStats.invalidDatagrams := st.udpReceiveStats.invalidDatagrams + 1 }, none)
  | some (header, fragment, body) =>
      acceptFragment env cfg st header fragment body nowNs deferReadyPop

end AvProject.Client
