import AvProject.Client.ReceiveUdpFrame
import AvProject.Client.StreamClientRtp
import AvProject.Client.UdpInvariant

/-!
One client over several connections. `connect` and `close` clear the receiver field by field;
the switch between the automatic and the fixed modes of the adaptive controller is the one
field that neither of them clears.
-/

namespace AvProject.Client

open AvProject.Lib AvProject.Protocol

/-! ### Connections -/

/-- The client with its configuration and its thread. -/
structure ClientSession where
  config : ClientConfig := {}
  running : Bool := false
  receiver : StreamClient := {}
  deriving DecidableEq

/-- `ResetUdpState`, with the configuration in force. -/
def resetUdpState (cfg : ClientConfig) (st : StreamClient) : StreamClient :=
  { st with
    udpReceiveStats :=
      { jitterBufferTargetDelayMs := (max cfg.udpJitterBufferTargetDelayMs 0 : ℤ) }
    lastCompletedFrameSequence := 0
    hasLastCompletedFrameSequence := false
    nextJitterBufferSequence := 0
    hasNextJitterBufferSequence := false
    udpTestDroppedFragments := ∅
    recentlyCompletedUdpSequenceOrder := []
    recentlyCompletedUdpSequences := ∅
    previousNetworkLatencyMs := 0
    hasPreviousNetworkLatency := false
    adaptiveJitter := st.adaptiveJitter.reset }

/-- The part of `Connect` that configures the adaptive controller. -/
def configureAdaptiveJitter (cfg : ClientConfig) (b : AdaptiveJitterBuffer id) :
    AdaptiveJitterBuffer id :=
  let b := b.configure
    { minDelayMs := cfg.udpJitterBufferMinDelayMs
      safetyFactor := cfg.udpJitterBufferSafetyFactor
      baseMaxWaitMs := cfg.udpJitterBufferMaxWaitMs
      baseMaxFrames := cfg.udpJitterBufferMaxFrames }
  match cfg.udpJitterBufferStrategy with
  | .off => b.setFixedMode .kBypass
  | .low => b.setFixedMode .kLowLatency
  | .smooth => b.setFixedMode .kSmooth
  | .auto => b.enableAutoMode
  | .fixed | .adaptive => b

/-- How a call of `connect` ends. -/
inductive ConnectOutcome
  /-- `socket` fails; the call returns at once. -/
  | noSocket
  /-- The host is invalid, `bind` or `connect` fails or the keep-alive is not sent; the call
  closes the client again. -/
  | refused
  | connected
  deriving DecidableEq, Repr

namespace ClientSession

def close (s : ClientSession) : ClientSession :=
  { s with
    running := false
    receiver := resetRtpState (resetUdpState s.config
      { s.receiver with socketOpen := false, udpAssemblies := ∅, udpJitterBuffer := ∅ }) }

/-- `connect`; the history variables begin anew. -/
def connect (s : ClientSession) (config : ClientConfig) (outcome : ConnectOutcome) :
    ClientSession :=
  let s := { s.close with config := config }
  let receiver := resetRtpState (resetUdpState config s.receiver)
  let receiver :=
    { receiver with
      adaptiveJitter := configureAdaptiveJitter config receiver.adaptiveJitter
      history := {} }
  let s := { s with receiver := receiver }
  match outcome with
  | .noSocket => s
  | .refused => { s with receiver.socketOpen := true }.close
  | .connected => { s with running := true, receiver.socketOpen := true }

end ClientSession

/-- What the calls of `receiveFrame` get from outside. -/
inductive ReceiveFrameInput
  | udp (env : ClientEnv) (events : List ReceiveEvent)
  | rtp (events : List RtpReceiveEvent)
  | tcp

/-- Calls of `receiveFrame`, the last of which has returned; those for TCP leave the receiver
as it is. -/
def ClientSession.receiveFrame (s : ClientSession) (input : ReceiveFrameInput) :
    Option ClientSession :=
  if !s.receiver.socketOpen then some s
  else
    match s.config.transport, input with
    | .udp, .udp env events =>
        (runReceive env s.config { point := .returned, client := s.receiver } events).bind fun r =>
          if r.point = .returned then some { s with receiver := r.client } else none
    | .rtp, .rtp events =>
        (runRtpReceive s.config { point := .returned, client := s.receiver } events).bind fun r =>
          if r.point = .returned then some { s with receiver := r.client } else none
    | .tcp, .tcp => some s
    | _, _ => none

/-- What the application does with the client. -/
inductive ClientCall
  | connect (config : ClientConfig) (outcome : ConnectOutcome)
  | receiveFrame (input : ReceiveFrameInput)
  | close

def ClientSession.step (s : ClientSession) : ClientCall → Option ClientSession
  | .connect config outcome => some (s.connect config outcome)
  | .receiveFrame input => s.receiveFrame input
  | .close => some s.close

/-- After a reconnection the client is that of a first connection. -/
def ClientSession.StartsAfresh (s : ClientSession) (config : ClientConfig) : Prop :=
  s.close.connect config .connected = ({} : ClientSession).connect config .connected

instance (s : ClientSession) (config : ClientConfig) : Decidable (s.StartsAfresh config) :=
  inferInstanceAs (Decidable (_ = _))

/-- The receiver after a connection, in the terms of `StreamClient.connect`. -/
theorem ClientSession.connect_receiver (s : ClientSession) (config : ClientConfig) :
    (s.connect config .connected).receiver =
      { s.receiver.connect config with history := {} } := by
  cases hstrategy : config.udpJitterBufferStrategy <;>
    simp [ClientSession.connect, ClientSession.close, StreamClient.connect, resetUdpState,
      resetRtpState, configureAdaptiveJitter, hstrategy] <;> rfl

/-! ### The mode switch during a session -/

/-- The switch of the adaptive controller. -/
def StreamClient.autoMode (st : StreamClient) : Bool := st.adaptiveJitter.autoMode

section

variable (env : ClientEnv) (cfg : ClientConfig) (st : StreamClient) (nowNs : ℕ)

@[simp] theorem currentJitterBufferTargetDelayNs_autoMode :
    (currentJitterBufferTargetDelayNs cfg st).2.autoMode = st.autoMode := by
  rw [currentJitterBufferTargetDelayNs]
  cases cfg.udpJitterBufferStrategy with
  | auto | off | low | smooth =>
      exact AdaptiveJitterBuffer.targetDelayNs_autoMode st.adaptiveJitter
  | fixed | adaptive => rfl

@[simp] theorem anchorJitterBuffer_autoMode (oldest : ℕ) :
    (anchorJitterBuffer st oldest).autoMode = st.autoMode := by
  rw [anchorJitterBuffer]
  split <;> rfl

@[simp] theorem emitExpectedUdpFrame_autoMode (targetDelayNs : ℕ) (expected : BufferedUdpFrame) :
    (emitExpectedUdpFrame cfg st nowNs targetDelayNs expected).1.autoMode = st.autoMode := by
  rw [emitExpectedUdpFrame]
  simp only
  split <;> rfl

@[simp] theorem tryPopReadyUdpFrame_autoMode :
    (tryPopReadyUdpFrame cfg st nowNs).1.autoMode = st.autoMode :=
  tryPopReadyUdpFrame_kept (currentJitterBufferTargetDelayNs_autoMode cfg)
    anchorJitterBuffer_autoMode (fun _ _ => rfl)
    (fun st => emitExpectedUdpFrame_autoMode cfg st nowNs) st

@[simp] theorem bufferCompletedUdpFrame_autoMode (frame : ReceivedFrame) :
    (bufferCompletedUdpFrame st frame).autoMode = st.autoMode := by
  rw [bufferCompletedUdpFrame]
  split <;> rfl

@[simp] theorem onCompletedUdpFrame_autoMode (frame : ReceivedFrame) :
    (onCompletedUdpFrame st frame nowNs).autoMode = st.autoMode := by
  simp only [StreamClient.autoMode, onCompletedUdpFrame]
  split
  · rfl
  split
  · simp only [AdaptiveJitterBuffer.recordJitter_autoMode]
  · rfl

@[simp] theorem maybeSendUdpNackRequests_autoMode :
    (maybeSendUdpNackRequests env cfg st nowNs).autoMode = st.autoMode := by
  obtain ⟨_, _, _, _, _, heq⟩ := maybeSendUdpNackRequests_withRequests env cfg st nowNs
  rw [heq]
  rfl

@[simp] theorem retireCompletedUdpFrame_autoMode (key : ℕ) (a : UdpFrameAssembly)
    (frame : ReceivedFrame) :
    (retireCompletedUdpFrame st key a frame nowNs).autoMode = st.autoMode :=
  onCompletedUdpFrame_autoMode (countCompletedUdpFrame st key a frame) nowNs frame

@[simp] theorem finalizeCompletedUdpFrame_autoMode (key : ℕ) (a : UdpFrameAssembly)
    (deferReadyPop : Bool) :
    (finalizeCompletedUdpFrame env cfg st key a nowNs deferReadyPop).1.autoMode =
      st.autoMode := by
  simp only [finalizeCompletedUdpFrame]
  split_ifs <;> simp

theorem finalizeRecovered_autoMode (deferReadyPop : Bool) (sequences : List ℕ) :
    (finalizeRecovered env cfg nowNs deferReadyPop sequences st).1.autoMode = st.autoMode := by
  induction sequences generalizing st with
  | nil => rfl
  | cons sequence rest ih =>
      rw [finalizeRecovered]
      split
      · exact ih st
      rename_i a _
      split
      · exact ih st
      have hstep := finalizeCompletedUdpFrame_autoMode env cfg st nowNs sequence a deferReadyPop
      split
      · rename_i st' frame heq
        rw [heq] at hstep
        exact hstep
      · rename_i st' heq
        rw [heq] at hstep
        exact (ih st').trans hstep

@[simp] theorem recoverAssembly_autoMode (key : ℕ) (a : UdpFrameAssembly) :
    (recoverAssembly cfg st key a).1.autoMode = st.autoMode := by
  simp only [recoverAssembly]
  split <;> rfl

theorem recoverAssemblies_autoMode (keys recovered : List ℕ) :
    (recoverAssemblies cfg keys st recovered).1.autoMode = st.autoMode :=
  recoverAssemblies_kept (recoverAssembly_autoMode cfg) keys st recovered

@[simp] theorem finalizeRecoverableUdpFecFrames_autoMode (deferReadyPop : Bool) :
    (finalizeRecoverableUdpFecFrames env cfg st nowNs deferReadyPop).1.autoMode =
      st.autoMode :=
  (finalizeRecovered_autoMode env cfg _ nowNs deferReadyPop _).trans
    (recoverAssemblies_autoMode cfg st _ _)

@[simp] theorem finishIfComplete_autoMode (sequence : ℕ) (a : UdpFrameAssembly)
    (deferReadyPop : Bool) :
    (finishIfComplete env cfg st sequence a nowNs deferReadyPop).1.autoMode = st.autoMode := by
  rw [finishIfComplete]
  split
  · exact finalizeCompletedUdpFrame_autoMode env cfg st nowNs sequence a deferReadyPop
  · rfl

theorem acceptDataFragment_autoMode (a : UdpFrameAssembly) (fragment : UdpFrameFragmentHeader)
    (body : Bytes) (deferReadyPop : Bool) :
    (acceptDataFragment env cfg st a fragment body nowNs deferReadyPop).1.autoMode =
      st.autoMode := by
  have hreceived : (receiveFragment st a fragment body nowNs).1.autoMode = st.autoMode := by
    simp only [receiveFragment]
    split <;> rfl
  rw [acceptDataFragment, finishIfComplete_autoMode, recoverIfIncomplete]
  split
  · exact (recoverAssembly_autoMode cfg _ _ _).trans hreceived
  · exact hreceived

theorem assembleFragment_autoMode (header : MessageHeader) (fragment : UdpFrameFragmentHeader)
    (body : Bytes) (deferReadyPop : Bool) :
    (assembleFragment env cfg st header fragment body nowNs deferReadyPop).1.autoMode =
      st.autoMode := by
  simp only [assembleFragment]
  split
  · rfl
  split
  · exact finishIfComplete_autoMode env cfg _ nowNs _ _ deferReadyPop
  · exact acceptDataFragment_autoMode env cfg _ nowNs _ fragment body deferReadyPop

@[simp] theorem shouldInjectUdpLoss_autoMode (fragment : UdpFrameFragmentHeader) :
    (shouldInjectUdpLoss cfg st fragment).1.autoMode = st.autoMode := by
  obtain ⟨_, _, _, heq⟩ := shouldInjectUdpLoss_eq cfg st fragment
  rw [heq]
  rfl

@[simp] theorem processUdpDatagram_autoMode (data : Bytes) (deferReadyPop : Bool) :
    (processUdpDatagram env cfg st data nowNs deferReadyPop).1.autoMode = st.autoMode := by
  have hnoted : (noteDatagram st data nowNs).autoMode = st.autoMode := rfl
  simp only [processUdpDatagram]
  split
  · exact hnoted
  rename_i header fragment body _
  have hinjected := (shouldInjectUdpLoss_autoMode cfg (noteDatagram st data nowNs) fragment).trans
    hnoted
  rw [acceptFragment]
  split
  · rename_i st' heq
    rw [heq] at hinjected
    exact hinjected
  · rename_i st' heq
    rw [heq] at hinjected
    split
    · exact hinjected
    · exact (assembleFragment_autoMode env cfg st' nowNs header fragment body
        deferReadyPop).trans hinjected

/-- Only a connection sets the switch. -/
theorem runOperation_autoMode {op : UdpOperation} (hop : op ≠ .connect) :
    (runOperation env cfg st op).1.autoMode = st.autoMode := by
  cases op with
  | connect => exact absurd rfl hop
  | processUdpDatagram data clock deferReadyPop =>
      exact processUdpDatagram_autoMode env cfg st clock data deferReadyPop
  | finalizeRecoverableUdpFecFrames clock deferReadyPop =>
      exact finalizeRecoverableUdpFecFrames_autoMode env cfg st clock deferReadyPop
  | tryPopReadyUdpFrame clock => exact tryPopReadyUdpFrame_autoMode cfg st clock
  | pruneExpiredUdpAssemblies clock => rfl
  | maybeSendUdpNackRequests clock => exact maybeSendUdpNackRequests_autoMode env cfg st clock

@[simp] theorem tryPopReadyRtpFrame_autoMode :
    (tryPopReadyRtpFrame cfg st nowNs).1.autoMode = st.autoMode := by
  rw [tryPopReadyRtpFrame]
  split
  · rfl
  · exact tryPopReadyUdpFrame_autoMode cfg st nowNs

@[simp] theorem receiveRtpDatagram_autoMode (data : Bytes) :
    (receiveRtpDatagram cfg st data nowNs).1.autoMode = st.autoMode := by
  rw [receiveRtpDatagram]
  split
  · rfl
  split
  · rfl
  simp only
  split
  · rw [finishRtpFrame]
    split
    · split
      · exact (bufferCompletedUdpFrame_autoMode _ _).trans (onCompletedUdpFrame_autoMode _ nowNs _)
      · rfl
    · rfl
  · rfl

end

theorem receiveStep_autoMode {env : ClientEnv} {cfg : ClientConfig} {s s' : ReceiveState}
    {event : ReceiveEvent} (hstep : receiveStep env cfg s event = some s') :
    s'.client.autoMode = s.client.autoMode := by
  rcases receiveStep_client hstep with hsame | ⟨op, hop, hrun⟩
  · rw [hsame]
  · rw [hrun, runOperation_autoMode env cfg s.client hop]

theorem rtpReceiveStep_autoMode {cfg : ClientConfig} {s s' : RtpReceiveState}
    {event : RtpReceiveEvent} (hstep : rtpReceiveStep cfg s event = some s') :
    s'.client.autoMode = s.client.autoMode := by
  cases rtpReceiveStep_effect hstep with
  | moved => rfl
  | popped => rw [RtpReceiveState.returnOr_client, tryPopReadyRtpFrame_autoMode]
  | taken => rw [RtpReceiveState.returnOr_client, receiveRtpDatagram_autoMode]

theorem runRtpReceive_eq_runSteps (cfg : ClientConfig) (s : RtpReceiveState)
    (events : List RtpReceiveEvent) :
    runRtpReceive cfg s events = runSteps (rtpReceiveStep cfg) s events := by
  induction events generalizing s with
  | nil => rfl
  | cons event events ih => exact congrArg ((rtpReceiveStep cfg s event).bind ·) (funext ih)

/-- A call of `receiveFrame` has no business with the switch. -/
theorem ClientSession.receiveFrame_autoMode {s t : ClientSession} {input : ReceiveFrameInput}
    (hstep : s.receiveFrame input = some t) : t.receiver.autoMode = s.receiver.autoMode := by
  rw [ClientSession.receiveFrame.eq_def] at hstep
  split at hstep
  · cases hstep
    rfl
  split at hstep
  · rename_i env events _
    obtain ⟨r, hrun, hreturned⟩ := Option.bind_eq_some_iff.mp hstep
    split at hreturned <;> cases hreturned
    have hkept (r : ReceiveState) (event : ReceiveEvent) (r' : ReceiveState)
        (h : r.client.autoMode = s.receiver.autoMode)
        (hstep : receiveStep env s.config r event = some r') :
        r'.client.autoMode = s.receiver.autoMode := (receiveStep_autoMode hstep).trans h
    rw [runReceive_eq_runSteps] at hrun
    exact runSteps_invariant (receiveStep env s.config) hkept rfl hrun
  · rename_i events _
    obtain ⟨r, hrun, hreturned⟩ := Option.bind_eq_some_iff.mp hstep
    split at hreturned <;> cases hreturned
    have hkept (r : RtpReceiveState) (event : RtpReceiveEvent) (r' : RtpReceiveState)
        (h : r.client.autoMode = s.receiver.autoMode)
        (hstep : rtpReceiveStep s.config r event = some r') :
        r'.client.autoMode = s.receiver.autoMode := (rtpReceiveStep_autoMode hstep).trans h
    rw [runRtpReceive_eq_runSteps] at hrun
    exact runSteps_invariant (rtpReceiveStep s.config) hkept rfl hrun
  · cases hstep
    rfl
  · cases hstep

/-! ### The mode switch across connections -/

/-- What a connection with this strategy sets the switch to, if it sets it. -/
def JitterBufferStrategy.setsAutoMode : JitterBufferStrategy → Option Bool
  | .off | .low | .smooth => some false
  | .auto => some true
  | .fixed | .adaptive => none

def ClientCall.setsAutoMode : ClientCall → Option Bool
  | .connect config _ => config.udpJitterBufferStrategy.setsAutoMode
  | .receiveFrame _ | .close => none

/-- What the last connection with such a strategy has set the switch to. -/
def lastAutoMode (calls : List ClientCall) : Option Bool :=
  (calls.filterMap ClientCall.setsAutoMode).getLast?

theorem lastAutoMode_cons (call : ClientCall) (calls : List ClientCall) (mode : Bool) :
    (lastAutoMode (call :: calls)).getD mode =
      (lastAutoMode calls).getD (call.setsAutoMode.getD mode) := by
  rw [lastAutoMode, lastAutoMode, List.filterMap_cons]
  cases call.setsAutoMode with
  | none => rfl
  | some set => rw [List.getLast?_cons]; rfl

namespace ClientSession

theorem configureAdaptiveJitter_autoMode (cfg : ClientConfig) (b : AdaptiveJitterBuffer id) :
    (configureAdaptiveJitter cfg b).autoMode =
      cfg.udpJitterBufferStrategy.setsAutoMode.getD b.autoMode := by
  cases hstrategy : cfg.udpJitterBufferStrategy <;>
    simp only [configureAdaptiveJitter, hstrategy] <;> rfl

@[simp] theorem close_autoMode (s : ClientSession) :
    s.close.receiver.autoMode = s.receiver.autoMode := rfl

theorem connect_autoMode (s : ClientSession) (config : ClientConfig) (outcome : ConnectOutcome) :
    (s.connect config outcome).receiver.autoMode =
      config.udpJitterBufferStrategy.setsAutoMode.getD s.receiver.autoMode := by
  cases outcome <;> exact configureAdaptiveJitter_autoMode config _

theorem step_autoMode {s t : ClientSession} {call : ClientCall} (hstep : s.step call = some t) :
    t.receiver.autoMode = call.setsAutoMode.getD s.receiver.autoMode := by
  cases call with
  | connect config outcome =>
      cases hstep
      exact connect_autoMode s config outcome
  | receiveFrame input => exact receiveFrame_autoMode hstep
  | close =>
      cases hstep
      rfl

/-- After a run, the switch is where the last connection that set it has put it. -/
theorem run_autoMode {s t : ClientSession} {calls : List ClientCall}
    (hrun : runSteps ClientSession.step s calls = some t) :
    t.receiver.autoMode = (lastAutoMode calls).getD s.receiver.autoMode := by
  induction calls generalizing s with
  | nil =>
      cases hrun
      rfl
  | cons call calls ih =>
      obtain ⟨next, hnext, hrest⟩ := (runSteps_cons_eq_some ClientSession.step).mp hrun
      rw [ih hrest, step_autoMode hnext, lastAutoMode_cons]

/-- A connection depends on what has been before through the switch only. -/
theorem connect_eq (s : ClientSession) (config : ClientConfig) :
    s.connect config .connected =
      ({ receiver := { adaptiveJitter := { autoMode := s.receiver.autoMode } } } :
        ClientSession).connect config .connected := rfl

/-- A strategy that sets the switch makes up for what it has been. -/
theorem configureAdaptiveJitter_reset {config : ClientConfig}
    (hsets : config.udpJitterBufferStrategy.setsAutoMode ≠ none) (b b' : AdaptiveJitterBuffer id) :
    configureAdaptiveJitter config b.reset = configureAdaptiveJitter config b'.reset := by
  cases hstrategy : config.udpJitterBufferStrategy with
  | auto | off | low | smooth => simp only [configureAdaptiveJitter, hstrategy]; rfl
  | fixed | adaptive =>
      rw [hstrategy] at hsets
      exact absurd rfl hsets

theorem startsAfresh_iff_autoMode (s : ClientSession) (config : ClientConfig) :
    s.StartsAfresh config ↔
      config.udpJitterBufferStrategy.setsAutoMode ≠ none ∨ s.receiver.autoMode = true := by
  rw [StartsAfresh, connect_eq, close_autoMode]
  constructor
  · intro h
    have hmode := congrArg (fun t => t.receiver.autoMode) h
    simp only [connect_autoMode] at hmode
    cases hsets : config.udpJitterBufferStrategy.setsAutoMode with
    | none =>
        rw [hsets] at hmode
        exact .inr hmode
    | some mode => exact .inl (Option.some_ne_none mode)
  · rintro (hsets | hmode)
    · have hjitter := configureAdaptiveJitter_reset hsets
        { autoMode := s.receiver.autoMode } ({} : AdaptiveJitterBuffer id)
      show ClientSession.mk config true { ({} : StreamClient) with
          socketOpen := true
          udpReceiveStats := _
          adaptiveJitter := configureAdaptiveJitter config
            (AdaptiveJitterBuffer.reset { autoMode := s.receiver.autoMode }) } = _
      rw [hjitter]
      rfl
    · rw [hmode]

end ClientSession

/-- After any history, a reconnection is the same as a first connection exactly if the new
strategy sets the mode switch, or if the last one before that has set it was `auto`. -/
theorem reconnection_startsAfresh_iff {calls : List ClientCall} {s : ClientSession}
    (hrun : runSteps ClientSession.step {} calls = some s) (config : ClientConfig) :
    s.StartsAfresh config ↔
      config.udpJitterBufferStrategy.setsAutoMode ≠ none ∨ lastAutoMode calls ≠ some false := by
  rw [ClientSession.startsAfresh_iff_autoMode, ClientSession.run_autoMode hrun]
  refine or_congr_right ?_
  show (lastAutoMode calls).getD true = true ↔ _
  cases lastAutoMode calls with
  | none => simp
  | some mode => cases mode <;> simp

/-! #### From a fixed mode to a fixed delay -/

/-- The default strategy, for UDP. -/
def autoConfig : ClientConfig := { transport := .udp }

def smoothConfig : ClientConfig := { transport := .udp, udpJitterBufferStrategy := .smooth }

def fixedConfig : ClientConfig := { transport := .udp, udpJitterBufferStrategy := .fixed }

/-- A session in the automatic mode. -/
def autoSession : List ClientCall := [.connect autoConfig .connected, .close]

/-- It leaves nothing behind. -/
theorem autoSession_startsAfresh : ∃ s,
    runSteps ClientSession.step {} autoSession = some s ∧ s.StartsAfresh fixedConfig := by
  have hrun : runSteps ClientSession.step {} autoSession =
      some (({} : ClientSession).connect autoConfig .connected).close := rfl
  have hlast : lastAutoMode autoSession ≠ some false := by decide
  exact ⟨_, hrun, (reconnection_startsAfresh_iff hrun fixedConfig).mpr (.inr hlast)⟩

/-- A session in a fixed mode. -/
def smoothSession : List ClientCall := [.connect smoothConfig .connected, .close]

/-- It leaves the switch off for the session after it. -/
theorem smoothSession_leaves_switch : ∃ s,
    runSteps ClientSession.step {} smoothSession = some s ∧
      (s.close.connect fixedConfig .connected).receiver.adaptiveJitter.autoMode = false ∧
      (({} : ClientSession).connect fixedConfig .connected).receiver.adaptiveJitter.autoMode =
        true ∧
      ¬s.StartsAfresh fixedConfig := by
  refine ⟨(({} : ClientSession).connect smoothConfig .connected).close, rfl, rfl, rfl,
    fun h => ?_⟩
  have hmode := congrArg (fun t => t.receiver.autoMode) h
  cases hmode

end AvProject.Client
