import AvProject.Server.RtpBroadcast

/-!
What `Broadcast` sends and when: a part of the packets from the first one on, each in its slot
of the pacing, and what the counters say of it.
-/

namespace AvProject.Server

open AvProject.Lib AvProject.Protocol

namespace RtpStreamingBackend

/-! ### The interval -/

theorem spreadOver_mul_le (frameIntervalNs packetCount : ℕ) :
    spreadOver frameIntervalNs packetCount * (packetCount - 1) ≤ pacingWindow frameIntervalNs := by
  unfold spreadOver
  split
  · simp
  split
  · simp
  simp only
  split
  · simp
  · exact Nat.div_mul_le_self _ _

/-- There is an interval exactly if each packet but the first can have the least one. -/
theorem spreadOver_ne_zero_iff {frameIntervalNs packetCount : ℕ} (hcount : 2 ≤ packetCount) :
    spreadOver frameIntervalNs packetCount ≠ 0 ↔
      kMinRtpPacingIntervalNs * (packetCount - 1) ≤ pacingWindow frameIntervalNs := by
  have hdiv : kMinRtpPacingIntervalNs ≤ pacingWindow frameIntervalNs / (packetCount - 1) ↔
      kMinRtpPacingIntervalNs * (packetCount - 1) ≤ pacingWindow frameIntervalNs :=
    Nat.le_div_iff_mul_le (by omega)
  have hmin : kMinRtpPacingIntervalNs = 50000 := rfl
  rw [← hdiv, spreadOver]
  split
  · rename_i hzero
    have hnone : pacingWindow frameIntervalNs / (packetCount - 1) = 0 := by
      simp [hzero, pacingWindow]
    simp [hnone, hmin]
  split
  · rename_i hsmall
    have hle := Nat.div_le_self (pacingWindow frameIntervalNs) (packetCount - 1)
    constructor
    · exact fun h => absurd rfl h
    · omega
  simp only
  split <;> omega

theorem spreadOver_eq_div {frameIntervalNs packetCount : ℕ}
    (h : spreadOver frameIntervalNs packetCount ≠ 0) :
    spreadOver frameIntervalNs packetCount = pacingWindow frameIntervalNs / (packetCount - 1) := by
  unfold spreadOver at h ⊢
  split at h
  · exact absurd rfl h
  rename_i hsome
  rw [if_neg hsome]
  split at h
  · exact absurd rfl h
  rename_i hwindow
  rw [if_neg hwindow]
  simp only at h ⊢
  split at h
  · exact absurd rfl h
  · rename_i hleast
    rw [if_neg hleast]

/-! ### One packet -/

section

variable {env : RtpEnv} {cfg : TransportConfig} {st : RtpStreamingBackend}

/-- A wait until `target`: only the clock moves, and not beyond what is left until `target`
is asked for. -/
structure Waits (env : RtpEnv) (target : ℕ) (st st' : RtpStreamingBackend) : Prop where
  moved : ∃ nowNs calls requestedNs,
    st' = { st with nowNs := nowNs, calls := calls, requestedNs := requestedNs }
  later : st.nowNs ≤ st'.nowNs
  reached : env.SleepsThrough → target ≤ st'.nowNs
  requested : env.SleepsThrough → ∀ last, target ≤ last →
    st'.requestedNs + (last - st'.nowNs) ≤ st.requestedNs + (last - st.nowNs)

theorem Waits.none {target : ℕ} (h : target ≤ st.nowNs) : Waits env target st st :=
  ⟨⟨_, _, _, rfl⟩, le_rfl, fun _ => h, fun _ _ _ => le_rfl⟩

theorem pacePacketBurst_waits (env : RtpEnv) {packetIndex frameSendStart pacingInterval : ℕ}
    (hstart : frameSendStart ≤ st.nowNs) :
    Waits env (frameSendStart + pacingInterval * packetIndex) st
      (st.pacePacketBurst env packetIndex frameSendStart pacingInterval) := by
  rw [pacePacketBurst]
  split
  · rename_i hnone
    refine .none ?_
    rcases hnone with rfl | rfl <;> simpa using hstart
  generalize htarget : frameSendStart + pacingInterval * packetIndex = target
  show Waits env target st (if target ≤ (st.readClock env).2 then (st.readClock env).1
    else (st.readClock env).1.clockNanosleep env (target - (st.readClock env).2))
  by_cases hpast : target ≤ (st.readClock env).2
  · rw [if_pos hpast]
    simp only [readClock] at hpast ⊢
    exact ⟨⟨_, _, _, rfl⟩, Nat.le_add_right _ _, fun _ => hpast, fun _ last _ => by
      simp only
      omega⟩
  · rw [if_neg hpast]
    simp only [readClock] at hpast ⊢
    generalize st.calls + 1 = call
    generalize hremaining : target - (st.nowNs + env.elapsed st.calls) = remaining
    refine ⟨⟨_, _, _, rfl⟩, ?_, fun hsleeps => ?_, fun hsleeps last hlast => ?_⟩
    · simp only [clockNanosleep]
      omega
    all_goals
      have hslept := hsleeps call remaining
      simp only [clockNanosleep]
      omega

/-! ### The packets of a frame -/

/-- What the loop of `Broadcast` does from packet `index` on. -/
structure SendsPackets (env : RtpEnv) (cfg : TransportConfig) (frameSendStart pacingInterval : ℕ)
    (index : ℕ) (packets : List Bytes) (st st' : RtpStreamingBackend)
    (handed : List SentRtpPacket) (whole : Bool) : Prop where
  moved : ∃ nowNs calls requestedNs, st' = { st with
    nowNs := nowNs
    calls := calls
    requestedNs := requestedNs
    sentPackets := st.sentPackets + handed.length
    failedFrames := st.failedFrames + if whole then 0 else 1 }
  later : st.nowNs ≤ st'.nowNs
  length_le : handed.length ≤ packets.length
  whole_iff : whole = true ↔ handed.length = packets.length
  stamped : ∀ (i : ℕ) x, handed[i]? = some x → ∃ packet, packets[i]? = some packet ∧
    packet.length ≤ cfg.udpMaxDatagramSize ∧ stampPacket cfg packet x.sendTimestampNs = some x.bytes
  during : ∀ x ∈ handed, st.nowNs ≤ x.sendTimestampNs ∧ x.sendTimestampNs ≤ st'.nowNs
  increasing : handed.Pairwise fun x y => x.sendTimestampNs ≤ y.sendTimestampNs
  inSlot : env.SleepsThrough → ∀ (i : ℕ) x, handed[i]? = some x →
    frameSendStart + pacingInterval * (index + i) ≤ x.sendTimestampNs
  requested : env.SleepsThrough → ∀ last,
    (∀ i < packets.length, frameSendStart + pacingInterval * (index + i) ≤ last) →
    st'.requestedNs + (last - st'.nowNs) ≤ st.requestedNs + (last - st.nowNs)

variable {frameSendStart pacingInterval index : ℕ} {packets : List Bytes} {packet : Bytes}
  {st' : RtpStreamingBackend}

/-- The frame fails at its next packet. -/
theorem SendsPackets.fails {nowNs calls requestedNs : ℕ}
    (heq : st' = { st with
      nowNs := nowNs, calls := calls, requestedNs := requestedNs
      failedFrames := st.failedFrames + 1 })
    (hlater : st.nowNs ≤ nowNs)
    (hrequested : env.SleepsThrough → ∀ last, frameSendStart + pacingInterval * index ≤ last →
      requestedNs + (last - nowNs) ≤ st.requestedNs + (last - st.nowNs)) :
    SendsPackets env cfg frameSendStart pacingInterval index (packet :: packets) st st' []
      false where
  moved := ⟨nowNs, calls, requestedNs, heq⟩
  later := heq ▸ hlater
  length_le := Nat.zero_le _
  whole_iff := by simp
  stamped := by simp
  during := by simp
  increasing := .nil
  inSlot := by simp
  requested hsleeps last hlast := by
    rw [heq]
    exact hrequested hsleeps last (by simpa using hlast 0 (by simp))

/-- A packet is sent, and then the others. -/
theorem SendsPackets.cons {between : RtpStreamingBackend} {handed : List SentRtpPacket}
    {whole : Bool} {x : SentRtpPacket} (hfits : packet.length ≤ cfg.udpMaxDatagramSize)
    (hstamp : stampPacket cfg packet x.sendTimestampNs = some x.bytes)
    (hbetween : ∃ nowNs calls requestedNs, between = { st with
      nowNs := nowNs, calls := calls, requestedNs := requestedNs
      sentPackets := st.sentPackets + 1 })
    (hlater : st.nowNs ≤ x.sendTimestampNs ∧ x.sendTimestampNs ≤ between.nowNs)
    (hslot : env.SleepsThrough → frameSendStart + pacingInterval * index ≤ x.sendTimestampNs)
    (hrequested : env.SleepsThrough → ∀ last, frameSendStart + pacingInterval * index ≤ last →
      between.requestedNs + (last - between.nowNs) ≤ st.requestedNs + (last - st.nowNs))
    (h : SendsPackets env cfg frameSendStart pacingInterval (index + 1) packets between st'
      handed whole) :
    SendsPackets env cfg frameSendStart pacingInterval index (packet :: packets) st st'
      (x :: handed) whole where
  moved := by
    obtain ⟨nowNs, calls, requestedNs, rfl⟩ := hbetween
    obtain ⟨nowNs, calls, requestedNs, rfl⟩ := h.moved
    exact ⟨nowNs, calls, requestedNs, by simp [Nat.add_assoc, Nat.add_comm 1]⟩
  later := (hlater.1.trans hlater.2).trans h.later
  length_le := Nat.succ_le_succ h.length_le
  whole_iff := by rw [h.whole_iff, List.length_cons, List.length_cons, Nat.succ_inj]
  stamped i y hy := by
    cases i with
    | zero =>
        obtain rfl := Option.some.inj hy
        exact ⟨packet, rfl, hfits, hstamp⟩
    | succ i => exact h.stamped i y hy
  during y hy := by
    rcases List.mem_cons.mp hy with rfl | hy
    · exact ⟨hlater.1, hlater.2.trans h.later⟩
    · obtain ⟨hfrom, hto⟩ := h.during y hy
      exact ⟨(hlater.1.trans hlater.2).trans hfrom, hto⟩
  increasing :=
    List.pairwise_cons.mpr ⟨fun y hy => hlater.2.trans (h.during y hy).1, h.increasing⟩
  inSlot hsleeps i y hy := by
    cases i with
    | zero =>
        obtain rfl := Option.some.inj hy
        exact hslot hsleeps
    | succ i =>
        have hrest := h.inSlot hsleeps i y hy
        rwa [Nat.add_right_comm, Nat.add_assoc] at hrest
  requested hsleeps last hlast := by
    refine (h.requested hsleeps last fun i hi => ?_).trans
      (hrequested hsleeps last (by simpa using hlast 0 (by simp)))
    have hnext := hlast (i + 1) (by simpa using hi)
    rwa [Nat.add_right_comm, Nat.add_assoc]

theorem sendPackets_sends (env : RtpEnv) (cfg : TransportConfig) {frameSendStart : ℕ}
    (pacingInterval index : ℕ) (packets : List Bytes) {st : RtpStreamingBackend}
    (hstart : frameSendStart ≤ st.nowNs) :
    SendsPackets env cfg frameSendStart pacingInterval index packets st
      (sendPackets env cfg frameSendStart pacingInterval index packets st).1
      (sendPackets env cfg frameSendStart pacingInterval index packets st).2.1
      (sendPackets env cfg frameSendStart pacingInterval index packets st).2.2 := by
  induction packets generalizing index st with
  | nil =>
      exact
        { moved := ⟨_, _, _, rfl⟩
          later := le_rfl
          length_le := le_rfl
          whole_iff := by simp [sendPackets]
          stamped := by simp [sendPackets]
          during := by simp [sendPackets]
          increasing := .nil
          inSlot := by simp [sendPackets]
          requested := fun _ _ _ => le_rfl }
  | cons packet packets ih =>
      have hwaits : Waits env (frameSendStart + pacingInterval * index) st
          (st.pacePacketBurst env index frameSendStart pacingInterval) :=
        pacePacketBurst_waits env hstart
      obtain ⟨nowNs, calls, requestedNs, hpaced⟩ := hwaits.moved
      rw [sendPackets]
      split
      · exact .fails rfl le_rfl fun _ _ _ => le_rfl
      rename_i hfits
      -- the clock at which the packet is stamped
      generalize hclock : (st.pacePacketBurst env index frameSendStart pacingInterval).nowNs +
        env.elapsed (st.pacePacketBurst env index frameSendStart pacingInterval).calls = stampNs
      have hlate : nowNs ≤ stampNs := by
        rw [← hclock, hpaced]
        exact Nat.le_add_right _ _
      have hlater : st.nowNs ≤ stampNs := by
        have hwaited := hwaits.later
        rw [hpaced] at hwaited
        exact hwaited.trans hlate
      have hrequested (hsleeps : env.SleepsThrough) (last : ℕ)
          (hlast : frameSendStart + pacingInterval * index ≤ last) :
          requestedNs + (last - stampNs) ≤ st.requestedNs + (last - st.nowNs) := by
        have hrest := hwaits.requested hsleeps last hlast
        rw [hpaced] at hrest
        exact (Nat.add_le_add_left (Nat.sub_le_sub_left hlate last) _).trans hrest
      simp only [readClock, hclock]
      rw [hpaced]
      split
      · exact .fails rfl hlater hrequested
      rename_i stampedPacket hstamp
      split
      · exact .fails rfl hlater hrequested
      · refine .cons (not_lt.mp hfits) hstamp ⟨_, _, _, rfl⟩ ⟨hlater, le_rfl⟩ (fun hsleeps => ?_)
          hrequested (ih (index + 1) (hstart.trans hlater))
        have hreached := hwaits.reached hsleeps
        rw [hpaced] at hreached
        exact hreached.trans hlate

end

/-! ### One frame -/

/-- The backend can send. -/
def Ready (cfg : TransportConfig) (st : RtpStreamingBackend) : Prop :=
  cfg.enabled = true ∧ st.socketOpen = true ∧ st.hasRemoteAddress = true ∧ st.packetizer ≠ none

instance (cfg : TransportConfig) (st : RtpStreamingBackend) : Decidable (Ready cfg st) :=
  inferInstanceAs (Decidable (_ ∧ _ ∧ _ ∧ _))

end RtpStreamingBackend

namespace RtpTransmission

/-- The packets of the frame. -/
def packets (t : RtpTransmission) : List Bytes :=
  (t.packetizer.packetize (some t.frame)).2.toOption.getD []

/-- What was sent are the first packets of the frame with the times at which they were sent,
and the frame counts as sent if these are all. -/
structure Accounted (cfg : TransportConfig) (t : RtpTransmission) : Prop where
  packetized : (t.packetizer.packetize (some t.frame)).2 = .ok t.packets
  length_le : t.handed.length ≤ t.packets.length
  whole_iff : t.whole = true ↔ t.handed.length = t.packets.length
  stamped : ∀ (i : ℕ) x, t.handed[i]? = some x → ∃ packet, t.packets[i]? = some packet ∧
    packet.length ≤ cfg.udpMaxDatagramSize ∧
    RtpStreamingBackend.stampPacket cfg packet x.sendTimestampNs = some x.bytes

/-- The packets of the frame are spread over at most a quarter of the frame interval, and over
at most two milliseconds. -/
structure Paced (t : RtpTransmission) : Prop where
  inSlot : ∀ (i : ℕ) x, t.handed[i]? = some x →
    t.frameSendStart + t.pacingInterval * i ≤ x.sendTimestampNs
  requested : t.requestedNs ≤ min 2000000 (t.frameIntervalNs / 4)
  paced_iff : t.pacingInterval ≠ 0 ↔ 4 ≤ t.packets.length ∧
    50000 * (t.packets.length - 1) ≤ min 2000000 (t.frameIntervalNs / 4)
  interval : t.pacingInterval ≠ 0 → t.pacingInterval =
    min 2000000 (t.frameIntervalNs / 4) / (t.packets.length - 1)

end RtpTransmission

namespace RtpStreamingBackend

section

variable {env : RtpEnv} {cfg : TransportConfig} {st : RtpStreamingBackend} {frame : EncodedFrame}
  {p p' : RtpPacketizer}

/-- What `Broadcast` does with a frame that is packetized. -/
structure Transmits (env : RtpEnv) (cfg : TransportConfig) (frame : EncodedFrame)
    (p p' : RtpPacketizer) (st st' : RtpStreamingBackend) (t : RtpTransmission) : Prop where
  moved : ∃ nowNs calls requestedNs sendLatencyRecorder, st' = { st with
    nowNs := nowNs
    calls := calls
    requestedNs := requestedNs
    sendLatencyRecorder := sendLatencyRecorder
    packetizer := some p'
    previousFrameCaptureTimestampNs :=
      if frame.captureTimestampNs ≠ 0 then frame.captureTimestampNs
      else st.previousFrameCaptureTimestampNs
    sentPackets := st.sentPackets + t.handed.length
    sentFrames := st.sentFrames + if t.whole then 1 else 0
    failedFrames := st.failedFrames + if t.whole then 0 else 1
    transmissions := st.transmissions ++ [t] }
  later : st.nowNs ≤ st'.nowNs
  frame_eq : t.frame = frame
  packetizer_eq : t.packetizer = p
  frameIntervalNs_eq : t.frameIntervalNs = st.frameInterval frame.captureTimestampNs
  accounted : t.Accounted cfg
  during : ∀ x ∈ t.handed, st.nowNs ≤ x.sendTimestampNs ∧ x.sendTimestampNs ≤ st'.nowNs
  increasing : t.handed.Pairwise fun x y => x.sendTimestampNs ≤ y.sendTimestampNs
  paced : env.SleepsThrough → t.Paced

/-- What `Broadcast` can do. -/
inductive BroadcastEffect (env : RtpEnv) (cfg : TransportConfig) (frame : EncodedFrame)
    (st st' : RtpStreamingBackend) : Prop
  | ignored (hnot : ¬st.Ready cfg) (hsame : st' = st)
  | refused (hready : st.Ready cfg) (p p' : RtpPacketizer) (message : String)
      (hp : st.packetizer = some p) (hresult : p.packetize (some frame) = (p', .error message))
      (hnext : st' = { st with packetizer := some p', failedFrames := st.failedFrames + 1 })
  | transmitted (hready : st.Ready cfg) (p p' : RtpPacketizer) (packets : List Bytes)
      (hp : st.packetizer = some p) (hresult : p.packetize (some frame) = (p', .ok packets))
      (t : RtpTransmission) (hsends : Transmits env cfg frame p p' st st' t)

theorem computePacingInterval_eq (packetCount currentCaptureTimestampNs : ℕ)
    (st : RtpStreamingBackend) :
    st.computePacingInterval packetCount currentCaptureTimestampNs =
      ({ st with
          previousFrameCaptureTimestampNs :=
            if currentCaptureTimestampNs ≠ 0 then currentCaptureTimestampNs
            else st.previousFrameCaptureTimestampNs },
        if packetCount < 4 then 0
        else spreadOver (st.frameInterval currentCaptureTimestampNs) packetCount) := by
  rw [computePacingInterval]
  by_cases hcapture : currentCaptureTimestampNs ≠ 0
  · simp only [if_pos hcapture]
    split <;> rfl
  · simp only [if_neg hcapture]
    split <;> rfl

theorem paced_of_sends {t : RtpTransmission} {packetCount : ℕ} {start after : RtpStreamingBackend}
    (hinterval : t.pacingInterval =
      if packetCount < 4 then 0 else spreadOver t.frameIntervalNs packetCount)
    (hcount : t.packets.length = packetCount) (hstart : t.frameSendStart = start.nowNs)
    (hrequested : t.requestedNs = after.requestedNs - start.requestedNs)
    (h : SendsPackets env cfg t.frameSendStart t.pacingInterval 0 t.packets start after t.handed
      t.whole) (hsleeps : env.SleepsThrough) : t.Paced where
  inSlot i x hx := by simpa using h.inSlot hsleeps i x hx
  requested := by
    have hwindow : t.pacingInterval * (packetCount - 1) ≤ pacingWindow t.frameIntervalNs := by
      rw [hinterval]
      split
      · simp
      · exact spreadOver_mul_le _ _
    have hbudget := h.requested hsleeps
      (t.frameSendStart + t.pacingInterval * (packetCount - 1)) fun i hi => by
        rw [hcount] at hi
        exact Nat.add_le_add_left (Nat.mul_le_mul_left _ (by omega)) _
    show t.requestedNs ≤ pacingWindow t.frameIntervalNs
    omega
  paced_iff := by
    rw [hinterval, hcount]
    split
    · omega
    · rw [spreadOver_ne_zero_iff (by omega)]
      exact (and_iff_right (by omega)).symm
  interval hpaced := by
    rw [hinterval] at hpaced ⊢
    split at hpaced
    · exact absurd rfl hpaced
    · rename_i hmany
      rw [if_neg hmany, hcount]
      exact spreadOver_eq_div hpaced

/-- Only the clock and the statistics know of the latency. -/
theorem recordLatency_eq (env : RtpEnv) (frame : EncodedFrame) (st : RtpStreamingBackend) :
    ∃ nowNs calls sendLatencyRecorder, st.nowNs ≤ nowNs ∧ st.recordLatency env frame =
      { st with nowNs := nowNs, calls := calls, sendLatencyRecorder := sendLatencyRecorder } := by
  rw [recordLatency]
  split
  · exact ⟨_, _, _, le_rfl, rfl⟩
  · exact ⟨_, _, _, Nat.le_add_right _ _, rfl⟩

theorem finishFrame_eq (env : RtpEnv) (t : RtpTransmission) (st : RtpStreamingBackend) :
    ∃ nowNs calls sendLatencyRecorder, st.nowNs ≤ nowNs ∧ st.finishFrame env t =
      { st with
        nowNs := nowNs
        calls := calls
        sendLatencyRecorder := sendLatencyRecorder
        sentFrames := st.sentFrames + if t.whole then 1 else 0
        transmissions := st.transmissions ++ [t] } := by
  rw [finishFrame]
  split
  · obtain ⟨nowNs, calls, recorder, hlater, heq⟩ := recordLatency_eq env t.frame
      { st with transmissions := st.transmissions ++ [t], sentFrames := st.sentFrames + 1 }
    exact ⟨nowNs, calls, recorder, hlater, heq⟩
  · exact ⟨_, _, _, le_rfl, rfl⟩

theorem transmit_transmits (env : RtpEnv) (cfg : TransportConfig) (st : RtpStreamingBackend)
    {packets : List Bytes} (hresult : p.packetize (some frame) = (p', .ok packets)) :
    ∃ t, Transmits env cfg frame p p' st
      ({ st with packetizer := some p' }.transmit env cfg frame p packets) t := by
  rcases hbegin : { st with packetizer := some p' }.beginFrame env packets.length
    frame.captureTimestampNs with ⟨start, pacingInterval, frameSendStart⟩
  have hbegun := hbegin
  rw [beginFrame, computePacingInterval_eq] at hbegun
  simp only [readClock, Prod.mk.injEq] at hbegun
  obtain ⟨hstart, hinterval, hnow⟩ := hbegun
  have hstartNs : frameSendStart = start.nowNs := by rw [← hstart, hnow]
  have hsends := sendPackets_sends env cfg pacingInterval 0 packets hstartNs.le
  rcases hloop : sendPackets env cfg frameSendStart pacingInterval 0 packets start with
    ⟨after, handed, whole⟩
  rw [hloop] at hsends
  simp only at hsends
  simp only [transmit, hbegin, hloop]
  generalize ht : RtpTransmission.mk _ _ _ _ _ _ _ _ = t
  have hpackets : t.packets = packets := by
    rw [RtpTransmission.packets, ← ht, hresult]
    rfl
  obtain ⟨nowNs, calls, recorder, hlater, hfinish⟩ := finishFrame_eq env t after
  obtain ⟨loopNs, loopCalls, loopRequestedNs, hafter⟩ := hsends.moved
  have hsince : st.nowNs ≤ start.nowNs := by
    rw [← hstart]
    exact Nat.le_add_right _ _
  rw [hfinish]
  subst ht
  exact ⟨_,
    { moved := by
        refine ⟨nowNs, calls, loopRequestedNs, recorder, ?_⟩
        rw [hafter, ← hstart]
      later := (hsince.trans hsends.later).trans hlater
      frame_eq := rfl
      packetizer_eq := rfl
      frameIntervalNs_eq := rfl
      accounted :=
        { packetized := by rw [hpackets, hresult]
          length_le := by rw [hpackets]; exact hsends.length_le
          whole_iff := by rw [hpackets]; exact hsends.whole_iff
          stamped := by rw [hpackets]; exact hsends.stamped }
      during := fun x hx =>
        ⟨hsince.trans (hsends.during x hx).1, (hsends.during x hx).2.trans hlater⟩
      increasing := hsends.increasing
      paced := paced_of_sends hinterval.symm (congrArg List.length hpackets) hstartNs rfl
        (hpackets.symm ▸ hsends) }⟩

theorem broadcast_effect (env : RtpEnv) (cfg : TransportConfig) (frame : EncodedFrame)
    (st : RtpStreamingBackend) :
    BroadcastEffect env cfg frame st (st.broadcast env cfg frame) := by
  rw [broadcast]
  cases hp : st.packetizer with
  | none => exact .ignored (fun hready => hready.2.2.2 hp) rfl
  | some p =>
      simp only
      split
      · rename_i hnot
        refine .ignored (fun hready => ?_) rfl
        simp [hready.1, hready.2.1, hready.2.2.1] at hnot
      rename_i hset
      have hready : st.Ready cfg := by
        simp only [Bool.or_eq_true, Bool.not_eq_true', not_or, Bool.not_eq_false] at hset
        exact ⟨hset.1.1, hset.1.2, hset.2, by simp [hp]⟩
      split
      · rename_i p' message hresult
        exact .refused hready p p' message hp hresult rfl
      · rename_i p' packets hresult
        obtain ⟨t, ht⟩ := transmit_transmits env cfg st hresult
        exact .transmitted hready p p' packets hp hresult t ht

end

end RtpStreamingBackend

/-! ### The packetizer -/

/-- The packetizers are the same but for the next sequence number. -/
def RtpPacketizer.SameStream (p p' : RtpPacketizer) : Prop :=
  ∃ sequenceNumber, p' = { p with sequenceNumber := sequenceNumber }

namespace RtpPacketizer.SameStream

variable {timestamp : UInt32} {extension : Option RtpHeaderExtension}

theorem refl (p : RtpPacketizer) : p.SameStream p := ⟨p.sequenceNumber, rfl⟩

theorem trans {p p' p'' : RtpPacketizer} (h : p.SameStream p') (h' : p'.SameStream p'') :
    p.SameStream p'' := by
  obtain ⟨first, rfl⟩ := h
  obtain ⟨second, rfl⟩ := h'
  exact ⟨second, rfl⟩

theorem advance (p : RtpPacketizer) : p.SameStream p.advance := ⟨_, rfl⟩

theorem fragmentLoop (nalu : Bytes) (marker : Bool) (capacity fuel : ℕ) (p : RtpPacketizer)
    (offset : ℕ) :
    p.SameStream
      (RtpPacketizer.fragmentLoop timestamp extension nalu marker capacity fuel p offset).1 := by
  induction fuel generalizing p offset with
  | zero => exact refl p
  | succ fuel ih =>
      rw [RtpPacketizer.fragmentLoop]
      split
      · exact (advance p).trans (ih p.advance _)
      · exact refl p

theorem packetizeFragmentedNalu (p : RtpPacketizer) (nalu : Bytes) (marker : Bool) :
    p.SameStream (p.packetizeFragmentedNalu timestamp extension nalu marker).1 := by
  rw [RtpPacketizer.packetizeFragmentedNalu]
  split
  · exact refl p
  simp only
  split
  · exact refl p
  · exact fragmentLoop nalu marker _ _ p 1

theorem packetizeNalus (p : RtpPacketizer) (nalus : List Bytes) :
    p.SameStream (RtpPacketizer.packetizeNalus timestamp extension p nalus).1 := by
  induction nalus generalizing p with
  | nil => exact refl p
  | cons nalu nalus ih =>
      rw [RtpPacketizer.packetizeNalus]
      simp only
      split
      · split
        · rename_i hsingle
          obtain ⟨rfl, -⟩ := Prod.mk.inj hsingle
          exact advance p
        · rename_i hsingle
          obtain ⟨rfl, -⟩ := Prod.mk.inj hsingle
          exact (advance p).trans (ih p.advance)
      · have hfragmented : p.SameStream
            (p.packetizeFragmentedNalu timestamp extension nalu nalus.isEmpty).1 :=
          packetizeFragmentedNalu p nalu nalus.isEmpty
        split
        · rename_i hresult
          rw [hresult] at hfragmented
          exact hfragmented
        · rename_i hresult
          rw [hresult] at hfragmented
          exact hfragmented.trans (ih _)

theorem packetize (p : RtpPacketizer) (frame : EncodedFrame) :
    p.SameStream (p.packetize (some frame)).1 := by
  simp only [RtpPacketizer.packetize]
  split
  · exact refl p
  split
  · exact refl p
  split
  · exact refl p
  · exact packetizeNalus p _

end RtpPacketizer.SameStream

end AvProject.Server
