import AvProject.Server.RtpPacing

/-!
Runs of `RtpStreamingBackend`: what its counters say, and how the packets of its frames are
spread over time.
-/

namespace AvProject.Server

open AvProject.Lib AvProject.Protocol

namespace RtpStreamingBackend

/-- How many frames are broadcast while the backend can send. -/
def offered (env : RtpEnv) (cfg : TransportConfig) : RtpStreamingBackend → List RtpOperation → ℕ
  | _, [] => 0
  | st, op :: ops =>
      (match op with
        | .broadcast _ => if st.Ready cfg then 1 else 0
        | _ => 0) + offered env cfg (rtpStep env cfg st op) ops

/-- The time that is taken for the frame interval of a frame: what the configuration says, or
the time since the capture of an earlier frame. -/
def IntervalSince (fallbackNs : ℕ) (earlier : List RtpTransmission) (t : RtpTransmission) : Prop :=
  t.frameIntervalNs = fallbackNs ∨ ∃ e ∈ earlier,
    0 < e.frame.captureTimestampNs ∧ e.frame.captureTimestampNs < t.frame.captureTimestampNs ∧
      t.frameIntervalNs = t.frame.captureTimestampNs - e.frame.captureTimestampNs

/-- What holds of the backend in every run that begins at `beginNs`. -/
structure RtpInvariant (env : RtpEnv) (cfg : TransportConfig) (fallbackNs beginNs : ℕ)
    (st : RtpStreamingBackend) : Prop where
  clock : beginNs ≤ st.nowNs
  sentPackets : st.sentPackets = (st.transmissions.map fun t => t.handed.length).sum
  sentFrames : st.sentFrames = st.transmissions.countP fun t => t.whole
  accounted : ∀ t ∈ st.transmissions, t.Accounted cfg
  paced : env.SleepsThrough → ∀ t ∈ st.transmissions, t.Paced
  fallback : st.fallbackFrameIntervalNs = fallbackNs
  previous : st.previousFrameCaptureTimestampNs = 0 ∨ ∃ e ∈ st.transmissions,
    e.frame.captureTimestampNs = st.previousFrameCaptureTimestampNs
  interval : ∀ t ∈ st.transmissions, IntervalSince fallbackNs st.transmissions t
  stamps : ∀ t ∈ st.transmissions, ∀ x ∈ t.handed,
    beginNs ≤ x.sendTimestampNs ∧ x.sendTimestampNs ≤ st.nowNs
  increasing : (st.transmissions.flatMap fun t => t.handed).Pairwise fun x y =>
    x.sendTimestampNs ≤ y.sendTimestampNs
  packetizer : ∀ p, st.packetizer = some p → ∃ first, (createPacketizer cfg first).SameStream p
  created : ∀ t ∈ st.transmissions, ∃ first,
    (createPacketizer cfg first).SameStream t.packetizer

section

variable {env : RtpEnv} {cfg : TransportConfig} {fallbackNs beginNs : ℕ}
  {st st' : RtpStreamingBackend}

/-- The invariant is about what was sent, the packetizer and the clock. -/
theorem RtpInvariant.congr (h : RtpInvariant env cfg fallbackNs beginNs st)
    (hsentPackets : st'.sentPackets = st.sentPackets) (hsentFrames : st'.sentFrames = st.sentFrames)
    (hfallback : st'.fallbackFrameIntervalNs = st.fallbackFrameIntervalNs)
    (hprevious : st'.previousFrameCaptureTimestampNs = st.previousFrameCaptureTimestampNs ∨
      st'.previousFrameCaptureTimestampNs = 0)
    (hnow : st'.nowNs = st.nowNs) (htransmissions : st'.transmissions = st.transmissions)
    (hpacketizer : ∀ p, st'.packetizer = some p → ∃ first,
      (createPacketizer cfg first).SameStream p) :
    RtpInvariant env cfg fallbackNs beginNs st' where
  clock := hnow ▸ h.clock
  sentPackets := by rw [hsentPackets, htransmissions, h.sentPackets]
  sentFrames := by rw [hsentFrames, htransmissions, h.sentFrames]
  accounted := htransmissions ▸ h.accounted
  paced := htransmissions ▸ h.paced
  fallback := hfallback.trans h.fallback
  previous := by
    rw [htransmissions]
    rcases hprevious with heq | hzero
    · rw [heq]
      exact h.previous
    · exact .inl hzero
  interval := htransmissions ▸ h.interval
  stamps := by
    rw [htransmissions, hnow]
    exact h.stamps
  increasing := htransmissions ▸ h.increasing
  packetizer := hpacketizer
  created := htransmissions ▸ h.created

theorem frameInterval_since (h : RtpInvariant env cfg fallbackNs beginNs st) (t : RtpTransmission)
    (ht : t.frameIntervalNs = st.frameInterval t.frame.captureTimestampNs) :
    IntervalSince fallbackNs st.transmissions t := by
  rw [frameInterval] at ht
  split at ht
  · rename_i hlater
    obtain ⟨-, hsome, hlt⟩ := hlater
    obtain ⟨e, he, hcapture⟩ := h.previous.resolve_left hsome
    exact .inr ⟨e, he, by omega, by omega, by omega⟩
  · exact .inl (ht.trans h.fallback)

theorem IntervalSince.append {earlier more : List RtpTransmission} {t : RtpTransmission}
    (h : IntervalSince fallbackNs earlier t) : IntervalSince fallbackNs (earlier ++ more) t := by
  refine h.imp_right ?_
  rintro ⟨e, he, hrest⟩
  exact ⟨e, List.mem_append_left _ he, hrest⟩

theorem RtpInvariant.transmits (h : RtpInvariant env cfg fallbackNs beginNs st)
    {frame : EncodedFrame}
    {p p' : RtpPacketizer} (hp : st.packetizer = some p) (hsame : p.SameStream p')
    {t : RtpTransmission} (ht : Transmits env cfg frame p p' st st' t) :
    RtpInvariant env cfg fallbackNs beginNs st' := by
  obtain ⟨nowNs, calls, requestedNs, recorder, hmoved⟩ := ht.moved
  obtain ⟨first, hfirst⟩ := h.packetizer p hp
  have htransmissions : st'.transmissions = st.transmissions ++ [t] := by rw [hmoved]
  have hforall {P : RtpTransmission → Prop} (hold : ∀ e ∈ st.transmissions, P e) (hnew : P t) :
      ∀ e ∈ st'.transmissions, P e := by
    rw [htransmissions]
    intro e he
    rcases List.mem_append.mp he with he | he
    · exact hold e he
    · obtain rfl := List.mem_singleton.mp he
      exact hnew
  have hpackets : st'.packetizer = some p' := by rw [hmoved]
  exact
    { clock := h.clock.trans ht.later
      sentPackets := by
        rw [htransmissions, hmoved, List.map_append, List.sum_append, ← h.sentPackets]
        simp
      sentFrames := by
        rw [htransmissions, hmoved, List.countP_append, ← h.sentFrames]
        simp
      accounted := hforall h.accounted ht.accounted
      paced := fun hsleeps => hforall (h.paced hsleeps) (ht.paced hsleeps)
      fallback := by
        rw [hmoved]
        exact h.fallback
      previous := by
        rw [htransmissions, hmoved]
        simp only
        split
        · exact .inr ⟨t, List.mem_append_right _ (List.mem_singleton_self t),
            congrArg EncodedFrame.captureTimestampNs ht.frame_eq⟩
        · refine h.previous.imp_right ?_
          rintro ⟨e, he, hcapture⟩
          exact ⟨e, List.mem_append_left _ he, hcapture⟩
      interval := by
        refine hforall ?_ ?_
        · rw [htransmissions]
          exact fun e he => (h.interval e he).append
        · rw [htransmissions]
          refine (frameInterval_since h t ?_).append
          rw [ht.frameIntervalNs_eq, ht.frame_eq]
      stamps := hforall
        (fun e he x hx => ⟨(h.stamps e he x hx).1, (h.stamps e he x hx).2.trans ht.later⟩)
        fun x hx => ⟨h.clock.trans (ht.during x hx).1, (ht.during x hx).2⟩
      increasing := by
        rw [htransmissions, List.flatMap_append, List.pairwise_append]
        refine ⟨h.increasing, by simpa using ht.increasing, fun x hx y hy => ?_⟩
        obtain ⟨e, he, hin⟩ := List.mem_flatMap.mp hx
        have hy' : y ∈ t.handed := by simpa using hy
        exact (h.stamps e he x hin).2.trans (ht.during y hy').1
      packetizer := by
        intro q hq
        obtain rfl := Option.some.inj (hpackets.symm.trans hq)
        exact ⟨first, hfirst.trans hsame⟩
      created := hforall h.created ⟨first, ht.packetizer_eq ▸ hfirst⟩ }

theorem RtpInvariant.broadcast (h : RtpInvariant env cfg fallbackNs beginNs st)
    (frame : EncodedFrame) :
    RtpInvariant env cfg fallbackNs beginNs (st.broadcast env cfg frame) := by
  cases broadcast_effect env cfg frame st with
  | ignored _ hsame =>
      rw [hsame]
      exact h
  | refused _ p p' message hp hresult hnext =>
      rw [hnext]
      refine h.congr rfl rfl rfl (.inl rfl) rfl rfl fun q hq => ?_
      obtain rfl := Option.some.inj hq
      obtain ⟨first, hfirst⟩ := h.packetizer p hp
      have hsame := RtpPacketizer.SameStream.packetize p frame
      rw [hresult] at hsame
      exact ⟨first, hfirst.trans hsame⟩
  | transmitted _ p p' packets hp hresult t ht =>
      have hsame := RtpPacketizer.SameStream.packetize p frame
      rw [hresult] at hsame
      exact h.transmits hp hsame ht

theorem RtpInvariant.start (h : RtpInvariant env cfg fallbackNs beginNs st) (rtpSdpPath : String)
    (socketOpens fileOpens : Bool) (sequenceNumber : UInt16) :
    RtpInvariant env cfg fallbackNs beginNs
      (st.start cfg rtpSdpPath socketOpens fileOpens sequenceNumber).1 := by
  rw [RtpStreamingBackend.start]
  split
  · exact h.congr rfl rfl rfl (.inl rfl) rfl rfl h.packetizer
  rw [startSocket]
  split
  · exact h.congr rfl rfl rfl (.inl rfl) rfl rfl h.packetizer
  split
  · exact h.congr rfl rfl rfl (.inl rfl) rfl rfl h.packetizer
  split
  · exact h.congr rfl rfl rfl (.inl rfl) rfl rfl (by simp)
  · refine h.congr rfl rfl rfl (.inl rfl) rfl rfl fun p hp => ?_
    obtain rfl := Option.some.inj hp
    exact ⟨sequenceNumber, .refl _⟩

theorem RtpInvariant.step (h : RtpInvariant env cfg fallbackNs beginNs st) (op : RtpOperation) :
    RtpInvariant env cfg fallbackNs beginNs (rtpStep env cfg st op) := by
  cases op with
  | start rtpSdpPath socketOpens fileOpens sequenceNumber => exact h.start _ _ _ _
  | stop => exact h.congr rfl rfl rfl (.inr rfl) rfl rfl (by simp [rtpStep, stop])
  | shutdown => exact h.congr rfl rfl rfl (.inr rfl) rfl rfl (by simp [rtpStep, shutdown, stop])
  | broadcast frame => exact h.broadcast frame

/-- The backend as `initialize` leaves it. -/
def initialized (frameIntervalMs fps : ℤ) (nowNs : ℕ) : RtpStreamingBackend where
  fallbackFrameIntervalNs := fallbackFrameInterval frameIntervalMs fps
  nowNs := nowNs

theorem runRtp_invariant (env : RtpEnv) (cfg : TransportConfig) (frameIntervalMs fps : ℤ)
    (nowNs : ℕ) (ops : List RtpOperation) :
    RtpInvariant env cfg (fallbackFrameInterval frameIntervalMs fps) nowNs
      (runRtp env cfg (initialized frameIntervalMs fps nowNs) ops) := by
  have hfrom (st : RtpStreamingBackend)
      (h : RtpInvariant env cfg (fallbackFrameInterval frameIntervalMs fps) nowNs st) :
      RtpInvariant env cfg (fallbackFrameInterval frameIntervalMs fps) nowNs
        (runRtp env cfg st ops) := by
    induction ops generalizing st with
    | nil => exact h
    | cons op ops ih => exact ih (rtpStep env cfg st op) (h.step op)
  exact hfrom _
    ⟨le_rfl, rfl, rfl, nofun, fun _ => nofun, rfl, .inl rfl, nofun, nofun, .nil, nofun, nofun⟩

/-- A call counts a frame exactly if it is a broadcast and the backend can send. -/
theorem counted_rtpStep (env : RtpEnv) (cfg : TransportConfig) (st : RtpStreamingBackend)
    (op : RtpOperation) :
    (rtpStep env cfg st op).sentFrames + (rtpStep env cfg st op).failedFrames =
      st.sentFrames + st.failedFrames + offered env cfg st [op] := by
  cases op with
  | start rtpSdpPath socketOpens fileOpens sequenceNumber =>
      have hkept : (rtpStep env cfg st
            (.start rtpSdpPath socketOpens fileOpens sequenceNumber)).sentFrames = st.sentFrames ∧
          (rtpStep env cfg st
            (.start rtpSdpPath socketOpens fileOpens sequenceNumber)).failedFrames =
              st.failedFrames := by
        rw [rtpStep, RtpStreamingBackend.start]
        split
        · exact ⟨rfl, rfl⟩
        · rw [startSocket]
          split_ifs <;> exact ⟨rfl, rfl⟩
      rw [hkept.1, hkept.2]
      rfl
  | stop => rfl
  | shutdown => rfl
  | broadcast frame =>
      rw [offered, offered, Nat.add_zero]
      show (st.broadcast env cfg frame).sentFrames + (st.broadcast env cfg frame).failedFrames =
        st.sentFrames + st.failedFrames + if st.Ready cfg then 1 else 0
      cases broadcast_effect env cfg frame st with
      | ignored hnot hsame => rw [hsame, if_neg hnot, Nat.add_zero]
      | refused hready p p' message hp hresult hnext =>
          rw [hnext, if_pos hready]
          rfl
      | transmitted hready p p' packets hp hresult t ht =>
          obtain ⟨nowNs, calls, requestedNs, recorder, hmoved⟩ := ht.moved
          rw [hmoved, if_pos hready]
          simp only
          split <;> omega

theorem counted_runRtp (env : RtpEnv) (cfg : TransportConfig) (st : RtpStreamingBackend)
    (ops : List RtpOperation) :
    (runRtp env cfg st ops).sentFrames + (runRtp env cfg st ops).failedFrames =
      st.sentFrames + st.failedFrames + offered env cfg st ops := by
  induction ops generalizing st with
  | nil => rfl
  | cons op ops ih =>
      have hfirst := counted_rtpStep env cfg st op
      have hrest := ih (rtpStep env cfg st op)
      have hsplit : offered env cfg st (op :: ops) =
          offered env cfg st [op] + offered env cfg (rtpStep env cfg st op) ops := rfl
      have hrun : runRtp env cfg st (op :: ops) = runRtp env cfg (rtpStep env cfg st op) ops := rfl
      rw [hrun, hsplit]
      omega

end

end RtpStreamingBackend

open RtpStreamingBackend

/-- Every frame that is offered to a backend that can send is counted once, as sent or as
failed. What was sent of a frame are its first packets, each with its own send time; the frame
counts as sent exactly if these are all of them, and the times never go back. -/
theorem runRtp_accounts (env : RtpEnv) (cfg : TransportConfig) (frameIntervalMs fps : ℤ)
    (nowNs : ℕ) (ops : List RtpOperation) (st : RtpStreamingBackend)
    (hst : runRtp env cfg (initialized frameIntervalMs fps nowNs) ops = st) :
    st.sentFrames + st.failedFrames =
        offered env cfg (initialized frameIntervalMs fps nowNs) ops ∧
      st.sentFrames = (st.transmissions.countP fun t => t.whole) ∧
      st.sentPackets = (st.transmissions.map fun t => t.handed.length).sum ∧
      (∀ t ∈ st.transmissions, t.Accounted cfg) ∧
      (st.transmissions.flatMap fun t => t.handed).Pairwise fun x y =>
        x.sendTimestampNs ≤ y.sendTimestampNs := by
  have hinv := runRtp_invariant env cfg frameIntervalMs fps nowNs ops
  have hcounted := counted_runRtp env cfg (initialized frameIntervalMs fps nowNs) ops
  rw [hst] at hinv hcounted
  refine ⟨?_, hinv.sentFrames, hinv.sentPackets, hinv.accounted, hinv.increasing⟩
  rw [hcounted]
  exact Nat.zero_add _

/-- As long as no sleep is cut short, no packet is sent before its slot, and pacing holds a frame
up by at most a quarter of the frame interval and at most two milliseconds. It is in use exactly
where this leaves 50 microseconds for each packet, so never for more than 41 packets. -/
theorem runRtp_paced (env : RtpEnv) (hsleeps : env.SleepsThrough) (cfg : TransportConfig)
    (frameIntervalMs fps : ℤ) (nowNs : ℕ) (ops : List RtpOperation) (st : RtpStreamingBackend)
    (hst : runRtp env cfg (initialized frameIntervalMs fps nowNs) ops = st) :
    ∀ t ∈ st.transmissions, t.Paced ∧
      IntervalSince (fallbackFrameInterval frameIntervalMs fps) st.transmissions t ∧
      (41 < t.packets.length → t.pacingInterval = 0) := by
  have hinv := runRtp_invariant env cfg frameIntervalMs fps nowNs ops
  rw [hst] at hinv
  intro t ht
  have hpaced := hinv.paced hsleeps t ht
  refine ⟨hpaced, hinv.interval t ht, fun hmany => ?_⟩
  by_contra hinterval
  obtain ⟨-, hroom⟩ := hpaced.paced_iff.mp hinterval
  omega

/-! #### Frames of four packets -/

/-- A socket that takes everything, and a clock that moves on by ten microseconds whenever it
is read. -/
def tickingEnv : RtpEnv where
  sendto _ packet := packet.length
  elapsed _ := 10000
  slept _ ns := ns

def plainRtpConfig : TransportConfig := { backend := "rtp" }

/-- A frame of four NAL units. -/
def fourUnitFrame (sequence : UInt64) : EncodedFrame :=
  .numbered sequence (sequence * 1000000) true
    [0, 0, 1, 0x67, 1, 0, 0, 1, 0x68, 2, 0, 0, 1, 0x65, 3, 0, 0, 1, 0x41, 4]

/-- The third packet of the second frame is not taken. -/
def failingEnv : RtpEnv :=
  { tickingEnv with sendto := fun call packet => if call = 26 then -1 else packet.length }

/-- The third frame comes while the backend is stopped. -/
def restartedRun : List RtpOperation :=
  [.start "" true true 65534, .broadcast (fourUnitFrame 1), .broadcast (fourUnitFrame 2), .stop,
    .broadcast (fourUnitFrame 3), .start "" true true 7, .broadcast (fourUnitFrame 4)]

def restartedSent : RtpStreamingBackend :=
  runRtp failingEnv plainRtpConfig (initialized 33 0 5000000) restartedRun

theorem restartedSent_accounted :
    (restartedSent.transmissions.map fun t => (t.whole, t.handed.length)) =
        [(true, 4), (false, 2), (true, 4)] ∧
      restartedSent.sentFrames + restartedSent.failedFrames =
        offered failingEnv plainRtpConfig (initialized 33 0 5000000) restartedRun ∧
      restartedSent.sentFrames = (restartedSent.transmissions.countP fun t => t.whole) ∧
      restartedSent.sentPackets =
        (restartedSent.transmissions.map fun t => t.handed.length).sum ∧
      (∀ t ∈ restartedSent.transmissions, t.Accounted plainRtpConfig) ∧
      (restartedSent.transmissions.flatMap fun t => t.handed).Pairwise fun x y =>
        x.sendTimestampNs ≤ y.sendTimestampNs :=
  ⟨by decide +kernel,
    runRtp_accounts failingEnv plainRtpConfig 33 0 5000000 restartedRun restartedSent rfl⟩

def fourUnitRun : List RtpOperation :=
  [.start "" true true 65534, .broadcast (fourUnitFrame 1)]

def fourUnitsSent : RtpStreamingBackend :=
  runRtp tickingEnv plainRtpConfig (initialized 33 0 5000000) fourUnitRun

theorem fourUnits_paced :
    tickingEnv.SleepsThrough ∧ ∀ t ∈ fourUnitsSent.transmissions, t.Paced ∧
      IntervalSince (fallbackFrameInterval 33 0) fourUnitsSent.transmissions t ∧
      (41 < t.packets.length → t.pacingInterval = 0) :=
  have hsleeps : tickingEnv.SleepsThrough := fun _ _ => le_rfl
  ⟨hsleeps,
    runRtp_paced tickingEnv hsleeps plainRtpConfig 33 0 5000000 fourUnitRun fourUnitsSent rfl⟩

/-- The packets are two thirds of a millisecond apart. -/
example : fourUnitsSent.transmissions.map
    (fun t => (t.pacingInterval, t.handed.map fun x => x.sendTimestampNs - t.frameSendStart)) =
      [(666666, [10000, 676666, 1343332, 2009998])] := by
  decide +kernel

end AvProject.Server
