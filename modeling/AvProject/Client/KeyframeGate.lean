import AvProject.Client.Pipeline

/-!
The gate in front of the decoder. It skips a frame without an IDR unit while the queue of
decoded frames is full; it keeps no memory of what it has skipped, so what comes next
depends on whether the render loop has taken a frame in the meantime.
-/

namespace AvProject.Client

open AvProject.Lib AvProject.Protocol

variable {δ : Type}

/-! ### What a log says -/

/-- The frame can be decoded without the ones before it. -/
def ReceivedFrame.isKeyframe (frame : ReceivedFrame) : Bool := hasIdrNalUnit frame.payload

/-- Between a skipped frame and a later frame without an IDR unit that is decoded, a frame
with one is decoded. -/
def KeyframeGated (log : List PipelineAction) : Prop :=
  ∀ before skipped middle frame after,
    log = before ++ .skipped skipped :: (middle ++ .passed frame :: after) →
      frame.isKeyframe = false → ∃ keyframe, .passed keyframe ∈ middle ∧ keyframe.isKeyframe = true

/-- One action, for a reader who waits for a keyframe from each skipped frame on. -/
def awaitAfter (awaiting : Bool) : PipelineAction → Bool
  | .skipped _ => true
  | .passed frame => awaiting && !frame.isKeyframe
  | .drained => awaiting

/-- A frame has been skipped and no keyframe decoded since. -/
def awaitsKeyframe (log : List PipelineAction) : Bool := log.foldl awaitAfter false

def drainAfter (drained : Bool) : PipelineAction → Bool
  | .skipped _ => false
  | .passed _ => drained
  | .drained => true

/-- The render loop has taken a frame since the last one was skipped. -/
def drainedSinceSkip (log : List PipelineAction) : Bool := log.foldl drainAfter false

@[simp] theorem awaitsKeyframe_concat (log : List PipelineAction) (action : PipelineAction) :
    awaitsKeyframe (log ++ [action]) = awaitAfter (awaitsKeyframe log) action :=
  List.foldl_append ..

@[simp] theorem drainedSinceSkip_concat (log : List PipelineAction) (action : PipelineAction) :
    drainedSinceSkip (log ++ [action]) = drainAfter (drainedSinceSkip log) action :=
  List.foldl_append ..

theorem awaitsKeyframe_iff {log : List PipelineAction} : awaitsKeyframe log = true ↔
    ∃ before skipped middle, log = before ++ .skipped skipped :: middle ∧
      ∀ frame, .passed frame ∈ middle → frame.isKeyframe = false := by
  induction log using List.reverseRecOn with
  | nil => simp [awaitsKeyframe]
  | append_singleton log action ih =>
      rw [awaitsKeyframe_concat]
      constructor
      · intro h
        cases action with
        | skipped frame => exact ⟨log, frame, [], rfl, by simp⟩
        | passed frame =>
            rw [awaitAfter, Bool.and_eq_true, Bool.not_eq_true'] at h
            obtain ⟨before, skipped, middle, rfl, hmiddle⟩ := ih.mp h.1
            refine ⟨before, skipped, middle ++ [.passed frame], by simp, fun other hother => ?_⟩
            rcases List.mem_append.mp hother with hother | hother
            · exact hmiddle other hother
            · obtain rfl : other = frame := by simpa using hother
              exact h.2
        | drained =>
            obtain ⟨before, skipped, middle, rfl, hmiddle⟩ := ih.mp h
            refine ⟨before, skipped, middle ++ [.drained], by simp, fun frame hframe => ?_⟩
            exact hmiddle frame (by simpa using hframe)
      · rintro ⟨before, skipped, middle, hlog, hmiddle⟩
        rcases List.eq_nil_or_concat middle with rfl | ⟨init, last, rfl⟩
        · obtain ⟨-, rfl⟩ : log = before ∧ action = .skipped skipped :=
            List.append_singleton_inj.mp hlog
          rfl
        · have hsplit : log = before ++ .skipped skipped :: init ∧ action = last := by
            apply List.append_singleton_inj.mp
            simpa using hlog
          obtain ⟨rfl, rfl⟩ := hsplit
          have hawaits := ih.mpr ⟨before, skipped, init, rfl,
            fun frame hframe => hmiddle frame (by simp [hframe])⟩
          rw [hawaits]
          cases action with
          | skipped frame => rfl
          | passed frame => simp [awaitAfter, hmiddle frame (by simp)]
          | drained => rfl

theorem keyframeGated_nil : KeyframeGated [] := by
  intro before skipped middle frame after h
  simp at h

theorem KeyframeGated.of_concat {log : List PipelineAction} {action : PipelineAction}
    (h : KeyframeGated (log ++ [action])) : KeyframeGated log := by
  rintro before skipped middle frame after rfl hframe
  exact h before skipped middle frame (after ++ [action]) (by simp) hframe

/-- The gate must not let a predicted frame pass while a keyframe is awaited. -/
theorem keyframeGated_concat {log : List PipelineAction} {action : PipelineAction} :
    KeyframeGated (log ++ [action]) ↔ KeyframeGated log ∧
      ∀ frame, action = .passed frame → frame.isKeyframe = false → awaitsKeyframe log = false := by
  constructor
  · intro h
    refine ⟨h.of_concat, ?_⟩
    rintro frame rfl hframe
    by_contra hawaits
    rw [Bool.not_eq_false, awaitsKeyframe_iff] at hawaits
    obtain ⟨before, skipped, middle, rfl, hmiddle⟩ := hawaits
    obtain ⟨keyframe, hmem, hkey⟩ := h before skipped middle frame [] (by simp) hframe
    rw [hmiddle keyframe hmem] at hkey
    cases hkey
  · rintro ⟨hlog, haction⟩ before skipped middle frame after h hframe
    rcases List.eq_nil_or_concat after with rfl | ⟨init, last, rfl⟩
    · have hsplit : log = before ++ .skipped skipped :: middle ∧ action = .passed frame := by
        apply List.append_singleton_inj.mp
        simpa using h
      obtain ⟨rfl, rfl⟩ := hsplit
      by_contra hnone
      have hawaits : awaitsKeyframe (before ++ .skipped skipped :: middle) = true := by
        refine awaitsKeyframe_iff.mpr ⟨before, skipped, middle, rfl, fun other hother => ?_⟩
        by_contra hkey
        exact hnone ⟨other, hother, by simpa using hkey⟩
      rw [haction frame rfl hframe] at hawaits
      cases hawaits
    · have hsplit : log = before ++ .skipped skipped :: (middle ++ .passed frame :: init) ∧
          action = last := by
        apply List.append_singleton_inj.mp
        simpa using h
      exact hlog before skipped middle frame init hsplit.1 hframe

/-! ### What a step does to the gate -/

/-- The thread has let a frame pass and has not put the result into the queue yet. -/
def DecodeThreadPoint.busy : DecodeThreadPoint δ → Bool
  | .decoding _ | .push _ => true
  | _ => false

/-- The decode thread is about to compare the queue's size with the capacity. -/
def AtGate (s : PipelineState δ) (event : PipelineEvent δ) (frame : ReceivedFrame) : Prop :=
  event = .decodeThread .proceed ∧ s.decodeThread = .gate frame

/-- The steps as the gate sees them. -/
inductive GateMove (cfg : PipelineConfig) (s : PipelineState δ) (event : PipelineEvent δ)
    (t : PipelineState δ) : Prop
  | skip (frame : ReceivedFrame) (hgate : AtGate s event frame)
      (hfull : cfg.decodeQueueCapacity ≤ s.decodedFrames.size)
      (hframe : frame.isKeyframe = false) (hlog : t.log = s.log ++ [.skipped frame])
      (hsize : t.decodedFrames.size = s.decodedFrames.size)
      (hbusy : t.decodeThread.busy = false)
  | pass (frame : ReceivedFrame) (hgate : AtGate s event frame)
      (hopen : s.decodedFrames.size < cfg.decodeQueueCapacity ∨ frame.isKeyframe = true)
      (hlog : t.log = s.log ++ [.passed frame])
      (hsize : t.decodedFrames.size = s.decodedFrames.size)
  | push (hgate : ∀ frame, ¬ AtGate s event frame) (hlog : t.log = s.log)
      (hbusy : s.decodeThread.busy = true) (hbusy' : t.decodeThread.busy = false)
      (hsize : t.decodedFrames.size =
        min (max 1 cfg.decodeQueueCapacity) (s.decodedFrames.size + 1))
  | drain (hgate : ∀ frame, ¬ AtGate s event frame) (hlog : t.log = s.log ++ [.drained])
      (hbusy : t.decodeThread.busy = s.decodeThread.busy)
      (hsize : s.decodedFrames.size = t.decodedFrames.size + 1)
  | other (hgate : ∀ frame, ¬ AtGate s event frame) (hlog : t.log = s.log)
      (hbusy : t.decodeThread.busy = true → s.decodeThread.busy = true)
      (hsize : t.decodedFrames.size = s.decodedFrames.size)

@[simp] theorem setPipelineError_log (s : PipelineState δ) (message : String) :
    (setPipelineError s message).log = s.log := by
  rw [setPipelineError]
  split <;> rfl

@[simp] theorem setPipelineError_decodedFrames (s : PipelineState δ) (message : String) :
    (setPipelineError s message).decodedFrames = s.decodedFrames := by
  rw [setPipelineError]
  split <;> rfl

@[simp] theorem setPipelineError_decodeThread (s : PipelineState δ) (message : String) :
    (setPipelineError s message).decodeThread = s.decodeThread := by
  rw [setPipelineError]
  split <;> rfl

/-- The log, the decode thread and the contents of `decoded_frames` are what they were. -/
def GateUntouched (s t : PipelineState δ) : Prop :=
  t.log = s.log ∧ t.decodeThread = s.decodeThread ∧
    t.decodedFrames.queue = s.decodedFrames.queue ∧
    t.decodedFrames.capacity = s.decodedFrames.capacity

theorem requestStopStep_gateUntouched (s : PipelineState δ) (point : StopPoint) :
    GateUntouched s (requestStopStep s point).1 := by
  cases point with
  | exchange => exact ⟨rfl, rfl, rfl, rfl⟩
  | closeReceived => exact ⟨rfl, rfl, rfl, rfl⟩
  | closeDecoded => exact ⟨rfl, rfl, rfl, rfl⟩

theorem receiveThreadStep_gateUntouched {s t : PipelineState δ} {input : ReceiveInput}
    (h : receiveThreadStep s input = some t) : GateUntouched s t := by
  rw [receiveThreadStep.eq_def] at h
  split at h
  · cases h
    exact ⟨rfl, rfl, rfl, rfl⟩
  · cases h
    exact ⟨rfl, rfl, rfl, rfl⟩
  · cases h
    exact ⟨rfl, rfl, rfl, rfl⟩
  · split at h <;> cases h <;> exact ⟨rfl, rfl, rfl, rfl⟩
  · split at h <;> cases h <;> exact ⟨rfl, rfl, rfl, rfl⟩
  · split at h <;> cases h <;> exact ⟨rfl, rfl, rfl, rfl⟩
  · cases h
    exact ⟨rfl, rfl, rfl, rfl⟩
  · cases h
    exact ⟨rfl, rfl, rfl, rfl⟩
  · split at h
    · cases h
      exact ⟨rfl, rfl, rfl, rfl⟩
    · cases h
      exact ⟨by simp, by simp, by simp, by simp⟩
  · rename_i point _
    have hstop := requestStopStep_gateUntouched s point
    split at h
    · rename_i u next hnext
      cases h
      rw [hnext] at hstop
      exact hstop
    · rename_i u hnext
      cases h
      rw [hnext] at hstop
      exact hstop
  · cases h

/-- The main thread touches the gate only where it takes a frame. -/
theorem mainThreadStep_gate {s t : PipelineState δ} {input : MainInput}
    (h : mainThreadStep s input = some t) :
    GateUntouched s t ∨
      t.log = s.log ++ [.drained] ∧ t.decodeThread = s.decodeThread ∧
        s.decodedFrames.size = t.decodedFrames.size + 1 ∧
        t.decodedFrames.capacity = s.decodedFrames.capacity := by
  rw [mainThreadStep.eq_def] at h
  split at h
  · split at h <;> cases h <;> exact .inl ⟨rfl, rfl, rfl, rfl⟩
  · split at h
    · rename_i frame decodedFrames hpop
      cases h
      exact .inr ⟨rfl, rfl, BoundedQueue.size_tryPop hpop, (BoundedQueue.tryPop_eq_some hpop).2.2⟩
    · split at h <;> cases h <;> exact .inl ⟨rfl, rfl, rfl, rfl⟩
  · cases h
    exact .inl ⟨rfl, rfl, rfl, rfl⟩
  · cases h
    exact .inl ⟨by simp, by simp, by simp, by simp⟩
  · cases h
    exact .inl ⟨by simp, by simp, by simp, by simp⟩
  · cases h
    exact .inl ⟨rfl, rfl, rfl, rfl⟩
  · rename_i site point _
    have hstop := requestStopStep_gateUntouched s point
    split at h
    · rename_i u next hnext
      cases h
      rw [hnext] at hstop
      exact .inl hstop
    · rename_i u hnext
      cases h
      rw [hnext] at hstop
      exact .inl hstop
  · cases h
    exact .inl ⟨rfl, rfl, rfl, rfl⟩
  · cases h
    exact .inl ⟨rfl, rfl, rfl, rfl⟩
  · split at h
    · cases h
      exact .inl ⟨rfl, rfl, rfl, rfl⟩
    · cases h
  · split at h
    · cases h
      exact .inl ⟨rfl, rfl, rfl, rfl⟩
    · cases h
  · cases h

theorem GateUntouched.move {cfg : PipelineConfig} {s t : PipelineState δ}
    {event : PipelineEvent δ} (h : GateUntouched s t)
    (hgate : ∀ frame, ¬ AtGate s event frame) : GateMove cfg s event t :=
  .other hgate h.1 (fun hbusy => h.2.1 ▸ hbusy) (congrArg List.length h.2.2.1)

theorem decodeThreadStep_gateMove {cfg : PipelineConfig} {s t : PipelineState δ}
    {input : DecodeInput δ}
    (hcapacity : s.decodedFrames.capacity = max 1 cfg.decodeQueueCapacity)
    (h : decodeThreadStep cfg s input = some t) :
    GateMove cfg s (.decodeThread input) t ∧
      t.decodedFrames.capacity = s.decodedFrames.capacity := by
  have hnot {point : DecodeThreadPoint δ} (hpoint : s.decodeThread = point)
      (hne : ∀ frame, point ≠ .gate frame) (frame : ReceivedFrame) :
      ¬ AtGate s (.decodeThread input) frame :=
    fun hgate => hne frame (hpoint.symm.trans hgate.2)
  rw [decodeThreadStep.eq_def] at h
  split at h
  · rename_i hpoint
    cases h
    refine ⟨.other (hnot hpoint (by simp)) rfl (fun hbusy => ?_) rfl, rfl⟩
    revert hbusy
    simp only
    split <;> simp [DecodeThreadPoint.busy]
  · rename_i hpoint
    split at h
    · split at h
      · cases h
        exact ⟨.other (hnot hpoint (by simp)) rfl (by simp [DecodeThreadPoint.busy]) rfl, rfl⟩
      · cases h
        exact ⟨.other (hnot hpoint (by simp)) rfl (by simp [DecodeThreadPoint.busy]) rfl, rfl⟩
    · cases h
  · rename_i frame hpoint
    split at h
    · rename_i hskip
      cases h
      exact ⟨.skip frame ⟨rfl, hpoint⟩ hskip.1 hskip.2 rfl rfl rfl, rfl⟩
    · rename_i hpass
      cases h
      refine ⟨.pass frame ⟨rfl, hpoint⟩ ?_ rfl rfl, rfl⟩
      rw [not_and_or, Nat.not_le, Bool.not_eq_false] at hpass
      exact hpass
  · rename_i hpoint
    cases h
    exact ⟨.other (hnot hpoint (by simp)) rfl (by simp [DecodeThreadPoint.busy]) rfl, rfl⟩
  · rename_i hpoint
    cases h
    refine ⟨.other (hnot hpoint (by simp)) rfl (fun _ => ?_) rfl, rfl⟩
    rw [hpoint]
    rfl
  · rename_i outputFrame hpoint
    split at h
    · rename_i decodedFrames hpush
      cases h
      refine ⟨.push (hnot hpoint (by simp)) rfl (by rw [hpoint]; rfl) rfl ?_,
        (BoundedQueue.pushOrDropOldest_eq_some hpush).2.2.1⟩
      rw [← hcapacity]
      exact BoundedQueue.size_pushOrDropOldest hpush
    · cases h
      exact ⟨.other (hnot hpoint (by simp)) rfl (by simp [DecodeThreadPoint.busy]) rfl, rfl⟩
  · cases h

theorem pipelineStep_gateMove {cfg : PipelineConfig} {s t : PipelineState δ}
    {event : PipelineEvent δ}
    (hcapacity : s.decodedFrames.capacity = max 1 cfg.decodeQueueCapacity)
    (h : pipelineStep cfg s event = some t) :
    GateMove cfg s event t ∧ t.decodedFrames.capacity = s.decodedFrames.capacity := by
  cases event with
  | signal =>
      cases h
      exact ⟨.other (by simp [AtGate]) rfl id rfl, rfl⟩
  | receiveThread input =>
      have hsame := receiveThreadStep_gateUntouched h
      exact ⟨hsame.move (by simp [AtGate]), hsame.2.2.2⟩
  | decodeThread input => exact decodeThreadStep_gateMove hcapacity h
  | mainThread input =>
      rcases mainThreadStep_gate h with hsame | ⟨hlog, hdecode, hsize, hsame⟩
      · exact ⟨hsame.move (by simp [AtGate]), hsame.2.2.2⟩
      · exact ⟨.drain (by simp [AtGate]) hlog (by rw [hdecode]) hsize, hsame⟩

/-! ### Runs -/

/-- No frame has been taken since the last skip when a frame without an IDR unit comes to
the gate while a keyframe is awaited. -/
def UndrainedAtGate (cfg : PipelineConfig) (s : PipelineState δ) (event : PipelineEvent δ) : Prop :=
  ∀ frame, AtGate s event frame → frame.isKeyframe = false → awaitsKeyframe s.log = true →
    cfg.decodeQueueCapacity = 0 ∨ drainedSinceSkip s.log = false

/-- While a keyframe is awaited nothing is pushed, so the queue is full until the render
loop takes a frame and has room from then on. -/
structure GateInv (cfg : PipelineConfig) (s : PipelineState δ) : Prop where
  gated : KeyframeGated s.log
  capacity : s.decodedFrames.capacity = max 1 cfg.decodeQueueCapacity
  idle : awaitsKeyframe s.log = true → s.decodeThread.busy = false
  full : awaitsKeyframe s.log = true → drainedSinceSkip s.log = false →
    cfg.decodeQueueCapacity ≤ s.decodedFrames.size
  room : awaitsKeyframe s.log = true → drainedSinceSkip s.log = true →
    0 < cfg.decodeQueueCapacity → s.decodedFrames.size < cfg.decodeQueueCapacity

theorem GateInv.start (cfg : PipelineConfig) :
    GateInv cfg (PipelineState.start cfg : PipelineState δ) where
  gated := keyframeGated_nil
  capacity := rfl
  idle := by simp [PipelineState.start, awaitsKeyframe]
  full := by simp [PipelineState.start, awaitsKeyframe]
  room := by simp [PipelineState.start, awaitsKeyframe]

theorem GateInv.size_le {cfg : PipelineConfig} {s : PipelineState δ} (hs : GateInv cfg s) :
    s.decodedFrames.size ≤ max 1 cfg.decodeQueueCapacity :=
  hs.capacity ▸ s.decodedFrames.size_le_capacity

theorem gateInv_step {cfg : PipelineConfig} {s t : PipelineState δ} {event : PipelineEvent δ}
    (hcond : UndrainedAtGate cfg s event) (hs : GateInv cfg s)
    (h : pipelineStep cfg s event = some t) : GateInv cfg t := by
  obtain ⟨hmove, hcapacity⟩ := pipelineStep_gateMove hs.capacity h
  have hcapacity' := hcapacity.trans hs.capacity
  cases hmove with
  | skip frame hgate hfull hframe hlog hsize hbusy =>
      refine ⟨?_, hcapacity', fun _ => hbusy, fun _ _ => hsize ▸ hfull, fun _ hdrained => ?_⟩
      · rw [hlog]
        exact keyframeGated_concat.mpr ⟨hs.gated, by simp⟩
      · simp [hlog, drainAfter] at hdrained
  | pass frame hgate hopen hlog hsize =>
      -- A predicted frame only passes where the queue has room.
      have hpass (hframe : frame.isKeyframe = false) : awaitsKeyframe s.log = false := by
        by_contra hawaits
        rw [Bool.not_eq_false] at hawaits
        have hroom : s.decodedFrames.size < cfg.decodeQueueCapacity := by simpa [hframe] using hopen
        rcases hcond frame hgate hframe hawaits with hzero | hdrained
        · omega
        · exact absurd (hs.full hawaits hdrained) (by omega)
      have hawaits : awaitsKeyframe t.log = false := by
        rw [hlog, awaitsKeyframe_concat, awaitAfter]
        cases hframe : frame.isKeyframe with
        | false => simp [hpass hframe]
        | true => simp
      refine ⟨?_, hcapacity', ?_, ?_, ?_⟩
      · rw [hlog, keyframeGated_concat]
        refine ⟨hs.gated, fun other hother => ?_⟩
        cases hother
        exact hpass
      · simp [hawaits]
      · simp [hawaits]
      · simp [hawaits]
  | push hgate hlog hbusy hbusy' hsize =>
      have hawaits : awaitsKeyframe t.log = false := by
        by_contra hawaits
        rw [Bool.not_eq_false, hlog] at hawaits
        rw [hs.idle hawaits] at hbusy
        cases hbusy
      exact ⟨hlog ▸ hs.gated, hcapacity', by simp [hawaits], by simp [hawaits], by simp [hawaits]⟩
  | drain hgate hlog hbusy hsize =>
      refine ⟨?_, hcapacity', ?_, ?_, ?_⟩
      · rw [hlog]
        exact keyframeGated_concat.mpr ⟨hs.gated, by simp⟩
      · intro hawaits
        rw [hlog, awaitsKeyframe_concat] at hawaits
        rw [hbusy]
        exact hs.idle hawaits
      · simp [hlog, drainAfter]
      · intro _ _ hpos
        have hle := hs.size_le
        omega
  | other hgate hlog hbusy hsize =>
      refine ⟨hlog ▸ hs.gated, hcapacity', fun hawaits => ?_, ?_, ?_⟩
      · rw [hlog] at hawaits
        by_contra hcontra
        rw [Bool.not_eq_false] at hcontra
        rw [hs.idle hawaits] at hbusy
        cases hbusy hcontra
      · rw [hlog, hsize]
        exact hs.full
      · rw [hlog, hsize]
        exact hs.room

/-- Where the queue has been drained, the gate lets the frame pass. -/
theorem not_keyframeGated_step {cfg : PipelineConfig} {s t : PipelineState δ}
    {event : PipelineEvent δ} (hcond : ¬ UndrainedAtGate cfg s event) (hs : GateInv cfg s)
    (h : pipelineStep cfg s event = some t) : ¬ KeyframeGated t.log := by
  rw [UndrainedAtGate] at hcond
  push Not at hcond
  obtain ⟨frame, hgate, hframe, hawaits, hcap, hdrained⟩ := hcond
  have hroom := hs.room hawaits (by simpa using hdrained) (Nat.pos_of_ne_zero hcap)
  have hpoint (other : ReceivedFrame) (hother : AtGate s event other) : other = frame := by
    have heq := hother.2.symm.trans hgate.2
    exact DecodeThreadPoint.gate.inj heq
  obtain ⟨hmove, -⟩ := pipelineStep_gateMove hs.capacity h
  cases hmove with
  | skip other hother hfull => omega
  | pass other hother hopen hlog hsize =>
      obtain rfl := hpoint other hother
      rw [hlog, keyframeGated_concat]
      rintro ⟨-, hpass⟩
      rw [hpass other rfl hframe] at hawaits
      cases hawaits
  | push hnot => exact absurd hgate (hnot frame)
  | drain hnot => exact absurd hgate (hnot frame)
  | other hnot => exact absurd hgate (hnot frame)

/-- A log that breaks the rule goes on breaking it. -/
theorem not_keyframeGated_kept {cfg : PipelineConfig} {s t : PipelineState δ}
    {event : PipelineEvent δ}
    (hs : ¬ KeyframeGated s.log ∧ s.decodedFrames.capacity = max 1 cfg.decodeQueueCapacity)
    (h : pipelineStep cfg s event = some t) :
    ¬ KeyframeGated t.log ∧ t.decodedFrames.capacity = max 1 cfg.decodeQueueCapacity := by
  obtain ⟨hmove, hcapacity⟩ := pipelineStep_gateMove hs.2 h
  refine ⟨fun hgated => hs.1 ?_, hcapacity.trans hs.2⟩
  cases hmove with
  | skip frame hgate hfull hframe hlog => exact (hlog ▸ hgated).of_concat
  | pass frame hgate hopen hlog => exact (hlog ▸ hgated).of_concat
  | push hgate hlog => exact hlog ▸ hgated
  | drain hgate hlog => exact (hlog ▸ hgated).of_concat
  | other hgate hlog => exact hlog ▸ hgated

/-- The decoder gets no frame without an IDR unit between a skipped frame and the next
keyframe exactly where the render loop has taken no frame since the last skip whenever
such a frame comes to the gate. -/
theorem runPipeline_keyframeGated_iff {cfg : PipelineConfig} {events : List (PipelineEvent δ)}
    {s : PipelineState δ} (hrun : runPipeline cfg events = some s) :
    KeyframeGated s.log ↔
      StepsMeet (pipelineStep cfg) (UndrainedAtGate cfg) (PipelineState.start cfg) events := by
  have hbad (s : PipelineState δ) (event : PipelineEvent δ) (t : PipelineState δ)
      (hcond : ¬ UndrainedAtGate cfg s event) (hs : GateInv cfg s)
      (h : pipelineStep cfg s event = some t) :
      ¬ KeyframeGated t.log ∧ t.decodedFrames.capacity = max 1 cfg.decodeQueueCapacity :=
    ⟨not_keyframeGated_step hcond hs h,
      (pipelineStep_gateMove hs.capacity h).2.trans hs.capacity⟩
  rcases runSteps_good_iff (pipelineStep cfg) (fun _ _ _ => gateInv_step) hbad
      (fun _ _ _ => not_keyframeGated_kept) (GateInv.start cfg) hrun with
    ⟨hmeet, hinv⟩ | ⟨hmeet, hgated, -⟩
  · exact ⟨fun _ => hmeet, fun _ => hinv.gated⟩
  · exact ⟨fun h => absurd h hgated, fun h => absurd h hmeet⟩

/-- A frame of one slice that is not an IDR slice. -/
def predictedFrame (sequence : ℕ) : ReceivedFrame :=
  { (default : ReceivedFrame) with receiveTimestampNs := sequence, payload := [0, 0, 0, 1, 0x41] }

/-- The receive thread gets a frame and puts it into the queue. -/
def frameArrives (frame : ReceivedFrame) : List (PipelineEvent Unit) :=
  [.receiveThread .proceed, .receiveThread (.received (some frame)), .receiveThread .proceed]

/-- The decode thread takes a frame and passes the gate or skips the frame. -/
def frameAtGate : List (PipelineEvent Unit) :=
  List.replicate 3 (.decodeThread .proceed)

/-- One frame fills the queue, the next one is skipped; the render loop takes the first, and
the third is decoded. -/
def drainedQueueEvents : List (PipelineEvent Unit) :=
  frameArrives (predictedFrame 1) ++ frameAtGate ++
    [.decodeThread (.decodeReturned (some ()) 0 0), .decodeThread .proceed] ++
    frameArrives (predictedFrame 2) ++ frameAtGate ++
    [.mainThread (.key (-1)), .mainThread .proceed] ++
    frameArrives (predictedFrame 3) ++ frameAtGate

theorem drainedQueue_log : ∃ s : PipelineState Unit,
    runPipeline { decodeQueueCapacity := 1 } drainedQueueEvents = some s ∧
      s.log = [.passed (predictedFrame 1), .skipped (predictedFrame 2), .drained,
        .passed (predictedFrame 3)] :=
  ⟨_, rfl, rfl⟩

theorem drainedQueue_keyframeGated_iff : ∃ s : PipelineState Unit,
    runPipeline { decodeQueueCapacity := 1 } drainedQueueEvents = some s ∧
      (KeyframeGated s.log ↔ StepsMeet (pipelineStep { decodeQueueCapacity := 1 })
        (UndrainedAtGate { decodeQueueCapacity := 1 })
        (PipelineState.start { decodeQueueCapacity := 1 }) drainedQueueEvents) := by
  obtain ⟨s, hrun, -⟩ := drainedQueue_log
  exact ⟨s, hrun, runPipeline_keyframeGated_iff hrun⟩

theorem drainedQueue_not_keyframeGated : ∃ s : PipelineState Unit,
    runPipeline { decodeQueueCapacity := 1 } drainedQueueEvents = some s ∧
      ¬ KeyframeGated s.log := by
  obtain ⟨s, hrun, hlog⟩ := drainedQueue_log
  refine ⟨s, hrun, fun h => ?_⟩
  obtain ⟨keyframe, hmem, -⟩ := h [.passed (predictedFrame 1)] (predictedFrame 2) [.drained]
    (predictedFrame 3) [] hlog rfl
  simp at hmem

end AvProject.Client
