import AvProject.Client.Pipeline

/-!
The end of the pipeline. `request_stop` closes both queues, but only in the thread whose
exchange finds the flag clear; the signal handler sets the flag and closes nothing. What
the threads do to the flag and the queues is first reduced to a protocol of three bits
and the places where a thread is closing; the pipeline follows it step by step.
-/

namespace AvProject.Client

open AvProject.Lib AvProject.Protocol

variable {δ : Type}

/-! ### The stop protocol -/

/-- The flag and the state of the two queues. -/
@[ext] structure StopFlags where
  stopRequested : Bool
  receivedClosed : Bool
  decodedClosed : Bool

/-- One step of a thread that calls `request_stop`: what it does to the flags, and where
it stands between its exchange and its second `Close`, before and after. -/
inductive StopMove : StopFlags → Option StopPoint → StopFlags → Option StopPoint → Prop
  | idle (flags : StopFlags) : StopMove flags none flags none
  /-- The exchange finds the flag clear. -/
  | win (flags : StopFlags) (hclear : flags.stopRequested = false) :
      StopMove flags none { flags with stopRequested := true } (some .closeReceived)
  | closeReceived (flags : StopFlags) :
      StopMove flags (some .closeReceived) { flags with receivedClosed := true }
        (some .closeDecoded)
  | closeDecoded (flags : StopFlags) :
      StopMove flags (some .closeDecoded) { flags with decodedClosed := true } none

/-- How far the stop has come, over the flags and the closing places of the two threads. -/
inductive StopPhase : StopFlags → Option StopPoint → Option StopPoint → Prop
  | running : StopPhase ⟨false, false, false⟩ none none
  | receiverCloses : StopPhase ⟨true, false, false⟩ (some .closeReceived) none
  | mainCloses : StopPhase ⟨true, false, false⟩ none (some .closeReceived)
  | receiverClosesDecoded : StopPhase ⟨true, true, false⟩ (some .closeDecoded) none
  | mainClosesDecoded : StopPhase ⟨true, true, false⟩ none (some .closeDecoded)
  | stopped : StopPhase ⟨true, true, true⟩ none none

/-- The flag is set and nobody will close the queues. -/
def Abandoned (flags : StopFlags) (receiver main : Option StopPoint) : Prop :=
  flags = ⟨true, false, false⟩ ∧ receiver = none ∧ main = none

theorem StopPhase.receiverMove {flags flags' : StopFlags} {receiver receiver' main : Option StopPoint}
    (h : StopPhase flags receiver main) (hmove : StopMove flags receiver flags' receiver') :
    StopPhase flags' receiver' main := by
  cases hmove with
  | idle => exact h
  | win hclear =>
      cases h with
      | running => exact .receiverCloses
      | mainCloses => cases hclear
      | mainClosesDecoded => cases hclear
      | stopped => cases hclear
  | closeReceived =>
      cases h
      exact .receiverClosesDecoded
  | closeDecoded =>
      cases h
      exact .stopped

theorem StopPhase.mainMove {flags flags' : StopFlags} {receiver main main' : Option StopPoint}
    (h : StopPhase flags receiver main) (hmove : StopMove flags main flags' main') :
    StopPhase flags' receiver main' := by
  cases hmove with
  | idle => exact h
  | win hclear =>
      cases h with
      | running => exact .mainCloses
      | receiverCloses => cases hclear
      | receiverClosesDecoded => cases hclear
      | stopped => cases hclear
  | closeReceived =>
      cases h
      exact .mainClosesDecoded
  | closeDecoded =>
      cases h
      exact .stopped

/-- A signal that finds the flag clear finds both queues open and nobody closing them. -/
theorem StopPhase.signal {flags : StopFlags} {receiver main : Option StopPoint}
    (h : StopPhase flags receiver main) (hclear : flags.stopRequested = false) :
    Abandoned { flags with stopRequested := true } receiver main := by
  cases h with
  | running => exact ⟨rfl, rfl, rfl⟩
  | receiverCloses => cases hclear
  | mainCloses => cases hclear
  | receiverClosesDecoded => cases hclear
  | mainClosesDecoded => cases hclear
  | stopped => cases hclear

/-- Once the flag is set and main is not closing, the queues are closed unless the receive
thread still has to close them. -/
theorem StopPhase.closed_iff {flags : StopFlags} {receiver : Option StopPoint}
    (h : StopPhase flags receiver none) (hset : flags.stopRequested = true) :
    (flags.receivedClosed = true ∧ flags.decodedClosed = true) ↔ receiver = none := by
  cases h with
  | running => cases hset
  | receiverCloses => simp
  | receiverClosesDecoded => simp
  | stopped => simp

/-- An exchange that comes after the signal closes nothing. -/
theorem Abandoned.move {flags flags' : StopFlags} {own own' other : Option StopPoint}
    (h : Abandoned flags own other) (hmove : StopMove flags own flags' own') :
    Abandoned flags' own' other := by
  obtain ⟨rfl, rfl, rfl⟩ := h
  cases hmove with
  | idle => exact ⟨rfl, rfl, rfl⟩
  | win hclear => cases hclear

/-! ### The pipeline follows the protocol -/

def stopFlags (s : PipelineState δ) : StopFlags :=
  ⟨s.stopRequested, s.receivedFrames.closed, s.decodedFrames.closed⟩

/-- `point`, where it is after the exchange. -/
def StopPoint.closing : StopPoint → Option StopPoint
  | .exchange => none
  | point => some point

def ReceiveThreadPoint.closing : ReceiveThreadPoint → Option StopPoint
  | .requestStop point => point.closing
  | _ => none

def MainPoint.closing : MainPoint δ → Option StopPoint
  | .requestStop _ point => point.closing
  | _ => none

/-- The main thread waits for the other two. -/
def AtJoins (s : PipelineState δ) : Prop :=
  s.mainThread = .joinReceive ∨ s.mainThread = .joinDecode

/-- The main thread has returned from a `request_stop`. -/
def MainPoint.left : MainPoint δ → Bool
  | .closeClient _ | .joinReceive | .joinDecode | .exited => true
  | _ => false

@[simp] theorem setPipelineError_stopFlags (s : PipelineState δ) (message : String) :
    stopFlags (setPipelineError s message) = stopFlags s := by
  rw [setPipelineError]
  split <;> rfl

theorem setPipelineError_mainThread (s : PipelineState δ) (message : String) :
    (setPipelineError s message).mainThread = s.mainThread := by
  rw [setPipelineError]
  split <;> rfl

theorem setPipelineError_receiveThread (s : PipelineState δ) (message : String) :
    (setPipelineError s message).receiveThread = s.receiveThread := by
  rw [setPipelineError]
  split <;> rfl

/-- `request_stop` leaves the threads where they are and does one move of the protocol. -/
theorem requestStopStep_spec {s t : PipelineState δ} {point : StopPoint}
    {next : Option StopPoint} (h : requestStopStep s point = (t, next)) :
    t.receiveThread = s.receiveThread ∧ t.mainThread = s.mainThread ∧
      StopMove (stopFlags s) point.closing (stopFlags t) (next.bind StopPoint.closing) := by
  cases point with
  | exchange =>
      obtain ⟨rfl, rfl⟩ := Prod.mk.inj h
      refine ⟨rfl, rfl, ?_⟩
      cases hstop : s.stopRequested with
      | false => simpa [stopFlags, hstop, StopPoint.closing] using StopMove.win (stopFlags s) hstop
      | true => simpa [stopFlags, hstop, StopPoint.closing] using StopMove.idle (stopFlags s)
  | closeReceived =>
      obtain ⟨rfl, rfl⟩ := Prod.mk.inj h
      exact ⟨rfl, rfl, StopMove.closeReceived (stopFlags s)⟩
  | closeDecoded =>
      obtain ⟨rfl, rfl⟩ := Prod.mk.inj h
      exact ⟨rfl, rfl, StopMove.closeDecoded (stopFlags s)⟩

/-- The flag is set when `request_stop` returns, if the queues are closed after it is set. -/
theorem requestStopStep_returns {s t : PipelineState δ} {point : StopPoint}
    (hflag : point ≠ .exchange → s.stopRequested = true)
    (h : requestStopStep s point = (t, none)) : t.stopRequested = true := by
  cases point with
  | exchange =>
      obtain ⟨rfl, -⟩ := Prod.mk.inj h
      rfl
  | closeReceived => simp [requestStopStep] at h
  | closeDecoded =>
      obtain ⟨rfl, -⟩ := Prod.mk.inj h
      exact hflag (by simp)

/-- The receive thread does one move of the protocol. -/
theorem receiveThreadStep_stopMove {s t : PipelineState δ} {input : ReceiveInput}
    (h : receiveThreadStep s input = some t) :
    StopMove (stopFlags s) s.receiveThread.closing (stopFlags t) t.receiveThread.closing ∧
      t.mainThread = s.mainThread := by
  have idle (hs : s.receiveThread.closing = none) (ht : t.receiveThread.closing = none)
      (hflags : stopFlags t = stopFlags s) :
      StopMove (stopFlags s) s.receiveThread.closing (stopFlags t) t.receiveThread.closing := by
    rw [hs, ht, hflags]
    exact StopMove.idle _
  rw [receiveThreadStep.eq_def] at h
  split at h
  · rename_i hpoint
    cases h
    refine ⟨idle (by rw [hpoint]; rfl) ?_ rfl, rfl⟩
    show ReceiveThreadPoint.closing (if _ then _ else _) = none
    split <;> rfl
  · rename_i hpoint
    cases h
    exact ⟨idle (by rw [hpoint]; rfl) rfl rfl, rfl⟩
  · rename_i hpoint
    cases h
    exact ⟨idle (by rw [hpoint]; rfl) rfl rfl, rfl⟩
  · rename_i frame hpoint
    split at h
    · rename_i receivedFrames hpush
      cases h
      obtain ⟨hopen, hopen', -, -⟩ := BoundedQueue.pushOrDropOldest_eq_some hpush
      refine ⟨idle (by rw [hpoint]; rfl) rfl ?_, rfl⟩
      ext <;> simp [stopFlags, hopen, hopen']
    · cases h
      exact ⟨idle (by rw [hpoint]; rfl) rfl rfl, rfl⟩
  · rename_i hpoint
    split at h
    · cases h
      exact ⟨idle (by rw [hpoint]; rfl) rfl rfl, rfl⟩
    · cases h
      exact ⟨idle (by rw [hpoint]; rfl) rfl rfl, rfl⟩
  · rename_i hpoint
    split at h
    · cases h
      exact ⟨idle (by rw [hpoint]; rfl) rfl rfl, rfl⟩
    · cases h
      exact ⟨idle (by rw [hpoint]; rfl) rfl rfl, rfl⟩
  · rename_i hpoint
    cases h
    exact ⟨idle (by rw [hpoint]; rfl) rfl rfl, rfl⟩
  · rename_i hpoint
    cases h
    exact ⟨idle (by rw [hpoint]; rfl) rfl rfl, rfl⟩
  · rename_i hpoint
    split at h
    · cases h
      exact ⟨idle (by rw [hpoint]; rfl) rfl rfl, rfl⟩
    · cases h
      exact ⟨idle (by rw [hpoint]; rfl) rfl (setPipelineError_stopFlags _ _),
        setPipelineError_mainThread _ _⟩
  · rename_i point hpoint
    split at h
    · rename_i u next hstop
      cases h
      obtain ⟨-, hmain, hmove⟩ := requestStopStep_spec hstop
      exact ⟨by rw [hpoint]; exact hmove, hmain⟩
    · rename_i u hstop
      cases h
      obtain ⟨-, hmain, hmove⟩ := requestStopStep_spec hstop
      exact ⟨by rw [hpoint]; exact hmove, hmain⟩
  · cases h

/-- The decode thread takes no part in the protocol. -/
theorem decodeThreadStep_stopFlags {cfg : PipelineConfig} {s t : PipelineState δ}
    {input : DecodeInput δ} (h : decodeThreadStep cfg s input = some t) :
    stopFlags t = stopFlags s ∧ t.receiveThread = s.receiveThread ∧
      t.mainThread = s.mainThread := by
  rw [decodeThreadStep.eq_def] at h
  split at h
  · cases h
    exact ⟨rfl, rfl, rfl⟩
  · split at h
    · split at h
      · rename_i frame receivedFrames hpop
        cases h
        obtain ⟨-, hclosed, -⟩ := BoundedQueue.tryPop_eq_some hpop
        refine ⟨?_, rfl, rfl⟩
        ext <;> simp [stopFlags, hclosed]
      · cases h
        exact ⟨rfl, rfl, rfl⟩
    · cases h
  · split at h
    · cases h
      exact ⟨rfl, rfl, rfl⟩
    · cases h
      exact ⟨rfl, rfl, rfl⟩
  · cases h
    exact ⟨rfl, rfl, rfl⟩
  · cases h
    exact ⟨rfl, rfl, rfl⟩
  · split at h
    · rename_i decodedFrames hpush
      cases h
      obtain ⟨hopen, hopen', -, -⟩ := BoundedQueue.pushOrDropOldest_eq_some hpush
      refine ⟨?_, rfl, rfl⟩
      ext <;> simp [stopFlags, hopen, hopen']
    · cases h
      exact ⟨rfl, rfl, rfl⟩
  · cases h

/-- The main thread does one move of the protocol, and where it leaves a `request_stop`
the flag is set. -/
theorem mainThreadStep_stopMove {s t : PipelineState δ} {input : MainInput}
    (h : mainThreadStep s input = some t) :
    StopMove (stopFlags s) s.mainThread.closing (stopFlags t) t.mainThread.closing ∧
      t.receiveThread = s.receiveThread ∧
      (t.mainThread.left = true →
        (s.mainThread.left = true → s.stopRequested = true) →
        (s.mainThread.closing ≠ none → s.stopRequested = true) → t.stopRequested = true) := by
  have idle (hs : s.mainThread.closing = none) (ht : t.mainThread.closing = none)
      (hflags : stopFlags t = stopFlags s) :
      StopMove (stopFlags s) s.mainThread.closing (stopFlags t) t.mainThread.closing := by
    rw [hs, ht, hflags]
    exact StopMove.idle _
  rw [mainThreadStep.eq_def] at h
  split at h
  · rename_i key hpoint
    split at h
    · cases h
      exact ⟨idle (by rw [hpoint]; rfl) rfl rfl, rfl, by simp [MainPoint.left]⟩
    · cases h
      have hnext (paused : Bool) :
          (if paused then .pollKey else .drain none : MainPoint δ).closing = none ∧
          (if paused then .pollKey else .drain none : MainPoint δ).left = false := by
        cases paused <;> exact ⟨rfl, rfl⟩
      refine ⟨idle (by rw [hpoint]; rfl) (hnext _).1 rfl, rfl, fun hleft => ?_⟩
      rw [(hnext _).2] at hleft
      cases hleft
  · rename_i latest hpoint
    split at h
    · rename_i frame decodedFrames hpop
      cases h
      obtain ⟨-, hclosed, -⟩ := BoundedQueue.tryPop_eq_some hpop
      refine ⟨idle (by rw [hpoint]; rfl) rfl ?_, rfl, by simp [MainPoint.left]⟩
      ext <;> simp [stopFlags, hclosed]
    · split at h
      · cases h
        exact ⟨idle (by rw [hpoint]; rfl) rfl rfl, rfl, by simp [MainPoint.left]⟩
      · cases h
        exact ⟨idle (by rw [hpoint]; rfl) rfl rfl, rfl, by simp [MainPoint.left]⟩
  · rename_i hpoint
    cases h
    refine ⟨idle (by rw [hpoint]; rfl) ?_ rfl, rfl, ?_⟩
    · simp only
      split <;> rfl
    · simp only
      split <;> simp [MainPoint.left]
  · rename_i hpoint
    cases h
    exact ⟨idle (by rw [hpoint]; rfl) rfl (setPipelineError_stopFlags _ _),
      setPipelineError_receiveThread _ _, by simp [MainPoint.left]⟩
  · rename_i hpoint
    cases h
    exact ⟨idle (by rw [hpoint]; rfl) rfl (setPipelineError_stopFlags _ _),
      setPipelineError_receiveThread _ _, by simp [MainPoint.left]⟩
  · rename_i hpoint
    cases h
    exact ⟨idle (by rw [hpoint]; rfl) rfl rfl, rfl, by simp [MainPoint.left]⟩
  · rename_i site point hpoint
    split at h
    · rename_i u next hstop
      cases h
      obtain ⟨hreceive, -, hmove⟩ := requestStopStep_spec hstop
      exact ⟨by rw [hpoint]; exact hmove, hreceive, by simp [MainPoint.left]⟩
    · rename_i u hstop
      cases h
      obtain ⟨hreceive, -, hmove⟩ := requestStopStep_spec hstop
      refine ⟨by rw [hpoint]; exact hmove, hreceive, fun _ _ hclosing => ?_⟩
      show u.stopRequested = true
      refine requestStopStep_returns (fun hne => hclosing ?_) hstop
      rw [hpoint]
      cases point with
      | exchange => exact absurd rfl hne
      | closeReceived => simp [MainPoint.closing, StopPoint.closing]
      | closeDecoded => simp [MainPoint.closing, StopPoint.closing]
  · rename_i hpoint
    cases h
    exact ⟨idle (by rw [hpoint]; rfl) rfl rfl, rfl, by simp [MainPoint.left]⟩
  · rename_i hpoint
    cases h
    refine ⟨idle (by rw [hpoint]; rfl) rfl rfl, rfl, fun _ hleft _ => ?_⟩
    exact hleft (by rw [hpoint]; rfl)
  · rename_i hpoint
    split at h
    · cases h
      refine ⟨idle (by rw [hpoint]; rfl) rfl rfl, rfl, fun _ hleft _ => ?_⟩
      exact hleft (by rw [hpoint]; rfl)
    · cases h
  · rename_i hpoint
    split at h
    · cases h
      refine ⟨idle (by rw [hpoint]; rfl) rfl rfl, rfl, fun _ hleft _ => ?_⟩
      exact hleft (by rw [hpoint]; rfl)
    · cases h
  · cases h

/-! ### Runs -/

/-- A signal only comes once the flag is set. -/
def SignalAfterStop (s : PipelineState δ) (event : PipelineEvent δ) : Prop :=
  event = .signal → s.stopRequested = true

/-- As long as no signal comes too early, the stop follows its phases, and main does not
go past a `request_stop` with the flag clear. -/
structure StopInv (s : PipelineState δ) : Prop where
  phase : StopPhase (stopFlags s) s.receiveThread.closing s.mainThread.closing
  left : s.mainThread.left = true → s.stopRequested = true

theorem StopInv.start (cfg : PipelineConfig) : StopInv (PipelineState.start cfg : PipelineState δ) :=
  ⟨.running, by simp [PipelineState.start, MainPoint.left]⟩

/-- The flag is never cleared. -/
theorem StopMove.stopRequested {flags flags' : StopFlags} {own own' : Option StopPoint}
    (h : StopMove flags own flags' own') (hset : flags.stopRequested = true) :
    flags'.stopRequested = true := by
  cases h with
  | idle => exact hset
  | win => rfl
  | closeReceived => exact hset
  | closeDecoded => exact hset

theorem StopPhase.stopRequested_of_main {flags : StopFlags} {receiver main : Option StopPoint}
    (h : StopPhase flags receiver main) (hmain : main ≠ none) : flags.stopRequested = true := by
  cases h <;> simp_all

theorem stopInv_step {cfg : PipelineConfig} {s t : PipelineState δ} {event : PipelineEvent δ}
    (hsignal : SignalAfterStop s event) (hs : StopInv s)
    (h : pipelineStep cfg s event = some t) : StopInv t := by
  cases event with
  | signal =>
      have hflags : stopFlags { s with stopRequested := true } = stopFlags s := by
        ext <;> simp [stopFlags, hsignal rfl]
      cases h
      exact ⟨hflags ▸ hs.phase, fun _ => rfl⟩
  | receiveThread input =>
      obtain ⟨hmove, hmain⟩ := receiveThreadStep_stopMove h
      refine ⟨hmain ▸ hs.phase.receiverMove hmove, fun hleft => ?_⟩
      exact hmove.stopRequested (hs.left (hmain ▸ hleft))
  | decodeThread input =>
      obtain ⟨hflags, hreceive, hmain⟩ := decodeThreadStep_stopFlags h
      refine ⟨by rw [hflags, hreceive, hmain]; exact hs.phase, fun hleft => ?_⟩
      have hset : (stopFlags s).stopRequested = true := hs.left (hmain ▸ hleft)
      exact (congrArg StopFlags.stopRequested hflags).trans hset
  | mainThread input =>
      obtain ⟨hmove, hreceive, hleft⟩ := mainThreadStep_stopMove h
      refine ⟨hreceive ▸ hs.phase.mainMove hmove, fun hgone => ?_⟩
      exact hleft hgone hs.left hs.phase.stopRequested_of_main

theorem abandoned_of_signal {cfg : PipelineConfig} {s t : PipelineState δ}
    {event : PipelineEvent δ} (hsignal : ¬ SignalAfterStop s event) (hs : StopInv s)
    (h : pipelineStep cfg s event = some t) :
    Abandoned (stopFlags t) t.receiveThread.closing t.mainThread.closing := by
  rw [SignalAfterStop, Classical.not_imp, Bool.not_eq_true] at hsignal
  obtain ⟨rfl, hclear⟩ := hsignal
  cases h
  exact hs.phase.signal hclear

/-- Nobody makes up for it. -/
theorem abandoned_step {cfg : PipelineConfig} {s t : PipelineState δ} {event : PipelineEvent δ}
    (hs : Abandoned (stopFlags s) s.receiveThread.closing s.mainThread.closing)
    (h : pipelineStep cfg s event = some t) :
    Abandoned (stopFlags t) t.receiveThread.closing t.mainThread.closing := by
  cases event with
  | signal =>
      have hset : s.stopRequested = true := congrArg StopFlags.stopRequested hs.1
      have hflags : stopFlags { s with stopRequested := true } = stopFlags s := by
        ext <;> simp [stopFlags, hset]
      cases h
      exact hflags ▸ hs
  | receiveThread input =>
      obtain ⟨hmove, hmain⟩ := receiveThreadStep_stopMove h
      exact hmain ▸ hs.move hmove
  | decodeThread input =>
      obtain ⟨hflags, hreceive, hmain⟩ := decodeThreadStep_stopFlags h
      rw [hflags, hreceive, hmain]
      exact hs
  | mainThread input =>
      obtain ⟨hmove, hreceive, -⟩ := mainThreadStep_stopMove h
      obtain ⟨hflags, hreceiver, hmain⟩ := hs
      obtain ⟨hflags', hmain', -⟩ : Abandoned (stopFlags t) t.mainThread.closing none :=
        Abandoned.move ⟨hflags, hmain, rfl⟩ hmove
      exact ⟨hflags', hreceive ▸ hreceiver, hmain'⟩

/-- The decode thread sleeps in `WaitPop` whatever the threads and the signals do. -/
def Stranded (cfg : PipelineConfig) (s : PipelineState δ) : Prop :=
  ∀ events t, runSteps (pipelineStep cfg) s events = some t → t.decodeThread = .waitPop

/-- A closed queue lets the thread go on. -/
theorem not_stranded_of_closed (cfg : PipelineConfig) {s : PipelineState δ}
    (hclosed : s.receivedFrames.closed = true) : ¬ Stranded cfg s := by
  intro hstranded
  have hpoint : s.decodeThread = .waitPop := hstranded [] s rfl
  have hready : s.receivedFrames.ready = true := by simp [BoundedQueue.ready, hclosed]
  cases hpop : s.receivedFrames.tryPop with
  | none =>
      have hstep := hstranded [.decodeThread .proceed] { s with decodeThread := .finished } (by
        simp [runSteps, pipelineStep, decodeThreadStep, hpoint, hready, hpop])
      cases hstep
  | some result =>
      have hstep := hstranded [.decodeThread .proceed] { s with
          receivedFrames := result.2, decodeThread := .gate result.1 } (by
        simp [runSteps, pipelineStep, decodeThreadStep, hpoint, hready, hpop])
      cases hstep

/-- At the joins both queues are closed, and the decode thread can be woken, exactly where
no signal has come before a `request_stop` set the flag and the receive thread is not
between its exchange and its second `Close`. -/
theorem joins_closed_iff {cfg : PipelineConfig} {events : List (PipelineEvent δ)}
    {s : PipelineState δ} (hrun : runPipeline cfg events = some s) (hjoin : AtJoins s) :
    ((s.receivedFrames.closed = true ∧ s.decodedFrames.closed = true) ∧ ¬ Stranded cfg s) ↔
      StepsMeet (pipelineStep cfg) SignalAfterStop (PipelineState.start cfg) events ∧
        s.receiveThread.closing = none := by
  have hmain : s.mainThread.closing = none := by
    rcases hjoin with hjoin | hjoin <;> rw [hjoin] <;> rfl
  rcases runSteps_good_iff (pipelineStep cfg) (fun _ _ _ => stopInv_step)
      (fun _ _ _ => abandoned_of_signal) (fun _ _ _ => abandoned_step) (StopInv.start cfg) hrun with
    ⟨hmeet, hinv⟩ | ⟨hmeet, hbad⟩
  · have hset : s.stopRequested = true := hinv.left (by
      rcases hjoin with hjoin | hjoin <;> rw [hjoin] <;> rfl)
    have hclosed : (s.receivedFrames.closed = true ∧ s.decodedFrames.closed = true) ↔
        s.receiveThread.closing = none :=
      (hmain ▸ hinv.phase).closed_iff hset
    constructor
    · rintro ⟨h, -⟩
      exact ⟨hmeet, hclosed.mp h⟩
    · rintro ⟨-, hreceiver⟩
      have h := hclosed.mpr hreceiver
      exact ⟨h, not_stranded_of_closed cfg h.1⟩
  · constructor
    · rintro ⟨⟨hreceived, -⟩, -⟩
      have hopen : s.receivedFrames.closed = false := congrArg StopFlags.receivedClosed hbad.1
      rw [hopen] at hreceived
      cases hreceived
    · rintro ⟨h, -⟩
      exact absurd h hmeet

/-- With the receive thread gone and main in the second join, only a closed queue would
wake the decode thread. -/
theorem stranded_of_finished {cfg : PipelineConfig} {s : PipelineState δ}
    (hopen : s.receivedFrames.closed = false) (hempty : s.receivedFrames.queue = [])
    (hreceive : s.receiveThread = .finished) (hdecode : s.decodeThread = .waitPop)
    (hmain : s.mainThread = .joinDecode) : Stranded cfg s := by
  intro events t hrun
  let Asleep (s : PipelineState δ) : Prop :=
    s.receivedFrames.ready = false ∧ s.receiveThread = .finished ∧
      s.decodeThread = .waitPop ∧ s.mainThread = .joinDecode
  have hstep (s : PipelineState δ) (event : PipelineEvent δ) (t : PipelineState δ)
      (hs : Asleep s) (h : pipelineStep cfg s event = some t) : Asleep t := by
    obtain ⟨hready, hreceive, hdecode, hmain⟩ := hs
    cases event with
    | signal =>
        cases h
        exact ⟨hready, hreceive, hdecode, hmain⟩
    | receiveThread input => simp [pipelineStep, receiveThreadStep, hreceive] at h
    | decodeThread input =>
        cases input <;> simp [pipelineStep, decodeThreadStep, hdecode, hready] at h
    | mainThread input =>
        cases input <;> simp [pipelineStep, mainThreadStep, hmain, hdecode] at h
  have hasleep : Asleep s :=
    ⟨by simp [BoundedQueue.ready, hopen, hempty], hreceive, hdecode, hmain⟩
  exact (runSteps_invariant (pipelineStep cfg) hstep hasleep hrun).2.2.1

/-- The quit key, with both other threads still at their first statement. -/
def quitEvents : List (PipelineEvent Unit) :=
  .mainThread (.key 113) :: List.replicate 6 (.mainThread .proceed)

theorem quit_closed_iff : ∃ s : PipelineState Unit, runPipeline {} quitEvents = some s ∧
    AtJoins s ∧
    (((s.receivedFrames.closed = true ∧ s.decodedFrames.closed = true) ∧ ¬ Stranded {} s) ↔
      StepsMeet (pipelineStep {}) SignalAfterStop (PipelineState.start {}) quitEvents ∧
        s.receiveThread.closing = none) :=
  ⟨_, rfl, .inl rfl, joins_closed_iff rfl (.inl rfl)⟩

/-- A signal while the receive thread waits for a frame and the decode thread for the
receive thread. The main loop finds nothing to render and leaves; closing the client ends
`ReceiveFrame`. -/
def sigintEvents : List (PipelineEvent Unit) :=
  [.receiveThread .proceed, .decodeThread .proceed, .signal, .mainThread (.key (-1)),
    .mainThread .proceed, .mainThread .proceed, .mainThread .proceed, .mainThread .proceed,
    .receiveThread (.received none), .receiveThread .proceed, .mainThread .proceed]

theorem sigint_stranded : ∃ s : PipelineState Unit, runPipeline {} sigintEvents = some s ∧
    AtJoins s ∧ s.receivedFrames.closed = false ∧ s.decodedFrames.closed = false ∧
    Stranded {} s :=
  ⟨_, rfl, .inr rfl, rfl, rfl, stranded_of_finished rfl rfl rfl rfl rfl⟩

end AvProject.Client
