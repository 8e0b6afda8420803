import AvProject.Server.FrameNumbers
import AvProject.Server.ThreadSafeQueue

/-!
`CaptureModule`, whose threads call the capture device. A device without raw frames has one
thread, which captures and encodes; another one has a thread that captures into a queue and one
that encodes from it. Whatever the threads and the queue do, the module calls the device like
anybody else, and broadcasts the frames that the calls return.
-/

namespace AvProject.Server

open AvProject.Lib

/-! ### The module -/

structure CaptureModule where
  device : CaptureDevice
  /-- `capture.enabled`. -/
  captureEnabled : Bool := true
  running : Bool := false
  rawQueue : List RawCaptureFrame := []
  /-- There is a frame handler. -/
  bound : Bool := true
  /-- What the frame handler has been given. -/
  broadcast : List EncodedFrame := []

/-- A call of the module or one round of one of its threads, with the answers it meets with. -/
inductive CaptureModuleEvent
  | start (deviceStat : Option Bool) (opens : Bool) (setup : DriverSetup) (x264Opens : Bool)
  | captureLoop (answers : CaptureAnswers)
  | capturePump (answers : CaptureAnswers)
  | encodePump (answers : CaptureAnswers)
  | unbindFrameHandler
  | stop

namespace CaptureModule

/-- `Capture::start`. -/
def startCapture (m : CaptureModule) (deviceStat : Option Bool) (opens : Bool)
    (setup : DriverSetup) (x264Opens : Bool) : CaptureDevice × Bool :=
  if !m.captureEnabled then (m.device, true)
  else
    let (device, isOpen) := m.device.openDevice deviceStat opens
    if !isOpen then (device, false)
    else
      let (device, started) := device.start setup x264Opens
      if !started then (device.close, false) else (device, true)

def start (m : CaptureModule) (deviceStat : Option Bool) (opens : Bool) (setup : DriverSetup)
    (x264Opens : Bool) : CaptureModule :=
  let (device, started) := m.startCapture deviceStat opens setup x264Opens
  { m with device, running := started }

/-- The frame handler gets the frame, if there are both. -/
def handFrame (m : CaptureModule) (device : CaptureDevice) (frame : Option EncodedFrame) :
    CaptureModule :=
  { m with
    device
    broadcast := if m.bound then m.broadcast ++ frame.toList else m.broadcast }

def captureLoop (m : CaptureModule) (answers : CaptureAnswers) : CaptureModule :=
  let (device, frame) := m.device.captureFrame answers
  m.handFrame device frame

def capturePump (m : CaptureModule) (answers : CaptureAnswers) : CaptureModule :=
  match m.device.captureRawFrame answers with
  | none => m
  | some raw =>
      { m with rawQueue := (ThreadSafeQueue.pushDropOldestCountDropped raw 3 m.rawQueue).2 }

def encodePump (m : CaptureModule) (answers : CaptureAnswers) : CaptureModule :=
  match m.rawQueue with
  -- the wait for a raw frame has timed out
  | [] => m
  | raw :: rest =>
      let (device, frame) := m.device.encodeRawFrame (some raw) answers
      { m with rawQueue := rest }.handFrame device frame

/-- The threads have ended before the device is stopped. -/
def stop (m : CaptureModule) : CaptureModule :=
  { m with device := m.device.stop.close, running := false }

/-- One event; `none` where it cannot happen: there is one capturing thread, and which one the
device decides. -/
def step (m : CaptureModule) : CaptureModuleEvent → Option CaptureModule
  | .start deviceStat opens setup x264Opens =>
      if m.running then none else some (m.start deviceStat opens setup x264Opens)
  | .captureLoop answers =>
      if m.running && !m.device.supportsRawCapture then some (m.captureLoop answers) else none
  | .capturePump answers =>
      if m.running && m.device.supportsRawCapture then some (m.capturePump answers) else none
  | .encodePump answers =>
      if m.running && m.device.supportsRawCapture then some (m.encodePump answers) else none
  | .unbindFrameHandler => some { m with bound := false }
  | .stop => if m.running then some m.stop else none

end CaptureModule

/-! ### Its calls of the device -/

/-- The module has got where it is by calls of the device `d`, and has broadcast the frames that
these returned, until the handler was taken away. -/
def CallsDevice (d : CaptureDevice) (m : CaptureModule) : Prop :=
  ∃ calls r, runSteps CaptureRun.step { device := d } calls = some r ∧ r.device = m.device ∧
    m.broadcast <+: r.returned ∧ (m.bound = true → m.broadcast = r.returned)

namespace CallsDevice

variable {d : CaptureDevice} {m : CaptureModule}

/-- One more call. -/
theorem afterCall (h : CallsDevice d m) (call : DeviceCall) :
    CallsDevice d (m.handFrame (m.device.call call).1 (m.device.call call).2) := by
  obtain ⟨calls, r, hrun, hdevice, hinitial, hbound⟩ := h
  rw [← hdevice]
  refine ⟨calls ++ [call], r.afterCall call, ?_, rfl, ?_, ?_⟩
  · rw [runSteps_append, hrun]
    rfl
  · rw [CaptureModule.handFrame, CaptureRun.afterCall]
    cases hm : m.bound with
    | true =>
        rw [hbound hm]
        exact List.prefix_rfl
    | false => exact hinitial.trans (List.prefix_append _ _)
  · intro hm
    replace hm : m.bound = true := hm
    rw [CaptureModule.handFrame, CaptureRun.afterCall, hm, hbound hm]
    rfl

/-- A call that returns no frame. -/
theorem afterQuietCall (h : CallsDevice d m) (call : DeviceCall)
    (hquiet : (m.device.call call).2 = none) :
    CallsDevice d { m with device := (m.device.call call).1 } := by
  have hafter := h.afterCall call
  rw [hquiet, CaptureModule.handFrame, Option.toList_none, List.append_nil, ite_self] at hafter
  exact hafter

/-- What the module keeps besides does not matter, except that the handler does not come back. -/
theorem of_kept {m' : CaptureModule} (h : CallsDevice d m) (hdevice : m'.device = m.device)
    (hbroadcast : m'.broadcast = m.broadcast) (hbound : m'.bound = true → m.bound = true) :
    CallsDevice d m' := by
  obtain ⟨calls, r, hrun, hrdevice, hinitial, hall⟩ := h
  refine ⟨calls, r, hrun, hrdevice.trans hdevice.symm, ?_, fun hm => ?_⟩
  · rw [hbroadcast]
    exact hinitial
  · rw [hbroadcast]
    exact hall (hbound hm)

theorem startCapture (h : CallsDevice d m) (deviceStat : Option Bool) (opens : Bool)
    (setup : DriverSetup) (x264Opens : Bool) :
    CallsDevice d
      { m with device := (m.startCapture deviceStat opens setup x264Opens).1 } := by
  have hopened := h.afterQuietCall (.openDevice deviceStat opens) rfl
  have hstarted := hopened.afterQuietCall (.start setup x264Opens) rfl
  have hclosed := hstarted.afterQuietCall .close rfl
  simp only [CaptureModule.startCapture]
  split
  · exact h
  · split
    · exact hopened
    · split
      · exact hclosed
      · exact hstarted

/-- The step lemma, by the events. -/
theorem step {m' : CaptureModule} {event : CaptureModuleEvent} (h : CallsDevice d m)
    (hstep : m.step event = some m') : CallsDevice d m' := by
  cases event with
  | start deviceStat opens setup x264Opens =>
      rw [CaptureModule.step] at hstep
      split at hstep
      · cases hstep
      · cases hstep
        exact (h.startCapture deviceStat opens setup x264Opens).of_kept rfl rfl id
  | captureLoop answers =>
      rw [CaptureModule.step] at hstep
      split at hstep
      · cases hstep
        exact h.afterCall (.captureFrame answers)
      · cases hstep
  | capturePump answers =>
      rw [CaptureModule.step] at hstep
      split at hstep
      · cases hstep
        rw [CaptureModule.capturePump]
        -- Raw frames are in the queue, and nothing has been said about the queue.
        split
        · exact h
        · exact h.of_kept rfl rfl id
      · cases hstep
  | encodePump answers =>
      rw [CaptureModule.step] at hstep
      split at hstep
      · cases hstep
        rw [CaptureModule.encodePump]
        split
        · exact h
        · rename_i raw rest hqueue
          have hpopped : CallsDevice d { m with rawQueue := rest } := h.of_kept rfl rfl id
          exact hpopped.afterCall (.encodeRawFrame (some raw) answers)
      · cases hstep
  | unbindFrameHandler =>
      cases hstep
      exact h.of_kept rfl rfl fun hm => absurd hm Bool.false_ne_true
  | stop =>
      rw [CaptureModule.step] at hstep
      split at hstep
      · cases hstep
        have hstopped := h.afterQuietCall .stop rfl
        have hclosed := hstopped.afterQuietCall .close rfl
        exact hclosed.of_kept rfl rfl id
      · cases hstep

end CallsDevice

/-- The run lemma: a module with a new device makes calls of it all along. -/
theorem CaptureModule.callsDevice {d : CaptureDevice} {captureEnabled : Bool}
    {events : List CaptureModuleEvent} {after : CaptureModule}
    (hrun : runSteps CaptureModule.step { device := d, captureEnabled } events = some after) :
    CallsDevice d after :=
  runSteps_invariant CaptureModule.step (fun _ _ _ h hstep => h.step hstep)
    ⟨[], { device := d }, rfl, rfl, List.prefix_rfl, fun _ => rfl⟩ hrun

/-- However its threads take turns, and whatever fails, the module broadcasts frames numbered
without a gap, unless its device encodes pictures of its own. -/
theorem CaptureModule.broadcast_noGaps {d : CaptureDevice} (hpattern : d.encodesPattern = false)
    {captureEnabled : Bool} {events : List CaptureModuleEvent} {after : CaptureModule}
    (hrun : runSteps CaptureModule.step { device := d, captureEnabled } events = some after) :
    NoGaps d.sequence.toNat after.broadcast := by
  obtain ⟨calls, r, hcalls, -, hinitial, -⟩ := callsDevice hrun
  exact (noGaps_of_not_encodesPattern hpattern hcalls).initial hinitial

end AvProject.Server
