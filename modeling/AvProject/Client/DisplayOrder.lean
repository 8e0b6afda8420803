import AvProject.Client.KeyframeGate
import AvProject.Client.Shutdown
import AvProject.Lib.Stages

/-!
What the client renders, and in which order. The queues drop frames, the decode thread skips
some, the decoder may fail, and the render loop shows only the last frame it finds; but no frame
overtakes another one on its way from the network to the screen, and none is shown twice.
-/

namespace AvProject.Client

open AvProject.Lib

variable {δ : Type}

/-! ### The record of a run -/

/-- The pipeline with history variables: the frames that `ReceiveFrame` has returned, what the
decoder has made of frames, and the frames that have been rendered. -/
structure RecordedPipeline (δ : Type) where
  state : PipelineState δ
  received : List ReceivedFrame := []
  decodes : List (ReceivedFrame × δ) := []
  rendered : List (PipelineDecodedFrame δ) := []

def receivedBy : PipelineEvent δ → List ReceivedFrame
  | .receiveThread (.received (some frame)) => [frame]
  | _ => []

def decodedBy (s : PipelineState δ) (event : PipelineEvent δ) : List (ReceivedFrame × δ) :=
  match s.decodeThread, event with
  | .decoding frame, .decodeThread (.decodeReturned (some image) _ _) => [(frame, image)]
  | _, _ => []

def renderedBy (s : PipelineState δ) (event : PipelineEvent δ) :
    List (PipelineDecodedFrame δ) :=
  match s.mainThread, event with
  | .rendering frame, .mainThread (.rendered true none) => [frame]
  | _, _ => []

def recordedStep (cfg : PipelineConfig) (r : RecordedPipeline δ) (event : PipelineEvent δ) :
    Option (RecordedPipeline δ) :=
  (pipelineStep cfg r.state event).map fun state => {
    state := state
    received := r.received ++ receivedBy event
    decodes := r.decodes ++ decodedBy r.state event
    rendered := r.rendered ++ renderedBy r.state event }

/-- A run of the pipeline from its start, with its record. -/
def runRecorded (cfg : PipelineConfig) (events : List (PipelineEvent δ)) :
    Option (RecordedPipeline δ) :=
  runSteps (recordedStep cfg) { state := PipelineState.start cfg } events

/-- The record changes nothing in the run. -/
theorem runRecorded_state (cfg : PipelineConfig) (events : List (PipelineEvent δ)) :
    (runRecorded cfg events).map RecordedPipeline.state = runPipeline cfg events := by
  suffices h : ∀ r : RecordedPipeline δ, (runSteps (recordedStep cfg) r events).map
      RecordedPipeline.state = runSteps (pipelineStep cfg) r.state events from h _
  induction events with
  | nil => exact fun _ => rfl
  | cons event events ih =>
      intro r
      rw [runSteps, runSteps, recordedStep]
      cases pipelineStep cfg r.state event with
      | none => rfl
      | some state => exact ih _

/-! ### The frames on their way -/

/-- What the main thread has taken out of `decoded_frames`. -/
def MainPoint.frames : MainPoint δ → List (PipelineDecodedFrame δ)
  | .drain latest => latest.toList
  | .rendering frame => [frame]
  | _ => []

/-- What the decode thread is about to push. -/
def DecodeThreadPoint.output : DecodeThreadPoint δ → List (PipelineDecodedFrame δ)
  | .push frame => [frame]
  | _ => []

/-- What the decode thread has taken out of `received_frames`. -/
def DecodeThreadPoint.input : DecodeThreadPoint δ → List ReceivedFrame
  | .gate frame | .decoding frame => [frame]
  | _ => []

/-- What the receive thread is about to push. -/
def ReceiveThreadPoint.output : ReceiveThreadPoint → List ReceivedFrame
  | .push frame => [frame]
  | _ => []

/-- The frames that are decoded and not yet rendered, the first to be rendered first. -/
def decodedLine (s : PipelineState δ) : List (PipelineDecodedFrame δ) :=
  s.mainThread.frames ++ s.decodedFrames.queue ++ s.decodeThread.output

/-- The frames that are received and not yet decoded. -/
def receivedLine (s : PipelineState δ) : List ReceivedFrame :=
  s.decodeThread.input ++ s.receivedFrames.queue ++ s.receiveThread.output

/-- The image is the decoder's, and the rest is taken over from the frame it was made of. -/
structure DecodedFrom (output : PipelineDecodedFrame δ) (decode : ReceivedFrame × δ) : Prop where
  frame : output.frame = decode.2
  metadata : output.metadata = decode.1.metadata
  senderMetadataAvailable : output.senderMetadataAvailable = decode.1.senderMetadataAvailable
  receiveTimestampNs : output.receiveTimestampNs = decode.1.receiveTimestampNs

/-- A step of the pipeline by what it does to the frames on their way. -/
inductive LineMove (s t : PipelineState δ) (event : PipelineEvent δ) : Prop
  | keep (hdecoded : (renderedBy s event ++ decodedLine t).Sublist (decodedLine s))
      (hreceived : (receivedLine t).Sublist (receivedLine s))
      (hreceivedBy : receivedBy event = []) (hdecodedBy : decodedBy s event = [])
  | receive (frame : ReceivedFrame) (hreceivedBy : receivedBy event = [frame])
      (hdecodedBy : decodedBy s event = []) (hrenderedBy : renderedBy s event = [])
      (hdecoded : decodedLine t = decodedLine s)
      (hreceived : receivedLine t = receivedLine s ++ [frame])
  | decode (frame : ReceivedFrame) (image : δ) (output : PipelineDecodedFrame δ)
      (hdecodedBy : decodedBy s event = [(frame, image)])
      (hreceivedBy : receivedBy event = []) (hrenderedBy : renderedBy s event = [])
      (hfrom : DecodedFrom output (frame, image))
      (hdecoded : decodedLine t = decodedLine s ++ [output])
      (hreceived : receivedLine s = frame :: receivedLine t)

section

variable {cfg : PipelineConfig} {s t : PipelineState δ} {event : PipelineEvent δ}

@[simp] theorem renderedBy_receiveThread (s : PipelineState δ) (input : ReceiveInput) :
    renderedBy s (.receiveThread input) = [] := by
  simp [renderedBy]

@[simp] theorem renderedBy_decodeThread (s : PipelineState δ) (input : DecodeInput δ) :
    renderedBy s (.decodeThread input) = [] := by
  simp [renderedBy]

@[simp] theorem decodedBy_receiveThread (s : PipelineState δ) (input : ReceiveInput) :
    decodedBy s (.receiveThread input) = [] := by
  simp [decodedBy]

@[simp] theorem decodedBy_mainThread (s : PipelineState δ) (input : MainInput) :
    decodedBy s (.mainThread input) = [] := by
  simp [decodedBy]

theorem requestStopStep_queue (s : PipelineState δ) (point : StopPoint) :
    (requestStopStep s point).1.receivedFrames.queue = s.receivedFrames.queue := by
  cases point <;> rfl

theorem setPipelineError_queue (s : PipelineState δ) (message : String) :
    (setPipelineError s message).receivedFrames.queue = s.receivedFrames.queue := by
  rw [setPipelineError]
  split <;> rfl

/-- A push drops the oldest or nothing. -/
theorem pushed_sublist {α : Type*} (capacity : ℕ) (queue : List α) (value : α) :
    (BoundedQueue.pushed capacity queue value).Sublist (queue ++ [value]) := by
  rw [BoundedQueue.pushed]
  split
  · exact (List.tail_sublist queue).append_right [value]
  · exact List.Sublist.refl _

/-! ### The receive thread -/

theorem receiveThreadStep_queue {input : ReceiveInput} (h : receiveThreadStep s input = some t) :
    (receivedBy (.receiveThread input : PipelineEvent δ) = [] ∧
      (t.receivedFrames.queue ++ t.receiveThread.output).Sublist
        (s.receivedFrames.queue ++ s.receiveThread.output)) ∨
      ∃ frame, receivedBy (.receiveThread input : PipelineEvent δ) = [frame] ∧
        t.receivedFrames.queue = s.receivedFrames.queue ∧ s.receiveThread.output = [] ∧
          t.receiveThread.output = [frame] := by
  have hidle (u : PipelineState δ) (hqueue : u.receivedFrames.queue = s.receivedFrames.queue)
      (hnone : u.receiveThread.output = []) :
      (u.receivedFrames.queue ++ u.receiveThread.output).Sublist
        (s.receivedFrames.queue ++ s.receiveThread.output) := by
    rw [hqueue, hnone, List.append_nil]
    exact List.sublist_append_left _ _
  rw [receiveThreadStep.eq_def] at h
  split at h
  · cases h
    refine .inl ⟨rfl, hidle _ rfl ?_⟩
    show (if s.stopRequested then ReceiveThreadPoint.finished else .receiving).output = []
    split <;> rfl
  · rename_i frame hpoint
    cases h
    exact .inr ⟨frame, rfl, rfl, by rw [hpoint]; rfl, rfl⟩
  · cases h
    exact .inl ⟨rfl, hidle _ rfl rfl⟩
  · rename_i frame hpoint
    split at h
    · rename_i queue hpush
      cases h
      refine .inl ⟨rfl, ?_⟩
      rw [hpoint]
      show (queue.queue ++ []).Sublist (s.receivedFrames.queue ++ [frame])
      rw [List.append_nil, (BoundedQueue.pushOrDropOldest_eq_some hpush).2.2.2]
      exact pushed_sublist _ _ _
    · cases h
      exact .inl ⟨rfl, hidle _ rfl rfl⟩
  · split at h <;> cases h <;> exact .inl ⟨rfl, hidle _ rfl rfl⟩
  · split at h <;> cases h <;> exact .inl ⟨rfl, hidle _ rfl rfl⟩
  · cases h
    exact .inl ⟨rfl, hidle _ rfl rfl⟩
  · cases h
    exact .inl ⟨rfl, hidle _ rfl rfl⟩
  · split at h
    · cases h
      exact .inl ⟨rfl, hidle _ rfl rfl⟩
    · cases h
      exact .inl ⟨rfl, hidle _ (setPipelineError_queue s _) rfl⟩
  · rename_i point _
    have hqueue := requestStopStep_queue s point
    split at h
    · rename_i u next hnext
      cases h
      rw [hnext] at hqueue
      exact .inl ⟨rfl, hidle _ hqueue rfl⟩
    · rename_i u hnext
      cases h
      rw [hnext] at hqueue
      exact .inl ⟨rfl, hidle _ hqueue rfl⟩
  · cases h

theorem receiveThreadStep_lineMove {input : ReceiveInput}
    (h : receiveThreadStep s input = some t) : LineMove s t (.receiveThread input) := by
  obtain ⟨-, hdecodeThread, hdecodedQueue, -⟩ := receiveThreadStep_gateUntouched h
  have hmain := (receiveThreadStep_stopMove h).2
  have hdecoded : decodedLine t = decodedLine s := by
    rw [decodedLine, decodedLine, hmain, hdecodedQueue, hdecodeThread]
  rcases receiveThreadStep_queue h with ⟨hnone, hsublist⟩ | ⟨frame, hframe, hqueue, hbefore, hafter⟩
  · refine .keep ?_ ?_ hnone (decodedBy_receiveThread s input)
    · rw [renderedBy_receiveThread, List.nil_append, hdecoded]
    · rw [receivedLine, receivedLine, hdecodeThread, List.append_assoc, List.append_assoc]
      exact hsublist.append_left _
  · refine .receive frame hframe (decodedBy_receiveThread s input)
      (renderedBy_receiveThread s input) hdecoded ?_
    rw [receivedLine, receivedLine, hdecodeThread, hqueue, hbefore, hafter, List.append_nil]

/-! ### The main thread -/

theorem mainThreadStep_received {input : MainInput} (h : mainThreadStep s input = some t) :
    receivedLine t = receivedLine s := by
  have hsame (hthreads : t.receiveThread = s.receiveThread ∧ t.decodeThread = s.decodeThread)
      (hqueue : t.receivedFrames.queue = s.receivedFrames.queue) :
      receivedLine t = receivedLine s := by
    rw [receivedLine, receivedLine, hthreads.1, hthreads.2, hqueue]
  rw [mainThreadStep.eq_def] at h
  split at h
  · split at h <;> cases h <;> exact hsame ⟨rfl, rfl⟩ rfl
  · split at h
    · cases h
      exact hsame ⟨rfl, rfl⟩ rfl
    · split at h <;> cases h <;> exact hsame ⟨rfl, rfl⟩ rfl
  · cases h
    exact hsame ⟨rfl, rfl⟩ rfl
  · cases h
    exact hsame ⟨setPipelineError_receiveThread _ _, by simp⟩ (setPipelineError_queue _ _)
  · cases h
    exact hsame ⟨setPipelineError_receiveThread _ _, by simp⟩ (setPipelineError_queue _ _)
  · cases h
    exact hsame ⟨rfl, rfl⟩ rfl
  · rename_i site point _
    have hqueue := requestStopStep_queue s point
    have hdecode := (requestStopStep_gateUntouched s point).2.1
    split at h
    · rename_i u next hnext
      cases h
      rw [hnext] at hqueue hdecode
      exact hsame ⟨(requestStopStep_spec hnext).1, hdecode⟩ hqueue
    · rename_i u hnext
      cases h
      rw [hnext] at hqueue hdecode
      exact hsame ⟨(requestStopStep_spec hnext).1, hdecode⟩ hqueue
  · cases h
    exact hsame ⟨rfl, rfl⟩ rfl
  · cases h
    exact hsame ⟨rfl, rfl⟩ rfl
  · split at h <;> cases h
    exact hsame ⟨rfl, rfl⟩ rfl
  · split at h <;> cases h
    exact hsame ⟨rfl, rfl⟩ rfl
  · cases h

theorem mainThreadStep_decoded {input : MainInput} (h : mainThreadStep s input = some t) :
    (renderedBy s (.mainThread input) ++ decodedLine t).Sublist (decodedLine s) := by
  have hidle (u : PipelineState δ) (hqueue : u.decodedFrames.queue = s.decodedFrames.queue)
      (hdecode : u.decodeThread = s.decodeThread) (hnone : u.mainThread.frames = []) :
      (decodedLine u).Sublist (decodedLine s) := by
    rw [decodedLine, decodedLine, hqueue, hdecode, hnone, List.nil_append, List.append_assoc]
    exact List.sublist_append_right _ _
  rw [mainThreadStep.eq_def] at h
  split at h
  · rename_i key hpoint
    have hnothing : renderedBy s (.mainThread (.key key)) = [] := by simp [renderedBy]
    rw [hnothing]
    split at h <;> cases h
    · exact hidle _ rfl rfl rfl
    · refine hidle _ rfl rfl ?_
      show (if _ then MainPoint.pollKey else MainPoint.drain none).frames = []
      split <;> split <;> rfl
  · rename_i latest hpoint
    have hnothing : renderedBy s (.mainThread .proceed) = [] := by simp [renderedBy]
    rw [hnothing, List.nil_append, decodedLine, decodedLine, hpoint]
    split at h
    · rename_i frame queue hpop
      cases h
      rw [(BoundedQueue.tryPop_eq_some hpop).1]
      show ([frame] ++ queue.queue ++ s.decodeThread.output).Sublist
        (latest.toList ++ frame :: queue.queue ++ s.decodeThread.output)
      exact (List.sublist_append_right _ _).append_right _
    · rename_i hempty
      split at h <;> cases h
      · exact List.Sublist.refl _
      · exact List.Sublist.refl _
  · rename_i hpoint
    have hnothing : renderedBy s (.mainThread .proceed) = [] := by simp [renderedBy]
    rw [hnothing]
    cases h
    refine hidle _ rfl rfl ?_
    show (if _ then MainPoint.requestStop .cleanup .exchange else .pollKey).frames = []
    split <;> rfl
  · rename_i errorMessage _
    have hnothing : renderedBy s (.mainThread (.rendered false errorMessage)) = [] := by
      simp [renderedBy]
    rw [hnothing]
    cases h
    exact hidle _ (by simp) (by simp) rfl
  · rename_i errorMessage _
    have hnothing : renderedBy s (.mainThread (.rendered true (some errorMessage))) = [] := by
      simp [renderedBy]
    rw [hnothing]
    cases h
    exact hidle _ (by simp) (by simp) rfl
  · rename_i frame hpoint
    have hframe : renderedBy s (.mainThread (.rendered true none)) = [frame] := by
      simp [renderedBy, hpoint]
    cases h
    rw [hframe, decodedLine, decodedLine, hpoint]
    exact List.Sublist.refl _
  · rename_i site point _
    have hnothing : renderedBy s (.mainThread .proceed) = [] := by simp [renderedBy]
    obtain ⟨-, hdecode, hqueue, -⟩ := requestStopStep_gateUntouched s point
    rw [hnothing]
    split at h
    · rename_i u next hnext
      cases h
      rw [hnext] at hdecode hqueue
      exact hidle _ hqueue hdecode rfl
    · rename_i u hnext
      cases h
      rw [hnext] at hdecode hqueue
      exact hidle _ hqueue hdecode rfl
  · have hnothing : renderedBy s (.mainThread .proceed) = [] := by simp [renderedBy]
    rw [hnothing]
    cases h
    exact hidle _ rfl rfl rfl
  · have hnothing : renderedBy s (.mainThread .proceed) = [] := by simp [renderedBy]
    rw [hnothing]
    cases h
    exact hidle _ rfl rfl rfl
  · have hnothing : renderedBy s (.mainThread .proceed) = [] := by simp [renderedBy]
    rw [hnothing]
    split at h <;> cases h
    exact hidle _ rfl rfl rfl
  · have hnothing : renderedBy s (.mainThread .proceed) = [] := by simp [renderedBy]
    rw [hnothing]
    split at h <;> cases h
    exact hidle _ rfl rfl rfl
  · cases h

theorem mainThreadStep_lineMove {input : MainInput} (h : mainThreadStep s input = some t) :
    LineMove s t (.mainThread input) := by
  refine .keep (mainThreadStep_decoded h) ?_ rfl (decodedBy_mainThread s input)
  rw [mainThreadStep_received h]

/-! ### The decode thread -/

theorem decodeThreadStep_lineMove {input : DecodeInput δ}
    (h : decodeThreadStep cfg s input = some t) : LineMove s t (.decodeThread input) := by
  rw [decodeThreadStep.eq_def] at h
  split at h
  · rename_i hpoint
    cases h
    refine .keep ?_ ?_ rfl (by simp [decodedBy, hpoint])
    · rw [renderedBy_decodeThread, List.nil_append, decodedLine, decodedLine, hpoint]
      show (_ ++ _ ++ (if _ then DecodeThreadPoint.finished else .waitPop).output).Sublist _
      split <;> exact List.Sublist.refl _
    · rw [receivedLine, receivedLine, hpoint]
      show ((if _ then DecodeThreadPoint.finished else .waitPop).input ++ _ ++ _).Sublist _
      split <;> exact List.Sublist.refl _
  · rename_i hpoint
    split at h
    · split at h
      · rename_i frame queue hpop
        cases h
        refine .keep ?_ ?_ rfl (by simp [decodedBy, hpoint])
        · rw [renderedBy_decodeThread, List.nil_append, decodedLine, decodedLine, hpoint]
          exact List.Sublist.refl _
        · rw [receivedLine, receivedLine, hpoint, (BoundedQueue.tryPop_eq_some hpop).1]
          exact List.Sublist.refl _
      · cases h
        refine .keep ?_ ?_ rfl (by simp [decodedBy, hpoint])
        · rw [renderedBy_decodeThread, List.nil_append, decodedLine, decodedLine, hpoint]
          exact List.Sublist.refl _
        · rw [receivedLine, receivedLine, hpoint]
          exact List.Sublist.refl _
    · cases h
  · rename_i frame hpoint
    split at h
    · cases h
      refine .keep ?_ ?_ rfl (by simp [decodedBy, hpoint])
      · rw [renderedBy_decodeThread, List.nil_append, decodedLine, decodedLine, hpoint]
        exact List.Sublist.refl _
      · rw [receivedLine, receivedLine, hpoint]
        exact List.sublist_cons_self _ _
    · cases h
      refine .keep ?_ ?_ rfl (by simp [decodedBy, hpoint])
      · rw [renderedBy_decodeThread, List.nil_append, decodedLine, decodedLine, hpoint]
        exact List.Sublist.refl _
      · rw [receivedLine, receivedLine, hpoint]
        exact List.Sublist.refl _
  · rename_i frame _ _ hpoint
    cases h
    refine .keep ?_ ?_ rfl (by simp [decodedBy, hpoint])
    · rw [renderedBy_decodeThread, List.nil_append, decodedLine, decodedLine, hpoint]
      exact List.Sublist.refl _
    · rw [receivedLine, receivedLine, hpoint]
      exact List.sublist_cons_self _ _
  · rename_i frame image startNs endNs hpoint
    cases h
    let output : PipelineDecodedFrame δ := {
      frame := image
      metadata := frame.metadata
      senderMetadataAvailable := frame.senderMetadataAvailable
      receiveTimestampNs := frame.receiveTimestampNs
      decodeStartTimestampNs := startNs
      decodeEndTimestampNs := endNs }
    refine .decode frame image output (by simp [decodedBy, hpoint]) rfl
      (renderedBy_decodeThread _ _) ⟨rfl, rfl, rfl, rfl⟩ ?_ ?_
    · rw [decodedLine, decodedLine, hpoint]
      show _ ++ [_] = _ ++ [] ++ [_]
      rw [List.append_nil]
    · rw [receivedLine, receivedLine, hpoint]
      rfl
  · rename_i output hpoint
    split at h
    · rename_i queue hpush
      cases h
      refine .keep ?_ ?_ rfl (by simp [decodedBy, hpoint])
      · rw [renderedBy_decodeThread, List.nil_append, decodedLine, decodedLine, hpoint]
        show (s.mainThread.frames ++ queue.queue ++ []).Sublist
          (s.mainThread.frames ++ s.decodedFrames.queue ++ [output])
        rw [List.append_nil, List.append_assoc, (BoundedQueue.pushOrDropOldest_eq_some hpush).2.2.2]
        exact (pushed_sublist _ _ _).append_left _
      · rw [receivedLine, receivedLine, hpoint]
        exact List.Sublist.refl _
    · cases h
      refine .keep ?_ ?_ rfl (by simp [decodedBy, hpoint])
      · rw [renderedBy_decodeThread, List.nil_append, decodedLine, decodedLine, hpoint]
        show (_ ++ _ ++ []).Sublist _
        rw [List.append_nil]
        exact List.sublist_append_left _ _
      · rw [receivedLine, receivedLine, hpoint]
        exact List.Sublist.refl _
  · cases h

theorem pipelineStep_lineMove (h : pipelineStep cfg s event = some t) : LineMove s t event := by
  cases event with
  | signal =>
      cases h
      exact .keep (by simp [renderedBy]; exact List.Sublist.refl _) (List.Sublist.refl _) rfl
        (by simp [decodedBy])
  | receiveThread input => exact receiveThreadStep_lineMove h
  | decodeThread input => exact decodeThreadStep_lineMove h
  | mainThread input => exact mainThreadStep_lineMove h

end

/-! ### The order of a run -/

/-- What is decoded or rendered stems from the decodes, and these and the frames that still wait
for it from what was received, each in its order. -/
structure LinesInOrder (r : RecordedPipeline δ) : Prop where
  decoded : StemsInOrder DecodedFrom (r.rendered ++ decodedLine r.state) r.decodes
  received : (r.decodes.map Prod.fst ++ receivedLine r.state).Sublist r.received

theorem linesInOrder_start (cfg : PipelineConfig) :
    LinesInOrder ({ state := PipelineState.start cfg } : RecordedPipeline δ) :=
  ⟨.nil, List.Sublist.refl _⟩

theorem LinesInOrder.move {r : RecordedPipeline δ} {t : PipelineState δ} {event : PipelineEvent δ}
    (h : LinesInOrder r) (hmove : LineMove r.state t event) :
    LinesInOrder {
      state := t
      received := r.received ++ receivedBy event
      decodes := r.decodes ++ decodedBy r.state event
      rendered := r.rendered ++ renderedBy r.state event } := by
  cases hmove with
  | keep hdecoded hreceived hreceivedBy hdecodedBy =>
      rw [hreceivedBy, hdecodedBy, List.append_nil, List.append_nil]
      refine ⟨h.decoded.drop ?_, (hreceived.append_left _).trans h.received⟩
      rw [List.append_assoc]
      exact hdecoded.append_left _
  | receive frame hreceivedBy hdecodedBy hrenderedBy hdecoded hreceived =>
      rw [hreceivedBy, hdecodedBy, hrenderedBy, List.append_nil, List.append_nil]
      constructor
      · show StemsInOrder DecodedFrom (r.rendered ++ decodedLine t) r.decodes
        rw [hdecoded]
        exact h.decoded
      · show (_ ++ receivedLine t).Sublist _
        rw [hreceived, ← List.append_assoc]
        exact h.received.append_right [frame]
  | decode frame image output hdecodedBy hreceivedBy hrenderedBy hfrom hdecoded hreceived =>
      rw [hreceivedBy, hdecodedBy, hrenderedBy, List.append_nil, List.append_nil]
      constructor
      · show StemsInOrder DecodedFrom (r.rendered ++ decodedLine t) _
        rw [hdecoded, ← List.append_assoc]
        exact h.decoded.enter hfrom
      · have hbefore := h.received
        rw [hreceived] at hbefore
        show ((r.decodes ++ [(frame, image)]).map Prod.fst ++ receivedLine t).Sublist r.received
        rwa [List.map_append, List.append_assoc]

theorem recordedStep_linesInOrder (cfg : PipelineConfig) {r r' : RecordedPipeline δ}
    {event : PipelineEvent δ} (h : LinesInOrder r) (hstep : recordedStep cfg r event = some r') :
    LinesInOrder r' := by
  rw [recordedStep, Option.map_eq_some_iff] at hstep
  obtain ⟨t, hstep, rfl⟩ := hstep
  exact h.move (pipelineStep_lineMove hstep)

theorem linesInOrder_of_run {cfg : PipelineConfig} {events : List (PipelineEvent δ)}
    {r : RecordedPipeline δ} (hrun : runRecorded cfg events = some r) : LinesInOrder r :=
  runSteps_invariant (recordedStep cfg) (fun _ _ _ => recordedStep_linesInOrder cfg)
    (linesInOrder_start cfg) hrun

/-- The frames on the screen stem from frames that the decoder has made, in their order and each
from one of its own, and the decoder was given received frames, in their order and each once. -/
theorem runRecorded_inOrder {cfg : PipelineConfig} {events : List (PipelineEvent δ)}
    {r : RecordedPipeline δ} (hrun : runRecorded cfg events = some r) :
    StemsInOrder DecodedFrom r.rendered r.decodes ∧
      (r.decodes.map Prod.fst).Sublist r.received :=
  have h := linesInOrder_of_run hrun
  ⟨h.decoded.drop (List.sublist_append_left _ _), (List.sublist_append_left _ _).trans h.received⟩

/-- Two frames are received and decoded, and the render loop shows the second one. -/
def secondShownEvents (first second : ReceivedFrame) : List (PipelineEvent Unit) :=
  ([first, second].flatMap fun frame => frameArrives frame ++ frameAtGate ++
    [.decodeThread (.decodeReturned (some ()) 0 0), .decodeThread .proceed]) ++
    [.mainThread (.key (-1)), .mainThread .proceed, .mainThread .proceed, .mainThread .proceed,
      .mainThread (.rendered true none)]

theorem secondShown_inOrder :
    ∃ r, runRecorded {} (secondShownEvents (predictedFrame 1) (predictedFrame 2)) = some r ∧
    r.received.length = 2 ∧ r.rendered.length = 1 ∧
      StemsInOrder DecodedFrom r.rendered r.decodes ∧
        (r.decodes.map Prod.fst).Sublist r.received :=
  have hrun : runRecorded {} (secondShownEvents (predictedFrame 1) (predictedFrame 2)) = some _ :=
    rfl
  ⟨_, hrun, rfl, rfl, runRecorded_inOrder hrun⟩

end AvProject.Client
