import AvProject.Server.TcpClientSession

/-!
The queue between the broadcasting thread and the send thread. What `EnqueueFrame` knows
of the queue may be out of date when it pushes; frames only leave in between, so a full
queue it has seen is either still what it was or has room again.
-/

namespace AvProject.Tcp

open AvProject.Lib AvProject.Server AvProject.Server.ThreadSafeQueue

/-- Frames that are given to the session and not yet pushed or refused. -/
def inHand : EnqueuePoint → ℕ
  | .scan _ | .push _ => 1
  | .idle | .recordDepth => 0

/-- The frames that a push has accepted, in order. -/
def accepted (s : TcpClientSession) : List QueuedFrame := s.pushes.map PushRecord.incoming

/-- A push that drops a keyframe is one of a keyframe into a full queue of keyframes. -/
def SparesKeyframes (cfg : TransportConfig) (push : PushRecord) : Prop :=
  ∀ evicted ∈ push.dropped, evicted.frame.isKeyframe = true →
    push.incoming.frame.isKeyframe = true ∧ push.queue.length = cfg.maxPendingFrames ∧
      ∀ queued ∈ push.queue, queued.frame.isKeyframe = true

/-- What holds of a session at any time, under both policies. -/
structure QueueInv (cfg : TransportConfig) (s : TcpClientSession) : Prop where
  bounded : s.outboundFrames.length ≤ cfg.maxPendingFrames
  ordered : (s.popped ++ s.outboundFrames).Sublist (accepted s)
  accepted_eq : (accepted s).length =
    s.popped.length + s.overflowDroppedFrames + s.outboundFrames.length
  offered_eq : s.offered.length = (accepted s).length + s.droppedIncomingNonKeyframes +
    inHand s.enqueuePoint

/-- Under `drop_oldest_non_key`, a frame that is not a keyframe is about to be pushed only
where the queue has room or something to give up. -/
structure PolicyInv (cfg : TransportConfig) (s : TcpClientSession) : Prop where
  ready : ∀ queued, s.enqueuePoint = .push queued → queued.frame.isKeyframe = false →
    s.outboundFrames.length < cfg.maxPendingFrames ∨
      ∃ other ∈ s.outboundFrames, other.frame.isKeyframe = false
  spares : ∀ push ∈ s.pushes, SparesKeyframes cfg push

/-- A queue within its bound stays so; a full one loses one frame, from where it stood. -/
theorem pushByPolicy_spec {cfg : TransportConfig} {queue : List QueuedFrame} (queued : QueuedFrame)
    (hmax : 0 < cfg.maxPendingFrames) (hle : queue.length ≤ cfg.maxPendingFrames) :
    ∃ left, (pushByPolicy cfg queued queue).2 = left ++ [queued] ∧ left.Sublist queue ∧
      left.length < cfg.maxPendingFrames ∧
      queue.length = left.length + (pushByPolicy cfg queued queue).1.length := by
  obtain ⟨drop, hdrop, hpush⟩ : ∃ drop, Drops drop ∧ pushByPolicy cfg queued queue =
      ((makeRoom drop cfg.maxPendingFrames queue.length queue).1,
        (makeRoom drop cfg.maxPendingFrames queue.length queue).2 ++ [queued]) := by
    rw [pushByPolicy]
    split
    · exact ⟨_, drops_dropSelective _, rfl⟩
    · exact ⟨_, drops_dropOldest, rfl⟩
  rw [hpush]
  refine ⟨_, rfl, ?_⟩
  rcases makeRoom_cases hdrop hmax hle with ⟨hlt, hroom⟩ | ⟨hfull, value, rest, hvalue, hroom⟩
  · rw [hroom]
    exact ⟨List.Sublist.refl queue, hlt, rfl⟩
  · rw [hroom]
    have hlength := hdrop.length queue rest value hvalue
    refine ⟨hdrop.sublist queue rest value hvalue, ?_, ?_⟩
    · show rest.length < cfg.maxPendingFrames
      omega
    · show queue.length = rest.length + 1
      exact hlength

/-- A keyframe is given up only where the queue is full of them. -/
theorem pushByPolicy_dropped {cfg : TransportConfig} {queue : List QueuedFrame}
    {queued evicted : QueuedFrame} (hpolicy : cfg.queueDropPolicy = "drop_oldest_non_key")
    (hmax : 0 < cfg.maxPendingFrames) (hle : queue.length ≤ cfg.maxPendingFrames)
    (hevicted : evicted ∈ (pushByPolicy cfg queued queue).1)
    (hkey : evicted.frame.isKeyframe = true) :
    queue.length = cfg.maxPendingFrames ∧ ∀ other ∈ queue, other.frame.isKeyframe = true := by
  rw [pushByPolicy, if_pos hpolicy] at hevicted
  rcases makeRoom_cases (drops_dropSelective QueuedFrame.isNonKeyframe) hmax hle with
    ⟨-, hroom⟩ | ⟨hfull, value, rest, hvalue, hroom⟩
  · simp [pushDropSelective, hroom] at hevicted
  · obtain rfl : evicted = value := by simpa [pushDropSelective, hroom] using hevicted
    refine ⟨hfull, fun other hother => ?_⟩
    have h := dropSelective_eq_some hvalue (by simp [QueuedFrame.isNonKeyframe, hkey]) other hother
    simpa [QueuedFrame.isNonKeyframe] using h

/-! ### Steps -/

/-- What the send thread does to the queue: nothing, or it takes the first frame. -/
theorem sendStep_queue {cfg : TransportConfig} {s t : TcpClientSession} {input : SendInput}
    (h : sendStep cfg s input = some t) :
    t.enqueuePoint = s.enqueuePoint ∧ t.pushes = s.pushes ∧ t.offered = s.offered ∧
      t.overflowDroppedFrames = s.overflowDroppedFrames ∧
      t.droppedIncomingNonKeyframes = s.droppedIncomingNonKeyframes ∧
      (t.outboundFrames = s.outboundFrames ∧ t.popped = s.popped ∨
        ∃ queued, s.outboundFrames = queued :: t.outboundFrames ∧
          t.popped = s.popped ++ [queued]) := by
  rw [sendStep.eq_def] at h
  split at h
  · split at h <;> cases h <;> exact ⟨rfl, rfl, rfl, rfl, rfl, .inl ⟨rfl, rfl⟩⟩
  · split at h
    · cases h
    · rename_i queued rest hqueue
      cases h
      exact ⟨rfl, rfl, rfl, rfl, rfl, .inr ⟨queued, hqueue, rfl⟩⟩
  · split at h
    · cases h
      exact ⟨rfl, rfl, rfl, rfl, rfl, .inl ⟨rfl, rfl⟩⟩
    · cases h
  · split at h <;> cases h <;> exact ⟨rfl, rfl, rfl, rfl, rfl, .inl ⟨rfl, rfl⟩⟩
  · split at h <;> cases h <;> exact ⟨rfl, rfl, rfl, rfl, rfl, .inl ⟨rfl, rfl⟩⟩
  · cases h

/-- A session that has stopped takes no frame; a running one takes it and scans the queue
only where it has seen it full. -/
theorem enqueueFrame_cases (cfg : TransportConfig) (s : TcpClientSession) (frame : EncodedFrame)
    (nowNs : ℕ) :
    enqueueFrame cfg s frame nowNs = s ∨
      ∃ backpressureEvents point, enqueueFrame cfg s frame nowNs = { s with
        offered := s.offered ++ [frame]
        backpressureEvents := backpressureEvents
        enqueuePoint := point } ∧
        (point = .scan ⟨frame, nowNs⟩ ∨ point = .push ⟨frame, nowNs⟩ ∧
          (cfg.queueDropPolicy = "drop_oldest_non_key" → frame.isKeyframe = false →
            s.outboundFrames.length < cfg.maxPendingFrames)) := by
  rw [enqueueFrame]
  split
  · refine .inr ⟨_, _, rfl, ?_⟩
    split
    · exact .inl rfl
    · rename_i hpush
      refine .inr ⟨rfl, fun hpolicy hframe => ?_⟩
      by_contra hfull
      exact hpush ⟨hpolicy, hframe, by simpa using hfull⟩
  · exact .inl rfl

theorem queueInv_step {cfg : TransportConfig} {s t : TcpClientSession} {event : SessionEvent}
    (hmax : 0 < cfg.maxPendingFrames) (hs : QueueInv cfg s)
    (h : sessionStep cfg s event = some t) : QueueInv cfg t := by
  obtain ⟨hbounded, hordered, haccepted, hoffered⟩ := hs
  cases event with
  | enqueueFrame frame nowNs =>
      rw [sessionStep] at h
      split at h
      · rename_i hidle
        rw [hidle, inHand] at hoffered
        obtain rfl := Option.some.inj h
        rcases enqueueFrame_cases cfg s frame nowNs with hsame | ⟨pressure, point, hnext, hpoint⟩
        · rw [hsame]
          exact ⟨hbounded, hordered, haccepted, by rw [hidle]; exact hoffered⟩
        · have hhand : inHand point = 1 := by
            rcases hpoint with rfl | ⟨rfl, -⟩ <;> rfl
          rw [hnext]
          refine ⟨hbounded, hordered, haccepted, ?_⟩
          show (s.offered ++ [frame]).length =
            (accepted s).length + s.droppedIncomingNonKeyframes + inHand point
          rw [List.length_append, List.length_singleton, hoffered, hhand]
      · cases h
  | enqueueProceed =>
      rw [sessionStep, enqueueProceed] at h
      split at h
      · cases h
      · rename_i queued hpoint
        rw [hpoint, inHand] at hoffered
        split at h
        · cases h
          exact ⟨hbounded, hordered, haccepted, hoffered⟩
        · cases h
          refine ⟨hbounded, hordered, haccepted, ?_⟩
          show s.offered.length = (accepted s).length + (s.droppedIncomingNonKeyframes + 1) + 0
          omega
      · rename_i queued hpoint
        rw [hpoint, inHand] at hoffered
        obtain ⟨left, hqueue, hleft, hroom, hlength⟩ := pushByPolicy_spec queued hmax hbounded
        cases h
        have haccept (s' : TcpClientSession) (hpushes : s'.pushes = s.pushes ++
            [⟨queued, s.outboundFrames, (pushByPolicy cfg queued s.outboundFrames).1⟩]) :
            accepted s' = accepted s ++ [queued] := by
          rw [accepted, accepted, hpushes, List.map_append, List.map_singleton]
        refine ⟨?_, ?_, ?_, ?_⟩
        · show (pushByPolicy cfg queued s.outboundFrames).2.length ≤ _
          rw [hqueue, List.length_append, List.length_singleton]
          omega
        · rw [haccept _ rfl]
          show (s.popped ++ (pushByPolicy cfg queued s.outboundFrames).2).Sublist _
          rw [hqueue, ← List.append_assoc]
          refine List.Sublist.append ?_ (List.Sublist.refl [queued])
          exact (hleft.append_left s.popped).trans hordered
        · rw [haccept _ rfl, List.length_append, List.length_singleton]
          show _ = s.popped.length +
            (s.overflowDroppedFrames + (pushByPolicy cfg queued s.outboundFrames).1.length) +
            (pushByPolicy cfg queued s.outboundFrames).2.length
          rw [hqueue, List.length_append, List.length_singleton]
          omega
        · rw [haccept _ rfl, List.length_append, List.length_singleton]
          show s.offered.length = _ + s.droppedIncomingNonKeyframes + 0
          omega
      · rename_i hpoint
        rw [hpoint, inHand] at hoffered
        cases h
        exact ⟨hbounded, hordered, haccepted, hoffered⟩
  | send input =>
      obtain ⟨hpoint, hpushes, hoffer, hoverflow, hrefused, hqueue⟩ := sendStep_queue h
      have haccept : accepted t = accepted s := by rw [accepted, accepted, hpushes]
      rcases hqueue with ⟨hqueue, hpopped⟩ | ⟨queued, hqueue, hpopped⟩
      · refine ⟨hqueue ▸ hbounded, ?_, ?_, ?_⟩
        · rw [hpopped, hqueue, haccept]
          exact hordered
        · rw [haccept, hpopped, hoverflow, hqueue]
          exact haccepted
        · rw [hoffer, haccept, hrefused, hpoint]
          exact hoffered
      · rw [hqueue, List.length_cons] at hbounded haccepted
        refine ⟨by omega, ?_, ?_, ?_⟩
        · rw [hpopped, haccept, List.append_assoc, List.singleton_append, ← hqueue]
          exact hordered
        · rw [haccept, hpopped, hoverflow, List.length_append, List.length_singleton]
          omega
        · rw [hoffer, haccept, hrefused, hpoint]
          exact hoffered
  | disconnected =>
      cases h
      exact ⟨hbounded, hordered, haccepted, hoffered⟩

theorem policyInv_step {cfg : TransportConfig} {s t : TcpClientSession} {event : SessionEvent}
    (hpolicy : cfg.queueDropPolicy = "drop_oldest_non_key") (hmax : 0 < cfg.maxPendingFrames)
    (hqueue : QueueInv cfg s) (hs : PolicyInv cfg s) (h : sessionStep cfg s event = some t) :
    PolicyInv cfg t := by
  obtain ⟨hready, hspares⟩ := hs
  cases event with
  | enqueueFrame frame nowNs =>
      rw [sessionStep] at h
      split at h
      · obtain rfl := Option.some.inj h
        rcases enqueueFrame_cases cfg s frame nowNs with hsame | ⟨pressure, point, hnext, hpoint⟩
        · rw [hsame]
          exact ⟨hready, hspares⟩
        · rw [hnext]
          refine ⟨fun queued hpush hframe => .inl ?_, hspares⟩
          rcases hpoint with rfl | ⟨rfl, hroom⟩
          · cases hpush
          · obtain rfl := EnqueuePoint.push.inj hpush
            exact hroom hpolicy hframe
      · cases h
  | enqueueProceed =>
      rw [sessionStep, enqueueProceed] at h
      split at h
      · cases h
      · split at h
        · rename_i hmatch
          cases h
          refine ⟨fun _ _ _ => .inr ?_, hspares⟩
          obtain ⟨other, hmem, hother⟩ := List.any_eq_true.mp hmatch
          exact ⟨other, hmem, by simpa [QueuedFrame.isNonKeyframe] using hother⟩
        · cases h
          exact ⟨fun _ hpush => (by cases hpush), hspares⟩
      · rename_i queued hpoint
        cases h
        refine ⟨fun _ hpush => (by cases hpush), fun push hmem => ?_⟩
        rcases List.mem_append.mp hmem with hmem | hmem
        · exact hspares push hmem
        · obtain rfl := List.mem_singleton.mp hmem
          intro evicted hevicted hkey
          obtain ⟨hfull, hkeys⟩ := pushByPolicy_dropped hpolicy hmax hqueue.bounded hevicted hkey
          refine ⟨?_, hfull, hkeys⟩
          -- A predicted frame would have found room or a predicted frame to drop.
          by_contra hincoming
          rw [Bool.not_eq_true] at hincoming
          rcases hready queued hpoint hincoming with hroom | ⟨other, hother, hpredicted⟩
          · exact absurd hfull hroom.ne
          · rw [hkeys other hother] at hpredicted
            cases hpredicted
      · cases h
        exact ⟨fun _ hpush => (by cases hpush), hspares⟩
  | send input =>
      obtain ⟨hpoint, hpushes, -, -, -, hmove⟩ := sendStep_queue h
      refine ⟨fun queued hpush hframe => ?_, hpushes ▸ hspares⟩
      have hseen := hready queued (hpoint.symm.trans hpush) hframe
      rcases hmove with ⟨hsame, -⟩ | ⟨first, htail, -⟩
      · rw [hsame]
        exact hseen
      · -- Once a frame has left, there is room.
        have hbounded := hqueue.bounded
        rw [htail, List.length_cons] at hbounded
        exact .inl (by omega)
  | disconnected =>
      cases h
      exact ⟨hready, hspares⟩

/-! ### Runs -/

/-- The queue of a session under `drop_oldest_non_key`, whatever the interleaving: it stays
within its bound, gives frames out in the order in which they came in and each at most
once, gives up a keyframe only for a keyframe in a queue full of keyframes, and accounts
for every frame. -/
theorem runSession_queue {cfg : TransportConfig} {events : List SessionEvent}
    {s : TcpClientSession} (hpolicy : cfg.queueDropPolicy = "drop_oldest_non_key")
    (hmax : 0 < cfg.maxPendingFrames) (hrun : runSession cfg events = some s) :
    s.outboundFrames.length ≤ cfg.maxPendingFrames ∧
      (s.popped ++ s.outboundFrames).Sublist (accepted s) ∧
      (∀ push ∈ s.pushes, SparesKeyframes cfg push) ∧
      (accepted s).length =
        s.popped.length + s.overflowDroppedFrames + s.outboundFrames.length ∧
      s.offered.length =
        (accepted s).length + s.droppedIncomingNonKeyframes + inHand s.enqueuePoint := by
  have hstart : QueueInv cfg {} ∧ PolicyInv cfg {} :=
    ⟨⟨Nat.zero_le _, List.Sublist.refl _, rfl, rfl⟩, by simp, by simp⟩
  have hstep (s : TcpClientSession) (event : SessionEvent) (t : TcpClientSession)
      (hs : QueueInv cfg s ∧ PolicyInv cfg s) (h : sessionStep cfg s event = some t) :
      QueueInv cfg t ∧ PolicyInv cfg t :=
    ⟨queueInv_step hmax hs.1 h, policyInv_step hpolicy hmax hs.1 hs.2 h⟩
  have hinv : QueueInv cfg s ∧ PolicyInv cfg s :=
    runSteps_invariant (sessionStep cfg) hstep hstart hrun
  exact ⟨hinv.1.bounded, hinv.1.ordered, hinv.2.spares, hinv.1.accepted_eq, hinv.1.offered_eq⟩

/-- A frame without data. -/
def emptyFrame (isKeyframe : Bool) : EncodedFrame := .numbered 0 0 isKeyframe []

/-- A keyframe fills the queue; the send thread takes it after the next frame has seen the
queue full, and the scan finds nothing to drop. -/
def staleScanEvents : List SessionEvent :=
  [.enqueueFrame (emptyFrame true) 1, .enqueueProceed, .enqueueProceed, .send .proceed,
    .enqueueFrame (emptyFrame false) 2, .send .proceed, .enqueueProceed]

theorem staleScan_runs :
    ∃ s, runSession { maxPendingFrames := 1 } staleScanEvents = some s ∧
      s.droppedIncomingNonKeyframes = 1 ∧ s.popped.length = 1 :=
  ⟨_, rfl, rfl, rfl⟩

theorem staleScan_queue : ∃ s, runSession { maxPendingFrames := 1 } staleScanEvents = some s ∧
    s.outboundFrames.length ≤ 1 ∧
      (s.popped ++ s.outboundFrames).Sublist (accepted s) ∧
      (∀ push ∈ s.pushes, SparesKeyframes { maxPendingFrames := 1 } push) ∧
      (accepted s).length =
        s.popped.length + s.overflowDroppedFrames + s.outboundFrames.length ∧
      s.offered.length =
        (accepted s).length + s.droppedIncomingNonKeyframes + inHand s.enqueuePoint := by
  obtain ⟨s, hrun, -⟩ := staleScan_runs
  exact ⟨s, hrun, runSession_queue rfl Nat.one_pos hrun⟩

end AvProject.Tcp
