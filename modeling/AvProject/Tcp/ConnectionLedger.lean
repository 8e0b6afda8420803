import AvProject.Server.TcpConnection
import AvProject.Tcp.RoundTrip
import Mathlib.Tactic.Abel

/-!
The account of a TCP session. Every frame it is given is in one place at any time, frames leave
each place in the order in which they came, and the socket has taken the messages of the frames
that were sent, with the beginning of one more at most.
-/

namespace AvProject.Tcp

open AvProject.Lib AvProject.Protocol AvProject.Server AvProject.Server.ThreadSafeQueue

/-! ### What a push keeps -/

theorem dropSelective_perm {α : Type*} {predicate : α → Bool} {queue rest : List α} {value : α}
    (h : dropSelective predicate queue = some (value, rest)) : queue.Perm (value :: rest) := by
  rw [dropSelective] at h
  split at h
  · rename_i found hfind
    cases h
    obtain ⟨hfound, before, after, rfl, hbefore⟩ := List.find?_eq_some_iff_append.mp hfind
    rw [List.eraseP_append_right (value :: after) fun other hother => by
        simpa using hbefore other hother, List.eraseP_cons_of_pos hfound]
    exact List.perm_middle
  · cases queue with
    | nil => cases h
    | cons head tail =>
        cases h
        exact List.Perm.refl _

theorem makeRoom_perm {α : Type*} {drop : List α → Option (α × List α)}
    (hdrop : ∀ queue value rest, drop queue = some (value, rest) → queue.Perm (value :: rest))
    (maxSize fuel : ℕ) (queue : List α) :
    queue.Perm ((makeRoom drop maxSize fuel queue).1 ++ (makeRoom drop maxSize fuel queue).2) := by
  induction fuel generalizing queue with
  | zero => exact List.Perm.refl _
  | succ fuel ih =>
      rw [makeRoom]
      split
      · split
        · rename_i value rest hvalue
          exact (hdrop queue value rest hvalue).trans ((ih rest).cons value)
        · exact List.Perm.refl _
      · exact List.Perm.refl _

/-- A push keeps every frame in the queue or drops it. -/
theorem pushByPolicy_perm (cfg : TransportConfig) (queued : QueuedFrame)
    (queue : List QueuedFrame) :
    (queue ++ [queued]).Perm
      ((pushByPolicy cfg queued queue).1 ++ (pushByPolicy cfg queued queue).2) := by
  rw [pushByPolicy]
  split
  · rw [pushDropSelective, ← List.append_assoc]
    exact (makeRoom_perm (fun _ _ _ => dropSelective_perm) _ _ queue).append_right [queued]
  · rw [pushDropOldestCountDropped, ← List.append_assoc]
    refine (makeRoom_perm (fun queue value rest h => ?_) _ _ queue).append_right [queued]
    cases queue with
    | nil => cases h
    | cons head tail =>
        cases h
        exact List.Perm.refl _

/-! ### Where the frames are -/

/-- Given to the session, and not yet pushed or refused. -/
def heldFrames : EnqueuePoint → List EncodedFrame
  | .scan queued | .push queued => [queued.frame]
  | .idle | .recordDepth => []

/-- Taken from the queue, and neither sent nor dropped. -/
def frameInHand (c : TcpConnection) : List EncodedFrame :=
  match c.session.sendPoint with
  | .popped queued => [queued.frame]
  | _ => (c.unfinished.map SentFrame.frame).toList

/-- The frames that pushes have dropped. -/
def evicted (s : TcpClientSession) : List QueuedFrame := s.pushes.flatMap PushRecord.dropped

/-- Every frame is in one place, and in order. -/
structure Ledger (cfg : TransportConfig) (c : TcpConnection) : Prop where
  offered_perm : c.session.offered.Perm
    ((accepted c.session).map QueuedFrame.frame ++ c.refused ++ heldFrames c.session.enqueuePoint)
  offered_order : ((accepted c.session).map QueuedFrame.frame ++
    heldFrames c.session.enqueuePoint).Sublist c.session.offered
  accepted_perm : (accepted c.session).Perm
    (c.session.popped ++ evicted c.session ++ c.session.outboundFrames ++ c.cleared)
  accepted_order : (c.session.popped ++ c.session.outboundFrames).Sublist (accepted c.session)
  popped_perm : (c.session.popped.map QueuedFrame.frame).Perm
    (c.sent.map SentFrame.frame ++ c.stale.map QueuedFrame.frame ++ frameInHand c)
  popped_order : (c.sent.map SentFrame.frame ++ frameInHand c).Sublist
    (c.session.popped.map QueuedFrame.frame)
  bounded : c.session.outboundFrames.length ≤ cfg.maxPendingFrames

/-- The counters of the session are the lengths of these lists. -/
structure Counted (c : TcpConnection) : Prop where
  overflow : c.session.overflowDroppedFrames = (evicted c.session).length
  stale : c.session.staleDroppedFrames = c.stale.length
  refused : c.session.droppedIncomingNonKeyframes = c.refused.length
  sent : c.sentFrames = c.sent.countP fun sent => sent.frame.captureTimestampNs ≠ 0

/-- What is dropped for being late or for a full queue is not a keyframe, or gives way to one
in a queue full of them. -/
structure KeyframesSpared (cfg : TransportConfig) (c : TcpConnection) : Prop where
  scan : ∀ queued, c.session.enqueuePoint = .scan queued → queued.frame.isKeyframe = false
  ready : cfg.queueDropPolicy = "drop_oldest_non_key" → ∀ queued,
    c.session.enqueuePoint = .push queued → queued.frame.isKeyframe = false →
      c.session.outboundFrames.length < cfg.maxPendingFrames ∨
        ∃ other ∈ c.session.outboundFrames, other.frame.isKeyframe = false
  refused : ∀ frame ∈ c.refused, frame.isKeyframe = false
  stale : ∀ queued ∈ c.stale, queued.frame.isKeyframe = false ∧ 0 < cfg.maxQueueWaitMs
  evicted : cfg.queueDropPolicy = "drop_oldest_non_key" →
    ∀ push ∈ c.session.pushes, SparesKeyframes cfg push

/-! ### What the socket has taken -/

/-- The messages of the frames that were sent. -/
def sentBytes (cfg : TransportConfig) (c : TcpConnection) : Bytes :=
  c.sent.flatMap (tcpMessage cfg)

/-- Behind them is the beginning of the one message that is not finished. -/
def PartWritten (cfg : TransportConfig) (c : TcpConnection) : Prop :=
  match c.unfinished with
  | none => c.written = sentBytes cfg c
  | some sent => ∃ part, c.written = sentBytes cfg c ++ part ∧ part <+: tcpMessage cfg sent ∧
      part ≠ tcpMessage cfg sent

/-- The send thread in a `sendmsg`. -/
structure InSendFrame (cfg : TransportConfig) (c : TcpConnection) (sent : SentFrame)
    (current : MessageSending) : Prop where
  unfinished : c.unfinished = some sent
  returned : current.returned = none
  delivers : Delivers (tcpMessage cfg sent) current
  written : c.written = sentBytes cfg c ++ current.accepted

/-- What the socket has taken, by where the send thread is. -/
structure Wire (cfg : TransportConfig) (c : TcpConnection) : Prop where
  idle : (∀ frame startNs, c.session.sendPoint ≠ .sending frame startNs) → c.sending = none
  between : c.sending = none → c.session.sendPoint ≠ .finished → c.unfinished = none
  within : ∀ current, c.sending = some current → ∃ sent, InSendFrame cfg c sent current
  part : PartWritten cfg c

/-! ### Steps -/

section

variable {cfg : TransportConfig} {c t : TcpConnection}

theorem Wire.sendPoint (h : Wire cfg c) {current : MessageSending}
    (hsending : c.sending = some current) :
    ∃ frame startNs, c.session.sendPoint = .sending frame startNs := by
  by_contra hnot
  push Not at hnot
  rw [h.idle hnot] at hsending
  cases hsending

theorem Wire.unfinished_eq_none (h : Wire cfg c)
    (hnot : ∀ frame startNs, c.session.sendPoint ≠ .sending frame startNs)
    (hopen : c.session.sendPoint ≠ .finished) : c.unfinished = none :=
  h.between (h.idle hnot) hopen

theorem frameInHand_eq (c : TcpConnection) (h : ∀ queued, c.session.sendPoint ≠ .popped queued) :
    frameInHand c = (c.unfinished.map SentFrame.frame).toList := by
  rw [frameInHand]
  split
  · rename_i queued hpoint
    exact absurd hpoint (h queued)
  · rfl

theorem Wire.frameInHand_of_unfinished (h : Wire cfg c) {sent : SentFrame}
    (hunfinished : c.unfinished = some sent) : frameInHand c = [sent.frame] := by
  rw [frameInHand_eq c, hunfinished]
  · rfl
  · intro queued hpoint
    rw [h.unfinished_eq_none (by simp [hpoint]) (by simp [hpoint])] at hunfinished
    cases hunfinished

/-- The last part moves in front of the one before. -/
theorem perm_swap {α : Type*} {whole first second last : List α}
    (h : whole.Perm (first ++ second ++ last)) : whole.Perm (first ++ last ++ second) := by
  rw [List.append_assoc] at h ⊢
  exact h.trans (List.perm_append_comm.append_left first)

/-- A push keeps the account of the queue. -/
theorem pushed_perm (queued : QueuedFrame) {whole popped gone queue cleared : List QueuedFrame}
    (h : whole.Perm (popped ++ gone ++ queue ++ cleared)) :
    (whole ++ [queued]).Perm (popped ++ (gone ++ (pushByPolicy cfg queued queue).1) ++
      (pushByPolicy cfg queued queue).2 ++ cleared) := by
  have hpush := pushByPolicy_perm cfg queued queue
  rw [← Multiset.coe_eq_coe] at h hpush ⊢
  simp only [← Multiset.coe_add] at h hpush ⊢
  calc (whole + [queued] : Multiset QueuedFrame)
      = popped + gone + (queue + [queued]) + cleared := by
        rw [h]
        abel
    _ = _ := by
        rw [hpush]
        abel

/-- The first of the queue is taken out. -/
theorem takeFirst_perm {α : Type*} (x : α) {popped gone rest cleared : List α} :
    (popped ++ gone ++ x :: rest ++ cleared).Perm (popped ++ [x] ++ gone ++ rest ++ cleared) := by
  rw [← Multiset.coe_eq_coe]
  simp only [← Multiset.coe_add, ← Multiset.cons_coe, ← Multiset.singleton_add, Multiset.coe_nil]
  abel

theorem Ledger.step (hmax : 0 < cfg.maxPendingFrames) (hwire : Wire cfg c) (h : Ledger cfg c)
    (hmove : ConnectionMove cfg c t) : Ledger cfg t := by
  obtain ⟨hoffered, horder, haccepted, hqueue, hpopped, hsent, hbounded⟩ := h
  cases hmove with
  | ignore => exact ⟨hoffered, horder, haccepted, hqueue, hpopped, hsent, hbounded⟩
  | offer frame nowNs pressure point hidle hrunning hpoint =>
      have hheld : heldFrames point = [frame] := by
        rcases hpoint with ⟨rfl, -⟩ | ⟨rfl, -⟩ <;> rfl
      rw [hidle, heldFrames, List.append_nil] at hoffered horder
      refine ⟨?_, ?_, haccepted, hqueue, hpopped, hsent, hbounded⟩
      · show (c.session.offered ++ [frame]).Perm (_ ++ heldFrames point)
        rw [hheld]
        exact hoffered.append_right [frame]
      · show (_ ++ heldFrames point).Sublist (c.session.offered ++ [frame])
        rw [hheld]
        exact horder.append_right [frame]
  | scanned queued hscan =>
      rw [hscan] at hoffered horder
      exact ⟨hoffered, horder, haccepted, hqueue, hpopped, hsent, hbounded⟩
  | refuse queued hscan =>
      rw [hscan] at hoffered horder
      refine ⟨?_, ?_, haccepted, hqueue, hpopped, hsent, hbounded⟩
      · show c.session.offered.Perm (_ ++ (c.refused ++ [queued.frame]) ++ [])
        rw [List.append_nil, ← List.append_assoc]
        exact hoffered
      · show (_ ++ []).Sublist c.session.offered
        rw [List.append_nil]
        exact (List.sublist_append_left _ _).trans horder
  | push queued hpush =>
      rw [hpush, heldFrames] at hoffered horder
      obtain ⟨left, hleft, hsublist, hroom, -⟩ := pushByPolicy_spec queued hmax hbounded
      have haccept (session : TcpClientSession) (hpushes : session.pushes = c.session.pushes ++
          [⟨queued, c.session.outboundFrames,
            (pushByPolicy cfg queued c.session.outboundFrames).1⟩]) :
          accepted session = accepted c.session ++ [queued] ∧ evicted session =
            evicted c.session ++ (pushByPolicy cfg queued c.session.outboundFrames).1 := by
        rw [accepted, evicted, hpushes, List.map_append, List.flatMap_append]
        exact ⟨rfl, by rw [List.flatMap_singleton]; rfl⟩
      refine ⟨?_, ?_, ?_, ?_, hpopped, hsent, ?_⟩
      · rw [(haccept _ rfl).1, List.map_append]
        show c.session.offered.Perm (_ ++ _ ++ _ ++ [])
        rw [List.append_nil]
        exact perm_swap hoffered
      · rw [(haccept _ rfl).1, List.map_append]
        show (_ ++ _ ++ []).Sublist c.session.offered
        rw [List.append_nil]
        exact horder
      · rw [(haccept _ rfl).1, (haccept _ rfl).2]
        exact pushed_perm queued haccepted
      · rw [(haccept _ rfl).1]
        show (c.session.popped ++ (pushByPolicy cfg queued c.session.outboundFrames).2).Sublist _
        rw [hleft, ← List.append_assoc]
        exact ((hsublist.append_left c.session.popped).trans hqueue).append_right [queued]
      · show (pushByPolicy cfg queued c.session.outboundFrames).2.length ≤ _
        rw [hleft, List.length_append, List.length_singleton]
        omega
  | recordDepth hpoint =>
      rw [hpoint] at hoffered horder
      exact ⟨hoffered, horder, haccepted, hqueue, hpopped, hsent, hbounded⟩
  | wait hpoint =>
      rw [frameInHand, hpoint] at hpopped hsent
      exact ⟨hoffered, horder, haccepted, hqueue, hpopped, hsent, hbounded⟩
  | leaveLoop hpoint hrunning =>
      rw [frameInHand, hpoint] at hpopped hsent
      exact ⟨hoffered, horder, haccepted, hqueue, hpopped, hsent, hbounded⟩
  | pop queued rest hpoint hrest =>
      have hnone : c.unfinished = none :=
        hwire.unfinished_eq_none (by simp [hpoint]) (by simp [hpoint])
      rw [frameInHand_eq c (by simp [hpoint]), hnone] at hpopped hsent
      rw [hrest] at haccepted hqueue hbounded
      refine ⟨hoffered, horder, ?_, ?_, ?_, ?_, (Nat.le_succ _).trans hbounded⟩
      · show (accepted c.session).Perm
          (c.session.popped ++ [queued] ++ evicted c.session ++ rest ++ c.cleared)
        exact haccepted.trans (takeFirst_perm queued)
      · show (c.session.popped ++ [queued] ++ rest).Sublist _
        rw [List.append_assoc]
        exact hqueue
      · show ((c.session.popped ++ [queued]).map QueuedFrame.frame).Perm (_ ++ [queued.frame])
        rw [List.map_append]
        rw [Option.map_none, Option.toList_none, List.append_nil] at hpopped
        exact hpopped.append_right [queued.frame]
      · show (_ ++ [queued.frame]).Sublist ((c.session.popped ++ [queued]).map QueuedFrame.frame)
        rw [List.map_append]
        exact ((List.sublist_append_left _ _).trans hsent).append_right [queued.frame]
  | popTimedOut hpoint =>
      rw [frameInHand, hpoint] at hpopped hsent
      exact ⟨hoffered, horder, haccepted, hqueue, hpopped, hsent, hbounded⟩
  | dropStale queued nowNs hpoint hstale =>
      have hnone : c.unfinished = none :=
        hwire.unfinished_eq_none (by simp [hpoint]) (by simp [hpoint])
      rw [frameInHand, hpoint] at hpopped hsent
      refine ⟨hoffered, horder, haccepted, hqueue, ?_, ?_, hbounded⟩
      · show (c.session.popped.map QueuedFrame.frame).Perm (c.sent.map SentFrame.frame ++
          (c.stale ++ [queued]).map QueuedFrame.frame ++
            (c.unfinished.map SentFrame.frame).toList)
        rw [hnone, List.map_append, ← List.append_assoc]
        exact hpopped.trans (by simp)
      · show (c.sent.map SentFrame.frame ++ (c.unfinished.map SentFrame.frame).toList).Sublist _
        rw [hnone]
        exact (List.append_sublist_append_left _).mpr (List.nil_sublist _) |>.trans hsent
  | beginFrame queued nowNs hpoint =>
      rw [frameInHand, hpoint] at hpopped hsent
      exact ⟨hoffered, horder, haccepted, hqueue, hpopped, hsent, hbounded⟩
  | sendmsg before after outcome hsending hstep hreturned =>
      exact ⟨hoffered, horder, haccepted, hqueue, hpopped, hsent, hbounded⟩
  | frameSent before after outcome sent hsending hunfinished hstep hreturned =>
      obtain ⟨frame, startNs, hpoint⟩ := hwire.sendPoint hsending
      rw [frameInHand_eq c (by simp [hpoint]), hunfinished] at hpopped hsent
      refine ⟨hoffered, horder, haccepted, hqueue, ?_, ?_, hbounded⟩
      · show (c.session.popped.map QueuedFrame.frame).Perm
          ((c.sent ++ [sent]).map SentFrame.frame ++ c.stale.map QueuedFrame.frame ++ [])
        rw [List.append_nil, List.map_append]
        exact perm_swap hpopped
      · show ((c.sent ++ [sent]).map SentFrame.frame ++ []).Sublist _
        rw [List.append_nil, List.map_append]
        exact hsent
  | frameFailed before after outcome sent hsending hunfinished hstep hreturned =>
      obtain ⟨frame, startNs, hpoint⟩ := hwire.sendPoint hsending
      rw [frameInHand_eq c (by simp [hpoint])] at hpopped hsent
      exact ⟨hoffered, horder, haccepted, hqueue, hpopped, hsent, hbounded⟩
  | receive receiver input hinput hstep =>
      exact ⟨hoffered, horder, haccepted, hqueue, hpopped, hsent, hbounded⟩
  | stop => exact ⟨hoffered, horder, haccepted, hqueue, hpopped, hsent, hbounded⟩
  | joined hended =>
      refine ⟨hoffered, horder, ?_, ?_, hpopped, hsent, Nat.zero_le _⟩
      · show (accepted c.session).Perm (_ ++ [] ++ (c.cleared ++ c.session.outboundFrames))
        rw [List.append_nil, ← List.append_assoc]
        exact perm_swap haccepted
      · show (c.session.popped ++ []).Sublist _
        rw [List.append_nil]
        exact (List.sublist_append_left _ _).trans hqueue

theorem Counted.step (h : Counted c) (hmove : ConnectionMove cfg c t) : Counted t := by
  obtain ⟨hoverflow, hstale, hrefused, hsent⟩ := h
  cases hmove with
  | refuse queued hscan =>
      refine ⟨hoverflow, hstale, ?_, hsent⟩
      show c.session.droppedIncomingNonKeyframes + 1 = (c.refused ++ [queued.frame]).length
      rw [List.length_append, hrefused, List.length_singleton]
  | push queued hpush =>
      refine ⟨?_, hstale, hrefused, hsent⟩
      show c.session.overflowDroppedFrames + _ = (List.flatMap _ (c.session.pushes ++ [_])).length
      rw [List.flatMap_append, List.length_append, List.flatMap_singleton, hoverflow]
      rfl
  | dropStale queued nowNs hpoint _ =>
      refine ⟨hoverflow, ?_, hrefused, hsent⟩
      show c.session.staleDroppedFrames + 1 = (c.stale ++ [queued]).length
      rw [List.length_append, hstale, List.length_singleton]
  | frameSent before after outcome sent =>
      refine ⟨hoverflow, hstale, hrefused, ?_⟩
      show (if sent.frame.captureTimestampNs ≠ 0 then c.sentFrames + 1 else c.sentFrames) =
        (c.sent ++ [sent]).countP _
      rw [List.countP_append, ← hsent, List.countP_singleton]
      by_cases htimestamp : sent.frame.captureTimestampNs ≠ 0 <;> simp [htimestamp]
  | _ => exact ⟨hoverflow, hstale, hrefused, hsent⟩

theorem KeyframesSpared.step (hmax : 0 < cfg.maxPendingFrames) (hledger : Ledger cfg c)
    (h : KeyframesSpared cfg c) (hmove : ConnectionMove cfg c t) : KeyframesSpared cfg t := by
  obtain ⟨hscan, hready, hrefused, hstale, hevicted⟩ := h
  cases hmove with
  | offer frame nowNs pressure point hidle hrunning hpoint =>
      refine ⟨fun queued hqueued => ?_, fun hpolicy queued hqueued hframe => .inl ?_, hrefused,
        hstale, hevicted⟩
      · rcases hpoint with ⟨rfl, hframe⟩ | ⟨rfl, -⟩
        · obtain rfl := EnqueuePoint.scan.inj hqueued
          exact hframe
        · cases hqueued
      · rcases hpoint with ⟨rfl, -⟩ | ⟨rfl, hroom⟩
        · cases hqueued
        · obtain rfl := EnqueuePoint.push.inj hqueued
          exact hroom hpolicy hframe
  | scanned queued hpoint hfound =>
      obtain ⟨other, hmem, hother⟩ := List.any_eq_true.mp hfound
      exact ⟨fun _ hqueued => (by cases hqueued),
        fun _ _ _ _ => .inr ⟨other, hmem, by simpa [QueuedFrame.isNonKeyframe] using hother⟩,
        hrefused, hstale, hevicted⟩
  | refuse queued hpoint =>
      refine ⟨fun _ hqueued => (by cases hqueued), fun _ _ hqueued => (by cases hqueued),
        fun frame hframe => ?_, hstale, hevicted⟩
      rcases List.mem_append.mp hframe with hframe | hframe
      · exact hrefused frame hframe
      · obtain rfl := List.mem_singleton.mp hframe
        exact hscan queued hpoint
  | push queued hpoint =>
      refine ⟨fun _ hqueued => (by cases hqueued), fun _ _ hqueued => (by cases hqueued), hrefused,
        hstale, fun hpolicy push hpush => ?_⟩
      rcases List.mem_append.mp hpush with hpush | hpush
      · exact hevicted hpolicy push hpush
      obtain rfl := List.mem_singleton.mp hpush
      intro gone hgone hkey
      obtain ⟨hfull, hkeys⟩ := pushByPolicy_dropped hpolicy hmax hledger.bounded hgone hkey
      refine ⟨?_, hfull, hkeys⟩
      -- a predicted frame would have found room, or a predicted frame to drop
      by_contra hincoming
      rw [Bool.not_eq_true] at hincoming
      rcases hready hpolicy queued hpoint hincoming with hroom | ⟨other, hother, hpredicted⟩
      · exact absurd hfull hroom.ne
      · rw [hkeys other hother] at hpredicted
        cases hpredicted
  | recordDepth hpoint =>
      exact ⟨fun _ hqueued => (by cases hqueued), fun _ _ hqueued => (by cases hqueued), hrefused,
        hstale, hevicted⟩
  | pop queued rest hpoint hrest =>
      refine ⟨hscan, fun hpolicy queued' hqueued hframe => .inl ?_, hrefused, hstale, hevicted⟩
      -- once a frame has left, there is room
      have hbounded := hledger.bounded
      rw [hrest, List.length_cons] at hbounded
      exact hbounded
  | dropStale queued nowNs hpoint hlate =>
      refine ⟨hscan, hready, hrefused, fun other hother => ?_, hevicted⟩
      rcases List.mem_append.mp hother with hother | hother
      · exact hstale other hother
      obtain rfl := List.mem_singleton.mp hother
      rw [staleFrame, decide_eq_true_eq] at hlate
      exact ⟨hlate.2.2.2.1, hlate.2.2.1⟩
  | joined hended =>
      exact ⟨hscan, fun _ _ _ _ => .inl hmax, hrefused, hstale, hevicted⟩
  | _ => exact ⟨hscan, hready, hrefused, hstale, hevicted⟩

/-! ### The socket -/

theorem delivers_startFrame (cfg : TransportConfig) (sent : SentFrame) :
    Delivers (tcpMessage cfg sent) (startFrame cfg sent) := by
  rw [tcpMessage, ← List.append_assoc]
  exact delivers_startSending _ _ _

theorem length_tcpMessage (cfg : TransportConfig) (sent : SentFrame) :
    (tcpMessage cfg sent).length = sizeofMessageHeader +
      ((tcpMetadataBytes cfg sent).length + sent.frame.payload.length) := by
  rw [tcpMessage, List.length_append, List.length_append, tcpMessageHeader,
    length_toBytes_buildMessageHeader]

theorem tcpMessage_ne_nil (cfg : TransportConfig) (sent : SentFrame) :
    tcpMessage cfg sent ≠ [] := by
  refine List.ne_nil_of_length_pos ?_
  rw [length_tcpMessage, sizeofMessageHeader]
  omega

theorem startFrame_accepted (cfg : TransportConfig) (sent : SentFrame) :
    (startFrame cfg sent).accepted = [] := by
  rw [startFrame, startSending, MessageSending.checkDone_accepted]

theorem startFrame_returned (cfg : TransportConfig) (sent : SentFrame) :
    (startFrame cfg sent).returned = none := by
  have hmore : (startFrame cfg sent).returned ≠ some true := by
    rw [ne_eq, (delivers_startFrame cfg sent).accepted_iff, startFrame_accepted]
    exact (tcpMessage_ne_nil cfg sent).symm
  rw [startFrame, startSending, MessageSending.checkDone] at hmore ⊢
  split at hmore
  · exact absurd rfl hmore
  · rename_i hcount
    rw [if_neg hcount]

/-- What the socket has taken of a message only grows. -/
theorem sendMessageStep_accepted {before after : MessageSending} {outcome : SendOutcome}
    (h : sendMessageStep before outcome = some after) : before.accepted <+: after.accepted := by
  rw [sendMessageStep.eq_def] at h
  split at h
  · cases h
  · cases h
    exact List.prefix_rfl
  · cases h
    exact List.prefix_rfl
  · cases h
    exact List.prefix_rfl
  · split at h
    · cases h
      exact List.prefix_rfl
    split at h
    · cases h
    cases h
    rw [MessageSending.checkDone_accepted]
    exact List.prefix_append _ _

theorem InSendFrame.take {sent : SentFrame} {before after : MessageSending} {outcome : SendOutcome}
    (h : InSendFrame cfg c sent before) (hstep : sendMessageStep before outcome = some after) :
    (c.take before after).written = sentBytes cfg c ++ after.accepted := by
  obtain ⟨more, hmore⟩ := sendMessageStep_accepted hstep
  show c.written ++ after.accepted.drop before.accepted.length = _
  rw [h.written, ← hmore, List.drop_left, List.append_assoc]

/-- The message is not complete. -/
theorem proper_of_delivers {message : Bytes} {current : MessageSending}
    (h : Delivers message current) (hreturned : current.returned ≠ some true) :
    current.accepted <+: message ∧ current.accepted ≠ message :=
  ⟨⟨current.array.offered, h.whole⟩, fun heq => hreturned (h.accepted_iff.mpr heq)⟩

/-- A step that leaves the send thread where it is. -/
theorem Wire.congr (h : Wire cfg c) (hpoint : t.session.sendPoint = c.session.sendPoint)
    (hsending : t.sending = c.sending) (hunfinished : t.unfinished = c.unfinished)
    (hsent : t.sent = c.sent) (hwritten : t.written = c.written) : Wire cfg t := by
  refine ⟨?_, ?_, ?_, ?_⟩
  · rw [hpoint, hsending]
    exact h.idle
  · rw [hpoint, hsending, hunfinished]
    exact h.between
  · rw [hsending]
    intro current hcurrent
    obtain ⟨sent, hin⟩ := h.within current hcurrent
    refine ⟨sent, hunfinished.trans hin.unfinished, hin.returned, hin.delivers, ?_⟩
    rw [hwritten, sentBytes, hsent]
    exact hin.written
  · rw [PartWritten, sentBytes, hunfinished, hwritten, hsent]
    exact h.part

/-- A step of the send thread outside of `SendFrame`. -/
theorem Wire.moveTo (h : Wire cfg c)
    (hnot : ∀ frame startNs, c.session.sendPoint ≠ .sending frame startNs)
    (hopen : c.session.sendPoint ≠ .finished)
    (hsending : t.sending = c.sending) (hunfinished : t.unfinished = c.unfinished)
    (hsent : t.sent = c.sent) (hwritten : t.written = c.written) : Wire cfg t := by
  have hidle : c.sending = none := h.idle hnot
  refine ⟨fun _ => hsending.trans hidle, fun _ _ => ?_, fun current hcurrent => ?_, ?_⟩
  · exact hunfinished.trans (h.between hidle hopen)
  · rw [hsending, hidle] at hcurrent
    cases hcurrent
  · rw [PartWritten, sentBytes, hunfinished, hwritten, hsent]
    exact h.part

theorem Wire.step (h : Wire cfg c) (hmove : ConnectionMove cfg c t) : Wire cfg t := by
  cases hmove with
  | wait hpoint => exact h.moveTo (by simp [hpoint]) (by simp [hpoint]) rfl rfl rfl rfl
  | leaveLoop hpoint _ => exact h.moveTo (by simp [hpoint]) (by simp [hpoint]) rfl rfl rfl rfl
  | pop queued rest hpoint _ => exact h.moveTo (by simp [hpoint]) (by simp [hpoint]) rfl rfl rfl rfl
  | popTimedOut hpoint => exact h.moveTo (by simp [hpoint]) (by simp [hpoint]) rfl rfl rfl rfl
  | dropStale queued nowNs hpoint _ =>
      exact h.moveTo (by simp [hpoint]) (by simp [hpoint]) rfl rfl rfl rfl
  | beginFrame queued nowNs hpoint =>
      have hnone : c.unfinished = none := h.unfinished_eq_none (by simp [hpoint]) (by simp [hpoint])
      have hwritten : c.written = sentBytes cfg c := by
        have hpart := h.part
        rwa [PartWritten, hnone] at hpart
      refine ⟨fun hnot => absurd rfl (hnot _ _), fun hsending => (by cases hsending),
        fun current hcurrent => ?_, ?_⟩
      · obtain rfl := Option.some.inj hcurrent
        refine ⟨⟨queued.frame, nowNs⟩, rfl, startFrame_returned cfg _, delivers_startFrame cfg _,
          ?_⟩
        rw [startFrame_accepted, List.append_nil]
        exact hwritten
      · exact ⟨[], hwritten.trans (List.append_nil _).symm, List.nil_prefix,
          (tcpMessage_ne_nil cfg _).symm⟩
  | sendmsg before after outcome hsending hstep hreturned =>
      obtain ⟨sent, hin⟩ := h.within before hsending
      obtain ⟨frame, startNs, hpoint⟩ := h.sendPoint hsending
      have hdelivers := (hin.delivers.step hstep).1
      have hcurrent : (c.take before after).sending = some after := if_pos hreturned
      refine ⟨fun hnot => absurd hpoint (hnot _ _), fun hnone => ?_, fun current heq => ?_, ?_⟩
      · rw [hcurrent] at hnone
        cases hnone
      · rw [hcurrent] at heq
        obtain rfl := Option.some.inj heq
        exact ⟨sent, hin.unfinished, hreturned, hdelivers, hin.take hstep⟩
      · show match c.unfinished with
          | none => (c.take before after).written = sentBytes cfg c
          | some sent => ∃ part, (c.take before after).written = sentBytes cfg c ++ part ∧
              part <+: tcpMessage cfg sent ∧ part ≠ tcpMessage cfg sent
        rw [hin.unfinished]
        exact ⟨after.accepted, hin.take hstep,
          proper_of_delivers hdelivers (by rw [hreturned]; rintro ⟨⟩)⟩
  | frameSent before after outcome sent hsending hunfinished hstep hreturned =>
      obtain ⟨sent', hin⟩ := h.within before hsending
      obtain rfl := Option.some.inj (hunfinished.symm.trans hin.unfinished)
      have hcurrent : (c.take before after).sending = none := if_neg (by rw [hreturned]; rintro ⟨⟩)
      have hwhole := (hin.delivers.step hstep).1.accepted_iff.mp hreturned
      refine ⟨fun _ => hcurrent, fun _ _ => rfl, fun current heq => ?_, ?_⟩
      · cases hcurrent.symm.trans heq
      · show (c.take before after).written = (c.sent ++ [sent]).flatMap (tcpMessage cfg)
        rw [hin.take hstep, hwhole, List.flatMap_append, List.flatMap_singleton]
        rfl
  | frameFailed before after outcome sent hsending hunfinished hstep hreturned =>
      obtain ⟨sent', hin⟩ := h.within before hsending
      obtain rfl := Option.some.inj (hunfinished.symm.trans hin.unfinished)
      have hcurrent : (c.take before after).sending = none := if_neg (by rw [hreturned]; rintro ⟨⟩)
      refine ⟨fun _ => hcurrent, fun _ hopen => absurd rfl hopen, fun current heq => ?_, ?_⟩
      · cases hcurrent.symm.trans heq
      · show match c.unfinished with
          | none => (c.take before after).written = sentBytes cfg c
          | some sent => ∃ part, (c.take before after).written = sentBytes cfg c ++ part ∧
              part <+: tcpMessage cfg sent ∧ part ≠ tcpMessage cfg sent
        rw [hunfinished]
        exact ⟨after.accepted, hin.take hstep,
          proper_of_delivers (hin.delivers.step hstep).1 (by rw [hreturned]; rintro ⟨⟩)⟩
  | _ => exact h.congr rfl rfl rfl rfl rfl

/-! ### Runs -/

/-- The account of a connection, all together. -/
structure ConnectionAccount (cfg : TransportConfig) (c : TcpConnection) : Prop where
  ledger : Ledger cfg c
  counted : Counted c
  spared : KeyframesSpared cfg c
  wire : Wire cfg c

theorem ConnectionAccount.start (cfg : TransportConfig) (stream : Bytes) :
    ConnectionAccount cfg (startConnection stream) where
  ledger := ⟨.refl _, .refl _, .refl _, .refl _, .refl _, .refl _, Nat.zero_le _⟩
  counted := ⟨rfl, rfl, rfl, rfl⟩
  spared := ⟨fun _ h => (by cases h), fun _ _ h => (by cases h), fun _ h => (by cases h),
    fun _ h => (by cases h), fun _ _ h => (by cases h)⟩
  wire := ⟨fun _ => rfl, fun _ _ => rfl, fun _ h => (by cases h), rfl⟩

theorem ConnectionAccount.step (hmax : 0 < cfg.maxPendingFrames) (h : ConnectionAccount cfg c)
    {event : ConnectionEvent} (hstep : connectionStep cfg c event = some t) :
    ConnectionAccount cfg t :=
  have hmove : ConnectionMove cfg c t := connectionStep_move hstep
  ⟨h.ledger.step hmax h.wire hmove, h.counted.step hmove, h.spared.step hmax h.ledger hmove,
    h.wire.step hmove⟩

theorem ConnectionAccount.of_reaches (hmax : 0 < cfg.maxPendingFrames) {stream : Bytes}
    (h : Reaches (connectionStep cfg) (startConnection stream) c) : ConnectionAccount cfg c :=
  h.invariant (connectionStep cfg) (fun _ _ _ haccount hstep => haccount.step hmax hstep)
    (.start cfg stream)

end

end AvProject.Tcp
