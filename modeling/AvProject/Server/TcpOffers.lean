import AvProject.Lib.Subscription
import AvProject.Server.TcpStreamingBackend

/-!
Who is offered what. A session that runs and is registered has been offered every frame since it
was registered, but for the one that `Broadcast` is about to give it. No session runs that `stop`
could not reach.
-/

namespace AvProject.Server

open AvProject.Lib

/-! ### Steps of a session -/

section

variable {cfg : TransportConfig} {c t : TcpConnection}

/-- Both threads see the same `running_`. -/
def SharesRunning (c : TcpConnection) : Prop := c.receiver.running = c.session.running

theorem ConnectionMove.sharesRunning (hmove : ConnectionMove cfg c t) (h : SharesRunning c) :
    SharesRunning t := by
  cases hmove with
  | sendmsg => exact h
  | joined => exact h
  | _ => rfl

theorem sharesRunning_of_reaches {stream : Bytes}
    (h : Reaches (connectionStep cfg) (startConnection stream) c) : SharesRunning c :=
  h.invariant (connectionStep cfg)
    (fun _ _ _ hshares hstep => (connectionStep_move hstep).sharesRunning hshares) rfl

/-- A session that has stopped does not run again. -/
theorem receiveStep_running {r r' : ReceiveThread} {input : ReceiveInput}
    (h : receiveStep r input = some r') (hrunning : r'.running = true) : r.running = true := by
  cases (receiveStep_move h).1 with
  | stop => cases hrunning
  | finish reason _ => cases hrunning
  | timedOut _ =>
      rw [ReceiveThread.timedOut] at hrunning
      split at hrunning
      · cases hrunning
      · exact hrunning
  | receive received count _ _ _ =>
      rw [ReceiveThread.receive] at hrunning
      split at hrunning
      · exact hrunning
      · exact hrunning
  | _ => exact hrunning

theorem ConnectionMove.running (hmove : ConnectionMove cfg c t) (h : SharesRunning c)
    (hrunning : t.running = true) : c.running = true := by
  cases hmove with
  | receive receiver input hinput hstep => exact h.symm.trans (receiveStep_running hstep hrunning)
  | frameFailed => cases hrunning
  | stop => cases hrunning
  | _ => exact hrunning

theorem sendStep_offered {s s' : TcpClientSession} {input : SendInput}
    (h : sendStep cfg s input = some s') : s'.offered = s.offered := by
  rw [sendStep.eq_def] at h
  split at h
  · split at h <;> cases h <;> rfl
  · split at h
    · cases h
    · cases h
      rfl
  · split at h
    · cases h
      rfl
    · cases h
  · split at h <;> cases h <;> rfl
  · split at h <;> cases h <;> rfl
  · cases h

/-- Only `EnqueueFrame` gives a session a frame. -/
theorem sessionThreadStep_offered {event : SessionThreadEvent}
    (h : sessionThreadStep cfg c event = some t) : t.session.offered = c.session.offered := by
  cases event with
  | sendProceed =>
      obtain ⟨session, hsession, rfl⟩ := Option.map_eq_some_iff.mp h
      exact sendStep_offered hsession
  | popTimedOut =>
      obtain ⟨session, hsession, rfl⟩ := Option.map_eq_some_iff.mp h
      exact sendStep_offered hsession
  | sendClock nowNs =>
      rw [sessionThreadStep] at h
      split at h
      · obtain ⟨session, hsession, rfl⟩ := Option.map_eq_some_iff.mp h
        exact sendStep_offered hsession
      · cases h
  | sendmsg outcome =>
      rw [sessionThreadStep, TcpConnection.sendmsg] at h
      split at h
      · split at h
        · cases h
        obtain ⟨after, -, h⟩ := Option.bind_eq_some_iff.mp h
        split at h
        · cases h
          rfl
        · obtain ⟨session, hsession, rfl⟩ := Option.map_eq_some_iff.mp h
          split <;> exact sendStep_offered hsession
      · cases h
  | receive input =>
      rw [sessionThreadStep] at h
      split at h
      · cases h
      · obtain ⟨receiver, -, rfl⟩ := Option.map_eq_some_iff.mp h
        rfl

theorem enqueueProceed_offered (h : connectionStep cfg c .enqueueProceed = some t) :
    t.session.offered = c.session.offered := by
  rw [connectionStep, Option.map_eq_some_iff] at h
  obtain ⟨session, hsession, rfl⟩ := h
  have hoffered : session.offered = c.session.offered := by
    rw [enqueueProceed] at hsession
    split at hsession
    · cases hsession
    · split at hsession <;> cases hsession <;> rfl
    · cases hsession
      rfl
    · cases hsession
      rfl
  split <;> exact hoffered

/-- A session that runs takes the frame it is offered; one that has stopped does not. -/
theorem enqueueFrame_follows {frame : EncodedFrame} {nowNs : UInt64} {log : List EncodedFrame}
    {listed : Prop} {joined : Option ℕ}
    (h : connectionStep cfg c (.enqueueFrame frame nowNs) = some t)
    (hfollows : Follows log [frame] listed (c.running = true) joined c.session.offered) :
    Follows log [] listed (t.running = true) joined t.session.offered := by
  rw [connectionStep, Option.map_eq_some_iff] at h
  obtain ⟨session, hsession, rfl⟩ := h
  rw [sessionStep] at hsession
  split at hsession
  · cases hsession
    rw [enqueueFrame]
    split
    · rename_i hrunning
      exact hfollows.receive hrunning
    · rename_i hstopped
      exact hfollows.skip hstopped
  · cases hsession

end

/-! ### The invariant -/

/-- The frame of a `Broadcast`. -/
def TcpBroadcastPoint.frame : TcpBroadcastPoint → Option EncodedFrame
  | .visit frame _ | .enqueue frame _ _ | .enqueuing frame _ _ => some frame
  | .idle | .prune => none

/-- The sessions that a `Broadcast` has not come to. -/
def TcpBroadcastPoint.waiting : TcpBroadcastPoint → List ℕ
  | .visit _ clients | .enqueuing _ _ clients => clients
  | .enqueue _ id clients => id :: clients
  | .idle | .prune => []

/-- What a `Broadcast` is going to offer to a session. -/
def TcpBroadcastPoint.upcoming (point : TcpBroadcastPoint) (id : ℕ) : List EncodedFrame :=
  if id ∈ point.waiting then point.frame.toList else []

/-- The sessions that `stop` has not come to. -/
def StopCallPoint.waiting : StopCallPoint → List ℕ
  | .stopClients clients | .joinClient _ clients => clients
  | .idle | .joinAccept => []

/-- A session as a subscriber of the frames that are broadcast. -/
abbrev FollowsBroadcasts (s : TcpStreamingBackend) (id : ℕ) (client : AcceptedClient) : Prop :=
  Follows s.broadcasts (s.broadcastPoint.upcoming id) (id ∈ s.clients)
    (client.connection.running = true) client.joined client.connection.session.offered

/-- The thread is a run of the session, whatever the others do. -/
abbrev IsSession (cfg : TransportConfig) (client : AcceptedClient) : Prop :=
  ∃ stream, Reaches (connectionStep cfg) (startConnection stream) client.connection

structure BackendInvariant (cfg : TransportConfig) (s : TcpStreamingBackend) : Prop where
  session : ∀ (id : ℕ) client, s.sessions[id]? = some client → IsSession cfg client
  follows : ∀ (id : ℕ) client, s.sessions[id]? = some client → FollowsBroadcasts s id client
  known : ∀ id, id ∈ s.clients ∨ id ∈ s.broadcastPoint.waiting → id < s.sessions.length
  nodup : s.clients.Nodup
  waiting_nodup : s.broadcastPoint.waiting.Nodup
  registering : ∀ id, s.acceptPoint = .register id →
    ∃ client, s.sessions[id]? = some client ∧ client.joined = none
  held : ∀ (id : ℕ) client, s.sessions[id]? = some client →
    client.connection.running = true →
      id ∈ s.clients ∨ s.acceptPoint = .register id ∨ id ∈ s.stopPoint.waiting
  emptied : s.acceptPoint = .notStarted → s.clients = []

namespace BackendInvariant

variable {cfg : TransportConfig} {s : TcpStreamingBackend}

theorem initial (cfg : TransportConfig) : BackendInvariant cfg {} where
  session _ _ h := by simp at h
  follows _ _ h := by simp at h
  known _ h := by simp [TcpBroadcastPoint.waiting] at h
  nodup := List.nodup_nil
  waiting_nodup := List.nodup_nil
  registering _ h := by cases h
  held _ _ h := by simp at h
  emptied _ := rfl

/-- A step of the accept thread that registers nothing, or of the flags. -/
theorem moveAccept (h : BackendInvariant cfg s) (state : ModuleState) (running : Bool)
    {point : AcceptPoint} (hbefore : ∀ id, s.acceptPoint ≠ .register id)
    (hafter : ∀ id, point ≠ .register id)
    (hempty : point = .notStarted → s.acceptPoint = .notStarted) :
    BackendInvariant cfg { s with state := state, running := running, acceptPoint := point } where
  session := h.session
  follows := h.follows
  known := h.known
  nodup := h.nodup
  waiting_nodup := h.waiting_nodup
  registering id hid := absurd hid (hafter id)
  held id client hclient hrunning := by
    rcases h.held id client hclient hrunning with hlisted | hregister | hstop
    · exact .inl hlisted
    · exact absurd hregister (hbefore id)
    · exact .inr (.inr hstop)
  emptied hid := h.emptied (hempty hid)

theorem moveFlags (h : BackendInvariant cfg s) (state : ModuleState) (running : Bool) :
    BackendInvariant cfg { s with state := state, running := running } :=
  ⟨h.session, h.follows, h.known, h.nodup, h.waiting_nodup, h.registering, h.held, h.emptied⟩

/-- A step of the thread that calls `stop`, past sessions that do not run. -/
theorem moveStop (h : BackendInvariant cfg s) (state : ModuleState) {point : StopCallPoint}
    (hwaiting : ∀ (id : ℕ) client, s.sessions[id]? = some client →
      client.connection.running = true → id ∈ s.stopPoint.waiting → id ∈ point.waiting) :
    BackendInvariant cfg { s with state := state, stopPoint := point } where
  session := h.session
  follows := h.follows
  known := h.known
  nodup := h.nodup
  waiting_nodup := h.waiting_nodup
  registering := h.registering
  held id client hclient hrunning := by
    rcases h.held id client hclient hrunning with hlisted | hregister | hstop
    · exact .inl hlisted
    · exact .inr (.inl hregister)
    · exact .inr (.inr (hwaiting id client hclient hrunning hstop))
  emptied := h.emptied

theorem isRunning_iff {id : ℕ} : s.isRunning id = true ↔
    ∃ client, s.sessions[id]? = some client ∧ client.connection.running = true := by
  rw [TcpStreamingBackend.isRunning, Option.any_eq_true]

theorem pruneClosedClients (h : BackendInvariant cfg s) :
    BackendInvariant cfg s.pruneClosedClients where
  session := h.session
  follows id client hclient :=
    (h.follows id client hclient).weaken (fun hid => (List.mem_filter.mp hid).1) fun hrun => hrun
  known id hid := h.known id (hid.imp_left fun hid => (List.mem_filter.mp hid).1)
  nodup := h.nodup.filter _
  waiting_nodup := h.waiting_nodup
  registering := h.registering
  held id client hclient hrunning :=
    (h.held id client hclient hrunning).imp_left fun hlisted =>
      List.mem_filter.mpr ⟨hlisted, isRunning_iff.mpr ⟨client, hclient, hrunning⟩⟩
  emptied hid := by
    show s.clients.filter _ = []
    rw [h.emptied hid]
    rfl

/-- The entries of a list in which one is replaced. -/
theorem getElem?_set_cases {α : Type*} {l : List α} {i j : ℕ} {x y : α}
    (h : (l.set i x)[j]? = some y) : (j = i ∧ y = x) ∨ (j ≠ i ∧ l[j]? = some y) := by
  by_cases hij : j = i
  · subst hij
    rw [List.getElem?_set_self'] at h
    obtain ⟨-, -, rfl⟩ := Option.map_eq_some_iff.mp h
    exact .inl ⟨rfl, rfl⟩
  · rw [List.getElem?_set_ne (Ne.symm hij)] at h
    exact .inr ⟨hij, h⟩

/-- A step of one session; `Broadcast` moves on where it is the one that has made it. -/
theorem setSession (h : BackendInvariant cfg s) {id : ℕ} {client : AcceptedClient}
    {connection : TcpConnection} {event : ConnectionEvent} {point : TcpBroadcastPoint}
    (hclient : s.sessions[id]? = some client)
    (hstep : connectionStep cfg client.connection event = some connection)
    (hfollows : Follows s.broadcasts (point.upcoming id) (id ∈ s.clients)
      (connection.running = true) client.joined connection.session.offered)
    (hothers : ∀ other, other ≠ id → point.upcoming other = s.broadcastPoint.upcoming other)
    (hwaiting : point.waiting.Sublist s.broadcastPoint.waiting) :
    BackendInvariant cfg { s with
      sessions := s.sessions.set id { client with connection := connection }
      broadcastPoint := point } where
  session other client' hother := by
    rcases getElem?_set_cases hother with ⟨rfl, rfl⟩ | ⟨-, hold⟩
    · obtain ⟨stream, hreaches⟩ := h.session other client hclient
      exact ⟨stream, hreaches.next (connectionStep cfg) hstep⟩
    · exact h.session other client' hold
  follows other client' hother := by
    rcases getElem?_set_cases hother with ⟨rfl, rfl⟩ | ⟨hne, hold⟩
    · exact hfollows
    · have hfollows' := h.follows other client' hold
      rw [FollowsBroadcasts, ← hothers other hne] at hfollows'
      exact hfollows'
  known other hother := by
    rw [List.length_set]
    exact h.known other (hother.imp_right (hwaiting.subset ·))
  nodup := h.nodup
  waiting_nodup := h.waiting_nodup.sublist hwaiting
  registering other hother := by
    obtain ⟨client', hclient', hjoined⟩ := h.registering other hother
    by_cases heq : other = id
    · subst heq
      obtain rfl := Option.some.inj (hclient.symm.trans hclient')
      have hlt : other < s.sessions.length := (List.getElem?_eq_some_iff.mp hclient).1
      exact ⟨_, List.getElem?_set_self hlt, hjoined⟩
    · exact ⟨client', (List.getElem?_set_ne (Ne.symm heq)).trans hclient', hjoined⟩
  held other client' hother hrunning := by
    rcases getElem?_set_cases hother with ⟨rfl, rfl⟩ | ⟨-, hold⟩
    · obtain ⟨stream, hreaches⟩ := h.session other client hclient
      have hmove := connectionStep_move hstep
      exact h.held other client hclient
        (hmove.running (sharesRunning_of_reaches hreaches) hrunning)
    · exact h.held other client' hold hrunning
  emptied := h.emptied

/-- A step of a session that offers it nothing. -/
theorem quietStep (h : BackendInvariant cfg s) {id : ℕ} {s' : TcpStreamingBackend}
    {event : ConnectionEvent}
    (hoffered : ∀ c t, connectionStep cfg c event = some t →
      t.session.offered = c.session.offered)
    (hstep : s.stepSession cfg id event = some s') : BackendInvariant cfg s' := by
  obtain ⟨client, hclient, hmap⟩ := Option.bind_eq_some_iff.mp hstep
  obtain ⟨connection, hconnection, rfl⟩ := Option.map_eq_some_iff.mp hmap
  obtain ⟨stream, hreaches⟩ := h.session id client hclient
  have hfollows := h.follows id client hclient
  refine h.setSession hclient hconnection ?_ (fun _ _ => rfl) (List.Sublist.refl _)
  rw [hoffered _ _ hconnection]
  exact hfollows.weaken (fun hlisted => hlisted)
    ((connectionStep_move hconnection).running (sharesRunning_of_reaches hreaches))

theorem start (h : BackendInvariant cfg s) (hnot : s.acceptPoint = .notStarted) (opens : Bool) :
    BackendInvariant cfg (s.start cfg opens) := by
  rw [TcpStreamingBackend.start]
  split
  · exact h.moveFlags _ _
  split
  · exact h.moveFlags _ _
  · exact h.moveAccept _ _ (by simp [hnot]) (by simp) (by simp)

/-- The accept thread has ended, so whoever runs is listed. -/
theorem takeClients (h : BackendInvariant cfg s) (hstop : s.stopPoint.waiting = [])
    (hended : s.acceptPoint = .notStarted ∨ s.acceptPoint = .finished) :
    BackendInvariant cfg { s with
      acceptPoint := .notStarted
      clients := []
      stopPoint := .stopClients s.clients } where
  session := h.session
  follows id client hclient :=
    (h.follows id client hclient).weaken (fun hid => (by cases hid)) fun hrun => hrun
  known id hid := h.known id (.inr (hid.resolve_left List.not_mem_nil))
  nodup := List.nodup_nil
  waiting_nodup := h.waiting_nodup
  registering _ hid := by cases hid
  held id client hclient hrunning := by
    rcases h.held id client hclient hrunning with hlisted | hregister | hwaiting
    · exact .inr (.inr hlisted)
    · rcases hended with hended | hended <;> cases hended.symm.trans hregister
    · rw [hstop] at hwaiting
      cases hwaiting
  emptied _ := rfl

theorem stopProceed (h : BackendInvariant cfg s) {s' : TcpStreamingBackend}
    (hstep : s.stopProceed cfg = some s') : BackendInvariant cfg s' := by
  rw [TcpStreamingBackend.stopProceed] at hstep
  split at hstep
  · cases hstep
  · rename_i hpoint
    split at hstep
    · rename_i hended
      cases hstep
      exact h.takeClients (by rw [hpoint]; rfl) hended
    · cases hstep
  · rename_i hpoint
    cases hstep
    refine h.moveStop _ fun id client _ _ hwaiting => ?_
    rw [hpoint] at hwaiting
    cases hwaiting
  · rename_i id clients hpoint
    obtain ⟨next, hnext, rfl⟩ := Option.map_eq_some_iff.mp hstep
    have hinv : BackendInvariant cfg next := h.quietStep (fun c t ht => by cases ht; rfl) hnext
    obtain ⟨client, hclient, hmap⟩ := Option.bind_eq_some_iff.mp hnext
    obtain ⟨connection, hconnection, rfl⟩ := Option.map_eq_some_iff.mp hmap
    refine hinv.moveStop s.state fun other client' hother hrunning hwaiting => ?_
    have hwaiting : other ∈ s.stopPoint.waiting := hwaiting
    rw [hpoint] at hwaiting
    rcases List.mem_cons.mp hwaiting with rfl | hwaiting
    · -- the session at the front has just been stopped
      rcases getElem?_set_cases hother with ⟨-, rfl⟩ | ⟨hne, -⟩
      · cases hconnection
        cases hrunning
      · exact absurd rfl hne
    · exact hwaiting
  · rename_i id clients hpoint
    obtain ⟨next, hnext, rfl⟩ := Option.map_eq_some_iff.mp hstep
    have hinv : BackendInvariant cfg next := h.quietStep (fun c t ht => by
      rw [connectionStep] at ht
      split at ht <;> cases ht
      rfl) hnext
    obtain ⟨client, -, hmap⟩ := Option.bind_eq_some_iff.mp hnext
    obtain ⟨connection, -, rfl⟩ := Option.map_eq_some_iff.mp hmap
    refine hinv.moveStop s.state fun other _ _ _ hwaiting => ?_
    have hwaiting : other ∈ s.stopPoint.waiting := hwaiting
    rw [hpoint] at hwaiting
    exact hwaiting

theorem register (h : BackendInvariant cfg s) {id : ℕ} {client : AcceptedClient}
    (hpoint : s.acceptPoint = .register id) (hclient : s.sessions[id]? = some client) :
    BackendInvariant cfg { s with
      acceptPoint := .prune
      clients := s.clients ++ [id]
      sessions := s.sessions.set id { client with joined := some s.broadcasts.length } } := by
  obtain ⟨client', hclient', hjoined⟩ := h.registering id hpoint
  obtain rfl := Option.some.inj (hclient.symm.trans hclient')
  have hfollows := h.follows id client hclient
  rw [FollowsBroadcasts, hjoined] at hfollows
  have hnew : id ∉ s.clients := (hfollows.unjoined rfl).2.2
  refine ⟨fun other client' hother => ?_, fun other client' hother => ?_, fun other hother => ?_,
    List.nodup_append.mpr ⟨h.nodup, List.nodup_singleton id, ?_⟩, h.waiting_nodup,
    fun _ hid => (by cases hid), fun other client' hother hrunning => ?_, fun hid => (by cases hid)⟩
  · rcases getElem?_set_cases hother with ⟨rfl, rfl⟩ | ⟨-, hold⟩
    · exact h.session other client hclient
    · exact h.session other client' hold
  · rcases getElem?_set_cases hother with ⟨rfl, rfl⟩ | ⟨hne, hold⟩
    · exact hfollows.join
    · refine (h.follows other client' hold).weaken (fun hlisted => ?_) fun hrun => hrun
      rcases List.mem_append.mp hlisted with hlisted | hlisted
      · exact hlisted
      · exact absurd (List.mem_singleton.mp hlisted) hne
  · rw [List.length_set]
    rcases hother with hother | hother
    · rcases List.mem_append.mp hother with hother | hother
      · exact h.known other (.inl hother)
      · obtain rfl := List.mem_singleton.mp hother
        exact (List.getElem?_eq_some_iff.mp hclient).1
    · exact h.known other (.inr hother)
  · intro other hother last hlast heq
    obtain rfl := List.mem_singleton.mp hlast
    exact hnew (heq ▸ hother)
  · rcases getElem?_set_cases hother with ⟨rfl, rfl⟩ | ⟨hne, hold⟩
    · exact .inl (List.mem_append_right _ (List.mem_singleton_self other))
    · rcases h.held other client' hold hrunning with hlisted | hregister | hwaiting
      · exact .inl (List.mem_append_left _ hlisted)
      · exact absurd (AcceptPoint.register.inj (hregister.symm.trans hpoint)) hne
      · exact .inr (.inr hwaiting)

theorem acceptProceed (h : BackendInvariant cfg s) {s' : TcpStreamingBackend}
    (hstep : s.acceptProceed = some s') : BackendInvariant cfg s' := by
  rw [TcpStreamingBackend.acceptProceed] at hstep
  split at hstep
  · rename_i hpoint
    split at hstep <;> cases hstep <;>
      exact h.moveAccept _ _ (by simp [hpoint]) (by simp) (by simp)
  · rename_i id hpoint
    obtain ⟨client, hclient, rfl⟩ := Option.map_eq_some_iff.mp hstep
    exact h.register hpoint hclient
  · rename_i hpoint
    cases hstep
    exact h.pruneClosedClients.moveAccept _ _
      (fun id hid => (by cases hpoint.symm.trans hid)) (by simp) (by simp)
  · cases hstep

theorem acceptClient (h : BackendInvariant cfg s) (stream : Bytes)
    (hpoint : s.acceptPoint = .accept) : BackendInvariant cfg (s.acceptClient stream) := by
  have hnew {other : ℕ} {client : AcceptedClient} (hother : (s.sessions ++
      [{ connection := startConnection stream }])[other]? = some client) :
      s.sessions[other]? = some client ∨
        other = s.sessions.length ∧ client = { connection := startConnection stream } := by
    rw [List.getElem?_append] at hother
    split at hother
    · exact .inl hother
    · obtain ⟨hlt, hclient⟩ := List.getElem?_eq_some_iff.mp hother
      rw [List.length_singleton] at hlt
      rw [List.getElem_singleton] at hclient
      exact .inr ⟨by omega, hclient.symm⟩
  refine ⟨fun other client hother => ?_, fun other client hother => ?_, fun other hother => ?_,
    h.nodup, h.waiting_nodup, fun other hid => ?_, fun other client hother hrunning => ?_,
    fun hid => (by cases hid)⟩
  · rcases hnew hother with hold | ⟨-, rfl⟩
    · exact h.session other client hold
    · exact ⟨stream, .refl _ _⟩
  · rcases hnew hother with hold | ⟨rfl, rfl⟩
    · exact h.follows other client hold
    · have hlisted : s.sessions.length ∉ s.clients := fun hmem =>
        Nat.lt_irrefl _ (h.known _ (.inl hmem))
      have hupcoming : s.broadcastPoint.upcoming s.sessions.length = [] :=
        if_neg fun hmem => Nat.lt_irrefl _ (h.known _ (.inr hmem))
      show Follows s.broadcasts (s.broadcastPoint.upcoming s.sessions.length) _ _ none []
      rw [hupcoming]
      exact Follows.new s.broadcasts hlisted
  · show other < (s.sessions ++ [_]).length
    rw [List.length_append]
    exact (h.known other hother).trans (Nat.lt_succ_self _)
  · obtain rfl := AcceptPoint.register.inj hid
    exact ⟨_, List.getElem?_concat_length, rfl⟩
  · rcases hnew hother with hold | ⟨rfl, -⟩
    · rcases h.held other client hold hrunning with hlisted | hregister | hwaiting
      · exact .inl hlisted
      · cases hpoint.symm.trans hregister
      · exact .inr (.inr hwaiting)
    · exact .inr (.inl rfl)

theorem beginBroadcast (h : BackendInvariant cfg s) (hidle : s.broadcastPoint = .idle)
    (frame : EncodedFrame) : BackendInvariant cfg (s.beginBroadcast cfg frame) := by
  rw [TcpStreamingBackend.beginBroadcast]
  split
  · refine ⟨h.session, fun id client hclient => ?_, fun id hid => h.known id (.inl (hid.elim
      (fun hlisted => hlisted) fun hlisted => hlisted)), h.nodup, h.nodup, h.registering, h.held,
      h.emptied⟩
    have hfollows := h.follows id client hclient
    have hnone : s.broadcastPoint.upcoming id = [] := by
      rw [hidle]
      exact if_neg List.not_mem_nil
    rw [FollowsBroadcasts, hnone] at hfollows
    exact hfollows.announce frame
  · exact h

/-- `Broadcast` goes on, and offers nothing meanwhile. -/
theorem moveBroadcast (h : BackendInvariant cfg s) {point : TcpBroadcastPoint}
    (hwaiting : point.waiting.Sublist s.broadcastPoint.waiting)
    (hfollows : ∀ (id : ℕ) client, s.sessions[id]? = some client →
      point.upcoming id = s.broadcastPoint.upcoming id ∨
        point.upcoming id = [] ∧ ¬ client.connection.running = true) :
    BackendInvariant cfg { s with broadcastPoint := point } where
  session := h.session
  follows id client hclient := by
    have hbefore := h.follows id client hclient
    show Follows s.broadcasts (point.upcoming id) _ _ _ _
    rcases hfollows id client hclient with heq | ⟨heq, hstopped⟩
    · rw [heq]
      exact hbefore
    · rw [heq]
      exact hbefore.skip hstopped
  known id hid := h.known id (hid.imp_right (hwaiting.subset ·))
  nodup := h.nodup
  waiting_nodup := h.waiting_nodup.sublist hwaiting
  registering := h.registering
  held := h.held
  emptied := h.emptied

theorem broadcastProceed (h : BackendInvariant cfg s) {nowNs : UInt64} {s' : TcpStreamingBackend}
    (hstep : s.broadcastProceed cfg nowNs = some s') : BackendInvariant cfg s' := by
  rw [TcpStreamingBackend.broadcastProceed] at hstep
  split at hstep
  · cases hstep
  · rename_i frame hpoint
    cases hstep
    refine h.moveBroadcast (List.nil_sublist _) fun id client _ => .inl ?_
    rw [hpoint]
    rfl
  · rename_i frame id clients hpoint
    split at hstep
    · cases hstep
      refine h.moveBroadcast ?_ fun other client _ => .inl ?_
      · rw [hpoint]
        exact List.Sublist.refl _
      · rw [hpoint]
        rfl
    · rename_i hstopped
      cases hstep
      refine h.moveBroadcast ?_ fun other client hclient => ?_
      · rw [hpoint]
        exact List.sublist_cons_self id clients
      · have hnodup := h.waiting_nodup
        rw [hpoint] at hnodup ⊢
        by_cases heq : other = id
        · subst heq
          refine .inr ⟨if_neg (List.nodup_cons.mp hnodup).1, fun hrunning => ?_⟩
          exact hstopped (isRunning_iff.mpr ⟨client, hclient, hrunning⟩)
        · exact .inl (if_congr (List.mem_cons.trans (or_iff_right heq)).symm rfl rfl)
  · rename_i frame id clients hpoint
    obtain ⟨next, hnext, rfl⟩ := Option.map_eq_some_iff.mp hstep
    obtain ⟨client, hclient, hmap⟩ := Option.bind_eq_some_iff.mp hnext
    obtain ⟨connection, hconnection, rfl⟩ := Option.map_eq_some_iff.mp hmap
    have hnodup := h.waiting_nodup
    have hfollows := h.follows id client hclient
    rw [FollowsBroadcasts, hpoint] at hfollows
    rw [hpoint] at hnodup
    have hgone : (TcpBroadcastPoint.enqueuing frame id clients).upcoming id = [] :=
      if_neg (List.nodup_cons.mp hnodup).1
    have hcoming : (TcpBroadcastPoint.enqueue frame id clients).upcoming id = [frame] :=
      if_pos List.mem_cons_self
    rw [hcoming] at hfollows
    refine h.setSession hclient hconnection ?_ (fun other hne => ?_) ?_
    · rw [hgone]
      exact enqueueFrame_follows hconnection hfollows
    · rw [hpoint]
      exact if_congr (List.mem_cons.trans (or_iff_right hne)).symm rfl rfl
    · rw [hpoint]
      exact List.sublist_cons_self id clients
  · rename_i frame id clients hpoint
    split at hstep
    · exact h.quietStep (fun c t ht => enqueueProceed_offered ht) hstep
    · cases hstep
      refine h.moveBroadcast ?_ fun other client _ => .inl ?_
      · rw [hpoint]
        exact List.Sublist.refl _
      · rw [hpoint]
        rfl
  · rename_i hpoint
    cases hstep
    refine h.pruneClosedClients.moveBroadcast (List.nil_sublist _) fun id client _ => .inl ?_
    show _ = s.broadcastPoint.upcoming id
    rw [hpoint]
    rfl

theorem step (h : BackendInvariant cfg s) {event : TcpBackendEvent} {s' : TcpStreamingBackend}
    (hstep : tcpBackendStep cfg s event = some s') : BackendInvariant cfg s' := by
  cases event with
  | start opens =>
      rw [tcpBackendStep] at hstep
      split at hstep
      · rename_i hready
        cases hstep
        exact h.start hready.1 opens
      · cases hstep
  | stop =>
      rw [tcpBackendStep] at hstep
      split at hstep
      · cases hstep
      rename_i hidle
      split at hstep
      · cases hstep
        exact h
      · cases hstep
        refine (h.moveFlags s.state false).moveStop s.state fun id client _ _ hwaiting => ?_
        have hnone : s.stopPoint.waiting = [] := by
          rw [not_not.mp hidle]
          rfl
        exact absurd (hnone ▸ hwaiting) List.not_mem_nil
  | stopProceed => exact h.stopProceed hstep
  | shutdown =>
      rw [tcpBackendStep] at hstep
      split at hstep
      · cases hstep
      · cases hstep
        exact h.moveFlags _ _
  | acceptProceed => exact h.acceptProceed hstep
  | acceptAgain =>
      rw [tcpBackendStep] at hstep
      split at hstep
      · rename_i hpoint
        cases hstep
        exact h.moveAccept _ _ (by simp [hpoint]) (by simp) (by simp)
      · cases hstep
  | acceptFailed =>
      rw [tcpBackendStep] at hstep
      split at hstep
      · rename_i hpoint
        cases hstep
        exact h.moveAccept _ _ (by simp [hpoint]) (by simp) (by simp)
      · cases hstep
  | accepted stream =>
      rw [tcpBackendStep] at hstep
      split at hstep
      · rename_i hpoint
        cases hstep
        exact h.acceptClient stream hpoint
      · cases hstep
  | broadcast frame =>
      rw [tcpBackendStep] at hstep
      split at hstep
      · rename_i hidle
        cases hstep
        exact h.beginBroadcast hidle frame
      · cases hstep
  | broadcastProceed nowNs => exact h.broadcastProceed hstep
  | thread id event =>
      have hoffered (c t : TcpConnection) (h : connectionStep cfg c (.thread event) = some t) :
          t.session.offered = c.session.offered :=
        sessionThreadStep_offered (show sessionThreadStep cfg c event = some t from h)
      exact h.quietStep hoffered hstep

end BackendInvariant

/-! ### Runs -/

theorem runTcpBackend_invariant {cfg : TransportConfig} {events : List TcpBackendEvent}
    {s : TcpStreamingBackend} (hrun : runTcpBackend cfg events = some s) :
    BackendInvariant cfg s :=
  runSteps_invariant (tcpBackendStep cfg) (fun _ _ _ h hstep => h.step hstep)
    (BackendInvariant.initial cfg) hrun

/-- What a session has been offered is a part of the broadcasts without a gap, and where it is
registered and runs, all of them since it was registered, with the one on its way. It runs only
where `clients_`, the accept thread or `stop` still has hold of it. -/
structure OfferedInTurn (s : TcpStreamingBackend) (id : ℕ) (client : AcceptedClient) : Prop where
  unregistered : client.joined = none → client.connection.session.offered = []
  segment : ∀ k, client.joined = some k →
    client.connection.session.offered <+: s.broadcasts.drop k
  complete : ∀ k, client.joined = some k → client.connection.running = true → id ∈ s.clients →
    client.connection.session.offered ++ s.broadcastPoint.upcoming id = s.broadcasts.drop k
  held : client.connection.running = true →
    id ∈ s.clients ∨ s.acceptPoint = .register id ∨ id ∈ s.stopPoint.waiting

/-- Every session is offered the broadcasts in turn, and none runs once `stop` has returned. -/
theorem runTcpBackend_offers {cfg : TransportConfig} {events : List TcpBackendEvent}
    {s : TcpStreamingBackend} (hrun : runTcpBackend cfg events = some s) :
    (∀ (id : ℕ) client, s.sessions[id]? = some client → OfferedInTurn s id client) ∧
      (s.acceptPoint = .notStarted → s.stopPoint = .idle →
        ∀ client ∈ s.sessions, client.connection.running = false) := by
  have h := runTcpBackend_invariant hrun
  refine ⟨fun id client hclient => ?_, fun haccept hstop client hmem => ?_⟩
  · have hfollows := h.follows id client hclient
    exact ⟨fun hnone => (hfollows.unjoined hnone).1, fun k hk => (hfollows.since k hk).2,
      hfollows.complete, h.held id client hclient⟩
  · obtain ⟨id, hclient⟩ := List.mem_iff_getElem?.mp hmem
    refine Bool.eq_false_iff.mpr fun hrunning => ?_
    rcases h.held id client hclient hrunning with hlisted | hregister | hwaiting
    · rw [h.emptied haccept] at hlisted
      cases hlisted
    · cases haccept.symm.trans hregister
    · rw [hstop] at hwaiting
      cases hwaiting

/-- A client connects. -/
def acceptEvents (stream : Bytes) : List TcpBackendEvent :=
  [.acceptProceed, .accepted stream, .acceptProceed, .acceptProceed]

/-- A broadcast, up to this step. -/
def broadcastEvents (frame : EncodedFrame) (steps : ℕ) : List TcpBackendEvent :=
  .broadcast frame :: List.replicate steps (.broadcastProceed 1)

/-- A keyframe and the frames after it. -/
def streamFrame (sequence : UInt64) : EncodedFrame :=
  .numbered sequence (sequence * 40000000) (sequence == 1) [9, 8, 7]

/-- Two clients, the second of which connects after a first broadcast and is not offered the
second frame yet. -/
def secondJoins : List TcpBackendEvent :=
  .start true :: acceptEvents [] ++ broadcastEvents (streamFrame 1) 7 ++
    acceptEvents [] ++ broadcastEvents (streamFrame 2) 6

theorem secondJoins_offers :
    ∃ s, runTcpBackend {} secondJoins = some s ∧ s.clients = [0, 1] ∧
      (∀ (id : ℕ) client, s.sessions[id]? = some client → OfferedInTurn s id client) ∧
        (s.acceptPoint = .notStarted → s.stopPoint = .idle →
          ∀ client ∈ s.sessions, client.connection.running = false) :=
  have hrun : runTcpBackend {} secondJoins = some _ := rfl
  ⟨_, hrun, rfl, runTcpBackend_offers hrun⟩

end AvProject.Server
