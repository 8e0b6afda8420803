import AvProject.Server.ClientLeases

/-!
What the UDP server never does, in any interleaving of its threads: it sends nothing to an
endpoint that has not registered, and nothing but datagrams of the frames it was given.
-/

namespace AvProject.Server

open AvProject.Lib AvProject.Protocol

/-! ### Where datagrams go -/

/-- Everything was sent to an endpoint that satisfies `P`. -/
def EmitsTo (P : Endpoint → Prop) (st : UdpStreamingBackend) : Prop :=
  ∀ e ∈ st.emitted, P e.1

section

variable {env : ServerEnv} {cfg : TransportConfig} {P : Endpoint → Prop}
  {st : UdpStreamingBackend} {clients : List Endpoint}

theorem EmitsTo.transmit (h : EmitsTo P st) (hclients : ∀ client ∈ clients, P client)
    (datagram : Bytes) : EmitsTo P (transmit env clients datagram st).1 := by
  refine List.forall_mem_append.mpr ⟨h, fun e he => ?_⟩
  obtain ⟨client, hclient, rfl⟩ := List.mem_map.mp he
  exact hclients client (List.mem_of_mem_take hclient)

theorem EmitsTo.sendToClients (h : EmitsTo P st) (hclients : ∀ client ∈ clients, P client)
    (datagram : Bytes) : EmitsTo P (sendToClients env clients datagram st).1 := by
  have hsent : EmitsTo P (Server.transmit env clients datagram st).1 := h.transmit hclients _
  unfold Server.sendToClients
  split
  · simp only
    split <;> exact hsent
  · split
    · simp only
      split <;> exact hsent
    · exact h

theorem EmitsTo.sendDataFragments {sent : SentFrame} (h : EmitsTo P st)
    (hclients : ∀ client ∈ clients, P client) (indices : List ℕ)
    (cached : List CachedUdpFragment) (fecPayload : Bytes) :
    EmitsTo P (sendDataFragments env cfg sent clients indices st cached fecPayload).1 := by
  induction indices generalizing st cached fecPayload with
  | nil => exact h
  | cons index rest ih =>
      have hsent : EmitsTo P
          (Server.sendToClients env clients (dataDatagram cfg sent index) st).1 :=
        h.sendToClients hclients _
      unfold Server.sendDataFragments
      simp only
      split
      · exact hsent
      · exact ih hsent _ _

theorem EmitsTo.sendParity {sent : SentFrame} (h : EmitsTo P st)
    (hclients : ∀ client ∈ clients, P client) (fecPayload : Bytes) :
    EmitsTo P (sendParity env cfg sent clients fecPayload st).1 := by
  unfold Server.sendParity
  split
  · exact h.sendToClients hclients _
  · exact h

theorem EmitsTo.sendFrameFragments (h : EmitsTo P st) (hclients : ∀ client ∈ clients, P client)
    (frame : EncodedFrame) (transportSendNs cacheNs : UInt64) :
    EmitsTo P (sendFrameFragments env cfg frame clients transportSendNs cacheNs st).1 := by
  unfold Server.sendFrameFragments
  split
  · exact h
  split
  · exact h
  have hdata : EmitsTo P (Server.sendDataFragments env cfg
      { frame := frame, transportSendTimestampNs := transportSendNs } clients
      (List.range (fragmentCountSize cfg frame)) st [] []).1 :=
    h.sendDataFragments hclients _ [] []
  simp only
  split
  · rename_i heq
    rw [heq] at hdata
    exact hdata
  rename_i cached fecPayload heq
  rw [heq] at hdata
  have hparity : EmitsTo P (Server.sendParity env cfg
      { frame := frame, transportSendTimestampNs := transportSendNs } clients fecPayload _).1 :=
    hdata.sendParity hclients fecPayload
  split
  · rename_i heq
    rw [heq] at hparity
    exact hparity
  · rename_i heq
    rw [heq] at hparity
    split <;> exact hparity

theorem EmitsTo.retransmitFragment {address : Endpoint} (h : EmitsTo P st) (haddress : P address)
    (item : UdpNackItem) : EmitsTo P (retransmitFragment env address st item) := by
  unfold Server.retransmitFragment
  split
  · exact h
  · exact h.transmit (List.forall_mem_singleton.mpr haddress) _

/-- A request is answered to whom it came from. -/
theorem EmitsTo.handleNackRequest {address : Endpoint} (h : EmitsTo P st) (haddress : P address)
    (nowNs : UInt64) (nackItems : List UdpNackItem) :
    EmitsTo P (handleNackRequest env cfg address nowNs nackItems st) := by
  unfold Server.handleNackRequest
  split
  · exact h
  simp only
  generalize nackItems.take _ = items
  refine List.foldlRecOn items _ (motive := EmitsTo P) h fun st hst item _ => ?_
  exact hst.retransmitFragment haddress item

end

/-! ### What the events bring -/

/-- What was received since the last `stop`, with one event more. -/
def sinceStop (cfg : TransportConfig) (since : List ReceivedDatagram) :
    UdpServerEvent → List ReceivedDatagram
  | .joined => []
  | .datagram address nowNs data =>
      since ++ [{ address := address, nowNs := nowNs, data := data.take cfg.udpMaxDatagramSize }]
  | _ => since

/-- The datagrams that were received since the backend was last stopped. -/
def receivedSinceStop (cfg : TransportConfig) (events : List UdpServerEvent) :
    List ReceivedDatagram :=
  events.foldl (sinceStop cfg) []

/-- The frames that `Broadcast` was called with. -/
def broadcastFrames (events : List UdpServerEvent) : List EncodedFrame :=
  events.filterMap fun
    | .broadcast frame _ => some frame
    | _ => none

/-! ### What a step does -/

/-- The step is not about clients, and nothing is sent. -/
structure StaysQuiet (s t : UdpServer) : Prop where
  clients : t.clients = s.clients
  calls : t.calls = s.calls
  received : t.received = s.received
  transmitted : t.transmitted = s.transmitted
  emitted : t.backend.emitted = s.backend.emitted
  retransmitCache : t.backend.retransmitCache = s.backend.retransmitCache
  broadcastPoint : t.broadcastPoint = s.broadcastPoint
  answering : ∀ address nowNs nackItems, t.receivePoint ≠ .answering address nowNs nackItems ∨
    t.receivePoint = s.receivePoint

/-- What a step can do. -/
inductive UdpServerMove (env : ServerEnv) (cfg : TransportConfig) (s : UdpServer) :
    UdpServerEvent → UdpServer → Prop
  | quiet {event : UdpServerEvent} {t : UdpServer}
      (hsince : ∀ since, sinceStop cfg since event = since) (hquiet : StaysQuiet s t) :
      UdpServerMove env cfg s event t
  | prune {t : UdpServer} (nowNs : UInt64)
      (hquiet : StaysQuiet (s.access cfg (.pruneStaleClients nowNs)) t) :
      UdpServerMove env cfg s (.selectTimedOut nowNs) t
  | datagram (address : SockaddrIn) (nowNs : UInt64) (data : Bytes)
      (hpoint : s.receivePoint = .recvfrom) :
      UdpServerMove env cfg s (.datagram address nowNs data)
        (s.receiveDatagram cfg address nowNs data)
  | answer (address : SockaddrIn) (nowNs : UInt64) (nackItems : List UdpNackItem)
      (hpoint : s.receivePoint = .answering address nowNs nackItems) :
      UdpServerMove env cfg s .receiveProceed
        { s with
          backend := handleNackRequest env cfg address.endpoint nowNs nackItems s.backend
          receivePoint := .loopCheck }
  | broadcast (frame : EncodedFrame) (nowNs : UInt64) (hpoint : s.broadcastPoint = .idle)
      (henabled : cfg.enabled = true) (hopen : s.backend.socketOpen = true) :
      UdpServerMove env cfg s (.broadcast frame nowNs) (s.beginBroadcast cfg frame nowNs)
  | sendFragments (frame : EncodedFrame) (clients : List SockaddrIn)
      (transportSendNs cacheNs : UInt64) (hpoint : s.broadcastPoint = .sending frame clients) :
      UdpServerMove env cfg s (.sendFragments transportSendNs cacheNs)
        (s.sendFragments env cfg frame clients transportSendNs cacheNs)
  | clear : UdpServerMove env cfg s .joined s.clear

theorem StaysQuiet.refl (s : UdpServer) : StaysQuiet s s :=
  ⟨rfl, rfl, rfl, rfl, rfl, rfl, rfl, fun _ _ _ => .inr rfl⟩

theorem StaysQuiet.finishReceiving (s : UdpServer) : StaysQuiet s s.finishReceiving :=
  ⟨rfl, rfl, rfl, rfl, rfl, rfl, rfl, fun _ _ _ => .inl nofun⟩

theorem udpServerStep_move {env : ServerEnv} {cfg : TransportConfig} {s t : UdpServer}
    {event : UdpServerEvent} (h : udpServerStep env cfg s event = some t) :
    UdpServerMove env cfg s event t := by
  cases event with
  | start opens =>
      simp only [udpServerStep, Option.ite_none_right_eq_some, Option.some.injEq] at h
      obtain ⟨-, rfl⟩ := h
      refine .quiet (fun _ => rfl) ?_
      rw [UdpServer.start]
      split
      · exact { StaysQuiet.refl s with }
      split
      · exact { StaysQuiet.refl s with }
      · exact ⟨rfl, rfl, rfl, rfl, rfl, rfl, rfl, fun _ _ _ => .inl nofun⟩
  | stop =>
      rw [udpServerStep] at h
      split at h
      · cases h
      split at h
      · obtain rfl := Option.some.inj h
        exact .quiet (fun _ => rfl) (.refl s)
      · obtain rfl := Option.some.inj h
        exact .quiet (fun _ => rfl) ⟨rfl, rfl, rfl, rfl, rfl, rfl, rfl, fun _ _ _ => .inr rfl⟩
  | joined =>
      simp only [udpServerStep, Option.ite_none_right_eq_some, Option.some.injEq] at h
      obtain ⟨-, rfl⟩ := h
      exact .clear
  | shutdown =>
      simp only [udpServerStep, Option.ite_none_left_eq_some, Option.some.injEq] at h
      obtain ⟨-, rfl⟩ := h
      exact .quiet (fun _ => rfl) { StaysQuiet.refl s with }
  | receiveProceed =>
      rw [udpServerStep] at h
      split at h
      · obtain rfl := Option.some.inj h
        split
        · exact .quiet (fun _ => rfl) ⟨rfl, rfl, rfl, rfl, rfl, rfl, rfl, fun _ _ _ => .inl nofun⟩
        · exact .quiet (fun _ => rfl) (.finishReceiving s)
      · rename_i address nowNs nackItems hpoint
        obtain rfl := Option.some.inj h
        exact .answer address nowNs nackItems hpoint
      · cases h
  | selectTimedOut nowNs =>
      simp only [udpServerStep, Option.ite_none_right_eq_some, Option.some.injEq] at h
      obtain ⟨-, rfl⟩ := h
      rw [UdpServer.afterSelect]
      split
      · exact .prune nowNs ⟨rfl, rfl, rfl, rfl, rfl, rfl, rfl, fun _ _ _ => .inl nofun⟩
      · exact .quiet (fun _ => rfl) (.finishReceiving s)
  | selectInterrupted =>
      simp only [udpServerStep, Option.ite_none_right_eq_some, Option.some.injEq] at h
      obtain ⟨-, rfl⟩ := h
      rw [UdpServer.afterSelect]
      split
      · exact .quiet (fun _ => rfl) ⟨rfl, rfl, rfl, rfl, rfl, rfl, rfl, fun _ _ _ => .inl nofun⟩
      · exact .quiet (fun _ => rfl) (.finishReceiving s)
  | selectFailed =>
      simp only [udpServerStep, Option.ite_none_right_eq_some, Option.some.injEq] at h
      obtain ⟨-, rfl⟩ := h
      exact .quiet (fun _ => rfl) (.finishReceiving s)
  | selectReady =>
      simp only [udpServerStep, Option.ite_none_right_eq_some, Option.some.injEq] at h
      obtain ⟨-, rfl⟩ := h
      rw [UdpServer.afterSelect]
      split
      · exact .quiet (fun _ => rfl) ⟨rfl, rfl, rfl, rfl, rfl, rfl, rfl, fun _ _ _ => .inl nofun⟩
      · exact .quiet (fun _ => rfl) (.finishReceiving s)
  | recvAgain =>
      simp only [udpServerStep, Option.ite_none_right_eq_some, Option.some.injEq] at h
      obtain ⟨-, rfl⟩ := h
      exact .quiet (fun _ => rfl) ⟨rfl, rfl, rfl, rfl, rfl, rfl, rfl, fun _ _ _ => .inl nofun⟩
  | recvFailed =>
      simp only [udpServerStep, Option.ite_none_right_eq_some, Option.some.injEq] at h
      obtain ⟨-, rfl⟩ := h
      exact .quiet (fun _ => rfl) (.finishReceiving s)
  | datagram address nowNs data =>
      simp only [udpServerStep, Option.ite_none_right_eq_some, Option.some.injEq] at h
      obtain ⟨hpoint, rfl⟩ := h
      exact .datagram address nowNs data hpoint
  | broadcast frame nowNs =>
      simp only [udpServerStep, Option.ite_none_right_eq_some, Option.some.injEq] at h
      obtain ⟨hpoint, rfl⟩ := h
      by_cases hcalls : cfg.enabled = true ∧ s.backend.socketOpen = true
      · exact .broadcast frame nowNs hpoint hcalls.1 hcalls.2
      · refine .quiet (fun _ => rfl) ?_
        rw [UdpServer.beginBroadcast, if_pos]
        · exact .refl s
        · rw [Bool.or_eq_true, Bool.not_eq_true', Bool.not_eq_true']
          by_contra hnot
          rw [not_or, Bool.not_eq_false, Bool.not_eq_false] at hnot
          exact hcalls hnot
  | sendFragments transportSendNs cacheNs =>
      rw [udpServerStep] at h
      split at h
      · cases h
      · rename_i frame clients hpoint
        obtain rfl := Option.some.inj h
        exact .sendFragments frame clients transportSendNs cacheNs hpoint

/-! ### The invariant -/

/-- What the receive loop does to the registry with a datagram. -/
def ReceivedDatagram.registration (datagram : ReceivedDatagram) :
    Option (RegistryOperation UdpReceiverReport) :=
  (readClientMessage datagram.data).map fun message =>
    .registerClient datagram.address datagram.nowNs message.report

def RegistryOperation.isRegistration {ρ : Type} : RegistryOperation ρ → Bool
  | .registerClient .. => true
  | .pruneStaleClients _ => false
  | .snapshotClients _ => false

/-- The endpoint has sent a datagram that registers it. -/
def HasRegistered (received : List ReceivedDatagram) (address : SockaddrIn) : Prop :=
  ∃ datagram ∈ received, datagram.address = address ∧ readClientMessage datagram.data ≠ none

/-- `since` is what was received since `stop` last cleared the registry, `given` the frames
that `Broadcast` was called with. -/
structure UdpServerInvariant (cfg : TransportConfig) (since : List ReceivedDatagram)
    (given : List EncodedFrame) (s : UdpServer) : Prop where
  clients : s.clients = runRegistry cfg s.calls
  received : since <:+ s.received
  /-- The registrations are the datagrams that the receive loop acts on. -/
  registrations : s.calls.filter RegistryOperation.isRegistration =
    since.filterMap ReceivedDatagram.registration
  answering : ∀ address nowNs nackItems,
    s.receivePoint = .answering address nowNs nackItems → HasRegistered s.received address
  sending : ∀ frame clients, s.broadcastPoint = .sending frame clients →
    (cfg.enabled = true ∧ frame ∈ given) ∧
      ∀ address ∈ clients, HasRegistered s.received address
  transmitted : ∀ sent ∈ s.transmitted, sent.frame ∈ given
  emittedTo : EmitsTo
    (fun client => ∃ address, HasRegistered s.received address ∧ client = address.endpoint)
    s.backend
  emitted : Emits (EmittedFor cfg s.transmitted) s.backend

section

variable {env : ServerEnv} {cfg : TransportConfig} {since : List ReceivedDatagram}
  {given : List EncodedFrame} {s t : UdpServer}

theorem UdpServerInvariant.init (cfg : TransportConfig) : UdpServerInvariant cfg [] [] {} where
  clients := rfl
  received := List.suffix_rfl
  registrations := rfl
  answering := nofun
  sending := nofun
  transmitted := nofun
  emittedTo := nofun
  emitted := ⟨nofun, nofun⟩

/-- A client of the registry has registered. -/
theorem UdpServerInvariant.hasRegistered (h : UdpServerInvariant cfg since given s)
    {address : SockaddrIn} (haddress : address ∈ s.clients.map (·.address)) : HasRegistered s.received address := by
  obtain ⟨client, hclient, rfl⟩ := List.mem_map.mp haddress
  rw [h.clients] at hclient
  have hlease := ((runRegistry_holdsLeases cfg s.calls).lease_iff client.address client.lease).mpr
    ⟨client, hclient, rfl, rfl⟩
  obtain ⟨before, renewal, after, hsplit, ⟨report, hrenews⟩, -⟩ :=
    leaseAfter_renewedAt_iff.mp ⟨client.lease, hlease, rfl⟩
  have hmem : renewal ∈ s.calls.map RegistryOperation.access := by
    rw [hsplit]
    exact List.mem_append_right _ List.mem_cons_self
  obtain ⟨op, hop, rfl⟩ := List.mem_map.mp hmem
  cases op with
  | pruneStaleClients nowNs => cases hrenews
  | snapshotClients nowNs => cases hrenews
  | registerClient address nowNs report =>
      have hregistered : RegistryOperation.registerClient address nowNs report ∈
          s.calls.filter RegistryOperation.isRegistration :=
        List.mem_filter.mpr ⟨hop, rfl⟩
      rw [h.registrations] at hregistered
      obtain ⟨datagram, hdatagram, hregistration⟩ := List.mem_filterMap.mp hregistered
      obtain ⟨message, hmessage, heq⟩ := Option.map_eq_some_iff.mp hregistration
      obtain ⟨rfl, -, -⟩ := RegistryOperation.registerClient.inj heq
      obtain ⟨heq, -⟩ := Prod.mk.inj (Option.some.inj hrenews)
      exact ⟨datagram, h.received.mem hdatagram, heq, by simp [hmessage]⟩

theorem UdpServerInvariant.of_quiet (h : UdpServerInvariant cfg since given s)
    (hquiet : StaysQuiet s t) : UdpServerInvariant cfg since given t where
  clients := by rw [hquiet.clients, hquiet.calls, h.clients]
  received := by
    rw [hquiet.received]
    exact h.received
  registrations := by
    rw [hquiet.calls]
    exact h.registrations
  answering address nowNs nackItems hpoint := by
    rw [hquiet.received]
    rcases hquiet.answering address nowNs nackItems with hnot | hsame
    · exact absurd hpoint hnot
    · exact h.answering address nowNs nackItems (hsame ▸ hpoint)
  sending := by
    rw [hquiet.received, hquiet.broadcastPoint]
    exact h.sending
  transmitted := by
    rw [hquiet.transmitted]
    exact h.transmitted
  emittedTo := by
    rw [hquiet.received, EmitsTo, hquiet.emitted]
    exact h.emittedTo
  emitted := by
    rw [hquiet.transmitted]
    refine ⟨?_, ?_⟩
    · rw [hquiet.emitted]
      exact h.emitted.emitted
    · rw [hquiet.retransmitCache]
      exact h.emitted.cached

/-- An access that is no registration. -/
theorem UdpServerInvariant.access (h : UdpServerInvariant cfg since given s)
    {op : RegistryOperation UdpReceiverReport} (hop : op.isRegistration = false) :
    UdpServerInvariant cfg since given (s.access cfg op) :=
  { h with
    clients := by
      rw [UdpServer.access, runRegistry_append_singleton, ← h.clients]
    registrations := by
      rw [UdpServer.access, List.filter_append, List.filter_singleton, hop, h.registrations]
      exact List.append_nil _ }

/-- More frames may be given to `Broadcast`. -/
theorem UdpServerInvariant.give (h : UdpServerInvariant cfg since given s)
    (more : List EncodedFrame) : UdpServerInvariant cfg since (given ++ more) s :=
  { h with
    sending := fun frame clients hpoint => (h.sending frame clients hpoint).imp_left fun hframe =>
      hframe.imp_right (List.mem_append_left more)
    transmitted := fun sent hsent => List.mem_append_left more (h.transmitted sent hsent) }

theorem HasRegistered.append {received : List ReceivedDatagram} {address : SockaddrIn}
    (h : HasRegistered received address) (rest : List ReceivedDatagram) :
    HasRegistered (received ++ rest) address := by
  obtain ⟨datagram, hdatagram, hregistered⟩ := h
  exact ⟨datagram, List.mem_append_left _ hdatagram, hregistered⟩

theorem EmittedFor.append {frames : List SentFrame} {datagram : Bytes}
    (h : EmittedFor cfg frames datagram) (rest : List SentFrame) :
    EmittedFor cfg (frames ++ rest) datagram := by
  obtain ⟨henabled, sent, hsent, hdatagram⟩ := h
  exact ⟨henabled, sent, List.mem_append_left _ hsent, hdatagram⟩

theorem Emits.mono {P Q : Bytes → Prop} {st : UdpStreamingBackend} (h : Emits P st)
    (himp : ∀ datagram, P datagram → Q datagram) : Emits Q st where
  emitted e he := himp e.2 (h.emitted e he)
  cached frame hframe fragment hfragment := himp _ (h.cached frame hframe fragment hfragment)

theorem UdpServerInvariant.receiveDatagram (h : UdpServerInvariant cfg since given s)
    (address : SockaddrIn) (nowNs : UInt64) (data : Bytes) :
    UdpServerInvariant cfg (sinceStop cfg since (.datagram address nowNs data)) given
      (s.receiveDatagram cfg address nowNs data) := by
  have hreceived (datagram : ReceivedDatagram) : since ++ [datagram] <:+ s.received ++ [datagram] :=
    List.suffix_append_inj_of_length_eq rfl |>.mpr ⟨h.received, rfl⟩
  have hsending (rest : List ReceivedDatagram) : ∀ frame clients,
      s.broadcastPoint = .sending frame clients → (cfg.enabled = true ∧ frame ∈ given) ∧
        ∀ address ∈ clients, HasRegistered (s.received ++ rest) address :=
    fun frame clients hpoint => (h.sending frame clients hpoint).imp_right
      fun hclients address haddress => (hclients address haddress).append rest
  have hemitted (rest : List ReceivedDatagram) : ∀ e ∈ s.backend.emitted,
      ∃ address, HasRegistered (s.received ++ rest) address ∧ e.1 = address.endpoint :=
    fun e he => (h.emittedTo e he).imp fun address hclient =>
      hclient.imp_left fun hregistered => hregistered.append rest
  rw [UdpServer.receiveDatagram, sinceStop]
  simp only
  cases hmessage : readClientMessage (data.take cfg.udpMaxDatagramSize) with
  | none =>
      refine ⟨h.clients, hreceived _, ?_, nofun, hsending _, h.transmitted, hemitted _, h.emitted⟩
      rw [h.registrations]
      simp [ReceivedDatagram.registration, hmessage]
  | some message =>
      refine ⟨?_, hreceived _, ?_, ?_, hsending _, h.transmitted, hemitted _, h.emitted⟩
      · show runRegistryOperation cfg s.clients (.registerClient address nowNs message.report) =
          runRegistry cfg (s.calls ++ [.registerClient address nowNs message.report])
        rw [runRegistry_append_singleton, ← h.clients]
      · show (s.calls ++ [RegistryOperation.registerClient address nowNs message.report]).filter
          RegistryOperation.isRegistration = _
        rw [List.filter_append, h.registrations]
        simp [ReceivedDatagram.registration, hmessage, RegistryOperation.isRegistration]
      · intro other otherNs nackItems hpoint
        cases message with
        | keepAlive report => cases hpoint
        | nack items =>
            obtain ⟨rfl, -, -⟩ := UdpReceivePoint.answering.inj hpoint
            exact ⟨_, List.mem_append_right _ List.mem_cons_self, rfl, by simp [hmessage]⟩

theorem UdpServerInvariant.beginBroadcast (h : UdpServerInvariant cfg since given s)
    {frame : EncodedFrame} (hframe : frame ∈ given) (nowNs : UInt64)
    (henabled : cfg.enabled = true) :
    UdpServerInvariant cfg since given (s.beginBroadcast cfg frame nowNs) := by
  rw [UdpServer.beginBroadcast]
  split
  · exact h
  have hsnapshot : UdpServerInvariant cfg since given (s.access cfg (.snapshotClients nowNs)) :=
    h.access rfl
  simp only
  split
  · exact { hsnapshot with sending := nofun }
  · refine { hsnapshot with sending := ?_ }
    intro other clients hpoint
    obtain ⟨rfl, rfl⟩ := BroadcastPoint.sending.inj hpoint
    exact ⟨⟨henabled, hframe⟩, fun address haddress => hsnapshot.hasRegistered haddress⟩

theorem UdpServerInvariant.sendFragments (h : UdpServerInvariant cfg since given s)
    {frame : EncodedFrame} {clients : List SockaddrIn}
    (hpoint : s.broadcastPoint = .sending frame clients) (transportSendNs cacheNs : UInt64) :
    UdpServerInvariant cfg since given
      (s.sendFragments env cfg frame clients transportSendNs cacheNs) := by
  obtain ⟨⟨henabled, hframe⟩, hclients⟩ := h.sending frame clients hpoint
  refine ⟨h.clients, h.received, h.registrations, h.answering, nofun, ?_, ?_, ?_⟩
  · exact List.forall_mem_append.mpr ⟨h.transmitted, List.forall_mem_singleton.mpr hframe⟩
  · refine h.emittedTo.sendFrameFragments ?_ frame transportSendNs cacheNs
    intro client hclient
    obtain ⟨address, haddress, rfl⟩ := List.mem_map.mp hclient
    exact ⟨address, hclients address haddress, rfl⟩
  · have hmore : Emits (EmittedFor cfg (s.transmitted ++ [SentFrame.mk frame transportSendNs]))
        s.backend :=
      h.emitted.mono fun datagram hdatagram => hdatagram.append _
    refine hmore.sendFrameFragments fun hfragmentable datagram hdatagram => ?_
    exact ⟨henabled, _, List.mem_append_right _ List.mem_cons_self, hfragmentable, hdatagram⟩

theorem UdpServerInvariant.step {event : UdpServerEvent} (h : UdpServerInvariant cfg since given s)
    (hstep : udpServerStep env cfg s event = some t) :
    UdpServerInvariant cfg (sinceStop cfg since event) (given ++ broadcastFrames [event]) t := by
  have h := h.give (broadcastFrames [event])
  cases udpServerStep_move hstep with
  | quiet hsince hquiet =>
      rw [hsince]
      exact h.of_quiet hquiet
  | prune nowNs hquiet => exact (h.access rfl).of_quiet hquiet
  | datagram address nowNs data hpoint => exact h.receiveDatagram address nowNs data
  | answer address nowNs nackItems hpoint =>
      have haddress := h.answering address nowNs nackItems hpoint
      exact { h with
        answering := nofun
        emittedTo := h.emittedTo.handleNackRequest ⟨address, haddress, rfl⟩ nowNs nackItems
        emitted := h.emitted.handleNackRequest address.endpoint nowNs nackItems }
  | broadcast frame nowNs hpoint henabled hopen =>
      have hframe : frame ∈ given ++ broadcastFrames [.broadcast frame nowNs] :=
        List.mem_append_right _ List.mem_cons_self
      exact h.beginBroadcast hframe nowNs henabled
  | sendFragments frame clients transportSendNs cacheNs hpoint =>
      exact h.sendFragments hpoint transportSendNs cacheNs
  | clear =>
      exact { h with
        clients := rfl
        received := List.nil_suffix
        registrations := rfl
        answering := nofun
        emitted := ⟨h.emitted.emitted, nofun⟩ }

theorem runUdpServer_invariant {events : List UdpServerEvent}
    (hrun : runUdpServer env cfg events = some s) :
    UdpServerInvariant cfg (receivedSinceStop cfg events) (broadcastFrames events) s := by
  have hpreserved : ∀ past s event t,
      UdpServerInvariant cfg (receivedSinceStop cfg past) (broadcastFrames past) s →
      udpServerStep env cfg s event = some t →
      UdpServerInvariant cfg (receivedSinceStop cfg (past ++ [event]))
        (broadcastFrames (past ++ [event])) t := by
    intro past s event t h hstep
    rw [receivedSinceStop, List.foldl_append, broadcastFrames, List.filterMap_append]
    exact h.step hstep
  exact runSteps_invariant_history (udpServerStep env cfg) hpreserved (.init cfg) hrun

end

/-! ### What is sent, and to whom -/

/-- Whatever the threads do in whatever order, a datagram leaves only for an endpoint that
has registered, and only as a datagram of a frame that `Broadcast` was called with. -/
theorem runUdpServer_emits {env : ServerEnv} {cfg : TransportConfig}
    {events : List UdpServerEvent} {s : UdpServer} (hrun : runUdpServer env cfg events = some s) :
    (∀ sent ∈ s.transmitted, sent.frame ∈ broadcastFrames events) ∧
      ∀ e ∈ s.backend.emitted,
        (∃ address, HasRegistered s.received address ∧ e.1 = address.endpoint) ∧
          EmittedFor cfg s.transmitted e.2 :=
  have h := runUdpServer_invariant hrun
  ⟨h.transmitted, fun e he => ⟨h.emittedTo e he, h.emitted.emitted e he⟩⟩

def udpConfig : TransportConfig := { backend := "udp", udpEnableNack := true, udpEnableFec := true }

def threeByteFrame : EncodedFrame := .numbered 0 0 false [1, 2, 3]

/-- The receive loop takes a datagram. -/
def arrival (address : SockaddrIn) (nowNs : UInt64) (data : Bytes) : List UdpServerEvent :=
  [.receiveProceed, .selectReady, .datagram address nowNs data]

def keepAlive : Bytes := (buildMessageHeader .kKeepAlive 0 0).toBytes

/-- A client registers, and a frame is sent to it. -/
def oneClient : List UdpServerEvent :=
  .start true :: (arrival ⟨5000, 1⟩ 10 keepAlive ++
    [.broadcast threeByteFrame 20, .sendFragments 20 20])

theorem oneClient_emits :
    ∃ s, runUdpServer .single udpConfig oneClient = some s ∧ s.backend.emitted.length = 1 ∧
      (∀ sent ∈ s.transmitted, sent.frame ∈ broadcastFrames oneClient) ∧
      ∀ e ∈ s.backend.emitted,
        (∃ address, HasRegistered s.received address ∧ e.1 = address.endpoint) ∧
          EmittedFor udpConfig s.transmitted e.2 :=
  have hrun : runUdpServer .single udpConfig oneClient = some _ := rfl
  ⟨_, hrun, by decide +kernel, runUdpServer_emits hrun⟩

/-- The endpoint holds a lease at `nowNs`: it has registered, and neither the present access
nor any since then comes later than the timeout after its last registration. -/
def HoldsLeaseAt (cfg : TransportConfig) (calls : List (RegistryOperation UdpReceiverReport))
    (nowNs : UInt64) (address : SockaddrIn) : Prop :=
  ∃ before renewal after, calls.map RegistryOperation.access = before ++ renewal :: after ∧
    renewal.Renews address ∧ nowNs.toNat ≤ renewal.atTime + clientTimeoutNs cfg ∧
    ∀ later ∈ after,
      ¬ later.Renews address ∧ later.atTime ≤ renewal.atTime + clientTimeoutNs cfg

theorem mem_snapshotClients_iff {cfg : TransportConfig}
    {calls : List (RegistryOperation UdpReceiverReport)} {nowNs : UInt64} {address : SockaddrIn} :
    address ∈ (snapshotClients cfg nowNs (runRegistry cfg calls)).2 ↔
      HoldsLeaseAt cfg calls nowNs address := by
  have hleases := runRegistry_holdsLeases cfg calls
  rw [snapshotClients, List.mem_map]
  constructor
  · rintro ⟨client, hclient, rfl⟩
    obtain ⟨hclient, hintime⟩ := mem_pruneStaleClients.mp hclient
    have hlease := (hleases.lease_iff _ _).mpr ⟨client, hclient, rfl, rfl⟩
    obtain ⟨before, renewal, after, hsplit, hrenews, htime, hafter⟩ :=
      leaseAfter_renewedAt_iff.mp ⟨client.lease, hlease, rfl⟩
    refine ⟨before, renewal, after, hsplit, hrenews, ?_, ?_⟩
    · rw [htime]
      exact hintime
    · rw [htime]
      exact hafter
  · rintro ⟨before, renewal, after, hsplit, hrenews, hintime, hafter⟩
    obtain ⟨l, hlease, htime⟩ :=
      leaseAfter_renewedAt_iff.mpr ⟨before, renewal, after, hsplit, hrenews, rfl, hafter⟩
    obtain ⟨client, hclient, rfl, rfl⟩ := (hleases.lease_iff address l).mp hlease
    refine ⟨client, mem_pruneStaleClients.mpr ⟨hclient, ?_⟩, rfl⟩
    rw [← htime] at hintime
    exact hintime

/-- A broadcast goes to the holders of leases, to each of them once, and a lease is taken
only with a datagram that was received since the backend was last stopped. -/
theorem broadcast_recipients {env : ServerEnv} {cfg : TransportConfig}
    {events : List UdpServerEvent} {s t : UdpServer} {frame : EncodedFrame} {nowNs : UInt64}
    (hrun : runUdpServer env cfg events = some s) (henabled : cfg.enabled = true)
    (hopen : s.backend.socketOpen = true)
    (hstep : udpServerStep env cfg s (.broadcast frame nowNs) = some t) :
    s.calls.filter RegistryOperation.isRegistration =
        (receivedSinceStop cfg events).filterMap ReceivedDatagram.registration ∧
      ∃ recipients : List SockaddrIn,
        t.broadcastPoint = (if recipients.isEmpty then .idle else .sending frame recipients) ∧
        recipients.Nodup ∧
        ∀ address, address ∈ recipients ↔ HoldsLeaseAt cfg s.calls nowNs address := by
  have h := runUdpServer_invariant hrun
  refine ⟨h.registrations, (snapshotClients cfg nowNs s.clients).2, ?_, ?_, ?_⟩
  · simp only [udpServerStep, Option.ite_none_right_eq_some, Option.some.injEq] at hstep
    obtain ⟨-, rfl⟩ := hstep
    rw [UdpServer.beginBroadcast, if_neg (by simp [henabled, hopen])]
  · have hleases : HoldsLeases _ (pruneStaleClients cfg nowNs (runRegistry cfg s.calls)) :=
      (runRegistry_holdsLeases cfg s.calls).prune
    rw [h.clients]
    exact hleases.nodup
  · intro address
    rw [h.clients]
    exact mem_snapshotClients_iff

/-- A client registers before a restart, two others do after it. -/
def afterRestart : List UdpServerEvent :=
  .start true :: (arrival ⟨5000, 1⟩ 10 keepAlive ++
    [.stop, .receiveProceed, .joined, .start true] ++
    arrival ⟨6000, 2⟩ 20 keepAlive ++ arrival ⟨7000, 3⟩ 1000 keepAlive)

/-- Five seconds later the lease of the first of the two has run out. -/
theorem afterRestart_recipients :
    ∃ s t, runUdpServer .single udpConfig afterRestart = some s ∧
      udpServerStep .single udpConfig s (.broadcast threeByteFrame 5000000500) = some t ∧
      t.broadcastPoint = .sending threeByteFrame [⟨7000, 3⟩] ∧
      s.calls.filter RegistryOperation.isRegistration =
        (receivedSinceStop udpConfig afterRestart).filterMap ReceivedDatagram.registration ∧
      ∃ recipients : List SockaddrIn,
        t.broadcastPoint =
          (if recipients.isEmpty then .idle else .sending threeByteFrame recipients) ∧
        recipients.Nodup ∧
        ∀ address, address ∈ recipients ↔ HoldsLeaseAt udpConfig s.calls 5000000500 address :=
  have hrun : runUdpServer .single udpConfig afterRestart = some _ :=
    (Option.some_get (by decide +kernel)).symm
  have hstep : udpServerStep .single udpConfig _ (.broadcast threeByteFrame 5000000500) = some _ :=
    (Option.some_get (by decide +kernel)).symm
  ⟨_, _, hrun, hstep, by decide +kernel,
    broadcast_recipients hrun rfl (by decide +kernel) hstep⟩

end AvProject.Server
