import AvProject.Client.KeepAlive
import AvProject.Server.UdpSafety

/-!
The way of a reception report: the keepalive thread of a client writes it, the server keeps
the newest one for each client.
-/

namespace AvProject.Udp

open AvProject.Lib AvProject.Protocol AvProject.Client AvProject.Server

/-! ### What the server holds -/

/-- The report of a datagram, where it brings one. -/
theorem parseKeepAliveReport_eq_some {data : Bytes} {report : UdpReceiverReport} :
    parseKeepAliveReport data = some report ↔
      isKeepAlivePacket data = true ∧
        sizeofUdpReceiverReport ≤ (MessageHeader.ofBytes data).payloadLength ∧
        sizeofMessageHeader + sizeofUdpReceiverReport ≤ data.length ∧
        UdpReceiverReport.ofBytes (data.drop sizeofMessageHeader) = report := by
  rw [parseKeepAliveReport, Option.ite_none_left_eq_some, isKeepAlivePacket]
  simp only [Bool.not_eq_true', not_or, Bool.not_eq_false, not_lt, Option.some.injEq, and_assoc]

theorem registration_eq_some_report {datagram : ReceivedDatagram} {address : SockaddrIn}
    {nowNs : UInt64} {report : UdpReceiverReport} :
    datagram.registration = some (.registerClient address nowNs (some report)) ↔
      datagram.address = address ∧ datagram.nowNs = nowNs ∧
        parseKeepAliveReport datagram.data = some report := by
  rw [ReceivedDatagram.registration, Option.map_eq_some_iff]
  constructor
  · rintro ⟨message, hmessage, heq⟩
    obtain ⟨rfl, rfl, hreport⟩ := RegistryOperation.registerClient.inj heq
    refine ⟨rfl, rfl, ?_⟩
    rw [readClientMessage] at hmessage
    split at hmessage
    · obtain rfl := Option.some.inj hmessage
      exact hreport
    · split at hmessage
      · obtain ⟨request, -, rfl⟩ := Option.map_eq_some_iff.mp hmessage
        cases hreport
      · cases hmessage
  · rintro ⟨rfl, rfl, hreport⟩
    refine ⟨.keepAlive (parseKeepAliveReport datagram.data), ?_, ?_⟩
    · rw [readClientMessage, if_pos (parseKeepAliveReport_eq_some.mp hreport).1]
    · rw [ClientMessage.report, hreport]

/-- A datagram brings the newest report from an address. -/
def BringsNewest (received : List ReceivedDatagram) (address : SockaddrIn)
    (datagram : ReceivedDatagram) (report : UdpReceiverReport) : Prop :=
  ∃ before after, received = before ++ datagram :: after ∧ datagram.address = address ∧
    parseKeepAliveReport datagram.data = some report ∧
    ∀ later ∈ after, later.address = address → parseKeepAliveReport later.data = none

/-- The report that is held for a client is the newest one from its address. -/
theorem bringsNewest_of_heldReport {cfg : TransportConfig} {since : List ReceivedDatagram}
    {given : List EncodedFrame} {s : UdpServer} (h : UdpServerInvariant cfg since given s)
    {client : UdpClientEndpoint UdpReceiverReport}
    (hclient : client ∈ s.clients) {report : UdpReceiverReport} {atNs : UInt64}
    (hreport : heldReport client = some (report, atNs)) :
    ∃ datagram, datagram.nowNs = atNs ∧
      BringsNewest s.received client.address datagram report := by
  rw [h.clients] at hclient
  have hlease := ((runRegistry_holdsLeases cfg s.calls).lease_iff _ _).mpr
    ⟨client, hclient, rfl, rfl⟩
  obtain ⟨before, access, after, hsplit, hrenews, hlater⟩ := leaseAfter_report hlease hreport
  obtain ⟨first, ops, hcalls, -, hops⟩ := List.map_eq_append_iff.mp hsplit
  obtain ⟨op, rest, rfl, rfl, rfl⟩ := List.map_eq_cons_iff.mp hops
  have hop : op = .registerClient client.address atNs (some report) := by
    cases op with
    | pruneStaleClients nowNs => cases hrenews
    | snapshotClients nowNs => cases hrenews
    | registerClient address nowNs brought =>
        obtain ⟨rfl, heq⟩ := Prod.mk.inj (Option.some.inj hrenews)
        obtain ⟨newest, rfl, hnewest⟩ := Option.map_eq_some_iff.mp heq
        obtain ⟨rfl, rfl⟩ := Prod.mk.inj hnewest
        rfl
  subst hop
  obtain ⟨earlier, hreceived⟩ := h.received
  have hregistrations := h.registrations
  rw [hcalls, List.filter_append, List.filter_cons_of_pos rfl] at hregistrations
  obtain ⟨older, newer, rfl, -, hnewer⟩ := List.filterMap_eq_append_iff.mp hregistrations.symm
  obtain ⟨ignored, datagram, latest, rfl, -, hdatagram, hlatest⟩ :=
    List.filterMap_eq_cons_iff.mp hnewer
  obtain ⟨haddress, hnowNs, hparsed⟩ := registration_eq_some_report.mp hdatagram
  refine ⟨datagram, hnowNs, earlier ++ older ++ ignored, latest, ?_, haddress, hparsed, ?_⟩
  · rw [← hreceived]
    simp only [List.append_assoc]
  · intro later hmem hsame
    rw [Option.eq_none_iff_forall_ne_some]
    intro newest hnewest
    have hregistered := registration_eq_some_report.mpr ⟨hsame, rfl, hnewest⟩
    have hrest : _ ∈ rest.filter RegistryOperation.isRegistration :=
      hlatest ▸ List.mem_filterMap.mpr ⟨later, hmem, hregistered⟩
    exact hlater _ (List.mem_map_of_mem (List.mem_filter.mp hrest).1) (newest, later.nowNs) rfl

/-! ### What the client has sent -/

/-- What `SendKeepAlive` reads when it writes a message. -/
structure Reading where
  stats : UdpReceiveStats
  nowNs : ℕ

/-- The readings of a run: one in `Connect`, and one whenever the thread wakes up. -/
def readings (first : Reading) (events : List KeepAliveEvent) : List Reading :=
  first :: events.filterMap fun
    | .wake stats nowNs => some ⟨stats, nowNs⟩
    | _ => none

/-- The message of a reading. -/
def Reading.message (bits : ℚ → UInt64) (cfg : ClientConfig) (r : Reading) : Bytes :=
  keepAliveMessage bits cfg r.stats r.nowNs

/-- The messages of the stream are those of the readings; the one that is being sent is
whole, a message that was not taken whole is the last. -/
structure SendsReadings (bits : ℚ → UInt64) (cfg : ClientConfig) (readings : List Reading)
    (s : KeepAliveThread) : Prop where
  sending : ∀ message, s.point = .sending message →
    ∃ r ∈ readings, message = r.message bits cfg
  stream : ∀ message ∈ s.stream, ∃ r ∈ readings, ∃ taken,
    message = (r.message bits cfg).take taken

section

variable {bits : ℚ → UInt64} {cfg : ClientConfig} {s t : KeepAliveThread}
  {event : KeepAliveEvent} {rs : List Reading}

theorem SendsReadings.step (h : SendsReadings bits cfg rs s)
    (hwake : ∀ stats nowNs, event = .wake stats nowNs → ⟨stats, nowNs⟩ ∈ rs)
    (hstep : keepAliveStep bits cfg s event = some t) : SendsReadings bits cfg rs t := by
  unfold keepAliveStep at hstep
  split at hstep
  · obtain rfl := Option.some.inj hstep
    exact { h with }
  · obtain rfl := Option.some.inj hstep
    refine { h with sending := fun message hpoint => ?_ }
    simp only at hpoint
    split at hpoint <;> cases hpoint
  · rename_i stats nowNs hpoint
    split at hstep
    · obtain rfl := Option.some.inj hstep
      refine { h with sending := fun message hpoint => ?_ }
      obtain rfl := KeepAlivePoint.sending.inj hpoint
      exact ⟨_, hwake stats nowNs rfl, rfl⟩
    · obtain rfl := Option.some.inj hstep
      exact { h with sending := nofun }
  · rename_i message taken hpoint
    obtain ⟨r, hr, rfl⟩ := h.sending message hpoint
    split at hstep
    · cases hstep
    split at hstep
    · obtain rfl := Option.some.inj hstep
      refine ⟨nofun, List.forall_mem_append.mpr ⟨h.stream, List.forall_mem_singleton.mpr ?_⟩⟩
      exact ⟨r, hr, _, List.take_length.symm⟩
    · obtain rfl := Option.some.inj hstep
      refine ⟨nofun, List.forall_mem_append.mpr ⟨h.stream, List.forall_mem_singleton.mpr ?_⟩⟩
      exact ⟨r, hr, taken, rfl⟩
  · obtain rfl := Option.some.inj hstep
    exact { h with sending := nofun }
  · cases hstep

theorem runKeepAlive_sendsReadings {first : Reading} {events : List KeepAliveEvent}
    (hrun : runKeepAlive bits cfg (first.message bits cfg) events = some t) :
    SendsReadings bits cfg (readings first events) t := by
  have hfirst : SendsReadings bits cfg (readings first events)
      { stream := [first.message bits cfg] } := by
    refine ⟨nofun, List.forall_mem_singleton.mpr ⟨first, List.mem_cons_self, ?_⟩⟩
    exact ⟨(first.message bits cfg).length, List.take_length.symm⟩
  rw [runKeepAlive] at hrun
  generalize KeepAliveThread.mk true .loopCheck [first.message bits cfg] = start at hrun hfirst
  have hwakes : ∀ stats nowNs, .wake stats nowNs ∈ events →
      (⟨stats, nowNs⟩ : Reading) ∈ readings first events := fun stats nowNs hmem =>
    List.mem_cons_of_mem _ (List.mem_filterMap.mpr ⟨_, hmem, rfl⟩)
  generalize readings first events = rs at hfirst hwakes ⊢
  induction events generalizing start with
  | nil =>
      obtain rfl := Option.some.inj hrun
      exact hfirst
  | cons event events ih =>
      obtain ⟨next, hnext, hrest⟩ := (runSteps_cons_eq_some _).mp hrun
      refine ih next hrest (hfirst.step ?_ hnext) ?_
      · rintro stats nowNs rfl
        exact hwakes stats nowNs List.mem_cons_self
      · exact fun stats nowNs hmem => hwakes stats nowNs (List.mem_cons_of_mem _ hmem)

end

/-! ### From the client to the server -/

/-- A message is read back as what was reported, or it is cut short and brings nothing. -/
theorem parseKeepAliveReport_message {bits : ℚ → UInt64} {cfg : ClientConfig} {r : Reading}
    {length : ℕ} {report : UdpReceiverReport}
    (h : parseKeepAliveReport ((r.message bits cfg).take length) = some report) :
    report = keepAliveReport bits r.stats r.nowNs := by
  obtain ⟨-, -, hlength, rfl⟩ := parseKeepAliveReport_eq_some.mp h
  rw [Reading.message, keepAliveMessage] at hlength ⊢
  split at hlength
  · rw [List.length_take, length_toBytes_buildMessageHeader] at hlength
    simp only [sizeofMessageHeader, sizeofUdpReceiverReport] at hlength
    omega
  · rename_i hudp
    have hwhole : sizeofMessageHeader + sizeofUdpReceiverReport ≤ length :=
      hlength.trans (List.length_take_le _ _)
    rw [if_neg hudp, List.take_of_length_le (by simpa using hwhole),
      List.drop_left' (length_toBytes_buildMessageHeader _ _ _)]
    have hback := UdpReceiverReport.ofBytes_toBytes_append
      (keepAliveReport_fits bits r.stats r.nowNs) []
    rw [List.append_nil] at hback
    exact hback

/-- Both programs run, and the network carries the keepalives of the client to the server;
it may lose, repeat and reorder them, and every other datagram may come from anywhere. What
the server holds for the client then is what the client has reported, and the newest such
report that has arrived. -/
theorem heldReport_of_client {env : ServerEnv} {cfg : TransportConfig}
    {events : List UdpServerEvent} {s : UdpServer} (hserver : runUdpServer env cfg events = some s)
    {bits : ℚ → UInt64} {clientCfg : ClientConfig} {first : Reading}
    {clientEvents : List KeepAliveEvent} {t : KeepAliveThread}
    (hkeepAlive : runKeepAlive bits clientCfg (first.message bits clientCfg) clientEvents = some t)
    {address : SockaddrIn}
    (hnetwork : ∀ datagram ∈ s.received, datagram.address = address →
      isKeepAlivePacket datagram.data = true →
      ∃ message ∈ t.stream, datagram.data = message.take cfg.udpMaxDatagramSize) :
    ∀ client ∈ s.clients, client.address = address → ∀ report atNs,
      heldReport client = some (report, atNs) →
      ∃ r ∈ readings first clientEvents, report = keepAliveReport bits r.stats r.nowNs ∧
        ∃ datagram, datagram.nowNs = atNs ∧ BringsNewest s.received address datagram report := by
  rintro client hclient rfl report atNs hreport
  obtain ⟨datagram, hnowNs, hnewest⟩ :=
    bringsNewest_of_heldReport (runUdpServer_invariant hserver) hclient hreport
  have ⟨before, after, hreceived, haddress, hparsed, _⟩ := hnewest
  have hmem : datagram ∈ s.received := by
    rw [hreceived]
    exact List.mem_append_right _ List.mem_cons_self
  obtain ⟨message, hmessage, hdata⟩ :=
    hnetwork datagram hmem haddress (parseKeepAliveReport_eq_some.mp hparsed).1
  obtain ⟨r, hr, taken, rfl⟩ := (runKeepAlive_sendsReadings hkeepAlive).stream message hmessage
  rw [hdata, List.take_take] at hparsed
  exact ⟨r, hr, parseKeepAliveReport_message hparsed, datagram, hnowNs, hnewest⟩

/-! ### Reports that arrive -/

def udpClientConfig : ClientConfig := { transport := .udp }

/-- The readings of `Connect` and of two rounds of the thread. -/
def firstReading : Reading := ⟨{ datagramsReceived := 3 }, 1000⟩
def secondReading : Reading := ⟨{ datagramsReceived := 7 }, 2000⟩
def thirdReading : Reading := ⟨{ datagramsReceived := 9 }, 3000⟩

/-- The thread wakes up twice, and what it sends is taken whole. -/
def twoRounds : List KeepAliveEvent :=
  [secondReading, thirdReading].flatMap fun r =>
    [.proceed, .wake r.stats r.nowNs,
      .sendReturned (some (sizeofMessageHeader + sizeofUdpReceiverReport))]

/-- The server receives the message of a reading. -/
def reportArrival (address : SockaddrIn) (nowNs : UInt64) (r : Reading) : List UdpServerEvent :=
  arrival address nowNs (r.message (fun _ => 0) udpClientConfig)

/-- The third report overtakes the second, and the first one comes from elsewhere too. -/
def reportsArrive : List UdpServerEvent :=
  .start true :: (reportArrival ⟨5000, 1⟩ 10 firstReading ++
    reportArrival ⟨5000, 1⟩ 20 thirdReading ++ reportArrival ⟨6000, 2⟩ 25 firstReading ++
    reportArrival ⟨5000, 1⟩ 30 secondReading)

theorem reportsArrive_heldReport :
    ∃ s t, runUdpServer .single udpConfig reportsArrive = some s ∧
      runKeepAlive (fun _ => 0) udpClientConfig
        (firstReading.message (fun _ => 0) udpClientConfig) twoRounds = some t ∧
      (s.clients.map fun client => (client.address, heldReport client)) =
        [(⟨5000, 1⟩, some (keepAliveReport (fun _ => 0) secondReading.stats 2000, 30)),
          (⟨6000, 2⟩, some (keepAliveReport (fun _ => 0) firstReading.stats 1000, 25))] ∧
      ∀ client ∈ s.clients, client.address = ⟨5000, 1⟩ → ∀ report atNs,
        heldReport client = some (report, atNs) →
        ∃ r ∈ readings firstReading twoRounds,
          report = keepAliveReport (fun _ => 0) r.stats r.nowNs ∧
          ∃ datagram, datagram.nowNs = atNs ∧
            BringsNewest s.received ⟨5000, 1⟩ datagram report :=
  have hserver : runUdpServer .single udpConfig reportsArrive = some _ :=
    (Option.some_get (by decide +kernel)).symm
  have hkeepAlive : runKeepAlive (fun _ => 0) udpClientConfig
    (firstReading.message (fun _ => 0) udpClientConfig) twoRounds = some _ :=
    (Option.some_get (by decide +kernel)).symm
  ⟨_, _, hserver, hkeepAlive, by decide +kernel,
    heldReport_of_client hserver hkeepAlive (by decide +kernel)⟩

end AvProject.Udp
