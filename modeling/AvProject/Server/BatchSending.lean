import AvProject.Server.UdpEmission

/-!
What one call of `sendFrameFragments` hands to the network, call by call: the
datagrams of the frame in order, each to as many of the clients as its socket call
takes.
-/

namespace AvProject.Server

open AvProject.Lib AvProject.Protocol

/-! ### Datagrams and socket calls -/

/-- Whether the frame gets a parity datagram. -/
def HasParity (cfg : TransportConfig) (frame : EncodedFrame) : Prop :=
  cfg.udpEnableFec ∧ fragmentCountSize cfg frame > 1 ∧
    parity (maxFragmentPayloadSize cfg) frame.payload ≠ []

instance (cfg : TransportConfig) (frame : EncodedFrame) : Decidable (HasParity cfg frame) :=
  inferInstanceAs (Decidable (_ ∧ _))

/-- The datagrams of a frame in the order in which they are sent. -/
def frameDatagrams (cfg : TransportConfig) (sent : SentFrame) : List Bytes :=
  (List.range (fragmentCountSize cfg sent.frame)).map (dataDatagram cfg sent) ++
    if HasParity cfg sent.frame then
      [parityDatagram cfg sent (parity (maxFragmentPayloadSize cfg) sent.frame.payload)]
    else []

/-- What consecutive socket calls hand to the clients, the first of them with number
`call`. -/
def handed (env : ServerEnv) (clients : List Endpoint) : ℕ → List Bytes → List (Endpoint × Bytes)
  | _, [] => []
  | call, datagram :: rest =>
      ((clients.take (env.accepted call datagram)).map fun client => (client, datagram)) ++
        handed env clients (call + 1) rest

/-- Each of the calls takes at least `count` messages. -/
def EachTakes (env : ServerEnv) (count : ℕ) : ℕ → List Bytes → Prop
  | _, [] => True
  | call, datagram :: rest =>
      count ≤ env.accepted call datagram ∧ EachTakes env count (call + 1) rest

/-- Every datagram to every client, in order. -/
def toAll (clients : List Endpoint) (datagrams : List Bytes) : List (Endpoint × Bytes) :=
  datagrams.flatMap fun datagram => clients.map fun client => (client, datagram)

section

variable {env : ServerEnv} {cfg : TransportConfig} {clients : List Endpoint}
  {st : UdpStreamingBackend} {sent : SentFrame}

theorem handed_append (call : ℕ) (first rest : List Bytes) :
    handed env clients call (first ++ rest) =
      handed env clients call first ++ handed env clients (call + first.length) rest := by
  induction first generalizing call with
  | nil => simp [handed]
  | cons datagram first ih =>
      rw [List.cons_append, handed, ih, handed, List.append_assoc, List.length_cons]
      rw [show call + 1 + first.length = call + (first.length + 1) by omega]

theorem eachTakes_append {count : ℕ} (call : ℕ) (first rest : List Bytes) :
    EachTakes env count call (first ++ rest) ↔
      EachTakes env count call first ∧ EachTakes env count (call + first.length) rest := by
  induction first generalizing call with
  | nil => simp [EachTakes]
  | cons datagram first ih =>
      rw [List.cons_append, EachTakes, ih, EachTakes, and_assoc, List.length_cons]
      rw [show call + 1 + first.length = call + (first.length + 1) by omega]

theorem EachTakes.mono {small large call : ℕ} {datagrams : List Bytes} (hle : small ≤ large)
    (h : EachTakes env large call datagrams) : EachTakes env small call datagrams := by
  induction datagrams generalizing call with
  | nil => trivial
  | cons datagram rest ih => exact ⟨hle.trans h.1, ih h.2⟩

theorem length_handed_le (env : ServerEnv) (clients : List Endpoint) (call : ℕ)
    (datagrams : List Bytes) :
    (handed env clients call datagrams).length ≤ datagrams.length * clients.length := by
  induction datagrams generalizing call with
  | nil => simp [handed]
  | cons datagram rest ih =>
      have hrest := ih (call + 1)
      rw [handed, List.length_append, List.length_map, List.length_take, List.length_cons,
        Nat.add_mul, Nat.one_mul]
      omega

/-- All clients get all datagrams exactly where each call takes all messages. -/
theorem handed_eq_toAll_iff (call : ℕ) (datagrams : List Bytes) :
    handed env clients call datagrams = toAll clients datagrams ↔
      EachTakes env clients.length call datagrams := by
  constructor
  · intro h
    have hlength := congrArg List.length h
    clear h
    induction datagrams generalizing call with
    | nil => trivial
    | cons datagram rest ih =>
        have hrest := length_handed_le env clients (call + 1) rest
        have hall : (toAll clients rest).length = rest.length * clients.length := by
          simp [toAll, Nat.mul_comm]
        simp only [handed, toAll, List.flatMap_cons, List.length_append, List.length_map,
          List.length_take] at hlength
        rw [← toAll] at hlength
        refine ⟨by omega, ih (call + 1) (by omega)⟩
  · intro h
    induction datagrams generalizing call with
    | nil => rfl
    | cons datagram rest ih =>
        rw [handed, List.take_of_length_le h.1, ih (call + 1) h.2]
        rfl

/-! ### One call of `sendFrameFragments` -/

/-- What sending leaves alone. -/
structure SendsOnly (st next : UdpStreamingBackend) : Prop where
  retransmitCache : next.retransmitCache = st.retransmitCache
  socketOpen : next.socketOpen = st.socketOpen
  nackFragmentsRequested : next.nackFragmentsRequested = st.nackFragmentsRequested
  retransmitFragmentMisses : next.retransmitFragmentMisses = st.retransmitFragmentMisses
  retransmitFragmentsThrottled :
    next.retransmitFragmentsThrottled = st.retransmitFragmentsThrottled

theorem SendsOnly.refl (st : UdpStreamingBackend) : SendsOnly st st := ⟨rfl, rfl, rfl, rfl, rfl⟩

theorem SendsOnly.trans {a b c : UdpStreamingBackend} (hab : SendsOnly a b)
    (hbc : SendsOnly b c) : SendsOnly a c where
  retransmitCache := hbc.retransmitCache.trans hab.retransmitCache
  socketOpen := hbc.socketOpen.trans hab.socketOpen
  nackFragmentsRequested := hbc.nackFragmentsRequested.trans hab.nackFragmentsRequested
  retransmitFragmentMisses := hbc.retransmitFragmentMisses.trans hab.retransmitFragmentMisses
  retransmitFragmentsThrottled :=
    hbc.retransmitFragmentsThrottled.trans hab.retransmitFragmentsThrottled

/-- A state after some datagrams were sent. -/
structure SentTo (env : ServerEnv) (clients : List Endpoint) (datagrams : List Bytes)
    (st next : UdpStreamingBackend) : Prop where
  emitted : next.emitted = st.emitted ++ handed env clients st.sendCalls datagrams
  sendCalls : next.sendCalls = st.sendCalls + datagrams.length
  keeps : SendsOnly st next

theorem SentTo.nil (st : UdpStreamingBackend) : SentTo env clients [] st st :=
  ⟨by simp [handed], rfl, .refl st⟩

theorem SentTo.trans {a b c : UdpStreamingBackend} {first rest : List Bytes}
    (hab : SentTo env clients first a b) (hbc : SentTo env clients rest b c) :
    SentTo env clients (first ++ rest) a c where
  emitted := by
    rw [hbc.emitted, hab.emitted, hab.sendCalls, handed_append, List.append_assoc]
  sendCalls := by
    rw [hbc.sendCalls, hab.sendCalls, List.length_append, Nat.add_assoc]
  keeps := hab.keeps.trans hbc.keeps

theorem transmit_sentTo (env : ServerEnv) (clients : List Endpoint) (datagram : Bytes)
    (st : UdpStreamingBackend) :
    SentTo env clients [datagram] st (transmit env clients datagram st).1 where
  emitted := by
    simp only [transmit, handed, List.append_nil]
    rw [← List.take_eq_take_min]
  sendCalls := rfl
  keeps := ⟨rfl, rfl, rfl, rfl, rfl⟩

/-- One datagram: a single call, for one client as for several. -/
theorem sendToClients_sentTo (env : ServerEnv) (st : UdpStreamingBackend)
    (hclients : clients ≠ []) (datagram : Bytes) :
    SentTo env clients [datagram] st (sendToClients env clients datagram st).1 ∧
      (sendToClients env clients datagram st).2 =
        min (env.accepted st.sendCalls datagram) clients.length := by
  have hsent := transmit_sentTo env clients datagram st
  have hcount : (transmit env clients datagram st).2 =
      min (env.accepted st.sendCalls datagram) clients.length := rfl
  rw [sendToClients]
  split
  · simp only
    split
    · exact ⟨⟨hsent.emitted, hsent.sendCalls, { hsent.keeps with }⟩, hcount⟩
    · exact ⟨hsent, by omega⟩
  · rename_i hsingle
    have hlength : clients.length = 1 := by
      have hpos := List.length_pos_of_ne_nil hclients
      omega
    simp only
    split
    · exact ⟨⟨hsent.emitted, hsent.sendCalls, { hsent.keeps with }⟩, by omega⟩
    · exact ⟨⟨hsent.emitted, hsent.sendCalls, { hsent.keeps with }⟩, by omega⟩

/-- The copies that enter the retransmit cache. -/
def fragmentCopies (cfg : TransportConfig) (sent : SentFrame) (indices : List ℕ) :
    List CachedUdpFragment :=
  indices.map fun index =>
    { fragmentIndex := index
      datagramSize := (dataDatagram cfg sent index).length
      datagram := dataDatagram cfg sent index }

/-- What the loop over the data fragments has accumulated at its end. -/
def accumulated (cfg : TransportConfig) (sent : SentFrame) (indices : List ℕ)
    (cached : List CachedUdpFragment) (fecPayload : Bytes) : List CachedUdpFragment × Bytes :=
  (if cfg.udpEnableNack then cached ++ fragmentCopies cfg sent indices else cached,
    if cfg.udpEnableFec then
      (indices.map (fragmentPayload cfg sent.frame)).foldl xorInto fecPayload
    else fecPayload)

/-- The outcome of a loop over `indices`. -/
structure DataOutcome (env : ServerEnv) (cfg : TransportConfig) (sent : SentFrame)
    (clients : List Endpoint) (indices : List ℕ) (cached : List CachedUdpFragment)
    (fecPayload : Bytes) (st : UdpStreamingBackend)
    (outcome : UdpStreamingBackend × Option (List CachedUdpFragment × Bytes)) : Prop where
  keeps : SendsOnly st outcome.1
  completed : EachTakes env 1 st.sendCalls (indices.map (dataDatagram cfg sent)) →
    SentTo env clients (indices.map (dataDatagram cfg sent)) st outcome.1 ∧
      outcome.2 = some (accumulated cfg sent indices cached fecPayload)
  failed : ¬ EachTakes env 1 st.sendCalls (indices.map (dataDatagram cfg sent)) →
    outcome.2 = none

/-- The loop over the data fragments runs to its end where each call takes a message. -/
theorem sendDataFragments_outcome (env : ServerEnv) (cfg : TransportConfig) (sent : SentFrame)
    (st : UdpStreamingBackend) (hclients : clients ≠ []) (indices : List ℕ)
    (cached : List CachedUdpFragment) (fecPayload : Bytes) :
    DataOutcome env cfg sent clients indices cached fecPayload st
      (sendDataFragments env cfg sent clients indices st cached fecPayload) := by
  induction indices generalizing st cached fecPayload with
  | nil =>
      refine ⟨.refl st, fun _ => ⟨.nil st, ?_⟩, fun h => absurd trivial h⟩
      simp [sendDataFragments, accumulated, fragmentCopies]
  | cons index rest ih =>
      obtain ⟨hfirst, hcount⟩ := sendToClients_sentTo env st hclients
        (dataDatagram cfg sent index)
      have hpos := List.length_pos_of_ne_nil hclients
      rw [sendDataFragments]
      simp only
      by_cases htakes : 1 ≤ env.accepted st.sendCalls (dataDatagram cfg sent index)
      · have hrest : DataOutcome env cfg sent clients rest _ _
            (sendToClients env clients (dataDatagram cfg sent index) st).1 _ := ih _
          (if cfg.udpEnableNack = true then
            cached ++ [{ fragmentIndex := index
                         datagramSize := (dataDatagram cfg sent index).length
                         datagram := dataDatagram cfg sent index }]
            else cached)
          (if cfg.udpEnableFec = true then
            xorInto fecPayload (fragmentPayload cfg sent.frame index) else fecPayload)
        obtain ⟨hkeeps, hcompleted, hfailed⟩ := hrest
        rw [hfirst.sendCalls] at hcompleted hfailed
        rw [if_neg (by omega)]
        refine ⟨hfirst.keeps.trans hkeeps, fun hall => ?_, fun hnot => ?_⟩
        · obtain ⟨hrest, hresult⟩ := hcompleted hall.2
          refine ⟨hfirst.trans hrest, hresult.trans ?_⟩
          simp only [accumulated, fragmentCopies, List.map_cons, List.foldl_cons]
          congr 2
          · split <;> simp
          · split <;> rfl
        · exact hfailed fun hrest => hnot ⟨htakes, hrest⟩
      · rw [if_pos (by omega)]
        exact ⟨hfirst.keeps, fun hall => absurd hall.1 htakes, fun _ => rfl⟩

/-- The parity datagram, where there is one, needs one more call. -/
theorem sendParity_sentTo (env : ServerEnv) (cfg : TransportConfig) (sent : SentFrame)
    (st : UdpStreamingBackend) (hclients : clients ≠ []) (fecPayload : Bytes) :
    let datagrams :=
      if cfg.udpEnableFec ∧ fragmentCountSize cfg sent.frame > 1 ∧ fecPayload ≠ [] then
        [parityDatagram cfg sent fecPayload]
      else []
    SentTo env clients datagrams st (sendParity env cfg sent clients fecPayload st).1 ∧
      ((sendParity env cfg sent clients fecPayload st).2 = true ↔
        EachTakes env 1 st.sendCalls datagrams) := by
  rw [sendParity]
  split
  · obtain ⟨hsent, hcount⟩ := sendToClients_sentTo env st hclients
      (parityDatagram cfg sent fecPayload)
    have hpos := List.length_pos_of_ne_nil hclients
    refine ⟨⟨hsent.emitted, hsent.sendCalls, { hsent.keeps with }⟩, ?_⟩
    simp only [decide_eq_true_iff, EachTakes, and_true, hcount]
    omega
  · exact ⟨.nil st, by simp [EachTakes]⟩

/-- The two datagrams lists, of the data loop and of the parity, make up the frame's. -/
theorem frameDatagrams_eq :
    frameDatagrams cfg sent =
      (List.range (fragmentCountSize cfg sent.frame)).map (dataDatagram cfg sent) ++
        if cfg.udpEnableFec ∧ fragmentCountSize cfg sent.frame > 1 ∧
            (accumulated cfg sent (List.range (fragmentCountSize cfg sent.frame)) [] []).2 ≠ []
        then [parityDatagram cfg sent
          (accumulated cfg sent (List.range (fragmentCountSize cfg sent.frame)) [] []).2]
        else [] := by
  rw [frameDatagrams]
  congr 1
  cases hfec : cfg.udpEnableFec with
  | false => simp [HasParity, hfec]
  | true =>
      have hparity : (accumulated cfg sent (List.range (fragmentCountSize cfg sent.frame))
          [] []).2 = parity (maxFragmentPayloadSize cfg) sent.frame.payload := by
        rw [accumulated, if_pos hfec]
        rfl
      simp only [hparity, HasParity, hfec]

/-- The state and the result of one call. -/
structure FrameOutcome (env : ServerEnv) (cfg : TransportConfig) (frame : EncodedFrame)
    (clients : List Endpoint) (transportSendNs cacheNs : UInt64) (st : UdpStreamingBackend)
    (outcome : UdpStreamingBackend × Bool) : Prop where
  result : outcome.2 = true ↔ Fragmentable cfg frame ∧
    EachTakes env 1 st.sendCalls (frameDatagrams cfg ⟨frame, transportSendNs⟩)
  sent : outcome.2 = true → ∃ next,
    SentTo env clients (frameDatagrams cfg ⟨frame, transportSendNs⟩) st next ∧
    outcome.1 =
      if cfg.udpEnableNack then
        cacheFrameFragments cfg
          { frameSequence := frame.sequence
            cachedTimestampNs := transportSendNs.toNat
            fragments := fragmentCopies cfg ⟨frame, transportSendNs⟩
              (List.range (fragmentCountSize cfg frame)) } cacheNs next
      else next

theorem sendFrameFragments_outcome (env : ServerEnv) (cfg : TransportConfig)
    (frame : EncodedFrame) (hclients : clients ≠ []) (transportSendNs cacheNs : UInt64)
    (st : UdpStreamingBackend) :
    FrameOutcome env cfg frame clients transportSendNs cacheNs st
      (sendFrameFragments env cfg frame clients transportSendNs cacheNs st) := by
  rw [sendFrameFragments]
  split
  · rename_i hsizes
    refine ⟨?_, by simp⟩
    simp only [Bool.false_eq_true, false_iff, not_and]
    intro hfragmentable
    have htarget := hfragmentable.target
    have hmax := hfragmentable.maxDatagram
    omega
  rename_i hsizes
  split
  · rename_i hcount
    refine ⟨?_, by simp⟩
    simp only [Bool.false_eq_true, false_iff, not_and]
    intro hfragmentable
    have hle := hfragmentable.count_le
    omega
  rename_i hcount
  push Not at hsizes hcount
  have hfragmentable : Fragmentable cfg frame := ⟨hsizes.1, hsizes.2, hcount⟩
  have hcopies : fragmentCopies cfg ⟨frame, transportSendNs⟩
      (List.range (fragmentCountSize cfg frame)) ≠ [] := by
    have hpos := pieceCount_pos hfragmentable.maxFragmentPayloadSize_pos frame.payload.length
    rw [← fragmentCountSize] at hpos
    rw [fragmentCopies, Ne, List.map_eq_nil_iff, List.range_eq_nil]
    omega
  have hdata := sendDataFragments_outcome env cfg ⟨frame, transportSendNs⟩ st hclients
    (List.range (fragmentCountSize cfg frame)) [] []
  simp only
  generalize sendDataFragments env cfg ⟨frame, transportSendNs⟩ clients
    (List.range (fragmentCountSize cfg frame)) st [] [] = loop at hdata ⊢
  obtain ⟨afterData, result⟩ := loop
  have hdatagrams : frameDatagrams cfg ⟨frame, transportSendNs⟩ = _ := frameDatagrams_eq
  by_cases hall : EachTakes env 1 st.sendCalls
      ((List.range (fragmentCountSize cfg frame)).map (dataDatagram cfg ⟨frame, transportSendNs⟩))
  · obtain ⟨hsent, rfl⟩ := hdata.completed hall
    have hparity := sendParity_sentTo env cfg ⟨frame, transportSendNs⟩ afterData hclients
      (accumulated cfg ⟨frame, transportSendNs⟩ (List.range (fragmentCountSize cfg frame)) [] []).2
    rw [hsent.sendCalls] at hparity
    simp only
    generalize sendParity env cfg ⟨frame, transportSendNs⟩ clients _ afterData = parity
      at hparity ⊢
    obtain ⟨afterParity, ok⟩ := parity
    obtain ⟨hrest, hok⟩ := hparity
    have hfrom := hsent.trans hrest
    rw [← hdatagrams] at hfrom
    have hresult : ok = true ↔ Fragmentable cfg frame ∧
        EachTakes env 1 st.sendCalls (frameDatagrams cfg ⟨frame, transportSendNs⟩) := by
      rw [hdatagrams, eachTakes_append, hok]
      exact ⟨fun h => ⟨hfragmentable, hall, h⟩, fun h => h.2.2⟩
    cases ok with
    | false => exact ⟨by simpa using hresult, by simp⟩
    | true =>
        cases hnack : cfg.udpEnableNack with
        | false => exact ⟨by simpa using hresult, fun _ => ⟨afterParity, hfrom, by simp [hnack]⟩⟩
        | true =>
            refine ⟨?_, fun _ => ⟨afterParity, hfrom, ?_⟩⟩
            · simpa [accumulated, hnack, hcopies] using hresult
            · simp [accumulated, hnack, hcopies]
  · obtain rfl := hdata.failed hall
    refine ⟨?_, by simp⟩
    rw [hdatagrams, eachTakes_append]
    simp only [Bool.false_eq_true, false_iff, not_and]
    exact fun _ h => absurd h hall

/-! ### What a reported success means -/

@[simp] theorem emitted_cacheFrameFragments (cfg : TransportConfig) (frame : CachedUdpFrame)
    (nowNs : UInt64) (st : UdpStreamingBackend) :
    (cacheFrameFragments cfg frame nowNs st).emitted = st.emitted := rfl

/-- A successful call emits what its socket calls took. -/
theorem emitted_sendFrameFragments {frame : EncodedFrame} {transportSendNs cacheNs : UInt64}
    (hclients : clients ≠ [])
    (h : (sendFrameFragments env cfg frame clients transportSendNs cacheNs st).2 = true) :
    (sendFrameFragments env cfg frame clients transportSendNs cacheNs st).1.emitted =
      st.emitted ++
        handed env clients st.sendCalls (frameDatagrams cfg ⟨frame, transportSendNs⟩) := by
  obtain ⟨next, hsent, hnext⟩ := (sendFrameFragments_outcome env cfg frame hclients
    transportSendNs cacheNs st).sent h
  rw [hnext]
  split
  · exact hsent.emitted
  · exact hsent.emitted

/-- A reported success means that every client was handed every datagram, and a frame that
some client misses a datagram of is reported as failed. -/
structure ReportsTruthfully (clients : List Endpoint) (datagrams : List Bytes)
    (st : UdpStreamingBackend) (outcome : UdpStreamingBackend × Bool) : Prop where
  success : outcome.2 = true → outcome.1.emitted = st.emitted ++ toAll clients datagrams
  missed : (∃ client ∈ clients, ∃ datagram ∈ datagrams,
    (client, datagram) ∉ outcome.1.emitted.drop st.emitted.length) → outcome.2 = false

theorem mem_toAll {client : Endpoint} {datagram : Bytes} {datagrams : List Bytes}
    (hclient : client ∈ clients) (hdatagram : datagram ∈ datagrams) :
    (client, datagram) ∈ toAll clients datagrams :=
  List.mem_flatMap.mpr ⟨datagram, hdatagram, List.mem_map_of_mem hclient⟩

theorem ReportsTruthfully.of_success {datagrams : List Bytes}
    {outcome : UdpStreamingBackend × Bool}
    (h : outcome.2 = true → outcome.1.emitted = st.emitted ++ toAll clients datagrams) :
    ReportsTruthfully clients datagrams st outcome where
  success := h
  missed := by
    rintro ⟨client, hclient, datagram, hdatagram, hmissed⟩
    by_contra hsuccess
    rw [h (by simpa using hsuccess), List.drop_left] at hmissed
    exact hmissed (mem_toAll hclient hdatagram)

/-- With one client there is nothing between a call that fails and one that succeeds. -/
theorem sendFrameFragments_single (env : ServerEnv) (cfg : TransportConfig)
    (frame : EncodedFrame) (client : Endpoint) (transportSendNs cacheNs : UInt64)
    (st : UdpStreamingBackend) :
    ReportsTruthfully [client] (frameDatagrams cfg ⟨frame, transportSendNs⟩) st
      (sendFrameFragments env cfg frame [client] transportSendNs cacheNs st) := by
  refine .of_success fun hsuccess => ?_
  have hclients : [client] ≠ [] := List.cons_ne_nil _ _
  have htakes := (sendFrameFragments_outcome env cfg frame hclients transportSendNs cacheNs
    st).result.mp hsuccess
  rw [emitted_sendFrameFragments hclients hsuccess]
  congr 1
  exact (handed_eq_toAll_iff _ _).mpr htakes.2

/-- With several clients a batch call may take only some of its messages, which the code
takes for a success. -/
theorem sendFrameFragments_reportsTruthfully_iff (env : ServerEnv) (cfg : TransportConfig)
    (frame : EncodedFrame) (hclients : clients ≠ []) (transportSendNs cacheNs : UInt64)
    (st : UdpStreamingBackend) :
    ReportsTruthfully clients (frameDatagrams cfg ⟨frame, transportSendNs⟩) st
        (sendFrameFragments env cfg frame clients transportSendNs cacheNs st) ↔
      (Fragmentable cfg frame →
        EachTakes env 1 st.sendCalls (frameDatagrams cfg ⟨frame, transportSendNs⟩) →
        EachTakes env clients.length st.sendCalls
          (frameDatagrams cfg ⟨frame, transportSendNs⟩)) := by
  have hresult := (sendFrameFragments_outcome env cfg frame hclients transportSendNs cacheNs
    st).result
  constructor
  · intro htruthful hfragmentable htakes
    have hsuccess := hresult.mpr ⟨hfragmentable, htakes⟩
    have hemitted := htruthful.success hsuccess
    rw [emitted_sendFrameFragments hclients hsuccess] at hemitted
    exact (handed_eq_toAll_iff _ _).mp (List.append_cancel_left hemitted)
  · intro hcondition
    refine .of_success fun hsuccess => ?_
    obtain ⟨hfragmentable, htakes⟩ := hresult.mp hsuccess
    rw [emitted_sendFrameFragments hclients hsuccess]
    congr 1
    exact (handed_eq_toAll_iff _ _).mpr (hcondition hfragmentable htakes)

/-- A frame with this sequence number and payload. -/
def numberedFrame (sequence : UInt64) (payload : Bytes) : EncodedFrame :=
  .numbered sequence 0 false payload

/-- A socket whose send buffer has room for one message per call. -/
def oneMessage : ServerEnv where
  accepted _ _ := 1

theorem oneMessage_reportsTruthfully_iff :
    ReportsTruthfully [1, 2] (frameDatagrams { backend := "udp" } ⟨numberedFrame 7 [1, 2, 3], 5⟩)
        {} (sendFrameFragments oneMessage { backend := "udp" } (numberedFrame 7 [1, 2, 3]) [1, 2]
          5 6 {}) ↔
      (Fragmentable { backend := "udp" } (numberedFrame 7 [1, 2, 3]) →
        EachTakes oneMessage 1 0
          (frameDatagrams { backend := "udp" } ⟨numberedFrame 7 [1, 2, 3], 5⟩) →
        EachTakes oneMessage 2 0
          (frameDatagrams { backend := "udp" } ⟨numberedFrame 7 [1, 2, 3], 5⟩)) :=
  sendFrameFragments_reportsTruthfully_iff oneMessage { backend := "udp" }
    (numberedFrame 7 [1, 2, 3]) (List.cons_ne_nil 1 [2]) 5 6 {}

/-- The second of two clients gets nothing of a frame that is reported as sent. -/
theorem not_reportsTruthfully_oneMessage :
    ¬ ReportsTruthfully [1, 2]
      (frameDatagrams { backend := "udp" } ⟨numberedFrame 7 [1, 2, 3], 5⟩) {}
      (sendFrameFragments oneMessage { backend := "udp" } (numberedFrame 7 [1, 2, 3]) [1, 2]
        5 6 {}) := by
  intro h
  have hsuccess := h.success (by decide +kernel)
  revert hsuccess
  decide +kernel

end

end AvProject.Server
