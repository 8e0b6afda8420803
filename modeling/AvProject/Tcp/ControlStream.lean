import AvProject.Server.TcpReceiveLoop

/-!
What the client sends on the control connection is a sequence of messages, each a header
and a body. `ReceiveLoop` reads headers only, so it stays in step with the messages exactly
as long as they have no bodies.
-/

namespace AvProject.Tcp

open AvProject.Lib AvProject.Protocol AvProject.Server

/-- A message as the protocol lays it down. -/
structure WireMessage where
  messageType : ℕ
  subType : ℕ
  payload : Bytes
  messageType_lt : messageType < 2 ^ 16
  subType_lt : subType < 2 ^ 16
  length_payload_lt : payload.length < 2 ^ 32

def WireMessage.header (m : WireMessage) : MessageHeader where
  headId := kMessageMagic
  messageType := m.messageType
  subType := m.subType
  payloadLength := m.payload.length

def WireMessage.toBytes (m : WireMessage) : Bytes := m.header.toBytes ++ m.payload

/-- What the client sends. -/
def streamOf (messages : List WireMessage) : Bytes := messages.flatMap WireMessage.toBytes

/-- A message ends, or the stream begins, at the offset. -/
def IsBoundary (messages : List WireMessage) (offset : ℕ) : Prop :=
  ∃ before after, messages = before ++ after ∧ offset = (streamOf before).length

/-- A keepalive message ends at the offset. -/
def KeepAliveEnd (messages : List WireMessage) (offset : ℕ) : Prop :=
  ∃ before m after, messages = before ++ m :: after ∧
    m.messageType = MessageType.kKeepAlive.code ∧ offset = (streamOf (before ++ [m])).length

/-- No keepalive message ends between `start` and what has been taken. -/
def QuietSince (messages : List WireMessage) (taken start : ℕ) : Prop :=
  ∀ offset, KeepAliveEnd messages offset → offset ≤ start ∨ taken < offset

/-- Headers are read where messages begin, and a session that is closed for inactivity has
seen five timeouts in a row with no keepalive message between the first one and the end. -/
structure InStep (messages : List WireMessage) (s : ReceiveThread) : Prop where
  headers : ∀ start ∈ s.headerStarts, IsBoundary messages start
  inactivity : s.point = .finished .keepAliveTimeout →
    ∃ earlier quiet, s.timeoutsAt = earlier ++ quiet ∧ quiet.length = 5 ∧
      ∀ start ∈ quiet, QuietSince messages s.taken start

/-- In every run the thread is in step, and the step that takes the last byte of a keepalive
message restores the budget. -/
def StaysInStep (messages : List WireMessage) : Prop :=
  ∀ inputs s, runReceiveLoop (streamOf messages) inputs = some s →
    InStep messages s ∧
      ∀ input t offset, receiveStep s input = some t → KeepAliveEnd messages offset →
        s.taken < offset → offset ≤ t.taken → t.keepAliveBudget = 5

/-! ### Messages on the wire -/

theorem WireMessage.length_header (m : WireMessage) :
    m.header.toBytes.length = sizeofMessageHeader := by
  simp [WireMessage.header, MessageHeader.toBytes, sizeofMessageHeader]

theorem WireMessage.length_toBytes (m : WireMessage) :
    m.toBytes.length = sizeofMessageHeader + m.payload.length := by
  rw [WireMessage.toBytes, List.length_append, m.length_header]

/-- The client's header is what the server reads. -/
theorem WireMessage.ofBytes_header (m : WireMessage) :
    MessageHeader.ofBytes m.header.toBytes = m.header := by
  have htake (b : Bytes) : (kMessageMagic ++ b).take 4 = kMessageMagic :=
    List.take_left' length_kMessageMagic
  have hdrop (b : Bytes) : (kMessageMagic ++ b).drop 4 = b :=
    List.drop_left' length_kMessageMagic
  have htype : m.messageType % 256 ^ 2 = m.messageType := Nat.mod_eq_of_lt m.messageType_lt
  have hsub : m.subType % 256 ^ 2 = m.subType := Nat.mod_eq_of_lt m.subType_lt
  have hlen : m.payload.length % 256 ^ 4 = m.payload.length :=
    Nat.mod_eq_of_lt m.length_payload_lt
  have hlast := takeLe_writeLe_append 4 m.payload.length []
  rw [List.append_nil] at hlast
  simp only [MessageHeader.ofBytes, MessageHeader.toBytes, WireMessage.header, htake, hdrop,
    takeLe_writeLe_append, hlast, htype, hsub, hlen]

theorem WireMessage.isKeepAlive_header (m : WireMessage) :
    isKeepAlive m.header = true ↔ m.messageType = MessageType.kKeepAlive.code := by
  simp [isKeepAlive, hasValidMessageMagic, WireMessage.header]

/-! ### Messages without bodies -/

section

variable {messages : List WireMessage} (hbodiless : ∀ m ∈ messages, m.payload = [])

include hbodiless

theorem length_streamOf : (streamOf messages).length = 12 * messages.length := by
  induction messages with
  | nil => rfl
  | cons m messages ih =>
      have hrest := ih fun m' hm' => hbodiless m' (List.mem_cons_of_mem _ hm')
      have hbody : m.payload.length = 0 := by rw [hbodiless m List.mem_cons_self]; rfl
      rw [streamOf, List.flatMap_cons, List.length_append, m.length_toBytes, hbody]
      rw [streamOf] at hrest
      rw [hrest, List.length_cons, sizeofMessageHeader]
      omega

/-- The header of each message lies at its place. -/
theorem sliceAt_streamOf {k : ℕ} {m : WireMessage} (hk : messages[k]? = some m) :
    sliceAt (streamOf messages) (12 * k) 12 = m.header.toBytes := by
  obtain ⟨hlt, rfl⟩ := List.getElem?_eq_some_iff.mp hk
  have hsplit : messages = messages.take k ++ messages[k] :: messages.drop (k + 1) := by
    rw [List.getElem_cons_drop, List.take_append_drop]
  have hbefore : (streamOf (messages.take k)).length = 12 * k := by
    rw [length_streamOf fun m hm => hbodiless m (List.mem_of_mem_take hm), List.length_take,
      Nat.min_eq_left hlt.le]
  have hbody : messages[k].toBytes = messages[k].header.toBytes := by
    rw [WireMessage.toBytes, hbodiless _ (List.getElem_mem hlt), List.append_nil]
  have hstream : streamOf messages = streamOf (messages.take k) ++
      (messages[k].header.toBytes ++ streamOf (messages.drop (k + 1))) := by
    conv_lhs => rw [hsplit]
    rw [streamOf, List.flatMap_append, List.flatMap_cons, hbody]
    rfl
  rw [hstream]
  exact sliceAt_append hbefore (WireMessage.length_header _) _

theorem isBoundary_of_dvd {offset : ℕ} (hdvd : 12 ∣ offset)
    (hle : offset ≤ (streamOf messages).length) : IsBoundary messages offset := by
  obtain ⟨k, rfl⟩ := hdvd
  rw [length_streamOf hbodiless] at hle
  refine ⟨messages.take k, messages.drop k, (List.take_append_drop k messages).symm, ?_⟩
  rw [length_streamOf fun m hm => hbodiless m (List.mem_of_mem_take hm), List.length_take]
  omega

theorem keepAliveEnd_iff {offset : ℕ} :
    KeepAliveEnd messages offset ↔
      ∃ k m, messages[k]? = some m ∧ m.messageType = MessageType.kKeepAlive.code ∧
        offset = 12 * (k + 1) := by
  have hlength (first after : List WireMessage) (h : messages = first ++ after) :
      (streamOf first).length = 12 * first.length :=
    length_streamOf fun m hm => hbodiless m (h ▸ List.mem_append_left after hm)
  constructor
  · rintro ⟨before, m, after, hsplit, htype, hoffset⟩
    refine ⟨before.length, m, by simp [hsplit], htype, ?_⟩
    rw [hoffset, hlength (before ++ [m]) after (by simp [hsplit]), List.length_append]
    rfl
  · rintro ⟨k, m, hk, htype, rfl⟩
    obtain ⟨hlt, rfl⟩ := List.getElem?_eq_some_iff.mp hk
    have hsplit : messages = messages.take k ++ messages[k] :: messages.drop (k + 1) := by
      rw [List.getElem_cons_drop, List.take_append_drop]
    refine ⟨messages.take k, messages[k], messages.drop (k + 1), hsplit, htype, ?_⟩
    rw [hlength (messages.take k ++ [messages[k]]) (messages.drop (k + 1)) (by simp),
      List.length_append, List.length_take, Nat.min_eq_left hlt.le]
    rfl

end

/-! ### A thread that is in step -/

/-- What has been received of a header is the beginning of a block of the stream. -/
def HeaderPart (stream : Bytes) (taken : ℕ) (received : Bytes) : Prop :=
  ∃ k, taken = 12 * k + received.length ∧ received = sliceAt stream (12 * k) received.length ∧
    received.length < 12

def AlignedAt (stream : Bytes) (taken : ℕ) : ReceivePoint → Prop
  | .loopCheck => 12 ∣ taken
  | .select => 12 ∣ taken
  | .receiveCheck received => HeaderPart stream taken received
  | .recv received => HeaderPart stream taken received
  | .finished _ => True

structure Aligned (messages : List WireMessage) (s : ReceiveThread) : Prop where
  unread_eq : s.unread = (streamOf messages).drop s.taken
  taken_le : s.taken ≤ (streamOf messages).length
  aligned : AlignedAt (streamOf messages) s.taken s.point
  headers : ∀ start ∈ s.headerStarts, 12 ∣ start ∧ start ≤ (streamOf messages).length
  budget : ∃ earlier quiet, s.timeoutsAt = earlier ++ quiet ∧
    (quiet.length : ℤ) = 5 - s.keepAliveBudget ∧ ∀ start ∈ quiet, QuietSince messages s.taken start
  positive : (∀ reason, s.point ≠ .finished reason) → 0 < s.keepAliveBudget
  spent : s.point = .finished .keepAliveTimeout → s.keepAliveBudget = 0

theorem Aligned.start (messages : List WireMessage) :
    Aligned messages { unread := streamOf messages } where
  unread_eq := rfl
  taken_le := Nat.zero_le _
  aligned := Nat.dvd_zero 12
  headers _ h := absurd h List.not_mem_nil
  budget := ⟨[], [], rfl, rfl, fun _ h => absurd h List.not_mem_nil⟩
  positive _ := show (0 : ℤ) < 5 by norm_num
  spent h := by cases h

section

variable {messages : List WireMessage} {s t : ReceiveThread}

theorem Aligned.inStep (h : Aligned messages s) (hbodiless : ∀ m ∈ messages, m.payload = []) :
    InStep messages s where
  headers start hstart :=
    isBoundary_of_dvd hbodiless (h.headers start hstart).1 (h.headers start hstart).2
  inactivity hpoint := by
    obtain ⟨earlier, quiet, htimeouts, hlength, hquiet⟩ := h.budget
    have hspent := h.spent hpoint
    exact ⟨earlier, quiet, htimeouts, by omega, hquiet⟩

theorem Aligned.finish (h : Aligned messages s) {reason : ReceiveEnd}
    (hreason : reason ≠ .keepAliveTimeout) : Aligned messages (s.finish reason) where
  unread_eq := h.unread_eq
  taken_le := h.taken_le
  aligned := trivial
  headers := h.headers
  budget := h.budget
  positive hopen := absurd rfl (hopen reason)
  spent hpoint := absurd (ReceivePoint.finished.inj hpoint) hreason

/-- A move to another point that is as well aligned. -/
theorem Aligned.moveTo (h : Aligned messages s) (hopen : ∀ reason, s.point ≠ .finished reason)
    {point : ReceivePoint} (hpoint : AlignedAt (streamOf messages) s.taken point)
    (hnext : point ≠ .finished .keepAliveTimeout) :
    Aligned messages { s with point := point } where
  unread_eq := h.unread_eq
  taken_le := h.taken_le
  aligned := hpoint
  headers := h.headers
  budget := h.budget
  positive _ := h.positive hopen
  spent hspent := absurd hspent hnext

theorem Aligned.timedOut (h : Aligned messages s) (hpoint : s.point = .select) :
    Aligned messages s.timedOut := by
  have hpos : 0 < s.keepAliveBudget := h.positive (by rw [hpoint]; rintro reason ⟨⟩)
  have haligned : AlignedAt (streamOf messages) s.taken .select := hpoint ▸ h.aligned
  have hbudget : ∃ earlier quiet, s.timeoutsAt ++ [s.taken] = earlier ++ quiet ∧
      (quiet.length : ℤ) = 5 - (s.keepAliveBudget - 1) ∧
      ∀ start ∈ quiet, QuietSince messages s.taken start := by
    obtain ⟨earlier, quiet, htimeouts, hlength, hquiet⟩ := h.budget
    refine ⟨earlier, quiet ++ [s.taken], by rw [htimeouts, List.append_assoc], ?_, ?_⟩
    · rw [List.length_append, List.length_singleton]
      omega
    · intro start hstart
      rcases List.mem_append.mp hstart with hearlier | hlast
      · exact hquiet start hearlier
      · -- nothing is taken between this timeout and now
        obtain rfl := List.mem_singleton.mp hlast
        exact fun offset _ => le_or_gt offset s.taken
  rw [ReceiveThread.timedOut]
  split
  · exact ⟨h.unread_eq, h.taken_le, trivial, h.headers, hbudget,
      fun hopen => absurd rfl (hopen .keepAliveTimeout), fun _ => by
        show s.keepAliveBudget - 1 = 0
        omega⟩
  · exact ⟨h.unread_eq, h.taken_le, haligned, h.headers, hbudget, fun _ => by
        show 0 < s.keepAliveBudget - 1
        omega, by rintro ⟨⟩⟩

theorem Aligned.startHeader (h : Aligned messages s) (hpoint : s.point = .select) :
    Aligned messages
      { s with point := .receiveCheck [], headerStarts := s.headerStarts ++ [s.taken] } := by
  have haligned : AlignedAt (streamOf messages) s.taken .select := hpoint ▸ h.aligned
  refine ⟨h.unread_eq, h.taken_le, ?_, ?_, h.budget, ?_, by rintro ⟨⟩⟩
  · obtain ⟨k, hk⟩ := haligned
    exact ⟨k, by simpa using hk, by simp [sliceAt], by decide⟩
  · intro start hstart
    rcases List.mem_append.mp hstart with hearlier | hlast
    · exact h.headers start hearlier
    · obtain rfl := List.mem_singleton.mp hlast
      exact ⟨haligned, h.taken_le⟩
  · exact fun _ => h.positive (by rw [hpoint]; rintro reason ⟨⟩)

/-- What has been received so far, with the next bytes. -/
theorem Aligned.filled (h : Aligned messages s) {received : Bytes} {count k : ℕ}
    (htaken : s.taken = 12 * k + received.length)
    (hreceived : received = sliceAt (streamOf messages) (12 * k) received.length) :
    received ++ s.unread.take count =
      sliceAt (streamOf messages) (12 * k) (received.length + count) := by
  rw [h.unread_eq, sliceAt, List.take_add, List.drop_drop, ← htaken]
  exact congrArg (· ++ _) hreceived

/-- A read that is part of a header, or completes it. -/
theorem Aligned.receive (h : Aligned messages s) (hbodiless : ∀ m ∈ messages, m.payload = [])
    {received : Bytes} {count : ℕ} (hpoint : s.point = .recv received)
    (hfits : count ≤ sizeofMessageHeader - received.length) (hthere : count ≤ s.unread.length) :
    Aligned messages (s.receive received count) ∧
      ∀ offset, KeepAliveEnd messages offset → s.taken < offset → offset ≤ s.taken + count →
        (s.receive received count).keepAliveBudget = 5 := by
  have haligned : HeaderPart (streamOf messages) s.taken received := by
    have hrecv : AlignedAt (streamOf messages) s.taken (.recv received) := hpoint ▸ h.aligned
    exact hrecv
  obtain ⟨k, htaken, hreceived, hshort⟩ := haligned
  rw [sizeofMessageHeader] at hfits
  have hroom : s.taken + count ≤ (streamOf messages).length := by
    have hle := h.taken_le
    rw [h.unread_eq, List.length_drop] at hthere
    omega
  have hunread : s.unread.drop count = (streamOf messages).drop (s.taken + count) := by
    rw [h.unread_eq, List.drop_drop]
  have hfilled : received ++ s.unread.take count =
      sliceAt (streamOf messages) (12 * k) (received.length + count) := h.filled htaken hreceived
  have hlength : (received ++ s.unread.take count).length = received.length + count := by
    rw [List.length_append, List.length_take, Nat.min_eq_left hthere]
  have hopen : ∀ reason, s.point ≠ .finished reason := by
    rw [hpoint]
    rintro reason ⟨⟩
  obtain ⟨earlier, quiet, htimeouts, hcount, hquiet⟩ := h.budget
  -- a keepalive message that ends within the read is the one whose header this is
  have hends : ∀ offset, KeepAliveEnd messages offset → s.taken < offset →
      offset ≤ s.taken + count → received.length + count = 12 ∧
        ∃ m, messages[k]? = some m ∧ m.messageType = MessageType.kKeepAlive.code := by
    intro offset hend hlo hhi
    obtain ⟨j, m, hj, htype, rfl⟩ := (keepAliveEnd_iff hbodiless).mp hend
    obtain rfl : j = k := by omega
    exact ⟨by omega, m, hj, htype⟩
  rw [ReceiveThread.receive]
  split
  · rename_i hcomplete
    rw [hlength, sizeofMessageHeader] at hcomplete
    have hk : k < messages.length := by
      have htotal := length_streamOf hbodiless
      omega
    obtain ⟨m, hm⟩ : ∃ m, messages[k]? = some m := ⟨messages[k], List.getElem?_eq_getElem hk⟩
    have hheader : MessageHeader.ofBytes (received ++ s.unread.take count) = m.header := by
      rw [hfilled, hcomplete, sliceAt_streamOf hbodiless hm, m.ofBytes_header]
    have hnext : 12 ∣ s.taken + count := ⟨k + 1, by omega⟩
    simp only [ReceiveThread.acceptHeader, hheader, m.isKeepAlive_header]
    by_cases htype : m.messageType = MessageType.kKeepAlive.code
    · rw [if_pos htype]
      refine ⟨⟨hunread, hroom, hnext, h.headers, ?_, fun _ => ?_, by rintro ⟨⟩⟩,
        fun _ _ _ _ => rfl⟩
      · exact ⟨s.timeoutsAt, [], (List.append_nil _).symm, by norm_num,
          fun _ hmem => absurd hmem List.not_mem_nil⟩
      · show (0 : ℤ) < 5
        norm_num
    · rw [if_neg htype]
      have hnone : ∀ offset, KeepAliveEnd messages offset → s.taken < offset →
          ¬ offset ≤ s.taken + count := by
        intro offset hend hlo hhi
        obtain ⟨-, m', hm', htype'⟩ := hends offset hend hlo hhi
        obtain rfl : m = m' := Option.some.inj (hm.symm.trans hm')
        exact htype htype'
      refine ⟨⟨hunread, hroom, hnext, h.headers, ⟨earlier, quiet, htimeouts, hcount, ?_⟩,
        fun _ => h.positive hopen, by rintro ⟨⟩⟩,
        fun offset hend hlo hhi => absurd hhi (hnone offset hend hlo)⟩
      intro start hstart offset hend
      rcases hquiet start hstart offset hend with hbefore | hafter
      · exact .inl hbefore
      · exact .inr (not_le.mp (hnone offset hend hafter))
  · rename_i hpartial
    rw [hlength, sizeofMessageHeader] at hpartial
    have hnone : ∀ offset, KeepAliveEnd messages offset → s.taken < offset →
        ¬ offset ≤ s.taken + count :=
      fun offset hend hlo hhi => hpartial (hends offset hend hlo hhi).1
    refine ⟨⟨hunread, hroom, ⟨k, ?_, ?_, ?_⟩, h.headers,
      ⟨earlier, quiet, htimeouts, hcount, ?_⟩, fun _ => h.positive hopen, by rintro ⟨⟩⟩,
      fun offset hend hlo hhi => absurd hhi (hnone offset hend hlo)⟩
    · rw [hlength]
      show s.taken + count = _
      omega
    · rw [hlength]
      exact hfilled
    · omega
    · intro start hstart offset hend
      rcases hquiet start hstart offset hend with hbefore | hafter
      · exact .inl hbefore
      · exact .inr (not_le.mp (hnone offset hend hafter))

/-- One step of the thread, on messages without bodies. -/
theorem Aligned.step (h : Aligned messages s) (hbodiless : ∀ m ∈ messages, m.payload = [])
    {input : ReceiveInput} (hstep : receiveStep s input = some t) :
    Aligned messages t ∧ ∀ offset, KeepAliveEnd messages offset → s.taken < offset →
      offset ≤ t.taken → t.keepAliveBudget = 5 := by
  obtain ⟨hmove, hopen⟩ := receiveStep_move hstep
  -- only a read takes bytes
  have hstill (hnext : Aligned messages t) (htaken : t.taken = s.taken) : Aligned messages t ∧
      ∀ offset, KeepAliveEnd messages offset → s.taken < offset →
        offset ≤ t.taken → t.keepAliveBudget = 5 :=
    ⟨hnext, fun offset _ hlo hhi => absurd (htaken ▸ hhi) (not_le.mpr hlo)⟩
  have hat : ∀ point, s.point = point → AlignedAt (streamOf messages) s.taken point :=
    fun point hpoint => hpoint ▸ h.aligned
  cases hmove with
  | stop => exact hstill ⟨h.1, h.2, h.3, h.4, h.5, h.6, h.7⟩ rfl
  | finish reason hreason => exact hstill (h.finish hreason) rfl
  | enterSelect hpoint => exact hstill (h.moveTo hopen (hat .loopCheck hpoint) (by rintro ⟨⟩)) rfl
  | retrySelect hpoint => exact hstill (h.moveTo hopen (hat .select hpoint) (by rintro ⟨⟩)) rfl
  | timedOut hpoint =>
      refine hstill (h.timedOut hpoint) ?_
      rw [ReceiveThread.timedOut]
      split <;> rfl
  | startHeader hpoint => exact hstill (h.startHeader hpoint) rfl
  | enterRecv received hpoint =>
      exact hstill (h.moveTo hopen (hat (.receiveCheck received) hpoint) (by rintro ⟨⟩)) rfl
  | retryRecv received hpoint =>
      exact hstill (h.moveTo hopen (hat (.recv received) hpoint) (by rintro ⟨⟩)) rfl
  | receive received count hpoint hfits hthere =>
      obtain ⟨hnext, hends⟩ := h.receive hbodiless hpoint hfits hthere
      refine ⟨hnext, fun offset hend hlo hhi => hends offset hend hlo (hhi.trans_eq ?_)⟩
      rw [ReceiveThread.receive]
      split <;> rfl

end

theorem staysInStep_of_bodiless {messages : List WireMessage}
    (hbodiless : ∀ m ∈ messages, m.payload = []) : StaysInStep messages := by
  intro inputs s hrun
  have haligned : Aligned messages s :=
    runSteps_invariant receiveStep (fun s input t h hstep => (h.step hbodiless hstep).1)
      (Aligned.start messages) hrun
  exact ⟨haligned.inStep hbodiless,
    fun input t offset hstep => (haligned.step hbodiless hstep).2 offset⟩

/-! ### A message with a body -/

/-- A round of the loop in which `recv` returns a whole header. -/
def readHeaderInputs : List ReceiveInput := [.proceed, .readable, .proceed, .recvBytes 12]

/-- After `n` headers that were read behind each other. -/
structure HeadersRead (stream : Bytes) (n : ℕ) (s : ReceiveThread) : Prop where
  point_eq : s.point = .loopCheck
  running_eq : s.running = true
  taken_eq : s.taken = 12 * n
  unread_eq : s.unread = stream.drop (12 * n)

theorem HeadersRead.readHeader {stream : Bytes} {n : ℕ} {s : ReceiveThread}
    (h : HeadersRead stream n s) (hroom : 12 * (n + 1) ≤ stream.length) :
    ∃ t, runSteps receiveStep s readHeaderInputs = some t ∧ HeadersRead stream (n + 1) t := by
  obtain ⟨unread, running, budget, point, taken, headerStarts, timeoutsAt⟩ := s
  obtain ⟨rfl, rfl, rfl, rfl⟩ := h
  have hlength : (stream.drop (12 * n)).length = stream.length - 12 * n := List.length_drop
  have hthere : 12 ≤ (stream.drop (12 * n)).length := by omega
  have hfilled : ([] ++ (stream.drop (12 * n)).take 12).length = sizeofMessageHeader := by
    rw [List.nil_append, List.length_take, Nat.min_eq_left hthere, sizeofMessageHeader]
  -- the state in which `recv` is called
  let reading : ReceiveThread :=
    { unread := stream.drop (12 * n)
      keepAliveBudget := budget
      point := .recv []
      taken := 12 * n
      headerStarts := headerStarts ++ [12 * n]
      timeoutsAt := timeoutsAt }
  have hstep : receiveStep reading (.recvBytes 12) = some (reading.receive [] 12) :=
    if_pos ⟨by norm_num, le_rfl, hthere⟩
  refine ⟨reading.receive [] 12, ?_, ?_⟩
  · show runSteps receiveStep reading [.recvBytes 12] = _
    rw [runSteps, hstep]
    rfl
  · rw [ReceiveThread.receive, if_pos hfilled]
    refine ⟨rfl, rfl, ?_, ?_⟩
    · show 12 * n + 12 = 12 * (n + 1)
      omega
    · show (stream.drop (12 * n)).drop 12 = stream.drop (12 * (n + 1))
      rw [List.drop_drop]
      rfl

theorem exists_headersRead {stream : Bytes} (n : ℕ) (hroom : 12 * n ≤ stream.length) :
    ∃ inputs s, runReceiveLoop stream inputs = some s ∧ HeadersRead stream n s := by
  induction n with
  | zero => exact ⟨[], _, rfl, rfl, rfl, rfl, rfl⟩
  | succ n ih =>
      obtain ⟨inputs, s, hrun, hread⟩ := ih (by omega)
      obtain ⟨t, hnext, hread⟩ := hread.readHeader hroom
      refine ⟨inputs ++ readHeaderInputs, t, ?_, hread⟩
      rw [runReceiveLoop] at hrun ⊢
      rw [runSteps_append, hrun]
      exact hnext

/-- Behind the header of the first message with a body no message begins. -/
theorem not_isBoundary {before after : List WireMessage} {m : WireMessage}
    (hbefore : ∀ m' ∈ before, m'.payload = []) (hpayload : m.payload ≠ []) :
    ¬ IsBoundary (before ++ m :: after) (12 * (before.length + 1)) := by
  rintro ⟨first, rest, hsplit, hoffset⟩
  have hpos : 0 < m.payload.length := List.length_pos_iff.mpr hpayload
  have hfirst : first <+: before ++ m :: after := ⟨rest, hsplit.symm⟩
  rcases Nat.lt_or_ge before.length first.length with hlong | hshort
  · -- the body of `m` lies before the boundary
    have hwith : before ++ [m] <+: before ++ m :: after := ⟨after, by simp⟩
    obtain ⟨more, rfl⟩ := List.prefix_of_prefix_length_le hwith hfirst
      (by rw [List.length_append, List.length_singleton]; omega)
    rw [streamOf, List.flatMap_append, List.flatMap_append, List.length_append,
      List.length_append, ← streamOf, length_streamOf hbefore, List.flatMap_singleton,
      m.length_toBytes, sizeofMessageHeader] at hoffset
    omega
  · obtain ⟨more, rfl⟩ := List.prefix_of_prefix_length_le hfirst (List.prefix_append _ _) hshort
    rw [length_streamOf fun m' hm' => hbefore m' (List.mem_append_left more hm')] at hoffset
    rw [List.length_append] at hoffset
    omega

theorem not_staysInStep {before after : List WireMessage} {m : WireMessage}
    (hbefore : ∀ m' ∈ before, m'.payload = []) (hpayload : m.payload ≠ []) :
    ¬ StaysInStep (before ++ m :: after) := by
  intro h
  have hroom : 12 * (before.length + 1) ≤ (streamOf (before ++ m :: after)).length := by
    rw [streamOf, List.flatMap_append, List.length_append, ← streamOf, length_streamOf hbefore,
      List.flatMap_cons, List.length_append, m.length_toBytes, sizeofMessageHeader]
    omega
  obtain ⟨inputs, s, hrun, hread⟩ := exists_headersRead _ hroom
  have hnext : runReceiveLoop (streamOf (before ++ m :: after)) (inputs ++ [.proceed, .readable]) =
      some { s with point := .receiveCheck [], headerStarts := s.headerStarts ++ [s.taken] } := by
    rw [runReceiveLoop] at hrun ⊢
    rw [runSteps_append, hrun]
    simp only [Option.bind, runSteps, receiveStep, hread.point_eq, hread.running_eq, if_true]
  have hstart := (h _ _ hnext).1.headers s.taken (List.mem_append_right _ List.mem_cons_self)
  rw [hread.taken_eq] at hstart
  exact not_isBoundary hbefore hpayload hstart

theorem exists_first_body {messages : List WireMessage} (h : ∃ m ∈ messages, m.payload ≠ []) :
    ∃ before m after, messages = before ++ m :: after ∧ (∀ m' ∈ before, m'.payload = []) ∧
      m.payload ≠ [] := by
  induction messages with
  | nil =>
      obtain ⟨m, hm, -⟩ := h
      exact absurd hm List.not_mem_nil
  | cons m messages ih =>
      by_cases hm : m.payload = []
      · have hlater : ∃ m ∈ messages, m.payload ≠ [] := by
          obtain ⟨m', hmem, hm'⟩ := h
          rcases List.mem_cons.mp hmem with rfl | hmem
          · exact absurd hm hm'
          · exact ⟨m', hmem, hm'⟩
        obtain ⟨before, m', after, rfl, hbefore, hm'⟩ := ih hlater
        exact ⟨m :: before, m', after, rfl, List.forall_mem_cons.mpr ⟨hm, hbefore⟩, hm'⟩
      · exact ⟨[], m, messages, rfl, fun _ hmem => absurd hmem List.not_mem_nil, hm⟩

/-- The server stays in step with the client exactly where no message has a body. -/
theorem staysInStep_iff (messages : List WireMessage) :
    StaysInStep messages ↔ ∀ m ∈ messages, m.payload = [] := by
  refine ⟨fun h => ?_, staysInStep_of_bodiless⟩
  by_contra hbody
  push Not at hbody
  obtain ⟨before, m, after, rfl, hbefore, hm⟩ := exists_first_body hbody
  exact not_staysInStep hbefore hm h

/-- A keepalive message of which the header is followed by one byte. -/
def keepAliveWithBody : WireMessage where
  messageType := 0
  subType := 0
  payload := [0]
  messageType_lt := by norm_num
  subType_lt := by norm_num
  length_payload_lt := by norm_num

theorem not_staysInStep_keepAliveWithBody : ¬ StaysInStep [keepAliveWithBody] :=
  @not_staysInStep [] [] keepAliveWithBody (fun _ h => absurd h List.not_mem_nil)
    (List.cons_ne_nil 0 [])

end AvProject.Tcp
