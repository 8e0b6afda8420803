import AvProject.Server.TcpClientSession

/-!
`SendMessageParts` with its array of `iovec`s: the segments that are sent are shifted out at
the front, and the one that is sent in part is trimmed in place. What remains to be sent is
always the rest of the message.
-/

namespace AvProject.Server

open AvProject.Lib

/-! ### The array -/

/-- `iovBase` is a position in `segment`. -/
structure Iovec where
  segment : Bytes := []
  iovBase : ℕ := 0
  iovLen : ℕ := 0
  deriving DecidableEq, Repr, Inhabited

def Iovec.bytes (v : Iovec) : Bytes := sliceAt v.segment v.iovBase v.iovLen

/-- `iov_base += sent; iov_len -= sent`. -/
def Iovec.trim (v : Iovec) (sent : ℕ) : Iovec :=
  { v with iovBase := v.iovBase + sent, iovLen := v.iovLen - sent }

structure IovecArray where
  iovecs : List Iovec
  activeCount : ℕ
  deriving DecidableEq, Repr

namespace IovecArray

/-- The segments that are not empty, in order. -/
def collect (segments : List Bytes) : IovecArray :=
  segments.foldl
    (fun a segment =>
      if 0 < segment.length then
        { iovecs := a.iovecs.set a.activeCount { segment := segment, iovLen := segment.length }
          activeCount := a.activeCount + 1 }
      else a)
    { iovecs := List.replicate 3 {}, activeCount := 0 }

def active (a : IovecArray) : List Iovec := a.iovecs.take a.activeCount

/-- What `sendmsg` is offered. -/
def offered (a : IovecArray) : Bytes := (a.active.map Iovec.bytes).flatten

/-- How many segments are covered by what was sent, and what is left of it behind them. -/
def coverLoop (a : IovecArray) : ℕ → ℕ → ℕ → ℕ × ℕ
  | 0, sent, shift => (sent, shift)
  | fuel + 1, sent, shift =>
      if shift < a.activeCount ∧ (a.iovecs[shift]?.getD {}).iovLen ≤ sent then
        coverLoop a fuel (sent - (a.iovecs[shift]?.getD {}).iovLen) (shift + 1)
      else (sent, shift)

/-- `iovecs[index - shift] = iovecs[index]` from `index = shift` on, `count` times. -/
def moveDown (shift count : ℕ) (iovecs : List Iovec) : List Iovec :=
  (List.range' shift count).foldl
    (fun iovecs index => iovecs.set (index - shift) (iovecs[index]?.getD {})) iovecs

def shiftDown (a : IovecArray) (shift : ℕ) : IovecArray :=
  if 0 < shift then
    { iovecs := moveDown shift (a.activeCount - shift) a.iovecs
      activeCount := a.activeCount - shift }
  else a

def trimFirst (a : IovecArray) (sent : ℕ) : IovecArray :=
  if 0 < a.activeCount ∧ 0 < sent then
    { a with iovecs := a.iovecs.modify 0 fun v => v.trim sent }
  else a

/-- The statements behind a `sendmsg` that has taken `count` bytes. -/
def advance (a : IovecArray) (count : ℕ) : IovecArray :=
  let (sent, shift) := a.coverLoop a.activeCount count 0
  (a.shiftDown shift).trimFirst sent

end IovecArray

/-! ### The loop -/

/-- `accepted` is a history variable: the bytes that the socket has taken. -/
structure MessageSending where
  array : IovecArray
  accepted : Bytes := []
  returned : Option Bool := none
  deriving DecidableEq, Repr

/-- `while (active_count > 0 …)`, and the return behind the loop. -/
def MessageSending.checkDone (s : MessageSending) : MessageSending :=
  if s.array.activeCount = 0 then { s with returned := some true } else s

@[simp] theorem MessageSending.checkDone_array (s : MessageSending) :
    s.checkDone.array = s.array := by
  rw [checkDone]
  split <;> rfl

@[simp] theorem MessageSending.checkDone_accepted (s : MessageSending) :
    s.checkDone.accepted = s.accepted := by
  rw [checkDone]
  split <;> rfl

/-- A segment that is left out is empty. -/
def startSending (header metadata payload : Bytes) : MessageSending :=
  MessageSending.checkDone { array := IovecArray.collect [header, metadata, payload] }

/-- A round of the loop; `sendmsg` takes no more than it is offered. -/
def sendMessageStep (s : MessageSending) (outcome : SendOutcome) : Option MessageSending :=
  match s.returned, outcome with
  | some _, _ => none
  | none, .stopped => some { s with returned := some false }
  | none, .failed => some { s with returned := some false }
  | none, .interrupted => some s
  | none, .sent count =>
      if count = 0 then some { s with returned := some false }
      else if s.array.offered.length < count then none
      else
        some (MessageSending.checkDone
          { array := s.array.advance count
            accepted := s.accepted ++ s.array.offered.take count })

/-! ### What is left after a partial send -/

/-- The segments after a partial send, as a list. -/
def advanceIovecs : ℕ → List Iovec → List Iovec
  | _, [] => []
  | sent, v :: rest =>
      if v.iovLen ≤ sent then advanceIovecs (sent - v.iovLen) rest else v.trim sent :: rest

/-- A segment in use: it is not empty, and lies in its memory. -/
structure Iovec.Valid (v : Iovec) : Prop where
  pos : 0 < v.iovLen
  inside : v.iovBase + v.iovLen ≤ v.segment.length

theorem Iovec.length_bytes {v : Iovec} (h : v.Valid) : v.bytes.length = v.iovLen :=
  length_sliceAt h.inside

theorem Iovec.bytes_trim (v : Iovec) (sent : ℕ) : (v.trim sent).bytes = v.bytes.drop sent := by
  show sliceAt v.segment (v.iovBase + sent) (v.iovLen - sent) = _
  rw [Iovec.bytes, sliceAt, sliceAt, List.drop_take, List.drop_drop]

theorem Iovec.Valid.trim {v : Iovec} (h : v.Valid) {sent : ℕ} (hlt : sent < v.iovLen) :
    (v.trim sent).Valid := by
  have hinside := h.inside
  refine ⟨Nat.sub_pos_of_lt hlt, ?_⟩
  show v.iovBase + sent + (v.iovLen - sent) ≤ v.segment.length
  omega

@[simp] theorem Iovec.trim_zero (v : Iovec) : v.trim 0 = v := rfl

theorem map_bytes_advanceIovecs {sent : ℕ} {l : List Iovec} (h : ∀ v ∈ l, v.Valid) :
    (advanceIovecs sent l).map Iovec.bytes = advanceParts sent (l.map Iovec.bytes) := by
  induction l generalizing sent with
  | nil => rfl
  | cons v l ih =>
      obtain ⟨hv, hl⟩ := List.forall_mem_cons.mp h
      rw [advanceIovecs, List.map_cons, advanceParts, Iovec.length_bytes hv]
      split
      · exact ih hl
      · rw [List.map_cons, Iovec.bytes_trim]

theorem advanceIovecs_valid {sent : ℕ} {l : List Iovec} (h : ∀ v ∈ l, v.Valid) :
    ∀ v ∈ advanceIovecs sent l, v.Valid := by
  induction l generalizing sent with
  | nil => exact h
  | cons v l ih =>
      obtain ⟨hv, hl⟩ := List.forall_mem_cons.mp h
      rw [advanceIovecs]
      split
      · exact ih hl
      · rename_i hlt
        exact List.forall_mem_cons.mpr ⟨hv.trim (not_le.mp hlt), hl⟩

namespace IovecArray

/-- After `count` moves the front of the array holds what was `shift` behind it. -/
theorem getElem?_moveDown {shift count : ℕ} {iovecs : List Iovec}
    (h : shift + count ≤ iovecs.length) :
    (moveDown shift count iovecs).length = iovecs.length ∧
      ∀ i, (moveDown shift count iovecs)[i]? =
        if i < count then iovecs[shift + i]? else iovecs[i]? := by
  induction count with
  | zero => exact ⟨rfl, fun i => by simp [moveDown]⟩
  | succ count ih =>
      obtain ⟨hlength, hget⟩ := ih (by omega)
      have hmove : moveDown shift (count + 1) iovecs = (moveDown shift count iovecs).set count
          ((moveDown shift count iovecs)[shift + count]?.getD {}) := by
        rw [moveDown, List.range'_1_concat, List.foldl_append, ← moveDown]
        simp
      have hlt : shift + count < iovecs.length := by omega
      obtain ⟨v, hv⟩ : ∃ v, iovecs[shift + count]? = some v :=
        ⟨_, List.getElem?_eq_getElem hlt⟩
      have hsource : (moveDown shift count iovecs)[shift + count]? = some v := by
        rw [hget, if_neg (by omega), hv]
      refine ⟨by rw [hmove, List.length_set, hlength], fun i => ?_⟩
      rw [hmove, hsource, List.getElem?_set, hget, hlength]
      rcases lt_trichotomy i count with hbelow | rfl | habove
      · rw [if_neg (by omega), if_pos hbelow, if_pos (by omega)]
      · rw [if_pos rfl, if_pos (by omega), if_pos (by omega), hv]
        rfl
      · rw [if_neg (by omega), if_neg (by omega), if_neg (by omega)]

structure Valid (a : IovecArray) : Prop where
  activeCount_le : a.activeCount ≤ a.iovecs.length
  segments : ∀ v ∈ a.active, v.Valid

section

variable {a : IovecArray}

theorem length_active (h : a.activeCount ≤ a.iovecs.length) : a.active.length = a.activeCount := by
  rw [active, List.length_take, Nat.min_eq_left h]

theorem getElem?_active {i : ℕ} (hi : i < a.activeCount) : a.active[i]? = a.iovecs[i]? :=
  List.getElem?_take_of_lt hi

theorem shiftDown_spec (h : a.activeCount ≤ a.iovecs.length) {shift : ℕ}
    (hshift : shift ≤ a.activeCount) :
    (a.shiftDown shift).active = a.active.drop shift ∧
      (a.shiftDown shift).activeCount ≤ (a.shiftDown shift).iovecs.length := by
  rw [shiftDown]
  split
  · have hroom : shift + (a.activeCount - shift) ≤ a.iovecs.length := by omega
    obtain ⟨hlength, hget⟩ := getElem?_moveDown hroom
    refine ⟨List.ext_getElem? fun i => ?_, ?_⟩
    · rw [List.getElem?_drop]
      rcases Nat.lt_or_ge i (a.activeCount - shift) with hin | hout
      · rw [getElem?_active (a := a) (by omega), getElem?_active hin, hget, if_pos hin]
      · rw [List.getElem?_eq_none, List.getElem?_eq_none]
        · rw [length_active h]
          omega
        · rw [active, List.length_take]
          exact (Nat.min_le_left _ _).trans hout
    · show a.activeCount - shift ≤ (moveDown _ _ _).length
      omega
  · rename_i hzero
    obtain rfl : shift = 0 := by omega
    exact ⟨rfl, h⟩

theorem trimFirst_spec (h : a.activeCount ≤ a.iovecs.length) (sent : ℕ) :
    (a.trimFirst sent).active =
        (match a.active with
        | [] => []
        | v :: rest => v.trim sent :: rest) ∧
      (a.trimFirst sent).activeCount ≤ (a.trimFirst sent).iovecs.length := by
  obtain ⟨iovecs, activeCount⟩ := a
  rw [trimFirst]
  cases activeCount with
  | zero => exact ⟨rfl, h⟩
  | succ n =>
      cases iovecs with
      | nil => cases h
      | cons v rest =>
          split
          · exact ⟨rfl, h⟩
          · rename_i hzero
            obtain rfl : sent = 0 := by
              push Not at hzero
              have hle := hzero (Nat.succ_pos n)
              omega
            exact ⟨rfl, h⟩

/-- The loop stops at the first segment that is not covered. -/
theorem coverLoop_spec (h : a.activeCount ≤ a.iovecs.length) {fuel sent shift : ℕ}
    (hfuel : a.activeCount - shift ≤ fuel) (hshift : shift ≤ a.activeCount) :
    (a.coverLoop fuel sent shift).2 ≤ a.activeCount ∧
      advanceIovecs sent (a.active.drop shift) =
        match a.active.drop (a.coverLoop fuel sent shift).2 with
        | [] => []
        | v :: rest => v.trim (a.coverLoop fuel sent shift).1 :: rest := by
  induction fuel generalizing sent shift with
  | zero =>
      obtain rfl : shift = a.activeCount := by omega
      have hnone : a.active.drop a.activeCount = [] :=
        List.drop_eq_nil_of_le (length_active h).le
      refine ⟨le_rfl, ?_⟩
      show _ = match a.active.drop a.activeCount with
        | [] => []
        | v :: rest => v.trim sent :: rest
      rw [hnone]
      rfl
  | succ fuel ih =>
      rw [coverLoop]
      rcases Nat.lt_or_ge shift a.activeCount with hlt | hge
      · have hin : shift < a.active.length := (length_active h).symm ▸ hlt
        have hhead : a.iovecs[shift]?.getD {} = a.active[shift] := by
          rw [← getElem?_active hlt, List.getElem?_eq_getElem hin]
          rfl
        rw [hhead, List.drop_eq_getElem_cons hin, advanceIovecs]
        by_cases hcovered : a.active[shift].iovLen ≤ sent
        · rw [if_pos hcovered, if_pos ⟨hlt, hcovered⟩]
          exact ih (by omega) hlt
        · rw [if_neg hcovered, if_neg (fun hboth => hcovered hboth.2)]
          refine ⟨hshift, ?_⟩
          rw [List.drop_eq_getElem_cons hin]
      · obtain rfl : shift = a.activeCount := by omega
        have hnone : a.active.drop a.activeCount = [] :=
          List.drop_eq_nil_of_le (length_active h).le
        rw [if_neg (fun hboth => absurd hboth.1 (lt_irrefl _)), hnone]
        exact ⟨le_rfl, rfl⟩

/-- The array after a send is the list of what is left. -/
theorem Valid.advance (h : a.Valid) (count : ℕ) :
    (a.advance count).Valid ∧ (a.advance count).active = advanceIovecs count a.active := by
  have hfuel : a.activeCount - 0 ≤ a.activeCount := Nat.sub_le _ _
  obtain ⟨hle, hrest⟩ := @coverLoop_spec _ h.activeCount_le _ count _ hfuel (Nat.zero_le _)
  obtain ⟨hshifted, hcount⟩ := shiftDown_spec h.activeCount_le hle
  obtain ⟨htrimmed, hcount⟩ :=
    trimFirst_spec hcount (a.coverLoop a.activeCount count 0).1
  have hactive : (a.advance count).active = advanceIovecs count a.active := by
    rw [IovecArray.advance]
    show ((a.shiftDown (a.coverLoop a.activeCount count 0).2).trimFirst
      (a.coverLoop a.activeCount count 0).1).active = _
    rw [htrimmed, hshifted, ← hrest, List.drop_zero]
  refine ⟨⟨hcount, ?_⟩, hactive⟩
  rw [hactive]
  exact advanceIovecs_valid h.segments

theorem Valid.offered_advance (h : a.Valid) (count : ℕ) :
    (a.advance count).offered = a.offered.drop count := by
  rw [offered, (h.advance count).2, map_bytes_advanceIovecs h.segments, flatten_advanceParts,
    offered]

/-- As long as a segment is in use there is something to send. -/
theorem Valid.offered_eq_nil_iff (h : a.Valid) : a.offered = [] ↔ a.activeCount = 0 := by
  rw [← length_active h.activeCount_le, offered, List.flatten_eq_nil_iff]
  cases hactive : a.active with
  | nil => simp
  | cons v rest =>
      have hv := h.segments v (hactive ▸ List.mem_cons_self)
      have hne : v.bytes ≠ [] := by
        intro hnil
        have hlength := Iovec.length_bytes hv
        rw [hnil] at hlength
        exact hv.pos.ne hlength
      simp [hne]

end

theorem bytes_segment (byte : UInt8) (rest : Bytes) : Iovec.bytes
    { segment := byte :: rest, iovBase := 0, iovLen := rest.length + 1 } = byte :: rest := by
  show ((byte :: rest).drop 0).take (byte :: rest).length = byte :: rest
  rw [List.drop_zero, List.take_length]

theorem map_bytes_collect (header metadata payload : Bytes) :
    (collect [header, metadata, payload]).active.map Iovec.bytes =
      [header, metadata, payload].filter fun part => part ≠ [] := by
  cases header <;> cases metadata <;> cases payload <;>
    simp [collect, active, bytes_segment]

theorem collect_valid (header metadata payload : Bytes) :
    (collect [header, metadata, payload]).Valid ∧
      (collect [header, metadata, payload]).offered = header ++ metadata ++ payload := by
  have hwhole (byte : UInt8) (rest : Bytes) : Iovec.Valid
      { segment := byte :: rest, iovBase := 0, iovLen := rest.length + 1 } :=
    ⟨Nat.succ_pos _, (Nat.zero_add _).le⟩
  constructor
  · cases header <;> cases metadata <;> cases payload <;>
      exact ⟨by simp [collect], by simp [collect, active, hwhole]⟩
  · rw [offered, map_bytes_collect]
    cases header <;> cases metadata <;> cases payload <;> simp

end IovecArray

/-! ### The whole message -/

/-- What has been taken and what is offered make up the message, and the loop has returned
true exactly where nothing is left. -/
structure Delivers (message : Bytes) (s : MessageSending) : Prop where
  valid : s.array.Valid
  whole : s.accepted ++ s.array.offered = message
  returned_iff : s.returned = some true ↔ s.array.activeCount = 0

section

variable {message : Bytes} {s t : MessageSending}

theorem Delivers.checkDone (hvalid : s.array.Valid)
    (hwhole : s.accepted ++ s.array.offered = message) (hreturned : s.returned = none) :
    Delivers message s.checkDone := by
  rw [MessageSending.checkDone]
  split
  · rename_i hdone
    exact ⟨hvalid, hwhole, ⟨fun _ => hdone, fun _ => rfl⟩⟩
  · rename_i hmore
    refine ⟨hvalid, hwhole, ⟨fun htrue => ?_, fun hdone => absurd hdone hmore⟩⟩
    rw [hreturned] at htrue
    cases htrue

theorem delivers_startSending (header metadata payload : Bytes) :
    Delivers (header ++ metadata ++ payload) (startSending header metadata payload) := by
  obtain ⟨hvalid, hoffered⟩ := IovecArray.collect_valid header metadata payload
  exact Delivers.checkDone hvalid hoffered rfl

theorem Delivers.accepted_iff (h : Delivers message s) :
    s.returned = some true ↔ s.accepted = message := by
  rw [h.returned_iff, ← h.valid.offered_eq_nil_iff, ← h.whole, List.self_eq_append_right]

/-- One round: the rest of the message stays what is offered, a positive result leaves less of
it, and every other one but an interruption ends the loop. -/
theorem Delivers.step (h : Delivers message s) {outcome : SendOutcome}
    (hstep : sendMessageStep s outcome = some t) :
    Delivers message t ∧
      (∀ count, 0 < count → outcome = .sent count →
        t.array.offered.length < s.array.offered.length) ∧
      (t.returned = none → outcome = .interrupted ∨ ∃ count, 0 < count ∧ outcome = .sent count) := by
  cases hreturned : s.returned with
  | some result =>
      simp only [sendMessageStep, hreturned, reduceCtorEq] at hstep
  | none =>
      have hmore : s.array.activeCount ≠ 0 := by
        intro hdone
        rw [h.returned_iff.mpr hdone] at hreturned
        cases hreturned
      have hfalse : Delivers message { s with returned := some false } :=
        ⟨h.valid, h.whole, ⟨by rintro ⟨⟩, fun hdone => absurd hdone hmore⟩⟩
      cases outcome with
      | stopped =>
          simp only [sendMessageStep, hreturned] at hstep
          obtain rfl := Option.some.inj hstep
          exact ⟨hfalse, by rintro count hpos ⟨⟩, by rintro ⟨⟩⟩
      | failed =>
          simp only [sendMessageStep, hreturned] at hstep
          obtain rfl := Option.some.inj hstep
          exact ⟨hfalse, by rintro count hpos ⟨⟩, by rintro ⟨⟩⟩
      | interrupted =>
          simp only [sendMessageStep, hreturned] at hstep
          obtain rfl := Option.some.inj hstep
          exact ⟨h, by rintro count hpos ⟨⟩, fun _ => .inl rfl⟩
      | sent count =>
          simp only [sendMessageStep, hreturned] at hstep
          split at hstep
          · rename_i hzero
            obtain rfl := Option.some.inj hstep
            refine ⟨hfalse, fun count' hpos hsame => ?_, by rintro ⟨⟩⟩
            obtain rfl := SendOutcome.sent.inj hsame
            exact absurd hzero hpos.ne'
          split at hstep
          · cases hstep
          rename_i hpos hfits
          obtain rfl := Option.some.inj hstep
          have hoffered := h.valid.offered_advance count
          have hnext : Delivers message (MessageSending.checkDone
              { array := s.array.advance count
                accepted := s.accepted ++ s.array.offered.take count }) := by
            refine Delivers.checkDone (h.valid.advance count).1 ?_ rfl
            show s.accepted ++ s.array.offered.take count ++ (s.array.advance count).offered = _
            rw [hoffered, List.append_assoc, List.take_append_drop]
            exact h.whole
          refine ⟨hnext, fun _ _ _ => ?_, fun _ => .inr ⟨count, Nat.pos_of_ne_zero hpos, rfl⟩⟩
          rw [MessageSending.checkDone_array, hoffered, List.length_drop]
          omega

end

theorem delivers_run {header metadata payload : Bytes} {outcomes : List SendOutcome}
    {s : MessageSending}
    (hrun : runSteps sendMessageStep (startSending header metadata payload) outcomes = some s) :
    Delivers (header ++ metadata ++ payload) s :=
  runSteps_invariant sendMessageStep (fun _ _ _ h hstep => (h.step hstep).1)
    (delivers_startSending header metadata payload) hrun

/-! ### The loop over lists of segments -/

theorem runSteps_of_returned {s t : MessageSending} {outcomes : List SendOutcome} {result : Bool}
    (hreturned : s.returned = some result)
    (hrun : runSteps sendMessageStep s outcomes = some t) : t = s ∧ outcomes = [] := by
  cases outcomes with
  | nil => exact ⟨(Option.some.inj hrun).symm, rfl⟩
  | cons outcome outcomes =>
      obtain ⟨next, hstep, -⟩ := (runSteps_cons_eq_some _).mp hrun
      simp only [sendMessageStep, hreturned, reduceCtorEq] at hstep

/-- The loop over the array does what `sendPartsLoop` does over the segments in use. -/
theorem Delivers.sendPartsLoop_eq {message : Bytes} {s t : MessageSending}
    {outcomes : List SendOutcome} (h : Delivers message s) (hnot : s.returned ≠ some false)
    (hrun : runSteps sendMessageStep s outcomes = some t) :
    t.accepted = s.accepted ++ (sendPartsLoop outcomes (s.array.active.map Iovec.bytes)).1 ∧
      t.returned = (sendPartsLoop outcomes (s.array.active.map Iovec.bytes)).2 := by
  have hlength := IovecArray.length_active h.valid.activeCount_le
  induction outcomes generalizing s with
  | nil =>
      obtain rfl := Option.some.inj hrun
      cases hactive : s.array.active with
      | nil =>
          rw [hactive] at hlength
          exact ⟨(List.append_nil _).symm, h.returned_iff.mpr hlength.symm⟩
      | cons v rest =>
          have hmore : s.returned ≠ some true := by
            rw [ne_eq, h.returned_iff, ← hlength, hactive]
            exact Nat.succ_ne_zero _
          refine ⟨(List.append_nil _).symm, ?_⟩
          cases hreturned : s.returned with
          | none => rfl
          | some result => cases result <;> contradiction
  | cons outcome outcomes ih =>
      obtain ⟨next, hstep, hrest⟩ := (runSteps_cons_eq_some _).mp hrun
      have hopen : s.returned = none := by
        cases hreturned : s.returned with
        | none => rfl
        | some result => simp only [sendMessageStep, hreturned, reduceCtorEq] at hstep
      obtain ⟨v, rest, hactive⟩ : ∃ v rest, s.array.active = v :: rest := by
        refine List.exists_cons_of_ne_nil fun hnil => ?_
        rw [hnil] at hlength
        have htrue := h.returned_iff.mpr hlength.symm
        rw [hopen] at htrue
        cases htrue
      rw [hactive, List.map_cons]
      cases outcome with
      | stopped =>
          simp only [sendMessageStep, hopen] at hstep
          obtain rfl := Option.some.inj hstep
          obtain ⟨rfl, rfl⟩ := runSteps_of_returned rfl hrest
          exact ⟨(List.append_nil _).symm, rfl⟩
      | failed =>
          simp only [sendMessageStep, hopen] at hstep
          obtain rfl := Option.some.inj hstep
          obtain ⟨rfl, rfl⟩ := runSteps_of_returned rfl hrest
          exact ⟨(List.append_nil _).symm, rfl⟩
      | interrupted =>
          simp only [sendMessageStep, hopen] at hstep
          obtain rfl := Option.some.inj hstep
          have hnext := ih h hnot hrest hlength
          rw [hactive, List.map_cons] at hnext
          exact hnext
      | sent count =>
          have hdelivers := (h.step hstep).1
          simp only [sendMessageStep, hopen] at hstep
          rw [sendPartsLoop]
          split at hstep
          · rename_i hzero
            obtain rfl := Option.some.inj hstep
            obtain ⟨rfl, rfl⟩ := runSteps_of_returned rfl hrest
            rw [if_pos hzero]
            exact ⟨(List.append_nil _).symm, rfl⟩
          split at hstep
          · cases hstep
          rename_i hpos _
          obtain rfl := Option.some.inj hstep
          rw [if_neg hpos]
          have hparts := @map_bytes_advanceIovecs count _ h.valid.segments
          rw [← (h.valid.advance count).2, hactive, List.map_cons] at hparts
          have hnext : (MessageSending.checkDone
              { array := s.array.advance count
                accepted := s.accepted ++ s.array.offered.take count }).returned ≠ some false := by
            rw [MessageSending.checkDone]
            split <;> rintro ⟨⟩
          obtain ⟨haccepted, hresult⟩ := ih hdelivers hnext hrest
            (IovecArray.length_active hdelivers.valid.activeCount_le)
          simp only [MessageSending.checkDone_array, MessageSending.checkDone_accepted, hparts]
            at haccepted hresult
          refine ⟨?_, hresult⟩
          rw [haccepted, IovecArray.offered, hactive, List.map_cons, List.append_assoc]

/-- `sendMessageParts` is the loop over the array. -/
theorem sendMessageParts_eq {header metadata payload : Bytes} {outcomes : List SendOutcome}
    {t : MessageSending}
    (hrun : runSteps sendMessageStep (startSending header metadata payload) outcomes = some t) :
    sendMessageParts outcomes header metadata payload = (t.accepted, t.returned) := by
  have hstart : (startSending header metadata payload).returned ≠ some false := by
    rw [startSending, MessageSending.checkDone]
    split <;> rintro ⟨⟩
  obtain ⟨haccepted, hreturned⟩ :=
    (delivers_startSending header metadata payload).sendPartsLoop_eq hstart hrun
  rw [startSending, MessageSending.checkDone_array, MessageSending.checkDone_accepted,
    IovecArray.map_bytes_collect, List.nil_append] at haccepted
  rw [startSending, MessageSending.checkDone_array, IovecArray.map_bytes_collect] at hreturned
  rw [haccepted, hreturned]
  rfl

/-- The socket has taken a first part of the message, all of it exactly where the function has
returned true, and a positive result leaves less to send. -/
structure SendsExactly (message : Bytes) (s : MessageSending) : Prop where
  accepted_prefix : s.accepted <+: message
  returned_iff : s.returned = some true ↔ s.accepted = message
  decreases : ∀ count t, 0 < count → sendMessageStep s (.sent count) = some t →
    t.array.offered.length < s.array.offered.length

theorem Delivers.sendsExactly {message : Bytes} {s : MessageSending} (h : Delivers message s) :
    SendsExactly message s where
  accepted_prefix := ⟨s.array.offered, h.whole⟩
  returned_iff := h.accepted_iff
  decreases count _ hpos hstep := (h.step hstep).2.1 count hpos rfl

/-- The state after the first `n` results. -/
def sendingAfter (header metadata payload : Bytes) (results : ℕ → SendOutcome) (n : ℕ) :
    Option MessageSending :=
  runSteps sendMessageStep (startSending header metadata payload) ((List.range n).map results)

theorem sendingAfter_succ (header metadata payload : Bytes) (results : ℕ → SendOutcome) (n : ℕ) :
    sendingAfter header metadata payload results (n + 1) =
      (sendingAfter header metadata payload results n).bind fun s =>
        sendMessageStep s (results n) := by
  rw [sendingAfter, List.range_succ, List.map_append, runSteps_append, sendingAfter]
  congr 1
  funext s
  show (sendMessageStep s (results n)).bind _ = _
  exact Option.bind_fun_some _

/-- Without an interruption the loop makes progress until it ends. -/
theorem not_sending_forever {header metadata payload : Bytes} {results : ℕ → SendOutcome}
    {n : ℕ} (hn : ∀ m, n ≤ m → results m ≠ .interrupted) :
    ∃ m, ∀ s, sendingAfter header metadata payload results m = some s → s.returned ≠ none := by
  by_contra hforever
  push Not at hforever
  have hprogress (k : ℕ) : ∃ s, sendingAfter header metadata payload results (n + k) = some s ∧
      s.array.offered.length + k ≤ (header ++ metadata ++ payload).length := by
    induction k with
    | zero =>
        obtain ⟨s, hs, -⟩ := hforever n
        refine ⟨s, hs, ?_⟩
        rw [← (delivers_run hs).whole, List.length_append]
        omega
    | succ k ih =>
        obtain ⟨s, hs, hle⟩ := ih
        obtain ⟨t, ht, hreturned⟩ := hforever (n + (k + 1))
        refine ⟨t, ht, ?_⟩
        rw [← Nat.add_assoc, sendingAfter_succ, hs] at ht
        obtain ⟨-, hless, hresult⟩ := (delivers_run hs).step ht
        rcases hresult hreturned with hinterrupted | ⟨count, hpos, hsent⟩
        · exact absurd hinterrupted (hn _ (Nat.le_add_right n k))
        · have hlt := hless count hpos hsent
          omega
  obtain ⟨s, -, hle⟩ := hprogress ((header ++ metadata ++ payload).length + 1)
  omega

/-- Only what the socket cannot have taken is refused. -/
theorem sendMessageStep_isSome {s : MessageSending} (hreturned : s.returned = none)
    {outcome : SendOutcome}
    (hfits : ∀ count, outcome = .sent count → count ≤ s.array.offered.length) :
    ∃ t, sendMessageStep s outcome = some t := by
  cases outcome with
  | sent count =>
      simp only [sendMessageStep, hreturned]
      split
      · exact ⟨_, rfl⟩
      · rw [if_neg (not_lt.mpr (hfits count rfl))]
        exact ⟨_, rfl⟩
  | interrupted => exact ⟨_, by simp only [sendMessageStep, hreturned]; rfl⟩
  | failed => exact ⟨_, by simp only [sendMessageStep, hreturned]; rfl⟩
  | stopped => exact ⟨_, by simp only [sendMessageStep, hreturned]; rfl⟩

theorem exists_returned {header metadata payload : Bytes} {results : ℕ → SendOutcome} {n : ℕ}
    (hn : ∀ m, n ≤ m → results m ≠ .interrupted)
    (hfits : ∀ m s count, sendingAfter header metadata payload results m = some s →
      results m = .sent count → count ≤ s.array.offered.length) :
    ∃ m s result, sendingAfter header metadata payload results m = some s ∧
      s.returned = some result := by
  by_contra hnever
  push Not at hnever
  have hopen : ∀ m s, sendingAfter header metadata payload results m = some s →
      s.returned = none :=
    fun m s hs => Option.eq_none_iff_forall_ne_some.mpr fun result => hnever m s result hs
  have hgoes (m : ℕ) : ∃ s, sendingAfter header metadata payload results m = some s := by
    induction m with
    | zero => exact ⟨_, rfl⟩
    | succ m ih =>
        obtain ⟨s, hs⟩ := ih
        obtain ⟨t, ht⟩ := sendMessageStep_isSome (hopen m s hs) (hfits m s · hs)
        exact ⟨t, by rw [sendingAfter_succ, hs]; exact ht⟩
  obtain ⟨m, hm⟩ := not_sending_forever hn
  obtain ⟨s, hs⟩ := hgoes m
  exact hm s hs (hopen m s hs)

/-- Whatever the results are, exactly the message is sent; the function returns on every
sequence of results with finitely many interruptions. -/
theorem sendMessageParts_exact (header metadata payload : Bytes) :
    (∀ outcomes s,
      runSteps sendMessageStep (startSending header metadata payload) outcomes = some s →
        SendsExactly (header ++ metadata ++ payload) s) ∧
      ∀ results : ℕ → SendOutcome, (∃ n, ∀ m, n ≤ m → results m ≠ .interrupted) →
        (∀ m s count, sendingAfter header metadata payload results m = some s →
          results m = .sent count → count ≤ s.array.offered.length) →
        ∃ m s result, sendingAfter header metadata payload results m = some s ∧
          s.returned = some result :=
  ⟨fun _ _ hrun => (delivers_run hrun).sendsExactly,
    fun _ ⟨_, hn⟩ hfits => exists_returned hn hfits⟩

/-- A message of six bytes goes out in two parts. -/
def threeResults : ℕ → SendOutcome
  | 0 => .sent 2
  | 1 => .interrupted
  | 2 => .sent 4
  | _ => .stopped

theorem threeResults_sent :
    (∃ s, runSteps sendMessageStep (startSending [1, 2, 3] [4] [5, 6])
        [.sent 2, .interrupted, .sent 4] = some s ∧ SendsExactly ([1, 2, 3] ++ [4] ++ [5, 6]) s) ∧
      ∃ m s result, sendingAfter [1, 2, 3] [4] [5, 6] threeResults m = some s ∧
        s.returned = some result := by
  obtain ⟨hexact, hreturns⟩ := sendMessageParts_exact [1, 2, 3] [4] [5, 6]
  refine ⟨⟨_, rfl, hexact [.sent 2, .interrupted, .sent 4] _ rfl⟩,
    hreturns threeResults ⟨2, ?_⟩ ?_⟩
  · intro m hm
    match m, hm with
    | 2, _ => nofun
    | m + 3, _ => nofun
  · intro m s count hs hcount
    match m with
    | 0 =>
        obtain rfl := Option.some.inj hs
        obtain rfl := SendOutcome.sent.inj hcount
        decide
    | 1 => cases hcount
    | 2 =>
        obtain rfl := Option.some.inj hs
        obtain rfl := SendOutcome.sent.inj hcount
        decide
    | m + 3 => cases hcount

end AvProject.Server
