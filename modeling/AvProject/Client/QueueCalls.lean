import AvProject.Client.BoundedQueue
import AvProject.Lib.DropOldest
import AvProject.Lib.Run

/-!
A `BoundedQueue` that any number of threads use. A call is one step, since it holds the mutex
from its first access to its last, and the calls of all threads stand in the order in which
they got the mutex. What each call returned is recorded.
-/

namespace AvProject.Client

open AvProject.Lib

inductive QueueCall (α : Type*)
  | pushOrDropOldest (value : α)
  | tryPop
  | waitPop
  /-- `TryPop` or `WaitPop` with a null pointer: it returns false and never takes the mutex. -/
  | popIntoNull
  | close

/-- A call that has returned; a pop that returned false has no value. -/
inductive QueueEvent (α : Type*)
  | pushed (value : α) (result : Bool)
  | tryPopped (value : Option α)
  | waitPopped (value : Option α)
  | nullPopped
  | closed
  deriving DecidableEq, Repr

structure QueueSession (α : Type*) where
  queue : BoundedQueue α
  events : List (QueueEvent α) := []

namespace QueueSession

variable {α : Type*}

def start (capacity : ℕ) : QueueSession α where
  queue := BoundedQueue.new capacity

def record (s : QueueSession α) (queue : BoundedQueue α) (event : QueueEvent α) :
    QueueSession α where
  queue := queue
  events := s.events ++ [event]

/-- What `TryPop` does, and `WaitPop` once it no longer waits. -/
def pop (s : QueueSession α) (event : Option α → QueueEvent α) : QueueSession α :=
  match s.queue.tryPop with
  | none => s.record s.queue (event none)
  | some (value, queue) => s.record queue (event (some value))

/-- One call; `none` where it would wait. -/
def call (s : QueueSession α) : QueueCall α → Option (QueueSession α)
  | .pushOrDropOldest value =>
      match s.queue.pushOrDropOldest value with
      | none => some (s.record s.queue (.pushed value false))
      | some queue => some (s.record queue (.pushed value true))
  | .tryPop => some (s.pop .tryPopped)
  | .waitPop => if s.queue.ready then some (s.pop .waitPopped) else none
  | .popIntoNull => some (s.record s.queue .nullPopped)
  | .close => some (s.record s.queue.close .closed)

end QueueSession

/-! ### What has happened -/

namespace QueueEvent

variable {α : Type*}

def accepted? : QueueEvent α → Option α
  | .pushed value true => some value
  | _ => none

def popped? : QueueEvent α → Option α
  | .tryPopped value => value
  | .waitPopped value => value
  | _ => none

end QueueEvent

variable {α : Type*}

/-- The pushes that returned true. -/
def acceptedPushes (events : List (QueueEvent α)) : List α := events.filterMap (·.accepted?)

/-- The values that pops have returned. -/
def poppedValues (events : List (QueueEvent α)) : List α := events.filterMap (·.popped?)

theorem filterMap_append_one {β γ : Type*} (f : β → Option γ) (l : List β) (x : β) :
    (l ++ [x]).filterMap f = l.filterMap f ++ (f x).toList := by
  rw [List.filterMap_append, List.filterMap_cons, List.filterMap_nil]
  cases f x <;> rfl

/-! ### Steps -/

namespace QueueSession

variable {s t : QueueSession α} {queueCall : QueueCall α} {waiting : List α}

def accepted (s : QueueSession α) : List α := acceptedPushes s.events

def popped (s : QueueSession α) : List α := poppedValues s.events

theorem record_accepted (s : QueueSession α) (queue : BoundedQueue α) (event : QueueEvent α) :
    (s.record queue event).accepted = s.accepted ++ event.accepted?.toList :=
  filterMap_append_one _ s.events event

theorem record_popped (s : QueueSession α) (queue : BoundedQueue α) (event : QueueEvent α) :
    (s.record queue event).popped = s.popped ++ event.popped?.toList :=
  filterMap_append_one _ s.events event

/-- How a call moves values. -/
inductive Moved (s t : QueueSession α) : Prop
  | pushed (value : α) (hopen : s.queue.closed = false)
      (hqueue : t.queue.queue = BoundedQueue.pushed s.queue.capacity s.queue.queue value)
      (haccepted : t.accepted = s.accepted ++ [value]) (hpopped : t.popped = s.popped)
  | popped (value : α) (hqueue : s.queue.queue = value :: t.queue.queue)
      (haccepted : t.accepted = s.accepted) (hpopped : t.popped = s.popped ++ [value])
  | kept (hqueue : t.queue.queue = s.queue.queue) (haccepted : t.accepted = s.accepted)
      (hpopped : t.popped = s.popped)

structure CallEffect (s t : QueueSession α) : Prop where
  capacity_eq : t.queue.capacity = s.queue.capacity
  stays_closed : s.queue.closed = true → t.queue.closed = true
  moved : Moved s t

/-- An event that tells of no value. -/
theorem record_moved {queue : BoundedQueue α} {event : QueueEvent α}
    (hqueue : queue.queue = s.queue.queue) (haccepted : event.accepted? = none)
    (hpopped : event.popped? = none) : Moved s (s.record queue event) := by
  apply Moved.kept hqueue
  · rw [record_accepted, haccepted, Option.toList_none, List.append_nil]
  · rw [record_popped, hpopped, Option.toList_none, List.append_nil]

theorem pop_effect {event : Option α → QueueEvent α}
    (haccepted : ∀ result, (event result).accepted? = none)
    (hpopped : ∀ result, (event result).popped? = result) : CallEffect s (s.pop event) := by
  rw [pop]
  split
  · exact ⟨rfl, id, record_moved rfl (haccepted none) (hpopped none)⟩
  · rename_i value queue hpop
    obtain ⟨hqueue, hclosed, hcapacity⟩ := BoundedQueue.tryPop_eq_some hpop
    refine ⟨hcapacity, hclosed.trans, .popped value hqueue ?_ ?_⟩
    · rw [record_accepted, haccepted, Option.toList_none, List.append_nil]
    · rw [record_popped, hpopped, Option.toList_some]

theorem call_effect (h : s.call queueCall = some t) : CallEffect s t := by
  cases queueCall with
  | pushOrDropOldest value =>
      rw [call] at h
      split at h
      · cases h
        exact ⟨rfl, id, record_moved rfl rfl rfl⟩
      · rename_i queue hpush
        cases h
        obtain ⟨hopen, -, hcapacity, hqueue⟩ := BoundedQueue.pushOrDropOldest_eq_some hpush
        refine ⟨hcapacity, fun hclosed => ?_, .pushed value hopen hqueue ?_ ?_⟩
        · rw [hopen] at hclosed
          cases hclosed
        · exact record_accepted s queue _
        · exact (record_popped s queue _).trans (List.append_nil _)
  | tryPop =>
      cases h
      exact pop_effect (fun _ => rfl) (fun _ => rfl)
  | waitPop =>
      rw [call] at h
      split at h
      · cases h
        exact pop_effect (fun _ => rfl) (fun _ => rfl)
      · cases h
  | popIntoNull =>
      cases h
      exact ⟨rfl, id, record_moved rfl rfl rfl⟩
  | close =>
      cases h
      exact ⟨rfl, fun _ => rfl, record_moved rfl rfl rfl⟩

/-! ### Runs -/

theorem start_keepsLatest (capacity : ℕ) :
    KeepsLatest (start capacity : QueueSession α).queue.capacity
      (start capacity : QueueSession α).accepted (start capacity : QueueSession α).popped
      (start capacity : QueueSession α).queue.queue :=
  KeepsLatest.nil _

theorem call_keepsLatest (hcall : s.call queueCall = some t)
    (h : KeepsLatest s.queue.capacity s.accepted s.popped s.queue.queue) :
    KeepsLatest t.queue.capacity t.accepted t.popped t.queue.queue := by
  obtain ⟨hcapacity, -, hmoved⟩ := call_effect hcall
  rw [hcapacity]
  cases hmoved with
  | pushed value _ hqueue haccepted hpopped =>
      rw [haccepted, hpopped, hqueue, BoundedQueue.pushed]
      split
      · rename_i hfull
        -- the oldest value makes room
        exact h.pushOut s.queue.capacity_pos (le_antisymm s.queue.length_le hfull) value
      · rename_i hroom
        exact h.push (not_le.mp hroom) value
  | popped value hqueue haccepted hpopped =>
      rw [hqueue] at h
      rw [haccepted, hpopped]
      exact h.take
  | kept hqueue haccepted hpopped =>
      rw [haccepted, hpopped, hqueue]
      exact h

/-- At every moment of every run nothing is missing but what newer values pushed out. -/
theorem run_keepsLatest (capacity : ℕ) {calls : List (QueueCall α)}
    (hrun : runSteps call (start capacity) calls = some s) :
    KeepsLatest (max 1 capacity) s.accepted s.popped s.queue.queue := by
  have h := @runSteps_invariant _ _ call
    (fun s => s.queue.capacity = max 1 capacity ∧
      KeepsLatest s.queue.capacity s.accepted s.popped s.queue.queue)
    (fun s queueCall t hinv hcall =>
      ⟨(call_effect hcall).capacity_eq.trans hinv.1, call_keepsLatest hcall hinv.2⟩)
    _ _ _ ⟨rfl, start_keepsLatest capacity⟩ hrun
  rw [← h.1]
  exact h.2

/-- A call on a closed queue. -/
theorem call_of_closed (hcall : s.call queueCall = some t) (hclosed : s.queue.closed = true) :
    t.queue.closed = true ∧ t.accepted = s.accepted ∧
      t.popped ++ t.queue.queue = s.popped ++ s.queue.queue := by
  obtain ⟨-, hstays, hmoved⟩ := call_effect hcall
  refine ⟨hstays hclosed, ?_⟩
  cases hmoved with
  | pushed value hopen =>
      rw [hopen] at hclosed
      cases hclosed
  | popped value hqueue haccepted hpopped =>
      rw [hpopped, hqueue, List.append_assoc]
      exact ⟨haccepted, rfl⟩
  | kept hqueue haccepted hpopped =>
      rw [hqueue, hpopped]
      exact ⟨haccepted, rfl⟩

/-- After `Close` nothing comes in and nothing is lost. -/
theorem run_of_closed {calls : List (QueueCall α)} (hclosed : s.queue.closed = true)
    (hrun : runSteps call s calls = some t) :
    t.accepted = s.accepted ∧ t.popped ++ t.queue.queue = s.popped ++ s.queue.queue := by
  have h := @runSteps_invariant _ _ call
    (fun t => t.queue.closed = true ∧ t.accepted = s.accepted ∧
      t.popped ++ t.queue.queue = s.popped ++ s.queue.queue)
    (fun t queueCall u hinv hcall => by
      obtain ⟨hclosed', haccepted, hvalues⟩ := call_of_closed hcall hinv.1
      exact ⟨hclosed', haccepted.trans hinv.2.1, hvalues.trans hinv.2.2⟩)
    _ _ _ ⟨hclosed, rfl, rfl⟩ hrun
  exact h.2

/-- A pop, blocking or not, while something waits. -/
theorem call_of_waiting {value : α} (hqueue : s.queue.queue = value :: waiting)
    (hpop : queueCall = .tryPop ∨ queueCall = .waitPop) :
    ∃ t, s.call queueCall = some t ∧ t.queue.queue = waiting ∧
      t.popped = s.popped ++ [value] := by
  have htryPop : ∃ queue, s.queue.tryPop = some (value, queue) ∧ queue.queue = waiting := by
    cases hresult : s.queue.tryPop with
    | none =>
        rw [BoundedQueue.tryPop_eq_none.mp hresult] at hqueue
        cases hqueue
    | some result =>
        have hfront := (BoundedQueue.tryPop_eq_some hresult).1
        rw [hqueue, List.cons.injEq] at hfront
        exact ⟨result.2, by rw [hfront.1], hfront.2.symm⟩
  obtain ⟨queue, htryPop, hrest⟩ := htryPop
  rcases hpop with rfl | rfl
  · refine ⟨s.record queue (.tryPopped (some value)), ?_, hrest, record_popped s queue _⟩
    rw [call, pop, htryPop]
  · have hready : s.queue.ready = true := by
      rw [BoundedQueue.ready, hqueue, List.isEmpty_cons, Bool.not_false, Bool.or_true]
    refine ⟨s.record queue (.waitPopped (some value)), ?_, hrest, record_popped s queue _⟩
    rw [call, if_pos hready, pop, htryPop]

/-- As many pops as there are values return them all. -/
theorem run_pops (hqueue : s.queue.queue = waiting)
    (hpop : queueCall = .tryPop ∨ queueCall = .waitPop) :
    ∃ t, runSteps call s (List.replicate waiting.length queueCall) = some t ∧
      t.popped = s.popped ++ waiting := by
  induction waiting generalizing s with
  | nil => exact ⟨s, rfl, (List.append_nil _).symm⟩
  | cons value waiting ih =>
      obtain ⟨next, hcall, hnext, hpopped⟩ := call_of_waiting hqueue hpop
      obtain ⟨t, hrun, hall⟩ := ih hnext
      refine ⟨t, (runSteps_cons_eq_some call).mpr ⟨next, hcall, hrun⟩, ?_⟩
      rw [hall, hpopped, List.append_assoc]
      rfl

/-- `WaitPop` returns without a value only where the queue is closed and empty. -/
theorem waitPop_false (hcall : s.call .waitPop = some t)
    (hfalse : t.events = s.events ++ [.waitPopped none]) :
    s.queue.closed = true ∧ s.queue.queue = [] := by
  rw [call] at hcall
  split at hcall
  · rename_i hready
    cases hcall
    rw [pop] at hfalse
    split at hfalse
    · rename_i hempty
      -- no value made it ready, so the queue is closed
      have hqueue := BoundedQueue.tryPop_eq_none.mp hempty
      rw [BoundedQueue.ready, hqueue, List.isEmpty_nil, Bool.not_true, Bool.or_false] at hready
      exact ⟨hready, hqueue⟩
    · have hevent := List.append_cancel_left hfalse
      cases hevent
  · cases hcall

/-- Whatever calls the threads make, the queue is a FIFO that is never too long and drops only
its oldest values, and `Close` keeps new values out and loses none. -/
theorem boundedQueue_refines (capacity : ℕ) (calls : List (QueueCall α))
    (hrun : runSteps call (start capacity) calls = some s) :
    s.queue.size ≤ max 1 capacity ∧
      (s.popped ++ s.queue.queue).Sublist s.accepted ∧
      s.accepted.drop (s.accepted.length - max 1 capacity) <:+ s.popped ++ s.queue.queue ∧
      (∀ earlier value later, s.accepted = earlier ++ value :: later →
        value ∉ s.popped ++ s.queue.queue → max 1 capacity ≤ later.length) ∧
      (∀ rest t, runSteps call s (.close :: rest) = some t →
        t.accepted = s.accepted ∧
          t.popped ++ t.queue.queue = s.popped ++ s.queue.queue ∧
          ∀ pop, pop = .tryPop ∨ pop = .waitPop →
            ∃ u, runSteps call t (List.replicate t.queue.size pop) = some u ∧
              u.popped = s.popped ++ s.queue.queue) ∧
      ∀ t, s.call .waitPop = some t → t.events = s.events ++ [.waitPopped none] →
        s.queue.closed = true ∧ s.queue.queue = [] := by
  have hkeeps := run_keepsLatest capacity hrun
  refine ⟨hkeeps.bounded, hkeeps.sublist, hkeeps.latest,
    fun earlier value later hsplit hlost => hkeeps.le_length_of_lost hsplit hlost, ?_,
    fun t => waitPop_false⟩
  intro rest t hrest
  obtain ⟨closed, hclose, hrest⟩ := (runSteps_cons_eq_some call).mp hrest
  obtain rfl := Option.some.inj hclose
  obtain ⟨haccepted, hvalues⟩ := run_of_closed rfl hrest
  -- the call of `Close` moves no value itself
  have hclosedAccepted : (s.record s.queue.close .closed).accepted = s.accepted :=
    (record_accepted s _ _).trans (List.append_nil _)
  have hclosedPopped : (s.record s.queue.close .closed).popped = s.popped :=
    (record_popped s _ _).trans (List.append_nil _)
  have hall : t.popped ++ t.queue.queue = s.popped ++ s.queue.queue := by
    rw [hvalues, hclosedPopped]
    rfl
  refine ⟨haccepted.trans hclosedAccepted, hall, fun pop hpop => ?_⟩
  obtain ⟨u, hpops, hpopped⟩ := run_pops rfl hpop
  exact ⟨u, hpops, hpopped.trans hall⟩

/-- A queue for one value, and a consumer that comes late. -/
def lateConsumer : List (QueueCall ℕ) :=
  [.pushOrDropOldest 1, .pushOrDropOldest 2, .close, .pushOrDropOldest 3, .waitPop, .waitPop]

theorem lateConsumer_refines :
    ∃ s : QueueSession ℕ, runSteps call (start 0) lateConsumer = some s ∧
      s.events = [.pushed 1 true, .pushed 2 true, .closed, .pushed 3 false,
        .waitPopped (some 2), .waitPopped none] ∧
      (s.popped ++ s.queue.queue).Sublist s.accepted :=
  ⟨_, rfl, rfl, (boundedQueue_refines 0 lateConsumer rfl).2.1⟩

end QueueSession

end AvProject.Client
