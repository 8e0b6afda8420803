import Mathlib.Data.List.Basic
import Mathlib.Tactic.Common

/-!
`BoundedQueue`, the queue between two threads of the client. Each function is what its
body does under the queue's mutex. A queue never holds more than its capacity: the bound
is a field.
-/

namespace AvProject.Client

structure BoundedQueue (α : Type*) where
  capacity : ℕ
  closed : Bool
  queue : List α
  capacity_pos : 0 < capacity
  length_le : queue.length ≤ capacity

namespace BoundedQueue

variable {α : Type*}

/-- The constructor; a capacity is at least one. -/
def new (capacity : ℕ) : BoundedQueue α where
  capacity := max 1 capacity
  closed := false
  queue := []
  capacity_pos := Nat.lt_of_lt_of_le Nat.one_pos (Nat.le_max_left 1 capacity)
  length_le := Nat.zero_le _

/-- `queue_` after `PushOrDropOldest` on an open queue. -/
def pushed (capacity : ℕ) (queue : List α) (value : α) : List α :=
  (if capacity ≤ queue.length then queue.tail else queue) ++ [value]

theorem length_pushed {capacity : ℕ} {queue : List α} (value : α) (hpos : 0 < capacity)
    (hle : queue.length ≤ capacity) :
    (pushed capacity queue value).length = min capacity (queue.length + 1) := by
  rw [pushed]
  split
  · rw [List.length_append, List.length_tail, List.length_singleton]
    omega
  · rw [List.length_append, List.length_singleton]
    omega

/-- `PushOrDropOldest`; `none` where it returns false and leaves the queue as it is. -/
def pushOrDropOldest (q : BoundedQueue α) (value : α) : Option (BoundedQueue α) :=
  if q.closed then none
  else some { q with
    queue := pushed q.capacity q.queue value
    length_le :=
      (length_pushed value q.capacity_pos q.length_le).symm ▸ Nat.min_le_left _ _ }

/-- `TryPop`; `none` where it returns false and leaves the queue as it is. -/
def tryPop (q : BoundedQueue α) : Option (α × BoundedQueue α) :=
  match q.queue, q.length_le with
  | [], _ => none
  | value :: rest, hle => some (value, { q with
      queue := rest
      length_le := Nat.le_of_succ_le hle })

/-- What `WaitPop` waits for. -/
def ready (q : BoundedQueue α) : Bool := q.closed || !q.queue.isEmpty

def size (q : BoundedQueue α) : ℕ := q.queue.length

def close (q : BoundedQueue α) : BoundedQueue α := { q with closed := true }

@[simp] theorem new_capacity (capacity : ℕ) :
    (new capacity : BoundedQueue α).capacity = max 1 capacity := rfl

@[simp] theorem new_queue (capacity : ℕ) : (new capacity : BoundedQueue α).queue = [] := rfl

@[simp] theorem new_closed (capacity : ℕ) : (new capacity : BoundedQueue α).closed = false := rfl

@[simp] theorem close_closed (q : BoundedQueue α) : q.close.closed = true := rfl

@[simp] theorem close_queue (q : BoundedQueue α) : q.close.queue = q.queue := rfl

@[simp] theorem close_capacity (q : BoundedQueue α) : q.close.capacity = q.capacity := rfl

theorem size_le_capacity (q : BoundedQueue α) : q.size ≤ q.capacity := q.length_le

theorem pushOrDropOldest_eq_some {q q' : BoundedQueue α} {value : α}
    (h : q.pushOrDropOldest value = some q') :
    q.closed = false ∧ q'.closed = false ∧ q'.capacity = q.capacity ∧
      q'.queue = pushed q.capacity q.queue value := by
  rw [pushOrDropOldest] at h
  split at h
  · cases h
  · rename_i hopen
    cases h
    exact ⟨by simpa using hopen, by simpa using hopen, rfl, rfl⟩

theorem tryPop_eq_some {q q' : BoundedQueue α} {value : α} (h : q.tryPop = some (value, q')) :
    q.queue = value :: q'.queue ∧ q'.closed = q.closed ∧ q'.capacity = q.capacity := by
  rw [tryPop] at h
  split at h
  · cases h
  · rename_i heq _
    cases h
    exact ⟨heq, rfl, rfl⟩

theorem tryPop_eq_none {q : BoundedQueue α} : q.tryPop = none ↔ q.queue = [] := by
  rw [tryPop]
  split
  · simp_all
  · simp_all

/-- A push makes the queue one longer, up to the capacity. -/
theorem size_pushOrDropOldest {q q' : BoundedQueue α} {value : α}
    (h : q.pushOrDropOldest value = some q') : q'.size = min q.capacity (q.size + 1) := by
  obtain ⟨-, -, -, hqueue⟩ := pushOrDropOldest_eq_some h
  rw [size, hqueue]
  exact length_pushed value q.capacity_pos q.length_le

theorem size_tryPop {q q' : BoundedQueue α} {value : α} (h : q.tryPop = some (value, q')) :
    q.size = q'.size + 1 := by
  rw [size, size, (tryPop_eq_some h).1, List.length_cons]

end BoundedQueue

end AvProject.Client
