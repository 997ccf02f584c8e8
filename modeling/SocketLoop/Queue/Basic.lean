/-! A queue that hands entries straight to blocked consumers. Each operation is one step under the
lock of the queue. A consumer that blocks holds a ticket; a released ticket keeps what it was handed
until its consumer returns with it. -/
namespace SocketLoop

/-- One act of putting an object into a queue. The number tells it from every other act, also from
those that queue the same object again. -/
structure Entry (α : Type) where
  number : Nat
  object : α
deriving DecidableEq

structure Queue (α : Type) where
  /-- Entries that nobody took yet, head first. -/
  pending : List (Entry α) := []
  /-- Tickets of blocked consumers, the longest blocked first. -/
  waiting : List Nat := []
  /-- Tickets whose consumers may return, and with what. -/
  released : List (Nat × Option (Entry α)) := []
  entered : Nat := 0
  issued : Nat := 0

inductive Waited (α : Type) where
  | took (entry : Entry α)
  | blocked (ticket : Nat)

namespace Queue

variable {α : Type}

/-- Hands a new entry to the consumer blocked longest, or places it among the pending ones. -/
def offer (queue : Queue α) (object : α)
    (place : Entry α → List (Entry α) → List (Entry α)) : Queue α :=
  let entry : Entry α := ⟨queue.entered, object⟩
  match queue.waiting with
  | ticket :: rest =>
    { queue with
      waiting := rest
      released := queue.released ++ [(ticket, some entry)]
      entered := queue.entered + 1 }
  | [] => { queue with pending := place entry queue.pending, entered := queue.entered + 1 }

/-- Adds an object behind everything pending. -/
def enqueue (queue : Queue α) (object : α) : Queue α :=
  queue.offer object fun entry pending => pending ++ [entry]

/-- Adds an object in front of everything pending. -/
def enqueueUrgent (queue : Queue α) (object : α) : Queue α :=
  queue.offer object fun entry pending => entry :: pending

/-- Takes the head without blocking. -/
def dequeue (queue : Queue α) : Option (Entry α) × Queue α :=
  match queue.pending with
  | [] => (none, queue)
  | entry :: rest => (some entry, { queue with pending := rest })

def wait (queue : Queue α) : Waited α × Queue α :=
  match queue.pending with
  | entry :: rest => (.took entry, { queue with pending := rest })
  | [] =>
    (.blocked queue.issued,
      { queue with waiting := queue.waiting ++ [queue.issued], issued := queue.issued + 1 })

/-- What the consumer of a ticket may return with; none while it stays blocked. -/
def handed? (queue : Queue α) (ticket : Nat) : Option (Option (Entry α)) :=
  queue.released.lookup ticket

def collect (queue : Queue α) (ticket : Nat) : Queue α :=
  { queue with released := queue.released.filter fun row => row.1 != ticket }

/-- The time of a consumer is up: it returns with what it was handed, else it withdraws. -/
def expire (queue : Queue α) (ticket : Nat) : Option (Entry α) × Queue α :=
  match queue.handed? ticket with
  | some entry => (entry, queue.collect ticket)
  | none => (none, { queue with waiting := queue.waiting.filter fun other => other != ticket })

def clear (queue : Queue α) : List (Entry α) × Queue α :=
  (queue.pending, { queue with pending := [] })

/-- Takes out the front-most entry of an object. -/
def remove [DecidableEq α] (queue : Queue α) (object : α) : Option (Entry α) × Queue α :=
  (queue.pending.find? fun entry => entry.object = object,
    { queue with pending := queue.pending.eraseP fun entry => entry.object = object })

/-- Releases every blocked consumer with nothing. -/
def wakeAll (queue : Queue α) : Queue α :=
  { queue with
    waiting := []
    released := queue.released ++ queue.waiting.map fun ticket => (ticket, none) }

def hasIdle (queue : Queue α) : Bool := !queue.waiting.isEmpty

def text (queue : Queue α) : String :=
  "NotificationQueue \x7b pending: " ++ toString queue.pending.length ++ ", waiters: " ++
    toString queue.waiting.length ++ " \x7d"

inductive Step (α : Type) where
  | enqueue (object : α)
  | enqueueUrgent (object : α)
  | dequeue
  /-- A dispatch takes the head for its callback. -/
  | deliver
  | wait
  | collect (ticket : Nat)
  | expire (ticket : Nat)
  | remove (object : α)
  | clear
  | wakeAll

inductive Outcome (α : Type) where
  | entered (number : Nat)
  | dequeued (entry : Option (Entry α))
  | delivered (entry : Option (Entry α))
  | waited (how : Waited α)
  | returned (ticket : Nat) (entry : Option (Entry α))
  /-- The ticket is unknown or its consumer stays blocked. -/
  | unchanged
  | removed (entry : Option (Entry α))
  | cleared (entries : List (Entry α))
  | woken (tickets : List Nat)

def step [DecidableEq α] (queue : Queue α) : Step α → Outcome α × Queue α
  | .enqueue object => (.entered queue.entered, queue.enqueue object)
  | .enqueueUrgent object => (.entered queue.entered, queue.enqueueUrgent object)
  | .dequeue => (.dequeued queue.dequeue.1, queue.dequeue.2)
  | .deliver => (.delivered queue.dequeue.1, queue.dequeue.2)
  | .wait => (.waited queue.wait.1, queue.wait.2)
  | .collect ticket =>
    match queue.handed? ticket with
    | some entry => (.returned ticket entry, queue.collect ticket)
    | none => (.unchanged, queue)
  | .expire ticket =>
    if (queue.handed? ticket).isSome || queue.waiting.contains ticket then
      (.returned ticket (queue.expire ticket).1, (queue.expire ticket).2)
    else (.unchanged, queue)
  | .remove object => (.removed (queue.remove object).1, (queue.remove object).2)
  | .clear => (.cleared queue.clear.1, queue.clear.2)
  | .wakeAll => (.woken queue.waiting, queue.wakeAll)

def steps [DecidableEq α] (queue : Queue α) : List (Step α) → List (Outcome α) × Queue α
  | [] => ([], queue)
  | first :: rest =>
    let (outcome, after) := queue.step first
    let (outcomes, last) := after.steps rest
    (outcome :: outcomes, last)

end Queue

end SocketLoop
