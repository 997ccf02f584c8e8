import SocketLoop.Queue.Basic

/-! Many producers and consumers on one queue. Every entry reaches one consumer whatever the order of
their steps, so the figures are taken from a run in which each entry is taken as soon as it was
entered. Without consumers every entry stays where it is. -/
namespace SocketLoop.Queue.Load

def entriesOf (per urgentEvery producer : Nat) : List (Nat × Bool) :=
  (List.range per).map fun index =>
    (producer * per + index, urgentEvery != 0 && index % urgentEvery == 0)

/-- Enters a number, and takes the head if somebody takes at all. Gives what was taken before and
now, newest first. -/
def enter (takes : Bool) (taken : List Nat) (queue : Queue Nat) (value : Nat) (urgent : Bool) :
    List Nat × Queue Nat :=
  let queue := if urgent then queue.enqueueUrgent value else queue.enqueue value
  if takes then
    let (head, queue) := queue.dequeue
    ((head.map Entry.object).toList ++ taken, queue)
  else (taken, queue)

def enterAll (producers per urgentEvery : Nat) (takes : Bool) : List Nat × Queue Nat :=
  ((List.range producers).flatMap (entriesOf per urgentEvery)).foldl
    (fun (taken, queue) (value, urgent) => enter takes taken queue value urgent) ([], {})

def increasing : List Nat → Bool
  | first :: second :: rest => decide (first < second) && increasing (second :: rest)
  | _ => true

structure Report where
  seen : Nat
  sum : Nat
  left : Nat
  waiting : Bool
  /-- Whether each producer's numbers arrived in order; told only without urgent entries. -/
  ordered : Option Bool

def run (producers consumers per urgentEvery : Nat) : Report :=
  let (newest, last) := enterAll producers per urgentEvery (consumers != 0)
  let taken := newest.reverse
  let ofProducer (producer : Nat) := taken.filter fun value => value / per == producer
  { seen := taken.length
    sum := taken.foldl (· + ·) 0
    left := last.pending.length
    waiting := last.hasIdle
    ordered := if urgentEvery = 0 then
        some ((List.range producers).all fun producer => increasing (ofProducer producer))
      else none }

end SocketLoop.Queue.Load
