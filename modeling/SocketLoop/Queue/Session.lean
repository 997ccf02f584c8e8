import SocketLoop.Kind
import SocketLoop.Queue.Dispatch

/-! Scripted sessions on a queue: named shared objects, consumers that block, and callbacks that act
on the queue while it is dispatched. -/
namespace SocketLoop.Queue.Session

inductive Content where
  | number (value : Int)
  | kind (kind : Kind)
deriving DecidableEq, Inhabited

/-- A shared object. Two objects are the same only if their serial numbers agree. -/
structure Shared where
  serial : Nat
  name : Option String
  content : Content
deriving DecidableEq, Inhabited

inductive Action where
  | enqueue (item : String)
  | urgent (item : String)
  | enqueueValue (content : Content)
  | urgentValue (content : Content)
  | clear
  | wakeAll
  | dequeue
  | remove (item : String)
  | removeTwin (content : Content)
  | waitNow
  | wait (consumer : String) (millis : Option Nat)
  | expire
  /-- Dispatches; each named item has actions for its next delivery. -/
  | dispatch (react : List (String × List Action))

mutual

inductive Reply where
  | nothing
  | item (object : Option Shared)
  | flag (value : Bool)
  | delivered (deliveries : List Delivery)

/-- One call of a callback: the object it got, and what its own steps answered. -/
inductive Delivery where
  | mk (got : Shared) (did : List Answer)

/-- The answer of one step: its reply, the consumers that returned because of it, and the state of
the queue after it. -/
inductive Answer where
  | mk (reply : Reply) (woken : List (String × Option Shared)) (pending waiters : Nat)

end

instance : Inhabited Reply := ⟨.nothing⟩

instance : Inhabited Action := ⟨.clear⟩

structure Consumer where
  ticket : Nat
  name : String
  millis : Option Nat

structure Memory where
  items : List Shared
  nextSerial : Nat
  consumers : List Consumer := []
  reactions : List (String × List Action) := []
  /-- The deliveries of the dispatch in progress, newest first. -/
  deliveries : List Delivery := []

abbrev State := Site Shared Memory

/-- The item of a name; an unknown name stands for an object of its own. -/
def State.item (state : State) (name : String) : Shared :=
  (state.outside.items.find? fun item => item.name == some name).getD
    ⟨state.outside.nextSerial, some name, .number 0⟩

def State.fresh (state : State) (content : Content) : Shared × State :=
  (⟨state.outside.nextSerial, none, content⟩,
    { state with outside := { state.outside with nextSerial := state.outside.nextSerial + 1 } })

def State.step (state : State) (step : Step Shared) : Outcome Shared × State :=
  let (outcome, queue) := state.queue.step step
  (outcome, { state with queue })

/-- Inserts a consumer into a list that is sorted by name, behind its equals. -/
def insertByName (row : String × Option Shared) :
    List (String × Option Shared) → List (String × Option Shared)
  | [] => [row]
  | other :: rest =>
    if row.1 < other.1 then row :: other :: rest else other :: insertByName row rest

def State.settle (state : State) : List (String × Option Shared) × State :=
  state.outside.consumers.foldl (fun (woken, state) consumer =>
    match state.step (.collect consumer.ticket) with
    | (.returned _ entry, after) =>
      (insertByName (consumer.name, entry.map Entry.object) woken,
        { after with outside := { after.outside with
            consumers := after.outside.consumers.filter (·.ticket != consumer.ticket) } })
    | _ => (woken, state)) ([], state)

def State.expire (state : State) (due : List Consumer) :
    List (String × Option Shared) × State :=
  due.foldl (fun (woken, state) consumer =>
    match state.step (.expire consumer.ticket) with
    | (.returned _ entry, after) =>
      (insertByName (consumer.name, entry.map Entry.object) woken,
        { after with outside := { after.outside with
            consumers := after.outside.consumers.filter (·.ticket != consumer.ticket) } })
    | (_, after) => (woken, after)) ([], state)

def State.arm (state : State) (react : List (String × List Action)) : State :=
  let kept := state.outside.reactions.filter fun row => !(react.any fun new => new.1 == row.1)
  { state with outside := { state.outside with reactions := kept ++ react } }

def State.react (state : State) (object : Shared) : List Action × State :=
  match object.name with
  | none => ([], state)
  | some name =>
    ((state.outside.reactions.lookup name).getD [],
      { state with outside := { state.outside with
          reactions := state.outside.reactions.filter fun row => row.1 != name } })

/-- Carries out an action; a dispatch is passed on to the given function. -/
def State.act (dispatch : List (String × List Action) → State → List Delivery × State)
    (state : State) (action : Action) : Reply × List (String × Option Shared) × State :=
  let quiet (result : Outcome Shared × State) := (Reply.nothing, [], result.2)
  match action with
  | .enqueue item => quiet (state.step (.enqueue (state.item item)))
  | .urgent item => quiet (state.step (.enqueueUrgent (state.item item)))
  | .enqueueValue content =>
    let (object, state) := state.fresh content
    quiet (state.step (.enqueue object))
  | .urgentValue content =>
    let (object, state) := state.fresh content
    quiet (state.step (.enqueueUrgent object))
  | .clear => quiet (state.step .clear)
  | .wakeAll => quiet (state.step .wakeAll)
  | .dequeue =>
    match state.step .dequeue with
    | (.dequeued entry, state) => (.item (entry.map Entry.object), [], state)
    | (_, state) => (.nothing, [], state)
  | .remove item =>
    match state.step (.remove (state.item item)) with
    | (.removed entry, state) => (.flag entry.isSome, [], state)
    | (_, state) => (.flag false, [], state)
  | .removeTwin content =>
    let (object, state) := state.fresh content
    match state.step (.remove object) with
    | (.removed entry, state) => (.flag entry.isSome, [], state)
    | (_, state) => (.flag false, [], state)
  | .waitNow =>
    match state.step .wait with
    | (.waited (.took entry), state) => (.item (some entry.object), [], state)
    | (.waited (.blocked ticket), state) => (.item none, [], (state.step (.expire ticket)).2)
    | (_, state) => (.item none, [], state)
  | .wait name millis =>
    match state.step .wait with
    | (.waited (.took entry), state) => (.nothing, [(name, some entry.object)], state)
    | (.waited (.blocked ticket), state) =>
      (.nothing, [], { state with outside := { state.outside with
        consumers := state.outside.consumers ++ [⟨ticket, name, millis⟩] } })
    | (_, state) => (.nothing, [], state)
  | .expire =>
    let due := state.outside.consumers.filter fun consumer =>
      match consumer.millis with
      | some millis => millis < 1000
      | none => false
    let (woken, state) := state.expire due
    (.nothing, woken, state)
  | .dispatch react =>
    let (deliveries, state) := dispatch react state
    (.delivered deliveries, [], state)

def actAll (act : State → Action → Answer × State) : State → List Action → List Answer × State
  | state, [] => ([], state)
  | state, action :: rest =>
    let (answer, after) := act state action
    let (answers, last) := actAll act after rest
    (answer :: answers, last)

/-- One step of a session, then the return of the consumers it released. The depth bounds how far
dispatches nest, the fuel how many entries each delivers. -/
def perform (fuel : Nat) : Nat → State → Action → Answer × State
  | depth, state, action =>
    let dispatch (react : List (String × List Action)) (state : State) : List Delivery × State :=
      match depth with
      | 0 => ([], state)
      | depth + 1 =>
        let before := state.outside.deliveries
        let start := state.arm react
        let call (entry : Entry Shared) (state : State) : State :=
          let (actions, state) := state.react entry.object
          let (did, state) := actAll (perform fuel depth) state actions
          { state with outside := { state.outside with
              deliveries := .mk entry.object did :: state.outside.deliveries } }
        let last := Queue.dispatch call fuel
          { start with outside := { start.outside with deliveries := [] } }
        (last.outside.deliveries.reverse,
          { last with outside := { last.outside with deliveries := before } })
    let (reply, woken, state) := state.act dispatch action
    let (released, state) := state.settle
    let woken := released.foldl (fun rows row => insertByName row rows) woken
    (.mk reply woken state.queue.pending.length state.queue.waiting.length, state)

mutual

/-- How many steps an action holds, those of its reactions included. -/
def Action.size : Action → Nat
  | .dispatch react => 1 + sizeReactions react
  | _ => 1

def sizeReactions : List (String × List Action) → Nat
  | [] => 0
  | (_, actions) :: rest => sizeActions actions + sizeReactions rest

def sizeActions : List Action → Nat
  | [] => 0
  | action :: rest => action.size + sizeActions rest

end

/-- What a whole session answers: each step, the text of the queue after them, the consumers that a
last waking releases, and the objects left in order. -/
structure Report where
  answers : List Answer
  text : String
  released : List (String × Option Shared)
  left : List Shared

/-- Runs a session. Every step delivers at most one entry more, so the number of steps bounds both
the deliveries and the nesting. -/
def run (items : List (String × Content)) (actions : List Action) : Report :=
  let named := items.zipIdx.map fun ((name, content), serial) => ⟨serial, some name, content⟩
  let start : State := ⟨{}, { items := named, nextSerial := named.length }⟩
  let bound := sizeActions actions + 1
  let (answers, last) := actAll (perform bound bound) start actions
  let (_, woken) := last.step .wakeAll
  let (released, drained) := woken.settle
  ⟨answers, last.queue.text, released, drained.queue.pending.map Entry.object⟩

end SocketLoop.Queue.Session
