import SocketLoop.Scenario.Scene

/-! Actions on the reactor and on observers. They look for the reactor first, then for the socket,
then for the observer, and answer which one is missing. -/
namespace SocketLoop.Scenario

/-- What an action may leave out: the socket and kind of the notification being handled, and the
observer that handles it. -/
structure Context where
  socket : Option Handle := none
  kind : Option Kind := none
  self : Option Nat := none
  inService : Bool := false

inductive Verdict where
  | onward
  | failing
  | panicked

namespace Stage

def panicking (stage : Stage) (message : String) : Reply × Verdict × Stage :=
  (.nothing, .panicked, stage.onScene fun scene => { scene with panic := message })

def socketOf (stage : Stage) (context : Context) (sock : Option String) : Option Handle :=
  match sock with
  | some id => stage.handle? id
  | none => context.socket

def kindOf (context : Context) (kind : Option Kind) : Kind :=
  kind.getD (context.kind.getD .readable)

def observerOf (stage : Stage) (context : Context) (obs : Option String) : Option Nat :=
  match obs with
  | some name => stage.observer? name
  | none => context.self

def withSocket (stage : Stage) (context : Context) (sock : Option String)
    (act : Handle → Reply × Stage) : Reply × Stage :=
  if stage.scene.released then (.word "no reactor", stage)
  else match stage.socketOf context sock with
    | none => (.word "no socket", stage)
    | some socket => act socket

def withObserver (stage : Stage) (context : Context) (sock : Option String)
    (obs : Option String) (act : Handle → Nat → Reply × Stage) : Reply × Stage :=
  stage.withSocket context sock fun socket =>
    match stage.observerOf context obs with
    | none => (.word "no observer", stage)
    | some observer => act socket observer

def withReactor (stage : Stage) (act : Reply × Stage) : Reply × Stage :=
  if stage.scene.released then (.word "no reactor", stage) else act

def add (stage : Stage) (context : Context) (sock : Option String) (kind : Option Kind)
    (obs : Option String) : Reply × Stage :=
  stage.withObserver context sock obs fun socket observer =>
    (.nothing, stage.onReactor fun reactor =>
      reactor.addHandler socket (kindOf context kind) observer)

def remove (stage : Stage) (context : Context) (sock : Option String) (kind : Option Kind)
    (obs : Option String) : Reply × Stage :=
  stage.withObserver context sock obs fun socket observer =>
    (.nothing, stage.onReactor fun reactor =>
      reactor.removeHandler socket (kindOf context kind) observer)

def removeElsewhere (stage : Stage) (context : Context) (sock : Option String)
    (kind : Option Kind) (obs : Option String) : Reply × Stage :=
  stage.withObserver context sock obs fun socket observer =>
    let kind := kindOf context kind
    let waits := stage.reactor.removalWaits socket kind observer
    (.word (if waits then "blocked" else "done"), stage.onReactor fun reactor =>
      reactor.removeHandler socket kind observer)

def has (stage : Stage) (context : Context) (sock : Option String) (kind : Option Kind)
    (obs : Option String) : Reply × Stage :=
  stage.withObserver context sock obs fun socket observer =>
    (.flag (stage.reactor.registry.contains socket.descriptor (kindOf context kind) observer),
      stage)

def hasAny (stage : Stage) (context : Context) (sock : Option String) : Reply × Stage :=
  stage.withSocket context sock fun socket =>
    (.flag (stage.reactor.registry.hasSocket socket.descriptor), stage)

def query (stage : Stage) : Reply × Stage :=
  stage.withReactor
    (.status (stage.reactor.registry.size - 1) stage.reactor.active, stage)

def stop (stage : Stage) : Reply × Stage :=
  stage.withReactor (.nothing, stage.onReactor Reactor.stop)

def withWatcher (stage : Stage) (context : Context) (obs : Option String)
    (act : Watcher → Reply × Stage) : Reply × Stage :=
  let watcher := match obs with
    | some name => stage.watcher? name
    | none => context.self.bind fun self =>
      stage.scene.watchers.find? fun watcher => watcher.observer == self
  match watcher with
  | none => (.word "no observer", stage)
  | some watcher => act watcher

def forget (stage : Stage) (context : Context) (obs : Option String) : Reply × Stage :=
  stage.withWatcher context obs fun watcher =>
    (.nothing, stage.onScene fun scene => { scene with
      watchers := scene.watchers.map fun other =>
        if other.observer == watcher.observer then { other with held := false } else other })

def alive (stage : Stage) (context : Context) (obs : Option String) : Reply × Stage :=
  stage.withWatcher context obs fun watcher => (.flag (stage.isAlive watcher), stage)

def same (stage : Stage) (left right : String) : Reply × Stage :=
  match stage.observer? left, stage.observer? right with
  | some left, some right => (.flag (left == right), stage)
  | _, _ => (.flag false, stage)

/-- The last reference of the player to the reactor goes. A run keeps the reactor until it ends. -/
def dropReactor (user : UserCode Handler Scene) (stage : Stage) : Reply × Stage :=
  stage.withReactor
    (let stage := stage.onScene fun scene => { scene with released := true }
    if stage.scene.runs = 0 then (.flag false, World.dropReactor user stage)
    else (.flag true, stage))

def runReply (stage : Stage) : RunEnd → Reply
  | .done | .unfinished => .ok
  | .failed errno => .failed (.ofFault (.poll errno))
  | .refused => .failed (.ofFault .alreadyRunning)
  | .panicked => .panicked stage.scene.panic

def passLimit : Nat := 1000000

def runLoop (user : UserCode Handler Scene) (stage : Stage) : RunEnd × Stage :=
  let stage := stage.onScene fun scene => { scene with runs := scene.runs + 1 }
  let (result, stage) := World.run user passLimit stage
  (result, Stage.onScene stage fun scene => { scene with runs := scene.runs - 1 })

def releaseReactor (user : UserCode Handler Scene) (stage : Stage) : Stage :=
  if stage.scene.released && stage.scene.runs = 0 && stage.reactor.alive then
    World.dropReactor user stage
  else stage

end Stage

end SocketLoop.Scenario
