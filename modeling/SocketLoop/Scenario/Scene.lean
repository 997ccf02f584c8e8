import SocketLoop.Kernel.Name
import SocketLoop.Kernel.Stream
import SocketLoop.Owner.Run
import SocketLoop.Scenario.Action

/-! The state of a scenario: what its player holds, what its callbacks are about to do, and the log.
A descriptor stays open as long as somebody holds a handle of it that is no alias. -/
namespace SocketLoop.Scenario

structure Watcher where
  name : String
  observer : Nat
  script : Script Action
  calls : Nat := 0
  held : Bool := true

structure Handler where
  name : String
  interests : KindSet
  script : Script Action
  calls : Nat := 0

inductive Item where
  | handle (handle : Handle)
  | stream (handle : Handle)
  | listener (handle : Handle)

def Item.held : Item → Handle
  | handle held | stream held | listener held => held

structure OwnerPlan where
  index : Nat
  label : String
  address : Address
  services : List (ServicePlan Action)

inductive Control where
  | free
  | counting (left : Nat)
  | settling (quiet : Nat)

structure Scene where
  family : Family := .unix
  kernel : Kernel := {}
  names : List (String × Address) := []
  items : List (String × Item) := []
  labels : List (Int × String) := []
  watchers : List Watcher := []
  connectors : List (String × Nat) := []
  acceptors : List (String × Nat) := []
  plans : List OwnerPlan := []
  pins : List Handle := []
  calling : List Nat := []
  nextShare : Nat := 1
  /-- The shares whose handles do not keep their descriptor open. -/
  aliases : List Nat := []
  /-- The log, newest first. -/
  entries : List LogEntry := []
  entered : Nat := 0
  /-- The records of the run, newest first. -/
  headings : List Heading := []
  opened : Nat := 0
  control : Control := .free
  interrupts : Nat := 0
  stopLater : Bool := false
  runs : Nat := 0
  /-- Whether the player dropped its reference to the reactor. -/
  released : Bool := false
  panic : String := ""

abbrev Stage := World Handler Scene

namespace Stage

def scene (stage : Stage) : Scene := stage.outside.beyond

def onScene (stage : Stage) (change : Scene → Scene) : Stage := stage.onBeyond change

def labelOf (stage : Stage) (socket : Handle) : String :=
  (stage.scene.labels.lookup socket.descriptor).getD ""

def setLabel (stage : Stage) (descriptor : Int) (label : String) : Stage :=
  stage.onScene fun scene => { scene with
    labels := (descriptor, label) :: scene.labels.filter fun row => row.1 != descriptor }

def setItem (stage : Stage) (id : String) (item : Item) : Stage :=
  stage.onScene fun scene => { scene with
    items := (id, item) :: scene.items.filter fun row => row.1 != id }

def newHandle (stage : Stage) (descriptor : Nat) : Handle × Stage :=
  (⟨descriptor, stage.scene.nextShare⟩,
    stage.onScene fun scene => { scene with nextShare := scene.nextShare + 1 })

def hold (stage : Stage) (id : String) (descriptor : Nat) (wrap : Handle → Item) : Stage :=
  let (handle, stage) := stage.newHandle descriptor
  (stage.setLabel descriptor id).setItem id (wrap handle)

def handle? (stage : Stage) (id : String) : Option Handle :=
  match stage.scene.items.lookup id with
  | some (.handle handle) => some handle
  | _ => none

/-- Whether an owner keeps its socket open: an acceptor while the player has it, and every owner
while its observers are registered or being called. -/
def keepsSocket (stage : Stage) (index : Nat) : Bool :=
  stage.isReferenced index || stage.scene.acceptors.any fun row => row.2 == index

def handles (stage : Stage) : List Handle :=
  stage.scene.items.map (fun row => row.2.held) ++ stage.scene.pins ++
    stage.reactor.held ++ stage.reactor.registry.entries.map SocketEntry.socket ++
    stage.outside.owners.zipIdx.filterMap fun (owner, index) =>
      if stage.keepsSocket index then some owner.socket else none

def sweep (stage : Stage) : Stage :=
  let owning := stage.handles.filter fun handle => !stage.scene.aliases.contains handle.share
  let kept := owning.map Handle.descriptor
  stage.onScene fun scene => { scene with kernel := scene.kernel.sweep kept }

def system {α : Type} (stage : Stage) (ask : Kernel → α × Kernel) : α × Stage :=
  let stage := stage.sweep
  let (answer, kernel) := ask stage.scene.kernel
  (answer, stage.onScene fun scene => { scene with kernel })

def request {α : Type} (stage : Stage) (ask : Kernel → Except Fault (α × Kernel)) :
    Except Fault α × Stage :=
  stage.system fun kernel =>
    match ask kernel with
    | .ok (value, kernel) => (.ok value, kernel)
    | .error fault => (.error fault, kernel)

def watcher? (stage : Stage) (name : String) : Option Watcher :=
  stage.scene.watchers.find? fun watcher => watcher.name == name

def isAlive (stage : Stage) (watcher : Watcher) : Bool :=
  let isHere (registration : Registration) : Bool := registration.observer == watcher.observer
  watcher.held || stage.scene.calling.contains watcher.observer ||
    stage.reactor.armed.any isHere ||
    stage.reactor.registry.entries.any fun entry => entry.registrations.any isHere

def observer? (stage : Stage) (name : String) : Option Nat :=
  (stage.watcher? name).bind fun watcher =>
    if stage.isAlive watcher then some watcher.observer else none

def define (stage : Stage) (name : String) (script : Script Action) : Stage :=
  let (observer, stage) := stage.newObserver none
  Stage.onScene stage fun scene => { scene with
    watchers := { name, observer, script } :: scene.watchers.map fun watcher =>
      if watcher.name == name then { watcher with held := false } else watcher }

def plan? (stage : Stage) (index : Nat) : Option OwnerPlan :=
  stage.scene.plans.find? fun plan => plan.index == index

def enter (stage : Stage) (label : String) (told : Told) : Nat × Stage :=
  (stage.scene.entered,
    stage.onScene fun scene => { scene with
      entries := ⟨label, scene.opened, told⟩ :: scene.entries
      entered := scene.entered + 1 })

def complete (stage : Stage) (position : Nat) (told : Told) : Stage :=
  stage.onScene fun scene => { scene with
    entries := scene.entries.modify (scene.entered - 1 - position) fun entry =>
      { entry with told } }

def openRecord (stage : Stage) (heading : Heading) : Stage :=
  stage.onScene fun scene => { scene with
    headings := heading :: scene.headings, opened := scene.opened + 1 }

/-- Opens the record that a kind of notification calls for, unless it is the newest one. -/
def openFor (stage : Stage) (kind : Kind) : Stage :=
  match kind, stage.scene.headings with
  | .idle, .idle _ :: _ => stage
  | .idle, _ => stage.openRecord (.idle 0)
  | .shutdown, .shutdown :: _ => stage
  | .shutdown, _ => stage.openRecord .shutdown
  | _, _ => stage

/-- One more pass is over as far as counting goes; the last one stops the loop. -/
def countPass (stage : Stage) : Stage :=
  match stage.scene.control with
  | .counting left =>
    let stage := stage.onScene fun scene => { scene with control := .counting (left - 1) }
    if left ≤ 1 then stage.onReactor Reactor.stop else stage
  | _ => stage

def watchIdle (stage : Stage) : Stage :=
  let stage := stage.openFor .idle
  let stage := stage.onScene fun scene => { scene with
    headings := match scene.headings with
      | .idle count :: rest => .idle (count + 1) :: rest
      | headings => headings }
  match stage.scene.control with
  | .settling _ => stage.onReactor Reactor.stop
  | _ => stage.countPass

/-- A poll reported so many ready sockets out of so many. Only a planned run keeps a record of
it. -/
def watchPoll (stage : Stage) (asked ready : Nat) : Stage :=
  match stage.scene.control with
  | .free => stage
  | .counting _ => (stage.openRecord (.pass asked ready)).countPass
  | .settling quiet =>
    let quiet := if ready = 0 then quiet + 1 else 0
    let stage := (stage.openRecord (.pass asked ready)).onScene fun scene =>
      { scene with control := .settling quiet }
    if 3 ≤ quiet then stage.onReactor Reactor.stop else stage

def poll (asked : List Interest) (stage : Stage) : Polled × Stage :=
  if stage.scene.interrupts = 0 then
    let (polled, stage) := stage.system fun kernel => (kernel.poll asked, kernel)
    match polled with
    | .ready sockets =>
      let stage := stage.watchPoll asked.length sockets.length
      (polled, if stage.scene.stopLater then stage.onReactor Reactor.stop else stage)
    | _ => (polled, stage)
  else
    let left := stage.scene.interrupts - 1
    let stage := stage.onScene fun scene => { scene with interrupts := left }
    (.interrupted, if left = 0 then stage.onReactor Reactor.stop else stage)

/-- Sleeps for the loop. A loop that reports no idleness could do nothing any more and is
stopped. -/
def rest (stage : Stage) : Stage :=
  if stage.scene.stopLater || !stage.reactor.settings.idle then stage.onReactor Reactor.stop
  else stage

end Stage

end SocketLoop.Scenario
