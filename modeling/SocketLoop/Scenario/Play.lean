import SocketLoop.Scenario.Act

/-! Callbacks of a scenario, runs, and whole scenarios. The log of a step or of a record is sorted by
label; entries of one label keep the order in which their callbacks started. -/
namespace SocketLoop.Scenario

def Course.actAll (user : UserCode Handler Scene) (context : Context) :
    List Action → Course → List Reply × Verdict × Course
  | [], course => ([], .onward, course)
  | action :: rest, course =>
    let outcome := course.act user context action
    match outcome.verdict with
    | .onward =>
      let (replies, verdict, course) := Course.actAll user context rest outcome.course
      (outcome.reply :: replies, verdict, course)
    | .failing => ([outcome.reply], .failing, outcome.course)
    | .panicked => ([], .panicked, outcome.course)

namespace Stage

def ownObserver : Nat := 0

def callback (user : UserCode Handler Scene) (stage : Stage) (name : String)
    (notification : Notification) (context : Context) (actions : List Action) :
    Verdict × Requests × Stage :=
  let label := (notification.socket.map stage.labelOf).getD ""
  let told (did : List Reply) : Told :=
    .called name notification.kind notification.code did
  let (position, stage) := (stage.openFor notification.kind).enter label (told [])
  let (did, verdict, course) := Course.actAll user context actions { stage }
  (verdict, course.requests, course.stage.complete position (told did))

def callObserver (user : UserCode Handler Scene) (observer : Nat) (notification : Notification)
    (stage : Stage) : Ending × Stage :=
  if observer = ownObserver then (.returned, stage.watchIdle)
  else match stage.scene.watchers.find? fun watcher => watcher.observer == observer with
    | none => (.returned, stage)
    | some watcher =>
      let stage := stage.onScene fun scene => { scene with
        watchers := scene.watchers.map fun other =>
          if other.observer == observer then { other with calls := other.calls + 1 } else other }
      let context : Context :=
        { socket := notification.socket, kind := some notification.kind, self := some observer }
      match stage.callback user watcher.name notification context
          (watcher.script.ofCall watcher.calls) with
      | (.panicked, _, stage) => (.panicked, stage)
      | (_, _, stage) => (.returned, stage)

def callHandler (user : UserCode Handler Scene) (handler : Handler) (notification : Notification)
    (stage : Stage) : Handled × Handler × Stage :=
  let context : Context :=
    { socket := notification.socket, kind := some notification.kind, inService := true }
  let (verdict, requests, stage) := stage.callback user handler.name notification context
    (handler.script.ofCall handler.calls)
  let handler := { handler with calls := handler.calls + 1 }
  match verdict with
  | .onward => (.returned requests false, handler, stage)
  | .failing => (.returned requests true, handler, stage)
  | .panicked => (.panicked, handler, stage)

def callFactory (user : UserCode Handler Scene) (index : Nat) (socket : Handle) (stage : Stage) :
    Built Handler × Stage :=
  match stage.plan? index with
  | none => (.failed (.plain .other "scripted"), stage)
  | some owner =>
    let number := (stage.acceptor? index).map fun acceptor => acceptor.accepted - 1
    let plan := (owner.services[number.getD 0]? <|> owner.services.getLast?).getD {}
    let suffix (mark : String) : String := match number with
      | some number => mark ++ toString number
      | none => ""
    let label := owner.label ++ suffix "."
    let (position, stage) := (stage.setLabel socket.descriptor label).enter label (.built [])
    let pins := stage.scene.pins
    let stage := stage.onScene fun scene => { scene with pins := socket :: pins }
    let (did, verdict, course) :=
      Course.actAll user { socket := some socket } plan.build { stage }
    let stage := (course.stage.complete position (.built did)).onScene fun scene =>
      { scene with pins }
    match verdict, plan.failure with
    | .panicked, _ => (.panicked, stage)
    | _, some (some errno) => (.failed (.system errno), stage)
    | _, some none => (.failed (.plain .other "scripted"), stage)
    | _, none => (.built ⟨plan.id ++ suffix "#", plan.interests, plan.script, 0⟩, stage)

def callOnFailure (index : Nat) (failure : Failure) (stage : Stage) : Ending × Stage :=
  let label := ((stage.plan? index).map OwnerPlan.label).getD ""
  (.returned, (stage.enter label (.failed failure)).2)

def tellDropped (handler : Handler) (socket : Handle) (stage : Stage) : Stage :=
  (stage.enter (stage.labelOf socket) (.dropped handler.name)).2

def takeError (socket : Handle) (stage : Stage) : Except Failure (Option Failure) × Stage :=
  stage.system fun kernel => (Kernel.transport socket.descriptor.toNat).takeError kernel

def acceptFor (listener : Handle) (stage : Stage) : Accepted × Stage :=
  match stage.request fun kernel => kernel.accept listener.descriptor.toNat with
  | (.ok (some descriptor), stage) =>
    let (socket, stage) := stage.newHandle descriptor
    (.connection socket, stage)
  | (_, stage) => (.nothing, stage)

def setUp (family : Family) (plan : OptionPlan) (stage : Stage) :
    Except Fault SocketOptions × Stage :=
  stage.system fun kernel => (kernel.setUp family plan, kernel)

def connectTo (options : SocketOptions) (address : Address) (stage : Stage) :
    Except Fault Handle × Stage :=
  match stage.request fun kernel => kernel.connect options address with
  | (.error fault, stage) => (.error fault.hideAddress, stage)
  | (.ok descriptor, stage) =>
    let (socket, stage) := stage.newHandle descriptor
    (.ok socket, stage)

def idleCode : UserCode Handler Scene where
  observer _ _ stage := (.returned, stage)
  handler _ handler _ stage := (.returned {} false, handler, stage)
  interests := Handler.interests
  dropped := tellDropped
  factory _ _ stage := (.failed (.plain .other "scripted"), stage)
  onFailure := callOnFailure
  takeError := takeError
  accept _ := acceptFor
  setUp := setUp
  connect := connectTo
  poll := poll
  rest := rest

/-- The callbacks of a scenario, which may make other callbacks run as deep as is told. -/
def userCode : Nat → UserCode Handler Scene
  | 0 => idleCode
  | depth + 1 =>
    { idleCode with
      observer := fun observer notification stage =>
        callObserver (userCode depth) observer notification stage
      handler := fun _ handler notification stage =>
        callHandler (userCode depth) handler notification stage
      factory := fun index socket stage => callFactory (userCode depth) index socket stage }

def clearLog (stage : Stage) : Stage :=
  stage.onScene fun scene => { scene with entries := [], entered := 0, headings := [], opened := 0 }

def setLimit (stage : Stage) (limit : Option Nat) : Stage :=
  stage.onScene fun scene => { scene with kernel := { scene.kernel with limit } }

def sorted (entries : List LogEntry) : List LogEntry :=
  entries.mergeSort fun left right => left.label ≤ right.label

/-- The log of a step: the entries made before any record was opened. -/
def log (stage : Stage) : List LogEntry :=
  sorted (stage.scene.entries.reverse.filter fun entry => entry.slot == 0)

/-- Records with their logs. The slots of the entries do not decrease, so the entries of the first
record stand in front. -/
def withLogs : List Heading → Nat → List LogEntry → List (Heading × List LogEntry)
  | [], _, _ => []
  | heading :: rest, slot, entries =>
    let (own, later) := entries.span fun entry => entry.slot ≤ slot
    (heading, sorted own) :: withLogs rest (slot + 1) later

def records (stage : Stage) : List (Heading × List LogEntry) :=
  withLogs stage.scene.headings.reverse 1
    (stage.scene.entries.reverse.dropWhile fun entry => entry.slot == 0)

def step (user : UserCode Handler Scene) (stage : Stage) (limit : Option Nat)
    (action : Action) : Answer × Stage :=
  let outcome := Course.act user {} { stage := stage.clearLog.setLimit limit } action
  let stage := outcome.course.stage.setLimit none
  match outcome.verdict with
  | .panicked => (.plain (.panicked stage.scene.panic) stage.log, stage)
  | _ => (.plain outcome.reply stage.log, stage)

/-- Starts the loop as planned. A thread that cannot carry its name panics before the loop begins. -/
def startLoop (user : UserCode Handler Scene) (stage : Stage) (plan : RunPlan) :
    RunEnd × Stage :=
  match if plan.onThread then stage.reactor.settings.threadPanic? else none with
  | some message =>
    let stage := stage.onScene fun scene => { scene with panic := message }
    (.panicked, if plan.stopLater then stage.onReactor Reactor.stop else stage)
  | none => Stage.runLoop user (if plan.stopFirst then stage.onReactor Reactor.stop else stage)

/-- Runs the loop as planned. A reactor that was dropped meanwhile goes after the answer was
taken. -/
def stepRun (user : UserCode Handler Scene) (stage : Stage) (limit : Option Nat)
    (plan : RunPlan) : Answer × Stage :=
  if stage.scene.released then (.plain (.word "no reactor") [], stage)
  else
    let ready := (stage.clearLog.setLimit limit).onScene fun scene => { scene with
      control := if plan.settle then .settling 0 else .counting plan.passes
      interrupts := plan.interrupts
      stopLater := plan.stopLater }
    let stopped := plan.passes = 0 && !plan.settle
    let ready : Stage := if stopped then ready.onReactor Reactor.stop else ready
    let (result, stage) := ready.startLoop user plan
    let stage := (stage.setLimit none).onScene fun scene => { scene with
      control := .free, interrupts := 0, stopLater := false }
    let reply := stage.runReply result
    let answer := if plan.settle then .settled reply (sorted stage.scene.entries.reverse)
      else .run reply stage.records (plan.interrupts != 0)
    (answer, stage.releaseReactor user)

end Stage

structure Plan where
  family : Family := .unix
  settings : Settings := {}
  sockets : List (String × Readiness) := []
  observers : List (String × Script Action) := []
  steps : List Step := []

def depthLimit : Nat := 1000000

/-- Masks the sockets of a scenario. The first one that no descriptor polls as ends it. -/
def Stage.maskAll : List (String × Readiness) → Stage → Except String Stage
  | [], stage => .ok stage
  | (id, readiness) :: rest, stage =>
    match stage.mask id readiness with
    | (_, .panicked, stage) => .error stage.scene.panic
    | (_, _, stage) => maskAll rest stage

/-- The stage before the first step: the player's own observer waits on a hidden socket, then come
the sockets and the observers of the scenario. -/
def Plan.stage (plan : Plan) : Except String Stage :=
  let empty : Stage :=
    { reactor := { settings := plan.settings }, outside := { beyond := { family := plan.family } } }
  let (hidden, stage) := empty.system fun kernel => kernel.append (.given {})
  let socket : Handle := ⟨hidden, 0⟩
  let stage : Stage := (stage.newObserver none).2
  let stage : Stage :=
    stage.onReactor fun reactor => reactor.addHandler socket .idle Stage.ownObserver
  (stage.maskAll plan.sockets).map fun stage =>
    plan.observers.foldl (fun stage (name, script) => stage.define name script) stage

def playAll (user : UserCode Handler Scene) : List Step → Stage → List Answer
  | [], _ => []
  | step :: rest, stage =>
    let (answer, stage) := match step with
      | .act limit action => stage.step user limit action
      | .run limit plan => stage.stepRun user limit plan
    answer :: playAll user rest stage

/-- Plays a scenario. What goes wrong before its first step is all that is answered. -/
def play (plan : Plan) : Except String (List Answer) :=
  plan.stage.map fun stage => playAll (Stage.userCode depthLimit) plan.steps stage

end SocketLoop.Scenario
