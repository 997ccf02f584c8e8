import SocketLoop.Scenario.Connecting

/-! Actions on owners: services are attached, connectors and acceptors are made, asked, given up and
dropped. -/
namespace SocketLoop.Scenario.Stage

def attach (user : UserCode Handler Scene) (stage : Stage) (context : Context)
    (sock : Option String) (plan : ServicePlan Action) : Reply × Stage :=
  stage.withSocket context sock fun socket =>
    (.nothing, World.attach user socket ⟨plan.id, plan.interests, plan.script, 0⟩ stage)

/-- What a connector answers when it is made. Over the internet its state depends on timing. -/
def startedReply (stage : Stage) (index : Nat) : Reply :=
  if stage.scene.family.isInternet then .word "started"
  else
    let attempt := (stage.attempt? index).getD {}
    .attempt attempt.state attempt.errno

def setPlan (stage : Stage) (plan : OwnerPlan) : Stage :=
  stage.onScene fun scene => { scene with plans := plan :: scene.plans }

def setConnector (stage : Stage) (id : String) (index : Nat) : Stage :=
  stage.onScene fun scene => { scene with
    connectors := (id, index) :: scene.connectors.filter fun row => row.1 != id }

/-- Makes a connector. A connect that fails at once is told by its state, not by the answer. -/
def connector (user : UserCode Handler Scene) (stage : Stage) (id name : String)
    (plan : ServicePlan Action) (onFailure : Bool) : Reply × Verdict × Stage :=
  if stage.scene.released then (.word "no reactor", .onward, stage)
  else match stage.connectAddress name with
    | (.error message, stage) => stage.panicking message
    | (.ok address, stage) =>
      let index := stage.outside.owners.length
      let planned := stage.setPlan ⟨index, id, address, [plan]⟩
      match World.start user .connector address onFailure planned with
      | (.refused fault, stage) => (failedWith fault, .onward, stage)
      | (.panicked, stage) => (.nothing, .panicked, stage)
      | (.attempt index, stage) =>
        let stage := Stage.setConnector stage id index
        let stage := match stage.owner? index with
          | some owner => stage.setLabel owner.socket.descriptor id
          | none => stage
        (stage.startedReply index, .onward, stage)

def withConnector (stage : Stage) (id : String) (act : Nat → Reply × Verdict × Stage) :
    Reply × Verdict × Stage :=
  match stage.scene.connectors.lookup id with
  | none => (.word "no connector", .onward, stage)
  | some index => act index

def connectorState (stage : Stage) (id : String) : Reply × Verdict × Stage :=
  stage.withConnector id fun index =>
    let attempt := (stage.attempt? index).getD {}
    (.attempt attempt.state attempt.errno, .onward, stage)

def connectorWait (stage : Stage) (id : String) : Reply × Verdict × Stage :=
  stage.withConnector id fun index =>
    (.word ((stage.attempt? index).getD {}).state.name, .onward, stage)

def connectorText (stage : Stage) (id : String) : Reply × Verdict × Stage :=
  stage.withConnector id fun index =>
    (.word ("SocketConnector \x7b addr: <addr>, state: " ++
      ((stage.attempt? index).getD {}).state.name ++ " \x7d"), .onward, stage)

def abort (user : UserCode Handler Scene) (stage : Stage) (id : String) :
    Reply × Verdict × Stage :=
  stage.withConnector id fun index =>
    match World.abort user index stage with
    | (.panicked, stage) => (.nothing, .panicked, stage)
    | (.returned, stage) => Stage.connectorState stage id

/-- The player drops a connector. Its attempt goes on. -/
def dropConnector (stage : Stage) (id : String) : Reply × Verdict × Stage :=
  stage.withConnector id fun _ =>
    (.nothing, .onward, stage.onScene fun scene => { scene with
      connectors := scene.connectors.filter fun row => row.1 != id })

/-- Puts another file in the place of a connecting socket that is still open. -/
def force (stage : Stage) (id : String) (readiness : Option Readiness) :
    Reply × Verdict × Stage :=
  stage.withConnector id fun index =>
    match if stage.keepsSocket index then stage.owner? index else none with
    | none => (.nothing, .onward, stage)
    | some owner =>
      let put (file : File) : Stage :=
        (stage.system fun kernel => ((), kernel.replace owner.socket.descriptor.toNat file)).2
      match readiness with
      | some readiness => stage.withDescriptor readiness put
      | none => (.nothing, .onward, put .hungUp)

def removeAcceptor (stage : Stage) (id : String) (index : Nat) : Stage :=
  Stage.onScene (World.stopAcceptor index stage) fun scene => { scene with
    acceptors := scene.acceptors.filter fun row => row.1 != id }

def acceptor (stage : Stage) (id name : String) (backlog : Int)
    (services : List (ServicePlan Action)) : Reply × Stage :=
  if stage.scene.released then (.word "no reactor", stage)
  else
    match stage.openListener (some .listener) name backlog with
    | (.error fault, stage) => (failedWith fault, stage)
    | (.ok (descriptor, address), stage) =>
      let (socket, stage) := (stage.setName name address).newHandle descriptor
      let (index, stage) := World.startAcceptor socket (stage.setLabel descriptor id)
      let stage := Stage.setPlan stage ⟨index, id, address, services⟩
      let stage := match stage.scene.acceptors.lookup id with
        | some old => stage.removeAcceptor id old
        | none => stage
      (.ok, stage.onScene fun scene => { scene with
        acceptors := (id, index) :: scene.acceptors })

def withAcceptor (stage : Stage) (id : String) (act : Nat → Reply × Stage) : Reply × Stage :=
  match stage.scene.acceptors.lookup id with
  | none => (.word "no acceptor", stage)
  | some index => act index

def acceptorState (stage : Stage) (id : String) : Reply × Stage :=
  stage.withAcceptor id fun index =>
    let acceptor := (stage.acceptor? index).getD {}
    match stage.plan? index with
    | none => (.nothing, stage)
    | some plan => (.acceptor acceptor.stopped acceptor.accepted plan.address, stage)

def stopAcceptor (stage : Stage) (id : String) : Reply × Stage :=
  stage.withAcceptor id fun index => (.nothing, World.stopAcceptor index stage)

def dropAcceptor (stage : Stage) (id : String) : Reply × Stage :=
  stage.withAcceptor id fun index => (.nothing, stage.removeAcceptor id index)

def acceptorText (stage : Stage) (id : String) : Reply × Stage :=
  stage.withAcceptor id fun index =>
    let acceptor := (stage.acceptor? index).getD {}
    (.word ("SocketAcceptor \x7b listener: <fd>, state: " ++
      (if acceptor.stopped then "Stopped" else "Listening") ++ ", accepted: " ++
      toString acceptor.accepted ++ " \x7d"), stage)

end SocketLoop.Scenario.Stage
