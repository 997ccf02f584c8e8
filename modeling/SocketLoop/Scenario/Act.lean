import SocketLoop.Scenario.Owning

/-! Carrying out actions. The list of a callback ends early when its handler fails or an action
panics; results of later actions are missing then. -/
namespace SocketLoop.Scenario

/-- A stage together with what the running handler has asked for. -/
structure Course where
  stage : Stage
  requests : Requests := {}

structure Outcome where
  reply : Reply
  verdict : Verdict := .onward
  course : Course

namespace Course

def outcome (course : Course) (result : Reply × Stage) : Outcome :=
  { reply := result.1, course := { course with stage := result.2 } }

def outcomeOf (course : Course) (result : Reply × Verdict × Stage) : Outcome :=
  { reply := result.1, verdict := result.2.1, course := { course with stage := result.2.2 } }

def inService (course : Course) (context : Context) (reply : Reply)
    (change : Requests → Requests) : Outcome :=
  if context.inService then
    { reply, course := { course with requests := change course.requests } }
  else { reply := .word "no service", course }

def rerun (user : UserCode Handler Scene) (course : Course) : Outcome :=
  if course.stage.scene.released then { reply := .word "no reactor", course }
  else
    let (result, stage) := course.stage.runLoop user
    { reply := stage.runReply result
      verdict := if result = .panicked then .panicked else .onward
      course := { course with stage := stage.releaseReactor user } }

def notify (user : UserCode Handler Scene) (course : Course) (context : Context)
    (obs : Option String) (kind : Option Kind) (sock : Option String) : Outcome :=
  let stage := course.stage
  match stage.observerOf context obs with
  | none => { reply := .word "no observer", course }
  | some observer =>
    let socket := stage.socketOf context sock
    let notification : Notification := ⟨Stage.kindOf context kind, socket, none⟩
    let pinned := stage.onScene fun scene => { scene with
      pins := socket.toList ++ scene.pins
      calling := observer :: scene.calling }
    let (ending, after) := World.notify user observer notification pinned
    let after := Stage.onScene after fun scene => { scene with
      pins := stage.scene.pins
      calling := stage.scene.calling }
    { reply := .nothing
      verdict := if ending = .panicked then .panicked else .onward
      course := { course with stage := after } }

def act (user : UserCode Handler Scene) (context : Context) (course : Course)
    (action : Action) : Outcome :=
  let stage := course.stage
  match action with
  | .add sock kind obs => course.outcome (stage.add context sock kind obs)
  | .remove sock kind obs => course.outcome (stage.remove context sock kind obs)
  | .has sock kind obs => course.outcome (stage.has context sock kind obs)
  | .hasAny sock => course.outcome (stage.hasAny context sock)
  | .removeElsewhere sock kind obs =>
    course.outcome (stage.removeElsewhere context sock kind obs)
  | .query => course.outcome stage.query
  | .stop => course.outcome stage.stop
  | .rerun => course.rerun user
  | .dropReactor => course.outcome (stage.dropReactor user)
  | .reactorText => course.outcome (stage.withReactor (.word stage.reactor.text, stage))
  | .forget obs => course.outcome (stage.forget context obs)
  | .alive obs => course.outcome (stage.alive context obs)
  | .same left right => course.outcome (stage.same left right)
  | .observerTexts obs =>
    match stage.observerOf context obs with
    | none => course.outcome (.word "no observer", stage)
    | some _ => course.outcome (.both (.flag true) (.flag true), stage)
  | .notify obs kind sock => course.notify user context obs kind sock
  | .observer id script => course.outcome (.nothing, stage.define id script)
  | .panic => course.outcomeOf (stage.panicking "scripted panic")
  | .mask id readiness => course.outcomeOf (stage.mask id readiness)
  | .cond sock readiness => course.outcomeOf (stage.cond context sock readiness)
  | .share sock id separate => course.outcome (stage.share context sock id separate)
  | .close sock => course.outcome (stage.close sock)
  | .equal left right => course.outcome (stage.equal left right)
  | .refs sock => course.outcome (stage.refs context sock)
  | .attach sock plan => course.outcome (stage.attach user context sock plan)
  | .enable kind =>
    course.inService context .nothing (·.enabling (Stage.kindOf context kind))
  | .disable kind =>
    course.inService context .nothing (·.disabling (Stage.kindOf context kind))
  | .finish => course.inService context .nothing Requests.closing
  | .closing => course.inService context (.flag course.requests.close) id
  | .context =>
    let label := (context.socket.map stage.labelOf).getD ""
    course.inService context (.context label stage.reactor.active) id
  | .fail _ =>
    let outcome := course.inService context .nothing id
    { outcome with verdict := if context.inService then .failing else .onward }
  | .handle sock call => course.outcome (stage.handleCall context sock call)
  | .pair left right => course.outcome (stage.pair left right)
  | .listen id name backlog raw => course.outcome (stage.listen id name backlog raw)
  | .accept listener id plain => course.outcome (stage.acceptOn listener id plain)
  | .client id name check => course.outcomeOf (stage.client id name check)
  | .connector id name plan onFailure =>
    course.outcomeOf (stage.connector user id name plan onFailure)
  | .connectorState id => course.outcomeOf (stage.connectorState id)
  | .connectorWait id => course.outcomeOf (stage.connectorWait id)
  | .abort id => course.outcomeOf (stage.abort user id)
  | .dropConnector id => course.outcomeOf (stage.dropConnector id)
  | .connectorText id => course.outcomeOf (stage.connectorText id)
  | .force id readiness => course.outcomeOf (stage.force id readiness)
  | .acceptor id name backlog plans => course.outcome (stage.acceptor id name backlog plans)
  | .acceptorState id => course.outcome (stage.acceptorState id)
  | .stopAcceptor id => course.outcome (stage.stopAcceptor id)
  | .dropAcceptor id => course.outcome (stage.dropAcceptor id)
  | .acceptorText id => course.outcome (stage.acceptorText id)
  | .unknown => { reply := .nothing, course }

end Course

end SocketLoop.Scenario
