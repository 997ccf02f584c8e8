import SocketLoop.Owner.Service

/-! Connect attempts. An attempt waits for its socket to become writable or to fail; the first such
notification resolves it, unless it was aborted before. -/
namespace SocketLoop.World

variable {η ν : Type}

def attempt? (world : World η ν) (index : Nat) : Option Attempt :=
  (world.owner? index).bind Owner.attempt?

def changeAttempt (world : World η ν) (index : Nat) (change : Attempt → Attempt) : World η ν :=
  world.changeOwner index fun owner =>
    match owner.role with
    | .attempt attempt => { owner with role := .attempt (change attempt) }
    | _ => owner

/-- Ends an attempt in failure and tells the callback that waits for it. -/
def failAttempt (user : UserCode η ν) (index : Nat) (failure : Failure) (world : World η ν) :
    Ending × World η ν :=
  let waits := (world.attempt? index).any Attempt.onFailure
  let world := world.changeAttempt index fun attempt =>
    { attempt with state := .failed, errno := failure.errno?, onFailure := false }
  if waits then user.onFailure index failure (world.done (.told index failure.errno?))
  else (.returned, world)

/-- Stands in for the socket of an attempt whose socket was closed again at once. -/
def noSocket : Handle := ⟨-1, 0⟩

def launchFailed (user : UserCode η ν) (socket : Handle) (onFailure : Bool) (failure : Failure)
    (world : World η ν) : Ending × Nat × World η ν :=
  let (index, world) := world.addOwner { socket, role := .attempt { onFailure } }
  let (ending, world) := failAttempt user index failure world
  (ending, index, world)

/-- An attempt whose connect was begun: it is connecting before its observers are registered. -/
def launch (socket : Handle) (onFailure : Bool) (world : World η ν) : Nat × World η ν :=
  let (index, world) := world.addOwner { socket, role := .attempt { onFailure } }
  let world := world.changeAttempt index fun attempt => { attempt with state := .connecting }
  (index, (world.enlist index .writable).enlist index .error)

inductive Started where
  | refused (fault : Fault)
  | panicked
  | attempt (index : Nat)

/-- Starts a connector: opens a socket, sets its options, and launches an attempt to connect. A
connect that fails at once is an attempt that failed. -/
def start (user : UserCode η ν) (plan : OptionPlan) (address : Address) (onFailure : Bool)
    (world : World η ν) : Started × World η ν :=
  match user.setUp address.family plan world with
  | (.error fault, world) => (.refused fault, world)
  | (.ok options, world) =>
    match user.connect options address world with
    | (.ok socket, world) =>
      let (index, world) := launch socket onFailure world
      (.attempt index, world)
    | (.error fault, world) =>
      match launchFailed user noSocket onFailure (.ofFault fault) world with
      | (.returned, index, world) => (.attempt index, world)
      | (.panicked, _, world) => (.panicked, world)

/-- What a notification and the pending error say about a connect. -/
def connectFailure? (notification : Notification)
    (pending : Except Failure (Option Failure)) : Option Failure :=
  match pending with
  | .ok none =>
    if notification.kind = .writable then none
    else some (.system (notification.code.getD Errno.notConnected))
  | .ok (some failure) => some failure
  | .error failure => some failure

/-- Ends an attempt whose connection is up: the factory builds the service that takes the socket
over. -/
def complete (user : UserCode η ν) (index : Nat) (socket : Handle) (factory : Bool)
    (world : World η ν) : Ending × World η ν :=
  let connected (world : World η ν) :=
    world.changeAttempt index fun attempt =>
      { attempt with state := .connected, errno := none }
  if factory then
    match user.factory index socket (world.done (.built index socket)) with
    | (.panicked, world) => (.panicked, world)
    | (.failed failure, world) => failAttempt user index failure world
    | (.built handler, world) => (.returned, connected (attach user socket handler world))
  else (.returned, connected world)

def resolve (user : UserCode η ν) (index : Nat) (notification : Notification)
    (world : World η ν) : Ending × World η ν :=
  match world.owner? index, world.attempt? index with
  | some owner, some attempt =>
    if attempt.state = .connecting then
      let (pending, world) := user.takeError owner.socket world
      let world := world.withdrawAll index
      let factory := (world.attempt? index).any Attempt.factory
      let world := world.changeAttempt index fun attempt => { attempt with factory := false }
      match connectFailure? notification pending with
      | some failure => failAttempt user index failure world
      | none => complete user index owner.socket factory world
    else (.returned, world)
  | _, _ => (.returned, world)

/-- Gives up an attempt that is in progress. One whose observers are gone is left as it is. -/
def abort (user : UserCode η ν) (index : Nat) (world : World η ν) : Ending × World η ν :=
  if world.isReferenced index then
    let world := world.withdrawAll index
    if (world.attempt? index).any (fun attempt => attempt.state = .connecting) then
      let world := world.changeAttempt index fun attempt => { attempt with factory := false }
      failAttempt user index (.system Errno.canceled) world
    else (.returned, world)
  else (.returned, world)

end SocketLoop.World
