import SocketLoop.Owner.Basic

/-! Services. A service lives as long as it has registrations: its handler is dropped when it asks
for that, when it fails, and with its last interest. -/
namespace SocketLoop.World

variable {η ν : Type}

def enable (world : World η ν) (index : Nat) (kind : Kind) : World η ν :=
  match world.owner? index with
  | none => world
  | some owner => if owner.kinds.has kind then world else world.enlist index kind

def disable (world : World η ν) (index : Nat) (kind : Kind) : World η ν :=
  world.withdraw index fun other => other == kind

def setHandler (world : World η ν) (index : Nat) (handler : Option η) : World η ν :=
  world.changeOwner index fun owner =>
    match owner.role with
    | .service _ => { owner with role := .service handler }
    | _ => owner

def dropHandler (user : UserCode η ν) (world : World η ν) (index : Nat) : World η ν :=
  match world.owner? index with
  | none => world
  | some owner =>
    match owner.handler? with
    | none => world
    | some handler =>
      user.dropped handler owner.socket ((world.setHandler index none).done (.dropped index))

def closeService (user : UserCode η ν) (world : World η ν) (index : Nat) : World η ν :=
  dropHandler user (world.withdrawAll index) index

/-- Carries out what a handler asked for: kinds are disabled, then enabled, and the service is
closed on request, after a failure, or when no kind is left. -/
def settle (user : UserCode η ν) (world : World η ν) (index : Nat) (requests : Requests)
    (failed : Bool) : World η ν :=
  let world := requests.disable.toList.foldl (fun world kind => world.disable index kind) world
  let world := requests.enable.toList.foldl (fun world kind => world.enable index kind) world
  let bare := match world.owner? index with
    | none => true
    | some owner => owner.kinds.isEmpty
  if requests.close || failed || bare then closeService user world index else world

def serve (user : UserCode η ν) (index : Nat) (notification : Notification)
    (world : World η ν) : Ending × World η ν :=
  match (world.owner? index).bind Owner.handler? with
  | none => (.returned, world)
  | some handler =>
    match user.handler index handler notification (world.done (.handled index)) with
    | (.panicked, handler, world) => (.panicked, world.setHandler index (some handler))
    | (.returned requests failed, handler, world) =>
      (.returned, settle user (world.setHandler index (some handler)) index requests failed)

/-- Hands a socket to a handler and registers its interests. A handler without interests is dropped
at once. -/
def attach (user : UserCode η ν) (socket : Handle) (handler : η) (world : World η ν) :
    World η ν :=
  let interests := user.interests handler
  let (index, world) := world.addOwner { socket, role := .service (some handler) }
  if interests.isEmpty then dropHandler user world index
  else interests.toList.foldl (fun world kind => world.enable index kind) world

end SocketLoop.World
