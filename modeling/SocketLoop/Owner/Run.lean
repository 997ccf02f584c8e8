import SocketLoop.Owner.Accept
import SocketLoop.Owner.Connect

/-! The loop with owners: the observer of a registration belongs to a user or to an owner, whose
role says what a notification means to it. -/
namespace SocketLoop.World

variable {η ν : Type}

def notifyOwner (user : UserCode η ν) (index : Nat) (notification : Notification)
    (world : World η ν) : Ending × World η ν :=
  match (world.owner? index).map Owner.role with
  | none => (.returned, world)
  | some (.service _) => serve user index notification world
  | some (.attempt _) => resolve user index notification world
  | some (.acceptor _) => takeConnection user index world

def notify (user : UserCode η ν) (observer : Nat) (notification : Notification)
    (world : World η ν) : Ending × World η ν :=
  match world.maker? observer with
  | none => user.observer observer notification world
  | some index => notifyOwner user index notification world

def host (user : UserCode η ν) : Host (Owners η ν) where
  call armed notification world := notify user armed.observer notification world
  poll := user.poll
  rest := user.rest

def run (user : UserCode η ν) (fuel : Nat) (world : World η ν) : RunEnd × World η ν :=
  Loop.run (host user) fuel world

/-- The services of an entry whose last registration it is going to lose, in the order in which they
lose it. -/
def lastServices (world : World η ν) : List Registration → List Nat
  | [] => []
  | registration :: rest =>
    match world.maker? registration.observer with
    | none => lastServices world rest
    | some index =>
      if rest.any fun other => world.maker? other.observer == some index then
        lastServices world rest
      else index :: lastServices world rest

/-- The last reference to the reactor goes: its registry goes with it, and so do the services that
lived in it. -/
def dropReactor (user : UserCode η ν) (world : World η ν) : World η ν :=
  let entries := world.reactor.registry.entries
  let registrations := entries.flatMap SocketEntry.registrations
  let gone := registrations.map Registration.number
  let world := world.onReactor fun reactor =>
    { reactor with
      alive := false
      registry := { reactor.registry with
        entries := []
        cleared := reactor.registry.cleared ++ gone } }
  (lastServices world registrations).foldl (fun world index => dropHandler user world index) world

end SocketLoop.World
