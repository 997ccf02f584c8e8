import SocketLoop.Owner.Service

/-! Acceptors. An acceptor takes at most one connection from its listener per notification and hands
each to a service of its own. -/
namespace SocketLoop.World

variable {η ν : Type}

def acceptor? (world : World η ν) (index : Nat) : Option Acceptor :=
  (world.owner? index).bind Owner.acceptor?

def changeAcceptor (world : World η ν) (index : Nat) (change : Acceptor → Acceptor) :
    World η ν :=
  world.changeOwner index fun owner =>
    match owner.role with
    | .acceptor acceptor => { owner with role := .acceptor (change acceptor) }
    | _ => owner

def startAcceptor (socket : Handle) (world : World η ν) : Nat × World η ν :=
  let (index, world) := world.addOwner { socket, role := .acceptor {} }
  (index, world.enlist index .readable)

/-- Takes a connection, if one waits. A factory that fails costs that connection and nothing
else. -/
def takeConnection (user : UserCode η ν) (index : Nat) (world : World η ν) :
    Ending × World η ν :=
  match world.owner? index, world.acceptor? index with
  | some owner, some acceptor =>
    if acceptor.stopped then (.returned, world)
    else
      match user.accept index owner.socket world with
      | (.nothing, world) => (.returned, world)
      | (.connection socket, world) =>
        let world := (world.done (.accepted index socket)).changeAcceptor index fun acceptor =>
          { acceptor with accepted := acceptor.accepted + 1 }
        match user.factory index socket (world.done (.built index socket)) with
        | (.panicked, world) => (.panicked, world)
        | (.failed _, world) => (.returned, world)
        | (.built handler, world) => (.returned, attach user socket handler world)
  | _, _ => (.returned, world)

/-- Stops an acceptor. Services that it made go on. -/
def stopAcceptor (index : Nat) (world : World η ν) : World η ν :=
  if (world.acceptor? index).any Acceptor.stopped then world
  else
    (world.changeAcceptor index fun acceptor => { acceptor with stopped := true }).withdrawAll
      index

end SocketLoop.World
