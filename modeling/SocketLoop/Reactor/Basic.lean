import SocketLoop.Reactor.Registry
import SocketLoop.Settings
import SocketLoop.Text.Quoted

/-! The state of a reactor, and the steps that its users and its loop take on it. Each step is what
happens under one lock or by one atomic access. -/
namespace SocketLoop

structure Reactor where
  settings : Settings := {}
  registry : Registry := {}
  /-- Whether a run has been accepted and is not over. -/
  active : Bool := false
  stopRequested : Bool := false
  /-- The registration whose observer is running. -/
  inFlight : Option Nat := none
  /-- What is left of the snapshot being dispatched, the running observer included. -/
  armed : List Armed := []
  /-- The handles that the pass in progress keeps. -/
  held : List Handle := []
  /-- Whether some strong reference to the reactor is left. -/
  alive : Bool := true
deriving DecidableEq, Inhabited

namespace Reactor

/-- Registers an observer. The very same registration is made once only. -/
def addHandler (reactor : Reactor) (socket : Handle) (kind : Kind) (observer : Nat) : Reactor :=
  { reactor with registry := (reactor.registry.add socket kind observer).2 }

/-- Removes the registration of an observer, where there is one. -/
def removeHandler (reactor : Reactor) (socket : Handle) (kind : Kind) (observer : Nat) :
    Reactor :=
  { reactor with registry := (reactor.registry.remove socket kind observer).2 }

/-- Whether a removal from another thread would have to wait for the running observer. -/
def removalWaits (reactor : Reactor) (socket : Handle) (kind : Kind) (observer : Nat) : Bool :=
  match (reactor.registry.remove socket kind observer).1 with
  | none => false
  | some number => reactor.inFlight == some number

def stop (reactor : Reactor) : Reactor := { reactor with stopRequested := true }

/-- Starts a run, unless one is going on. -/
def enter? (reactor : Reactor) : Option Reactor :=
  if reactor.active then none else some { reactor with active := true }

/-- The first of the two last steps of a run: the request to stop is used up. -/
def clearStop (reactor : Reactor) : Reactor := { reactor with stopRequested := false }

def leave (reactor : Reactor) : Reactor := { reactor with active := false }

/-- Checks that a registration is live and publishes the call of its observer, as one step. -/
def publish? (reactor : Reactor) (armed : Armed) : Option Reactor :=
  if reactor.registry.isLive armed.number then
    some { reactor with inFlight := some armed.number }
  else none

def finish (reactor : Reactor) : Reactor := { reactor with inFlight := none }

/-- What observers may ask of a reactor. A run asked for by an observer is refused and changes
nothing. -/
inductive Use where
  | add (socket : Handle) (kind : Kind) (observer : Nat)
  | remove (socket : Handle) (kind : Kind) (observer : Nat)
  | stop
deriving DecidableEq

def use (reactor : Reactor) : Use → Reactor
  | .add socket kind observer => reactor.addHandler socket kind observer
  | .remove socket kind observer => reactor.removeHandler socket kind observer
  | .stop => reactor.stop

def useAll (reactor : Reactor) (uses : List Use) : Reactor := uses.foldl use reactor

def text (reactor : Reactor) : String :=
  let flag (value : Bool) : String := if value then "true" else "false"
  "SocketReactor \x7b config: ReactorConfig \x7b poll_timeout: <duration>, thread_name: " ++
    Text.quoted reactor.settings.threadName ++ ", timeouts: " ++
    flag reactor.settings.timeouts ++ ", idle: " ++ flag reactor.settings.idle ++
    " \x7d, running: " ++ flag reactor.active ++ ", .. \x7d"

end Reactor

end SocketLoop
