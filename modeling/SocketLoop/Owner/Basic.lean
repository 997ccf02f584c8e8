import SocketLoop.Option.Setting
import SocketLoop.Reactor.Loop

/-! Owners: services, connect attempts and acceptors. An owner sits on one socket and keeps a record
of the observers it registered there, each under an identity of its own, so that it can take them
back. The steps on a record and on the registry are separate, as each takes a lock of its own. -/
namespace SocketLoop

inductive AttemptState where
  | idle | connecting | connected | failed
deriving DecidableEq, Inhabited

def AttemptState.name : AttemptState → String
  | idle => "Idle"
  | connecting => "Connecting"
  | connected => "Connected"
  | failed => "Failed"

structure Attempt where
  state : AttemptState := .idle
  errno : Option Errno := none
  /-- Whether the factory can still be called. -/
  factory : Bool := true
  /-- Whether a callback waits to hear of the failure. -/
  onFailure : Bool := false
deriving DecidableEq, Inhabited

structure Acceptor where
  stopped : Bool := false
  accepted : Nat := 0
deriving DecidableEq, Inhabited

/-- What an owner does with its notifications. A service that is closed has no handler. -/
inductive Role (η : Type) where
  | service (handler : Option η)
  | attempt (attempt : Attempt)
  | acceptor (acceptor : Acceptor)

structure Owner (η : Type) where
  socket : Handle
  /-- The kinds it registered for, each with the observer registered. -/
  observers : List (Kind × Nat) := []
  role : Role η

namespace Owner

variable {η : Type}

def kinds (owner : Owner η) : KindSet := KindSet.ofList (owner.observers.map Prod.fst)

def handler? (owner : Owner η) : Option η :=
  match owner.role with
  | .service handler => handler
  | _ => none

def attempt? (owner : Owner η) : Option Attempt :=
  match owner.role with
  | .attempt attempt => some attempt
  | _ => none

def acceptor? (owner : Owner η) : Option Acceptor :=
  match owner.role with
  | .acceptor acceptor => some acceptor
  | _ => none

end Owner

inductive Deed where
  | handled (owner : Nat)
  | dropped (owner : Nat)
  | accepted (owner : Nat) (socket : Handle)
  | built (owner : Nat) (socket : Handle)
  | told (owner : Nat) (errno : Option Errno)
deriving DecidableEq

structure Owners (η ν : Type) where
  owners : List (Owner η) := []
  /-- For each observer the owner that made it; none for an observer of a user. -/
  makers : List (Option Nat) := []
  /-- What the owners did, newest first. -/
  deeds : List Deed := []
  beyond : ν

/-- A reactor with owners. Handlers are of type `η`; user code may also change a `ν`. -/
abbrev World (η ν : Type) := Site (Owners η ν)

/-- What a handler asks for while it runs. Of an enabling and a disabling of one kind the later one
counts. -/
structure Requests where
  enable : KindSet := {}
  disable : KindSet := {}
  close : Bool := false
deriving DecidableEq, Inhabited

namespace Requests

def enabling (requests : Requests) (kind : Kind) : Requests :=
  { requests with disable := requests.disable.erase kind, enable := requests.enable.insert kind }

def disabling (requests : Requests) (kind : Kind) : Requests :=
  { requests with enable := requests.enable.erase kind, disable := requests.disable.insert kind }

def closing (requests : Requests) : Requests := { requests with close := true }

end Requests

inductive Handled where
  /-- It returned, perhaps with a failure, having asked for changes. -/
  | returned (requests : Requests) (failed : Bool)
  | panicked
deriving DecidableEq, Inhabited

inductive Built (η : Type) where
  | built (handler : η)
  | failed (failure : Failure)
  | panicked

inductive Accepted where
  | connection (socket : Handle)
  /-- Nothing waits, the call was interrupted, or it failed. -/
  | nothing
deriving DecidableEq, Inhabited

/-- The code of users and the operating system, as far as owners call them. -/
structure UserCode (η ν : Type) where
  observer : Nat → Notification → World η ν → Ending × World η ν
  handler : Nat → η → Notification → World η ν → Handled × η × World η ν
  interests : η → KindSet
  dropped : η → Handle → World η ν → World η ν
  factory : Nat → Handle → World η ν → Built η × World η ν
  onFailure : Nat → Failure → World η ν → Ending × World η ν
  takeError : Handle → World η ν → Except Failure (Option Failure) × World η ν
  accept : Nat → Handle → World η ν → Accepted × World η ν
  setUp : Family → OptionPlan → World η ν → Except Fault SocketOptions × World η ν
  connect : SocketOptions → Address → World η ν → Except Fault Handle × World η ν
  poll : List Interest → World η ν → Polled × World η ν
  rest : World η ν → World η ν

namespace World

variable {η ν : Type}

def owner? (world : World η ν) (index : Nat) : Option (Owner η) :=
  world.outside.owners[index]?

def changeOwner (world : World η ν) (index : Nat) (change : Owner η → Owner η) : World η ν :=
  { world with outside := { world.outside with
      owners := world.outside.owners.modify index change } }

def onBeyond (world : World η ν) (change : ν → ν) : World η ν :=
  { world with outside := { world.outside with beyond := change world.outside.beyond } }

def done (world : World η ν) (deed : Deed) : World η ν :=
  { world with outside := { world.outside with deeds := deed :: world.outside.deeds } }

def addOwner (world : World η ν) (owner : Owner η) : Nat × World η ν :=
  (world.outside.owners.length,
    { world with outside := { world.outside with owners := world.outside.owners ++ [owner] } })

def newObserver (world : World η ν) (maker : Option Nat) : Nat × World η ν :=
  (world.outside.makers.length,
    { world with outside := { world.outside with makers := world.outside.makers ++ [maker] } })

def maker? (world : World η ν) (observer : Nat) : Option Nat :=
  (world.outside.makers[observer]?).join

def record (world : World η ν) (index : Nat) (kind : Kind) : Nat × World η ν :=
  let (observer, world) := world.newObserver (some index)
  (observer, world.changeOwner index fun owner =>
    { owner with observers := owner.observers ++ [(kind, observer)] })

def register (world : World η ν) (index : Nat) (kind : Kind) (observer : Nat) : World η ν :=
  match world.owner? index with
  | none => world
  | some owner =>
    world.onReactor fun reactor => reactor.addHandler owner.socket kind observer

/-- Registers an owner for a kind, if the reactor is still there. -/
def enlist (world : World η ν) (index : Nat) (kind : Kind) : World η ν :=
  if world.reactor.alive then
    let (observer, world) := world.record index kind
    world.register index kind observer
  else world

def strike (world : World η ν) (index : Nat) (which : Kind → Bool) :
    List (Kind × Nat) × World η ν :=
  match world.owner? index with
  | none => ([], world)
  | some owner =>
    (owner.observers.filter fun row => which row.1,
      world.changeOwner index fun owner =>
        { owner with observers := owner.observers.filter fun row => !which row.1 })

def unregister (world : World η ν) (index : Nat) (struck : List (Kind × Nat)) : World η ν :=
  match world.owner? index with
  | none => world
  | some owner =>
    struck.foldl (fun world row =>
      world.onReactor fun reactor => reactor.removeHandler owner.socket row.1 row.2) world

def withdraw (world : World η ν) (index : Nat) (which : Kind → Bool) : World η ν :=
  let (struck, world) := world.strike index which
  world.unregister index struck

def withdrawAll (world : World η ν) (index : Nat) : World η ν :=
  world.withdraw index fun _ => true

/-- Whether an owner's observers are registered or about to be called. -/
def isReferenced (world : World η ν) (index : Nat) : Bool :=
  let ofOwner (registration : Registration) : Bool :=
    world.maker? registration.observer == some index
  world.reactor.registry.entries.any (fun entry => entry.registrations.any ofOwner) ||
    world.reactor.armed.any ofOwner

end World

end SocketLoop
