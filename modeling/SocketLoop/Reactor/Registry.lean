import SocketLoop.Reactor.Readiness

/-! Which observers are registered for which kinds on which sockets. Every registration has a number
of its own and a liveness flag, which its removal clears for good. -/
namespace SocketLoop

structure Registration where
  /-- Tells this registration from every other one, earlier and later ones included. -/
  number : Nat
  kind : Kind
  observer : Nat
deriving DecidableEq, Inhabited

/-- The registrations of one socket, oldest first. -/
structure SocketEntry where
  /-- The handle of the oldest registration since the socket became known. -/
  socket : Handle
  registrations : List Registration
  /-- Left out of polling until the next registration. -/
  muted : Bool := false
deriving DecidableEq, Inhabited

namespace SocketEntry

def kinds (entry : SocketEntry) : KindSet :=
  KindSet.ofList (entry.registrations.map Registration.kind)

def observes (entry : SocketEntry) (kind : Kind) : Bool :=
  entry.registrations.any fun registration => registration.kind == kind

def isFor (kind : Kind) (observer : Nat) (registration : Registration) : Bool :=
  registration.kind == kind && registration.observer == observer

/-- What a poll has to ask about the socket: input and output for the kinds that need them, nothing
when only errors or quiet passes are observed, and no poll at all otherwise. -/
def interest? (entry : SocketEntry) : Option Interest :=
  let input := entry.observes .readable
  let output := entry.observes .writable
  if !entry.muted && (input || output || entry.observes .error || entry.observes .timeout) then
    some ⟨entry.socket, input, output⟩
  else none

end SocketEntry

structure Registry where
  /-- The known sockets in the order in which they became known. -/
  entries : List SocketEntry := []
  next : Nat := 0
  /-- The registrations whose liveness flags are cleared. -/
  cleared : List Nat := []
deriving DecidableEq, Inhabited

/-- An observer as it stands in the snapshot that is being dispatched. -/
abbrev Armed := Registration

namespace Registry

def entry? (registry : Registry) (descriptor : Int) : Option SocketEntry :=
  registry.entries.find? fun entry => entry.socket.descriptor == descriptor

def find? (registry : Registry) (descriptor : Int) (kind : Kind) (observer : Nat) :
    Option Registration :=
  (registry.entry? descriptor).bind fun entry =>
    entry.registrations.find? (SocketEntry.isFor kind observer)

def contains (registry : Registry) (descriptor : Int) (kind : Kind) (observer : Nat) : Bool :=
  (registry.find? descriptor kind observer).isSome

def hasSocket (registry : Registry) (descriptor : Int) : Bool :=
  (registry.entry? descriptor).isSome

def size (registry : Registry) : Nat := registry.entries.length

def observes (registry : Registry) (descriptor : Int) (kind : Kind) : Bool :=
  (registry.entry? descriptor).any fun entry => entry.observes kind

def changeEntry (registry : Registry) (descriptor : Int)
    (change : SocketEntry → SocketEntry) : List SocketEntry :=
  registry.entries.map fun entry =>
    if entry.socket.descriptor = descriptor then change entry else entry

/-- Registers an observer, unless the very same registration is there, and tells whether it did.
A new registration brings a muted socket back into polling. -/
def add (registry : Registry) (socket : Handle) (kind : Kind) (observer : Nat) :
    Bool × Registry :=
  if registry.contains socket.descriptor kind observer then (false, registry)
  else
    let registration : Registration := ⟨registry.next, kind, observer⟩
    let entries :=
      if registry.hasSocket socket.descriptor then
        registry.changeEntry socket.descriptor fun entry =>
          { entry with registrations := entry.registrations ++ [registration], muted := false }
      else registry.entries ++ [⟨socket, [registration], false⟩]
    (true, { registry with entries, next := registry.next + 1 })

/-- Removes a registration and clears its liveness flag. A socket is forgotten with its last
registration. -/
def remove (registry : Registry) (socket : Handle) (kind : Kind) (observer : Nat) :
    Option Nat × Registry :=
  match registry.find? socket.descriptor kind observer with
  | none => (none, registry)
  | some registration =>
    let entries := registry.changeEntry socket.descriptor fun entry =>
      { entry with registrations :=
          entry.registrations.eraseP (SocketEntry.isFor kind observer) }
    (some registration.number,
      { registry with
        entries := entries.filter fun entry => !entry.registrations.isEmpty
        cleared := registration.number :: registry.cleared })

/-- Leaves a socket out of polling until the next registration on it, unless a readable observer
is there to read the hang-up and that is not to be overruled. -/
def mute (registry : Registry) (descriptor : Int) (evenIfRead : Bool) : Registry :=
  { registry with entries := registry.changeEntry descriptor fun entry =>
      { entry with muted := entry.muted || evenIfRead || !entry.observes .readable } }

/-- Whether the liveness flag of a registration is still set. -/
def isLive (registry : Registry) (number : Nat) : Bool := !registry.cleared.contains number

/-- The observers of a kind on a socket, in the order of registration. -/
def snapshot (registry : Registry) (descriptor : Int) (kind : Kind) : List Armed :=
  match registry.entry? descriptor with
  | none => []
  | some entry => entry.registrations.filter fun registration => registration.kind == kind

def observing (registry : Registry) (kind : Kind) : List Handle :=
  (registry.entries.filter fun entry => entry.observes kind).map SocketEntry.socket

def pollSet (registry : Registry) : List Interest :=
  registry.entries.filterMap SocketEntry.interest?

end Registry

end SocketLoop
