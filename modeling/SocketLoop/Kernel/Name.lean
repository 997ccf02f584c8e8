import SocketLoop.Kernel.Basic

/-! Binding names, connecting to them and accepting. Names of this host are served in full, and a path
means the place it leads to. There is no network: an internet socket of version 4 can be bound but
reaches nothing, and one of version 6 finds no address to be bound to. -/
namespace SocketLoop.Kernel

def pair (kernel : Kernel) : Nat × Nat × Kernel :=
  let (left, kernel) := kernel.insert (.stream {})
  let (right, kernel) := kernel.insert (.stream { peer := some left })
  (left, right, kernel.changeStream left fun stream => { stream with peer := some right })

def listenerOf? (kernel : Kernel) (address : Address) : Option (Nat × Listening) :=
  kernel.files.zipIdx.findSome? fun
    | (.listener listening, descriptor) =>
      if listening.address = address then some (descriptor, listening) else none
    | _ => none

/-- What an address of this host stands for once it was encoded; none if it does not fit. -/
def resolve (address : Unix) : Option Unix :=
  address.encode?.bind fun (bytes, length) => Unix.decode? bytes length

def nameOf (place : Place) : Unix := ⟨place.path, false⟩

/-- Binds an address for a listener. Port zero lets the system choose. -/
def bind (kernel : Kernel) (address : Address) : Except Fault (Address × Kernel) :=
  let inUse (kernel : Kernel) (address : Address) : Except Fault (Address × Kernel) :=
    if (kernel.listenerOf? address).isSome then
      .error (.bind Errno.addressInUse address.describe)
    else .ok (address, kernel)
  match address with
  | .v6 _ => .error (.bind Errno.addressNotAvailable address.describe)
  | .v4 host =>
    if host.port = 0 then
      .ok (.v4 (host.withPort (UInt16.ofNat kernel.nextPort)),
        { kernel with nextPort := kernel.nextPort + 1 })
    else inUse kernel address
  | .unix asked =>
    match resolve asked with
    | none => .error (.invalidAddress "address too long")
    | some name =>
      if name.isAbstract then inUse kernel (.unix name)
      else match Place.vacancy kernel.places name.path with
        | .error errno => .error (.bind errno address.describe)
        | .ok place => .ok (.unix (nameOf place), { kernel with places := place :: kernel.places })

/-- How many connections may wait for a backlog. A negative one counts as unlimited. -/
def roomOf (backlog : Int) : Nat :=
  (if backlog < 0 then maxBacklog else min backlog.toNat maxBacklog) + 1

def setUp (kernel : Kernel) (family : Family) (plan : OptionPlan) : Except Fault SocketOptions :=
  if kernel.isFull then .error (.create Errno.tooManyFiles) else plan.apply family

/-- Binds a socket with some options to an address and listens there. -/
def listen (kernel : Kernel) (options : SocketOptions) (address : Address) (backlog : Int) :
    Except Fault (Nat × Address × Kernel) :=
  match kernel.bind address with
  | .error fault => .error fault
  | .ok (bound, kernel) =>
    let (descriptor, kernel) :=
      kernel.insert (.listener { address := bound, room := roomOf backlog, options })
    .ok (descriptor, bound, kernel)

/-- Builds a listener: a plan of options is carried out before the socket is bound. -/
def buildListener (kernel : Kernel) (plan : OptionPlan) (address : Address) (backlog : Int) :
    Except Fault (Nat × Address × Kernel) :=
  match kernel.setUp address.family plan with
  | .error fault => .error fault
  | .ok options => kernel.listen options address backlog

def join (kernel : Kernel) (options : SocketOptions) (descriptor : Nat)
    (listening : Listening) : Nat × Kernel :=
  let (near, far, kernel) := kernel.pair
  let kernel := kernel.changeStream near fun stream => { stream with options }
  let kernel := kernel.changeStream far fun stream => { stream with waiting := true }
  (near, kernel.put descriptor (.listener { listening with queue := listening.queue ++ [far] }))

def connect (kernel : Kernel) (options : SocketOptions) (address : Address) :
    Except Fault (Nat × Kernel) :=
  let refuse (errno : Errno) : Except Fault (Nat × Kernel) :=
    .error (.connect errno address.describe)
  match address with
  | .unix asked =>
    match resolve asked with
    | none => .error (.invalidAddress "address too long")
    | some name =>
      let found := if name.isAbstract then .ok name
        else (Place.find kernel.places name.path).map nameOf
      match found.map fun name => kernel.listenerOf? (.unix name) with
      | .error errno => refuse errno
      | .ok none => refuse Errno.refused
      | .ok (some (descriptor, listening)) =>
        if listening.queue.length < listening.room then
          .ok (kernel.join options descriptor listening)
        else refuse Errno.tryAgain
  | _ => refuse Errno.networkUnreachable

def openAndConnect (kernel : Kernel) (address : Address) : Except Fault (Nat × Kernel) :=
  if kernel.isFull then .error (.create Errno.tooManyFiles) else kernel.connect {} address

def openAndListen (kernel : Kernel) (address : Address) (backlog : Int) :
    Except Fault (Nat × Address × Kernel) :=
  if kernel.isFull then .error (.create Errno.tooManyFiles)
  else kernel.listen {} address backlog

/-- Accepts the connection that has waited longest on a listener; none if none waits. -/
def accept (kernel : Kernel) (descriptor : Nat) : Except Fault (Option Nat × Kernel) :=
  if kernel.isFull then .error (.accept Errno.tooManyFiles)
  else match kernel.file descriptor with
    | .listener listening =>
      match listening.queue with
      | [] => .ok (none, kernel)
      | first :: rest =>
        let kernel := kernel.changeStream first fun stream => { stream with waiting := false }
        .ok (some first, kernel.put descriptor (.listener { listening with queue := rest }))
    | .closed => .error (.accept Errno.badDescriptor)
    | _ => .error (.accept Errno.invalid)

def replace (kernel : Kernel) (descriptor : Nat) (file : File) : Kernel :=
  (kernel.close descriptor).put descriptor file

end SocketLoop.Kernel
