import SocketLoop.Kernel.Path
import SocketLoop.Option.Setting
import SocketLoop.Reactor.Readiness
import SocketLoop.Transport

/-! The open files of a process as far as sockets go: connected pairs, listeners, and descriptors
whose readiness is told from outside. -/
namespace SocketLoop

structure StreamEnd where
  /-- The descriptor of the other end while that is open. -/
  peer : Option Nat := none
  /-- The bytes that arrived and were not read. -/
  inbox : Bytes := []
  readShut : Bool := false
  writeShut : Bool := false
  error : Option Errno := none
  /-- Whether the end still waits to be accepted. -/
  waiting : Bool := false
  options : SocketOptions := {}
deriving DecidableEq, Inhabited

structure Listening where
  address : Address
  room : Nat
  /-- The ends that wait to be accepted, oldest first. -/
  queue : List Nat := []
  options : SocketOptions := {}
deriving DecidableEq

/-- An open file, or a descriptor that was closed. -/
inductive File where
  | closed
  | given (readiness : Readiness)
  | hungUp
  | stream (stream : StreamEnd)
  | listener (listening : Listening)
deriving DecidableEq

structure Kernel where
  files : List File := []
  places : List Place := []
  /-- The next port that the system chooses. -/
  nextPort : Nat := 40000
  limit : Option Nat := none

namespace Kernel

def capacity : Nat := 212992

def maxBacklog : Nat := 4096

def file (kernel : Kernel) (descriptor : Nat) : File :=
  (kernel.files[descriptor]?).getD .closed

def put (kernel : Kernel) (descriptor : Nat) (file : File) : Kernel :=
  { kernel with files := kernel.files.set descriptor file }

def changeStream (kernel : Kernel) (descriptor : Nat) (change : StreamEnd → StreamEnd) :
    Kernel :=
  match kernel.file descriptor with
  | .stream stream => kernel.put descriptor (.stream (change stream))
  | _ => kernel

/-- Opens a file under the lowest descriptor that is free. -/
def insert (kernel : Kernel) (file : File) : Nat × Kernel :=
  let descriptor := kernel.files.findIdx fun other => other = .closed
  (descriptor,
    if descriptor < kernel.files.length then kernel.put descriptor file
    else { kernel with files := kernel.files ++ [file] })

def append (kernel : Kernel) (file : File) : Nat × Kernel :=
  (kernel.files.length, { kernel with files := kernel.files ++ [file] })

def isFull (kernel : Kernel) : Bool :=
  match kernel.limit with
  | none => false
  | some limit => limit ≤ 3

/-- Closes one end of a connection. The other end finds end-of-stream, and a reset if this one had
unread data or was not accepted yet. -/
def closeStream (kernel : Kernel) (descriptor : Nat) (stream : StreamEnd) : Kernel :=
  let kernel := kernel.put descriptor .closed
  match stream.peer with
  | none => kernel
  | some peer =>
    kernel.changeStream peer fun other =>
      { other with
        peer := none
        readShut := true
        writeShut := true
        error := if stream.waiting || !stream.inbox.isEmpty then some Errno.connectionReset
          else other.error }

/-- Closes a descriptor. A listener takes the connections that wait on it along. -/
def close (kernel : Kernel) (descriptor : Nat) : Kernel :=
  match kernel.file descriptor with
  | .stream stream => kernel.closeStream descriptor stream
  | .listener listening =>
    listening.queue.foldl (fun kernel waiting =>
      match kernel.file waiting with
      | .stream stream => kernel.closeStream waiting stream
      | _ => kernel) (kernel.put descriptor .closed)
  | _ => kernel.put descriptor .closed

def optionsOf (kernel : Kernel) (descriptor : Nat) : SocketOptions :=
  match kernel.file descriptor with
  | .stream stream => stream.options
  | .listener listening => listening.options
  | _ => {}

def waiting (kernel : Kernel) : List Nat :=
  kernel.files.flatMap fun
    | .listener listening => listening.queue
    | _ => []

/-- Closes every descriptor that nobody keeps. -/
def sweep (kernel : Kernel) (kept : List Int) : Kernel :=
  let waiting := kernel.waiting
  (List.range kernel.files.length).foldl (fun kernel descriptor =>
    if kernel.file descriptor = .closed || kept.contains descriptor ||
        waiting.contains descriptor then kernel
    else kernel.close descriptor) kernel

def readiness (kernel : Kernel) (descriptor : Nat) : Readiness :=
  match kernel.file descriptor with
  | .closed => { invalid := true }
  | .given readiness => readiness
  | .hungUp => { input := true, hangUp := true }
  | .listener listening => { input := !listening.queue.isEmpty }
  | .stream stream =>
    let unread := match stream.peer.map kernel.file with
      | some (.stream other) => other.inbox.length
      | _ => 0
    { input := !stream.inbox.isEmpty || stream.readShut
      output := unread * 4 ≤ capacity
      error := stream.error.isSome
      hangUp := stream.readShut && stream.writeShut }

/-- Polls some sockets. A limit on descriptors is a limit on the sockets too. -/
def poll (kernel : Kernel) (asked : List Interest) : Polled :=
  let tooMany := match kernel.limit with
    | none => false
    | some limit => limit < asked.length
  if tooMany then .failed Errno.invalid
  else .ready (asked.filterMap fun interest =>
    let seen := (kernel.readiness interest.socket.descriptor.toNat).seenBy interest
    if seen.isQuiet then none else some (interest.socket, seen))

end Kernel

end SocketLoop
