import SocketLoop.Kernel.Basic

/-! Reading, writing and shutting down through a descriptor. -/
namespace SocketLoop.Kernel

def refusal? : File → Option Errno
  | .closed => some Errno.badDescriptor
  | .given readiness =>
    some (if readiness.invalid then Errno.badDescriptor else Errno.notSocket)
  | _ => none

/-- Reads from a descriptor: buffered data first, then the pending error, then end-of-stream. -/
def read (kernel : Kernel) (descriptor limit : Nat) : Except Errno Bytes × Kernel :=
  match kernel.file descriptor with
  | .stream stream =>
    if !stream.inbox.isEmpty then
      (.ok (stream.inbox.take limit),
        kernel.put descriptor (.stream { stream with inbox := stream.inbox.drop limit }))
    else match stream.error with
      | some errno =>
        (.error errno, kernel.put descriptor (.stream { stream with error := none }))
      | none => (if stream.readShut then .ok [] else .error Errno.tryAgain, kernel)
  | .listener _ => (.error Errno.invalid, kernel)
  | .hungUp => (.ok [], kernel)
  | file => (.error ((refusal? file).getD Errno.badDescriptor), kernel)

def write (kernel : Kernel) (descriptor : Nat) (data : Bytes) : Except Errno Nat × Kernel :=
  match kernel.file descriptor with
  | .stream stream =>
    if stream.writeShut then (.error Errno.brokenPipe, kernel)
    else match data, stream.peer, stream.peer.map kernel.file with
      | [], _, _ => (.ok 0, kernel)
      | _, some peer, some (.stream other) =>
        let room := capacity - other.inbox.length
        let sent := data.take room
        if sent.isEmpty then (.error Errno.tryAgain, kernel)
        else (.ok sent.length,
          kernel.put peer (.stream { other with inbox := other.inbox ++ sent }))
      | _, _, _ => (.error Errno.brokenPipe, kernel)
  | .listener _ => (.error Errno.notConnected, kernel)
  | .hungUp => (.error Errno.brokenPipe, kernel)
  | file => (.error ((refusal? file).getD Errno.badDescriptor), kernel)

/-- Shuts down one or both directions of a connection, at both ends. -/
def shutdown (kernel : Kernel) (descriptor : Nat) (direction : Direction) :
    Except Errno Unit × Kernel :=
  let reading := direction != .write
  let writing := direction != .read
  match kernel.file descriptor with
  | .stream stream =>
    let kernel := kernel.put descriptor (.stream { stream with
      readShut := stream.readShut || reading
      writeShut := stream.writeShut || writing })
    let kernel := match stream.peer with
      | none => kernel
      | some peer => kernel.changeStream peer fun other =>
        { other with
          readShut := other.readShut || writing
          writeShut := other.writeShut || reading }
    (.ok (), kernel)
  | file =>
    match refusal? file with
    | some errno => (.error errno, kernel)
    | none => (.ok (), kernel)

def takeError (kernel : Kernel) (descriptor : Nat) : Except Errno (Option Errno) × Kernel :=
  match kernel.file descriptor with
  | .stream stream =>
    (.ok stream.error, kernel.put descriptor (.stream { stream with error := none }))
  | file =>
    match refusal? file with
    | some errno => (.error errno, kernel)
    | none => (.ok none, kernel)

def setNonblocking (kernel : Kernel) (descriptor : Nat) : Except Errno Unit :=
  if refusal? (kernel.file descriptor) = some Errno.badDescriptor then
    .error Errno.badDescriptor
  else .ok ()

def withFault {α : Type} (fault : Errno → Fault) (result : Except Errno α) : Except Failure α :=
  match result with
  | .ok value => .ok value
  | .error errno => .error (.ofFault (fault errno))

def transport (descriptor : Nat) : Transport Kernel where
  read limit kernel :=
    let (result, kernel) := kernel.read descriptor limit
    (withFault .read result, kernel)
  write data kernel :=
    let (result, kernel) := kernel.write descriptor data
    (withFault .write result, kernel)
  shutdown direction kernel :=
    let (result, kernel) := kernel.shutdown descriptor direction
    (withFault .shutdown result, kernel)
  takeError kernel :=
    let (result, kernel) := kernel.takeError descriptor
    (withFault (.getOption · "SO_ERROR")
      (result.map fun errno => errno.map Failure.system), kernel)
  setNonblocking _ kernel :=
    (withFault (.getOption · "F_GETFL") (kernel.setNonblocking descriptor), kernel)

end SocketLoop.Kernel
