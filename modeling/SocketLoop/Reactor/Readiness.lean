import SocketLoop.Errno
import SocketLoop.Notification

/-! What a poll asks of a socket and what it reports. -/
namespace SocketLoop

/-- A socket of a poll set and what is asked about it. Errors, hang-ups and closed descriptors are
reported unasked. -/
structure Interest where
  socket : Handle
  input : Bool
  output : Bool
deriving DecidableEq

structure Readiness where
  input : Bool := false
  output : Bool := false
  error : Bool := false
  hangUp : Bool := false
  invalid : Bool := false
deriving DecidableEq, Inhabited

namespace Readiness

def isQuiet (readiness : Readiness) : Bool := readiness == {}

def text (readiness : Readiness) : String :=
  ",".intercalate ((if readiness.input then ["in"] else []) ++
    (if readiness.output then ["out"] else []) ++ (if readiness.error then ["err"] else []) ++
    (if readiness.hangUp then ["hup"] else []) ++ if readiness.invalid then ["nval"] else [])

/-- Whether a read would not block. After a hang-up it finds end-of-stream. -/
def readable (readiness : Readiness) : Bool := readiness.input || readiness.hangUp

def failed (readiness : Readiness) : Bool := readiness.error || readiness.invalid

def code (readiness : Readiness) : Option Errno :=
  if readiness.invalid then some Errno.badDescriptor else none

def seenBy (readiness : Readiness) (interest : Interest) : Readiness :=
  { readiness with
    input := readiness.input && interest.input
    output := readiness.output && interest.output }

end Readiness

/-- How a poll ends. The ready sockets stand in the order in which the pass visits them. -/
inductive Polled where
  | interrupted
  | failed (errno : Errno)
  | ready (sockets : List (Handle × Readiness))

end SocketLoop
