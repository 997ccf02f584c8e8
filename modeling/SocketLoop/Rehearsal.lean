import SocketLoop.Transport

/-! A transport that answers from a script and writes down what it was asked. An exhausted script
answers that the operation would block. -/
namespace SocketLoop.Rehearsal

/-- One answer of the script. A call takes the part that concerns it. -/
structure Cue where
  accepted : Nat := 0
  data : Bytes := []
  pending : Option Errno := none
  failure : Option Failure := none

inductive Seen where
  | read (limit : Nat)
  | write (data : Bytes)
  | shutdown (direction : Direction)
  | takeError
  | nonblocking (on : Bool)
deriving DecidableEq

/-- The answers still to give, and the calls seen so far, newest first. -/
structure Stage where
  script : List Cue
  seen : List Seen := []

def exhausted : Cue := { failure := some (.ofFault (.write Errno.tryAgain)) }

def Stage.answer {α : Type} (stage : Stage) (call : Seen) (good : Cue → α) :
    Except Failure α × Stage :=
  let cue := stage.script.head?.getD exhausted
  let after := { script := stage.script.tail, seen := call :: stage.seen }
  match cue.failure with
  | some failure => (.error failure, after)
  | none => (.ok (good cue), after)

def transport : Transport Stage where
  read limit stage := stage.answer (.read limit) fun cue => cue.data.take limit
  write data stage := stage.answer (.write data) fun cue => min cue.accepted data.length
  shutdown direction stage := stage.answer (.shutdown direction) fun _ => ()
  takeError stage := stage.answer .takeError fun cue => cue.pending.map .system
  setNonblocking on stage := stage.answer (.nonblocking on) fun _ => ()

/-- Makes one call and gives its answer with the calls seen meanwhile, oldest first. Each write of a
whole buffer uses up an answer, so one more write than there are answers ends it. -/
def perform (stage : Stage) (call : HandleCall) : HandleReply × List Seen × Stage :=
  let start := { stage with seen := [] }
  let (reply, after) := call.perform transport (stage.script.length + 1) start
  (reply, after.seen.reverse, after)

def performAll : Stage → List HandleCall → List (HandleReply × List Seen)
  | _, [] => []
  | stage, call :: rest =>
    let (reply, seen, after) := perform stage call
    (reply, seen) :: performAll after rest

end SocketLoop.Rehearsal
