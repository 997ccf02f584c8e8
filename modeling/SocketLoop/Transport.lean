import SocketLoop.Bytes
import SocketLoop.Failure

/-! What a handle passes on to whatever stands behind it, and writing a whole buffer by repeated
short writes. -/
namespace SocketLoop

inductive Direction where
  | read | write | both
deriving DecidableEq, Inhabited

def Direction.title : Direction → String
  | read => "Read"
  | write => "Write"
  | both => "ReadWrite"

structure Transport (σ : Type) where
  /-- Reads up to a number of bytes; none read is end-of-stream. -/
  read : Nat → σ → Except Failure Bytes × σ
  write : Bytes → σ → Except Failure Nat × σ
  shutdown : Direction → σ → Except Failure Unit × σ
  takeError : σ → Except Failure (Option Failure) × σ
  setNonblocking : Bool → σ → Except Failure Unit × σ

namespace Transport

variable {σ : Type}

/-- Writes until every byte was accepted or a write decides the matter: a count of zero, or a
failure other than an interruption. The number of writes is bounded by the fuel; none is the answer
when it runs out. -/
def writeAll (transport : Transport σ) : Nat → Bytes → σ → Option (Except Failure Unit) × σ
  | _, [], state => (some (.ok ()), state)
  | 0, _ :: _, state => (none, state)
  | fuel + 1, byte :: rest, state =>
    match transport.write (byte :: rest) state with
    | (.ok 0, after) => (some (.error (.bare .writeZero)), after)
    | (.ok count, after) => transport.writeAll fuel ((byte :: rest).drop count) after
    | (.error failure, after) =>
      if failure.kind = .interrupted then transport.writeAll fuel (byte :: rest) after
      else (some (.error failure), after)

end Transport

inductive HandleCall where
  | read (limit : Nat)
  | write (data : Bytes)
  | writeAll (data : Bytes)
  | shutdown (direction : Direction)
  | takeError
  | nonblocking (on : Bool)

inductive HandleReply where
  | data (bytes : Bytes)
  | count (written : Nat)
  | done
  | pending (failure : Option Failure)
  | failed (failure : Failure)

namespace HandleCall

variable {σ : Type}

def perform (transport : Transport σ) (fuel : Nat) (call : HandleCall) (state : σ) :
    HandleReply × σ :=
  let answer {α : Type} (result : Except Failure α × σ) (good : α → HandleReply) :=
    match result with
    | (.ok value, after) => (good value, after)
    | (.error failure, after) => (.failed failure, after)
  match call with
  | read limit => answer (transport.read limit state) .data
  | write data => answer (transport.write data state) .count
  | writeAll data =>
    match transport.writeAll fuel data state with
    | (some (.error failure), after) => (.failed failure, after)
    | (_, after) => (.done, after)
  | shutdown direction => answer (transport.shutdown direction state) fun _ => .done
  | takeError => answer (transport.takeError state) .pending
  | nonblocking on => answer (transport.setNonblocking on state) fun _ => .done

end HandleCall

end SocketLoop
