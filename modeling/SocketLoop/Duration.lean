/-! Spans of time in whole seconds and nanoseconds. -/
namespace SocketLoop

/-- A span of time. The nanoseconds stay below one second. -/
structure Duration where
  seconds : UInt64
  nanos : Nat := 0
  nanos_lt : nanos < 1000000000 := by decide
deriving DecidableEq

namespace Duration

/-- A span given in parts, whole seconds among the nanoseconds counted as seconds; none if the
seconds do not fit. -/
def ofParts? (seconds nanos : Nat) : Option Duration :=
  let whole := seconds + nanos / 1000000000
  if whole < UInt64.size then
    some ⟨UInt64.ofNat whole, nanos % 1000000000, Nat.mod_lt nanos (by decide)⟩
  else none

def overflowText : String := "overflow in Duration::new"

def ofSeconds (seconds : UInt64) : Duration := { seconds }

def ofMillis (millis : Nat) : Duration :=
  ⟨UInt64.ofNat (millis / 1000), millis % 1000 * 1000000, by omega⟩

instance : Inhabited Duration := ⟨ofSeconds 0⟩

def total (span : Duration) : Nat := span.seconds.toNat * 1000000000 + span.nanos

def micros (span : Duration) : Nat := span.total / 1000

end Duration

def maxInt32 : Nat := 2147483647

end SocketLoop
