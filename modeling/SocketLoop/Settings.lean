import SocketLoop.Bytes
import SocketLoop.Duration

/-! How a loop is set up. -/
namespace SocketLoop

structure Settings where
  pollTimeout : Duration := Duration.ofMillis 250
  threadName : String := "reactor"
  timeouts : Bool := true
  idle : Bool := true
deriving DecidableEq, Inhabited

/-- The poll timeout in milliseconds as the poll takes it: the microseconds rounded up to whole
milliseconds, and at most the largest signed word. -/
def Settings.pollMillis (settings : Settings) : Nat :=
  min ((settings.pollTimeout.micros + 999) / 1000) maxInt32

/-- What the start of a thread panics with over the name it is given: it has no NUL inside, and the
first one is told with all bytes of the name. -/
def Settings.threadPanic? (settings : Settings) : Option String :=
  let bytes := Bytes.ofText settings.threadName
  (bytes.idxOf? 0).map fun position =>
    "thread name may not contain interior null bytes: NulError(" ++ toString position ++ ", " ++
      bytes.text ++ ")"

end SocketLoop
