import SocketLoop.Errno
import SocketLoop.Text.Quoted

/-! Why an operation failed. A fault names the operation and the error number it met; a failure is
what a caller receives, which may also be a bare error number, a bare class or a text. -/
namespace SocketLoop

inductive Fault where
  | create (errno : Errno)
  | bind (errno : Errno) (address : String)
  | listen (errno : Errno) (backlog : Int)
  | connect (errno : Errno) (address : String)
  | accept (errno : Errno)
  | setOption (errno : Errno) (option : String)
  | getOption (errno : Errno) (option : String)
  | invalidAddress (reason : String)
  | read (errno : Errno)
  | write (errno : Errno)
  | shutdown (errno : Errno)
  | poll (errno : Errno)
  | alreadyRunning
  | spawn (kind : ErrorKind) (reason : String)
deriving DecidableEq

namespace Fault

def text : Fault → String
  | create errno => "socket() failed: " ++ errno.text
  | bind errno address => "bind(" ++ address ++ ") failed: " ++ errno.text
  | listen errno backlog => "listen(backlog=" ++ toString backlog ++ ") failed: " ++ errno.text
  | connect errno address => "connect(" ++ address ++ ") failed: " ++ errno.text
  | accept errno => "accept() failed: " ++ errno.text
  | setOption errno option => "setsockopt(" ++ option ++ ") failed: " ++ errno.text
  | getOption errno option => "getsockopt(" ++ option ++ ") failed: " ++ errno.text
  | invalidAddress reason => "invalid address: " ++ reason
  | read errno => "read() failed: " ++ errno.text
  | write errno => "write() failed: " ++ errno.text
  | shutdown errno => "shutdown() failed: " ++ errno.text
  | poll errno => "poll() failed: " ++ errno.text
  | alreadyRunning => "reactor is already running"
  | spawn _ reason => "failed to spawn reactor thread: " ++ reason

def describe (fault : Fault) : String :=
  let fields (name : String) (rows : List (String × String)) : String :=
    name ++ " \x7b " ++ ", ".intercalate (rows.map fun row => row.1 ++ ": " ++ row.2) ++ " \x7d"
  let number (errno : Errno) : String × String := ("errno", toString errno)
  match fault with
  | create errno => fields "Create" [number errno]
  | bind errno address => fields "Bind" [number errno, ("addr", Text.quoted address)]
  | listen errno backlog => fields "Listen" [number errno, ("backlog", toString backlog)]
  | connect errno address => fields "Connect" [number errno, ("addr", Text.quoted address)]
  | accept errno => fields "Accept" [number errno]
  | setOption errno option => fields "SetOption" [number errno, ("option", Text.quoted option)]
  | getOption errno option => fields "GetOption" [number errno, ("option", Text.quoted option)]
  | invalidAddress reason => fields "InvalidAddress" [("reason", Text.quoted reason)]
  | read errno => fields "Read" [number errno]
  | write errno => fields "Write" [number errno]
  | shutdown errno => fields "Shutdown" [number errno]
  | poll errno => fields "Poll" [number errno]
  | alreadyRunning => "AlreadyRunning"
  | spawn _ reason => "Spawn(" ++ reason ++ ")"

def hideAddress : Fault → Fault
  | bind errno _ => bind errno "<addr>"
  | connect errno _ => connect errno "<addr>"
  | fault => fault

def cause : Fault → Option String
  | spawn _ reason => some reason
  | _ => none

/-- The error number behind a fault. An address that cannot be encoded is an invalid argument. -/
def errno? : Fault → Option Errno
  | create errno | bind errno _ | listen errno _ | connect errno _ | accept errno
  | setOption errno _ | getOption errno _ | read errno | write errno | shutdown errno
  | poll errno => some errno
  | invalidAddress _ => some Errno.invalid
  | alreadyRunning | spawn _ _ => none

def kind : Fault → ErrorKind
  | spawn kind _ => kind
  | alreadyRunning => .resourceBusy
  | fault => (fault.errno?.map Errno.kind).getD .other

end Fault

inductive Failure where
  | system (errno : Errno)
  | bare (kind : ErrorKind)
  | plain (kind : ErrorKind) (text : String)
  /-- A fault filed under a class, which is its own unless a caller chose another. -/
  | fault (kind : ErrorKind) (cause : Fault)
  | enclosed (kind : ErrorKind) (text : String)
deriving DecidableEq

namespace Failure

def ofFault (cause : Fault) : Failure := .fault cause.kind cause

def hideAddress : Failure → Failure
  | fault kind cause => fault kind cause.hideAddress
  | failure => failure

def kind : Failure → ErrorKind
  | system errno => errno.kind
  | bare kind | plain kind _ | fault kind _ | enclosed kind _ => kind

/-- The error number behind a failure: from the operating system, or from a fault one level down. -/
def errno? : Failure → Option Errno
  | system errno => some errno
  | fault _ cause => cause.errno?
  | bare _ | plain _ _ | enclosed _ _ => none

def text : Failure → String
  | system errno => errno.text
  | bare kind => kind.text
  | plain _ text | enclosed _ text => text
  | fault _ cause => cause.text

def panicOver (cause : Fault) : String :=
  "called `Result::unwrap()` on an `Err` value: Custom \x7b kind: " ++ cause.kind.name ++
    ", error: " ++ cause.describe ++ " \x7d"

end Failure

end SocketLoop
