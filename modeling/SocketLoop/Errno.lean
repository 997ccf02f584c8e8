/-! Error numbers of the operating system: their wording, and the coarse class each belongs to.
Both tables have a default, so every number has a wording and a class. -/
namespace SocketLoop

inductive ErrorKind where
  | notFound | permissionDenied | connectionRefused | connectionReset | hostUnreachable
  | networkUnreachable | connectionAborted | notConnected | addrInUse | addrNotAvailable
  | networkDown | brokenPipe | alreadyExists | wouldBlock | notADirectory | isADirectory
  | directoryNotEmpty | readOnlyFilesystem | staleNetworkFileHandle | invalidInput | invalidData
  | timedOut | writeZero | storageFull | notSeekable | quotaExceeded | fileTooLarge | resourceBusy
  | executableFileBusy | deadlock | crossesDevices | tooManyLinks | invalidFilename
  | argumentListTooLong | interrupted | unsupported | unexpectedEof | outOfMemory | other
deriving DecidableEq, Inhabited

namespace ErrorKind

def table : List (ErrorKind × String × String) := [
  (.notFound, "NotFound", "entity not found"),
  (.permissionDenied, "PermissionDenied", "permission denied"),
  (.connectionRefused, "ConnectionRefused", "connection refused"),
  (.connectionReset, "ConnectionReset", "connection reset"),
  (.hostUnreachable, "HostUnreachable", "host unreachable"),
  (.networkUnreachable, "NetworkUnreachable", "network unreachable"),
  (.connectionAborted, "ConnectionAborted", "connection aborted"),
  (.notConnected, "NotConnected", "not connected"),
  (.addrInUse, "AddrInUse", "address in use"),
  (.addrNotAvailable, "AddrNotAvailable", "address not available"),
  (.networkDown, "NetworkDown", "network down"),
  (.brokenPipe, "BrokenPipe", "broken pipe"),
  (.alreadyExists, "AlreadyExists", "entity already exists"),
  (.wouldBlock, "WouldBlock", "operation would block"),
  (.notADirectory, "NotADirectory", "not a directory"),
  (.isADirectory, "IsADirectory", "is a directory"),
  (.directoryNotEmpty, "DirectoryNotEmpty", "directory not empty"),
  (.readOnlyFilesystem, "ReadOnlyFilesystem", "read-only filesystem or storage medium"),
  (.staleNetworkFileHandle, "StaleNetworkFileHandle", "stale network file handle"),
  (.invalidInput, "InvalidInput", "invalid input parameter"),
  (.invalidData, "InvalidData", "invalid data"),
  (.timedOut, "TimedOut", "timed out"),
  (.writeZero, "WriteZero", "write zero"),
  (.storageFull, "StorageFull", "no storage space"),
  (.notSeekable, "NotSeekable", "seek on unseekable file"),
  (.quotaExceeded, "QuotaExceeded", "quota exceeded"),
  (.fileTooLarge, "FileTooLarge", "file too large"),
  (.resourceBusy, "ResourceBusy", "resource busy"),
  (.executableFileBusy, "ExecutableFileBusy", "executable file busy"),
  (.deadlock, "Deadlock", "deadlock"),
  (.crossesDevices, "CrossesDevices", "cross-device link or rename"),
  (.tooManyLinks, "TooManyLinks", "too many links"),
  (.invalidFilename, "InvalidFilename", "invalid filename"),
  (.argumentListTooLong, "ArgumentListTooLong", "argument list too long"),
  (.interrupted, "Interrupted", "operation interrupted"),
  (.unsupported, "Unsupported", "unsupported"),
  (.unexpectedEof, "UnexpectedEof", "unexpected end of file"),
  (.outOfMemory, "OutOfMemory", "out of memory"),
  (.other, "Other", "other error")]

def name (kind : ErrorKind) : String :=
  match table.find? fun row => row.1 == kind with
  | some row => row.2.1
  | none => "Other"

def text (kind : ErrorKind) : String :=
  match table.find? fun row => row.1 == kind with
  | some row => row.2.2
  | none => "other error"

def ofName? (text : String) : Option ErrorKind :=
  (table.find? fun row => row.2.1 == text).map Prod.fst

end ErrorKind

abbrev Errno := Int

namespace Errno

def notPermitted : Errno := 1
def noEntry : Errno := 2
def interrupted : Errno := 4
def badDescriptor : Errno := 9
def tryAgain : Errno := 11
def noMemory : Errno := 12
def accessDenied : Errno := 13
def notDirectory : Errno := 20
def invalid : Errno := 22
def fileTableFull : Errno := 23
def tooManyFiles : Errno := 24
def brokenPipe : Errno := 32
def notSocket : Errno := 88
def notSupported : Errno := 95
def familyNotSupported : Errno := 97
def addressInUse : Errno := 98
def addressNotAvailable : Errno := 99
def networkUnreachable : Errno := 101
def connectionReset : Errno := 104
def noBuffers : Errno := 105
def notConnected : Errno := 107
def timedOut : Errno := 110
def refused : Errno := 111
def hostUnreachable : Errno := 113
def inProgress : Errno := 115
def canceled : Errno := 125

def wordings : List (Errno × String) := [
  (accessDenied, "permission denied"),
  (addressInUse, "address already in use"),
  (addressNotAvailable, "address not available"),
  (familyNotSupported, "address family not supported"),
  (tryAgain, "resource temporarily unavailable"),
  (badDescriptor, "bad file descriptor"),
  (refused, "connection refused"),
  (connectionReset, "connection reset by peer"),
  (hostUnreachable, "host unreachable"),
  (inProgress, "operation in progress"),
  (interrupted, "interrupted by signal"),
  (invalid, "invalid argument"),
  (tooManyFiles, "too many open files"),
  (networkUnreachable, "network unreachable"),
  (fileTableFull, "file table overflow"),
  (noBuffers, "no buffer space available"),
  (noMemory, "out of memory"),
  (notConnected, "not connected"),
  (brokenPipe, "broken pipe"),
  (timedOut, "connection timed out")]

def text (errno : Errno) : String :=
  (wordings.lookup errno).getD ("errno " ++ toString errno)

def kinds : List (Errno × ErrorKind) := [
  (accessDenied, .permissionDenied),
  (notPermitted, .permissionDenied),
  (addressInUse, .addrInUse),
  (addressNotAvailable, .addrNotAvailable),
  (tryAgain, .wouldBlock),
  (refused, .connectionRefused),
  (connectionReset, .connectionReset),
  (interrupted, .interrupted),
  (invalid, .invalidInput),
  (notConnected, .notConnected),
  (brokenPipe, .brokenPipe),
  (timedOut, .timedOut)]

def kind (errno : Errno) : ErrorKind := (kinds.lookup errno).getD .other

end Errno

end SocketLoop
