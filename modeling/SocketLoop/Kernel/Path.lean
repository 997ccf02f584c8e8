import SocketLoop.Bytes
import SocketLoop.Errno

/-! Paths in the file system of a host. A place is told by the names that lead to it from the root, so
one place has one list of names, while it may have many paths: a path is walked name by name, through
directories only. -/
namespace SocketLoop

/-- A place in the file system: the names that lead to it. -/
abbrev Place := List Bytes

inductive Occupant where
  | directory
  | file
deriving DecidableEq

namespace Place

/-- The names of a path in order. A slash beside another one, or at an end, leaves an empty name. -/
def namesOf (path : Bytes) : List Bytes := path.splitOnP fun byte => byte == 47

def ofText (path : String) : Place :=
  (namesOf (Bytes.ofText path)).filter fun name => !name.isEmpty

def directories : List Place :=
  ["/", "/bin", "/boot", "/dev", "/dev/pts", "/dev/shm", "/etc", "/home", "/lib", "/lib64",
    "/media", "/mnt", "/opt", "/proc", "/proc/self", "/root", "/run", "/sbin", "/srv", "/sys",
    "/tmp", "/usr", "/usr/bin", "/usr/include", "/usr/lib", "/usr/local", "/usr/local/bin",
    "/usr/sbin", "/usr/share", "/usr/src", "/var", "/var/cache", "/var/lib", "/var/log",
    "/var/run", "/var/spool", "/var/tmp"].map ofText

def files : List Place :=
  ["/dev/full", "/dev/null", "/dev/ptmx", "/dev/random", "/dev/tty", "/dev/urandom", "/dev/zero",
    "/etc/fstab", "/etc/group", "/etc/hostname", "/etc/hosts", "/etc/passwd",
    "/etc/resolv.conf", "/etc/shadow", "/proc/cpuinfo", "/proc/meminfo", "/proc/uptime",
    "/proc/version"].map ofText

def occupant? (made : List Place) (place : Place) : Option Occupant :=
  if directories.contains place then some .directory
  else if files.contains place || made.contains place then some .file
  else none

/-- The place that a name leads to from a directory: a dot stays there, and two dots go back. -/
def step (place : Place) (name : Bytes) : Place :=
  if name = [] ∨ name = Bytes.ofText "." then place
  else if name = Bytes.ofText ".." then place.dropLast
  else place ++ [name]

def entered (made : List Place) (place : Place) : Except Errno Place :=
  match occupant? made place with
  | some .directory => .ok place
  | some .file => .error Errno.notDirectory
  | none => .error Errno.noEntry

def walk (made : List Place) : List Bytes → Place → Except Errno Place
  | [], place => .ok place
  | name :: rest, place =>
    match entered made place with
    | .ok place => walk made rest (place.step name)
    | .error errno => .error errno

def find (made : List Place) (path : Bytes) : Except Errno Place :=
  match walk made (namesOf path) [] with
  | .error errno => .error errno
  | .ok place => if (occupant? made place).isSome then .ok place else .error Errno.noEntry

/-- The place that a new file of a path would take. The last name is not walked, so it has to be a
plain one, and no slash may follow it. -/
def vacancy (made : List Place) (path : Bytes) : Except Errno Place :=
  let names := namesOf path
  match names.reverse.dropWhile List.isEmpty with
  | [] => .error Errno.addressInUse
  | last :: before =>
    match (walk made before.reverse []).bind (entered made) with
    | .error errno => .error errno
    | .ok parent =>
      if last = Bytes.ofText "." ∨ last = Bytes.ofText ".." ∨
          (occupant? made (parent ++ [last])).isSome then .error Errno.addressInUse
      else if names.getLast? = some [] then .error Errno.noEntry
      else .ok (parent ++ [last])

def path (place : Place) : Bytes := place.flatMap fun name => 47 :: name

end Place

end SocketLoop
