import SocketLoop.Address.V4
import SocketLoop.Address.V6
import SocketLoop.Address.Unix

/-! The families of sockets and an address of any of them. -/
namespace SocketLoop

inductive Family where
  | v4 | v6 | unix
deriving DecidableEq, Inhabited

namespace Family

def number : Family → Nat
  | v4 => 2
  | v6 => 10
  | unix => 1

def isInternet : Family → Bool
  | unix => false
  | _ => true

end Family

def streamNumber : Nat := 1

inductive Address where
  | v4 (address : V4)
  | v6 (address : V6)
  | unix (address : Unix)
deriving DecidableEq

namespace Address

def family : Address → Family
  | v4 _ => .v4
  | v6 _ => .v6
  | unix _ => .unix

def decode? (family : Family) (buffer : Bytes) (length : Nat) : Option Address :=
  match family with
  | .v4 => (V4.decode? buffer length).map v4
  | .v6 => (V6.decode? buffer length).map v6
  | .unix => (Unix.decode? buffer length).map unix

def describe : Address → String
  | v4 address => address.describe
  | v6 address => address.describe
  | unix address => address.describe

end Address

end SocketLoop
