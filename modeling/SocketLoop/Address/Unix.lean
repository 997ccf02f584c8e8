import SocketLoop.Bytes

/-! Names of sockets on the same host: a path, or an abstract name that stands after a zero byte.
The encoded form has room for 108 bytes of name after the two of the family. -/
namespace SocketLoop

structure Unix where
  path : Bytes
  isAbstract : Bool := false
deriving DecidableEq, Inhabited

namespace Unix

def familySize : Nat := 2

def nameSize : Nat := 108

/-- The encoded form and the number of bytes in use, unless the name does not fit. A path counts as
the whole form, an abstract name only as far as it reaches. -/
def encode? (address : Unix) : Option (Bytes × Nat) :=
  if nameSize < address.path.length + 1 then none
  else
    let name : Bytes := if address.isAbstract then 0 :: address.path else address.path
    let length := if address.isAbstract then familySize + 1 + address.path.length
      else familySize + nameSize
    some ([1, 0] ++ name.padTo nameSize, length)

/-- The name in the bytes of the name field. A zero byte in front marks an abstract name; a path
ends before its first zero byte. -/
def ofField : Bytes → Unix
  | 0 :: name => ⟨name, true⟩
  | name => ⟨name.takeWhile (· != 0), false⟩

def decode? (buffer : Bytes) (length : Nat) : Option Unix :=
  if length < familySize then none
  else some (ofField (buffer.window familySize (min (length - familySize) nameSize)))

def describe (address : Unix) : String :=
  "UnixAddr \x7b path: " ++ address.path.text ++ ", is_abstract: " ++
    (if address.isAbstract then "true" else "false") ++ " \x7d"

end Unix

end SocketLoop
