import SocketLoop.Bytes

/-! Internet addresses of version 4: a host of four octets and a port. The encoded form has sixteen
bytes, of which the last eight are zero. -/
namespace SocketLoop

structure V4 where
  first : UInt8
  second : UInt8
  third : UInt8
  fourth : UInt8
  port : UInt16
deriving DecidableEq, Inhabited

namespace V4

def localhost (port : UInt16) : V4 := ⟨127, 0, 0, 1, port⟩

def any (port : UInt16) : V4 := ⟨0, 0, 0, 0, port⟩

def withPort (address : V4) (port : UInt16) : V4 := { address with port }

def octets (address : V4) : Bytes :=
  [address.first, address.second, address.third, address.fourth]

def size : Nat := 16

/-- The encoded form: the family, the port, the octets and eight zero bytes. -/
def encode (address : V4) : Bytes :=
  [2, 0] ++ Bytes.ofWord address.port ++ address.octets ++ List.replicate 8 0

/-- The address in a buffer of which a number of bytes were filled. The family is not looked at. -/
def decode? (buffer : Bytes) (length : Nat) : Option V4 :=
  if length < size then none
  else some ⟨buffer.byteAt 4, buffer.byteAt 5, buffer.byteAt 6, buffer.byteAt 7, buffer.word 2⟩

def dotted (octets : Bytes) : String :=
  ".".intercalate (octets.map fun octet => toString octet.toNat)

def text (address : V4) : String :=
  dotted address.octets ++ ":" ++ toString address.port.toNat

def describe (address : V4) : String :=
  "SocketAddrV4 \x7b ip: " ++ address.octets.text ++ ", port: " ++
    toString address.port.toNat ++ " \x7d"

end V4

end SocketLoop
