import SocketLoop.Address.V4

/-! Internet addresses of version 6: eight groups of sixteen bits, a port and a scope. The text is
the canonical one: groups in lower-case hexadecimal without leading zeros, the leftmost longest run
of two or more zero groups left out, and dotted octets for a mapped address of version 4 alone. -/
namespace SocketLoop

structure V6 where
  groups : List UInt16
  port : UInt16
  scope : UInt32 := 0
  eight : groups.length = 8 := by rfl
deriving DecidableEq

namespace V6

def localhost (port : UInt16) : V6 :=
  { groups := [0, 0, 0, 0, 0, 0, 0, 1], port }

def groupsAt (bytes : Bytes) (start : Nat) : List UInt16 :=
  (List.range 8).map fun index => bytes.word (start + 2 * index)

theorem length_groupsAt (bytes : Bytes) (start : Nat) : (groupsAt bytes start).length = 8 := by
  simp [groupsAt]

def ofOctets (octets : Bytes) (port : UInt16) (scope : UInt32) : V6 :=
  ⟨groupsAt octets 0, port, scope, length_groupsAt octets 0⟩

def octets (address : V6) : Bytes := address.groups.flatMap Bytes.ofWord

def size : Nat := 28

/-- The encoded form: the family, the port, four zero bytes, the octets and the scope. -/
def encode (address : V6) : Bytes :=
  [10, 0] ++ Bytes.ofWord address.port ++ [0, 0, 0, 0] ++ address.octets ++
    Bytes.ofCount address.scope

/-- The address in a buffer of which a number of bytes were filled. The family is not looked at. -/
def decode? (buffer : Bytes) (length : Nat) : Option V6 :=
  if length < size then none
  else some ⟨groupsAt buffer 8, buffer.word 2, buffer.count 24, length_groupsAt buffer 8⟩

def groupText (group : UInt16) : String := String.ofList (Nat.toDigits 16 group.toNat)

def groupsText (groups : List UInt16) : String := ":".intercalate (groups.map groupText)

def longestZeros : List UInt16 → Nat × Nat
  | [] => (0, 0)
  | group :: rest =>
    let here := ((group :: rest).takeWhile (· == 0)).length
    let later := longestZeros rest
    if later.2 ≤ here then (0, here) else (later.1 + 1, later.2)

def isMapped (groups : List UInt16) : Bool := groups.take 6 == [0, 0, 0, 0, 0, 0xffff]

def hostText (groups : List UInt16) : String :=
  if isMapped groups then "::ffff:" ++ V4.dotted ((groups.drop 6).flatMap Bytes.ofWord)
  else
    let run := longestZeros groups
    if run.2 < 2 then groupsText groups
    else groupsText (groups.take run.1) ++ "::" ++ groupsText (groups.drop (run.1 + run.2))

/-- The text of an address. A scope of zero is not written. -/
def text (address : V6) : String :=
  let scope := if address.scope = 0 then "" else "%" ++ toString address.scope.toNat
  "[" ++ hostText address.groups ++ scope ++ "]:" ++ toString address.port.toNat

def describe (address : V6) : String :=
  "SocketAddrV6 \x7b ip: " ++ address.octets.text ++ ", port: " ++
    toString address.port.toNat ++ ", scope_id: " ++ toString address.scope.toNat ++ " \x7d"

end V6

end SocketLoop
