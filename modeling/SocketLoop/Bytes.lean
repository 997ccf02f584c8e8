/-! Byte sequences and the whole numbers stored in them. Reading past the end of a sequence gives
zero bytes, as reading a zero-filled buffer does. -/
namespace SocketLoop

abbrev Bytes := List UInt8

namespace Bytes

def byteAt (bytes : Bytes) (position : Nat) : UInt8 := bytes.getD position 0

def window (bytes : Bytes) (start count : Nat) : Bytes :=
  (List.range count).map fun offset => bytes.byteAt (start + offset)

def padTo (bytes : Bytes) (length : Nat) : Bytes :=
  bytes ++ List.replicate (length - bytes.length) 0

def high (value : UInt16) : UInt8 := UInt8.ofNat (value.toNat / 256)

def low (value : UInt16) : UInt8 := UInt8.ofNat (value.toNat % 256)

def join (first second : UInt8) : UInt16 := UInt16.ofNat (first.toNat * 256 + second.toNat)

def ofWord (value : UInt16) : Bytes := [high value, low value]

def word (bytes : Bytes) (position : Nat) : UInt16 :=
  join (bytes.byteAt position) (bytes.byteAt (position + 1))

def ofCount (value : UInt32) : Bytes :=
  [UInt8.ofNat value.toNat, UInt8.ofNat (value.toNat / 256),
    UInt8.ofNat (value.toNat / 65536), UInt8.ofNat (value.toNat / 16777216)]

def gather (first second third fourth : UInt8) : UInt32 :=
  UInt32.ofNat (first.toNat + 256 * second.toNat + 65536 * third.toNat +
    16777216 * fourth.toNat)

/-- The number whose lowest byte stands at a position. -/
def count (bytes : Bytes) (position : Nat) : UInt32 :=
  gather (bytes.byteAt position) (bytes.byteAt (position + 1)) (bytes.byteAt (position + 2))
    (bytes.byteAt (position + 3))

def ofText (text : String) : Bytes := text.toList.flatMap String.utf8EncodeChar

def text (bytes : Bytes) : String :=
  "[" ++ ", ".intercalate (bytes.map fun byte => toString byte.toNat) ++ "]"

@[simp] theorem length_window (bytes : Bytes) (start count : Nat) :
    (bytes.window start count).length = count := by
  simp [window]

@[simp] theorem join_high_low (value : UInt16) : join (high value) (low value) = value := by
  have bound := value.toNat_lt
  apply UInt16.toNat.inj
  simp only [join, high, low, UInt8.toNat_ofNat', UInt16.toNat_ofNat']
  omega

@[simp] theorem high_join (first second : UInt8) : high (join first second) = first := by
  have boundFirst := first.toNat_lt
  have boundSecond := second.toNat_lt
  apply UInt8.toNat.inj
  simp only [join, high, UInt8.toNat_ofNat', UInt16.toNat_ofNat']
  omega

@[simp] theorem low_join (first second : UInt8) : low (join first second) = second := by
  have boundFirst := first.toNat_lt
  have boundSecond := second.toNat_lt
  apply UInt8.toNat.inj
  simp only [join, low, UInt8.toNat_ofNat', UInt16.toNat_ofNat']
  omega

@[simp] theorem gather_ofCount (value : UInt32) :
    gather (UInt8.ofNat value.toNat) (UInt8.ofNat (value.toNat / 256))
      (UInt8.ofNat (value.toNat / 65536)) (UInt8.ofNat (value.toNat / 16777216)) = value := by
  have bound := value.toNat_lt
  apply UInt32.toNat.inj
  simp only [gather, UInt8.toNat_ofNat', UInt32.toNat_ofNat']
  omega

@[simp] theorem ofCount_gather (first second third fourth : UInt8) :
    ofCount (gather first second third fourth) = [first, second, third, fourth] := by
  have boundFirst := first.toNat_lt
  have boundSecond := second.toNat_lt
  have boundThird := third.toNat_lt
  have boundFourth := fourth.toNat_lt
  simp only [ofCount, gather, UInt32.toNat_ofNat', List.cons.injEq, and_true]
  refine ⟨?_, ?_, ?_, ?_⟩ <;> apply UInt8.toNat.inj <;> simp only [UInt8.toNat_ofNat'] <;> omega

end Bytes

end SocketLoop
