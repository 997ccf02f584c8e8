import Mathlib.Data.List.TakeWhile
import SocketLoop.Address.Unix

/-! Names on the same host, encoded and read back. The encoded form does not tell whether a name is
abstract and where its path ends; its zero bytes do. So abstract names are read back as they are, and
of the paths those that are not empty and hold no zero byte. -/
namespace SocketLoop

namespace Bytes

/-- What is read past the end are zero bytes. -/
theorem window_eq (bytes : Bytes) (start count : Nat) :
    bytes.window start count = (padTo (bytes.drop start) count).take count := by
  refine List.ext_getElem ?_ fun position below _ => ?_
  · simp only [window, padTo, List.length_map, List.length_range, List.length_take,
      List.length_append, List.length_replicate]
    omega
  · simp only [window, padTo, byteAt, List.getElem_map, List.getElem_range, List.getElem_take,
      List.getElem_append, List.getElem_drop, List.getElem_replicate, List.getD_eq_getElem?_getD]
    split
    · rename_i inside
      have inside : start + position < bytes.length := by
        rw [List.length_drop] at inside
        omega
      rw [List.getElem?_eq_getElem inside, Option.getD_some]
    · rename_i beyond
      have beyond : bytes.length ≤ start + position := by
        rw [List.length_drop] at beyond
        omega
      rw [List.getElem?_eq_none beyond, Option.getD_none]

theorem length_padTo (bytes : Bytes) (length : Nat) (fits : bytes.length ≤ length) :
    (bytes.padTo length).length = length := by
  rw [padTo, List.length_append, List.length_replicate]
  omega

/-- Padding does not reach the part before the first zero byte. -/
theorem takeWhile_padTo (bytes : Bytes) (length : Nat) :
    (bytes.padTo length).takeWhile (· != 0) = bytes.takeWhile (· != 0) := by
  rw [padTo, List.takeWhile_append]
  split
  · rename_i whole
    have clear := (List.takeWhile_prefix (· != 0)).eq_of_length whole
    simp [clear]
  · rfl

end Bytes

namespace Unix

/-- The bytes that name an address, as they stand in the name field. -/
def named (address : Unix) : Bytes :=
  if address.isAbstract then 0 :: address.path else address.path

/-- How much of the name field counts. -/
def extent (address : Unix) : Nat :=
  if address.isAbstract then address.named.length else nameSize

/-- What the encoded form of an address is read as. A path that begins with a zero byte in its field,
as the empty path does, reads as an abstract name that fills the field, and another path is cut
before its first zero byte. -/
def seen (address : Unix) : Unix :=
  if address.isAbstract then address
  else if address.path.byteAt 0 = 0 then ⟨Bytes.padTo (address.path.drop 1) (nameSize - 1), true⟩
  else ⟨address.path.takeWhile (· != 0), false⟩

/-- No zero byte of the path is in the way. -/
def IsClear (address : Unix) : Prop :=
  address.isAbstract = true ∨ address.path ≠ [] ∧ 0 ∉ address.path

instance (address : Unix) : Decidable address.IsClear :=
  inferInstanceAs (Decidable (_ ∨ _))

theorem encode?_eq (address : Unix) : address.encode? =
    if nameSize ≤ address.path.length then none
    else some ([1, 0] ++ address.named.padTo nameSize, familySize + address.extent) := by
  have few : nameSize < address.path.length + 1 ↔ nameSize ≤ address.path.length := Nat.lt_succ_iff
  simp only [encode?, named, extent, few]
  cases address.isAbstract <;> simp [Nat.add_comm, Nat.add_left_comm]

theorem encode?_eq_none_iff (address : Unix) :
    address.encode? = none ↔ nameSize ≤ address.path.length := by
  rw [encode?_eq]
  split <;> simp_all

theorem named_fits (address : Unix) (fits : address.path.length < nameSize) :
    address.named.length ≤ nameSize := by
  rw [named]
  split
  · exact fits
  · exact Nat.le_of_lt fits

theorem extent_le (address : Unix) (fits : address.path.length < nameSize) :
    address.extent ≤ nameSize := by
  rw [extent]
  split
  · exact address.named_fits fits
  · exact Nat.le_refl _

/-- Only the part of the name field that counts is read. -/
theorem decode?_encoded (field : Bytes) (filled : field.length = nameSize) (count : Nat)
    (inside : count ≤ nameSize) :
    decode? ([1, 0] ++ field) (familySize + count) = some (ofField (field.take count)) := by
  have pads : Bytes.padTo field count = field := by
    rw [Bytes.padTo, Nat.sub_eq_zero_of_le (by omega), List.replicate_zero, List.append_nil]
  have front : ([1, 0] ++ field : Bytes).drop familySize = field := rfl
  rw [decode?, if_neg (by omega), Nat.add_sub_cancel_left, Nat.min_eq_left inside, Bytes.window_eq,
    front, pads]

/-- A padded path begins with a zero byte or ends before the first one. -/
theorem ofField_padTo (path : Bytes) (fits : path.length < nameSize) :
    ofField (path.padTo nameSize) = (⟨path, false⟩ : Unix).seen := by
  cases path with
  | nil => rfl
  | cons first rest =>
    have padded : Bytes.padTo (first :: rest) nameSize =
        first :: Bytes.padTo rest (nameSize - 1) := by
      simp [Bytes.padTo, Nat.sub_sub, Nat.add_comm]
    rw [padded]
    by_cases zero : first = 0
    · subst first
      rfl
    · have cut := Bytes.takeWhile_padTo (first :: rest) nameSize
      rw [padded] at cut
      simp [ofField, seen, Bytes.byteAt, zero, cut]

theorem ofField_named (address : Unix) (fits : address.path.length < nameSize) :
    ofField ((address.named.padTo nameSize).take address.extent) = address.seen := by
  obtain ⟨path, isAbstract⟩ := address
  cases isAbstract with
  | true =>
    have front : (Bytes.padTo (0 :: path) nameSize).take (0 :: path).length = 0 :: path :=
      List.take_left
    simp only [named, extent, seen, if_true, front]
    rfl
  | false =>
    have whole : (Bytes.padTo path nameSize).take nameSize = Bytes.padTo path nameSize :=
      List.take_of_length_le (Nat.le_of_eq (Bytes.length_padTo path nameSize (Nat.le_of_lt fits)))
    simp only [named, extent, Bool.false_eq_true, if_false, whole]
    exact ofField_padTo path fits

theorem seen_eq_self_iff (address : Unix) : address.seen = address ↔ address.IsClear := by
  obtain ⟨path, isAbstract⟩ := address
  cases isAbstract with
  | true => simp [seen, IsClear]
  | false =>
    cases path with
    | nil => simp [seen, IsClear, Bytes.byteAt]
    | cons first rest =>
      by_cases zero : first = 0
      · simp [seen, IsClear, Bytes.byteAt, zero]
      · simp [seen, IsClear, Bytes.byteAt, zero, List.takeWhile_eq_self_iff, Ne.symm zero]
        grind

/-- Exactly the names that are too long for their field are refused. Any other name has an encoded
form, which is read as the same name if that is abstract or a path that is not empty and holds no
zero byte, and as a different name otherwise. -/
theorem encoded_reads_as_seen (address : Unix) :
    (address.encode? = none ↔ nameSize ≤ address.path.length) ∧
    ∀ raw length, address.encode? = some (raw, length) →
      raw.length = familySize + nameSize ∧ length ≤ raw.length ∧
      decode? raw length = some address.seen ∧ (address.seen = address ↔ address.IsClear) := by
  refine ⟨address.encode?_eq_none_iff, ?_⟩
  intro raw length encoded
  rw [encode?_eq] at encoded
  obtain ⟨short, same⟩ := Option.ite_none_left_eq_some.mp encoded
  obtain ⟨rfl, rfl⟩ := Prod.mk.inj (Option.some.inj same)
  have fits : address.path.length < nameSize := Nat.lt_of_not_le short
  have filled := Bytes.length_padTo _ nameSize (address.named_fits fits)
  have within := address.extent_le fits
  refine ⟨?_, ?_, ?_, address.seen_eq_self_iff⟩
  · rw [List.length_append, filled]
    rfl
  · rw [List.length_append, filled]
    exact Nat.add_le_add_left within familySize
  · rw [decode?_encoded _ filled _ within, address.ofField_named fits]

/-- The empty path has an encoded form, which is read as an abstract name. -/
theorem encoded_reads_as_seen_empty :
    let address : Unix := { path := [] }
    ∃ raw length, address.encode? = some (raw, length) ∧
      decode? raw length = some ⟨List.replicate 107 0, true⟩ ∧ ¬ address.IsClear := by
  intro address
  refine ⟨_, _, rfl, ?_, by decide⟩
  exact (address.encoded_reads_as_seen.2 _ _ rfl).2.2.1

/-- A path that goes on after a zero byte is encoded, and read as a shorter one. -/
theorem path_with_zero_is_cut :
    let address : Unix := { path := [97, 0, 98] }
    ∃ raw length, address.encode? = some (raw, length) ∧
      decode? raw length = some { path := [97] } ∧ { path := [97] } ≠ address :=
  ⟨_, _, rfl, rfl, by decide⟩

end Unix

end SocketLoop
