import SocketLoop.Address
import SocketLoop.Proofs.Address.Unix

/-! Encoded addresses, read from any buffer and written again. What a buffer spells is said apart
from how it is read, with ports and octets in network order. Reading overlooks the family and the
padding, so these come out fixed when the address that was read is encoded. -/
namespace SocketLoop

namespace Bytes

theorem eq_word_iff (value : UInt16) (bytes : Bytes) (position : Nat) :
    value = bytes.word position ↔ value.toNat =
      256 * (bytes.byteAt position).toNat + (bytes.byteAt (position + 1)).toNat := by
  have boundFirst := (bytes.byteAt position).toNat_lt
  have boundSecond := (bytes.byteAt (position + 1)).toNat_lt
  rw [← UInt16.toNat_inj, word, join, UInt16.toNat_ofNat']
  omega

theorem eq_count_iff (value : UInt32) (bytes : Bytes) (position : Nat) :
    value = bytes.count position ↔ value.toNat = (bytes.byteAt position).toNat +
      256 * (bytes.byteAt (position + 1)).toNat + 65536 * (bytes.byteAt (position + 2)).toNat +
        16777216 * (bytes.byteAt (position + 3)).toNat := by
  have boundFirst := (bytes.byteAt position).toNat_lt
  have boundSecond := (bytes.byteAt (position + 1)).toNat_lt
  have boundThird := (bytes.byteAt (position + 2)).toNat_lt
  have boundFourth := (bytes.byteAt (position + 3)).toNat_lt
  rw [← UInt32.toNat_inj, count, gather, UInt32.toNat_ofNat']
  omega

theorem ofWord_word (bytes : Bytes) (position : Nat) :
    ofWord (bytes.word position) = bytes.window position 2 := by
  simp [ofWord, word, window, List.range_succ]

theorem ofCount_count (bytes : Bytes) (position : Nat) :
    ofCount (bytes.count position) = bytes.window position 4 := by
  simp [count, window, List.range_succ]

theorem window_add (bytes : Bytes) (start first second : Nat) :
    bytes.window start (first + second) =
      bytes.window start first ++ bytes.window (start + first) second := by
  simp [window, List.range_add, Nat.add_assoc]

/-- Bytes that were written are read where they stand. -/
theorem window_append (before middle after : Bytes) :
    (before ++ middle ++ after).window before.length middle.length = middle := by
  rw [window_eq, List.append_assoc, List.drop_left, padTo, List.append_assoc, List.take_left]

theorem count_append (front : Bytes) (value : UInt32) :
    (front ++ ofCount value).count front.length = value := by
  simpa [count, ofCount, byteAt, List.getD_eq_getElem?_getD] using gather_ofCount value

theorem words_eq_window (bytes : Bytes) (start count : Nat) :
    ((List.range count).map fun index => bytes.word (start + 2 * index)).flatMap ofWord =
      bytes.window start (2 * count) := by
  induction count with
  | zero => rfl
  | succ count ih =>
    rw [List.range_succ, List.map_append, List.flatMap_append, ih, Nat.mul_succ, window_add]
    simp [ofWord_word]

theorem length_flatMap_ofWord (words : List UInt16) :
    (words.flatMap ofWord).length = 2 * words.length := by
  induction words with
  | nil => rfl
  | cons word words ih =>
    rw [List.flatMap_cons, List.length_append, ih, List.length_cons, ofWord]
    exact Nat.add_comm 2 _

theorem flatMap_ofWord_injective : Function.Injective (List.flatMap ofWord) := by
  intro left right same
  induction left generalizing right with
  | nil => cases right <;> simp_all [ofWord]
  | cons word left ih =>
    cases right with
    | nil => simp [ofWord] at same
    | cons word' right =>
      simp only [List.flatMap_cons, ofWord, List.cons_append, List.nil_append,
        List.cons.injEq] at same
      obtain ⟨high, low, rest⟩ := same
      rw [ih rest, ← join_high_low word, high, low, join_high_low]

end Bytes

namespace V4

/-- What a buffer spells, whatever it has for a family and for padding. -/
structure StandsIn (address : V4) (buffer : Bytes) : Prop where
  port : address.port.toNat = 256 * (buffer.byteAt 2).toNat + (buffer.byteAt 3).toNat
  octets : address.octets = buffer.window 4 4

theorem decode?_eq_none_iff (buffer : Bytes) (length : Nat) :
    decode? buffer length = none ↔ length < size := by
  simp [decode?]

theorem decode?_eq_some_iff (buffer : Bytes) (length : Nat) (address : V4) :
    decode? buffer length = some address ↔ size ≤ length ∧ address.StandsIn buffer := by
  rw [decode?, Option.ite_none_left_eq_some, Nat.not_lt, Option.some.injEq]
  refine and_congr_right fun _ => ⟨?_, ?_⟩
  · rintro rfl
    exact ⟨(Bytes.eq_word_iff _ _ _).mp rfl, rfl⟩
  · rintro ⟨port, octets⟩
    obtain ⟨first, second, third, fourth, _⟩ := address
    have octets : [first, second, third, fourth] =
      [buffer.byteAt 4, buffer.byteAt 5, buffer.byteAt 6, buffer.byteAt 7] := octets
    obtain ⟨rfl, rfl, rfl, rfl⟩ := by simpa only [List.cons.injEq, and_true] using octets
    obtain rfl := (Bytes.eq_word_iff _ _ _).mpr port
    rfl

theorem length_encode (address : V4) : address.encode.length = size := rfl

theorem standsIn_encode (address : V4) : address.StandsIn address.encode where
  port := (Bytes.eq_word_iff _ address.encode 2).mp (Bytes.join_high_low address.port).symm
  octets := rfl

theorem StandsIn.encode_eq {address : V4} {buffer : Bytes} (stands : address.StandsIn buffer) :
    address.encode =
      [2, 0] ++ buffer.window 2 2 ++ buffer.window 4 4 ++ List.replicate 8 0 := by
  have word : address.port = buffer.word 2 := (Bytes.eq_word_iff _ _ _).mpr stands.port
  rw [encode, stands.octets, word, Bytes.ofWord_word]

end V4

namespace V6

/-- What a buffer spells, whatever it has for a family and for flow information. The scope has its
lowest byte in front. -/
structure StandsIn (address : V6) (buffer : Bytes) : Prop where
  port : address.port.toNat = 256 * (buffer.byteAt 2).toNat + (buffer.byteAt 3).toNat
  octets : address.octets = buffer.window 8 16
  scope : address.scope.toNat = (buffer.byteAt 24).toNat + 256 * (buffer.byteAt 25).toNat +
    65536 * (buffer.byteAt 26).toNat + 16777216 * (buffer.byteAt 27).toNat

theorem decode?_eq_none_iff (buffer : Bytes) (length : Nat) :
    decode? buffer length = none ↔ length < size := by
  simp [decode?]

theorem octets_groupsAt (buffer : Bytes) (start : Nat) :
    (groupsAt buffer start).flatMap Bytes.ofWord = buffer.window start 16 :=
  Bytes.words_eq_window buffer start 8

theorem decode?_eq_some_iff (buffer : Bytes) (length : Nat) (address : V6) :
    decode? buffer length = some address ↔ size ≤ length ∧ address.StandsIn buffer := by
  rw [decode?, Option.ite_none_left_eq_some, Nat.not_lt, Option.some.injEq]
  refine and_congr_right fun _ => ⟨?_, ?_⟩
  · rintro rfl
    exact ⟨(Bytes.eq_word_iff _ _ _).mp rfl, octets_groupsAt buffer 8,
      (Bytes.eq_count_iff _ _ _).mp rfl⟩
  · rintro ⟨port, octets, scope⟩
    obtain ⟨groups, _, _, _⟩ := address
    obtain rfl := Bytes.flatMap_ofWord_injective (octets.trans (octets_groupsAt buffer 8).symm)
    obtain rfl := (Bytes.eq_word_iff _ _ _).mpr port
    obtain rfl := (Bytes.eq_count_iff _ _ _).mpr scope
    rfl

theorem length_octets (address : V6) : address.octets.length = 16 := by
  rw [octets, Bytes.length_flatMap_ofWord, address.eight]

theorem length_encode (address : V6) : address.encode.length = size := by
  simp [encode, Bytes.ofWord, Bytes.ofCount, length_octets, size]

theorem standsIn_encode (address : V6) : address.StandsIn address.encode where
  port := (Bytes.eq_word_iff _ address.encode 2).mp (Bytes.join_high_low address.port).symm
  octets := by
    have read := Bytes.window_append ([10, 0] ++ Bytes.ofWord address.port ++ [0, 0, 0, 0])
      address.octets (Bytes.ofCount address.scope)
    rw [length_octets] at read
    exact read.symm
  scope := by
    have read := Bytes.count_append
      ([10, 0] ++ Bytes.ofWord address.port ++ [0, 0, 0, 0] ++ address.octets) address.scope
    rw [List.length_append, length_octets] at read
    exact (Bytes.eq_count_iff _ address.encode 24).mp read.symm

theorem StandsIn.encode_eq {address : V6} {buffer : Bytes} (stands : address.StandsIn buffer) :
    address.encode = [10, 0] ++ buffer.window 2 2 ++ List.replicate 4 0 ++ buffer.window 8 16 ++
      buffer.window 24 4 := by
  have word : address.port = buffer.word 2 := (Bytes.eq_word_iff _ _ _).mpr stands.port
  have count : address.scope = buffer.count 24 := (Bytes.eq_count_iff _ _ _).mpr stands.scope
  rw [encode, stands.octets, word, count, Bytes.ofWord_word, Bytes.ofCount_count]
  rfl

end V6

namespace Unix

/-- The name that a name field spells. A zero byte in front marks an abstract name, which goes on to
the end of the field; a path goes on to the next zero byte or, unended, to the end of the field. -/
inductive Spells : Bytes → Unix → Prop where
  | hidden (name : Bytes) : Spells (0 :: name) ⟨name, true⟩
  | ended (path rest : Bytes) (begun : path ≠ []) (clear : 0 ∉ path) :
      Spells (path ++ 0 :: rest) ⟨path, false⟩
  | unended (path : Bytes) (clear : 0 ∉ path) : Spells path ⟨path, false⟩

theorem ofField_path (field : Bytes) (plain : ∀ name, field ≠ 0 :: name) :
    ofField field = ⟨field.takeWhile (· != 0), false⟩ := by
  unfold ofField
  split
  · exact absurd rfl (plain _)
  · rfl

theorem takeWhile_of_clear (path rest : Bytes) (clear : 0 ∉ path) :
    (path ++ rest).takeWhile (· != 0) = path ++ rest.takeWhile (· != 0) :=
  List.takeWhile_append_of_pos fun _ inside => bne_iff_ne.mpr fun zero => clear (zero ▸ inside)

theorem Spells.ofField_eq {field : Bytes} {address : Unix} (spells : Spells field address) :
    ofField field = address := by
  cases spells with
  | hidden name => rfl
  | ended path rest begun clear =>
    have plain : ∀ name, path ++ 0 :: rest ≠ 0 :: name := by
      intro name same
      obtain ⟨first, path, rfl⟩ := List.exists_cons_of_ne_nil begun
      obtain rfl := (List.cons.inj same).1
      exact clear List.mem_cons_self
    rw [ofField_path _ plain, takeWhile_of_clear _ _ clear]
    simp
  | unended _ clear =>
    have plain : ∀ name, field ≠ 0 :: name := by
      rintro name rfl
      exact clear List.mem_cons_self
    have kept := takeWhile_of_clear field [] clear
    rw [List.append_nil] at kept
    rw [ofField_path _ plain, kept]
    simp

theorem spells_ofField (field : Bytes) : Spells field (ofField field) := by
  by_cases hides : ∃ name, field = 0 :: name
  · obtain ⟨name, rfl⟩ := hides
    exact .hidden name
  · have plain := not_exists.mp hides
    have clear : 0 ∉ field.takeWhile (· != 0) := fun inside => by
      simpa using List.mem_takeWhile_imp inside
    rw [ofField_path field plain]
    have parts := field.takeWhile_append_dropWhile (p := (· != 0))
    -- The path stops at the end of the field or at a zero byte.
    cases rest : field.dropWhile (· != 0) with
    | nil =>
      rw [rest, List.append_nil] at parts
      rw [parts] at clear ⊢
      exact .unended field clear
    | cons first rest' =>
      have zero : first = 0 := by
        have stops := List.head_dropWhile_not (· != 0) (l := field) (by simp [rest])
        simpa [rest] using stops
      subst zero
      rw [rest] at parts
      have begun : field.takeWhile (· != 0) ≠ [] := by
        intro empty
        rw [empty] at parts
        exact plain _ parts.symm
      have spells := Spells.ended _ rest' begun clear
      rwa [parts] at spells

theorem decode?_eq_none_iff (buffer : Bytes) (length : Nat) :
    decode? buffer length = none ↔ length < familySize := by
  simp [decode?]

theorem decode?_eq_some_iff (buffer : Bytes) (length : Nat) (address : Unix) :
    decode? buffer length = some address ↔ familySize ≤ length ∧
      Spells (buffer.window familySize (min (length - familySize) nameSize)) address := by
  rw [decode?, Option.ite_none_left_eq_some, Nat.not_lt, Option.some.injEq]
  refine and_congr_right fun _ => ⟨?_, Spells.ofField_eq⟩
  rintro rfl
  exact spells_ofField _

theorem clear_reads_back (address : Unix) (fits : address.path.length < nameSize)
    (clear : address.IsClear) :
    ∃ raw used, address.encode? = some (raw, used) ∧ decode? raw used = some address := by
  refine ⟨_, _, (address.encode?_eq.trans (if_neg (Nat.not_le_of_lt fits))), ?_⟩
  have filled := Bytes.length_padTo _ nameSize (address.named_fits fits)
  rw [decode?_encoded _ filled _ (address.extent_le fits), address.ofField_named fits,
    address.seen_eq_self_iff.mpr clear]

/-- Of the names that a field can spell, only a path that takes all of it has no encoded form: there
is no room for the zero byte that would end it. -/
theorem Spells.refused_or_read_back {field : Bytes} {address : Unix} (spells : Spells field address)
    (nonempty : field ≠ []) (fits : field.length ≤ nameSize) :
    (address.isAbstract = false ∧ address.path.length = nameSize ∧ 0 ∉ address.path ∧
      address.encode? = none) ∨
    ∃ raw used, address.encode? = some (raw, used) ∧ decode? raw used = some address := by
  cases spells with
  | hidden name => exact .inr (clear_reads_back _ fits (.inl rfl))
  | ended path rest begun clear =>
    have short : path.length < nameSize := by
      rw [List.length_append, List.length_cons] at fits
      omega
    exact .inr (clear_reads_back _ short (.inr ⟨begun, clear⟩))
  | unended _ clear =>
    rcases Nat.lt_or_eq_of_le fits with short | whole
    · exact .inr (clear_reads_back _ short (.inr ⟨nonempty, clear⟩))
    · exact .inl ⟨rfl, whole, clear, (encode?_eq_none_iff _).mpr whole.ge⟩

end Unix

namespace Address

/-- Reading refuses exactly what is too short for its family. Internet addresses survive being
encoded and read, and what was read from any buffer is encoded as the bytes that it was read from,
with the family set and the padding, or the flow information, zero. A name on the same host that was
read from at least one byte is read back from its own encoded form, unless it is a path that takes
the whole field, which has no encoded form. Lengths beyond the field are no exception. -/
theorem decoded_encodes_back (buffer : Bytes) (length : Nat) :
    ((V4.decode? buffer length = none ↔ length < 16) ∧
      (∀ address : V4, V4.decode? address.encode address.encode.length = some address) ∧
      ∀ address, V4.decode? buffer length = some address → address.StandsIn buffer ∧
        address.encode =
          [2, 0] ++ buffer.window 2 2 ++ buffer.window 4 4 ++ List.replicate 8 0) ∧
    ((V6.decode? buffer length = none ↔ length < 28) ∧
      (∀ address : V6, V6.decode? address.encode address.encode.length = some address) ∧
      ∀ address, V6.decode? buffer length = some address → address.StandsIn buffer ∧
        address.encode = [10, 0] ++ buffer.window 2 2 ++ List.replicate 4 0 ++
          buffer.window 8 16 ++ buffer.window 24 4) ∧
    (Unix.decode? buffer length = none ↔ length < 2) ∧
    ∀ address, Unix.decode? buffer length = some address →
      Unix.Spells (buffer.window 2 (min (length - 2) 108)) address ∧
      (3 ≤ length →
        (address.isAbstract = false ∧ address.path.length = 108 ∧ 0 ∉ address.path ∧
          address.encode? = none) ∨
        ∃ raw used, address.encode? = some (raw, used) ∧
          Unix.decode? raw used = some address) := by
  refine ⟨⟨V4.decode?_eq_none_iff _ _, fun address => ?_, fun address decoded => ?_⟩,
    ⟨V6.decode?_eq_none_iff _ _, fun address => ?_, fun address decoded => ?_⟩,
    Unix.decode?_eq_none_iff _ _, fun address decoded => ?_⟩
  · exact (V4.decode?_eq_some_iff _ _ _).mpr ⟨address.length_encode.ge, address.standsIn_encode⟩
  · have stands := ((V4.decode?_eq_some_iff _ _ _).mp decoded).2
    exact ⟨stands, stands.encode_eq⟩
  · exact (V6.decode?_eq_some_iff _ _ _).mpr ⟨address.length_encode.ge, address.standsIn_encode⟩
  · have stands := ((V6.decode?_eq_some_iff _ _ _).mp decoded).2
    exact ⟨stands, stands.encode_eq⟩
  · have spells := ((Unix.decode?_eq_some_iff _ _ _).mp decoded).2
    refine ⟨spells, fun reaches => spells.refused_or_read_back ?_ ?_⟩
    · rw [← List.length_pos_iff, Bytes.length_window]
      simp only [Unix.familySize, Unix.nameSize]
      omega
    · rw [Bytes.length_window]
      exact Nat.min_le_right _ _

/-- A field without a zero byte, read with a length far beyond it. -/
theorem decoded_encodes_back_unended :
    let buffer : Bytes := [1, 0] ++ List.replicate 108 47
    (∃ address, V4.decode? buffer 300 = some address ∧
      address.encode = [2, 0, 47, 47, 47, 47, 47, 47] ++ List.replicate 8 0) ∧
    (∃ address, V6.decode? buffer 300 = some address ∧
      address.encode = [10, 0, 47, 47, 0, 0, 0, 0] ++ List.replicate 20 47) ∧
    Unix.decode? buffer 300 = some ⟨List.replicate 108 47, false⟩ ∧ 3 ≤ 300 ∧
      (⟨List.replicate 108 47, false⟩ : Unix).encode? = none := by
  intro buffer
  obtain ⟨⟨_, _, v4⟩, ⟨_, _, v6⟩, _, unix⟩ := decoded_encodes_back buffer 300
  have whole : Unix.decode? buffer 300 = some ⟨List.replicate 108 47, false⟩ := by decide +kernel
  refine ⟨⟨_, rfl, (v4 _ rfl).2⟩, ⟨_, rfl, (v6 _ rfl).2⟩, whole, by decide, ?_⟩
  rcases (unix _ whole).2 (by decide) with ⟨_, _, _, refused⟩ | ⟨_, _, encoded, _⟩
  · exact refused
  · exact absurd encoded (by simp [Unix.encode?, Unix.nameSize])

end Address

end SocketLoop
