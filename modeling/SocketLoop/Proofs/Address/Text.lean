import Mathlib.Data.List.Basic
import Mathlib.Data.List.TakeWhile
import SocketLoop.Address

/-! Texts of addresses, read back. A reader splits a text at its marks, none of which is a digit,
takes the parts for numbers, and fills in the groups that the text leaves out. What it makes of the
text of an address is that address, so that no two addresses share a text. -/
namespace SocketLoop

namespace Reading

def marks : List Char := [':', '.', '%', '[', ']']

def number (digits : List Char) : Nat := Nat.ofDigitChars 10 digits 0

def hexDigit (digit : Char) : Nat :=
  if digit.isDigit then digit.toNat - '0'.toNat else digit.toNat - 'a'.toNat + 10

def hexNumber (digits : List Char) : Nat :=
  digits.foldl (fun high digit => 16 * high + hexDigit digit) 0

theorem number_toDigits (value : Nat) : number (Nat.toDigits 10 value) = value :=
  Nat.ofDigitChars_ten_toDigits

theorem hexDigit_digitChar : ∀ value < 16, hexDigit (Nat.digitChar value) = value := by
  decide

theorem hexNumber_toDigits (value : Nat) : hexNumber (Nat.toDigits 16 value) = value := by
  induction value using Nat.strongRecOn with
  | _ value ih =>
    rw [Nat.toDigits_eq_if (by decide)]
    split
    · rename_i small
      simp [hexNumber, hexDigit_digitChar value small]
    · rename_i large
      have high := ih (value / 16) (Nat.div_lt_self (by omega) (by decide))
      have low := hexDigit_digitChar (value % 16) (Nat.mod_lt _ (by decide))
      rw [hexNumber] at high
      rw [hexNumber, List.foldl_append, high]
      simp only [List.foldl_cons, List.foldl_nil, low]
      exact Nat.div_add_mod value 16

theorem digitChar_ne_mark {mark : Char} (special : mark ∈ marks) (digit : Nat) :
    Nat.digitChar digit ≠ mark := by
  refine Nat.digitChar_ne mark ?_
  simp only [marks, List.mem_cons, List.not_mem_nil, or_false] at special
  rcases special with rfl | rfl | rfl | rfl | rfl <;> rfl

theorem mark_notMem_toDigits {mark : Char} (special : mark ∈ marks) (base value : Nat)
    (wide : 1 < base) : mark ∉ Nat.toDigits base value := by
  induction value using Nat.strongRecOn with
  | _ value ih =>
    rw [Nat.toDigits_eq_if wide]
    split
    · exact List.mem_singleton.not.mpr (digitChar_ne_mark special value).symm
    · rename_i large
      have below := ih (value / base) (Nat.div_lt_self (by omega) wide)
      rw [List.mem_append, List.mem_singleton, not_or]
      exact ⟨below, (digitChar_ne_mark special _).symm⟩

theorem mark_notMem_decimal {mark : Char} (special : mark ∈ marks) (value : Nat) :
    mark ∉ Nat.toDigits 10 value :=
  mark_notMem_toDigits special 10 value (by decide)

theorem notMem_intercalate {mark separator : Char} {parts : List (List Char)}
    (apart : mark ≠ separator) (clear : ∀ part ∈ parts, mark ∉ part) :
    mark ∉ [separator].intercalate parts := by
  induction parts with
  | nil => simp
  | cons part parts ih =>
    have rest := ih fun other inside => clear other (List.mem_cons_of_mem part inside)
    cases parts with
    | nil => simpa using clear
    | cons next parts =>
      rw [List.intercalate_cons_cons]
      simp only [List.mem_append, List.mem_singleton, not_or]
      exact ⟨⟨clear part List.mem_cons_self, apart⟩, rest⟩

theorem passes_of_clear {text : List Char} {mark : Char} (clear : mark ∉ text) :
    ∀ other ∈ text, (other != mark) = true := fun _ inside =>
  bne_iff_ne.mpr fun same => clear (same ▸ inside)

/-- What stands before the first such mark, and what from there on. -/
theorem span_at_mark (front back : List Char) (mark : Char) (clear : mark ∉ front) :
    (front ++ mark :: back).takeWhile (· != mark) = front ∧
    (front ++ mark :: back).dropWhile (· != mark) = mark :: back := by
  constructor
  · rw [List.takeWhile_append_of_pos (passes_of_clear clear)]
    simp
  · rw [List.dropWhile_append_of_pos (passes_of_clear clear)]
    simp

theorem span_without_mark (text : List Char) (mark : Char) (clear : mark ∉ text) :
    text.takeWhile (· != mark) = text ∧ text.dropWhile (· != mark) = [] :=
  ⟨List.takeWhile_eq_self_iff.mpr (passes_of_clear clear),
    List.dropWhile_eq_nil_iff.mpr (passes_of_clear clear)⟩

end Reading

namespace V4

open Reading

/-- The numbers of a text, parted by colons and then by points. -/
def numbersIn (text : List Char) : List (List Nat) :=
  (text.splitOn ':').map fun part => (part.splitOn '.').map number

theorem toList_dotted (octets : Bytes) : (dotted octets).toList =
    ['.'].intercalate (octets.map fun octet => Nat.toDigits 10 octet.toNat) := by
  simp [dotted, String.toList_intercalate, Function.comp_def]

theorem splitOn_dotted (octets : Bytes) (nonempty : octets ≠ []) :
    (dotted octets).toList.splitOn '.' =
      octets.map fun octet => Nat.toDigits 10 octet.toNat := by
  rw [toList_dotted]
  refine List.splitOn_intercalate '.' ?_ (by simpa using nonempty)
  simp [mark_notMem_decimal (by decide : '.' ∈ marks)]

theorem mark_notMem_dotted {mark : Char} (special : mark ∈ marks) (other : mark ≠ '.')
    (octets : Bytes) : mark ∉ (dotted octets).toList := by
  rw [toList_dotted]
  refine notMem_intercalate other ?_
  simp [mark_notMem_decimal special]

theorem toList_text (address : V4) : address.text.toList =
    (dotted address.octets).toList ++ ':' :: Nat.toDigits 10 address.port.toNat := by
  simp [text]

theorem numbersIn_text (address : V4) : numbersIn address.text.toList =
    [address.octets.map UInt8.toNat, [address.port.toNat]] := by
  have host := splitOn_dotted address.octets (by simp [octets])
  have port : (Nat.toDigits 10 address.port.toNat).splitOn '.' =
      [Nat.toDigits 10 address.port.toNat] :=
    List.splitOn_eq_singleton (mark_notMem_decimal (by decide) _)
  have parts : address.text.toList.splitOn ':' =
      [(dotted address.octets).toList, Nat.toDigits 10 address.port.toNat] := by
    rw [toList_text, List.splitOn_append_cons_self_of_not_mem
      (mark_notMem_dotted (by decide) (by decide) _),
      List.splitOn_eq_singleton (mark_notMem_decimal (by decide) _)]
  simp [numbersIn, parts, host, port, number_toDigits, Function.comp_def]

theorem text_injective : Function.Injective text := by
  intro left right same
  have numbers := congrArg (fun text : String => numbersIn text.toList) same
  simp only [numbersIn_text, octets, List.map_cons, List.map_nil, List.cons.injEq, and_true,
    UInt8.toNat_inj, UInt16.toNat_inj] at numbers
  obtain ⟨⟨first, second, third, fourth⟩, port⟩ := numbers
  cases left
  cases right
  simp_all

theorem bracket_notMem_text (address : V4) : '[' ∉ address.text.toList := by
  rw [toList_text]
  simp only [List.mem_append, List.mem_cons, not_or]
  exact ⟨mark_notMem_dotted (by decide) (by decide) _, by decide,
    mark_notMem_decimal (by decide) _⟩

end V4

namespace V6

open Reading

def digits (group : UInt16) : List Char := Nat.toDigits 16 group.toNat

def pairs : Bytes → List UInt16
  | first :: second :: rest => Bytes.join first second :: pairs rest
  | _ => []

/-- The groups in what stands between two colons: none, one in hexadecimal, or two in octets. -/
def groupsOf (field : List Char) : List UInt16 :=
  if field = [] then []
  else if '.' ∈ field then pairs ((field.splitOn '.').map fun octet => UInt8.ofNat (number octet))
  else [UInt16.ofNat (hexNumber field)]

/-- The groups of a host, with zeros for what is left out where nothing stands between colons. -/
def groupsIn (host : List Char) : List UInt16 :=
  let fields := host.splitOn ':'
  let before := (fields.takeWhile fun field => !field.isEmpty).flatMap groupsOf
  let after := (fields.dropWhile fun field => !field.isEmpty).flatMap groupsOf
  before ++ List.replicate (8 - before.length - after.length) 0 ++ after

def bracketed (text : List Char) : List Char := (text.takeWhile (· != ']')).drop 1

def scopeIn (text : List Char) : Nat := number (((bracketed text).dropWhile (· != '%')).drop 1)

def portIn (text : List Char) : Nat := number ((text.dropWhile (· != ']')).drop 2)

/-- Groups, port and scope of a text. -/
def partsIn (text : List Char) : List UInt16 × Nat × Nat :=
  (groupsIn ((bracketed text).takeWhile (· != '%')), portIn text, scopeIn text)

theorem digits_ne_nil (group : UInt16) : digits group ≠ [] := Nat.toDigits_ne_nil

theorem mark_notMem_digits {mark : Char} (special : mark ∈ marks) (group : UInt16) :
    mark ∉ digits group :=
  mark_notMem_toDigits special 16 _ (by decide)

theorem pairs_flatMap_ofWord (words : List UInt16) :
    pairs (words.flatMap Bytes.ofWord) = words := by
  induction words with
  | nil => rfl
  | cons word words ih => simp [Bytes.ofWord, pairs, ih]

theorem groupsOf_digits (group : UInt16) : groupsOf (digits group) = [group] := by
  rw [groupsOf, if_neg (digits_ne_nil group), if_neg (mark_notMem_digits (by decide) group), digits,
    hexNumber_toDigits, UInt16.ofNat_toNat]

theorem groupsOf_dotted (first second : UInt16) :
    groupsOf (V4.dotted ([first, second].flatMap Bytes.ofWord)).toList = [first, second] := by
  have parts := V4.splitOn_dotted ([first, second].flatMap Bytes.ofWord) (by simp [Bytes.ofWord])
  have point : '.' ∈ (V4.dotted ([first, second].flatMap Bytes.ofWord)).toList := by
    simp [V4.toList_dotted, Bytes.ofWord]
  rw [groupsOf, if_neg (List.ne_nil_of_mem point), if_pos point, parts, List.map_map]
  have octets : ((fun octet => UInt8.ofNat (number octet)) ∘ fun octet : UInt8 =>
      Nat.toDigits 10 octet.toNat) = id := by
    funext octet
    simp [number_toDigits]
  rw [octets, List.map_id, pairs_flatMap_ofWord]

theorem toList_groupsText (groups : List UInt16) :
    (groupsText groups).toList = [':'].intercalate (groups.map digits) := by
  have same : String.toList ∘ groupText = digits := by
    funext group
    simp [groupText, digits]
  simp [groupsText, String.toList_intercalate, same]

theorem splitOn_groupsText (groups : List UInt16) (nonempty : groups ≠ []) :
    (groupsText groups).toList.splitOn ':' = groups.map digits := by
  rw [toList_groupsText]
  refine List.splitOn_intercalate ':' ?_ (by simpa using nonempty)
  simp [mark_notMem_digits (by decide : ':' ∈ marks)]

theorem flatMap_groupsOf_digits (groups : List UInt16) :
    (groups.map digits).flatMap groupsOf = groups := by
  simp [List.flatMap_map, groupsOf_digits]

theorem flatMap_groupsOf_groupsText (groups : List UInt16) :
    ((groupsText groups).toList.splitOn ':').flatMap groupsOf = groups := by
  cases groups with
  | nil => rfl
  | cons group groups =>
    rw [splitOn_groupsText _ (by simp), flatMap_groupsOf_digits]

theorem takeWhile_digits_append (groups : List UInt16) (rest : List (List Char)) :
    ((groups.map digits ++ rest).takeWhile fun field => !field.isEmpty) =
      groups.map digits ++ rest.takeWhile fun field => !field.isEmpty := by
  refine List.takeWhile_append_of_pos fun field member => ?_
  obtain ⟨group, _, rfl⟩ := List.mem_map.mp member
  simp [digits_ne_nil]

theorem dropWhile_digits_append (groups : List UInt16) (rest : List (List Char)) :
    ((groups.map digits ++ rest).dropWhile fun field => !field.isEmpty) =
      rest.dropWhile fun field => !field.isEmpty := by
  refine List.dropWhile_append_of_pos fun field member => ?_
  obtain ⟨group, _, rfl⟩ := List.mem_map.mp member
  simp [digits_ne_nil]

theorem groupsIn_groupsText (groups : List UInt16) (eight : groups.length = 8) :
    groupsIn (groupsText groups).toList = groups := by
  have nonempty : groups ≠ [] := by
    rintro rfl
    contradiction
  have before := takeWhile_digits_append groups []
  have after := dropWhile_digits_append groups []
  rw [List.append_nil] at before after
  simp only [groupsIn, splitOn_groupsText groups nonempty, before, after]
  simp [flatMap_groupsOf_digits, eight]

/-- Two colons stand for as many zeros as the groups on both sides leave open. -/
theorem groupsIn_gap (left right : List UInt16) (tail : List Char)
    (reads : (tail.splitOn ':').flatMap groupsOf = right) :
    groupsIn ((groupsText left).toList ++ ':' :: ':' :: tail) =
      left ++ List.replicate (8 - left.length - right.length) 0 ++ right := by
  have fields : ∃ rest, rest.flatMap groupsOf = right ∧
      ((groupsText left).toList ++ ':' :: ':' :: tail).splitOn ':' =
        left.map digits ++ [] :: rest := by
    have gap : (':' :: tail).splitOn ':' = [] :: tail.splitOn ':' :=
      List.splitOn_append_cons_self [] tail
    rw [List.splitOn_append_cons_self, gap]
    -- With no group in front, the text itself begins with an empty field.
    cases left with
    | nil => exact ⟨[] :: tail.splitOn ':', reads, rfl⟩
    | cons group left => exact ⟨tail.splitOn ':', reads, by rw [splitOn_groupsText _ (by simp)]⟩
  obtain ⟨rest, reads, fields⟩ := fields
  simp only [groupsIn, fields, takeWhile_digits_append, dropWhile_digits_append]
  simp [flatMap_groupsOf_digits, groupsOf, reads]

theorem zeros_in_front (groups : List UInt16) :
    List.replicate (groups.takeWhile (· == 0)).length 0 ++
      groups.drop (groups.takeWhile (· == 0)).length = groups := by
  have zeros : groups.takeWhile (· == 0) =
      List.replicate (groups.takeWhile (· == 0)).length 0 :=
    List.eq_replicate_of_mem fun _ member => by simpa using List.mem_takeWhile_imp member
  rw [← zeros]
  exact List.prefix_iff_eq_append.mp (List.takeWhile_prefix _)

/-- The run that is left out stands where it is said to stand, and has zeros only. -/
theorem longestZeros_splits (groups : List UInt16) :
    groups.take (longestZeros groups).1 ++ List.replicate (longestZeros groups).2 0 ++
      groups.drop ((longestZeros groups).1 + (longestZeros groups).2) = groups := by
  induction groups with
  | nil => rfl
  | cons group rest ih =>
    simp only [longestZeros]
    split
    · rw [List.take_zero, List.nil_append, Nat.zero_add]
      exact zeros_in_front (group :: rest)
    · rw [Nat.add_right_comm, List.take_succ_cons, List.drop_succ_cons, List.cons_append,
        List.cons_append, ih]

theorem zeros_reach (groups : List UInt16) (count : Nat)
    (zeros : groups.take count = List.replicate count 0) :
    count ≤ (groups.takeWhile (· == 0)).length := by
  rw [← groups.take_append_drop count, zeros,
    List.takeWhile_append_of_pos (by simp [List.mem_replicate]), List.length_append,
    List.length_replicate]
  exact Nat.le_add_right _ _

/-- No run of zeros is longer than the one that is left out, and none as long stands before it. -/
theorem longestZeros_longest (groups : List UInt16) (start count : Nat)
    (zeros : (groups.drop start).take count = List.replicate count 0) :
    count ≤ (longestZeros groups).2 ∧
      (count = (longestZeros groups).2 → 0 < count → (longestZeros groups).1 ≤ start) := by
  induction groups generalizing start with
  | nil =>
    have empty : 0 = count := by simpa using congrArg List.length zeros
    subst empty
    simp
  | cons group rest ih =>
    simp only [longestZeros]
    cases start with
    | zero =>
      have reach := zeros_reach (group :: rest) count zeros
      split <;> simp only <;> omega
    | succ start =>
      have later := ih start zeros
      split <;> simp only <;> omega

theorem isMapped_splits (groups : List UInt16) (eight : groups.length = 8)
    (mapped : isMapped groups = true) :
    ∃ first second, groups = [0, 0, 0, 0, 0, 0xffff, first, second] := by
  have front : groups.take 6 = [0, 0, 0, 0, 0, 0xffff] := by simpa [isMapped] using mapped
  have two : (groups.drop 6).length = 2 := by rw [List.length_drop, eight]
  obtain ⟨first, second, back⟩ := List.length_eq_two.mp two
  refine ⟨first, second, ?_⟩
  rw [← groups.take_append_drop 6, front, back]
  rfl

theorem flatMap_groupsOf_mapped (first second : UInt16) :
    ((digits 0xffff ++ ':' :: (V4.dotted ([first, second].flatMap Bytes.ofWord)).toList).splitOn
      ':').flatMap groupsOf = [0xffff, first, second] := by
  have clear := V4.mark_notMem_dotted (by decide : ':' ∈ marks) (by decide)
    ([first, second].flatMap Bytes.ofWord)
  rw [List.splitOn_append_cons_self_of_not_mem (mark_notMem_digits (by decide) _),
    List.splitOn_eq_singleton clear, List.flatMap_cons, List.flatMap_singleton, groupsOf_digits,
    groupsOf_dotted]
  rfl

theorem groupsIn_hostText (groups : List UInt16) (eight : groups.length = 8) :
    groupsIn (hostText groups).toList = groups := by
  rw [hostText]
  split
  · rename_i mapped
    obtain ⟨first, second, rfl⟩ := isMapped_splits groups eight mapped
    have mark : digits 0xffff = ['f', 'f', 'f', 'f'] := by decide
    have read := groupsIn_gap [] _ _ (flatMap_groupsOf_mapped first second)
    rw [mark] at read
    simpa [groupsText] using read
  · dsimp only
    split
    · exact groupsIn_groupsText groups eight
    · have whole := longestZeros_splits groups
      generalize longestZeros groups = run at whole ⊢
      have count :
          8 - (groups.take run.1).length - (groups.drop (run.1 + run.2)).length = run.2 := by
        have lengths := congrArg List.length whole
        simp only [List.length_append, List.length_replicate, eight] at lengths
        omega
      have read := groupsIn_gap (groups.take run.1) _ _
        (flatMap_groupsOf_groupsText (groups.drop (run.1 + run.2)))
      rw [count, whole] at read
      simpa using read

theorem mark_notMem_groupsText {mark : Char} (special : mark ∈ marks) (other : mark ≠ ':')
    (groups : List UInt16) : mark ∉ (groupsText groups).toList := by
  rw [toList_groupsText]
  refine notMem_intercalate other ?_
  simp [mark_notMem_digits special]

theorem mark_notMem_hostText {mark : Char} (special : mark ∈ marks) (noColon : mark ≠ ':')
    (noPoint : mark ≠ '.') (groups : List UInt16) : mark ∉ (hostText groups).toList := by
  have noDigit : mark ≠ 'f' := (digitChar_ne_mark special 15).symm
  rw [hostText]
  split
  · have dotted := V4.mark_notMem_dotted special noPoint ((groups.drop 6).flatMap Bytes.ofWord)
    simp [noColon, noDigit, dotted]
  · dsimp only
    split
    · exact mark_notMem_groupsText special noColon groups
    · simp [noColon, mark_notMem_groupsText special noColon]

/-- How a scope is written behind a host. -/
def scopeText (scope : UInt32) : List Char :=
  if scope = 0 then [] else '%' :: Nat.toDigits 10 scope.toNat

theorem toList_text (address : V6) : address.text.toList =
    ('[' :: ((hostText address.groups).toList ++ scopeText address.scope)) ++
      ']' :: ':' :: Nat.toDigits 10 address.port.toNat := by
  by_cases zero : address.scope = 0 <;> simp [text, scopeText, zero]

theorem mark_notMem_scopeText {mark : Char} (special : mark ∈ marks) (other : mark ≠ '%')
    (scope : UInt32) : mark ∉ scopeText scope := by
  rw [scopeText]
  split
  · exact List.not_mem_nil
  · simp [other, mark_notMem_decimal special]

theorem bracket_notMem_bracketed (address : V6) :
    ']' ∉ '[' :: ((hostText address.groups).toList ++ scopeText address.scope) := by
  have host := mark_notMem_hostText (by decide : ']' ∈ marks) (by decide) (by decide)
    address.groups
  have scope := mark_notMem_scopeText (by decide : ']' ∈ marks) (by decide) address.scope
  simp [host, scope]

theorem bracketed_text (address : V6) :
    bracketed address.text.toList =
      (hostText address.groups).toList ++ scopeText address.scope := by
  rw [bracketed, toList_text, (span_at_mark _ _ ']' address.bracket_notMem_bracketed).1]
  rfl

theorem portIn_text (address : V6) : portIn address.text.toList = address.port.toNat := by
  rw [portIn, toList_text, (span_at_mark _ _ ']' address.bracket_notMem_bracketed).2]
  exact number_toDigits _

/-- A scope stands behind a percent sign, which no host has in it. -/
theorem span_of_scopeText (groups : List UInt16) (scope : UInt32) :
    ((hostText groups).toList ++ scopeText scope).takeWhile (· != '%') =
      (hostText groups).toList ∧
    number ((((hostText groups).toList ++ scopeText scope).dropWhile (· != '%')).drop 1) =
      scope.toNat := by
  have clear := mark_notMem_hostText (by decide : '%' ∈ marks) (by decide) (by decide) groups
  rw [scopeText]
  split
  · rename_i zero
    obtain ⟨host, rest⟩ := span_without_mark _ '%' clear
    rw [List.append_nil, host, rest, zero]
    exact ⟨rfl, rfl⟩
  · obtain ⟨host, rest⟩ := span_at_mark _ (Nat.toDigits 10 scope.toNat) '%' clear
    rw [host, rest]
    exact ⟨rfl, number_toDigits _⟩

theorem partsIn_text (address : V6) : partsIn address.text.toList =
    (address.groups, address.port.toNat, address.scope.toNat) := by
  obtain ⟨host, scope⟩ := span_of_scopeText address.groups address.scope
  rw [partsIn, portIn_text, scopeIn, bracketed_text, host, scope,
    groupsIn_hostText address.groups address.eight]

theorem text_injective : Function.Injective text := by
  intro left right same
  have parts := congrArg (fun text : String => partsIn text.toList) same
  simp only [partsIn_text, Prod.mk.injEq, UInt16.toNat_inj, UInt32.toNat_inj] at parts
  obtain ⟨groups, port, scope⟩ := parts
  cases left
  cases right
  simp_all

theorem bracket_mem_text (address : V6) : '[' ∈ address.text.toList := by
  rw [toList_text]
  exact List.mem_cons_self

end V6

namespace Address

/-- Texts tell internet addresses apart: host, port and scope within each family, and the families
from each other. -/
theorem text_identifies :
    (∀ left right : V4, left.text = right.text ↔ left = right) ∧
    (∀ left right : V6, left.text = right.text ↔ left = right) ∧
    ∀ (left : V4) (right : V6), left.text ≠ right.text := by
  refine ⟨fun _ _ => V4.text_injective.eq_iff, fun _ _ => V6.text_injective.eq_iff, ?_⟩
  intro left right same
  exact left.bracket_notMem_text (same ▸ right.bracket_mem_text)

end Address

end SocketLoop
