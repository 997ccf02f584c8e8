import Mathlib.Data.List.Nodup
import Mathlib.Data.List.Perm.Basic
import SocketLoop.Reactor.Registry

/-! A registry as a list of rows, each a descriptor and a registration. Adding puts in one row with a
number of its own, removing takes out one row for good, muting changes none. -/
namespace SocketLoop

def SocketEntry.rows (entry : SocketEntry) : List (Int × Registration) :=
  entry.registrations.map fun registration => (entry.socket.descriptor, registration)

namespace Registry

def rows (registry : Registry) : List (Int × Registration) :=
  registry.entries.flatMap SocketEntry.rows

def descriptors (registry : Registry) : List Int :=
  registry.entries.map fun entry => entry.socket.descriptor

def target (row : Int × Registration) : Int × Kind × Nat := (row.1, row.2.kind, row.2.observer)

/-- What holds of every registry that adding, removing and muting lead to. -/
structure Sound (registry : Registry) : Prop where
  descriptors : registry.descriptors.Nodup
  inhabited : ∀ entry ∈ registry.entries, entry.registrations ≠ []
  targets : (registry.rows.map target).Nodup
  numbers : (registry.rows.map fun row => row.2.number).Nodup
  /-- Numbers are not used again. -/
  issued : ∀ row ∈ registry.rows, row.2.number < registry.next
  spent : ∀ number ∈ registry.cleared, number < registry.next
  live : ∀ row ∈ registry.rows, row.2.number ∉ registry.cleared

theorem sound_empty : ({} : Registry).Sound := by
  constructor <;> simp [descriptors, rows]

theorem mem_rows (registry : Registry) (row : Int × Registration) :
    row ∈ registry.rows ↔ ∃ entry ∈ registry.entries,
      entry.socket.descriptor = row.1 ∧ row.2 ∈ entry.registrations := by
  simp only [rows, List.mem_flatMap, SocketEntry.rows, List.mem_map]
  constructor
  · rintro ⟨entry, known, registration, listed, rfl⟩
    exact ⟨entry, known, rfl, listed⟩
  · rintro ⟨entry, known, same, listed⟩
    exact ⟨entry, known, row.2, listed, by rw [same]⟩

private theorem unknown_iff (registry : Registry) (descriptor : Int) :
    registry.entry? descriptor = none ↔ descriptor ∉ registry.descriptors := by
  simp only [descriptors, entry?, List.find?_eq_none, List.mem_map, beq_iff_eq, not_exists, not_and]

private theorem known_split (registry : Registry) (distinct : registry.descriptors.Nodup)
    (descriptor : Int) (entry : SocketEntry) (found : registry.entry? descriptor = some entry) :
    entry.socket.descriptor = descriptor ∧
    ∃ before after, registry.entries = before ++ entry :: after ∧
      ∀ change, registry.changeEntry descriptor change = before ++ change entry :: after := by
  unfold entry? at found
  rw [List.find?_eq_some_iff_append] at found
  obtain ⟨same, before, after, split, -⟩ := found
  have same : entry.socket.descriptor = descriptor := by simpa using same
  refine ⟨same, before, after, split, ?_⟩
  intro change
  rw [descriptors, split, List.map_append, List.map_cons, List.nodup_middle, List.nodup_cons,
    List.mem_append, same] at distinct
  have others : ∀ part : List SocketEntry,
      descriptor ∉ part.map (fun other => other.socket.descriptor) →
      part.map (fun other => if other.socket.descriptor = descriptor then change other else other) =
        part := by
    intro part absent
    conv_rhs => rw [← List.map_id part]
    apply List.map_congr_left
    intro other inside
    have apart : other.socket.descriptor ≠ descriptor := by
      intro equal
      exact absent (List.mem_map.mpr ⟨other, inside, equal⟩)
    simp [apart]
  rw [changeEntry, split, List.map_append, List.map_cons, others before fun m => distinct.1 (.inl m),
    others after fun m => distinct.1 (.inr m)]
  simp [same]

theorem known_iff (registry : Registry) (distinct : registry.descriptors.Nodup)
    (descriptor : Int) (entry : SocketEntry) :
    registry.entry? descriptor = some entry ↔
      entry ∈ registry.entries ∧ entry.socket.descriptor = descriptor := by
  constructor
  · intro found
    obtain ⟨same, before, after, split, -⟩ := known_split registry distinct descriptor entry found
    exact ⟨by simp [split], same⟩
  · rintro ⟨known, same⟩
    cases found : registry.entry? descriptor with
    | none =>
      have absent := (unknown_iff registry descriptor).mp found
      exact absurd (List.mem_map.mpr ⟨entry, known, same⟩) absent
    | some other =>
      obtain ⟨equal, before, after, split, -⟩ :=
        known_split registry distinct descriptor other found
      have member : other ∈ registry.entries := by simp [split]
      have one := List.inj_on_of_nodup_map distinct member known (equal.trans same.symm)
      rw [one]

theorem find?_iff (registry : Registry) (sound : registry.Sound) (descriptor : Int) (kind : Kind)
    (observer : Nat) (registration : Registration) :
    registry.find? descriptor kind observer = some registration ↔
      (descriptor, registration) ∈ registry.rows ∧ registration.kind = kind ∧
        registration.observer = observer := by
  constructor
  · intro found
    obtain ⟨entry, known, chosen⟩ := Option.bind_eq_some_iff.mp found
    obtain ⟨member, same⟩ := (known_iff registry sound.descriptors _ _).mp known
    have matched := List.find?_some chosen
    simp only [SocketEntry.isFor, Bool.and_eq_true, beq_iff_eq] at matched
    refine ⟨?_, matched⟩
    exact (mem_rows registry _).mpr ⟨entry, member, same, List.mem_of_find?_eq_some chosen⟩
  · rintro ⟨member, kindly, observed⟩
    obtain ⟨entry, known, same, listed⟩ := (mem_rows registry _).mp member
    have entered := (known_iff registry sound.descriptors _ _).mpr ⟨known, same⟩
    rw [find?, entered, Option.bind_some]
    cases chosen : entry.registrations.find? (SocketEntry.isFor kind observer) with
    | none =>
      have missing := List.find?_eq_none.mp chosen registration listed
      simp [SocketEntry.isFor, kindly, observed] at missing
    | some other =>
      have matched := List.find?_some chosen
      simp only [SocketEntry.isFor, Bool.and_eq_true, beq_iff_eq] at matched
      have row : (descriptor, other) ∈ registry.rows :=
        (mem_rows registry _).mpr ⟨entry, known, same, List.mem_of_find?_eq_some chosen⟩
      have one := List.inj_on_of_nodup_map sound.targets row member
        (by simp [target, matched, kindly, observed])
      rw [(Prod.mk.inj one).2]

theorem contains_iff (registry : Registry) (sound : registry.Sound) (descriptor : Int)
    (kind : Kind) (observer : Nat) :
    registry.contains descriptor kind observer = true ↔
      (descriptor, kind, observer) ∈ registry.rows.map target := by
  rw [contains, Option.isSome_iff_exists, List.mem_map]
  constructor
  · rintro ⟨registration, found⟩
    obtain ⟨member, rfl, rfl⟩ := (find?_iff registry sound _ _ _ _).mp found
    exact ⟨_, member, rfl⟩
  · rintro ⟨⟨other, registration⟩, member, same⟩
    obtain ⟨rfl, rfl, rfl⟩ := same
    exact ⟨registration, (find?_iff registry sound _ _ _ _).mpr ⟨member, rfl, rfl⟩⟩

theorem mem_snapshot (registry : Registry) (sound : registry.Sound) (descriptor : Int)
    (kind : Kind) (armed : Armed) :
    armed ∈ registry.snapshot descriptor kind ↔
      (descriptor, armed) ∈ registry.rows ∧ armed.kind = kind := by
  rw [snapshot, mem_rows]
  cases found : registry.entry? descriptor with
  | none =>
    have absent := (unknown_iff registry descriptor).mp found
    simp only [List.not_mem_nil, false_iff, not_and]
    rintro ⟨entry, known, same, -⟩
    exact absurd (List.mem_map.mpr ⟨entry, known, same⟩) absent
  | some entry =>
    obtain ⟨known, same⟩ := (known_iff registry sound.descriptors _ _).mp found
    simp only [List.mem_filter, beq_iff_eq]
    constructor
    · rintro ⟨listed, kindly⟩
      exact ⟨⟨entry, known, same, listed⟩, kindly⟩
    · rintro ⟨⟨other, member, equal, listed⟩, kindly⟩
      have one := List.inj_on_of_nodup_map sound.descriptors member known (equal.trans same.symm)
      exact ⟨one ▸ listed, kindly⟩

def newRow (registry : Registry) (socket : Handle) (kind : Kind) (observer : Nat) :
    Int × Registration :=
  (socket.descriptor, ⟨registry.next, kind, observer⟩)

theorem add_of_contains (registry : Registry) (socket : Handle) (kind : Kind) (observer : Nat)
    (there : registry.contains socket.descriptor kind observer = true) :
    registry.add socket kind observer = (false, registry) := by
  simp [add, there]

/-- A new registration makes an entry or goes to the end of the one that is there. -/
theorem add_cases (registry : Registry) (distinct : registry.descriptors.Nodup) (socket : Handle)
    (kind : Kind) (observer : Nat)
    (absent : registry.contains socket.descriptor kind observer = false) :
    ∃ next, registry.add socket kind observer =
        (true, ⟨next, registry.next + 1, registry.cleared⟩) ∧
      ((socket.descriptor ∉ registry.descriptors ∧
          next = registry.entries ++ [⟨socket, [⟨registry.next, kind, observer⟩], false⟩]) ∨
        ∃ entry before after, registry.entries = before ++ entry :: after ∧
          entry.socket.descriptor = socket.descriptor ∧
          next = before ++ { entry with
            registrations := entry.registrations ++ [⟨registry.next, kind, observer⟩],
            muted := false } :: after) := by
  rw [add, if_neg (by simp [absent])]
  refine ⟨_, rfl, ?_⟩
  rcases Option.eq_none_or_eq_some (registry.entry? socket.descriptor) with found | ⟨entry, found⟩
  · refine .inl ⟨(unknown_iff registry _).mp found, ?_⟩
    rw [if_neg (by simp [hasSocket, found])]
  · obtain ⟨same, before, after, split, changed⟩ :=
      known_split registry distinct socket.descriptor entry found
    refine .inr ⟨entry, before, after, split, same, ?_⟩
    rw [if_pos (by simp [hasSocket, found]), changed]

theorem remove_of_absent (registry : Registry) (socket : Handle) (kind : Kind) (observer : Nat)
    (absent : registry.find? socket.descriptor kind observer = none) :
    registry.remove socket kind observer = (none, registry) := by
  simp [remove, absent]

/-- A removed registration leaves its entry, and an entry that is left with none goes. -/
theorem remove_cases (registry : Registry) (distinct : registry.descriptors.Nodup)
    (socket : Handle) (kind : Kind) (observer : Nat) (registration : Registration)
    (found : registry.find? socket.descriptor kind observer = some registration) :
    ∃ next, registry.remove socket kind observer =
        (some registration.number,
          ⟨next, registry.next, registration.number :: registry.cleared⟩) ∧
      ∃ entry before after left right, registry.entries = before ++ entry :: after ∧
        entry.socket.descriptor = socket.descriptor ∧
        entry.registrations = left ++ registration :: right ∧
        next = (before ++ { entry with registrations := left ++ right } :: after).filter
          fun entry => !entry.registrations.isEmpty := by
  obtain ⟨entry, known, chosen⟩ := Option.bind_eq_some_iff.mp found
  obtain ⟨same, before, after, split, changed⟩ :=
    known_split registry distinct socket.descriptor entry known
  rw [List.find?_eq_some_iff_append] at chosen
  obtain ⟨matched, left, right, listed, others⟩ := chosen
  have erased : entry.registrations.eraseP (SocketEntry.isFor kind observer) = left ++ right := by
    rw [listed, List.eraseP_append_right _ (by simpa using others), List.eraseP_cons_of_pos matched]
  refine ⟨_, by rw [remove, found], entry, before, after, left, right, split, same, listed, ?_⟩
  rw [changed, erased]

@[simp] theorem add_cleared (registry : Registry) (socket : Handle) (kind : Kind)
    (observer : Nat) : (registry.add socket kind observer).2.cleared = registry.cleared := by
  unfold add
  split <;> rfl

theorem next_le_add (registry : Registry) (socket : Handle) (kind : Kind) (observer : Nat) :
    registry.next ≤ (registry.add socket kind observer).2.next := by
  unfold add
  split
  · exact Nat.le_refl _
  · exact Nat.le_succ _

@[simp] theorem remove_next (registry : Registry) (socket : Handle) (kind : Kind)
    (observer : Nat) : (registry.remove socket kind observer).2.next = registry.next := by
  unfold remove
  split <;> rfl

theorem remove_cleared (registry : Registry) (socket : Handle) (kind : Kind) (observer : Nat) :
    (registry.remove socket kind observer).2.cleared =
      (registry.remove socket kind observer).1.toList ++ registry.cleared := by
  unfold remove
  split <;> rfl

theorem flatMap_inhabited (entries : List SocketEntry) :
    (entries.filter fun entry => !entry.registrations.isEmpty).flatMap SocketEntry.rows =
      entries.flatMap SocketEntry.rows := by
  induction entries with
  | nil => rfl
  | cons entry rest ih =>
    by_cases empty : entry.registrations = []
    · simp [empty, ih, SocketEntry.rows]
    · simp [empty, ih]

theorem add_rows (registry : Registry) (distinct : registry.descriptors.Nodup) (socket : Handle)
    (kind : Kind) (observer : Nat)
    (absent : registry.contains socket.descriptor kind observer = false) :
    (registry.add socket kind observer).2.rows.Perm
      (registry.newRow socket kind observer :: registry.rows) := by
  obtain ⟨next, added, shape⟩ := add_cases registry distinct socket kind observer absent
  rw [added]
  rcases shape with ⟨-, rfl⟩ | ⟨entry, before, after, split, same, rfl⟩
  · simp only [rows, List.flatMap_append]
    exact List.perm_append_singleton _ _
  · simp only [rows, split, List.flatMap_append, List.flatMap_cons, SocketEntry.rows,
      List.map_append, List.map_cons, List.map_nil, same, List.append_assoc, List.cons_append,
      List.nil_append]
    rw [← List.append_assoc, ← List.append_assoc]
    exact List.perm_middle

theorem remove_rows (registry : Registry) (distinct : registry.descriptors.Nodup)
    (socket : Handle) (kind : Kind) (observer : Nat) (registration : Registration)
    (found : registry.find? socket.descriptor kind observer = some registration) :
    registry.rows.Perm
      ((socket.descriptor, registration) :: (registry.remove socket kind observer).2.rows) := by
  obtain ⟨next, removed, entry, before, after, left, right, split, same, listed, rfl⟩ :=
    remove_cases registry distinct socket kind observer registration found
  rw [removed]
  simp only [rows, flatMap_inhabited, split, List.flatMap_append, List.flatMap_cons,
    SocketEntry.rows, listed, List.map_append, List.map_cons, same, List.append_assoc,
    List.cons_append]
  rw [← List.append_assoc, ← List.append_assoc]
  exact List.perm_middle

private theorem add_descriptors (registry : Registry) (distinct : registry.descriptors.Nodup)
    (socket : Handle) (kind : Kind) (observer : Nat) :
    (registry.add socket kind observer).2.descriptors.Nodup := by
  cases there : registry.contains socket.descriptor kind observer with
  | true => rwa [add_of_contains registry socket kind observer there]
  | false =>
    obtain ⟨next, added, shape⟩ := add_cases registry distinct socket kind observer there
    rw [added]
    rcases shape with ⟨absent, rfl⟩ | ⟨entry, before, after, split, same, rfl⟩
    · simp only [descriptors, List.map_append, List.map_cons, List.map_nil]
      refine (List.perm_append_singleton _ _).nodup_iff.mpr ?_
      exact List.nodup_cons.mpr ⟨absent, distinct⟩
    · simpa [descriptors, split] using distinct

private theorem remove_descriptors (registry : Registry) (distinct : registry.descriptors.Nodup)
    (socket : Handle) (kind : Kind) (observer : Nat) (registration : Registration)
    (found : registry.find? socket.descriptor kind observer = some registration) :
    (registry.remove socket kind observer).2.descriptors.Nodup := by
  obtain ⟨next, removed, entry, before, after, left, right, split, same, listed, rfl⟩ :=
    remove_cases registry distinct socket kind observer registration found
  rw [removed]
  refine List.Nodup.sublist (List.filter_sublist.map _) ?_
  simpa [descriptors, split] using distinct

theorem add_sound (registry : Registry) (sound : registry.Sound) (socket : Handle) (kind : Kind)
    (observer : Nat) : (registry.add socket kind observer).2.Sound := by
  cases there : registry.contains socket.descriptor kind observer with
  | true => rwa [add_of_contains registry socket kind observer there]
  | false =>
    have moved := add_rows registry sound.descriptors socket kind observer there
    obtain ⟨next, added, shape⟩ :=
      add_cases registry sound.descriptors socket kind observer there
    have absent : ¬ (socket.descriptor, kind, observer) ∈ registry.rows.map target := by
      rw [← contains_iff registry sound]
      simp [there]
    constructor
    · exact add_descriptors registry sound.descriptors socket kind observer
    · rw [added]
      rcases shape with ⟨-, rfl⟩ | ⟨entry, before, after, split, same, rfl⟩
      · intro other known
        rcases List.mem_append.mp known with old | new
        · exact sound.inhabited other old
        · simp only [List.mem_singleton] at new
          simp [new]
      · intro other known
        have old := sound.inhabited
        rw [split] at old
        simp only [List.mem_append, List.mem_cons] at known old
        rcases known with earlier | rfl | later
        · exact old other (.inl earlier)
        · simp
        · exact old other (.inr (.inr later))
    · exact (moved.map target).nodup_iff.mpr (List.nodup_cons.mpr ⟨absent, sound.targets⟩)
    · refine (moved.map _).nodup_iff.mpr (List.nodup_cons.mpr ⟨?_, sound.numbers⟩)
      intro member
      obtain ⟨row, known, same⟩ := List.mem_map.mp member
      have below := sound.issued row known
      simp only [newRow] at same
      omega
    · intro row known
      rw [show (registry.add socket kind observer).2.next = registry.next + 1 by rw [added]]
      rcases List.mem_cons.mp (moved.subset known) with rfl | old
      · exact Nat.lt_succ_self _
      · exact Nat.lt_succ_of_lt (sound.issued row old)
    · rw [added]
      intro number known
      exact Nat.lt_succ_of_lt (sound.spent number known)
    · intro row known
      rw [add_cleared]
      rcases List.mem_cons.mp (moved.subset known) with rfl | old
      · intro cleared
        exact absurd (sound.spent _ cleared) (Nat.lt_irrefl _)
      · exact sound.live row old

theorem remove_sound (registry : Registry) (sound : registry.Sound) (socket : Handle)
    (kind : Kind) (observer : Nat) : (registry.remove socket kind observer).2.Sound := by
  cases found : registry.find? socket.descriptor kind observer with
  | none => rwa [remove_of_absent registry socket kind observer found]
  | some registration =>
    have moved := remove_rows registry sound.descriptors socket kind observer registration found
    obtain ⟨next, removed, entry, before, after, left, right, split, same, listed, shape⟩ :=
      remove_cases registry sound.descriptors socket kind observer registration found
    have numbers := (moved.map fun row => row.2.number).nodup_iff.mp sound.numbers
    have row : (socket.descriptor, registration) ∈ registry.rows :=
      moved.mem_iff.mpr List.mem_cons_self
    have kept : ∀ other ∈ (registry.remove socket kind observer).2.rows, other ∈ registry.rows :=
      fun other known => moved.mem_iff.mpr (List.mem_cons_of_mem _ known)
    constructor
    · exact remove_descriptors registry sound.descriptors socket kind observer registration found
    · rw [removed, shape]
      intro other known
      simpa using (List.mem_filter.mp known).2
    · exact (List.nodup_cons.mp ((moved.map target).nodup_iff.mp sound.targets)).2
    · exact (List.nodup_cons.mp numbers).2
    · intro other known
      rw [remove_next]
      exact sound.issued other (kept other known)
    · rw [removed]
      intro number known
      rcases List.mem_cons.mp known with rfl | old
      · exact sound.issued _ row
      · exact sound.spent number old
    · intro other known
      have cleared : (registry.remove socket kind observer).2.cleared =
          registration.number :: registry.cleared := by rw [removed]
      rw [cleared, List.mem_cons, not_or]
      refine ⟨?_, sound.live other (kept other known)⟩
      intro equal
      exact (List.nodup_cons.mp numbers).1 (List.mem_map.mpr ⟨other, known, equal⟩)

private theorem mute_entries (registry : Registry) (descriptor : Int) (evenIfRead : Bool)
    {β : Type} (read : SocketEntry → β)
    (blind : ∀ entry muted, read { entry with muted } = read entry) :
    (registry.mute descriptor evenIfRead).entries.map read = registry.entries.map read := by
  simp only [mute, changeEntry, List.map_map]
  apply List.map_congr_left
  intro entry known
  simp only [Function.comp]
  split
  · exact blind entry _
  · rfl

theorem mute_rows (registry : Registry) (descriptor : Int) (evenIfRead : Bool) :
    (registry.mute descriptor evenIfRead).rows = registry.rows := by
  simp only [rows, List.flatMap_def]
  rw [mute_entries registry descriptor evenIfRead SocketEntry.rows fun _ _ => rfl]

@[simp] theorem mute_cleared (registry : Registry) (descriptor : Int) (evenIfRead : Bool) :
    (registry.mute descriptor evenIfRead).cleared = registry.cleared := rfl

theorem mute_sound (registry : Registry) (sound : registry.Sound) (descriptor : Int)
    (evenIfRead : Bool) : (registry.mute descriptor evenIfRead).Sound := by
  have rows := mute_rows registry descriptor evenIfRead
  constructor
  · rw [descriptors, mute_entries registry descriptor evenIfRead _ fun _ _ => rfl]
    exact sound.descriptors
  · intro entry known
    have listed := List.mem_map_of_mem (f := SocketEntry.registrations) known
    rw [mute_entries registry descriptor evenIfRead _ fun _ _ => rfl] at listed
    obtain ⟨old, before, same⟩ := List.mem_map.mp listed
    exact same ▸ sound.inhabited old before
  · exact rows ▸ sound.targets
  · exact rows ▸ sound.numbers
  · exact rows ▸ sound.issued
  · exact sound.spent
  · exact rows ▸ sound.live

theorem contains_remove (registry : Registry) (sound : registry.Sound) (socket : Handle)
    (kind : Kind) (observer : Nat) (registration : Registration)
    (found : registry.find? socket.descriptor kind observer = some registration) :
    (registry.remove socket kind observer).2.contains socket.descriptor kind observer = false := by
  have moved := (remove_rows registry sound.descriptors socket kind observer registration found).map
    target
  have distinct := moved.nodup_iff.mp sound.targets
  obtain ⟨-, rfl, rfl⟩ := (find?_iff registry sound _ _ _ _).mp found
  have next := remove_sound registry sound socket registration.kind registration.observer
  rw [contains, Option.isSome_eq_false_iff, Option.isNone_iff_eq_none, Option.eq_none_iff_forall_ne_some]
  intro other again
  obtain ⟨member, kinds, observers⟩ := (find?_iff _ next _ _ _ _).mp again
  refine (List.nodup_cons.mp distinct).1 (List.mem_map.mpr ⟨_, member, ?_⟩)
  simp [target, kinds, observers]

theorem isLive_iff (registry : Registry) (number : Nat) :
    registry.isLive number = true ↔ number ∉ registry.cleared := by
  simp [isLive]

theorem mem_add_rows (registry : Registry) (sound : registry.Sound) (socket : Handle) (kind : Kind)
    (observer : Nat) (row : Int × Registration) :
    row ∈ (registry.add socket kind observer).2.rows ↔ row ∈ registry.rows ∨
      registry.contains socket.descriptor kind observer = false ∧
        row = registry.newRow socket kind observer := by
  cases there : registry.contains socket.descriptor kind observer with
  | true => simp [add_of_contains registry socket kind observer there]
  | false =>
    rw [(add_rows registry sound.descriptors socket kind observer there).mem_iff, List.mem_cons]
    simp [or_comm]

theorem mem_remove_rows (registry : Registry) (sound : registry.Sound) (socket : Handle)
    (kind : Kind) (observer : Nat) (row : Int × Registration) :
    row ∈ (registry.remove socket kind observer).2.rows ↔
      row ∈ registry.rows ∧ target row ≠ (socket.descriptor, kind, observer) := by
  cases found : registry.find? socket.descriptor kind observer with
  | none =>
    rw [remove_of_absent registry socket kind observer found]
    have absent : registry.contains socket.descriptor kind observer = false := by
      simp [contains, found]
    refine ⟨fun member => ⟨member, ?_⟩, And.left⟩
    intro same
    have there := (contains_iff registry sound _ _ _).mpr (List.mem_map.mpr ⟨row, member, same⟩)
    simp [absent] at there
  | some registration =>
    have moved := remove_rows registry sound.descriptors socket kind observer registration found
    have distinct := (moved.map target).nodup_iff.mp sound.targets
    have own : target (socket.descriptor, registration) = (socket.descriptor, kind, observer) := by
      obtain ⟨-, rfl, rfl⟩ := (find?_iff registry sound _ _ _ _).mp found
      rfl
    rw [moved.mem_iff, List.mem_cons]
    constructor
    · intro member
      refine ⟨.inr member, ?_⟩
      intro same
      exact (List.nodup_cons.mp distinct).1 (List.mem_map.mpr ⟨row, member, same.trans own.symm⟩)
    · rintro ⟨rfl | member, other⟩
      · exact absurd own other
      · exact member

theorem observes_iff (registry : Registry) (sound : registry.Sound) (descriptor : Int)
    (kind : Kind) : registry.observes descriptor kind = true ↔
      ∃ row ∈ registry.rows, row.1 = descriptor ∧ row.2.kind = kind := by
  simp only [observes, Option.any_eq_true, SocketEntry.observes, List.any_eq_true, beq_iff_eq]
  constructor
  · rintro ⟨entry, found, registration, listed, kindly⟩
    obtain ⟨known, same⟩ := (known_iff registry sound.descriptors _ _).mp found
    exact ⟨(descriptor, registration), (mem_rows registry _).mpr ⟨entry, known, same, listed⟩,
      rfl, kindly⟩
  · rintro ⟨row, member, rfl, kindly⟩
    obtain ⟨entry, known, same, listed⟩ := (mem_rows registry _).mp member
    exact ⟨entry, (known_iff registry sound.descriptors _ _).mpr ⟨known, same⟩, row.2, listed,
      kindly⟩

end Registry

end SocketLoop
