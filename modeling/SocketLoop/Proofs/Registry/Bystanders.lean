import SocketLoop.Proofs.Registry.Later

/-! Registrations of bystanders. Adding and removing observers leaves the registrations of all other
observers in their places, whatever entries come and go. -/
namespace SocketLoop.Registry

/-- The registrations of some observers are left as they are, in order and in their entries. -/
structure Leaves (theirs : Nat → Bool) (before after : Registry) : Prop extends
    Later before after where
  rows : (after.rows.filter fun row => theirs row.2.observer) =
    before.rows.filter fun row => theirs row.2.observer
  /-- A registration that is not new stands in the entry in which it stood. -/
  home : ∀ new ∈ after.entries, ∀ registration ∈ new.registrations,
    registration.number < before.next →
    ∃ old ∈ before.entries, registration ∈ old.registrations ∧ new.socket = old.socket

namespace Leaves

variable {theirs : Nat → Bool}

theorem refl (theirs : Nat → Bool) (registry : Registry) : registry.Leaves theirs registry where
  toLater := .refl registry
  rows := rfl
  home new known _ listed _ := ⟨new, known, listed, rfl⟩

theorem trans {before between after : Registry} (first : before.Leaves theirs between)
    (second : between.Leaves theirs after) : before.Leaves theirs after where
  toLater := first.toLater.trans second.toLater
  rows := second.rows.trans first.rows
  home new known registration listed old := by
    obtain ⟨mid, there, stands, same⟩ := second.home new known registration listed
      (Nat.lt_of_lt_of_le old first.next)
    obtain ⟨first, here, stood, same'⟩ := first.home mid there registration stands old
    exact ⟨first, here, stood, same.trans same'⟩

end Leaves

variable (registry : Registry) (sound : registry.Sound)

include sound

theorem leaves_add (theirs : Nat → Bool) (socket : Handle) (kind : Kind) (observer : Nat)
    (other : theirs observer = false) :
    registry.Leaves theirs (registry.add socket kind observer).2 := by
  cases there : registry.contains socket.descriptor kind observer with
  | true =>
    rw [add_of_contains registry socket kind observer there]
    exact .refl theirs registry
  | false =>
    have later := registry.later_add sound socket kind observer
    obtain ⟨next, added, shape⟩ := add_cases registry sound.descriptors socket kind observer there
    rw [added] at later ⊢
    rcases shape with ⟨-, rfl⟩ | ⟨entry, before, after, split, same, rfl⟩
    · refine ⟨later, ?_, ?_⟩
      · simp [rows, SocketEntry.rows, other]
      · intro new known registration listed old
        rcases List.mem_append.mp known with kept | made
        · exact ⟨new, kept, listed, rfl⟩
        · obtain rfl := List.mem_singleton.mp made
          rw [List.mem_singleton.mp listed] at old
          exact absurd old (Nat.lt_irrefl _)
    · refine ⟨later, ?_, ?_⟩
      · simp [rows, SocketEntry.rows, split, other]
      · intro new known registration listed old
        rw [split]
        simp only [List.mem_append, List.mem_cons] at known
        rcases known with first | rfl | last
        · exact ⟨new, by simp [first], listed, rfl⟩
        · rcases List.mem_append.mp listed with kept | made
          · exact ⟨entry, by simp, kept, rfl⟩
          · rw [List.mem_singleton.mp made] at old
            exact absurd old (Nat.lt_irrefl _)
        · exact ⟨new, by simp [last], listed, rfl⟩

theorem leaves_remove (theirs : Nat → Bool) (socket : Handle) (kind : Kind) (observer : Nat)
    (other : theirs observer = false) :
    registry.Leaves theirs (registry.remove socket kind observer).2 := by
  cases found : registry.find? socket.descriptor kind observer with
  | none =>
    rw [remove_of_absent registry socket kind observer found]
    exact .refl theirs registry
  | some registration =>
    have later := registry.later_remove sound socket kind observer
    obtain ⟨-, -, own⟩ := (find?_iff registry sound _ _ _ _).mp found
    obtain ⟨next, removed, entry, before, after, left, right, split, same, listed, rfl⟩ :=
      remove_cases registry sound.descriptors socket kind observer registration found
    rw [removed] at later ⊢
    refine ⟨later, ?_, ?_⟩
    · simp [rows, flatMap_inhabited, SocketEntry.rows, split, listed, own, other]
    · intro new known registration stands _
      rw [split]
      have known := (List.mem_filter.mp known).1
      simp only [List.mem_append, List.mem_cons] at known
      rcases known with first | rfl | last
      · exact ⟨new, by simp [first], stands, rfl⟩
      · refine ⟨entry, by simp, ?_, rfl⟩
        rw [listed]
        rcases List.mem_append.mp stands with front | back
        · simp [front]
        · simp [back]
      · exact ⟨new, by simp [last], stands, rfl⟩

end SocketLoop.Registry
