import SocketLoop.Proofs.Registry.Rows

/-! How a registry changes over time: numbers go up, what is removed stays removed, and what is new
has a new number. -/
namespace SocketLoop.Registry

/-- A registry comes from another one by additions, removals and mutings. -/
structure Later (before after : Registry) : Prop where
  sound : before.Sound → after.Sound
  next : before.next ≤ after.next
  cleared : before.cleared ⊆ after.cleared
  /-- What is not new was there. -/
  fresh : ∀ row ∈ after.rows, row ∈ before.rows ∨ before.next ≤ row.2.number
  stays : ∀ row ∈ before.rows, row ∈ after.rows ∨ row.2.number ∈ after.cleared

namespace Later

theorem refl (registry : Registry) : registry.Later registry :=
  ⟨id, Nat.le_refl _, List.Subset.refl _, fun _ => .inl, fun _ => .inl⟩

theorem trans {before between after : Registry} (first : before.Later between)
    (second : between.Later after) : before.Later after := by
  refine ⟨second.sound ∘ first.sound, Nat.le_trans first.next second.next,
    List.Subset.trans first.cleared second.cleared, ?_, ?_⟩
  · intro row member
    rcases second.fresh row member with old | new
    · exact first.fresh row old
    · exact .inr (Nat.le_trans first.next new)
  · intro row member
    rcases first.stays row member with kept | gone
    · exact second.stays row kept
    · exact .inr (second.cleared gone)

/-- What was there once is there as long as it is live. -/
theorem kept_iff {before after : Registry} (later : before.Later after) (sound : after.Sound)
    (row : Int × Registration) (there : row ∈ before.rows) :
    row ∈ after.rows ↔ row.2.number ∉ after.cleared := by
  refine ⟨sound.live row, ?_⟩
  intro live
  rcases later.stays row there with kept | gone
  · exact kept
  · exact absurd gone live

/-- A number belongs to one row for all time. -/
theorem same_row {before after : Registry} (later : before.Later after) (sound : before.Sound)
    {old new : Int × Registration} (there : old ∈ before.rows) (found : new ∈ after.rows)
    (same : new.2.number = old.2.number) : new = old := by
  rcases later.fresh new found with kept | late
  · exact List.inj_on_of_nodup_map sound.numbers kept there same
  · exact absurd (sound.issued old there) (Nat.not_lt.mpr (same ▸ late))

end Later

variable (registry : Registry)

theorem later_of_rows {before after : Registry} (sound : before.Sound → after.Sound)
    (rows : after.rows = before.rows) (next : after.next = before.next)
    (cleared : after.cleared = before.cleared) : before.Later after := by
  refine ⟨sound, Nat.le_of_eq next.symm, cleared ▸ List.Subset.refl _, ?_, ?_⟩
  · intro row member
    exact .inl (rows ▸ member)
  · intro row member
    exact .inl (rows ▸ member)

theorem later_mute (descriptor : Int) (evenIfRead : Bool) :
    registry.Later (registry.mute descriptor evenIfRead) :=
  later_of_rows (fun sound => mute_sound registry sound descriptor evenIfRead)
    (mute_rows registry descriptor evenIfRead) rfl rfl

theorem later_add (sound : registry.Sound) (socket : Handle) (kind : Kind) (observer : Nat) :
    registry.Later (registry.add socket kind observer).2 := by
  cases there : registry.contains socket.descriptor kind observer with
  | true =>
    rw [add_of_contains registry socket kind observer there]
    exact .refl registry
  | false =>
    have rows := add_rows registry sound.descriptors socket kind observer there
    refine ⟨fun _ => add_sound registry sound socket kind observer,
      next_le_add registry socket kind observer, ?_, ?_, ?_⟩
    · rw [add_cleared]
      exact List.Subset.refl _
    · intro row member
      rcases List.mem_cons.mp (rows.mem_iff.mp member) with rfl | old
      · exact .inr (Nat.le_refl _)
      · exact .inl old
    · intro row member
      exact .inl (rows.mem_iff.mpr (List.mem_cons_of_mem _ member))

theorem later_remove (sound : registry.Sound) (socket : Handle) (kind : Kind) (observer : Nat) :
    registry.Later (registry.remove socket kind observer).2 := by
  cases found : registry.find? socket.descriptor kind observer with
  | none =>
    rw [remove_of_absent registry socket kind observer found]
    exact .refl registry
  | some registration =>
    have rows := remove_rows registry sound.descriptors socket kind observer registration found
    have removed : (registry.remove socket kind observer).1 = some registration.number := by
      simp [remove, found]
    refine ⟨fun _ => remove_sound registry sound socket kind observer,
      Nat.le_of_eq (remove_next registry socket kind observer).symm, ?_, ?_, ?_⟩
    · rw [remove_cleared]
      exact List.subset_append_right _ _
    · intro row member
      exact .inl (rows.mem_iff.mpr (List.mem_cons_of_mem _ member))
    · intro row member
      rcases List.mem_cons.mp (rows.mem_iff.mp member) with rfl | kept
      · rw [remove_cleared, removed]
        exact .inr List.mem_cons_self
      · exact .inl kept

end SocketLoop.Registry
