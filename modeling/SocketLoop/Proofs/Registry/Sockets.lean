import SocketLoop.Proofs.Registry.Rows

/-! A registry socket by socket. Adding, removing and muting concern the entry of one socket, and
what they make of it depends on that entry alone. -/
namespace SocketLoop

def Registration.place (registration : Registration) : Kind × Nat :=
  (registration.kind, registration.observer)

/-- An entry with one more registration. -/
def SocketEntry.joined (entry : SocketEntry) (registration : Registration) : SocketEntry :=
  { entry with registrations := entry.registrations ++ [registration], muted := false }

/-- What a removal leaves of an entry; nothing if that was its last registration. -/
def SocketEntry.without? (entry : SocketEntry) (kind : Kind) (observer : Nat) :
    Option SocketEntry :=
  let registrations := entry.registrations.eraseP (isFor kind observer)
  if registrations.isEmpty then none else some { entry with registrations }

def SocketEntry.quieted (entry : SocketEntry) (evenIfRead : Bool) : SocketEntry :=
  { entry with muted := entry.muted || evenIfRead || !entry.observes .readable }

namespace Registry

variable (registry : Registry)

def onSocket (descriptor : Int) : List Registration :=
  ((registry.entry? descriptor).map SocketEntry.registrations).getD []

theorem entry?_descriptor {descriptor : Int} {entry : SocketEntry}
    (found : registry.entry? descriptor = some entry) : entry.socket.descriptor = descriptor := by
  have matched := List.find?_some found
  exact beq_iff_eq.mp matched

theorem changeEntry_descriptors (descriptor : Int) (change : SocketEntry → SocketEntry)
    (still : ∀ entry, (change entry).socket = entry.socket) :
    (registry.changeEntry descriptor change).map (fun entry => entry.socket.descriptor) =
      registry.descriptors := by
  rw [changeEntry, List.map_map, descriptors]
  apply List.map_congr_left
  intro entry known
  dsimp only [Function.comp]
  split
  · rw [still]
  · rfl

theorem changeEntry_find? (descriptor other : Int) (change : SocketEntry → SocketEntry)
    (still : ∀ entry, (change entry).socket = entry.socket) :
    (registry.changeEntry descriptor change).find? (fun entry => entry.socket.descriptor == other) =
      if descriptor = other then (registry.entry? other).map change
      else registry.entry? other := by
  have same : ((fun entry : SocketEntry => entry.socket.descriptor == other) ∘ fun entry =>
      if entry.socket.descriptor = descriptor then change entry else entry) =
        fun entry => entry.socket.descriptor == other := by
    funext entry
    dsimp only [Function.comp]
    split
    · rw [still]
    · rfl
  rw [changeEntry, List.find?_map, same]
  change (registry.entry? other).map _ = _
  cases found : registry.entry? other with
  | none => simp
  | some entry =>
    by_cases own : descriptor = other
    · simp [own, registry.entry?_descriptor found]
    · simp [own, Ne.symm own, registry.entry?_descriptor found]

/-- A registration that is not there yet joins the entry of its socket, or makes one. -/
theorem entry?_add (socket : Handle) (kind : Kind) (observer : Nat)
    (absent : registry.contains socket.descriptor kind observer = false) (other : Int) :
    entry? (registry.add socket kind observer).2 other =
      if socket.descriptor = other then
        some (((registry.entry? other).map fun entry =>
          entry.joined ⟨registry.next, kind, observer⟩).getD
            ⟨socket, [⟨registry.next, kind, observer⟩], false⟩)
      else registry.entry? other := by
  simp only [add, absent, Bool.false_eq_true, if_false]
  change List.find? (fun entry : SocketEntry => entry.socket.descriptor == other) _ = _
  cases known : registry.hasSocket socket.descriptor with
  | true =>
    obtain ⟨entry, found⟩ := Option.isSome_iff_exists.mp known
    rw [if_pos rfl]
    refine (registry.changeEntry_find? socket.descriptor other (fun entry =>
      entry.joined ⟨registry.next, kind, observer⟩) fun _ => rfl).trans ?_
    by_cases own : socket.descriptor = other
    · subst own
      rw [if_pos rfl, if_pos rfl, found]
      rfl
    · rw [if_neg own, if_neg own]
  | false =>
    have missing : registry.entry? socket.descriptor = none := by
      simpa [hasSocket] using known
    rw [if_neg (by simp), List.find?_append]
    change (registry.entry? other).or _ = _
    by_cases own : socket.descriptor = other
    · subst own
      simp [missing]
    · simp [own]

private theorem find?_filter_of_distinct (entries : List SocketEntry) (keep : SocketEntry → Bool)
    (distinct : (entries.map fun entry => entry.socket.descriptor).Nodup) (descriptor : Int) :
    (entries.filter keep).find? (fun entry => entry.socket.descriptor == descriptor) =
      (entries.find? fun entry => entry.socket.descriptor == descriptor).filter keep := by
  induction entries with
  | nil => rfl
  | cons entry rest ih =>
    rw [List.map_cons, List.nodup_cons] at distinct
    by_cases own : entry.socket.descriptor = descriptor
    · have others : ∀ other ∈ rest, other.socket.descriptor ≠ descriptor := by
        intro other inside same
        apply distinct.1
        exact List.mem_map.mpr ⟨other, inside, same.trans own.symm⟩
      have gone : (rest.filter keep).find? (fun entry => entry.socket.descriptor == descriptor) =
          none := by
        rw [List.find?_eq_none]
        intro other inside
        simpa using others other (List.mem_filter.mp inside).1
      cases kept : keep entry with
      | true => simp [own, kept, Option.filter]
      | false =>
        rw [List.filter_cons_of_neg (by simp [kept]), gone, List.find?_cons_of_pos (by simp [own])]
        simp [Option.filter, kept]
    · cases kept : keep entry with
      | true =>
        rw [List.filter_cons_of_pos kept, List.find?_cons_of_neg (by simp [own]),
          List.find?_cons_of_neg (by simp [own]), ih distinct.2]
      | false =>
        rw [List.filter_cons_of_neg (by simp [kept]), List.find?_cons_of_neg (by simp [own]),
          ih distinct.2]

/-- A removal leaves the entry of its socket with one registration less, or without any and gone;
one that matches nothing leaves it as it was. -/
theorem entry?_remove (sound : registry.Sound) (socket : Handle) (kind : Kind) (observer : Nat)
    (other : Int) : entry? (registry.remove socket kind observer).2 other =
      if socket.descriptor = other then
        (registry.entry? other).bind fun entry => entry.without? kind observer
      else registry.entry? other := by
  cases found : registry.find? socket.descriptor kind observer with
  | none =>
    rw [remove_of_absent registry socket kind observer found]
    split
    · rename_i own
      subst own
      cases there : registry.entry? socket.descriptor with
      | none => rfl
      | some entry =>
        have unmatched : entry.registrations.eraseP (SocketEntry.isFor kind observer) =
            entry.registrations := by
          rw [find?, there, Option.bind_some, List.find?_eq_none] at found
          exact List.eraseP_of_forall_not found
        have known := ((known_iff registry sound.descriptors _ _).mp there).1
        have inhabited := sound.inhabited entry known
        simp [SocketEntry.without?, unmatched, inhabited]
    · rfl
  | some registration =>
    have distinct := registry.changeEntry_descriptors socket.descriptor (fun entry =>
      { entry with registrations := entry.registrations.eraseP (SocketEntry.isFor kind observer) })
      fun _ => rfl
    have changed := registry.changeEntry_find? socket.descriptor other (fun entry =>
      { entry with registrations := entry.registrations.eraseP (SocketEntry.isFor kind observer) })
      fun _ => rfl
    rw [remove, found]
    change List.find? (fun entry : SocketEntry => entry.socket.descriptor == other) _ = _
    rw [find?_filter_of_distinct _ _ (distinct.symm ▸ sound.descriptors), changed]
    cases there : registry.entry? other with
    | none => simp
    | some entry =>
      split
      · rw [Option.map_some, Option.bind_some, SocketEntry.without?, Option.filter_some]
        cases (entry.registrations.eraseP (SocketEntry.isFor kind observer)).isEmpty <;> rfl
      · have known := ((known_iff registry sound.descriptors _ _).mp there).1
        simp [Option.filter, sound.inhabited entry known]

theorem entry?_mute (descriptor : Int) (evenIfRead : Bool) (other : Int) :
    entry? (registry.mute descriptor evenIfRead) other =
      if descriptor = other then
        (registry.entry? other).map fun entry => entry.quieted evenIfRead
      else registry.entry? other :=
  registry.changeEntry_find? descriptor other _ fun _ => rfl

theorem hasSocket_iff_onSocket (sound : registry.Sound) (descriptor : Int) :
    registry.hasSocket descriptor = true ↔ registry.onSocket descriptor ≠ [] := by
  rw [hasSocket, onSocket]
  cases found : registry.entry? descriptor with
  | none => simp
  | some entry =>
    have known := ((known_iff registry sound.descriptors _ _).mp found).1
    simpa using sound.inhabited entry known

theorem hasSocket_iff_descriptor (descriptor : Int) :
    registry.hasSocket descriptor = true ↔ descriptor ∈ registry.descriptors := by
  rw [hasSocket, entry?, List.find?_isSome, descriptors, List.mem_map]
  simp only [beq_iff_eq]

theorem mem_onSocket (sound : registry.Sound) (descriptor : Int) (registration : Registration) :
    registration ∈ registry.onSocket descriptor ↔ (descriptor, registration) ∈ registry.rows := by
  rw [mem_rows, onSocket]
  constructor
  · intro listed
    cases found : registry.entry? descriptor with
    | none => simp [found] at listed
    | some entry =>
      obtain ⟨known, same⟩ := (known_iff registry sound.descriptors _ _).mp found
      exact ⟨entry, known, same, by simpa [found] using listed⟩
  · intro there
    obtain ⟨entry, known, same, listed⟩ := there
    rw [(known_iff registry sound.descriptors _ _).mpr ⟨known, same⟩]
    exact listed

theorem observing_distinct (sound : registry.Sound) (kind : Kind) :
    ((registry.observing kind).map Handle.descriptor).Nodup := by
  rw [observing, List.map_map]
  exact sound.descriptors.sublist (List.filter_sublist.map _)

theorem mem_observing (sound : registry.Sound) (kind : Kind) (descriptor : Int) :
    descriptor ∈ (registry.observing kind).map Handle.descriptor ↔
      registry.observes descriptor kind = true := by
  rw [observing, List.map_map, List.mem_map, observes, Option.any_eq_true]
  constructor
  · intro there
    obtain ⟨entry, chosen, same⟩ := there
    obtain ⟨known, observed⟩ := List.mem_filter.mp chosen
    exact ⟨entry, (known_iff registry sound.descriptors _ _).mpr ⟨known, same⟩, observed⟩
  · intro there
    obtain ⟨entry, found, observed⟩ := there
    obtain ⟨known, same⟩ := (known_iff registry sound.descriptors _ _).mp found
    exact ⟨entry, List.mem_filter.mpr ⟨known, observed⟩, same⟩

theorem snapshot_eq (descriptor : Int) (kind : Kind) : registry.snapshot descriptor kind =
    (registry.onSocket descriptor).filter fun registration => registration.kind == kind := by
  rw [snapshot, onSocket]
  cases registry.entry? descriptor <;> rfl

theorem find?_eq (descriptor : Int) (kind : Kind) (observer : Nat) :
    registry.find? descriptor kind observer =
      (registry.onSocket descriptor).find? (SocketEntry.isFor kind observer) := by
  rw [find?, onSocket]
  cases registry.entry? descriptor <;> rfl

theorem onSocket_add (socket : Handle) (kind : Kind) (observer : Nat)
    (absent : registry.contains socket.descriptor kind observer = false) (other : Int) :
    (registry.add socket kind observer).2.onSocket other =
      if socket.descriptor = other then
        registry.onSocket other ++ [⟨registry.next, kind, observer⟩]
      else registry.onSocket other := by
  rw [onSocket, onSocket, registry.entry?_add socket kind observer absent]
  split
  · cases registry.entry? other <;> rfl
  · rfl

/-- No observer is registered twice for a kind on a socket. -/
theorem onSocket_distinct (sound : registry.Sound) (descriptor : Int) :
    ((registry.onSocket descriptor).map fun registration =>
      (registration.kind, registration.observer)).Nodup := by
  rw [onSocket]
  cases found : registry.entry? descriptor with
  | none => exact List.nodup_nil
  | some entry =>
    obtain ⟨known, -⟩ := (known_iff registry sound.descriptors _ _).mp found
    have targets := sound.targets
    rw [rows, List.map_flatMap, List.nodup_flatMap] at targets
    have own := targets.1 entry known
    rw [SocketEntry.rows, List.map_map] at own
    refine List.Nodup.of_map (fun place => (entry.socket.descriptor, place)) ?_
    rw [List.map_map]
    exact own

theorem eraseP_onSocket (sound : registry.Sound) (descriptor : Int) (kind : Kind)
    (observer : Nat) : (registry.onSocket descriptor).eraseP (SocketEntry.isFor kind observer) =
      (registry.onSocket descriptor).filter fun registration =>
        !SocketEntry.isFor kind observer registration := by
  have distinct := registry.onSocket_distinct sound descriptor
  generalize registry.onSocket descriptor = registrations at distinct
  induction registrations with
  | nil => rfl
  | cons first rest ih =>
    rw [List.map_cons, List.nodup_cons] at distinct
    cases own : SocketEntry.isFor kind observer first with
    | false =>
      rw [List.eraseP_cons_of_neg (by simp [own]), List.filter_cons_of_pos (by simp [own]),
        ih distinct.2]
    | true =>
      rw [List.eraseP_cons_of_pos own, List.filter_cons_of_neg (by simp [own])]
      symm
      rw [List.filter_eq_self]
      intro other there
      simp only [SocketEntry.isFor, Bool.and_eq_true, beq_iff_eq] at own
      simp only [SocketEntry.isFor, Bool.not_eq_true', Bool.and_eq_false_iff, beq_eq_false_iff_ne]
      by_contra same
      simp only [not_or, not_not] at same
      apply distinct.1
      rw [own.1, own.2, List.mem_map]
      exact ⟨other, there, Prod.ext same.1 same.2⟩

theorem onSocket_remove (sound : registry.Sound) (socket : Handle) (kind : Kind) (observer : Nat)
    (other : Int) : (registry.remove socket kind observer).2.onSocket other =
      if socket.descriptor = other then
        (registry.onSocket other).filter fun registration =>
          !SocketEntry.isFor kind observer registration
      else registry.onSocket other := by
  rw [← registry.eraseP_onSocket sound, onSocket, onSocket, registry.entry?_remove sound]
  split
  · cases registry.entry? other with
    | none => rfl
    | some entry =>
      simp only [Option.bind_some, SocketEntry.without?, Option.map_some, Option.getD_some]
      split
      · rename_i none
        exact (List.isEmpty_iff.mp none).symm
      · rfl
  · rfl

theorem onSocket_mute (descriptor : Int) (evenIfRead : Bool) (other : Int) :
    (registry.mute descriptor evenIfRead).onSocket other = registry.onSocket other := by
  rw [onSocket, onSocket, registry.entry?_mute]
  split
  · cases registry.entry? other <;> rfl
  · rfl

end Registry

end SocketLoop
