import SocketLoop.Proofs.Registry.Later
import SocketLoop.Reactor.Loop

/-! Registries as what a history of changes has led to. Users register and remove observers, and a
loop takes note of what a poll reported. -/
namespace SocketLoop.Registry

inductive Change where
  | add (socket : Handle) (kind : Kind) (observer : Nat)
  | remove (socket : Handle) (kind : Kind) (observer : Nat)
  | report (socket : Handle) (readiness : Readiness)
deriving DecidableEq

def change (registry : Registry) : Change → Registry
  | .add socket kind observer => (registry.add socket kind observer).2
  | .remove socket kind observer => (registry.remove socket kind observer).2
  | .report socket readiness => Loop.muteReported registry socket readiness

def changeAll (registry : Registry) (changes : List Change) : Registry :=
  changes.foldl change registry

def replay (history : List Change) : Registry := changeAll {} history

def Reachable (registry : Registry) : Prop := ∃ history, registry = replay history

/-- Registrations are listed in the order in which they were made. -/
def Ordered (registry : Registry) : Prop :=
  ∀ entry ∈ registry.entries,
    entry.registrations.Pairwise fun first second => first.number < second.number

@[simp] theorem changeAll_nil (registry : Registry) : registry.changeAll [] = registry := rfl

@[simp] theorem changeAll_cons (registry : Registry) (change : Change) (rest : List Change) :
    registry.changeAll (change :: rest) = (registry.change change).changeAll rest := rfl

theorem changeAll_append (registry : Registry) (first second : List Change) :
    registry.changeAll (first ++ second) = (registry.changeAll first).changeAll second :=
  List.foldl_append

theorem replay_append (first second : List Change) :
    replay (first ++ second) = (replay first).changeAll second :=
  changeAll_append _ first second

theorem changeAll_keeps {holds : Registry → Prop}
    (keeps : ∀ registry change, holds registry → holds (registry.change change))
    (changes : List Change) (registry : Registry) (before : holds registry) :
    holds (registry.changeAll changes) := by
  induction changes generalizing registry with
  | nil => exact before
  | cons change rest ih => exact ih _ (keeps registry change before)

theorem muteReported_cases (registry : Registry) (socket : Handle) (readiness : Readiness) :
    (readiness.invalid || readiness.hangUp) = false ∧
        Loop.muteReported registry socket readiness = registry ∨
      (readiness.invalid || readiness.hangUp) = true ∧
        Loop.muteReported registry socket readiness =
          registry.mute socket.descriptor readiness.invalid := by
  cases found : readiness.invalid || readiness.hangUp with
  | true => exact .inr ⟨rfl, by rw [Loop.muteReported, if_pos found]⟩
  | false => exact .inl ⟨rfl, by rw [Loop.muteReported, if_neg (by simp [found])]⟩

@[simp] theorem muteReported_rows (registry : Registry) (socket : Handle) (readiness : Readiness) :
    (Loop.muteReported registry socket readiness).rows = registry.rows := by
  rcases muteReported_cases registry socket readiness with ⟨-, same⟩ | ⟨-, same⟩
  · rw [same]
  · rw [same, mute_rows]

theorem change_sound (registry : Registry) (change : Change) (sound : registry.Sound) :
    (registry.change change).Sound := by
  cases change with
  | add socket kind observer => exact add_sound registry sound socket kind observer
  | remove socket kind observer => exact remove_sound registry sound socket kind observer
  | report socket readiness =>
    rw [Registry.change]
    rcases muteReported_cases registry socket readiness with ⟨-, same⟩ | ⟨-, same⟩
    · rwa [same]
    · rw [same]
      exact mute_sound registry sound socket.descriptor readiness.invalid

theorem change_later (registry : Registry) (sound : registry.Sound) (change : Change) :
    registry.Later (registry.change change) := by
  cases change with
  | add socket kind observer => exact later_add registry sound socket kind observer
  | remove socket kind observer => exact later_remove registry sound socket kind observer
  | report socket readiness =>
    rw [Registry.change]
    rcases muteReported_cases registry socket readiness with ⟨-, same⟩ | ⟨-, same⟩
    · rw [same]
      exact .refl registry
    · rw [same]
      exact later_mute registry _ _

theorem replay_sound (history : List Change) : (replay history).Sound :=
  changeAll_keeps change_sound history {} sound_empty

theorem issued_in_entry (registry : Registry) (sound : registry.Sound) (entry : SocketEntry)
    (known : entry ∈ registry.entries) (registration : Registration)
    (listed : registration ∈ entry.registrations) : registration.number < registry.next :=
  sound.issued (entry.socket.descriptor, registration)
    ((mem_rows registry _).mpr ⟨entry, known, rfl, listed⟩)

theorem add_ordered (registry : Registry) (sound : registry.Sound) (ordered : registry.Ordered)
    (socket : Handle) (kind : Kind) (observer : Nat) :
    (registry.add socket kind observer).2.Ordered := by
  cases there : registry.contains socket.descriptor kind observer with
  | true => rwa [add_of_contains registry socket kind observer there]
  | false =>
    obtain ⟨next, added, shape⟩ :=
      add_cases registry sound.descriptors socket kind observer there
    rw [added]
    rcases shape with ⟨-, rfl⟩ | ⟨entry, before, after, split, same, rfl⟩
    · intro other known
      rcases List.mem_append.mp known with old | new
      · exact ordered other old
      · simp only [List.mem_singleton] at new
        simp [new]
    · have old := ordered
      simp only [Ordered, split, List.mem_append, List.mem_cons] at old
      intro other known
      simp only [List.mem_append, List.mem_cons] at known
      rcases known with earlier | rfl | later
      · exact old other (.inl earlier)
      · -- the new registration has the highest number
        refine List.pairwise_append.mpr ⟨old entry (.inr (.inl rfl)), by simp, ?_⟩
        intro first listed second last
        rw [List.mem_singleton.mp last]
        exact issued_in_entry registry sound entry (by simp [split]) first listed
      · exact old other (.inr (.inr later))

theorem remove_ordered (registry : Registry) (sound : registry.Sound) (ordered : registry.Ordered)
    (socket : Handle) (kind : Kind) (observer : Nat) :
    (registry.remove socket kind observer).2.Ordered := by
  cases found : registry.find? socket.descriptor kind observer with
  | none => rwa [remove_of_absent registry socket kind observer found]
  | some registration =>
    obtain ⟨next, removed, entry, before, after, left, right, split, same, listed, rfl⟩ :=
      remove_cases registry sound.descriptors socket kind observer registration found
    have old := ordered
    simp only [Ordered, split, List.mem_append, List.mem_cons] at old
    rw [removed]
    intro other known
    simp only [List.mem_filter, List.mem_append, List.mem_cons] at known
    rcases known.1 with earlier | rfl | later
    · exact old other (.inl earlier)
    · have whole := old entry (.inr (.inl rfl))
      rw [listed] at whole
      exact whole.sublist ((List.Sublist.refl left).append (List.sublist_cons_self _ right))
    · exact old other (.inr (.inr later))

theorem mem_mute_entries (registry : Registry) (descriptor : Int) (evenIfRead : Bool)
    (entry : SocketEntry) (known : entry ∈ (registry.mute descriptor evenIfRead).entries) :
    ∃ old ∈ registry.entries, entry = { old with
      muted := if old.socket.descriptor = descriptor then
        old.muted || evenIfRead || !old.observes .readable else old.muted } := by
  obtain ⟨old, before, rfl⟩ := List.mem_map.mp known
  refine ⟨old, before, ?_⟩
  dsimp only
  split <;> rfl

theorem change_ordered (registry : Registry) (change : Change)
    (before : registry.Sound ∧ registry.Ordered) :
    (registry.change change).Sound ∧ (registry.change change).Ordered := by
  refine ⟨change_sound registry change before.1, ?_⟩
  cases change with
  | add socket kind observer => exact add_ordered registry before.1 before.2 socket kind observer
  | remove socket kind observer =>
    exact remove_ordered registry before.1 before.2 socket kind observer
  | report socket readiness =>
    rcases muteReported_cases registry socket readiness with ⟨-, same⟩ | ⟨-, same⟩
    · simpa only [change, same] using before.2
    · intro entry known
      simp only [change, same] at known
      obtain ⟨old, there, rfl⟩ := mem_mute_entries registry _ _ entry known
      exact before.2 old there

theorem replay_ordered (history : List Change) : (replay history).Ordered := by
  refine (changeAll_keeps change_ordered history {} ⟨sound_empty, ?_⟩).2
  simp [Ordered]

namespace Reachable

variable {registry : Registry} (reachable : registry.Reachable)

include reachable

theorem sound : registry.Sound := by
  obtain ⟨history, rfl⟩ := reachable
  exact replay_sound history

theorem ordered : registry.Ordered := by
  obtain ⟨history, rfl⟩ := reachable
  exact replay_ordered history

theorem change (change : Change) : (registry.change change).Reachable := by
  obtain ⟨history, rfl⟩ := reachable
  exact ⟨history ++ [change], (replay_append history [change]).symm⟩

end Reachable

theorem reachable_empty : ({} : Registry).Reachable := ⟨[], rfl⟩

theorem snapshot_ordered (registry : Registry) (ordered : registry.Ordered) (descriptor : Int)
    (kind : Kind) : (registry.snapshot descriptor kind).Pairwise fun first second =>
      first.number < second.number := by
  rw [snapshot]
  cases found : registry.entry? descriptor with
  | none => exact .nil
  | some entry => exact (ordered entry (List.mem_of_find?_eq_some found)).filter _

end SocketLoop.Registry
