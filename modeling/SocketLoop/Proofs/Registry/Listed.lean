import Mathlib.Data.List.Dedup
import Mathlib.Data.List.Induction
import SocketLoop.Proofs.Registry.History
import SocketLoop.Proofs.Registry.Sockets

/-! A registry as a list of triples, each a descriptor, a kind and an observer. A registration that
is not there yet is put at the end of the list, a removal takes out its triple, and all that a
registry answers can be read off the list. -/
namespace SocketLoop.Registry

/-- What a change makes of the list of triples. -/
def Change.enter (places : List (Int × Kind × Nat)) : Change → List (Int × Kind × Nat)
  | .add socket kind observer =>
    if (socket.descriptor, kind, observer) ∈ places then places
    else places ++ [(socket.descriptor, kind, observer)]
  | .remove socket kind observer => places.erase (socket.descriptor, kind, observer)
  | .report _ _ => places

def listed (history : List Change) : List (Int × Kind × Nat) := history.foldl Change.enter []

/-- On each socket a registry has the registrations of a list of triples, in its order. -/
structure Agrees (registry : Registry) (places : List (Int × Kind × Nat)) : Prop where
  distinct : places.Nodup
  onSocket : ∀ descriptor,
    (registry.onSocket descriptor).map (fun registration => target (descriptor, registration)) =
      places.filter fun place => place.1 = descriptor

/-- A registry answers as its list of triples does. -/
structure Represents (registry : Registry) (places : List (Int × Kind × Nat)) : Prop where
  distinct : places.Nodup
  triples : (registry.rows.map target).Perm places
  inhabited : ∀ entry ∈ registry.entries, entry.registrations ≠ []
  contains : ∀ descriptor kind observer, registry.contains descriptor kind observer = true ↔
    (descriptor, kind, observer) ∈ places
  observes : ∀ descriptor kind, registry.observes descriptor kind = true ↔
    ∃ place ∈ places, place.1 = descriptor ∧ place.2.1 = kind
  hasSocket : ∀ descriptor, registry.hasSocket descriptor = true ↔
    ∃ place ∈ places, place.1 = descriptor
  size : registry.size = (places.map Prod.fst).dedup.length
  snapshot : ∀ descriptor kind, (registry.snapshot descriptor kind).map
    (fun armed => target (descriptor, armed)) =
      places.filter fun place => place.1 = descriptor ∧ place.2.1 = kind
  observing : ∀ kind, ((registry.observing kind).map Handle.descriptor).Perm
    ((places.filter fun place => place.2.1 = kind).map Prod.fst).dedup

theorem listed_append (first second : List Change) :
    listed (first ++ second) = second.foldl Change.enter (listed first) := List.foldl_append

theorem enter_distinct (places : List (Int × Kind × Nat)) (distinct : places.Nodup)
    (change : Change) : (change.enter places).Nodup := by
  cases change with
  | add socket kind observer =>
    rw [Change.enter]
    split
    · exact distinct
    · rename_i absent
      apply List.nodup_append.mpr
      refine ⟨distinct, List.nodup_singleton _, ?_⟩
      intro place there other last same
      rw [List.mem_singleton.mp last] at same
      exact absent (same ▸ there)
  | remove socket kind observer => exact distinct.erase _
  | report socket readiness => exact distinct

theorem isFor_iff (descriptor : Int) (kind : Kind) (observer : Nat) (registration : Registration) :
    SocketEntry.isFor kind observer registration = true ↔
      target (descriptor, registration) = (descriptor, kind, observer) := by
  simp [SocketEntry.isFor, target]

namespace Agrees

variable {registry : Registry} {places : List (Int × Kind × Nat)} (agrees : registry.Agrees places)

include agrees

theorem mem_iff (descriptor : Int) (kind : Kind) (observer : Nat) :
    (descriptor, kind, observer) ∈ places ↔ ∃ registration ∈ registry.onSocket descriptor,
      registration.kind = kind ∧ registration.observer = observer := by
  have here : (descriptor, kind, observer) ∈ places ↔ (descriptor, kind, observer) ∈
      places.filter fun place => place.1 = descriptor := by simp
  rw [here, ← agrees.onSocket, List.mem_map]
  simp [target]

theorem contains_iff_mem (descriptor : Int) (kind : Kind) (observer : Nat) :
    registry.contains descriptor kind observer = true ↔ (descriptor, kind, observer) ∈ places := by
  rw [agrees.mem_iff, Registry.contains, find?_eq, List.find?_isSome]
  simp [SocketEntry.isFor]

theorem add_onSocket (socket : Handle) (kind : Kind) (observer : Nat)
    (descriptor : Int) :
    ((registry.add socket kind observer).2.onSocket descriptor).map
        (fun registration => target (descriptor, registration)) =
      ((Change.add socket kind observer).enter places).filter
        fun place => place.1 = descriptor := by
  have there := agrees.contains_iff_mem socket.descriptor kind observer
  rw [Change.enter]
  by_cases known : (socket.descriptor, kind, observer) ∈ places
  · rw [if_pos known, add_of_contains registry socket kind observer (there.mpr known)]
    exact agrees.onSocket descriptor
  · have absent := Bool.eq_false_iff.mpr (mt there.mp known)
    rw [if_neg known, onSocket_add registry socket kind observer absent, List.filter_append,
      ← agrees.onSocket descriptor]
    by_cases own : socket.descriptor = descriptor
    · simp [own, target]
    · simp [own]

theorem remove_onSocket (sound : registry.Sound) (socket : Handle) (kind : Kind)
    (observer : Nat) (descriptor : Int) :
    ((registry.remove socket kind observer).2.onSocket descriptor).map
        (fun registration => target (descriptor, registration)) =
      ((Change.remove socket kind observer).enter places).filter
        fun place => place.1 = descriptor := by
  have kept : (places.erase (socket.descriptor, kind, observer)).filter
        (fun place => place.1 = descriptor) =
      ((registry.onSocket descriptor).map fun registration =>
        target (descriptor, registration)).filter
          (fun place => place != (socket.descriptor, kind, observer)) := by
    rw [agrees.distinct.erase_eq_filter, agrees.onSocket, List.filter_filter, List.filter_filter]
    apply List.filter_congr
    intro place there
    exact Bool.and_comm _ _
  rw [Change.enter, kept, onSocket_remove registry sound, List.filter_map]
  by_cases own : socket.descriptor = descriptor
  · rw [if_pos own]
    congr 1
    apply List.filter_congr
    intro registration there
    rw [Function.comp_apply, bne, Bool.not_inj_iff, Bool.eq_iff_iff, isFor_iff descriptor,
      beq_iff_eq, own]
  · rw [if_neg own]
    congr 1
    symm
    rw [List.filter_eq_self]
    intro registration there
    have apart : descriptor ≠ socket.descriptor := Ne.symm own
    simp [target, apart]

/-- A change does to the list what it does to the registry. -/
theorem change (sound : registry.Sound) (change : Change) :
    (registry.change change).Agrees (change.enter places) := by
  refine ⟨enter_distinct places agrees.distinct change, ?_⟩
  intro descriptor
  cases change with
  | add socket kind observer => exact agrees.add_onSocket socket kind observer descriptor
  | remove socket kind observer => exact agrees.remove_onSocket sound socket kind observer descriptor
  | report socket readiness =>
    rw [Registry.change]
    obtain ⟨-, same⟩ | ⟨-, same⟩ := muteReported_cases registry socket readiness
    · rw [same]
      exact agrees.onSocket descriptor
    · rw [same, onSocket_mute]
      exact agrees.onSocket descriptor

theorem mem_rows_iff (sound : registry.Sound) (place : Int × Kind × Nat) :
    place ∈ registry.rows.map target ↔ place ∈ places := by
  rw [← agrees.contains_iff_mem, contains_iff registry sound]

/-- A change leaves a registration there exactly if it leaves its triple listed. -/
theorem stays_iff (sound : registry.Sound) (change : Change) (row : Int × Registration)
    (there : row ∈ registry.rows) :
    row ∈ (registry.change change).rows ↔ target row ∈ change.enter places := by
  have found := (agrees.mem_rows_iff sound (target row)).mp (List.mem_map_of_mem there)
  cases change with
  | add socket kind observer =>
    have stays : row ∈ (registry.add socket kind observer).2.rows :=
      (mem_add_rows registry sound socket kind observer row).mpr (.inl there)
    refine iff_of_true stays ?_
    rw [Change.enter]
    split
    · exact found
    · exact List.mem_append_left _ found
  | remove socket kind observer =>
    rw [Change.enter, agrees.distinct.mem_erase_iff, Registry.change,
      mem_remove_rows registry sound]
    simp [there, found]
  | report socket readiness =>
    rw [Registry.change, muteReported_rows]
    exact iff_of_true there found

theorem observes_iff_listed (sound : registry.Sound) (descriptor : Int) (kind : Kind) :
    registry.observes descriptor kind = true ↔
      ∃ place ∈ places, place.1 = descriptor ∧ place.2.1 = kind := by
  rw [observes_iff registry sound]
  simp only [← agrees.mem_rows_iff sound, List.mem_map, exists_exists_and_eq_and]
  rfl

theorem hasSocket_iff_listed (sound : registry.Sound) (descriptor : Int) :
    registry.hasSocket descriptor = true ↔ ∃ place ∈ places, place.1 = descriptor := by
  rw [hasSocket_iff_onSocket registry sound, ne_eq, ← List.map_eq_nil_iff,
    agrees.onSocket descriptor, List.filter_eq_nil_iff]
  simp

/-- What a registry answers can be read off a list that agrees with it. -/
theorem represents (sound : registry.Sound) : registry.Represents places := by
  have observes := agrees.observes_iff_listed sound
  have hasSocket := agrees.hasSocket_iff_listed sound
  constructor
  · exact agrees.distinct
  · exact (List.perm_ext_iff_of_nodup sound.targets agrees.distinct).mpr (agrees.mem_rows_iff sound)
  · exact sound.inhabited
  · exact agrees.contains_iff_mem
  · exact observes
  · exact hasSocket
  · have known : registry.descriptors.Perm (places.map Prod.fst).dedup := by
      apply (List.perm_ext_iff_of_nodup sound.descriptors (List.nodup_dedup _)).mpr
      intro descriptor
      rw [List.mem_dedup, List.mem_map, ← hasSocket, hasSocket_iff_descriptor]
    rw [size, ← known.length_eq, descriptors, List.length_map]
  · intro descriptor kind
    have both : (places.filter fun place => place.1 = descriptor ∧ place.2.1 = kind) =
        (places.filter fun place => place.1 = descriptor).filter fun place => place.2.1 = kind := by
      rw [List.filter_filter]
      apply List.filter_congr
      intro place there
      rw [Bool.decide_and, Bool.and_comm]
    rw [snapshot_eq, both, ← agrees.onSocket descriptor, List.filter_map]
    rfl
  · intro kind
    apply (List.perm_ext_iff_of_nodup (observing_distinct registry sound kind)
      (List.nodup_dedup _)).mpr
    intro descriptor
    rw [mem_observing registry sound, observes, List.mem_dedup, List.mem_map]
    simp only [List.mem_filter, decide_eq_true_eq]
    tauto

end Agrees

theorem replay_agrees (history : List Change) : (replay history).Agrees (listed history) := by
  induction history using List.reverseRecOn with
  | nil => exact ⟨List.nodup_nil, fun _ => rfl⟩
  | append_singleton history change ih =>
    rw [replay_append, listed_append]
    exact ih.change (replay_sound history) change

theorem replay_later (earlier later : List Change) :
    (replay earlier).Later (replay (earlier ++ later)) := by
  induction later using List.reverseRecOn with
  | nil =>
    rw [List.append_nil]
    exact .refl _
  | append_singleton later change ih =>
    rw [← List.append_assoc, replay_append (earlier ++ later)]
    exact ih.trans (change_later _ (replay_sound (earlier ++ later)) change)

/-- A registration stays as long as its triple has been listed ever since. -/
theorem kept_iff_listed (earlier later : List Change) (row : Int × Registration)
    (there : row ∈ (replay earlier).rows) : row ∈ (replay (earlier ++ later)).rows ↔
      ∀ between, between <+: later → target row ∈ listed (earlier ++ between) := by
  induction later using List.reverseRecOn with
  | nil =>
    have found := ((replay_agrees earlier).mem_rows_iff (replay_sound earlier) (target row)).mp
      (List.mem_map_of_mem there)
    simp [there, found]
  | append_singleton later change ih =>
    have agrees := replay_agrees (earlier ++ later)
    have sound := replay_sound (earlier ++ later)
    have later_change := change_later (replay (earlier ++ later)) sound change
    have whole : earlier ++ (later ++ [change]) = earlier ++ later ++ [change] :=
      (List.append_assoc earlier later [change]).symm
    have step : row ∈ (replay (earlier ++ (later ++ [change]))).rows ↔
        row ∈ (replay (earlier ++ later)).rows ∧
          target row ∈ listed (earlier ++ (later ++ [change])) := by
      rw [whole, replay_append, listed_append]
      constructor
      · intro kept
        have old : row ∈ (replay (earlier ++ later)).rows := by
          -- a registration with a new number is none that was there earlier
          have issued := (replay_sound earlier).issued row there
          have next := (replay_later earlier later).next
          obtain known | new := later_change.fresh row kept
          · exact known
          · omega
        exact ⟨old, (agrees.stays_iff sound change row old).mp kept⟩
      · intro both
        exact (agrees.stays_iff sound change row both.1).mpr both.2
    rw [step, ih]
    simp only [List.prefix_concat_iff]
    constructor
    · intro both between start
      obtain ⟨before, last⟩ := both
      cases start with
      | inl all => exact all ▸ last
      | inr shorter => exact before between shorter
    · intro always
      exact ⟨fun between shorter => always between (.inr shorter), always _ (.inl rfl)⟩

theorem mute_is_change (registry : Registry) (descriptor : Int) (evenIfRead : Bool) :
    registry.mute descriptor evenIfRead =
      registry.change (.report ⟨descriptor, 0⟩ { hangUp := true, invalid := evenIfRead }) := by
  simp [change, Loop.muteReported]

/-- Whatever is registered, removed and muted, a registry stands for the list of triples made by
putting what is registered at the end and taking out what is removed. Only changes to the list are
changes to the registry, and a registration is live from its making to the first time its triple is
not listed, and never again. -/
theorem refines_list (history : List Change) :
    (replay history).Represents (listed history) ∧
    (∀ socket kind observer, (replay history).add socket kind observer =
      if (socket.descriptor, kind, observer) ∈ listed history then (false, replay history)
      else (true, replay (history ++ [.add socket kind observer]))) ∧
    (∀ socket kind observer, (socket.descriptor, kind, observer) ∉ listed history →
      (replay history).remove socket kind observer = (none, replay history)) ∧
    (∀ row ∈ (replay history).rows, ∀ socket, socket.descriptor = row.1 →
      (replay history).remove socket row.2.kind row.2.observer =
        (some row.2.number, replay (history ++ [.remove socket row.2.kind row.2.observer]))) ∧
    (∀ descriptor evenIfRead, (replay history).mute descriptor evenIfRead = replay (history ++
      [.report ⟨descriptor, 0⟩ { hangUp := true, invalid := evenIfRead }])) ∧
    ∀ later, ∀ row ∈ (replay history).rows,
      ((replay (history ++ later)).isLive row.2.number = true ↔
        row ∈ (replay (history ++ later)).rows) ∧
      ((replay (history ++ later)).isLive row.2.number = true ↔
        ∀ between, between <+: later → target row ∈ listed (history ++ between)) ∧
      ∀ other ∈ (replay (history ++ later)).rows, other.2.number = row.2.number → other = row := by
  have agrees := replay_agrees history
  have sound := replay_sound history
  have contains := agrees.contains_iff_mem
  refine ⟨agrees.represents sound, ?_, ?_, ?_, ?_, ?_⟩
  · intro socket kind observer
    split
    · rename_i known
      exact add_of_contains _ socket kind observer ((contains _ _ _).mpr known)
    · rename_i unknown
      have absent := Bool.eq_false_iff.mpr (mt (contains _ _ _).mp unknown)
      rw [replay_append, changeAll_cons, changeAll_nil, change]
      obtain ⟨next, added, -⟩ := add_cases _ sound.descriptors socket kind observer absent
      rw [added]
  · intro socket kind observer unknown
    have absent := mt (contains _ _ _).mp unknown
    rw [Registry.contains, Option.not_isSome_iff_eq_none] at absent
    exact remove_of_absent _ socket kind observer absent
  · intro row there socket same
    have found : (replay history).find? socket.descriptor row.2.kind row.2.observer =
        some row.2 := (find?_iff _ sound _ _ _ _).mpr ⟨same ▸ there, rfl, rfl⟩
    obtain ⟨next, removed, -⟩ := remove_cases _ sound.descriptors socket _ _ row.2 found
    rw [replay_append, changeAll_cons, changeAll_nil, change, removed]
  · intro descriptor evenIfRead
    rw [replay_append, changeAll_cons, changeAll_nil, mute_is_change]
  · intro later row there
    have long := replay_later history later
    have kept := long.kept_iff (replay_sound (history ++ later)) row there
    rw [isLive_iff, ← kept]
    refine ⟨Iff.rfl, kept_iff_listed history later row there, ?_⟩
    intro other found same
    exact long.same_row sound there found same

/-- A triple that is removed and added again is listed again, with another registration. -/
theorem refines_list_added_again :
    let history := [Change.add ⟨3, 0⟩ .readable 7]
    let later := [Change.remove ⟨3, 0⟩ .readable 7, .add ⟨3, 0⟩ .readable 7]
    (3, Kind.readable, 7) ∈ listed (history ++ later) ∧
      (replay (history ++ later)).contains 3 .readable 7 = true ∧
      (replay (history ++ later)).isLive 0 = false := by
  intro history later
  have first : (3, ⟨0, .readable, 7⟩) ∈ (replay history).rows := by decide
  have listed_again : (3, Kind.readable, 7) ∈ listed (history ++ later) := by decide
  have lasting := refines_list history
  have live := (lasting.2.2.2.2.2 later _ first).2.1
  refine ⟨listed_again, ?_, ?_⟩
  · exact ((refines_list (history ++ later)).1.contains 3 .readable 7).mpr listed_again
  · rw [Bool.eq_false_iff]
    intro alive
    have always := live.mp alive [.remove ⟨3, 0⟩ .readable 7] (by simp [later])
    exact absurd always (by decide)

end SocketLoop.Registry
