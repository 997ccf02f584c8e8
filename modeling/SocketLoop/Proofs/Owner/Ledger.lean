import SocketLoop.Proofs.Registry.History
import SocketLoop.Owner.Run

/-! The records of owners and the registry. An owner notes down each observer that it registers, and
as long as the reactor is there the notes of all owners and their registrations agree. -/
namespace SocketLoop

namespace Registry

def targets (registry : Registry) : List (Int × Kind × Nat) := registry.rows.map target

theorem mem_add_targets (registry : Registry) (sound : registry.Sound) (socket : Handle)
    (kind : Kind) (observer : Nat) (place : Int × Kind × Nat) :
    place ∈ (registry.add socket kind observer).2.targets ↔
      place ∈ registry.targets ∨ place = (socket.descriptor, kind, observer) := by
  simp only [targets, List.mem_map, mem_add_rows registry sound]
  constructor
  · rintro ⟨row, old | ⟨-, rfl⟩, rfl⟩
    · exact .inl ⟨row, old, rfl⟩
    · exact .inr rfl
  · rintro (⟨row, old, rfl⟩ | rfl)
    · exact ⟨row, .inl old, rfl⟩
    · cases there : registry.contains socket.descriptor kind observer with
      | true =>
        obtain ⟨row, old, same⟩ := List.mem_map.mp ((contains_iff registry sound _ _ _).mp there)
        exact ⟨row, .inl old, same⟩
      | false => exact ⟨_, .inr ⟨rfl, rfl⟩, rfl⟩

theorem mem_remove_targets (registry : Registry) (sound : registry.Sound) (socket : Handle)
    (kind : Kind) (observer : Nat) (place : Int × Kind × Nat) :
    place ∈ (registry.remove socket kind observer).2.targets ↔
      place ∈ registry.targets ∧ place ≠ (socket.descriptor, kind, observer) := by
  simp only [targets, List.mem_map, mem_remove_rows registry sound]
  constructor
  · rintro ⟨row, ⟨old, other⟩, rfl⟩
    exact ⟨⟨row, old, rfl⟩, other⟩
  · rintro ⟨⟨row, old, rfl⟩, other⟩
    exact ⟨row, ⟨old, other⟩, rfl⟩

@[simp] theorem targets_muteReported (registry : Registry) (socket : Handle)
    (readiness : Readiness) :
    (Loop.muteReported registry socket readiness).targets = registry.targets := by
  rw [targets, muteReported_rows, targets]

end Registry

namespace World

variable {η ν : Type}

/-- The socket of an owner and the observers that it has on record. -/
def notes? (world : World η ν) (index : Nat) : Option (Handle × List (Kind × Nat)) :=
  (world.owner? index).map fun owner => (owner.socket, owner.observers)

theorem notes?_of_owner (world : World η ν) (index : Nat) (owner : Owner η)
    (found : world.owner? index = some owner) :
    world.notes? index = some (owner.socket, owner.observers) := by
  rw [notes?, found, Option.map_some]

/-- The records of owners agree with the registry. -/
structure Ledger (world : World η ν) : Prop where
  sound : world.reactor.registry.Sound
  known : ∀ place ∈ world.reactor.registry.targets, place.2.2 < world.outside.makers.length
  owned : ∀ observer index, world.maker? observer = some index →
    index < world.outside.owners.length
  recorded : ∀ index socket records, world.notes? index = some (socket, records) →
    ∀ record ∈ records, world.maker? record.2 = some index
  listed : world.reactor.alive = true → ∀ index socket records,
    world.notes? index = some (socket, records) → ∀ record ∈ records,
      (socket.descriptor, record) ∈ world.reactor.registry.targets
  registered : ∀ place ∈ world.reactor.registry.targets, ∀ index,
    world.maker? place.2.2 = some index → ∃ socket records,
      world.notes? index = some (socket, records) ∧ place.1 = socket.descriptor ∧ place.2 ∈ records
  gone : world.reactor.alive = false → world.reactor.registry.targets = []

theorem owner?_changeOwner (world : World η ν) (index : Nat) (change : Owner η → Owner η)
    (other : Nat) : (world.changeOwner index change).owner? other =
      (world.owner? other).map fun owner => if index = other then change owner else owner := by
  rw [owner?, changeOwner, List.getElem?_modify]
  rfl

theorem owner?_changeOwner_ne (world : World η ν) (index : Nat) (change : Owner η → Owner η)
    (other : Nat) (apart : other ≠ index) :
    (world.changeOwner index change).owner? other = world.owner? other := by
  rw [owner?_changeOwner]
  simp [Ne.symm apart]

theorem owner?_changeOwner_self (world : World η ν) (index : Nat) (change : Owner η → Owner η)
    (owner : Owner η) (found : world.owner? index = some owner) :
    (world.changeOwner index change).owner? index = some (change owner) := by
  rw [owner?_changeOwner, found, Option.map_some, if_pos rfl]

theorem owner?_changeAttempt_self (world : World η ν) (index : Nat) (change : Attempt → Attempt)
    (owner : Owner η) (attempt : Attempt) (found : world.owner? index = some owner)
    (role : owner.role = .attempt attempt) :
    (world.changeAttempt index change).owner? index =
      some { owner with role := .attempt (change attempt) } := by
  rw [changeAttempt, owner?_changeOwner_self _ _ _ _ found, role]

theorem length_changeOwner (world : World η ν) (index : Nat) (change : Owner η → Owner η) :
    (world.changeOwner index change).outside.owners.length = world.outside.owners.length :=
  List.length_modify ..

theorem notes?_changeOwner (world : World η ν) (index : Nat) (change : Owner η → Owner η)
    (socket : ∀ owner, (change owner).socket = owner.socket)
    (observers : ∀ owner, (change owner).observers = owner.observers) (other : Nat) :
    (world.changeOwner index change).notes? other = world.notes? other := by
  rw [notes?, owner?_changeOwner, Option.map_map, notes?]
  congr 1
  funext owner
  by_cases same : index = other <;> simp [same, socket, observers]

theorem notes?_observers (world : World η ν) (index : Nat)
    (change : List (Kind × Nat) → List (Kind × Nat)) (other : Nat) :
    (world.changeOwner index fun owner =>
      { owner with observers := change owner.observers }).notes? other =
        (world.notes? other).map fun notes =>
          if index = other then (notes.1, change notes.2) else notes := by
  rw [notes?, owner?_changeOwner, notes?, Option.map_map, Option.map_map]
  congr 1
  funext owner
  by_cases same : index = other <;> simp [same]

theorem notes?_observers_iff (world : World η ν) (index : Nat)
    (change : List (Kind × Nat) → List (Kind × Nat)) (owner : Owner η)
    (found : world.owner? index = some owner) (other : Nat) (notes : Handle × List (Kind × Nat)) :
    (world.changeOwner index fun owner =>
      { owner with observers := change owner.observers }).notes? other = some notes ↔
        other ≠ index ∧ world.notes? other = some notes ∨
          other = index ∧ notes = (owner.socket, change owner.observers) := by
  rw [notes?_observers, Option.map_eq_some_iff]
  by_cases same : other = index
  · have own := world.notes?_of_owner index owner found
    simp [same, own, eq_comm]
  · simp [same, Ne.symm same]

theorem maker?_iff (world : World η ν) (observer index : Nat) :
    world.maker? observer = some index ↔ world.outside.makers[observer]? = some (some index) := by
  rw [maker?, Option.join_eq_some_iff]

theorem maker?_lt (world : World η ν) (observer index : Nat)
    (made : world.maker? observer = some index) : observer < world.outside.makers.length :=
  (List.getElem?_eq_some_iff.mp ((world.maker?_iff observer index).mp made)).1

theorem maker?_append (world after : World η ν) (maker : Option Nat)
    (makers : after.outside.makers = world.outside.makers ++ [maker]) (observer index : Nat) :
    after.maker? observer = some index ↔ world.maker? observer = some index ∨
      observer = world.outside.makers.length ∧ maker = some index := by
  rw [maker?_iff, maker?_iff, makers, List.getElem?_append]
  split
  · rename_i old
    simp [Nat.ne_of_lt old]
  · rename_i new
    rw [List.getElem?_eq_none (Nat.le_of_not_lt new), List.getElem?_singleton]
    by_cases same : observer = world.outside.makers.length
    · simp [same]
    · have apart : ¬observer - world.outside.makers.length = 0 := by omega
      simp [same, apart]

theorem owner?_addOwner (world : World η ν) (owner : Owner η) (index : Nat) (value : Owner η) :
    (world.addOwner owner).2.owner? index = some value ↔ world.owner? index = some value ∨
      index = world.outside.owners.length ∧ value = owner := by
  simp only [owner?, addOwner, List.getElem?_append, List.getElem?_singleton]
  split
  · rename_i old
    simp [Nat.ne_of_lt old]
  · rename_i new
    rw [List.getElem?_eq_none (Nat.le_of_not_lt new)]
    by_cases same : index = world.outside.owners.length
    · simp [same, eq_comm]
    · have apart : ¬index - world.outside.owners.length = 0 := by omega
      simp [same, apart]

theorem notes?_addOwner (world : World η ν) (owner : Owner η) (index : Nat)
    (notes : Handle × List (Kind × Nat)) :
    (world.addOwner owner).2.notes? index = some notes ↔ world.notes? index = some notes ∨
      index = world.outside.owners.length ∧ notes = (owner.socket, owner.observers) := by
  simp only [notes?, Option.map_eq_some_iff, owner?_addOwner]
  constructor
  · rintro ⟨value, old | ⟨rfl, rfl⟩, rfl⟩
    · exact .inl ⟨value, old, rfl⟩
    · exact .inr ⟨rfl, rfl⟩
  · rintro (⟨value, old, rfl⟩ | ⟨rfl, rfl⟩)
    · exact ⟨value, .inl old, rfl⟩
    · exact ⟨owner, .inr ⟨rfl, rfl⟩, rfl⟩

theorem enlist_of_alive (world : World η ν) (index : Nat) (kind : Kind) (owner : Owner η)
    (alive : world.reactor.alive = true) (found : world.owner? index = some owner) :
    world.enlist index kind = (world.record index kind).2.onReactor fun reactor =>
      reactor.addHandler owner.socket kind world.outside.makers.length := by
  have noted : (world.record index kind).2.owner? index = some { owner with
      observers := owner.observers ++ [(kind, world.outside.makers.length)] } := by
    have there : (world.newObserver (some index)).2.owner? index = some owner := found
    simp only [record, owner?_changeOwner, there, Option.map_some, if_true]
    rfl
  rw [enlist, if_pos alive]
  simp only [register, noted]
  rfl

namespace Ledger

variable {world before after : World η ν}

theorem of_same (ledger : before.Ledger) (sound : after.reactor.registry.Sound)
    (targets : after.reactor.registry.targets = before.reactor.registry.targets)
    (alive : after.reactor.alive = before.reactor.alive)
    (makers : after.outside.makers = before.outside.makers)
    (length : after.outside.owners.length = before.outside.owners.length)
    (notes : ∀ index, after.notes? index = before.notes? index) : after.Ledger := by
  have made : ∀ observer, after.maker? observer = before.maker? observer := by
    intro observer
    rw [maker?, maker?, makers]
  constructor
  case sound => exact sound
  case known =>
    rw [targets, makers]
    exact ledger.known
  case owned =>
    simp only [made, length]
    exact ledger.owned
  case recorded =>
    simp only [made, notes]
    exact ledger.recorded
  case listed =>
    simp only [alive, notes, targets]
    exact ledger.listed
  case registered =>
    simp only [made, notes, targets]
    exact ledger.registered
  case gone =>
    rw [alive, targets]
    exact ledger.gone

theorem add (ledger : world.Ledger) (alive : world.reactor.alive = true) (socket : Handle)
    (kind : Kind) (observer : Nat) (own : world.outside.makers[observer]? = some none) :
    Ledger (world.onReactor fun reactor => reactor.addHandler socket kind observer) := by
  have places := world.reactor.registry.mem_add_targets ledger.sound socket kind observer
  have unmade : world.maker? observer = none := by simp [maker?, own]
  constructor
  case sound => exact Registry.add_sound _ ledger.sound socket kind observer
  case known =>
    intro place there
    rcases (places place).mp there with old | rfl
    · exact ledger.known place old
    · exact (List.getElem?_eq_some_iff.mp own).1
  case owned => exact ledger.owned
  case recorded => exact ledger.recorded
  case listed =>
    intro _ index home records noted record member
    exact (places _).mpr (.inl (ledger.listed alive index home records noted record member))
  case registered =>
    intro place there index made
    rcases (places place).mp there with old | rfl
    · exact ledger.registered place old index made
    · exact absurd (unmade.symm.trans made) (by simp)
  case gone =>
    intro dead
    exact absurd (alive.symm.trans dead) (by simp)

theorem remove (ledger : world.Ledger) (socket : Handle) (kind : Kind) (observer : Nat)
    (own : world.outside.makers[observer]? = some none) :
    Ledger (world.onReactor fun reactor => reactor.removeHandler socket kind observer) := by
  have places := world.reactor.registry.mem_remove_targets ledger.sound socket kind observer
  have unmade : world.maker? observer = none := by simp [maker?, own]
  constructor
  case sound => exact Registry.remove_sound _ ledger.sound socket kind observer
  case known => exact fun place there => ledger.known place ((places place).mp there).1
  case owned => exact ledger.owned
  case recorded => exact ledger.recorded
  case listed =>
    intro alive index home records noted record member
    refine (places _).mpr ⟨ledger.listed alive index home records noted record member, ?_⟩
    rintro same
    have made := ledger.recorded index home records noted record member
    rw [(Prod.mk.inj same).2] at made
    exact absurd (unmade.symm.trans made) (by simp)
  case registered => exact fun place there => ledger.registered place ((places place).mp there).1
  case gone =>
    intro dead
    refine List.eq_nil_iff_forall_not_mem.mpr ?_
    intro place there
    have old := ((places place).mp there).1
    rw [ledger.gone dead] at old
    cases old

theorem registered_iff (ledger : world.Ledger) (index : Nat) (owner : Owner η)
    (found : world.owner? index = some owner) :
    (∃ row ∈ world.reactor.registry.rows, world.maker? row.2.observer = some index) ↔
      world.reactor.alive = true ∧ owner.observers ≠ [] := by
  have own := world.notes?_of_owner index owner found
  constructor
  · rintro ⟨row, there, made⟩
    have place := List.mem_map_of_mem (f := Registry.target) there
    obtain ⟨socket, records, noted, -, member⟩ := ledger.registered _ place index made
    rw [own] at noted
    obtain ⟨rfl, rfl⟩ := Prod.mk.inj (Option.some.inj noted)
    refine ⟨?_, List.ne_nil_of_mem member⟩
    by_contra dead
    have none := ledger.gone (Bool.eq_false_iff.mpr dead)
    exact List.ne_nil_of_mem place none
  · rintro ⟨alive, some⟩
    obtain ⟨record, member⟩ := List.exists_mem_of_ne_nil _ some
    have place := ledger.listed alive index owner.socket owner.observers own record member
    obtain ⟨row, there, same⟩ := List.mem_map.mp place
    have made := ledger.recorded index owner.socket owner.observers own record member
    rw [← (Prod.mk.inj same).2] at made
    exact ⟨row, there, made⟩

theorem newObserver (ledger : world.Ledger) : (world.newObserver none).2.Ledger := by
  have made := world.maker?_append (world.newObserver none).2 none rfl
  constructor
  case sound => exact ledger.sound
  case known =>
    intro place there
    exact Nat.lt_of_lt_of_le (ledger.known place there) (by simp [World.newObserver])
  case owned =>
    intro observer index maker
    exact ledger.owned observer index (((made observer index).mp maker).resolve_right (by simp))
  case recorded =>
    intro index socket records noted record member
    exact (made _ _).mpr (.inl (ledger.recorded index socket records noted record member))
  case listed => exact ledger.listed
  case registered =>
    intro place there index maker
    exact ledger.registered place there index (((made _ index).mp maker).resolve_right (by simp))
  case gone => exact ledger.gone

theorem addOwner (ledger : world.Ledger) (owner : Owner η) (bare : owner.observers = []) :
    (world.addOwner owner).2.Ledger := by
  have notes := world.notes?_addOwner owner
  constructor
  case sound => exact ledger.sound
  case known => exact ledger.known
  case owned =>
    intro observer index made
    exact Nat.lt_of_lt_of_le (ledger.owned observer index made) (by simp [World.addOwner])
  case recorded =>
    intro index socket records noted record member
    rcases (notes index _).mp noted with old | ⟨-, new⟩
    · exact ledger.recorded index socket records old record member
    · rw [(Prod.mk.inj new).2, bare] at member
      cases member
  case listed =>
    intro alive index socket records noted record member
    rcases (notes index _).mp noted with old | ⟨-, new⟩
    · exact ledger.listed alive index socket records old record member
    · rw [(Prod.mk.inj new).2, bare] at member
      cases member
  case registered =>
    intro place there index made
    obtain ⟨socket, records, noted, rest⟩ := ledger.registered place there index made
    exact ⟨socket, records, (notes index _).mpr (.inl noted), rest⟩
  case gone => exact ledger.gone

theorem enlist (ledger : world.Ledger) (alive : world.reactor.alive = true) (index : Nat)
    (kind : Kind) (owner : Owner η) (found : world.owner? index = some owner) :
    (world.enlist index kind).Ledger := by
  rw [enlist_of_alive world index kind owner alive found]
  have places := world.reactor.registry.mem_add_targets ledger.sound owner.socket kind
    world.outside.makers.length
  have made := world.maker?_append (world.record index kind).2 (some index) rfl
  have notes := (world.newObserver (some index)).2.notes?_observers_iff index
    (· ++ [(kind, world.outside.makers.length)]) owner found
  have own := world.notes?_of_owner index owner found
  constructor
  case sound => exact Registry.add_sound _ ledger.sound _ _ _
  case known =>
    intro place there
    have longer : world.outside.makers.length <
        (world.record index kind).2.outside.makers.length := by
      simp [record, World.newObserver, changeOwner]
    rcases (places place).mp there with old | rfl
    · exact Nat.lt_trans (ledger.known place old) longer
    · exact longer
  case owned =>
    intro observer other maker
    refine Nat.lt_of_lt_of_eq ?_ (length_changeOwner _ index _).symm
    rcases (made observer other).mp maker with old | ⟨-, new⟩
    · exact ledger.owned observer other old
    · rw [← Option.some.inj new]
      exact (List.getElem?_eq_some_iff.mp found).1
  case recorded =>
    intro other socket records noted record member
    rcases (notes other _).mp noted with ⟨-, old⟩ | ⟨rfl, new⟩
    · exact (made _ _).mpr (.inl (ledger.recorded other socket records old record member))
    · rw [(Prod.mk.inj new).2, List.mem_append, List.mem_singleton] at member
      rcases member with old | rfl
      · exact (made _ _).mpr (.inl (ledger.recorded other _ _ own record old))
      · exact (made _ _).mpr (.inr ⟨rfl, rfl⟩)
  case listed =>
    intro _ other socket records noted record member
    rcases (notes other _).mp noted with ⟨-, old⟩ | ⟨rfl, new⟩
    · exact (places _).mpr (.inl (ledger.listed alive other socket records old record member))
    · obtain ⟨rfl, rfl⟩ := Prod.mk.inj new
      rcases List.mem_append.mp member with old | new
      · exact (places _).mpr (.inl (ledger.listed alive other _ _ own record old))
      · rw [List.mem_singleton.mp new]
        exact (places _).mpr (.inr rfl)
  case registered =>
    intro place there other maker
    rcases (places place).mp there with old | rfl
    · -- an observer that was there was not made just now
      have before : world.maker? place.2.2 = some other :=
        ((made _ _).mp maker).resolve_right fun new =>
          absurd (ledger.known place old) (by simp [new.1])
      obtain ⟨socket, records, noted, home, member⟩ := ledger.registered place old other before
      by_cases same : other = index
      · rw [same, own] at noted
        obtain ⟨rfl, rfl⟩ := Prod.mk.inj (Option.some.inj noted)
        exact ⟨_, _, (notes other _).mpr (.inr ⟨same, rfl⟩), home, List.mem_append_left _ member⟩
      · exact ⟨socket, records, (notes other _).mpr (.inl ⟨same, noted⟩), home, member⟩
    · have new : index = other := by
        rcases (made _ _).mp maker with old | ⟨-, new⟩
        · exact absurd (world.maker?_lt _ _ old) (Nat.lt_irrefl _)
        · exact Option.some.inj new
      exact ⟨_, _, (notes other _).mpr (.inr ⟨new.symm, rfl⟩), rfl,
        List.mem_append_right _ List.mem_cons_self⟩
  case gone =>
    intro dead
    exact absurd (alive.symm.trans dead) (by simp)

end Ledger

theorem unregister_effect (world : World η ν) (sound : world.reactor.registry.Sound) (index : Nat)
    (struck : List (Kind × Nat)) (owner : Owner η) (found : world.owner? index = some owner) :
    (world.unregister index struck).outside = world.outside ∧
    (∃ registry, (world.unregister index struck).reactor = { world.reactor with registry }) ∧
    (world.unregister index struck).reactor.registry.Sound ∧
    ∀ place, place ∈ (world.unregister index struck).reactor.registry.targets ↔
      place ∈ world.reactor.registry.targets ∧
        ∀ record ∈ struck, place ≠ (owner.socket.descriptor, record) := by
  rw [unregister, found]
  clear found
  dsimp only
  induction struck generalizing world with
  | nil => exact ⟨rfl, ⟨_, rfl⟩, sound, by simp⟩
  | cons record rest ih =>
    have removed := Registry.remove_sound _ sound owner.socket record.1 record.2
    obtain ⟨outside, ⟨registry, reactor⟩, still, places⟩ := ih (world.onReactor fun reactor =>
      reactor.removeHandler owner.socket record.1 record.2) removed
    refine ⟨outside, ⟨registry, reactor⟩, still, ?_⟩
    intro place
    rw [List.foldl_cons, places, List.forall_mem_cons]
    have one := world.reactor.registry.mem_remove_targets sound owner.socket record.1 record.2 place
    exact (and_congr_left fun _ => one).trans and_assoc

/-- Withdrawing takes records of some kinds, and the registrations noted in them. -/
theorem withdraw_effect (world : World η ν) (sound : world.reactor.registry.Sound) (index : Nat)
    (which : Kind → Bool) (owner : Owner η) (found : world.owner? index = some owner) :
    (world.withdraw index which).outside = (world.changeOwner index fun owner =>
      { owner with observers := owner.observers.filter fun row => !which row.1 }).outside ∧
    (∃ registry, (world.withdraw index which).reactor = { world.reactor with registry }) ∧
    (world.withdraw index which).reactor.registry.Sound ∧
    ∀ place, place ∈ (world.withdraw index which).reactor.registry.targets ↔
      place ∈ world.reactor.registry.targets ∧
        ∀ record ∈ owner.observers, which record.1 = true →
          place ≠ (owner.socket.descriptor, record) := by
  have kept : (world.changeOwner index fun owner =>
      { owner with observers := owner.observers.filter fun row => !which row.1 }).owner? index =
        some { owner with observers := owner.observers.filter fun row => !which row.1 } :=
    owner?_changeOwner_self world index _ owner found
  have effect := unregister_effect (world.changeOwner index fun owner =>
    { owner with observers := owner.observers.filter fun row => !which row.1 }) sound index
      (owner.observers.filter fun row => which row.1) _ kept
  simp only [List.mem_filter, and_imp] at effect
  rw [withdraw, strike, found]
  exact effect

theorem owner?_withdraw (world : World η ν) (sound : world.reactor.registry.Sound) (index : Nat)
    (which : Kind → Bool) (owner : Owner η) (found : world.owner? index = some owner) :
    (world.withdraw index which).owner? index =
      some { owner with observers := owner.observers.filter fun row => !which row.1 } := by
  obtain ⟨outside, -, -, -⟩ := world.withdraw_effect sound index which owner found
  rw [owner?, outside]
  exact owner?_changeOwner_self world index _ owner found

theorem Ledger.withdraw {world : World η ν} (ledger : world.Ledger) (index : Nat)
    (which : Kind → Bool) (owner : Owner η) (found : world.owner? index = some owner) :
    (world.withdraw index which).Ledger := by
  obtain ⟨outside, ⟨registry, reactor⟩, sound, places⟩ :=
    world.withdraw_effect ledger.sound index which owner found
  have alive := congrArg Reactor.alive reactor
  have struck := world.notes?_observers_iff index (·.filter fun row => !which row.1) owner found
  have own := world.notes?_of_owner index owner found
  generalize world.withdraw index which = after at outside sound places alive ⊢
  have makers : after.outside.makers = world.outside.makers := by rw [outside]; rfl
  have made : ∀ observer, after.maker? observer = world.maker? observer := by
    intro observer
    rw [maker?, maker?, makers]
  have notes : ∀ other notes, after.notes? other = some notes ↔
      other ≠ index ∧ world.notes? other = some notes ∨ other = index ∧
        notes = (owner.socket, owner.observers.filter fun row => !which row.1) := by
    intro other
    rw [notes?, owner?, outside]
    exact struck other
  constructor
  case sound => exact sound
  case known =>
    intro place there
    rw [makers]
    exact ledger.known place ((places place).mp there).1
  case owned =>
    intro observer other maker
    rw [outside, length_changeOwner]
    exact ledger.owned observer other ((made observer).symm.trans maker)
  case recorded =>
    intro other socket records noted record member
    rw [made]
    rcases (notes other _).mp noted with ⟨-, old⟩ | ⟨rfl, new⟩
    · exact ledger.recorded other socket records old record member
    · rw [(Prod.mk.inj new).2] at member
      exact ledger.recorded other _ _ own record (List.mem_filter.mp member).1
  case listed =>
    intro living other socket records noted record member
    rw [alive] at living
    rcases (notes other _).mp noted with ⟨apart, old⟩ | ⟨rfl, new⟩
    · refine (places _).mpr ⟨ledger.listed living other socket records old record member, ?_⟩
      -- records of two owners are about different observers
      intro taken mine _ same
      have theirs := ledger.recorded other socket records old record member
      rw [(Prod.mk.inj same).2, ledger.recorded index _ _ own taken mine] at theirs
      exact apart (Option.some.inj theirs).symm
    · obtain ⟨rfl, rfl⟩ := Prod.mk.inj new
      obtain ⟨there, stays⟩ := List.mem_filter.mp member
      refine (places _).mpr ⟨ledger.listed living other _ _ own record there, ?_⟩
      intro taken _ goes same
      rw [(Prod.mk.inj same).2, goes] at stays
      cases stays
  case registered =>
    intro place there other maker
    obtain ⟨old, stays⟩ := (places place).mp there
    rw [made] at maker
    obtain ⟨socket, records, before, home, member⟩ := ledger.registered place old other maker
    by_cases same : other = index
    · rw [same, own] at before
      obtain ⟨rfl, rfl⟩ := Prod.mk.inj (Option.some.inj before)
      refine ⟨_, _, (notes other _).mpr (.inr ⟨same, rfl⟩), home, ?_⟩
      refine List.mem_filter.mpr ⟨member, ?_⟩
      rw [Bool.not_eq_true', Bool.eq_false_iff]
      exact fun goes => stays place.2 member goes (Prod.ext home rfl)
    · exact ⟨socket, records, (notes other _).mpr (.inl ⟨same, before⟩), home, member⟩
  case gone =>
    intro dead
    rw [alive] at dead
    refine List.eq_nil_iff_forall_not_mem.mpr ?_
    intro place there
    have old := ((places place).mp there).1
    rw [ledger.gone dead] at old
    cases old

/-- The world once the last reference to the reactor is gone, with what the registry held. -/
def lost (world : World η ν) : World η ν :=
  world.onReactor fun reactor =>
    { reactor with
      alive := false
      registry := { reactor.registry with
        entries := []
        cleared := reactor.registry.cleared ++
          (reactor.registry.entries.flatMap SocketEntry.registrations).map Registration.number } }

theorem Ledger.lost {world : World η ν} (ledger : world.Ledger) : world.lost.Ledger where
  sound := by
    constructor
    · exact List.nodup_nil
    · simp [World.lost, Site.onReactor]
    · exact List.nodup_nil
    · exact List.nodup_nil
    · simp [World.lost, Site.onReactor, Registry.rows]
    · intro number spent
      rcases List.mem_append.mp spent with old | new
      · exact ledger.sound.spent number old
      · obtain ⟨registration, listed, rfl⟩ := List.mem_map.mp new
        obtain ⟨entry, known, inside⟩ := List.mem_flatMap.mp listed
        exact Registry.issued_in_entry _ ledger.sound entry known registration inside
    · simp [World.lost, Site.onReactor, Registry.rows]
  known := by simp [World.lost, Site.onReactor, Registry.targets, Registry.rows]
  owned := ledger.owned
  recorded := ledger.recorded
  listed alive := absurd alive (by simp [World.lost, Site.onReactor])
  registered := by simp [World.lost, Site.onReactor, Registry.targets, Registry.rows]
  gone _ := rfl

end World

end SocketLoop
