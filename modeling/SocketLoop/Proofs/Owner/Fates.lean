import Mathlib.Logic.Relation
import SocketLoop.Proofs.Owner.Ledger

/-! The fates of services. A service is attached, handles notifications and is dropped; users and
other owners do their own things in between, but have no way to reach its record or its handler. -/
namespace SocketLoop

variable {η ν : Type}

def Deed.concerns (index : Nat) : Deed → Bool
  | .handled owner | .dropped owner => owner == index
  | _ => false

def Owner.serves (owner : Owner η) : Bool :=
  match owner.role with
  | .service _ => true
  | _ => false

namespace World

open Relation

/-- An owner keeps its record and its registrations together. -/
inductive Edit (index : Nat) (world : World η ν) : World η ν → Prop where
  | enlist {owner : Owner η} (alive : world.reactor.alive = true)
      (found : world.owner? index = some owner) (kind : Kind) :
      Edit index world (world.enlist index kind)
  | withdraw {owner : Owner η} (found : world.owner? index = some owner) (which : Kind → Bool) :
      Edit index world (world.withdraw index which)

def Edits (index : Nat) : World η ν → World η ν → Prop := ReflTransGen (Edit index)

def Registered (world : World η ν) (index : Nat) : Prop :=
  ∃ owner, world.owner? index = some owner ∧ owner.observers ≠ []

def Serving (world : World η ν) (index : Nat) : Prop :=
  ∃ owner handler, world.owner? index = some owner ∧ owner.role = .service (some handler)

def discard (world : World η ν) (index : Nat) : World η ν :=
  (world.setHandler index none).done (.dropped index)

/-- What users do, and owners other than services. Of the services they know their sockets only:
they attach new ones. -/
inductive Move (world : World η ν) : World η ν → Prop where
  | beyond (value : ν) : Move world (world.onBeyond fun _ => value)
  | stop : Move world (world.onReactor Reactor.stop)
  | observer : Move world (world.newObserver none).2
  | add (socket : Handle) (kind : Kind) (observer : Nat)
      (own : world.outside.makers[observer]? = some none) :
      Move world (world.onReactor fun reactor => reactor.addHandler socket kind observer)
  | remove (socket : Handle) (kind : Kind) (observer : Nat)
      (own : world.outside.makers[observer]? = some none) :
      Move world (world.onReactor fun reactor => reactor.removeHandler socket kind observer)
  | owner (owner : Owner η) (bare : owner.observers = []) (other : owner.serves = false) :
      Move world (world.addOwner owner).2
  | edit {after : World η ν} (index : Nat) (owner : Owner η)
      (found : world.owner? index = some owner) (other : owner.serves = false)
      (edit : Edit index world after) : Move world after
  | attempt (index : Nat) (change : Attempt → Attempt) :
      Move world (world.changeAttempt index change)
  | acceptor (index : Nat) (change : Acceptor → Acceptor) :
      Move world (world.changeAcceptor index change)
  | done (deed : Deed) (other : ∀ index, deed.concerns index = false) :
      Move world (world.done deed)
  | attach (socket : Handle) (handler : η) {after : World η ν}
      (edits : Edits world.outside.owners.length
        (world.addOwner { socket, role := .service (some handler) }).2 after)
      (registered : after.Registered world.outside.owners.length) : Move world after
  | bare (socket : Handle) (handler : η) :
      Move world ((world.addOwner { socket, role := .service (some handler) }).2.discard
        world.outside.owners.length)

def Moves : World η ν → World η ν → Prop := ReflTransGen Move

/-- A handler was dropped once, and nothing came after that. -/
def Ended (index : Nat) (deeds : List Deed) : Prop :=
  ∃ later earlier, deeds = later ++ .dropped index :: earlier ∧
    (∀ deed ∈ later, deed.concerns index = false) ∧ .dropped index ∉ earlier

structure Fate (world : World η ν) (index : Nat) (owner : Owner η) (handler : Option η) :
    Prop where
  living : handler.isSome = true ↔ world.reactor.alive = true ∧ owner.observers ≠ []
  undropped : handler.isSome = true → .dropped index ∉ world.outside.deeds
  ended : handler = none → Ended index world.outside.deeds

structure Sound (world : World η ν) : Prop extends Ledger world where
  fates : ∀ index owner handler, world.owner? index = some owner →
    owner.role = .service handler → world.Fate index owner handler
  future : ∀ index, world.outside.owners.length ≤ index →
    ∀ deed ∈ world.outside.deeds, deed.concerns index = false

/-- What an owner's changes to its own record leave as it was. -/
structure Near (index : Nat) (before after : World η ν) : Prop where
  reactor : ∃ registry, after.reactor = { before.reactor with registry }
  deeds : after.outside.deeds = before.outside.deeds
  length : after.outside.owners.length = before.outside.owners.length
  others : ∀ other, other ≠ index → after.owner? other = before.owner? other
  own : ∀ owner, before.owner? index = some owner →
    ∃ observers, after.owner? index = some { owner with observers }

/-- The services that were there are as they were, except the free ones, and so is the reactor but
for its registry and the request to stop. -/
structure Beside (free : Nat → Prop) (before after : World η ν) : Prop where
  reactor : ∃ registry stopRequested,
    after.reactor = { before.reactor with registry, stopRequested }
  length : before.outside.owners.length ≤ after.outside.owners.length
  deeds : ∃ deeds, after.outside.deeds = deeds ++ before.outside.deeds ∧ ∀ deed ∈ deeds, ∀ index,
    deed.concerns index = true → (free index ∨ before.outside.owners.length ≤ index) ∧
      index < after.outside.owners.length
  services : ∀ index owner, ¬free index → index < before.outside.owners.length →
    owner.serves = true → (after.owner? index = some owner ↔ before.owner? index = some owner)

theorem owner?_lt (world : World η ν) (index : Nat) (owner : Owner η)
    (found : world.owner? index = some owner) : index < world.outside.owners.length :=
  (List.getElem?_eq_some_iff.mp found).1

theorem serves_of_role (owner : Owner η) (handler : Option η)
    (role : owner.role = .service handler) : owner.serves = true := by
  rw [Owner.serves, role]

namespace Near

variable {index : Nat} {before between after : World η ν}

theorem refl (world : World η ν) : Near index world world :=
  ⟨⟨_, rfl⟩, rfl, rfl, fun _ _ => rfl, fun owner found => ⟨owner.observers, found⟩⟩

theorem trans (first : Near index before between) (second : Near index between after) :
    Near index before after := by
  obtain ⟨registry, reactor⟩ := first.reactor
  obtain ⟨later, reactor'⟩ := second.reactor
  refine ⟨⟨later, by rw [reactor', reactor]⟩, second.deeds.trans first.deeds,
    second.length.trans first.length, ?_, ?_⟩
  · exact fun other apart => (second.others other apart).trans (first.others other apart)
  · intro owner found
    obtain ⟨observers, kept⟩ := first.own owner found
    exact second.own { owner with observers } kept

theorem alive (near : Near index before after) : after.reactor.alive = before.reactor.alive := by
  obtain ⟨registry, reactor⟩ := near.reactor
  rw [reactor]

theorem beside (near : Near index before after) : Beside (· = index) before after where
  reactor := near.reactor.imp fun registry same => ⟨before.reactor.stopRequested, by rw [same]⟩
  length := Nat.le_of_eq near.length.symm
  deeds := ⟨[], near.deeds, by simp⟩
  services other owner apart _ _ := by rw [near.others other apart]

end Near

namespace Beside

variable {free more : Nat → Prop} {before between after : World η ν}

theorem refl (free : Nat → Prop) (world : World η ν) : Beside free world world :=
  ⟨⟨_, _, rfl⟩, Nat.le_refl _, ⟨[], rfl, by simp⟩, fun _ _ _ _ _ => Iff.rfl⟩

theorem mono (beside : Beside free before after) (weaker : ∀ index, free index → more index) :
    Beside more before after := by
  obtain ⟨deeds, same, concerned⟩ := beside.deeds
  refine ⟨beside.reactor, beside.length, ⟨deeds, same, ?_⟩, ?_⟩
  · intro deed member index concerns
    obtain ⟨known, bound⟩ := concerned deed member index concerns
    exact ⟨known.imp_left (weaker index), bound⟩
  · intro index owner taken
    exact beside.services index owner (mt (weaker index) taken)

theorem trans (first : Beside free before between) (second : Beside free between after) :
    Beside free before after := by
  obtain ⟨registry, stop, reactor⟩ := first.reactor
  obtain ⟨registry', stop', reactor'⟩ := second.reactor
  obtain ⟨deeds, same, concerned⟩ := first.deeds
  obtain ⟨deeds', same', concerned'⟩ := second.deeds
  refine ⟨⟨registry', stop', by rw [reactor', reactor]⟩, Nat.le_trans first.length second.length,
    ⟨deeds' ++ deeds, by rw [same', same, List.append_assoc], ?_⟩, ?_⟩
  · intro deed member index concerns
    rcases List.mem_append.mp member with new | old
    · obtain ⟨known, bound⟩ := concerned' deed new index concerns
      exact ⟨known.imp_right (Nat.le_trans first.length), bound⟩
    · obtain ⟨known, bound⟩ := concerned deed old index concerns
      exact ⟨known, Nat.lt_of_lt_of_le bound second.length⟩
  · intro index owner taken old serves
    have later := second.services index owner taken (Nat.lt_of_lt_of_le old first.length) serves
    exact later.trans (first.services index owner taken old serves)

theorem alive (beside : Beside free before after) :
    after.reactor.alive = before.reactor.alive := by
  obtain ⟨registry, stop, reactor⟩ := beside.reactor
  rw [reactor]

theorem kept (beside : Beside free before after) {index : Nat} {owner : Owner η}
    (taken : ¬free index) (found : before.owner? index = some owner)
    (serves : owner.serves = true) : after.owner? index = some owner :=
  (beside.services index owner taken (before.owner?_lt index owner found) serves).mpr found

end Beside

theorem near_observers (world : World η ν) (index : Nat)
    (change : List (Kind × Nat) → List (Kind × Nat)) :
    Near index world (world.changeOwner index fun owner =>
      { owner with observers := change owner.observers }) where
  reactor := ⟨_, rfl⟩
  deeds := rfl
  length := length_changeOwner world index _
  others := owner?_changeOwner_ne world index _
  own owner found := ⟨change owner.observers, owner?_changeOwner_self world index _ owner found⟩

theorem near_of_owners {index : Nat} {before after : World η ν}
    (reactor : ∃ registry, after.reactor = { before.reactor with registry })
    (owners : after.outside.owners = before.outside.owners)
    (deeds : after.outside.deeds = before.outside.deeds) : Near index before after := by
  have found : ∀ other, after.owner? other = before.owner? other := by
    intro other
    rw [owner?, owner?, owners]
  refine ⟨reactor, deeds, by rw [owners], fun other _ => found other, ?_⟩
  intro owner there
  exact ⟨owner.observers, (found index).trans there⟩

namespace Edit

variable {index : Nat} {before after : World η ν}

theorem ledger (edit : Edit index before after) (ledger : before.Ledger) : after.Ledger := by
  cases edit with
  | enlist alive found kind => exact ledger.enlist alive index kind _ found
  | withdraw found which => exact ledger.withdraw index which _ found

theorem near (edit : Edit index before after) (ledger : before.Ledger) :
    Near index before after := by
  cases edit with
  | @enlist owner alive found kind =>
    rw [enlist_of_alive before index kind owner alive found]
    have made : Near index before (before.newObserver (some index)).2 :=
      near_of_owners ⟨_, rfl⟩ rfl rfl
    have noted := near_observers (before.newObserver (some index)).2 index
      (· ++ [(kind, before.outside.makers.length)])
    exact (made.trans noted).trans (near_of_owners ⟨_, rfl⟩ rfl rfl)
  | @withdraw owner found which =>
    obtain ⟨outside, reactor, -, -⟩ := before.withdraw_effect ledger.sound index which owner found
    have struck := near_observers before index (·.filter fun row => !which row.1)
    exact struck.trans (near_of_owners reactor (by rw [outside]) (by rw [outside]))

end Edit

namespace Edits

variable {index : Nat} {before after : World η ν}

theorem near (edits : Edits index before after) (ledger : before.Ledger) :
    after.Ledger ∧ Near index before after := by
  induction edits with
  | refl => exact ⟨ledger, .refl before⟩
  | tail _ edit ih => exact ⟨edit.ledger ih.1, ih.2.trans (edit.near ih.1)⟩

end Edits

theorem Fate.of_same {before after : World η ν} {index : Nat} {owner : Owner η}
    {handler : Option η} (fate : before.Fate index owner handler)
    (alive : after.reactor.alive = before.reactor.alive) (deeds : List Deed)
    (more : after.outside.deeds = deeds ++ before.outside.deeds)
    (others : ∀ deed ∈ deeds, deed.concerns index = false) : after.Fate index owner handler where
  living := by
    rw [alive]
    exact fate.living
  undropped := by
    intro there member
    rw [more, List.mem_append] at member
    rcases member with new | old
    · simpa [Deed.concerns] using others _ new
    · exact fate.undropped there old
  ended := by
    intro ends
    obtain ⟨later, earlier, split, silent, once⟩ := fate.ended ends
    refine ⟨deeds ++ later, earlier, by rw [more, split, List.append_assoc], ?_, once⟩
    intro deed member
    rcases List.mem_append.mp member with new | old
    · exact others deed new
    · exact silent deed old

theorem beside_of_owners (free : Nat → Prop) {before after : World η ν}
    (reactor : ∃ registry stopRequested,
      after.reactor = { before.reactor with registry, stopRequested })
    (owners : after.outside.owners = before.outside.owners)
    (deeds : after.outside.deeds = before.outside.deeds) : Beside free before after where
  reactor := reactor
  length := Nat.le_of_eq (congrArg List.length owners).symm
  deeds := ⟨[], deeds, by simp⟩
  services index owner _ _ _ := by rw [owner?, owner?, owners]

/-- A change to owners that are no services leaves sockets and records alone. -/
structure Spared (change : Owner η → Owner η) : Prop where
  socket : ∀ owner, (change owner).socket = owner.socket
  observers : ∀ owner, (change owner).observers = owner.observers
  role : ∀ owner, (change owner).serves = owner.serves
  services : ∀ owner, owner.serves = true → change owner = owner

theorem attempt_spared (change : Attempt → Attempt) : Spared fun owner : Owner η =>
    match owner.role with
    | .attempt attempt => { owner with role := .attempt (change attempt) }
    | _ => owner := by
  constructor <;> rintro ⟨socket, observers, role⟩ <;> cases role <;> simp [Owner.serves]

theorem acceptor_spared (change : Acceptor → Acceptor) : Spared fun owner : Owner η =>
    match owner.role with
    | .acceptor acceptor => { owner with role := .acceptor (change acceptor) }
    | _ => owner := by
  constructor <;> rintro ⟨socket, observers, role⟩ <;> cases role <;> simp [Owner.serves]

theorem beside_changeOwner (free : Nat → Prop) (world : World η ν) (index : Nat)
    (change : Owner η → Owner η) (spared : Spared change) :
    Beside free world (world.changeOwner index change) where
  reactor := ⟨_, _, rfl⟩
  length := Nat.le_of_eq (length_changeOwner world index change).symm
  deeds := ⟨[], rfl, by simp⟩
  services other owner _ _ serves := by
    rw [owner?_changeOwner, Option.map_eq_some_iff]
    constructor
    · rintro ⟨value, found, changed⟩
      by_cases same : index = other
      · rw [if_pos same] at changed
        rw [← changed, spared.role] at serves
        rw [found, ← changed, spared.services value serves]
      · rwa [if_neg same, ← Option.some_inj, ← found] at changed
    · intro found
      exact ⟨owner, found, by rw [spared.services owner serves, ite_self]⟩

theorem beside_of_new {before after : World η ν} (owner : Owner η)
    (reactor : ∃ registry stopRequested,
      after.reactor = { before.reactor with registry, stopRequested })
    (length : after.outside.owners.length = before.outside.owners.length + 1)
    (deeds : List Deed) (more : after.outside.deeds = deeds ++ before.outside.deeds)
    (about : ∀ deed ∈ deeds, ∀ index, deed.concerns index = true →
      index = before.outside.owners.length)
    (others : ∀ index, index ≠ before.outside.owners.length →
      after.owner? index = (before.addOwner owner).2.owner? index) :
    Beside (fun _ => False) before after where
  reactor := reactor
  length := by omega
  deeds := by
    refine ⟨deeds, more, ?_⟩
    intro deed member index concerns
    have new := about deed member index concerns
    exact ⟨.inr (Nat.le_of_eq new.symm), by omega⟩
  services index value _ old _ := by
    rw [others index (Nat.ne_of_lt old), owner?_addOwner]
    exact or_iff_left fun new => Nat.ne_of_lt old new.1

theorem owner?_setHandler (world : World η ν) (index : Nat) (handler : Option η)
    (owner : Owner η) (found : world.owner? index = some owner) (serves : owner.serves = true) :
    (world.setHandler index handler).owner? index =
      some { owner with role := .service handler } := by
  rw [setHandler, owner?_changeOwner_self world index _ owner found]
  cases owner with
  | mk socket observers role =>
    cases role with
    | service _ => rfl
    | attempt _ => simp [Owner.serves] at serves
    | acceptor _ => simp [Owner.serves] at serves

theorem notes?_setHandler (world : World η ν) (index : Nat) (handler : Option η) (other : Nat) :
    (world.setHandler index handler).notes? other = world.notes? other := by
  refine notes?_changeOwner world index _ ?_ ?_ other
  all_goals
    intro owner
    cases owner with
    | mk socket observers role => cases role <;> rfl

theorem beside_setHandler (world : World η ν) (index : Nat) (handler : Option η) :
    Beside (· = index) world (world.setHandler index handler) where
  reactor := ⟨_, _, rfl⟩
  length := Nat.le_of_eq (length_changeOwner world index _).symm
  deeds := ⟨[], rfl, by simp⟩
  services other owner apart _ _ := by rw [setHandler, owner?_changeOwner_ne _ _ _ _ apart]

theorem length_setHandler (world : World η ν) (index : Nat) (handler : Option η) :
    (world.setHandler index handler).outside.owners.length = world.outside.owners.length :=
  length_changeOwner world index _

theorem beside_done (world : World η ν) (index : Nat) (deed : Deed)
    (known : index < world.outside.owners.length)
    (about : ∀ other, deed.concerns other = true → other = index) :
    Beside (· = index) world (world.done deed) := by
  refine ⟨⟨_, _, rfl⟩, Nat.le_refl _, ⟨[deed], rfl, ?_⟩, fun _ _ _ _ _ => Iff.rfl⟩
  intro same member other concerns
  obtain rfl := List.mem_singleton.mp member
  obtain rfl := about other concerns
  exact ⟨.inl rfl, known⟩

theorem beside_discard (world : World η ν) (index : Nat)
    (known : index < world.outside.owners.length) :
    Beside (· = index) world (world.discard index) := by
  refine (beside_setHandler world index none).trans (beside_done _ index _ ?_ ?_)
  · rwa [length_setHandler]
  · exact fun other concerns => (beq_iff_eq.mp concerns).symm

theorem discard_ledger {world : World η ν} (ledger : world.Ledger) (index : Nat) :
    (world.discard index).Ledger :=
  ledger.of_same ledger.sound rfl rfl rfl (length_setHandler world index none)
    (notes?_setHandler world index none)

namespace Move

variable {before after : World η ν}

theorem ledger (move : Move before after) (alive : before.reactor.alive = true)
    (ledger : before.Ledger) : after.Ledger := by
  have same : ∀ {after : World η ν}, after.reactor.registry = before.reactor.registry →
      after.reactor.alive = before.reactor.alive → after.outside.makers = before.outside.makers →
      after.outside.owners.length = before.outside.owners.length →
      (∀ index, after.notes? index = before.notes? index) → after.Ledger := by
    intro after registry alive makers length notes
    exact ledger.of_same (by rw [registry]; exact ledger.sound) (by rw [registry]) alive makers
      length notes
  have changed : ∀ index (change : Owner η → Owner η), Spared change →
      (before.changeOwner index change).Ledger := by
    intro index change spared
    exact same rfl rfl rfl (length_changeOwner before index change)
      (notes?_changeOwner before index change spared.socket spared.observers)
  cases move with
  | beyond value => exact same rfl rfl rfl rfl fun _ => rfl
  | stop => exact same rfl rfl rfl rfl fun _ => rfl
  | observer => exact ledger.newObserver
  | add socket kind observer own => exact ledger.add alive socket kind observer own
  | remove socket kind observer own => exact ledger.remove socket kind observer own
  | owner owner bare _ => exact ledger.addOwner owner bare
  | edit index owner _ _ edit => exact edit.ledger ledger
  | attempt index change => exact changed index _ (attempt_spared change)
  | acceptor index change => exact changed index _ (acceptor_spared change)
  | done deed _ => exact same rfl rfl rfl rfl fun _ => rfl
  | attach socket handler edits _ => exact (edits.near (ledger.addOwner _ rfl)).1
  | bare socket handler => exact discard_ledger (ledger.addOwner _ rfl) _

theorem beside (move : Move before after) (ledger : before.Ledger) :
    Beside (fun _ => False) before after := by
  cases move with
  | beyond value => exact beside_of_owners _ ⟨_, _, rfl⟩ rfl rfl
  | stop => exact beside_of_owners _ ⟨_, _, rfl⟩ rfl rfl
  | observer => exact beside_of_owners _ ⟨_, _, rfl⟩ rfl rfl
  | add socket kind observer own => exact beside_of_owners _ ⟨_, _, rfl⟩ rfl rfl
  | remove socket kind observer own => exact beside_of_owners _ ⟨_, _, rfl⟩ rfl rfl
  | owner owner _ _ =>
    exact beside_of_new owner ⟨_, _, rfl⟩ (by simp [addOwner]) [] rfl (by simp) fun _ _ => rfl
  | edit index owner found other edit =>
    have near := edit.near ledger
    refine ⟨near.beside.reactor, near.beside.length, ⟨[], near.deeds, by simp⟩, ?_⟩
    intro service value _ old serves
    by_cases same : service = index
    · -- the owner that was edited is no service, neither before nor after
      obtain ⟨observers, kept⟩ := near.own owner found
      have differs : value.serves ≠ owner.serves := by simp [serves, other]
      rw [same, kept, found, Option.some_inj, Option.some_inj]
      exact ⟨fun new => absurd (congrArg Owner.serves new.symm) differs,
        fun old => absurd (congrArg Owner.serves old.symm) differs⟩
    · exact near.beside.services service value same old serves
  | attempt index change => exact beside_changeOwner _ before index _ (attempt_spared change)
  | acceptor index change => exact beside_changeOwner _ before index _ (acceptor_spared change)
  | done deed other =>
    refine ⟨⟨_, _, rfl⟩, Nat.le_refl _, ⟨[deed], rfl, ?_⟩, fun _ _ _ _ _ => Iff.rfl⟩
    simp [other]
  | attach socket handler edits _ =>
    have near := (edits.near (ledger.addOwner _ rfl)).2
    obtain ⟨registry, reactor⟩ := near.reactor
    refine beside_of_new _ ⟨registry, _, reactor⟩ ?_ [] near.deeds (by simp) near.others
    rw [near.length]
    simp [addOwner]
  | bare socket handler =>
    refine beside_of_new { socket, role := .service (some handler) } ⟨_, _, rfl⟩ ?_
      [.dropped before.outside.owners.length] rfl ?_ ?_
    · exact (length_setHandler _ _ _).trans (by simp [addOwner])
    · simp [Deed.concerns]
    · intro index apart
      exact owner?_changeOwner_ne _ _ _ index apart

end Move

theorem fate_of_served {world : World η ν} {index : Nat} {owner : Owner η} {handler : η}
    (alive : world.reactor.alive = true) (registered : owner.observers ≠ [])
    (undropped : .dropped index ∉ world.outside.deeds) :
    world.Fate index owner (some handler) where
  living := iff_of_true rfl ⟨alive, registered⟩
  undropped _ := undropped
  ended := by simp

theorem fate_of_dropped {world : World η ν} {index : Nat} {owner : Owner η} {earlier : List Deed}
    (bare : owner.observers = []) (deeds : world.outside.deeds = .dropped index :: earlier)
    (once : .dropped index ∉ earlier) : world.Fate index owner none where
  living := by simp [bare]
  undropped := by simp
  ended _ := ⟨[], earlier, deeds, by simp, once⟩

namespace Sound

variable {free : Nat → Prop} {before after : World η ν}

theorem of_beside (sound : before.Sound) (beside : Beside free before after)
    (ledger : after.Ledger) (own : ∀ index owner handler,
      free index ∨ before.outside.owners.length ≤ index → after.owner? index = some owner →
      owner.role = .service handler → after.Fate index owner handler) : after.Sound where
  toLedger := ledger
  fates := by
    obtain ⟨deeds, more, about⟩ := beside.deeds
    intro index owner handler found role
    by_cases touched : free index ∨ before.outside.owners.length ≤ index
    · exact own index owner handler touched found role
    · obtain ⟨taken, old⟩ := not_or.mp touched
      have there := (beside.services index owner taken (Nat.lt_of_not_le old)
        (serves_of_role owner handler role)).mp found
      refine (sound.fates index owner handler there role).of_same beside.alive deeds more ?_
      intro deed member
      rw [Bool.eq_false_iff]
      exact fun concerns => touched (about deed member index concerns).1
  future := by
    obtain ⟨deeds, more, about⟩ := beside.deeds
    intro index late deed member
    rw [more, List.mem_append] at member
    rcases member with new | old
    · rw [Bool.eq_false_iff]
      exact fun concerns => Nat.not_lt_of_le late (about deed new index concerns).2
    · exact sound.future index (Nat.le_trans beside.length late) deed old

theorem of_own {index : Nat} (sound : before.Sound) (beside : Beside (· = index) before after)
    (ledger : after.Ledger)
    (length : after.outside.owners.length = before.outside.owners.length)
    (own : ∀ owner handler, after.owner? index = some owner → owner.role = .service handler →
      after.Fate index owner handler) : after.Sound := by
  refine sound.of_beside beside ledger ?_
  rintro other owner handler (rfl | late) found role
  · exact own owner handler found role
  · rw [← length] at late
    exact absurd (owner?_lt _ _ _ found) (Nat.not_lt_of_le late)

theorem fate (sound : before.Sound) {index : Nat} {owner : Owner η} {handler : η}
    (found : before.owner? index = some owner) (role : owner.role = .service (some handler)) :
    before.reactor.alive = true ∧ owner.observers ≠ [] ∧
      .dropped index ∉ before.outside.deeds := by
  have fate := sound.fates index owner (some handler) found role
  exact ⟨(fate.living.mp rfl).1, (fate.living.mp rfl).2, fate.undropped rfl⟩

theorem own (sound : before.Sound) (outside : after.outside = before.outside)
    (alive : after.reactor.alive = before.reactor.alive)
    (registry : after.reactor.registry.Sound)
    (targets : after.reactor.registry.targets = before.reactor.registry.targets) :
    after.Sound where
  toLedger := by
    refine sound.toLedger.of_same registry targets alive (by rw [outside]) (by rw [outside]) ?_
    intro index
    rw [notes?, notes?, owner?, owner?, outside]
  fates := by
    intro index owner handler found role
    rw [owner?, outside] at found
    have fate := sound.fates index owner handler found role
    exact fate.of_same alive [] (by rw [outside]; rfl) (by simp)
  future := by
    rw [outside]
    exact sound.future

theorem handled (sound : before.Sound) (index : Nat) (serving : before.Serving index) :
    (before.done (.handled index)).Sound ∧
      Beside (· = index) before (before.done (.handled index)) := by
  obtain ⟨owner, handler, found, role⟩ := serving
  obtain ⟨alive, registered, undropped⟩ := sound.fate found role
  have beside := beside_done before index (.handled index) (before.owner?_lt index owner found)
    fun other concerns => (beq_iff_eq.mp concerns).symm
  have ledger : (before.done (.handled index)).Ledger :=
    sound.toLedger.of_same sound.toLedger.sound rfl rfl rfl rfl fun _ => rfl
  refine ⟨sound.of_own beside ledger rfl ?_, beside⟩
  intro value other there role'
  obtain rfl := Option.some.inj (found.symm.trans there)
  obtain rfl := Role.service.inj (role.symm.trans role')
  exact fate_of_served alive registered (by simp [done, undropped])

theorem changed (sound : before.Sound) (index : Nat) (handler : η)
    (serving : before.Serving index) : (before.setHandler index (some handler)).Sound ∧
      Beside (· = index) before (before.setHandler index (some handler)) := by
  obtain ⟨owner, old, found, role⟩ := serving
  obtain ⟨alive, registered, undropped⟩ := sound.fate found role
  have beside := beside_setHandler before index (some handler)
  have ledger : (before.setHandler index (some handler)).Ledger :=
    sound.toLedger.of_same sound.toLedger.sound rfl rfl rfl (length_setHandler before index _)
      (notes?_setHandler before index _)
  refine ⟨sound.of_own beside ledger (length_setHandler before index _) ?_, beside⟩
  intro value other there role'
  rw [owner?_setHandler before index _ owner found (serves_of_role owner _ role)] at there
  obtain rfl := Option.some.inj there
  obtain rfl := Role.service.inj role'
  exact fate_of_served alive registered undropped

theorem settled (sound : before.Sound) (index : Nat) (serving : before.Serving index)
    (edits : Edits index before after) (registered : after.Registered index) : after.Sound := by
  obtain ⟨owner, handler, found, role⟩ := serving
  obtain ⟨alive, -, undropped⟩ := sound.fate found role
  obtain ⟨ledger, near⟩ := edits.near sound.toLedger
  refine sound.of_own near.beside ledger near.length ?_
  obtain ⟨observers, kept⟩ := near.own owner found
  obtain ⟨value, there, some⟩ := registered
  obtain rfl := Option.some.inj (kept.symm.trans there)
  intro value other there role'
  obtain rfl := Option.some.inj (kept.symm.trans there)
  obtain rfl := Role.service.inj (role.symm.trans role')
  exact fate_of_served (near.alive.trans alive) some (by rw [near.deeds]; exact undropped)

theorem closed (sound : before.Sound) (index : Nat) (serving : before.Serving index)
    (edits : Edits index before after) (bare : ¬after.Registered index) :
    (after.discard index).Sound ∧ Beside (· = index) before (after.discard index) := by
  obtain ⟨owner, handler, found, role⟩ := serving
  obtain ⟨alive, -, undropped⟩ := sound.fate found role
  obtain ⟨ledger, near⟩ := edits.near sound.toLedger
  obtain ⟨observers, kept⟩ := near.own owner found
  have beside := near.beside.trans (beside_discard after index (after.owner?_lt index _ kept))
  have length := (length_setHandler after index none).trans near.length
  refine ⟨sound.of_own beside (discard_ledger ledger index) length ?_, beside⟩
  intro value other there role'
  have gone := owner?_setHandler after index none _ kept (serves_of_role _ (some handler) role)
  obtain rfl := Option.some.inj (gone.symm.trans there)
  obtain rfl := Role.service.inj role'
  refine fate_of_dropped ?_ rfl ?_
  · by_contra some
    exact bare ⟨_, kept, some⟩
  · change .dropped index ∉ after.outside.deeds
    rwa [near.deeds]

end Sound

theorem Move.sound {before after : World η ν} (move : Move before after)
    (alive : before.reactor.alive = true) (sound : before.Sound) : after.Sound := by
  have ledger := move.ledger alive sound.toLedger
  refine sound.of_beside (move.beside sound.toLedger) ledger ?_
  intro index owner handler late found role
  have late := late.resolve_left id
  have old : after.outside.owners.length = before.outside.owners.length →
      after.Fate index owner handler := by
    intro length
    rw [← length] at late
    exact absurd (after.owner?_lt index owner found) (Nat.not_lt_of_le late)
  have unheard : .dropped index ∉ before.outside.deeds := by
    intro member
    simpa [Deed.concerns] using sound.future index late _ member
  cases move with
  | beyond | stop | observer | add | remove | done => exact old rfl
  | attempt other change => exact old (length_changeOwner before other _)
  | acceptor other change => exact old (length_changeOwner before other _)
  | edit other _ _ _ edit => exact old (edit.near sound.toLedger).length
  | owner value _ other =>
    rcases (before.owner?_addOwner value index owner).mp found with there | ⟨-, rfl⟩
    · exact absurd (before.owner?_lt index owner there) (Nat.not_lt_of_le late)
    · rw [serves_of_role owner handler role] at other
      cases other
  | attach socket fresh edits registered =>
    have near := (edits.near (sound.toLedger.addOwner _ rfl)).2
    have new : index = before.outside.owners.length := by
      have bound := after.owner?_lt index owner found
      rw [near.length] at bound
      simp [addOwner] at bound
      omega
    subst new
    obtain ⟨observers, kept⟩ := near.own { socket, role := .service (some fresh) }
      ((before.owner?_addOwner _ _ _).mpr (.inr ⟨rfl, rfl⟩))
    obtain rfl := Option.some.inj (kept.symm.trans found)
    obtain rfl := Role.service.inj role
    obtain ⟨value, there, some⟩ := registered
    obtain rfl := Option.some.inj (kept.symm.trans there)
    exact fate_of_served (near.alive.trans alive) some (by rw [near.deeds]; exact unheard)
  | bare socket fresh =>
    have new : index = before.outside.owners.length := by
      have bound := owner?_lt _ index owner found
      have length := length_setHandler (before.addOwner
        { socket, role := .service (some fresh) }).2 before.outside.owners.length none
      rw [discard, World.done, length] at bound
      simp [addOwner] at bound
      omega
    subst new
    have gone := owner?_setHandler (before.addOwner _).2 before.outside.owners.length none
      { socket, role := .service (some fresh) }
      ((before.owner?_addOwner _ _ _).mpr (.inr ⟨rfl, rfl⟩)) rfl
    obtain rfl := Option.some.inj (gone.symm.trans found)
    obtain rfl := Role.service.inj role
    exact fate_of_dropped rfl rfl unheard

end World

end SocketLoop
