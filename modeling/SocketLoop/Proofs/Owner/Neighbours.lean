import SocketLoop.Proofs.Owner.Holdings
import SocketLoop.Proofs.Registry.Bystanders

/-! Neighbours in a registry. An owner that puts in and takes out registrations of its own leaves those
of all others where they are, and live, on its own socket as well. -/
namespace SocketLoop

variable {η ν : Type}

/-- The owner that did it. -/
def Deed.owner : Deed → Nat
  | .handled owner | .dropped owner | .accepted owner _ | .built owner _ | .told owner _ => owner

namespace World

open Relation

/-- The registrations whose observers were made by some makers, in the order of the registry. -/
def heldBy (world : World η ν) (of : Option Nat → Bool) : List (Int × Registration) :=
  world.reactor.registry.rows.filter fun row => of (world.maker? row.2.observer)

/-- The makers of observers other than an owner; the observers of users have none. -/
def others (index : Nat) (maker : Option Nat) : Bool := maker != some index

/-- The makers of observers other than an owner and those owners that are still to come. -/
def elsewhere (index known : Nat) (maker : Option Nat) : Bool :=
  maker.all fun other => other != index && decide (other < known)

/-- What some makers have registered is left as it is. -/
structure Leaves (of : Option Nat → Bool) (before after : World η ν) : Prop where
  later : before.reactor.registry.Later after.reactor.registry
  makers : before.outside.makers <+: after.outside.makers
  length : before.outside.owners.length ≤ after.outside.owners.length
  rows : after.heldBy of = before.heldBy of
  /-- A registration that is not new stands in the entry in which it stood. -/
  home : ∀ new ∈ after.reactor.registry.entries, ∀ registration ∈ new.registrations,
    registration.number < before.reactor.registry.next →
    ∃ old ∈ before.reactor.registry.entries,
      registration ∈ old.registrations ∧ new.socket = old.socket

/-- Some owners are left as they are altogether, and nothing is done for them. -/
structure Apart (of : Option Nat → Bool) (before after : World η ν) : Prop extends
    Leaves of before after where
  alive : after.reactor.alive = before.reactor.alive
  owners : ∀ other owner, of (some other) = true → before.owner? other = some owner →
    after.owner? other = some owner
  deeds : ∃ more, after.outside.deeds = more ++ before.outside.deeds ∧
    ∀ deed ∈ more, of (some deed.owner) = false

/-- What comes of it: the registrations are there, in the same order, and live, those that were gone
stay so, and an entry stays as long as it keeps any registration of whomever. -/
structure Unmoved (of : Option Nat → Bool) (before after : World η ν) : Prop where
  rows : after.heldBy of = before.heldBy of
  live : ∀ row ∈ before.heldBy of, after.reactor.registry.isLive row.2.number = true
  spent : before.reactor.registry.cleared ⊆ after.reactor.registry.cleared
  entry : ∀ old ∈ before.reactor.registry.entries, ∀ registration ∈ old.registrations,
    (old.socket.descriptor, registration) ∈ after.reactor.registry.rows →
    ∃ new ∈ after.reactor.registry.entries,
      registration ∈ new.registrations ∧ new.socket = old.socket

theorem maker?_of_known {before after : World η ν}
    (makers : before.outside.makers <+: after.outside.makers) (observer : Nat)
    (known : observer < before.outside.makers.length) :
    after.maker? observer = before.maker? observer := by
  obtain ⟨more, makers⟩ := makers
  rw [maker?, maker?, ← makers, List.getElem?_append_left known]

theorem Ledger.observer_lt {world : World η ν} (ledger : world.Ledger) (row : Int × Registration)
    (there : row ∈ world.reactor.registry.rows) : row.2.observer < world.outside.makers.length :=
  ledger.known _ (List.mem_map_of_mem (f := Registry.target) there)

namespace Leaves

variable {of : Option Nat → Bool} {before between after : World η ν}

theorem trans (first : Leaves of before between) (second : Leaves of between after) :
    Leaves of before after where
  later := first.later.trans second.later
  makers := first.makers.trans second.makers
  length := Nat.le_trans first.length second.length
  rows := second.rows.trans first.rows
  home new known registration listed old := by
    obtain ⟨mid, there, stands, same⟩ := second.home new known registration listed
      (Nat.lt_of_lt_of_le old first.later.next)
    obtain ⟨first, here, stood, same'⟩ := first.home mid there registration stands old
    exact ⟨first, here, stood, same.trans same'⟩

/-- Makers are told once and for all, so fewer of them are left alone as well. -/
theorem mono (leaves : Leaves of before after) (ledger : before.Ledger)
    (fewer : Option Nat → Bool) (less : ∀ maker, fewer maker = true → of maker = true) :
    Leaves fewer before after := by
  have split : ∀ world : World η ν, world.heldBy fewer =
      (world.heldBy of).filter fun row => fewer (world.maker? row.2.observer) := by
    intro world
    rw [heldBy, heldBy, List.filter_filter]
    refine List.filter_congr ?_
    intro row _
    cases some : fewer (world.maker? row.2.observer) with
    | false => rfl
    | true => rw [less _ some, Bool.and_self]
  refine ⟨leaves.later, leaves.makers, leaves.length, ?_, leaves.home⟩
  rw [split after, split before, leaves.rows]
  refine List.filter_congr ?_
  intro row held
  have known := ledger.observer_lt row (List.mem_filter.mp held).1
  rw [maker?_of_known leaves.makers _ known]

theorem unmoved (leaves : Leaves of before after) (ledger : before.Ledger) :
    Unmoved of before after where
  rows := leaves.rows
  live row held := by
    have there := (List.mem_filter.mp (leaves.rows ▸ held)).1
    have live := (leaves.later.sound ledger.sound).live row there
    simpa [Registry.isLive] using live
  spent := leaves.later.cleared
  entry old known registration listed still := by
    have row : (old.socket.descriptor, registration) ∈ before.reactor.registry.rows :=
      (Registry.mem_rows _ _).mpr ⟨old, known, rfl, listed⟩
    obtain ⟨new, there, -, stands⟩ := (Registry.mem_rows _ _).mp still
    obtain ⟨other, here, stood, same⟩ :=
      leaves.home new there registration stands (ledger.sound.issued _ row)
    have twin : (other.socket.descriptor, registration) ∈ before.reactor.registry.rows :=
      (Registry.mem_rows _ _).mpr ⟨other, here, rfl, stood⟩
    have place := congrArg Prod.fst (List.inj_on_of_nodup_map ledger.sound.numbers twin row rfl)
    have one := List.inj_on_of_nodup_map ledger.sound.descriptors here known place
    exact ⟨new, there, stands, one ▸ same⟩

end Leaves

namespace Apart

variable {of : Option Nat → Bool} {before between after : World η ν}

theorem trans (first : Apart of before between) (second : Apart of between after) :
    Apart of before after where
  toLeaves := first.toLeaves.trans second.toLeaves
  alive := second.alive.trans first.alive
  owners other owner one found := second.owners other owner one (first.owners other owner one found)
  deeds := by
    obtain ⟨early, first, apart⟩ := first.deeds
    obtain ⟨late, second, apart'⟩ := second.deeds
    refine ⟨late ++ early, by rw [second, first, List.append_assoc], ?_⟩
    intro deed done
    exact (List.mem_append.mp done).elim (apart' deed) (apart deed)

theorem mono (apart : Apart of before after) (ledger : before.Ledger)
    (fewer : Option Nat → Bool) (less : ∀ maker, fewer maker = true → of maker = true) :
    Apart fewer before after where
  toLeaves := apart.toLeaves.mono ledger fewer less
  alive := apart.alive
  owners other owner one := apart.owners other owner (less _ one)
  deeds := by
    obtain ⟨more, all, others⟩ := apart.deeds
    refine ⟨more, all, fun deed done => ?_⟩
    rw [Bool.eq_false_iff]
    intro one
    exact Bool.false_ne_true ((others deed done).symm.trans (less _ one))

end Apart

/-- Where neither the registry nor the makers change, nothing is moved. -/
theorem leaves_of_same (of : Option Nat → Bool) {before after : World η ν}
    (registry : after.reactor.registry = before.reactor.registry)
    (makers : after.outside.makers = before.outside.makers)
    (length : before.outside.owners.length ≤ after.outside.owners.length) :
    Leaves of before after where
  later := registry ▸ .refl _
  makers := makers ▸ List.prefix_refl _
  length := length
  rows := by
    rw [heldBy, heldBy, registry]
    refine List.filter_congr ?_
    intro row _
    rw [maker?, maker?, makers]
  home new known registration listed _ := ⟨new, registry ▸ known, listed, rfl⟩

/-- What others have is read off with the makers of before or of after. -/
theorem leaves_of_registry (of : Option Nat → Bool) {before after : World η ν}
    (ledger : before.Ledger) (makers : before.outside.makers <+: after.outside.makers)
    (length : before.outside.owners.length ≤ after.outside.owners.length)
    (leaves : before.reactor.registry.Leaves (fun observer => of (after.maker? observer))
      after.reactor.registry) : Leaves of before after where
  later := leaves.toLater
  makers := makers
  length := length
  rows := by
    refine leaves.rows.trans (List.filter_congr ?_)
    intro row there
    rw [maker?_of_known makers _ (ledger.observer_lt row there)]
  home := leaves.home

theorem leaves_unregister (theirs : Nat → Bool) (world : World η ν)
    (sound : world.reactor.registry.Sound) (index : Nat) (struck : List (Kind × Nat))
    (own : ∀ row ∈ struck, theirs row.2 = false) :
    world.reactor.registry.Leaves theirs (world.unregister index struck).reactor.registry := by
  unfold unregister
  cases world.owner? index with
  | none => exact .refl theirs _
  | some owner =>
    dsimp only
    induction struck generalizing world with
    | nil => exact .refl theirs _
    | cons row rest ih =>
      rw [List.forall_mem_cons] at own
      have first := world.reactor.registry.leaves_remove sound theirs owner.socket row.1 row.2 own.1
      exact first.trans (ih (world.onReactor fun reactor =>
        reactor.removeHandler owner.socket row.1 row.2) (first.sound sound) own.2)

theorem Edit.leaves {index : Nat} {before after : World η ν} (edit : Edit index before after)
    (ledger : before.Ledger) (of : Option Nat → Bool) (own : of (some index) = false) :
    Leaves of before after := by
  have length := Nat.le_of_eq (edit.near ledger).length.symm
  cases edit with
  | @enlist owner alive found kind =>
    have makers := before.enlist_makers index owner found alive kind
    have made : (before.enlist index kind).maker? before.outside.makers.length = some index :=
      (maker?_append before _ _ makers _ _).mpr (.inr ⟨rfl, rfl⟩)
    refine leaves_of_registry of ledger ⟨_, makers.symm⟩ length ?_
    rw [enlist_of_alive before index kind owner alive found] at made ⊢
    refine before.reactor.registry.leaves_add ledger.sound _ owner.socket kind _ ?_
    rw [made, own]
  | @withdraw owner found which =>
    have makers := before.withdraw_makers ledger index owner found which
    refine leaves_of_registry of ledger (makers ▸ List.prefix_refl _) length ?_
    have taken : before.withdraw index which = (before.changeOwner index fun owner =>
        { owner with observers := owner.observers.filter fun row => !which row.1 }).unregister index
          (owner.observers.filter fun row => which row.1) := by
      rw [World.withdraw, strike, found]
    have struck : ∀ row ∈ owner.observers.filter fun row => which row.1,
        of ((before.withdraw index which).maker? row.2) = false := by
      intro row struck
      have noted := before.notes?_of_owner index owner found
      have made := ledger.recorded index _ _ noted row (List.mem_filter.mp struck).1
      rw [maker?, makers, ← maker?, made, own]
    have left := leaves_unregister (fun observer =>
      of ((before.withdraw index which).maker? observer)) (before.changeOwner index fun owner =>
      { owner with observers := owner.observers.filter fun row => !which row.1 }) ledger.sound index
        _ struck
    rwa [← taken] at left

theorem Edits.apart {index : Nat} {before after : World η ν} (edits : Edits index before after)
    (ledger : before.Ledger) (of : Option Nat → Bool) (own : of (some index) = false) :
    Apart of before after := by
  have leaves : Leaves of before after := by
    induction edits with
    | refl => exact leaves_of_same of rfl rfl (Nat.le_refl _)
    | tail earlier edit ih => exact ih.trans (edit.leaves (Edits.near earlier ledger).1 of own)
  obtain ⟨-, near⟩ := edits.near ledger
  refine ⟨leaves, near.alive, ?_, [], near.deeds, by simp⟩
  intro other owner one found
  refine (near.others other ?_).trans found
  rintro rfl
  exact Bool.false_ne_true (own.symm.trans one)

theorem withdraw_edits (world : World η ν) (index : Nat) (which : Kind → Bool) :
    Edits index world (world.withdraw index which) := by
  cases found : world.owner? index with
  | none =>
    have same : world.withdraw index which = world := by
      simp only [withdraw, strike, found, unregister]
    rw [same]
    exact .refl
  | some owner => exact .single (.withdraw found which)

theorem enlist_edits (world : World η ν) (index : Nat) (kind : Kind) (owner : Owner η)
    (found : world.owner? index = some owner) : Edits index world (world.enlist index kind) := by
  cases alive : world.reactor.alive with
  | false =>
    rw [enlist, if_neg (by simp [alive])]
    exact .refl
  | true => exact .single (.enlist alive found kind)

theorem enable_edits (world : World η ν) (index : Nat) (kind : Kind) :
    Edits index world (world.enable index kind) := by
  unfold enable
  split
  · exact .refl
  · rename_i owner found
    split
    · exact .refl
    · exact world.enlist_edits index kind owner found

theorem edits_foldl {index : Nat} (step : World η ν → Kind → World η ν)
    (edits : ∀ world kind, Edits index world (step world kind)) (kinds : List Kind)
    (world : World η ν) : Edits index world (kinds.foldl step world) := by
  induction kinds generalizing world with
  | nil => exact .refl
  | cons kind rest ih => exact (edits world kind).trans (ih _)

/-- What keeps records and registry in agreement and leaves some owners alone. -/
def Keeps (of : Option Nat → Bool) (before after : World η ν) : Prop :=
  before.Ledger → after.Ledger ∧ Apart of before after

namespace Keeps

variable {of : Option Nat → Bool} {before between after : World η ν}

theorem trans (first : Keeps of before between) (second : Keeps of between after) :
    Keeps of before after := by
  intro ledger
  obtain ⟨middle, apart⟩ := first ledger
  obtain ⟨last, apart'⟩ := second middle
  exact ⟨last, apart.trans apart'⟩

theorem edits {index : Nat} (edits : Edits index before after) (own : of (some index) = false) :
    Keeps of before after :=
  fun ledger => ⟨(edits.near ledger).1, edits.apart ledger of own⟩

/-- Neither the registry nor anything about owners changes. -/
theorem of_owners (of : Option Nat → Bool)
    (registry : after.reactor.registry = before.reactor.registry)
    (alive : after.reactor.alive = before.reactor.alive)
    (makers : after.outside.makers = before.outside.makers)
    (owners : after.outside.owners = before.outside.owners)
    (deeds : after.outside.deeds = before.outside.deeds) : Keeps of before after := by
  have same : ∀ index, after.owner? index = before.owner? index := by
    intro index
    rw [World.owner?, World.owner?, owners]
  intro ledger
  refine ⟨ledger.of_same (registry ▸ ledger.sound) (by rw [registry]) alive makers
    (by rw [owners]) fun index => by rw [World.notes?, World.notes?, same],
    leaves_of_same of registry makers (Nat.le_of_eq (by rw [owners])), alive, ?_, [], deeds,
    by simp⟩
  exact fun other _ _ found => (same other).trans found

theorem refl (of : Option Nat → Bool) (world : World η ν) : Keeps of world world :=
  of_owners of rfl rfl rfl rfl rfl

theorem addOwner (of : Option Nat → Bool) (world : World η ν) (owner : Owner η)
    (bare : owner.observers = []) : Keeps of world (world.addOwner owner).2 := by
  have longer : Leaves of world (world.addOwner owner).2 :=
    leaves_of_same of rfl rfl (by simp [World.addOwner])
  refine fun ledger => ⟨ledger.addOwner owner bare, longer, rfl, ?_, [], rfl, by simp⟩
  intro other value _ found
  exact (world.owner?_addOwner owner other value).mpr (.inl found)

theorem done (world : World η ν) (deed : Deed) (own : of (some deed.owner) = false) :
    Keeps of world (world.done deed) := by
  refine fun ledger => ⟨ledger.of_same ledger.sound rfl rfl rfl rfl fun _ => rfl,
    leaves_of_same of rfl rfl (Nat.le_refl _), rfl, fun _ _ _ => id, [deed], rfl, ?_⟩
  intro other member
  rwa [List.mem_singleton.mp member]

theorem newObserver (of : Option Nat → Bool) (world : World η ν) :
    Keeps of world (world.newObserver none).2 := fun ledger =>
  ⟨ledger.newObserver, leaves_of_registry of ledger (List.prefix_append _ _) (Nat.le_refl _)
    (.refl _ _), rfl, fun _ _ _ => id, [], rfl, by simp⟩

section

variable (world : World η ν) (users : of none = false) (socket : Handle) (kind : Kind)
  (observer : Nat) (made : world.outside.makers[observer]? = some none)

include users made

theorem addHandler (alive : world.reactor.alive = true) :
    Keeps of world (world.onReactor fun reactor => reactor.addHandler socket kind observer) := by
  have maker : of (world.maker? observer) = false := by simpa [World.maker?, made]
  intro ledger
  have leaves := world.reactor.registry.leaves_add ledger.sound (fun observer =>
    of (world.maker? observer)) socket kind observer maker
  exact ⟨ledger.add alive socket kind observer made, leaves_of_registry of ledger
    (List.prefix_refl _) (Nat.le_refl _) leaves, rfl, fun _ _ _ => id, [], rfl, by simp⟩

theorem removeHandler :
    Keeps of world (world.onReactor fun reactor => reactor.removeHandler socket kind observer) := by
  have maker : of (world.maker? observer) = false := by simpa [World.maker?, made]
  intro ledger
  have leaves := world.reactor.registry.leaves_remove ledger.sound (fun observer =>
    of (world.maker? observer)) socket kind observer maker
  exact ⟨ledger.remove socket kind observer made, leaves_of_registry of ledger
    (List.prefix_refl _) (Nat.le_refl _) leaves, rfl, fun _ _ _ => id, [], rfl, by simp⟩

end

variable (world : World η ν) (index : Nat) (own : of (some index) = false)

include own

theorem changeOwner (change : Owner η → Owner η)
    (socket : ∀ owner, (change owner).socket = owner.socket)
    (observers : ∀ owner, (change owner).observers = owner.observers) :
    Keeps of world (world.changeOwner index change) := by
  have length := length_changeOwner world index change
  intro ledger
  refine ⟨ledger.of_same ledger.sound rfl rfl rfl length ?_,
    leaves_of_same of rfl rfl (Nat.le_of_eq length.symm), rfl, ?_, [], rfl, by simp⟩
  · exact notes?_changeOwner world index change socket observers
  · intro other owner one found
    refine (owner?_changeOwner_ne world index change other ?_).trans found
    rintro rfl
    exact Bool.false_ne_true (own.symm.trans one)

theorem changeAttempt (change : Attempt → Attempt) :
    Keeps of world (world.changeAttempt index change) := by
  have spared := attempt_spared (η := η) change
  exact changeOwner world index own _ spared.socket spared.observers

theorem changeAcceptor (change : Acceptor → Acceptor) :
    Keeps of world (world.changeAcceptor index change) := by
  have spared := acceptor_spared (η := η) change
  exact changeOwner world index own _ spared.socket spared.observers

theorem setHandler (handler : Option η) : Keeps of world (world.setHandler index handler) := by
  refine changeOwner world index own _ ?_ ?_
  all_goals
    rintro ⟨socket, observers, role⟩
    cases role <;> rfl

end Keeps

theorem elsewhere_own (index known : Nat) : elsewhere index known (some index) = false := by
  simp [elsewhere]

theorem elsewhere_new (index known other : Nat) (new : known ≤ other) :
    elsewhere index known (some other) = false := by
  simp [elsewhere, new]

theorem stopAcceptor_keeps (of : Option Nat → Bool) (world : World η ν) (index : Nat)
    (own : of (some index) = false) : Keeps of world (stopAcceptor index world) := by
  unfold stopAcceptor
  split
  · exact .refl of world
  · exact (Keeps.changeAcceptor world index own _).trans
      (.edits (withdraw_edits _ index fun _ => true) own)

section

variable (of : Option Nat → Bool) (world : World η ν)
  (own : of (some world.outside.owners.length) = false)

include own

theorem startAcceptor_keeps (socket : Handle) :
    Keeps of world (startAcceptor socket world).2 := by
  have added := Keeps.addOwner of world { socket, role := .acceptor {} } rfl
  have found := (world.owner?_addOwner { socket, role := .acceptor {} } _ _).mpr (.inr ⟨rfl, rfl⟩)
  exact added.trans (.edits (enlist_edits _ _ .readable _ found) own)

theorem launch_keeps (socket : Handle) (onFailure : Bool) :
    Keeps of world (launch socket onFailure world).2 := by
  have added := Keeps.addOwner of world { socket, role := .attempt { onFailure } } rfl
  have found := (world.owner?_addOwner { socket, role := .attempt { onFailure } } _ _).mpr
    (.inr ⟨rfl, rfl⟩)
  have begun := added.trans (.changeAttempt _ world.outside.owners.length own fun attempt =>
    { attempt with state := .connecting })
  have connecting := owner?_changeAttempt_self _ world.outside.owners.length
    (fun attempt => { attempt with state := .connecting }) _ _ found rfl
  have writable := enlist_edits _ _ .writable _ connecting
  intro ledger
  obtain ⟨-, near⟩ := writable.near (begun ledger).1
  obtain ⟨observers, kept⟩ := near.own _ connecting
  have both := writable.trans (enlist_edits _ _ .error _ kept)
  exact (begun.trans (.edits both own)) ledger

end

end World

end SocketLoop
