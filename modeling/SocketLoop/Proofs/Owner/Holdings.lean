import SocketLoop.Proofs.Owner.Conduct
import SocketLoop.Proofs.Registry.Sockets

/-! What owners hold in a registry. The registrations that an owner made on a socket stand there
among those of others, in the order in which they were made, and are changed by nobody else. -/
namespace SocketLoop

variable {η ν : Type}

namespace World

def isOwn (world : World η ν) (index : Nat) (registration : Registration) : Bool :=
  world.maker? registration.observer == some index

/-- The registrations that an owner has on a socket, oldest first. -/
def holdings (world : World η ν) (index : Nat) (descriptor : Int) : List Registration :=
  (world.reactor.registry.onSocket descriptor).filter (world.isOwn index)

/-- What an owner holds is left as it is. -/
def Holds (index : Nat) (before after : World η ν) : Prop :=
  ∀ descriptor, after.holdings index descriptor = before.holdings index descriptor

theorem Holds.refl (index : Nat) (world : World η ν) : Holds index world world := fun _ => rfl

theorem Holds.trans {index : Nat} {before between after : World η ν}
    (first : Holds index before between) (second : Holds index between after) :
    Holds index before after :=
  fun descriptor => (second descriptor).trans (first descriptor)

theorem holds_of_same {index : Nat} {before after : World η ν}
    (registry : after.reactor.registry = before.reactor.registry)
    (makers : after.outside.makers = before.outside.makers) : Holds index before after := by
  have own : after.isOwn index = before.isOwn index := by
    funext registration
    rw [isOwn, isOwn, maker?, maker?, makers]
  intro descriptor
  rw [holdings, holdings, registry, own]

section

variable (world : World η ν) (ledger : world.Ledger)

include ledger

theorem known_on_socket (descriptor : Int) (registration : Registration)
    (there : registration ∈ world.reactor.registry.onSocket descriptor) :
    registration.observer < world.outside.makers.length := by
  have row := (world.reactor.registry.mem_onSocket ledger.sound descriptor registration).mp there
  exact ledger.known _ (List.mem_map_of_mem (f := Registry.target) row)

/-- Observers that are made later own nothing that is registered already. -/
theorem filter_own_append (after : World η ν) (maker : Option Nat)
    (makers : after.outside.makers = world.outside.makers ++ [maker]) (index : Nat)
    (descriptor : Int) : (world.reactor.registry.onSocket descriptor).filter (after.isOwn index) =
      world.holdings index descriptor := by
  rw [holdings]
  apply List.filter_congr
  intro registration there
  have old := world.known_on_socket ledger descriptor registration there
  rw [isOwn, isOwn, Bool.eq_iff_iff, beq_iff_eq, beq_iff_eq,
    maker?_append world after maker makers]
  apply or_iff_left
  intro new
  omega

theorem mem_holdings_iff (index : Nat) (owner : Owner η) (found : world.owner? index = some owner)
    (descriptor : Int) (registration : Registration)
    (held : registration ∈ world.holdings index descriptor) :
    descriptor = owner.socket.descriptor ∧ registration.place ∈ owner.observers := by
  obtain ⟨there, own⟩ := List.mem_filter.mp held
  have row := (world.reactor.registry.mem_onSocket ledger.sound descriptor registration).mp there
  obtain ⟨socket, records, noted, home, member⟩ := ledger.registered _
    (List.mem_map_of_mem (f := Registry.target) row) index (beq_iff_eq.mp own)
  rw [world.notes?_of_owner index owner found] at noted
  obtain ⟨rfl, rfl⟩ := Prod.mk.inj (Option.some.inj noted)
  exact ⟨home, member⟩

/-- Whoever is the next owner holds nothing yet. -/
theorem holdings_of_new (descriptor : Int) :
    world.holdings world.outside.owners.length descriptor = [] := by
  rw [holdings, List.filter_eq_nil_iff]
  intro registration there own
  have made : world.maker? registration.observer = some world.outside.owners.length :=
    beq_iff_eq.mp own
  exact Nat.lt_irrefl _ (ledger.owned _ _ made)

theorem newObserver_holds (index : Nat) (maker : Option Nat) :
    Holds index world (world.newObserver maker).2 :=
  world.filter_own_append ledger (world.newObserver maker).2 maker rfl index

omit ledger in
/-- Whoever is registered by a user is none of an owner's observers. -/
theorem add_holds (index : Nat) (socket : Handle) (kind : Kind) (observer : Nat)
    (own : world.outside.makers[observer]? = some none) : Holds index world
      (world.onReactor fun reactor => reactor.addHandler socket kind observer) := by
  intro descriptor
  cases there : world.reactor.registry.contains socket.descriptor kind observer with
  | true =>
    have same := Registry.add_of_contains world.reactor.registry socket kind observer there
    have registry : (world.onReactor fun reactor =>
        reactor.addHandler socket kind observer).reactor.registry = world.reactor.registry := by
      simp only [Site.onReactor, Reactor.addHandler, same]
    exact holds_of_same registry rfl descriptor
  | false =>
    have unmade : world.maker? observer = none := by simp [maker?, own]
    have added := world.reactor.registry.onSocket_add socket kind observer there descriptor
    change List.filter (world.isOwn index) ((world.reactor.registry.add socket kind
      observer).2.onSocket descriptor) = _
    rw [added]
    split
    · rw [List.filter_append, List.filter_cons_of_neg, List.filter_nil, List.append_nil]
      · rfl
      · simp [isOwn, unmade]
    · rfl

theorem remove_holds (index : Nat) (socket : Handle) (kind : Kind) (observer : Nat)
    (other : world.maker? observer ≠ some index) : Holds index world
      (world.onReactor fun reactor => reactor.removeHandler socket kind observer) := by
  intro descriptor
  have removed := world.reactor.registry.onSocket_remove ledger.sound socket kind observer
    descriptor
  change List.filter (world.isOwn index) ((world.reactor.registry.remove socket kind
    observer).2.onSocket descriptor) = _
  rw [removed]
  split
  · rw [List.filter_filter, holdings]
    apply List.filter_congr
    intro registration there
    cases own : world.isOwn index registration with
    | false => rfl
    | true =>
      have apart : registration.observer ≠ observer := by
        intro same
        rw [isOwn, same, beq_iff_eq] at own
        exact other own
      simp [SocketEntry.isFor, apart]
  · rfl

variable (index : Nat) (owner : Owner η) (found : world.owner? index = some owner)

include found

/-- An owner that registers has one registration more, and it is the last one on its socket. -/
theorem enlist_onSocket (alive : world.reactor.alive = true) (kind : Kind) (descriptor : Int) :
    (world.enlist index kind).reactor.registry.onSocket descriptor =
      if owner.socket.descriptor = descriptor then
        world.reactor.registry.onSocket descriptor ++
          [⟨world.reactor.registry.next, kind, world.outside.makers.length⟩]
      else world.reactor.registry.onSocket descriptor := by
  have absent : world.reactor.registry.contains owner.socket.descriptor kind
      world.outside.makers.length = false := by
    rw [Bool.eq_false_iff]
    intro there
    have place := (Registry.contains_iff _ ledger.sound _ _ _).mp there
    exact Nat.lt_irrefl _ (ledger.known _ place)
  rw [enlist_of_alive world index kind owner alive found]
  exact world.reactor.registry.onSocket_add owner.socket kind _ absent descriptor

omit ledger in
theorem enlist_makers (alive : world.reactor.alive = true) (kind : Kind) :
    (world.enlist index kind).outside.makers = world.outside.makers ++ [some index] := by
  rw [enlist_of_alive world index kind owner alive found]
  rfl

omit ledger in
theorem enlist_owner (alive : world.reactor.alive = true) (kind : Kind) :
    (world.enlist index kind).owner? index = some { owner with
      observers := owner.observers ++ [(kind, world.outside.makers.length)] } := by
  rw [enlist_of_alive world index kind owner alive found]
  exact owner?_changeOwner_self (world.newObserver (some index)).2 index _ owner found

omit ledger in
theorem enlist_changes (alive : world.reactor.alive = true) (kind : Kind) :
    (world.enlist index kind).owner? index ≠ world.owner? index := by
  intro same
  rw [world.enlist_owner index owner found alive, found, Option.some_inj] at same
  have longer := congrArg (fun owner => owner.observers.length) same
  simp at longer

theorem enlist_holdings (alive : world.reactor.alive = true) (kind : Kind) (other : Nat)
    (descriptor : Int) : (world.enlist index kind).holdings other descriptor =
      if other = index ∧ owner.socket.descriptor = descriptor then
        world.holdings other descriptor ++
          [⟨world.reactor.registry.next, kind, world.outside.makers.length⟩]
      else world.holdings other descriptor := by
  have makers := world.enlist_makers index owner found alive kind
  have old := world.filter_own_append ledger (world.enlist index kind) (some index) makers other
    descriptor
  have maker : (world.enlist index kind).maker? world.outside.makers.length = some index :=
    (maker?_append world _ _ makers _ _).mpr (.inr ⟨rfl, rfl⟩)
  rw [holdings, world.enlist_onSocket ledger index owner found alive]
  by_cases here : owner.socket.descriptor = descriptor
  · rw [if_pos here, List.filter_append, old]
    by_cases same : other = index
    · rw [if_pos ⟨same, here⟩, List.filter_cons_of_pos, List.filter_nil]
      simp [isOwn, maker, same]
    · rw [if_neg fun both => same both.1, List.filter_cons_of_neg, List.filter_nil,
        List.append_nil]
      simp [isOwn, maker, Ne.symm same]
  · rw [if_neg here, if_neg fun both => here both.2, old]

omit ledger in
theorem unregister_onSocket (sound : world.reactor.registry.Sound) (struck : List (Kind × Nat))
    (descriptor : Int) : (world.unregister index struck).reactor.registry.onSocket descriptor =
      if owner.socket.descriptor = descriptor then
        (world.reactor.registry.onSocket descriptor).filter fun registration =>
          registration.place ∉ struck
      else world.reactor.registry.onSocket descriptor := by
  rw [unregister, found]
  clear found
  dsimp only
  induction struck generalizing world with
  | nil => simp
  | cons record rest ih =>
    have removed := Registry.remove_sound _ sound owner.socket record.1 record.2
    have one := world.reactor.registry.onSocket_remove sound owner.socket record.1 record.2
      descriptor
    have more := ih (world.onReactor fun reactor =>
      reactor.removeHandler owner.socket record.1 record.2) removed
    rw [List.foldl_cons, more]
    change (if _ then ((world.reactor.registry.remove owner.socket record.1
      record.2).2.onSocket descriptor).filter _ else (world.reactor.registry.remove owner.socket
      record.1 record.2).2.onSocket descriptor) = _
    rw [one]
    split
    · rw [List.filter_filter]
      apply List.filter_congr
      intro registration there
      have matched : SocketEntry.isFor record.1 record.2 registration =
          decide (registration.place = record) := by
        rw [Bool.eq_iff_iff, decide_eq_true_eq]
        simp [SocketEntry.isFor, Registration.place, Prod.ext_iff]
      rw [matched, ← decide_not, ← Bool.decide_and]
      simp only [List.mem_cons, not_or, and_comm]
    · rfl

/-- An owner that withdraws takes its registrations of some kinds out. -/
theorem withdraw_onSocket (which : Kind → Bool) (descriptor : Int) :
    (world.withdraw index which).reactor.registry.onSocket descriptor =
      (world.reactor.registry.onSocket descriptor).filter fun registration =>
        !(world.isOwn index registration && which registration.kind) := by
  have kept := owner?_changeOwner_self world index (fun owner =>
    { owner with observers := owner.observers.filter fun row => !which row.1 }) owner found
  have effect := unregister_onSocket _ index _ kept ledger.sound
    (owner.observers.filter fun row => which row.1) descriptor
  have struck : ∀ registration ∈ world.reactor.registry.onSocket descriptor,
      (world.isOwn index registration && which registration.kind) = true ↔
        owner.socket.descriptor = descriptor ∧
          registration.place ∈ owner.observers.filter fun row => which row.1 := by
    intro registration there
    rw [Bool.and_eq_true, List.mem_filter]
    constructor
    · intro both
      have held := List.mem_filter.mpr ⟨there, both.1⟩
      obtain ⟨home, noted⟩ := world.mem_holdings_iff ledger index owner found _ _ held
      exact ⟨home.symm, noted, both.2⟩
    · intro taken
      obtain ⟨-, noted, goes⟩ := taken
      have own := ledger.recorded index _ _ (world.notes?_of_owner index owner found) _ noted
      exact ⟨beq_iff_eq.mpr own, goes⟩
  rw [withdraw, strike, found]
  refine effect.trans ?_
  change (if _ then (world.reactor.registry.onSocket descriptor).filter _ else
    world.reactor.registry.onSocket descriptor) = _
  split
  · rename_i here
    apply List.filter_congr
    intro registration there
    rw [Bool.eq_iff_iff, decide_eq_true_eq, Bool.not_eq_true', Bool.eq_false_iff, ne_eq,
      struck registration there]
    have home : owner.socket.descriptor = descriptor := here
    simp only [home, true_and]
  · rename_i elsewhere
    symm
    rw [List.filter_eq_self]
    intro registration there
    rw [Bool.not_eq_true', Bool.eq_false_iff, ne_eq, struck registration there]
    exact fun taken => elsewhere taken.1

omit ledger in
theorem withdraw_next (which : Kind → Bool) :
    (world.withdraw index which).reactor.registry.next = world.reactor.registry.next := by
  have removals : ∀ (struck : List (Kind × Nat)) (world : World η ν),
      (struck.foldl (fun world row => world.onReactor fun reactor =>
        reactor.removeHandler owner.socket row.1 row.2) world).reactor.registry.next =
          world.reactor.registry.next := by
    intro struck
    induction struck with
    | nil => exact fun _ => rfl
    | cons record rest ih =>
      intro world
      exact (ih _).trans (Registry.remove_next _ owner.socket record.1 record.2)
  have kept := owner?_changeOwner_self world index (fun owner =>
    { owner with observers := owner.observers.filter fun row => !which row.1 }) owner found
  rw [withdraw, strike, found]
  dsimp only
  rw [unregister, kept]
  exact removals _ _

theorem withdraw_makers (which : Kind → Bool) :
    (world.withdraw index which).outside.makers = world.outside.makers := by
  obtain ⟨outside, -⟩ := world.withdraw_effect ledger.sound index which owner found
  rw [outside]
  rfl

theorem withdraw_holdings (which : Kind → Bool) (other : Nat) (descriptor : Int) :
    (world.withdraw index which).holdings other descriptor =
      (world.holdings other descriptor).filter fun registration =>
        !(other == index && which registration.kind) := by
  have makers := world.withdraw_makers ledger index owner found which
  have own : (world.withdraw index which).isOwn other = world.isOwn other := by
    funext registration
    rw [isOwn, isOwn, maker?, maker?, makers]
  rw [holdings, own, world.withdraw_onSocket ledger index owner found, List.filter_filter, holdings,
    List.filter_filter]
  apply List.filter_congr
  intro registration there
  cases mine : world.isOwn other registration with
  | false => simp
  | true =>
    have made : world.maker? registration.observer = some other := beq_iff_eq.mp mine
    simp [isOwn, made]

end

namespace Edit

variable {index : Nat} {before after : World η ν}

/-- What an owner does with its record is nothing to the others. -/
theorem holds (edit : Edit index before after) (ledger : before.Ledger) (other : Nat)
    (apart : other ≠ index) : Holds other before after := by
  intro descriptor
  cases edit with
  | enlist alive found kind =>
    rw [enlist_holdings before ledger index _ found alive, if_neg fun both => apart both.1]
  | withdraw found which =>
    rw [withdraw_holdings before ledger index _ found, List.filter_eq_self]
    simp [apart]

/-- What leaves an owner's record as it was leaves what it holds as it was. -/
theorem holds_own (edit : Edit index before after) (ledger : before.Ledger)
    (same : after.owner? index = before.owner? index) : Holds index before after := by
  cases edit with
  | enlist alive found kind =>
    exact absurd same (before.enlist_changes index _ found alive kind)
  | @withdraw owner found which =>
    have struck := before.owner?_withdraw ledger.sound index which owner found
    rw [struck, found, Option.some_inj] at same
    have all := congrArg Owner.observers same
    rw [List.filter_eq_self] at all
    intro descriptor
    rw [withdraw_holdings before ledger index owner found, List.filter_eq_self]
    intro registration held
    obtain ⟨-, noted⟩ := before.mem_holdings_iff ledger index owner found _ _ held
    have stays := all _ noted
    rw [Bool.not_eq_true'] at stays ⊢
    rw [beq_self_eq_true, Bool.true_and]
    exact stays

/-- Observers are made by the owner that edits its record, if at all. -/
theorem makers (edit : Edit index before after) (ledger : before.Ledger) (other : Nat)
    (apart : other ≠ index) (observer : Nat) (made : after.maker? observer = some other) :
    before.maker? observer = some other := by
  cases edit with
  | @enlist owner alive found kind =>
    have makers := before.enlist_makers index owner found alive kind
    rw [maker?_append before _ _ makers] at made
    exact made.resolve_right fun new => apart (Option.some.inj new.2).symm
  | @withdraw owner found which =>
    rwa [maker?, before.withdraw_makers ledger index owner found which] at made

theorem beyond (edit : Edit index before after) (ledger : before.Ledger) :
    after.outside.beyond = before.outside.beyond := by
  cases edit with
  | @enlist owner alive found kind =>
    rw [enlist_of_alive before index kind owner alive found]
    rfl
  | @withdraw owner found which =>
    rw [(before.withdraw_effect ledger.sound index which owner found).1]
    rfl

end Edit

namespace Edits

variable {index : Nat} {before after : World η ν}

theorem holds (edits : Edits index before after) (ledger : before.Ledger) (other : Nat)
    (apart : other ≠ index) : Holds other before after := by
  induction edits with
  | refl => exact .refl other before
  | tail earlier edit ih => exact ih.trans (edit.holds (Edits.near earlier ledger).1 other apart)

theorem makers (edits : Edits index before after) (ledger : before.Ledger) (other : Nat)
    (apart : other ≠ index) (observer : Nat) (made : after.maker? observer = some other) :
    before.maker? observer = some other := by
  induction edits with
  | refl => exact made
  | tail earlier edit ih =>
    exact ih (edit.makers (Edits.near earlier ledger).1 other apart observer made)

end Edits

namespace Move

variable {before after : World η ν}

/-- Moves that leave an owner as it was leave what it holds as it was. -/
theorem holds (move : Move before after) (ledger : before.Ledger) (index : Nat)
    (known : index < before.outside.owners.length)
    (same : after.owner? index = before.owner? index) : Holds index before after := by
  cases move with
  | beyond | stop | owner | attempt | acceptor | done | bare => exact holds_of_same rfl rfl
  | observer => exact before.newObserver_holds ledger index none
  | add socket kind observer own => exact before.add_holds index socket kind observer own
  | remove socket kind observer own =>
    refine before.remove_holds ledger index socket kind observer ?_
    simp [maker?, own]
  | edit other value there others edit =>
    by_cases own : index = other
    · subst own
      exact edit.holds_own ledger same
    · exact edit.holds ledger index own
  | attach socket handler edits _ =>
    have seated : (before.addOwner { socket, role := .service (some handler) }).2.Ledger :=
      ledger.addOwner _ rfl
    have added : Holds index before (before.seated socket handler) := holds_of_same rfl rfl
    exact added.trans (edits.holds seated index (Nat.ne_of_lt known))

theorem makers (move : Move before after) (ledger : before.Ledger) (index : Nat)
    (known : index < before.outside.owners.length)
    (same : after.owner? index = before.owner? index) (observer : Nat)
    (made : after.maker? observer = some index) : before.maker? observer = some index := by
  cases move with
  | beyond | stop | owner | attempt | acceptor | done | bare | add | remove => exact made
  | observer =>
    have old := (maker?_append before _ none rfl observer index).mp made
    exact old.resolve_right (by simp)
  | edit other value there others edit =>
    by_cases own : index = other
    · subst own
      cases edit with
      | enlist alive found kind =>
        exact absurd same (before.enlist_changes index _ found alive kind)
      | withdraw found which =>
        rwa [maker?, before.withdraw_makers ledger index _ found which] at made
    · exact edit.makers ledger index own observer made
  | attach socket handler edits _ =>
    have seated : (before.addOwner { socket, role := .service (some handler) }).2.Ledger :=
      ledger.addOwner _ rfl
    exact edits.makers seated index (Nat.ne_of_lt known) observer made

end Move

/-- Moves leave what services hold as it is. -/
theorem Moves.holds {before after : World η ν} (moves : Moves before after)
    (going : before.Going) (index : Nat) (owner : Owner η)
    (found : before.owner? index = some owner) (serves : owner.serves = true) :
    Holds index before after := by
  induction moves with
  | refl => exact .refl index before
  | tail earlier move ih =>
    obtain ⟨between, beside⟩ := Moves.goes earlier going
    have there := beside.kept id found serves
    have still := (move.goes between).2.kept id there serves
    exact ih.trans (move.holds between.sound.toLedger index (owner?_lt _ index owner there)
      (still.trans there.symm))

end World

end SocketLoop
