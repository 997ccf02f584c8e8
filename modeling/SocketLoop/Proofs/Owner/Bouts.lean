import Mathlib.Logic.Relation
import SocketLoop.Proofs.Owner.Outcome
import SocketLoop.Proofs.Owner.Spares

/-! Contests in a world. A move of a contest changes the attempt that it is over, the deeds or the
owners of the world, and nothing else that goes on there touches the attempt. So what holds of every
contest is said of the attempt in its world. -/
namespace SocketLoop

variable {η ν : Type}

def World.home? (world : World η ν) (index : Nat) : Option Handle :=
  (world.owner? index).map Owner.socket

def Move.party : Move → Party
  | .launch _ => .starter
  | .check party | .write party | .tell party => party
  | .read _ | .build _ | .unwind => .resolver
  | .drop number => .abort number

/-- What a move does to the world of an attempt. A service that the factory has built is added, on
the socket of the attempt. -/
inductive Move.Does (index : Nat) (contest : Contest) (world : World η ν) :
    Move → World η ν → Prop
  | launch : Does index contest world (.launch none)
      (world.changeAttempt index fun attempt => { attempt with state := .connecting })
  | refuse (failure : Failure) : Does index contest world (.launch (some failure)) world
  | check (party : Party) : Does index contest world (.check party) world
  | read (failure? : Option Failure) : Does index contest world (.read failure?)
      (world.changeAttempt index fun attempt => { attempt with factory := false })
  | drop (number : Nat) : Does index contest world (.drop number)
      (world.changeAttempt index fun attempt => { attempt with factory := false })
  | build {socket : Handle} (home : world.home? index = some socket) (handler : η) :
      Does index contest world (.build none)
        (world.addOwner { socket, role := .service (some handler) }).2
  | lack (failure : Failure) : Does index contest world (.build (some failure)) world
  | unwind : Does index contest world .unwind world
  | write {party : Party} {failure? : Option Failure}
      (stands : contest.stance party = .ending failure?) : Does index contest world (.write party)
      (world.changeAttempt index fun attempt => attempt.finish failure?)
  | hear {party : Party} {failure : Failure} (stands : contest.stance party = .telling failure)
      (waits : contest.attempt.onFailure = true) : Does index contest world (.tell party)
      ((world.changeAttempt index fun attempt => { attempt with onFailure := false }).done
        (.told index failure.errno?))
  | miss {party : Party} {failure : Failure} (stands : contest.stance party = .telling failure)
      (waits : contest.attempt.onFailure = false) : Does index contest world (.tell party)
      (world.changeAttempt index fun attempt => { attempt with onFailure := false })

namespace Contest

variable {contest next : Contest}

theorem step_history (move : Move) (moved : contest.step? move = some next) :
    contest.history <:+ next.history := by
  cases move with
  | launch failure? => cases failure? <;> simp only [step?, go] at moved <;> grind
  | _ =>
    simp only [step?, go, conclude] at moved
    grind

theorem step_attached (move : Move) (moved : contest.step? move = some next) :
    next.attached = contest.attached + if move = .build none then 1 else 0 := by
  cases move with
  | launch failure? => cases failure? <;> simp only [step?, go] at moved <;> grind
  | _ =>
    simp only [step?, go, conclude] at moved
    grind

theorem step_aborted (move : Move) (moved : contest.step? move = some next)
    (aborted : next.aborted = true) :
    contest.aborted = true ∨ ∃ number, move = .check (.abort number) := by
  cases move with
  | launch failure? => cases failure? <;> simp only [step?, go] at moved <;> grind
  | check party =>
    simp only [step?, go] at moved
    cases party <;> grind
  | _ =>
    simp only [step?, go, conclude] at moved
    grind

end Contest

namespace World

theorem home?_changeOwner (world : World η ν) (index owner : Nat) (change : Owner η → Owner η)
    (still : ∀ value, (change value).socket = value.socket) :
    (world.changeOwner owner change).home? index = world.home? index := by
  simp only [home?, owner?, changeOwner, List.getElem?_modify]
  cases world.outside.owners[index]? with
  | none => rfl
  | some value => by_cases same : owner = index <;> simp [same, still]

theorem home?_changeAttempt (world : World η ν) (index owner : Nat) (change : Attempt → Attempt) :
    (world.changeAttempt owner change).home? index = world.home? index := by
  refine home?_changeOwner world index owner _ ?_
  intro value
  cases role : value.role <;> simp

theorem home?_addOwner (world : World η ν) (index : Nat) (owner : Owner η) (socket : Handle)
    (home : world.home? index = some socket) :
    (world.addOwner owner).2.home? index = some socket := by
  obtain ⟨value, found, rfl⟩ := Option.map_eq_some_iff.mp home
  have known := (List.getElem?_eq_some_iff.mp found).1
  exact congrArg (Option.map Owner.socket) ((List.getElem?_append_left known).trans found)

/-- A step leaves the attempt of an owner, its socket and what was told of it alone, and adds no
owner. -/
structure Ignores (index : Nat) (before after : World η ν) : Prop extends
    Spares index before after where
  home : after.home? index = before.home? index
  length : after.outside.owners.length = before.outside.owners.length

theorem ignores_covers (index : Nat) :
    Covers (fun owner => owner ≠ index) False (@Ignores η ν index) where
  refl world := ⟨.refl index world, rfl, rfl⟩
  trans first second := ⟨first.toSpares.trans second.toSpares, second.home.trans first.home,
    second.length.trans first.length⟩
  addHandler world socket kind observer :=
    ⟨(spares_covers index).addHandler world socket kind observer, rfl, rfl⟩
  removeHandler world socket kind observer :=
    ⟨(spares_covers index).removeHandler world socket kind observer, rfl, rfl⟩
  newObserver world maker := ⟨(spares_covers index).newObserver world maker, rfl, rfl⟩
  observers world owner change := ⟨(spares_covers index).observers world owner change,
    home?_changeOwner world index owner _ fun _ => rfl, List.length_modify ..⟩
  addOwner closed := closed.elim
  setHandler world owner handler := by
    refine ⟨(spares_covers index).setHandler world owner handler,
      home?_changeOwner world index owner _ ?_, List.length_modify ..⟩
    intro value
    cases role : value.role <;> simp
  changeAcceptor world owner change := by
    refine ⟨(spares_covers index).changeAcceptor world owner change,
      home?_changeOwner world index owner _ ?_, List.length_modify ..⟩
    intro value
    cases role : value.role <;> simp
  changeAttempt world owner change apart :=
    ⟨(spares_covers index).changeAttempt world owner change apart,
      home?_changeAttempt world index owner change, List.length_modify ..⟩
  done world deed apart := ⟨(spares_covers index).done world deed apart, rfl, rfl⟩

end World

/-- A contest and the world with the attempt that it is over. -/
structure Bout (η ν : Type) where
  contest : Contest
  world : World η ν

namespace Bout

/-- A step of a bout is a move, where it may be made, or leaves the attempt alone. Where that may be,
which is what `none` stands for, other owners come. -/
inductive Step (may : Option Move → Prop) (index : Nat) : Bout η ν → Bout η ν → Prop
  | move {contest next : Contest} {world after : World η ν} (move : Move)
      (allowed : may (some move)) (moved : contest.step? move = some next)
      (does : move.Does index contest world after) : Step may index ⟨contest, world⟩ ⟨next, after⟩
  | ignores {contest : Contest} {world after : World η ν}
      (ignores : World.Ignores index world after) :
      Step may index ⟨contest, world⟩ ⟨contest, after⟩
  | arrival {contest : Contest} {world : World η ν} (owner : Owner η) (allowed : may none) :
      Step may index ⟨contest, world⟩ ⟨contest, (world.addOwner owner).2⟩

abbrev Reaches (may : Option Move → Prop) (index : Nat) : Bout η ν → Bout η ν → Prop :=
  Relation.ReflTransGen (Step may index)

/-- A new attempt of a new owner. -/
def opening (given : Bool) (socket : Handle) (world : World η ν) : Bout η ν where
  contest := .start given
  world := (world.addOwner { socket, role := .attempt { onFailure := given } }).2

variable {may wider : Option Move → Prop} {index : Nat} {older : List (Option Errno)}
  {bout next : Bout η ν}

theorem Reaches.move (index : Nat) (world : World η ν) {contest next : Contest}
    {after : World η ν} (move : Move) (allowed : may (some move))
    (moved : contest.step? move = some next) (does : move.Does index contest world after) :
    Reaches may index ⟨contest, world⟩ ⟨next, after⟩ :=
  .single (.move move allowed moved does)

theorem Reaches.mono (allows : may ≤ wider) (reaches : Reaches may index bout next) :
    Reaches wider index bout next := by
  refine Relation.ReflTransGen.mono ?_ _ _ reaches
  intro bout next step
  cases step with
  | move move allowed moved does => exact .move move (allows _ allowed) moved does
  | ignores ignores => exact .ignores ignores
  | arrival owner allowed => exact .arrival owner (allows _ allowed)

private theorem does_attempt {contest next : Contest} {world after : World η ν} {move : Move}
    (attempt : world.attempt? index = some contest.attempt)
    (moved : contest.step? move = some next) (does : move.Does index contest world after) :
    after.attempt? index = some next.attempt := by
  cases does with
  | build home handler =>
    simp only [Contest.step?, Option.ite_none_right_eq_some, Option.some.injEq] at moved
    obtain ⟨-, rfl⟩ := moved
    exact (world.spares_addOwner index _).attempt _ attempt
  | check party =>
    simp only [Contest.step?, Option.ite_none_right_eq_some] at moved
    obtain ⟨-, moved⟩ := moved
    split at moved <;> obtain ⟨⟩ := moved <;> exact attempt
  | read failure? =>
    simp only [Contest.step?, Option.ite_none_right_eq_some] at moved
    obtain ⟨-, moved⟩ := moved
    rw [World.attempt?_changeAttempt, attempt]
    split at moved <;> obtain ⟨⟩ := moved <;> rfl
  | write stands | miss stands waits | hear stands waits =>
    simp only [Contest.step?, stands, Option.some.injEq] at moved
    obtain ⟨⟩ := moved
    refine (World.attempt?_changeAttempt world index _).trans ?_
    rw [attempt]
    rfl
  | _ =>
    simp only [Contest.step?, Option.ite_none_right_eq_some, Option.some.injEq] at moved
    obtain ⟨-, rfl⟩ := moved
    simp only [World.attempt?_changeAttempt, attempt]
    rfl

private theorem does_told {contest next : Contest} {world after : World η ν} {move : Move}
    (told : world.toldOf index = contest.told ++ older)
    (moved : contest.step? move = some next) (does : move.Does index contest world after) :
    after.toldOf index = next.told ++ older := by
  cases does with
  | check party =>
    simp only [Contest.step?, Option.ite_none_right_eq_some] at moved
    obtain ⟨-, moved⟩ := moved
    split at moved <;> obtain ⟨⟩ := moved <;> exact told
  | read failure? =>
    simp only [Contest.step?, Option.ite_none_right_eq_some] at moved
    obtain ⟨-, moved⟩ := moved
    split at moved <;> obtain ⟨⟩ := moved <;> exact told
  | write stands =>
    simp only [Contest.step?, stands, Option.some.injEq] at moved
    obtain ⟨⟩ := moved
    exact told
  | miss stands waits | hear stands waits =>
    simp only [Contest.step?, stands, waits, Option.some.injEq] at moved
    obtain ⟨⟩ := moved
    simpa [World.toldOf, World.done, Deed.told?, World.changeAttempt, World.changeOwner,
      Contest.go] using told
  | _ =>
    simp only [Contest.step?, Option.ite_none_right_eq_some, Option.some.injEq] at moved
    obtain ⟨-, rfl⟩ := moved
    exact told

/-- The attempt of the contest is that of the owner. -/
theorem Reaches.attempt (reaches : Reaches may index bout next)
    (attempt : bout.world.attempt? index = some bout.contest.attempt) :
    next.world.attempt? index = some next.contest.attempt := by
  induction reaches with
  | refl => exact attempt
  | tail _ step ih =>
    cases step with
    | move move allowed moved does => exact does_attempt ih moved does
    | ignores ignores => exact ignores.attempt _ ih
    | @arrival _ world owner allowed => exact (world.spares_addOwner index owner).attempt _ ih

theorem Reaches.home {socket : Handle} (reaches : Reaches may index bout next)
    (home : bout.world.home? index = some socket) : next.world.home? index = some socket := by
  induction reaches with
  | refl => exact home
  | tail _ step ih =>
    cases step with
    | @move _ _ world _ move allowed moved does =>
      cases does with
      | refuse | check | lack | unwind => exact ih
      | build => exact world.home?_addOwner index _ socket ih
      | launch | read | drop | write | hear | miss =>
        exact (world.home?_changeAttempt index index _).trans ih
    | ignores ignores => exact ignores.home.trans ih
    | @arrival _ world owner allowed => exact world.home?_addOwner index owner socket ih

/-- What was told is what the contest tells of, apart from what is older. -/
theorem Reaches.told (reaches : Reaches may index bout next)
    (told : bout.world.toldOf index = bout.contest.told ++ older) :
    next.world.toldOf index = next.contest.told ++ older := by
  induction reaches with
  | refl => exact told
  | tail _ step ih =>
    cases step with
    | move move allowed moved does => exact does_told ih moved does
    | ignores ignores => exact ignores.told.trans ih
    | arrival owner allowed => exact ih

theorem Reaches.sound {given : Bool} (reaches : Reaches may index bout next)
    (sound : ∃ begun ends, bout.contest.Sound given begun ends) :
    ∃ begun ends, next.contest.Sound given begun ends := by
  induction reaches with
  | refl => exact sound
  | tail _ step ih =>
    cases step with
    | move move allowed moved does =>
      obtain ⟨begun, ends, sound⟩ := ih
      exact Contest.step_sound sound move moved
    | ignores ignores => exact ih
    | arrival owner allowed => exact ih

theorem Reaches.history (reaches : Reaches may index bout next) :
    bout.contest.history <:+ next.contest.history := by
  induction reaches with
  | refl => exact List.suffix_rfl
  | tail _ step ih =>
    cases step with
    | move move allowed moved does => exact ih.trans (Contest.step_history move moved)
    | ignores ignores => exact ih
    | arrival owner allowed => exact ih

/-- An abort found the attempt connecting only where aborts may look at it. -/
theorem Reaches.unaborted (reaches : Reaches may index bout next)
    (never : ∀ number, ¬may (some (.check (.abort number))))
    (before : bout.contest.aborted = false) : next.contest.aborted = false := by
  induction reaches with
  | refl => exact before
  | tail _ step ih =>
    cases step with
    | move move allowed moved does =>
      rw [← Bool.not_eq_true] at ih ⊢
      intro aborted
      rcases Contest.step_aborted move moved aborted with old | ⟨number, rfl⟩
      · exact ih old
      · exact never number allowed
    | ignores ignores => exact ih
    | arrival owner allowed => exact ih

/-- Where no others come, the owners that came are the services attached for the attempt. -/
theorem Reaches.owners (reaches : Reaches may index bout next) (closed : ¬may none) (count : Nat)
    (before : bout.world.outside.owners.length = count + bout.contest.attached) :
    next.world.outside.owners.length = count + next.contest.attached := by
  induction reaches with
  | refl => exact before
  | tail _ step ih =>
    cases step with
    | move move allowed moved does =>
      dsimp only at ih ⊢
      rw [Contest.step_attached move moved]
      cases does <;>
        simp [World.changeAttempt, World.changeOwner, World.addOwner, World.done, ih, Nat.add_assoc]
    | ignores ignores => exact ignores.length.trans ih
    | arrival owner allowed => exact absurd allowed closed

end Bout

end SocketLoop
