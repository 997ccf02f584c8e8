import SocketLoop.Proofs.Owner.Contest
import SocketLoop.Proofs.Owner.Fates

/-! The record of an owner under two threads. One of them starts the owner: it launches an attempt
or attaches a service. The other one runs the loop and hears of what is registered. Each goes
through tasks, a task is what happens under one lock, and anything else may happen in between. -/
namespace SocketLoop

variable {η ν : Type}

inductive Task where
  /-- An observer for a kind is to be noted, unless the kind is on record. -/
  | enable (kind : Kind)
  | note (kind : Kind)
  | register (kind : Kind) (observer : Nat)
  | strike (which : Kind → Bool)
  | remove (kind : Kind) (observer : Nat)
  | conclude (failure? : Option Failure)
  /-- A service is to be closed if that was asked for, or if no kind is on record. -/
  | review (closing : Bool)
  | drop

namespace Task

def entering? : Task → Option (Kind × Nat)
  | .register kind observer => some (kind, observer)
  | _ => none

def leaving? : Task → Option (Kind × Nat)
  | .remove kind observer => some (kind, observer)
  | _ => none

/-- Does a task, and tells what its thread has to do next. -/
def perform (index : Nat) (world : World η ν) : Task → List Task × World η ν
  | .enable kind =>
    match world.owner? index with
    | none => ([], world)
    | some owner => (if owner.kinds.has kind then [] else [.note kind], world)
  | .note kind =>
    if world.reactor.alive then
      let (observer, world) := world.record index kind
      ([.register kind observer], world)
    else ([], world)
  | .register kind observer => ([], world.register index kind observer)
  | .strike which =>
    let (struck, world) := world.strike index which
    (struck.map fun row => .remove row.1 row.2, world)
  | .remove kind observer => ([], world.unregister index [(kind, observer)])
  | .conclude failure? =>
    ([], world.changeAttempt index fun attempt =>
      { attempt.finish failure? with
        factory := false
        onFailure := attempt.onFailure && failure?.isNone })
  | .review closing =>
    let bare := match world.owner? index with
      | none => true
      | some owner => owner.kinds.isEmpty
    (if closing || bare then [.strike fun _ => true, .drop] else [], world)
  | .drop =>
    ([], if ((world.owner? index).bind Owner.handler?).isSome then world.discard index else world)

/-- The observer that a task is to remove, where it is not registered. -/
def missing (index : Nat) (world : World η ν) : Task → List (Kind × Nat)
  | .remove kind observer =>
    if (world.owner? index).any fun owner =>
        world.reactor.registry.contains owner.socket.descriptor kind observer
    then [] else [(kind, observer)]
  | _ => []

end Task

namespace World

/-- What everybody else does: the record of an owner and its registrations stay as they are. -/
structure Elsewhere (index : Nat) (before after : World η ν) : Prop where
  owner : after.owner? index = before.owner? index
  makers : ∃ more, after.outside.makers = before.outside.makers ++ more ∧ some index ∉ more
  sound : before.reactor.registry.Sound → after.reactor.registry.Sound
  known : (∀ place ∈ before.reactor.registry.targets,
      place.2.2 < before.outside.makers.length) →
    ∀ place ∈ after.reactor.registry.targets, place.2.2 < after.outside.makers.length
  registered : ∀ place, before.maker? place.2.2 = some index →
    (place ∈ after.reactor.registry.targets ↔ place ∈ before.reactor.registry.targets)

def Listens (world : World η ν) (index : Nat) : Prop :=
  ∃ place ∈ world.reactor.registry.targets, world.maker? place.2.2 = some index

end World

structure Crew (η ν : Type) where
  world : World η ν
  starter : List Task := []
  loop : List Task := []
  /-- The observers that were to be removed before they were registered. -/
  missed : List (Kind × Nat) := []

namespace Crew

/-- What a service does with the requests of its handler. -/
def settling (requests : Requests) (failed : Bool) : List Task :=
  requests.disable.toList.map (fun kind => .strike fun other => other == kind) ++
    requests.enable.toList.map .enable ++ [.review (requests.close || failed)]

def starterDoes (crew : Crew η ν) (index : Nat) (task : Task) (rest : List Task) : Crew η ν :=
  { crew with
    world := (task.perform index crew.world).2
    starter := (task.perform index crew.world).1 ++ rest
    missed := task.missing index crew.world ++ crew.missed }

def loopDoes (crew : Crew η ν) (index : Nat) (task : Task) (rest : List Task) : Crew η ν :=
  { crew with
    world := (task.perform index crew.world).2
    loop := (task.perform index crew.world).1 ++ rest
    missed := task.missing index crew.world ++ crew.missed }

inductive Step (index : Nat) (crew : Crew η ν) : Crew η ν → Prop where
  | starter {task : Task} {rest : List Task} (turn : crew.starter = task :: rest) :
      Step index crew (crew.starterDoes index task rest)
  | loop {task : Task} {rest : List Task} (turn : crew.loop = task :: rest) :
      Step index crew (crew.loopDoes index task rest)
  /-- The loop notifies an attempt that is connecting, or user code that it calls aborts it, which
  needs the handle that its starter returns. A factory called for a conclusion may do so too. -/
  | resolve (free : ∀ task ∈ crew.loop, ∃ failure?, task = .conclude failure?)
      (called : crew.world.Listens index ∨ crew.starter = []) {attempt : Attempt}
      (found : crew.world.attempt? index = some attempt)
      (connecting : attempt.state = .connecting) (failure? : Option Failure) :
      Step index crew
        { crew with loop := .strike (fun _ => true) :: .conclude failure? :: crew.loop }
  /-- The loop notifies a service, whose handler asks for changes. One that panics asks for none. -/
  | serve (free : crew.loop = []) (listens : crew.world.Listens index)
      (serving : crew.world.Serving index) (handler : η) (requests : Requests) (failed : Bool) :
      Step index crew
        { crew with
          world := crew.world.setHandler index (some handler)
          loop := settling requests failed }
  | elsewhere {world : World η ν} (elsewhere : crew.world.Elsewhere index world) :
      Step index crew { crew with world }

def Steps (index : Nat) : Crew η ν → Crew η ν → Prop := Relation.ReflTransGen (Step index)

end Crew

namespace World

theorem notes?_iff (world : World η ν) (index : Nat) (socket : Handle)
    (record : List (Kind × Nat)) : world.notes? index = some (socket, record) ↔
      ∃ owner, world.owner? index = some owner ∧ owner.socket = socket ∧
        owner.observers = record := by
  simp [notes?]

theorem attempt?_of_service (world : World η ν) (index : Nat) (owner : Owner η)
    (handler : Option η) (found : world.owner? index = some owner)
    (role : owner.role = .service handler) : world.attempt? index = none := by
  simp [attempt?, found, Owner.attempt?, role]

/-- Only the ends of an attempt and of a service change more of their owner than its record. -/
theorem perform_owner (world : World η ν) (index : Nat) (task : Task) (owner : Owner η)
    (found : world.owner? index = some owner) (unconcluded : ∀ failure?, task ≠ .conclude failure?)
    (undropped : task ≠ .drop) : ∃ observers,
      (task.perform index world).2.owner? index = some { owner with observers } := by
  cases task with
  | enable kind =>
    simp only [Task.perform, found]
    exact ⟨owner.observers, rfl⟩
  | note kind =>
    simp only [Task.perform]
    split
    · exact ⟨_, owner?_changeOwner_self (world.newObserver (some index)).2 index _ owner found⟩
    · exact ⟨owner.observers, found⟩
  | register kind observer =>
    simp only [Task.perform, register, found]
    exact ⟨owner.observers, found⟩
  | strike which =>
    simp only [Task.perform, strike, found]
    exact ⟨_, owner?_changeOwner_self world index _ owner found⟩
  | remove kind observer =>
    simp only [Task.perform, unregister, found]
    exact ⟨owner.observers, found⟩
  | conclude failure? => exact absurd rfl (unconcluded failure?)
  | review closing => exact ⟨owner.observers, found⟩
  | drop => exact absurd rfl undropped

/-- Only noting and striking change a record. -/
theorem perform_notes (world : World η ν) (index : Nat) (task : Task)
    (unnoted : ∀ kind, task ≠ .note kind) (unstruck : ∀ which, task ≠ .strike which) :
    (task.perform index world).2.notes? index = world.notes? index := by
  cases task with
  | enable kind =>
    simp only [Task.perform]
    split <;> rfl
  | note kind => exact absurd rfl (unnoted kind)
  | register kind observer =>
    simp only [Task.perform, register]
    split <;> rfl
  | strike which => exact absurd rfl (unstruck which)
  | remove kind observer =>
    simp only [Task.perform, unregister]
    split <;> rfl
  | conclude failure? =>
    exact notes?_changeOwner world index _ (attempt_spared _).socket (attempt_spared _).observers
      index
  | review closing => rfl
  | drop =>
    simp only [Task.perform]
    split
    · exact notes?_setHandler world index none index
    · rfl

theorem notes_of_struck (world : World η ν) (index : Nat) (notes : Handle × List (Kind × Nat))
    (noted : (world.strike index fun _ => true).2.notes? index = some notes) : notes.2 = [] := by
  obtain ⟨owner, found, -, bare⟩ := (notes?_iff _ index notes.1 notes.2).mp noted
  rw [strike] at found
  cases before : world.owner? index with
  | none =>
    rw [before] at found
    exact absurd (before.symm.trans found) (by simp)
  | some old =>
    simp only [before] at found
    rw [owner?_changeOwner_self _ index _ old before] at found
    obtain rfl := Option.some.inj found
    rw [← bare]
    simp

end World

namespace Task

/-- What the tasks of a thread lead to. -/
theorem perform_pushes (index : Nat) (world : World η ν) (task : Task) :
    (task.perform index world).1 = [] ∨
    (∃ kind, task = .enable kind ∧ (task.perform index world).1 = [.note kind]) ∨
    (∃ kind observer, task = .note kind ∧
      (task.perform index world).1 = [.register kind observer]) ∨
    (∃ which, ∃ rows : List (Kind × Nat), task = .strike which ∧
      (task.perform index world).1 = rows.map fun row => .remove row.1 row.2) ∨
    ∃ closing, task = .review closing ∧
      (task.perform index world).1 = [.strike fun _ => true, .drop] := by
  cases task with
  | enable kind =>
    cases found : world.owner? index with
    | none => exact .inl (by simp [perform, found])
    | some owner =>
      cases there : owner.kinds.has kind with
      | true => exact .inl (by simp [perform, found, there])
      | false => exact .inr (.inl ⟨kind, rfl, by simp [perform, found, there]⟩)
  | note kind =>
    cases alive : world.reactor.alive with
    | true =>
      exact .inr (.inr (.inl ⟨kind, world.outside.makers.length, rfl,
        by simp [perform, alive, World.record, World.newObserver]⟩))
    | false => exact .inl (by simp [perform, alive])
  | strike which => exact .inr (.inr (.inr (.inl ⟨which, _, rfl, rfl⟩)))
  | review closing =>
    have either : ((review closing).perform index world).1 = [strike fun _ => true, drop] ∨
        ((review closing).perform index world).1 = [] := ite_eq_or_eq _ _ _
    exact either.elim (fun ends => .inr (.inr (.inr (.inr ⟨closing, rfl, ends⟩)))) .inl
  | register kind observer | remove kind observer | conclude failure? | drop => exact .inl rfl

/-- What a thread does when nothing comes between its tasks. -/
inductive Run (index : Nat) : List Task → World η ν → World η ν → Prop where
  | done (world : World η ν) : Run index [] world world
  | next {task : Task} {rest : List Task} {world after : World η ν}
      (run : Run index ((task.perform index world).1 ++ rest) (task.perform index world).2 after) :
      Run index (task :: rest) world after

namespace Run

variable {index : Nat} {tasks others : List Task} {world between after : World η ν}

theorem append (first : Run index tasks world between) (second : Run index others between after) :
    Run index (tasks ++ others) world after := by
  induction first with
  | done => exact second
  | next _ ih =>
    have both := ih second
    rw [List.append_assoc] at both
    exact .next both

theorem foldl {α : Type} (task : α → Task) (does : World η ν → α → World η ν)
    (each : ∀ world value, Run index [task value] world (does world value)) (values : List α)
    (world : World η ν) : Run index (values.map task) world (values.foldl does world) := by
  induction values generalizing world with
  | nil => exact .done world
  | cons value rest ih => exact (each world value).append (ih (does world value))

theorem enlist (world : World η ν) (kind : Kind) :
    Run index [.note kind] world (world.enlist index kind) := by
  refine .next ?_
  rw [World.enlist, perform]
  split
  · exact .next (.done _)
  · exact .done world

theorem enable (world : World η ν) (kind : Kind) :
    Run index [.enable kind] world (world.enable index kind) := by
  refine .next ?_
  rw [World.enable, perform]
  cases world.owner? index with
  | none => exact .done world
  | some owner =>
    dsimp only
    split
    · exact .done world
    · exact enlist world kind

theorem withdraw (world : World η ν) (which : Kind → Bool) :
    Run index [.strike which] world (world.withdraw index which) := by
  have removing : ∀ (rows : List (Kind × Nat)) (world : World η ν),
      Run index (rows.map fun row => .remove row.1 row.2) world (world.unregister index rows) := by
    intro rows
    induction rows with
    | nil =>
      intro world
      have same : world.unregister index [] = world := by
        rw [World.unregister]
        split <;> rfl
      rw [same]
      exact .done world
    | cons row rest ih =>
      intro world
      have same : world.unregister index (row :: rest) =
          (world.unregister index [row]).unregister index rest := by
        cases found : world.owner? index with
        | none => simp only [World.unregister, found]
        | some owner =>
          have still : (world.unregister index [row]).owner? index = some owner := by
            rw [World.unregister, found]
            exact found
          rw [World.unregister, World.unregister, still, found, World.unregister, found]
          rfl
      rw [same]
      exact .next (ih _)
  refine .next ?_
  rw [List.append_nil]
  exact removing _ _

end Run

end Task

namespace Crew

variable {crew next : Crew η ν} {index : Nat}

theorem Step.of_starter {task : Task} {rest : List Task} (turn : crew.starter = task :: rest)
    (does : crew.starterDoes index task rest = next) : Step index crew next := by
  rw [← does]
  exact .starter turn

theorem Step.of_loop {task : Task} {rest : List Task} (turn : crew.loop = task :: rest)
    (does : crew.loopDoes index task rest = next) : Step index crew next := by
  rw [← does]
  exact .loop turn

/-- A run of the starter while the loop does nothing. -/
theorem starter_steps {tasks rest : List Task} {after : World η ν}
    (run : Task.Run index tasks crew.world after) (turn : crew.starter = tasks ++ rest) :
    ∃ missed, Steps index crew { crew with world := after, starter := rest, missed } := by
  generalize start : crew.world = world at run
  induction run generalizing crew with
  | done =>
    refine ⟨crew.missed, ?_⟩
    obtain rfl : crew.starter = rest := turn
    subst start
    exact .refl
  | @next task others world after run ih =>
    subst start
    obtain ⟨missed, steps⟩ := @ih (crew.starterDoes index task (others ++ rest))
      (List.append_assoc _ _ _).symm rfl
    exact ⟨missed, .head (.starter turn) steps⟩

/-- A run of the loop while the starter does nothing. -/
theorem loop_steps {tasks rest : List Task} {after : World η ν}
    (run : Task.Run index tasks crew.world after) (turn : crew.loop = tasks ++ rest) :
    ∃ missed, Steps index crew { crew with world := after, loop := rest, missed } := by
  generalize start : crew.world = world at run
  induction run generalizing crew with
  | done =>
    refine ⟨crew.missed, ?_⟩
    obtain rfl : crew.loop = rest := turn
    subst start
    exact .refl
  | @next task others world after run ih =>
    subst start
    obtain ⟨missed, steps⟩ := @ih (crew.loopDoes index task (others ++ rest))
      (List.append_assoc _ _ _).symm rfl
    exact ⟨missed, .head (.loop turn) steps⟩

/-- Nothing is left to do but to register what was noted. -/
def Noted (starter : List Task) : Prop :=
  ∀ task ∈ starter, ∃ kind observer, task = .register kind observer

def Bare (crew : Crew η ν) (index : Nat) : Prop :=
  ∀ notes, crew.world.notes? index = some notes → notes.2 = []

theorem Bare.of_notes (bare : crew.Bare index)
    (same : next.world.notes? index = crew.world.notes? index) : next.Bare index := by
  intro notes there
  exact bare notes (same.symm.trans there)

theorem Bare.elsewhere (bare : crew.Bare index) {world : World η ν}
    (elsewhere : crew.world.Elsewhere index world) : Bare { crew with world } index := by
  apply bare.of_notes
  rw [World.notes?, World.notes?, elsewhere.owner]

/-- What a starter has left to do; if all of it was noted, that is to register. -/
structure Starts (all : Prop) (starter : List Task) : Prop where
  starting : ∀ task ∈ starter, (∃ kind, task = .enable kind ∨ task = .note kind) ∨
    ∃ kind observer, task = .register kind observer
  noted : all → Noted starter

theorem Starts.starter {all : Prop} (starts : Starts all crew.starter) (index : Nat) {task : Task}
    {rest : List Task} (turn : crew.starter = task :: rest) :
    Starts all (crew.starterDoes index task rest).starter ∧
      (∀ owner, crew.world.owner? index = some owner → ∃ observers,
        (task.perform index crew.world).2.owner? index = some { owner with observers }) ∧
      (all → crew.Bare index → (crew.starterDoes index task rest).Bare index) := by
  have head : task ∈ crew.starter := by
    rw [turn]
    exact List.mem_cons_self
  have later : ∀ other ∈ rest, other ∈ crew.starter := by
    rw [turn]
    exact fun other => List.mem_cons_of_mem task
  have first := starts.starting task head
  refine ⟨⟨?_, ?_⟩, ?_, ?_⟩
  · intro other member
    rcases List.mem_append.mp member with pushed | old
    · rcases task.perform_pushes index crew.world with
        none | ⟨kind, -, notes⟩ | ⟨kind, observer, -, registers⟩ | ⟨which, rows, rfl, -⟩ |
        ⟨closing, rfl, -⟩
      · rw [none] at pushed
        cases pushed
      · rw [notes] at pushed
        exact .inl ⟨kind, .inr (List.mem_singleton.mp pushed)⟩
      · rw [registers] at pushed
        exact .inr ⟨kind, observer, List.mem_singleton.mp pushed⟩
      · simp at first
      · simp at first
    · exact starts.starting other (later other old)
  · intro whole other member
    obtain ⟨kind, observer, rfl⟩ := starts.noted whole task head
    exact starts.noted whole other (later other member)
  · intro owner found
    refine crew.world.perform_owner index task owner found ?_ ?_
    · rintro failure? rfl
      simp at first
    · rintro rfl
      simp at first
  · intro whole bare
    obtain ⟨kind, observer, rfl⟩ := starts.noted whole task head
    exact bare.of_notes (crew.world.perform_notes index _ (by simp) (by simp))

end Crew

end SocketLoop
