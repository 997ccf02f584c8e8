import Mathlib.Data.Finset.Card
import SocketLoop.Proofs.Owner.Lifetime
import SocketLoop.Proofs.Owner.Tally

/-! Attaching a service while the loop runs. The loop serves it as soon as its first kind is
registered, so its handler may ask for changes, or to be closed, while kinds are still to come. -/
namespace SocketLoop

variable {η ν : Type}

namespace World

/-- A service stays with its handler as long as it keeps everything but its record. -/
theorem serving_stays {before after : World η ν} {index : Nat} (there : before.Serving index)
    (keeps : ∀ owner, before.owner? index = some owner → ∃ observers,
      after.owner? index = some { owner with observers }) : after.Serving index := by
  obtain ⟨owner, handler, found, role⟩ := there
  obtain ⟨observers, kept⟩ := keeps owner found
  exact ⟨_, handler, kept, role⟩

end World

namespace Task

/-- Whether a task is one that only the end of a list of tasks leads to. -/
def closes : Task → Bool
  | .review _ | .drop | .conclude _ => true
  | _ => false

theorem perform_closes (index : Nat) (world : World η ν) (task : Task)
    (inside : task.closes = false) : ∀ other ∈ (task.perform index world).1,
      other.closes = false := by
  intro other pushed
  rcases task.perform_pushes index world with
    none | ⟨kind, -, notes⟩ | ⟨kind, observer, -, registers⟩ | ⟨which, rows, -, removes⟩ |
    ⟨closing, rfl, -⟩
  · rw [none] at pushed
    cases pushed
  · rw [notes] at pushed
    rw [List.mem_singleton.mp pushed]
    rfl
  · rw [registers] at pushed
    rw [List.mem_singleton.mp pushed]
    rfl
  · rw [removes] at pushed
    obtain ⟨row, -, rfl⟩ := List.mem_map.mp pushed
    rfl
  · cases inside

/-- A thread registers what it noted before it does anything else. -/
theorem perform_tail (index : Nat) (world : World η ν) (task : Task) :
    ∀ other ∈ (task.perform index world).1.tail, other.entering? = none := by
  intro other later
  rcases task.perform_pushes index world with
    none | ⟨kind, -, notes⟩ | ⟨kind, observer, -, registers⟩ | ⟨which, rows, -, removes⟩ |
    ⟨closing, -, ends⟩
  · rw [none] at later
    cases later
  · rw [notes] at later
    cases later
  · rw [registers] at later
    cases later
  · rw [removes] at later
    obtain ⟨row, -, rfl⟩ := List.mem_map.mp (List.mem_of_mem_tail later)
    rfl
  · rw [ends] at later
    rw [List.mem_singleton.mp later]
    rfl

end Task

namespace Crew

/-- The starter of a service has its interests before it. A handler without interests is dropped. -/
def attaching (interests : KindSet) (socket : Handle) (handler : η) (world : World η ν) :
    Crew η ν where
  world :=
    if interests.isEmpty then (world.seated socket handler).discard world.outside.owners.length
    else world.seated socket handler
  starter := interests.toList.map .enable

/-- The handler is there, and the loop is not about to drop it. -/
def Unclosed (crew : Crew η ν) (index : Nat) : Prop :=
  crew.world.Serving index ∧ .drop ∉ crew.loop

/-- Where the loop is with a service. If everything was noted when the loop took the record back,
nothing is on record any more. -/
inductive Phase (index : Nat) (all : Prop) (crew : Crew η ν) : Prop where
  | idle (there : crew.world.Serving index) (loop : crew.loop = [])
  | settling (there : crew.world.Serving index) (tasks : List Task) (closing : Bool)
      (loop : crew.loop = tasks ++ [.review closing])
      (inside : ∀ task ∈ tasks, task.closes = false)
  | striking (there : crew.world.Serving index)
      (loop : crew.loop = [.strike fun _ => true, .drop])
  | removing (there : crew.world.Serving index) (rows : List (Kind × Nat))
      (loop : crew.loop = rows.map (fun row => .remove row.1 row.2) ++ [.drop])
      (bare : all → crew.Bare index)
  | closed {owner : Owner η} (found : crew.world.owner? index = some owner)
      (gone : owner.role = .service none) (loop : crew.loop = []) (bare : all → crew.Bare index)

structure Tenure (index : Nat) (all : Prop) (crew : Crew η ν) : Prop extends
    Starts all crew.starter where
  phase : crew.Phase index all

variable {crew next : Crew η ν} {index : Nat} {all : Prop}

theorem Tenure.starter (tenure : crew.Tenure index all) {task : Task} {rest : List Task}
    (turn : crew.starter = task :: rest) : (crew.starterDoes index task rest).Tenure index all := by
  obtain ⟨starts, keeps, bare⟩ := tenure.toStarts.starter index turn
  refine ⟨starts, ?_⟩
  cases tenure.phase with
  | idle there loop => exact .idle (World.serving_stays there keeps) loop
  | settling there tasks closing loop inside =>
    exact .settling (World.serving_stays there keeps) tasks closing loop inside
  | striking there loop => exact .striking (World.serving_stays there keeps) loop
  | removing there rows loop left =>
    exact .removing (World.serving_stays there keeps) rows loop fun whole => bare whole (left whole)
  | closed found gone loop left =>
    obtain ⟨observers, kept⟩ := keeps _ found
    exact .closed kept gone loop fun whole => bare whole (left whole)

theorem Tenure.loop (tenure : crew.Tenure index all) {task : Task} {rest : List Task}
    (turn : crew.loop = task :: rest) : (crew.loopDoes index task rest).Tenure index all := by
  refine ⟨tenure.toStarts, ?_⟩
  have keeps : task.closes = false → ∀ owner, crew.world.owner? index = some owner →
      ∃ observers, (task.perform index crew.world).2.owner? index =
        some { owner with observers } := by
    intro inside owner found
    refine crew.world.perform_owner index task owner found ?_ ?_
    · rintro failure? rfl
      cases inside
    · rintro rfl
      cases inside
  cases tenure.phase with
  | idle _ loop | closed _ _ loop _ =>
    rw [loop] at turn
    cases turn
  | settling there tasks closing loop inside =>
    cases tasks with
    | nil =>
      obtain ⟨rfl, rfl⟩ := List.cons.inj (turn.symm.trans loop)
      have either : ((Task.review closing).perform index crew.world).1 =
          [.strike fun _ => true, .drop] ∨
            ((Task.review closing).perform index crew.world).1 = [] := ite_eq_or_eq _ _ _
      rcases either with closes | goesOn
      · exact .striking there (congrArg (· ++ []) closes)
      · exact .idle there (congrArg (· ++ []) goesOn)
    | cons first more =>
      obtain ⟨rfl, rfl⟩ := List.cons.inj (turn.symm.trans loop)
      have own := inside task List.mem_cons_self
      refine .settling (World.serving_stays there (keeps own)) _ closing
        (List.append_assoc _ more _).symm ?_
      intro other member
      rcases List.mem_append.mp member with pushed | old
      · exact Task.perform_closes index crew.world task own other pushed
      · exact inside other (List.mem_cons_of_mem task old)
  | striking there loop =>
    obtain ⟨rfl, rfl⟩ := List.cons.inj (turn.symm.trans loop)
    exact .removing (World.serving_stays there (keeps rfl)) _ rfl
      fun _ => crew.world.notes_of_struck index
  | removing there rows loop left =>
    cases rows with
    | nil =>
      obtain ⟨rfl, rfl⟩ := List.cons.inj (turn.symm.trans loop)
      obtain ⟨owner, handler, found, role⟩ := there
      have same := crew.world.perform_notes index .drop (by simp) (by simp)
      have gone := World.owner?_setHandler crew.world index none owner found
        (World.serves_of_role owner _ role)
      have dropped : (Task.drop.perform index crew.world).2 = crew.world.discard index := by
        simp [Task.perform, found, Owner.handler?, role]
      have kept := (congrArg (World.owner? · index) dropped).trans gone
      exact .closed kept rfl rfl fun whole => (left whole).of_notes same
    | cons row more =>
      obtain ⟨rfl, rfl⟩ := List.cons.inj (turn.symm.trans loop)
      have same := crew.world.perform_notes index (.remove row.1 row.2) (by simp) (by simp)
      exact .removing (World.serving_stays there (keeps rfl)) more rfl
        fun whole => (left whole).of_notes same

theorem settling_closes (requests : Requests) (failed : Bool) :
    ∃ tasks closing, settling requests failed = tasks ++ [.review closing] ∧
      ∀ task ∈ tasks, task.closes = false := by
  refine ⟨_, _, rfl, ?_⟩
  intro task member
  rcases List.mem_append.mp member with disabling | enabling
  · obtain ⟨kind, -, rfl⟩ := List.mem_map.mp disabling
    rfl
  · obtain ⟨kind, -, rfl⟩ := List.mem_map.mp enabling
    rfl

theorem Step.tenure (step : Step index crew next) (tenure : crew.Tenure index all) :
    next.Tenure index all := by
  have service : ∃ owner handler, crew.world.owner? index = some owner ∧
      owner.role = .service handler := by
    cases tenure.phase with
    | idle there | settling there | striking there | removing there =>
      obtain ⟨owner, handler, found, role⟩ := there
      exact ⟨owner, _, found, role⟩
    | closed found gone => exact ⟨_, _, found, gone⟩
  obtain ⟨owner, handler?, found, role⟩ := service
  cases step with
  | starter turn => exact tenure.starter turn
  | loop turn => exact tenure.loop turn
  | resolve free called trying =>
    have none := crew.world.attempt?_of_service index owner handler? found role
    exact absurd (none.symm.trans trying) (by simp)
  | serve free listens serving handler requests failed =>
    refine ⟨tenure.toStarts, ?_⟩
    have there := World.owner?_setHandler crew.world index (some handler) owner found
      (World.serves_of_role owner _ role)
    obtain ⟨tasks, closing, loop, inside⟩ := settling_closes requests failed
    exact .settling ⟨_, handler, there, rfl⟩ tasks closing loop inside
  | @elsewhere world elsewhere =>
    have serving : crew.world.Serving index → world.Serving index := by
      rintro ⟨owner, handler, found, role⟩
      exact ⟨owner, handler, elsewhere.owner.trans found, role⟩
    refine ⟨tenure.toStarts, ?_⟩
    cases tenure.phase with
    | idle there loop => exact .idle (serving there) loop
    | settling there tasks closing loop inside =>
      exact .settling (serving there) tasks closing loop inside
    | striking there loop => exact .striking (serving there) loop
    | removing there rows loop left =>
      exact .removing (serving there) rows loop fun whole => (left whole).elsewhere elsewhere
    | closed found gone loop left =>
      exact .closed (elsewhere.owner.trans found) gone loop
        fun whole => (left whole).elsewhere elsewhere

theorem Steps.tenure (steps : Steps index crew next) (tenure : crew.Tenure index all) :
    next.Tenure index all := by
  induction steps with
  | refl => exact tenure
  | tail _ step ih => exact step.tenure ih

/-- Before it is about to be dropped, a service that noted everything ends with a bare record. -/
theorem Tenure.whole (tenure : crew.Tenure index False) (noted : Noted crew.starter)
    (unclosed : crew.Unclosed index) : crew.Tenure index True := by
  refine ⟨⟨tenure.starting, fun _ => noted⟩, ?_⟩
  obtain ⟨⟨owner, handler, there, role⟩, undropped⟩ := unclosed
  cases tenure.phase with
  | idle there loop => exact .idle there loop
  | settling there tasks closing loop inside => exact .settling there tasks closing loop inside
  | striking there loop => exact .striking there loop
  | removing there rows loop _ => simp [loop] at undropped
  | closed found gone _ _ =>
    obtain rfl := Option.some.inj (there.symm.trans found)
    simp [gone] at role

theorem Tenure.ended (tenure : crew.Tenure index all)
    (gone : (crew.world.owner? index).bind Owner.handler? = none) :
    crew.loop = [] ∧ (all → crew.Bare index) := by
  cases tenure.phase with
  | idle there | settling there | striking there | removing there =>
    obtain ⟨owner, handler, found, role⟩ := there
    simp [found, Owner.handler?, role] at gone
  | closed _ _ loop bare => exact ⟨loop, bare⟩

/-- Of what the loop has to do at most the next task is to register. -/
def Prompt (crew : Crew η ν) : Prop := ∀ task ∈ crew.loop.tail, task.entering? = none

theorem Step.prompt (step : Step index crew next) (prompt : crew.Prompt) : next.Prompt := by
  cases step with
  | starter turn | elsewhere => exact prompt
  | @loop task rest turn =>
    intro other member
    have old : ∀ other ∈ rest, other.entering? = none := by
      intro other inside
      apply prompt
      rw [turn]
      exact inside
    cases pushed : (task.perform index crew.world).1 with
    | nil =>
      refine old other (List.mem_of_mem_tail ?_)
      simpa [loopDoes, pushed] using member
    | cons first more =>
      have parts : other ∈ more ∨ other ∈ rest := by simpa [loopDoes, pushed] using member
      rcases parts with new | inside
      · apply task.perform_tail index crew.world
        rw [pushed]
        exact new
      · exact old other inside
  | resolve free =>
    intro other member
    rcases List.mem_cons.mp member with rfl | inside
    · rfl
    · obtain ⟨failure?, rfl⟩ := free other inside
      rfl
  | serve free listens serving handler requests failed =>
    intro other member
    have asked := List.mem_of_mem_tail member
    simp only [settling, List.mem_append, List.mem_map, List.mem_singleton] at asked
    rcases asked with (⟨kind, -, rfl⟩ | ⟨kind, -, rfl⟩) | rfl <;> rfl

theorem Steps.prompt (steps : Steps index crew next) (prompt : crew.Prompt) : next.Prompt := by
  induction steps with
  | refl => exact prompt
  | tail _ step ih => exact step.prompt ih

/-- The starter is done, and no removal was missed. -/
structure Returned (crew : Crew η ν) : Prop where
  prompt : crew.Prompt
  starter : crew.starter = []
  missed : crew.missed = []

/-- Without a starter every removal finds what it is to remove. -/
theorem Step.returned {single : Prop} {socket : Handle} (step : Step index crew next)
    (kept : crew.Kept single index socket) (returned : crew.Returned) : next.Returned := by
  refine ⟨step.prompt returned.prompt, ?_, ?_⟩
  · cases step with
    | starter turn =>
      rw [returned.starter] at turn
      cases turn
    | loop | resolve | serve | elsewhere => exact returned.starter
  · cases step with
    | starter turn =>
      rw [returned.starter] at turn
      cases turn
    | resolve | serve | elsewhere => exact returned.missed
    | @loop task rest turn =>
      have found : task.missing index crew.world = [] := by
        cases task with
        | remove kind observer =>
          obtain ⟨record, noted, tally⟩ := kept
          obtain ⟨owner, there, rfl, rfl⟩ := (World.notes?_iff _ _ _ _).mp noted
          have nothing : (crew.starter ++ crew.loop).filterMap Task.entering? = [] := by
            rw [returned.starter, turn]
            refine List.filterMap_eq_nil_iff.mpr (List.forall_mem_cons.mpr ⟨rfl, ?_⟩)
            intro other member
            apply returned.prompt
            rw [turn]
            exact member
          have own := tally.made (kind, observer) (by simp [turn, Task.leaving?])
          have registered := (tally.registered (owner.socket.descriptor, kind, observer) own).mpr
            ⟨rfl, by simp [turn, Task.leaving?], by simp [nothing]⟩
          have contained := (Registry.contains_iff _ tally.sound _ _ _).mpr registered
          simp [Task.missing, there, contained]
        | enable kind | note kind | register kind observer | strike which | conclude failure?
        | review closing | drop => rfl
      exact (congrArg (· ++ crew.missed) found).trans returned.missed

theorem Steps.returned {socket : Handle} (steps : Steps index crew next)
    (kept : crew.Kept False index socket) (returned : crew.Returned) : next.Returned := by
  induction steps with
  | refl => exact returned
  | tail steps step ih => exact step.returned (Steps.kept steps kept) ih

section

variable (interests : KindSet) (socket : Handle) (handler : η) (world : World η ν)

theorem attaching_notes : (attaching interests socket handler world).world.notes?
    world.outside.owners.length = some (socket, []) := by
  have noted : (world.seated socket handler).notes? world.outside.owners.length =
      some (socket, []) := (World.notes?_addOwner world _ _ _).mpr (.inr ⟨rfl, rfl⟩)
  simp only [attaching]
  split
  · exact (World.notes?_setHandler _ _ none _).trans noted
  · exact noted

theorem attaching_kept {single : Prop} (tidy : world.Tidy) :
    (attaching interests socket handler world).Kept single world.outside.owners.length socket := by
  refine tidy.kept socket (attaching_notes interests socket handler world) ?_ ?_ ?_ ?_
  · simp only [attaching]
    split <;> rfl
  · simp only [attaching]
    split <;> rfl
  · simp [attaching, List.filterMap_map, Function.comp_def, Task.leaving?]
  · simp [attaching, List.filterMap_map, Function.comp_def, Task.entering?]

theorem attaching_tenure : (attaching interests socket handler world).Tenure
    world.outside.owners.length False := by
  refine ⟨⟨?_, False.elim⟩, ?_⟩
  · intro task member
    obtain ⟨kind, -, rfl⟩ := List.mem_map.mp member
    exact .inl ⟨kind, .inl rfl⟩
  · have seat := world.owner?_seated socket handler
    cases bare : interests.isEmpty with
    | true =>
      have gone := World.owner?_setHandler _ _ none _ seat rfl
      have start : (attaching interests socket handler world).world =
          (world.seated socket handler).discard world.outside.owners.length := if_pos bare
      exact .closed ((congrArg (World.owner? · _) start).trans gone) rfl rfl False.elim
    | false =>
      have start : (attaching interests socket handler world).world = world.seated socket handler :=
        if_neg (Bool.eq_false_iff.mp bare)
      exact .idle ⟨_, handler, (congrArg (World.owner? · _) start).trans seat, rfl⟩ rfl

/-- Attaching a handler that nothing comes between. -/
theorem attach_steps (user : UserCode η ν) (interested : (user.interests handler).isEmpty = false) :
    ∃ missed, Steps world.outside.owners.length
      (attaching (user.interests handler) socket handler world)
      { world := World.attach user socket handler world, missed } := by
  have start : (attaching (user.interests handler) socket handler world).world =
      world.seated socket handler := if_neg (Bool.eq_false_iff.mp interested)
  have run : Task.Run world.outside.owners.length ((user.interests handler).toList.map .enable)
      (attaching (user.interests handler) socket handler world).world
      (World.attach user socket handler world) := by
    simp only [start, World.attach, interested]
    exact .foldl _ _ Task.Run.enable _ _
  exact starter_steps run (List.append_nil _).symm

end

theorem dropHandler_perform (user : UserCode η ν) (world : World η ν) (index : Nat) :
    World.dropHandler user world index = (Task.drop.perform index world).2 ∨ ∃ handler socket,
      World.dropHandler user world index =
        user.dropped handler socket (Task.drop.perform index world).2 := by
  cases found : world.owner? index with
  | none => exact .inl (by simp [World.dropHandler, Task.perform, found])
  | some owner =>
    cases there : owner.handler? with
    | none => exact .inl (by simp [World.dropHandler, Task.perform, found, there])
    | some handler =>
      refine .inr ⟨handler, owner.socket, ?_⟩
      simp [World.dropHandler, Task.perform, found, there, World.discard]

/-- A service that settles what its handler asked for, with nothing in between, up to the user's
part in dropping the handler. -/
theorem settle_steps (user : UserCode η ν) (crew : Crew η ν) (index : Nat) (requests : Requests)
    (failed : Bool) (turn : crew.loop = settling requests failed) :
    ∃ after missed, Steps index crew { crew with world := after, loop := [], missed } ∧
      (World.settle user crew.world index requests failed = after ∨ ∃ handler socket,
        World.settle user crew.world index requests failed =
          user.dropped handler socket after) := by
  let disabled := requests.disable.toList.foldl (fun world kind => world.disable index kind)
    crew.world
  let enabled := requests.enable.toList.foldl (fun world kind => world.enable index kind) disabled
  have disables : Task.Run index (requests.disable.toList.map fun kind =>
      .strike fun other => other == kind) crew.world disabled :=
    .foldl _ _ (fun world kind => .withdraw world _) _ _
  have enables : Task.Run index (requests.enable.toList.map .enable) disabled enabled :=
    .foldl _ _ Task.Run.enable _ _
  have reviewed : ∃ after, Task.Run index [.review (requests.close || failed)] enabled after ∧
      (World.settle user crew.world index requests failed = after ∨ ∃ handler socket,
        World.settle user crew.world index requests failed =
          user.dropped handler socket after) := by
    have first : ∀ after, Task.Run index
        ((Task.review (requests.close || failed)).perform index enabled).1 enabled after →
        Task.Run index [.review (requests.close || failed)] enabled after := by
      intro after run
      refine .next ?_
      rw [List.append_nil]
      exact run
    obtain ⟨closes, tasks, settled⟩ : ∃ closes : Bool,
        ((Task.review (requests.close || failed)).perform index enabled).1 =
          (if closes then [.strike fun _ => true, .drop] else []) ∧
        World.settle user crew.world index requests failed =
          if closes then World.closeService user enabled index else enabled := ⟨_, rfl, rfl⟩
    rw [settled]
    rw [tasks] at first
    cases closes with
    | true =>
      have dropping : Task.Run index [.drop] (enabled.withdrawAll index)
          (Task.drop.perform index (enabled.withdrawAll index)).2 := .next (.done _)
      exact ⟨_, first _ ((Task.Run.withdraw enabled _).append dropping),
        dropHandler_perform user (enabled.withdrawAll index) index⟩
    | false => exact ⟨enabled, first _ (.done enabled), .inl rfl⟩
  obtain ⟨after, review, settled⟩ := reviewed
  have all := (disables.append enables).append review
  obtain ⟨missed, steps⟩ := loop_steps all (turn.trans (List.append_nil _).symm)
  exact ⟨after, missed, steps, settled⟩

/-- A run in which no thread notes a kind that is listed. -/
def OrderlySteps (index : Nat) : Crew η ν → Crew η ν → Prop :=
  Relation.ReflTransGen fun crew next => Step index crew next ∧ crew.Orderly index

theorem OrderlySteps.kept {socket : Handle} (steps : OrderlySteps index crew next)
    (kept : crew.Kept True index socket) : next.Kept True index socket := by
  induction steps with
  | refl => exact kept
  | tail _ step ih => exact step.1.kept ih fun _ => step.2

theorem Kept.one_for_each_kind {socket : Handle} (kept : crew.Kept True index socket)
    (kind : Kind) : (crew.world.places index).countP (·.2.1 == kind) ≤ 1 := by
  have places := kept.mem_places
  obtain ⟨record, noted, tally⟩ := kept
  have distinct := tally.kinds trivial
  rw [← listed_of_notes crew index socket record noted] at distinct
  have nodup : (crew.world.places index).Nodup := tally.sound.targets.filter _
  rw [List.countP_eq_length_filter, ← List.toFinset_card_of_nodup (nodup.filter _),
    Finset.card_le_one]
  intro place member other member'
  rw [List.mem_toFinset, List.mem_filter, beq_iff_eq] at member member'
  obtain ⟨home, row, -⟩ := (places place).mp member.1
  obtain ⟨home', row', -⟩ := (places other).mp member'.1
  have same := List.inj_on_of_nodup_map distinct row row' (member.2.trans member'.2.symm)
  exact Prod.ext (home.trans home'.symm) same

end Crew

/-- However a service that is attached is interleaved with the passes of a loop: at every point what
is registered for it is what is listed and not still to come. That is at most one observer for each
kind if no kind was noted while it was listed. Once the service was attached and its handler is
dropped, nothing is left exactly if the record is bare and no removal was missed, and so it is if
the loop began to close the service only after it was attached. Attaching and settling are such runs
with nothing in between. -/
theorem attached_leaves_nothing_iff (world : World η ν) (tidy : world.Tidy) (interests : KindSet)
    (socket : Handle) (handler : η) (last : Crew η ν)
    (steps : Crew.Steps world.outside.owners.length (.attaching interests socket handler world)
      last) :
    let index := world.outside.owners.length
    let start := Crew.attaching interests socket handler world
    (∀ place, place ∈ last.world.places index ↔ place.1 = socket.descriptor ∧
      place.2 ∈ last.listed index ∧
      place.2 ∉ (last.starter ++ last.loop).filterMap Task.entering?) ∧
    (Crew.OrderlySteps index start last →
      ∀ kind, (last.world.places index).countP (·.2.1 == kind) ≤ 1) ∧
    (last.starter = [] → (last.world.owner? index).bind Owner.handler? = none →
      (last.world.places index = [] ↔ last.Bare index ∧ last.missed = []) ∧
      ∀ attached, Crew.Steps index start attached → attached.Unclosed index →
        Crew.Steps index attached last →
        (Crew.Noted attached.starter → last.Bare index) ∧
        (attached.starter = [] → attached.missed = [] → last.world.places index = [])) ∧
    (∀ user : UserCode η ν, user.interests handler = interests → interests.isEmpty = false →
      ∃ missed, Crew.Steps index start { world := World.attach user socket handler world, missed }) ∧
    ∀ (user : UserCode η ν) (crew : Crew η ν) (requests : Requests) (failed : Bool),
      crew.loop = Crew.settling requests failed →
      ∃ after missed, Crew.Steps index crew { crew with world := after, loop := [], missed } ∧
        (World.settle user crew.world index requests failed = after ∨ ∃ handler socket,
          World.settle user crew.world index requests failed =
            user.dropped handler socket after) := by
  intro index start
  have begun {single : Prop} : start.Kept single index socket :=
    Crew.attaching_kept interests socket handler world tidy
  have tenure : start.Tenure index False := Crew.attaching_tenure interests socket handler world
  have kept := steps.kept begun
  refine ⟨kept.mem_places, fun orderly => (orderly.kept begun).one_for_each_kind, ?_, ?_,
    fun user crew => Crew.settle_steps user crew index⟩
  · intro returned gone
    obtain ⟨free, -⟩ := (steps.tenure tenure).ended gone
    have nothing := kept.places_eq_nil (by rw [returned, free]; rfl) (by rw [returned, free]; rfl)
    refine ⟨nothing, ?_⟩
    intro attached before unclosed after
    have bare : Crew.Noted attached.starter → last.Bare index := by
      intro noted
      have whole := (before.tenure tenure).whole noted unclosed
      exact ((after.tenure whole).ended gone).2 trivial
    refine ⟨bare, ?_⟩
    intro done unmissed
    have prompt : attached.Prompt := before.prompt (by simp [Crew.Prompt, start, Crew.attaching])
    have still := after.returned (before.kept begun) ⟨prompt, done, unmissed⟩
    exact nothing.mpr ⟨bare (by simp [Crew.Noted, done]), still.missed⟩
  · rintro user rfl interested
    exact Crew.attach_steps socket handler world user interested

/-- The handler asks to be closed while its second observer is noted and not yet registered, and
the loop comes to remove that one only afterwards. -/
theorem attached_leaves_nothing_closed_early :
    let crew (registry : Registry) (observers : List (Kind × Nat)) (handler : Option Unit)
        (deeds : List Deed) (makers : List (Option Nat)) (starter loop : List Task) :
        Crew Unit Unit :=
      { world :=
          { reactor := { registry }
            outside :=
              { owners := [{ socket := ⟨3, 0⟩, observers, role := .service handler }]
                makers
                deeds
                beyond := () } }
        starter
        loop }
    let both : KindSet := { readable := true, writable := true }
    let start := Crew.attaching both ⟨3, 0⟩ () (World.opened {} () : World Unit Unit)
    let first : Registry := ⟨[⟨⟨3, 0⟩, [⟨0, .readable, 0⟩], false⟩], 1, []⟩
    let attached := crew first [(.readable, 0), (.writable, 1)] (some ()) [] [some 0, some 0]
      [.register .writable 1] [.review true]
    let last := crew ⟨[], 2, [1, 0]⟩ [] none [.dropped 0] [some 0, some 0] [] []
    Crew.Steps 0 start attached ∧ Crew.Steps 0 attached last ∧ last.world.places 0 = [] := by
  intro crew both start first attached last
  have attach : Crew.Steps 0 start attached := by
    refine .head (b := crew {} [] (some ()) [] [] [.note .readable, .enable .writable] [])
      (.of_starter rfl rfl) ?_
    refine .head (b := crew {} [(.readable, 0)] (some ()) [] [some 0]
      [.register .readable 0, .enable .writable] []) (.of_starter rfl rfl) ?_
    refine .head (b := crew first [(.readable, 0)] (some ()) [] [some 0] [.enable .writable] [])
      (.of_starter rfl rfl) ?_
    refine .head (b := crew first [(.readable, 0)] (some ()) [] [some 0] [.note .writable] [])
      (.of_starter rfl rfl) ?_
    refine .head (b := crew first [(.readable, 0)] (some ()) [] [some 0] [.note .writable]
      [.review true]) ?_ (.single (.of_starter rfl rfl))
    exact .serve rfl ⟨(3, .readable, 0), by decide, rfl⟩ ⟨_, (), rfl, rfl⟩ () { close := true }
      false
  have passes : Crew.Steps 0 attached last := by
    refine .head (b := crew first [(.readable, 0), (.writable, 1)] (some ()) [] [some 0, some 0]
      [.register .writable 1] [.strike fun _ => true, .drop]) (.of_loop rfl rfl) ?_
    refine .head (b := crew first [] (some ()) [] [some 0, some 0] [.register .writable 1]
      [.remove .readable 0, .remove .writable 1, .drop]) (.of_loop rfl rfl) ?_
    refine .head (b := crew ⟨[], 1, [0]⟩ [] (some ()) [] [some 0, some 0] [.register .writable 1]
      [.remove .writable 1, .drop]) (.of_loop rfl rfl) ?_
    refine .head (b := crew ⟨[⟨⟨3, 0⟩, [⟨1, .writable, 1⟩], false⟩], 2, [0]⟩ [] (some ()) []
      [some 0, some 0] [] [.remove .writable 1, .drop]) (.of_starter rfl rfl) ?_
    exact .head (b := crew ⟨[], 2, [1, 0]⟩ [] (some ()) [] [some 0, some 0] [] [.drop])
      (.of_loop rfl rfl) (.single (.of_loop rfl rfl))
  have tidy := (World.opened_sound (η := Unit) {} ()).toLedger.tidy
  obtain ⟨-, -, closed, -⟩ := attached_leaves_nothing_iff (World.opened {} ()) tidy both ⟨3, 0⟩ ()
    last (attach.trans passes)
  obtain ⟨nothing, whole⟩ := closed rfl rfl
  have noted : Crew.Noted attached.starter := by
    intro task member
    exact ⟨.writable, 1, List.mem_singleton.mp member⟩
  have unclosed : attached.Unclosed 0 := ⟨⟨_, (), rfl, rfl⟩, by simp [attached, crew]⟩
  exact ⟨attach, passes, nothing.mpr ⟨(whole attached attach unclosed passes).1 noted, rfl⟩⟩

/-- A service that asks for its socket to be watched for writing as soon as it hears of it. -/
def UserCode.enlarging : UserCode Unit Unit :=
  { UserCode.closing with
    handler := fun _ _ _ world =>
      (.returned (({} : Requests).enabling .writable) false, (), world) }

namespace World

/-- A pass between the two kinds of a service: one that closes the service leaves the second kind
registered behind it. One that enables the second kind, after it was looked up and before it is
noted, has it registered twice. -/
theorem attached_leaves_something :
    let pass (user : UserCode Unit Unit) (world : World Unit Unit) : World Unit Unit :=
      (Loop.pass (host user) world).2
    let begun : World Unit Unit := (seated (opened {} ()) ⟨3, 0⟩ ()).enable 0 .readable
    let closed : World Unit Unit := (pass .closing begun).enable 0 .writable
    let doubled : World Unit Unit := (pass .enlarging begun).enlist 0 .writable
    attach .closing ⟨3, 0⟩ () (opened {} ()) = begun.enable 0 .writable ∧
    attach .enlarging ⟨3, 0⟩ () (opened {} ()) = begun.enable 0 .writable ∧
    begun.enable 0 .writable = begun.enlist 0 .writable ∧
    (closed.outside.deeds = [.dropped 0, .handled 0] ∧ closed.places 0 = [(3, .writable, 1)]) ∧
    doubled.places 0 = [(3, .readable, 0), (3, .writable, 1), (3, .writable, 2)] := by
  refine ⟨rfl, rfl, rfl, ?_, ?_⟩
  · decide
  · decide

end World

end SocketLoop
