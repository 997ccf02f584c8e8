import SocketLoop.Proofs.Owner.Lifetime
import SocketLoop.Proofs.Owner.Spares
import SocketLoop.Proofs.Owner.Tally

/-! Launching an attempt while the loop runs. The loop hears of the attempt as soon as its first
observer is registered. If it takes the record of the attempt back once all of it is noted, nothing
of the attempt stays behind. -/
namespace SocketLoop

variable {η ν : Type}

namespace World

/-- The attempt of an owner stays as long as the owner keeps everything but its record. -/
theorem attempt?_stays {before after : World η ν} {index : Nat} {attempt : Attempt}
    (found : before.attempt? index = some attempt)
    (keeps : ∀ owner, before.owner? index = some owner → ∃ observers,
      after.owner? index = some { owner with observers }) :
    after.attempt? index = some attempt := by
  obtain ⟨owner, there, role⟩ := Option.bind_eq_some_iff.mp found
  obtain ⟨observers, kept⟩ := keeps owner there
  exact Option.bind_eq_some_iff.mpr ⟨_, kept, role⟩

end World

namespace Crew

/-- The attempt is connecting, and the loop has not taken its record back. -/
def Unresolved (crew : Crew η ν) (index : Nat) : Prop :=
  (∃ attempt, crew.world.attempt? index = some attempt ∧ attempt.state = .connecting) ∧
    ∀ task rest, crew.loop = task :: rest → ∃ which, task = .strike which

/-- Where the loop is with an attempt. If everything was noted when the loop took the record back,
nothing is on record any more. -/
inductive Stage (index : Nat) (all : Prop) (crew : Crew η ν) : Prop where
  | waiting {attempt : Attempt} (found : crew.world.attempt? index = some attempt)
      (connecting : attempt.state = .connecting) (loop : crew.loop = [])
  | striking {attempt : Attempt} (found : crew.world.attempt? index = some attempt)
      (connecting : attempt.state = .connecting) (failure? : Option Failure)
      (others : List (Option Failure))
      (loop : crew.loop = .strike (fun _ => true) :: .conclude failure? :: others.map .conclude)
  | removing {attempt : Attempt} (found : crew.world.attempt? index = some attempt)
      (rows : List (Kind × Nat)) (ends : List (Option Failure))
      (loop : crew.loop = rows.map (fun row => .remove row.1 row.2) ++ ends.map .conclude)
      (bare : all → crew.Bare index) (going : attempt.state = .connecting → ends ≠ [])
      (past : attempt.state ≠ .connecting → rows = [])

structure Course (index : Nat) (all : Prop) (crew : Crew η ν) : Prop extends
    Starts all crew.starter where
  stage : crew.Stage index all

variable {crew next : Crew η ν} {index : Nat} {socket : Handle} {all : Prop}

theorem Course.starter (course : crew.Course index all) {task : Task} {rest : List Task}
    (turn : crew.starter = task :: rest) : (crew.starterDoes index task rest).Course index all := by
  obtain ⟨starts, keeps, bare⟩ := course.toStarts.starter index turn
  refine ⟨starts, ?_⟩
  cases course.stage with
  | waiting found connecting loop =>
    exact .waiting (World.attempt?_stays found keeps) connecting loop
  | striking found connecting failure? others loop =>
    exact .striking (World.attempt?_stays found keeps) connecting failure? others loop
  | removing found rows ends loop left going past =>
    exact .removing (World.attempt?_stays found keeps) rows ends loop
      (fun whole => bare whole (left whole)) going past

theorem Course.loop (course : crew.Course index all) {task : Task} {rest : List Task}
    (turn : crew.loop = task :: rest) : (crew.loopDoes index task rest).Course index all := by
  refine ⟨course.toStarts, ?_⟩
  cases course.stage with
  | waiting _ _ loop =>
    rw [loop] at turn
    cases turn
  | striking found connecting failure? others loop =>
    obtain ⟨rfl, rfl⟩ := List.cons.inj (turn.symm.trans loop)
    have keeps := fun owner there =>
      crew.world.perform_owner index (.strike fun _ => true) owner there (by simp) (by simp)
    exact .removing (World.attempt?_stays found keeps) _ (failure? :: others) rfl
      (fun _ => crew.world.notes_of_struck index) (by simp) (absurd connecting)
  | removing found rows ends loop left going past =>
    cases rows with
    | nil =>
      cases ends with
      | nil =>
        rw [loop] at turn
        cases turn
      | cons failure? others =>
        obtain ⟨rfl, rfl⟩ := List.cons.inj (turn.symm.trans loop)
        have same := crew.world.perform_notes index (.conclude failure?) (by simp) (by simp)
        have written := World.attempt?_changeAttempt crew.world index fun attempt =>
          { attempt.finish failure? with
            factory := false
            onFailure := attempt.onFailure && failure?.isNone }
        rw [found, Option.map_some] at written
        refine .removing written [] others rfl (fun whole => (left whole).of_notes same) ?_
          fun _ => rfl
        cases failure? <;> simp [Attempt.finish]
    | cons row more =>
      obtain ⟨rfl, rfl⟩ := List.cons.inj (turn.symm.trans loop)
      have keeps := fun owner there =>
        crew.world.perform_owner index (.remove row.1 row.2) owner there (by simp) (by simp)
      have same := crew.world.perform_notes index (.remove row.1 row.2) (by simp) (by simp)
      refine .removing (World.attempt?_stays found keeps) more ends rfl
        (fun whole => (left whole).of_notes same) going ?_
      intro ended
      cases past ended

theorem Step.course (step : Step index crew next) (course : crew.Course index all) :
    next.Course index all := by
  cases step with
  | starter turn => exact course.starter turn
  | loop turn => exact course.loop turn
  | resolve free called found connecting failure? =>
    refine ⟨course.toStarts, ?_⟩
    cases course.stage with
    | waiting _ _ loop => exact .striking found connecting failure? [] (by rw [loop]; rfl)
    | striking _ _ _ _ loop =>
      obtain ⟨_, same⟩ := free (.strike fun _ => true) (by rw [loop]; exact List.mem_cons_self)
      cases same
    | removing _ rows ends loop _ _ _ =>
      cases rows with
      | nil => exact .striking found connecting failure? ends (by rw [loop]; rfl)
      | cons row more =>
        obtain ⟨_, same⟩ := free (.remove row.1 row.2) (by rw [loop]; exact List.mem_cons_self)
        cases same
  | serve free listens serving handler requests failed =>
    -- what is an attempt has no handler
    obtain ⟨owner, handler, there, role⟩ := serving
    have none := crew.world.attempt?_of_service index owner _ there role
    cases course.stage with
    | waiting found | striking found | removing found => simp [none] at found
  | @elsewhere world elsewhere =>
    have attempts : ∀ attempt, crew.world.attempt? index = some attempt →
        world.attempt? index = some attempt := by
      intro attempt found
      rw [World.attempt?, elsewhere.owner]
      exact found
    refine ⟨course.toStarts, ?_⟩
    cases course.stage with
    | waiting found connecting loop => exact .waiting (attempts _ found) connecting loop
    | striking found connecting failure? others loop =>
      exact .striking (attempts _ found) connecting failure? others loop
    | removing found rows ends loop left going past =>
      exact .removing (attempts _ found) rows ends loop
        (fun whole => (left whole).elsewhere elsewhere) going past

theorem Steps.course (steps : Steps index crew next) (course : crew.Course index all) :
    next.Course index all := by
  induction steps with
  | refl => exact course
  | tail _ step ih => exact step.course ih

theorem Course.ended (course : crew.Course index all) {attempt : Attempt}
    (found : crew.world.attempt? index = some attempt)
    (ended : attempt.state = .connected ∨ attempt.state = .failed) :
    ∃ ends : List (Option Failure), crew.loop = ends.map .conclude ∧ (all → crew.Bare index) := by
  have past : attempt.state ≠ .connecting := by
    intro connecting
    rw [connecting] at ended
    simp at ended
  cases course.stage with
  | waiting found' connecting | striking found' connecting =>
    obtain rfl := Option.some.inj (found.symm.trans found')
    exact absurd connecting past
  | removing found' rows ends loop bare _ settled =>
    obtain rfl := Option.some.inj (found.symm.trans found')
    rw [settled past] at loop
    exact ⟨ends, loop, bare⟩

/-- Before its record is taken back, an attempt that noted all its observers is on a course on which
its record ends up bare. -/
theorem Course.whole (course : crew.Course index False) (noted : Noted crew.starter)
    (unresolved : crew.Unresolved index) : crew.Course index True := by
  refine ⟨⟨course.starting, fun _ => noted⟩, ?_⟩
  obtain ⟨⟨attempt, there, connecting⟩, first⟩ := unresolved
  have apart : ∀ task rest, (∀ which, task ≠ .strike which) → crew.loop ≠ task :: rest := by
    intro task rest other loop
    obtain ⟨which, same⟩ := first task rest loop
    exact other which same
  cases course.stage with
  | waiting found connecting loop => exact .waiting found connecting loop
  | striking found connecting failure? others loop =>
    exact .striking found connecting failure? others loop
  | removing found rows ends loop _ going _ =>
    obtain rfl := Option.some.inj (there.symm.trans found)
    cases rows with
    | nil =>
      cases ends with
      | nil => exact absurd rfl (going connecting)
      | cons failure? others => exact absurd loop (apart _ _ (by simp))
    | cons row more => exact absurd loop (apart _ _ (by simp))

section

variable (world : World η ν) (socket : Handle) (onFailure : Bool)

end

/-- A notification takes the pending error of an attempt that is connecting, and then neither a
callback nor a factory is to be called. -/
structure Silent (user : UserCode η ν) (index : Nat) (notification : Notification)
    (before between : World η ν) (failure? : Option Failure) : Prop where
  connecting : ∃ attempt, before.attempt? index = some attempt ∧ attempt.state = .connecting
  taken : ∃ owner pending, before.owner? index = some owner ∧
    user.takeError owner.socket before = (pending, between) ∧
    failure? = World.connectFailure? notification pending
  silent : ∃ last, (between.withdrawAll index).attempt? index = some last ∧
    if failure?.isSome then last.onFailure = false else last.factory = false

end Crew

namespace World

end World

end SocketLoop
