import SocketLoop.Proofs.Queue.Order

/-! Callbacks of a dispatch that use the queue themselves. Whatever they do next depends on all that
has happened since the dispatch began, and it may be a dispatch of its own. If they use the queue
finitely often the dispatch ends, for any fuel that is enough, where its single steps end. -/
namespace SocketLoop.Queue

variable {α : Type}

/-- What happens while a queue is dispatched. -/
inductive Happening (α : Type) where
  | called (entry : Entry α)
  /-- A callback used the queue, or let somebody else do so. -/
  | acted (step : Step α) (outcome : Outcome α)
  | began
  | ended
  | returned

def Happening.isUse : Happening α → Bool
  | .acted _ _ | .began => true
  | .called _ | .ended | .returned => false

def uses (history : List (Happening α)) : Nat := history.countP Happening.isUse

/-- What the callback called last and not returned does next. -/
inductive Move (α : Type) where
  | back
  | act (step : Step α) (own : step ≠ .deliver)
  | dispatch

abbrev Conduct (α : Type) := List (Happening α) → Move α

abbrev Scene (α : Type) := Site α (List (Happening α))

def Site.note (scene : Scene α) (happening : Happening α) : Scene α :=
  { scene with outside := scene.outside ++ [happening] }

def Site.withPending (scene : Scene α) (pending : List (Entry α)) : Scene α :=
  { scene with queue := { scene.queue with pending } }

def Site.act [DecidableEq α] (scene : Scene α) (step : Step α) : Scene α :=
  ⟨(scene.queue.step step).2, scene.outside ++ [.acted step (scene.queue.step step).1]⟩

/-- Whose turn it is, a dispatch's or a callback's, and how many callbacks are under way below. -/
inductive Situation (α : Type) where
  | feeding (depth : Nat) (scene : Scene α)
  | calling (depth : Nat) (scene : Scene α)

def Situation.scene : Situation α → Scene α
  | .feeding _ scene | .calling _ scene => scene

namespace Conduct

variable [DecidableEq α] (conduct : Conduct α)

/-- A callback at work, for at most so many moves. The fuel is that of its own dispatches. -/
def play (fuel : Nat) : Nat → Scene α → Scene α
  | 0, scene => scene
  | moves + 1, scene =>
    match conduct scene.outside with
    | .back => scene.note .returned
    | .act step _ => play fuel moves (scene.act step)
    | .dispatch =>
      let call entry scene := play fuel moves (scene.note (.called entry))
      play fuel moves ((dispatch call fuel (scene.note .began)).note .ended)

def call (fuel : Nat) (entry : Entry α) (scene : Scene α) : Scene α :=
  conduct.play fuel fuel (scene.note (.called entry))

/-- The single steps of a dispatch and of the callbacks and dispatches inside it. -/
def next? : Situation α → Option (Situation α)
  | .feeding depth scene =>
    match scene.queue.pending, depth with
    | entry :: rest, depth =>
      some (.calling depth ((scene.withPending rest).note (.called entry)))
    | [], depth + 1 => some (.calling depth (scene.note .ended))
    | [], 0 => none
  | .calling depth scene =>
    match conduct scene.outside with
    | .back => some (.feeding depth (scene.note .returned))
    | .act step _ => some (.calling depth (scene.act step))
    | .dispatch => some (.feeding (depth + 1) (scene.note .began))

def go : Nat → Situation α → Situation α
  | 0, situation => situation
  | steps + 1, situation =>
    match conduct.next? situation with
    | some after => go steps after
    | none => situation

def Reaches (before after : Situation α) : Prop := ∃ steps, conduct.go steps before = after

/-- From here on the queue is not used more often than so in all. -/
def Within (total : Nat) (situation : Situation α) : Prop :=
  ∀ steps, uses (conduct.go steps situation).scene.outside ≤ total

end Conduct

@[simp] theorem Site.note_queue (scene : Scene α) (happening : Happening α) :
    (scene.note happening).queue = scene.queue := rfl

@[simp] theorem Site.act_queue [DecidableEq α] (scene : Scene α) (step : Step α) :
    (scene.act step).queue = (scene.queue.step step).2 := rfl

@[simp] theorem Site.withPending_queue (scene : Scene α) (pending : List (Entry α)) :
    (scene.withPending pending).queue = { scene.queue with pending } := rfl

@[simp] theorem Site.withPending_outside (scene : Scene α) (pending : List (Entry α)) :
    (scene.withPending pending).outside = scene.outside := rfl

@[simp] theorem uses_note (scene : Scene α) (happening : Happening α) :
    uses (scene.note happening).outside =
      uses scene.outside + if happening.isUse then 1 else 0 := by
  rw [uses, Site.note, List.countP_append, List.countP_singleton]
  rfl

@[simp] theorem uses_act [DecidableEq α] (scene : Scene α) (step : Step α) :
    uses (scene.act step).outside = uses scene.outside + 1 := by
  rw [uses, Site.act, List.countP_append]
  rfl

/-- More than the steps still to come if the queue is used so often in all. A use adds an entry or
begins a dispatch, which ends; a pending entry is called for, and its callback returns. -/
def Situation.potential (total : Nat) : Situation α → Nat
  | .feeding depth scene =>
    3 * (total - uses scene.outside) + 2 * scene.queue.pending.length + 2 * depth + 1
  | .calling depth scene =>
    3 * (total - uses scene.outside) + 2 * scene.queue.pending.length + 2 * depth + 2

theorem Situation.potential_pos (total : Nat) (situation : Situation α) :
    0 < situation.potential total := by
  cases situation <;> exact Nat.succ_pos _

theorem step_pending_length [DecidableEq α] (queue : Queue α) (step : Step α) :
    (queue.step step).2.pending.length ≤ queue.pending.length + 1 := by
  have grown := (step_pending queue step).length_le
  have made := (arrival_perm queue.entered step).length_eq
  have one : (step.made queue.entered).length ≤ 1 := by cases step <;> simp [Step.made]
  simp only [List.length_append] at grown made
  omega

namespace Conduct

variable [DecidableEq α] (conduct : Conduct α)

theorem go_of_next {before after : Situation α} (next : conduct.next? before = some after)
    (steps : Nat) : conduct.go (steps + 1) before = conduct.go steps after := by
  rw [go, next]

theorem go_of_end {situation : Situation α} (halts : conduct.next? situation = none)
    (steps : Nat) : conduct.go steps situation = situation := by
  cases steps with
  | zero => rfl
  | succ steps => rw [go, halts]

theorem go_add (first second : Nat) (situation : Situation α) :
    conduct.go (first + second) situation = conduct.go second (conduct.go first situation) := by
  induction first generalizing situation with
  | zero => rw [Nat.zero_add, go]
  | succ first ih =>
    rw [Nat.succ_add, go, go]
    cases next : conduct.next? situation with
    | some after => exact ih after
    | none => exact (conduct.go_of_end next second).symm

variable {conduct}

theorem go_keeps (holds : Situation α → Prop)
    (keeps : ∀ before after, conduct.next? before = some after → holds before → holds after)
    (steps : Nat) (situation : Situation α) (start : holds situation) :
    holds (conduct.go steps situation) := by
  induction steps generalizing situation with
  | zero => exact start
  | succ steps ih =>
    rw [go]
    split
    · rename_i after next
      exact ih after (keeps situation after next start)
    · exact start

theorem Reaches.refl (situation : Situation α) : conduct.Reaches situation situation := ⟨0, rfl⟩

theorem Reaches.trans {before between after : Situation α} (first : conduct.Reaches before between)
    (second : conduct.Reaches between after) : conduct.Reaches before after := by
  obtain ⟨steps, rfl⟩ := first
  obtain ⟨more, rfl⟩ := second
  exact ⟨steps + more, conduct.go_add steps more before⟩

theorem Reaches.next {before between after : Situation α}
    (next : conduct.next? before = some between) (rest : conduct.Reaches between after) :
    conduct.Reaches before after := by
  obtain ⟨steps, rfl⟩ := rest
  exact ⟨steps + 1, conduct.go_of_next next steps⟩

/-- There is one end. -/
theorem Reaches.same_end {start one other : Situation α} (first : conduct.Reaches start one)
    (second : conduct.Reaches start other) (halts : conduct.next? one = none)
    (done : conduct.next? other = none) : one = other := by
  obtain ⟨steps, rfl⟩ := first
  obtain ⟨more, rfl⟩ := second
  rw [← conduct.go_of_end halts more, ← conduct.go_of_end done steps, ← go_add, ← go_add,
    Nat.add_comm]

theorem Within.reaches {total : Nat} {before after : Situation α}
    (within : conduct.Within total before) (reaches : conduct.Reaches before after) :
    conduct.Within total after := by
  obtain ⟨steps, rfl⟩ := reaches
  intro more
  rw [← go_add]
  exact within (steps + more)

theorem Within.uses {total : Nat} {situation : Situation α}
    (within : conduct.Within total situation) : uses situation.scene.outside ≤ total := within 0

/-- The five steps that there are. -/
inductive Next (conduct : Conduct α) : Situation α → Situation α → Prop where
  | call {depth : Nat} {scene : Scene α} {entry : Entry α} {rest : List (Entry α)}
      (head : scene.queue.pending = entry :: rest) :
      Next conduct (.feeding depth scene)
        (.calling depth ((scene.withPending rest).note (.called entry)))
  | finish {depth : Nat} {scene : Scene α} (empty : scene.queue.pending = []) :
      Next conduct (.feeding (depth + 1) scene) (.calling depth (scene.note .ended))
  | back {depth : Nat} {scene : Scene α} (moves : conduct scene.outside = .back) :
      Next conduct (.calling depth scene) (.feeding depth (scene.note .returned))
  | act {depth : Nat} {scene : Scene α} {step : Step α} {own : step ≠ .deliver}
      (moves : conduct scene.outside = .act step own) :
      Next conduct (.calling depth scene) (.calling depth (scene.act step))
  | dispatch {depth : Nat} {scene : Scene α} (moves : conduct scene.outside = .dispatch) :
      Next conduct (.calling depth scene) (.feeding (depth + 1) (scene.note .began))

theorem next_cases {before after : Situation α} (next : conduct.next? before = some after) :
    conduct.Next before after := by
  cases before with
  | feeding depth scene =>
    simp only [next?] at next
    split at next
    · obtain rfl := Option.some.inj next
      exact .call ‹_›
    · obtain rfl := Option.some.inj next
      exact .finish ‹_›
    · cases next
  | calling depth scene =>
    simp only [next?] at next
    split at next <;> obtain rfl := Option.some.inj next
    · exact .back ‹_›
    · exact .act ‹_›
    · exact .dispatch ‹_›

/-- Every step leaves less to do. -/
theorem next_potential {total : Nat} {before after : Situation α}
    (next : conduct.Next before after) (within : uses after.scene.outside ≤ total) :
    after.potential total < before.potential total := by
  cases next with
  | call head =>
    simp only [Situation.potential, uses_note, Site.note_queue, Site.withPending_queue,
      Site.withPending_outside, Happening.isUse, head, List.length_cons, Bool.false_eq_true, if_false]
    omega
  | finish empty =>
    simp only [Situation.potential, uses_note, Site.note_queue, Happening.isUse,
      Bool.false_eq_true, if_false]
    omega
  | back moves =>
    simp only [Situation.potential, uses_note, Site.note_queue, Happening.isUse,
      Bool.false_eq_true, if_false]
    omega
  | @act depth scene step own moves =>
    have grown := step_pending_length scene.queue step
    simp only [Situation.potential, Situation.scene, uses_act, Site.act_queue] at within ⊢
    omega
  | dispatch moves =>
    simp only [Situation.potential, Situation.scene, uses_note, Site.note_queue, Happening.isUse,
      if_true] at within ⊢
    omega

theorem Within.next {total : Nat} {before after : Situation α}
    (within : conduct.Within total before) (next : conduct.next? before = some after) :
    conduct.Within total after ∧ after.potential total < before.potential total := by
  have later := within.reaches (.next next (.refl after))
  exact ⟨later, next_potential (next_cases next) later.uses⟩

theorem Reaches.potential {total : Nat} {before after : Situation α}
    (reaches : conduct.Reaches before after) (within : conduct.Within total before) :
    after.potential total ≤ before.potential total := by
  obtain ⟨steps, rfl⟩ := reaches
  induction steps generalizing before with
  | zero => exact Nat.le_refl _
  | succ steps ih =>
    rw [go]
    split
    · rename_i after next
      obtain ⟨later, less⟩ := within.next next
      exact Nat.le_trans (ih later) (Nat.le_of_lt less)
    · exact Nat.le_refl _

/-- A loop comes to its end where the single steps do, while there is no more than this to do. -/
def Feeds (conduct : Conduct α) (fuel total left : Nat) : Prop :=
  ∀ depth scene rounds moves, conduct.Within total (.feeding depth scene) →
    (Situation.feeding depth scene).potential total ≤ left → left ≤ rounds → left ≤ moves →
    ∃ last, conduct.Reaches (.feeding depth scene) (.feeding depth last) ∧
      last.queue.pending = [] ∧
      dispatch (fun entry scene => conduct.play fuel moves (scene.note (.called entry))) rounds
        scene = last

/-- A callback returns where the single steps do, while there is no more than this to do. -/
def Answers (conduct : Conduct α) (fuel total left : Nat) : Prop :=
  ∀ depth scene moves, conduct.Within total (.calling depth scene) →
    (Situation.calling depth scene).potential total ≤ left → left ≤ moves →
    ∃ last, conduct.Reaches (.calling depth scene) (.feeding depth last) ∧
      conduct.play fuel moves scene = last

theorem feeds_succ {fuel total left : Nat} (feeds : conduct.Feeds fuel total left)
    (answers : conduct.Answers fuel total left) : conduct.Feeds fuel total (left + 1) := by
  intro depth scene rounds moves within enough many long
  obtain ⟨rounds, rfl⟩ : ∃ fewer, rounds = fewer + 1 := ⟨rounds - 1, by omega⟩
  cases head : scene.queue.pending with
  | nil => exact ⟨scene, .refl _, head, by simp [dispatch, dequeue_eq, head]⟩
  | cons entry rest =>
    have next : conduct.next? (.feeding depth scene) =
        some (.calling depth ((scene.withPending rest).note (.called entry))) := by
      simp [next?, head]
    obtain ⟨called, less⟩ := within.next next
    obtain ⟨back, returns, played⟩ := answers depth _ moves called (by omega) (by omega)
    have returned := called.reaches returns
    have fewer := returns.potential called
    obtain ⟨last, ends, empty, fed⟩ := feeds depth back rounds moves returned (by omega) (by omega)
      (by omega)
    refine ⟨last, .next next (returns.trans ends), empty, ?_⟩
    rw [← fed, ← played, dispatch, dequeue_eq, head]
    rfl

theorem answers_succ {fuel total left : Nat} (plenty : left ≤ fuel)
    (feeds : conduct.Feeds fuel total left) (answers : conduct.Answers fuel total left) :
    conduct.Answers fuel total (left + 1) := by
  intro depth scene moves within enough long
  obtain ⟨moves, rfl⟩ : ∃ fewer, moves = fewer + 1 := ⟨moves - 1, by omega⟩
  cases choice : conduct scene.outside with
  | back =>
    have next : conduct.next? (.calling depth scene) =
        some (.feeding depth (scene.note .returned)) := by simp [next?, choice]
    exact ⟨_, .next next (.refl _), by simp [play, choice]⟩
  | act step own =>
    have next : conduct.next? (.calling depth scene) = some (.calling depth (scene.act step)) := by
      simp [next?, choice]
    obtain ⟨acted, less⟩ := within.next next
    obtain ⟨last, returns, played⟩ := answers depth _ moves acted (by omega) (by omega)
    exact ⟨last, .next next returns, by simp [play, choice, played]⟩
  | dispatch =>
    have next : conduct.next? (.calling depth scene) =
        some (.feeding (depth + 1) (scene.note .began)) := by simp [next?, choice]
    obtain ⟨begun, less⟩ := within.next next
    obtain ⟨back, ends, empty, fed⟩ := feeds (depth + 1) _ fuel moves begun (by omega) plenty
      (by omega)
    have finish : conduct.next? (.feeding (depth + 1) back) =
        some (.calling depth (back.note .ended)) := by simp [next?, empty]
    have fewer := ends.potential begun
    obtain ⟨ended, least⟩ := (begun.reaches ends).next finish
    obtain ⟨last, returns, played⟩ := answers depth _ moves ended (by omega) (by omega)
    refine ⟨last, .next next (ends.trans (.next finish returns)), ?_⟩
    simp [play, choice, fed, played]

theorem feeds_and_answers (fuel total left : Nat) (plenty : left ≤ fuel) :
    conduct.Feeds fuel total left ∧ conduct.Answers fuel total left := by
  -- A loop calls callbacks and these begin loops, so the induction on what is left is for both.
  induction left with
  | zero =>
    refine ⟨?_, ?_⟩
    · intro depth scene _ _ _ nothing
      exact absurd (Situation.potential_pos total (.feeding depth scene)) (by omega)
    · intro depth scene _ _ nothing
      exact absurd (Situation.potential_pos total (.calling depth scene)) (by omega)
  | succ left ih =>
    obtain ⟨feeds, answers⟩ := ih (by omega)
    exact ⟨feeds_succ feeds answers, answers_succ (by omega) feeds answers⟩

/-- If the queue is used finitely often in all, a dispatch ends with nothing pending, whatever fuel
it has beyond what that takes, and does so where its single steps end. -/
theorem dispatch_ends (conduct : Conduct α) (total : Nat) (scene : Scene α)
    (within : conduct.Within total (.feeding 0 scene)) :
    ∃ last, conduct.Reaches (.feeding 0 scene) (.feeding 0 last) ∧ last.queue.pending = [] ∧
      ∀ fuel, (Situation.feeding 0 scene).potential total ≤ fuel →
        dispatch (conduct.call fuel) fuel scene = last := by
  have ends : ∀ fuel, (Situation.feeding 0 scene).potential total ≤ fuel →
      ∃ last, conduct.Reaches (.feeding 0 scene) (.feeding 0 last) ∧ last.queue.pending = [] ∧
        dispatch (conduct.call fuel) fuel scene = last := fun fuel plenty =>
    (feeds_and_answers fuel total _ plenty).1 0 scene fuel fuel within (Nat.le_refl _) plenty plenty
  obtain ⟨last, reaches, empty, -⟩ := ends _ (Nat.le_refl _)
  refine ⟨last, reaches, empty, ?_⟩
  intro fuel plenty
  obtain ⟨other, arrives, none, fed⟩ := ends fuel plenty
  have same := arrives.same_end reaches (by simp [next?, none]) (by simp [next?, empty])
  rw [fed]
  injection same

end Conduct

end SocketLoop.Queue
