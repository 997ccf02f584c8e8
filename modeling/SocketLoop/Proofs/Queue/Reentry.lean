import SocketLoop.Proofs.Queue.Nesting

/-! What a dispatch does when its callbacks use the queue. Whatever was pending at some point of it
is given to one callback, of the dispatch or of one inside it, or is taken by a use of the queue; the
blocked consumers are left to those uses. -/
namespace SocketLoop.Queue

variable {α : Type}

def Happening.step? : Happening α → Option (Step α)
  | .called _ => some .deliver
  | .acted step _ => some step
  | .began | .ended | .returned => none

def Happening.callee? : Happening α → Option (Entry α)
  | .called entry => some entry
  | .acted _ _ | .began | .ended | .returned => none

/-- The entries that were pending and are not any more. -/
def Outcome.leaving : Outcome α → List (Entry α)
  | .dequeued entry | .delivered entry | .removed entry => entry.toList
  | .waited (.took entry) => [entry]
  | .cleared entries => entries
  | .entered _ | .waited (.blocked _) | .returned _ _ | .unchanged | .woken _ => []

/-- The pending entries that a callback dequeued, removed or cleared, or a consumer took. -/
def Happening.taken : Happening α → List (Entry α)
  | .acted _ outcome => outcome.leaving
  | .called _ | .began | .ended | .returned => []

def stepsOf (history : List (Happening α)) : List (Step α) := history.filterMap Happening.step?

def calledOf (history : List (Happening α)) : List (Entry α) :=
  history.filterMap Happening.callee?

def takenOf (history : List (Happening α)) : List (Entry α) := history.flatMap Happening.taken

theorem stepsOf_append (first second : List (Happening α)) :
    stepsOf (first ++ second) = stepsOf first ++ stepsOf second :=
  List.filterMap_append

theorem calledOf_append (first second : List (Happening α)) :
    calledOf (first ++ second) = calledOf first ++ calledOf second :=
  List.filterMap_append

theorem takenOf_append (first second : List (Happening α)) :
    takenOf (first ++ second) = takenOf first ++ takenOf second :=
  List.flatMap_append

section

variable [DecidableEq α]

/-- A queue after what has happened. -/
def amid (queue : Queue α) (history : List (Happening α)) : Queue α :=
  (queue.steps (stepsOf history)).2

/-- What may happen to a queue: a dispatch calls a callback with the head and ends with nothing
pending, and a use of the queue is answered as it is. -/
def Happening.Fits (queue : Queue α) : Happening α → Prop
  | .called entry => queue.pending.head? = some entry
  | .acted step outcome => step ≠ .deliver ∧ outcome = (queue.step step).1
  | .ended => queue.pending = []
  | .began | .returned => True

/-- One thing after another may happen. -/
def Fit (queue : Queue α) : List (Happening α) → Prop
  | [] => True
  | first :: rest => first.Fits queue ∧ (queue.amid [first]).Fit rest

theorem amid_append (queue : Queue α) (first second : List (Happening α)) :
    queue.amid (first ++ second) = (queue.amid first).amid second := by
  simp only [amid, stepsOf_append, steps_append]

theorem fit_append (queue : Queue α) (first second : List (Happening α)) :
    queue.Fit (first ++ second) ↔ queue.Fit first ∧ (queue.amid first).Fit second := by
  induction first generalizing queue with
  | nil => simp [Fit, amid, stepsOf]
  | cons happening rest ih =>
    rw [List.cons_append, Fit, Fit, ih, and_assoc, ← amid_append, List.singleton_append]

theorem amid_called (queue : Queue α) (entry : Entry α) :
    queue.amid [.called entry] = { queue with pending := queue.pending.tail } := by
  rw [amid, stepsOf, List.filterMap_cons]
  simp [Happening.step?, steps_cons, Queue.step, dequeue_eq]

theorem amid_acted (queue : Queue α) (step : Step α) (outcome : Outcome α) :
    queue.amid [.acted step outcome] = (queue.step step).2 := rfl

def Step.joining (queue : Queue α) (step : Step α) : List (Entry α) :=
  if queue.waiting = [] then step.made queue.entered else []

def joiningFrom (queue : Queue α) : List (Step α) → List (Entry α)
  | [] => []
  | step :: rest => step.joining queue ++ (queue.step step).2.joiningFrom rest

/-- What was pending and what joins it is what stays pending and what leaves. -/
theorem step_pending_perm (queue : Queue α) (step : Step α) :
    ((queue.step step).1.leaving ++ (queue.step step).2.pending).Perm
      (queue.pending ++ step.joining queue) := by
  cases step with
  | enqueue object =>
    simp only [Queue.step, enqueue, offer, Step.joining, Step.made, Outcome.leaving]
    cases queue.waiting <;> simp
  | enqueueUrgent object =>
    simp only [Queue.step, enqueueUrgent, offer, Step.joining, Step.made, Outcome.leaving]
    cases queue.waiting with
    | nil => exact (List.perm_append_singleton _ _).symm
    | cons ticket rest => simp
  | dequeue | deliver | wait =>
    simp only [Queue.step, dequeue, wait, Step.joining, Step.made, ite_self, List.append_nil]
    cases head : queue.pending <;> simp [Outcome.leaving, head]
  | collect ticket =>
    simp only [Queue.step, Step.joining, Step.made, ite_self, List.append_nil]
    split <;> exact .refl _
  | expire ticket =>
    simp only [Queue.step, expire, Step.joining, Step.made, ite_self, List.append_nil]
    cases queue.handed? ticket <;> (split <;> exact .refl _)
  | remove object =>
    rcases step_remove queue object with ⟨-, same⟩ | ⟨before, entry, behind, split, -, -, same⟩
    · simp [same, Outcome.leaving, Step.joining, Step.made]
    · simp [same, split, Outcome.leaving, Step.joining, Step.made, List.perm_middle.symm]
  | clear => simp [Queue.step, clear, Outcome.leaving, Step.joining, Step.made]
  | wakeAll => simp [Queue.step, wakeAll, Outcome.leaving, Step.joining, Step.made]

theorem joiningFrom_sublist (queue : Queue α) (steps : List (Step α)) :
    (queue.joiningFrom steps).Sublist (entriesFrom queue.entered steps) := by
  induction steps generalizing queue with
  | nil => exact List.Sublist.refl _
  | cons step rest ih =>
    have later := ih (queue.step step).2
    rw [step_entered] at later
    refine List.Sublist.append ?_ later
    rw [Step.joining]
    split
    · exact List.Sublist.refl _
    · exact List.nil_sublist _

theorem joiningFrom_append (queue : Queue α) (first second : List (Step α)) :
    queue.joiningFrom (first ++ second) =
      queue.joiningFrom first ++ (queue.steps first).2.joiningFrom second := by
  induction first generalizing queue with
  | nil => rfl
  | cons step rest ih =>
    simp only [List.cons_append, joiningFrom, ih, steps_cons, List.append_assoc]

theorem fits_perm (queue : Queue α) (happening : Happening α) (fits : happening.Fits queue) :
    (calledOf [happening] ++ takenOf [happening] ++ (queue.amid [happening]).pending).Perm
      (queue.pending ++ queue.joiningFrom (stepsOf [happening])) := by
  cases happening with
  | called entry =>
    obtain ⟨rest, head⟩ : ∃ rest, queue.pending = entry :: rest := List.head?_eq_some_iff.mp fits
    rw [amid_called, head]
    simp [calledOf, takenOf, stepsOf, Happening.callee?, Happening.taken, Happening.step?,
      joiningFrom, Step.joining, Step.made]
  | acted step outcome =>
    obtain ⟨-, rfl⟩ := fits
    rw [amid_acted]
    simpa [calledOf, takenOf, stepsOf, List.filterMap_cons, Happening.callee?, Happening.taken,
      Happening.step?, joiningFrom] using step_pending_perm queue step
  | began | ended | returned =>
    simp [calledOf, takenOf, stepsOf, amid, List.filterMap_cons, Happening.callee?,
      Happening.taken, Happening.step?, joiningFrom]

/-- What was pending at some point and what joins it is given to callbacks, is taken or stays. -/
theorem fit_perm (queue : Queue α) (history : List (Happening α)) (fit : queue.Fit history) :
    (calledOf history ++ takenOf history ++ (queue.amid history).pending).Perm
      (queue.pending ++ queue.joiningFrom (stepsOf history)) := by
  induction history generalizing queue with
  | nil => simp [calledOf, takenOf, stepsOf, amid, joiningFrom]
  | cons happening rest ih =>
    have first := fits_perm queue happening fit.1
    have others := ih (queue.amid [happening]) fit.2
    have joining : queue.joiningFrom (stepsOf ([happening] ++ rest)) =
        queue.joiningFrom (stepsOf [happening]) ++
          (queue.amid [happening]).joiningFrom (stepsOf rest) := by
      rw [stepsOf_append, joiningFrom_append, amid]
    rw [← List.singleton_append, calledOf_append, takenOf_append, amid_append, joining]
    -- The parts stand in another order on either side, which their counts do not see.
    rw [List.perm_iff_count] at first others ⊢
    intro entry
    have now := first entry
    have later := others entry
    simp only [List.count_append] at now later ⊢
    omega

/-- Callbacks are given entries in the order in which these reach somebody. -/
theorem called_sublist (queue : Queue α) (history : List (Happening α)) (fit : queue.Fit history) :
    (calledOf history).Sublist (queue.deliveries (stepsOf history)) := by
  induction history generalizing queue with
  | nil => exact .slnil
  | cons happening rest ih =>
    have others := ih (queue.amid [happening]) fit.2
    cases happening with
    | called entry =>
      have head : queue.pending.head? = some entry := fit.1
      have reached : queue.reached .deliver = [entry] := by
        rw [(reached_take queue .deliver (by simp)).1, head]
        rfl
      show (entry :: calledOf rest).Sublist (queue.reached .deliver ++ _)
      rw [reached]
      exact others.cons_cons entry
    | acted step outcome => exact others.trans (List.sublist_append_right _ _)
    | began | ended | returned => exact others

/-- What a dispatch of a queue has done when it is over. -/
structure Fed (queue : Queue α) (scene : Scene α) : Prop where
  empty : scene.queue.pending = []
  /-- Callbacks are called with the head, and no dispatch ends while something is pending. -/
  fits : ∀ earlier happening later, scene.outside = earlier ++ happening :: later →
    happening.Fits (queue.amid earlier)
  /-- Whatever is pending at some point is given to one callback or taken. -/
  once : ∀ earlier later, scene.outside = earlier ++ later →
    ∀ entry ∈ (queue.amid earlier).pending,
      (calledOf scene.outside).count entry + (takenOf scene.outside).count entry = 1
  /-- What is pending together is given to callbacks as it stands. -/
  order : ∀ earlier later, scene.outside = earlier ++ later →
    ((calledOf later).filter fun entry => entry ∈ (queue.amid earlier).pending).Sublist
      (queue.amid earlier).pending
  /-- Only uses of the queue have to do with consumers. -/
  consumers : ∀ earlier happening later, scene.outside = earlier ++ happening :: later →
    (∀ step outcome, happening ≠ .acted step outcome) →
    (queue.amid (earlier ++ [happening])).waiting = (queue.amid earlier).waiting ∧
      (queue.amid (earlier ++ [happening])).released = (queue.amid earlier).released ∧
      (queue.amid (earlier ++ [happening])).issued = (queue.amid earlier).issued

theorem amid_consumers (queue : Queue α) (happening : Happening α)
    (idle : ∀ step outcome, happening ≠ .acted step outcome) :
    (queue.amid [happening]).waiting = queue.waiting ∧
      (queue.amid [happening]).released = queue.released ∧
      (queue.amid [happening]).issued = queue.issued := by
  cases happening with
  | called entry =>
    rw [amid_called]
    exact ⟨rfl, rfl, rfl⟩
  | acted step outcome => exact absurd rfl (idle step outcome)
  | began | ended | returned => exact ⟨rfl, rfl, rfl⟩

section

variable (before : List (Step α)) (history : List (Happening α))
  (fit : (({} : Queue α).steps before).2.Fit history)

include fit

theorem given_nodup : (calledOf history ++ takenOf history ++
    ((({} : Queue α).steps before).2.amid history).pending).Nodup := by
  refine (fit_perm _ history fit).nodup_iff.mpr ?_
  refine List.nodup_append.mpr ⟨pending_nodup before, ?_, ?_⟩
  · exact (entriesFrom_nodup _ _).sublist (joiningFrom_sublist _ _)
  · intro old pending new joins same
    have later := (joiningFrom_sublist _ _).subset joins
    exact not_pending_of_later before _ new later (same ▸ pending)

theorem fit_once (empty : ((({} : Queue α).steps before).2.amid history).pending = [])
    (earlier later : List (Happening α)) (split : history = earlier ++ later) (entry : Entry α)
    (pending : entry ∈ ((({} : Queue α).steps before).2.amid earlier).pending) :
    (calledOf history).count entry + (takenOf history).count entry = 1 := by
  have once := given_nodup before history fit
  rw [empty, List.append_nil] at once
  rw [← List.count_append]
  refine List.count_eq_one_of_mem once ?_
  rw [split, fit_append] at fit
  rw [split, amid_append] at empty
  have given := (fit_perm _ later fit.2).mem_iff.mpr (List.mem_append_left _ pending)
  rw [empty, List.append_nil] at given
  rw [split, calledOf_append, takenOf_append]
  simp only [List.mem_append] at given ⊢
  exact given.imp .inr .inr

theorem fit_order (earlier later : List (Happening α)) (split : history = earlier ++ later) :
    ((calledOf later).filter fun entry =>
        entry ∈ ((({} : Queue α).steps before).2.amid earlier).pending).Sublist
      ((({} : Queue α).steps before).2.amid earlier).pending := by
  rw [split, fit_append] at fit
  have kept := line_kept (before ++ stepsOf earlier) (stepsOf later)
  rw [steps_append] at kept
  refine List.Sublist.trans (List.Sublist.filter _ ?_) kept
  exact (called_sublist _ later fit.2).trans (List.sublist_append_left _ _)

end

theorem fed_of_fit (before : List (Step α)) (scene : Scene α)
    (fit : (({} : Queue α).steps before).2.Fit scene.outside)
    (now : scene.queue = (({} : Queue α).steps before).2.amid scene.outside)
    (empty : scene.queue.pending = []) : Fed (({} : Queue α).steps before).2 scene where
  empty := empty
  fits := by
    intro earlier happening later split
    rw [split, fit_append] at fit
    exact fit.2.1
  once := fit_once before scene.outside fit (now ▸ empty)
  order := fit_order before scene.outside fit
  consumers := by
    intro earlier happening later _ idle
    rw [amid_append]
    exact amid_consumers _ happening idle

namespace Conduct

variable {conduct : Conduct α}

/-- One step makes one thing happen, which is true of the queue. -/
theorem next_fits {before after : Situation α} (next : conduct.Next before after) :
    ∃ happening, after.scene.outside = before.scene.outside ++ [happening] ∧
      happening.Fits before.scene.queue ∧
      after.scene.queue = before.scene.queue.amid [happening] := by
  cases next with
  | @call depth scene entry rest head =>
    refine ⟨.called entry, rfl, ?_, ?_⟩
    · show scene.queue.pending.head? = some entry
      rw [head]
      rfl
    · show { scene.queue with pending := rest } = scene.queue.amid [.called entry]
      rw [amid_called, head]
      rfl
  | finish empty => exact ⟨.ended, rfl, empty, rfl⟩
  | back => exact ⟨.returned, rfl, trivial, rfl⟩
  | @act _ _ _ own _ => exact ⟨_, rfl, ⟨own, rfl⟩, rfl⟩
  | dispatch => exact ⟨.began, rfl, trivial, rfl⟩

/-- At every point of a run its history is true of the queue that it began with. -/
theorem go_fits (conduct : Conduct α) (queue : Queue α) (steps : Nat) :
    let scene := (conduct.go steps (.feeding 0 ⟨queue, []⟩)).scene
    scene.queue = queue.amid scene.outside ∧ queue.Fit scene.outside := by
  refine go_keeps (fun situation => situation.scene.queue =
    queue.amid situation.scene.outside ∧ queue.Fit situation.scene.outside) ?_ steps _
      ⟨rfl, trivial⟩
  rintro before after next ⟨now, fit⟩
  obtain ⟨happening, longer, fits, becomes⟩ := next_fits (next_cases next)
  rw [longer, amid_append, fit_append, ← now]
  exact ⟨becomes, fit, fits, trivial⟩

theorem go_begins (conduct : Conduct α) (steps : Nat) (situation : Situation α) :
    situation.scene.outside <+: (conduct.go steps situation).scene.outside := by
  refine go_keeps (fun after => situation.scene.outside <+: after.scene.outside) ?_ steps _
    (List.prefix_refl _)
  intro before after next begins
  obtain ⟨happening, longer, -⟩ := next_fits (next_cases next)
  rw [longer]
  exact begins.trans (List.prefix_append _ _)

/-- What has happened at some point of a run stays in its history. -/
theorem go_ends {steps : Nat} {situation : Situation α}
    (halts : conduct.next? (conduct.go steps situation) = none) (earlier : Nat) :
    (conduct.go earlier situation).scene.outside <+:
      (conduct.go steps situation).scene.outside := by
  have begins := go_begins conduct steps (conduct.go earlier situation)
  rwa [← go_add, Nat.add_comm, go_add, conduct.go_of_end halts] at begins

/-- A run that ends uses the queue finitely often. -/
theorem within_of_end {steps : Nat} {situation : Situation α}
    (halts : conduct.next? (conduct.go steps situation) = none) :
    conduct.Within (uses (conduct.go steps situation).scene.outside) situation :=
  fun earlier => (go_ends halts earlier).sublist.countP_le

end Conduct

/-- Callbacks may queue, take, remove and clear entries, let consumers start to wait and dispatch the
queue themselves, in any way that depends on all that happened so far. If they use the queue finitely
often in all, a dispatch ends, whatever its fuel is beyond what that takes. No dispatch ends while
something is pending, callbacks are called with the head, and whatever was pending at some point has
then been given to one of them, unless a use of the queue took it. Consumers are left to those uses. -/
theorem dispatch_feeds_all (before : List (Step α)) (conduct : Conduct α) (total : Nat)
    (finite : conduct.Within total (.feeding 0 ⟨(({} : Queue α).steps before).2, []⟩)) :
    let queue := (({} : Queue α).steps before).2
    let run steps := conduct.go steps (.feeding 0 ⟨queue, []⟩)
    ∃ last, (∀ fuel, 3 * total + 2 * queue.pending.length + 1 ≤ fuel →
        dispatch (conduct.call fuel) fuel ⟨queue, []⟩ = last) ∧
      (∃ steps, run steps = .feeding 0 last ∧ conduct.next? (run steps) = none) ∧
      (∀ steps, (run steps).scene.queue = queue.amid (run steps).scene.outside ∧
        (run steps).scene.outside <+: last.outside) ∧
      Fed queue last := by
  intro queue run
  obtain ⟨last, ⟨steps, reaches⟩, empty, ends⟩ := conduct.dispatch_ends total ⟨queue, []⟩ finite
  have halts : conduct.next? (run steps) = none := by
    rw [show run steps = .feeding 0 last from reaches]
    simp [Conduct.next?, empty]
  have history : (run steps).scene.outside = last.outside :=
    congrArg (fun situation => situation.scene.outside) reaches
  have fits := conduct.go_fits queue
  refine ⟨last, ?_, ⟨steps, reaches, halts⟩, ?_, ?_⟩
  · simpa [Situation.potential, uses] using ends
  · intro earlier
    rw [← history]
    exact ⟨(fits earlier).1, Conduct.go_ends halts earlier⟩
  · obtain ⟨now, fit⟩ := fits steps
    rw [show conduct.go steps _ = Situation.feeding 0 last from reaches] at now fit
    exact fed_of_fit before last fit now empty

end

/-- Callbacks that queue, remove and take entries, let two consumers start to wait, and dispatch the
queue once themselves. -/
def Conduct.busy : Conduct Nat := fun history =>
  [.back, .act (.enqueueUrgent 4) nofun, .act (.remove 3) nofun, .dispatch, .back,
    .act .dequeue nofun, .act .wait nofun, .act (.enqueue 5) nofun, .act (.enqueue 6) nofun, .back,
    .back, .act .wait nofun, .back, .back].getD history.length .back

/-- What is queued for the first consumer is never pending, and the second one stays blocked. -/
theorem dispatch_feeds_all_busy :
    let queue := (({} : Queue Nat).steps [.enqueue 1, .enqueue 2, .enqueue 3]).2
    ∃ last, (∀ fuel, 31 ≤ fuel → dispatch (Conduct.busy.call fuel) fuel ⟨queue, []⟩ = last) ∧
      calledOf last.outside = [⟨0, 1⟩, ⟨3, 4⟩, ⟨5, 6⟩] ∧
      takenOf last.outside = [⟨2, 3⟩, ⟨1, 2⟩] ∧ last.queue.waiting = [1] ∧ Fed queue last := by
  intro queue
  have halts : Conduct.busy.next? (Conduct.busy.go 15 (.feeding 0 ⟨queue, []⟩)) = none :=
    Option.isNone_iff_eq_none.mp (by decide)
  have eight : uses (Conduct.busy.go 15 (.feeding 0 ⟨queue, []⟩)).scene.outside = 8 := by decide
  have finite := Conduct.within_of_end halts
  rw [eight] at finite
  obtain ⟨last, ends, -, -, fed⟩ :=
    dispatch_feeds_all [.enqueue 1, .enqueue 2, .enqueue 3] Conduct.busy 8 finite
  refine ⟨last, ends, ?_, ?_, ?_, fed⟩ <;> rw [← ends 31 (by decide)] <;> decide

end SocketLoop.Queue
