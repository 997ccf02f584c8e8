import SocketLoop.Proofs.Queue.Matching

/-! Which entries reach somebody, and when. An entry does with the step that takes it from the head or
hands it to a blocked consumer, whenever that consumer returns. -/
namespace SocketLoop.Queue

variable {α : Type}

/-- The entries that reach somebody with a step: what it takes from the head, and what it hands to a
blocked consumer. -/
def reached [DecidableEq α] (queue : Queue α) (step : Step α) : List (Entry α) :=
  match (queue.step step).1 with
  | .dequeued entry | .delivered entry => entry.toList
  | .waited (.took entry) => [entry]
  | .entered _ => ((queue.step step).2.released.drop queue.released.length).filterMap Prod.snd
  | _ => []

/-- The entries that reach somebody in a run, in the order in which they do. -/
def deliveries [DecidableEq α] (queue : Queue α) : List (Step α) → List (Entry α)
  | [] => []
  | step :: rest => queue.reached step ++ (queue.step step).2.deliveries rest

theorem deliveries_append [DecidableEq α] (queue : Queue α) (first second : List (Step α)) :
    queue.deliveries (first ++ second) =
      queue.deliveries first ++ (queue.steps first).2.deliveries second := by
  induction first generalizing queue with
  | nil => rfl
  | cons step rest ih =>
    simp only [List.cons_append, deliveries, ih, steps_cons, List.append_assoc]

/-- An entry is handed over at once only while somebody is blocked. -/
theorem reached_enter [DecidableEq α] (queue : Queue α) (object : α) (step : Step α)
    (enters : step = .enqueue object ∨ step = .enqueueUrgent object) :
    queue.reached step = if queue.waiting = [] then [] else [⟨queue.entered, object⟩] := by
  rcases enters with rfl | rfl <;>
    simp only [reached, Queue.step, enqueue, enqueueUrgent, offer] <;>
    cases queue.waiting <;> simp

theorem reached_take [DecidableEq α] (queue : Queue α) (step : Step α)
    (takes : step = .dequeue ∨ step = .deliver ∨ step = .wait) :
    queue.reached step = queue.pending.head?.toList ∧
      (queue.step step).2.pending = queue.pending.tail := by
  rcases takes with rfl | rfl | rfl <;>
    simp only [reached, Queue.step, dequeue, wait] <;>
    cases head : queue.pending <;> simp [head]

/-- Whether an entry of that fate has reached somebody. -/
def Fate.reaches : Fate → Bool
  | .handed _ | .consumed _ | .delivered _ => true
  | .pending | .removed _ | .discarded _ => false

def reachedOf (rows : List (Fate × Entry α)) : List (Entry α) :=
  (rows.filter fun row => row.1.reaches).map Prod.snd

theorem reachedOf_append (first second : List (Fate × Entry α)) :
    reachedOf (first ++ second) = reachedOf first ++ reachedOf second := by
  simp [reachedOf]

theorem reachedOf_held (queue : Queue α) :
    reachedOf queue.held = queue.released.filterMap Prod.snd := by
  simp only [reachedOf, held, List.filter_append, List.filter_map, Function.comp_def, Fate.reaches,
    List.filter_false, List.map_nil, List.nil_append, List.filter_filterMap, List.map_filterMap]
  refine List.filterMap_congr ?_
  intro row _
  cases row.2 <;> rfl

/-- What reaches somebody with a step is what it hands over or gives away. -/
theorem step_reached [DecidableEq α] (queue : Queue α) (sound : queue.Sound) (step : Step α)
    (index : Nat) :
    (reachedOf ((queue.step step).2.held ++ (queue.step step).1.ends index)).Perm
      (reachedOf queue.held ++ queue.reached step) := by
  simp only [reachedOf_append, reachedOf_held]
  cases step with
  | enqueue object | enqueueUrgent object =>
    rw [reached_enter queue object _ (by simp)]
    simp only [Queue.step, enqueue, enqueueUrgent, offer]
    cases queue.waiting <;> simp [reachedOf, Outcome.ends]
  | dequeue | deliver | wait =>
    rw [(reached_take queue _ (by simp)).1]
    simp only [Queue.step, dequeue, wait]
    cases queue.pending <;> simp [reachedOf, Outcome.ends, Fate.reaches]
  | collect ticket =>
    simp only [reached, Queue.step]
    cases handed : queue.handed? ticket with
    | none => simp [reachedOf, Outcome.ends]
    | some entry =>
      have kept := collect_entries queue sound ticket entry handed
      simpa [reachedOf, Outcome.ends, Fate.reaches, List.filter_map, Function.comp_def] using kept
  | expire ticket =>
    simp only [reached, Queue.step, expire]
    cases handed : queue.handed? ticket with
    | none =>
      split <;> simp [reachedOf, Outcome.ends]
    | some entry =>
      have kept := collect_entries queue sound ticket entry handed
      simpa [reachedOf, Outcome.ends, Fate.reaches, List.filter_map, Function.comp_def] using kept
  | remove object =>
    simp [reached, Queue.step, remove, reachedOf, Outcome.ends, Fate.reaches, List.filter_map,
      Function.comp_def]
  | clear =>
    simp [reached, Queue.step, clear, reachedOf, Outcome.ends, Fate.reaches, List.filter_map,
      Function.comp_def]
  | wakeAll => simp [reached, Queue.step, wakeAll, reachedOf, Outcome.ends]

theorem steps_reached [DecidableEq α] (queue : Queue α) (sound : queue.Sound)
    (steps : List (Step α)) (index : Nat) :
    (reachedOf ((queue.steps steps).2.held ++ endsFrom index (queue.steps steps).1)).Perm
      (reachedOf queue.held ++ queue.deliveries steps) := by
  induction steps generalizing queue index with
  | nil => simp [endsFrom, deliveries]
  | cons step rest ih =>
    have first := step_reached queue sound step index
    have others := ih _ (step_sound queue step sound) (index + 1)
    simp only [steps_cons, endsFrom, deliveries, reachedOf_append] at first others ⊢
    rw [List.perm_iff_count] at first others ⊢
    intro entry
    have now := first entry
    have later := others entry
    simp only [List.count_append] at now later ⊢
    omega

theorem fates_perm [DecidableEq α] (steps : List (Step α)) :
    ((fates (({} : Queue α).steps steps)).map Prod.snd).Perm (entriesFrom 0 steps) :=
  steps_conserve {} sound_empty steps 0

theorem fates_nodup [DecidableEq α] (steps : List (Step α)) :
    ((fates (({} : Queue α).steps steps)).map Prod.snd).Nodup :=
  (fates_perm steps).nodup_iff.mpr (entriesFrom_nodup steps 0)

theorem fate_unique [DecidableEq α] (steps : List (Step α)) (entry : Entry α) (one other : Fate)
    (first : (one, entry) ∈ fates (({} : Queue α).steps steps))
    (second : (other, entry) ∈ fates (({} : Queue α).steps steps)) : one = other :=
  congrArg Prod.fst (List.inj_on_of_nodup_map (fates_nodup steps) first second rfl)

theorem pending_fate [DecidableEq α] (steps : List (Step α)) (entry : Entry α)
    (pending : entry ∈ (({} : Queue α).steps steps).2.pending) :
    (.pending, entry) ∈ fates (({} : Queue α).steps steps) :=
  List.mem_append_left _ (List.mem_append_left _ (List.mem_map_of_mem pending))

theorem deliveries_perm [DecidableEq α] (steps : List (Step α)) :
    (reachedOf (fates (({} : Queue α).steps steps))).Perm (({} : Queue α).deliveries steps) :=
  steps_reached {} sound_empty steps 0

theorem mem_deliveries [DecidableEq α] (steps : List (Step α)) (entry : Entry α) :
    entry ∈ ({} : Queue α).deliveries steps ↔
      ∃ fate, (fate, entry) ∈ fates (({} : Queue α).steps steps) ∧ fate.reaches = true := by
  rw [← (deliveries_perm steps).mem_iff]
  simp [reachedOf]

theorem deliveries_nodup [DecidableEq α] (steps : List (Step α)) :
    (({} : Queue α).deliveries steps).Nodup :=
  (deliveries_perm steps).nodup_iff.mp
    ((fates_nodup steps).sublist (List.filter_sublist.map Prod.snd))

/-- What is pending has not reached anybody. -/
theorem undelivered_of_pending [DecidableEq α] (steps : List (Step α)) (entry : Entry α)
    (pending : entry ∈ (({} : Queue α).steps steps).2.pending) :
    entry ∉ ({} : Queue α).deliveries steps := by
  intro delivered
  obtain ⟨fate, row, reaches⟩ := (mem_deliveries steps entry).mp delivered
  rw [fate_unique steps entry fate .pending row (pending_fate steps entry pending)] at reaches
  cases reaches

end SocketLoop.Queue
