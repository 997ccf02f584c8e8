import Mathlib.Data.List.Perm.Basic
import SocketLoop.Proofs.Queue.Tickets
import SocketLoop.Queue.Dispatch

/-! Where entries go. At every point of a run each entry that was made has exactly one fate, and
nothing else has any. A dispatch whose callbacks act on the queue is a run like any other. -/
namespace SocketLoop.Queue

variable {α : Type}

/-- Where an entry is, or with which step of a run it left the queue. -/
inductive Fate where
  | pending
  /-- It was handed to the consumer of a ticket, who has not returned. -/
  | handed (ticket : Nat)
  | consumed (step : Nat)
  | delivered (step : Nat)
  | removed (step : Nat)
  | discarded (step : Nat)
deriving DecidableEq

def Outcome.ends (step : Nat) : Outcome α → List (Fate × Entry α)
  | .dequeued entry => entry.toList.map fun entry => (.consumed step, entry)
  | .waited (.took entry) => [(.consumed step, entry)]
  | .returned _ entry => entry.toList.map fun entry => (.consumed step, entry)
  | .delivered entry => entry.toList.map fun entry => (.delivered step, entry)
  | .removed entry => entry.toList.map fun entry => (.removed step, entry)
  | .cleared entries => entries.map fun entry => (.discarded step, entry)
  | .entered _ | .waited (.blocked _) | .unchanged | .woken _ => []

def endsFrom : Nat → List (Outcome α) → List (Fate × Entry α)
  | _, [] => []
  | step, outcome :: rest => outcome.ends step ++ endsFrom (step + 1) rest

def held (queue : Queue α) : List (Fate × Entry α) :=
  queue.pending.map (fun entry => (.pending, entry)) ++
    queue.released.filterMap fun row => row.2.map fun entry => (.handed row.1, entry)

def fates (run : List (Outcome α) × Queue α) : List (Fate × Entry α) :=
  run.2.held ++ endsFrom 0 run.1

def Step.made (number : Nat) : Step α → List (Entry α)
  | .enqueue object | .enqueueUrgent object => [⟨number, object⟩]
  | _ => []

def entriesFrom : Nat → List (Step α) → List (Entry α)
  | _, [] => []
  | number, step :: rest =>
    step.made number ++ entriesFrom (number + (step.made number).length) rest

theorem held_entries (queue : Queue α) :
    queue.held.map Prod.snd = queue.pending ++ queue.released.filterMap Prod.snd := by
  simp [held, List.map_filterMap, Function.comp_def]

theorem collect_entries (queue : Queue α) (sound : queue.Sound) (ticket : Nat)
    (entry : Option (Entry α)) (handed : queue.handed? ticket = some entry) :
    ((queue.collect ticket).released.filterMap Prod.snd ++ entry.toList).Perm
      (queue.released.filterMap Prod.snd) := by
  have member := (handed_iff queue sound ticket entry).mp handed
  obtain ⟨before, after, same⟩ := List.append_of_mem member
  have distinct : (queue.released.map Prod.fst).Nodup :=
    sound.distinct.sublist (List.sublist_append_right _ _)
  rw [same, List.map_append, List.map_cons, List.nodup_middle, List.nodup_cons,
    List.mem_append] at distinct
  -- Tickets are distinct, so collecting takes out this one row only.
  have others : ∀ rows : List (Nat × Option (Entry α)), ticket ∉ rows.map Prod.fst →
      rows.filter (fun row => row.1 != ticket) = rows := by
    intro rows absent
    apply List.filter_eq_self.mpr
    intro row inside
    have listed := List.mem_map_of_mem (f := Prod.fst) inside
    simp only [bne_iff_ne, ne_eq]
    intro equal
    exact absent (equal ▸ listed)
  have left := others before fun inside => distinct.1 (.inl inside)
  have right := others after fun inside => distinct.1 (.inr inside)
  have kept : (queue.collect ticket).released = before ++ after := by
    simp [collect, same, left, right]
  rw [kept, same, List.filterMap_append, List.filterMap_append, List.append_assoc]
  apply List.Perm.append_left
  cases entry with
  | none => simp
  | some entry => simp

private theorem remove_entries [DecidableEq α] (pending : List (Entry α)) (object : α) :
    (pending.eraseP (fun entry => entry.object = object) ++
      (pending.find? fun entry => entry.object = object).toList).Perm pending := by
  induction pending with
  | nil => simp
  | cons first rest ih =>
    by_cases same : first.object = object
    · simp [same]
    · simp only [List.eraseP_cons, List.find?_cons, same, decide_false, cond_false]
      exact ih.cons first

private theorem offer_conserves (queue : Queue α) (object : α)
    (place : Entry α → List (Entry α) → List (Entry α))
    (placed : ∀ entry pending, (place entry pending).Perm (entry :: pending)) :
    ((queue.offer object place).held.map Prod.snd).Perm
      (queue.held.map Prod.snd ++ [⟨queue.entered, object⟩]) := by
  simp only [held_entries, offer]
  cases queue.waiting with
  | nil =>
    refine ((placed _ _).append_right _).trans ?_
    exact (List.perm_append_singleton _ _).symm
  | cons ticket rest => simp

private theorem dequeue_conserves (queue : Queue α) :
    (queue.dequeue.2.held.map Prod.snd ++ queue.dequeue.1.toList).Perm
      (queue.held.map Prod.snd) := by
  simp only [held_entries, dequeue]
  cases head : queue.pending with
  | nil => simp [head]
  | cons entry rest => exact List.perm_append_singleton _ _

private theorem expire_conserves (queue : Queue α) (sound : queue.Sound) (ticket : Nat) :
    ((queue.expire ticket).2.held.map Prod.snd ++ (queue.expire ticket).1.toList).Perm
      (queue.held.map Prod.snd) := by
  simp only [expire]
  cases handed : queue.handed? ticket with
  | none => simp [held_entries]
  | some entry =>
    simp only [held_entries, List.append_assoc]
    exact (collect_entries queue sound ticket entry handed).append_left queue.pending

/-- A step neither loses nor doubles an entry. -/
theorem step_conserves [DecidableEq α] (queue : Queue α) (sound : queue.Sound) (step : Step α)
    (index : Nat) :
    (((queue.step step).2.held ++ (queue.step step).1.ends index).map Prod.snd).Perm
      (queue.held.map Prod.snd ++ step.made queue.entered) := by
  rw [List.map_append]
  cases step with
  | enqueue object =>
    simpa [Queue.step, Outcome.ends, Step.made, enqueue] using
      offer_conserves queue object (fun entry pending => pending ++ [entry])
        fun entry pending => List.perm_append_singleton entry pending
  | enqueueUrgent object =>
    simpa [Queue.step, Outcome.ends, Step.made, enqueueUrgent] using
      offer_conserves queue object (fun entry pending => entry :: pending)
        fun entry pending => List.Perm.refl _
  | dequeue | deliver =>
    simpa [Queue.step, Outcome.ends, Step.made, Function.comp_def] using dequeue_conserves queue
  | wait =>
    simp only [Queue.step, wait, held_entries, Step.made, List.append_nil]
    cases queue.pending with
    | nil => simp [Outcome.ends]
    | cons entry rest => exact List.perm_append_singleton _ _
  | collect ticket =>
    simp only [Queue.step, Step.made, List.append_nil]
    cases handed : queue.handed? ticket with
    | none => simp [Outcome.ends]
    | some entry =>
      have kept := collect_entries queue sound ticket entry handed
      simpa [held_entries, Outcome.ends, Function.comp_def, collect] using
        kept.append_left queue.pending
  | expire ticket =>
    simp only [Queue.step, Step.made, List.append_nil]
    split
    · simpa [Outcome.ends, Function.comp_def] using expire_conserves queue sound ticket
    · simp [Outcome.ends]
  | remove object =>
    have taken := remove_entries queue.pending object
    have moved := taken.append_right (queue.released.filterMap Prod.snd)
    simp only [Queue.step, remove, held_entries, Outcome.ends, Step.made, List.append_nil,
      List.map_map, Function.comp_def, List.map_id']
    refine List.Perm.trans ?_ moved
    simp only [List.append_assoc]
    exact List.perm_append_comm.append_left _
  | clear =>
    simp only [Queue.step, clear, held_entries, Outcome.ends, Step.made, List.append_nil,
      List.map_map, Function.comp_def, List.map_id', List.nil_append]
    exact List.perm_append_comm
  | wakeAll => simp [Queue.step, wakeAll, held_entries, Outcome.ends, Step.made]

theorem step_entered [DecidableEq α] (queue : Queue α) (step : Step α) :
    (queue.step step).2.entered = queue.entered + (step.made queue.entered).length := by
  cases step <;>
    simp only [Queue.step, enqueue, enqueueUrgent, offer, dequeue, wait, collect, expire, remove,
      clear, wakeAll, Step.made] <;> grind

/-- Over any steps the entries held before and those made are the ones held after and those that
left. -/
theorem steps_conserve [DecidableEq α] (queue : Queue α) (sound : queue.Sound)
    (steps : List (Step α)) (index : Nat) :
    (((queue.steps steps).2.held ++ endsFrom index (queue.steps steps).1).map Prod.snd).Perm
      (queue.held.map Prod.snd ++ entriesFrom queue.entered steps) := by
  induction steps generalizing queue index with
  | nil => simp [endsFrom, entriesFrom]
  | cons step rest ih =>
    have first := step_conserves queue sound step index
    have others := ih (queue.step step).2 (step_sound queue step sound) (index + 1)
    rw [step_entered] at others
    simp only [steps_cons, endsFrom, entriesFrom, List.map_append] at first others ⊢
    rw [List.perm_iff_count] at first others ⊢
    intro entry
    have now := first entry
    have later := others entry
    simp only [List.count_append] at now later ⊢
    omega

theorem made_bounds (step : Step α) (number : Nat) :
    ∀ entry ∈ step.made number,
      number ≤ entry.number ∧ entry.number < number + (step.made number).length := by
  intro entry member
  cases step <;> simp [Step.made] at member ⊢ <;> simp [member]

theorem entriesFrom_ge (steps : List (Step α)) (number : Nat) :
    ∀ entry ∈ entriesFrom number steps, number ≤ entry.number := by
  induction steps generalizing number with
  | nil => simp [entriesFrom]
  | cons step rest ih =>
    intro entry member
    rcases List.mem_append.mp member with now | later
    · exact (made_bounds step number entry now).1
    · exact Nat.le_trans (Nat.le_add_right _ _) (ih _ entry later)

/-- No two entries are the same, also when they hold the same object. -/
theorem entriesFrom_nodup (steps : List (Step α)) (number : Nat) :
    (entriesFrom number steps).Nodup := by
  induction steps generalizing number with
  | nil => exact List.nodup_nil
  | cons step rest ih =>
    have one : (step.made number).Nodup := by cases step <;> simp [Step.made]
    refine List.nodup_append.mpr ⟨one, ih _, ?_⟩
    intro first now second later equal
    have below := (made_bounds step number first now).2
    have above := entriesFrom_ge rest _ second later
    rw [equal] at below
    omega

private theorem one_row {rows : List (Fate × Entry α)} [DecidableEq α] (entry : Entry α)
    (distinct : (rows.map Prod.snd).Nodup) (member : entry ∈ rows.map Prod.snd) :
    ∃ fate, rows.filter (fun row => row.2 = entry) = [(fate, entry)] := by
  obtain ⟨⟨fate, same⟩, inside, equal⟩ := List.mem_map.mp member
  subst equal
  obtain ⟨before, after, split⟩ := List.append_of_mem inside
  rw [split, List.map_append, List.map_cons, List.nodup_middle, List.nodup_cons,
    List.mem_append] at distinct
  have others : ∀ part : List (Fate × Entry α), same ∉ part.map Prod.snd →
      part.filter (fun row => row.2 = same) = [] := by
    intro part absent
    apply List.filter_eq_nil_iff.mpr
    intro row listed
    simp only [decide_eq_true_eq]
    intro equal
    exact absent (equal ▸ List.mem_map_of_mem listed)
  refine ⟨fate, ?_⟩
  rw [split, List.filter_append, List.filter_cons_of_pos (by simp),
    others before fun listed => distinct.1 (.inl listed),
    others after fun listed => distinct.1 (.inr listed)]
  rfl

/-- What was done to a queue from the beginning, and what it answered. -/
abbrev Chronicle (α : Type) := List (Step α × Outcome α)

def after [DecidableEq α] (steps : List (Step α)) : Site α (Chronicle α) :=
  ⟨(({} : Queue α).steps steps).2, steps.zip (({} : Queue α).steps steps).1⟩

/-- A callback that acts on the queue by steps. Steps of other threads may stand between its own,
and it may dispatch itself. -/
def ActsBySteps [DecidableEq α] (call : Entry α → Site α (Chronicle α) → Site α (Chronicle α)) :
    Prop :=
  ∀ entry steps, ∃ more, call entry (after steps) = after (steps ++ more)

def noting (call : Entry α → Site α (Chronicle α) → Site α (Chronicle α)) (entry : Entry α)
    (site : Site α (Chronicle α)) : Site α (Chronicle α) :=
  call entry { site with outside := site.outside ++ [(.deliver, .delivered (some entry))] }

theorem after_step [DecidableEq α] (steps : List (Step α)) (step : Step α) :
    after (steps ++ [step]) =
      ⟨((after steps).queue.step step).2,
        (after steps).outside ++ [(step, ((after steps).queue.step step).1)]⟩ := by
  have same := steps_length ({} : Queue α) steps
  simp only [after, steps_append, steps_cons, steps_nil]
  rw [List.zip_append same.symm]
  rfl

/-- A dispatch is a run: it takes the head, its callback goes on, and so on. -/
theorem dispatch_acts [DecidableEq α]
    (call : Entry α → Site α (Chronicle α) → Site α (Chronicle α)) (acts : ActsBySteps call)
    (fuel : Nat) (steps : List (Step α)) :
    ∃ more, dispatch (noting call) fuel (after steps) = after (steps ++ more) := by
  induction fuel generalizing steps with
  | zero => exact ⟨[], by simp [dispatch]⟩
  | succ fuel ih =>
    simp only [dispatch]
    cases head : (after steps).queue.dequeue with
    | mk taken rest =>
      cases taken with
      | none => exact ⟨[], by simp⟩
      | some entry =>
        have delivered : after (steps ++ [.deliver]) =
            ⟨rest, (after steps).outside ++ [(.deliver, .delivered (some entry))]⟩ := by
          rw [after_step]
          simp only [Queue.step, head]
        obtain ⟨done, called⟩ := acts entry (steps ++ [.deliver])
        obtain ⟨more, last⟩ := ih (steps ++ [.deliver] ++ done)
        refine ⟨[.deliver] ++ done ++ more, ?_⟩
        rw [delivered] at called
        simp only [noting, called]
        rw [last]
        simp only [List.append_assoc]

/-- At every point of every run of a queue each entry that was made has exactly one fate and no other
entry has any. A consumer that was handed an entry returns once, with that entry, and would so at
any later point. The calls of a dispatch are steps of such a run. -/
theorem every_entry_has_one_fate [DecidableEq α] (steps : List (Step α)) :
    (∀ entry ∈ entriesFrom 0 steps, ∃ fate,
      (fates (({} : Queue α).steps steps)).filter (fun row => row.2 = entry) = [(fate, entry)]) ∧
    (∀ row ∈ fates (({} : Queue α).steps steps), row.2 ∈ entriesFrom 0 steps) ∧
    (∀ ticket entry, (({} : Queue α).steps steps).2.handed? ticket = some (some entry) →
      ∀ later, let run := (({} : Queue α).steps steps).2.steps later
        returnsOf ticket run.1 = [some entry] ∨
        returnsOf ticket run.1 = [] ∧
          (run.2.step (.collect ticket)).1 = .returned ticket (some entry) ∧
          (run.2.step (.expire ticket)).1 = .returned ticket (some entry)) ∧
    ∀ call, ActsBySteps call → ∀ fuel, ∃ more,
      dispatch (noting call) fuel (after steps) = after (steps ++ more) := by
  have conserved : ((fates (({} : Queue α).steps steps)).map Prod.snd).Perm
      (entriesFrom 0 steps) := steps_conserve {} sound_empty steps 0
  refine ⟨?_, ?_, ?_, ?_⟩
  · intro entry made
    exact one_row entry (conserved.nodup_iff.mpr (entriesFrom_nodup steps 0))
      (conserved.mem_iff.mpr made)
  · intro row member
    exact conserved.mem_iff.mp (List.mem_map_of_mem member)
  · intro ticket entry handed later
    have sound := steps_sound {} steps (sound_empty (α := α))
    have member := (handed_iff _ sound ticket (some entry)).mp handed
    rcases steps_released _ sound later ticket (some entry) member with ⟨silent, kept⟩ | ⟨told, -⟩
    · have still := (handed_iff _ (steps_sound _ later sound) ticket (some entry)).mpr kept
      refine .inr ⟨silent, ?_, ?_⟩
      · simp only [Queue.step, still]
      · simp [Queue.step, expire, still]
    · exact .inl told
  · intro call acts fuel
    exact dispatch_acts call acts fuel steps

/-- A consumer that blocks, one whose time is up, one object queued three times, and a callback that
queues another. -/
theorem every_entry_has_one_fate_handed :
    let steps : List (Step Nat) :=
      [.wait, .wait, .expire 1, .enqueue 7, .enqueue 7, .enqueueUrgent 7, .remove 7, .wakeAll]
    let later : List (Step Nat) := [.enqueue 8, .clear, .expire 0, .collect 0]
    let call (_ : Entry Nat) (site : Site Nat (Chronicle Nat)) : Site Nat (Chronicle Nat) :=
      ⟨(site.queue.step .clear).2, site.outside ++ [(.clear, (site.queue.step .clear).1)]⟩
    (({} : Queue Nat).steps steps).2.handed? 0 = some (some ⟨0, 7⟩) ∧
    returnsOf 0 ((({} : Queue Nat).steps steps).2.steps later).1 = [some ⟨0, 7⟩] ∧
    ActsBySteps call ∧
    ∃ more, dispatch (noting call) 3 (after steps) = after (steps ++ more) := by
  intro steps later call
  obtain ⟨-, -, consumers, dispatches⟩ := every_entry_has_one_fate steps
  have handed : (({} : Queue Nat).steps steps).2.handed? 0 = some (some ⟨0, 7⟩) := by decide
  have acts : ActsBySteps call := fun _ steps => ⟨[.clear], (after_step steps .clear).symm⟩
  refine ⟨handed, ?_, acts, dispatches call acts 3⟩
  rcases consumers 0 ⟨0, 7⟩ handed later with told | ⟨silent, -⟩
  · exact told
  · exact absurd silent (by decide)

end SocketLoop.Queue
