import Mathlib.Data.List.Nodup
import Mathlib.Data.List.Perm.Subperm
import SocketLoop.Queue.Basic

/-! Tickets of blocked consumers. A ticket is issued once, its consumer returns at most once, and
with exactly what it was handed. -/
namespace SocketLoop.Queue

variable {α : Type}

def tickets (queue : Queue α) : List Nat := queue.waiting ++ queue.released.map Prod.fst

/-- No two consumers share a ticket, and the tickets still to come are new. -/
structure Sound (queue : Queue α) : Prop where
  distinct : queue.tickets.Nodup
  issued : ∀ ticket ∈ queue.tickets, ticket < queue.issued

theorem sound_empty : ({} : Queue α).Sound := ⟨by simp [tickets], by simp [tickets]⟩

theorem Sound.of_subperm {queue next : Queue α} (sound : queue.Sound)
    (fewer : next.tickets.Subperm queue.tickets) (later : queue.issued ≤ next.issued) :
    next.Sound := by
  obtain ⟨shuffled, same, inside⟩ := fewer
  refine ⟨?_, ?_⟩
  · exact same.nodup_iff.mp (sound.distinct.sublist inside)
  · intro ticket member
    have before := sound.issued ticket (inside.subset (same.symm.subset member))
    omega

private theorem offer_sound (queue : Queue α) (object : α)
    (place : Entry α → List (Entry α) → List (Entry α)) (sound : queue.Sound) :
    (queue.offer object place).Sound := by
  unfold offer
  cases blocked : queue.waiting with
  | nil =>
    refine sound.of_subperm ?_ (Nat.le_refl _)
    simp only [tickets, blocked]
    exact List.Subperm.refl _
  | cons ticket rest =>
    refine sound.of_subperm ?_ (Nat.le_refl _)
    apply List.Perm.subperm
    simp only [tickets, blocked, List.map_append, List.map_cons, List.map_nil, List.cons_append]
    rw [← List.append_assoc]
    exact List.perm_append_singleton _ _

private theorem wait_sound (queue : Queue α) (sound : queue.Sound) : queue.wait.2.Sound := by
  unfold wait
  cases queue.pending with
  | cons entry rest => exact sound.of_subperm (List.Subperm.refl _) (Nat.le_refl _)
  | nil =>
    have moved : (queue.waiting ++ [queue.issued] ++ queue.released.map Prod.fst).Perm
        (queue.issued :: queue.tickets) := by
      rw [List.append_assoc]
      exact List.perm_middle
    refine ⟨?_, ?_⟩
    · apply moved.nodup_iff.mpr
      refine List.nodup_cons.mpr ⟨?_, sound.distinct⟩
      intro member
      exact absurd (sound.issued _ member) (Nat.lt_irrefl _)
    · intro ticket member
      rcases List.mem_cons.mp (moved.subset member) with rfl | old
      · exact Nat.lt_succ_self _
      · exact Nat.lt_succ_of_lt (sound.issued ticket old)

private theorem collect_sound (queue : Queue α) (ticket : Nat) (sound : queue.Sound) :
    (queue.collect ticket).Sound := by
  refine sound.of_subperm ?_ (Nat.le_refl _)
  apply List.Sublist.subperm
  exact (List.Sublist.refl _).append (List.filter_sublist.map _)

private theorem expire_sound (queue : Queue α) (ticket : Nat) (sound : queue.Sound) :
    (queue.expire ticket).2.Sound := by
  unfold expire
  split
  · exact collect_sound queue ticket sound
  · refine sound.of_subperm ?_ (Nat.le_refl _)
    apply List.Sublist.subperm
    exact List.filter_sublist.append (List.Sublist.refl _)

private theorem wakeAll_sound (queue : Queue α) (sound : queue.Sound) : queue.wakeAll.Sound := by
  refine sound.of_subperm ?_ (Nat.le_refl _)
  apply List.Perm.subperm
  simpa [tickets, wakeAll, Function.comp_def] using List.perm_append_comm

theorem step_sound [DecidableEq α] (queue : Queue α) (step : Step α) (sound : queue.Sound) :
    (queue.step step).2.Sound := by
  cases step with
  | enqueue object =>
    exact offer_sound queue object (fun entry pending => pending ++ [entry]) sound
  | enqueueUrgent object =>
    exact offer_sound queue object (fun entry pending => entry :: pending) sound
  | dequeue | deliver =>
    simp only [Queue.step, dequeue]
    cases queue.pending with
    | nil => exact sound
    | cons => exact sound.of_subperm (List.Subperm.refl _) (Nat.le_refl _)
  | wait => exact wait_sound queue sound
  | collect ticket =>
    simp only [Queue.step]
    split
    · exact collect_sound queue ticket sound
    · exact sound
  | expire ticket =>
    simp only [Queue.step]
    split
    · exact expire_sound queue ticket sound
    · exact sound
  | remove | clear => exact sound.of_subperm (List.Subperm.refl _) (Nat.le_refl _)
  | wakeAll => exact wakeAll_sound queue sound

@[simp] theorem steps_nil [DecidableEq α] (queue : Queue α) : queue.steps [] = ([], queue) := rfl

theorem steps_cons [DecidableEq α] (queue : Queue α) (first : Step α) (rest : List (Step α)) :
    queue.steps (first :: rest) =
      ((queue.step first).1 :: ((queue.step first).2.steps rest).1,
        ((queue.step first).2.steps rest).2) := rfl

theorem steps_append [DecidableEq α] (queue : Queue α) (first second : List (Step α)) :
    queue.steps (first ++ second) =
      ((queue.steps first).1 ++ ((queue.steps first).2.steps second).1,
        ((queue.steps first).2.steps second).2) := by
  induction first generalizing queue with
  | nil => rfl
  | cons step rest ih => simp only [List.cons_append, steps_cons, ih]

theorem steps_length [DecidableEq α] (queue : Queue α) (steps : List (Step α)) :
    (queue.steps steps).1.length = steps.length := by
  induction steps generalizing queue with
  | nil => rfl
  | cons step rest ih => simp only [steps_cons, List.length_cons, ih]

theorem steps_sound [DecidableEq α] (queue : Queue α) (steps : List (Step α))
    (sound : queue.Sound) : (queue.steps steps).2.Sound := by
  induction steps generalizing queue with
  | nil => exact sound
  | cons step rest ih => exact ih _ (step_sound queue step sound)

def Outcome.return? (ticket : Nat) : Outcome α → Option (Option (Entry α))
  | .returned other entry => if other = ticket then some entry else none
  | _ => none

theorem handed_iff (queue : Queue α) (sound : queue.Sound) (ticket : Nat)
    (entry : Option (Entry α)) :
    queue.handed? ticket = some entry ↔ (ticket, entry) ∈ queue.released := by
  have distinct : (queue.released.map Prod.fst).Nodup :=
    sound.distinct.sublist (List.sublist_append_right _ _)
  rw [handed?, List.lookup_eq_some_iff]
  constructor
  · rintro ⟨before, after, same, -⟩
    rw [same]
    simp
  · intro member
    obtain ⟨before, after, same⟩ := List.append_of_mem member
    refine ⟨before, after, same, ?_⟩
    intro row inside
    rw [same, List.map_append, List.map_cons] at distinct
    have apart := (List.nodup_append.mp distinct).2.2 row.1 (List.mem_map_of_mem inside) ticket
      (by simp)
    simpa using Ne.symm apart

def Spent (queue : Queue α) (ticket : Nat) : Prop :=
  ticket < queue.issued ∧ ticket ∉ queue.tickets

private theorem collect_spent (queue : Queue α) (sound : queue.Sound) (ticket : Nat)
    (entry : Option (Entry α)) (member : (ticket, entry) ∈ queue.released) :
    (queue.collect ticket).Spent ticket := by
  have listed : ticket ∈ queue.released.map Prod.fst := List.mem_map_of_mem member
  refine ⟨sound.issued ticket (List.mem_append_right _ listed), ?_⟩
  have apart := (List.nodup_append.mp sound.distinct).2.2
  simp only [tickets, collect, List.mem_append, not_or]
  refine ⟨fun blocked => apart ticket blocked ticket listed rfl, ?_⟩
  simp

/-- A consumer that was handed something keeps it until it returns, and returns with it. -/
theorem step_released [DecidableEq α] (queue : Queue α) (sound : queue.Sound) (step : Step α)
    (ticket : Nat) (entry : Option (Entry α)) (member : (ticket, entry) ∈ queue.released) :
    ((queue.step step).1.return? ticket = none ∧
        (ticket, entry) ∈ (queue.step step).2.released) ∨
      ((queue.step step).1.return? ticket = some entry ∧ (queue.step step).2.Spent ticket) := by
  have handed := (handed_iff queue sound ticket entry).mpr member
  have spent := collect_spent queue sound ticket entry member
  cases step with
  | enqueue object | enqueueUrgent object =>
    left
    simp only [Queue.step, enqueue, enqueueUrgent, offer, Outcome.return?, true_and]
    split <;> simp [member]
  | dequeue | deliver =>
    left
    simp only [Queue.step, dequeue, Outcome.return?, true_and]
    split <;> exact member
  | wait =>
    left
    simp only [Queue.step, wait, Outcome.return?, true_and]
    split <;> exact member
  | remove | clear => exact .inl ⟨rfl, member⟩
  | wakeAll =>
    left
    simp [Queue.step, wakeAll, Outcome.return?, member]
  | collect other =>
    by_cases same : other = ticket
    · subst other
      right
      simp only [Queue.step, handed, Outcome.return?, if_true, true_and]
      exact spent
    · left
      have kept : (ticket, entry) ∈ (queue.collect other).released := by
        simp [collect, member, Ne.symm same]
      simp only [Queue.step]
      split <;> simp [Outcome.return?, same, member, kept]
  | expire other =>
    by_cases same : other = ticket
    · subst other
      right
      simp only [Queue.step, expire, handed, Option.isSome_some, Bool.true_or, Outcome.return?,
        if_true, true_and]
      exact spent
    · left
      have kept : (ticket, entry) ∈ (queue.collect other).released := by
        simp [collect, member, Ne.symm same]
      simp only [Queue.step, expire]
      split
      · split <;> simp [Outcome.return?, same, member, kept]
      · exact ⟨rfl, member⟩

/-- No step makes up a ticket that was issued before. -/
theorem step_tickets [DecidableEq α] (queue : Queue α) (step : Step α) (ticket : Nat)
    (member : ticket ∈ (queue.step step).2.tickets) :
    ticket ∈ queue.tickets ∨ ticket = queue.issued := by
  cases step <;>
    simp only [Queue.step, enqueue, enqueueUrgent, offer, dequeue, wait, collect, expire, remove,
      clear, wakeAll, tickets] at member ⊢ <;> grind

theorem step_issued [DecidableEq α] (queue : Queue α) (step : Step α) :
    queue.issued ≤ (queue.step step).2.issued := by
  cases step <;>
    simp only [Queue.step, enqueue, enqueueUrgent, offer, dequeue, wait, collect, expire, remove,
      clear, wakeAll] <;> grind

theorem step_spent [DecidableEq α] (queue : Queue α) (step : Step α) (ticket : Nat)
    (spent : queue.Spent ticket) :
    (queue.step step).1.return? ticket = none ∧ (queue.step step).2.Spent ticket := by
  obtain ⟨issued, gone⟩ := spent
  have unreleased : queue.handed? ticket = none := by
    rw [handed?, List.lookup_eq_none_iff]
    intro row member
    have listed := List.mem_map_of_mem (f := Prod.fst) member
    simp only [bne_iff_ne, ne_eq]
    intro same
    exact gone (List.mem_append_right _ (same ▸ listed))
  have unblocked : ticket ∉ queue.waiting := fun blocked => gone (List.mem_append_left _ blocked)
  refine ⟨?_, ?_, ?_⟩
  · cases step with
    | collect other | expire other =>
      by_cases same : other = ticket
      · subst other
        simp [Queue.step, unreleased, unblocked, Outcome.return?]
      · simp only [Queue.step]
        split <;> simp [Outcome.return?, same]
    | _ => rfl
  · exact Nat.lt_of_lt_of_le issued (step_issued queue step)
  · intro member
    rcases step_tickets queue step ticket member with old | new
    · exact gone old
    · omega

def returnsOf (ticket : Nat) (outcomes : List (Outcome α)) : List (Option (Entry α)) :=
  outcomes.filterMap (Outcome.return? ticket)

theorem steps_spent [DecidableEq α] (queue : Queue α) (steps : List (Step α)) (ticket : Nat)
    (spent : queue.Spent ticket) :
    returnsOf ticket (queue.steps steps).1 = [] ∧ (queue.steps steps).2.Spent ticket := by
  induction steps generalizing queue with
  | nil => exact ⟨rfl, spent⟩
  | cons step rest ih =>
    obtain ⟨silent, after⟩ := step_spent queue step ticket spent
    obtain ⟨none, last⟩ := ih _ after
    refine ⟨?_, last⟩
    simp only [steps_cons, returnsOf, List.filterMap_cons, silent]
    exact none

/-- Over any steps a consumer that was handed something either keeps it or has returned, once, with
exactly that. -/
theorem steps_released [DecidableEq α] (queue : Queue α) (sound : queue.Sound)
    (steps : List (Step α)) (ticket : Nat) (entry : Option (Entry α))
    (member : (ticket, entry) ∈ queue.released) :
    (returnsOf ticket (queue.steps steps).1 = [] ∧
        (ticket, entry) ∈ (queue.steps steps).2.released) ∨
      (returnsOf ticket (queue.steps steps).1 = [entry] ∧
        (queue.steps steps).2.Spent ticket) := by
  induction steps generalizing queue with
  | nil => exact .inl ⟨rfl, member⟩
  | cons step rest ih =>
    simp only [steps_cons, returnsOf, List.filterMap_cons]
    rcases step_released queue sound step ticket entry member with ⟨silent, kept⟩ | ⟨told, spent⟩
    · rw [silent]
      exact ih _ (step_sound queue step sound) kept
    · obtain ⟨none, last⟩ := steps_spent _ rest ticket spent
      right
      rw [told]
      exact ⟨congrArg (entry :: ·) none, last⟩

end SocketLoop.Queue
