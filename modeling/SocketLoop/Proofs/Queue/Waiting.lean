import Mathlib.Data.List.Basic
import SocketLoop.Proofs.Queue.Conservation

/-! Who waits for a queue. Entries and blocked consumers are never there together, and those who
wait are the consumers that blocked and were neither served nor woken nor withdrawn, in the order in
which they blocked. -/
namespace SocketLoop.Queue

variable {α : Type}

/-- Not both an entry and a blocked consumer are there. -/
def Apart (queue : Queue α) : Prop := queue.pending = [] ∨ queue.waiting = []

theorem step_apart [DecidableEq α] (queue : Queue α) (apart : queue.Apart) (step : Step α) :
    (queue.step step).2.Apart := by
  cases step with
  | enqueue object | enqueueUrgent object =>
    simp only [Queue.step, enqueue, enqueueUrgent, offer]
    cases blocked : queue.waiting with
    | nil => exact .inr rfl
    | cons ticket rest =>
      have empty := apart.resolve_right (by simp [blocked])
      exact .inl empty
  | dequeue | deliver =>
    simp only [Queue.step, dequeue]
    cases head : queue.pending with
    | nil => exact .inl head
    | cons entry rest => exact .inr (apart.resolve_left (by simp [head]))
  | wait =>
    simp only [Queue.step, wait]
    cases head : queue.pending with
    | nil => exact .inl rfl
    | cons entry rest => exact .inr (apart.resolve_left (by simp [head]))
  | collect ticket =>
    simp only [Queue.step]
    split
    · exact apart
    · exact apart
  | expire ticket =>
    simp only [Queue.step, expire]
    cases queue.handed? ticket with
    | some entry => exact apart
    | none =>
      split
      · refine apart.imp_right ?_
        intro nobody
        show queue.waiting.filter _ = []
        rw [nobody]
        rfl
      · exact apart
  | remove object =>
    refine apart.imp_left ?_
    intro empty
    show queue.pending.eraseP _ = []
    rw [empty]
    rfl
  | clear => exact .inl rfl
  | wakeAll => exact .inr rfl

/-- The consumer that blocked in a step. -/
def Outcome.blocked? : Outcome α → Option Nat
  | .waited (.blocked ticket) => some ticket
  | _ => none

/-- The consumers that blocked in a run, in the order in which they did. -/
def blockedIn (outcomes : List (Outcome α)) : List Nat := outcomes.filterMap Outcome.blocked?

/-- Whether a consumer was neither served nor woken by the end of a run, nor has it returned. -/
def stays (run : List (Outcome α) × Queue α) (ticket : Nat) : Bool :=
  (run.2.handed? ticket).isNone && (returnsOf ticket run.1).isEmpty

theorem handed_none_iff (queue : Queue α) (ticket : Nat) :
    queue.handed? ticket = none ↔ ticket ∉ queue.released.map Prod.fst := by
  rw [handed?, List.lookup_eq_none_iff]
  simp only [bne_iff_ne, List.mem_map, not_exists, not_and]
  exact forall₂_congr fun row _ => ne_comm

theorem unhanded_of_waiting (queue : Queue α) (sound : queue.Sound) (ticket : Nat)
    (blocked : ticket ∈ queue.waiting) : queue.handed? ticket = none := by
  rw [handed_none_iff]
  intro listed
  exact (List.nodup_append.mp sound.distinct).2.2 ticket blocked ticket listed rfl

/-- A consumer that has returned is done with the queue. -/
theorem step_returned [DecidableEq α] (queue : Queue α) (sound : queue.Sound) (step : Step α)
    (ticket : Nat) (entry : Option (Entry α))
    (returned : (queue.step step).1.return? ticket = some entry) :
    (queue.step step).2.Spent ticket := by
  cases handed : queue.handed? ticket with
  | some answer =>
    have member := (handed_iff queue sound ticket answer).mp handed
    rcases step_released queue sound step ticket answer member with ⟨silent, -⟩ | ⟨-, spent⟩
    · rw [silent] at returned
      cases returned
    · exact spent
  | none =>
    have unlisted := (handed_none_iff queue ticket).mp handed
    cases step with
    | collect other =>
      by_cases same : other = ticket
      · subst same
        simp [Queue.step, handed, Outcome.return?] at returned
      · simp only [Queue.step] at returned
        split at returned <;> simp [Outcome.return?, same] at returned
    | expire other =>
      by_cases same : other = ticket
      · subst same
        by_cases blocked : other ∈ queue.waiting
        · have known := sound.issued other (List.mem_append_left _ blocked)
          refine ⟨?_, ?_⟩
          · simpa [Queue.step, expire, handed, blocked] using known
          · simpa [Queue.step, expire, handed, blocked, tickets] using unlisted
        · simp [Queue.step, handed, blocked, Outcome.return?] at returned
      · simp only [Queue.step] at returned
        split at returned <;> simp [Outcome.return?, same] at returned
    | _ => cases returned

theorem stays_of_waiting [DecidableEq α] (queue : Queue α) (sound : queue.Sound) (step : Step α)
    (ticket : Nat) (blocked : ticket ∈ (queue.step step).2.waiting) :
    stays ([(queue.step step).1], (queue.step step).2) ticket = true := by
  have unhanded := unhanded_of_waiting _ (step_sound queue step sound) ticket blocked
  cases returned : (queue.step step).1.return? ticket with
  | none => simp [stays, unhanded, returnsOf, returned]
  | some entry =>
    have spent := step_returned queue sound step ticket entry returned
    exact absurd (List.mem_append_left _ blocked) spent.2

theorem handed_of_released (queue : Queue α) (ticket : Nat)
    (listed : ticket ∈ queue.released.map Prod.fst) : (queue.handed? ticket).isNone = false := by
  rw [Option.isNone_eq_false_iff, Option.isSome_iff_ne_none, Ne, handed_none_iff]
  exact not_not_intro listed

/-- A step takes those out of the waiting that it serves, wakes or withdraws, and puts the one that
blocks behind them. -/
theorem step_waiting [DecidableEq α] (queue : Queue α) (sound : queue.Sound) (step : Step α) :
    (queue.step step).2.waiting =
      (queue.waiting ++ (queue.step step).1.blocked?.toList).filter
        (stays ([(queue.step step).1], (queue.step step).2)) := by
  have kept : (queue.step step).2.waiting.filter
      (stays ([(queue.step step).1], (queue.step step).2)) = (queue.step step).2.waiting :=
    List.filter_eq_self.mpr (stays_of_waiting queue sound step)
  rw [← kept]
  have freed : ∀ ticket, ticket ∈ (queue.step step).2.released.map Prod.fst →
      stays ([(queue.step step).1], (queue.step step).2) ticket = false := by
    intro ticket listed
    rw [stays, handed_of_released _ ticket listed, Bool.false_and]
  cases step with
  | enqueue object | enqueueUrgent object =>
    cases blocked : queue.waiting with
    | nil => simp [Queue.step, enqueue, enqueueUrgent, offer, blocked, Outcome.blocked?]
    | cons ticket rest =>
      have served := freed ticket (by simp [Queue.step, enqueue, enqueueUrgent, offer, blocked])
      simp only [Queue.step, enqueue, enqueueUrgent, offer, blocked] at served ⊢
      simp [Outcome.blocked?, served]
  | expire ticket =>
    cases handed : queue.handed? ticket with
    | some entry => simp [Queue.step, expire, handed, collect, Outcome.blocked?]
    | none =>
      by_cases blocked : ticket ∈ queue.waiting
      · have withdrawn : stays ([(queue.step (.expire ticket)).1], (queue.step (.expire ticket)).2)
            ticket = false := by
          simp [stays, Queue.step, expire, handed, blocked, returnsOf, Outcome.return?]
        have after : (queue.step (.expire ticket)).2.waiting =
            queue.waiting.filter fun other => other != ticket := by
          simp [Queue.step, expire, handed, blocked]
        have silent : (queue.step (.expire ticket)).1.blocked? = none := by
          simp [Queue.step, blocked, Outcome.blocked?]
        rw [after, silent, List.filter_filter, Option.toList_none, List.append_nil]
        refine List.filter_congr ?_
        intro other _
        by_cases same : other = ticket
        · rw [same, withdrawn, Bool.false_and]
        · simp [same]
      · simp [Queue.step, handed, blocked, Outcome.blocked?]
  | wakeAll =>
    have woken : ∀ ticket ∈ queue.waiting, stays ([(queue.step .wakeAll).1],
        (queue.step .wakeAll).2) ticket = false := by
      intro ticket blocked
      exact freed ticket (by simp [Queue.step, wakeAll, blocked])
    simp only [Queue.step, wakeAll, Outcome.blocked?, Option.toList_none, List.append_nil] at woken ⊢
    exact (List.filter_eq_nil_iff.mpr (by simpa using woken)).symm
  | wait =>
    simp only [Queue.step, wait]
    cases queue.pending <;> simp [Outcome.blocked?]
  | collect ticket =>
    simp only [Queue.step]
    cases queue.handed? ticket <;> simp [Outcome.blocked?, collect]
  | dequeue | deliver =>
    simp only [Queue.step, dequeue]
    cases queue.pending <;> simp [Outcome.blocked?]
  | remove object | clear => simp [Queue.step, remove, clear, Outcome.blocked?]

theorem step_blocked [DecidableEq α] (queue : Queue α) (step : Step α) (ticket : Nat)
    (blocked : (queue.step step).1.blocked? = some ticket) :
    ticket = queue.issued ∧ (queue.step step).2.issued = queue.issued + 1 := by
  cases step with
  | wait =>
    simp only [Queue.step, wait] at blocked ⊢
    cases head : queue.pending with
    | nil =>
      simp only [head, Outcome.blocked?, Option.some.injEq] at blocked
      exact ⟨blocked.symm, rfl⟩
    | cons entry rest =>
      rw [head] at blocked
      cases blocked
  | collect other | expire other =>
    simp only [Queue.step] at blocked
    split at blocked <;> cases blocked
  | _ => cases blocked

/-- Consumers that block are numbered one after the other. -/
theorem blockedIn_ordered [DecidableEq α] (queue : Queue α) (steps : List (Step α)) :
    (blockedIn (queue.steps steps).1).Pairwise (· < ·) ∧
      ∀ ticket ∈ blockedIn (queue.steps steps).1, queue.issued ≤ ticket := by
  induction steps generalizing queue with
  | nil => exact ⟨.nil, by simp [blockedIn]⟩
  | cons step rest ih =>
    obtain ⟨ordered, later⟩ := ih (queue.step step).2
    have grown := step_issued queue step
    rw [steps_cons, blockedIn, List.filterMap_cons]
    cases blocked : (queue.step step).1.blocked? with
    | none => exact ⟨ordered, fun ticket member => Nat.le_trans grown (later ticket member)⟩
    | some first =>
      obtain ⟨rfl, issued⟩ := step_blocked queue step first blocked
      refine ⟨List.pairwise_cons.mpr ⟨?_, ordered⟩, ?_⟩
      · intro ticket member
        have bound := later ticket member
        omega
      · intro ticket member
        rcases List.mem_cons.mp member with rfl | old
        · exact Nat.le_refl _
        · exact Nat.le_trans grown (later ticket old)

theorem stays_cons (outcome : Outcome α) (run : List (Outcome α) × Queue α) (ticket : Nat) :
    stays (outcome :: run.1, run.2) ticket =
      ((outcome.return? ticket).isNone && stays run ticket) := by
  simp only [stays, returnsOf, List.filterMap_cons]
  cases outcome.return? ticket <;> simp

/-- Whoever was released before has returned since, or still can. -/
theorem unhanded_of_stays [DecidableEq α] (queue : Queue α) (sound : queue.Sound)
    (steps : List (Step α)) (ticket : Nat) (still : stays (queue.steps steps) ticket = true) :
    queue.handed? ticket = none := by
  rw [Option.eq_none_iff_forall_ne_some]
  intro answer handed
  have member := (handed_iff queue sound ticket answer).mp handed
  rcases steps_released queue sound steps ticket answer member with ⟨-, kept⟩ | ⟨told, -⟩
  · have again := (handed_iff _ (steps_sound queue steps sound) ticket answer).mpr kept
    simp [stays, again] at still
  · simp [stays, told] at still

theorem steps_waiting [DecidableEq α] (queue : Queue α) (sound : queue.Sound)
    (steps : List (Step α)) :
    (queue.steps steps).2.waiting =
      (queue.waiting ++ blockedIn (queue.steps steps).1).filter (stays (queue.steps steps)) := by
  induction steps generalizing queue with
  | nil =>
    rw [steps_nil, blockedIn, List.filterMap_nil, List.append_nil]
    refine (List.filter_eq_self.mpr ?_).symm
    intro ticket blocked
    simp [stays, returnsOf, unhanded_of_waiting queue sound ticket blocked]
  | cons step rest ih =>
    have next := step_sound queue step sound
    have later := (blockedIn_ordered (queue.step step).2 rest).2
    have split : blockedIn (queue.steps (step :: rest)).1 =
        (queue.step step).1.blocked?.toList ++ blockedIn ((queue.step step).2.steps rest).1 := by
      rw [steps_cons, blockedIn, List.filterMap_cons]
      cases (queue.step step).1.blocked? <;> rfl
    have both : (fun ticket => stays ((queue.step step).2.steps rest) ticket &&
        stays ([(queue.step step).1], (queue.step step).2) ticket) =
          stays (queue.steps (step :: rest)) := by
      funext ticket
      rw [steps_cons, stays_cons _ ((queue.step step).2.steps rest),
        stays_cons _ ([], (queue.step step).2), Bool.and_comm]
      cases still : stays ((queue.step step).2.steps rest) ticket with
      | false => simp
      | true => simp [stays, returnsOf, unhanded_of_stays _ next rest ticket still]
    have new : ∀ ticket ∈ blockedIn ((queue.step step).2.steps rest).1,
        stays ((queue.step step).2.steps rest) ticket =
          stays (queue.steps (step :: rest)) ticket := by
      intro ticket blocked
      rw [steps_cons, stays_cons _ ((queue.step step).2.steps rest)]
      cases returned : (queue.step step).1.return? ticket with
      | none => rfl
      | some entry =>
        -- whoever returns has a ticket that was issued before
        have spent := (step_returned queue sound step ticket entry returned).1
        exact absurd (later ticket blocked) (Nat.not_le.mpr spent)
    have after : (queue.steps (step :: rest)).2 = ((queue.step step).2.steps rest).2 := rfl
    rw [after, ih _ next, List.filter_append, step_waiting queue sound step, List.filter_filter,
      both, List.filter_congr new, ← List.filter_append, split, List.append_assoc]

/-- Those who wait are told by what was done to the queue. -/
structure Settled (run : List (Outcome α) × Queue α) : Prop where
  apart : run.2.Apart
  waiting : run.2.waiting = (blockedIn run.1).filter (stays run)
  ordered : (blockedIn run.1).Pairwise (· < ·)

theorem steps_apart [DecidableEq α] (queue : Queue α) (apart : queue.Apart)
    (steps : List (Step α)) : (queue.steps steps).2.Apart := by
  induction steps generalizing queue with
  | nil => exact apart
  | cons step rest ih => exact ih _ (step_apart queue apart step)

theorem steps_settled [DecidableEq α] (steps : List (Step α)) :
    Settled (({} : Queue α).steps steps) where
  apart := steps_apart {} (.inl rfl) steps
  waiting := steps_waiting {} sound_empty steps
  ordered := (blockedIn_ordered {} steps).1

theorem handed_wakeAll (queue : Queue α) [DecidableEq α] (sound : queue.Sound) (ticket : Nat)
    (answer : Option (Entry α)) : queue.wakeAll.handed? ticket = some answer ↔
      queue.handed? ticket = some answer ∨ ticket ∈ queue.waiting ∧ answer = none := by
  have woken : queue.wakeAll.Sound := step_sound queue .wakeAll sound
  rw [handed_iff _ woken, handed_iff queue sound]
  simp [wakeAll, eq_comm]

theorem outcomes_after [DecidableEq α] (steps : List (Step α)) :
    (after steps).outside.map Prod.snd = (({} : Queue α).steps steps).1 :=
  List.map_snd_zip (Nat.le_of_eq (steps_length _ steps))

theorem expire_of_waiting [DecidableEq α] (queue : Queue α) (sound : queue.Sound) (ticket : Nat)
    (blocked : ticket ∈ queue.waiting) :
    (queue.step (.expire ticket)).1 = .returned ticket none := by
  have unhanded := unhanded_of_waiting queue sound ticket blocked
  simp [Queue.step, expire, unhanded, blocked]

/-- At every point of every run nobody waits while an entry is pending, and those who wait are the
consumers that blocked and were neither served nor woken nor withdrawn, each once, in the order in
which they blocked. Waking releases just them, with nothing, and a consumer whose time was up gets
nothing any more. Dispatches whose callbacks act on the queue keep to that. -/
theorem waiting_are_the_blocked [DecidableEq α] (steps : List (Step α)) :
    let run := ({} : Queue α).steps steps
    Settled run ∧
    (run.2.pending ≠ [] → ∀ ticket ∈ blockedIn run.1, stays run ticket = false) ∧
    (run.2.hasIdle = true ↔ ∃ ticket ∈ blockedIn run.1, stays run ticket = true) ∧
    (run.2.wakeAll.waiting = [] ∧ run.2.wakeAll.pending = run.2.pending ∧
      ∀ ticket answer, run.2.wakeAll.handed? ticket = some answer ↔
        run.2.handed? ticket = some answer ∨ ticket ∈ run.2.waiting ∧ answer = none) ∧
    (∀ ticket ∈ run.2.waiting, (run.2.step (.expire ticket)).1 = .returned ticket none) ∧
    (∀ ticket entry, (run.2.step (.expire ticket)).1 = .returned ticket entry →
      ∀ later, let last := (run.2.step (.expire ticket)).2.steps later
        returnsOf ticket last.1 = [] ∧ last.2.handed? ticket = none ∧ ticket ∉ last.2.waiting) ∧
    ∀ call, ActsBySteps call → ∀ fuel,
      let site := dispatch (noting call) fuel (after steps)
      Settled (site.outside.map Prod.snd, site.queue) := by
  intro run
  have settled := steps_settled steps
  have sound := steps_sound {} steps (sound_empty (α := α))
  refine ⟨settled, ?_, ?_, ⟨rfl, rfl, handed_wakeAll _ sound⟩, expire_of_waiting _ sound, ?_, ?_⟩
  · intro some
    have nobody := settled.waiting.symm.trans (settled.apart.resolve_left some)
    simpa using List.filter_eq_nil_iff.mp nobody
  · rw [hasIdle, settled.waiting, Bool.not_eq_true', List.isEmpty_eq_false_iff_exists_mem]
    simp only [List.mem_filter]
    exact Iff.rfl
  · intro ticket entry returned later
    have told : (run.2.step (.expire ticket)).1.return? ticket = some entry := by
      rw [returned]
      exact if_pos rfl
    have spent := step_returned run.2 sound (.expire ticket) ticket entry told
    obtain ⟨silent, -, gone⟩ := steps_spent _ later ticket spent
    refine ⟨silent, ?_, fun blocked => gone (List.mem_append_left _ blocked)⟩
    exact (handed_none_iff _ ticket).mpr fun listed => gone (List.mem_append_right _ listed)
  · intro call acts fuel
    obtain ⟨more, last⟩ := dispatch_acts call acts fuel steps
    have settled := steps_settled (steps ++ more)
    rw [last]
    dsimp only
    rwa [outcomes_after]

/-- Of three consumers one is served and one gives up; the entry after that is for the third, and
the next one stays until a dispatch takes it, whose callback queues another. -/
theorem waiting_are_the_blocked_withdrawn :
    let steps : List (Step Nat) := [.wait, .wait, .wait, .enqueue 7]
    let run := ({} : Queue Nat).steps steps
    let later : List (Step Nat) := [.enqueue 8, .enqueueUrgent 9, .wakeAll]
    let last := (run.2.step (.expire 1)).2.steps later
    let all := steps ++ .expire 1 :: later
    let call (_ : Entry Nat) (site : Site Nat (Chronicle Nat)) : Site Nat (Chronicle Nat) :=
      ⟨(site.queue.step (.enqueue 6)).2,
        site.outside ++ [(.enqueue 6, (site.queue.step (.enqueue 6)).1)]⟩
    let dispatched := dispatch (noting call) 3 (after all)
    run.2.waiting = [1, 2] ∧ (run.2.step (.expire 1)).1 = .returned 1 none ∧
      last.2.released = [(0, some ⟨0, 7⟩), (2, some ⟨1, 8⟩)] ∧ last.2.pending ≠ [] ∧
      returnsOf 1 last.1 = [] ∧ stays (({} : Queue Nat).steps all) 2 = false ∧
      dispatched.queue.pending = [⟨5, 6⟩] ∧
      Settled (dispatched.outside.map Prod.snd, dispatched.queue) := by
  intro steps run later last all call dispatched
  obtain ⟨-, -, -, -, times, gone, -⟩ := waiting_are_the_blocked steps
  obtain ⟨-, nobody, -, -, -, -, dispatches⟩ := waiting_are_the_blocked all
  have expired := times 1 (by decide)
  have acts : ActsBySteps call :=
    fun _ steps => ⟨[.enqueue 6], (after_step steps (.enqueue 6)).symm⟩
  refine ⟨by decide, expired, by decide, by decide, (gone 1 none expired later).1, ?_, by decide, ?_⟩
  · exact nobody (by decide) 2 (by decide)
  · exact dispatches call acts 3

end SocketLoop.Queue
