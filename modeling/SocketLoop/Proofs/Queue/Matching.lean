import SocketLoop.Proofs.Queue.Waiting

/-! Handing entries straight to consumers against queueing every one of them. A line is a queue that
hands over nothing on the way: entries join the pending ones and consumers the blocked ones whatever
is there, and after every step the two lists meet. -/
namespace SocketLoop.Queue

variable {α : Type}

structure Line (α : Type) where
  entries : List (Entry α) := []
  /-- Tickets of blocked consumers, the longest blocked first. -/
  blocked : List Nat := []
  /-- Tickets whose consumers may return, and with what. -/
  freed : List (Nat × Option (Entry α)) := []
  entered : Nat := 0
  issued : Nat := 0

/-- While an entry and a blocked consumer are there, the one blocked longest takes the head: who
took what, who stays blocked and what stays pending. -/
def meeting : List Nat → List (Entry α) → List (Nat × Option (Entry α)) × List Nat × List (Entry α)
  | ticket :: blocked, entry :: entries =>
    let (taken, rest) := meeting blocked entries
    ((ticket, some entry) :: taken, rest)
  | blocked, entries => ([], blocked, entries)

def Line.meet (line : Line α) : Line α :=
  let (taken, blocked, entries) := meeting line.blocked line.entries
  { line with entries, blocked, freed := line.freed ++ taken }

def Line.collect (line : Line α) (ticket : Nat) : Line α :=
  { line with freed := line.freed.filter fun row => row.1 != ticket }

/-- What a step does by itself, before the entries and the consumers meet. -/
def Line.act [DecidableEq α] (line : Line α) : Step α → Outcome α × Line α
  | .enqueue object =>
    (.entered line.entered,
      { line with
        entries := line.entries ++ [⟨line.entered, object⟩]
        entered := line.entered + 1 })
  | .enqueueUrgent object =>
    (.entered line.entered,
      { line with
        entries := ⟨line.entered, object⟩ :: line.entries
        entered := line.entered + 1 })
  | .dequeue => (.dequeued line.entries.head?, { line with entries := line.entries.tail })
  | .deliver => (.delivered line.entries.head?, { line with entries := line.entries.tail })
  | .wait =>
    (.waited (.blocked line.issued),
      { line with blocked := line.blocked ++ [line.issued], issued := line.issued + 1 })
  | .collect ticket =>
    match line.freed.lookup ticket with
    | some answer => (.returned ticket answer, line.collect ticket)
    | none => (.unchanged, line)
  | .expire ticket =>
    match line.freed.lookup ticket with
    | some answer => (.returned ticket answer, line.collect ticket)
    | none =>
      if ticket ∈ line.blocked then
        (.returned ticket none, { line with blocked := line.blocked.erase ticket })
      else (.unchanged, line)
  | .remove object =>
    (.removed (line.entries.find? fun entry => entry.object = object),
      { line with entries := line.entries.eraseP fun entry => entry.object = object })
  | .clear => (.cleared line.entries, { line with entries := [] })
  | .wakeAll =>
    (.woken line.blocked,
      { line with
        blocked := []
        freed := line.freed ++ line.blocked.map fun ticket => (ticket, none) })

/-- A consumer that got an entry in the step in which it came never blocked: it returns in that step
and its ticket is for the next one to come. -/
def Line.tell (line : Line α) : Outcome α → Outcome α × Line α
  | .waited (.blocked ticket) =>
    match line.freed.lookup ticket with
    | some (some entry) =>
      (.waited (.took entry), { line.collect ticket with issued := ticket })
    | _ => (.waited (.blocked ticket), line)
  | outcome => (outcome, line)

def Line.step [DecidableEq α] (line : Line α) (step : Step α) : Outcome α × Line α :=
  (line.act step).2.meet.tell (line.act step).1

def Line.steps [DecidableEq α] (line : Line α) : List (Step α) → List (Outcome α) × Line α
  | [] => ([], line)
  | first :: rest =>
    let (outcome, after) := line.step first
    let (outcomes, last) := after.steps rest
    (outcome :: outcomes, last)

/-- A queue read as a line. -/
def line (queue : Queue α) : Line α :=
  ⟨queue.pending, queue.waiting, queue.released, queue.entered, queue.issued⟩

@[simp] theorem meeting_nil_left (entries : List (Entry α)) :
    meeting [] entries = ([], [], entries) := rfl

@[simp] theorem meeting_nil_right (blocked : List Nat) :
    meeting blocked ([] : List (Entry α)) = ([], blocked, []) := by
  cases blocked <;> rfl

/-- Where entries and consumers are apart nothing is left to meet. -/
theorem meet_of_apart (queue : Queue α) (apart : queue.Apart) : queue.line.meet = queue.line := by
  rcases apart with none | nobody
  · simp [Line.meet, line, none]
  · simp [Line.meet, line, nobody]

theorem step_of_act [DecidableEq α] (queue : Queue α) (apart : queue.Apart) (step : Step α)
    (silent : (queue.step step).1.blocked? = none)
    (same : queue.line.act step = ((queue.step step).1, (queue.step step).2.line)) :
    queue.line.step step = ((queue.step step).1, (queue.step step).2.line) := by
  rw [Line.step, same, meet_of_apart _ (step_apart queue apart step)]
  unfold Line.tell
  split
  · next ticket blocked =>
    have outcome : (queue.step step).1 = .waited (.blocked ticket) := blocked
    rw [outcome] at silent
    cases silent
  · rfl

/-- To append an entry and let it meet the consumers is to hand it to the first of them. -/
theorem meet_offer (queue : Queue α) (apart : queue.Apart) (object : α)
    (place : Entry α → List (Entry α) → List (Entry α))
    (alone : ∀ entry, place entry [] = [entry]) :
    { queue.line with
      entries := place ⟨queue.entered, object⟩ queue.pending
      entered := queue.entered + 1 : Line α }.meet = (queue.offer object place).line := by
  unfold offer
  cases blocked : queue.waiting with
  | nil => simp [Line.meet, line, blocked]
  | cons ticket rest =>
    have empty := apart.resolve_right (by simp [blocked])
    simp [Line.meet, line, blocked, empty, alone, meeting]

theorem step_wait [DecidableEq α] (queue : Queue α) (sound : queue.Sound) (apart : queue.Apart) :
    queue.line.step .wait = ((queue.step .wait).1, (queue.step .wait).2.line) := by
  have unlisted : queue.issued ∉ queue.released.map Prod.fst := by
    intro listed
    exact absurd (sound.issued _ (List.mem_append_right _ listed)) (Nat.lt_irrefl _)
  have unhanded : queue.released.lookup queue.issued = none :=
    (handed_none_iff queue queue.issued).mpr unlisted
  simp only [Line.step, Line.act, Queue.step, wait]
  cases head : queue.pending with
  | nil => simp [Line.meet, Line.tell, line, head, unhanded]
  | cons entry rest =>
    have nobody := apart.resolve_left (by simp [head])
    have kept : (queue.released.filter fun row => row.1 != queue.issued) = queue.released := by
      refine List.filter_eq_self.mpr ?_
      intro row member
      have other : row.1 ≠ queue.issued := fun same => unlisted (same ▸ List.mem_map_of_mem member)
      simpa using other
    simp [Line.meet, Line.tell, Line.collect, line, meeting, head, nobody, unhanded, kept,
      List.lookup_append]

theorem dequeue_eq (queue : Queue α) :
    queue.dequeue = (queue.pending.head?, { queue with pending := queue.pending.tail }) := by
  obtain ⟨pending, waiting, released, entered, issued⟩ := queue
  cases pending <;> rfl

/-- One step of a queue is one step of the line it reads as, with the same outcome. -/
theorem line_step [DecidableEq α] (queue : Queue α) (sound : queue.Sound) (apart : queue.Apart)
    (step : Step α) : queue.line.step step = ((queue.step step).1, (queue.step step).2.line) := by
  cases step with
  | enqueue object =>
    have met := meet_offer queue apart object (fun entry pending => pending ++ [entry]) fun _ => rfl
    exact congrArg (Prod.mk _) met
  | enqueueUrgent object =>
    have met := meet_offer queue apart object (fun entry pending => entry :: pending) fun _ => rfl
    exact congrArg (Prod.mk _) met
  | wait => exact step_wait queue sound apart
  | dequeue | deliver =>
    refine step_of_act queue apart _ rfl ?_
    simp only [Queue.step, dequeue_eq]
    rfl
  | collect ticket =>
    have silent : (queue.step (.collect ticket)).1.blocked? = none := by
      simp only [Queue.step]
      split <;> rfl
    refine step_of_act queue apart _ silent ?_
    simp only [Line.act, Queue.step]
    rw [show queue.line.freed.lookup ticket = queue.handed? ticket from rfl]
    cases queue.handed? ticket <;> rfl
  | expire ticket =>
    have silent : (queue.step (.expire ticket)).1.blocked? = none := by
      simp only [Queue.step]
      split <;> rfl
    refine step_of_act queue apart _ silent ?_
    have once : queue.waiting.Nodup := (List.nodup_append.mp sound.distinct).1
    simp only [Line.act, Queue.step, expire]
    rw [show queue.line.freed.lookup ticket = queue.handed? ticket from rfl]
    cases queue.handed? ticket with
    | some answer => rfl
    | none =>
      by_cases blocked : ticket ∈ queue.waiting <;> simp [line, blocked, once.erase_eq_filter]
  | remove object | clear | wakeAll => exact step_of_act queue apart _ rfl rfl

theorem line_steps [DecidableEq α] (queue : Queue α) (sound : queue.Sound) (apart : queue.Apart)
    (steps : List (Step α)) :
    queue.line.steps steps = ((queue.steps steps).1, (queue.steps steps).2.line) := by
  induction steps generalizing queue with
  | nil => rfl
  | cons step rest ih =>
    have later := ih _ (step_sound queue step sound) (step_apart queue apart step)
    simp only [Line.steps, line_step queue sound apart step, later]
    rfl

/-- Over every run a queue that hands entries straight to blocked consumers and one that queues them
all first tell the same of every step, and every consumer is released with the same, at the same
step. -/
theorem handoff_is_queueing [DecidableEq α] (steps : List (Step α)) :
    ({} : Line α).steps steps =
      ((({} : Queue α).steps steps).1, (({} : Queue α).steps steps).2.line) :=
  line_steps {} sound_empty (.inl rfl) steps

end SocketLoop.Queue
