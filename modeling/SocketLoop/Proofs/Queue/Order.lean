import Mathlib.Data.List.Basic
import SocketLoop.Proofs.Queue.Deliveries

/-! The order of entries. What is pending is a line: urgent entries join it in front, plain ones
behind, and whoever is served gets its head. So of two entries that stood in line together the one in
front reaches somebody first, whatever is taken out of the middle. -/
namespace SocketLoop.Queue

variable {α : Type}

def Step.isUrgent : Step α → Bool
  | .enqueueUrgent _ => true
  | _ => false

/-- The urgent or the plain entries that a step makes. -/
def Step.arrival (urgent : Bool) (number : Nat) (step : Step α) : List (Entry α) :=
  if step.isUrgent = urgent then step.made number else []

def arrivalsFrom (urgent : Bool) : Nat → List (Step α) → List (Entry α)
  | _, [] => []
  | number, step :: rest =>
    step.arrival urgent number ++ arrivalsFrom urgent (number + (step.made number).length) rest

theorem take_line [DecidableEq α] (queue : Queue α) (step : Step α)
    (takes : step = .dequeue ∨ step = .deliver ∨ step = .wait) (more : List (Entry α)) :
    (queue.reached step ++ (queue.step step).2.pending).Sublist (queue.pending ++ more) := by
  obtain ⟨head, tail⟩ := reached_take queue step takes
  rw [head, tail]
  cases queue.pending <;> simp

/-- Of the entries that are no urgent newcomers, those that reach somebody with a step and those
pending after it stand in line as before. -/
theorem step_line [DecidableEq α] (queue : Queue α) (apart : queue.Apart) (step : Step α)
    (old : Entry α → Bool) (new : ∀ entry ∈ step.arrival true queue.entered, old entry = false) :
    ((queue.reached step ++ (queue.step step).2.pending).filter old).Sublist
      ((queue.pending ++ step.arrival false queue.entered).filter old) := by
  cases step with
  | enqueue object =>
    rw [reached_enter queue object _ (.inl rfl)]
    simp only [Queue.step, enqueue, offer, Step.arrival, Step.isUrgent, Step.made, if_true]
    cases blocked : queue.waiting with
    | nil => simp
    | cons ticket rest =>
      have empty := apart.resolve_right (by simp [blocked])
      simp [empty]
  | enqueueUrgent object =>
    have urgent : old ⟨queue.entered, object⟩ = false := new _ (by simp [Step.arrival, Step.isUrgent,
      Step.made])
    rw [reached_enter queue object _ (.inr rfl)]
    simp only [Queue.step, enqueueUrgent, offer, Step.arrival, Step.isUrgent]
    cases blocked : queue.waiting with
    | nil => simp [urgent]
    | cons ticket rest =>
      have empty := apart.resolve_right (by simp [blocked])
      simp [empty, urgent]
  | dequeue | deliver | wait =>
    exact List.Sublist.filter old (take_line queue _ (by simp) _)
  | collect ticket | expire ticket =>
    refine List.Sublist.filter old ?_
    simp only [reached, Queue.step, expire, collect]
    grind
  | remove object =>
    refine List.Sublist.filter old ?_
    exact (List.eraseP_sublist).trans (List.sublist_append_left _ _)
  | clear => exact (List.nil_sublist _).filter old
  | wakeAll => exact (List.sublist_append_left _ _).filter old

/-- Over a run the entries that are no urgent newcomers reach somebody, or stay, in line. -/
theorem steps_line [DecidableEq α] (queue : Queue α) (apart : queue.Apart) (steps : List (Step α))
    (old : Entry α → Bool)
    (new : ∀ entry ∈ arrivalsFrom true queue.entered steps, old entry = false) :
    ((queue.deliveries steps ++ (queue.steps steps).2.pending).filter old).Sublist
      ((queue.pending ++ arrivalsFrom false queue.entered steps).filter old) := by
  induction steps generalizing queue with
  | nil => simp [deliveries, arrivalsFrom]
  | cons step rest ih =>
    simp only [arrivalsFrom, ← step_entered, List.mem_append] at new ⊢
    have first := step_line queue apart step old fun entry now => new entry (.inl now)
    have others := ih _ (step_apart queue apart step) fun entry later => new entry (.inr later)
    simp only [deliveries, steps_cons, List.filter_append] at first others ⊢
    rw [List.append_assoc]
    refine (others.append_left _).trans ?_
    rw [← List.append_assoc, ← List.append_assoc]
    exact first.append_right _

theorem step_pending [DecidableEq α] (queue : Queue α) (step : Step α) :
    (queue.step step).2.pending.Sublist
      (step.arrival true queue.entered ++ queue.pending ++ step.arrival false queue.entered) := by
  cases step with
  | enqueue object | enqueueUrgent object =>
    simp only [Queue.step, enqueue, enqueueUrgent, offer, Step.arrival, Step.isUrgent, Step.made]
    cases queue.waiting <;> simp
  | dequeue | deliver | wait =>
    rw [(reached_take queue _ (by simp)).2]
    simpa [Step.arrival, Step.made] using List.tail_sublist queue.pending
  | collect ticket | expire ticket =>
    simp only [Queue.step, expire, collect]
    grind [Step.arrival, Step.made]
  | remove object =>
    have fewer : (queue.step (.remove object)).2.pending.Sublist queue.pending :=
      List.eraseP_sublist
    simpa [Step.arrival, Step.made] using fewer
  | clear => exact List.nil_sublist _
  | wakeAll => simp [Queue.step, wakeAll, Step.arrival, Step.made]

theorem arrival_reverse (step : Step α) (urgent : Bool) (number : Nat) :
    (step.arrival urgent number).reverse = step.arrival urgent number := by
  unfold Step.arrival
  split
  · cases step <;> rfl
  · rfl

theorem steps_pending [DecidableEq α] (queue : Queue α) (steps : List (Step α)) :
    (queue.steps steps).2.pending.Sublist
      ((arrivalsFrom true queue.entered steps).reverse ++ queue.pending ++
        arrivalsFrom false queue.entered steps) := by
  induction steps generalizing queue with
  | nil => simp [arrivalsFrom]
  | cons step rest ih =>
    simp only [steps_cons, arrivalsFrom, ← step_entered, List.reverse_append, arrival_reverse]
    refine (ih _).trans ?_
    have grown := (step_pending queue step).append_left
      (arrivalsFrom true (queue.step step).2.entered rest).reverse
    simpa only [List.append_assoc] using
      grown.append_right (arrivalsFrom false (queue.step step).2.entered rest)

theorem arrivalsFrom_sublist (urgent : Bool) (number : Nat) (steps : List (Step α)) :
    (arrivalsFrom urgent number steps).Sublist (entriesFrom number steps) := by
  induction steps generalizing number with
  | nil => exact List.Sublist.refl _
  | cons step rest ih =>
    refine List.Sublist.append ?_ (ih _)
    unfold Step.arrival
    split
    · exact List.Sublist.refl _
    · exact List.nil_sublist _

theorem arrival_perm (number : Nat) (step : Step α) :
    (step.arrival true number ++ step.arrival false number).Perm (step.made number) := by
  cases step <;> simp [Step.arrival, Step.isUrgent, Step.made]

/-- Every entry is an urgent or a plain one. -/
theorem arrivalsFrom_perm (number : Nat) (steps : List (Step α)) :
    (arrivalsFrom true number steps ++ arrivalsFrom false number steps).Perm
      (entriesFrom number steps) := by
  induction steps generalizing number with
  | nil => exact List.Perm.refl _
  | cons step rest ih =>
    refine List.Perm.trans ?_ ((arrival_perm number step).append (ih _))
    simp only [arrivalsFrom, List.append_assoc]
    refine List.Perm.append_left _ ?_
    simp only [← List.append_assoc]
    exact List.perm_append_comm.append_right _

/-- Entries are numbered as they come. -/
theorem entriesFrom_ordered (number : Nat) (steps : List (Step α)) :
    (entriesFrom number steps).Pairwise fun first second => first.number < second.number := by
  induction steps generalizing number with
  | nil => exact .nil
  | cons step rest ih =>
    refine List.pairwise_append.mpr ⟨?_, ih _, ?_⟩
    · cases step <;> simp [Step.made]
    · intro first now second later
      have below := (made_bounds step number first now).2
      have above := entriesFrom_ge rest _ second later
      omega

theorem steps_entered [DecidableEq α] (queue : Queue α) (steps : List (Step α)) :
    (queue.steps steps).2.entered = queue.entered + (entriesFrom queue.entered steps).length := by
  induction steps generalizing queue with
  | nil => rfl
  | cons step rest ih =>
    rw [steps_cons, ih, step_entered, entriesFrom, List.length_append, Nat.add_assoc]

theorem entriesFrom_append (number : Nat) (first second : List (Step α)) :
    entriesFrom number (first ++ second) = entriesFrom number first ++
      entriesFrom (number + (entriesFrom number first).length) second := by
  induction first generalizing number with
  | nil => rfl
  | cons step rest ih =>
    simp only [List.cons_append, entriesFrom, ih, List.append_assoc, List.length_append,
      Nat.add_assoc]

/-- The entries of a run in line: urgent ones, the newest first, then plain ones, the oldest first. -/
def lineUp (steps : List (Step α)) : List (Entry α) :=
  (arrivalsFrom true 0 steps).reverse ++ arrivalsFrom false 0 steps

/-- The entries that a run handed to a consumer, gave away or dropped. -/
def departed (run : List (Outcome α) × Queue α) : List (Entry α) :=
  run.2.released.filterMap Prod.snd ++ (endsFrom 0 run.1).map Prod.snd

/-- Of two entries the first does not stay in line when the other reaches somebody, and if both do
it is first. -/
def Precedes [DecidableEq α] (steps : List (Step α)) (one other : Entry α) : Prop :=
  other ∈ ({} : Queue α).deliveries steps →
    one ∉ (({} : Queue α).steps steps).2.pending ∧
      (one ∈ ({} : Queue α).deliveries steps →
        [one, other].Sublist (({} : Queue α).deliveries steps))

/-- The line of a run. -/
structure Ordered [DecidableEq α] (steps : List (Step α)) : Prop where
  pending : (({} : Queue α).steps steps).2.pending =
    (lineUp steps).filter fun entry => entry ∉ departed (({} : Queue α).steps steps)
  once : (({} : Queue α).deliveries steps).Nodup
  reached : ∀ entry, entry ∈ ({} : Queue α).deliveries steps ↔
    ∃ fate, (fate, entry) ∈ fates (({} : Queue α).steps steps) ∧ fate.reaches = true
  plain : ((({} : Queue α).deliveries steps).filter
    fun entry => entry ∈ arrivalsFrom false 0 steps).Sublist (arrivalsFrom false 0 steps)
  /-- An urgent entry that finds nobody blocked precedes all that is pending then. -/
  urgent : ∀ first object second, steps = first ++ .enqueueUrgent object :: second →
    (({} : Queue α).steps first).2.waiting = [] →
    ∀ entry ∈ (({} : Queue α).steps first).2.pending,
      Precedes steps ⟨(({} : Queue α).steps first).2.entered, object⟩ entry
  /-- Of two urgent entries that are pending together the newer one precedes. -/
  newest : ∀ first second, steps = first ++ second →
    ∀ one ∈ (({} : Queue α).steps first).2.pending, one ∈ arrivalsFrom true 0 first →
    ∀ other ∈ (({} : Queue α).steps first).2.pending, other ∈ arrivalsFrom true 0 first →
      other.number < one.number → Precedes steps one other

theorem pending_departed_perm [DecidableEq α] (steps : List (Step α)) :
    ((({} : Queue α).steps steps).2.pending ++ departed (({} : Queue α).steps steps)).Perm
      (entriesFrom 0 steps) := by
  have conserved := fates_perm steps
  rwa [fates, List.map_append, held_entries, List.append_assoc] at conserved

theorem lineUp_perm (steps : List (Step α)) : (lineUp steps).Perm (entriesFrom 0 steps) :=
  ((List.reverse_perm _).append_right _).trans (arrivalsFrom_perm 0 steps)

theorem pending_lineUp [DecidableEq α] (steps : List (Step α)) :
    (({} : Queue α).steps steps).2.pending.Sublist (lineUp steps) := by
  have inside := steps_pending ({} : Queue α) steps
  rwa [List.append_nil] at inside

theorem pending_eq [DecidableEq α] (steps : List (Step α)) :
    (({} : Queue α).steps steps).2.pending =
      (lineUp steps).filter fun entry => entry ∉ departed (({} : Queue α).steps steps) := by
  have account := pending_departed_perm steps
  have apart := (List.nodup_append.mp (account.nodup_iff.mpr (entriesFrom_nodup steps 0))).2.2
  have still : ∀ entry ∈ (({} : Queue α).steps steps).2.pending,
      entry ∉ departed (({} : Queue α).steps steps) :=
    fun entry pending gone => apart entry pending entry gone rfl
  have inside := (pending_lineUp steps).filter
    fun entry => entry ∉ departed (({} : Queue α).steps steps)
  rw [List.filter_eq_self.mpr (by simpa using still)] at inside
  refine inside.eq_of_length_le (List.Subperm.length_le ?_)
  have once := (lineUp_perm steps).nodup_iff.mpr (entriesFrom_nodup steps 0)
  refine List.subperm_of_subset (once.filter _) ?_
  intro entry member
  obtain ⟨made, stays⟩ := List.mem_filter.mp member
  have known := account.mem_iff.mpr ((lineUp_perm steps).mem_iff.mp made)
  exact (List.mem_append.mp known).resolve_right (by simpa using stays)

theorem pair_of_mem {β : Type} {line : List β} {one other : β} (distinct : one ≠ other)
    (first : one ∈ line) (second : other ∈ line) :
    [one, other].Sublist line ∨ [other, one].Sublist line := by
  obtain ⟨before, behind, rfl⟩ := List.append_of_mem first
  rcases List.mem_append.mp second with front | back
  · have own : [one].Sublist (one :: behind) := List.singleton_sublist.mpr List.mem_cons_self
    exact .inr ((List.singleton_sublist.mpr front).append own)
  · have rest := List.singleton_sublist.mpr ((List.mem_cons.mp back).resolve_left distinct.symm)
    exact .inl ((rest.cons_cons one).trans (List.sublist_append_right _ _))

theorem not_both_ways {β : Type} {line : List β} {one other : β} (once : line.Nodup)
    (forth : [one, other].Sublist line) : ¬ [other, one].Sublist line := by
  intro back
  induction line with
  | nil => cases forth
  | cons first rest ih =>
    obtain ⟨new, once⟩ := List.nodup_cons.mp once
    cases forth with
    | cons _ forth =>
      cases back with
      | cons _ back => exact ih once forth back
      | cons_cons _ back => exact new (forth.subset (by simp))
    | cons_cons _ forth =>
      cases back with
      | cons _ back => exact new (back.subset (by simp))
      | cons_cons _ back => exact new (List.singleton_sublist.mp forth)

theorem pending_nodup [DecidableEq α] (steps : List (Step α)) :
    (({} : Queue α).steps steps).2.pending.Nodup :=
  ((lineUp_perm steps).nodup_iff.mpr (entriesFrom_nodup steps 0)).sublist (pending_lineUp steps)

/-- Entries that come later were not pending before. -/
theorem not_pending_of_later [DecidableEq α] (first second : List (Step α)) (entry : Entry α)
    (later : entry ∈ entriesFrom (({} : Queue α).steps first).2.entered second) :
    entry ∉ (({} : Queue α).steps first).2.pending := by
  have once := entriesFrom_nodup (first ++ second) 0
  rw [entriesFrom_append] at once
  rw [steps_entered] at later
  intro pending
  have made := (lineUp_perm first).mem_iff.mp ((pending_lineUp first).subset pending)
  exact (List.nodup_append.mp once).2.2 entry made entry later rfl

/-- Those in line at some point reach somebody, or stay, in line. -/
theorem line_kept [DecidableEq α] (first second : List (Step α)) :
    let queue := (({} : Queue α).steps first).2
    ((queue.deliveries second ++ (queue.steps second).2.pending).filter
      fun entry => entry ∈ queue.pending).Sublist queue.pending := by
  intro queue
  have later := not_pending_of_later first second
  have kept := steps_line queue (steps_apart {} (.inl rfl) first) second
    (fun entry => entry ∈ queue.pending) fun entry urgent => by
      simpa using later entry ((arrivalsFrom_sublist true _ second).subset urgent)
  have none : (arrivalsFrom false queue.entered second).filter
      (fun entry => entry ∈ queue.pending) = [] := by
    refine List.filter_eq_nil_iff.mpr ?_
    intro entry plain
    simpa using later entry ((arrivalsFrom_sublist false _ second).subset plain)
  simp only [List.filter_append queue.pending, none, List.append_nil] at kept
  exact kept.trans List.filter_sublist

/-- Two that stand in line together reach somebody in the order in which they stand. -/
theorem precedes_of_line [DecidableEq α] (first second : List (Step α)) (one other : Entry α)
    (inLine : [one, other].Sublist (({} : Queue α).steps first).2.pending) :
    Precedes (first ++ second) one other := by
  have kept := line_kept first second
  have once := pending_nodup first
  have oneIn : one ∈ (({} : Queue α).steps first).2.pending := inLine.subset (by simp)
  have otherIn : other ∈ (({} : Queue α).steps first).2.pending := inLine.subset (by simp)
  have never : ¬ [other, one].Sublist ((({} : Queue α).steps first).2.deliveries second ++
      ((({} : Queue α).steps first).2.steps second).2.pending) := by
    intro swapped
    refine not_both_ways once inLine (List.Sublist.trans ?_ kept)
    simpa [List.filter_cons, oneIn, otherIn] using swapped.filter
      fun entry => entry ∈ (({} : Queue α).steps first).2.pending
  intro delivered
  rw [deliveries_append] at delivered
  have otherOut := (List.mem_append.mp delivered).resolve_left
    (undelivered_of_pending first other otherIn)
  rw [steps_append, deliveries_append]
  refine ⟨?_, ?_⟩
  · intro stays
    exact never ((List.singleton_sublist.mpr otherOut).append (List.singleton_sublist.mpr stays))
  · intro both
    have oneOut := (List.mem_append.mp both).resolve_left (undelivered_of_pending first one oneIn)
    have distinct : one ≠ other := by
      have pair := once.sublist inLine
      simpa using pair
    rcases pair_of_mem distinct oneOut otherOut with forth | back
    · exact forth.trans (List.sublist_append_right _ _)
    · exact absurd (back.trans (List.sublist_append_left _ _)) never

/-- Plain entries reach somebody in the order in which they came. -/
theorem plain_in_order [DecidableEq α] (steps : List (Step α)) :
    ((({} : Queue α).deliveries steps).filter
      fun entry => entry ∈ arrivalsFrom false 0 steps).Sublist (arrivalsFrom false 0 steps) := by
  have once := (arrivalsFrom_perm 0 steps).nodup_iff.mpr (entriesFrom_nodup steps 0)
  have kept := steps_line ({} : Queue α) (.inl rfl) steps
    (fun entry => entry ∈ arrivalsFrom false 0 steps) fun entry urgent => by
      simpa using fun plain => (List.nodup_append.mp once).2.2 entry urgent entry plain rfl
  rw [List.filter_append] at kept
  exact (List.sublist_append_left _ _).trans (kept.trans List.filter_sublist)

/-- Urgent entries that are pending together stand the newest first. -/
theorem newest_in_front [DecidableEq α] (steps : List (Step α)) (one other : Entry α)
    (oneIn : one ∈ (({} : Queue α).steps steps).2.pending)
    (oneUrgent : one ∈ arrivalsFrom true 0 steps)
    (otherIn : other ∈ (({} : Queue α).steps steps).2.pending)
    (otherUrgent : other ∈ arrivalsFrom true 0 steps) (newer : other.number < one.number) :
    [one, other].Sublist (({} : Queue α).steps steps).2.pending := by
  have distinct : one ≠ other := by
    rintro rfl
    exact absurd newer (Nat.lt_irrefl _)
  refine (pair_of_mem distinct oneIn otherIn).resolve_right ?_
  intro swapped
  have ordered := (entriesFrom_ordered 0 steps).sublist (arrivalsFrom_sublist true 0 steps)
  have once := (arrivalsFrom_perm 0 steps).nodup_iff.mpr (entriesFrom_nodup steps 0)
  have none : (arrivalsFrom false 0 steps).filter
      (fun entry => entry ∈ arrivalsFrom true 0 steps) = [] := by
    refine List.filter_eq_nil_iff.mpr ?_
    intro entry plain
    simpa using fun urgent => (List.nodup_append.mp once).2.2 entry urgent entry plain rfl
  have among := (swapped.trans (pending_lineUp steps)).filter
    fun entry => entry ∈ arrivalsFrom true 0 steps
  rw [lineUp, List.filter_append, none, List.append_nil] at among
  have pair : [other, one].Sublist (arrivalsFrom true 0 steps).reverse := by
    refine List.Sublist.trans ?_ (among.trans List.filter_sublist)
    simp [oneUrgent, otherUrgent]
  have older := (List.pairwise_reverse.mpr ordered).sublist pair
  have below : one.number < other.number := by simpa using older
  omega

theorem steps_ordered [DecidableEq α] (steps : List (Step α)) : Ordered steps where
  pending := pending_eq steps
  once := deliveries_nodup steps
  reached := mem_deliveries steps
  plain := plain_in_order steps
  urgent := by
    intro first object second same nobody entry pending
    have front : (({} : Queue α).steps (first ++ [.enqueueUrgent object])).2.pending =
        ⟨(({} : Queue α).steps first).2.entered, object⟩ ::
          (({} : Queue α).steps first).2.pending := by
      simp [steps_append, steps_cons, Queue.step, enqueueUrgent, offer, nobody]
    have split : steps = (first ++ [.enqueueUrgent object]) ++ second := by simp [same]
    rw [split]
    refine precedes_of_line _ second _ entry ?_
    rw [front]
    exact (List.singleton_sublist.mpr pending).cons_cons _
  newest := by
    intro first second same one oneIn oneUrgent other otherIn otherUrgent newer
    rw [same]
    exact precedes_of_line first second one other
      (newest_in_front first one other oneIn oneUrgent otherIn otherUrgent newer)

theorem step_remove [DecidableEq α] (queue : Queue α) (object : α) :
    (∀ entry ∈ queue.pending, entry.object ≠ object) ∧
        queue.step (.remove object) = (.removed none, queue) ∨
      ∃ before entry behind, queue.pending = before ++ entry :: behind ∧ entry.object = object ∧
        (∀ other ∈ before, other.object ≠ object) ∧
        queue.step (.remove object) =
          (.removed (some entry), { queue with pending := before ++ behind }) := by
  by_cases queued : ∃ entry ∈ queue.pending, entry.object = object
  · right
    obtain ⟨entry, member, same⟩ := queued
    obtain ⟨found, before, behind, others, own, split, rest⟩ :=
      List.exists_of_eraseP (p := fun entry => entry.object = object) member (by simpa using same)
    refine ⟨before, found, behind, split, by simpa using own, by simpa using others, ?_⟩
    have front : (queue.pending.find? fun entry => entry.object = object) = some found :=
      List.find?_eq_some_iff_append.mpr ⟨own, before, behind, split, by simpa using others⟩
    simp only [Queue.step, Queue.remove, rest, front]
  · left
    have absent : ∀ entry ∈ queue.pending, entry.object ≠ object := by simpa using queued
    refine ⟨absent, ?_⟩
    have none : (queue.pending.find? fun entry => entry.object = object) = none := by
      simpa using absent
    simp only [Queue.step, Queue.remove, none]
    rw [List.eraseP_of_forall_not (by simpa using absent)]

/-- At every point of every run the pending entries are the urgent ones that did not leave, the newest
first, and then the plain ones, the oldest first. Whoever takes an entry gets the head, and a removal
takes the front-most entry of its object and leaves the others in line. So plain entries reach
somebody in the order in which they came, an urgent one that had to wait does so before all that was
pending when it came, and of two urgent ones pending together the newer one is first. The calls of a
dispatch are steps of such a run. -/
theorem entries_come_in_order [DecidableEq α] (steps : List (Step α)) :
    let queue := (({} : Queue α).steps steps).2
    Ordered steps ∧
    (∀ head rest, queue.pending = head :: rest →
      queue.step .dequeue = (.dequeued (some head), { queue with pending := rest }) ∧
      queue.step .wait = (.waited (.took head), { queue with pending := rest }) ∧
      queue.step .deliver = (.delivered (some head), { queue with pending := rest }) ∧
      ∀ call fuel (outside : Chronicle α), dispatch call (fuel + 1) ⟨queue, outside⟩ =
        dispatch call fuel (call head ⟨{ queue with pending := rest }, outside⟩)) ∧
    (∀ object, (∀ entry ∈ queue.pending, entry.object ≠ object) ∧
        queue.step (.remove object) = (.removed none, queue) ∨
      ∃ before entry behind, queue.pending = before ++ entry :: behind ∧ entry.object = object ∧
        (∀ other ∈ before, other.object ≠ object) ∧
        queue.step (.remove object) =
          (.removed (some entry), { queue with pending := before ++ behind })) ∧
    ∀ call, ActsBySteps call → ∀ fuel, ∃ more,
      dispatch (noting call) fuel (after steps) = after (steps ++ more) ∧
        Ordered (steps ++ more) := by
  intro queue
  refine ⟨steps_ordered steps, ?_, step_remove queue, ?_⟩
  · intro head rest pending
    simp [Queue.step, dequeue, wait, dispatch, pending]
  · intro call acts fuel
    obtain ⟨more, last⟩ := dispatch_acts call acts fuel steps
    exact ⟨more, last, steps_ordered _⟩

/-- Urgent entries come in front, the first of two entries of one object is removed, the others reach
those who take, wait and were blocked, and a callback queues another one. -/
theorem entries_come_in_order_removing :
    let first : List (Step Nat) := [.enqueue 1, .enqueueUrgent 2]
    let second : List (Step Nat) := [.enqueue 1, .enqueueUrgent 4]
    let third : List (Step Nat) :=
      [.remove 1, .dequeue, .wait, .deliver, .dequeue, .wait, .enqueue 5, .enqueue 6]
    let steps := first ++ .enqueueUrgent 3 :: (second ++ third)
    let queue := (({} : Queue Nat).steps steps).2
    let call (_ : Entry Nat) (site : Site Nat (Chronicle Nat)) : Site Nat (Chronicle Nat) :=
      ⟨(site.queue.step .clear).2, site.outside ++ [(.clear, (site.queue.step .clear).1)]⟩
    (({} : Queue Nat).steps (first ++ .enqueueUrgent 3 :: second)).2.pending =
      [⟨4, 4⟩, ⟨2, 3⟩, ⟨1, 2⟩, ⟨0, 1⟩, ⟨3, 1⟩] ∧
    ({} : Queue Nat).deliveries steps = [⟨4, 4⟩, ⟨2, 3⟩, ⟨1, 2⟩, ⟨3, 1⟩, ⟨5, 5⟩] ∧
    Precedes steps ⟨2, 3⟩ ⟨1, 2⟩ ∧ Precedes steps ⟨4, 4⟩ ⟨2, 3⟩ ∧
    queue.step .dequeue = (.dequeued (some ⟨6, 6⟩), { queue with pending := [] }) ∧
    ∃ more, dispatch (noting call) 3 (after steps) = after (steps ++ more) ∧
      Ordered (steps ++ more) := by
  intro first second third steps queue call
  obtain ⟨ordered, takes, -, dispatches⟩ := entries_come_in_order steps
  have acts : ActsBySteps call := fun _ steps => ⟨[.clear], (after_step steps .clear).symm⟩
  refine ⟨by decide, by decide, ?_, ?_, ?_, dispatches call acts 3⟩
  · exact ordered.urgent first 3 (second ++ third) rfl (by decide) ⟨1, 2⟩ (by decide)
  · exact ordered.newest (first ++ .enqueueUrgent 3 :: second) third rfl ⟨4, 4⟩ (by decide)
      (by decide) ⟨2, 3⟩ (by decide) (by decide) (by decide)
  · exact (takes ⟨6, 6⟩ [] (by decide)).1

end SocketLoop.Queue
