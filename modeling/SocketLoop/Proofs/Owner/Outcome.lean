import Mathlib.Data.List.Chain
import SocketLoop.Proofs.Owner.Contest

/-! How an attempt ends. Its end is final and is the only one, unless an abort and the resolver both
found it connecting and do not end it alike. -/
namespace SocketLoop

theorem Status.ended_ne (failure? : Option Failure) (errno : Option Errno) :
    Status.ended failure? ≠ (.connecting, errno) := by
  cases failure? <;> simp [Status.ended]

theorem Status.ended_mayBecome (failure? : Option Failure) (later : Status) :
    (Status.ended failure?).mayBecome later ↔ later = .ended failure? := by
  cases failure? <;> simp [Status.mayBecome, Status.ended]

def Status.Course (history : List Status) : Prop :=
  history.IsChain fun later earlier => earlier.mayBecome later

/-- Ends that were written one after the other may follow each other only where all are alike. -/
theorem Status.course_iff (opening : Status) (before ends : List Status)
    (below : Status.Course (opening :: before))
    (ended : ∀ status ∈ ends, ∃ failure?, status = .ended failure?)
    (opens : ∀ status ∈ ends, opening.mayBecome status) :
    Status.Course (ends ++ opening :: before) ↔
      ∀ first ∈ ends, ∀ second ∈ ends, first = second := by
  induction ends with
  | nil => simpa using below
  | cons last rest ih =>
    have tail := ih (fun status member => ended status (List.mem_cons_of_mem _ member))
      (fun status member => opens status (List.mem_cons_of_mem _ member))
    cases rest with
    | nil =>
      have first := opens last List.mem_cons_self
      simpa [Status.Course, first] using below
    | cons previous others =>
      obtain ⟨failure?, rfl⟩ := ended previous (by simp)
      rw [Status.Course, List.cons_append, List.cons_append, List.isChain_cons_cons,
        Status.ended_mayBecome]
      rw [Status.Course, List.cons_append] at tail
      rw [tail]
      constructor
      · rintro ⟨rfl, alike⟩ first member second other
        exact alike first (by simpa using member) second (by simpa using other)
      · intro alike
        refine ⟨alike _ (by simp) _ (by simp), ?_⟩
        intro first member second other
        exact alike first (List.mem_cons_of_mem _ member) second (List.mem_cons_of_mem _ other)

namespace Contest

/-- What the stance of a party tells of an attempt: which end was decided on, whether some abort
found it connecting, whether it has begun to connect, and the ends that were written. -/
def Fits (verdict : Option Status) (aborted begun : Bool) (ends : List Status) :
    Party → Stance → Prop
  | _, .away => True
  | .starter, .fresh => begun = false ∧ ends = [] ∧ verdict = none
  | .starter, .ending failure? =>
    begun = false ∧ ends = [] ∧ failure? ≠ none ∧ verdict = some (.ended failure?)
  | .resolver, .checked | .resolver, .building => begun = true ∧ verdict = none
  | .resolver, .ending failure? => begun = true ∧ verdict = some (.ended failure?)
  | .abort _, .checked => aborted = true
  | .abort _, .ending failure? => aborted = true ∧ failure? = some (.system Errno.canceled)
  | _, .telling failure => .ended (some failure) ∈ ends
  | _, _ => False

def judge (begun : Bool) : Party := if begun then .resolver else .starter

/-- What holds of a new attempt and after every move. -/
structure Sound (given : Bool) (contest : Contest) (begun : Bool) (ends : List Status) : Prop where
  history : contest.history =
    ends ++ (if begun then [(.connecting, none), (.idle, none)] else [(.idle, none)])
  current : contest.history.head? = some (contest.attempt.state, contest.attempt.errno)
  fits : ∀ party,
    Fits contest.verdict contest.aborted begun ends party (contest.stance party)
  starter : begun = true → contest.stance .starter = .away
  underway : contest.aborted = true → begun = true
  /-- Every end is the one that was decided on, or that of an abort. -/
  source : ∀ status ∈ ends, (∃ failure?, status = .ended failure?) ∧
    (contest.verdict = some status ∨ contest.aborted = true ∧ status = .canceled)
  refused : begun = false → ∀ status, contest.verdict = some status → status.1 = .failed
  decided : ∀ status, contest.verdict = some status →
    status ∈ ends ∨ ∃ failure?, contest.stance (judge begun) = .ending failure?
  canceled : contest.aborted = true → .canceled ∈ ends ∨ ∃ number,
    contest.stance (.abort number) = .checked ∨
      ∃ failure?, contest.stance (.abort number) = .ending failure?
  told : contest.told ≠ [] → ∃ failure, .ended (some failure) ∈ ends
  heard : contest.told ≠ [] → given = true
  once : contest.told.length ≤ 1
  waiting : contest.attempt.onFailure = (given && contest.told.isEmpty)
  notified : ∀ failure, .ended (some failure) ∈ ends →
    contest.attempt.onFailure = false ∨ ∃ party failure, contest.stance party = .telling failure
  attached : contest.attached ≤ 1
  served : 0 < contest.attached → contest.verdict = some (.connected, none)

theorem start_sound (given : Bool) : (start given).Sound given false [] := by
  constructor <;> simp [start]
  intro party
  cases party <;> simp [Fits]

section

variable {given : Bool} {contest next : Contest} {begun : Bool} {ends : List Status}

theorem Sound.open (sound : contest.Sound given begun ends)
    (connecting : contest.attempt.state = .connecting) : begun = true ∧ ends = [] := by
  have current := sound.current
  rw [sound.history] at current
  cases ends with
  | cons status rest =>
    obtain ⟨failure?, rfl⟩ := (sound.source status List.mem_cons_self).1
    simp only [List.cons_append, List.head?_cons, Option.some.injEq, connecting] at current
    exact absurd current (Status.ended_ne _ _)
  | nil =>
    cases begun with
    | true => exact ⟨rfl, rfl⟩
    | false => simp [connecting] at current

private theorem telling_stays (mover : Party) (target : Stance)
    (apart : ∀ failure, contest.stance mover ≠ .telling failure)
    (tells : ∃ party failure, contest.stance party = .telling failure) :
    ∃ party failure, (contest.go mover target).stance party = .telling failure := by
  obtain ⟨party, failure, tells⟩ := tells
  exact ⟨party, failure, stance_stays target tells (apart failure)⟩

/-- The stances still fit when one party proceeds: only the resolver reads what was decided on once
the attempt has begun to connect, and only the starter does before. -/
theorem fits_go {verdict verdict' : Option Status} {aborted aborted' begun begun' : Bool}
    {ends ends' : List Status} {stance : Party → Stance}
    (fits : ∀ party, Fits verdict aborted begun ends party (stance party)) (mover : Party)
    (target : Stance) (own : Fits verdict' aborted' begun' ends' mover target)
    (aborts : aborted = true → aborted' = true) (grows : ends ⊆ ends')
    (starter : mover ≠ .starter → begun = false →
      begun' = false ∧ ends' = ends ∧ verdict' = verdict)
    (resolver : mover ≠ .resolver → begun = true → begun' = true ∧ verdict' = verdict)
    (party : Party) :
    Fits verdict' aborted' begun' ends' party (Function.update stance mover target party) := by
  by_cases same : party = mover
  · subst same
    rwa [Function.update_self]
  · rw [Function.update_of_ne same]
    have fit := fits party
    generalize stance party = stand at fit
    cases stand with
    | telling failure => cases party <;> exact grows fit
    | _ =>
      cases party <;> simp only [Fits] at fit ⊢
      all_goals grind

/-- While nobody has ended a connecting attempt, an idle resolver has decided on nothing. -/
theorem Sound.undecided (sound : contest.Sound given true [])
    (away : contest.stance .resolver = .away) : contest.verdict = none := by
  cases decided : contest.verdict with
  | none => rfl
  | some status =>
    rcases sound.decided status decided with ended | ⟨failure?, ending⟩
    · cases ended
    · simp [judge, away] at ending

theorem Sound.busy (sound : contest.Sound given begun ends)
    (busy : contest.stance .resolver = .checked ∨ contest.stance .resolver = .building) :
    begun = true ∧ contest.verdict = none := by
  have fits := sound.fits .resolver
  rcases busy with checked | building
  · rwa [checked] at fits
  · rwa [building] at fits

theorem Sound.unserved (sound : contest.Sound given begun ends)
    (busy : contest.stance .resolver = .checked ∨ contest.stance .resolver = .building) :
    contest.attached = 0 := by
  by_contra some
  have decided := sound.served (Nat.pos_of_ne_zero some)
  rw [(sound.busy busy).2] at decided
  cases decided

private theorem check_sound (sound : contest.Sound given begun ends) (party : Party)
    (other : party ≠ .starter) (away : contest.stance party = .away)
    (connecting : contest.attempt.state = .connecting) :
    (go { contest with aborted := contest.aborted || party != .resolver } party .checked).Sound
      given begun ends := by
  obtain ⟨rfl, rfl⟩ := sound.open connecting
  have own : Fits contest.verdict (contest.aborted || party != .resolver) true [] party
      .checked := by
    cases party with
    | starter => exact absurd rfl other
    | resolver => exact ⟨rfl, sound.undecided away⟩
    | abort number => simp [Fits]
  refine { sound with
    fits := fits_go sound.fits party _ own (by simp +contextual [go]) (List.Subset.refl _)
      (by simp) (fun _ _ => ⟨rfl, rfl⟩)
    starter := ?_
    underway := fun _ => rfl
    source := by simp
    decided := ?_
    canceled := ?_
    notified := by simp }
  · intro _
    rw [stance_go, if_neg other.symm]
    exact sound.starter rfl
  · intro status decided
    grind [sound.decided status decided, stance_go, judge]
  · intro aborted
    have before := sound.canceled
    cases party <;> grind [stance_go, go]

private theorem launch_sound (sound : contest.Sound given begun ends)
    (fresh : contest.stance .starter = .fresh) :
    (go { contest with
      attempt := { contest.attempt with state := .connecting }
      history := (.connecting, none) :: contest.history } .starter .away).Sound given true [] := by
  have fits := sound.fits .starter
  rw [fresh] at fits
  obtain ⟨rfl, rfl, undecided⟩ := fits
  have history := sound.history
  have current := sound.current
  simp only [List.nil_append, Bool.false_eq_true, if_false] at history
  simp only [history, List.head?_cons, Option.some.injEq, Prod.mk.injEq] at current
  refine { sound with
    history := by simp [go, history]
    current := by simp [go, ← current.2]
    fits := fits_go sound.fits .starter _ trivial id (List.Subset.refl _) (by simp) (by simp)
    starter := ?_
    underway := fun _ => rfl
    refused := by simp
    decided := by simp [go, undecided]
    canceled := ?_
    notified := by simp }
  · intro _
    simp [stance_go]
  · intro aborted
    cases sound.underway aborted

private theorem refuse_sound (sound : contest.Sound given begun ends) (failure : Failure)
    (fresh : contest.stance .starter = .fresh) :
    (go { contest with verdict := some (.ended (some failure)) } .starter
      (.ending (some failure))).Sound given false [] := by
  have fits := sound.fits .starter
  rw [fresh] at fits
  obtain ⟨rfl, rfl, undecided⟩ := fits
  refine { sound with
    fits := fits_go sound.fits .starter _ ⟨rfl, rfl, by simp, rfl⟩ id (List.Subset.refl _)
      (by simp) (by simp)
    starter := by simp
    source := by simp
    refused := by simp [go, Status.ended]
    decided := ?_
    canceled := ?_
    notified := by simp
    served := ?_ }
  · intro status _
    exact .inr ⟨some failure, by simp [judge, stance_go]⟩
  · intro aborted
    cases sound.underway aborted
  · intro served
    have impossible := sound.served served
    rw [undecided] at impossible
    cases impossible

/-- The resolver decides once, and a service is attached only if it decides that the attempt is
connected. -/
private theorem conclude_sound (sound : contest.Sound given begun ends)
    (busy : contest.stance .resolver = .checked ∨ contest.stance .resolver = .building)
    (failure? : Option Failure) (count : Nat) (least : count ≤ 1)
    (serves : 0 < count → failure? = none) :
    (conclude { contest with attached := count } failure?).Sound given begun ends := by
  obtain ⟨rfl, undecided⟩ := sound.busy busy
  refine { sound with
    fits := fits_go sound.fits .resolver _ ⟨rfl, rfl⟩ id (List.Subset.refl _) (by simp) (by simp)
    starter := ?_
    source := ?_
    refused := by simp
    decided := ?_
    canceled := ?_
    notified := ?_
    attached := least
    served := ?_ }
  · intro _
    simpa [conclude, stance_go] using sound.starter rfl
  · intro status ended
    refine ⟨(sound.source status ended).1, .inr ?_⟩
    simpa [undecided, conclude, go] using (sound.source status ended).2
  · intro status _
    exact .inr ⟨failure?, by simp [conclude, judge, stance_go]⟩
  · intro aborted
    simpa [conclude, stance_go] using sound.canceled aborted
  · intro failure failed
    refine (sound.notified failure failed).imp id (telling_stays .resolver _ ?_)
    rcases busy with stands | stands <;> simp [stands]
  · intro served
    rw [serves served]
    rfl

private theorem write_sound (sound : contest.Sound given begun ends) (party : Party)
    (failure? : Option Failure) (stands : contest.stance party = .ending failure?) :
    (go { contest with
      attempt := contest.attempt.finish failure?
      history := .ended failure? :: contest.history } party (.written failure?)).Sound given begun
        (.ended failure? :: ends) := by
  have fit := sound.fits party
  rw [stands] at fit
  have waits : (contest.attempt.finish failure?).onFailure = contest.attempt.onFailure := by
    cases failure? <;> rfl
  have own : Fits contest.verdict contest.aborted begun (.ended failure? :: ends) party
      (.written failure?) := by
    cases failure? with
    | none => cases party <;> trivial
    | some failure => cases party <;> exact List.mem_cons_self
  refine { sound with
    history := by simp [go, sound.history]
    current := by cases failure? <;> rfl
    fits := fits_go sound.fits party _ own id (List.subset_cons_self _ _) ?_ ?_
    starter := ?_
    source := ?_
    decided := ?_
    canceled := ?_
    told := ?_
    waiting := waits.trans sound.waiting
    notified := ?_ }
  · intro _ before
    cases party with
    | starter => contradiction
    | resolver => exact absurd fit.1 (by simp [before])
    | abort number => exact absurd (sound.underway fit.1) (by simp [before])
  · exact fun _ before => ⟨before, rfl⟩
  · intro begins
    exact stance_stays _ (sound.starter begins) (by simp [stands])
  · intro status listed
    rcases List.mem_cons.mp listed with rfl | old
    · refine ⟨⟨failure?, rfl⟩, ?_⟩
      cases party with
      | starter => exact .inl fit.2.2.2
      | resolver => exact .inl fit.2
      | abort number =>
        obtain ⟨aborted, rfl⟩ := fit
        exact .inr ⟨aborted, rfl⟩
    · exact sound.source status old
  · intro status decided
    rcases sound.decided status decided with ended | ⟨other, ending⟩
    · exact .inl (List.mem_cons_of_mem _ ended)
    · by_cases same : judge begun = party
      · have written : contest.verdict = some (.ended failure?) := by
          cases party with
          | starter => exact fit.2.2.2
          | resolver => exact fit.2
          | abort number => cases begun <;> cases same
        have same := Option.some.inj (written.symm.trans decided)
        exact .inl (same ▸ List.mem_cons_self)
      · refine .inr ⟨other, ?_⟩
        rw [stance_go, if_neg same]
        exact ending
  · intro aborted
    rcases sound.canceled aborted with ended | ⟨number, stand⟩
    · exact .inl (List.mem_cons_of_mem _ ended)
    · by_cases same : .abort number = party
      · subst same
        obtain ⟨-, rfl⟩ := fit
        exact .inl List.mem_cons_self
      · refine .inr ⟨number, ?_⟩
        rw [stance_go, if_neg same]
        exact stand
  · intro told
    obtain ⟨failure, ended⟩ := sound.told told
    exact ⟨failure, List.mem_cons_of_mem _ ended⟩
  · intro failure failed
    cases failure? with
    | some told => exact .inr ⟨party, told, by simp [stance_go, Stance.written]⟩
    | none =>
      have old : .ended (some failure) ∈ ends := by
        simpa [Status.ended] using failed
      exact (sound.notified failure old).imp waits.trans
        (telling_stays party _ (by simp [stands]))

private theorem tell_sound (sound : contest.Sound given begun ends) (party : Party)
    (failure : Failure) (stands : contest.stance party = .telling failure) :
    (go { contest with
      attempt := { contest.attempt with onFailure := false }
      told := if contest.attempt.onFailure then failure.errno? :: contest.told
        else contest.told } party .away).Sound given begun ends := by
  have fit := sound.fits party
  rw [stands] at fit
  have ended : .ended (some failure) ∈ ends := by
    cases party <;> exact fit
  have waiting := sound.waiting
  refine { sound with
    fits := fits_go sound.fits party _ (by cases party <;> trivial) id (List.Subset.refl _)
      (fun _ before => ⟨before, rfl, rfl⟩) (fun _ before => ⟨before, rfl⟩)
    starter := ?_
    decided := ?_
    canceled := ?_
    told := fun _ => ⟨failure, ended⟩
    heard := ?_
    once := ?_
    waiting := ?_
    notified := fun _ _ => .inl rfl }
  · intro begins
    have before := sound.starter begins
    grind [stance_go]
  · intro status decided
    have before := sound.decided status decided
    grind [stance_go]
  · intro aborted
    have before := sound.canceled aborted
    grind [stance_go]
  · have before := sound.heard
    grind [go]
  · have before := sound.once
    grind [go]
  · grind [go]

private theorem proceed_sound (sound : contest.Sound given begun ends)
    (busy : contest.stance .resolver = .checked ∨ contest.stance .resolver = .building)
    (target : Stance) (calm : target = .building ∨ target = .away) :
    (contest.go .resolver target).Sound given begun ends := by
  obtain ⟨rfl, undecided⟩ := sound.busy busy
  have own : Fits contest.verdict contest.aborted true ends .resolver target := by
    rcases calm with rfl | rfl
    · exact ⟨rfl, undecided⟩
    · trivial
  refine { sound with
    fits := fits_go sound.fits .resolver _ own id (List.Subset.refl _) (by simp) (by simp)
    starter := ?_
    decided := ?_
    canceled := ?_
    notified := ?_ }
  · intro _
    simpa [stance_go] using sound.starter rfl
  · intro status decided
    rw [go, undecided] at decided
    cases decided
  · intro aborted
    simpa [stance_go] using sound.canceled aborted
  · intro failure failed
    refine (sound.notified failure failed).imp id (telling_stays .resolver _ ?_)
    rcases busy with stands | stands <;> simp [stands]

private theorem drop_sound (sound : contest.Sound given begun ends) (number : Nat)
    (checked : contest.stance (.abort number) = .checked) :
    (go { contest with attempt := { contest.attempt with factory := false } }
      (.abort number) (.ending (some (.system Errno.canceled)))).Sound given begun ends := by
  have fit := sound.fits (.abort number)
  rw [checked] at fit
  refine { sound with
    fits := fits_go sound.fits (.abort number) _ ⟨fit, rfl⟩ id (List.Subset.refl _)
      (fun _ before => ⟨before, rfl, rfl⟩) (fun _ before => ⟨before, rfl⟩)
    starter := ?_
    decided := ?_
    canceled := ?_
    notified := ?_ }
  · intro begins
    exact stance_stays _ (sound.starter begins) (by simp [checked])
  · intro status decided
    refine (sound.decided status decided).imp id ?_
    rintro ⟨failure?, ending⟩
    exact ⟨failure?, stance_stays _ ending (by simp [checked])⟩
  · intro _
    exact .inr ⟨number, .inr ⟨some (.system Errno.canceled), by simp [stance_go]⟩⟩
  · intro failure failed
    exact (sound.notified failure failed).imp id (telling_stays _ _ (by simp [checked]))

theorem step_sound (sound : contest.Sound given begun ends) (move : Move)
    (moved : contest.step? move = some next) : ∃ begun' ends', next.Sound given begun' ends' := by
  cases move with
  | launch failure? =>
    cases failure? with
    | none =>
      simp only [step?, Option.ite_none_right_eq_some, Option.some.injEq] at moved
      obtain ⟨fresh, rfl⟩ := moved
      exact ⟨_, _, launch_sound sound fresh⟩
    | some failure =>
      simp only [step?, Option.ite_none_right_eq_some, Option.some.injEq] at moved
      obtain ⟨fresh, rfl⟩ := moved
      exact ⟨_, _, refuse_sound sound failure fresh⟩
  | check party =>
    simp only [step?, Option.ite_none_right_eq_some] at moved
    obtain ⟨⟨away, other⟩, moved⟩ := moved
    split at moved
    · rename_i connecting
      obtain ⟨⟩ := moved
      exact ⟨_, _, check_sound sound party other away connecting⟩
    · obtain ⟨⟩ := moved
      exact ⟨_, _, sound⟩
  | read failure? =>
    simp only [step?, Option.ite_none_right_eq_some] at moved
    obtain ⟨checked, moved⟩ := moved
    have taken : Sound given
        { contest with attempt := { contest.attempt with factory := false } } begun ends :=
      { sound with }
    split at moved
    · obtain ⟨⟩ := moved
      exact ⟨_, _, proceed_sound taken (.inl checked) _ (.inl rfl)⟩
    · obtain ⟨⟩ := moved
      exact ⟨_, _, conclude_sound taken (.inl checked) failure? _ sound.attached (by
        simp [sound.unserved (.inl checked)])⟩
  | drop number =>
    simp only [step?, Option.ite_none_right_eq_some, Option.some.injEq] at moved
    obtain ⟨checked, rfl⟩ := moved
    exact ⟨_, _, drop_sound sound number checked⟩
  | build failure? =>
    simp only [step?, Option.ite_none_right_eq_some, Option.some.injEq] at moved
    obtain ⟨building, rfl⟩ := moved
    have none : contest.attached = 0 := sound.unserved (.inr building)
    refine ⟨_, _, conclude_sound sound (.inr building) failure? _ ?_ ?_⟩
    · split <;> omega
    · split <;> simp_all
  | unwind =>
    simp only [step?, Option.ite_none_right_eq_some, Option.some.injEq] at moved
    obtain ⟨building, rfl⟩ := moved
    exact ⟨_, _, proceed_sound sound (.inr building) _ (.inr rfl)⟩
  | write party =>
    simp only [step?] at moved
    split at moved
    · rename_i failure? stands
      obtain ⟨⟩ := moved
      exact ⟨_, _, write_sound sound party failure? stands⟩
    · cases moved
  | tell party =>
    simp only [step?] at moved
    split at moved
    · rename_i failure stands
      obtain ⟨⟩ := moved
      exact ⟨_, _, tell_sound sound party failure stands⟩
    · cases moved

end

/-- Whether an abort found the attempt connecting that does not end it as it was decided. -/
def Clash (contest : Contest) : Prop :=
  contest.aborted = true ∧ ∃ status, contest.verdict = some status ∧ status ≠ .canceled

/-- The end of an attempt is final and excludes the other one. What is still to be written or told
is what some party is about to write or to tell. -/
structure Exclusive (given : Bool) (contest : Contest) : Prop where
  course : Status.Course contest.history
  once : contest.told.length ≤ 1
  told : contest.told ≠ [] → given = true ∧ contest.attempt.state = .failed
  heard : contest.attempt.state = .failed → given = true →
    contest.told ≠ [] ∨ ∃ party failure, contest.stance party = .telling failure
  served : 0 < contest.attached →
    contest.attempt.state = .connected ∨ contest.stance .resolver = .ending none

section

variable {given : Bool} {contest : Contest} {begun : Bool} {ends : List Status}

theorem Sound.course_iff (sound : contest.Sound given begun ends) :
    Status.Course contest.history ↔ ∀ first ∈ ends, ∀ second ∈ ends, first = second := by
  have ended := fun status member => (sound.source status member).1
  rw [sound.history]
  cases begun with
  | true =>
    refine Status.course_iff _ _ ends (by simp [Status.Course, Status.mayBecome]) ended ?_
    intro status member
    obtain ⟨failure?, rfl⟩ := ended status member
    cases failure? <;> simp [Status.mayBecome, Status.ended]
  | false =>
    refine Status.course_iff _ _ ends (by simp [Status.Course]) ended ?_
    intro status member
    have failed : status.1 = .failed := by
      rcases (sound.source status member).2 with decided | ⟨aborted, -⟩
      · exact sound.refused rfl status decided
      · cases sound.underway aborted
    exact .inr (.inl ⟨rfl, .inr failed⟩)

/-- All ends are alike unless there is a clash. -/
theorem Sound.alike (sound : contest.Sound given begun ends) (peace : ¬contest.Clash) :
    ∀ first ∈ ends, ∀ second ∈ ends, first = second := by
  intro first member second other
  have one := (sound.source first member).2
  have two := (sound.source second other).2
  simp only [Clash, not_and, not_exists, not_not] at peace
  grind

theorem Sound.state_of_alike (sound : contest.Sound given begun ends)
    (alike : ∀ first ∈ ends, ∀ second ∈ ends, first = second) (status : Status)
    (member : status ∈ ends) : (contest.attempt.state, contest.attempt.errno) = status := by
  have current := sound.current
  rw [sound.history] at current
  cases ends with
  | nil => cases member
  | cons last rest =>
    simp only [List.cons_append, List.head?_cons, Option.some.injEq] at current
    rw [← current]
    exact alike _ List.mem_cons_self _ member

/-- An end that was written is the end of the attempt. -/
theorem Sound.ended_stays (sound : contest.Sound given begun ends) (peace : ¬contest.Clash)
    (status : Status) (written : status ∈ contest.history)
    (ended : status.1 = .connected ∨ status.1 = .failed) :
    (contest.attempt.state, contest.attempt.errno) = status := by
  refine sound.state_of_alike (sound.alike peace) status ?_
  rw [sound.history] at written
  rcases List.mem_append.mp written with late | early
  · exact late
  · cases begun <;> simp at early <;> grind

theorem Sound.of_failed (sound : contest.Sound given begun ends)
    (failed : contest.attempt.state = .failed) : ∃ failure, .ended (some failure) ∈ ends := by
  have current := sound.current
  rw [sound.history, failed] at current
  cases ends with
  | nil => cases begun <;> simp at current
  | cons last rest =>
    obtain ⟨failure?, rfl⟩ := (sound.source last List.mem_cons_self).1
    cases failure? with
    | none => simp [Status.ended] at current
    | some failure => exact ⟨failure, List.mem_cons_self⟩

theorem Sound.exclusive (sound : contest.Sound given begun ends) (peace : ¬contest.Clash) :
    contest.Exclusive given := by
  have alike := sound.alike peace
  refine ⟨sound.course_iff.mpr alike, sound.once, ?_, ?_, ?_⟩
  · intro told
    obtain ⟨failure, ended⟩ := sound.told told
    exact ⟨sound.heard told, congrArg Prod.fst (sound.state_of_alike alike _ ended)⟩
  · intro failed given
    obtain ⟨failure, ended⟩ := sound.of_failed failed
    refine (sound.notified failure ended).imp ?_ id
    intro silent told
    simp [sound.waiting, given, told] at silent
  · intro served
    have decided := sound.served served
    rcases sound.decided _ decided with written | ⟨failure?, ending⟩
    · exact .inl (congrArg Prod.fst (sound.state_of_alike alike _ written))
    · right
      cases begun with
      | false => cases sound.refused rfl _ decided
      | true =>
        have fit := sound.fits .resolver
        rw [judge, if_pos rfl] at ending
        rw [ending] at fit ⊢
        cases failure? with
        | none => rfl
        | some failure => cases decided.symm.trans fit.2

/-- Once nobody deals with the attempt any more, a clash has left two different ends. -/
theorem Sound.torn (sound : contest.Sound given begun ends) (quiet : contest.Quiet)
    (clash : contest.Clash) : ¬Status.Course contest.history := by
  obtain ⟨aborted, status, decided, other⟩ := clash
  have written : status ∈ ends := by
    rcases sound.decided status decided with member | ⟨failure?, ending⟩
    · exact member
    · simp [quiet _] at ending
  have canceled : .canceled ∈ ends := by
    rcases sound.canceled aborted with member | ⟨number, stands⟩
    · exact member
    · simp [quiet _] at stands
  rw [sound.course_iff]
  intro alike
  exact other (alike _ written _ canceled)

end

end Contest

end SocketLoop
