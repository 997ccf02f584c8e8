import SocketLoop.Proofs.Reactor.Shape

/-! Threads that run one loop and stop it. A call of run swaps one flag on its way in, reads the other
before each pass, and resets both on its way out, one after the other; a stop sets the second one at
any time. Only the order of the two last steps keeps a stop from being lost between two runs. -/
namespace SocketLoop

inductive RunPhase where
  /-- About to see whether a stop was requested. -/
  | head
  | passing
  /-- The loop is over, and the shutdown is being broadcast. -/
  | closing
  /-- The request to stop was used up. -/
  | cleared
  | left
  /-- An observer did not return. -/
  | lost
deriving DecidableEq

structure RunCall where
  thread : Nat
  phase : RunPhase := .head
  /-- How many passes it has begun. -/
  passes : Nat := 0
deriving DecidableEq

inductive RunStep where
  | look | turn | fail | unwind | clear | leave
deriving DecidableEq

/-- An act is one atomic access to one of the flags, or anything that leaves both alone. -/
inductive RunAct where
  | enter (thread : Nat)
  | go (number : Nat) (step : RunStep)
  | stop
  | other (next : Reactor)

namespace RunPhase

def inLoop : RunPhase → Bool
  | head | passing => true
  | _ => false

def next? (stopRequested : Bool) : RunPhase → RunStep → Option RunPhase
  | head, .look => some (if stopRequested then closing else passing)
  | passing, .turn => some head
  | passing, .fail => some closing
  | passing, .unwind => some lost
  | closing, .unwind => some lost
  | closing, .clear => some cleared
  | cleared, .leave => some left
  | _, _ => none

inductive Moves (stopRequested : Bool) : RunPhase → RunStep → RunPhase → Prop where
  | closes (pending : stopRequested = true) : Moves stopRequested head .look closing
  | passes (calm : stopRequested = false) : Moves stopRequested head .look passing
  | turns : Moves stopRequested passing .turn head
  | fails : Moves stopRequested passing .fail closing
  | unwinds : Moves stopRequested passing .unwind lost
  | breaks : Moves stopRequested closing .unwind lost
  | clears : Moves stopRequested closing .clear cleared
  | leaves : Moves stopRequested cleared .leave left

theorem moves_of_next {phase after : RunPhase} {stopRequested : Bool} {step : RunStep}
    (went : next? stopRequested phase step = some after) :
    Moves stopRequested phase step after := by
  unfold next? at went
  split at went <;> cases went
  · cases stopRequested with
    | true => exact .closes rfl
    | false => exact .passes rfl
  · exact .turns
  · exact .fails
  · exact .unwinds
  · exact .breaks
  · exact .clears
  · exact .leaves

namespace Moves

variable {phase after : RunPhase} {stopRequested : Bool} {step : RunStep}
  (moves : Moves stopRequested phase step after)

include moves

theorem not_left : phase ≠ left := by
  rintro rfl
  cases moves

theorem left_iff : after = left ↔ step = .leave := by
  cases moves <;> simp

theorem inLoop (inside : after.inLoop = true) : phase.inLoop = true ∧ step ≠ .clear := by
  cases moves with
  | passes | turns => exact ⟨rfl, by simp⟩
  | closes | fails | unwinds | breaks | clears | leaves => cases inside

theorem calm (begun : after = passing) : phase.inLoop = true ∧ stopRequested = false := by
  cases moves with
  | passes calm => exact ⟨rfl, calm⟩
  | closes | turns | fails | unwinds | breaks | clears | leaves => cases begun

theorem closing_of_pending (first : phase = head) (pending : stopRequested = true) :
    after = closing := by
  cases moves with
  | closes => rfl
  | passes calm => cases calm.symm.trans pending
  | turns | fails | unwinds | breaks | clears | leaves => cases first

/-- Who has left, or all but left, does nothing but leave. -/
theorem leave_of_spent (spent : phase = left ∨ phase = cleared) : step = .leave ∧ after = left := by
  cases moves with
  | leaves => exact ⟨rfl, rfl⟩
  | closes | passes | turns | fails | unwinds | breaks | clears => simp at spent

end Moves

end RunPhase

def RunCall.to (call : RunCall) (phase : RunPhase) : RunCall :=
  { call with phase, passes := if phase = .passing then call.passes + 1 else call.passes }

def RunStep.on (reactor : Reactor) : RunStep → Reactor
  | clear => reactor.clearStop
  | leave => reactor.leave
  | _ => reactor

theorem RunStep.on_stop (reactor : Reactor) {step : RunStep} (other : step ≠ .clear) :
    (step.on reactor).stopRequested = reactor.stopRequested := by
  cases step with
  | clear => exact absurd rfl other
  | look | turn | fail | unwind | leave => rfl

/-- A reactor and the calls of run that it accepted, oldest first. -/
structure Runners where
  reactor : Reactor := {}
  calls : List RunCall := []

namespace Runners

def step? (state : Runners) : RunAct → Option Runners
  | .enter thread =>
    some (state.reactor.enter?.elim state fun reactor =>
      { reactor, calls := state.calls ++ [{ thread }] })
  | .go number step =>
    (state.calls[number]?).bind fun call =>
      (RunPhase.next? state.reactor.stopRequested call.phase step).map fun phase =>
        { reactor := step.on state.reactor, calls := state.calls.set number (call.to phase) }
  | .stop => some { state with reactor := state.reactor.stop }
  | .other next =>
    if next.active = state.reactor.active ∧
        next.stopRequested = state.reactor.stopRequested then
      some { state with reactor := next }
    else none

def run? (state : Runners) : List RunAct → Option Runners
  | [] => some state
  | act :: rest => (state.step? act).bind fun next => next.run? rest

def start (settings : Settings) : Runners := { reactor := { settings } }

/-- A call that was accepted and has not made its last step. -/
def UnderWay (state : Runners) (number : Nat) : Prop :=
  ∃ call, state.calls[number]? = some call ∧ call.phase ≠ .left

/-- One call at most is under way, and the flag tells if there is one. -/
structure Sound (state : Runners) : Prop where
  one : ∀ first second, state.UnderWay first → state.UnderWay second → first = second
  active : state.reactor.active = true ↔ ∃ number, state.UnderWay number

theorem run?_append (state : Runners) (first second : List RunAct) :
    state.run? (first ++ second) = (state.run? first).bind fun next => next.run? second := by
  induction first generalizing state with
  | nil => rfl
  | cons act rest ih =>
    simp only [List.cons_append, run?, Option.bind_assoc]
    exact congrArg _ (funext ih)

theorem start_sound (settings : Settings) : (start settings).Sound := by
  have nobody (number : Nat) : ¬ (start settings).UnderWay number := by
    rintro ⟨call, found, -⟩
    cases found
  refine ⟨fun first _ begun _ => absurd begun (nobody first), ?_⟩
  constructor
  · intro active
    cases active
  · rintro ⟨number, underWay⟩
    exact absurd underWay (nobody number)

variable {state next : Runners}

/-- The flags as they may change while a run is under way: a stop comes, and none goes. -/
def Drifts (before after : Reactor) : Prop :=
  after.active = before.active ∧ (before.stopRequested = true → after.stopRequested = true)

/-- What an act can do: a call is accepted, a call takes a step, or at most a stop comes. -/
inductive Changes (state next : Runners) : Prop where
  | accepted (thread : Nat) (free : state.reactor.active = false)
      (reactor : next.reactor = { state.reactor with active := true })
      (calls : next.calls = state.calls ++ [{ thread := thread }])
  | moved {number : Nat} {call : RunCall} {step : RunStep} {phase : RunPhase}
      (found : state.calls[number]? = some call)
      (moves : RunPhase.Moves state.reactor.stopRequested call.phase step phase)
      (reactor : next.reactor = step.on state.reactor)
      (calls : next.calls = state.calls.set number (call.to phase))
  | drifted (drifts : Drifts state.reactor next.reactor) (calls : next.calls = state.calls)

theorem go_cases {number : Nat} {step : RunStep}
    (acted : state.step? (.go number step) = some next) :
    ∃ call phase, state.calls[number]? = some call ∧
      RunPhase.Moves state.reactor.stopRequested call.phase step phase ∧
      next.reactor = step.on state.reactor ∧
      next.calls = state.calls.set number (call.to phase) := by
  obtain ⟨call, found, moved⟩ := Option.bind_eq_some_iff.mp acted
  obtain ⟨phase, went, rfl⟩ := Option.map_eq_some_iff.mp moved
  exact ⟨call, phase, found, RunPhase.moves_of_next went, rfl, rfl⟩

theorem step_changes (act : RunAct) (acted : state.step? act = some next) : state.Changes next := by
  cases act with
  | enter thread =>
    obtain rfl := Option.some.inj acted
    cases active : state.reactor.active with
    | true =>
      rw [Reactor.enter?, if_pos active, Option.elim_none]
      exact .drifted ⟨rfl, id⟩ rfl
    | false =>
      rw [Reactor.enter?, active]
      exact .accepted thread active rfl rfl
  | go number step =>
    obtain ⟨call, phase, found, moves, reactor, calls⟩ := go_cases acted
    exact .moved found moves reactor calls
  | stop =>
    obtain rfl := Option.some.inj acted
    exact .drifted ⟨rfl, fun _ => rfl⟩ rfl
  | other reactor =>
    obtain ⟨⟨active, stop⟩, same⟩ := Option.ite_none_right_eq_some.mp acted
    obtain rfl := Option.some.inj same
    exact .drifted ⟨active, stop.trans⟩ rfl

theorem calls_enter {thread : Nat} (calls : next.calls = state.calls ++ [{ thread := thread }])
    (number : Nat) (call : RunCall) : next.calls[number]? = some call ↔
      state.calls[number]? = some call ∨ number = state.calls.length ∧ call = { thread := thread } := by
  rw [calls]
  rcases Nat.lt_trichotomy number state.calls.length with inside | rfl | beyond
  · simp [List.getElem?_append_left inside, Nat.ne_of_lt inside]
  · simp [eq_comm]
  · simp [List.getElem?_append_right (Nat.le_of_lt beyond), Nat.ne_of_gt beyond,
      List.getElem?_eq_none (Nat.le_of_lt beyond), Nat.sub_ne_zero_of_lt beyond]

theorem calls_go {number : Nat} {call moved : RunCall} (found : state.calls[number]? = some call)
    (calls : next.calls = state.calls.set number moved) (other : Nat) :
    next.calls[other]? = if other = number then some moved else state.calls[other]? := by
  have inside := (List.getElem?_eq_some_iff.mp found).1
  rw [calls, List.getElem?_set]
  by_cases same : other = number
  · subst same
    rw [if_pos rfl, if_pos inside, if_pos rfl]
  · rw [if_neg (Ne.symm same), if_neg same]

theorem Changes.sound (changes : state.Changes next) (sound : state.Sound) : next.Sound := by
  cases changes with
  | accepted thread free reactor calls =>
    have only (number : Nat) (underWay : next.UnderWay number) : number = state.calls.length := by
      obtain ⟨call, found, going⟩ := underWay
      rcases (calls_enter calls number call).mp found with older | ⟨last, -⟩
      · cases free.symm.trans (sound.active.mpr ⟨number, call, older, going⟩)
      · exact last
    have there : next.UnderWay state.calls.length :=
      ⟨_, (calls_enter calls _ _).mpr (.inr ⟨rfl, rfl⟩), by simp⟩
    constructor
    · intro first second begun going
      exact (only first begun).trans (only second going).symm
    · exact ⟨fun _ => ⟨_, there⟩, fun _ => by rw [reactor]⟩
  | @moved number call step phase found moves reactor calls =>
    have mine : state.UnderWay number := ⟨call, found, moves.not_left⟩
    have only (other : Nat) (underWay : next.UnderWay other) :
        other = number ∧ step ≠ .leave := by
      obtain ⟨moved, there, going⟩ := underWay
      rw [calls_go found calls] at there
      by_cases same : other = number
      · rw [if_pos same] at there
        obtain rfl := Option.some.inj there
        exact ⟨same, fun leaves => going (moves.left_iff.mpr leaves)⟩
      · rw [if_neg same] at there
        exact absurd (sound.one other number ⟨moved, there, going⟩ mine) same
    constructor
    · intro first second begun going
      exact (only first begun).1.trans (only second going).1.symm
    · rw [reactor]
      constructor
      · intro stays
        refine ⟨number, call.to phase, ?_, ?_⟩
        · rw [calls_go found calls, if_pos rfl]
        · intro leaves
          cases moves.left_iff.mp leaves
          cases stays
      · rintro ⟨other, underWay⟩
        have active := sound.active.mpr ⟨number, mine⟩
        -- The last step alone resets the flag, and after that one nobody is under way.
        cases step with
        | leave => exact absurd rfl (only other underWay).2
        | look | turn | fail | unwind | clear => exact active
  | drifted drifts calls =>
    have same (number : Nat) : next.UnderWay number ↔ state.UnderWay number := by
      rw [UnderWay, UnderWay, calls]
    constructor
    · intro first second begun going
      exact sound.one first second ((same first).mp begun) ((same second).mp going)
    · rw [drifts.1, sound.active]
      exact exists_congr fun number => (same number).symm

theorem run_sound {last : Runners} (sound : state.Sound) (acts : List RunAct)
    (ran : state.run? acts = some last) : last.Sound := by
  induction acts generalizing state with
  | nil =>
    obtain ⟨⟩ := ran
    exact sound
  | cons act rest ih =>
    obtain ⟨next, acted, ran⟩ := Option.bind_eq_some_iff.mp ran
    exact ih ((step_changes act acted).sound sound) ran

/-- As long as a call is in its loop a stop is pending, and it begins no pass any more. -/
structure Heeds (state : Runners) (number passes : Nat) : Prop where
  passes : ∀ call, state.calls[number]? = some call → call.passes = passes
  pending : ∀ call, state.calls[number]? = some call → call.phase.inLoop = true →
    state.reactor.stopRequested = true

theorem Changes.length_le (changes : state.Changes next) :
    state.calls.length ≤ next.calls.length := by
  cases changes with
  | accepted thread free reactor calls =>
    rw [calls, List.length_append]
    exact Nat.le_add_right _ _
  | moved found moves reactor calls =>
    exact Nat.le_of_eq (by rw [calls, List.length_set])
  | drifted drifts calls => exact Nat.le_of_eq (by rw [calls])

theorem Changes.heeds (changes : state.Changes next) (sound : state.Sound) {number passes : Nat}
    (known : number < state.calls.length) (heeds : state.Heeds number passes) :
    next.Heeds number passes := by
  cases changes with
  | accepted thread free reactor calls =>
    have older (call : RunCall) (found : next.calls[number]? = some call) :
        state.calls[number]? = some call := by
      rcases (calls_enter calls number call).mp found with older | ⟨last, -⟩
      · exact older
      · exact absurd last (Nat.ne_of_lt known)
    constructor
    · intro call found
      exact heeds.passes call (older call found)
    · intro call found inside
      rw [reactor]
      exact heeds.pending call (older call found) inside
  | @moved other moving step phase found moves reactor calls =>
    by_cases same : number = other
    · subst same
      have moved (call : RunCall) (there : next.calls[number]? = some call) :
          call = moving.to phase := by
        rw [calls_go found calls, if_pos rfl] at there
        exact (Option.some.inj there).symm
      have pending := heeds.pending moving found
      constructor
      · intro call there
        rw [moved call there, RunCall.to, if_neg]
        · exact heeds.passes moving found
        · intro begun
          obtain ⟨inside, calm⟩ := moves.calm begun
          cases calm.symm.trans (pending inside)
      · intro call there inside
        rw [moved call there] at inside
        obtain ⟨before, keeps⟩ := moves.inLoop inside
        rw [reactor, RunStep.on_stop _ keeps]
        exact pending before
    · have still (call : RunCall) (there : next.calls[number]? = some call) :
          state.calls[number]? = some call := by
        rwa [calls_go found calls, if_neg same] at there
      constructor
      · intro call there
        exact heeds.passes call (still call there)
      · intro call there inside
        -- No other call takes steps while one is in its loop.
        have mine : state.UnderWay number := by
          refine ⟨call, still call there, ?_⟩
          intro gone
          rw [gone] at inside
          cases inside
        have theirs : state.UnderWay other := ⟨moving, found, moves.not_left⟩
        exact absurd (sound.one number other mine theirs) same
  | drifted drifts calls =>
    constructor
    · rw [calls]
      exact heeds.passes
    · rw [calls]
      intro call found inside
      exact drifts.2 (heeds.pending call found inside)

theorem run_heeds {last : Runners} (sound : state.Sound) {number passes : Nat}
    (known : number < state.calls.length) (heeds : state.Heeds number passes)
    (acts : List RunAct) (ran : state.run? acts = some last) : last.Heeds number passes := by
  induction acts generalizing state with
  | nil =>
    obtain ⟨⟩ := ran
    exact heeds
  | cons act rest ih =>
    obtain ⟨next, acted, ran⟩ := Option.bind_eq_some_iff.mp ran
    have changes := step_changes act acted
    have later := Nat.lt_of_lt_of_le known changes.length_le
    exact ih (changes.sound sound) later (changes.heeds sound known heeds) ran

/-- Nobody is under way, or whoever is has used up the request to stop already. -/
def AllOver (state : Runners) : Prop :=
  ∀ (number : Nat) (call : RunCall), state.calls[number]? = some call →
    call.phase = .left ∨ call.phase = .cleared

/-- A stop is pending, and nobody will use it up who was accepted before. -/
structure Awaits (state : Runners) : Prop where
  pending : state.reactor.stopRequested = true
  spent : state.AllOver

/-- The stop goes on to wait, or it waits for the call that was accepted. -/
theorem Changes.awaits (changes : state.Changes next) (awaits : state.Awaits) :
    next.Awaits ∧ next.calls.length = state.calls.length ∨
      state.calls.length < next.calls.length ∧ next.Heeds state.calls.length 0 := by
  cases changes with
  | accepted thread free reactor calls =>
    have new (call : RunCall) (found : next.calls[state.calls.length]? = some call) :
        call = { thread := thread } := by
      rcases (calls_enter calls _ call).mp found with older | ⟨-, same⟩
      · exact absurd (List.getElem?_eq_some_iff.mp older).1 (Nat.lt_irrefl _)
      · exact same
    refine .inr ⟨?_, ?_, ?_⟩
    · rw [calls, List.length_append]
      exact Nat.lt_succ_self _
    · intro call found
      rw [new call found]
    · intro call found inside
      rw [reactor]
      exact awaits.pending
  | @moved number moving step phase found moves reactor calls =>
    obtain ⟨rfl, rfl⟩ := moves.leave_of_spent (awaits.spent number moving found)
    refine .inl ⟨⟨?_, ?_⟩, by rw [calls, List.length_set]⟩
    · rw [reactor]
      exact awaits.pending
    · intro other call there
      rw [calls_go found calls] at there
      by_cases same : other = number
      · rw [if_pos same] at there
        obtain rfl := Option.some.inj there
        exact .inl rfl
      · rw [if_neg same] at there
        exact awaits.spent other call there
  | drifted drifts calls =>
    refine .inl ⟨⟨drifts.2 awaits.pending, ?_⟩, by rw [calls]⟩
    rw [AllOver, calls]
    exact awaits.spent

theorem run_awaits {last : Runners} (sound : state.Sound) (awaits : state.Awaits)
    (acts : List RunAct) (ran : state.run? acts = some last) :
    last.Heeds state.calls.length 0 := by
  induction acts generalizing state with
  | nil =>
    obtain rfl := Option.some.inj ran
    have nobody (call : RunCall) : ¬ state.calls[state.calls.length]? = some call := by
      simp
    exact ⟨fun call found => absurd found (nobody call),
      fun call found => absurd found (nobody call)⟩
  | cons act rest ih =>
    obtain ⟨next, acted, ran⟩ := Option.bind_eq_some_iff.mp ran
    have changes := step_changes act acted
    -- Until the next call is accepted the stop waits for it, and from then on the call heeds it.
    rcases changes.awaits awaits with ⟨waits, same⟩ | ⟨known, heeds⟩
    · rw [← same]
      exact ih (changes.sound sound) waits ran
    · exact run_heeds (changes.sound sound) known heeds rest ran

/-- A call that heeds a stop leaves its loop when it looks. -/
theorem Heeds.closes {number passes : Nat} (heeds : state.Heeds number passes) (call : RunCall)
    (found : state.calls[number]? = some call) (first : call.phase = .head) (step : RunStep)
    (acted : state.step? (.go number step) = some next) :
    next.calls[number]? = some { call with phase := .closing } := by
  obtain ⟨moving, phase, there, moves, -, calls⟩ := go_cases acted
  obtain rfl := Option.some.inj (found.symm.trans there)
  have pending := heeds.pending call found (by rw [first]; rfl)
  obtain rfl := moves.closing_of_pending first pending
  rw [calls_go found calls, if_pos rfl]
  rfl

/-- What a call does that is to leave without another pass. -/
structure Leaves (state : Runners) (number passes : Nat) : Prop
    extends state.Heeds number passes where
  closes : ∀ call, state.calls[number]? = some call → call.phase = .head → ∀ step next,
    state.step? (.go number step) = some next →
      next.calls[number]? = some { call with phase := .closing }

theorem Heeds.leaves {number passes : Nat} (heeds : state.Heeds number passes) :
    state.Leaves number passes :=
  ⟨heeds, fun call found first step _ acted => heeds.closes call found first step acted⟩

/-! ### The loop as one of the runners -/

theorem run?_then {second third : Runners} {acts others : List RunAct}
    (before : state.run? acts = some second) (after : second.run? others = some third) :
    state.run? (acts ++ others) = some third := by
  rw [run?_append, before, Option.bind_some, after]

theorem run?_act (act : RunAct) (acted : state.step? act = some next) :
    state.run? [act] = some next := by
  rw [run?, acted, Option.bind_some, run?]

theorem run?_go (reactor : Reactor) (before : List RunCall) (call : RunCall) (step : RunStep)
    (phase : RunPhase)
    (went : RunPhase.next? reactor.stopRequested call.phase step = some phase) :
    run? ⟨reactor, before ++ [call]⟩ [.go before.length step] =
      some ⟨step.on reactor, before ++ [call.to phase]⟩ := by
  refine run?_act _ ?_
  rw [step?]
  dsimp only
  rw [List.getElem?_concat_length, Option.bind_some, went, Option.map_some,
    List.set_append_right _ _ (Nat.le_refl _), Nat.sub_self, List.set_cons_zero]

/-- The acts from one moment of a run to another one: a stop, if one came, and all that leaves the
flags alone. -/
def drift (before after : Reactor) : List RunAct :=
  if after.stopRequested = before.stopRequested then [.other after] else [.stop, .other after]

theorem run?_drift {before after : Reactor} (calls : List RunCall)
    (drifts : Drifts before after) :
    run? ⟨before, calls⟩ (drift before after) = some ⟨after, calls⟩ := by
  obtain ⟨active, stays⟩ := drifts
  rw [drift]
  split
  · rename_i same
    exact run?_act (.other after) (if_pos ⟨active, same⟩)
  · rename_i changed
    have pending : after.stopRequested = true := by
      cases requested : after.stopRequested with
      | true => rfl
      | false =>
        cases earlier : before.stopRequested with
        | true => cases requested.symm.trans (stays earlier)
        | false => exact absurd (requested.trans earlier.symm) changed
    have stopped : run? ⟨before, calls⟩ [.stop] = some ⟨before.stop, calls⟩ := run?_act .stop rfl
    exact run?_then stopped (run?_act (.other after) (if_pos ⟨active, pending⟩))

end Runners

/-- What observers ask of a reactor, and the own steps of a pass, let a run go on and keep a stop. -/
theorem Host.Tame.drifts {ω : Type} {host : Host ω} (tame : host.Tame) (start : Reactor) :
    host.Guards fun site => Runners.Drifts start site.reactor where
  toMinds := by
    refine tame.minds (Runners.Drifts start) ?_ (fun _ _ => id) (fun _ _ => id) fun _ _ => id
    intro reactor use before
    cases use with
    | add | remove => exact before
    | stop => exact ⟨before.1, fun _ => rfl⟩
  mute _ _ _ := id

theorem Passing.stop_of_done {ω : Type} {host : Host ω} {site : Site ω} {starts : List (Site ω)}
    {result : RunEnd × Site ω} (passing : Passing host site starts result)
    (done : result.1 = .done) : result.2.reactor.stopRequested = true := by
  induction passing with
  | stopped stop => exact stop
  | onward _ _ _ ih => exact ih done
  | unfinished | failed | panicked => cases done

namespace Runners

/-- How a call goes on from a pass. -/
def stepAfter : Loop.PassEnd → RunStep
  | .onward => .turn
  | .failed _ => .fail
  | .panicked => .unwind

/-- Where a call stands whose passes are over. After a stop it has yet to look. -/
def afterPasses : RunEnd → RunPhase
  | .failed _ => .closing
  | .panicked => .lost
  | .done | .unfinished | .refused => .head

def afterRun : RunEnd → RunPhase
  | .done | .failed _ => .left
  | .panicked => .lost
  | .unfinished | .refused => .head

section

variable {ω : Type}

/-- The acts of a pass: a look that finds no stop, all that happens in the pass, and how it ends. -/
def passActs (host : Host ω) (number : Nat) (site : Site ω) : List RunAct :=
  .go number .look :: drift site.reactor (Loop.pass host site).2.reactor ++
    [.go number (stepAfter (Loop.pass host site).1)]

/-- The acts of the end of a run: all that happens in its broadcast, and its two last steps. -/
def closeActs (host : Host ω) (number : Nat) (site : Site ω) : List RunAct :=
  drift site.reactor (Loop.broadcast host .shutdown site).2.reactor ++
    match (Loop.broadcast host .shutdown site).1 with
    | .returned => [.go number .clear, .go number .leave]
    | .panicked => [.go number .unwind]

/-- The acts of a run, from the sites that its passes start from and from how these end. -/
def runActs (host : Host ω) (number : Nat) (starts : List (Site ω)) (ended : RunEnd × Site ω) :
    List RunAct :=
  starts.flatMap (passActs host number) ++
    match ended.1 with
    | .done => .go number .look :: closeActs host number ended.2
    | .failed _ => closeActs host number ended.2
    | .panicked | .unfinished | .refused => []

variable {host : Host ω} (tame : host.Tame) (before : List RunCall)

include tame

theorem run?_pass {site next : Site ω} {ending : Loop.PassEnd}
    (went : Loop.pass host site = (ending, next)) (call : RunCall) (first : call.phase = .head)
    (calm : site.reactor.stopRequested = false) (phase : RunPhase)
    (moves : RunPhase.next? next.reactor.stopRequested .passing (stepAfter ending) = some phase) :
    run? ⟨site.reactor, before ++ [call]⟩ (passActs host before.length site) =
      some ⟨next.reactor, before ++ [{ call with phase, passes := call.passes + 1 }]⟩ := by
  have drifts : Drifts site.reactor next.reactor := by
    have kept := Loop.pass_preserves (tame.drifts site.reactor) site ⟨rfl, id⟩
    rwa [went] at kept
  have looked := run?_go site.reactor before call .look .passing (by rw [first, calm]; rfl)
  have passed := run?_drift (before ++ [call.to .passing]) drifts
  have ended := run?_go next.reactor before (call.to .passing) (stepAfter ending) phase moves
  have still : (stepAfter ending).on next.reactor = next.reactor := by
    cases ending <;> rfl
  have through : phase ≠ .passing := by
    rintro rfl
    have after := RunPhase.moves_of_next moves
    cases ending <;> cases after
  have moved : (call.to .passing).to phase = { call with phase, passes := call.passes + 1 } := by
    simp [RunCall.to, through]
  rw [still, moved] at ended
  rw [passActs, went]
  exact run?_then (run?_then looked passed) ended

/-- Passes that follow each other are steps of one call, which counts them. -/
theorem run?_passing {site : Site ω} {starts : List (Site ω)} {result : RunEnd × Site ω}
    (passing : Passing host site starts result) (call : RunCall) (first : call.phase = .head) :
    run? ⟨site.reactor, before ++ [call]⟩ (starts.flatMap (passActs host before.length)) =
      some ⟨result.2.reactor, before ++ [{ call with
        phase := afterPasses result.1, passes := call.passes + starts.length }]⟩ := by
  induction passing generalizing call with
  | stopped | unfinished =>
    cases call
    subst first
    rfl
  | @onward site next starts result calm went rest ih =>
    have passed := run?_pass tame before went call first calm .head rfl
    have later := ih { call with phase := .head, passes := call.passes + 1 } rfl
    rw [Nat.add_assoc, Nat.add_comm 1] at later
    exact run?_then passed later
  | failed calm went =>
    rw [List.flatMap_singleton]
    exact run?_pass tame before went call first calm .closing rfl
  | panicked calm went =>
    rw [List.flatMap_singleton]
    exact run?_pass tame before went call first calm .lost rfl

theorem run?_close (ends : RunEnd) (last : Site ω) (leaves : afterRun ends = .left)
    (call : RunCall) (closing : call.phase = .closing) :
    run? ⟨last.reactor, before ++ [call]⟩ (closeActs host before.length last) =
      some ⟨(Loop.close host ends last).2.reactor, before ++
        [{ call with phase := afterRun (Loop.close host ends last).1 }]⟩ := by
  have drifts := Loop.broadcast_preserves (tame.drifts last.reactor).toMinds .shutdown last
    ⟨rfl, id⟩
  rw [Loop.close, closeActs]
  cases sent : Loop.broadcast host .shutdown last with
  | mk ending after =>
    rw [sent] at drifts
    have drifted := run?_drift (before ++ [call]) drifts
    cases ending with
    | returned =>
      have cleared := run?_go after.reactor before call .clear .cleared (by rw [closing]; rfl)
      have left := run?_go after.reactor.clearStop before (call.to .cleared) .leave .left rfl
      dsimp only
      rw [leaves]
      exact run?_then drifted (run?_then cleared left)
    | panicked =>
      exact run?_then drifted
        (run?_go after.reactor before call .unwind .lost (by rw [closing]; rfl))

/-- A run that is accepted is one more call, and its passes and its end are the acts of that call. -/
theorem run?_loop (fuel : Nat) (site : Site ω) (idle : site.reactor.active = false) (thread : Nat)
    (starts : List (Site ω))
    (passing : Passing host site.entered starts (Loop.passes host fuel site.entered)) :
    run? ⟨site.reactor, before⟩ (.enter thread ::
        runActs host before.length starts (Loop.passes host fuel site.entered)) =
      some ⟨(Loop.run host fuel site).2.reactor, before ++ [{
        thread, phase := afterRun (Loop.run host fuel site).1, passes := starts.length }]⟩ := by
  have entered : run? ⟨site.reactor, before⟩ [.enter thread] =
      some ⟨site.entered.reactor, before ++ [{ thread := thread }]⟩ := by
    refine run?_act (.enter thread) ?_
    rw [step?, Reactor.enter?, idle]
    rfl
  have passed := run?_passing tame before passing { thread := thread } rfl
  have refused := passing.not_refused
  have stopped := passing.stop_of_done
  rw [Nat.zero_add] at passed
  rw [← List.singleton_append]
  refine run?_then entered ?_
  rw [Loop.run_of_idle host fuel site idle]
  cases whole : Loop.passes host fuel site.entered with
  | mk ends last =>
    rw [whole] at passed refused stopped
    cases ends with
    | done =>
      have looked := run?_go last.reactor before
        { thread := thread, phase := .head, passes := starts.length } .look .closing
        (by rw [stopped rfl]; rfl)
      exact run?_then passed (run?_then looked (run?_close tame before .done last rfl _ rfl))
    | failed errno => exact run?_then passed (run?_close tame before (.failed errno) last rfl _ rfl)
    | refused => exact absurd rfl refused
    | panicked | unfinished => exact run?_then passed rfl

end

/-- Of all the calls of run that any threads make, one at most is under way. A stop that comes while a
call is in its loop stays until that loop is over, and one that comes later stays for the next call,
which then makes no pass at all. A call that is refused changes nothing. The loop is such a call: its
looks, its passes, the stops that come in them and its two last steps are the acts that it makes. -/
theorem stops_are_heeded (settings : Settings) (acts : List RunAct) (state : Runners)
    (reached : (start settings).run? acts = some state) :
    (∀ first second, state.UnderWay first → state.UnderWay second → first = second) ∧
    (state.reactor.active = true ↔ ∃ number, state.UnderWay number) ∧
    (∀ number call, state.calls[number]? = some call → call.phase.inLoop = true →
      ∀ later last, state.run? (.stop :: later) = some last → last.Leaves number call.passes) ∧
    (state.AllOver → ∀ later last, state.run? (.stop :: later) = some last →
      last.Leaves state.calls.length 0) ∧
    (∀ thread, state.reactor.active = true → state.step? (.enter thread) = some state) ∧
    ∀ (ω : Type) (host : Host ω), host.Tame → ∀ fuel site thread, state.reactor = site.reactor →
      (state.reactor.active = true → Loop.run host fuel site = (.refused, site)) ∧
      (state.reactor.active = false → ∃ starts,
        Passing host site.entered starts (Loop.passes host fuel site.entered) ∧
        ((Loop.passes host fuel site.entered).1 = .unfinished → starts.length = fuel) ∧
        state.run? (.enter thread ::
            runActs host state.calls.length starts (Loop.passes host fuel site.entered)) =
          some
            { reactor := (Loop.run host fuel site).2.reactor
              calls := state.calls ++ [{
                thread
                phase := afterRun (Loop.run host fuel site).1
                passes := starts.length }] }) := by
  have sound := run_sound (start_sound settings) acts reached
  let stopped : Runners := { state with reactor := state.reactor.stop }
  have still : stopped.Sound := (step_changes .stop rfl).sound sound
  refine ⟨sound.one, sound.active, ?_, ?_, ?_, ?_⟩
  · intro number call found inside later last ran
    have known : number < stopped.calls.length := (List.getElem?_eq_some_iff.mp found).1
    have heeds : stopped.Heeds number call.passes := by
      refine ⟨fun other there => ?_, fun _ _ _ => rfl⟩
      rw [Option.some.inj (there.symm.trans found)]
    exact (run_heeds still known heeds later ran).leaves
  · intro spent later last ran
    have awaits : stopped.Awaits := ⟨rfl, spent⟩
    exact (run_awaits still awaits later ran).leaves
  · intro thread active
    rw [step?, Reactor.enter?, if_pos active, Option.elim_none]
  · intro ω host tame fuel site thread same
    refine ⟨?_, ?_⟩
    · intro active
      exact Loop.run_of_active fuel site (same ▸ active)
    · intro idle
      obtain ⟨reactor, calls⟩ := state
      obtain rfl : reactor = site.reactor := same
      obtain ⟨starts, passing, many⟩ := Loop.passes_passing host fuel site.entered
      exact ⟨starts, passing, many, run?_loop tame calls fuel site idle thread starts passing⟩

/-- A stop meets a pass, and another thread is refused meanwhile; a second one comes between the two
last steps of the run, and waits for the next one. A loop is stopped by an observer in its first
pass. -/
theorem stops_are_heeded_twice :
    let passing : List RunAct := [.enter 1, .go 0 .look]
    let ending : List RunAct := [.enter 1, .stop, .go 0 .look, .go 0 .clear]
    let site := Site.attended
    let observed : Runners := { reactor := site.reactor }
    let finished := Loop.passes Host.stopping 2 site.entered
    ∃ state last ended next, (start {}).run? passing = some state ∧
      state.run? [.stop, .enter 2, .go 0 .turn] = some last ∧ last.Leaves 0 1 ∧
      (start {}).run? ending = some ended ∧ ended.AllOver ∧
      ended.run? [.stop, .go 0 .leave, .enter 2] = some next ∧ next.Leaves 1 0 ∧
      state.step? (.enter 2) = some state ∧ Host.stopping.Tame ∧
      (start {}).run? [.other site.reactor] = some observed ∧
      observed.run? (.enter 1 :: runActs Host.stopping 0 [site.entered] finished) =
        some { reactor := (Loop.run Host.stopping 2 site).2.reactor
               calls := [{ thread := 1, phase := .left, passes := 1 }] } ∧
      .stop ∈ runActs Host.stopping 0 [site.entered] finished := by
  intro passing ending site observed finished
  have begun : ∃ state last, (start {}).run? passing = some state ∧
      state.run? [.stop, .enter 2, .go 0 .turn] = some last ∧ state.reactor.active = true ∧
      state.calls[0]? = some { thread := 1, phase := .passing, passes := 1 } :=
    ⟨_, _, rfl, rfl, rfl, rfl⟩
  obtain ⟨state, last, reached, went, active, found⟩ := begun
  have finished : ∃ ended next, (start {}).run? ending = some ended ∧
      ended.run? [.stop, .go 0 .leave, .enter 2] = some next ∧
      ended.calls = [{ thread := 1, phase := .cleared }] := ⟨_, _, rfl, rfl, rfl⟩
  obtain ⟨ended, next, closed, waits, calls⟩ := finished
  have allOver : ended.AllOver := by
    intro number call there
    rw [calls] at there
    obtain rfl := List.mem_singleton.mp (List.mem_of_getElem? there)
    exact .inr rfl
  obtain ⟨-, -, inside, -, refused, -⟩ := stops_are_heeded {} passing state reached
  obtain ⟨-, -, -, outside, -, -⟩ := stops_are_heeded {} ending ended closed
  have watched : (start {}).run? [.other site.reactor] = some observed := rfl
  obtain ⟨-, -, -, -, -, runs⟩ := stops_are_heeded {} [.other site.reactor] observed watched
  obtain ⟨starts, passes, -, ran⟩ :=
    (runs Unit Host.stopping Host.stopping_tame 2 site 1 rfl).2 rfl
  have once : ∀ result, Passing Host.stopping site.entered starts result → result.1 = .done →
      starts = [site.entered] := by
    intro result passes done
    cases passes with
    | stopped stop => cases stop
    | unfinished | failed | panicked => cases done
    | onward _ went rest =>
      obtain rfl := congrArg Prod.snd went
      cases rest with
      | stopped | unfinished => rfl
      | onward calm | failed calm | panicked calm => cases calm
  obtain rfl := once finished passes rfl
  have left : afterRun (Loop.run Host.stopping 2 site).1 = .left := by decide
  have stops : .stop ∈ passActs Host.stopping 0 site.entered := by
    have asked : (Loop.pass Host.stopping site.entered).2.reactor.stopRequested = true := by decide
    have calm : site.entered.reactor.stopRequested = false := rfl
    simp [passActs, drift, asked, calm]
  rw [left] at ran
  refine ⟨state, last, ended, next, reached, went, inside 0 _ found rfl _ last went, closed, allOver,
    waits, ?_, refused 2 active, Host.stopping_tame, watched, ran, List.mem_append_left _ ?_⟩
  · have leaves := outside allOver _ next waits
    rwa [calls] at leaves
  · rwa [List.flatMap_singleton]

end Runners

end SocketLoop
