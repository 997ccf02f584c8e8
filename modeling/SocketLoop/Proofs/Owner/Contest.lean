import Mathlib.Logic.Function.Basic
import SocketLoop.Owner.Basic

/-! Who decides a connect attempt. Its starter, the notification that resolves it and any number of
aborts, each on any thread, deal with it move by move. A move is what happens under one lock of the
attempt, or the end of the factory. -/
namespace SocketLoop

inductive Party where
  | starter
  | resolver
  | abort (number : Nat)
deriving DecidableEq

inductive Stance where
  /-- The starter has not begun to connect. -/
  | fresh
  | away
  | checked
  | building
  | ending (failure? : Option Failure)
  /-- It has written the failure and is about to tell it. -/
  | telling (failure : Failure)
deriving DecidableEq

abbrev Status := AttemptState × Option Errno

def Attempt.finish (attempt : Attempt) : Option Failure → Attempt
  | none => { attempt with state := .connected, errno := none }
  | some failure => { attempt with state := .failed, errno := failure.errno? }

/-- Where a party is once it has written an end: a failure is still to be told. -/
def Stance.written : Option Failure → Stance
  | none => .away
  | some failure => .telling failure

def Status.ended : Option Failure → Status
  | none => (.connected, none)
  | some failure => (.failed, failure.errno?)

def Status.canceled : Status := (.failed, some Errno.canceled)

/-- Whether an attempt may go from one status to another one: it connects, or fails at once, and it
ends connected or failed, once. -/
def Status.mayBecome (earlier later : Status) : Prop :=
  later = earlier ∨ (earlier.1 = .idle ∧ (later = (.connecting, none) ∨ later.1 = .failed)) ∨
    (earlier.1 = .connecting ∧ (later = (.connected, none) ∨ later.1 = .failed))

structure Contest where
  attempt : Attempt
  stance : Party → Stance
  /-- Every status that was written, newest first. -/
  history : List Status
  /-- Every failure that was told, newest first. -/
  told : List (Option Errno) := []
  attached : Nat := 0
  aborted : Bool := false
  /-- The end that the starter or the resolver has decided on. -/
  verdict : Option Status := none

inductive Move where
  | launch (failure? : Option Failure)
  | check (party : Party)
  /-- The resolver has read how the connect went and takes the factory. -/
  | read (failure? : Option Failure)
  /-- An abort takes the factory away. -/
  | drop (number : Nat)
  | build (failure? : Option Failure)
  | unwind
  /-- The end of the attempt is written. -/
  | write (party : Party)
  /-- The callback that waits for a failure, if there is one, is taken and called. -/
  | tell (party : Party)
deriving DecidableEq

namespace Contest

def go (contest : Contest) (party : Party) (stance : Stance) : Contest :=
  { contest with stance := Function.update contest.stance party stance }

theorem stance_go (contest : Contest) (party other : Party) (stance : Stance) :
    (contest.go party stance).stance other =
      if other = party then stance else contest.stance other :=
  Function.update_apply _ _ _ _

theorem stance_stays {contest : Contest} {party other : Party} {stance : Stance} (target : Stance)
    (stands : contest.stance other = stance) (apart : contest.stance party ≠ stance) :
    (contest.go party target).stance other = stance := by
  rw [stance_go, if_neg, stands]
  rintro rfl
  exact apart stands

def conclude (contest : Contest) (failure? : Option Failure) : Contest :=
  go { contest with verdict := some (.ended failure?) } .resolver (.ending failure?)

/-- Makes a move, where the parties stand so that it can be made. -/
def step? (contest : Contest) : Move → Option Contest
  | .launch none =>
    if contest.stance .starter = .fresh then
      some (go { contest with
        attempt := { contest.attempt with state := .connecting }
        history := (.connecting, none) :: contest.history } .starter .away)
    else none
  | .launch (some failure) =>
    if contest.stance .starter = .fresh then
      some (go { contest with verdict := some (.ended (some failure)) } .starter
        (.ending (some failure)))
    else none
  | .check party =>
    if contest.stance party = .away ∧ party ≠ .starter then
      if contest.attempt.state = .connecting then
        some (go { contest with aborted := contest.aborted || party != .resolver } party .checked)
      else some contest
    else none
  | .read failure? =>
    if contest.stance .resolver = .checked then
      let taken := { contest with attempt := { contest.attempt with factory := false } }
      if failure? = none ∧ contest.attempt.factory = true then some (taken.go .resolver .building)
      else some (taken.conclude failure?)
    else none
  | .drop number =>
    if contest.stance (.abort number) = .checked then
      some (go { contest with attempt := { contest.attempt with factory := false } }
        (.abort number) (.ending (some (.system Errno.canceled))))
    else none
  | .build failure? =>
    if contest.stance .resolver = .building then
      some (conclude { contest with
        attached := contest.attached + (if failure? = none then 1 else 0) } failure?)
    else none
  | .unwind =>
    if contest.stance .resolver = .building then some (contest.go .resolver .away) else none
  | .write party =>
    match contest.stance party with
    | .ending failure? =>
      some (go { contest with
        attempt := contest.attempt.finish failure?
        history := .ended failure? :: contest.history } party (.written failure?))
    | _ => none
  | .tell party =>
    match contest.stance party with
    | .telling failure =>
      some (go { contest with
        attempt := { contest.attempt with onFailure := false }
        told := if contest.attempt.onFailure then failure.errno? :: contest.told
          else contest.told } party .away)
    | _ => none

def start (onFailure : Bool) : Contest where
  attempt := { onFailure }
  stance party := if party = .starter then .fresh else .away
  history := [(.idle, none)]

def Quiet (contest : Contest) : Prop := ∀ party, contest.stance party = .away

end Contest

end SocketLoop
