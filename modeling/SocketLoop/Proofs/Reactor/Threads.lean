import SocketLoop.Proofs.Registry.Rows
import SocketLoop.Reactor.Basic

/-! Threads on one reactor. One of them may dispatch a snapshot; all of them register and remove
observers, the dispatching one from inside an observer only. An act is what happens under one lock,
or the entry and the return of an observer. -/
namespace SocketLoop

inductive Phase where
  | unseen
  /-- It was live and its call is published. -/
  | published
  | running
  | returned
deriving DecidableEq

structure Threads where
  reactor : Reactor := {}
  dispatcher : Option (Nat × Phase) := none
  /-- The threads inside a removal that matched, each with the number of the registration. -/
  removing : List (Nat × Nat) := []
deriving DecidableEq

inductive Act where
  | take (thread : Nat) (socket : Handle) (kind : Kind)
  /-- The first registration is skipped if it is not live; else its call is published. -/
  | check
  | enter (number : Nat)
  | leave
  | unwind
  | clear
  | done
  | add (thread : Nat) (socket : Handle) (kind : Kind) (observer : Nat)
  /-- A removal begins: the registration, if there is one, is taken out. -/
  | strike (thread : Nat) (socket : Handle) (kind : Kind) (observer : Nat)
  /-- A removal that matched returns. -/
  | settle (thread number : Nat)
  | mute (socket : Handle) (evenIfRead : Bool)
  | stop
deriving DecidableEq

namespace Threads

def isFree (threads : Threads) (thread : Nat) : Bool :=
  threads.removing.all fun row => row.1 != thread

def mayAct (threads : Threads) (thread : Nat) : Bool :=
  threads.isFree thread && match threads.dispatcher with
    | none => true
    | some (other, phase) => other != thread || phase == .running

/-- The thread that calls an observer and the number of the registration called, from the
publication of the call until its record is cleared. -/
def calling (threads : Threads) : Option (Nat × Nat) :=
  match threads.dispatcher, threads.reactor.armed with
  | none, _ | some (_, .unseen), _ | _, [] => none
  | some (thread, _), armed :: _ => some (thread, armed.number)

/-- Whether the removal of a registration by a thread has to wait: another thread is calling it. -/
def waits (threads : Threads) (thread number : Nat) : Bool :=
  threads.reactor.inFlight == some number && match threads.dispatcher with
    | none => false
    | some (other, _) => other != thread

def step? (threads : Threads) : Act → Option Threads
  | .take thread socket kind =>
    if threads.dispatcher = none ∧ threads.isFree thread then
      some { threads with
        reactor := { threads.reactor with
          armed := threads.reactor.registry.snapshot socket.descriptor kind }
        dispatcher := some (thread, .unseen) }
    else none
  | .check =>
    match threads.dispatcher, threads.reactor.armed with
    | some (thread, .unseen), armed :: rest =>
      match threads.reactor.publish? armed with
      | none => some { threads with reactor := { threads.reactor with armed := rest } }
      | some reactor => some { threads with reactor, dispatcher := some (thread, .published) }
    | _, _ => none
  | .enter number =>
    match threads.dispatcher, threads.reactor.armed with
    | some (thread, .published), armed :: _ =>
      if armed.number = number then some { threads with dispatcher := some (thread, .running) }
      else none
    | _, _ => none
  | .leave =>
    match threads.dispatcher with
    | some (thread, .running) =>
      if threads.isFree thread then some { threads with dispatcher := some (thread, .returned) }
      else none
    | _ => none
  | .unwind =>
    match threads.dispatcher with
    | some (thread, .running) =>
      if threads.isFree thread then
        some { threads with
          reactor := { threads.reactor.finish with armed := [] }
          dispatcher := none }
      else none
    | _ => none
  | .clear =>
    match threads.dispatcher with
    | some (thread, .returned) =>
      some { threads with
        reactor := { threads.reactor.finish with armed := threads.reactor.armed.tail }
        dispatcher := some (thread, .unseen) }
    | _ => none
  | .done =>
    match threads.dispatcher, threads.reactor.armed with
    | some (_, .unseen), [] => some { threads with dispatcher := none }
    | _, _ => none
  | .add thread socket kind observer =>
    if threads.mayAct thread then
      some { threads with reactor := threads.reactor.addHandler socket kind observer }
    else none
  | .strike thread socket kind observer =>
    if threads.mayAct thread then
      match (threads.reactor.registry.remove socket kind observer).1 with
      | none => some threads
      | some number =>
        some { threads with
          reactor := threads.reactor.removeHandler socket kind observer
          removing := (thread, number) :: threads.removing }
    else none
  | .settle thread number =>
    if (thread, number) ∈ threads.removing ∧ threads.waits thread number = false then
      some { threads with removing := threads.removing.erase (thread, number) }
    else none
  | .mute socket evenIfRead =>
    some { threads with reactor := { threads.reactor with
      registry := threads.reactor.registry.mute socket.descriptor evenIfRead } }
  | .stop => some { threads with reactor := threads.reactor.stop }

def run? (threads : Threads) : List Act → Option Threads
  | [] => some threads
  | act :: rest => (threads.step? act).bind fun next => next.run? rest

theorem run?_append (threads : Threads) (first second : List Act) :
    threads.run? (first ++ second) = (threads.run? first).bind fun next => next.run? second := by
  induction first generalizing threads with
  | nil => rfl
  | cons act rest ih =>
    simp only [List.cons_append, run?]
    cases threads.step? act with
    | none => rfl
    | some next => exact ih next

/-- What holds wherever acts lead. -/
structure Sound (threads : Threads) : Prop where
  registry : threads.reactor.registry.Sound
  armed : ∀ armed ∈ threads.reactor.armed, armed.number < threads.reactor.registry.next
  /-- The record of the call in flight tells the call that is being made. -/
  flight : threads.reactor.inFlight = threads.calling.map Prod.snd
  dead : ∀ row ∈ threads.removing, row.2 ∈ threads.reactor.registry.cleared
  /-- A thread that dispatches removes from inside an observer only. -/
  inside : ∀ row ∈ threads.removing, ∀ phase, threads.dispatcher = some (row.1, phase) →
    phase = .running

def start (settings : Settings) : Threads := { reactor := { settings } }

theorem start_sound (settings : Settings) : (start settings).Sound := by
  constructor <;> simp [start, calling, Registry.sound_empty]

private theorem add_sound {threads : Threads} (sound : threads.Sound) (socket : Handle)
    (kind : Kind) (observer : Nat) :
    Sound { threads with reactor := threads.reactor.addHandler socket kind observer } := by
  refine ⟨Registry.add_sound _ sound.registry _ _ _, ?_, sound.flight, ?_, sound.inside⟩
  · intro armed member
    exact Nat.lt_of_lt_of_le (sound.armed armed member) (Registry.next_le_add _ _ _ _)
  · intro row member
    simpa [Reactor.addHandler] using sound.dead row member

private theorem strike_sound {threads : Threads} (sound : threads.Sound) (socket : Handle)
    (kind : Kind) (observer thread number : Nat) (may : threads.mayAct thread = true)
    (found : (threads.reactor.registry.remove socket kind observer).1 = some number) :
    Sound { threads with
      reactor := threads.reactor.removeHandler socket kind observer
      removing := (thread, number) :: threads.removing } := by
  refine ⟨Registry.remove_sound _ sound.registry _ _ _, ?_, sound.flight, ?_, ?_⟩
  · intro armed member
    simpa [Reactor.removeHandler] using sound.armed armed member
  · intro row member
    simp only [Reactor.removeHandler, Registry.remove_cleared, found]
    rcases List.mem_cons.mp member with rfl | old
    · simp
    · simp [sound.dead row old]
  · intro row member phase stands
    rcases List.mem_cons.mp member with rfl | old
    · have stands : threads.dispatcher = some (thread, phase) := stands
      simp only [mayAct, stands, bne_self_eq_false, Bool.false_or, Bool.and_eq_true,
        beq_iff_eq] at may
      exact may.2
    · exact sound.inside row old phase stands

private theorem free_outside {threads : Threads} {thread : Nat}
    (free : threads.isFree thread = true) : ∀ row ∈ threads.removing, row.1 ≠ thread := by
  simpa [isFree] using free

theorem step_sound {threads next : Threads} (sound : threads.Sound) (act : Act)
    (acted : threads.step? act = some next) : next.Sound := by
  have ⟨registry, armed, flight, dead, inside⟩ := sound
  cases act with
  | take thread socket kind =>
    simp only [step?, Option.ite_none_right_eq_some, Option.some.injEq] at acted
    obtain ⟨⟨idle, free⟩, rfl⟩ := acted
    refine ⟨registry, ?_, ?_, dead, ?_⟩
    · intro registration member
      have row := ((Registry.mem_snapshot _ registry _ _ _).mp member).1
      exact registry.issued _ row
    · rw [flight]
      simp [calling, idle]
    · rintro row member phase ⟨⟩
      exact absurd rfl (free_outside free row member)
  | check =>
    simp only [step?] at acted
    split at acted
    · rename_i thread first rest stands snapshot
      split at acted
      · obtain ⟨⟩ := acted
        refine ⟨registry, ?_, ?_, dead, inside⟩
        · intro registration member
          exact armed registration (by simp [snapshot, member])
        · rw [flight]
          simp [calling, stands]
      · rename_i reactor published
        obtain ⟨⟩ := acted
        simp only [Reactor.publish?, Option.ite_none_right_eq_some, Option.some.injEq] at published
        obtain ⟨-, rfl⟩ := published
        refine ⟨registry, armed, ?_, dead, ?_⟩
        · simp [calling, snapshot]
        · rintro row member phase ⟨⟩
          exact absurd (inside row member _ stands) (by simp)
    · cases acted
  | enter number =>
    simp only [step?] at acted
    split at acted
    · rename_i thread first rest stands snapshot
      simp only [Option.ite_none_right_eq_some, Option.some.injEq] at acted
      obtain ⟨-, rfl⟩ := acted
      refine ⟨registry, armed, ?_, dead, ?_⟩
      · rw [flight]
        simp [calling, stands, snapshot]
      · rintro row member phase ⟨⟩
        rfl
    · cases acted
  | leave =>
    simp only [step?] at acted
    split at acted
    · rename_i thread stands
      simp only [Option.ite_none_right_eq_some, Option.some.injEq] at acted
      obtain ⟨free, rfl⟩ := acted
      refine ⟨registry, armed, ?_, dead, ?_⟩
      · rw [flight]
        simp only [calling, stands]
        split <;> simp_all
      · rintro row member phase ⟨⟩
        exact absurd rfl (free_outside free row member)
    · cases acted
  | unwind =>
    simp only [step?] at acted
    split at acted
    · rename_i thread stands
      simp only [Option.ite_none_right_eq_some, Option.some.injEq] at acted
      obtain ⟨free, rfl⟩ := acted
      refine ⟨registry, ?_, ?_, dead, ?_⟩
      · intro registration member
        cases member
      · simp [calling, Reactor.finish]
      · rintro row member phase ⟨⟩
    · cases acted
  | clear =>
    simp only [step?] at acted
    split at acted
    · rename_i thread stands
      obtain ⟨⟩ := acted
      refine ⟨registry, ?_, ?_, dead, ?_⟩
      · intro registration member
        exact armed registration (List.mem_of_mem_tail member)
      · simp [calling, Reactor.finish]
      · rintro row member phase ⟨⟩
        exact absurd (inside row member _ stands) (by simp)
    · cases acted
  | done =>
    simp only [step?] at acted
    split at acted
    · rename_i thread stands snapshot
      obtain ⟨⟩ := acted
      refine ⟨registry, armed, ?_, dead, ?_⟩
      · rw [flight]
        simp [calling, stands]
      · rintro row member phase ⟨⟩
    · cases acted
  | add thread socket kind observer =>
    simp only [step?, Option.ite_none_right_eq_some, Option.some.injEq] at acted
    obtain ⟨-, rfl⟩ := acted
    exact add_sound sound socket kind observer
  | strike thread socket kind observer =>
    simp only [step?, Option.ite_none_right_eq_some] at acted
    obtain ⟨may, acted⟩ := acted
    split at acted
    · obtain ⟨⟩ := acted
      exact sound
    · rename_i number found
      obtain ⟨⟩ := acted
      exact strike_sound sound socket kind observer thread number may found
  | settle thread number =>
    simp only [step?, Option.ite_none_right_eq_some, Option.some.injEq] at acted
    obtain ⟨-, rfl⟩ := acted
    refine ⟨registry, armed, flight, ?_, ?_⟩
    · intro row member
      exact dead row (List.mem_of_mem_erase member)
    · intro row member
      exact inside row (List.mem_of_mem_erase member)
  | mute socket evenIfRead =>
    obtain ⟨⟩ := acted
    exact ⟨Registry.mute_sound _ registry _ _, armed, flight, dead, inside⟩
  | stop =>
    obtain ⟨⟩ := acted
    exact ⟨registry, armed, flight, dead, inside⟩

theorem run_sound {threads last : Threads} (sound : threads.Sound) (acts : List Act)
    (ran : threads.run? acts = some last) : last.Sound := by
  induction acts generalizing threads with
  | nil =>
    obtain ⟨⟩ := ran
    exact sound
  | cons act rest ih =>
    obtain ⟨next, acted, ran⟩ := Option.bind_eq_some_iff.mp ran
    exact ih (step_sound sound act acted) ran

end Threads

end SocketLoop
