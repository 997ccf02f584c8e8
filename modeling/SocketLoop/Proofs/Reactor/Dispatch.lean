import SocketLoop.Proofs.Reactor.Threads
import SocketLoop.Proofs.Reactor.Turns

/-! A dispatch of the loop is a run of acts of the thread that it runs on. Its calls are the entries
of that run, and what its observers do to the reactor is done in between. -/
namespace SocketLoop

def Act.entered? : Act → Option Nat
  | .enter number => some number
  | _ => none

def Event.called? : Event → Option Nat
  | .called _ armed _ => some armed.number
  | _ => none

def Site.callees {ω : Type} (site : Site ω) : List Nat :=
  (site.journal.filterMap Event.called?).reverse

def Threads.entries (acts : List Act) : List Nat := acts.filterMap Act.entered?

namespace Threads

variable {ω : Type} (threads : Threads) (thread : Nat)

theorem run?_cons {threads next : Threads} {act : Act} (acted : threads.step? act = some next)
    (rest : List Act) : threads.run? (act :: rest) = next.run? rest := by
  rw [run?, acted]
  rfl

/-- From inside an observer a removal does not wait. -/
theorem use_run (inside : threads.dispatcher = some (thread, .running))
    (free : threads.isFree thread = true) (use : Reactor.Use) :
    ∃ acts, threads.run? acts = some { threads with reactor := threads.reactor.use use } ∧
      entries acts = [] := by
  have may : threads.mayAct thread = true := by simp [mayAct, free, inside]
  cases use with
  | add socket kind observer =>
    refine ⟨[.add thread socket kind observer], ?_, rfl⟩
    simp [run?, step?, may, Reactor.use]
  | stop => exact ⟨[.stop], rfl, rfl⟩
  | remove socket kind observer =>
    cases removed : (threads.reactor.registry.remove socket kind observer).1 with
    | none =>
      refine ⟨[.strike thread socket kind observer], ?_, rfl⟩
      simp [run?, step?, may, removed, Reactor.use, Reactor.removeHandler_of_absent _ _ _ _ removed]
    | some number =>
      refine ⟨[.strike thread socket kind observer, .settle thread number], ?_, rfl⟩
      simp [run?, step?, may, removed, Reactor.use, waits, inside]

theorem useAll_run (inside : threads.dispatcher = some (thread, .running))
    (free : threads.isFree thread = true) (uses : List Reactor.Use) :
    ∃ acts, threads.run? acts = some { threads with reactor := threads.reactor.useAll uses } ∧
      entries acts = [] := by
  induction uses generalizing threads with
  | nil => exact ⟨[], rfl, rfl⟩
  | cons use rest ih =>
    obtain ⟨first, ran, silent⟩ := use_run threads thread inside free use
    obtain ⟨second, went, quiet⟩ := ih { threads with reactor := threads.reactor.use use }
      inside free
    refine ⟨first ++ second, ?_, ?_⟩
    · rw [run?_append, ran, Option.bind_some, went, Reactor.useAll_cons]
    · rw [entries, List.filterMap_append] at *
      rw [silent, quiet]
      rfl

/-- Acts that keep pace with a dispatch. Whenever it gets to a registration, they have made the
calls that were made by then and have led to the reactor as it is then; the next ones check the
registration and enter it if it is live. -/
def Paces (threads : Threads) (thread : Nat) (site : Site ω) (visits : List (Armed × Site ω))
    (acts : List Act) : Prop :=
  ∀ earlier armed moment later, visits = earlier ++ (armed, moment) :: later →
    ∃ first rest, acts = first ++ .check :: rest ∧
      threads.run? first = some { threads with
        reactor := moment.reactor
        dispatcher := some (thread, .unseen) } ∧
      moment.callees = site.callees ++ entries first ∧
      (moment.reactor.registry.isLive armed.number = true →
        rest.head? = some (.enter armed.number))

theorem Paces.nil {threads : Threads} {thread : Nat} {site : Site ω} {acts : List Act} :
    threads.Paces thread site [] acts := by
  intro earlier armed moment later split
  simp at split

/-- Acts keep pace with a dispatch if they begin with the check of its first registration and the
others keep pace with what the dispatch does after that, if anything. -/
theorem Paces.cons {threads : Threads} {thread : Nat} {site begun : Site ω} {armed : Armed}
    {visits : List (Armed × Site ω)} {acts others : List Act}
    (stands : threads.dispatcher = some (thread, .unseen))
    (same : threads.reactor = begun.reactor) (alike : begun.callees = site.callees)
    (live : begun.reactor.registry.isLive armed.number = true →
      acts.head? = some (.enter armed.number))
    (rest : visits = [] ∨ ∃ next after, threads.run? (.check :: acts) = some next ∧
      after.callees = begun.callees ++ entries acts ∧ next.removing = threads.removing ∧
      next.Paces thread after visits others) :
    threads.Paces thread site ((armed, begun) :: visits) (.check :: acts ++ others) := by
  intro earlier visited moment later split
  cases earlier with
  | nil =>
    simp only [List.nil_append, List.cons.injEq, Prod.mk.injEq] at split
    obtain ⟨⟨rfl, rfl⟩, rfl⟩ := split
    refine ⟨[], acts ++ others, rfl, ?_, ?_, ?_⟩
    · simp only [run?, ← stands, ← same]
    · simp [entries, alike]
    · intro alive
      rw [List.head?_append, live alive]
      rfl
  | cons first earlier =>
    simp only [List.cons_append, List.cons.injEq] at split
    obtain ⟨rfl, rfl⟩ := split
    obtain none | ⟨next, after, ran, called, waiting, paces⟩ := rest
    · simp at none
    · obtain ⟨first, last, rfl, reached, calls, lives⟩ := paces earlier visited moment later rfl
      refine ⟨.check :: acts ++ first, last, by simp, ?_, ?_, lives⟩
      · rw [run?_append, ran, Option.bind_some, reached, waiting]
      · rw [calls, called, alike, entries, entries, entries, List.filterMap_append,
          List.append_assoc]
        rfl

/-- Where a thread stands when the call of the first of some registrations has ended. -/
def afterCall (rest : List Armed) : Ending → List Armed × Option (Nat × Phase)
  | .returned => (rest, some (thread, .unseen))
  | .panicked => ([], none)

private theorem call_run (armed : Armed) (rest : List Armed) (uses : List Reactor.Use)
    (ending : Ending) (snapshot : threads.reactor.armed = armed :: rest)
    (stands : threads.dispatcher = some (thread, .published))
    (free : threads.isFree thread = true) :
    ∃ acts,
      threads.run? (.enter armed.number :: acts) = some { threads with
        reactor := { (threads.reactor.useAll uses).finish with
          armed := (afterCall thread rest ending).1 }
        dispatcher := (afterCall thread rest ending).2 } ∧
      entries acts = [] := by
  obtain ⟨inner, ran, silent⟩ := useAll_run { threads with dispatcher := some (thread, .running) }
    thread rfl free uses
  have entered : threads.step? (.enter armed.number) =
      some { threads with dispatcher := some (thread, .running) } := by
    simp [step?, stands, snapshot]
  have still : isFree { threads with
      reactor := threads.reactor.useAll uses
      dispatcher := some (thread, .running) } thread = true := free
  cases ending with
  | returned =>
    refine ⟨inner ++ [.leave, .clear], ?_, ?_⟩
    · rw [run?_cons entered, run?_append, ran, Option.bind_some]
      simp [run?, step?, still, afterCall, Reactor.finish, snapshot]
    · simp only [entries] at silent
      simp [entries, Act.entered?, silent]
  | panicked =>
    refine ⟨inner ++ [.unwind], ?_, ?_⟩
    · rw [run?_cons entered, run?_append, ran, Option.bind_some]
      simp [run?, step?, still, afterCall, Reactor.finish]
    · simp only [entries] at silent
      simp [entries, Act.entered?, silent]

/-- A registration is skipped, or its call is published and then made. -/
private theorem callOne_run (host : Host ω) (keeps : host.Keeps) (socket : Handle)
    (notification : Notification) (armed : Armed) (rest : List Armed) (site : Site ω)
    (same : threads.reactor = site.reactor) (snapshot : site.reactor.armed = armed :: rest)
    (stands : threads.dispatcher = some (thread, .unseen))
    (free : threads.isFree thread = true) :
    ∃ acts,
      threads.run? (.check :: acts) = some { threads with
        reactor := { (Loop.callOne host socket notification armed site).2.reactor with
          armed :=
            (afterCall thread rest (Loop.callOne host socket notification armed site).1).1 }
        dispatcher :=
          (afterCall thread rest (Loop.callOne host socket notification armed site).1).2 } ∧
      (Loop.callOne host socket notification armed site).2.callees = site.callees ++ entries acts ∧
      (site.reactor.registry.isLive armed.number = true →
        acts.head? = some (.enter armed.number)) := by
  by_cases dead : armed.number ∈ site.reactor.registry.cleared
  · rw [Loop.callOne_of_dead host socket notification armed site dead]
    refine ⟨[], ?_, ?_, ?_⟩
    · simp [run?, step?, same, stands, snapshot, Reactor.publish?_of_dead _ _ dead, afterCall]
    · simp [entries]
    · simp [Registry.isLive, dead]
  · rw [Loop.callOne_of_live host socket notification armed site dead]
    obtain ⟨journal, uses, used⟩ :=
      keeps armed notification (site.begin socket armed notification)
    have checked : threads.step? .check = some { threads with
        reactor := { site.reactor with inFlight := some armed.number }
        dispatcher := some (thread, .published) } := by
      simp [step?, same, stands, snapshot, Reactor.publish?_of_live _ _ dead]
    obtain ⟨acts, ran, entered⟩ := call_run { threads with
        reactor := { site.reactor with inFlight := some armed.number }
        dispatcher := some (thread, .published) } thread armed rest uses
      (host.call armed notification (site.begin socket armed notification)).1 snapshot rfl free
    refine ⟨.enter armed.number :: acts, ?_, ?_, fun _ => rfl⟩
    · rw [run?_cons checked, ran]
      simp only [Site.onReactor, used]
      rfl
    · have first : entries (.enter armed.number :: acts) = armed.number :: entries acts := rfl
      rw [first, entered, Site.callees]
      simp only [Site.onReactor, journal]
      simp [Site.begin, Site.note, Event.called?, Site.callees]

theorem deliver_run (host : Host ω) (keeps : host.Keeps) (socket : Handle)
    (notification : Notification) (list : List Armed) (site : Site ω)
    (same : threads.reactor = { site.reactor with armed := list })
    (stands : threads.dispatcher = some (thread, .unseen))
    (free : threads.isFree thread = true) :
    ∃ acts,
      threads.run? acts = some { threads with
        reactor := (Loop.deliver host socket notification list site).2.reactor
        dispatcher := none } ∧
      (Loop.deliver host socket notification list site).2.callees =
        site.callees ++ entries acts ∧
      threads.Paces thread site (Loop.visits host socket notification list site) acts := by
  induction list generalizing threads site with
  | nil =>
    refine ⟨[.done], ?_, ?_, ?_⟩
    · simp [run?, step?, stands, same, Loop.deliver, Site.onReactor]
    · simp [Loop.deliver, Site.onReactor, Site.callees, entries, Act.entered?]
    · exact Paces.nil
  | cons armed rest ih =>
    let begun := site.onReactor fun reactor => { reactor with armed := armed :: rest }
    obtain ⟨acts, ran, called, lives⟩ :=
      callOne_run threads thread host keeps socket notification armed rest begun same rfl stands free
    cases result : Loop.callOne host socket notification armed begun with
    | mk ending after =>
      rw [result] at ran called
      cases ending with
      | panicked =>
        simp only [Loop.deliver, Loop.visits, begun, result]
        refine ⟨.check :: acts ++ [], ?_, ?_, ?_⟩
        · rw [List.append_nil]
          exact ran
        · rw [List.append_nil]
          exact called
        · exact Paces.cons stands same rfl lives (.inl rfl)
      | returned =>
        obtain ⟨others, went, calls, paces⟩ := ih { threads with
            reactor := { after.reactor with armed := rest }
            dispatcher := some (thread, .unseen) } after rfl rfl free
        simp only [Loop.deliver, Loop.visits, begun, result]
        refine ⟨.check :: acts ++ others, ?_, ?_, ?_⟩
        · rw [run?_append, ran]
          exact went
        · rw [calls, called, entries, entries, entries, List.filterMap_append, List.append_assoc]
          rfl
        · exact Paces.cons stands same rfl lives (.inr ⟨_, after, ran, called, rfl, paces⟩)

/-- A dispatch on a thread is a run of acts that keeps pace with it. -/
theorem dispatch_run (host : Host ω) (keeps : host.Keeps) (socket : Handle)
    (notification : Notification) (site : Site ω) (same : threads.reactor = site.reactor)
    (idle : threads.dispatcher = none) (free : threads.isFree thread = true) :
    ∃ acts,
      threads.run? acts = some { threads with
        reactor := (Loop.dispatch host socket notification site).2.reactor } ∧
      (Loop.dispatch host socket notification site).2.callees = site.callees ++ entries acts ∧
      threads.Paces thread site (Loop.visits host socket notification
        (site.reactor.registry.snapshot socket.descriptor notification.kind) site) acts := by
  let begun : Threads := { threads with
    reactor := { site.reactor with
      armed := site.reactor.registry.snapshot socket.descriptor notification.kind }
    dispatcher := some (thread, .unseen) }
  have taken : threads.step? (.take thread socket notification.kind) = some begun := by
    simp [begun, step?, idle, free, same]
  obtain ⟨acts, ran, called, paces⟩ :=
    deliver_run begun thread host keeps socket notification _ site rfl rfl free
  refine ⟨.take thread socket notification.kind :: acts, ?_, called, ?_⟩
  · rw [run?_cons taken, ran]
    simp only [begun, idle]
    rfl
  · intro earlier armed moment later visited
    obtain ⟨first, rest, rfl, reached, calls, lives⟩ := paces earlier armed moment later visited
    refine ⟨.take thread socket notification.kind :: first, rest, rfl, ?_, calls, lives⟩
    rw [run?_cons taken]
    exact reached

end Threads

end SocketLoop
