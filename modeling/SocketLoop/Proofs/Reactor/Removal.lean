import SocketLoop.Proofs.Reactor.Dispatch

/-! Removal is final. Once a removal that matched a registration has returned, the observer of that
registration is not entered again, and it runs on no other thread. A removal waits only while that
very call is being made by another thread. -/
namespace SocketLoop.Threads

/-- A registration is done with as far as a thread is concerned: it is dead, no call of it is about
to start, and none is being made by another thread. -/
structure Over (threads : Threads) (thread number : Nat) : Prop where
  cleared : number ∈ threads.reactor.registry.cleared
  unentered : ∀ other, threads.dispatcher = some (other, .published) →
    threads.calling ≠ some (other, number)
  elsewhere : ∀ other, threads.calling = some (other, number) → other = thread

theorem step_cleared {threads next : Threads} (act : Act) (acted : threads.step? act = some next)
    (number : Nat) (cleared : number ∈ threads.reactor.registry.cleared) :
    number ∈ next.reactor.registry.cleared := by
  cases act with
  | strike thread socket kind observer =>
    simp only [step?, Option.ite_none_right_eq_some] at acted
    obtain ⟨-, acted⟩ := acted
    split at acted
    · obtain ⟨⟩ := acted
      exact cleared
    · obtain ⟨⟩ := acted
      simp [Reactor.removeHandler, Registry.remove_cleared, cleared]
  | add thread socket kind observer =>
    simp only [step?, Option.ite_none_right_eq_some, Option.some.injEq] at acted
    obtain ⟨-, rfl⟩ := acted
    simpa [Reactor.addHandler] using cleared
  | check =>
    simp only [step?, Reactor.publish?] at acted
    grind
  | _ =>
    simp only [step?, Reactor.finish, Reactor.stop, Registry.mute] at acted
    grind

/-- A call goes on, it is over, or the next one is published, which needs a live registration. -/
theorem step_calling {threads next : Threads} (act : Act) (acted : threads.step? act = some next) :
    (next.calling = threads.calling ∧ ∀ other, next.dispatcher = some (other, .published) →
        threads.dispatcher = some (other, .published)) ∨
      next.calling = none ∨
      ∃ thread number, next.calling = some (thread, number) ∧
        number ∉ threads.reactor.registry.cleared := by
  cases act with
  | check =>
    simp only [step?, Reactor.publish?, Registry.isLive_iff] at acted
    grind [calling]
  | _ =>
    simp only [step?, Reactor.finish, Reactor.stop] at acted
    grind [calling, Reactor.addHandler, Reactor.removeHandler]

theorem enter_calling {threads next : Threads} (number : Nat)
    (acted : threads.step? (.enter number) = some next) :
    ∃ other, threads.dispatcher = some (other, .published) ∧
      threads.calling = some (other, number) := by
  simp only [step?] at acted
  split at acted
  · rename_i thread first rest stands snapshot
    simp only [Option.ite_none_right_eq_some] at acted
    refine ⟨thread, stands, ?_⟩
    simp [calling, stands, snapshot, acted.1]
  · cases acted

theorem Over.step {threads next : Threads} {thread number : Nat}
    (past : threads.Over thread number) (act : Act) (acted : threads.step? act = some next) :
    act ≠ .enter number ∧ next.Over thread number := by
  refine ⟨?_, step_cleared act acted number past.cleared, ?_, ?_⟩
  · rintro rfl
    obtain ⟨other, stands, called⟩ := enter_calling number acted
    exact past.unentered other stands called
  · intro other stands called
    rcases step_calling act acted with ⟨same, before⟩ | ended | ⟨caller, fresh, begun, live⟩
    · exact past.unentered other (before other stands) (same ▸ called)
    · rw [ended] at called
      cases called
    · rw [begun] at called
      obtain ⟨⟩ := called
      exact live past.cleared
  · intro other called
    rcases step_calling act acted with ⟨same, -⟩ | ended | ⟨caller, fresh, begun, live⟩
    · exact past.elsewhere other (same ▸ called)
    · rw [ended] at called
      cases called
    · rw [begun] at called
      obtain ⟨⟩ := called
      exact absurd past.cleared live

theorem Over.run {threads last : Threads} {thread number : Nat}
    (past : threads.Over thread number) (acts : List Act)
    (ran : threads.run? acts = some last) :
    .enter number ∉ acts ∧ last.Over thread number := by
  induction acts generalizing threads with
  | nil =>
    obtain ⟨⟩ := ran
    exact ⟨List.not_mem_nil, past⟩
  | cons act rest ih =>
    obtain ⟨next, acted, ran⟩ := Option.bind_eq_some_iff.mp ran
    obtain ⟨apart, after⟩ := past.step act acted
    obtain ⟨absent, last⟩ := ih after ran
    refine ⟨?_, last⟩
    rw [List.mem_cons, not_or]
    exact ⟨Ne.symm apart, absent⟩

/-- A removal waits exactly while another thread is calling its registration. -/
theorem waits_iff {threads : Threads} (sound : threads.Sound) (thread number : Nat) :
    threads.waits thread number = true ↔
      ∃ other, threads.calling = some (other, number) ∧ other ≠ thread := by
  rw [waits, sound.flight]
  cases stands : threads.dispatcher with
  | none => simp [calling, stands]
  | some row =>
    obtain ⟨caller, phase⟩ := row
    cases called : threads.calling with
    | none => simp
    | some call =>
      have same : call.1 = caller := by
        simp only [calling, stands] at called
        split at called <;> simp_all
        rw [← called]
      simp [Prod.ext_iff, same]

theorem settle_over {threads next : Threads} (sound : threads.Sound) (thread number : Nat)
    (acted : threads.step? (.settle thread number) = some next) : next.Over thread number := by
  simp only [step?, Option.ite_none_right_eq_some, Option.some.injEq] at acted
  obtain ⟨⟨pending, still⟩, rfl⟩ := acted
  have alone : ∀ other, threads.calling = some (other, number) → other = thread := by
    intro other called
    by_contra apart
    have waiting := (waits_iff sound thread number).mpr ⟨other, called, apart⟩
    rw [still] at waiting
    cases waiting
  refine ⟨sound.dead _ pending, ?_, alone⟩
  intro other stands called
  -- The call would be this thread's own, and it removes from inside an observer only.
  have mine := alone other called
  subst mine
  exact absurd (sound.inside _ pending _ stands) (by simp)

/-- A registration added later has a number that no snapshot and no removal has seen. -/
theorem add_fresh {threads : Threads} (sound : threads.Sound) (socket : Handle) (kind : Kind)
    (observer : Nat)
    (absent : threads.reactor.registry.contains socket.descriptor kind observer = false) :
    ∃ fresh, (threads.reactor.addHandler socket kind observer).registry.find?
        socket.descriptor kind observer = some ⟨fresh, kind, observer⟩ ∧
      (threads.reactor.addHandler socket kind observer).registry.isLive fresh = true ∧
      fresh ∉ threads.reactor.registry.cleared ∧
      ∀ armed ∈ threads.reactor.armed, armed.number ≠ fresh := by
  have moved := Registry.add_rows _ sound.registry.descriptors socket kind observer absent
  have next := Registry.add_sound _ sound.registry socket kind observer
  have unspent : threads.reactor.registry.next ∉ threads.reactor.registry.cleared :=
    fun spent => Nat.lt_irrefl _ (sound.registry.spent _ spent)
  refine ⟨threads.reactor.registry.next, ?_, ?_, unspent, ?_⟩
  · refine (Registry.find?_iff _ next _ _ _ _).mpr ⟨?_, rfl, rfl⟩
    exact moved.mem_iff.mpr List.mem_cons_self
  · rw [Registry.isLive_iff]
    simpa [Reactor.addHandler] using unspent
  · intro armed member equal
    exact absurd (sound.armed armed member) (equal ▸ Nat.lt_irrefl _)

theorem strike_begins {threads : Threads} (sound : threads.Sound) (thread : Nat) (socket : Handle)
    (kind : Kind) (observer : Nat) (registration : Registration)
    (found : threads.reactor.registry.find? socket.descriptor kind observer = some registration)
    (may : threads.mayAct thread = true) :
    ∃ struck, threads.step? (.strike thread socket kind observer) = some struck ∧
      struck.reactor = threads.reactor.removeHandler socket kind observer ∧
      (thread, registration.number) ∈ struck.removing ∧
      struck.reactor.registry.contains socket.descriptor kind observer = false ∧
      ((∀ phase, threads.dispatcher ≠ some (thread, phase)) →
        struck.waits thread registration.number =
          threads.reactor.removalWaits socket kind observer) := by
  have removed : (threads.reactor.registry.remove socket kind observer).1 =
      some registration.number := by
    simp [Registry.remove, found]
  refine ⟨{ threads with
    reactor := threads.reactor.removeHandler socket kind observer
    removing := (thread, registration.number) :: threads.removing }, ?_, rfl, ?_, ?_, ?_⟩
  · simp [step?, may, removed]
  · exact List.mem_cons_self
  · exact Registry.contains_remove _ sound.registry _ _ _ registration found
  · intro apart
    have flight := sound.flight
    simp only [waits, Reactor.removalWaits, removed, Reactor.removeHandler]
    cases stands : threads.dispatcher with
    | none => simp [flight, calling, stands]
    | some row =>
      have other : row.1 ≠ thread := by
        rintro rfl
        exact apart row.2 stands
      simp [other]

/-- What a thread can rely on after its removal of a registration has returned and acts have led
on from there. -/
structure Gone (thread number : Nat) (later : List Act) (last : Threads) : Prop where
  unentered : .enter number ∉ later
  elsewhere : ∀ other, last.calling = some (other, number) → other = thread
  /-- What is registered from now on is another registration, and no snapshot holds it. -/
  renewed : ∀ socket kind observer,
    last.reactor.registry.contains socket.descriptor kind observer = false →
    ∃ fresh ≠ number,
      (last.reactor.addHandler socket kind observer).registry.find? socket.descriptor kind
        observer = some ⟨fresh, kind, observer⟩ ∧
      (last.reactor.addHandler socket kind observer).registry.isLive fresh = true ∧
      (last.reactor.addHandler socket kind observer).registry.isLive number = false ∧
      ∀ armed ∈ last.reactor.armed, armed.number ≠ fresh

theorem Over.gone {threads last : Threads} {thread number : Nat} (sound : threads.Sound)
    (past : threads.Over thread number) (later : List Act)
    (ran : threads.run? later = some last) : Gone thread number later last := by
  obtain ⟨unentered, after⟩ := past.run later ran
  refine ⟨unentered, after.elsewhere, ?_⟩
  intro socket kind observer absent
  obtain ⟨fresh, added, live, unspent, unseen⟩ :=
    add_fresh (run_sound sound later ran) socket kind observer absent
  refine ⟨fresh, ?_, added, live, ?_, unseen⟩
  · rintro rfl
    exact unspent after.cleared
  · simp [Registry.isLive, Reactor.addHandler, after.cleared]

/-- Wherever acts of any threads lead from an unused reactor: a removal takes its registration out
at once, waits exactly while another thread is calling that very registration, and once it has
returned the registration is gone for good. The dispatches of the loop are runs of such acts, which
keep pace with them from one registration to the next. -/
theorem removal_is_final (settings : Settings) (acts : List Act) (threads : Threads)
    (ran : (start settings).run? acts = some threads) :
    (∀ thread socket kind observer registration,
      threads.reactor.registry.find? socket.descriptor kind observer = some registration →
      threads.mayAct thread = true →
      ∃ struck, threads.step? (.strike thread socket kind observer) = some struck ∧
        struck.reactor = threads.reactor.removeHandler socket kind observer ∧
        (thread, registration.number) ∈ struck.removing ∧
        struck.reactor.registry.contains socket.descriptor kind observer = false ∧
        ((∀ phase, threads.dispatcher ≠ some (thread, phase)) →
          struck.waits thread registration.number =
            threads.reactor.removalWaits socket kind observer)) ∧
    (∀ thread number, (thread, number) ∈ threads.removing →
      (threads.step? (.settle thread number) = none ↔
        ∃ other, threads.calling = some (other, number) ∧ other ≠ thread) ∧
      ∀ settled, threads.step? (.settle thread number) = some settled →
        ∀ later last, settled.run? later = some last → Gone thread number later last) ∧
    ∀ (ω : Type) (host : Host ω) (thread : Nat) (socket : Handle) (notification : Notification)
        (site : Site ω), host.Keeps → threads.reactor = site.reactor →
      threads.dispatcher = none → threads.isFree thread = true →
      ∃ dispatching, threads.run? dispatching = some { threads with
          reactor := (Loop.dispatch host socket notification site).2.reactor } ∧
        (Loop.dispatch host socket notification site).2.callees =
          site.callees ++ entries dispatching ∧
        threads.Paces thread site (Loop.visits host socket notification
          (site.reactor.registry.snapshot socket.descriptor notification.kind) site)
          dispatching := by
  have sound := run_sound (start_sound settings) acts ran
  refine ⟨?_, ?_, ?_⟩
  · exact fun thread socket kind observer => strike_begins sound thread socket kind observer
  · intro thread number pending
    refine ⟨?_, ?_⟩
    · rw [← waits_iff sound thread number]
      simp [step?, pending]
    · intro settled acted later last went
      exact (settle_over sound thread number acted).gone (step_sound sound _ acted) later went
  · intro ω host thread socket notification site keeps same idle free
    exact dispatch_run threads thread host keeps socket notification site same idle free

/-- An observer is called on one thread, another thread begins to remove it, and then the call
ends. -/
def removedInACall (socket : Handle) : List Act :=
  [.add 1 socket .readable 7, .take 1 socket .readable, .check, .enter 0,
    .strike 2 socket .readable 7, .leave, .clear]

def calledAgain (socket : Handle) : List Act :=
  [.done, .add 1 socket .readable 7, .take 1 socket .readable, .check, .enter 1]

theorem removal_is_final_in_a_call :
    ∃ threads settled last, (start {}).run? (removedInACall ⟨3, 0⟩) = some threads ∧
      (2, 0) ∈ threads.removing ∧ threads.step? (.settle 2 0) = some settled ∧
      settled.run? (calledAgain ⟨3, 0⟩) = some last ∧ last.calling = some (1, 1) ∧
      Gone 2 0 (calledAgain ⟨3, 0⟩) last := by
  refine ⟨_, _, _, rfl, by decide, rfl, rfl, rfl, ?_⟩
  exact ((removal_is_final {} (removedInACall ⟨3, 0⟩) _ rfl).2.1 2 0 (by decide)).2 _ rfl _ _ rfl

end SocketLoop.Threads
