import SocketLoop.Proofs.Owner.Standing

/-! Aborts. An abort gets to an attempt through its observers. As long as somebody refers to those, an
attempt that waits ends, and its factory is not called any more; otherwise an abort does nothing. -/
namespace SocketLoop

variable {η ν : Type}

namespace World

/-- Nothing that is registered belongs to an owner. -/
def Unlisted (world : World η ν) (index : Nat) : Prop :=
  ∀ row ∈ world.reactor.registry.rows, world.maker? row.2.observer ≠ some index

/-- An attempt ends in failure, and whoever waits to hear of it is told, once, of that failure. -/
structure Fails (user : UserCode η ν) (index : Nat) (failure : Failure) (onFailure : Bool)
    (before : World η ν) (result : Ending × World η ν) : Prop where
  attempt : ∃ factory, result.2.attempt? index =
    some { state := .failed, errno := failure.errno?, factory, onFailure := false }
  deeds : result.2.deedsOf index =
    (if onFailure then [.told index failure.errno?] else []) ++ before.deedsOf index
  /-- It has failed by then and has no registrations, and nothing else was done. -/
  heard : ∃ inside : World η ν, inside.attempt? index = result.2.attempt? index ∧
    inside.Unlisted index ∧ inside.reactor = before.reactor ∧
    inside.outside.owners.length = before.outside.owners.length ∧
    result = if onFailure then user.onFailure index failure inside else (.returned, inside)

/-- An attempt has failed, and nobody was told so far. -/
def failed (world : World η ν) (index : Nat) (failure : Failure) : World η ν :=
  world.changeAttempt index fun attempt =>
    { attempt with state := .failed, errno := failure.errno?, onFailure := false }

/-- Nothing that goes on around an attempt concerns it any more. -/
def Over (user : UserCode η ν) (index : Nat) (world : World η ν) : Prop :=
  ∀ later, Ensues user index world later →
    later.attempt? index = world.attempt? index ∧ later.deedsOf index = world.deedsOf index ∧
    later.Unlisted index ∧ abort user index later = (.returned, later) ∧
    ∀ notification, resolve user index notification later = (.returned, later)

theorem deedsOf_done (world : World η ν) (deed : Deed) (index : Nat) (own : deed.owner = index) :
    (world.done deed).deedsOf index = deed :: world.deedsOf index :=
  List.filter_cons_of_pos (by simp [own])

theorem isReferenced_iff (world : World η ν) (index : Nat) : world.isReferenced index = true ↔
    (∃ row ∈ world.reactor.registry.rows, world.maker? row.2.observer = some index) ∨
      ∃ armed ∈ world.reactor.armed, world.maker? armed.observer = some index := by
  simp only [isReferenced, Bool.or_eq_true, List.any_eq_true, beq_iff_eq]
  refine or_congr_left ?_
  constructor
  · rintro ⟨entry, known, registration, listed, made⟩
    exact ⟨_, (Registry.mem_rows _ (entry.socket.descriptor, registration)).mpr
      ⟨entry, known, rfl, listed⟩, made⟩
  · rintro ⟨row, there, made⟩
    obtain ⟨entry, known, -, listed⟩ := (Registry.mem_rows _ row).mp there
    exact ⟨entry, known, row.2, listed, made⟩

section

variable {index : Nat} {world : World η ν} {attempt : Attempt}

/-- The registry refers to the attempts that wait, as long as it is there. -/
theorem Stands.registered_iff (stands : world.Stands index) (ledger : world.Ledger)
    (found : world.attempt? index = some attempt) :
    (∃ row ∈ world.reactor.registry.rows, world.maker? row.2.observer = some index) ↔
      attempt.Waits ∧ world.reactor.alive = true := by
  by_cases waits : attempt.Waits
  · obtain ⟨-, socket, observers, there, placed⟩ := stands.waiting found waits
    rw [ledger.registered_iff index _ there]
    exact ⟨fun both => ⟨waits, both.1⟩, fun both => ⟨both.2, placed both.2⟩⟩
  · obtain ⟨-, -, socket, there⟩ := stands.spent found waits
    rw [ledger.registered_iff index _ there]
    exact ⟨fun both => absurd rfl both.2, fun both => absurd both.1 waits⟩

theorem failed_spent (ledger : world.Ledger) (socket : Handle)
    (found : world.owner? index = some { socket, role := .attempt attempt }) (failure : Failure) :
    (world.failed index failure).Ledger ∧ (world.failed index failure).Spent index
      { attempt with state := .failed, errno := failure.errno?, onFailure := false } := by
  have kept : Keeps (fun _ => false) world (world.failed index failure) :=
    .changeAttempt world index rfl _
  exact ⟨(kept ledger).1, by simp, by simp [Attempt.Waits], socket,
    owner?_changeOwner_self world index _ _ found⟩

theorem Spent.unlisted (spent : world.Spent index attempt) (ledger : world.Ledger) :
    world.Unlisted index := by
  obtain ⟨-, -, socket, there⟩ := spent
  intro row listed made
  exact ((ledger.registered_iff index _ there).mp ⟨row, listed, made⟩).2 rfl

variable {user : UserCode η ν} (stays : user.Within (Upholds index))

include stays

theorem failAttempt_fails (ledger : world.Ledger) (socket : Handle)
    (found : world.owner? index = some { socket, role := .attempt attempt }) (failure : Failure) :
    Fails user index failure attempt.onFailure world (failAttempt user index failure world) ∧
      (failAttempt user index failure world).2.Past index := by
  have trying : world.attempt? index = some attempt := attempt?_of_owner found rfl
  obtain ⟨ledger', spent⟩ := failed_spent ledger socket found failure
  have bare := spent.unlisted ledger'
  have length : (world.failed index failure).outside.owners.length = world.outside.owners.length :=
    length_changeOwner world index _
  have failing : failAttempt user index failure world = if attempt.onFailure then
      user.onFailure index failure ((world.failed index failure).done (.told index failure.errno?))
      else (.returned, world.failed index failure) := by
    simp only [failAttempt, trying, Option.any_some, failed]
  rw [failing]
  cases attempt.onFailure with
  | false => exact ⟨⟨⟨_, spent.found⟩, rfl, _, rfl, bare, rfl, length, rfl⟩, ledger', _, spent⟩
  | true =>
    have told : Past index ((world.failed index failure).done (.told index failure.errno?)) :=
      Past.done ⟨ledger', _, spent⟩ _
    have heard := stays.onFailure index failure
      ((world.failed index failure).done (.told index failure.errno?))
    obtain ⟨-, keeps⟩ := heard told.1
    obtain ⟨-, lasts⟩ := keeps ⟨_, .inr spent⟩
    have found' := spent.found
    obtain ⟨-, -, home, there⟩ := spent
    obtain ⟨last, deeds⟩ := lasts.ended _ _ there rfl (.inr rfl)
    have last := attempt?_of_owner last rfl
    refine ⟨⟨⟨_, last⟩, deeds.trans ?_, (world.failed index failure).done
      (.told index failure.errno?), found'.trans last.symm, bare, rfl, length, rfl⟩,
      told.upheld heard⟩
    exact (world.failed index failure).deedsOf_done _ index rfl

/-- What has ended is over. -/
theorem Past.over (past : world.Past index) (found : world.attempt? index = some attempt)
    (ended : attempt.Ended) : Over user index world := by
  intro later ensues
  have keeps := ensues.upholds stays
  obtain ⟨ledger, other, spent⟩ := past.upheld keeps
  obtain ⟨-, stands⟩ := keeps past.1
  obtain ⟨here, lasts⟩ := stands (past.2.imp fun _ => .inr)
  obtain ⟨-, socket, observers, there⟩ := Stands.owner (past.2.imp fun _ => .inr) found
  obtain ⟨last, deeds⟩ := lasts.ended _ attempt there rfl ended
  have last := attempt?_of_owner last rfl
  obtain rfl := Option.some.inj (last.symm.trans spent.found)
  exact ⟨last.trans found.symm, deeds, spent.unlisted ledger,
    spent.abort_of_over user ended.not_connecting,
    fun notification => resolve_of_over user notification last ended.not_connecting⟩

/-- Nothing follows on a failure. -/
theorem failAttempt_over (ledger : world.Ledger) (socket : Handle)
    (found : world.owner? index = some { socket, role := .attempt attempt }) (failure : Failure) :
    Fails user index failure attempt.onFailure world (failAttempt user index failure world) ∧
      Over user index (failAttempt user index failure world).2 := by
  obtain ⟨fails, past⟩ := failAttempt_fails stays ledger socket found failure
  obtain ⟨factory, last⟩ := fails.attempt
  exact ⟨fails, past.over stays last (.inr rfl)⟩

theorem Stands.abort_fails (stands : world.Stands index) (ledger : world.Ledger)
    (found : world.attempt? index = some attempt) (connecting : attempt.state = .connecting)
    (referenced : world.isReferenced index = true) :
    Fails user index (.system Errno.canceled) attempt.onFailure (world.taken index)
        (abort user index world) ∧
      Over user index (abort user index world).2 := by
  obtain ⟨ledger', -, -, -, socket, there⟩ := stands.taken ledger found
  have still := attempt?_withdrawAll ledger found
  have aborted : abort user index world =
      failAttempt user index (.system Errno.canceled) (world.taken index) := by
    simp only [abort, referenced, if_true, still, Option.any_some, connecting, decide_true,
      World.taken]
  rw [aborted]
  exact failAttempt_over stays ledger' socket there (.system Errno.canceled)

end

/-- An abort ends an attempt that waits, be the reactor running or stopped: the attempt fails for having
been given up, its callback is told that, once, and whatever goes on after that, it stays so and its
factory is not called. That takes an observer of the attempt that is registered, or is about to be
called. As long as the reactor is there an attempt that waits has one; where there is none, and once
the attempt has ended, an abort does nothing. -/
theorem abort_ends_while_referenced (user : UserCode η ν) (start : World η ν)
    (ledger : start.Ledger) (socket : Handle) (onFailure : Bool)
    (stays : user.Within (Upholds start.outside.owners.length)) (world : World η ν)
    (ensues : Ensues user start.outside.owners.length (launch socket onFailure start).2 world) :
    let index := start.outside.owners.length
    (∃ attempt, world.attempt? index = some attempt ∧
      (attempt.Waits → attempt = { state := .connecting, onFailure } ∧
        (world.reactor.alive = true → world.isReferenced index = true) ∧
        (world.isReferenced index = true →
          Fails user index (.system Errno.canceled) onFailure (world.taken index)
              (abort user index world) ∧
            (world.taken index).deedsOf index = start.deedsOf index ∧
            Over user index (abort user index world).2)) ∧
      (world.isReferenced index = false → abort user index world = (.returned, world)) ∧
      (attempt.Ended → abort user index world = (.returned, world) ∧ Over user index world) ∧
      (world.reactor.armed = [] →
        (world.isReferenced index = true ↔ attempt.Waits ∧ world.reactor.alive = true))) ∧
    (∀ later, Ensues user index world later → Upholds index world later) ∧
    (∀ after, Happens user world after → Ensues user index world after) ∧
    (∀ fuel, Ensues user index world (run user fuel world).2) ∧
    ∀ turn ∈ Loop.passTurns (host user) world ++ Loop.broadcastTurns (host user) .shutdown world,
      ∀ visit ∈ turn.visits (host user), Ensues user index world visit.2 := by
  intro index
  obtain ⟨ledger', stands, launched⟩ := ensues.launched stays ledger
  obtain ⟨attempt, found⟩ := stands.found
  have registered := stands.registered_iff ledger' found
  refine ⟨⟨attempt, found, ?_, abort_of_unreferenced user, ?_, ?_⟩, ?_, ?_, ?_, ?_⟩
  · intro waits
    obtain ⟨rfl, older, -⟩ := launched attempt found waits
    refine ⟨rfl, ?_, ?_⟩
    · intro alive
      exact (world.isReferenced_iff index).mpr (.inl (registered.mpr ⟨waits, alive⟩))
    · intro referenced
      obtain ⟨-, deeds, -⟩ := stands.taken ledger' found
      obtain ⟨fails, rests⟩ := stands.abort_fails stays ledger' found waits.1 referenced
      exact ⟨fails, deeds.trans older, rests⟩
  · intro ended
    have spent := stands.spent found fun waits => ended.not_connecting waits.1
    exact ⟨spent.abort_of_over user ended.not_connecting,
      Past.over stays ⟨ledger', _, spent⟩ found ended⟩
  · intro rest
    rw [isReferenced_iff, registered, rest]
    simp
  · exact fun later ensues => ensues.upholds stays
  · exact fun after happens => happens.ensues stays ledger' stands
  · exact fun fuel => Loop.run_preserves (ensues_preserves stays ledger' stands) fuel world .refl
  · have preserves := ensues_preserves stays ledger' stands
    intro turn member visit visited
    have started : Ensues user index world turn.start := by
      rcases List.mem_append.mp member with inside | last
      · exact Loop.passTurns_hold preserves.toGuards world .refl turn inside
      · exact Loop.sendTurns_hold preserves.toMinds _ _ _ world .refl turn last
    exact Loop.visits_hold preserves.toMinds turn.socket turn.notification turn.snapshot
      turn.start started visit visited

/-- A stopped reactor, with an attempt that waits. -/
theorem abort_ends_while_referenced_stopped :
    let launched : World Unit Unit := (launch ⟨3, 0⟩ true (opened {} ())).2
    let stopped : World Unit Unit := launched.onReactor Reactor.stop
    UserCode.idle.Within (Upholds 0 : World Unit Unit → World Unit Unit → Prop) ∧
    Ensues UserCode.idle 0 launched stopped ∧
    Fails UserCode.idle 0 (.system Errno.canceled) true (stopped.taken 0)
      (abort UserCode.idle 0 stopped) ∧
    Over UserCode.idle 0 (abort UserCode.idle 0 stopped).2 ∧
    (abort UserCode.idle 0 stopped).2.outside.deeds = [.told 0 (some Errno.canceled)] ∧
    (abort UserCode.idle 0 stopped).2.reactor.registry.rows = [] := by
  intro launched stopped
  have stays : UserCode.idle.Within (Upholds 0 : World Unit Unit → World Unit Unit → Prop) :=
    UserCode.idle_within (.refl 0)
  have ledger := (opened_sound {} () : (opened {} () : World Unit Unit).Sound).toLedger
  have ensues : Ensues UserCode.idle 0 launched stopped :=
    .single (.apart (by simp) (.of_owners (fun _ => true) rfl rfl rfl rfl rfl))
  obtain ⟨⟨attempt, found, waits, -⟩, -⟩ := abort_ends_while_referenced UserCode.idle (opened {} ())
    ledger ⟨3, 0⟩ true stays stopped ensues
  obtain rfl := Option.some.inj (found.symm.trans
    (by decide : stopped.attempt? 0 = some { state := .connecting, onFailure := true }))
  obtain ⟨-, -, ends⟩ := waits ⟨rfl, rfl⟩
  obtain ⟨fails, -, rests⟩ := ends (by decide)
  exact ⟨stays, ensues, fails, rests, by decide, by decide⟩

/-- The reactor was all that kept the observers of the attempt: it is left connecting, and nobody hears
of that. -/
theorem abort_of_released_attempt :
    let launched : World Unit Unit := (launch ⟨3, 0⟩ true (opened {} ())).2
    let gone := dropReactor UserCode.idle launched
    Ensues UserCode.idle 0 launched gone ∧ gone.reactor.armed = [] ∧
    gone.attempt? 0 = some { state := .connecting, onFailure := true } ∧
    abort UserCode.idle 0 gone = (.returned, gone) ∧ gone.outside.deeds = [] := by
  intro launched gone
  have stays : UserCode.idle.Within (Upholds 0 : World Unit Unit → World Unit Unit → Prop) :=
    UserCode.idle_within (.refl 0)
  have waiting := launch_waiting (opened {} () : World Unit Unit) ⟨3, 0⟩ true
  have ledger := (launch_keeps (fun _ => false) (opened {} () : World Unit Unit) rfl ⟨3, 0⟩ true
    (opened_sound {} ()).toLedger).1
  exact ⟨dropReactor_ensues stays ledger ⟨_, .inl waiting⟩, by decide, by decide,
    abort_of_unreferenced UserCode.idle (by decide), by decide⟩

end World

end SocketLoop
