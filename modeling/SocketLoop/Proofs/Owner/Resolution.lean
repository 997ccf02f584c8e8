import SocketLoop.Proofs.Owner.Aborts

/-! Resolutions. The first notification of an attempt that waits decides how it ends: by the pending
error of its socket, by the notification, and then by its factory. -/
namespace SocketLoop

variable {η ν : Type}

/-- The system tells of the pending error of a socket, and nothing about owners changes. -/
def UserCode.OnlyTakes (user : UserCode η ν) : Prop :=
  ∀ socket world, ∃ change, (user.takeError socket world).2 = world.onBeyond change

namespace World

/-- Nobody deals with an attempt that does not wait, so none is given up while it is resolved. -/
def Undisturbed (index : Nat) (before after : World η ν) : Prop :=
  before.Ledger → ∀ attempt, before.Spent index attempt →
    after.Spent index attempt ∧ after.deedsOf index = before.deedsOf index

/-- What becomes of an attempt whose connection is up, by what its factory answers. A factory that
panics leaves it as it is, with nothing that it could hear from. -/
def Answered (user : UserCode η ν) (index : Nat) (socket : Handle) (onFailure : Bool)
    (called : World η ν) (result : Ending × World η ν) : Built η × World η ν → Prop
  | (.built handler, inside) =>
    result = (.returned, (attach user socket handler inside).changeAttempt index fun attempt =>
      { attempt with state := .connected, errno := none }) ∧
    result.2.attempt? index = some { state := .connected, factory := false, onFailure } ∧
    result.2.deedsOf index = called.deedsOf index ∧ Over user index result.2
  | (.failed failure, inside) =>
    Fails user index failure onFailure inside result ∧
    inside.deedsOf index = called.deedsOf index ∧ Over user index result.2
  | (.panicked, inside) =>
    result = (.panicked, inside) ∧
    inside.attempt? index = some { state := .connecting, factory := false, onFailure } ∧
    inside.deedsOf index = called.deedsOf index ∧
    ∀ later, Ensues user index inside later → later.Unlisted index

theorem connectFailure?_eq_none (notification : Notification)
    (pending : Except Failure (Option Failure)) : connectFailure? notification pending = none ↔
      notification.kind = .writable ∧ pending = .ok none := by
  unfold connectFailure?
  split <;> simp

theorem connectFailure?_eq_some (notification : Notification)
    (pending : Except Failure (Option Failure)) (failure : Failure) :
    connectFailure? notification pending = some failure ↔
      pending = .ok (some failure) ∨ pending = .error failure ∨
        notification.kind ≠ .writable ∧ pending = .ok none ∧
          failure = .system (notification.code.getD Errno.notConnected) := by
  unfold connectFailure?
  split <;> simp [eq_comm]

section

variable {user : UserCode η ν} {index : Nat} {world before after : World η ν} {attempt : Attempt}

/-- An attempt that waits on a reactor that is there is registered for all that it noted. -/
theorem Stands.registered (stands : world.Stands index) (ledger : world.Ledger)
    (alive : world.reactor.alive = true) {socket : Handle} {observers : List (Kind × Nat)}
    (there : world.owner? index = some { socket, observers, role := .attempt attempt })
    (waits : attempt.Waits) {present : Bool}
    (kinds : observers.map Prod.fst = if present then [.writable, .error] else []) :
    ∀ kind ∈ [Kind.writable, .error], ∃ row ∈ world.reactor.registry.rows,
      row.1 = socket.descriptor ∧ row.2.kind = kind ∧ world.maker? row.2.observer = some index := by
  obtain ⟨-, _, noted, here, placed⟩ := stands.waiting (attempt?_of_owner there rfl) waits
  obtain ⟨⟩ := Option.some.inj (there.symm.trans here)
  have both : observers.map Prod.fst = [.writable, .error] := by
    cases present with
    | true => exact kinds
    | false => exact absurd (List.map_eq_nil_iff.mp kinds) (placed alive)
  intro kind asked
  rw [← both] at asked
  obtain ⟨record, listed, rfl⟩ := List.mem_map.mp asked
  have notes := world.notes?_of_owner index _ there
  obtain ⟨row, known, same⟩ := List.mem_map.mp (ledger.listed alive index _ _ notes record listed)
  have made := ledger.recorded index _ _ notes record listed
  obtain ⟨place, rest⟩ := Prod.mk.inj same
  exact ⟨row, known, place, congrArg Prod.fst rest, by rw [← made, ← rest]⟩

theorem Acts.undisturbed (calm : user.Within (Undisturbed index)) {actor : Nat}
    (acts : Acts user actor before after) (other : index ≠ actor) :
    Undisturbed index before after := by
  intro _ attempt spent
  induction acts with
  | refl => exact ⟨spent, rfl⟩
  | tail earlier act ih =>
    obtain ⟨still, same⟩ := ih
    rcases act.apart with apart | called
    · have known := Stands.known ⟨attempt, .inr still⟩
      have one := elsewhere_other other known
      obtain ⟨begun, past, socket, found⟩ := still
      exact ⟨⟨begun, past, socket, apart.owners index _ one found⟩, (apart.deedsOf one).trans same⟩
    · obtain ⟨last, deeds⟩ := calm.called called act.ledger.1 attempt still
      exact ⟨last, deeds.trans same⟩

variable (stays : user.Within (Upholds index))

include stays

theorem complete_answered (calm : user.Within (Undisturbed index)) (ledger : world.Ledger)
    (onFailure : Bool)
    (spent : world.Spent index { state := .connecting, factory := false, onFailure })
    (socket : Handle) : Answered user index socket onFailure (world.done (.built index socket))
      (complete user index socket true world)
      (user.factory index socket (world.done (.built index socket))) := by
  have called : Past index (world.done (.built index socket)) := Past.done ⟨ledger, _, spent⟩ _
  obtain ⟨inside, deeds⟩ := calm.factory index socket _ called.1 _ spent
  obtain ⟨ledger', -⟩ := stays.factory index socket _ called.1
  simp only [complete, if_true]
  cases answer : user.factory index socket (world.done (.built index socket)) with
  | mk built after =>
    rw [answer] at inside deeds ledger'
    cases built with
    | built handler =>
      have known := Stands.known ⟨_, .inr inside⟩
      obtain ⟨attached, acts⟩ := attach_behaves (orderly_of_upholds stays)
        after.outside.owners.length after socket handler ledger'
      obtain ⟨last, same⟩ := acts.undisturbed calm (Nat.ne_of_lt known) ledger' _ inside
      have past : Past index (attach user socket handler after) := ⟨attached, _, last⟩
      have ended := past.change (fun attempt =>
        { attempt with state := .connected, errno := none }) (by simp [Attempt.Waits])
      have found : ((attach user socket handler after).changeAttempt index fun attempt =>
          { attempt with state := .connected, errno := none }).attempt? index =
            some { state := .connected, factory := false, onFailure } := by
        rw [attempt?_changeAttempt, last.found]
        rfl
      exact ⟨rfl, found, same.trans deeds, ended.over stays found (.inl rfl)⟩
    | failed failure =>
      obtain ⟨-, -, home, there⟩ := inside
      obtain ⟨fails, rests⟩ := failAttempt_over stays ledger' home there failure
      exact ⟨fails, deeds, rests⟩
    | panicked =>
      refine ⟨rfl, inside.found, deeds, ?_⟩
      intro later ensues
      have past : Past index after := ⟨ledger', _, inside⟩
      obtain ⟨last, _, spent⟩ := past.upheld (ensues.upholds stays)
      exact spent.unlisted last

theorem Stands.resolve_eq (stands : world.Stands index) (ledger : world.Ledger)
    (takes : user.OnlyTakes) (socket : Handle) (observers : List (Kind × Nat))
    (there : world.owner? index = some { socket, observers, role := .attempt attempt })
    (waits : attempt.Waits) (notification : Notification) :
    let read := user.takeError socket world
    (read.2.taken index).Ledger ∧ (read.2.taken index).deedsOf index = world.deedsOf index ∧
    (read.2.taken index).Spent index { attempt with factory := false } ∧
    resolve user index notification world =
      match connectFailure? notification read.1 with
      | some failure => failAttempt user index failure (read.2.taken index)
      | none => complete user index socket true (read.2.taken index) := by
  intro read
  have found : world.attempt? index = some attempt := attempt?_of_owner there rfl
  obtain ⟨ledger', keeps⟩ := stays.takeError socket world ledger
  have still := (keeps stands).1
  obtain ⟨change, beyond⟩ := takes socket world
  have found' : read.2.attempt? index = some attempt := by
    rw [show read.2 = world.onBeyond change from beyond]
    exact found
  have deeds : read.2.deedsOf index = world.deedsOf index := by
    rw [show read.2 = world.onBeyond change from beyond]
    rfl
  obtain ⟨last, same, spent⟩ := still.taken ledger' found'
  have factory : ((read.2.withdrawAll index).attempt? index).any Attempt.factory = true := by
    rw [attempt?_withdrawAll ledger' found', Option.any_some, waits.2]
  refine ⟨last, same.trans deeds, spent, ?_⟩
  simp only [resolve, there, found, waits.1, if_true]
  rw [← factory]
  rfl

end

/-- The first notification of an attempt that waits resolves it, as long as nobody gives it up
meanwhile. It counts as connected on a notification that it can write without a pending error. Then,
and only then, its factory is called, when nothing of the attempt is registered any more, and it ends
connected, with the service attached, exactly if the factory builds one. Otherwise it fails, and the
callback is told once of the very failure that is noted down. Once it has ended, whatever goes on is of
no effect on it. A connect that fails at once fails alike, with nothing registered. -/
theorem first_notification_resolves (user : UserCode η ν) (start : World η ν)
    (ledger : start.Ledger) (socket : Handle) (onFailure : Bool)
    (stays : user.Within (Upholds start.outside.owners.length))
    (calm : user.Within (Undisturbed start.outside.owners.length)) (takes : user.OnlyTakes) :
    let index := start.outside.owners.length
    (∀ world, Ensues user index (launch socket onFailure start).2 world →
      world.reactor.alive = true → ∀ attempt, world.attempt? index = some attempt →
      attempt.Waits →
      (∀ kind ∈ [Kind.writable, .error], ∃ row ∈ world.reactor.registry.rows,
        row.1 = socket.descriptor ∧ row.2.kind = kind ∧
          world.maker? row.2.observer = some index) ∧
      ∀ notification,
        let read := user.takeError socket world
        let called := (read.2.taken index).done (.built index socket)
        let result := resolve user index notification world
        (∀ observer, world.maker? observer = some index →
          notify user observer notification world = result) ∧
        called.Unlisted index ∧
        (∀ failure, connectFailure? notification read.1 = some failure →
          Fails user index failure onFailure (read.2.taken index) result ∧
          (read.2.taken index).deedsOf index = start.deedsOf index ∧ Over user index result.2) ∧
        (connectFailure? notification read.1 = none →
          Answered user index socket onFailure called result (user.factory index socket called) ∧
          called.deedsOf index = .built index socket :: start.deedsOf index)) ∧
    (∀ notification pending, (connectFailure? notification pending = none ↔
        notification.kind = .writable ∧ pending = .ok none) ∧
      ∀ failure, connectFailure? notification pending = some failure ↔
        pending = .ok (some failure) ∨ pending = .error failure ∨
          notification.kind ≠ .writable ∧ pending = .ok none ∧
            failure = .system (notification.code.getD Errno.notConnected)) ∧
    ∀ failure,
      let begun := (start.addOwner { socket, role := .attempt { onFailure } }).2
      let result := launchFailed user socket onFailure failure start
      result.2.1 = index ∧ begun.reactor = start.reactor ∧
      Fails user index failure onFailure begun (result.1, result.2.2) ∧
      begun.deedsOf index = start.deedsOf index ∧ Over user index result.2.2 := by
  intro index
  refine ⟨?_, fun notification pending => ⟨connectFailure?_eq_none notification pending,
    connectFailure?_eq_some notification pending⟩, ?_⟩
  · intro world ensues alive attempt found waits
    obtain ⟨ledger', stands, launched⟩ := ensues.launched stays ledger
    obtain ⟨rfl, older, observers, there, kinds⟩ := launched attempt found waits
    refine ⟨stands.registered ledger' alive there waits kinds, ?_⟩
    intro notification read called result
    obtain ⟨last, deeds, spent, resolved⟩ :=
      stands.resolve_eq stays ledger' takes socket observers there waits notification
    have older := deeds.trans older
    refine ⟨fun observer => stands.notify_eq user observer notification, spent.unlisted last, ?_, ?_⟩
    · intro failure failed
      have decided : result = failAttempt user index failure (read.2.taken index) :=
        resolved.trans (by rw [failed])
      obtain ⟨-, -, home, there⟩ := spent
      obtain ⟨fails, rests⟩ := failAttempt_over stays last home there failure
      rw [decided]
      exact ⟨fails, older, rests⟩
    · intro connected
      have decided : result = complete user index socket true (read.2.taken index) :=
        resolved.trans (by rw [connected])
      rw [decided]
      refine ⟨complete_answered stays calm last onFailure spent socket, ?_⟩
      exact (deedsOf_done _ _ index rfl).trans (congrArg _ older)
  · intro failure begun result
    have found : begun.owner? index = some { socket, role := .attempt { onFailure } } :=
      (start.owner?_addOwner _ _ _).mpr (.inr ⟨rfl, rfl⟩)
    obtain ⟨fails, rests⟩ := failAttempt_over stays (ledger.addOwner _ rfl) socket found failure
    exact ⟨rfl, rfl, fails, rfl, rests⟩

/-- An attempt that hears first that it can write, or first of an error that nobody knows the code
of. -/
theorem first_notification_resolves_either_way :
    let launched : World Unit Unit := (launch ⟨3, 0⟩ true (opened {} ())).2
    let called := (launched.taken 0).done (.built 0 ⟨3, 0⟩)
    let connected := resolve UserCode.idle 0 (.ofSocket .writable ⟨3, 0⟩) launched
    let refused := resolve UserCode.idle 0 (.failure ⟨3, 0⟩ none) launched
    UserCode.idle.Within (Upholds 0 : World Unit Unit → World Unit Unit → Prop) ∧
    UserCode.idle.Within (Undisturbed 0 : World Unit Unit → World Unit Unit → Prop) ∧
    (UserCode.idle : UserCode Unit Unit).OnlyTakes ∧ launched.reactor.alive = true ∧
    Answered UserCode.idle 0 ⟨3, 0⟩ true called connected (.built (), called) ∧
    connected.2.outside.deeds = [.built 0 ⟨3, 0⟩] ∧
    connected.2.reactor.registry.rows = [(3, ⟨2, .readable, 2⟩)] ∧
    Fails UserCode.idle 0 (.system Errno.notConnected) true (launched.taken 0) refused ∧
    Over UserCode.idle 0 refused.2 ∧
    refused.2.outside.deeds = [.told 0 (some Errno.notConnected)] ∧
    refused.2.reactor.registry.rows = [] := by
  intro launched called connected refused
  have stays : UserCode.idle.Within (Upholds 0 : World Unit Unit → World Unit Unit → Prop) :=
    UserCode.idle_within (.refl 0)
  have calm : UserCode.idle.Within (Undisturbed 0 : World Unit Unit → World Unit Unit → Prop) :=
    UserCode.idle_within fun _ _ _ spent => ⟨spent, rfl⟩
  have takes : (UserCode.idle : UserCode Unit Unit).OnlyTakes := fun _ _ => ⟨id, rfl⟩
  have ledger := (opened_sound {} () : (opened {} () : World Unit Unit).Sound).toLedger
  obtain ⟨resolves, -⟩ := first_notification_resolves UserCode.idle (opened {} ()) ledger
    ⟨3, 0⟩ true stays calm takes
  obtain ⟨-, resolves⟩ := resolves launched .refl (by decide)
    { state := .connecting, onFailure := true } (by decide) ⟨rfl, rfl⟩
  obtain ⟨-, -, -, answered⟩ := resolves (.ofSocket .writable ⟨3, 0⟩)
  obtain ⟨-, -, failed, -⟩ := resolves (.failure ⟨3, 0⟩ none)
  obtain ⟨fails, -, rests⟩ := failed (.system Errno.notConnected) rfl
  exact ⟨stays, calm, takes, by decide, (answered rfl).1, by decide, by decide, fails, rests,
    by decide, by decide⟩

end World

end SocketLoop
