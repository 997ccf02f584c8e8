import SocketLoop.Proofs.Owner.Lifetime
import SocketLoop.Proofs.Owner.Neighbours

/-! Owners are isolated. Whatever an owner does is made of steps that leave the registrations of all
others alone, and of calls of user code. -/
namespace SocketLoop

variable {η ν : Type}

/-- What owners call user code for. -/
inductive UserCode.Called (user : UserCode η ν) (world : World η ν) : World η ν → Prop where
  | observer (observer : Nat) (notification : Notification) :
      Called user world (user.observer observer notification world).2
  | handler (owner : Nat) (handler : η) (notification : Notification) :
      Called user world (user.handler owner handler notification world).2.2
  | dropped (handler : η) (socket : Handle) : Called user world (user.dropped handler socket world)
  | factory (owner : Nat) (socket : Handle) : Called user world (user.factory owner socket world).2
  | onFailure (owner : Nat) (failure : Failure) :
      Called user world (user.onFailure owner failure world).2
  | takeError (socket : Handle) : Called user world (user.takeError socket world).2
  | accept (owner : Nat) (socket : Handle) : Called user world (user.accept owner socket world).2

theorem UserCode.Within.called {user : UserCode η ν} {within : World η ν → World η ν → Prop}
    (stays : user.Within within) {before after : World η ν} (called : user.Called before after) :
    within before after := by
  cases called with
  | observer observer notification => exact stays.observer observer notification before
  | handler owner handler notification => exact stays.handler owner handler notification before
  | dropped handler socket => exact stays.dropped handler socket before
  | factory owner socket => exact stays.factory owner socket before
  | onFailure owner failure => exact stays.onFailure owner failure before
  | takeError socket => exact stays.takeError socket before
  | accept owner socket => exact stays.accept owner socket before

namespace World

open Relation

/-- Something that goes on while an owner acts: its own doing leaves everybody else alone, the rest is
done by user code that it calls. -/
structure Act (user : UserCode η ν) (index : Nat) (before after : World η ν) : Prop where
  ledger : before.Ledger ∧ after.Ledger
  apart : Apart (elsewhere index before.outside.owners.length) before after ∨
    user.Called before after

def Acts (user : UserCode η ν) (index : Nat) : World η ν → World η ν → Prop :=
  ReflTransGen (Act user index)

/-- User code that keeps records and registry in agreement. -/
def Orderly (before after : World η ν) : Prop := before.Ledger → after.Ledger

/-- What is made of acts as long as user code is orderly. -/
def Behaves (user : UserCode η ν) (index : Nat) (before after : World η ν) : Prop :=
  before.Ledger → after.Ledger ∧ Acts user index before after

namespace Behaves

variable {user : UserCode η ν} {index : Nat} {before between after : World η ν}

theorem refl (user : UserCode η ν) (index : Nat) (world : World η ν) :
    Behaves user index world world := fun ledger => ⟨ledger, .refl⟩

theorem trans (first : Behaves user index before between)
    (second : Behaves user index between after) : Behaves user index before after := by
  intro ledger
  obtain ⟨middle, acts⟩ := first ledger
  obtain ⟨last, acts'⟩ := second middle
  exact ⟨last, ReflTransGen.trans acts acts'⟩

theorem own (keeps : Keeps (elsewhere index before.outside.owners.length) before after) :
    Behaves user index before after := by
  intro ledger
  obtain ⟨last, apart⟩ := keeps ledger
  exact ⟨last, .single ⟨⟨ledger, last⟩, .inl apart⟩⟩

theorem edits (edits : Edits index before after) : Behaves user index before after :=
  .own (.edits edits (elsewhere_own index _))

variable (orderly : user.Within Orderly)

include orderly

theorem called (called : user.Called before after) : Behaves user index before after := fun ledger =>
  have last := orderly.called called ledger
  ⟨last, .single ⟨⟨ledger, last⟩, .inr called⟩⟩

end Behaves

section

variable {user : UserCode η ν} (orderly : user.Within Orderly) (index : Nat) (world : World η ν)

include orderly

theorem dropHandler_behaves : Behaves user index world (dropHandler user world index) := by
  have own := elsewhere_own index world.outside.owners.length
  unfold dropHandler
  split
  · exact .refl user index world
  · rename_i owner _
    split
    · exact .refl user index world
    · rename_i handler _
      have dropped := (Keeps.setHandler world index own none).trans (.done _ (.dropped index) own)
      exact (Behaves.own dropped).trans (.called orderly (.dropped handler owner.socket))

theorem closeService_behaves : Behaves user index world (closeService user world index) :=
  (Behaves.edits (world.withdraw_edits index _)).trans (dropHandler_behaves orderly index _)

theorem settle_behaves (requests : Requests) (failed : Bool) :
    Behaves user index world (settle user world index requests failed) := by
  have disabled := edits_foldl (fun world kind => World.disable world index kind)
    (fun world kind => world.withdraw_edits index _) requests.disable.toList world
  have enabled := edits_foldl (fun world kind => World.enable world index kind)
    (fun world kind => world.enable_edits index kind) requests.enable.toList
      (requests.disable.toList.foldl (fun world kind => world.disable index kind) world)
  have tuned : Behaves user index world _ := .edits (ReflTransGen.trans disabled enabled)
  simp only [settle]
  generalize List.foldl _ _ requests.enable.toList = settled at tuned ⊢
  have closed : ∀ ended : Bool,
      Behaves user index settled (if ended then closeService user settled index else settled) := by
    intro ended
    cases ended with
    | false => exact .refl user index settled
    | true => exact closeService_behaves orderly index settled
  exact tuned.trans (closed _)

theorem serve_behaves (notification : Notification) :
    Behaves user index world (serve user index notification world).2 := by
  have own := elsewhere_own index
  unfold serve
  split
  · exact .refl user index world
  · rename_i handler _
    have begun : Behaves user index world (world.done (.handled index)) := .own (.done _ _ (own _))
    have handled := begun.trans (.called orderly (.handler index handler notification))
    split <;> rename_i result <;> rw [result] at handled
    · exact handled.trans (.own (.setHandler _ index (own _) _))
    · exact (handled.trans (.own (.setHandler _ index (own _) _))).trans
        (settle_behaves orderly index _ _ _)

theorem attach_behaves (socket : Handle) (handler : η) :
    Behaves user index world (attach user socket handler world) := by
  -- the new service acts for itself here, and nobody else has its index yet
  have own := elsewhere_new index world.outside.owners.length world.outside.owners.length
    (Nat.le_refl _)
  have seated := Keeps.addOwner (elsewhere index world.outside.owners.length) world
    { socket, role := .service (some handler) } rfl
  cases bare : (user.interests handler).isEmpty with
  | true =>
    rw [attach_of_bare user world socket handler bare]
    have gone := seated.trans ((Keeps.setHandler _ world.outside.owners.length own none).trans
      (.done _ (.dropped world.outside.owners.length) own))
    exact (Behaves.own gone).trans (.called orderly (.dropped handler socket))
  | false =>
    have enabled := edits_foldl
      (fun world' kind => World.enable world' world.outside.owners.length kind)
      (fun world' kind => world'.enable_edits world.outside.owners.length kind)
      (user.interests handler).toList (world.seated socket handler)
    simp only [attach, bare]
    exact .own (seated.trans (.edits enabled own))

theorem failAttempt_behaves (failure : Failure) :
    Behaves user index world (failAttempt user index failure world).2 := by
  have own := elsewhere_own index world.outside.owners.length
  have failed := Keeps.changeAttempt world index own fun attempt =>
    { attempt with state := .failed, errno := failure.errno?, onFailure := false }
  simp only [failAttempt]
  split
  · exact (Behaves.own (failed.trans (.done _ (.told index failure.errno?) own))).trans
      (.called orderly (.onFailure index failure))
  · exact .own failed

theorem complete_behaves (socket : Handle) (factory : Bool) :
    Behaves user index world (complete user index socket factory world).2 := by
  have connected : ∀ world : World η ν, Behaves user index world
      (world.changeAttempt index fun attempt =>
        { attempt with state := .connected, errno := none }) :=
    fun world => .own (.changeAttempt world index (elsewhere_own index _) _)
  cases factory with
  | false => exact connected world
  | true =>
    have begun : Behaves user index world (world.done (.built index socket)) :=
      .own (.done _ _ (elsewhere_own index _))
    have built := begun.trans (.called orderly (.factory index socket))
    simp only [complete, if_true]
    split <;> rename_i result <;> rw [result] at built
    · exact built
    · exact built.trans (failAttempt_behaves orderly index _ _)
    · exact (built.trans (attach_behaves orderly index _ socket _)).trans (connected _)

theorem resolve_behaves (notification : Notification) :
    Behaves user index world (resolve user index notification world).2 := by
  unfold resolve
  split
  · rename_i owner attempt _ _
    split
    · have read : Behaves user index world (user.takeError owner.socket world).2 :=
        .called orderly (.takeError owner.socket)
      have taken := (read.trans (.edits (withdraw_edits _ index fun _ => true))).trans
        (.own (.changeAttempt _ index (elsewhere_own index _) fun attempt =>
          { attempt with factory := false }))
      dsimp only
      split
      · exact taken.trans (failAttempt_behaves orderly index _ _)
      · exact taken.trans (complete_behaves orderly index _ owner.socket _)
    · exact .refl user index world
  · exact .refl user index world

theorem abort_behaves : Behaves user index world (abort user index world).2 := by
  unfold abort
  split
  · have withdrawn : Behaves user index world (world.withdrawAll index) :=
      .edits (world.withdraw_edits index _)
    dsimp only
    split
    · exact (withdrawn.trans (.own (.changeAttempt _ index (elsewhere_own index _) _))).trans
        (failAttempt_behaves orderly index _ _)
    · exact withdrawn
  · exact .refl user index world

theorem takeConnection_behaves : Behaves user index world (takeConnection user index world).2 := by
  unfold takeConnection
  split
  · rename_i owner acceptor _ _
    split
    · exact .refl user index world
    · have accepted : Behaves user index world (user.accept index owner.socket world).2 :=
        .called orderly (.accept index owner.socket)
      split <;> rename_i result <;> rw [result] at accepted
      · exact accepted
      · rename_i socket _
        have own := elsewhere_own index
        have counted := accepted.trans (.own ((Keeps.done _ (.accepted index socket) (own _)).trans
          ((Keeps.changeAcceptor _ index (own _) fun acceptor =>
            { acceptor with accepted := acceptor.accepted + 1 }).trans
              (.done _ (.built index socket) (own _)))))
        have built := counted.trans (.called orderly (.factory index socket))
        dsimp only
        split <;> rename_i made <;> rw [made] at built
        · exact built
        · exact built
        · exact built.trans (attach_behaves orderly index _ socket _)
  · exact .refl user index world

theorem notifyOwner_behaves (notification : Notification) :
    Behaves user index world (notifyOwner user index notification world).2 := by
  unfold notifyOwner
  split
  · exact .refl user index world
  · exact serve_behaves orderly index world notification
  · exact resolve_behaves orderly index world notification
  · exact takeConnection_behaves orderly index world

end

/-- What may happen to a reactor with owners, at rest, in a pass and once it is gone. -/
inductive Happens (user : UserCode η ν) (world : World η ν) : World η ν → Prop where
  | beyond (change : ν → ν) : Happens user world (world.onBeyond change)
  | stop : Happens user world (world.onReactor Reactor.stop)
  | newObserver : Happens user world (world.newObserver none).2
  | addHandler (alive : world.reactor.alive = true) (socket : Handle) (kind : Kind)
      (observer : Nat) (made : world.outside.makers[observer]? = some none) :
      Happens user world (world.onReactor fun reactor => reactor.addHandler socket kind observer)
  | removeHandler (socket : Handle) (kind : Kind) (observer : Nat)
      (made : world.outside.makers[observer]? = some none) :
      Happens user world
        (world.onReactor fun reactor => reactor.removeHandler socket kind observer)
  | called {after : World η ν} (called : user.Called world after) : Happens user world after
  | attach (socket : Handle) (handler : η) : Happens user world (attach user socket handler world)
  | launch (socket : Handle) (onFailure : Bool) :
      Happens user world (launch socket onFailure world).2
  | launchFailed (socket : Handle) (onFailure : Bool) (failure : Failure) :
      Happens user world (launchFailed user socket onFailure failure world).2.2
  | startAcceptor (socket : Handle) : Happens user world (startAcceptor socket world).2
  | stopAcceptor (index : Nat) (acceptor : (world.acceptor? index).isSome = true) :
      Happens user world (stopAcceptor index world)
  | abort (index : Nat) : Happens user world (abort user index world).2
  | notify (observer : Nat) (notification : Notification) :
      Happens user world (notify user observer notification world).2
  | poll (asked : List Interest) : Happens user world (user.poll asked world).2
  | rest : Happens user world (user.rest world)
  /-- A step of the loop itself. -/
  | aside {after : World η ν} (aside : Aside world after) : Happens user world after
  | drop : Happens user world (dropReactor user world)

inductive Reached (user : UserCode η ν) : World η ν → Prop where
  | opened (settings : Settings) (beyond : ν) : Reached user (opened settings beyond)
  | happens {before after : World η ν} (reached : Reached user before)
      (happens : Happens user before after) : Reached user after

theorem Reached.preserves (user : UserCode η ν) : (host user).Preserves (Reached user) :=
  preserves_of_aside
    (fun observer notification _ reached => reached.happens (.notify observer notification))
    (fun asked _ reached => reached.happens (.poll asked)) (fun _ reached => reached.happens .rest)
    fun _ _ aside reached => reached.happens (.aside aside)

theorem Aside.ledger {before after : World η ν} (aside : Aside before after)
    (ledger : before.Ledger) : after.Ledger := by
  obtain ⟨sound, targets⟩ := aside.targets ledger.sound
  refine ledger.of_same sound targets aside.alive (by rw [aside.outside]) (by rw [aside.outside]) ?_
  intro index
  rw [notes?, owner?, aside.outside]
  rfl

section

variable {user : UserCode η ν} (orderly : user.Within Orderly)

include orderly

theorem notify_orderly (observer : Nat) (notification : Notification) (world : World η ν) :
    Orderly world (notify user observer notification world).2 := by
  unfold notify
  split
  · exact orderly.called (.observer observer notification)
  · rename_i index _
    exact fun ledger => (notifyOwner_behaves orderly index world notification ledger).1

theorem dropReactor_orderly (world : World η ν) : Orderly world (dropReactor user world) := by
  have dropped : ∀ (services : List Nat) (world : World η ν), world.Ledger →
      Ledger (services.foldl (fun world index => dropHandler user world index) world) := by
    intro services
    induction services with
    | nil => exact fun _ => id
    | cons index rest ih =>
      exact fun world ledger => ih _ (dropHandler_behaves orderly index world ledger).1
  exact fun ledger => dropped _ _ ledger.lost

theorem Happens.keeps_ledger {before after : World η ν} (happens : Happens user before after) :
    Orderly before after := by
  have keeps : ∀ {after : World η ν}, Keeps (fun _ => false) before after →
      Orderly before after := fun keeps ledger => (keeps ledger).1
  intro ledger
  cases happens with
  | beyond change => exact keeps (.of_owners _ rfl rfl rfl rfl rfl) ledger
  | stop => exact keeps (.of_owners _ rfl rfl rfl rfl rfl) ledger
  | newObserver => exact ledger.newObserver
  | addHandler alive socket kind observer made => exact ledger.add alive socket kind observer made
  | removeHandler socket kind observer made => exact ledger.remove socket kind observer made
  | called called => exact orderly.called called ledger
  | attach socket handler => exact (attach_behaves orderly 0 before socket handler ledger).1
  | launch socket onFailure => exact keeps (launch_keeps _ before rfl socket onFailure) ledger
  | launchFailed socket onFailure failure =>
    have added := ledger.addOwner { socket, role := .attempt { onFailure } } rfl
    exact (failAttempt_behaves orderly before.outside.owners.length _ failure added).1
  | startAcceptor socket => exact keeps (startAcceptor_keeps _ before rfl socket) ledger
  | stopAcceptor index => exact keeps (stopAcceptor_keeps _ before index rfl) ledger
  | abort index => exact (abort_behaves orderly index before ledger).1
  | notify observer notification => exact notify_orderly orderly observer notification before ledger
  | poll asked => exact orderly.poll asked before ledger
  | rest => exact orderly.rest before ledger
  | aside aside => exact aside.ledger ledger
  | drop => exact dropReactor_orderly orderly before ledger

theorem Reached.ledger {world : World η ν} (reached : Reached user world) : world.Ledger := by
  induction reached with
  | opened settings beyond => exact (opened_sound settings beyond).toLedger
  | happens _ happens ih => exact happens.keeps_ledger orderly ih

end

theorem Acts.leaves {user : UserCode η ν} {index : Nat} {before after : World η ν}
    (acts : Acts user index before after)
    (called : ∀ between other, user.Called between other → between.Ledger →
      Leaves (elsewhere index before.outside.owners.length) between other) :
    Leaves (elsewhere index before.outside.owners.length) before after := by
  induction acts with
  | refl => exact leaves_of_same _ rfl rfl (Nat.le_refl _)
  | tail earlier act ih =>
    refine ih.trans ?_
    rcases act.apart with own | call
    · refine own.toLeaves.mono act.ledger.1 _ ?_
      -- whoever was there at first is there at any later step
      intro maker other
      cases maker with
      | none => rfl
      | some other' =>
        have length := ih.length
        simp only [elsewhere, Option.all_some, Bool.and_eq_true, decide_eq_true_eq] at other ⊢
        exact ⟨other.1, Nat.lt_of_lt_of_le other.2 length⟩
    · exact called _ _ call act.ledger.1

/-- Whatever an owner does changes no registrations but its own: enabling, disabling, closing and
stopping leave all others in their order and live, and so does each step of settling requests, of
handling a notification, of failing and of aborting, unless it is a call of user code. Entries stay as
long as they keep a registration. A service that is attached on the way acts for itself. -/
theorem owners_are_isolated (user : UserCode η ν) (orderly : user.Within Orderly)
    (world : World η ν) (ledger : world.Ledger) (index : Nat) :
    (∀ kind, Unmoved (others index) world (world.enable index kind)) ∧
    (∀ kind, Unmoved (others index) world (world.disable index kind)) ∧
    Unmoved (others index) world (world.withdrawAll index) ∧
    Unmoved (others index) world (stopAcceptor index world) ∧
    Acts user index world (closeService user world index) ∧
    (∀ requests failed, Acts user index world (settle user world index requests failed)) ∧
    (∀ notification, Acts user index world (notifyOwner user index notification world).2) ∧
    Acts user index world (abort user index world).2 ∧
    (∀ before after, Act user index before after →
      Unmoved (elsewhere index before.outside.owners.length) before after ∨
        user.Called before after) ∧
    (∀ after, Acts user index world after →
      (∀ between other, user.Called between other → between.Ledger →
        Leaves (elsewhere index world.outside.owners.length) between other) →
      Unmoved (elsewhere index world.outside.owners.length) world after) ∧
    ∀ reached, Reached user reached → Ledger reached ∧
      (∀ fuel, Reached user (run user fuel reached).2) ∧
      ∀ turn ∈ Loop.passTurns (host user) reached ++
          Loop.broadcastTurns (host user) .shutdown reached,
        ∀ visit ∈ turn.visits (host user), Reached user visit.2 := by
  have own : others index (some index) = false := by simp [others]
  have edited : ∀ {after : World η ν}, Edits index world after →
      Unmoved (others index) world after :=
    fun edits => (edits.apart ledger _ own).toLeaves.unmoved ledger
  refine ⟨fun kind => edited (world.enable_edits index kind),
    fun kind => edited (world.withdraw_edits index _), edited (world.withdraw_edits index _),
    (stopAcceptor_keeps _ world index own ledger).2.toLeaves.unmoved ledger,
    (closeService_behaves orderly index world ledger).2,
    fun requests failed => (settle_behaves orderly index world requests failed ledger).2,
    fun notification => (notifyOwner_behaves orderly index world notification ledger).2,
    (abort_behaves orderly index world ledger).2, ?_, ?_, ?_⟩
  · intro before after act
    exact act.apart.imp_left fun apart => apart.toLeaves.unmoved act.ledger.1
  · exact fun after acts called => (acts.leaves called).unmoved ledger
  · intro reached there
    have preserves := Reached.preserves user
    refine ⟨there.ledger orderly, fun fuel => Loop.run_preserves preserves fuel _ there, ?_⟩
    intro turn member visit visited
    have started : Reached user turn.start := by
      rcases List.mem_append.mp member with inside | last
      · exact Loop.passTurns_hold preserves.toGuards reached there turn inside
      · exact Loop.sendTurns_hold preserves.toMinds _ _ _ reached there turn last
    exact Loop.visits_hold preserves.toMinds turn.socket turn.notification turn.snapshot
      turn.start started visit visited

/-- Two services, an attempt and an observer of a user on one socket. -/
def shared : World Unit Unit :=
  let attached := attach UserCode.idle ⟨3, 0⟩ () (attach UserCode.idle ⟨3, 0⟩ () (opened {} ()))
  ((launch ⟨3, 0⟩ true attached).2.newObserver none).2.onReactor fun reactor =>
    reactor.addHandler ⟨3, 0⟩ .error 4

theorem owners_are_isolated_sharing :
    UserCode.idle.Within (Orderly : World Unit Unit → World Unit Unit → Prop) ∧ shared.Ledger ∧
    shared.reactor.registry.rows = [(3, ⟨0, .readable, 0⟩), (3, ⟨1, .readable, 1⟩),
      (3, ⟨2, .writable, 2⟩), (3, ⟨3, .error, 3⟩), (3, ⟨4, .error, 4⟩)] ∧
    Unmoved (others 0) shared (shared.withdrawAll 0) ∧
    (shared.withdrawAll 0).heldBy (others 0) = [(3, ⟨1, .readable, 1⟩), (3, ⟨2, .writable, 2⟩),
      (3, ⟨3, .error, 3⟩), (3, ⟨4, .error, 4⟩)] ∧
    Unmoved (elsewhere 2 3) shared (abort UserCode.idle 2 shared).2 ∧
    (abort UserCode.idle 2 shared).2.reactor.registry.rows =
      [(3, ⟨0, .readable, 0⟩), (3, ⟨1, .readable, 1⟩), (3, ⟨4, .error, 4⟩)] := by
  have orderly : UserCode.idle.Within (Orderly : World Unit Unit → World Unit Unit → Prop) :=
    UserCode.idle_within fun _ => id
  have attached : Reached UserCode.idle (attach UserCode.idle ⟨3, 0⟩ ()
      (attach UserCode.idle ⟨3, 0⟩ () (opened {} ()))) :=
    ((Reached.opened {} ()).happens (.attach ⟨3, 0⟩ ())).happens (.attach ⟨3, 0⟩ ())
  have reached : Reached UserCode.idle shared :=
    ((attached.happens (.launch ⟨3, 0⟩ true)).happens .newObserver).happens
      (.addHandler (by decide) ⟨3, 0⟩ .error 4 (by decide))
  have ledger := reached.ledger orderly
  obtain ⟨-, -, withdrawn, -⟩ := owners_are_isolated UserCode.idle orderly shared ledger 0
  obtain ⟨-, -, -, -, -, -, -, acts, -, whole, -⟩ :=
    owners_are_isolated UserCode.idle orderly shared ledger 2
  have still : UserCode.idle.Within (Leaves (ν := Unit) (elsewhere 2 3)) :=
    UserCode.idle_within fun _ => leaves_of_same _ rfl rfl (Nat.le_refl _)
  refine ⟨orderly, ledger, by decide, withdrawn, by decide, ?_, by decide⟩
  exact whole _ acts fun between other called _ => still.called called

end World

end SocketLoop
