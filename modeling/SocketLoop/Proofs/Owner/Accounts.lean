import SocketLoop.Proofs.Owner.Admission

/-! The accounts of acceptors. From its start on an acceptor has counted what it took and could read,
and its factory was called for that and for nothing else. It goes on until it is stopped, and then
is gone from the registry and takes nothing more. -/
namespace SocketLoop

variable {η ν : Type}

namespace World

/-- Services stay, with what they are registered for. -/
def ServicesStay (before after : World η ν) : Prop :=
  ∀ index owner, before.owner? index = some owner → owner.serves = true →
    after.owner? index = some owner ∧ Holds index before after

theorem Harmless.servicesStay {before after : World η ν} (harmless : Harmless before after)
    (going : before.Going) : ServicesStay before after := by
  intro index owner found serves
  have moves := harmless going
  exact ⟨(moves.goes going).2.kept id found serves, moves.holds going index owner found serves⟩

def opening (start : World η ν) (socket : Handle) : World η ν :=
  (start.addOwner { socket, role := .acceptor {} }).2

end World

namespace Gate

variable (gate : Gate ν)

/-- The acceptor is going to be the next owner, with the next observer and registration. -/
structure Opens (start : World η ν) : Prop where
  index : gate.index = start.outside.owners.length
  registration : gate.registration =
    ⟨start.reactor.registry.next, .readable, start.outside.makers.length⟩

/-- What may come of a world with the acceptor: users, owners and the loop go on. -/
inductive Attends (user : UserCode η ν) (opened : World η ν) : World η ν → Prop where
  | opened : Attends user opened opened
  | dealing {world after : World η ν} (attends : Attends user opened world)
      (dealing : gate.Dealing world after) : Attends user opened after
  | attach {world : World η ν} (attends : Attends user opened world) (socket : Handle)
      (handler : η) : Attends user opened (World.attach user socket handler world)
  | notified {world : World η ν} (attends : Attends user opened world) (observer : Nat)
      (notification : Notification) :
      Attends user opened (World.notify user observer notification world).2
  | aside {world after : World η ν} (attends : Attends user opened world)
      (aside : World.Aside world after) : Attends user opened after

variable {gate}

/-- An acceptor that starts is registered, and has taken nothing. -/
theorem Opens.manned {start : World η ν} (opens : gate.Opens start) (going : start.Going) :
    gate.Manned (World.startAcceptor gate.socket start).2 ∧
      (World.startAcceptor gate.socket start).2.acceptor? gate.index = some {} := by
  have begun : (World.startAcceptor gate.socket start).2 =
      (start.opening gate.socket).enlist gate.index .readable := by
    rw [opens.index]
    rfl
  have added : (start.opening gate.socket).Ledger := going.sound.toLedger.addOwner _ rfl
  have unheld : (start.opening gate.socket).holdings gate.index gate.socket.descriptor = [] :=
    opens.index ▸ start.holdings_of_new going.sound.toLedger gate.socket.descriptor
  have bare : (start.opening gate.socket).owner? gate.index =
      some { socket := gate.socket, role := .acceptor {} } :=
    (start.owner?_addOwner _ _ _).mpr (.inr ⟨opens.index, rfl⟩)
  have alive : (start.opening gate.socket).reactor.alive = true := going.alive
  have enlists := World.Edit.enlist alive bare .readable
  have owner := World.enlist_owner _ _ _ bare alive .readable
  have holds := World.enlist_holdings _ added gate.index _ bare alive .readable gate.index
    gate.socket.descriptor
  rw [← begun] at enlists owner holds
  rw [if_pos ⟨rfl, rfl⟩, unheld] at holds
  have staffed : (World.startAcceptor gate.socket start).2.owner? gate.index =
      some (gate.staff {}) := by
    rw [owner, staff, registrations, opens.registration]
    rfl
  refine ⟨⟨enlists.ledger added, (enlists.near added).alive.trans alive, {}, staffed, ?_⟩,
    acceptor?_of_staff staffed⟩
  rw [holds, registrations, opens.registration]
  rfl

theorem Attends.chain {user : UserCode η ν} {opened world after : World η ν}
    (attends : gate.Attends user opened world)
    (chain : Relation.ReflTransGen gate.Dealing world after) : gate.Attends user opened after := by
  induction chain with
  | refl => exact attends
  | tail _ dealing ih => exact .dealing ih dealing

section

variable {user : UserCode η ν} (deals : user.Besides gate.index gate.Deals)
  (listens : ∀ world, gate.Yields world (user.accept gate.index gate.socket world))
  {opened : World η ν} (manned : gate.Manned opened)

include deals listens manned

theorem Attends.dealt {world : World η ν} (attends : gate.Attends user opened world) :
    gate.Manned world ∧ ∃ taken, gate.Dealt taken opened world := by
  have stays := deals.imp fun _ _ => Deals.quiet
  induction attends with
  | opened => exact ⟨manned, [], .refl opened⟩
  | dealing _ dealing ih =>
    obtain ⟨manned, taken, dealt⟩ := ih
    obtain ⟨still, dealt⟩ := dealt.quietly manned dealing.quiet
    exact ⟨still, taken, dealt⟩
  | attach _ socket handler ih =>
    obtain ⟨manned, taken, dealt⟩ := ih
    obtain ⟨still, dealt⟩ := dealt.quietly manned (Quiet.attach stays _ socket handler)
    exact ⟨still, taken, dealt⟩
  | notified _ observer notification ih =>
    obtain ⟨manned, taken, dealt⟩ := ih
    obtain ⟨still, more, -, dealt'⟩ :=
      notify_spends stays listens _ observer notification manned
    exact ⟨still, taken ++ more, dealt.trans dealt'⟩
  | aside _ aside ih =>
    obtain ⟨manned, taken, dealt⟩ := ih
    obtain ⟨still, dealt⟩ := dealt.quietly manned (aside_quiet aside)
    exact ⟨still, taken, dealt⟩

theorem attends_preserves : (World.host user).Preserves (gate.Attends user opened) := by
  refine World.preserves_of_aside
    (fun observer notification _ attends => attends.notified observer notification)
    ?_ ?_ fun _ _ aside attends => attends.aside aside
  · intro asked world attends
    exact attends.chain (deals.poll asked world (attends.dealt deals listens manned).1)
  · intro world attends
    exact attends.chain (deals.rest world (attends.dealt deals listens manned).1)

theorem Attends.going (stays : user.Within World.Harmless) (going : opened.Going)
    {world : World η ν} (attends : gate.Attends user opened world) : world.Going := by
  induction attends with
  | opened => exact going
  | dealing attends dealing ih =>
    cases dealing with
    | move move => exact (move.goes ih).1
    | stop =>
      obtain ⟨acceptor, owner, -⟩ := (attends.dealt deals listens manned).1.staffed
      have harmless := World.stopAcceptor_harmless gate.index _ acceptor (acceptor?_of_staff owner)
      exact ((harmless ih).goes ih).1
  | attach _ socket handler ih =>
    exact ((World.attach_harmless stays _ socket handler ih).goes ih).1
  | notified _ observer notification ih =>
    exact (World.notify_abides stays _ observer notification ih).going
  | aside _ aside ih => exact ih.aside aside

end

variable (gate)

/-- What comes of telling an acceptor that goes on that there is something to take. -/
structure Admits (user : UserCode η ν) (world : World η ν) (acceptor : Acceptor)
    (result : Ending × World η ν) : Prop where
  /-- What cannot be taken, or not be read, costs itself and nothing else. -/
  nothing : ∀ inside, user.accept gate.index gate.socket world = (.nothing, inside) →
    result = (.returned, inside) ∧ ∃ value, inside = world.onBeyond fun _ => value
  connection : ∀ socket inside,
    user.accept gate.index gate.socket world = (.connection socket, inside) →
    gate.Dealt [some socket] world result.2
  /-- A factory that fails leaves behind what it did itself. If it stopped nothing, the acceptor
  goes on. -/
  failed : ∀ socket inside failure after,
    user.accept gate.index gate.socket world = (.connection socket, inside) →
    user.factory gate.index socket (inside.received gate.index socket) =
      (.failed failure, after) →
    result = (.returned, after) ∧
      ({ gate with stoppable := False }.Deals (inside.received gate.index socket) after →
        after.acceptor? gate.index = some ⟨false, acceptor.accepted + 1⟩ ∧
          after.holdings gate.index gate.socket.descriptor = [gate.registration])

/-- The accounts of an acceptor in some world since it was opened. -/
structure Accounts (user : UserCode η ν) (opened world : World η ν) (acceptor : Acceptor) :
    Prop where
  found : world.acceptor? gate.index = some acceptor
  registered : ∀ descriptor, world.holdings gate.index descriptor =
    if acceptor.stopped = false ∧ descriptor = gate.socket.descriptor then [gate.registration]
    else []
  listening : ¬gate.stoppable → acceptor.stopped = false
  taken : ∃ taken, gate.Dealt taken opened world ∧
    acceptor.accepted = taken.reduceOption.length
  runs : ∀ fuel, gate.Attends user opened (World.run user fuel world).2
  /-- A pass takes one connection at most, and what comes after the last pass takes none. -/
  pass : gate.Attends user opened (Loop.pass (World.host user) world).2 ∧
    ∃ taken, taken.length ≤ 1 ∧ gate.Dealt taken world (Loop.pass (World.host user) world).2
  shutdown : gate.Dealt [] world (Loop.broadcast (World.host user) .shutdown world).2
  told : acceptor.stopped = false → ∀ observer notification,
    world.maker? observer = some gate.index →
    gate.Admits user world acceptor (World.notify user observer notification world)
  stops : gate.stoppable →
    gate.Attends user opened (World.stopAcceptor gate.index world) ∧
      (World.stopAcceptor gate.index world).acceptor? gate.index =
        some { acceptor with stopped := true }
  halted : acceptor.stopped = true → ∀ later, gate.Attends user world later →
    gate.Dealt [] world later ∧ ∀ descriptor, later.holdings gate.index descriptor = []
  services : World.ServicesStay world (World.stopAcceptor gate.index world) ∧
    ∀ observer notification, world.maker? observer = some gate.index →
      World.ServicesStay world (World.notify user observer notification world).2

variable {gate}

section

variable {user : UserCode η ν} {world : World η ν} (manned : gate.Manned world) (acceptor : Acceptor)
  (found : world.acceptor? gate.index = some acceptor)

include manned found

theorem Manned.told (deals : user.Besides gate.index gate.Deals)
    (listens : ∀ world, gate.Yields world (user.accept gate.index gate.socket world))
    (listening : acceptor.stopped = false) : gate.Admits user world acceptor
      (World.takeConnection user gate.index world) := by
  have owner := (manned.post acceptor found).1
  have yields := listens world
  have stays := deals.imp fun _ _ => Deals.quiet
  constructor
  case nothing =>
    intro inside accepted
    rw [accepted] at yields
    rw [takeConnection_of_listening user world acceptor owner listening, accepted]
    refine ⟨rfl, ?_⟩
    cases yields with
    | nothing value => exact ⟨value, rfl⟩
    | unreadable value => exact ⟨value, rfl⟩
  case connection =>
    intro socket inside accepted
    rw [accepted] at yields
    obtain ⟨counted, dealt, -⟩ := yields.somebody manned acceptor found listening
    exact (built_dealt stays world socket inside counted dealt acceptor owner listening accepted).2
  case failed =>
    intro socket inside failure after accepted made
    rw [accepted] at yields
    obtain ⟨counted, -, now⟩ := yields.somebody manned acceptor found listening
    rw [takeConnection_of_listening user world acceptor owner listening, accepted]
    dsimp only
    rw [made]
    refine ⟨rfl, ?_⟩
    intro goes
    obtain ⟨still, dealt⟩ := goes.quiet ⟨counted.ledger, counted.alive, counted.staffed⟩
    obtain ⟨stopped, ends, -, free⟩ := dealt.counted _ now
    have listens : stopped = false := free id
    rw [listens] at ends
    exact ⟨ends, (still.registered _ ends _).trans (if_pos rfl)⟩

end

theorem attends_accounts {user : UserCode η ν} (stays : user.Within World.Harmless)
    (deals : user.Besides gate.index gate.Deals)
    (listens : ∀ world, gate.Yields world (user.accept gate.index gate.socket world))
    (polls : ∀ asked world reports after, user.poll asked world = (.ready reports, after) →
      (reports.map fun report => report.1.descriptor).Nodup)
    (readable : gate.registration.kind = .readable) {opened : World η ν}
    (manned : gate.Manned opened) (fresh : opened.acceptor? gate.index = some {})
    (going : opened.Going) (world : World η ν) (attends : gate.Attends user opened world) :
    ∃ acceptor, gate.Accounts user opened world acceptor := by
  have quiet := deals.imp fun _ _ => Deals.quiet
  obtain ⟨still, taken, dealt⟩ := attends.dealt deals listens manned
  have alive := attends.going deals listens manned stays going
  obtain ⟨stopped, found, -, free⟩ := dealt.counted _ fresh
  have preserves := attends_preserves deals listens manned
  refine ⟨_, found, ?_, ?_, ⟨taken, dealt, Nat.zero_add _⟩, ?_, ⟨?_, ?_⟩, ?_, ?_, ?_, ?_, ?_, ?_⟩
  · intro descriptor
    rw [still.registered _ found, registrations]
    cases stopped <;> simp
  · exact free
  · exact fun fuel => Loop.run_preserves preserves fuel world attends
  · exact Loop.pass_preserves preserves.toGuards world attends
  · exact (pass_spends quiet listens world readable polls still).2
  · obtain ⟨-, taken, none, dealt⟩ :=
      broadcast_spends quiet listens world .shutdown (by simp [readable]) still
    rwa [List.length_eq_zero_iff.mp (Nat.le_zero.mp none)] at dealt
  · intro listening observer notification made
    rw [still.notify observer notification made]
    exact still.told _ found deals listens listening
  · intro may
    exact ⟨attends.dealing (.stop may), (stopAcceptor_dealt may still _ found).2.2⟩
  · intro halts later attends
    obtain ⟨manned, taken, dealt⟩ := attends.dealt deals listens still
    obtain ⟨halted, found', ends, -⟩ := dealt.counted _ found
    obtain ⟨rfl, rfl⟩ := ends halts
    refine ⟨dealt, ?_⟩
    intro descriptor
    rw [manned.registered _ found', registrations]
    simp
  · exact (World.stopAcceptor_harmless gate.index world _ found).servicesStay alive
  · intro observer notification made
    rw [still.notify observer notification made]
    exact (World.takeConnection_harmless stays world gate.index).servicesStay alive

/-- An acceptor has counted the connections that it took and could read, in the order in which they
waited, and its factory was called once for each and for nothing else, whatever goes on. It takes
one at most in a pass. What it cannot read and what its factory fails at costs it no more than that
connection. It is registered until it is stopped, and takes nothing from then on. No service is
touched by any of that. -/
theorem acceptor_accounts (user : UserCode η ν) (stays : user.Within World.Harmless)
    (gate : Gate ν) (deals : user.Besides gate.index gate.Deals)
    (listens : ∀ world, gate.Yields world (user.accept gate.index gate.socket world))
    (polls : ∀ asked world reports after, user.poll asked world = (.ready reports, after) →
      (reports.map fun report => report.1.descriptor).Nodup)
    (start : World η ν) (going : start.Going) (opens : gate.Opens start) :
    World.ServicesStay start (World.startAcceptor gate.socket start).2 ∧
      ∀ world, gate.Attends user (World.startAcceptor gate.socket start).2 world →
        ∃ acceptor, gate.Accounts user (World.startAcceptor gate.socket start).2 world acceptor := by
  have harmless := World.startAcceptor_harmless gate.socket start
  obtain ⟨manned, fresh⟩ := opens.manned going
  refine ⟨harmless.servicesStay going, ?_⟩
  exact attends_accounts stays deals listens polls (by rw [opens.registration]) manned fresh
    ((harmless going).goes going).1

end Gate

/-- A listener on which connections wait, one of them without an address. The factory of its
acceptor fails for one of them, and stops the acceptor for the others. -/
def UserCode.closingUp : UserCode Unit (List (Option Handle)) :=
  { UserCode.idle with
    accept := fun owner _ world =>
      match owner, world.outside.beyond with
      | 0, none :: rest => (.nothing, world.onBeyond fun _ => rest)
      | 0, some socket :: rest => (.connection socket, world.onBeyond fun _ => rest)
      | _, _ => (.nothing, world)
    factory := fun _ socket world =>
      if socket.descriptor = 5 then (.failed (.bare .other), world)
      else (.built (), if (world.acceptor? 0).isSome then World.stopAcceptor 0 world else world)
    poll := fun _ world => (.ready [(⟨3, 0⟩, { input := true })], world) }

def Gate.closingUp : Gate (List (Option Handle)) where
  index := 0
  socket := ⟨3, 0⟩
  registration := ⟨0, .readable, 0⟩
  waiting := id
  stoppable := True

theorem Gate.closingUp_yields (world : World Unit (List (Option Handle))) :
    Gate.closingUp.Yields world
      (UserCode.closingUp.accept Gate.closingUp.index Gate.closingUp.socket world) := by
  dsimp only [UserCode.closingUp, closingUp]
  split
  · rename_i rest _ waits
    exact .unreadable rest rest waits (List.prefix_refl _)
  · rename_i socket rest _ waits
    exact .connection socket rest rest waits (List.prefix_refl _)
  · exact .nothing world.outside.beyond (List.prefix_refl _)

namespace UserCode

theorem closingUp_harmless : closingUp.Within World.Harmless :=
  { idle_within World.Harmless.refl with
    accept := by
      intro owner socket world
      dsimp only [closingUp]
      split
      · exact .move (.beyond _)
      · exact .move (.beyond _)
      · exact .refl world
    factory := by
      intro owner socket world
      dsimp only [closingUp]
      split
      · exact .refl world
      · split
        · rename_i some
          obtain ⟨acceptor, found⟩ := Option.isSome_iff_exists.mp some
          exact World.stopAcceptor_harmless 0 world acceptor found
        · exact .refl world
    poll := fun _ world => .refl world }

theorem closingUp_deals : closingUp.Besides 0 Gate.closingUp.Deals where
  observer _ _ _ _ := .refl
  handler _ _ _ _ _ := .refl
  dropped _ _ _ _ := .refl
  factory _ socket world _ := by
    dsimp only [closingUp]
    split
    · exact .refl
    · split
      · exact .single (.stop trivial)
      · exact .refl
  onFailure _ _ _ _ := .refl
  takeError _ _ _ := .refl
  accept owner socket world other _ := by
    dsimp only [closingUp]
    split
    · exact absurd rfl other
    · exact absurd rfl other
    · exact .refl
  poll _ _ _ := .refl
  rest _ _ := .refl

end UserCode

namespace Gate

theorem acceptor_accounts_closingUp :
    let opened := (World.startAcceptor ⟨3, 0⟩ (World.opened {}
      [some ⟨5, 0⟩, none, some ⟨6, 0⟩, some ⟨7, 0⟩])).2
    let after := (World.run UserCode.closingUp 4 opened).2
    after.acceptor? 0 = some ⟨true, 2⟩ ∧ after.outside.beyond = [some ⟨7, 0⟩] ∧
      after.holdings 0 3 = [] ∧
      ∃ taken, closingUp.Dealt taken opened after ∧ taken.reduceOption.length = 2 := by
  intro opened after
  have acceptor : after.acceptor? 0 = some ⟨true, 2⟩ := by decide
  have polls : ∀ asked world reports after, UserCode.closingUp.poll asked world =
      (.ready reports, after) → (reports.map fun report => report.1.descriptor).Nodup := by
    intro asked world reports after polled
    obtain ⟨rfl, -⟩ : [((⟨3, 0⟩ : Handle), ({ input := true } : Readiness))] = reports ∧
      world = after := by simpa [UserCode.closingUp] using polled
    exact List.nodup_singleton _
  obtain ⟨-, accounts⟩ := acceptor_accounts UserCode.closingUp UserCode.closingUp_harmless closingUp
    UserCode.closingUp_deals closingUp_yields polls
    (World.opened {} [some ⟨5, 0⟩, none, some ⟨6, 0⟩, some ⟨7, 0⟩])
    ⟨World.opened_sound {} _, rfl⟩ ⟨rfl, rfl⟩
  obtain ⟨_, first⟩ := accounts opened .opened
  obtain ⟨_, last⟩ := accounts after (first.runs 4)
  obtain ⟨taken, dealt, counted⟩ := last.taken
  rw [← Option.some.inj (acceptor.symm.trans last.found)] at counted
  exact ⟨acceptor, by decide, by decide, taken, dealt, counted.symm⟩

end Gate

end SocketLoop
