import SocketLoop.Proofs.Owner.Gate

/-! What acceptors take. An acceptor takes the connections that wait at its listener one by one, each
once, and one at most in a pass. It counts those whose peer has an address that can be read, and
hands each to its factory. -/
namespace SocketLoop

variable {η ν : Type}

namespace Gate

variable (gate : Gate ν)

/-- What user code does: it leaves the acceptor alone, or it stops it. -/
inductive Dealing (before : World η ν) : World η ν → Prop where
  | move {after : World η ν} (move : World.Move before after)
      (owner : after.owner? gate.index = before.owner? gate.index)
      (dealings : after.dealings gate.index = before.dealings gate.index)
      (waiting : gate.waiting before.outside.beyond <+: gate.waiting after.outside.beyond) :
      Dealing before after
  | stop (may : gate.stoppable) : Dealing before (World.stopAcceptor gate.index before)

/-- What comes of a world with the acceptor is made of dealings. -/
def Deals (before after : World η ν) : Prop :=
  gate.Manned before → Relation.ReflTransGen gate.Dealing before after

/-- A listener yields what waits longest, or nothing at all. What it yields does not wait on. -/
inductive Yields (world : World η ν) : Accepted × World η ν → Prop where
  | nothing (value : ν) (waits : gate.waiting world.outside.beyond <+: gate.waiting value) :
      Yields world (.nothing, world.onBeyond fun _ => value)
  | unreadable (value : ν) (rest : List (Option Handle))
      (first : gate.waiting world.outside.beyond = none :: rest)
      (waits : rest <+: gate.waiting value) :
      Yields world (.nothing, world.onBeyond fun _ => value)
  | connection (socket : Handle) (value : ν) (rest : List (Option Handle))
      (first : gate.waiting world.outside.beyond = some socket :: rest)
      (waits : rest <+: gate.waiting value) :
      Yields world (.connection socket, world.onBeyond fun _ => value)

/-- Some connections are taken, but not too many. -/
def Spends (most : Nat) (before after : World η ν) : Prop :=
  gate.Manned before → gate.Manned after ∧
    ∃ taken, taken.length ≤ most ∧ gate.Dealt taken before after

variable {gate}

theorem Quiet.spends {before after : World η ν} (quiet : gate.Quiet before after) (most : Nat) :
    gate.Spends most before after := by
  intro manned
  obtain ⟨still, dealt⟩ := quiet manned
  exact ⟨still, [], Nat.zero_le most, dealt⟩

theorem Spends.trans {first second : Nat} {before between after : World η ν}
    (one : gate.Spends first before between) (more : gate.Spends second between after) :
    gate.Spends (first + second) before after := by
  intro manned
  obtain ⟨between, early, few, one⟩ := one manned
  obtain ⟨after, late, fewer, more⟩ := more between
  refine ⟨after, early ++ late, ?_, one.trans more⟩
  rw [List.length_append]
  exact Nat.add_le_add few fewer

theorem Spends.mono {first second : Nat} {before after : World η ν}
    (spends : gate.Spends first before after) (le : first ≤ second) :
    gate.Spends second before after := by
  intro manned
  obtain ⟨still, taken, few, dealt⟩ := spends manned
  exact ⟨still, taken, Nat.le_trans few le, dealt⟩

theorem Quiet.before {most : Nat} {before between after : World η ν}
    (quiet : gate.Quiet before between) (spends : gate.Spends most between after) :
    gate.Spends most before after :=
  Nat.zero_add most ▸ (quiet.spends 0).trans spends

theorem Spends.quietly {most : Nat} {before between after : World η ν}
    (spends : gate.Spends most before between) (quiet : gate.Quiet between after) :
    gate.Spends most before after :=
  spends.trans (quiet.spends 0)

theorem acceptor?_of_staff {world : World η ν} {acceptor : Acceptor}
    (owner : world.owner? gate.index = some (gate.staff acceptor)) :
    world.acceptor? gate.index = some acceptor := by
  rw [World.acceptor?, owner]
  rfl

/-- The acceptor is at its post, with what it has registered. -/
theorem Manned.post {world : World η ν} (manned : gate.Manned world) (acceptor : Acceptor)
    (found : world.acceptor? gate.index = some acceptor) :
    world.owner? gate.index = some (gate.staff acceptor) ∧
      world.holdings gate.index gate.socket.descriptor = gate.registrations acceptor := by
  obtain ⟨own, owner, holds⟩ := manned.staffed
  obtain rfl : acceptor = own :=
    Option.some.inj (found.symm.trans (acceptor?_of_staff owner))
  exact ⟨owner, holds⟩

/-- The acceptor has no registrations but its own. -/
theorem Manned.registered {world : World η ν} (manned : gate.Manned world) (acceptor : Acceptor)
    (found : world.acceptor? gate.index = some acceptor) (descriptor : Int) :
    world.holdings gate.index descriptor =
      if descriptor = gate.socket.descriptor then gate.registrations acceptor else [] := by
  obtain ⟨owner, holds⟩ := manned.post acceptor found
  split
  · rename_i here
    rw [here, holds]
  · rename_i other
    rw [List.eq_nil_iff_forall_not_mem]
    intro registration held
    exact other (world.mem_holdings_iff manned.ledger gate.index _ owner descriptor _ held).1

/-- What changes an acceptor but does not stop it leaves it with its registration. -/
theorem Manned.changed {world : World η ν} (manned : gate.Manned world) (acceptor : Acceptor)
    (found : world.acceptor? gate.index = some acceptor) (change : Acceptor → Acceptor)
    (still : (change acceptor).stopped = acceptor.stopped) :
    gate.Manned (world.changeAcceptor gate.index change) ∧
      (world.changeAcceptor gate.index change).acceptor? gate.index = some (change acceptor) := by
  obtain ⟨owner, holds⟩ := manned.post acceptor found
  have moved : World.Move world (world.changeAcceptor gate.index change) := .acceptor _ _
  have same : (gate.registrations (change acceptor)) = gate.registrations acceptor := by
    rw [registrations, registrations, still]
  have changed : (world.changeAcceptor gate.index change).owner? gate.index =
      some (gate.staff (change acceptor)) := by
    rw [staff, same]
    exact World.owner?_changeOwner_self world gate.index _ _ owner
  exact ⟨⟨moved.ledger manned.alive manned.ledger, manned.alive, _, changed, holds.trans same.symm⟩,
    acceptor?_of_staff changed⟩

/-- A listening acceptor counts what was taken, and is stopped by those only who may stop it. -/
theorem counted_of_listening {before after : World η ν} (acceptor : Acceptor)
    (found : before.acceptor? gate.index = some acceptor) (listening : acceptor.stopped = false)
    (taken : List (Option Handle)) (stopped : Bool)
    (now : after.acceptor? gate.index =
      some ⟨stopped, acceptor.accepted + taken.reduceOption.length⟩)
    (free : ¬gate.stoppable → stopped = acceptor.stopped) :
    ∀ other, before.acceptor? gate.index = some other → ∃ stopped,
      after.acceptor? gate.index = some ⟨stopped, other.accepted + taken.reduceOption.length⟩ ∧
      (other.stopped = true → stopped = true ∧ taken = []) ∧
      (¬gate.stoppable → stopped = other.stopped) := by
  intro other there
  obtain rfl : acceptor = other := Option.some.inj (found.symm.trans there)
  refine ⟨stopped, now, ?_, free⟩
  intro halted
  rw [listening] at halted
  cases halted

theorem stopAcceptor_of_stopped {world : World η ν} (acceptor : Acceptor)
    (found : world.acceptor? gate.index = some acceptor) (idle : acceptor.stopped = true) :
    World.stopAcceptor gate.index world = world := by
  simp [World.stopAcceptor, found, idle]

theorem stopAcceptor_of_listening {world : World η ν} (acceptor : Acceptor)
    (found : world.acceptor? gate.index = some acceptor) (listening : acceptor.stopped = false) :
    World.stopAcceptor gate.index world =
      (world.changeAcceptor gate.index fun acceptor =>
        { acceptor with stopped := true }).withdraw gate.index fun _ => true := by
  simp [World.stopAcceptor, World.withdrawAll, found, listening]

/-- An acceptor that is stopped takes its registration back. -/
theorem stopAcceptor_dealt (may : gate.stoppable) {world : World η ν} (manned : gate.Manned world)
    (acceptor : Acceptor) (found : world.acceptor? gate.index = some acceptor) :
    gate.Manned (World.stopAcceptor gate.index world) ∧
      gate.Dealt [] world (World.stopAcceptor gate.index world) ∧
      (World.stopAcceptor gate.index world).acceptor? gate.index =
        some { acceptor with stopped := true } := by
  cases listening : acceptor.stopped with
  | true =>
    rw [stopAcceptor_of_stopped acceptor found listening]
    exact ⟨manned, .refl world, by rw [found, ← listening]⟩
  | false =>
    have changed : World.Move world (world.changeAcceptor gate.index fun acceptor =>
      { acceptor with stopped := true }) := .acceptor _ _
    have halted : (world.changeAcceptor gate.index fun acceptor =>
        { acceptor with stopped := true }).owner? gate.index = some {
          (gate.staff acceptor : Owner η) with
          role := .acceptor { acceptor with stopped := true } } :=
      World.owner?_changeOwner_self world gate.index _ _ (manned.post acceptor found).1
    have ledger := changed.ledger manned.alive manned.ledger
    have withdrawn := World.Edit.withdraw halted fun _ => true
    have near := withdrawn.near ledger
    have ends := World.owner?_withdraw _ ledger.sound gate.index (fun _ => true) _ halted
    have bare := World.withdraw_holdings _ ledger gate.index _ halted (fun _ => true) gate.index
      gate.socket.descriptor
    have makers := World.withdraw_makers _ ledger gate.index _ halted fun _ => true
    rw [← stopAcceptor_of_listening acceptor found listening] at withdrawn near ends bare makers
    simp only [Bool.not_true, List.filter_false, beq_self_eq_true, Bool.and_true] at ends bare
    have stopped : (World.stopAcceptor gate.index world).owner? gate.index =
      some (gate.staff { acceptor with stopped := true }) := ends
    refine ⟨⟨withdrawn.ledger ledger, near.alive.trans manned.alive, _, stopped, bare⟩,
      ⟨⟨[], ?_⟩, ?_, ?_, ?_⟩, acceptor?_of_staff stopped⟩
    · rw [withdrawn.beyond ledger]
      exact List.append_nil _
    · rw [World.dealings, near.deeds]
      exact (List.append_nil _).symm
    · intro observer made
      rwa [World.maker?, makers] at made
    · exact counted_of_listening acceptor found listening [] true (acceptor?_of_staff stopped)
        fun never => absurd may never

theorem stopAcceptor_quiet (may : gate.stoppable) (world : World η ν) :
    gate.Quiet world (World.stopAcceptor gate.index world) := by
  intro manned
  obtain ⟨acceptor, owner, -⟩ := manned.staffed
  obtain ⟨still, dealt, -⟩ := stopAcceptor_dealt may manned acceptor (acceptor?_of_staff owner)
  exact ⟨still, dealt⟩

theorem Dealing.quiet {before after : World η ν} (dealing : gate.Dealing before after) :
    gate.Quiet before after := by
  cases dealing with
  | move move owner dealings waiting => exact .move move owner dealings waiting
  | stop may => exact stopAcceptor_quiet may before

theorem Deals.quiet {before after : World η ν} (deals : gate.Deals before after) :
    gate.Quiet before after := by
  intro manned
  have chain := deals manned
  clear deals
  induction chain with
  | refl => exact Quiet.refl before manned
  | tail _ dealing ih =>
    obtain ⟨between, one⟩ := ih
    obtain ⟨after, more⟩ := dealing.quiet between
    exact ⟨after, one.trans more⟩

end Gate

/-- A world with a connection that an acceptor counted and is about to hand to its factory. -/
def World.received (world : World η ν) (index : Nat) (socket : Handle) : World η ν :=
  ((world.done (.accepted index socket)).changeAcceptor index fun acceptor =>
    { acceptor with accepted := acceptor.accepted + 1 }).done (.built index socket)

namespace Gate

variable {gate : Gate ν}

theorem dealings_done (world : World η ν) (deed : Deed) (concerned : deed.deals gate.index = true) :
    (world.done deed).dealings gate.index = world.dealings gate.index ++ [deed] := by
  change (List.filter _ (deed :: world.outside.deeds)).reverse = _
  rw [List.filter_cons_of_pos concerned, List.reverse_cons]
  rfl

section

variable {world : World η ν} (manned : gate.Manned world) (acceptor : Acceptor)
  (found : world.acceptor? gate.index = some acceptor) (listening : acceptor.stopped = false)

include manned found listening

/-- What has no address that can be read is taken and not counted. -/
theorem dismissed_dealt (value : ν) (rest : List (Option Handle))
    (first : gate.waiting world.outside.beyond = none :: rest)
    (waits : rest <+: gate.waiting value) : gate.Manned (world.onBeyond fun _ => value) ∧
      gate.Dealt [none] world (world.onBeyond fun _ => value) := by
  have ledger : (world.onBeyond fun _ => value).Ledger :=
    manned.ledger.of_same manned.ledger.sound rfl rfl rfl rfl fun _ => rfl
  refine ⟨⟨ledger, manned.alive, manned.staffed⟩, ?_, (List.append_nil _).symm, fun _ => id, ?_⟩
  · obtain ⟨arrived, more⟩ := waits
    exact ⟨arrived, by rw [first]; exact congrArg (none :: ·) more⟩
  · exact counted_of_listening acceptor found listening [none] acceptor.stopped found fun _ => rfl

/-- A connection that waited longest is taken and counted before its factory is called. -/
theorem received_dealt (socket : Handle) (value : ν) (rest : List (Option Handle))
    (first : gate.waiting world.outside.beyond = some socket :: rest)
    (waits : rest <+: gate.waiting value) :
    gate.Manned ((world.onBeyond fun _ => value).received gate.index socket) ∧
      gate.Dealt [some socket] world
        ((world.onBeyond fun _ => value).received gate.index socket) ∧
      ((world.onBeyond fun _ => value).received gate.index socket).acceptor? gate.index =
        some ⟨false, acceptor.accepted + 1⟩ := by
  obtain ⟨counted, now⟩ := manned.changed acceptor found (fun acceptor =>
    { acceptor with accepted := acceptor.accepted + 1 }) rfl
  have ledger : ((world.onBeyond fun _ => value).received gate.index socket).Ledger :=
    counted.ledger.of_same counted.ledger.sound rfl rfl rfl rfl fun _ => rfl
  refine ⟨⟨ledger, counted.alive, counted.staffed⟩, ⟨?_, ?_, fun _ => id, ?_⟩,
    listening ▸ now⟩
  · obtain ⟨arrived, more⟩ := waits
    exact ⟨arrived, by rw [first]; exact congrArg (some socket :: ·) more⟩
  · rw [World.received, dealings_done _ _ (by simp [Deed.deals])]
    change (World.done (world.onBeyond fun _ => value) _).dealings gate.index ++ _ = _
    rw [dealings_done _ _ (by simp [Deed.deals]), List.append_assoc]
    rfl
  · exact counted_of_listening acceptor found listening [some socket] acceptor.stopped now
      fun _ => rfl

namespace Yields

variable {inside : World η ν}

theorem nobody (yields : gate.Yields world (.nothing, inside)) : gate.Manned inside ∧
    ∃ taken, taken.length ≤ 1 ∧ taken.reduceOption = [] ∧ gate.Dealt taken world inside := by
  cases yields with
  | nothing value waits =>
    obtain ⟨still, dealt⟩ := Quiet.move (World.Move.beyond value) rfl rfl waits manned
    exact ⟨still, [], Nat.zero_le 1, rfl, dealt⟩
  | unreadable value rest first waits =>
    obtain ⟨still, dealt⟩ := dismissed_dealt manned acceptor found listening value rest first waits
    exact ⟨still, [none], Nat.le_refl 1, rfl, dealt⟩

theorem somebody {socket : Handle} (yields : gate.Yields world (.connection socket, inside)) :
    gate.Manned (inside.received gate.index socket) ∧
      gate.Dealt [some socket] world (inside.received gate.index socket) ∧
      (inside.received gate.index socket).acceptor? gate.index =
        some ⟨false, acceptor.accepted + 1⟩ := by
  cases yields with
  | connection _ value rest first waits =>
    exact received_dealt manned acceptor found listening socket value rest first waits

end Yields

end

theorem Dealt.quietly {before between after : World η ν} {taken : List (Option Handle)}
    (dealt : gate.Dealt taken before between) (manned : gate.Manned between)
    (quiet : gate.Quiet between after) : gate.Manned after ∧ gate.Dealt taken before after := by
  obtain ⟨still, more⟩ := quiet manned
  exact ⟨still, List.append_nil taken ▸ dealt.trans more⟩

theorem takeConnection_of_listening (user : UserCode η ν) (world : World η ν) (acceptor : Acceptor)
    (owner : world.owner? gate.index = some (gate.staff acceptor))
    (listening : acceptor.stopped = false) : World.takeConnection user gate.index world =
      match user.accept gate.index gate.socket world with
      | (.nothing, inside) => (.returned, inside)
      | (.connection socket, inside) =>
        match user.factory gate.index socket (inside.received gate.index socket) with
        | (.panicked, after) => (.panicked, after)
        | (.failed _, after) => (.returned, after)
        | (.built handler, after) => (.returned, World.attach user socket handler after) := by
  have found := acceptor?_of_staff owner
  rw [World.takeConnection, owner, found]
  simp only [listening]
  rfl

section

variable {user : UserCode η ν} (stays : user.Besides gate.index gate.Quiet)
  (listens : ∀ world, gate.Yields world (user.accept gate.index gate.socket world))
  (world : World η ν)

include stays

/-- Whatever comes of the factory, the connection that it was called for is all that is taken. -/
theorem built_dealt (socket : Handle) (inside : World η ν)
    (manned : gate.Manned (inside.received gate.index socket))
    (dealt : gate.Dealt [some socket] world (inside.received gate.index socket))
    (acceptor : Acceptor) (owner : world.owner? gate.index = some (gate.staff acceptor))
    (listening : acceptor.stopped = false)
    (accepted : user.accept gate.index gate.socket world = (.connection socket, inside)) :
    gate.Manned (World.takeConnection user gate.index world).2 ∧
      gate.Dealt [some socket] world (World.takeConnection user gate.index world).2 := by
  have built := stays.factory gate.index socket (inside.received gate.index socket)
  rw [takeConnection_of_listening user world acceptor owner listening, accepted]
  dsimp only
  split <;> rename_i result <;> rw [result] at built
  · exact dealt.quietly manned built
  · exact dealt.quietly manned built
  · exact dealt.quietly manned (built.trans (Quiet.attach stays _ socket _))

include listens

theorem takeConnection_spends :
    gate.Spends 1 world (World.takeConnection user gate.index world).2 := by
  intro manned
  obtain ⟨acceptor, owner, -⟩ := manned.staffed
  have found := acceptor?_of_staff owner
  cases listening : acceptor.stopped with
  | true =>
    have deaf : World.takeConnection user gate.index world = (.returned, world) := by
      simp [World.takeConnection, owner, found, listening]
    rw [deaf]
    exact (Quiet.refl world).spends 1 manned
  | false =>
    have yields := listens world
    cases accepted : user.accept gate.index gate.socket world with
    | mk what inside =>
      rw [accepted] at yields
      cases what with
      | nothing =>
        obtain ⟨still, taken, few, -, dealt⟩ := yields.nobody manned acceptor found listening
        rw [takeConnection_of_listening user world acceptor owner listening, accepted]
        exact ⟨still, taken, few, dealt⟩
      | connection socket =>
        obtain ⟨counted, dealt, -⟩ := yields.somebody manned acceptor found listening
        obtain ⟨still, dealt⟩ := built_dealt stays world socket inside counted dealt acceptor owner
          listening accepted
        exact ⟨still, [some socket], Nat.le_refl 1, dealt⟩

omit stays listens in
theorem Manned.notify {world : World η ν} (manned : gate.Manned world) (observer : Nat)
    (notification : Notification) (made : world.maker? observer = some gate.index) :
    World.notify user observer notification world = World.takeConnection user gate.index world := by
  obtain ⟨acceptor, owner, -⟩ := manned.staffed
  simp [World.notify, made, World.notifyOwner, owner, staff]

theorem notify_spends (observer : Nat) (notification : Notification) :
    gate.Spends (if world.maker? observer == some gate.index then 1 else 0) world
      (World.notify user observer notification world).2 := by
  split
  · rename_i own
    intro manned
    rw [manned.notify observer notification (beq_iff_eq.mp own)]
    exact takeConnection_spends stays listens world manned
  · rename_i other
    have apart : world.maker? observer ≠ some gate.index := fun made => other (beq_iff_eq.mpr made)
    exact (Quiet.notify stays world observer notification apart).spends 0

omit stays listens in
theorem aside_quiet {before after : World η ν} (aside : World.Aside before after) :
    gate.Quiet before after := by
  intro manned
  obtain ⟨sound, targets⟩ := aside.targets manned.ledger.sound
  have notes : ∀ index, after.notes? index = before.notes? index := by
    intro index
    rw [World.notes?, World.notes?, World.owner?, World.owner?, aside.outside]
  have ledger : after.Ledger := manned.ledger.of_same sound targets aside.alive
    (by rw [aside.outside]) (by rw [aside.outside]) notes
  refine quiet_of_alone ledger aside.alive ?_ ?_ (aside.holds gate.index) ?_ ?_ manned
  · intro observer made
    rwa [World.maker?, aside.outside] at made
  · rw [World.owner?, World.owner?, aside.outside]
  · rw [World.dealings, World.dealings, aside.outside]
  · exact aside.outside ▸ List.prefix_refl _

open Loop

theorem callOne_spends (socket : Handle) (notification : Notification) (armed : Armed) :
    gate.Spends (if world.isOwn gate.index armed then 1 else 0) world
      (callOne (World.host user) socket notification armed world).2 := by
  by_cases dead : armed.number ∈ world.reactor.registry.cleared
  · rw [callOne_of_dead _ socket notification armed world dead]
    exact (Quiet.refl world).spends _
  · have begins : gate.Quiet world (world.begin socket armed notification) :=
      aside_quiet ⟨rfl, rfl, .inl rfl⟩
    have told := notify_spends stays listens (world.begin socket armed notification) armed.observer
      notification
    rw [callOne_of_live _ socket notification armed world dead]
    exact (begins.before told).quietly (aside_quiet ⟨rfl, rfl, .inl rfl⟩)

/-- The acceptor takes no more than is called of its registrations: it gets no others meanwhile. -/
theorem deliver_spends (socket : Handle) (notification : Notification) (list : List Armed) :
    gate.Spends (list.countP (world.isOwn gate.index)) world
      (deliver (World.host user) socket notification list world).2 := by
  induction list generalizing world with
  | nil =>
    have disarms : gate.Quiet world (world.onReactor fun reactor => { reactor with armed := [] }) :=
      aside_quiet ⟨rfl, rfl, .inl rfl⟩
    exact disarms.spends 0
  | cons armed rest ih =>
    intro manned
    have arms : gate.Quiet world (world.onReactor fun reactor =>
      { reactor with armed := armed :: rest }) := aside_quiet ⟨rfl, rfl, .inl rfl⟩
    have called := arms.before (callOne_spends stays listens (world.onReactor fun reactor =>
      { reactor with armed := armed :: rest }) socket notification armed)
    rw [deliver, List.countP_cons, Nat.add_comm]
    cases ended : callOne (World.host user) socket notification armed (world.onReactor fun reactor =>
      { reactor with armed := armed :: rest }) with
    | mk ending after =>
      rw [ended] at called
      cases ending with
      | panicked =>
        have disarms : gate.Quiet after (after.onReactor fun reactor =>
          { reactor with armed := [] }) := aside_quiet ⟨rfl, rfl, .inl rfl⟩
        exact (called.quietly disarms).mono (Nat.le_add_right _ _) manned
      | returned =>
        obtain ⟨-, _, -, dealt⟩ := called manned
        have fewer : rest.countP (World.isOwn after gate.index) ≤
            rest.countP (world.isOwn gate.index) := by
          refine List.countP_mono_left fun registration _ own => ?_
          exact beq_iff_eq.mpr (dealt.makers _ (beq_iff_eq.mp own))
        exact called.trans ((ih after).mono fewer) manned

omit stays listens in
theorem Manned.snapshot (manned : gate.Manned world) (descriptor : Int) (kind : Kind) :
    (world.reactor.registry.snapshot descriptor kind).countP (world.isOwn gate.index) ≤
      if (descriptor, kind) == gate.target then 1 else 0 := by
  have own : (world.reactor.registry.snapshot descriptor kind).countP (world.isOwn gate.index) =
      (world.holdings gate.index descriptor).countP fun registration =>
        registration.kind == kind := by
    rw [Registry.snapshot_eq, World.holdings, List.countP_filter, List.countP_filter]
    simp only [Bool.and_comm]
  obtain ⟨acceptor, owner, -⟩ := manned.staffed
  rw [own, manned.registered acceptor (acceptor?_of_staff owner)]
  by_cases here : descriptor = gate.socket.descriptor
  · rw [if_pos here, registrations, here]
    by_cases same : gate.registration.kind = kind
    · have own : ((gate.socket.descriptor, kind) == gate.target) = true :=
        beq_iff_eq.mpr (Prod.ext rfl same.symm)
      rw [if_pos own]
      exact Nat.le_trans List.countP_le_length (by split <;> simp)
    · split <;> simp [same]
  · rw [if_neg here]
    exact Nat.zero_le _

theorem dispatch_spends (socket : Handle) (notification : Notification) :
    gate.Spends (if (socket.descriptor, notification.kind) == gate.target then 1 else 0) world
      (dispatch (World.host user) socket notification world).2 := by
  intro manned
  exact (deliver_spends stays listens world socket notification _).mono
    (manned.snapshot world socket.descriptor notification.kind) manned

omit stays listens in
theorem Spends.andThen {first second : Nat} {result : Ending × World η ν}
    {next : World η ν → Ending × World η ν} (one : gate.Spends first world result.2)
    (more : ∀ world, gate.Spends second world (next world).2) :
    gate.Spends (first + second) world (Loop.andThen result next).2 := by
  obtain ⟨ending, after⟩ := result
  cases ending with
  | returned => exact one.trans (more after)
  | panicked => exact one.mono (Nat.le_add_right first second)

theorem dispatchAll_spends (socket : Handle) (notifications : List Notification) :
    gate.Spends ((notifications.map fun notification =>
        (socket.descriptor, notification.kind)).count gate.target) world
      (dispatchAll (World.host user) socket notifications world).2 := by
  induction notifications generalizing world with
  | nil => exact (Quiet.refl world).spends 0
  | cons notification rest ih =>
    rw [List.map_cons, List.count_cons, Nat.add_comm]
    exact (dispatch_spends stays listens world socket notification).andThen world ih

/-- The kinds that a socket is told of after a poll are all different. -/
theorem dispatchReady_spends (socket : Handle) (readiness : Readiness) :
    gate.Spends (if socket.descriptor == gate.socket.descriptor then 1 else 0) world
      (dispatchReady (World.host user) socket readiness world).2 := by
  have mutes : gate.Quiet world (world.onReactor fun reactor =>
      { reactor with registry := muteReported reactor.registry socket readiness }) :=
    aside_quiet ⟨rfl, rfl, .inr ⟨socket, readiness, rfl⟩⟩
  refine (mutes.before (dispatchAll_spends stays listens _ socket _)).mono ?_
  generalize unheardHangUp _ socket readiness = unheard
  have kinds := (notificationsOf_order socket readiness unheard).nodup (by decide)
  split
  · refine List.nodup_iff_count_le_one.mp ?_ _
    exact List.Nodup.of_map Prod.snd (by rwa [List.map_map])
  · rename_i other
    rw [Nat.le_zero, List.count_eq_zero]
    intro told
    obtain ⟨notification, -, same⟩ := List.mem_map.mp told
    exact other (beq_iff_eq.mpr (congrArg Prod.fst same))

theorem readyPass_spends (reports : List (Handle × Readiness)) :
    gate.Spends ((reports.map fun report => report.1.descriptor).count gate.socket.descriptor) world
      (readyPass (World.host user) reports world).2 := by
  induction reports generalizing world with
  | nil => exact (Quiet.refl world).spends 0
  | cons report rest ih =>
    rw [List.map_cons, List.count_cons, Nat.add_comm]
    exact (dispatchReady_spends stays listens world report.1 report.2).andThen world ih

theorem sendEach_spends (kind : Kind) (other : kind ≠ gate.registration.kind)
    (kept sockets : List Handle) :
    gate.Spends 0 world (sendEach (World.host user) kind kept sockets world).2 := by
  induction sockets generalizing world with
  | nil => exact (Quiet.refl world).spends 0
  | cons socket rest ih =>
    have holds : gate.Quiet world (world.onReactor fun reactor =>
      { reactor with held := socket :: rest ++ kept }) := aside_quiet ⟨rfl, rfl, .inl rfl⟩
    have told := dispatch_spends stays listens (world.onReactor fun reactor =>
      { reactor with held := socket :: rest ++ kept }) socket (.ofSocket kind socket)
    rw [if_neg fun same => other (congrArg Prod.snd (beq_iff_eq.mp same))] at told
    exact (holds.before told).andThen world ih

theorem broadcast_spends (kind : Kind) (other : kind ≠ gate.registration.kind) :
    gate.Spends 0 world (broadcast (World.host user) kind world).2 :=
  (sendEach_spends stays listens world kind other _ _).quietly
    (aside_quiet ⟨rfl, rfl, .inl rfl⟩)

/-- A poll that reports no socket twice makes the acceptor take one connection at most. -/
theorem pass_spends (registered : gate.registration.kind = .readable)
    (polls : ∀ asked world reports after, user.poll asked world = (.ready reports, after) →
      (reports.map fun report => report.1.descriptor).Nodup) :
    gate.Spends 1 world (pass (World.host user) world).2 := by
  have exit := pass_exit (World.host user) world
  generalize passTurns (World.host user) world = turns, pass (World.host user) world = result at exit
  have asks : gate.Quiet world world.asking := aside_quiet ⟨rfl, rfl, .inl rfl⟩
  have rests : gate.Quiet world (rested (World.host user) world) := by
    rw [rested]
    split
    · exact .refl world
    · exact stays.rest world
  have polled : ∀ {found after}, (World.host user).poll world.reactor.registry.pollSet
      world.asking = (found, after) → gate.Quiet world after := by
    intro found after asked
    obtain rfl : (user.poll world.reactor.registry.pollSet world.asking).2 = after :=
      congrArg Prod.snd asked
    exact asks.trans (stays.poll _ world.asking)
  have sends : ∀ kind (between : World η ν), kind ≠ .readable → gate.Quiet world between →
      gate.Spends 1 world (passEnd (broadcast (World.host user) kind between)).2 := by
    intro kind between other quiet
    rw [passEnd_site]
    have told := broadcast_spends stays listens between kind (registered ▸ other)
    exact (quiet.before told).mono (Nat.zero_le 1)
  have ends : ∀ {between after : World η ν}, gate.Quiet world between → between.Aside after →
      gate.Spends 1 world after :=
    fun quiet aside => (quiet.trans (aside_quiet aside)).spends 1
  cases exit with
  | muffled => exact ends rests ⟨rfl, rfl, .inl rfl⟩
  | idle => exact sends .idle _ (by decide) (rests.trans (aside_quiet ⟨rfl, rfl, .inl rfl⟩))
  | interrupted _ asked => exact ends (polled asked) ⟨rfl, rfl, .inl rfl⟩
  | failed _ asked => exact ends (polled asked) ⟨rfl, rfl, .inl rfl⟩
  | quiet _ asked => exact ends (polled asked) ⟨rfl, rfl, .inl rfl⟩
  | timeout _ asked =>
    exact sends .timeout _ (by decide) ((polled asked).trans (aside_quiet ⟨rfl, rfl, .inl rfl⟩))
  | @ready reports after _ _ asked =>
    have noted : gate.Quiet world (after.note
        (.polled world.reactor.registry.pollSet.length reports.length)) :=
      (polled asked).trans (aside_quiet ⟨rfl, rfl, .inl rfl⟩)
    have distinct := polls _ _ _ _ asked
    have told := (readyPass_spends stays listens (after.note
      (.polled world.reactor.registry.pollSet.length reports.length)) reports).mono
        (List.nodup_iff_count_le_one.mp distinct _)
    rw [passEnd_site]
    exact (noted.before told).quietly (aside_quiet ⟨rfl, rfl, .inl rfl⟩)

end

end Gate

end SocketLoop
