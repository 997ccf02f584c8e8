import SocketLoop.Proofs.Owner.Interests

/-! What services are registered for. From its attachment on a service has on record what it holds in
the registry, one registration for each kind, and a notification changes that as its handler asks. -/
namespace SocketLoop

variable {η ν : Type}

namespace World

/-- What may come of a world: users, owners and the loop go on. -/
inductive Since (user : UserCode η ν) (start : World η ν) : World η ν → Prop where
  | start : Since user start start
  | moves {world after : World η ν} (since : Since user start world) (moves : Moves world after) :
      Since user start after
  | notified {world : World η ν} (since : Since user start world) (observer : Nat)
      (notification : Notification) : Since user start (notify user observer notification world).2
  | aside {world after : World η ν} (since : Since user start world)
      (aside : Aside world after) : Since user start after

/-- The record of a service and its registrations agree, and there is one for each kind. -/
structure Posted (index : Nat) (socket : Handle) (world : World η ν) (owner : Owner η) : Prop where
  going : world.Going
  found : world.owner? index = some owner
  home : owner.socket = socket
  serves : owner.serves = true
  record : (world.holdings index socket.descriptor).map Registration.place = owner.observers
  single : (owner.observers.map Prod.fst).Nodup

namespace Posted

variable {index : Nat} {socket : Handle} {before after world : World η ν} {owner : Owner η}

theorem kinds (posted : Posted index socket world owner) :
    (world.holdings index socket.descriptor).map Registration.kind =
      owner.observers.map Prod.fst := by
  rw [← posted.record, List.map_map]
  rfl

theorem has_iff (posted : Posted index socket world owner) (kind : Kind) :
    owner.kinds.has kind = true ↔
      ∃ registration ∈ world.holdings index socket.descriptor, registration.kind = kind := by
  rw [Owner.has_kinds, ← posted.kinds, List.mem_map]

theorem interests (posted : Posted index socket world owner) :
    world.interests index socket.descriptor = owner.kinds := by
  rw [World.interests, posted.kinds, Owner.kinds]

theorem of_holds (posted : Posted index socket before owner) (going : after.Going)
    (found : after.owner? index = some owner) (holds : Holds index before after) :
    Posted index socket after owner :=
  ⟨going, found, posted.home, posted.serves, (holds _).symm ▸ posted.record, posted.single⟩

theorem moves (posted : Posted index socket before owner) (moves : Moves before after) :
    Posted index socket after owner := by
  obtain ⟨going, beside⟩ := moves.goes posted.going
  exact posted.of_holds going (beside.kept id posted.found posted.serves)
    (moves.holds posted.going index owner posted.found posted.serves)

theorem aside (posted : Posted index socket before owner) (aside : Aside before after) :
    Posted index socket after owner := by
  have found : after.owner? index = some owner := by
    rw [owner?, aside.outside]
    exact posted.found
  exact posted.of_holds (posted.going.aside aside) found (aside.holds index)

/-- What is taken out of the record by kinds is taken out of the registry, and what comes to the one
comes to the other. -/
theorem adjusted (posted : Posted index socket world owner) (requests : Requests) :
    ∃ fresh, (world.adjust index requests).owner? index = some { owner with
        observers := (world.adjust index requests).holdings index socket.descriptor |>.map
          Registration.place } ∧
      (world.adjust index requests).holdings index socket.descriptor =
        ((world.holdings index socket.descriptor).filter fun registration =>
          !requests.disable.has registration.kind) ++ fresh ∧
      (((world.adjust index requests).holdings index socket.descriptor).map
        Registration.kind).Nodup ∧
      (world.adjust index requests).reactor.registry.onSocket socket.descriptor =
        ((world.reactor.registry.onSocket socket.descriptor).filter fun registration =>
          !(world.isOwn index registration && requests.disable.has registration.kind)) ++ fresh ∧
      (∀ registration ∈ fresh, world.reactor.registry.next ≤ registration.number) ∧
      fresh.map Registration.kind = requests.enable.toList.filter fun kind =>
        !(owner.kinds.has kind && !requests.disable.has kind) := by
  obtain ⟨between, fresh, shrunk, grown, kinds⟩ :=
    adjust_cases world posted.going index owner posted.found requests
  have holdings : (world.adjust index requests).holdings index socket.descriptor =
      ((world.holdings index socket.descriptor).filter fun registration =>
        !requests.disable.has registration.kind) ++ fresh := by
    rw [grown.holdings, shrunk.holdings, posted.home, if_pos rfl]
  refine ⟨fresh, ?_, holdings, ?_, ?_, ?_, kinds⟩
  · rw [grown.own _ (shrunk.own owner posted.found), holdings, List.map_append, ← posted.record,
      List.filter_map]
    rfl
  · rw [holdings, List.map_append, kinds, List.nodup_append]
    refine ⟨?_, requests.enable.toList_distinct.filter _, ?_⟩
    · exact (posted.kinds ▸ posted.single).sublist (List.filter_sublist.map _)
    · intro kind old other new same
      obtain ⟨registration, kept, rfl⟩ := List.mem_map.mp old
      obtain ⟨held, stays⟩ := List.mem_filter.mp kept
      have noted := (posted.has_iff _).mpr ⟨registration, held, rfl⟩
      have absent := (List.mem_filter.mp new).2
      rw [← same, noted, stays] at absent
      cases absent
  · rw [grown.onSocket, shrunk.onSocket, posted.home, if_pos rfl]
  · exact fun registration there => shrunk.next ▸ grown.numbers registration there

/-- What is wanted before and after calls stays, and what is wanted after them only is new. -/
theorem called (posted : Posted index socket world owner) (calls : List Call) :
    ∃ fresh, (world.adjust index (.ofCalls calls)).interests index socket.descriptor =
        calls.foldl KindSet.called owner.kinds ∧
      (world.adjust index (.ofCalls calls)).holdings index socket.descriptor =
        ((world.holdings index socket.descriptor).filter fun registration =>
          (calls.foldl KindSet.called owner.kinds).has registration.kind) ++ fresh ∧
      (world.adjust index (.ofCalls calls)).reactor.registry.onSocket socket.descriptor =
        ((world.reactor.registry.onSocket socket.descriptor).filter fun registration =>
          !world.isOwn index registration ||
            (calls.foldl KindSet.called owner.kinds).has registration.kind) ++ fresh ∧
      (∀ registration ∈ fresh, world.reactor.registry.next ≤ registration.number) ∧
      fresh.map Registration.kind = (calls.foldl KindSet.called owner.kinds).toList.filter
        fun kind => !owner.kinds.has kind := by
  obtain ⟨fresh, found, holdings, single, onSocket, numbers, kinds⟩ := posted.adjusted (.ofCalls calls)
  have stays : ∀ registration ∈ world.holdings index socket.descriptor,
      (!(Requests.ofCalls calls).disable.has registration.kind) =
        (calls.foldl KindSet.called owner.kinds).has registration.kind := fun registration held =>
    Requests.kept_ofCalls calls owner.kinds _ ((posted.has_iff _).mpr ⟨registration, held, rfl⟩)
  have comes := Requests.fresh_ofCalls calls owner.kinds
  have kept := List.filter_congr stays
  refine ⟨fresh, ?_, holdings.trans (congrArg (· ++ fresh) kept), ?_, numbers, kinds.trans comes⟩
  · apply KindSet.ext_has
    intro kind
    rw [World.interests, holdings, kept, Bool.eq_iff_iff, KindSet.has_ofList, List.map_append,
      kinds, comes, List.mem_append, List.mem_filter, KindSet.mem_toList, List.mem_map]
    constructor
    · intro either
      cases either with
      | inl old =>
        obtain ⟨registration, there, rfl⟩ := old
        exact (List.mem_filter.mp there).2
      | inr new => exact new.1
    · intro has
      cases noted : owner.kinds.has kind with
      | true =>
        obtain ⟨registration, held, rfl⟩ := (posted.has_iff kind).mp noted
        exact .inl ⟨registration, List.mem_filter.mpr ⟨held, has⟩, rfl⟩
      | false => exact .inr ⟨has, rfl⟩
  · rw [onSocket]
    congr 1
    apply List.filter_congr
    intro registration there
    cases own : world.isOwn index registration with
    | false => rfl
    | true => simp [← stays registration (List.mem_filter.mpr ⟨there, own⟩)]

/-- A service that is closed holds nothing, and has nothing on record. -/
theorem closed (posted : Posted index socket world owner) {adjusted : World η ν}
    (edits : Edits index world adjusted) (handler : η)
    (role : owner.role = .service (some handler))
    (going : ((adjusted.withdrawAll index).discard index).Going) :
    Posted index socket ((adjusted.withdrawAll index).discard index)
      { owner with observers := [], role := .service none } := by
  obtain ⟨ledger, near⟩ := edits.near posted.going.sound.toLedger
  obtain ⟨observers, kept⟩ := near.own owner posted.found
  have struck : (adjusted.withdrawAll index).owner? index = some { owner with observers := [] } := by
    simpa [withdrawAll] using adjusted.owner?_withdraw ledger.sound index (fun _ => true) _ kept
  have bare : (adjusted.withdrawAll index).holdings index socket.descriptor = [] := by
    rw [withdrawAll, adjusted.withdraw_holdings ledger index _ kept]
    simp
  refine ⟨going, ?_, posted.home, rfl, ?_, List.nodup_nil⟩
  · exact owner?_setHandler _ index none _ struck (serves_of_role _ (some handler) role)
  · exact congrArg (List.map Registration.place) bare

end Posted

section

variable {user : UserCode η ν} (stays : user.Within Harmless)

include stays

omit stays in
theorem role_of_serves (owner : Owner η) (serves : owner.serves = true) :
    ∃ handler, owner.role = .service handler := by
  cases owner with
  | mk socket observers role =>
    cases role with
    | service handler => exact ⟨handler, rfl⟩
    | attempt attempt => cases serves
    | acceptor acceptor => cases serves

/-- A service is attached with the registrations that it is interested in. -/
theorem attach_posted (start : World η ν) (going : start.Going) (socket : Handle) (handler : η) :
    ∃ owner, Posted start.outside.owners.length socket (attach user socket handler start) owner ∧
      owner.kinds = user.interests handler := by
  have ledger : (start.seated socket handler).Ledger := going.sound.toLedger.addOwner _ rfl
  have unheld : ∀ descriptor,
      (start.seated socket handler).holdings start.outside.owners.length descriptor = [] :=
    start.holdings_of_new going.sound.toLedger
  have seat := start.owner?_seated socket handler
  cases bare : (user.interests handler).isEmpty with
  | true =>
    have dropped : Move start
        ((start.seated socket handler).discard start.outside.owners.length) := .bare socket handler
    have gone := (dropped.goes going).1
    have posted : Posted start.outside.owners.length socket
        ((start.seated socket handler).discard start.outside.owners.length)
        ({ socket, role := .service none } : Owner η) :=
      ⟨gone, owner?_setHandler _ _ none _ seat rfl, rfl, rfl,
        congrArg (List.map Registration.place) (unheld socket.descriptor), List.nodup_nil⟩
    rw [attach_of_bare user start socket handler bare]
    refine ⟨_, posted.moves (stays.dropped handler socket _ gone), ?_⟩
    exact (beq_iff_eq.mp bare).symm
  | false =>
    obtain ⟨fresh, grown, kinds⟩ := enables_grow _ ledger _ _ seat going.alive
      (user.interests handler).toList (user.interests handler).toList_distinct
    have all : fresh.map Registration.kind = (user.interests handler).toList := by
      rw [kinds, List.filter_eq_self]
      intro kind there
      exact congrArg Bool.not (KindSet.has_empty kind)
    have attached : attach user socket handler start =
        (user.interests handler).toList.foldl (fun world kind =>
          world.enable start.outside.owners.length kind) (start.seated socket handler) := by
      simp only [attach, bare]
      rfl
    rw [← attached] at grown
    have observed : fresh.map (Prod.fst ∘ Registration.place) = fresh.map Registration.kind := rfl
    refine ⟨{ socket, observers := fresh.map Registration.place, role := .service (some handler) },
      ⟨?_, ?_, rfl, rfl, ?_, ?_⟩, ?_⟩
    · exact ((attach_harmless stays start socket handler going).goes going).1
    · exact grown.own _ seat
    · rw [grown.holdings, unheld, if_pos rfl, List.nil_append]
    · rw [List.map_map, observed, all]
      exact (user.interests handler).toList_distinct
    · apply KindSet.ext_has
      intro kind
      rw [Bool.eq_iff_iff, Owner.has_kinds, List.map_map, observed, all, KindSet.mem_toList]

/-- A service stays posted while its handler runs. -/
theorem Posted.handled {index : Nat} {socket : Handle} {world : World η ν} {owner : Owner η}
    (posted : Posted index socket world owner) (handler : η)
    (role : owner.role = .service (some handler)) (notification : Notification) :
    ∃ what changed inside,
      user.handler index handler notification (world.done (.handled index)) =
        (what, changed, inside) ∧ Posted index socket inside owner ∧ Holds index world inside ∧
      Posted index socket (inside.setHandler index (some changed))
        { owner with role := .service (some changed) } ∧
      (serve user index notification world).2 = match what with
        | .panicked => inside.setHandler index (some changed)
        | .returned requests failed =>
          settle user (inside.setHandler index (some changed)) index requests failed := by
  obtain ⟨what, changed, inside, result, begun, moves, going, found, served⟩ :=
    serve_cases stays world posted.going index notification owner handler posted.found role
  have heard : Holds index world (world.done (.handled index)) := holds_of_same rfl rfl
  have still := (posted.of_holds begun posted.found heard).moves moves
  have kept := moves.holds begun index owner posted.found posted.serves
  exact ⟨what, changed, inside, result, still, heard.trans kept,
    ⟨going, found, posted.home, rfl, still.record, posted.single⟩, served⟩

theorem Posted.settled {index : Nat} {socket : Handle} {world : World η ν} {owner : Owner η}
    (posted : Posted index socket world owner) (handler : η)
    (role : owner.role = .service (some handler)) (requests : Requests) (failed : Bool) :
    ∃ owner, Posted index socket (settle user world index requests failed) owner := by
  obtain ⟨edits, stayed, closed⟩ := settle_cases user world posted.going index owner handler posted.found
    role requests failed
  by_cases ends : requests.Ends failed owner.kinds
  · obtain ⟨settled, going⟩ := closed ends
    rw [settled]
    have gone := posted.closed edits handler role going
    exact ⟨_, gone.moves (stays.dropped handler owner.socket _ going)⟩
  · obtain ⟨fresh, found, -, single, -⟩ := posted.adjusted requests
    obtain ⟨-, abides⟩ := (settle_ends stays world posted.going index owner handler posted.found role
      requests failed).2
    rw [stayed ends] at abides ⊢
    refine ⟨_, abides.going, found, posted.home, posted.serves, rfl, ?_⟩
    rw [List.map_map]
    exact single

theorem Posted.notified {index : Nat} {socket : Handle} {world : World η ν} {owner : Owner η}
    (posted : Posted index socket world owner) (observer : Nat) (notification : Notification) :
    ∃ owner, Posted index socket (notify user observer notification world).2 owner := by
  have abides := notify_abides stays world observer notification posted.going
  by_cases made : world.maker? observer = some index
  · obtain ⟨handler, role⟩ := role_of_serves owner posted.serves
    rw [notify, made]
    dsimp only
    rw [notifyOwner_of_service world index notification owner handler posted.found role]
    cases handler with
    | none =>
      rw [serve_of_closed world index notification owner posted.found role]
      exact ⟨owner, posted⟩
    | some handler =>
      obtain ⟨what, changed, inside, -, -, -, swapped, served⟩ :=
        posted.handled stays handler role notification
      rw [served]
      cases what with
      | panicked => exact ⟨_, swapped⟩
      | returned requests failed => exact swapped.settled stays changed rfl requests failed
  · refine ⟨owner, posted.of_holds abides.going ?_ ?_⟩
    · exact abides.beside.kept made posted.found posted.serves
    · exact notify_holds stays world posted.going observer notification index owner posted.found
        posted.serves made

theorem since_posted (start : World η ν) (index : Nat) (socket : Handle) (owner : Owner η)
    (posted : Posted index socket start owner) (world : World η ν)
    (since : Since user start world) : ∃ owner, Posted index socket world owner := by
  induction since with
  | start => exact ⟨owner, posted⟩
  | moves _ moves ih =>
    obtain ⟨owner, posted⟩ := ih
    exact ⟨owner, posted.moves moves⟩
  | notified _ observer notification ih =>
    obtain ⟨owner, posted⟩ := ih
    exact posted.notified stays observer notification
  | aside _ aside ih =>
    obtain ⟨owner, posted⟩ := ih
    exact ⟨owner, posted.aside aside⟩

theorem since_preserves (start : World η ν) (index : Nat) (socket : Handle) (owner : Owner η)
    (posted : Posted index socket start owner) : (host user).Preserves (Since user start) := by
  have going : ∀ world, Since user start world → world.Going := by
    intro world since
    obtain ⟨_, still⟩ := since_posted stays start index socket owner posted world since
    exact still.going
  exact preserves_of_aside (fun observer notification _ since => since.notified observer notification)
    (fun asked world since => since.moves (stays.poll asked world (going world since)))
    (fun world since => since.moves (stays.rest world (going world since)))
    fun _ _ aside since => since.aside aside

end

/-- What a handler's calls do to the registrations of its service on a socket, from before the
notification over the end of the handler to the end of the notification. -/
structure Obeyed (index : Nat) (descriptor : Int) (calls : List Call) (failed : Bool)
    (before inside after : World η ν) : Prop where
  meanwhile : Holds index before inside
  interests : after.interests index descriptor =
    if .close ∈ calls ∨ failed = true then .empty
    else calls.foldl KindSet.called (before.interests index descriptor)
  dropped : after.interests index descriptor = .empty ↔
    (after.owner? index).bind Owner.handler? = none
  /-- What is wanted on stays, in its place, and what is newly wanted comes last. -/
  registrations : ∃ fresh,
    after.holdings index descriptor = ((before.holdings index descriptor).filter
      fun registration => (after.interests index descriptor).has registration.kind) ++ fresh ∧
    fresh.map Registration.kind = (after.interests index descriptor).toList.filter
      (fun kind => !(before.interests index descriptor).has kind) ∧
    (∀ registration ∈ fresh, inside.reactor.registry.next ≤ registration.number) ∧
    (after.interests index descriptor ≠ .empty →
      after.reactor.registry.onSocket descriptor =
        ((inside.reactor.registry.onSocket descriptor).filter fun registration =>
          !inside.isOwn index registration ||
            (after.interests index descriptor).has registration.kind) ++ fresh)

section

variable {user : UserCode η ν} (stays : user.Within Harmless) {index : Nat} {socket : Handle}
  {world : World η ν} {owner : Owner η} (posted : Posted index socket world owner)

include stays posted

section

variable {inside : World η ν} {changed : η} (meanwhile : Holds index world inside)
  (swapped : Posted index socket (inside.setHandler index (some changed))
    { owner with role := .service (some changed) }) (calls : List Call) (failed : Bool)

include meanwhile swapped

theorem Posted.obeys_ending (final : (Requests.ofCalls calls).Ends failed owner.kinds) :
    Obeyed index socket.descriptor calls failed world inside
      (settle user (inside.setHandler index (some changed)) index (.ofCalls calls) failed) := by
  obtain ⟨edits, -, closed⟩ := settle_cases user _ swapped.going index _ changed swapped.found rfl
    (.ofCalls calls) failed
  obtain ⟨settled, going⟩ := closed final
  have gone := (swapped.closed edits changed rfl going).moves
    (stays.dropped changed owner.socket _ going)
  rw [settled]
  have bare : World.interests _ index socket.descriptor = KindSet.empty := gone.interests
  have empty : World.holdings _ index socket.descriptor = [] := List.map_eq_nil_iff.mp gone.record
  refine ⟨meanwhile, ?_, ?_, [], ?_, ?_, by simp, fun some => absurd bare some⟩
  · rw [bare, posted.interests]
    split
    · rfl
    · rename_i neither
      obtain ends | ends | ends := (Requests.ends_ofCalls calls failed owner.kinds).mp final
      · exact absurd (.inl ends) neither
      · exact absurd (.inr ends) neither
      · exact ends.symm
  · refine iff_of_true bare ?_
    rw [gone.found]
    rfl
  · rw [empty, bare]
    simp
  · rw [bare]
    rfl

omit stays in
theorem Posted.obeys_staying (stay : ¬(Requests.ofCalls calls).Ends failed owner.kinds) :
    Obeyed index socket.descriptor calls failed world inside
      (settle user (inside.setHandler index (some changed)) index (.ofCalls calls) failed) := by
  obtain ⟨-, stayed, -⟩ := settle_cases user _ swapped.going index _ changed swapped.found rfl
    (.ofCalls calls) failed
  obtain ⟨fresh, interests, holdings, onSocket, numbers, kinds⟩ := swapped.called calls
  have held : (inside.setHandler index (some changed)).holdings index socket.descriptor =
      world.holdings index socket.descriptor := meanwhile socket.descriptor
  have ends := Requests.ends_ofCalls calls failed owner.kinds
  have wanted : calls.foldl KindSet.called owner.kinds ≠ .empty :=
    fun none => stay (ends.mpr (.inr (.inr none)))
  have neither : ¬(.close ∈ calls ∨ failed = true) :=
    fun either => stay (ends.mpr (either.imp_right .inl))
  rw [stayed stay]
  refine ⟨meanwhile, ?_, ?_, fresh, ?_, ?_, numbers, ?_⟩
  · rw [interests, posted.interests, if_neg neither]
    rfl
  · refine iff_of_false (interests ▸ wanted) ?_
    obtain ⟨_, found, -⟩ := swapped.adjusted (.ofCalls calls)
    rw [found]
    exact Option.some_ne_none changed
  · rw [interests, holdings, held]
  · rw [interests, kinds, posted.interests]
    rfl
  · intro _
    rw [interests]
    exact onSocket

end

theorem Posted.obeys (handler : η) (role : owner.role = .service (some handler))
    (notification : Notification) (calls : List Call) (failed : Bool) (changed : η)
    (inside : World η ν)
    (result : user.handler index handler notification (world.done (.handled index)) =
      (.returned (.ofCalls calls) failed, changed, inside)) :
    Obeyed index socket.descriptor calls failed world inside
      (serve user index notification world).2 := by
  obtain ⟨what, changed', inside', result', -, meanwhile, swapped, served⟩ :=
    posted.handled stays handler role notification
  rw [result] at result'
  obtain ⟨rfl, rfl, rfl⟩ : .returned (.ofCalls calls) failed = what ∧ changed = changed' ∧
    inside = inside' := by simpa using result'
  rw [served]
  by_cases final : (Requests.ofCalls calls).Ends failed owner.kinds
  · exact posted.obeys_ending stays meanwhile swapped calls failed final
  · exact posted.obeys_staying meanwhile swapped calls failed final

end

/-- A service is registered for what it has on record, once for each kind, whatever goes on after it
was attached. A notification makes it registered for what its handler's calls come to, taken one by
one, or for nothing once the handler fails, asks to be closed or wants nothing more. A registration
that is wanted before and after is left as it is, and new ones come last on their socket. -/
theorem interests_follow_calls (user : UserCode η ν) (stays : user.Within Harmless)
    (start : World η ν) (going : start.Going) (socket : Handle) (handler : η) :
    (attach user socket handler start).interests start.outside.owners.length socket.descriptor =
      user.interests handler ∧
    ∀ world, Since user (attach user socket handler start) world →
      (∃ owner, Posted start.outside.owners.length socket world owner) ∧
      (∀ descriptor, ∀ registration ∈ world.holdings start.outside.owners.length descriptor,
        descriptor = socket.descriptor ∧
          world.reactor.registry.isLive registration.number = true) ∧
      (∀ fuel, Since user (attach user socket handler start) (run user fuel world).2) ∧
      (∀ turn ∈ Loop.passTurns (host user) world ++
          Loop.broadcastTurns (host user) .shutdown world,
        ∀ visit ∈ turn.visits (host user), Since user (attach user socket handler start)
          (visit.2.begin turn.socket visit.1 turn.notification)) ∧
      ∀ observer notification current calls failed changed inside,
        world.maker? observer = some start.outside.owners.length →
        (world.owner? start.outside.owners.length).bind Owner.handler? = some current →
        user.handler start.outside.owners.length current notification
          (world.done (.handled start.outside.owners.length)) =
            (.returned (.ofCalls calls) failed, changed, inside) →
        Obeyed start.outside.owners.length socket.descriptor calls failed world inside
          (notify user observer notification world).2 := by
  obtain ⟨first, attached, kinds⟩ := attach_posted stays start going socket handler
  have preserves := since_preserves stays _ _ socket first attached
  refine ⟨attached.interests.trans kinds, ?_⟩
  intro world since
  obtain ⟨owner, posted⟩ := since_posted stays _ _ socket first attached world since
  refine ⟨⟨owner, posted⟩, ?_, ?_, ?_, ?_⟩
  · intro descriptor registration held
    have ledger := posted.going.sound.toLedger
    have row := (Registry.mem_onSocket _ ledger.sound descriptor registration).mp
      (List.mem_filter.mp held).1
    obtain ⟨home, -⟩ := world.mem_holdings_iff ledger _ owner posted.found _ _ held
    exact ⟨posted.home ▸ home, (Registry.isLive_iff _ _).mpr (ledger.sound.live _ row)⟩
  · exact fun fuel => Loop.run_preserves preserves fuel world since
  · intro turn member visit visited
    have begun : Since user (attach user socket handler start) turn.start := by
      cases List.mem_append.mp member with
      | inl inside => exact Loop.passTurns_hold preserves.toGuards world since turn inside
      | inr last => exact Loop.sendTurns_hold preserves.toMinds _ _ _ world since turn last
    have reached := Loop.visits_hold preserves.toMinds turn.socket turn.notification turn.snapshot
      turn.start begun visit visited
    exact reached.aside ⟨rfl, rfl, .inl rfl⟩
  · intro observer notification current calls failed changed inside made served result
    obtain ⟨value, role⟩ := role_of_serves owner posted.serves
    rw [posted.found, Option.bind_some, Owner.handler?, role] at served
    obtain rfl : value = some current := served
    rw [notify, made]
    dsimp only
    rw [notifyOwner_of_service world _ notification owner _ posted.found role]
    exact posted.obeys stays current role notification calls failed changed inside result

end World

/-- A handler gives up an interest and takes it back, and swaps another one. -/
def UserCode.retuning : UserCode Unit Unit :=
  { UserCode.idle with
    interests := fun _ => KindSet.ofList [.readable, .writable]
    handler := fun _ _ _ world => (.returned (.ofCalls
      [.disable .readable, .enable .timeout, .disable .writable, .enable .readable]) false, (),
      world) }

theorem UserCode.retuning_harmless : UserCode.retuning.Within World.Harmless :=
  { UserCode.idle_within World.Harmless.refl with
    handler := fun _ _ _ world => .refl world }

namespace World

theorem interests_follow_calls_retuning :
    let attached := attach UserCode.retuning ⟨3, 0⟩ () (opened {} ())
    let after := (notify UserCode.retuning 0 (.ofSocket .readable ⟨3, 0⟩) attached).2
    attached.holdings 0 3 = [⟨0, .readable, 0⟩, ⟨1, .writable, 1⟩] ∧
      after.interests 0 3 = KindSet.ofList [.readable, .timeout] ∧
      after.holdings 0 3 = [⟨0, .readable, 0⟩, ⟨2, .timeout, 2⟩] := by
  intro attached after
  have going : (opened {} () : World Unit Unit).Going := ⟨opened_sound {} (), rfl⟩
  obtain ⟨-, -, -, -, obeys⟩ := (interests_follow_calls UserCode.retuning
    UserCode.retuning_harmless (opened {} ()) going ⟨3, 0⟩ ()).2 attached .start
  have obeyed := obeys 0 (.ofSocket .readable ⟨3, 0⟩) () _ false () _ rfl rfl rfl
  exact ⟨by decide, obeyed.interests.trans (by decide), by decide⟩

end World

end SocketLoop
