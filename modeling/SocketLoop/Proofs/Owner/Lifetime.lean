import SocketLoop.Proofs.Owner.Service
import SocketLoop.Proofs.Reactor.Groups

/-! The lifetime of services. A handler lives exactly as long as its service is registered with a
reactor that is there, is dropped once, and hears of nothing after that. -/
namespace SocketLoop

variable {η ν : Type}

/-- Once the reactor is gone, dropping a handler does nothing about owners. -/
def UserCode.Late (user : UserCode η ν) : Prop :=
  ∀ handler socket world, world.reactor.alive = false →
    ∃ change, user.dropped handler socket world = world.onBeyond change

namespace World

theorem dropHandler_of_absent (user : UserCode η ν) (world : World η ν) (index : Nat)
    (absent : ¬world.Serving index) : dropHandler user world index = world := by
  unfold dropHandler
  split
  · rfl
  · rename_i owner found
    split
    · rfl
    · rename_i handler served
      refine absurd ⟨owner, handler, found, ?_⟩ absent
      cases owner with
      | mk socket observers role => cases role <;> simp_all [Owner.handler?]

theorem Ended.cons {index : Nat} {deeds : List Deed} (ended : Ended index deeds) (deed : Deed)
    (other : deed.concerns index = false) : Ended index (deed :: deeds) := by
  obtain ⟨later, earlier, split, silent, once⟩ := ended
  exact ⟨deed :: later, earlier, by rw [split]; rfl, List.forall_mem_cons.mpr ⟨other, silent⟩, once⟩

/-- The reactor is gone, and some handlers are still to be dropped. -/
structure Falling (world : World η ν) (waiting : List Nat) : Prop extends Ledger world where
  dead : world.reactor.alive = false
  ended : ∀ index owner, world.owner? index = some owner → owner.role = .service none →
    Ended index world.outside.deeds
  waits : ∀ index owner handler, world.owner? index = some owner →
    owner.role = .service (some handler) → index ∈ waiting ∧ .dropped index ∉ world.outside.deeds
  future : ∀ index, world.outside.owners.length ≤ index →
    ∀ deed ∈ world.outside.deeds, deed.concerns index = false

theorem Falling.landed {world : World η ν} (falling : world.Falling []) : world.Sound where
  toLedger := falling.toLedger
  fates := by
    intro index owner handler found role
    cases handler with
    | none =>
      exact ⟨by simp [falling.dead], by simp, fun _ => falling.ended index owner found role⟩
    | some handler => exact absurd (falling.waits index owner handler found role).1 (by simp)
  future := falling.future

theorem Falling.discard {world : World η ν} {index : Nat} {rest : List Nat}
    (falling : world.Falling (index :: rest)) (owner : Owner η) (handler : η)
    (found : world.owner? index = some owner) (role : owner.role = .service (some handler)) :
    (world.discard index).Falling rest := by
  have gone : (world.discard index).owner? index = some { owner with role := .service none } :=
    owner?_setHandler world index none owner found (serves_of_role owner _ role)
  have others : ∀ other, other ≠ index → (world.discard index).owner? other = world.owner? other :=
    owner?_changeOwner_ne world index _
  have waits := (falling.waits index owner handler found role).2
  constructor
  case toLedger => exact discard_ledger falling.toLedger index
  case dead => exact falling.dead
  case ended =>
    intro other value there done
    by_cases same : other = index
    · subst same
      exact ⟨[], _, rfl, by simp, waits⟩
    · rw [others other same] at there
      exact (falling.ended other value there done).cons _ (by simp [Deed.concerns, Ne.symm same])
  case waits =>
    intro other value handler there serves
    by_cases same : other = index
    · subst same
      rw [Option.some.inj (there.symm.trans gone)] at serves
      cases serves
    · rw [others other same] at there
      obtain ⟨member, undropped⟩ := falling.waits other value handler there serves
      refine ⟨(List.mem_cons.mp member).resolve_left same, ?_⟩
      change .dropped other ∉ .dropped index :: world.outside.deeds
      simp [same, undropped]
  case future =>
    intro other late
    have length := length_setHandler world index none
    have late : world.outside.owners.length ≤ other := Nat.le_trans (Nat.le_of_eq length.symm) late
    change ∀ deed ∈ .dropped index :: world.outside.deeds, deed.concerns other = false
    refine List.forall_mem_cons.mpr ⟨?_, falling.future other late⟩
    have known := world.owner?_lt index owner found
    simp [Deed.concerns]
    omega

theorem Falling.skip {world : World η ν} {index : Nat} {rest : List Nat}
    (falling : world.Falling (index :: rest)) (absent : ¬world.Serving index) :
    world.Falling rest where
  toLedger := falling.toLedger
  dead := falling.dead
  ended := falling.ended
  waits := by
    intro other owner handler found role
    obtain ⟨member, undropped⟩ := falling.waits other owner handler found role
    refine ⟨(List.mem_cons.mp member).resolve_left ?_, undropped⟩
    rintro rfl
    exact absent ⟨owner, handler, found, role⟩
  future := falling.future

theorem Falling.beyond {world : World η ν} {waiting : List Nat} (falling : world.Falling waiting)
    (change : ν → ν) : (world.onBeyond change).Falling waiting where
  toLedger := falling.toLedger.of_same falling.toLedger.sound rfl rfl rfl rfl fun _ => rfl
  dead := falling.dead
  ended := falling.ended
  waits := falling.waits
  future := falling.future

theorem Falling.drop {user : UserCode η ν} (late : user.Late) {world : World η ν}
    {waiting : List Nat} (falling : world.Falling waiting) :
    (waiting.foldl (fun world index => dropHandler user world index) world).Falling [] ∧
      (waiting.foldl (fun world index => dropHandler user world index) world).reactor =
        world.reactor := by
  induction waiting generalizing world with
  | nil => exact ⟨falling, rfl⟩
  | cons index rest ih =>
    rw [List.foldl_cons]
    -- an owner that comes again has no handler left, so nothing need be said about repetitions
    by_cases serving : world.Serving index
    · obtain ⟨owner, handler, found, role⟩ := serving
      rw [dropHandler_of_serving user world index owner handler found role]
      have gone := falling.discard owner handler found role
      obtain ⟨change, beyond⟩ := late handler owner.socket _ gone.dead
      rw [beyond]
      exact ih (gone.beyond change)
    · rw [dropHandler_of_absent user world index serving]
      exact ih (falling.skip serving)

theorem mem_lastServices (world : World η ν) (registrations : List Registration)
    (registration : Registration) (member : registration ∈ registrations) (index : Nat)
    (made : world.maker? registration.observer = some index) :
    index ∈ lastServices world registrations := by
  induction registrations generalizing registration with
  | nil => cases member
  | cons first rest ih =>
    rw [lastServices]
    rcases List.mem_cons.mp member with rfl | later
    · rw [made]
      dsimp only
      split
      · rename_i again
        obtain ⟨other, listed, same⟩ := List.any_eq_true.mp again
        exact ih other listed (beq_iff_eq.mp same)
      · exact List.mem_cons_self
    · have there := ih registration later made
      split
      · exact there
      · split
        · exact there
        · exact List.mem_cons_of_mem _ there

theorem dropReactor_sound {user : UserCode η ν} (late : user.Late) (world : World η ν)
    (sound : world.Sound) : (dropReactor user world).Sound ∧
      (dropReactor user world).reactor = world.lost.reactor := by
  -- whoever still has a handler is registered, and so comes up among the last registrations
  have falling : world.lost.Falling (lastServices world.lost
      (world.reactor.registry.entries.flatMap SocketEntry.registrations)) := by
    refine ⟨sound.toLedger.lost, rfl, ?_, ?_, sound.future⟩
    · intro index owner found role
      exact (sound.fates index owner none found role).ended rfl
    · intro index owner handler found role
      have fate := sound.fates index owner (some handler) found role
      refine ⟨?_, fate.undropped rfl⟩
      obtain ⟨row, there, made⟩ := (sound.toLedger.registered_iff index owner found).mpr
        (fate.living.mp rfl)
      obtain ⟨entry, known, -, listed⟩ := (Registry.mem_rows _ row).mp there
      have member := List.mem_flatMap.mpr ⟨entry, known, listed⟩
      exact world.lost.mem_lastServices _ row.2 member index made
  obtain ⟨fallen, reactor⟩ := falling.drop late
  exact ⟨fallen.landed, reactor⟩

/-- The life of a service as it stands: its handler is there as long as the service is registered
with a reactor that is there; then it is dropped, once, and nothing is done for it after that. -/
structure Life (world : World η ν) (index : Nat) (socket : Handle) (handler : Option η) : Prop where
  living : handler.isSome = true ↔ world.reactor.alive = true ∧
    ∃ row ∈ world.reactor.registry.rows, world.maker? row.2.observer = some index
  home : ∀ row ∈ world.reactor.registry.rows, world.maker? row.2.observer = some index →
    row.1 = socket.descriptor
  once : world.outside.deeds.count (.dropped index) = if handler.isSome then 0 else 1
  silent : handler = none → Ended index world.outside.deeds
  /-- What the registry knows of the socket after that is due to others. -/
  freed : handler = none → ∀ entry ∈ world.reactor.registry.entries,
    entry.socket.descriptor = socket.descriptor →
    ∃ registration ∈ entry.registrations, world.maker? registration.observer ≠ some index

def Lives (world : World η ν) : Prop := ∀ index owner handler, world.owner? index = some owner →
  owner.role = .service handler → world.Life index owner.socket handler

theorem Ended.count {index : Nat} {deeds : List Deed} (ended : Ended index deeds) :
    deeds.count (.dropped index) = 1 := by
  obtain ⟨later, earlier, rfl, silent, once⟩ := ended
  have before : .dropped index ∉ later := by
    intro member
    simpa [Deed.concerns] using silent _ member
  rw [List.count_append, List.count_cons_self, List.count_eq_zero_of_not_mem before,
    List.count_eq_zero_of_not_mem once]

theorem Sound.unregistered {world : World η ν} (sound : world.Sound) (index : Nat)
    (owner : Owner η) (found : world.owner? index = some owner)
    (role : owner.role = .service none) :
    ∀ row ∈ world.reactor.registry.rows, world.maker? row.2.observer ≠ some index := by
  intro row there made
  have living := (sound.fates index owner none found role).living
  cases living.mpr ((sound.toLedger.registered_iff index owner found).mp ⟨row, there, made⟩)

theorem Sound.lives {world : World η ν} (sound : world.Sound) : world.Lives := by
  intro index owner handler found role
  have fate := sound.fates index owner handler found role
  have registered := sound.toLedger.registered_iff index owner found
  constructor
  case living =>
    rw [fate.living, registered]
    exact ⟨fun both => ⟨both.1, both⟩, And.right⟩
  case home =>
    intro row there made
    obtain ⟨socket, records, noted, place, -⟩ := sound.toLedger.registered _
      (List.mem_map_of_mem there) index made
    rw [world.notes?_of_owner index owner found] at noted
    obtain ⟨rfl, -⟩ := Prod.mk.inj (Option.some.inj noted)
    exact place
  case once =>
    cases handler with
    | none => exact (fate.ended rfl).count
    | some handler => exact List.count_eq_zero_of_not_mem (fate.undropped rfl)
  case silent => exact fate.ended
  case freed =>
    intro gone entry known same
    obtain ⟨registration, listed⟩ :=
      List.exists_mem_of_ne_nil _ (sound.toLedger.sound.inhabited entry known)
    have there := (Registry.mem_rows _ (entry.socket.descriptor, registration)).mpr
      ⟨entry, known, rfl, listed⟩
    rw [gone] at role
    exact ⟨registration, listed, sound.unregistered index owner found role _ there⟩

/-- A reactor as it is opened, with nothing attached. -/
def opened (settings : Settings) (beyond : ν) : World η ν :=
  { reactor := { settings }, outside := { beyond } }

/-- What happens to a reactor outside of callbacks. A run is entered, makes passes and is closed. -/
inductive Episode (user : UserCode η ν) (world : World η ν) : World η ν → Prop where
  | attach (socket : Handle) (handler : η) :
      Episode user world (attach user socket handler world)
  /-- Anything else that users do, a request to stop among it. -/
  | move {after : World η ν} (move : Move world after) : Episode user world after
  | enter : Episode user world (Site.entered world)
  | pass : Episode user world (Loop.pass (host user) world).2
  | close (result : RunEnd) : Episode user world (Loop.close (host user) result world).2
  | drop : Episode user world (dropReactor user world)

/-- What episodes lead to as long as the reactor is there. -/
inductive Led (user : UserCode η ν) (start : World η ν) : World η ν → Prop where
  | start : Led user start start
  | episode {world after : World η ν} (led : Led user start world)
      (alive : world.reactor.alive = true) (episode : Episode user world after) :
      Led user start after

theorem opened_sound (settings : Settings) (beyond : ν) :
    (opened settings beyond : World η ν).Sound := by
  have nobody : ∀ index, (opened settings beyond : World η ν).owner? index = none := fun _ => rfl
  refine ⟨⟨Registry.sound_empty, ?_, ?_, ?_, ?_, ?_, fun _ => rfl⟩, ?_, by simp [opened]⟩
  · simp [opened, Registry.targets, Registry.rows]
  · simp [opened, maker?]
  · simp [notes?, nobody]
  · simp [notes?, nobody]
  · simp [opened, Registry.targets, Registry.rows]
  · simp [nobody]

theorem Beside.armed {free : Nat → Prop} {before after : World η ν}
    (beside : Beside free before after) : after.reactor.armed = before.reactor.armed := by
  obtain ⟨registry, stop, reactor⟩ := beside.reactor
  rw [reactor]

theorem Beside.at_rest {free : Nat → Prop} {before after : World η ν}
    (beside : Beside free before after) (rest : before.AtRest) : after.AtRest := by
  refine ⟨beside.armed.trans rest.armed, ?_⟩
  obtain ⟨registry, stop, reactor⟩ := beside.reactor
  rw [reactor]
  exact rest.held

section

variable {user : UserCode η ν} (stays : user.Within Harmless) (late : user.Late)

include stays late

theorem Episode.sound {world after : World η ν} (episode : Episode user world after)
    (going : world.Going) (rest : world.AtRest) : after.Sound ∧ after.AtRest := by
  have preserves := going_preserves stays
  cases episode with
  | attach socket handler =>
    obtain ⟨after, beside⟩ := (attach_harmless stays world socket handler going).goes going
    exact ⟨after.sound, beside.at_rest rest⟩
  | move move =>
    obtain ⟨after, beside⟩ := move.goes going
    exact ⟨after.sound, beside.at_rest rest⟩
  | enter =>
    have entered : Going (Site.entered world) := going.aside ⟨rfl, rfl, .inl rfl⟩
    exact ⟨entered.sound, rest.armed, rest.held⟩
  | pass =>
    refine ⟨(Loop.pass_preserves preserves.toGuards world going).sound, ?_⟩
    -- a poll finds the handles held that it is asked about, so only the snapshot is as it was
    have asking : Going (Site.asking world) := going.aside ⟨rfl, rfl, .inl rfl⟩
    have slept := ((stays.rest world going).goes going).2
    have polled := ((stays.poll world.reactor.registry.pollSet _ asking).goes asking).2
    exact Loop.pass_at_rest (host user) world rest (slept.at_rest rest)
      (polled.armed.trans rest.armed)
  | close result =>
    exact ⟨(Loop.close_preserves preserves result world going).sound,
      Loop.close_at_rest (host user) result world rest⟩
  | drop =>
    obtain ⟨sound, reactor⟩ := dropReactor_sound late world going.sound
    refine ⟨sound, ?_, ?_⟩
    · rw [reactor]
      exact rest.armed
    · rw [reactor]
      exact rest.held

/-- As long as the reactor is there, an episode drops no handler that it did not notify. -/
theorem Episode.minded {world after : World η ν} (episode : Episode user world after)
    (going : world.Going) (alive : after.reactor.alive = true) (index since : Nat)
    (minded : Minded index since world) : Minded index since after := by
  have preserves := Minded.preserves stays index since
  cases episode with
  | attach socket handler =>
    have attached := attach_harmless stays world socket handler
    exact minded.abides (attached.abides going fun _ => False) id
  | move move =>
    obtain ⟨moved, beside⟩ := move.goes going
    exact minded.abides ⟨moved, beside⟩ id
  | enter => exact minded.aside ⟨rfl, rfl, .inl rfl⟩
  | pass => exact Loop.pass_preserves preserves.toGuards world minded
  | close result => exact Loop.close_preserves preserves result world minded
  | drop =>
    rw [(dropReactor_sound late world going.sound).2] at alive
    cases alive

theorem Led.sound {settings : Settings} {beyond : ν} {world : World η ν}
    (led : Led user (opened settings beyond) world) : world.Sound ∧ world.AtRest := by
  induction led with
  | start => exact ⟨opened_sound settings beyond, rfl, rfl⟩
  | episode _ alive episode ih => exact episode.sound stays late ⟨ih.1, alive⟩ ih.2

end

structure Heard (user : UserCode η ν) (observer : Nat) (notification : Notification)
    (before after : World η ν) : Prop where
  lives : before.Lives ∧ after.Lives
  own : ∀ index owner handler, before.maker? observer = some index →
    before.owner? index = some owner → owner.role = .service (some handler) →
    Notified index owner after
      (user.handler index handler notification (before.done (.handled index)))
  others : ∀ index owner, before.maker? observer ≠ some index →
    before.owner? index = some owner → owner.serves = true → after.owner? index = some owner

structure Attached (user : UserCode η ν) (socket : Handle) (handler : η)
    (before after : World η ν) : Prop where
  bare : (user.interests handler).isEmpty = true →
    after.owner? before.outside.owners.length = some { socket, role := .service none }
  kept : (user.interests handler).isEmpty = false → ∃ observers,
    after.owner? before.outside.owners.length =
      some { socket, observers, role := .service (some handler) } ∧
    ∀ kind, ({ socket, observers, role := .service (some handler) } : Owner η).kinds.has kind =
      (user.interests handler).has kind
  others : ∀ index owner, before.owner? index = some owner → owner.serves = true →
    after.owner? index = some owner

section

variable {user : UserCode η ν} (stays : user.Within Harmless)

include stays

theorem heard (world : World η ν) (going : world.Going) (observer : Nat)
    (notification : Notification) :
    Heard user observer notification world (notify user observer notification world).2 := by
  obtain ⟨after, beside⟩ := notify_abides stays world observer notification going
  refine ⟨⟨going.sound.lives, after.sound.lives⟩, ?_, fun index owner => beside.kept⟩
  intro index owner handler made found role
  rw [notify, made]
  dsimp only
  rw [notifyOwner_of_service world index notification owner _ found role]
  exact (serve_notified stays world going index notification owner handler found role).1

theorem attached (world : World η ν) (going : world.Going) (socket : Handle) (handler : η) :
    Attached user socket handler world (attach user socket handler world) := by
  obtain ⟨-, beside⟩ := (attach_harmless stays world socket handler going).goes going
  refine ⟨?_, ?_, fun index owner => beside.kept id⟩
  · intro bare
    have move : Move world ((world.seated socket handler).discard world.outside.owners.length) :=
      .bare socket handler
    obtain ⟨between, -⟩ := move.goes going
    have gone := owner?_setHandler (world.seated socket handler) _ none _
      (world.owner?_seated socket handler) rfl
    rw [attach_of_bare user world socket handler bare]
    obtain ⟨-, dropped⟩ := (stays.dropped handler socket _ between).goes between
    exact dropped.kept id gone rfl
  · intro interested
    obtain ⟨observers, -, kept, noted⟩ :=
      attach_tunes user world socket handler interested going
    refine ⟨observers, kept, fun kind => ?_⟩
    rw [Bool.eq_iff_iff, Owner.has_kinds]
    exact noted kind

theorem visits_heard (world : World η ν) (going : world.Going) :
    ∀ turn ∈ Loop.passTurns (host user) world ++ Loop.broadcastTurns (host user) .shutdown world,
      ∀ visit ∈ turn.visits (host user), Lives visit.2 ∧
        Heard user visit.1.observer turn.notification
          (visit.2.begin turn.socket visit.1 turn.notification)
          (notify user visit.1.observer turn.notification
            (visit.2.begin turn.socket visit.1 turn.notification)).2 := by
  have preserves := going_preserves stays
  intro turn member visit visited
  have started : Going turn.start := by
    rcases List.mem_append.mp member with inside | last
    · exact Loop.passTurns_hold preserves.toGuards world going turn inside
    · exact Loop.sendTurns_hold preserves.toMinds _ _ _ world going turn last
  have got := Loop.visits_hold preserves.toMinds turn.socket turn.notification turn.snapshot
    turn.start started visit visited
  refine ⟨got.sound.lives, heard stays _ ?_ visit.1.observer turn.notification⟩
  exact got.aside ⟨rfl, rfl, .inl rfl⟩

theorem led_passes {start : World η ν} (fuel : Nat) (world : World η ν)
    (led : Led user start world) (going : world.Going) :
    Led user start (Loop.passes (host user) fuel world).2 := by
  induction fuel generalizing world with
  | zero => exact led
  | succ fuel ih =>
    have passed := led.episode going.alive .pass
    have going' := Loop.pass_preserves (going_preserves stays).toGuards world going
    rw [Loop.passes]
    split
    · exact led
    · split <;> rename_i after result <;> rw [result] at passed going'
      · exact ih after passed going'
      · exact passed
      · exact passed

theorem led_run {start : World η ν} (fuel : Nat) (world : World η ν) (led : Led user start world)
    (going : world.Going) : Led user start (run user fuel world).2 := by
  cases active : world.reactor.active with
  | true =>
    rw [run, Loop.run_of_active fuel world active]
    exact led
  | false =>
    have entered : Going (Site.entered world) := going.aside ⟨rfl, rfl, .inl rfl⟩
    have passed := led_passes stays fuel _ (led.episode going.alive .enter) entered
    have going' := Loop.passes_preserves (going_preserves stays).toGuards fuel _ entered
    rw [run, Loop.run_of_idle (host user) fuel world active]
    split <;> rename_i result <;> rw [result] at passed going'
    · exact passed
    · exact passed
    · exact passed.episode going'.alive (.close _)

end

theorem Sound.unreferenced {world : World η ν} (sound : world.Sound) (rest : world.AtRest)
    (index : Nat) (owner : Owner η) (found : world.owner? index = some owner)
    (role : owner.role = .service none) : world.isReferenced index = false := by
  rw [isReferenced, rest.armed, List.any_nil, Bool.or_false, Bool.eq_false_iff]
  intro referenced
  obtain ⟨entry, known, owned⟩ := List.any_eq_true.mp referenced
  obtain ⟨registration, listed, made⟩ := List.any_eq_true.mp owned
  have there := (Registry.mem_rows _ (entry.socket.descriptor, registration)).mpr
    ⟨entry, known, rfl, listed⟩
  exact sound.unregistered index owner found role _ there (beq_iff_eq.mp made)

/-- Handlers live exactly as long as their services are registered with a reactor that is there, as
long as user code does nothing about services but attach new ones: after whatever episodes, at every
registration that a pass gets to, and wherever user code is called at all. A notification drops the
handler that asked for it, failed or gave up its last interest, and no other one; a handler without
interests is dropped at once, and the end of the reactor drops all that are left. -/
theorem service_lifetime (user : UserCode η ν) (stays : user.Within Harmless) (late : user.Late)
    (settings : Settings) (beyond : ν) (world : World η ν)
    (led : Led user (opened settings beyond) world) :
    world.Lives ∧ world.AtRest ∧
    (∀ index owner, world.owner? index = some owner → owner.role = .service none →
      world.isReferenced index = false) ∧
    (world.reactor.alive = true →
      (∀ fuel, Led user (opened settings beyond) (run user fuel world).2) ∧
      (∀ turn ∈ Loop.passTurns (host user) world ++
          Loop.broadcastTurns (host user) .shutdown world,
        ∀ visit ∈ turn.visits (host user), Lives visit.2 ∧
          Heard user visit.1.observer turn.notification
            (visit.2.begin turn.socket visit.1 turn.notification)
            (notify user visit.1.observer turn.notification
              (visit.2.begin turn.socket visit.1 turn.notification)).2) ∧
      (∀ socket handler, Attached user socket handler world (attach user socket handler world)) ∧
      (∀ after, Episode user world after → after.reactor.alive = true →
        ∀ index, world.Serving index → after.Serving index ∨
          world.outside.deeds.count (.handled index) <
            after.outside.deeds.count (.handled index)) ∧
      ∀ index, ¬(dropReactor user world).Serving index) ∧
    ∀ inside : World η ν, inside.Going → inside.Lives := by
  obtain ⟨sound, rest⟩ := led.sound stays late
  refine ⟨sound.lives, rest, sound.unreferenced rest, ?_, fun _ going => going.sound.lives⟩
  intro alive
  have going : world.Going := ⟨sound, alive⟩
  refine ⟨fun fuel => led_run stays fuel world led going, visits_heard stays world going,
    attached stays world going, ?_, ?_⟩
  · intro after episode still index serving
    have minded : Minded index (world.outside.deeds.count (.handled index)) world :=
      ⟨going, Nat.le_refl _, .inl serving⟩
    exact (episode.minded stays late going still index _ minded).serving
  · obtain ⟨dropped, reactor⟩ := dropReactor_sound late world sound
    rintro index ⟨owner, handler, found, role⟩
    have still := (dropped.fate found role).1
    rw [reactor] at still
    cases still

end World

/-- Services ask to be closed as soon as they hear of anything, and their socket is both readable
and writable. -/
def UserCode.closing : UserCode Unit Unit :=
  { UserCode.idle with
    interests := fun _ => KindSet.ofList [.readable, .writable]
    handler := fun _ _ _ world => (.returned ({} : Requests).closing false, (), world)
    poll := fun _ world => (.ready [(⟨3, 0⟩, { input := true, output := true })], world) }

theorem UserCode.closing_harmless : UserCode.closing.Within World.Harmless :=
  { UserCode.idle_within World.Harmless.refl with
    handler := fun _ _ _ world => .refl world
    poll := fun _ world => .refl world }

namespace World

def attended : World Unit Unit :=
  (Loop.pass (host UserCode.closing)
    (attach UserCode.closing ⟨3, 0⟩ () (opened {} ()))).2

theorem service_lifetime_closing :
    attended.outside.deeds = [.dropped 0, .handled 0] ∧ attended.Lives ∧
      attended.isReferenced 0 = false := by
  have attached : Led UserCode.closing (opened {} ())
      (attach UserCode.closing ⟨3, 0⟩ () (opened {} ())) := .episode .start rfl (.attach _ _)
  have life := service_lifetime UserCode.closing UserCode.closing_harmless
    (fun _ _ world _ => ⟨id, rfl⟩) {} () attended (attached.episode (by decide) .pass)
  exact ⟨by decide, life.1, life.2.2.1 0 ⟨⟨3, 0⟩, [], .service none⟩ (by rfl) rfl⟩

end World

end SocketLoop
