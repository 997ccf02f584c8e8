import SocketLoop.Proofs.Owner.Conduct
import SocketLoop.Proofs.Reactor.Preserve

/-! What notifications do to services. A service that hears of one is registered afterwards for what
its handler asked for, or is closed; the other services are as they were. -/
namespace SocketLoop

variable {η ν : Type}

namespace Requests

/-- Whether a service that is registered for some kinds is registered for a kind after this. -/
def leaves (requests : Requests) (kinds : KindSet) (kind : Kind) : Bool :=
  kinds.has kind && !requests.disable.has kind || requests.enable.has kind

/-- A handler asks to be closed, fails, or gives up its last interest. -/
def Ends (requests : Requests) (failed : Bool) (kinds : KindSet) : Prop :=
  requests.close = true ∨ failed = true ∨ ∀ kind, requests.leaves kinds kind = false

end Requests

namespace World

/-- What becomes of a service that is notified: it is as its handler left it, and is registered for
what the handler asked for, or it is closed. -/
def Notified (index : Nat) (owner : Owner η) (after : World η ν) : Handled × η × World η ν → Prop
  | (.returned requests failed, changed, _) =>
    (requests.Ends failed owner.kinds →
      after.owner? index = some { owner with observers := [], role := .service none }) ∧
    (¬requests.Ends failed owner.kinds → ∃ observers,
      after.owner? index = some { owner with observers, role := .service (some changed) } ∧
      ∀ kind, ({ owner with observers } : Owner η).kinds.has kind =
        requests.leaves owner.kinds kind)
  | (.panicked, changed, _) =>
    after.owner? index = some { owner with role := .service (some changed) }

/-- The world goes on, and the services that are not free are as they were. -/
structure Abides (free : Nat → Prop) (before after : World η ν) : Prop where
  going : after.Going
  beside : Beside free before after

theorem Harmless.abides {before after : World η ν} (harmless : Harmless before after)
    (going : before.Going) (free : Nat → Prop) : Abides free before after := by
  obtain ⟨after, beside⟩ := (harmless going).goes going
  exact ⟨after, beside.mono fun _ => False.elim⟩

theorem abides_of_sound {free : Nat → Prop} {before after : World η ν} (going : before.Going)
    (sound : after.Sound) (beside : Beside free before after) : Abides free before after :=
  ⟨⟨sound, beside.alive.trans going.alive⟩, beside⟩

theorem Abides.trans {free : Nat → Prop} {before between after : World η ν}
    (first : Abides free before between) (second : Abides free between after) :
    Abides free before after :=
  ⟨second.going, first.beside.trans second.beside⟩

theorem adjusts (world : World η ν) (going : world.Going) (index : Nat) (owner : Owner η)
    (found : world.owner? index = some owner) (requests : Requests) :
    Tuned index owner world
      (requests.enable.toList.foldl (fun world kind => world.enable index kind)
        (requests.disable.toList.foldl (fun world kind => world.disable index kind) world))
      fun kind => requests.leaves owner.kinds kind = true := by
  have ledger := going.sound.toLedger
  obtain ⟨observers, edits, found', noted⟩ :=
    disables_tune world ledger index owner found requests.disable.toList
  obtain ⟨ledger', near⟩ := edits.near ledger
  obtain ⟨more, edits', kept, noted'⟩ := enables_tune _ ledger' index _ found'
    (near.alive.trans going.alive) requests.enable.toList
  refine ⟨more, edits.trans edits', kept, ?_⟩
  intro kind
  simp only [noted', noted, KindSet.mem_toList, Requests.leaves, Bool.or_eq_true, Bool.and_eq_true,
    Bool.not_eq_true', owner.has_kinds, Bool.not_eq_true]

section

variable {user : UserCode η ν} (stays : user.Within Harmless)

include stays

theorem closeService_ends (world between : World η ν) (going : world.Going) (index : Nat)
    (owner : Owner η) (handler : η) (found : world.owner? index = some owner)
    (role : owner.role = .service (some handler)) (edits : Edits index world between) :
    (closeService user between index).owner? index =
        some { owner with observers := [], role := .service none } ∧
      Abides (· = index) world (closeService user between index) := by
  obtain ⟨ledger, near⟩ := edits.near going.sound.toLedger
  obtain ⟨observers, kept⟩ := near.own owner found
  have struck : (between.withdrawAll index).owner? index = some { owner with observers := [] } := by
    simpa [withdrawAll] using between.owner?_withdraw ledger.sound index (fun _ => true) _ kept
  have bare : ¬(between.withdrawAll index).Registered index := by
    rintro ⟨value, there, registered⟩
    exact registered (by rw [← Option.some.inj (struck.symm.trans there)])
  have closed := going.sound.closed index ⟨owner, handler, found, role⟩
    (edits.tail (.withdraw kept fun _ => true)) bare
  have gone : ((between.withdrawAll index).discard index).owner? index =
      some { owner with observers := [], role := .service none } :=
    owner?_setHandler _ index none _ struck (serves_of_role _ (some handler) role)
  rw [closeService, dropHandler_of_serving user _ index _ handler struck role]
  have bare := abides_of_sound going closed.1 closed.2
  have dropped := stays.dropped handler owner.socket ((between.withdrawAll index).discard index)
  refine ⟨((dropped bare.going).goes bare.going).2.kept id gone rfl, bare.trans ?_⟩
  exact dropped.abides bare.going _

theorem settle_ends (world : World η ν) (going : world.Going) (index : Nat) (owner : Owner η)
    (handler : η) (found : world.owner? index = some owner)
    (role : owner.role = .service (some handler)) (requests : Requests) (failed : Bool) :
    (requests.Ends failed owner.kinds → (settle user world index requests failed).owner? index =
        some { owner with observers := [], role := .service none }) ∧
      (¬requests.Ends failed owner.kinds → ∃ observers,
        (settle user world index requests failed).owner? index = some { owner with observers } ∧
        ∀ kind, ({ owner with observers } : Owner η).kinds.has kind =
          requests.leaves owner.kinds kind) ∧
      Abides (· = index) world (settle user world index requests failed) := by
  obtain ⟨observers, edits, kept, noted⟩ := adjusts world going index owner found requests
  have kinds : ∀ kind, ({ owner with observers } : Owner η).kinds.has kind =
      requests.leaves owner.kinds kind := by
    intro kind
    rw [Bool.eq_iff_iff, Owner.has_kinds]
    exact noted kind
  have none : ({ owner with observers } : Owner η).kinds.isEmpty = true ↔
      ∀ kind, requests.leaves owner.kinds kind = false := by
    simp only [KindSet.isEmpty_iff, kinds]
  have ends : (requests.close || failed || ({ owner with observers } : Owner η).kinds.isEmpty) =
      true ↔ requests.Ends failed owner.kinds := by
    rw [Bool.or_eq_true, Bool.or_eq_true, none, or_assoc]
    rfl
  -- what was asked for is carried out first, and what is left then decides about the service
  simp only [settle]
  generalize List.foldl _ _ requests.enable.toList = adjusted at edits kept ⊢
  simp only [kept]
  split
  · rename_i closes
    obtain ⟨gone, abides⟩ := closeService_ends stays world adjusted going index owner handler found
      role edits
    exact ⟨fun _ => gone, fun stays => absurd (ends.mp closes) stays, abides⟩
  · rename_i stays
    refine ⟨fun closes => absurd (ends.mpr closes) stays, fun _ => ⟨observers, kept, kinds⟩, ?_⟩
    have registered : observers ≠ [] := by
      intro bare
      refine stays (ends.mpr (.inr (.inr (none.mp ?_))))
      exact (Owner.kinds_isEmpty _).mpr bare
    have sound := going.sound.settled index ⟨owner, handler, found, role⟩ edits
      ⟨_, kept, registered⟩
    exact abides_of_sound going sound (edits.near going.sound.toLedger).2.beside

theorem serve_notified (world : World η ν) (going : world.Going) (index : Nat)
    (notification : Notification) (owner : Owner η) (handler : η)
    (found : world.owner? index = some owner) (role : owner.role = .service (some handler)) :
    Notified index owner (serve user index notification world).2
        (user.handler index handler notification (world.done (.handled index))) ∧
      Abides (· = index) world (world.done (.handled index)) ∧
      Abides (· = index) (world.done (.handled index))
        (serve user index notification world).2 := by
  have heard := going.sound.handled index ⟨owner, handler, found, role⟩
  have begun := abides_of_sound going heard.1 heard.2
  have moves := stays.handler index handler notification (world.done (.handled index))
  have still := ((moves begun.going).goes begun.going).2.kept id found
    (serves_of_role owner _ role)
  have moved := moves.abides begun.going (· = index)
  have served : (world.owner? index).bind Owner.handler? = some handler := by
    rw [found, Option.bind_some, Owner.handler?, role]
  rw [serve, served]
  dsimp only
  cases result : user.handler index handler notification (world.done (.handled index)) with
  | mk what rest =>
    obtain ⟨changed, inside⟩ := rest
    rw [result] at moved still
    have swap := moved.going.sound.changed index changed ⟨owner, handler, still, role⟩
    have swapped := abides_of_sound moved.going swap.1 swap.2
    have sits : (inside.setHandler index (some changed)).owner? index =
        some { owner with role := .service (some changed) } :=
      owner?_setHandler inside index _ owner still (serves_of_role owner _ role)
    cases what with
    | panicked => exact ⟨sits, begun, moved.trans swapped⟩
    | returned requests failed =>
      obtain ⟨ended, stayed, settled⟩ :=
        settle_ends stays _ swapped.going index _ changed sits rfl requests failed
      exact ⟨⟨ended, stayed⟩, begun, (moved.trans swapped).trans settled⟩

omit stays in
theorem serve_of_closed (world : World η ν) (index : Nat) (notification : Notification)
    (owner : Owner η) (found : world.owner? index = some owner) (role : owner.role = .service none) :
    serve user index notification world = (.returned, world) := by
  simp [serve, found, Owner.handler?, role]

omit stays in
theorem notifyOwner_of_service (world : World η ν) (index : Nat) (notification : Notification)
    (owner : Owner η) (handler : Option η) (found : world.owner? index = some owner)
    (role : owner.role = .service handler) :
    notifyOwner user index notification world = serve user index notification world := by
  rw [notifyOwner, found, Option.map_some, role]

theorem notify_abides (world : World η ν) (observer : Nat) (notification : Notification)
    (going : world.Going) : Abides (fun index => world.maker? observer = some index) world
      (notify user observer notification world).2 := by
  unfold notify
  split
  · exact (stays.observer observer notification world).abides going _
  · rename_i index made
    unfold notifyOwner
    split
    · exact ⟨going, .refl _ world⟩
    · rename_i handler role
      obtain ⟨owner, found, role⟩ := Option.map_eq_some_iff.mp role
      cases handler with
      | none =>
        rw [serve_of_closed world index notification owner found role]
        exact ⟨going, .refl _ world⟩
      | some handler =>
        obtain ⟨-, begun, served⟩ :=
          serve_notified stays world going index notification owner handler found role
        refine ⟨served.going, (begun.trans served).beside.mono ?_⟩
        rintro other rfl
        exact made
    · exact (resolve_harmless stays world index notification).abides going _
    · exact (takeConnection_harmless stays world index).abides going _

end

/-- A loop's own step changes its reactor only, and takes out no registration. -/
structure Aside (before after : World η ν) : Prop where
  outside : after.outside = before.outside
  alive : after.reactor.alive = before.reactor.alive
  registry : after.reactor.registry = before.reactor.registry ∨ ∃ socket readiness,
    after.reactor.registry = Loop.muteReported before.reactor.registry socket readiness

theorem preserves_of_aside {user : UserCode η ν} {holds : World η ν → Prop}
    (call : ∀ observer notification world, holds world →
      holds (notify user observer notification world).2)
    (poll : ∀ asked world, holds world → holds (user.poll asked world).2)
    (rest : ∀ world, holds world → holds (user.rest world))
    (aside : ∀ before after, Aside before after → holds before → holds after) :
    (host user).Preserves holds where
  call armed notification world := call armed.observer notification world
  poll := poll
  rest := rest
  note _ _ := aside _ _ ⟨rfl, rfl, .inl rfl⟩
  begins _ _ _ world before _ := aside world _ ⟨rfl, rfl, .inl rfl⟩ before
  finish _ := aside _ _ ⟨rfl, rfl, .inl rfl⟩
  arm _ _ := aside _ _ ⟨rfl, rfl, .inl rfl⟩
  hold _ _ := aside _ _ ⟨rfl, rfl, .inl rfl⟩
  mute socket readiness _ := aside _ _ ⟨rfl, rfl, .inr ⟨socket, readiness, rfl⟩⟩
  enter := by
    intro reactor world before entered
    simp only [Reactor.enter?, Option.ite_none_left_eq_some, Option.some.injEq] at entered
    obtain ⟨-, rfl⟩ := entered
    exact aside world _ ⟨rfl, rfl, .inl rfl⟩ before
  clearStop _ := aside _ _ ⟨rfl, rfl, .inl rfl⟩
  leave _ := aside _ _ ⟨rfl, rfl, .inl rfl⟩

theorem Aside.targets {before after : World η ν} (aside : Aside before after)
    (sound : before.reactor.registry.Sound) : after.reactor.registry.Sound ∧
      after.reactor.registry.targets = before.reactor.registry.targets := by
  rcases aside.registry with same | ⟨socket, readiness, muted⟩
  · rw [same]
    exact ⟨sound, rfl⟩
  · rw [muted]
    exact ⟨Registry.change_sound _ (.report socket readiness) sound,
      Registry.targets_muteReported _ _ _⟩

theorem Going.aside {before after : World η ν} (going : before.Going)
    (aside : Aside before after) : after.Going := by
  obtain ⟨sound, targets⟩ := aside.targets going.sound.sound
  exact ⟨going.sound.own aside.outside aside.alive sound targets, aside.alive.trans going.alive⟩

theorem going_preserves {user : UserCode η ν} (stays : user.Within Harmless) :
    (host user).Preserves Going :=
  preserves_of_aside
    (fun observer notification world going =>
      (notify_abides stays world observer notification going).going)
    (fun asked world going => ((stays.poll asked world going).goes going).1)
    (fun world going => ((stays.rest world going).goes going).1)
    fun _ _ aside going => going.aside aside

theorem Beside.count_le {free : Nat → Prop} {before after : World η ν}
    (beside : Beside free before after) (deed : Deed) :
    before.outside.deeds.count deed ≤ after.outside.deeds.count deed := by
  obtain ⟨deeds, more, -⟩ := beside.deeds
  rw [more, List.count_append]
  exact Nat.le_add_left _ _

/-- A service is in service, or it has been notified since it was. -/
structure Minded (index since : Nat) (world : World η ν) : Prop extends Going world where
  count : since ≤ world.outside.deeds.count (.handled index)
  serving : world.Serving index ∨ since < world.outside.deeds.count (.handled index)

namespace Minded

variable {index since : Nat} {before after : World η ν}

theorem aside (minded : Minded index since before) (aside : Aside before after) :
    Minded index since after where
  toGoing := minded.toGoing.aside aside
  count := by
    rw [aside.outside]
    exact minded.count
  serving := by
    rcases minded.serving with ⟨owner, handler, found, role⟩ | more
    · refine .inl ⟨owner, handler, ?_, role⟩
      rw [owner?, aside.outside]
      exact found
    · rw [aside.outside]
      exact .inr more

theorem abides {free : Nat → Prop} (minded : Minded index since before)
    (abides : Abides free before after) (taken : ¬free index) : Minded index since after where
  toGoing := abides.going
  count := Nat.le_trans minded.count (abides.beside.count_le _)
  serving := by
    rcases minded.serving with ⟨owner, handler, found, role⟩ | more
    · have kept := abides.beside.kept taken found (serves_of_role owner _ role)
      exact .inl ⟨owner, handler, kept, role⟩
    · exact .inr (Nat.lt_of_lt_of_le more (abides.beside.count_le _))

/-- A notification for the service itself is one more. -/
theorem notify {user : UserCode η ν} (stays : user.Within Harmless)
    (minded : Minded index since before) (observer : Nat) (notification : Notification) :
    Minded index since (notify user observer notification before).2 := by
  have going := minded.toGoing
  have notified := notify_abides stays before observer notification going
  by_cases made : before.maker? observer = some index
  · refine ⟨notified.going, Nat.le_trans minded.count (notified.beside.count_le _), .inr ?_⟩
    rcases minded.serving with ⟨owner, handler, found, role⟩ | more
    · obtain ⟨-, -, served⟩ :=
        serve_notified stays before going index notification owner handler found role
      rw [World.notify, made]
      dsimp only
      rw [notifyOwner_of_service before index notification owner _ found role]
      refine Nat.lt_of_lt_of_le ?_ (served.beside.count_le _)
      change since < (.handled index :: before.outside.deeds).count (.handled index)
      rw [List.count_cons_self]
      exact Nat.lt_succ_of_le minded.count
    · exact Nat.lt_of_lt_of_le more (notified.beside.count_le _)
  · exact minded.abides notified made

theorem preserves {user : UserCode η ν} (stays : user.Within Harmless) (index since : Nat) :
    (host user).Preserves (Minded index since) :=
  preserves_of_aside
    (fun observer notification _ minded => minded.notify stays observer notification)
    (fun asked world minded =>
      minded.abides ((stays.poll asked world).abides minded.toGoing fun _ => False) id)
    (fun world minded =>
      minded.abides ((stays.rest world).abides minded.toGoing fun _ => False) id)
    fun _ _ aside minded => minded.aside aside

end Minded

end World

end SocketLoop
