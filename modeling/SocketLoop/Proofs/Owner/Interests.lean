import SocketLoop.Proofs.Owner.Holdings
import SocketLoop.Proofs.Owner.Lifetime

/-! The interests of services. What a handler calls is put off until it returns, and then carried out
as removals followed by additions; this comes to the same as carrying the calls out in order, and
leaves alone the registrations that are wanted before and after. -/
namespace SocketLoop

variable {η ν : Type}

/-- What a handler may call while it runs. -/
inductive Call where
  | enable (kind : Kind)
  | disable (kind : Kind)
  | close
deriving DecidableEq

namespace KindSet

/-- A call as it is meant. -/
def called (kinds : KindSet) : Call → KindSet
  | .enable kind => kinds.insert kind
  | .disable kind => kinds.erase kind
  | .close => kinds

theorem ext_has {first second : KindSet} (same : ∀ kind, first.has kind = second.has kind) :
    first = second := by
  cases first
  cases second
  simp only [mk.injEq]
  exact ⟨same .readable, same .writable, same .shutdown, same .timeout, same .error, same .idle⟩

theorem toList_distinct (set : KindSet) : set.toList.Nodup :=
  List.Nodup.filter _ (by decide)

theorem eq_empty_iff (set : KindSet) : set = empty ↔ ∀ kind, set.has kind = false := by
  rw [← set.isEmpty_iff, isEmpty, beq_iff_eq]

end KindSet

namespace Requests

/-- A call as it is noted down. -/
def called (requests : Requests) : Call → Requests
  | .enable kind => requests.enabling kind
  | .disable kind => requests.disabling kind
  | .close => requests.closing

def ofCalls (calls : List Call) : Requests := calls.foldl called {}

theorem leaves_called (requests : Requests) (call : Call) (kinds wanted : KindSet)
    (same : ∀ kind, requests.leaves kinds kind = wanted.has kind) (kind : Kind) :
    (requests.called call).leaves kinds kind = (wanted.called call).has kind := by
  cases call with
  | enable other =>
    by_cases own : kind = other
    · simp [leaves, called, enabling, KindSet.called, KindSet.insert, own]
    · simp [leaves, called, enabling, KindSet.called, KindSet.insert, KindSet.erase, own,
        ← same kind]
  | disable other =>
    by_cases own : kind = other
    · simp [leaves, called, disabling, KindSet.called, KindSet.insert, KindSet.erase, own]
    · simp [leaves, called, disabling, KindSet.called, KindSet.insert, KindSet.erase, own,
        ← same kind]
  | close => exact same kind

/-- Requests leave what the calls behind them mean, one after another. -/
theorem leaves_ofCalls (calls : List Call) (kinds : KindSet) (kind : Kind) :
    (ofCalls calls).leaves kinds kind = (calls.foldl KindSet.called kinds).has kind := by
  have general : ∀ (requests : Requests) (wanted : KindSet),
      (∀ kind, requests.leaves kinds kind = wanted.has kind) →
      (calls.foldl called requests).leaves kinds kind =
        (calls.foldl KindSet.called wanted).has kind := by
    induction calls with
    | nil => exact fun requests wanted same => same kind
    | cons call rest ih =>
      intro requests wanted same
      exact ih _ _ (leaves_called requests call kinds wanted same)
  apply general
  intro other
  cases other <;> simp [leaves, KindSet.has]

/-- No kind is noted down both ways. -/
theorem apart_ofCalls (calls : List Call) (kind : Kind) :
    ¬((ofCalls calls).disable.has kind = true ∧ (ofCalls calls).enable.has kind = true) := by
  have general : ∀ requests : Requests,
      ¬(requests.disable.has kind = true ∧ requests.enable.has kind = true) →
      ¬((calls.foldl called requests).disable.has kind = true ∧
        (calls.foldl called requests).enable.has kind = true) := by
    induction calls with
    | nil => exact fun requests apart => apart
    | cons call rest ih =>
      intro requests apart
      apply ih
      cases call with
      | enable other =>
        by_cases own : kind = other
        · simp [called, enabling, KindSet.erase, own]
        · simpa [called, enabling, KindSet.erase, KindSet.insert, own] using apart
      | disable other =>
        by_cases own : kind = other
        · simp [called, disabling, KindSet.erase, own]
        · simpa [called, disabling, KindSet.erase, KindSet.insert, own] using apart
      | close => exact apart
  apply general
  cases kind <;> simp [KindSet.has]

/-- A kind that was wanted before is wanted on unless it is noted down to be removed. -/
theorem kept_ofCalls (calls : List Call) (kinds : KindSet) (kind : Kind)
    (had : kinds.has kind = true) :
    (!(ofCalls calls).disable.has kind) = (calls.foldl KindSet.called kinds).has kind := by
  have apart := apart_ofCalls calls kind
  rw [← leaves_ofCalls, leaves, had]
  cases disabled : (ofCalls calls).disable.has kind with
  | false => rfl
  | true => simpa [disabled] using apart

/-- What is noted down to be added and is not there is what is newly wanted, in the same order. -/
theorem fresh_ofCalls (calls : List Call) (kinds : KindSet) :
    ((ofCalls calls).enable.toList.filter fun kind =>
      !(kinds.has kind && !(ofCalls calls).disable.has kind)) =
        (calls.foldl KindSet.called kinds).toList.filter fun kind => !kinds.has kind := by
  rw [KindSet.toList, KindSet.toList, List.filter_filter, List.filter_filter]
  apply List.filter_congr
  intro kind there
  have apart := apart_ofCalls calls kind
  rw [← leaves_ofCalls, leaves]
  revert apart
  cases kinds.has kind <;> cases (ofCalls calls).disable.has kind <;>
    cases (ofCalls calls).enable.has kind <;> simp

theorem close_ofCalls (calls : List Call) : (ofCalls calls).close = true ↔ .close ∈ calls := by
  have general : ∀ requests : Requests, (calls.foldl called requests).close = true ↔
      requests.close = true ∨ .close ∈ calls := by
    induction calls with
    | nil => simp
    | cons call rest ih =>
      intro requests
      rw [List.foldl_cons, ih]
      cases call <;> simp [called, enabling, disabling, closing]
  exact (general {}).trans (by simp)

/-- A service is closed by a call, by a failure, and by calls that leave it nothing. -/
theorem ends_ofCalls (calls : List Call) (failed : Bool) (kinds : KindSet) :
    (ofCalls calls).Ends failed kinds ↔
      .close ∈ calls ∨ failed = true ∨ calls.foldl KindSet.called kinds = .empty := by
  rw [Ends, close_ofCalls, KindSet.eq_empty_iff]
  simp only [leaves_ofCalls]

end Requests

namespace World

/-- The kinds that an owner is registered for on a socket. -/
def interests (world : World η ν) (index : Nat) (descriptor : Int) : KindSet :=
  KindSet.ofList ((world.holdings index descriptor).map Registration.kind)

/-- A change that takes out some of an owner's registrations, by their kinds. -/
structure Shrunk (index : Nat) (gone : Kind → Bool) (before after : World η ν) : Prop where
  edits : Edits index before after
  makers : after.outside.makers = before.outside.makers
  next : after.reactor.registry.next = before.reactor.registry.next
  onSocket : ∀ descriptor, after.reactor.registry.onSocket descriptor =
    (before.reactor.registry.onSocket descriptor).filter fun registration =>
      !(before.isOwn index registration && gone registration.kind)
  own : ∀ owner, before.owner? index = some owner → after.owner? index =
    some { owner with observers := owner.observers.filter fun row => !gone row.1 }

/-- A change that puts new registrations of an owner at the end of those on a socket. -/
structure Grown (index : Nat) (socket : Handle) (fresh : List Registration)
    (before after : World η ν) : Prop where
  edits : Edits index before after
  onSocket : ∀ descriptor, after.reactor.registry.onSocket descriptor =
    before.reactor.registry.onSocket descriptor ++
      if socket.descriptor = descriptor then fresh else []
  holdings : ∀ descriptor, after.holdings index descriptor = before.holdings index descriptor ++
    if socket.descriptor = descriptor then fresh else []
  own : ∀ owner, before.owner? index = some owner → after.owner? index =
    some { owner with observers := owner.observers ++ fresh.map Registration.place }
  next : before.reactor.registry.next ≤ after.reactor.registry.next
  numbers : ∀ registration ∈ fresh, before.reactor.registry.next ≤ registration.number

theorem Shrunk.isOwn {index : Nat} {gone : Kind → Bool} {before after : World η ν}
    (shrunk : Shrunk index gone before after) (other : Nat) : after.isOwn other = before.isOwn other := by
  funext registration
  rw [World.isOwn, World.isOwn, maker?, maker?, shrunk.makers]

theorem Shrunk.holdings {index : Nat} {gone : Kind → Bool} {before after : World η ν}
    (shrunk : Shrunk index gone before after) (descriptor : Int) :
    after.holdings index descriptor = (before.holdings index descriptor).filter fun registration =>
      !gone registration.kind := by
  rw [World.holdings, shrunk.isOwn, shrunk.onSocket, World.holdings, List.filter_filter,
    List.filter_filter]
  apply List.filter_congr
  intro registration there
  cases before.isOwn index registration <;> simp

namespace Grown

variable {index : Nat} {socket : Handle} {first second : List Registration}
  {before between after : World η ν}

theorem refl (index : Nat) (socket : Handle) (world : World η ν) :
    Grown index socket [] world world where
  edits := .refl
  onSocket := by simp
  holdings := by simp
  own owner found := by simpa using found
  next := Nat.le_refl _
  numbers := by simp

theorem trans (one : Grown index socket first before between)
    (more : Grown index socket second between after) :
    Grown index socket (first ++ second) before after where
  edits := one.edits.trans more.edits
  onSocket := by
    intro descriptor
    rw [more.onSocket, one.onSocket, List.append_assoc]
    split <;> rfl
  holdings := by
    intro descriptor
    rw [more.holdings, one.holdings, List.append_assoc]
    split <;> rfl
  own := by
    intro owner found
    rw [more.own _ (one.own owner found), List.append_assoc, List.map_append]
  next := Nat.le_trans one.next more.next
  numbers := by
    intro registration there
    cases List.mem_append.mp there with
    | inl early => exact one.numbers registration early
    | inr late => exact Nat.le_trans one.next (more.numbers registration late)

end Grown

section

variable (world : World η ν) (ledger : world.Ledger) (index : Nat) (owner : Owner η)
  (found : world.owner? index = some owner)

include ledger found

theorem disable_shrinks (kind : Kind) :
    Shrunk index (· == kind) world (world.disable index kind) where
  edits := .single (.withdraw found _)
  makers := world.withdraw_makers ledger index owner found _
  next := world.withdraw_next index owner found _
  onSocket := world.withdraw_onSocket ledger index owner found _
  own := by
    intro other there
    obtain rfl := Option.some.inj (found.symm.trans there)
    exact world.owner?_withdraw ledger.sound index _ owner found

theorem disables_shrink (kinds : List Kind) : Shrunk index (fun kind => kind ∈ kinds) world
    (kinds.foldl (fun world kind => world.disable index kind) world) := by
  induction kinds generalizing world owner with
  | nil => exact ⟨.refl, rfl, rfl, by simp, fun owner there => by simpa using there⟩
  | cons first rest ih =>
    have one := disable_shrinks world ledger index owner found first
    have more := ih _ (one.edits.near ledger).1 _ (one.own owner found)
    constructor
    case edits => exact one.edits.trans more.edits
    case makers => exact more.makers.trans one.makers
    case next => exact more.next.trans one.next
    case onSocket =>
      intro descriptor
      rw [List.foldl_cons, more.onSocket, one.isOwn, one.onSocket, List.filter_filter]
      apply List.filter_congr
      intro registration there
      rw [Bool.eq_iff_iff]
      cases world.isOwn index registration with
      | false => simp
      | true => simp [and_comm]
    case own =>
      intro other there
      rw [List.foldl_cons, more.own _ (one.own other there), List.filter_filter]
      congr 2
      apply List.filter_congr
      intro row noted
      rw [Bool.eq_iff_iff]
      simp [and_comm]

variable (alive : world.reactor.alive = true)

include alive

theorem enlist_grows (kind : Kind) : Grown index owner.socket
    [⟨world.reactor.registry.next, kind, world.outside.makers.length⟩] world
    (world.enlist index kind) where
  edits := .single (.enlist alive found kind)
  onSocket := by
    intro descriptor
    rw [world.enlist_onSocket ledger index owner found alive]
    split
    · rfl
    · exact (List.append_nil _).symm
  holdings := by
    intro descriptor
    rw [world.enlist_holdings ledger index owner found alive]
    by_cases here : owner.socket.descriptor = descriptor
    · simp [here]
    · simp [here]
  own := by
    intro other there
    obtain rfl := Option.some.inj (found.symm.trans there)
    exact world.enlist_owner index owner found alive kind
  next := by
    rw [enlist_of_alive world index kind owner alive found]
    exact Registry.next_le_add _ _ _ _
  numbers := by simp

/-- A kind that an owner is registered for already is left alone. -/
theorem enable_grows (kind : Kind) : ∃ fresh,
    Grown index owner.socket fresh world (world.enable index kind) ∧
      fresh.map Registration.kind = [kind].filter fun kind => !owner.kinds.has kind := by
  rw [enable, found]
  dsimp only
  cases noted : owner.kinds.has kind with
  | true =>
    rw [if_pos rfl]
    exact ⟨[], .refl index owner.socket world, by simp [noted]⟩
  | false =>
    rw [if_neg Bool.false_ne_true]
    exact ⟨_, enlist_grows world ledger index owner found alive kind, by simp [noted]⟩

theorem enables_grow (kinds : List Kind) (distinct : kinds.Nodup) : ∃ fresh,
    Grown index owner.socket fresh world
      (kinds.foldl (fun world kind => world.enable index kind) world) ∧
      fresh.map Registration.kind = kinds.filter fun kind => !owner.kinds.has kind := by
  induction kinds generalizing world owner with
  | nil => exact ⟨[], .refl index owner.socket world, rfl⟩
  | cons first rest ih =>
    rw [List.nodup_cons] at distinct
    obtain ⟨new, one, kind⟩ := enable_grows world ledger index owner found alive first
    obtain ⟨ledger', near⟩ := one.edits.near ledger
    obtain ⟨later, more, kinds⟩ := ih _ ledger' _ (one.own owner found) (near.alive.trans alive)
      distinct.2
    refine ⟨new ++ later, one.trans more, ?_⟩
    have others : ∀ other ∈ rest, KindSet.has (Owner.kinds { owner with
        observers := owner.observers ++ new.map Registration.place }) other =
          owner.kinds.has other := by
      intro other there
      have apart : other ∉ new.map Registration.kind := by
        rw [kind]
        intro same
        rw [List.mem_singleton.mp (List.mem_filter.mp same).1] at there
        exact distinct.1 there
      rw [Bool.eq_iff_iff, Owner.has_kinds, Owner.has_kinds, List.map_append, List.map_map,
        List.mem_append]
      exact or_iff_left apart
    rw [List.map_append, kind, kinds,
      List.filter_congr fun other there => congrArg Bool.not (others other there),
      ← List.filter_append]
    rfl

end

def adjust (world : World η ν) (index : Nat) (requests : Requests) : World η ν :=
  requests.enable.toList.foldl (fun world kind => world.enable index kind)
    (requests.disable.toList.foldl (fun world kind => world.disable index kind) world)

/-- What a service held is there but for what was disabled, and what was enabled comes after it. -/
theorem adjust_cases (world : World η ν) (going : world.Going) (index : Nat) (owner : Owner η)
    (found : world.owner? index = some owner) (requests : Requests) : ∃ between fresh,
      Shrunk index requests.disable.has world between ∧
      Grown index owner.socket fresh between (world.adjust index requests) ∧
      fresh.map Registration.kind = requests.enable.toList.filter fun kind =>
        !(owner.kinds.has kind && !requests.disable.has kind) := by
  have ledger := going.sound.toLedger
  have shrunk := disables_shrink world ledger index owner found requests.disable.toList
  obtain ⟨ledger', near⟩ := shrunk.edits.near ledger
  obtain ⟨fresh, grown, kinds⟩ := enables_grow _ ledger' index _ (shrunk.own owner found)
    (near.alive.trans going.alive) requests.enable.toList requests.enable.toList_distinct
  refine ⟨_, fresh, ?_, grown, ?_⟩
  · have same : (fun kind => decide (kind ∈ requests.disable.toList)) = requests.disable.has := by
      funext kind
      rw [Bool.eq_iff_iff, decide_eq_true_eq, KindSet.mem_toList]
    exact same ▸ shrunk
  · rw [kinds]
    apply List.filter_congr
    intro kind wanted
    rw [Bool.not_inj_iff, Bool.eq_iff_iff, Owner.has_kinds, Bool.and_eq_true, owner.has_kinds,
      Bool.not_eq_true', List.mem_map, List.mem_map]
    constructor
    · intro there
      obtain ⟨row, kept, rfl⟩ := there
      obtain ⟨noted, stays⟩ := List.mem_filter.mp kept
      exact ⟨⟨row, noted, rfl⟩, by simpa using stays⟩
    · intro there
      obtain ⟨⟨row, noted, rfl⟩, stays⟩ := there
      exact ⟨row, List.mem_filter.mpr ⟨noted, by simpa using stays⟩, rfl⟩

/-- A service that is settled is as it was adjusted, or it is closed. -/
theorem settle_cases (user : UserCode η ν) (world : World η ν) (going : world.Going) (index : Nat)
    (owner : Owner η) (handler : η) (found : world.owner? index = some owner)
    (role : owner.role = .service (some handler)) (requests : Requests) (failed : Bool) :
    Edits index world (world.adjust index requests) ∧
    (¬requests.Ends failed owner.kinds →
      settle user world index requests failed = world.adjust index requests) ∧
    (requests.Ends failed owner.kinds →
      settle user world index requests failed = user.dropped handler owner.socket
        (((world.adjust index requests).withdrawAll index).discard index) ∧
      (((world.adjust index requests).withdrawAll index).discard index).Going) := by
  obtain ⟨observers, edits, kept, noted⟩ := adjusts world going index owner found requests
  change Edits index world (world.adjust index requests) at edits
  change (world.adjust index requests).owner? index = _ at kept
  have bare : ({ owner with observers } : Owner η).kinds.isEmpty = true ↔
      ∀ kind, requests.leaves owner.kinds kind = false := by
    rw [KindSet.isEmpty_iff]
    apply forall_congr'
    intro kind
    rw [Bool.eq_false_iff, ne_eq, Owner.has_kinds, noted kind, Bool.eq_false_iff]
  have ends : (requests.close || failed || ({ owner with observers } : Owner η).kinds.isEmpty) =
      true ↔ requests.Ends failed owner.kinds := by
    rw [Bool.or_eq_true, Bool.or_eq_true, bare, or_assoc]
    rfl
  have settled : settle user world index requests failed =
      if (requests.close || failed || ({ owner with observers } : Owner η).kinds.isEmpty) = true
      then closeService user (world.adjust index requests) index
      else world.adjust index requests := by
    unfold settle
    unfold adjust at kept
    dsimp only
    rw [kept]
    rfl
  refine ⟨edits, ?_, ?_⟩
  · intro goes
    rw [settled, if_neg (mt ends.mp goes)]
  · intro closes
    obtain ⟨ledger, near⟩ := edits.near going.sound.toLedger
    have struck : ((world.adjust index requests).withdrawAll index).owner? index =
        some { owner with observers := [] } := by
      simpa [withdrawAll] using owner?_withdraw _ ledger.sound index (fun _ => true) _ kept
    have unregistered : ¬((world.adjust index requests).withdrawAll index).Registered index := by
      intro registered
      obtain ⟨value, there, some⟩ := registered
      exact some (by rw [← Option.some.inj (struck.symm.trans there)])
    obtain ⟨sound, beside⟩ := going.sound.closed index ⟨owner, handler, found, role⟩
      (edits.tail (.withdraw kept fun _ => true)) unregistered
    refine ⟨?_, sound, beside.alive.trans going.alive⟩
    rw [settled, if_pos (ends.mpr closes), closeService,
      dropHandler_of_serving user _ index _ handler struck role]

section

variable {user : UserCode η ν} (stays : user.Within Harmless)

include stays

theorem settle_holds (world : World η ν) (going : world.Going) (index : Nat) (owner : Owner η)
    (handler : η) (found : world.owner? index = some owner)
    (role : owner.role = .service (some handler)) (requests : Requests) (failed : Bool)
    (other : Nat) (apart : other ≠ index) (value : Owner η)
    (there : world.owner? other = some value) (serves : value.serves = true) :
    Holds other world (settle user world index requests failed) := by
  obtain ⟨edits, stayed, closed⟩ :=
    settle_cases user world going index owner handler found role requests failed
  by_cases ends : requests.Ends failed owner.kinds
  · obtain ⟨settled, ended⟩ := closed ends
    obtain ⟨-, near⟩ := edits.near going.sound.toLedger
    obtain ⟨observers, kept⟩ := near.own owner found
    have edits' := edits.tail (.withdraw kept fun _ => true)
    obtain ⟨-, near'⟩ := Edits.near edits' going.sound.toLedger
    have held : Holds other world
        (((world.adjust index requests).withdrawAll index).discard index) :=
      (Edits.holds edits' going.sound.toLedger other apart).trans (holds_of_same rfl rfl)
    have still : (((world.adjust index requests).withdrawAll index).discard index).owner? other =
        some value :=
      (owner?_changeOwner_ne _ index _ other apart).trans ((near'.others other apart).trans there)
    rw [settled]
    exact held.trans ((stays.dropped handler owner.socket _ ended).holds ended other value still
      serves)
  · rw [stayed ends]
    exact edits.holds going.sound.toLedger other apart

/-- A service that is notified handles that, and then is settled unless its handler panicked. -/
theorem serve_cases (world : World η ν) (going : world.Going) (index : Nat)
    (notification : Notification) (owner : Owner η) (handler : η)
    (found : world.owner? index = some owner) (role : owner.role = .service (some handler)) :
    ∃ what changed inside,
      user.handler index handler notification (world.done (.handled index)) =
        (what, changed, inside) ∧
      (world.done (.handled index)).Going ∧ Moves (world.done (.handled index)) inside ∧
      (inside.setHandler index (some changed)).Going ∧
      (inside.setHandler index (some changed)).owner? index =
        some { owner with role := .service (some changed) } ∧
      (serve user index notification world).2 = match what with
        | .panicked => inside.setHandler index (some changed)
        | .returned requests failed =>
          settle user (inside.setHandler index (some changed)) index requests failed := by
  obtain ⟨sound, beside⟩ := going.sound.handled index ⟨owner, handler, found, role⟩
  have begun : (world.done (.handled index)).Going := ⟨sound, beside.alive.trans going.alive⟩
  have moves := stays.handler index handler notification (world.done (.handled index)) begun
  obtain ⟨going', beside'⟩ := moves.goes begun
  have still := beside'.kept id found (serves_of_role owner _ role)
  have served : (world.owner? index).bind Owner.handler? = some handler := by
    rw [found, Option.bind_some, Owner.handler?, role]
  rw [serve, served]
  dsimp only
  cases result : user.handler index handler notification (world.done (.handled index)) with
  | mk what rest =>
    obtain ⟨changed, inside⟩ := rest
    rw [result] at moves going' still
    obtain ⟨swapped, beside''⟩ := going'.sound.changed index changed ⟨owner, handler, still, role⟩
    refine ⟨what, changed, inside, rfl, begun, moves, ⟨swapped, beside''.alive.trans going'.alive⟩,
      ?_, ?_⟩
    · exact owner?_setHandler inside index _ owner still (serves_of_role owner _ role)
    · cases what <;> rfl

/-- Notifications for others leave what a service holds as it is. -/
theorem notify_holds (world : World η ν) (going : world.Going) (observer : Nat)
    (notification : Notification) (index : Nat) (owner : Owner η)
    (found : world.owner? index = some owner) (serves : owner.serves = true)
    (other : world.maker? observer ≠ some index) :
    Holds index world (notify user observer notification world).2 := by
  have quiet : ∀ after, Harmless world after → Holds index world after :=
    fun after harmless => (harmless going).holds going index owner found serves
  unfold notify
  split
  · exact quiet _ (stays.observer observer notification world)
  · rename_i maker made
    have apart : index ≠ maker := fun same => other (same ▸ made)
    unfold notifyOwner
    split
    · exact .refl index world
    · rename_i handler role
      obtain ⟨value, there, role⟩ := Option.map_eq_some_iff.mp role
      cases handler with
      | none =>
        rw [serve_of_closed world maker notification value there role]
        exact .refl index world
      | some handler =>
        obtain ⟨what, changed, inside, -, begun, moves, going', kept, served⟩ :=
          serve_cases stays world going maker notification value handler there role
        have heard : Holds index world (world.done (.handled maker)) := holds_of_same rfl rfl
        have handled := heard.trans (moves.holds begun index owner found serves)
        have swapped : Holds index world (inside.setHandler maker (some changed)) :=
          handled.trans (holds_of_same rfl rfl)
        rw [served]
        cases what with
        | panicked => exact swapped
        | returned requests failed =>
          have still := (moves.goes begun).2.kept id found serves
          have there' : (inside.setHandler maker (some changed)).owner? index = some owner :=
            (owner?_changeOwner_ne inside maker _ index apart).trans still
          exact swapped.trans (settle_holds stays _ going' maker _ changed kept rfl requests failed
            index apart owner there' serves)
    · exact quiet _ (resolve_harmless stays world maker notification)
    · exact quiet _ (takeConnection_harmless stays world maker)

end

/-- Own steps of the loop leave what an owner holds as it is. -/
theorem Aside.holds {before after : World η ν} (aside : Aside before after) (index : Nat) :
    Holds index before after := by
  have own : after.isOwn index = before.isOwn index := by
    funext registration
    rw [isOwn, isOwn, maker?, maker?, aside.outside]
  intro descriptor
  have same : after.reactor.registry.onSocket descriptor =
      before.reactor.registry.onSocket descriptor := by
    cases aside.registry with
    | inl same => rw [same]
    | inr muted =>
      obtain ⟨socket, readiness, muted⟩ := muted
      rw [muted, Loop.muteReported]
      split
      · exact before.reactor.registry.onSocket_mute _ _ descriptor
      · rfl
  rw [holdings, holdings, own, same]

end World

end SocketLoop
