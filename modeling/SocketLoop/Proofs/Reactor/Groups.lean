import SocketLoop.Proofs.Registry.Polling
import SocketLoop.Proofs.Reactor.Shape

/-! The calls of a pass that found sockets ready. Each socket reported about is gone through in
groups, one for each kind of notification that the report asks for, and each group calls the
registrations of its kind that are there when it starts and still there when it gets to them. -/
namespace SocketLoop

variable {ω : Type}

/-- What polling some sockets reports when these are the states that it finds them in: of each that
is not quiet, its state. -/
def Interest.reported (revents : Interest → Readiness) (asked : List Interest) :
    List (Handle × Readiness) :=
  asked.filterMap fun interest =>
    if (revents interest).isQuiet then none else some (interest.socket, revents interest)

def Turn.visits (host : Host ω) (turn : Turn ω) : List (Armed × Site ω) :=
  Loop.visits host turn.socket turn.notification turn.snapshot turn.start

def Turn.target (turn : Turn ω) : Int × Kind := (turn.socket.descriptor, turn.notification.kind)

/-- A turn calls the registrations of its kind that are there when it starts, in the order in which
they were made, except those that are gone when it gets to them. -/
structure Turn.Exact (host : Host ω) (turn : Turn ω) : Prop where
  snapshot : ∀ armed, armed ∈ turn.snapshot ↔
    (turn.socket.descriptor, armed) ∈ turn.start.reactor.registry.rows ∧
      armed.kind = turn.notification.kind
  order : turn.snapshot.Pairwise fun first second => first.number < second.number
  visits : (turn.visits host).map Prod.fst <+: turn.snapshot
  called : turn.called host = ((turn.visits host).filter fun visit =>
    decide ((turn.socket.descriptor, visit.1) ∈ visit.2.reactor.registry.rows)).map Prod.fst
  /-- What is registered later has a higher number, also what was removed and is back. -/
  renewed : ∀ armed ∈ turn.called host, armed.number < turn.start.reactor.registry.next

/-- The groups that a report asks for, in their order. -/
structure Moment.Groups (moment : Moment ω) (groups : List Notification) : Prop where
  order : (groups.map Notification.kind).Sublist [.readable, .writable, .error]
  socket : ∀ group ∈ groups, group.socket = some moment.socket
  readable : .readable ∈ groups.map Notification.kind ↔
    moment.readiness.input = true ∨ moment.readiness.hangUp = true
  writable : .writable ∈ groups.map Notification.kind ↔ moment.readiness.output = true
  error : .error ∈ groups.map Notification.kind ↔
    moment.readiness.error = true ∨ moment.readiness.invalid = true ∨
      moment.readiness.hangUp = true ∧ ∀ row ∈ moment.site.reactor.registry.rows,
        row.1 = moment.socket.descriptor → row.2.kind ≠ .readable
  code : ∀ group ∈ groups, group.code =
    if group.kind = .error then
      if moment.readiness.invalid then some Errno.badDescriptor
      else if moment.readiness.error then none else some Errno.brokenPipe
    else none

namespace Turn

variable {host : Host ω} (tame : host.Tame) (turn : Turn ω)

include tame

theorem visits_sound (sound : turn.start.reactor.registry.Sound) :
    ∀ visit ∈ turn.visits host, visit.2.reactor.registry.Sound ∧
      turn.start.reactor.registry.Later visit.2.reactor.registry := by
  refine Loop.visits_hold (tame.preserves (fun registry =>
    registry.Sound ∧ turn.start.reactor.registry.Later registry) ?_).toMinds turn.socket
    turn.notification turn.snapshot turn.start ⟨sound, .refl _⟩
  rintro registry change ⟨sound, later⟩
  exact ⟨Registry.change_sound registry change sound,
    later.trans (Registry.change_later registry sound change)⟩

theorem exact (sound : turn.start.reactor.registry.Sound)
    (ordered : turn.start.reactor.registry.Ordered) : turn.Exact host where
  snapshot := Registry.mem_snapshot _ sound _ _
  order := Registry.snapshot_ordered _ ordered _ _
  visits := (Loop.visits_prefix turn.socket turn.notification turn.snapshot turn.start).1
  called := by
    have begins : (turn.visits host).map Prod.fst <+: turn.snapshot :=
      (Loop.visits_prefix turn.socket turn.notification turn.snapshot turn.start).1
    refine congrArg _ (List.filter_congr ?_)
    intro visit member
    obtain ⟨still, later⟩ := turn.visits_sound tame sound visit member
    have there := ((Registry.mem_snapshot _ sound _ _ _).mp
      (begins.subset (List.mem_map_of_mem member))).1
    rw [Bool.eq_iff_iff, Registry.isLive_iff, decide_eq_true_iff, later.kept_iff still _ there]
  renewed := turn.called_before sound

/-- Turns that are for other sockets or for other kinds call other registrations. -/
theorem called_apart (first second : Turn ω) (sound : first.start.reactor.registry.Sound)
    (later : (first.result host).2.reactor.registry.Later second.start.reactor.registry)
    (apart : first.target ≠ second.target) :
    ∀ one ∈ first.called host, ∀ other ∈ second.called host, one.number ≠ other.number := by
  intro one member other called same
  have passed := (first.result_later tame.keeps sound).trans later
  obtain ⟨there, kind⟩ := (Registry.mem_snapshot _ sound _ _ _).mp
    (first.called_sublist.subset member)
  obtain ⟨found, other_kind⟩ := (Registry.mem_snapshot _ (passed.sound sound) _ _ _).mp
    (second.called_sublist.subset called)
  obtain ⟨descriptor, rfl⟩ := Prod.mk.inj (passed.same_row sound there found same.symm)
  exact apart (Prod.ext descriptor.symm (kind.symm.trans other_kind))

omit tame in
theorem called_distinct (ordered : turn.start.reactor.registry.Ordered) :
    ((turn.called host).map Registration.number).Nodup := by
  have order := Registry.snapshot_ordered _ ordered turn.socket.descriptor turn.notification.kind
  exact List.pairwise_map.mpr ((order.sublist turn.called_sublist).imp Nat.ne_of_lt)

end Turn

namespace Loop

variable (socket : Handle) (readiness : Readiness) (unheard : Bool)

theorem mem_notificationsOf (notification : Notification) :
    notification ∈ notificationsOf socket readiness unheard ↔
      readiness.readable = true ∧ notification = .ofSocket .readable socket ∨
      readiness.output = true ∧ notification = .ofSocket .writable socket ∨
      readiness.failed = true ∧ notification = .failure socket readiness.code ∨
      readiness.failed = false ∧ unheard = true ∧
        notification = .failure socket (some Errno.brokenPipe) := by
  rw [notificationsOf, List.mem_append, List.mem_append, List.mem_ite_nil_right,
    List.mem_ite_nil_right, List.mem_singleton, List.mem_singleton, or_assoc]
  cases readiness.failed <;> simp

theorem notificationsOf_order :
    ((notificationsOf socket readiness unheard).map Notification.kind).Sublist
      [.readable, .writable, .error] := by
  have single : ∀ (asked : Bool) (group : Notification),
      ((if asked then [group] else []).map Notification.kind).Sublist [group.kind] := by
    intro asked group
    cases asked <;> simp
  rw [notificationsOf, List.map_append, List.map_append]
  refine ((single _ _).append (single _ _)).append ?_
  split
  · exact List.Sublist.refl _
  · exact single unheard (.failure socket (some Errno.brokenPipe))

end Loop

namespace Moment

variable (moment : Moment ω) (sound : moment.site.reactor.registry.Sound)

include sound

theorem unheard_iff :
    Loop.unheardHangUp moment.registry moment.socket moment.readiness = true ↔
      moment.readiness.hangUp = true ∧ ∀ row ∈ moment.site.reactor.registry.rows,
        row.1 = moment.socket.descriptor → row.2.kind ≠ .readable := by
  have muted : moment.registry.Sound :=
    Registry.change_sound _ (.report moment.socket moment.readiness) sound
  rw [Loop.unheardHangUp, Bool.and_eq_true, Bool.not_eq_true', Bool.eq_false_iff, Ne,
    Registry.observes_iff _ muted, registry, Registry.muteReported_rows]
  simp only [not_exists, not_and, ne_eq]

theorem mem_notices (group : Notification) : group ∈ moment.notices ↔
    moment.readiness.readable = true ∧ group = .ofSocket .readable moment.socket ∨
    moment.readiness.output = true ∧ group = .ofSocket .writable moment.socket ∨
    moment.readiness.failed = true ∧ group = .failure moment.socket moment.readiness.code ∨
    moment.readiness.failed = false ∧ (moment.readiness.hangUp = true ∧
        ∀ row ∈ moment.site.reactor.registry.rows, row.1 = moment.socket.descriptor →
          row.2.kind ≠ .readable) ∧
      group = .failure moment.socket (some Errno.brokenPipe) := by
  rw [notices, Loop.mem_notificationsOf, moment.unheard_iff sound]

theorem mem_kinds (kind : Kind) : kind ∈ moment.notices.map Notification.kind ↔
    moment.readiness.readable = true ∧ kind = .readable ∨
    moment.readiness.output = true ∧ kind = .writable ∨
    (moment.readiness.failed = true ∨ moment.readiness.hangUp = true ∧
      ∀ row ∈ moment.site.reactor.registry.rows, row.1 = moment.socket.descriptor →
        row.2.kind ≠ .readable) ∧ kind = .error := by
  simp only [List.mem_map, moment.mem_notices sound]
  constructor
  · rintro ⟨group, ⟨heard, rfl⟩ | ⟨room, rfl⟩ | ⟨failed, rfl⟩ | ⟨-, unread, rfl⟩, rfl⟩
    · exact .inl ⟨heard, rfl⟩
    · exact .inr (.inl ⟨room, rfl⟩)
    · exact .inr (.inr ⟨.inl failed, rfl⟩)
    · exact .inr (.inr ⟨.inr unread, rfl⟩)
  · rintro (⟨heard, rfl⟩ | ⟨room, rfl⟩ | ⟨failed | unread, rfl⟩)
    · exact ⟨_, .inl ⟨heard, rfl⟩, rfl⟩
    · exact ⟨_, .inr (.inl ⟨room, rfl⟩), rfl⟩
    · exact ⟨_, .inr (.inr (.inl ⟨failed, rfl⟩)), rfl⟩
    · cases failed : moment.readiness.failed with
      | true => exact ⟨_, .inr (.inr (.inl ⟨rfl, rfl⟩)), rfl⟩
      | false => exact ⟨_, .inr (.inr (.inr ⟨rfl, unread, rfl⟩)), rfl⟩

theorem notices_groups : moment.Groups moment.notices where
  order := Loop.notificationsOf_order _ _ _
  socket := by
    intro group inside
    rcases (moment.mem_notices sound group).mp inside with
      ⟨-, rfl⟩ | ⟨-, rfl⟩ | ⟨-, rfl⟩ | ⟨-, -, rfl⟩ <;> rfl
  readable := by simp [moment.mem_kinds sound, Readiness.readable]
  writable := by simp [moment.mem_kinds sound]
  error := by simp [moment.mem_kinds sound, Readiness.failed, or_assoc]
  code := by
    intro group inside
    rcases (moment.mem_notices sound group).mp inside with
      ⟨-, rfl⟩ | ⟨-, rfl⟩ | ⟨failed, rfl⟩ | ⟨fine, -, rfl⟩
    · rfl
    · rfl
    · simp only [Notification.failure, Readiness.code, Readiness.failed, Bool.or_eq_true] at failed ⊢
      cases invalid : moment.readiness.invalid with
      | true => rfl
      | false => simp [invalid] at failed ⊢; simp [failed]
    · simp only [Readiness.failed, Bool.or_eq_false_iff] at fine
      simp [Notification.failure, fine]

end Moment

namespace Loop

variable {host : Host ω}

omit host in
theorem reported_descriptors (revents : Interest → Readiness) (asked : List Interest) :
    ((Interest.reported revents asked).map fun report => report.1.descriptor).Sublist
      (asked.map fun interest => interest.socket.descriptor) := by
  induction asked with
  | nil => exact .slnil
  | cons interest rest ih =>
    rw [Interest.reported, List.filterMap_cons]
    split
    · exact ih.cons _
    · rename_i report found
      obtain rfl := Option.some.inj (Option.ite_none_left_eq_some.mp found).2
      exact ih.cons_cons _

/-- In a moment each kind has one turn at most. -/
theorem moment_targets (moment : Moment ω) : ((moment.turns host).map Turn.target).Nodup := by
  obtain ⟨-, begins, -⟩ := moment_notices host moment
  have kinds : ((moment.turns host).map fun turn => turn.notification.kind).Nodup := by
    have sublist := (begins.map Notification.kind).sublist.trans
      (notificationsOf_order moment.socket moment.readiness _)
    rw [List.map_map] at sublist
    exact sublist.nodup (by decide)
  exact (List.pairwise_map.mp kinds).map _ fun first second apart same =>
    apart (congrArg Prod.snd same)

theorem moments_targets (moments : List (Moment ω))
    (distinct : (moments.map fun moment => moment.socket.descriptor).Nodup) :
    ((moments.flatMap fun moment => moment.turns host).map Turn.target).Nodup := by
  rw [List.map_flatMap]
  refine List.pairwise_flatMap.mpr ⟨fun moment _ => moment_targets moment, ?_⟩
  refine (List.pairwise_map.mp distinct).imp ?_
  intro first second apart one inside other found same
  obtain ⟨turn, member, rfl⟩ := List.mem_map.mp inside
  obtain ⟨later, reached, rfl⟩ := List.mem_map.mp found
  have own := (moment_notices host first).1 turn member
  have others := (moment_notices host second).1 later reached
  apply apart
  rw [← own, ← others]
  exact congrArg Prod.fst same

/-- Turns of a loop call different registrations if no two are for one socket and one kind. -/
theorem turns_distinct (tame : host.Tame) {site : Site ω} {turns : List (Turn ω)}
    {result : Ending × Site ω} (turning : Turning host site turns result)
    (sound : site.reactor.registry.Sound)
    (ordered : ∀ turn ∈ turns, turn.start.reactor.registry.Ordered)
    (targets : (turns.map Turn.target).Nodup) :
    (turns.flatMap fun turn => (turn.called host).map Registration.number).Nodup := by
  obtain ⟨-, inside, times⟩ := turning.later tame.keeps sound
  refine List.pairwise_flatMap.mpr ⟨fun turn member => turn.called_distinct (ordered turn member), ?_⟩
  refine (times.and (List.pairwise_map.mp targets)).imp_of_mem ?_
  rintro first second member - ⟨later, apart⟩ one called other found
  obtain ⟨armed, here, rfl⟩ := List.mem_map.mp called
  obtain ⟨again, there, rfl⟩ := List.mem_map.mp found
  exact Turn.called_apart tame first second ((inside first member).1.sound sound) later apart
    armed here again there

theorem readyMoments_returned (reports : List (Handle × Readiness)) (site : Site ω)
    (fine : (readyPass host reports site).1 = .returned) :
    ∀ moment ∈ readyMoments host reports site, (moment.result host).1 = .returned := by
  induction reports generalizing site with
  | nil => simp [readyMoments]
  | cons report rest ih =>
    simp only [readyMoments, readyPass, List.forall_mem_cons] at fine ⊢
    cases went : dispatchReady host report.1 report.2 site with
    | mk ending next =>
      rw [went] at fine
      cases ending with
      | returned => exact ⟨congrArg Prod.fst went, ih next fine⟩
      | panicked => cases fine

/-- A moment belongs to a pass that found something ready. -/
theorem polled_of_moment (site : Site ω) (moment : Moment ω)
    (reached : moment ∈ passMoments host site) :
    ∃ reports polled, site.reactor.registry.pollSet ≠ [] ∧ reports ≠ [] ∧
      host.poll site.reactor.registry.pollSet site.asking = (.ready reports, polled) := by
  have asks : site.reactor.registry.pollSet ≠ [] := by
    intro nothing
    simp [passMoments_of_nothing host site nothing] at reached
  cases polled : host.poll site.reactor.registry.pollSet site.asking with
  | mk found after =>
    cases found with
    | interrupted | failed =>
      rw [passMoments_of_silent host site (by simp [polled])] at reached
      cases reached
    | ready reports =>
      refine ⟨reports, after, asks, ?_, rfl⟩
      rintro rfl
      rw [passMoments_of_ready host site [] after asks polled] at reached
      cases reached

theorem pass_of_ready (site polled : Site ω) (reports : List (Handle × Readiness))
    (asks : site.reactor.registry.pollSet ≠ []) (found : reports ≠ [])
    (asked : host.poll site.reactor.registry.pollSet site.asking = (.ready reports, polled)) :
    passTurns host site = readyTurns host reports
        (polled.note (.polled site.reactor.registry.pollSet.length reports.length)) ∧
      pass host site = passEnd (letGo (readyPass host reports
        (polled.note (.polled site.reactor.registry.pollSet.length reports.length)))) := by
  have exit := pass_exit host site
  generalize passTurns host site = turns, pass host site = result at exit
  cases exit with
  | muffled nothing | idle nothing => exact absurd nothing asks
  | interrupted _ other | failed _ other => cases asked.symm.trans other
  | quiet _ other | timeout _ other =>
    cases asked.symm.trans other
    exact absurd rfl found
  | ready _ _ other =>
    cases asked.symm.trans other
    exact ⟨rfl, rfl⟩

theorem passTurns_of_ready (site polled : Site ω) (reports : List (Handle × Readiness))
    (asks : site.reactor.registry.pollSet ≠ []) (found : reports ≠ [])
    (asked : host.poll site.reactor.registry.pollSet site.asking = (.ready reports, polled)) :
    passTurns host site = (passMoments host site).flatMap fun moment => moment.turns host := by
  rw [(pass_of_ready site polled reports asks found asked).1,
    passMoments_of_ready host site reports polled asks asked, readyTurns_eq]

theorem moments_returned (site : Site ω) (calm : (pass host site).1 ≠ .panicked) :
    ∀ moment ∈ passMoments host site, (moment.result host).1 = .returned := by
  intro moment reached
  obtain ⟨reports, polled, asks, found, asked⟩ := polled_of_moment site moment reached
  rw [(pass_of_ready site polled reports asks found asked).2] at calm
  rw [passMoments_of_ready host site reports polled asks asked] at reached
  exact readyMoments_returned reports _ (passEnd_panicked (letGo _) calm) moment reached

/-- A pass gets to each socket once. -/
theorem passMoments_distinct (site polled : Site ω) (sound : site.reactor.registry.Sound)
    (revents : Interest → Readiness) (reports : List (Handle × Readiness))
    (asks : site.reactor.registry.pollSet ≠ [])
    (asked : host.poll site.reactor.registry.pollSet site.asking = (.ready reports, polled))
    (states : reports.Perm (Interest.reported revents site.reactor.registry.pollSet)) :
    ((passMoments host site).map fun moment => moment.socket.descriptor).Nodup := by
  have whole : (reports.map fun report => report.1.descriptor).Nodup :=
    ((states.map _).nodup_iff).mpr ((Registry.pollSet_distinct _ sound).sublist
      (reported_descriptors revents _))
  rw [passMoments_of_ready host site reports polled asks asked]
  have sublist := ((readyMoments_reports host reports (polled.note (.polled
    site.reactor.registry.pollSet.length reports.length))).1.map
      fun report => report.1.descriptor).sublist
  rw [List.map_map] at sublist
  exact whole.sublist sublist

/-- A pass that found sockets ready, in whatever states and visited in whatever order, goes through
each of them in the groups that its state asks for, whatever the observers do meanwhile. Each group
calls what is registered for it when it starts and still is when its turn comes, in the order of
registration, and no registration is called twice. -/
theorem ready_pass_calls (host : Host ω) (tame : host.Tame) (site : Site ω)
    (reachable : site.reactor.registry.Reachable) (revents : Interest → Readiness)
    (reports : List (Handle × Readiness)) (polled : Site ω)
    (asked : host.poll site.reactor.registry.pollSet site.asking = (.ready reports, polled))
    (states : reports.Perm (Interest.reported revents site.reactor.registry.pollSet))
    (found : reports ≠ []) :
    (pass host site).2.calls = site.calls ++ (passMoments host site).flatMap (fun moment =>
      turnsCalls host (moment.turns host)) ∧
    (passMoments host site).map Moment.report <+: reports ∧
    ((passMoments host site).map fun moment => moment.socket.descriptor).Nodup ∧
    (∀ moment ∈ passMoments host site, ∃ groups, moment.Groups groups ∧
      (moment.turns host).map Turn.notification <+: groups ∧
      ∀ turn ∈ moment.turns host, turn.socket = moment.socket ∧ turn.Exact host) ∧
    ((pass host site).1 ≠ .panicked → (passMoments host site).map Moment.report = reports ∧
      ∀ moment ∈ passMoments host site, moment.Groups ((moment.turns host).map Turn.notification) ∧
        ∀ turn ∈ moment.turns host, (turn.visits host).map Prod.fst = turn.snapshot) ∧
    ((passTurns host site).flatMap fun turn =>
      (turn.called host).map Registration.number).Nodup := by
  have asks : site.reactor.registry.pollSet ≠ [] := by
    intro nothing
    rw [nothing] at states
    exact found states.eq_nil
  have keeps := (tame.preserves Registry.Reachable
    fun registry change before => before.change change).toGuards
  have inside := passMoments_hold keeps site reachable
  obtain ⟨turns, went⟩ := pass_of_ready site polled reports asks found asked
  have moments := passMoments_of_ready host site reports polled asks asked
  have split := passTurns_of_ready site polled reports asks found asked
  have silent : (polled.note (.polled site.reactor.registry.pollSet.length
      reports.length)).calls = site.calls :=
    (note_calls polled _ rfl).trans (asking_reaches tame asked).calls
  have sound : (polled.note (.polled site.reactor.registry.pollSet.length
      reports.length)).reactor.registry.Sound :=
    ((asking_reaches tame asked).later reachable.sound).sound reachable.sound
  generalize polled.note (.polled site.reactor.registry.pollSet.length reports.length) = noted
    at turns went moments silent sound
  obtain ⟨begins, all⟩ := readyMoments_reports host reports noted
  have turning := ready_turning host reports noted
  rw [← moments] at begins all
  rw [← turns] at turning
  have distinct := passMoments_distinct site polled reachable.sound revents reports asks asked states
  refine ⟨?_, begins, distinct, ?_, ?_, ?_⟩
  · have closed : Turning host noted (passTurns host site) (letGo (readyPass host reports noted)) :=
      .close turning (Site.same_hold _ [])
    rw [went, calls_of_turning tame silent closed, split, turnsCalls, List.flatMap_assoc]
    rfl
  · intro moment reached
    have there := inside moment reached
    obtain ⟨own, groups, -⟩ := moment_notices host moment
    refine ⟨moment.notices, moment.notices_groups there.sound, groups, ?_⟩
    intro turn member
    have start := moment_hold keeps moment there turn member
    exact ⟨own turn member, turn.exact tame start.sound start.ordered⟩
  · intro calm
    have returned := moments_returned site calm
    rw [went] at calm
    have fine : (readyPass host reports noted).1 = .returned := passEnd_panicked (letGo _) calm
    refine ⟨all fine, ?_⟩
    intro moment reached
    rw [(moment_notices host moment).2.2 (returned moment reached)]
    refine ⟨moment.notices_groups (inside moment reached).sound, ?_⟩
    intro turn member
    refine (Loop.visits_prefix turn.socket turn.notification turn.snapshot turn.start).2 ?_
    exact turning.returned fine turn (split ▸ List.mem_flatMap.mpr ⟨moment, reached, member⟩)
  · refine turns_distinct tame turning sound ?_ ?_
    · exact fun turn member => (passTurns_hold keeps site reachable turn member).ordered
    · rw [split]
      exact moments_targets _ distinct

end Loop

/-- The first of two readable observers removes the second one and registers it again. -/
def Host.swapping : Host Unit where
  call armed _ site :=
    if armed.observer = 0 then
      (.returned, site.onReactor fun reactor =>
        reactor.useAll [.remove ⟨3, 0⟩ .readable 1, .add ⟨3, 0⟩ .readable 1])
    else (.returned, site)
  poll _ site := (.ready [(⟨3, 0⟩, { hangUp := true })], site)
  rest site := site

theorem Host.swapping_tame : Host.swapping.Tame where
  keeps armed notification site := by
    simp only [Host.swapping]
    split
    · exact ⟨rfl, _, rfl⟩
    · exact .refl site
  poll _ site := .refl site
  rest site := .refl site

def Site.paired : Site Unit where
  reactor := ({} : Reactor).useAll [.add ⟨3, 0⟩ .readable 0, .add ⟨3, 0⟩ .readable 1]
  outside := ()

/-- The second observer is registered in the end, but it was not called. -/
theorem Loop.ready_pass_calls_swapping :
    (Loop.pass Host.swapping Site.paired).2.calls =
        [.called ⟨3, 0⟩ ⟨0, .readable, 0⟩ (.ofSocket .readable ⟨3, 0⟩)] ∧
      (Loop.pass Host.swapping Site.paired).2.reactor.registry.contains 3 .readable 1 = true ∧
      (Loop.passMoments Host.swapping Site.paired).map Moment.report =
        [(⟨3, 0⟩, { hangUp := true })] ∧
      ∀ moment ∈ Loop.passMoments Host.swapping Site.paired,
        moment.Groups ((moment.turns Host.swapping).map Turn.notification) := by
  have whole := (Loop.ready_pass_calls Host.swapping Host.swapping_tame Site.paired
    ⟨[.add ⟨3, 0⟩ .readable 0, .add ⟨3, 0⟩ .readable 1], rfl⟩ (fun _ => { hangUp := true })
    [(⟨3, 0⟩, { hangUp := true })] _ rfl (by decide) (by simp)).2.2.2.2.1 (by decide)
  exact ⟨by decide, by decide, whole.1, fun moment reached => (whole.2 moment reached).1⟩

end SocketLoop
