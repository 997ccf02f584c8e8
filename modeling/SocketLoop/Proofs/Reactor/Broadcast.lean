import SocketLoop.Proofs.Reactor.Silence
import SocketLoop.Proofs.Registry.Sockets

/-! Whom a broadcast calls. Its sockets are fixed when it starts, each of them is gone through once,
and whoever is registered then and still is when it is its turn is called once. The last broadcast of
a run is the only one that shutdown observers are called by. -/
namespace SocketLoop

variable {ω : Type}

def Event.callee? : Event → Option Armed
  | .called _ armed _ => some armed
  | _ => none

/-- The registrations whose observers were called, in the order of the calls. -/
def Site.called (site : Site ω) : List Armed := site.calls.filterMap Event.callee?

namespace Loop

def turnsCalled (host : Host ω) (turns : List (Turn ω)) : List Armed :=
  turns.flatMap fun turn => turn.called host

/-- The moment at which some turns get to a registration: where the turn for its socket visits it,
or where that turn starts, if the registration is not there any more. -/
def ComesTo (host : Host ω) (turns : List (Turn ω)) (row : Int × Registration)
    (moment : Site ω) : Prop :=
  ∃ turn ∈ turns, turn.socket.descriptor = row.1 ∧
    ((row.2, moment) ∈ turn.visits host ∨ row.2 ∉ turn.snapshot ∧ moment = turn.start)

/-- What a broadcast of a kind calls. -/
structure Covers (host : Host ω) (kind : Kind) (site : Site ω) : Prop where
  broadcasts : Broadcasts kind site.reactor.registry ((broadcast host kind site).1 = .returned)
    (broadcastTurns host kind site)
  called : (broadcast host kind site).2.called =
    site.called ++ turnsCalled host (broadcastTurns host kind site)
  kinds : ∀ armed ∈ turnsCalled host (broadcastTurns host kind site), armed.kind = kind
  once : ((turnsCalled host (broadcastTurns host kind site)).map Registration.number).Nodup
  /-- It has no more turns than there are sockets when it starts, and none of them has more calls
  than there are registrations when the turn starts. -/
  sockets : (broadcastTurns host kind site).length ≤ (site.reactor.registry.observing kind).length
  bounded : ∀ turn ∈ broadcastTurns host kind site,
    (turn.called host).length ≤ turn.snapshot.length ∧
    ∀ armed ∈ turn.called host, armed.number < turn.start.reactor.registry.next
  /-- If nothing panics it gets to whatever is registered when it starts, and calls it if it is
  there then. -/
  complete : (broadcast host kind site).1 = .returned →
    ∀ row ∈ site.reactor.registry.rows, row.2.kind = kind →
      (∃ moment, ComesTo host (broadcastTurns host kind site) row moment) ∧
      ∀ moment, ComesTo host (broadcastTurns host kind site) row moment →
        (turnsCalled host (broadcastTurns host kind site)).count row.2 =
          if row ∈ moment.reactor.registry.rows then 1 else 0

def shutdowns (made : List Armed) : List Armed :=
  made.filter fun armed => armed.kind == .shutdown

theorem count_shutdowns (made : List Armed) (armed : Armed) (own : armed.kind = .shutdown) :
    (shutdowns made).count armed = made.count armed :=
  List.count_filter (decide_eq_true own)

/-- What the calls of a run have to do with the shutdown, if the passes of the run end here. -/
structure Informs (host : Host ω) (last : Site ω) (made : List Armed) : Prop where
  broadcast : shutdowns made = turnsCalled host (broadcastTurns host .shutdown last)
  complete : ∀ row ∈ last.reactor.registry.rows, row.2.kind = .shutdown →
    (∃ moment, ComesTo host (broadcastTurns host .shutdown last) row moment) ∧
    ∀ moment, ComesTo host (broadcastTurns host .shutdown last) row moment →
      made.count row.2 = if row ∈ moment.reactor.registry.rows then 1 else 0

end Loop

/-- Where a turn visits a registration it calls it if it is there. -/
theorem Turn.called_of_visit {host : Host ω} (tame : host.Tame) (turn : Turn ω)
    (sound : turn.start.reactor.registry.Sound) (ordered : turn.start.reactor.registry.Ordered)
    (armed : Armed) (moment : Site ω) (visited : (armed, moment) ∈ turn.visits host) :
    armed ∈ turn.called host ↔
      (turn.socket.descriptor, armed) ∈ moment.reactor.registry.rows := by
  have exact := turn.exact tame sound ordered
  -- The numbers of a snapshot go up, so nobody is visited twice.
  have snapshot : turn.snapshot.Nodup :=
    exact.order.imp fun less same => absurd (same ▸ less) (Nat.lt_irrefl _)
  have distinct := snapshot.sublist exact.visits.sublist
  rw [exact.called]
  constructor
  · intro called
    obtain ⟨visit, found, rfl⟩ := List.mem_map.mp called
    obtain ⟨again, there⟩ := List.mem_filter.mp found
    have same := List.inj_on_of_nodup_map distinct again visited rfl
    rw [same] at there
    exact of_decide_eq_true there
  · intro there
    exact List.mem_map.mpr ⟨_, List.mem_filter.mpr ⟨visited, decide_eq_true there⟩, rfl⟩

namespace Loop

section

variable {host : Host ω}

theorem called_of_calls {before after : Site ω} {turns : List (Turn ω)}
    (calls : after.calls = before.calls ++ turnsCalls host turns) :
    after.called = before.called ++ turnsCalled host turns := by
  rw [Site.called, calls, List.filterMap_append, Site.called, turnsCalls, turnsCalled,
    List.filterMap_flatMap]
  refine congrArg _ (List.flatMap_congr fun turn _ => ?_)
  rw [Turn.calls, List.filterMap_map]
  exact List.filterMap_some

theorem turnsCalled_kind (kind : Kind) (turns : List (Turn ω))
    (kinds : ∀ turn ∈ turns, turn.notification.kind = kind) :
    ∀ armed ∈ turnsCalled host turns, armed.kind = kind := by
  intro armed member
  obtain ⟨turn, inside, called⟩ := List.mem_flatMap.mp member
  rw [turn.called_kind host armed called, kinds turn inside]

theorem turnsCalled_numbers (turns : List (Turn ω)) :
    (turnsCalled host turns).map Registration.number =
      turns.flatMap fun turn => (turn.called host).map Registration.number :=
  List.map_flatMap

variable (arranges : ∀ sockets, (host.arrange sockets).Perm sockets)

include arranges

theorem broadcastTurns_sockets (kind : Kind) (site : Site ω)
    (sound : site.reactor.registry.Sound) :
    ((broadcastTurns host kind site).map fun turn => turn.socket.descriptor).Nodup := by
  obtain ⟨-, sockets, same, begins, -⟩ := broadcast_shape arranges kind site
  have distinct : (sockets.map Handle.descriptor).Nodup :=
    (same.map _).nodup_iff.mpr (Registry.observing_distinct _ sound kind)
  have fewer := distinct.sublist (begins.map Handle.descriptor).sublist
  rwa [List.map_map] at fewer

theorem turn_of_row (kind : Kind) (site : Site ω) (sound : site.reactor.registry.Sound)
    (returned : (broadcast host kind site).1 = .returned) (row : Int × Registration)
    (there : row ∈ site.reactor.registry.rows) (own : row.2.kind = kind) :
    ∃ turn ∈ broadcastTurns host kind site, turn.socket.descriptor = row.1 := by
  obtain ⟨-, sockets, same, -, all⟩ := broadcast_shape arranges kind site
  have observed : site.reactor.registry.observes row.1 kind = true :=
    (Registry.observes_iff _ sound _ _).mpr ⟨row, there, rfl, own⟩
  obtain ⟨socket, member, equal⟩ :=
    List.mem_map.mp ((Registry.mem_observing _ sound kind row.1).mpr observed)
  have visited := same.mem_iff.mpr member
  rw [← all returned] at visited
  obtain ⟨turn, inside, rfl⟩ := List.mem_map.mp visited
  exact ⟨turn, inside, equal⟩

variable (tame : host.Tame) (kind : Kind) (site : Site ω)
  (reachable : site.reactor.registry.Reachable)

include tame reachable

omit arranges in
theorem broadcastTurns_reachable :
    ∀ turn ∈ broadcastTurns host kind site, turn.start.reactor.registry.Reachable :=
  sendTurns_hold (tame.preserves Registry.Reachable
    fun _ change before => before.change change).toMinds kind _ _ site reachable

theorem numbers_distinct :
    ((turnsCalled host (broadcastTurns host kind site)).map Registration.number).Nodup := by
  have sockets := broadcastTurns_sockets arranges kind site reachable.sound
  have targets : ((broadcastTurns host kind site).map Turn.target).Nodup :=
    .of_map Prod.fst (by rwa [List.map_map])
  rw [turnsCalled_numbers]
  exact turns_distinct tame (broadcast_turning host kind site) reachable.sound
    (fun turn inside => (broadcastTurns_reachable tame kind site reachable turn inside).ordered)
    targets

/-- A registration that is there when a broadcast starts is called in the turn for its socket. -/
theorem called_own_turn (row : Int × Registration) (there : row ∈ site.reactor.registry.rows)
    (turn : Turn ω) (inside : turn ∈ broadcastTurns host kind site)
    (own : turn.socket.descriptor = row.1) :
    row.2 ∈ turnsCalled host (broadcastTurns host kind site) ↔ row.2 ∈ turn.called host := by
  refine ⟨fun called => ?_, fun called => List.mem_flatMap.mpr ⟨turn, inside, called⟩⟩
  obtain ⟨other, found, called⟩ := List.mem_flatMap.mp called
  have sound := (broadcastTurns_reachable tame kind site reachable other found).sound
  have later :=
    ((broadcast_turning host kind site).later tame.keeps reachable.sound).2.1 other found
  have listed := ((Registry.mem_snapshot _ sound _ _ _).mp (other.called_sublist.subset called)).1
  -- A number stays with its socket, and each socket has one turn.
  have same := later.1.same_row reachable.sound there listed rfl
  obtain rfl := List.inj_on_of_nodup_map (broadcastTurns_sockets arranges kind site reachable.sound)
    found inside ((congrArg Prod.fst same).trans own.symm)
  exact called

/-- Where a broadcast comes to a registration it calls it if it is there. -/
theorem called_where_due (row : Int × Registration) (there : row ∈ site.reactor.registry.rows)
    (observes : row.2.kind = kind) (moment : Site ω)
    (due : ComesTo host (broadcastTurns host kind site) row moment) :
    row.2 ∈ turnsCalled host (broadcastTurns host kind site) ↔
      row ∈ moment.reactor.registry.rows := by
  obtain ⟨turn, inside, own, found⟩ := due
  have start := broadcastTurns_reachable tame kind site reachable turn inside
  rw [called_own_turn arranges tame kind site reachable row there turn inside own]
  rcases found with visited | ⟨absent, rfl⟩
  · rw [turn.called_of_visit tame start.sound start.ordered row.2 moment visited, own]
  · have uncalled : row.2 ∉ turn.called host := fun called =>
      absent (turn.called_sublist.subset called)
    refine iff_of_false uncalled fun listed => absent ?_
    rw [Turn.snapshot, Registry.mem_snapshot _ start.sound, own,
      broadcastTurns_kind kind site turn inside]
    exact ⟨listed, observes⟩

omit tame in
/-- A broadcast that nothing panics in comes to whatever is there when it starts. -/
theorem comes_to (returned : (broadcast host kind site).1 = .returned) (row : Int × Registration)
    (there : row ∈ site.reactor.registry.rows) (observes : row.2.kind = kind) :
    ∃ moment, ComesTo host (broadcastTurns host kind site) row moment := by
  obtain ⟨turn, inside, own⟩ :=
    turn_of_row arranges kind site reachable.sound returned row there observes
  have fine := (broadcast_turning host kind site).returned returned turn inside
  obtain ⟨-, reached⟩ :=
    visits_prefix turn.socket turn.notification turn.snapshot turn.start
  have all := reached fine
  by_cases listed : row.2 ∈ turn.snapshot
  · rw [← all] at listed
    obtain ⟨visit, visited, same⟩ := List.mem_map.mp listed
    exact ⟨visit.2, turn, inside, own, .inl (same ▸ visited)⟩
  · exact ⟨turn.start, turn, inside, own, .inr ⟨listed, rfl⟩⟩

theorem covers : Covers host kind site where
  broadcasts := broadcast_shape arranges kind site
  called := called_of_calls ((broadcast_turning host kind site).calls tame.keeps)
  kinds := turnsCalled_kind kind _ (broadcastTurns_kind kind site)
  once := numbers_distinct arranges tame kind site reachable
  sockets := by
    obtain ⟨-, sockets, same, begins, -⟩ := broadcast_shape arranges kind site
    rw [← same.length_eq, ← List.length_map Turn.socket]
    exact begins.length_le
  bounded := by
    intro turn inside
    have sound := (broadcastTurns_reachable tame kind site reachable turn inside).sound
    exact ⟨turn.called_sublist.length_le, turn.called_before sound⟩
  complete := by
    intro returned row there observes
    refine ⟨comes_to arranges kind site reachable returned row there observes, ?_⟩
    intro moment due
    have called := called_where_due arranges tame kind site reachable row there observes moment due
    have distinct := (numbers_distinct arranges tame kind site reachable).of_map
    split <;> rename_i still
    · exact List.count_eq_one_of_mem distinct (called.mpr still)
    · exact List.count_eq_zero_of_not_mem fun made => still (called.mp made)

end

section

variable {host : Host ω}

theorem passTurns_kind (site : Site ω) :
    ∀ turn ∈ passTurns host site, turn.notification.kind ≠ .shutdown := by
  have exit := pass_exit host site
  generalize passTurns host site = turns, pass host site = result at exit
  intro turn member
  cases exit with
  | muffled | interrupted | failed | quiet => cases member
  | idle =>
    rw [broadcastTurns_kind .idle _ turn member]
    decide
  | timeout =>
    rw [broadcastTurns_kind .timeout _ turn member]
    decide
  | ready =>
    rw [readyTurns_eq] at member
    obtain ⟨moment, -, inside⟩ := List.mem_flatMap.mp member
    intro same
    exact absurd (same ▸ moment_kinds moment turn inside) (by decide)

theorem close_calls (tame : host.Tame) (ends : RunEnd) (last : Site ω) :
    (close host ends last).2.calls =
        last.calls ++ turnsCalls host (broadcastTurns host .shutdown last) ∧
      ((close host ends last).1 = .panicked ∨
        (close host ends last).1 = ends ∧ (broadcast host .shutdown last).1 = .returned) := by
  have made := (broadcast_turning host .shutdown last).calls tame.keeps
  rw [close]
  cases ended : broadcast host .shutdown last with
  | mk ending after =>
    rw [ended] at made
    cases ending with
    | returned => exact ⟨made, .inr ⟨rfl, rfl⟩⟩
    | panicked => exact ⟨made, .inl rfl⟩

theorem shutdowns_passes (starts : List (Site ω)) :
    shutdowns (turnsCalled host (starts.flatMap (passTurns host))) = [] := by
  refine List.filter_eq_nil_iff.mpr ?_
  intro armed made same
  obtain ⟨turn, member, called⟩ := List.mem_flatMap.mp made
  obtain ⟨start, -, inside⟩ := List.mem_flatMap.mp member
  refine passTurns_kind start turn inside ?_
  rw [← turn.called_kind host armed called]
  exact of_decide_eq_true same

/-- Among the calls of a run's passes and of a broadcast of the shutdown, those of the broadcast are
the ones for the shutdown. -/
theorem shutdowns_run (starts : List (Site ω)) (last : Site ω) :
    shutdowns (turnsCalled host (starts.flatMap (passTurns host)) ++
      turnsCalled host (broadcastTurns host .shutdown last)) =
    turnsCalled host (broadcastTurns host .shutdown last) := by
  rw [shutdowns, List.filter_append, ← shutdowns, shutdowns_passes, List.nil_append,
    List.filter_eq_self]
  intro armed made
  exact decide_eq_true
    (turnsCalled_kind .shutdown _ (broadcastTurns_kind .shutdown last) armed made)

omit host in
/-- A run ends where its passes do, or with the shutdown after them. -/
theorem run_ends (host : Host ω) (fuel : Nat) (site : Site ω)
    (idle : site.reactor.active = false) :
    ∃ starts ends last, Passing host site.entered starts (ends, last) ∧
      (run host fuel site = (ends, last) ∧ (ends = .panicked ∨ ends = .unfinished) ∨
        run host fuel site = close host ends last) := by
  obtain ⟨starts, passing, -⟩ := passes_passing host fuel site.entered
  have ran := run_of_idle host fuel site idle
  generalize passes host fuel site.entered = result at passing ran
  obtain ⟨ends, last⟩ := result
  refine ⟨starts, ends, last, passing, ?_⟩
  cases ends with
  | panicked => exact .inl ⟨ran, .inl rfl⟩
  | unfinished => exact .inl ⟨ran, .inr rfl⟩
  | done | failed | refused => exact .inr ran

variable (tame : host.Tame) (arranges : ∀ sockets, (host.arrange sockets).Perm sockets)

include tame

theorem last_reachable {site last : Site ω} {starts : List (Site ω)} {ends : RunEnd}
    (reachable : site.reactor.registry.Reachable)
    (passing : Passing host site.entered starts (ends, last)) :
    last.reactor.registry.Reachable :=
  (passing.hold (tame.preserves Registry.Reachable
    fun _ change before => before.change change).toGuards reachable).2

include arranges

theorem passing_called {site last : Site ω} {starts : List (Site ω)} {ends : RunEnd}
    (passing : Passing host site.entered starts (ends, last)) :
    last.called = site.called ++ turnsCalled host (starts.flatMap (passTurns host)) := by
  refine called_of_calls ?_
  rw [passing.calls fun start => (pass_shape tame arranges start).calls, turnsCalls,
    List.flatMap_assoc]
  rfl

theorem close_called {site last : Site ω} {starts : List (Site ω)} {ends : RunEnd}
    (passing : Passing host site.entered starts (ends, last)) :
    (close host ends last).2.called =
      site.called ++ (turnsCalled host (starts.flatMap (passTurns host)) ++
        turnsCalled host (broadcastTurns host .shutdown last)) := by
  rw [called_of_calls (close_calls tame ends last).1, passing_called tame arranges passing,
    List.append_assoc]

variable (fuel : Nat) (site : Site ω) (idle : site.reactor.active = false)
  (reachable : site.reactor.registry.Reachable)

include idle reachable

/-- No run calls a registration for the shutdown twice. -/
theorem run_informs_once : ∃ made, (run host fuel site).2.called = site.called ++ made ∧
    ((shutdowns made).map Registration.number).Nodup := by
  obtain ⟨starts, ends, last, passing, ⟨stays, -⟩ | closes⟩ := run_ends host fuel site idle
  · rw [stays]
    refine ⟨_, passing_called tame arranges passing, ?_⟩
    rw [shutdowns_passes]
    exact .nil
  · rw [closes]
    refine ⟨_, close_called tame arranges passing, ?_⟩
    rw [shutdowns_run]
    exact numbers_distinct arranges tame .shutdown last (last_reachable tame reachable passing)

theorem run_informs (finished : (run host fuel site).1 = .done ∨
    ∃ errno, (run host fuel site).1 = .failed errno) :
    ∃ starts last made, Passing host site.entered starts ((run host fuel site).1, last) ∧
      (run host fuel site).2.called = site.called ++ made ∧ Informs host last made := by
  obtain ⟨starts, ends, last, passing, ⟨stays, early⟩ | closes⟩ := run_ends host fuel site idle
  · rw [stays] at finished
    rcases early with rfl | rfl <;> simp at finished
  · rw [closes] at finished ⊢
    have covered := covers arranges tame .shutdown last (last_reachable tame reachable passing)
    rcases (close_calls tame ends last).2 with panicked | ⟨same, returned⟩
    · rw [panicked] at finished
      simp at finished
    rw [same]
    refine ⟨starts, last, _, passing, close_called tame arranges passing,
      shutdowns_run starts last, ?_⟩
    intro row there observes
    obtain ⟨comes, due⟩ := covered.complete returned row there observes
    refine ⟨comes, fun moment here => ?_⟩
    rw [← count_shutdowns _ row.2 observes, shutdowns_run]
    exact due moment here

end

/-- A broadcast goes through the sockets that are observed for its kind when it starts, through each
of them once. It calls nothing that is for another kind and nothing twice, however much is
registered meanwhile; and whatever is there when it starts it comes to and calls exactly if it is
there then. So no run calls a registration for the shutdown twice, and one whose passes are over, for
a stop or for a poll that failed, calls each that is there by then once, unless it is removed before
it is its turn. -/
theorem broadcasts_cover (host : Host ω) (tame : host.Tame)
    (arranges : ∀ sockets, (host.arrange sockets).Perm sockets) (site : Site ω)
    (reachable : site.reactor.registry.Reachable) :
    (∀ kind, Covers host kind site) ∧
    (∀ fuel, site.reactor.active = false →
      (∃ made, (run host fuel site).2.called = site.called ++ made ∧
        ((shutdowns made).map Registration.number).Nodup) ∧
      ((run host fuel site).1 = .done ∨ (∃ errno, (run host fuel site).1 = .failed errno) →
        ∃ starts last made, Passing host site.entered starts ((run host fuel site).1, last) ∧
          (run host fuel site).2.called = site.called ++ made ∧ Informs host last made)) :=
  ⟨fun kind => covers arranges tame kind site reachable, fun fuel idle =>
    ⟨run_informs_once tame arranges fuel site idle reachable,
      run_informs tame arranges fuel site idle reachable⟩⟩

end Loop

/-- Every observer recruits two more, and drives one away. -/
def Host.recruiting : Host Unit where
  call armed _ site := (.returned, site.onReactor fun reactor => reactor.useAll
    [.remove ⟨4, 0⟩ .shutdown 1, .add ⟨3, 0⟩ .shutdown (armed.observer + 10),
      .add ⟨4, 0⟩ .shutdown (armed.observer + 10)])
  poll _ site := (.failed Errno.badDescriptor, site)
  rest site := site
  arrange := List.reverse

theorem Host.recruiting_tame : Host.recruiting.Tame where
  keeps _ _ _ := ⟨rfl, _, rfl⟩
  poll _ site := .refl site
  rest site := .refl site

def Site.crowded : Site Unit where
  reactor := ({} : Reactor).useAll [.add ⟨4, 0⟩ .shutdown 1, .add ⟨4, 0⟩ .shutdown 2,
    .add ⟨3, 0⟩ .shutdown 0, .add ⟨3, 0⟩ .timeout 7]
  outside := ()

/-- The recruit on the first socket comes too late for this run. -/
theorem Loop.broadcasts_cover_recruits :
    (Loop.run Host.recruiting 3 Site.crowded).1 = .failed Errno.badDescriptor ∧
      (Loop.run Host.recruiting 3 Site.crowded).2.called =
        [⟨2, .shutdown, 0⟩, ⟨1, .shutdown, 2⟩, ⟨5, .shutdown, 10⟩] ∧
      Loop.Covers Host.recruiting .shutdown Site.crowded ∧
      ∃ starts last made, Passing Host.recruiting Site.crowded.entered starts
          (.failed Errno.badDescriptor, last) ∧
        (Loop.run Host.recruiting 3 Site.crowded).2.called = [] ++ made ∧
        Loop.Informs Host.recruiting last made := by
  obtain ⟨covered, runs⟩ := Loop.broadcasts_cover Host.recruiting Host.recruiting_tame
    List.reverse_perm Site.crowded ⟨[.add ⟨4, 0⟩ .shutdown 1, .add ⟨4, 0⟩ .shutdown 2,
      .add ⟨3, 0⟩ .shutdown 0, .add ⟨3, 0⟩ .timeout 7], rfl⟩
  have failed : (Loop.run Host.recruiting 3 Site.crowded).1 = .failed Errno.badDescriptor := by
    decide
  have informed := (runs 3 rfl).2 (.inr ⟨_, failed⟩)
  rw [failed] at informed
  exact ⟨failed, by decide, covered .shutdown, informed⟩

end SocketLoop
