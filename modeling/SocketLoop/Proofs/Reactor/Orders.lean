import SocketLoop.Proofs.Reactor.Locality

/-! The order in which a pass visits its sockets. Each socket is visited once, and a visit leaves all
others as they were, so any order comes to the same for each of them. -/
namespace SocketLoop

variable {ω μ ι : Type}

/-- Sites after visits, one after another. -/
inductive Tour (visit : ι → Site ω → Site ω → Prop) : List ι → Site ω → Site ω → Prop where
  | rest (site : Site ω) : Tour visit [] site site
  | visit {item : ι} {rest : List ι} {before between after : Site ω}
      (visited : visit item before between) (tour : Tour visit rest between after) :
      Tour visit (item :: rest) before after

/-- Visits of sockets that keep to their sockets and can be made anywhere. -/
structure Visits (home : Nat → Int) (memory : ω → Nat → μ) (place : ι → Int)
    (visit : ι → Site ω → Site ω → Prop) : Prop where
  made : ∀ item site, site.Settled home → ∃ after, visit item site after
  confined : ∀ item before after, before.Settled home → visit item before after →
    Site.Confined home memory (place item) before after
  joined : ∀ item one other first second, one.Settled home → other.Settled home →
    Site.Alike home memory (place item) one other → visit item one first →
    visit item other second → Site.Joined home memory (place item) one other first second

/-- Whether a visit asks for a stop does not depend on where it is made. -/
theorem Visits.stop_iff {home : Nat → Int} {memory : ω → Nat → μ} {place : ι → Int}
    {visit : ι → Site ω → Site ω → Prop} (visits : Visits home memory place visit) {item : ι}
    {one other second : Site ω} (settled : one.Settled home) (settled' : other.Settled home)
    (alike : Site.Alike home memory (place item) one other)
    (grows : one.reactor.stopRequested = true → other.reactor.stopRequested = true)
    (visited : visit item other second) :
    second.reactor.stopRequested = true ↔ other.reactor.stopRequested = true ∨
      ∃ first, visit item one first ∧ first.reactor.stopRequested = true := by
  have asks : ∀ first, visit item one first → ∃ asked,
      first.reactor.stopRequested = (one.reactor.stopRequested || asked) ∧
      second.reactor.stopRequested = (other.reactor.stopRequested || asked) := fun first came =>
    (visits.joined _ _ _ _ _ settled settled' alike came visited).stop
  constructor
  · intro stops
    obtain ⟨first, came⟩ := visits.made item one settled
    obtain ⟨asked, asks, asks'⟩ := asks first came
    rw [asks', Bool.or_eq_true] at stops
    exact stops.imp_right fun asked => ⟨first, came, by rw [asks, asked, Bool.or_true]⟩
  · intro either
    obtain earlier | ⟨first, came, stops⟩ := either
    · obtain ⟨first, came⟩ := visits.made item one settled
      obtain ⟨asked, -, asks⟩ := asks first came
      rw [asks, earlier, Bool.true_or]
    · obtain ⟨asked, asks, asks'⟩ := asks first came
      rw [asks, Bool.or_eq_true] at stops
      rw [asks', Bool.or_eq_true]
      exact stops.imp_left grows

/-- Two sites are the same for every socket, and so is the request to stop. -/
structure Site.Agree (memory : ω → Nat → μ) (one other : Site ω) : Prop where
  view : ∀ descriptor,
    one.reactor.registry.view descriptor = other.reactor.registry.view descriptor
  calls : ∀ descriptor, one.callsOn descriptor = other.callsOn descriptor
  stop : one.reactor.stopRequested = other.reactor.stopRequested
  memory : ∀ observer, memory one.outside observer = memory other.outside observer

theorem Site.Agree.refl (memory : ω → Nat → μ) (site : Site ω) : Site.Agree memory site site :=
  ⟨fun _ => rfl, fun _ => rfl, rfl, fun _ => rfl⟩

theorem Site.Agree.still {memory : ω → Nat → μ} {one other first second : Site ω}
    (agree : Site.Agree memory one other) (still : one.Still first) (still' : other.Still second) :
    Site.Agree memory first second where
  view descriptor := by rw [still.registry, still'.registry, agree.view]
  calls descriptor := by rw [still.calls, still'.calls, agree.calls]
  stop := by rw [still.stop, still'.stop, agree.stop]
  memory observer := by rw [still.outside, still'.outside, agree.memory]

namespace Tour

variable {home : Nat → Int} {memory : ω → Nat → μ} {place : ι → Int}
  {visit : ι → Site ω → Site ω → Prop} (visits : Visits home memory place visit)

include visits

theorem settled {items : List ι} {before after : Site ω} (tour : Tour visit items before after)
    (settled : before.Settled home) : after.Settled home := by
  induction tour with
  | rest => exact settled
  | visit visited _ ih => exact ih (visits.confined _ _ _ settled visited).settled

/-- Sockets that are not visited are left as they are. -/
theorem spared {items : List ι} {before after : Site ω} (tour : Tour visit items before after)
    (settled : before.Settled home) (descriptor : Int)
    (unvisited : ∀ item ∈ items, place item ≠ descriptor) :
    Site.Spared home memory descriptor before after := by
  induction tour with
  | rest => exact .refl _ _
  | visit visited _ ih =>
    rw [List.forall_mem_cons] at unvisited
    have confined := visits.confined _ _ _ settled visited
    exact (confined.others descriptor (Ne.symm unvisited.1)).trans
      (ih confined.settled unvisited.2)

/-- What a socket gets from a tour is what it gets from its own visit. -/
theorem own {items : List ι} {before after alone : Site ω} (tour : Tour visit items before after)
    (settled : before.Settled home) (distinct : (items.map place).Nodup) (item : ι)
    (member : item ∈ items) (visited : visit item before alone) :
    Site.Alike home memory (place item) after alone ∧
      after.callsOn (place item) = alone.callsOn (place item) := by
  induction tour generalizing alone with
  | rest => cases member
  | @visit first rest before between after gone tour ih =>
    rw [List.map_cons, List.nodup_cons] at distinct
    have confined := visits.confined _ _ _ settled gone
    have apart : ∀ other ∈ rest, place other ≠ place first := fun other there same =>
      distinct.1 (same ▸ List.mem_map_of_mem there)
    obtain rfl | later := List.mem_cons.mp member
    · have joined := visits.joined _ _ _ _ _ settled settled (.refl _ _) gone visited
      have spared := tour.spared visits confined.settled _ apart
      obtain ⟨calls, called, called'⟩ := joined.calls
      exact ⟨spared.alike.trans joined.alike, spared.calls.trans (called.trans called'.symm)⟩
    · have spared := confined.others _ (apart item later)
      obtain ⟨there, came⟩ := visits.made item between confined.settled
      obtain ⟨alike, same⟩ := ih confined.settled distinct.2 later came
      have joined := visits.joined _ _ _ _ _ confined.settled settled spared.alike came visited
      obtain ⟨calls, called, called'⟩ := joined.calls
      refine ⟨alike.trans joined.alike, ?_⟩
      rw [same, called, called', spared.calls]

/-- A tour asks for a stop if one of its visits would do so by itself. -/
theorem stop_iff {items : List ι} {before after : Site ω} (tour : Tour visit items before after)
    (settled : before.Settled home) (distinct : (items.map place).Nodup) :
    after.reactor.stopRequested = true ↔ before.reactor.stopRequested = true ∨
      ∃ item ∈ items, ∃ alone, visit item before alone ∧
        alone.reactor.stopRequested = true := by
  induction tour with
  | rest => simp
  | @visit first rest before between after gone tour ih =>
    rw [List.map_cons, List.nodup_cons] at distinct
    have confined := visits.confined _ _ _ settled gone
    have own := visits.stop_iff settled settled (.refl _ _) id gone
    have grows : before.reactor.stopRequested = true → between.reactor.stopRequested = true :=
      fun stops => own.mpr (.inl stops)
    have others : ∀ item ∈ rest, ∀ there, visit item between there →
        (there.reactor.stopRequested = true ↔ between.reactor.stopRequested = true ∨
          ∃ alone, visit item before alone ∧ alone.reactor.stopRequested = true) := by
      intro item later there came
      have apart : place item ≠ place first := fun same =>
        distinct.1 (same ▸ List.mem_map_of_mem later)
      exact visits.stop_iff settled confined.settled (confined.others _ apart).alike.symm grows came
    rw [ih confined.settled distinct.2, List.exists_mem_cons_iff]
    constructor
    · intro either
      obtain stops | ⟨item, later, there, came, stops⟩ := either
      · exact (own.mp stops).imp_right .inl
      · obtain earlier | alone := (others item later there came).mp stops
        · exact (own.mp earlier).imp_right .inl
        · exact .inr (.inr ⟨item, later, alone⟩)
    · intro either
      obtain stops | alone | ⟨item, later, alone⟩ := either
      · exact .inl (grows stops)
      · exact .inl (own.mpr (.inr alone))
      · obtain ⟨there, came⟩ := visits.made item between confined.settled
        exact .inr ⟨item, later, there, came, (others item later there came).mpr (.inr alone)⟩

/-- Two tours of the same sockets agree, whatever their orders. -/
theorem agree {items others : List ι} {start first second : Site ω}
    (tour : Tour visit items start first) (tour' : Tour visit others start second)
    (settled : start.Settled home) (same : items.Perm others)
    (distinct : (items.map place).Nodup) : Site.Agree memory first second := by
  have distinct' := (same.map place).nodup_iff.mp distinct
  have alike : ∀ descriptor, Site.Alike home memory descriptor first second ∧
      first.callsOn descriptor = second.callsOn descriptor := by
    intro descriptor
    by_cases visited : ∃ item ∈ items, place item = descriptor
    · obtain ⟨item, member, rfl⟩ := visited
      obtain ⟨alone, came⟩ := visits.made item start settled
      obtain ⟨one, calls⟩ := tour.own visits settled distinct item member came
      obtain ⟨other, calls'⟩ := tour'.own visits settled distinct' item (same.mem_iff.mp member) came
      exact ⟨one.trans other.symm, calls.trans calls'.symm⟩
    · have unvisited : ∀ item ∈ items, place item ≠ descriptor :=
        fun item member own => visited ⟨item, member, own⟩
      have one := tour.spared visits settled descriptor unvisited
      have other := tour'.spared visits settled descriptor
        fun item member => unvisited item (same.mem_iff.mpr member)
      exact ⟨one.alike.trans other.alike.symm, one.calls.trans other.calls.symm⟩
  constructor
  case view => exact fun descriptor => (alike descriptor).1.view
  case calls => exact fun descriptor => (alike descriptor).2
  case stop =>
    rw [Bool.eq_iff_iff, tour.stop_iff visits settled distinct,
      tour'.stop_iff visits settled distinct']
    simp only [same.mem_iff]
  case memory => exact fun observer => (alike (home observer)).1.memory observer rfl

end Tour

namespace Loop

open Site

variable {host : Host ω} {home : Nat → Int} {memory : ω → Nat → μ}
  (stays : host.Local home memory)

include stays

theorem report_visits : Visits home memory (fun report : Handle × Readiness => report.1.descriptor)
    fun report before after => (dispatchReady host report.1 report.2 before).2 = after where
  made report site _ := ⟨_, rfl⟩
  confined := by
    rintro report before _ settled rfl
    exact (dispatchReady_confined stays report.1 report.2 before settled).2
  joined := by
    rintro report one other _ _ settled settled' alike rfl rfl
    exact dispatchReady_joined stays report.1 report.2 one other settled settled' alike

/-- A socket of a broadcast is visited with some handles held. -/
theorem send_visits (kind : Kind) : Visits home memory Handle.descriptor
    fun socket (before : Site ω) after => ∃ held, (dispatch host socket (.ofSocket kind socket)
      (before.onReactor fun reactor => { reactor with held })).2 = after where
  made socket site _ := ⟨_, [], rfl⟩
  confined := by
    rintro socket before _ settled ⟨held, rfl⟩
    have holds : before.Still (before.onReactor fun reactor => { reactor with held }) :=
      ⟨rfl, rfl, rfl, rfl⟩
    have told := (dispatch_confined stays socket (.ofSocket kind socket) rfl _
      (holds.settled settled)).2
    exact (holds.confined settled).trans told
  joined := by
    rintro socket one other _ _ settled settled' alike ⟨held, rfl⟩ ⟨held', rfl⟩
    have holds : one.Still (one.onReactor fun reactor => { reactor with held }) :=
      ⟨rfl, rfl, rfl, rfl⟩
    have holds' : other.Still (other.onReactor fun reactor => { reactor with held := held' }) :=
      ⟨rfl, rfl, rfl, rfl⟩
    have joined := holds.joined holds' alike
    exact joined.trans (dispatch_joined stays socket (.ofSocket kind socket) rfl _ _
      (holds.settled settled) (holds'.settled settled') joined.alike)

theorem readyPass_tour (reports : List (Handle × Readiness)) (site : Site ω)
    (settled : site.Settled home) : (readyPass host reports site).1 = .returned ∧
      Tour (fun report before after => (dispatchReady host report.1 report.2 before).2 = after)
        reports site (readyPass host reports site).2 := by
  induction reports generalizing site with
  | nil => exact ⟨rfl, .rest site⟩
  | cons report rest ih =>
    obtain ⟨returned, told⟩ := dispatchReady_confined stays report.1 report.2 site settled
    obtain ⟨ends, tour⟩ := ih _ told.settled
    rw [readyPass, andThen_of_returned _ returned]
    exact ⟨ends, .visit rfl tour⟩

theorem sendEach_tour (kind : Kind) (kept sockets : List Handle) (site : Site ω)
    (settled : site.Settled home) : (sendEach host kind kept sockets site).1 = .returned ∧
      Tour (fun socket (before : Site ω) after => ∃ held,
        (dispatch host socket (.ofSocket kind socket)
          (before.onReactor fun reactor => { reactor with held })).2 = after)
        sockets site (sendEach host kind kept sockets site).2 := by
  induction sockets generalizing site with
  | nil => exact ⟨rfl, .rest site⟩
  | cons socket rest ih =>
    have holds : site.Still (site.onReactor fun reactor =>
      { reactor with held := socket :: rest ++ kept }) := ⟨rfl, rfl, rfl, rfl⟩
    obtain ⟨returned, told⟩ := dispatch_confined stays socket (.ofSocket kind socket) rfl _
      (holds.settled settled)
    obtain ⟨ends, tour⟩ := ih _ told.settled
    rw [sendEach, andThen_of_returned _ returned]
    exact ⟨ends, .visit ⟨_, rfl⟩ tour⟩

end Loop

/-- A poll that ends in the same way, with its reports in whatever order. -/
inductive Polled.Shuffles : Polled → Polled → Prop where
  | interrupted : Shuffles .interrupted .interrupted
  | failed (errno : Errno) : Shuffles (.failed errno) (.failed errno)
  | ready {reports others : List (Handle × Readiness)} (same : reports.Perm others) :
      Shuffles (.ready reports) (.ready others)

/-- A host that does the same but for the orders in which its sockets are visited. -/
structure Host.Reorders (host other : Host ω) : Prop where
  call : other.call = host.call
  rest : other.rest = host.rest
  poll : ∀ asked site, (host.poll asked site).1.Shuffles (other.poll asked site).1 ∧
    (other.poll asked site).2 = (host.poll asked site).2
  arrange : ∀ sockets, (host.arrange sockets).Perm (other.arrange sockets) ∧
    (host.arrange sockets).Perm sockets

namespace Loop

open Site

section

variable {host other : Host ω} (same : other.call = host.call)

include same

theorem dispatch_congr : @dispatch ω other = dispatch host := by
  have delivers : ∀ socket notification list (site : Site ω),
      deliver other socket notification list site = deliver host socket notification list site := by
    intro socket notification list
    induction list with
    | nil => exact fun _ => rfl
    | cons armed rest ih =>
      intro site
      simp only [deliver, callOne, same, ih]
  funext socket notification site
  exact delivers socket notification _ site

theorem readyPass_congr (reports : List (Handle × Readiness)) (site : Site ω) :
    readyPass other reports site = readyPass host reports site := by
  have all : ∀ socket notifications (site : Site ω), dispatchAll other socket notifications site =
      dispatchAll host socket notifications site := by
    intro socket notifications
    induction notifications with
    | nil => exact fun _ => rfl
    | cons notification rest ih =>
      intro site
      simp only [dispatchAll, dispatch_congr same, funext ih]
  induction reports generalizing site with
  | nil => rfl
  | cons report rest ih => simp only [readyPass, dispatchReady, all, funext ih]

theorem sendEach_congr (kind : Kind) (kept sockets : List Handle) (site : Site ω) :
    sendEach other kind kept sockets site = sendEach host kind kept sockets site := by
  induction sockets generalizing site with
  | nil => rfl
  | cons socket rest ih => simp only [sendEach, dispatch_congr same, funext ih]

end

section

variable {host other : Host ω} {home : Nat → Int} {memory : ω → Nat → μ}
  (stays : host.Local home memory) (reorders : host.Reorders other) (site : Site ω)
  (settled : site.Settled home)

include stays reorders settled

theorem readyPass_agree (reports others : List (Handle × Readiness)) (same : reports.Perm others)
    (distinct : (reports.map fun report => report.1.descriptor).Nodup) :
    (readyPass host reports site).1 = .returned ∧ (readyPass other others site).1 = .returned ∧
      Agree memory (readyPass host reports site).2 (readyPass other others site).2 := by
  obtain ⟨returned, tour⟩ := readyPass_tour stays reports site settled
  obtain ⟨returned', tour'⟩ := readyPass_tour stays others site settled
  rw [readyPass_congr reorders.call]
  exact ⟨returned, returned', tour.agree (report_visits stays) tour' settled same distinct⟩

theorem broadcast_agree (kind : Kind) :
    (broadcast host kind site).1 = .returned ∧ (broadcast other kind site).1 = .returned ∧
      Agree memory (broadcast host kind site).2 (broadcast other kind site).2 := by
  obtain ⟨same, whole⟩ := reorders.arrange (site.reactor.registry.observing kind)
  have distinct := ((whole.map Handle.descriptor).nodup_iff).mpr
    (site.reactor.registry.observing_distinct settled.sound kind)
  obtain ⟨returned, tour⟩ := sendEach_tour stays kind site.reactor.held
    (host.arrange (site.reactor.registry.observing kind)) site settled
  obtain ⟨returned', tour'⟩ := sendEach_tour stays kind site.reactor.held
    (other.arrange (site.reactor.registry.observing kind)) site settled
  have agree := tour.agree (send_visits stays kind) tour' settled same distinct
  rw [broadcast, broadcast, sendEach_congr reorders.call]
  exact ⟨returned, returned', agree.still ⟨rfl, rfl, rfl, rfl⟩ ⟨rfl, rfl, rfl, rfl⟩⟩

omit stays reorders settled site in
theorem passEnd_of_returned {result : Ending × Site ω} (returned : result.1 = .returned) :
    passEnd result = (.onward, result.2) := by
  obtain ⟨ending, site⟩ := result
  cases ending with
  | returned => rfl
  | panicked => cases returned

omit stays reorders settled site in
theorem letGo_returned {result : Ending × Site ω} (returned : result.1 = .returned) :
    (letGo result).1 = .returned := returned

theorem sent_agree (kind : Kind) :
    (passEnd (broadcast other kind site)).1 = (passEnd (broadcast host kind site)).1 ∧
      Agree memory (passEnd (broadcast host kind site)).2
        (passEnd (broadcast other kind site)).2 := by
  obtain ⟨returned, returned', agree⟩ := broadcast_agree stays reorders site settled kind
  rw [passEnd_of_returned returned, passEnd_of_returned returned']
  exact ⟨rfl, agree⟩

theorem idlePass_agree (rests : ∀ site, site.Settled home → (host.rest site).Settled home) :
    (idlePass other site).1 = (idlePass host site).1 ∧
      Agree memory (idlePass host site).2 (idlePass other site).2 := by
  have slept : (if site.reactor.stopRequested then site else host.rest site).Settled home := by
    split
    · exact settled
    · exact rests site settled
  simp only [idlePass, reorders.rest]
  generalize (if site.reactor.stopRequested then site else host.rest site) = rested at slept ⊢
  split
  · have noted : (rested.note .idled).Settled home := ⟨slept.sound, slept.homed⟩
    exact sent_agree stays reorders _ noted .idle
  · exact ⟨rfl, .refl memory _⟩

/-- What was polled is reported in another order. -/
theorem reported_agree (asked : Nat) (reports others : List (Handle × Readiness))
    (same : reports.Perm others)
    (distinct : (reports.map fun report => report.1.descriptor).Nodup) :
    let told := site.note (.polled asked reports.length)
    let told' := site.note (.polled asked others.length)
    (passEnd (letGo (readyPass other others told'))).1 =
        (passEnd (letGo (readyPass host reports told))).1 ∧
      Agree memory (passEnd (letGo (readyPass host reports told))).2
        (passEnd (letGo (readyPass other others told'))).2 := by
  intro told told'
  have noted : told.Settled home := ⟨settled.sound, settled.homed⟩
  obtain ⟨returned, returned', agree⟩ :=
    readyPass_agree stays reorders told noted reports others same distinct
  have again : told' = told := congrArg (fun count => site.note (.polled asked count))
    same.length_eq.symm
  rw [again, passEnd_of_returned (letGo_returned returned),
    passEnd_of_returned (letGo_returned returned')]
  exact ⟨rfl, agree.still ⟨rfl, rfl, rfl, rfl⟩ ⟨rfl, rfl, rfl, rfl⟩⟩

theorem pollPass_agree (asked : List Interest)
    (polls : ∀ asked site, site.Settled home → (host.poll asked site).2.Settled home)
    (distinct : ∀ asked site reports after, host.poll asked site = (.ready reports, after) →
      (reports.map fun report => report.1.descriptor).Nodup) :
    (pollPass other asked site).1 = (pollPass host asked site).1 ∧
      Agree memory (pollPass host asked site).2 (pollPass other asked site).2 := by
  rw [pollPass, pollPass]
  dsimp only
  have held : (site.onReactor fun reactor => { reactor with
      held := asked.map Interest.socket }).Settled home := ⟨settled.sound, settled.homed⟩
  revert held
  generalize (site.onReactor fun reactor => { reactor with
    held := asked.map Interest.socket }) = holding
  intro held
  have polled := polls asked holding held
  have shuffles := reorders.poll asked holding
  cases found : host.poll asked holding with
  | mk how after =>
    cases found' : other.poll asked holding with
    | mk how' after' =>
      rw [found] at polled
      rw [found, found'] at shuffles
      obtain ⟨shuffles, rfl⟩ := shuffles
      cases shuffles with
      | interrupted => exact ⟨rfl, .refl memory _⟩
      | failed errno => exact ⟨rfl, .refl memory _⟩
      | @ready reports others same =>
        have told := reported_agree stays reorders _ polled asked.length _ _ same
          (distinct _ _ _ _ found)
        cases reports with
        | nil =>
          obtain rfl := same.nil_eq
          dsimp only
          split
          · have noted : (after'.note (.polled asked.length 0)).Settled home :=
              ⟨polled.sound, polled.homed⟩
            exact sent_agree stays reorders _ noted .timeout
          · exact ⟨rfl, .refl memory _⟩
        | cons report more =>
          cases others with
          | nil => cases same.eq_nil
          | cons report' more' => exact told

theorem pass_agree (rests : ∀ site, site.Settled home → (host.rest site).Settled home)
    (polls : ∀ asked site, site.Settled home → (host.poll asked site).2.Settled home)
    (distinct : ∀ asked site reports after, host.poll asked site = (.ready reports, after) →
      (reports.map fun report => report.1.descriptor).Nodup) :
    (pass other site).1 = (pass host site).1 ∧
      Agree memory (pass host site).2 (pass other site).2 := by
  rw [pass, pass]
  cases site.reactor.registry.pollSet with
  | nil => exact idlePass_agree stays reorders site settled rests
  | cons first rest => exact pollPass_agree stays reorders site settled _ polls distinct

end

/-- Sockets do not interfere. If observers keep to the sockets where they are at home, and nobody is
registered anywhere else, then two orders of a pass come to the same: for each socket the same calls
are made one after another and the same registrations are left, and a stop is asked for or not. So it
is with sockets that a poll reported and with those of a broadcast of any kind. -/
theorem orders_agree (host other : Host ω) (home : Nat → Int) (memory : ω → Nat → μ)
    (stays : host.Local home memory) (reorders : host.Reorders other)
    (rests : ∀ site, site.Settled home → (host.rest site).Settled home)
    (polls : ∀ asked site, site.Settled home → (host.poll asked site).2.Settled home)
    (distinct : ∀ asked site reports after, host.poll asked site = (.ready reports, after) →
      (reports.map fun report => report.1.descriptor).Nodup)
    (site : Site ω) (settled : site.Settled home) :
    ((pass other site).1 = (pass host site).1 ∧
      Agree memory (pass host site).2 (pass other site).2) ∧
    (∀ kind, (broadcast host kind site).1 = .returned ∧ (broadcast other kind site).1 = .returned ∧
      Agree memory (broadcast host kind site).2 (broadcast other kind site).2) ∧
    ∀ reports others : List (Handle × Readiness), reports.Perm others →
      (reports.map fun report => report.1.descriptor).Nodup →
      (readyPass host reports site).1 = .returned ∧ (readyPass other others site).1 = .returned ∧
        Agree memory (readyPass host reports site).2 (readyPass other others site).2 := by
  refine ⟨pass_agree stays reorders site settled rests polls distinct, ?_, ?_⟩
  · exact broadcast_agree stays reorders site settled
  · exact readyPass_agree stays reorders site settled

end Loop

/-- Each observer hands over to the next but one on its socket, and one of them asks for a stop. All
that was called is remembered. -/
def Host.relaying (reports : List (Handle × Readiness)) : Host (List Nat) where
  call armed notification site := match notification.socket with
    | none => (.returned, site)
    | some socket => (.returned, { site with
        reactor := site.reactor.useAll ([.remove socket armed.kind armed.observer,
          .add socket .writable (armed.observer + 2)] ++ if armed.observer = 1 then [.stop] else [])
        outside := armed.observer :: site.outside })
  poll _ site := (.ready reports, site)
  rest site := site

def homeOfParity (observer : Nat) : Int := if observer % 2 = 0 then 4 else 3

theorem Host.relaying_serves (reports : List (Handle × Readiness)) (socket : Handle)
    (notification : Notification) (about : notification.socket = some socket) (armed : Armed)
    (own : homeOfParity armed.observer = socket.descriptor) (site : Site (List Nat)) :
    (Host.relaying reports).Serves homeOfParity (fun seen observer => seen.count observer)
      socket.descriptor armed notification site
      ([.remove socket armed.kind armed.observer, .add socket .writable (armed.observer + 2)] ++
        if armed.observer = 1 then [.stop] else []) := by
  constructor
  case returned => simp [Host.relaying, about]
  case journal => simp [Host.relaying, about]
  case reactor => simp [Host.relaying, about]
  case others =>
    intro observer apart
    have other : armed.observer ≠ observer := fun same => apart (same ▸ own)
    simp [Host.relaying, about, other]

theorem Host.relaying_local (reports : List (Handle × Readiness)) :
    (Host.relaying reports).Local homeOfParity fun seen observer => seen.count observer := by
  intro socket notification first second one other about kind observer own alike
  have serves := Host.relaying_serves reports socket notification about second (observer ▸ own) other
  rw [← kind, ← observer] at serves
  refine ⟨_, ?_, Host.relaying_serves reports socket notification about first own one, serves, ?_⟩
  · intro use there
    simp only [List.mem_append, List.mem_cons, List.mem_ite_nil_right, List.not_mem_nil,
      or_false] at there
    obtain (rfl | rfl) | ⟨-, rfl⟩ := there
    · rfl
    · exact ⟨rfl, own ▸ by simp [homeOfParity]⟩
    · trivial
  · intro observer' there
    have same := alike.memory observer' there
    simpa [Host.relaying, about, observer, List.count_cons] using same

def Site.relayed : Site (List Nat) where
  reactor := ({} : Reactor).useAll
    [.add ⟨3, 0⟩ .readable 1, .add ⟨4, 0⟩ .readable 0, .add ⟨3, 0⟩ .readable 3]
  outside := []

theorem Site.relayed_settled : Site.relayed.Settled homeOfParity := by
  have later := Reactor.useAll_later {} Registry.sound_empty
    [.add ⟨3, 0⟩ .readable 1, .add ⟨4, 0⟩ .readable 0, .add ⟨3, 0⟩ .readable 3]
  have homed : ∀ row ∈ Site.relayed.reactor.registry.rows, homeOfParity row.2.observer = row.1 := by
    decide
  exact ⟨later.sound Registry.sound_empty, homed⟩

/-- Two polls that report the sockets in opposite orders. -/
theorem Host.relaying_reorders : (Host.relaying [(⟨3, 0⟩, { input := true }),
    (⟨4, 0⟩, { input := true, output := true })]).Reorders
      (Host.relaying [(⟨4, 0⟩, { input := true, output := true }), (⟨3, 0⟩, { input := true })]) where
  call := rfl
  rest := rfl
  poll _ _ := ⟨.ready (.swap _ _ _), rfl⟩
  arrange _ := ⟨.refl _, .refl _⟩

theorem Loop.orders_agree_relaying :
    let host := Host.relaying [(⟨3, 0⟩, { input := true }),
      (⟨4, 0⟩, { input := true, output := true })]
    let other := Host.relaying [(⟨4, 0⟩, { input := true, output := true }),
      (⟨3, 0⟩, { input := true })]
    Site.Agree (fun seen observer => seen.count observer) (Loop.pass host Site.relayed).2
        (Loop.pass other Site.relayed).2 ∧
      (Loop.pass host Site.relayed).2.outside = [2, 0, 3, 1] ∧
      (Loop.pass other Site.relayed).2.outside = [3, 1, 2, 0] ∧
      (Loop.pass host Site.relayed).2.reactor.stopRequested = true := by
  intro host other
  have agree := (Loop.orders_agree host other homeOfParity _ (Host.relaying_local _)
    Host.relaying_reorders (fun _ => id) (fun _ _ => id) ?_ Site.relayed Site.relayed_settled).1.2
  · exact ⟨agree, by decide, by decide, by decide⟩
  · intro asked site reports after polled
    obtain rfl := Polled.ready.inj (congrArg Prod.fst polled)
    decide

end SocketLoop
