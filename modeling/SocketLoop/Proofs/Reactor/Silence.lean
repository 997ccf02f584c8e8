import SocketLoop.Proofs.Reactor.Groups

/-! Which sockets the passes of runs poll. The registry that a pass finds is what users' changes and
the reports of the passes before it have led to, and a socket that a report has silenced is left
alone until something new is registered on it. -/
namespace SocketLoop

variable {ω : Type}

namespace Registry

def Change.report? : Change → Option (Handle × Readiness)
  | .report socket readiness => some (socket, readiness)
  | _ => none

/-- Changes lead from one registry to another, and the reports among them are these. -/
def Leads (before : Registry) (reports : List (Handle × Readiness)) (after : Registry) : Prop :=
  ∃ changes, after = before.changeAll changes ∧ changes.filterMap Change.report? = reports

theorem Leads.refl (registry : Registry) : registry.Leads [] registry := ⟨[], rfl, rfl⟩

theorem Leads.trans {before between after : Registry} {reports others : List (Handle × Readiness)}
    (first : before.Leads reports between) (second : between.Leads others after) :
    before.Leads (reports ++ others) after := by
  obtain ⟨changes, rfl, rfl⟩ := first
  obtain ⟨later, rfl, rfl⟩ := second
  exact ⟨changes ++ later, (changeAll_append _ _ _).symm, List.filterMap_append⟩

theorem Leads.change {before after : Registry} {reports : List (Handle × Readiness)}
    (leads : before.Leads reports after) (change : Change) :
    before.Leads (reports ++ change.report?.toList) (after.change change) := by
  refine leads.trans ⟨[change], rfl, ?_⟩
  cases change <;> rfl

end Registry

/-- Moments account for what becomes of a registry: from one to the next it changes by what users
add and remove, and at each of them by its report. -/
structure Accounts (before : Registry) (moments : List (Moment ω)) (after : Registry) : Prop where
  whole : before.Leads (moments.map Moment.report) after
  parts : ∀ earlier moment later, moments = earlier ++ moment :: later →
    before.Leads (earlier.map Moment.report) moment.site.reactor.registry ∧
      moment.registry.Leads (later.map Moment.report) after

namespace Accounts

variable {before between after : Registry} {moments others : List (Moment ω)}

theorem of_leads (leads : before.Leads [] after) : Accounts before ([] : List (Moment ω)) after :=
  ⟨leads, by simp⟩

theorem append (first : Accounts before moments between) (second : Accounts between others after) :
    Accounts before (moments ++ others) after := by
  constructor
  · rw [List.map_append]
    exact first.whole.trans second.whole
  · intro earlier moment later split
    rcases List.append_eq_append_iff.mp split with ⟨more, rfl, rest⟩ | ⟨more, rfl, rest⟩
    · obtain ⟨reached, left⟩ := second.parts more moment later rest
      rw [List.map_append]
      exact ⟨first.whole.trans reached, left⟩
    · cases more with
      | nil =>
        obtain ⟨reached, left⟩ := second.parts [] moment later (by simpa using rest.symm)
        refine ⟨?_, left⟩
        simpa using first.whole.trans reached
      | cons head more =>
        rw [List.cons_append, List.cons.injEq] at rest
        obtain ⟨rfl, rfl⟩ := rest
        obtain ⟨reached, left⟩ := first.parts earlier moment more rfl
        rw [List.map_append]
        exact ⟨reached, left.trans second.whole⟩

theorem single (moment : Moment ω) (leads : moment.registry.Leads [] after) :
    Accounts moment.site.reactor.registry [moment] after := by
  have taken : moment.site.reactor.registry.Leads [moment.report] moment.registry :=
    (Registry.Leads.refl _).change (.report moment.socket moment.readiness)
  constructor
  · simpa using taken.trans leads
  · intro earlier other later split
    obtain ⟨rfl, rfl, rfl⟩ : earlier = [] ∧ other = moment ∧ later = [] := by
      cases earlier <;> simp_all
    exact ⟨.refl _, leads⟩

end Accounts

namespace Loop

variable {host : Host ω} (tame : host.Tame)

include tame

theorem leads_minds (base : Registry) :
    host.Minds fun site => base.Leads [] site.reactor.registry :=
  tame.minds_registry (base.Leads []) (fun _ socket kind observer leads =>
    leads.change (.add socket kind observer)) fun _ socket kind observer leads =>
    leads.change (.remove socket kind observer)

theorem moment_accounts (moment : Moment ω) : Accounts moment.site.reactor.registry [moment]
    (moment.result host).2.reactor.registry :=
  .single moment (dispatchAll_preserves (leads_minds tame moment.registry) _ _ _ (.refl _))

theorem ready_accounts (reports : List (Handle × Readiness)) (site : Site ω) :
    Accounts site.reactor.registry (readyMoments host reports site)
      (readyPass host reports site).2.reactor.registry := by
  induction reports generalizing site with
  | nil => exact .of_leads (.refl _)
  | cons report rest ih =>
    have first := moment_accounts tame ⟨report.1, report.2, site⟩
    simp only [readyMoments, readyPass]
    cases went : dispatchReady host report.1 report.2 site with
    | mk ending next =>
      rw [Moment.result, went] at first
      cases ending with
      | returned => exact first.append (ih next)
      | panicked => exact first

theorem pass_accounts (site : Site ω) : Accounts site.reactor.registry (passMoments host site)
    (pass host site).2.reactor.registry := by
  have minds := leads_minds tame site.reactor.registry
  have slept := minds.note .idled _ (rested_hold minds site (.refl _))
  have polling := minds.poll site.reactor.registry.pollSet site.asking (.refl _)
  have exit := pass_exit host site
  generalize passTurns host site = turns, pass host site = result at exit
  cases exit with
  | muffled nothing =>
    rw [passMoments_of_nothing host site nothing]
    exact .of_leads slept
  | idle nothing =>
    rw [passMoments_of_nothing host site nothing, passEnd_site]
    exact .of_leads (broadcast_preserves minds .idle _ slept)
  | interrupted asks polled | failed asks polled =>
    rw [passMoments_of_silent host site (by simp [polled])]
    rw [polled] at polling
    exact .of_leads (minds.note _ _ (minds.hold [] _ polling))
  | quiet asks polled =>
    rw [passMoments_of_ready host site _ _ asks polled]
    rw [polled] at polling
    exact .of_leads (minds.hold [] _ (minds.note _ _ polling))
  | timeout asks polled =>
    rw [passMoments_of_ready host site _ _ asks polled, passEnd_site]
    rw [polled] at polling
    exact .of_leads (broadcast_preserves minds .timeout _ (minds.note _ _ polling))
  | @ready reports after asks _ polled =>
    have account := ready_accounts tame reports
      (after.note (.polled site.reactor.registry.pollSet.length reports.length))
    rw [passMoments_of_ready host site _ _ asks polled, passEnd_site]
    rw [polled] at polling
    exact (Accounts.of_leads polling).append account

theorem passing_accounts {site : Site ω} {starts : List (Site ω)} {result : RunEnd × Site ω}
    (passing : Passing host site starts result) :
    Accounts site.reactor.registry (starts.flatMap (passMoments host)) result.2.reactor.registry ∧
    ∀ before start after, starts = before ++ start :: after →
      Accounts site.reactor.registry (before.flatMap (passMoments host))
        start.reactor.registry := by
  induction passing with
  | stopped | unfinished => exact ⟨.of_leads (.refl _), by simp⟩
  | @onward site next starts result _ went _ ih =>
    have passed := pass_accounts tame site
    rw [went] at passed
    refine ⟨passed.append ih.1, ?_⟩
    intro before start after split
    cases before with
    | nil =>
      obtain ⟨rfl, -⟩ := List.cons.inj split
      exact .of_leads (.refl _)
    | cons first before =>
      obtain ⟨rfl, rest⟩ := List.cons.inj split
      exact passed.append (ih.2 before start after rest)
  | @failed site next errno _ went | @panicked site next _ went =>
    have passed := pass_accounts tame site
    rw [went] at passed
    refine ⟨by simpa using passed, ?_⟩
    intro before start after split
    cases before with
    | nil =>
      obtain ⟨rfl, -⟩ := List.cons.inj split
      exact .of_leads (.refl _)
    | cons first before => simp at split

theorem close_accounts (ends : RunEnd) (last : Site ω) :
    last.reactor.registry.Leads [] (close host ends last).2.reactor.registry := by
  have sent := broadcast_preserves (leads_minds tame last.reactor.registry) .shutdown last (.refl _)
  rw [close]
  split <;> rename_i after ended <;> rw [ended] at sent <;> exact sent

theorem run_accounts (fuel : Nat) (site : Site ω) (idle : site.reactor.active = false) :
    ∃ starts, Passing host site.entered starts (passes host fuel site.entered) ∧
      Accounts site.reactor.registry (starts.flatMap (passMoments host))
        (run host fuel site).2.reactor.registry := by
  obtain ⟨starts, passing, -⟩ := passes_passing host fuel site.entered
  have passed := (passing_accounts tame passing).1
  refine ⟨starts, passing, ?_⟩
  have closes : ∀ ends last, Accounts site.reactor.registry (starts.flatMap (passMoments host))
      last.reactor.registry → Accounts site.reactor.registry (starts.flatMap (passMoments host))
        (close host ends last).2.reactor.registry := by
    intro ends last account
    simpa using account.append (.of_leads (close_accounts tame ends last))
  rw [run_of_idle host fuel site idle]
  split <;> rename_i ended <;> rw [ended] at passed
  · exact passed
  · exact passed
  · exact closes _ _ passed

end Loop

/-- A poll reports about sockets that it is asked about, about each of them once, and not about
quiet ones. -/
def Host.Honest (host : Host ω) : Prop :=
  ∀ asked site reports after, host.poll asked site = (.ready reports, after) →
    ∃ revents, reports.Perm (Interest.reported revents asked)

/-- A pass from here leaves a socket alone: it neither polls it nor has a turn on it but for quiet
passes and idleness. -/
structure Site.LeavesAlone (host : Host ω) (descriptor : Int) (site : Site ω) : Prop where
  unpolled : ∀ interest ∈ site.reactor.registry.pollSet, interest.socket.descriptor ≠ descriptor
  turns : ∀ turn ∈ Loop.passTurns host site, turn.socket.descriptor = descriptor →
    turn.notification.kind ∉ [Kind.readable, .writable, .error]

namespace Loop

variable {host : Host ω}

theorem mem_reported (revents : Interest → Readiness) (asked : List Interest)
    (report : Handle × Readiness) (reported : report ∈ Interest.reported revents asked) :
    ∃ interest ∈ asked, interest.socket = report.1 := by
  obtain ⟨interest, member, found⟩ := List.mem_filterMap.mp reported
  obtain rfl := Option.some.inj (Option.ite_none_left_eq_some.mp found).2
  exact ⟨interest, member, rfl⟩

theorem broadcastTurns_kind (kind : Kind) (site : Site ω) :
    ∀ turn ∈ broadcastTurns host kind site, turn.notification.kind = kind := by
  intro turn member
  rw [(sendTurns_sends host kind _ _ site).1 turn member]
  rfl

theorem leavesAlone_of_unpolled (honest : host.Honest) (descriptor : Int) (site : Site ω)
    (unpolled : ∀ interest ∈ site.reactor.registry.pollSet,
      interest.socket.descriptor ≠ descriptor) : site.LeavesAlone host descriptor := by
  refine ⟨unpolled, ?_⟩
  have exit := pass_exit host site
  generalize passTurns host site = turns, pass host site = result at exit
  cases exit with
  | muffled | interrupted | failed | quiet => simp
  | idle =>
    intro turn member _
    simp [broadcastTurns_kind .idle _ turn member]
  | timeout =>
    intro turn member _
    simp [broadcastTurns_kind .timeout _ turn member]
  | @ready reports after asks _ polled =>
    intro turn member own
    rw [readyTurns_eq] at member
    obtain ⟨moment, reached, inside⟩ := List.mem_flatMap.mp member
    obtain ⟨revents, same⟩ := honest _ _ _ _ polled
    have reported := (readyMoments_reports host reports _).1.subset
      (List.mem_map_of_mem reached)
    obtain ⟨interest, asked, socket⟩ := mem_reported revents _ _ (same.mem_iff.mp reported)
    rw [(moment_notices host moment).1 turn inside] at own
    exact absurd ((congrArg Handle.descriptor socket).trans own) (unpolled interest asked)

theorem error_of_silences (moment : Moment ω) (sound : moment.site.reactor.registry.Sound)
    (silences : moment.site.reactor.registry.Silences moment.socket.descriptor
      (.report moment.socket moment.readiness)) :
    .error ∈ moment.notices.map Notification.kind := by
  rw [moment.mem_kinds sound]
  refine .inr (.inr ⟨?_, rfl⟩)
  rcases silences.2 with invalid | ⟨hungUp, unread⟩
  · exact .inl (by simp [Readiness.failed, invalid])
  · refine .inr ⟨hungUp, ?_⟩
    intro row there own kind
    rw [Bool.eq_false_iff, Ne, Registry.observes_iff _ sound] at unread
    exact unread ⟨row, there, own, kind⟩

/-- A pass makes one turn for errors on a socket that a report silences. -/
theorem one_error_turn (tame : host.Tame) (honest : host.Honest) (site : Site ω)
    (reachable : site.reactor.registry.Reachable) (moment : Moment ω)
    (reached : moment ∈ passMoments host site)
    (silences : moment.site.reactor.registry.Silences moment.socket.descriptor
      (.report moment.socket moment.readiness)) :
    ((passTurns host site).map Turn.target).count (moment.socket.descriptor, .error) ≤ 1 ∧
    ((pass host site).1 ≠ .panicked →
      ((passTurns host site).map Turn.target).count (moment.socket.descriptor, .error) = 1) := by
  obtain ⟨reports, polled, asks, found, asked⟩ := polled_of_moment site moment reached
  obtain ⟨revents, states⟩ := honest _ _ _ _ asked
  have keeps := (tame.preserves Registry.Reachable
    fun registry change before => before.change change).toGuards
  have sound := (passMoments_hold keeps site reachable moment reached).sound
  have turns : passTurns host site =
      (passMoments host site).flatMap fun moment => moment.turns host :=
    passTurns_of_ready site polled reports asks found asked
  have targets : ((passTurns host site).map Turn.target).Nodup := by
    rw [turns]
    exact moments_targets _
      (passMoments_distinct site polled reachable.sound revents reports asks asked states)
  refine ⟨List.nodup_iff_count_le_one.mp targets _, ?_⟩
  intro calm
  refine List.count_eq_one_of_mem targets ?_
  obtain ⟨own, -, all⟩ := moment_notices host moment
  have error := error_of_silences moment sound silences
  rw [← all (moments_returned site calm moment reached), List.map_map] at error
  obtain ⟨turn, inside, kind⟩ := List.mem_map.mp error
  rw [turns]
  refine List.mem_map.mpr ⟨turn, List.mem_flatMap.mpr ⟨moment, reached, inside⟩, ?_⟩
  exact Prod.ext (congrArg Handle.descriptor (own turn inside)) kind

/-- Which sockets are polled is a matter of their history. A known socket is polled if it is observed
for one of four kinds and no report has silenced it since the last registration on it, and what is
asked about it are its readable and writable observers. The history that the passes of a run find
is that of the users' changes and of the reports that the passes before them got to. A pass that
silences a socket has one turn for errors on it; then the socket is left alone until a registration
is made on it that was not there. -/
theorem polling_follows_history (host : Host ω) (tame : host.Tame) (honest : host.Honest) :
    (∀ history descriptor,
      ((∃ interest ∈ (Registry.replay history).pollSet, interest.socket.descriptor = descriptor) ↔
        (∃ kind ∈ Kind.polled, (Registry.replay history).observes descriptor kind = true) ∧
          ¬Registry.Shunned history descriptor)) ∧
    (∀ history, ∀ interest ∈ (Registry.replay history).pollSet,
      interest.input =
        (Registry.replay history).observes interest.socket.descriptor .readable ∧
      interest.output =
        (Registry.replay history).observes interest.socket.descriptor .writable) ∧
    (∀ fuel site, site.reactor.active = false → ∃ starts,
      Passing host site.entered starts (passes host fuel site.entered) ∧
      Accounts site.reactor.registry (starts.flatMap (passMoments host))
        (run host fuel site).2.reactor.registry ∧
      ∀ before start after, starts = before ++ start :: after →
        Accounts site.reactor.registry (before.flatMap (passMoments host))
          start.reactor.registry) ∧
    (∀ site, site.reactor.registry.Reachable → ∀ moment ∈ passMoments host site,
      moment.site.reactor.registry.Silences moment.socket.descriptor
        (.report moment.socket moment.readiness) →
      ((passTurns host site).map Turn.target).count (moment.socket.descriptor, .error) ≤ 1 ∧
      ((pass host site).1 ≠ .panicked →
        ((passTurns host site).map Turn.target).count (moment.socket.descriptor, .error) = 1) ∧
      ∀ (changes : List Registry.Change) (later : Site ω),
        later.reactor.registry = moment.registry.changeAll changes →
        ¬moment.registry.Renewed moment.socket.descriptor changes →
        later.LeavesAlone host moment.socket.descriptor) := by
  refine ⟨Registry.polls_replay_iff, ?_, ?_, ?_⟩
  · exact fun history => Registry.asks_of_mem _ (Registry.replay_sound history)
  · intro fuel site idle
    obtain ⟨starts, passing, account⟩ := run_accounts tame fuel site idle
    exact ⟨starts, passing, account, (passing_accounts tame passing).2⟩
  · intro site reachable moment reached silences
    obtain ⟨most, one⟩ := one_error_turn tame honest site reachable moment reached silences
    refine ⟨most, one, ?_⟩
    intro changes later made still
    have sound := (passMoments_hold (tame.preserves Registry.Reachable
      fun registry change before => before.change change).toGuards site reachable moment
        reached).sound
    refine leavesAlone_of_unpolled honest _ later ?_
    intro interest asked own
    rw [made] at asked
    obtain ⟨entry, known, heard, -, rfl⟩ := (Registry.mem_pollSet _ interest).mp asked
    have muted := Registry.muted_of_silenced _ sound _ _ silences changes still entry known own
    rw [heard] at muted
    cases muted

end Loop

/-- A poll finds a socket hung up as long as it is asked about it. -/
def Host.hangingUp : Host Unit where
  call _ _ site := (.returned, site)
  poll asked site := (.ready (Interest.reported (fun _ => { hangUp := true }) asked), site)
  rest site := site

theorem Host.hangingUp_tame : Host.hangingUp.Tame where
  keeps _ _ site := .refl site
  poll _ site := .refl site
  rest site := .refl site

theorem Host.hangingUp_honest : Host.hangingUp.Honest := by
  intro asked site reports after polled
  simp only [Host.hangingUp, Prod.mk.injEq, Polled.ready.injEq] at polled
  exact ⟨_, .of_eq polled.1.symm⟩

def Site.writing : Site Unit where
  reactor := ({} : Reactor).useAll [.add ⟨3, 0⟩ .writable 0, .add ⟨3, 0⟩ .error 1]
  outside := ()

/-- The hang-up is an error once; a registration that was there does not change that. -/
theorem Loop.polling_follows_history_hung_up :
    (Loop.pass Host.hangingUp Site.writing).2.calls =
        [.called ⟨3, 0⟩ ⟨1, .error, 1⟩ (.failure ⟨3, 0⟩ (some Errno.brokenPipe))] ∧
      ((Loop.pass Host.hangingUp Site.writing).2.onReactor fun reactor =>
        reactor.addHandler ⟨3, 0⟩ .writable 0).LeavesAlone Host.hangingUp 3 := by
  refine ⟨by decide, ?_⟩
  have silenced := (Loop.polling_follows_history Host.hangingUp Host.hangingUp_tame
    Host.hangingUp_honest).2.2.2 Site.writing
    ⟨[.add ⟨3, 0⟩ .writable 0, .add ⟨3, 0⟩ .error 1], rfl⟩ _ List.mem_cons_self
    ⟨rfl, .inr ⟨rfl, by decide⟩⟩
  refine silenced.2.2 [.add ⟨3, 0⟩ .writable 0] _ (by decide) ?_
  rintro ⟨earlier, change, later, split, renews⟩
  cases earlier with
  | nil =>
    obtain ⟨rfl, -⟩ := List.cons.inj split
    exact absurd renews.2 (by decide)
  | cons first earlier => simp at split

end SocketLoop
