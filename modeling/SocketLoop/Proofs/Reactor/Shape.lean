import SocketLoop.Proofs.Reactor.Moments

/-! The shape of a run. Passes follow each other until a stop is requested, a poll fails or an
observer panics; whom a pass may call depends on what its poll found. Then the shutdown is broadcast
and the reactor is free again. -/
namespace SocketLoop

variable {ω : Type}

/-- Passes that follow each other until they are over or the fuel is, with the sites they start
from. -/
inductive Passing (host : Host ω) : Site ω → List (Site ω) → RunEnd × Site ω → Prop where
  | stopped {site : Site ω} (stop : site.reactor.stopRequested = true) :
      Passing host site [] (.done, site)
  | unfinished {site : Site ω} (calm : site.reactor.stopRequested = false) :
      Passing host site [] (.unfinished, site)
  | onward {site next : Site ω} {starts : List (Site ω)} {result : RunEnd × Site ω}
      (calm : site.reactor.stopRequested = false) (went : Loop.pass host site = (.onward, next))
      (rest : Passing host next starts result) : Passing host site (site :: starts) result
  | failed {site next : Site ω} {errno : Errno} (calm : site.reactor.stopRequested = false)
      (went : Loop.pass host site = (.failed errno, next)) :
      Passing host site [site] (.failed errno, next)
  | panicked {site next : Site ω} (calm : site.reactor.stopRequested = false)
      (went : Loop.pass host site = (.panicked, next)) :
      Passing host site [site] (.panicked, next)

/-- A site as the passes of a run find it that was accepted there. -/
def Site.entered (site : Site ω) : Site ω :=
  site.onReactor fun reactor => { reactor with active := true }

namespace Loop

theorem passes_passing (host : Host ω) (fuel : Nat) (site : Site ω) :
    ∃ starts, Passing host site starts (passes host fuel site) ∧
      ((passes host fuel site).1 = .unfinished → starts.length = fuel) := by
  induction fuel generalizing site with
  | zero =>
    rw [passes]
    split
    · rename_i stop
      exact ⟨[], .stopped stop, by simp⟩
    · rename_i calm
      exact ⟨[], .unfinished (Bool.eq_false_iff.mpr calm), fun _ => rfl⟩
  | succ fuel ih =>
    rw [passes]
    split
    · rename_i stop
      exact ⟨[], .stopped stop, by simp⟩
    · rename_i calm
      have calm := Bool.eq_false_iff.mpr calm
      split <;> rename_i next went
      · obtain ⟨starts, passing, many⟩ := ih next
        refine ⟨site :: starts, .onward calm went passing, ?_⟩
        intro unfinished
        rw [List.length_cons, many unfinished]
      · exact ⟨[site], .failed calm went, by simp⟩
      · exact ⟨[site], .panicked calm went, by simp⟩

end Loop

namespace Passing

variable {host : Host ω} {site : Site ω} {starts : List (Site ω)} {result : RunEnd × Site ω}

theorem calm (passing : Passing host site starts result) :
    ∀ start ∈ starts, start.reactor.stopRequested = false := by
  induction passing with
  | stopped => simp
  | unfinished => simp
  | onward calm _ _ ih => exact List.forall_mem_cons.mpr ⟨calm, ih⟩
  | failed calm => simpa using calm
  | panicked calm => simpa using calm

theorem not_refused (passing : Passing host site starts result) : result.1 ≠ .refused := by
  induction passing with
  | onward _ _ _ ih => exact ih
  | stopped | unfinished | failed | panicked => simp

theorem hold {holds : Site ω → Prop} (passing : Passing host site starts result)
    (keeps : host.Guards holds) (before : holds site) :
    (∀ start ∈ starts, holds start) ∧ holds result.2 := by
  induction passing with
  | stopped => exact ⟨by simp, before⟩
  | unfinished => exact ⟨by simp, before⟩
  | @onward site next starts result _ went _ ih =>
    have passed := Loop.pass_preserves keeps site before
    rw [went] at passed
    obtain ⟨inside, after⟩ := ih passed
    exact ⟨List.forall_mem_cons.mpr ⟨before, inside⟩, after⟩
  | @failed site next errno _ went =>
    have passed := Loop.pass_preserves keeps site before
    rw [went] at passed
    exact ⟨by simpa using before, passed⟩
  | @panicked site next _ went =>
    have passed := Loop.pass_preserves keeps site before
    rw [went] at passed
    exact ⟨by simpa using before, passed⟩

theorem calls {made : Site ω → List Event} (passing : Passing host site starts result)
    (each : ∀ start, (Loop.pass host start).2.calls = start.calls ++ made start) :
    result.2.calls = site.calls ++ starts.flatMap made := by
  induction passing with
  | stopped => simp
  | unfinished => simp
  | @onward site next starts result _ went _ ih =>
    have passed := each site
    rw [went] at passed
    rw [ih, passed, List.flatMap_cons, List.append_assoc]
  | @failed site next errno _ went =>
    have passed := each site
    rw [went] at passed
    simpa using passed
  | @panicked site next _ went =>
    have passed := each site
    rw [went] at passed
    simpa using passed

end Passing

/-- One notification of a kind for every socket that observes it, muted or not. Less than the whole
of it is a beginning of it. -/
structure Broadcasts (kind : Kind) (registry : Registry) (whole : Prop) (turns : List (Turn ω)) :
    Prop where
  notices : ∀ turn ∈ turns, turn.notification = .ofSocket kind turn.socket
  sockets : ∃ sockets, sockets.Perm (registry.observing kind) ∧
    turns.map Turn.socket <+: sockets ∧ (whole → turns.map Turn.socket = sockets)

theorem Registry.snapshot_kind (registry : Registry) (descriptor : Int) (kind : Kind) :
    ∀ armed ∈ registry.snapshot descriptor kind, armed.kind = kind := by
  intro armed member
  rw [snapshot] at member
  split at member
  · cases member
  · simpa using (List.mem_filter.mp member).2

theorem Turn.called_kind (host : Host ω) (turn : Turn ω) :
    ∀ armed ∈ turn.called host, armed.kind = turn.notification.kind :=
  fun armed called => turn.start.reactor.registry.snapshot_kind _ _ armed
    (turn.called_sublist.subset called)

theorem Broadcasts.mono {kind : Kind} {registry : Registry} {whole less : Prop}
    {turns : List (Turn ω)} (broadcasts : Broadcasts kind registry whole turns)
    (enough : less → whole) : Broadcasts kind registry less turns := by
  obtain ⟨notices, sockets, same, begins, all⟩ := broadcasts
  exact ⟨notices, sockets, same, begins, all ∘ enough⟩

theorem Turning.panicked {host : Host ω} {site : Site ω} {turns : List (Turn ω)}
    {result : Ending × Site ω} (turning : Turning host site turns result)
    (panicked : result.1 = .panicked) : ∃ turn ∈ turns, (turn.result host).1 = .panicked := by
  induction turning with
  | rest => cases panicked
  | own _ _ ih => exact ih panicked
  | turn _ _ ih =>
    obtain ⟨turn, member, ended⟩ := ih panicked
    exact ⟨turn, List.mem_cons_of_mem _ member, ended⟩
  | panic went => exact ⟨_, List.mem_cons_self, congrArg Prod.fst went⟩
  | close _ _ ih => exact ih panicked

theorem Site.Reaches.settings {before after : Site ω} (reaches : before.Reaches after) :
    after.reactor.settings = before.reactor.settings := by
  obtain ⟨-, uses, made⟩ := reaches
  rw [made]
  exact before.reactor.useAll_settings uses

namespace Loop

def turnsCalls (host : Host ω) (turns : List (Turn ω)) : List Event :=
  turns.flatMap fun turn => turn.calls host

/-- What a pass makes of the answer to its poll. A request to stop changes nothing about it. -/
def Answers (host : Host ω) (start : Site ω) (turns : List (Turn ω)) (ending : PassEnd) :
    Polled × Site ω → Prop
  | (.interrupted, _) => turns = [] ∧ ending = .onward
  | (.failed errno, _) => turns = [] ∧ ending = .failed errno
  | (.ready [], after) => (∀ errno, ending ≠ .failed errno) ∧
    if start.reactor.settings.timeouts then
      Broadcasts .timeout after.reactor.registry (ending ≠ .panicked) turns
    else turns = []
  | (.ready reports, _) => (∀ errno, ending ≠ .failed errno) ∧
    (∀ turn ∈ turns, turn.notification.kind ∈ [Kind.readable, .writable, .error]) ∧
    turns = (passMoments host start).flatMap (fun moment => moment.turns host) ∧
    (passMoments host start).map Moment.report <+: reports ∧
    (ending ≠ .panicked → (passMoments host start).map Moment.report = reports)

/-- Whom a pass calls. -/
structure Shape (host : Host ω) (start : Site ω) (turns : List (Turn ω))
    (result : PassEnd × Site ω) : Prop where
  calls : result.2.calls = start.calls ++ turnsCalls host turns
  idle : start.reactor.registry.pollSet = [] → (∀ errno, result.1 ≠ .failed errno) ∧
    if start.reactor.settings.idle && !(rested host start).reactor.stopRequested then
      Broadcasts .idle (rested host start).reactor.registry (result.1 ≠ .panicked) turns
    else turns = []
  polled : start.reactor.registry.pollSet ≠ [] →
    Answers host start turns result.1 (host.poll start.reactor.registry.pollSet start.asking)
  panics : result.1 = .panicked → ∃ turn ∈ turns, (turn.result host).1 = .panicked

section

variable {host : Host ω}

theorem passEnd_not_failed (result : Ending × Site ω) (errno : Errno) :
    (passEnd result).1 ≠ .failed errno := by
  obtain ⟨ending, site⟩ := result
  cases ending <;> simp [passEnd]

theorem passEnd_panics (result : Ending × Site ω) (panicked : (passEnd result).1 = .panicked) :
    result.1 = .panicked := by
  obtain ⟨ending, site⟩ := result
  cases ending with
  | returned => cases panicked
  | panicked => rfl

theorem notificationsOf_kinds (socket : Handle) (readiness : Readiness) (unheard : Bool) :
    ∀ notification ∈ notificationsOf socket readiness unheard,
      notification.kind ∈ [Kind.readable, .writable, .error] := by
  simp only [notificationsOf, List.mem_append]
  grind [Notification.ofSocket, Notification.failure]

theorem moment_kinds (moment : Moment ω) : ∀ turn ∈ moment.turns host,
    turn.notification.kind ∈ [Kind.readable, .writable, .error] := by
  intro turn member
  have begins := (moment_notices host moment).2.1
  exact notificationsOf_kinds _ _ _ _ (begins.subset (List.mem_map_of_mem member))

theorem broadcast_shape (arranges : ∀ sockets, (host.arrange sockets).Perm sockets) (kind : Kind)
    (site : Site ω) : Broadcasts kind site.reactor.registry
      ((broadcast host kind site).1 = .returned) (broadcastTurns host kind site) := by
  obtain ⟨notices, begins, all⟩ := sendTurns_sends host kind site.reactor.held
    (host.arrange (site.reactor.registry.observing kind)) site
  exact ⟨notices, _, arranges _, begins, all⟩

theorem note_calls (site : Site ω) (event : Event) (silent : event.isCall = false) :
    (site.note event).calls = site.calls :=
  (site.same_note event silent).calls

theorem calls_of_silent {start after : Site ω} (silent : after.calls = start.calls) :
    after.calls = start.calls ++ turnsCalls host [] := by
  rw [silent, turnsCalls, List.flatMap_nil, List.append_nil]

variable (tame : host.Tame)

include tame

theorem calls_of_turning {start between : Site ω} {turns : List (Turn ω)}
    {result : Ending × Site ω} (silent : between.calls = start.calls)
    (turning : Turning host between turns result) :
    (passEnd result).2.calls = start.calls ++ turnsCalls host turns := by
  rw [passEnd_site, turning.calls tame.keeps, silent, turnsCalls]

theorem rested_reaches (site : Site ω) : site.Reaches (rested host site) := by
  rw [rested]
  split
  · exact .refl site
  · exact tame.rest site

theorem asking_reaches {start after : Site ω} {found : Polled}
    (polled : host.poll start.reactor.registry.pollSet start.asking = (found, after)) :
    start.asking.Reaches after := by
  have reaches := tame.poll start.reactor.registry.pollSet start.asking
  rwa [polled] at reaches

theorem asking_settings {start after : Site ω} {found : Polled}
    (polled : host.poll start.reactor.registry.pollSet start.asking = (found, after)) :
    after.reactor.settings = start.reactor.settings :=
  (asking_reaches tame polled).settings

variable (arranges : ∀ sockets, (host.arrange sockets).Perm sockets)

include arranges

theorem shape_of_idle (start : Site ω) (nothing : start.reactor.registry.pollSet = [])
    (reports : start.reactor.settings.idle && !(rested host start).reactor.stopRequested) :
    Shape host start (broadcastTurns host .idle ((rested host start).note .idled))
      (passEnd (broadcast host .idle ((rested host start).note .idled))) where
  calls := calls_of_turning tame ((note_calls _ .idled rfl).trans (rested_reaches tame start).calls)
    (broadcast_turning host .idle _)
  idle := by
    intro
    refine ⟨passEnd_not_failed _, ?_⟩
    rw [if_pos reports]
    exact (broadcast_shape arranges .idle ((rested host start).note .idled)).mono
      (passEnd_panicked _)
  polled asks := absurd nothing asks
  panics panicked := (broadcast_turning host .idle _).panicked (passEnd_panics _ panicked)

theorem shape_of_timeout (start after : Site ω) (asks : start.reactor.registry.pollSet ≠ [])
    (polled : host.poll start.reactor.registry.pollSet start.asking = (.ready [], after))
    (enabled : start.reactor.settings.timeouts) :
    Shape host start
      (broadcastTurns host .timeout (after.note (.polled start.reactor.registry.pollSet.length 0)))
      (passEnd (broadcast host .timeout
        (after.note (.polled start.reactor.registry.pollSet.length 0)))) where
  calls := calls_of_turning tame ((note_calls _ _ rfl).trans (asking_reaches tame polled).calls)
    (broadcast_turning host .timeout _)
  idle nothing := absurd nothing asks
  polled := by
    intro
    rw [polled]
    refine ⟨passEnd_not_failed _, ?_⟩
    rw [if_pos enabled]
    exact (broadcast_shape arranges .timeout (after.note (.polled _ 0))).mono (passEnd_panicked _)
  panics panicked := (broadcast_turning host .timeout _).panicked (passEnd_panics _ panicked)

omit arranges in
theorem shape_of_ready (start after : Site ω) (report : Handle × Readiness)
    (others : List (Handle × Readiness)) (asks : start.reactor.registry.pollSet ≠ [])
    (polled : host.poll start.reactor.registry.pollSet start.asking =
      (.ready (report :: others), after)) :
    Shape host start
      (readyTurns host (report :: others)
        (after.note (.polled start.reactor.registry.pollSet.length (others.length + 1))))
      (passEnd (letGo (readyPass host (report :: others)
        (after.note (.polled start.reactor.registry.pollSet.length (others.length + 1)))))) where
  calls := calls_of_turning tame ((note_calls _ _ rfl).trans (asking_reaches tame polled).calls)
    (.close (ready_turning host _ _) (Site.same_hold _ []))
  idle nothing := absurd nothing asks
  polled := by
    intro
    obtain ⟨begins, all⟩ := readyMoments_reports host (report :: others)
      (after.note (.polled start.reactor.registry.pollSet.length (others.length + 1)))
    rw [polled]
    refine ⟨passEnd_not_failed _, ?_, ?_⟩
    · intro turn member
      rw [readyTurns_eq] at member
      obtain ⟨moment, -, own⟩ := List.mem_flatMap.mp member
      exact moment_kinds moment turn own
    · rw [passMoments_of_ready host start _ after asks polled]
      exact ⟨readyTurns_eq host _ _, begins, fun calm => all (passEnd_panicked (letGo _) calm)⟩
  panics panicked := (ready_turning host _ _).panicked (passEnd_panics (letGo _) panicked)

theorem pass_shape (start : Site ω) :
    Shape host start (passTurns host start) (pass host start) := by
  have exit := pass_exit host start
  generalize passTurns host start = turns, pass host start = result at exit
  have slept := rested_reaches tame start
  cases exit with
  | muffled nothing mute =>
    rw [slept.settings] at mute
    refine ⟨calls_of_silent ((note_calls _ .idled rfl).trans slept.calls), ?_,
      fun asks => absurd nothing asks, by simp⟩
    intro
    simp [mute]
  | idle nothing enabled calm =>
    rw [slept.settings] at enabled
    exact shape_of_idle tame arranges start nothing (by simp [enabled, calm])
  | interrupted asks polled =>
    refine ⟨calls_of_silent ((note_calls _ .interrupted rfl).trans (asking_reaches tame polled).calls),
      fun nothing => absurd nothing asks, ?_, by simp⟩
    intro
    rw [polled]
    exact ⟨rfl, rfl⟩
  | @failed errno after asks polled =>
    refine ⟨calls_of_silent ((note_calls _ (.pollFailed errno) rfl).trans
      (asking_reaches tame polled).calls), fun nothing => absurd nothing asks, ?_, by simp⟩
    intro
    rw [polled]
    exact ⟨rfl, rfl⟩
  | @quiet after asks polled disabled =>
    rw [asking_settings tame polled] at disabled
    refine ⟨calls_of_silent ((note_calls after (.polled _ 0) rfl).trans
      (asking_reaches tame polled).calls), fun nothing => absurd nothing asks, ?_, by simp⟩
    intro
    rw [polled]
    refine ⟨by simp, ?_⟩
    rw [if_neg (Bool.eq_false_iff.mp disabled)]
  | @timeout after asks polled enabled =>
    rw [asking_settings tame polled] at enabled
    exact shape_of_timeout tame arranges start after asks polled enabled
  | @ready reports after asks found polled =>
    cases reports with
    | nil => exact absurd rfl found
    | cons report others => exact shape_of_ready tame start after report others asks polled

end

/-- Whatever an observer has done so far, a run that it asks for is refused. -/
def Refuses (host : Host ω) (turns : List (Turn ω)) : Prop :=
  ∀ turn ∈ turns, ∀ visit ∈ visits host turn.socket turn.notification turn.snapshot turn.start,
    ∀ inside, (visit.2.begin turn.socket visit.1 turn.notification).Reaches inside →
      ∀ fuel, run host fuel inside = (.refused, inside)

/-- The end of a run whose passes are over: one broadcast of the shutdown, and the reactor is
free. -/
structure Closes (host : Host ω) (ends : RunEnd) (last : Site ω) (result : RunEnd × Site ω) :
    Prop where
  calls : result.2.calls = last.calls ++ turnsCalls host (broadcastTurns host .shutdown last)
  broadcasts : Broadcasts .shutdown last.reactor.registry (result.1 ≠ .panicked)
    (broadcastTurns host .shutdown last)
  refuses : Refuses host (broadcastTurns host .shutdown last)
  free : result.1 ≠ .panicked → result.1 = ends ∧ result.2.reactor.active = false ∧
    result.2.reactor.stopRequested = false
  panics : result.1 = .panicked →
    ∃ turn ∈ broadcastTurns host .shutdown last, (turn.result host).1 = .panicked

section

variable {host : Host ω}

theorem run_of_active (fuel : Nat) (site : Site ω) (active : site.reactor.active = true) :
    run host fuel site = (.refused, site) := by
  simp [run, Reactor.enter?, active]

omit host in
theorem run_of_idle (host : Host ω) (fuel : Nat) (site : Site ω)
    (idle : site.reactor.active = false) : run host fuel site =
      match passes host fuel site.entered with
      | (.panicked, last) => (.panicked, last)
      | (.unfinished, last) => (.unfinished, last)
      | (ends, last) => close host ends last := by
  simp only [run, Reactor.enter?, idle]
  rfl

theorem refuses_of_going (tame : host.Tame) (settings : Settings) (turns : List (Turn ω))
    (going : ∀ turn ∈ turns,
      turn.start.reactor.active = true ∧ turn.start.reactor.settings = settings) :
    Refuses host turns := by
  intro turn member visit visited inside reaches fuel
  have still := visits_hold (tame.going settings).toMinds turn.socket turn.notification turn.snapshot
    turn.start (going turn member) visit visited
  refine run_of_active fuel inside ?_
  obtain ⟨-, uses, made⟩ := reaches
  rw [made, Reactor.useAll_active]
  exact still.1

theorem close_shape (tame : host.Tame) (arranges : ∀ sockets, (host.arrange sockets).Perm sockets)
    (ends : RunEnd) (calm : ends ≠ .panicked) (last : Site ω)
    (active : last.reactor.active = true) : Closes host ends last (close host ends last) := by
  have turning := broadcast_turning host .shutdown last
  have made := turning.calls tame.keeps
  have whole := broadcast_shape arranges .shutdown last
  have refuses : Refuses host (broadcastTurns host .shutdown last) :=
    refuses_of_going tame last.reactor.settings _
      (sendTurns_hold (tame.going _).toMinds _ _ _ last ⟨active, rfl⟩)
  have panics := turning.panicked
  cases ended : broadcast host .shutdown last with
  | mk ending after =>
    rw [ended] at made whole panics
    cases ending with
    | returned =>
      have closed : close host ends last =
          (ends, (after.onReactor Reactor.clearStop).onReactor Reactor.leave) := by
        rw [close, ended]
      rw [closed]
      exact ⟨made, whole.mono fun _ => rfl, refuses, fun _ => ⟨rfl, rfl, rfl⟩,
        fun panicked => absurd panicked calm⟩
    | panicked =>
      have closed : close host ends last = (.panicked, after) := by rw [close, ended]
      rw [closed]
      exact ⟨made, whole.mono fun fine => absurd rfl fine, refuses, fun fine => absurd rfl fine,
        fun _ => panics rfl⟩

/-- A run of a reactor that is running already is refused and changes nothing. Any other run is
passes one after another, each started with no stop requested and each of the shape that its poll
gives it. When they are over, for a stop or for a poll that failed, the shutdown is broadcast once,
and the reactor is free for the next run. -/
theorem run_shape (host : Host ω) (tame : host.Tame)
    (arranges : ∀ sockets, (host.arrange sockets).Perm sockets) (fuel : Nat) (site : Site ω) :
    (∀ turn : Turn ω, ∀ armed ∈ turn.called host, armed.kind = turn.notification.kind) ∧
    (site.reactor.active = true → run host fuel site = (.refused, site)) ∧
    (site.reactor.active = false → ∃ starts ends last,
      Passing host site.entered starts (ends, last) ∧
      (∀ start ∈ starts, start.reactor.stopRequested = false ∧
        start.reactor.settings = site.reactor.settings ∧
        Shape host start (passTurns host start) (pass host start) ∧
        Refuses host (passTurns host start)) ∧
      last.calls = site.calls ++ starts.flatMap (fun start =>
        turnsCalls host (passTurns host start)) ∧
      (ends = .done ∨ (∃ errno, ends = .failed errno) → Closes host ends last (run host fuel site)) ∧
      (ends = .panicked ∨ ends = .unfinished → run host fuel site = (ends, last)) ∧
      (ends = .unfinished → starts.length = fuel)) := by
  refine ⟨Turn.called_kind host, run_of_active fuel site, ?_⟩
  intro idle
  obtain ⟨starts, passing, many⟩ := passes_passing host fuel site.entered
  have ran := run_of_idle host fuel site idle
  generalize passes host fuel site.entered = result at passing many ran
  obtain ⟨ends, last⟩ := result
  obtain ⟨going, active, -⟩ := passing.hold (tame.going site.reactor.settings) ⟨rfl, rfl⟩
  refine ⟨starts, ends, last, passing, ?_, ?_, ?_, ?_, many⟩
  · intro start member
    have still := going start member
    exact ⟨passing.calm start member, still.2, pass_shape tame arranges start,
      refuses_of_going tame _ _ (passTurns_hold (tame.going _) start still)⟩
  · exact passing.calls fun start => (pass_shape tame arranges start).calls
  · rintro (rfl | ⟨errno, rfl⟩)
    · rw [ran]
      exact close_shape tame arranges .done (by simp) last active
    · rw [ran]
      exact close_shape tame arranges (.failed errno) (by simp) last active
  · rintro (rfl | rfl)
    · exact ran
    · exact ran

end

end Loop

/-- Every observer asks for a stop, and a socket is both readable and in error. -/
def Host.stopping : Host Unit where
  call _ _ site := (.returned, site.onReactor Reactor.stop)
  poll _ site := (.ready [(⟨3, 0⟩, { input := true, error := true })], site)
  rest site := site

theorem Host.stopping_tame : Host.stopping.Tame where
  keeps _ _ _ := ⟨rfl, [.stop], rfl⟩
  poll _ site := .refl site
  rest site := .refl site

def Site.attended : Site Unit where
  reactor := ({} : Reactor).useAll
    [.add ⟨3, 0⟩ .readable 0, .add ⟨3, 0⟩ .error 1, .add ⟨3, 0⟩ .shutdown 2]
  outside := ()

/-- The pass in which the stop is asked for goes on to the error, and no other pass follows. -/
theorem Loop.run_shape_stopping :
    (Loop.run Host.stopping 5 Site.attended).2.calls =
        [.called ⟨3, 0⟩ ⟨0, .readable, 0⟩ (.ofSocket .readable ⟨3, 0⟩),
          .called ⟨3, 0⟩ ⟨1, .error, 1⟩ (.failure ⟨3, 0⟩ none),
          .called ⟨3, 0⟩ ⟨2, .shutdown, 2⟩ (.ofSocket .shutdown ⟨3, 0⟩)] ∧
      ∃ starts last, Passing Host.stopping Site.attended.entered starts (.done, last) ∧
        Loop.Closes Host.stopping .done last (Loop.run Host.stopping 5 Site.attended) := by
  have ended : (Loop.run Host.stopping 5 Site.attended).1 = .done := by decide
  refine ⟨by decide, ?_⟩
  obtain ⟨starts, ends, last, passing, -, -, closes, others, -⟩ :=
    (Loop.run_shape Host.stopping Host.stopping_tame (fun sockets => List.Perm.refl sockets) 5
      Site.attended).2.2 rfl
  cases ends with
  | done => exact ⟨starts, last, passing, closes (.inl rfl)⟩
  | failed errno =>
    have free := (closes (.inr ⟨errno, rfl⟩)).free (by simp [ended])
    rw [ended] at free
    cases free.1
  | refused => exact absurd rfl passing.not_refused
  | panicked =>
    rw [others (.inl rfl)] at ended
    cases ended
  | unfinished =>
    rw [others (.inr rfl)] at ended
    cases ended

end SocketLoop
