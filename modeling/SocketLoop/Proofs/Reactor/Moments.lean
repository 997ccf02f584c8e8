import SocketLoop.Proofs.Reactor.Turns
import SocketLoop.Proofs.Registry.History

/-! The moments of a pass: where it gets to a report, to a turn, to a registration. What every step
of a loop keeps holds at each of them. A pass ends in one of seven ways. -/
namespace SocketLoop

variable {ω : Type}

/-- A pass gets to what was reported about a socket. -/
structure Moment (ω : Type) where
  socket : Handle
  readiness : Readiness
  site : Site ω

namespace Moment

variable (host : Host ω) (moment : Moment ω)

def report : Handle × Readiness := (moment.socket, moment.readiness)

def turns : List (Turn ω) := Loop.reportTurns host moment.socket moment.readiness moment.site

def result : Ending × Site ω :=
  Loop.dispatchReady host moment.socket moment.readiness moment.site

/-- The registry once the report is taken note of. -/
def registry : Registry :=
  Loop.muteReported moment.site.reactor.registry moment.socket moment.readiness

def notices : List Notification :=
  Loop.notificationsOf moment.socket moment.readiness
    (Loop.unheardHangUp moment.registry moment.socket moment.readiness)

end Moment

/-- A site as a poll finds it: the pass keeps the handles that the poll is asked about. -/
def Site.asking (site : Site ω) : Site ω :=
  site.onReactor fun reactor =>
    { reactor with held := reactor.registry.pollSet.map Interest.socket }

namespace Loop

section

variable (host : Host ω)

def readyMoments : List (Handle × Readiness) → Site ω → List (Moment ω)
  | [], _ => []
  | (socket, readiness) :: rest, site =>
    ⟨socket, readiness, site⟩ :: match dispatchReady host socket readiness site with
      | (.returned, site) => readyMoments rest site
      | (.panicked, _) => []

def passMoments (site : Site ω) : List (Moment ω) :=
  match site.reactor.registry.pollSet with
  | [] => []
  | asked => match host.poll asked site.asking with
    | (.ready reports, polled) =>
      readyMoments host reports (polled.note (.polled asked.length reports.length))
    | _ => []

/-- The site of an idle pass after its sleep. -/
def rested (site : Site ω) : Site ω :=
  if site.reactor.stopRequested then site else host.rest site

/-- The ways in which a pass goes, each with its turns. -/
inductive Exit (site : Site ω) : List (Turn ω) → PassEnd × Site ω → Prop where
  | muffled (nothing : site.reactor.registry.pollSet = [])
      (mute : ((rested host site).reactor.settings.idle &&
        !(rested host site).reactor.stopRequested) = false) :
      Exit site [] (.onward, (rested host site).note .idled)
  | idle (nothing : site.reactor.registry.pollSet = [])
      (enabled : (rested host site).reactor.settings.idle = true)
      (calm : (rested host site).reactor.stopRequested = false) :
      Exit site (broadcastTurns host .idle ((rested host site).note .idled))
        (passEnd (broadcast host .idle ((rested host site).note .idled)))
  | interrupted {after : Site ω} (asks : site.reactor.registry.pollSet ≠ [])
      (polled : host.poll site.reactor.registry.pollSet site.asking = (.interrupted, after)) :
      Exit site [] (.onward, (letGo (.returned, after)).2.note .interrupted)
  | failed {errno : Errno} {after : Site ω} (asks : site.reactor.registry.pollSet ≠ [])
      (polled : host.poll site.reactor.registry.pollSet site.asking = (.failed errno, after)) :
      Exit site [] (.failed errno, (letGo (.returned, after)).2.note (.pollFailed errno))
  | quiet {after : Site ω} (asks : site.reactor.registry.pollSet ≠ [])
      (polled : host.poll site.reactor.registry.pollSet site.asking = (.ready [], after))
      (disabled : after.reactor.settings.timeouts = false) :
      Exit site [] (.onward, (letGo (.returned, after.note
        (.polled site.reactor.registry.pollSet.length 0))).2)
  | timeout {after : Site ω} (asks : site.reactor.registry.pollSet ≠ [])
      (polled : host.poll site.reactor.registry.pollSet site.asking = (.ready [], after))
      (enabled : after.reactor.settings.timeouts = true) :
      Exit site
        (broadcastTurns host .timeout
          (after.note (.polled site.reactor.registry.pollSet.length 0)))
        (passEnd (broadcast host .timeout
          (after.note (.polled site.reactor.registry.pollSet.length 0))))
  | ready {reports : List (Handle × Readiness)} {after : Site ω}
      (asks : site.reactor.registry.pollSet ≠ []) (found : reports ≠ [])
      (polled : host.poll site.reactor.registry.pollSet site.asking = (.ready reports, after)) :
      Exit site
        (readyTurns host reports
          (after.note (.polled site.reactor.registry.pollSet.length reports.length)))
        (passEnd (letGo (readyPass host reports
          (after.note (.polled site.reactor.registry.pollSet.length reports.length)))))

theorem pass_exit (site : Site ω) : Exit host site (passTurns host site) (pass host site) := by
  rw [pass, passTurns]
  cases asked : site.reactor.registry.pollSet with
  | nil =>
    change Exit host site
      (if (rested host site).reactor.settings.idle && !(rested host site).reactor.stopRequested then
        broadcastTurns host .idle ((rested host site).note .idled) else [])
      (if (rested host site).reactor.settings.idle && !(rested host site).reactor.stopRequested then
        passEnd (broadcast host .idle ((rested host site).note .idled))
        else (.onward, (rested host site).note .idled))
    split
    · rename_i reports
      simp only [Bool.and_eq_true, Bool.not_eq_true'] at reports
      exact .idle asked reports.1 reports.2
    · rename_i silent
      exact .muffled asked (by simpa using silent)
  | cons first rest =>
    have asks : site.reactor.registry.pollSet ≠ [] := by simp [asked]
    have asking : (site.onReactor fun reactor =>
        { reactor with held := (first :: rest).map Interest.socket }) = site.asking := by
      rw [Site.asking, ← asked]
      rfl
    simp only [pollPass, asking]
    rw [← asked]
    cases polled : host.poll site.reactor.registry.pollSet site.asking with
    | mk found after =>
      cases found with
      | interrupted => exact .interrupted asks polled
      | failed errno => exact .failed asks polled
      | ready reports =>
        cases reports with
        | nil =>
          dsimp only
          split
          · rename_i enabled
            exact .timeout asks polled enabled
          · rename_i disabled
            exact .quiet asks polled (Bool.eq_false_iff.mpr disabled)
        | cons report others => exact .ready asks (by simp) polled

theorem passMoments_of_nothing (site : Site ω) (nothing : site.reactor.registry.pollSet = []) :
    passMoments host site = [] := by
  rw [passMoments, nothing]

theorem passMoments_of_ready (site : Site ω) (reports : List (Handle × Readiness)) (after : Site ω)
    (asks : site.reactor.registry.pollSet ≠ [])
    (polled : host.poll site.reactor.registry.pollSet site.asking = (.ready reports, after)) :
    passMoments host site = readyMoments host reports
      (after.note (.polled site.reactor.registry.pollSet.length reports.length)) := by
  rw [passMoments]
  split
  · rename_i nothing
    exact absurd nothing asks
  · rw [polled]

theorem passMoments_of_silent (site : Site ω) (silent : ∀ reports,
    (host.poll site.reactor.registry.pollSet site.asking).1 ≠ .ready reports) :
    passMoments host site = [] := by
  rw [passMoments]
  split
  · rfl
  · split
    · rename_i reports after polled
      exact absurd (congrArg Prod.fst polled) (silent reports)
    · rfl

theorem readyTurns_eq (reports : List (Handle × Readiness)) (site : Site ω) :
    readyTurns host reports site =
      (readyMoments host reports site).flatMap fun moment => moment.turns host := by
  induction reports generalizing site with
  | nil => rfl
  | cons report rest ih =>
    cases went : dispatchReady host report.1 report.2 site with
    | mk ending next =>
      simp only [readyTurns, readyMoments, List.flatMap_cons, went]
      cases ending with
      | returned => exact congrArg (_ ++ ·) (ih next)
      | panicked => rfl

/-- A pass gets to the reports in order, and to all of them if nothing panics. -/
theorem readyMoments_reports (reports : List (Handle × Readiness)) (site : Site ω) :
    (readyMoments host reports site).map Moment.report <+: reports ∧
      ((readyPass host reports site).1 = .returned →
        (readyMoments host reports site).map Moment.report = reports) := by
  induction reports generalizing site with
  | nil => exact ⟨List.prefix_refl _, fun _ => rfl⟩
  | cons report rest ih =>
    simp only [readyMoments, readyPass, List.map_cons]
    cases went : dispatchReady host report.1 report.2 site with
    | mk ending next =>
      cases ending with
      | returned =>
        obtain ⟨begins, all⟩ := ih next
        refine ⟨List.cons_prefix_cons.mpr ⟨rfl, begins⟩, ?_⟩
        intro returned
        exact congrArg (report :: ·) (all returned)
      | panicked => exact ⟨List.cons_prefix_cons.mpr ⟨rfl, List.nil_prefix⟩, by simp [andThen]⟩

theorem noticeTurns_notices (socket : Handle) (notifications : List Notification)
    (site : Site ω) :
    (∀ turn ∈ noticeTurns host socket notifications site, turn.socket = socket) ∧
      (noticeTurns host socket notifications site).map Turn.notification <+: notifications ∧
      ((dispatchAll host socket notifications site).1 = .returned →
        (noticeTurns host socket notifications site).map Turn.notification = notifications) := by
  induction notifications generalizing site with
  | nil => exact ⟨by simp [noticeTurns], List.prefix_refl _, fun _ => rfl⟩
  | cons notification rest ih =>
    simp only [noticeTurns, dispatchAll, List.map_cons, List.forall_mem_cons]
    cases went : dispatch host socket notification site with
    | mk ending next =>
      cases ending with
      | returned =>
        obtain ⟨own, begins, all⟩ := ih next
        refine ⟨⟨trivial, own⟩, List.cons_prefix_cons.mpr ⟨rfl, begins⟩, ?_⟩
        intro returned
        exact congrArg (notification :: ·) (all returned)
      | panicked =>
        exact ⟨by simp, List.cons_prefix_cons.mpr ⟨rfl, List.nil_prefix⟩, by simp [andThen]⟩

theorem moment_notices (moment : Moment ω) :
    (∀ turn ∈ moment.turns host, turn.socket = moment.socket) ∧
      (moment.turns host).map Turn.notification <+: moment.notices ∧
      ((moment.result host).1 = .returned →
        (moment.turns host).map Turn.notification = moment.notices) :=
  noticeTurns_notices host moment.socket moment.notices
    (moment.site.onReactor fun reactor => { reactor with registry := moment.registry })

theorem sendTurns_sends (kind : Kind) (kept sockets : List Handle) (site : Site ω) :
    (∀ turn ∈ sendTurns host kind kept sockets site,
        turn.notification = .ofSocket kind turn.socket) ∧
      (sendTurns host kind kept sockets site).map Turn.socket <+: sockets ∧
      ((sendEach host kind kept sockets site).1 = .returned →
        (sendTurns host kind kept sockets site).map Turn.socket = sockets) := by
  induction sockets generalizing site with
  | nil => exact ⟨by simp [sendTurns], List.prefix_refl _, fun _ => rfl⟩
  | cons socket rest ih =>
    simp only [sendTurns, sendEach, List.map_cons, List.forall_mem_cons]
    split
    · rename_i next went
      rw [went]
      obtain ⟨own, begins, all⟩ := ih next
      refine ⟨⟨trivial, own⟩, List.cons_prefix_cons.mpr ⟨rfl, begins⟩, ?_⟩
      intro returned
      exact congrArg (socket :: ·) (all returned)
    · rename_i next went
      rw [went]
      exact ⟨by simp, List.cons_prefix_cons.mpr ⟨rfl, List.nil_prefix⟩, by simp [andThen]⟩

end

section

variable {host : Host ω} {holds : Site ω → Prop} (keeps : host.Minds holds)

include keeps

theorem visits_hold (socket : Handle) (notification : Notification) (list : List Armed)
    (site : Site ω) (before : holds site) :
    ∀ visit ∈ visits host socket notification list site, holds visit.2 := by
  induction list generalizing site with
  | nil => simp [visits]
  | cons armed rest ih =>
    have begun := keeps.arm (armed :: rest) site before
    have called := callOne_preserves keeps socket notification armed _ begun
    simp only [visits, List.forall_mem_cons]
    refine ⟨begun, ?_⟩
    split <;> rename_i after result <;> rw [result] at called
    · exact ih after called
    · simp

theorem noticeTurns_hold (socket : Handle) (notifications : List Notification) (site : Site ω)
    (before : holds site) :
    ∀ turn ∈ noticeTurns host socket notifications site, holds turn.start := by
  induction notifications generalizing site with
  | nil => simp [noticeTurns]
  | cons notification rest ih =>
    have dispatched := dispatch_preserves keeps socket notification site before
    simp only [noticeTurns, List.forall_mem_cons]
    refine ⟨before, ?_⟩
    split <;> rename_i after result <;> rw [result] at dispatched
    · exact ih after dispatched
    · simp

theorem sendTurns_hold (kind : Kind) (kept sockets : List Handle) (site : Site ω)
    (before : holds site) : ∀ turn ∈ sendTurns host kind kept sockets site, holds turn.start := by
  induction sockets generalizing site with
  | nil => simp [sendTurns]
  | cons socket rest ih =>
    have held := keeps.hold (socket :: rest ++ kept) site before
    have dispatched := dispatch_preserves keeps socket (.ofSocket kind socket) _ held
    simp only [sendTurns, List.forall_mem_cons]
    refine ⟨held, ?_⟩
    split <;> rename_i after result <;> rw [result] at dispatched
    · exact ih after dispatched
    · simp

theorem rested_hold (site : Site ω) (before : holds site) : holds (rested host site) := by
  rw [rested]
  split
  · exact before
  · exact keeps.rest site before

end

section

variable {host : Host ω} {holds : Site ω → Prop} (keeps : host.Guards holds)

include keeps

theorem moment_hold (moment : Moment ω) (before : holds moment.site) :
    ∀ turn ∈ moment.turns host, holds turn.start :=
  noticeTurns_hold keeps.toMinds _ _ _ (keeps.mute _ _ _ before)

theorem readyMoments_hold (reports : List (Handle × Readiness)) (site : Site ω)
    (before : holds site) : ∀ moment ∈ readyMoments host reports site, holds moment.site := by
  induction reports generalizing site with
  | nil => simp [readyMoments]
  | cons report rest ih =>
    have dispatched : holds (dispatchReady host report.1 report.2 site).2 :=
      dispatchAll_preserves keeps.toMinds _ _ _ (keeps.mute report.1 report.2 site before)
    simp only [readyMoments, List.forall_mem_cons]
    refine ⟨before, ?_⟩
    split <;> rename_i after result <;> rw [result] at dispatched
    · exact ih after dispatched
    · simp

theorem passTurns_hold (site : Site ω) (before : holds site) :
    ∀ turn ∈ passTurns host site, holds turn.start := by
  have polled := keeps.poll site.reactor.registry.pollSet site.asking (keeps.hold _ _ before)
  have exit := pass_exit host site
  generalize passTurns host site = turns, pass host site = result at exit
  cases exit with
  | muffled => simp
  | idle =>
    have slept := rested_hold keeps.toMinds site before
    exact sendTurns_hold keeps.toMinds _ _ _ _ (keeps.note _ _ slept)
  | interrupted => simp
  | failed => simp
  | quiet => simp
  | timeout _ went =>
    rw [went] at polled
    exact sendTurns_hold keeps.toMinds _ _ _ _ (keeps.note _ _ polled)
  | ready _ _ went =>
    rw [went] at polled
    intro turn member
    rw [readyTurns_eq] at member
    obtain ⟨moment, reached, own⟩ := List.mem_flatMap.mp member
    exact moment_hold keeps moment
      (readyMoments_hold keeps _ _ (keeps.note _ _ polled) moment reached) turn own

theorem passMoments_hold (site : Site ω) (before : holds site) :
    ∀ moment ∈ passMoments host site, holds moment.site := by
  have polled := keeps.poll site.reactor.registry.pollSet site.asking (keeps.hold _ _ before)
  simp only [passMoments]
  split
  · simp
  · split
    · rename_i reports after result
      rw [result] at polled
      exact readyMoments_hold keeps reports _ (keeps.note _ _ polled)
    · simp

end

end Loop

/-- The reactor has neither a snapshot nor handles in its hands, as outside of passes. -/
structure Site.AtRest (site : Site ω) : Prop where
  armed : site.reactor.armed = []
  held : site.reactor.held = []

namespace Loop

section

variable (host : Host ω)

theorem deliver_armed (socket : Handle) (notification : Notification) (list : List Armed)
    (site : Site ω) : (deliver host socket notification list site).2.reactor.armed = [] := by
  induction list generalizing site with
  | nil => rfl
  | cons armed rest ih =>
    rw [deliver]
    split
    · exact ih _
    · rfl

theorem dispatchAll_armed (socket : Handle) (notifications : List Notification) (site : Site ω)
    (before : site.reactor.armed = []) :
    (dispatchAll host socket notifications site).2.reactor.armed = [] := by
  induction notifications generalizing site with
  | nil => exact before
  | cons notification rest ih =>
    exact andThen_preserves
      (deliver_armed host socket notification _ site) ih

theorem sendEach_armed (kind : Kind) (kept sockets : List Handle) (site : Site ω)
    (before : site.reactor.armed = []) :
    (sendEach host kind kept sockets site).2.reactor.armed = [] := by
  induction sockets generalizing site with
  | nil => exact before
  | cons socket rest ih =>
    exact andThen_preserves
      (deliver_armed host socket (.ofSocket kind socket) _ _) ih

theorem readyPass_armed (reports : List (Handle × Readiness)) (site : Site ω)
    (before : site.reactor.armed = []) :
    (readyPass host reports site).2.reactor.armed = [] := by
  induction reports generalizing site with
  | nil => exact before
  | cons report rest ih =>
    have gone : (dispatchReady host report.1 report.2 site).2.reactor.armed = [] :=
      dispatchAll_armed host report.1 _ _ before
    exact andThen_preserves gone ih

theorem broadcast_at_rest (kind : Kind) (site : Site ω) (before : site.reactor.armed = []) :
    (broadcast host kind site).2.AtRest :=
  ⟨sendEach_armed host kind _ _ site before, rfl⟩

/-- A pass lets go of all that it took, however it ends. -/
theorem pass_at_rest (site : Site ω) (before : site.AtRest) (slept : (host.rest site).AtRest)
    (polled : (host.poll site.reactor.registry.pollSet site.asking).2.reactor.armed = []) :
    (pass host site).2.AtRest := by
  have woken : (rested host site).AtRest := by
    rw [rested]
    split
    · exact before
    · exact slept
  have exit := pass_exit host site
  generalize passTurns host site = turns, pass host site = result at exit
  cases exit with
  | muffled => exact ⟨woken.armed, woken.held⟩
  | idle =>
    rw [passEnd_site]
    exact broadcast_at_rest host .idle _ woken.armed
  | interrupted _ went | failed _ went | quiet _ went _ =>
    rw [went] at polled
    exact ⟨polled, rfl⟩
  | timeout _ went =>
    rw [went] at polled
    rw [passEnd_site]
    exact broadcast_at_rest host .timeout _ polled
  | ready _ _ went =>
    rw [went] at polled
    rw [passEnd_site]
    exact ⟨readyPass_armed host _ _ polled, rfl⟩

theorem close_at_rest (result : RunEnd) (site : Site ω) (before : site.AtRest) :
    (close host result site).2.AtRest := by
  have sent := broadcast_at_rest host .shutdown site before.armed
  rw [close]
  split <;> rename_i after ended <;> rw [ended] at sent
  · exact ⟨sent.armed, sent.held⟩
  · exact sent

end

end Loop

/-- What every use of a reactor keeps, and the own steps of a dispatch, a tame host keeps. -/
theorem Host.Tame.minds {host : Host ω} (tame : host.Tame) (holds : Reactor → Prop)
    (use : ∀ reactor use, holds reactor → holds (Reactor.use reactor use))
    (flight : ∀ reactor inFlight, holds reactor → holds { reactor with inFlight })
    (arm : ∀ reactor armed, holds reactor → holds { reactor with armed })
    (hold : ∀ reactor held, holds reactor → holds { reactor with held }) :
    host.Minds fun site => holds site.reactor := by
  have used : ∀ (uses : List Reactor.Use) (reactor : Reactor), holds reactor →
      holds (reactor.useAll uses) := by
    intro uses
    induction uses with
    | nil => exact fun _ => id
    | cons first rest ih => exact fun reactor before => ih _ (use reactor first before)
  have reached : ∀ site after : Site ω, site.Reaches after → holds site.reactor →
      holds after.reactor := by
    rintro site after ⟨-, uses, made⟩ before
    rw [made]
    exact used uses site.reactor before
  exact {
    call := fun armed notification site => reached _ _ (tame.keeps armed notification site)
    poll := fun asked site => reached _ _ (tame.poll asked site)
    rest := fun site => reached _ _ (tame.rest site)
    note := fun _ _ => id
    begins := fun _ armed _ site before _ => flight site.reactor (some armed.number) before
    finish := fun site => flight site.reactor none
    arm := fun armed site => arm site.reactor armed
    hold := fun held site => hold site.reactor held }

/-- What adding and removing keep holds of a tame host's registry as long as nothing is muted. -/
theorem Host.Tame.minds_registry {host : Host ω} (tame : host.Tame) (holds : Registry → Prop)
    (add : ∀ registry socket kind observer, holds registry →
      holds (Registry.change registry (.add socket kind observer)))
    (remove : ∀ registry socket kind observer, holds registry →
      holds (Registry.change registry (.remove socket kind observer))) :
    host.Minds fun site => holds site.reactor.registry := by
  refine tame.minds (fun reactor => holds reactor.registry) ?_ (fun _ _ => id) (fun _ _ => id)
    fun _ _ => id
  intro reactor use before
  cases use with
  | add socket kind observer => exact add _ socket kind observer before
  | remove socket kind observer => exact remove _ socket kind observer before
  | stop => exact before

/-- What every change of a registry keeps holds of a tame host's registry throughout. -/
theorem Host.Tame.preserves {host : Host ω} (tame : host.Tame) (holds : Registry → Prop)
    (keeps : ∀ registry change, holds registry → holds (Registry.change registry change)) :
    host.Preserves fun site => holds site.reactor.registry where
  toMinds := tame.minds_registry holds
    (fun _ socket kind observer => keeps _ (.add socket kind observer))
    fun _ socket kind observer => keeps _ (.remove socket kind observer)
  mute socket readiness _ := keeps _ (.report socket readiness)
  enter := by
    intro reactor site before entered
    simp only [Reactor.enter?, Option.ite_none_left_eq_some, Option.some.injEq] at entered
    obtain ⟨-, rfl⟩ := entered
    exact before
  clearStop _ := id
  leave _ := id

/-- A run that is going on goes on, whatever is asked of its reactor, and its settings stay. -/
theorem Host.Tame.going {host : Host ω} (tame : host.Tame) (settings : Settings) :
    host.Guards fun site => site.reactor.active = true ∧ site.reactor.settings = settings where
  toMinds := by
    refine tame.minds (fun reactor => reactor.active = true ∧ reactor.settings = settings)
      ?_ (fun _ _ => id) (fun _ _ => id) fun _ _ => id
    intro reactor use before
    cases use <;> exact before
  mute _ _ _ := id

end SocketLoop
