import SocketLoop.Proofs.Reactor.Preserve

/-! The turns of a pass. Each turn is one dispatch, to one socket for one notification, and calls
what its snapshot holds and what is live when the turn gets to it. -/
namespace SocketLoop

variable {ω : Type}

def Event.isCall : Event → Bool
  | .called _ _ _ => true
  | _ => false

def Site.calls (site : Site ω) : List Event := site.journal.reverse.filter Event.isCall

namespace Loop

/-- The registrations that a dispatch gets to, each with the site as it is then. -/
def visits (host : Host ω) (socket : Handle) (notification : Notification) :
    List Armed → Site ω → List (Armed × Site ω)
  | [], _ => []
  | armed :: rest, site =>
    let site := site.onReactor fun reactor => { reactor with armed := armed :: rest }
    (armed, site) :: match callOne host socket notification armed site with
      | (.returned, site) => visits host socket notification rest site
      | (.panicked, _) => []

end Loop

/-- One site comes from another one by the own steps of a loop: the calls and the registrations
are the same. -/
structure Site.Same (before after : Site ω) : Prop where
  calls : after.calls = before.calls
  later : before.reactor.registry.Later after.reactor.registry
  rows : after.reactor.registry.rows = before.reactor.registry.rows
  next : after.reactor.registry.next = before.reactor.registry.next

structure Turn (ω : Type) where
  socket : Handle
  notification : Notification
  start : Site ω

namespace Turn

variable (host : Host ω) (turn : Turn ω)

def result : Ending × Site ω := Loop.dispatch host turn.socket turn.notification turn.start

def snapshot : List Armed :=
  turn.start.reactor.registry.snapshot turn.socket.descriptor turn.notification.kind

def called : List Armed :=
  ((Loop.visits host turn.socket turn.notification turn.snapshot turn.start).filter fun visit =>
    visit.2.reactor.registry.isLive visit.1.number).map Prod.fst

def calls : List Event :=
  (turn.called host).map fun armed => .called turn.socket armed turn.notification

end Turn

namespace Loop

variable (host : Host ω)

def noticeTurns (socket : Handle) : List Notification → Site ω → List (Turn ω)
  | [], _ => []
  | notification :: rest, site =>
    ⟨socket, notification, site⟩ :: match dispatch host socket notification site with
      | (.returned, site) => noticeTurns socket rest site
      | (.panicked, _) => []

def reportTurns (socket : Handle) (readiness : Readiness) (site : Site ω) : List (Turn ω) :=
  let registry := muteReported site.reactor.registry socket readiness
  noticeTurns host socket
    (notificationsOf socket readiness (unheardHangUp registry socket readiness))
    (site.onReactor fun reactor => { reactor with registry })

def readyTurns : List (Handle × Readiness) → Site ω → List (Turn ω)
  | [], _ => []
  | (socket, readiness) :: rest, site =>
    reportTurns host socket readiness site ++
      match dispatchReady host socket readiness site with
      | (.returned, site) => readyTurns rest site
      | (.panicked, _) => []

def sendTurns (kind : Kind) (kept : List Handle) : List Handle → Site ω → List (Turn ω)
  | [], _ => []
  | socket :: rest, site =>
    let site := site.onReactor fun reactor => { reactor with held := socket :: rest ++ kept }
    ⟨socket, .ofSocket kind socket, site⟩ ::
      match dispatch host socket (.ofSocket kind socket) site with
      | (.returned, site) => sendTurns kind kept rest site
      | (.panicked, _) => []

def broadcastTurns (kind : Kind) (site : Site ω) : List (Turn ω) :=
  sendTurns host kind site.reactor.held (host.arrange (site.reactor.registry.observing kind)) site

def passTurns (site : Site ω) : List (Turn ω) :=
  match site.reactor.registry.pollSet with
  | [] =>
    let site := if site.reactor.stopRequested then site else host.rest site
    let site := site.note .idled
    if site.reactor.settings.idle && !site.reactor.stopRequested then
      broadcastTurns host .idle site
    else []
  | first :: rest =>
    let asked := first :: rest
    let site := site.onReactor fun reactor => { reactor with held := asked.map Interest.socket }
    match host.poll asked site with
    | (.interrupted, _) | (.failed _, _) => []
    | (.ready [], site) =>
      let site := site.note (.polled asked.length 0)
      if site.reactor.settings.timeouts then broadcastTurns host .timeout site else []
    | (.ready (first :: rest), site) =>
      readyTurns host (first :: rest) (site.note (.polled asked.length (rest.length + 1)))

end Loop

/-- Turns that follow each other with nothing between them but own steps of the loop. The last one
may have ended in a panic. -/
inductive Turning (host : Host ω) : Site ω → List (Turn ω) → Ending × Site ω → Prop where
  | rest (site : Site ω) : Turning host site [] (.returned, site)
  | own {before after : Site ω} {turns : List (Turn ω)} {result : Ending × Site ω}
      (same : before.Same after) (turning : Turning host after turns result) :
      Turning host before turns result
  | turn {socket : Handle} {notification : Notification} {site next : Site ω}
      {turns : List (Turn ω)} {result : Ending × Site ω}
      (went : Loop.dispatch host socket notification site = (.returned, next))
      (turning : Turning host next turns result) :
      Turning host site (⟨socket, notification, site⟩ :: turns) result
  | panic {socket : Handle} {notification : Notification} {site next : Site ω}
      (went : Loop.dispatch host socket notification site = (.panicked, next)) :
      Turning host site [⟨socket, notification, site⟩] (.panicked, next)
  | close {before : Site ω} {turns : List (Turn ω)} {ending : Ending} {site after : Site ω}
      (turning : Turning host before turns (ending, site)) (same : site.Same after) :
      Turning host before turns (ending, after)

namespace Site

theorem same_of_registry {before after : Site ω} (journal : after.journal = before.journal)
    (registry : after.reactor.registry = before.reactor.registry) : before.Same after := by
  refine ⟨?_, ?_, ?_, ?_⟩
  · simp only [calls, journal]
  · rw [registry]
    exact .refl _
  · rw [registry]
  · rw [registry]

theorem same_hold (site : Site ω) (held : List Handle) :
    site.Same (site.onReactor fun reactor => { reactor with held }) :=
  same_of_registry rfl rfl

theorem same_note (site : Site ω) (event : Event) (silent : event.isCall = false) :
    site.Same (site.note event) := by
  refine ⟨?_, .refl _, rfl, rfl⟩
  simp [calls, note, silent]

theorem same_mute (site : Site ω) (socket : Handle) (readiness : Readiness) :
    site.Same (site.onReactor fun reactor =>
      { reactor with registry := Loop.muteReported reactor.registry socket readiness }) := by
  refine ⟨rfl, ?_, ?_, ?_⟩
  · simp only [onReactor, Loop.muteReported]
    split
    · exact Registry.later_mute _ _ _
    · exact .refl _
  · simp only [onReactor, Loop.muteReported]
    split
    · exact Registry.mute_rows _ _ _
    · rfl
  · simp only [onReactor, Loop.muteReported]
    split <;> rfl

theorem Reaches.calls {before after : Site ω} (reaches : before.Reaches after) :
    after.calls = before.calls := by
  rw [Site.calls, reaches.1]
  rfl

theorem Reaches.later {before after : Site ω} (reaches : before.Reaches after)
    (sound : before.reactor.registry.Sound) :
    before.reactor.registry.Later after.reactor.registry := by
  obtain ⟨-, uses, made⟩ := reaches
  rw [made]
  exact before.reactor.useAll_later sound uses

end Site

namespace Loop

variable {host : Host ω} (keeps : host.Keeps) (socket : Handle) (notification : Notification)

include keeps

theorem callOne_calls (armed : Armed) (site : Site ω) :
    (callOne host socket notification armed site).2.calls = site.calls ++
      if site.reactor.registry.isLive armed.number then [.called socket armed notification]
      else [] := by
  by_cases dead : armed.number ∈ site.reactor.registry.cleared
  · simp [callOne_of_dead host socket notification armed site dead, Registry.isLive, dead]
  · have called := (keeps armed notification (site.begin socket armed notification)).calls
    simp only [callOne_of_live host socket notification armed site dead, Registry.isLive]
    simp only [Site.calls, Site.onReactor] at called ⊢
    rw [called]
    simp [Site.begin, Site.note, Event.isCall, dead]

theorem callOne_later (armed : Armed) (site : Site ω) (sound : site.reactor.registry.Sound) :
    site.reactor.registry.Later
      (callOne host socket notification armed site).2.reactor.registry := by
  by_cases dead : armed.number ∈ site.reactor.registry.cleared
  · rw [callOne_of_dead host socket notification armed site dead]
    exact .refl _
  · rw [callOne_of_live host socket notification armed site dead]
    exact (keeps armed notification (site.begin socket armed notification)).later sound

theorem deliver_later (list : List Armed) (site : Site ω) (sound : site.reactor.registry.Sound) :
    site.reactor.registry.Later (deliver host socket notification list site).2.reactor.registry := by
  induction list generalizing site with
  | nil => exact .refl _
  | cons armed rest ih =>
    have called := callOne_later keeps socket notification armed
      (site.onReactor fun reactor => { reactor with armed := armed :: rest }) sound
    rw [deliver]
    split <;> rename_i after result <;> rw [result] at called
    · exact called.trans (ih after (called.sound sound))
    · exact called

theorem deliver_calls (list : List Armed) (site : Site ω) :
    (deliver host socket notification list site).2.calls = site.calls ++
      ((visits host socket notification list site).filter fun visit =>
        visit.2.reactor.registry.isLive visit.1.number).map fun visit =>
          .called socket visit.1 notification := by
  induction list generalizing site with
  | nil => simp [deliver, visits, Site.calls, Site.onReactor]
  | cons armed rest ih =>
    have called := callOne_calls keeps socket notification armed
      (site.onReactor fun reactor => { reactor with armed := armed :: rest })
    have begun : (site.onReactor fun reactor =>
      { reactor with armed := armed :: rest }).calls = site.calls := rfl
    cases result : callOne host socket notification armed
        (site.onReactor fun reactor => { reactor with armed := armed :: rest }) with
    | mk ending after =>
      rw [result, begun] at called
      simp only [deliver, visits, result, List.filter_cons]
      cases ending with
      | returned =>
        dsimp only
        rw [ih, called]
        split <;> simp
      | panicked =>
        refine Eq.trans (b := after.calls) rfl ?_
        rw [called]
        split <;> simp

omit keeps in
/-- A dispatch gets to its snapshot in order, and to all of it if nothing panics. -/
theorem visits_prefix (list : List Armed) (site : Site ω) :
    (visits host socket notification list site).map Prod.fst <+: list ∧
      ((deliver host socket notification list site).1 = .returned →
        (visits host socket notification list site).map Prod.fst = list) := by
  induction list generalizing site with
  | nil => exact ⟨List.prefix_refl _, fun _ => rfl⟩
  | cons armed rest ih =>
    cases result : callOne host socket notification armed
        (site.onReactor fun reactor => { reactor with armed := armed :: rest }) with
    | mk ending after =>
      simp only [deliver, visits, result, List.map_cons]
      cases ending with
      | returned =>
        obtain ⟨begins, all⟩ := ih after
        refine ⟨List.cons_prefix_cons.mpr ⟨rfl, begins⟩, ?_⟩
        intro returned
        exact congrArg (armed :: ·) (all returned)
      | panicked => exact ⟨List.cons_prefix_cons.mpr ⟨rfl, List.nil_prefix⟩, by simp⟩

/-- What is live in the end was live when the dispatch got to it. -/
theorem visits_later (list : List Armed) (site : Site ω) (sound : site.reactor.registry.Sound)
    (visit : Armed × Site ω) (visited : visit ∈ visits host socket notification list site) :
    visit.2.reactor.registry.cleared ⊆
      (deliver host socket notification list site).2.reactor.registry.cleared := by
  induction list generalizing site with
  | nil => cases visited
  | cons armed rest ih =>
    have called := callOne_later keeps socket notification armed
      (site.onReactor fun reactor => { reactor with armed := armed :: rest }) sound
    have delivered := deliver_later keeps socket notification (armed :: rest) site sound
    rcases List.mem_cons.mp visited with rfl | later
    · exact delivered.cleared
    · split at later <;> rename_i after result <;> rw [result] at called
      · simp only [deliver, result]
        exact ih after (called.sound sound) later
      · cases later

end Loop

namespace Turn

variable {host : Host ω} (turn : Turn ω)

theorem called_sublist : (turn.called host).Sublist turn.snapshot :=
  (List.filter_sublist.map Prod.fst).trans
    (Loop.visits_prefix turn.socket turn.notification turn.snapshot turn.start).1.sublist

section

variable (keeps : host.Keeps)

include keeps

theorem result_calls : (turn.result host).2.calls = turn.start.calls ++ turn.calls host := by
  rw [result, Loop.dispatch, Loop.deliver_calls keeps, calls, called, List.map_map]
  rfl

variable (sound : turn.start.reactor.registry.Sound)

include sound

theorem result_later :
    turn.start.reactor.registry.Later (turn.result host).2.reactor.registry :=
  Loop.deliver_later keeps turn.socket turn.notification _ turn.start sound

/-- A turn calls what is in its snapshot and is live when the turn is over. -/
theorem called_of_live (returned : (turn.result host).1 = .returned) (armed : Armed)
    (member : armed ∈ turn.snapshot)
    (live : armed.number ∉ (turn.result host).2.reactor.registry.cleared) :
    armed ∈ turn.called host := by
  have all := (Loop.visits_prefix turn.socket turn.notification turn.snapshot turn.start).2 returned
  rw [← all] at member
  obtain ⟨visit, visited, rfl⟩ := List.mem_map.mp member
  refine List.mem_map.mpr ⟨visit, List.mem_filter.mpr ⟨visited, ?_⟩, rfl⟩
  have kept := Loop.visits_later keeps turn.socket turn.notification turn.snapshot turn.start sound
    visit visited
  rw [Registry.isLive_iff]
  exact fun gone => live (kept gone)

omit keeps

/-- A turn calls only what was registered before it began. -/
theorem called_before (armed : Armed) (member : armed ∈ turn.called host) :
    armed.number < turn.start.reactor.registry.next := by
  have inside := turn.called_sublist.subset member
  exact sound.issued _ ((Registry.mem_snapshot _ sound _ _ _).mp inside).1

end

end Turn

namespace Turning

variable {host : Host ω} {site : Site ω} {turns : List (Turn ω)} {result : Ending × Site ω}

theorem append {others : List (Turn ω)} {between : Ending × Site ω}
    (first : Turning host site turns between) (returned : between.1 = .returned)
    (second : Turning host between.2 others result) :
    Turning host site (turns ++ others) result := by
  induction first with
  | rest site => exact second
  | own same _ ih => exact .own same (ih returned second)
  | turn went _ ih => exact .turn went (ih returned second)
  | panic went => cases returned
  | close _ same ih => exact ih returned (.own same second)

theorem returned (turning : Turning host site turns result) (fine : result.1 = .returned) :
    ∀ turn ∈ turns, (turn.result host).1 = .returned := by
  induction turning with
  | rest site => simp
  | own same _ ih => exact ih fine
  | turn went _ ih =>
    intro turn member
    rcases List.mem_cons.mp member with rfl | later
    · exact congrArg Prod.fst went
    · exact ih fine turn later
  | panic went => cases fine
  | close _ same ih => exact ih fine

variable (keeps : host.Keeps)

include keeps

theorem calls (turning : Turning host site turns result) :
    result.2.calls = site.calls ++ turns.flatMap fun turn => turn.calls host := by
  induction turning with
  | rest site => simp
  | own same _ ih => rw [ih, same.calls]
  | @turn socket notification site next turns result went _ ih =>
    have called := Turn.result_calls ⟨socket, notification, site⟩ keeps
    rw [Turn.result, went] at called
    rw [ih, called, List.flatMap_cons, List.append_assoc]
  | @panic socket notification site next went =>
    have called := Turn.result_calls ⟨socket, notification, site⟩ keeps
    rw [Turn.result, went] at called
    simpa using called
  | close _ same ih => rw [same.calls, ih]

/-- Turns follow each other in time. -/
theorem later (turning : Turning host site turns result) (sound : site.reactor.registry.Sound) :
    site.reactor.registry.Later result.2.reactor.registry ∧
    (∀ turn ∈ turns, site.reactor.registry.Later turn.start.reactor.registry ∧
      (turn.result host).2.reactor.registry.Later result.2.reactor.registry) ∧
    turns.Pairwise fun earlier later =>
      (earlier.result host).2.reactor.registry.Later later.start.reactor.registry := by
  induction turning with
  | rest site => exact ⟨.refl _, by simp, .nil⟩
  | own same _ ih =>
    obtain ⟨later, inside, ordered⟩ := ih (same.later.sound sound)
    refine ⟨same.later.trans later, ?_, ordered⟩
    intro turn member
    exact ⟨same.later.trans (inside turn member).1, (inside turn member).2⟩
  | @turn socket notification site next turns result went _ ih =>
    have made := Turn.result_later ⟨socket, notification, site⟩ keeps sound
    rw [Turn.result, went] at made
    obtain ⟨later, inside, ordered⟩ := ih (made.sound sound)
    refine ⟨made.trans later, ?_, List.pairwise_cons.mpr ⟨?_, ordered⟩⟩
    · intro turn member
      rcases List.mem_cons.mp member with rfl | other
      · refine ⟨.refl _, ?_⟩
        rw [Turn.result, went]
        exact later
      · exact ⟨made.trans (inside turn other).1, (inside turn other).2⟩
    · intro turn member
      rw [Turn.result, went]
      exact (inside turn member).1
  | @panic socket notification site next went =>
    have made := Turn.result_later ⟨socket, notification, site⟩ keeps sound
    rw [Turn.result, went] at made
    refine ⟨made, ?_, List.pairwise_singleton _ _⟩
    intro turn member
    rw [List.mem_singleton.mp member, Turn.result, went]
    exact ⟨.refl _, .refl _⟩
  | close _ same ih =>
    obtain ⟨later, inside, ordered⟩ := ih sound
    refine ⟨later.trans same.later, ?_, ordered⟩
    intro turn member
    exact ⟨(inside turn member).1, (inside turn member).2.trans same.later⟩

end Turning

namespace Loop

variable (host : Host ω)

theorem notices_turning (socket : Handle) (notifications : List Notification) (site : Site ω) :
    Turning host site (noticeTurns host socket notifications site)
      (dispatchAll host socket notifications site) := by
  induction notifications generalizing site with
  | nil => exact .rest site
  | cons notification rest ih =>
    cases went : dispatch host socket notification site with
    | mk ending next =>
      simp only [dispatchAll, noticeTurns, went]
      cases ending with
      | returned => exact .turn went (ih next)
      | panicked => exact .panic went

theorem report_turning (socket : Handle) (readiness : Readiness) (site : Site ω) :
    Turning host site (reportTurns host socket readiness site)
      (dispatchReady host socket readiness site) :=
  .own (site.same_mute socket readiness) (notices_turning host socket _ _)

theorem ready_turning (reports : List (Handle × Readiness)) (site : Site ω) :
    Turning host site (readyTurns host reports site) (readyPass host reports site) := by
  induction reports generalizing site with
  | nil => exact .rest site
  | cons report rest ih =>
    have first := report_turning host report.1 report.2 site
    cases went : dispatchReady host report.1 report.2 site with
    | mk ending next =>
      rw [went] at first
      simp only [readyPass, readyTurns, went]
      cases ending with
      | returned => exact first.append rfl (ih next)
      | panicked => simpa [andThen] using first

theorem send_turning (kind : Kind) (kept sockets : List Handle) (site : Site ω) :
    Turning host site (sendTurns host kind kept sockets site)
      (sendEach host kind kept sockets site) := by
  induction sockets generalizing site with
  | nil => exact .rest site
  | cons socket rest ih =>
    refine .own (site.same_hold (socket :: rest ++ kept)) ?_
    simp only [sendEach, sendTurns]
    split
    · rename_i next went
      rw [went]
      exact .turn went (ih next)
    · rename_i next went
      rw [went]
      exact .panic went

theorem broadcast_turning (kind : Kind) (site : Site ω) :
    Turning host site (broadcastTurns host kind site) (broadcast host kind site) :=
  .close (send_turning host kind _ _ site) (Site.same_hold _ _)

theorem passEnd_panicked (result : Ending × Site ω) (fine : (passEnd result).1 ≠ .panicked) :
    result.1 = .returned := by
  obtain ⟨ending, site⟩ := result
  cases ending with
  | returned => rfl
  | panicked => exact absurd rfl fine

end Loop

structure Site.Silent (before after : Site ω) : Prop where
  calls : after.calls = before.calls
  later : before.reactor.registry.Later after.reactor.registry

theorem Site.Same.silent {before after : Site ω} (same : before.Same after) :
    before.Silent after := ⟨same.calls, same.later⟩

theorem Site.Reaches.silent {before after : Site ω} (reaches : before.Reaches after)
    (sound : before.reactor.registry.Sound) : before.Silent after :=
  ⟨reaches.calls, reaches.later sound⟩

theorem Site.Silent.trans {before between after : Site ω} (first : before.Silent between)
    (second : between.Silent after) : before.Silent after :=
  ⟨second.calls.trans first.calls, first.later.trans second.later⟩

/-- A pass is some turns, after steps that call nobody. -/
structure Passed (host : Host ω) (site : Site ω) (turns : List (Turn ω))
    (result : Loop.PassEnd × Site ω) : Prop where
  turning : ∃ start ending, site.Silent start ∧ Turning host start turns (ending, result.2) ∧
    (result.1 ≠ .panicked → ending = .returned)

namespace Loop

variable {host : Host ω}

theorem passed_of_turning {site start : Site ω} {turns : List (Turn ω)}
    {result : Ending × Site ω} (silent : site.Silent start)
    (turning : Turning host start turns result) : Passed host site turns (passEnd result) := by
  refine ⟨start, result.1, silent, ?_, passEnd_panicked result⟩
  rw [passEnd_site]
  exact turning

theorem passed_of_silent {site start : Site ω} (ending : PassEnd) (silent : site.Silent start) :
    Passed host site [] (ending, start) :=
  ⟨start, .returned, silent, .rest start, fun _ => rfl⟩

variable (tame : host.Tame) (site : Site ω) (sound : site.reactor.registry.Sound)

include tame sound

theorem pass_turning : Passed host site (passTurns host site) (pass host site) := by
  rw [pass, passTurns]
  cases site.reactor.registry.pollSet with
  | nil =>
    have rested : site.Silent (if site.reactor.stopRequested then site else host.rest site) := by
      split
      · exact (Site.Reaches.refl site).silent sound
      · exact (tame.rest site).silent sound
    simp only [idlePass]
    generalize (if site.reactor.stopRequested then site else host.rest site) = between at rested ⊢
    have noted := rested.trans (between.same_note .idled rfl).silent
    split
    · exact passed_of_turning noted (broadcast_turning host .idle _)
    · exact passed_of_silent .onward noted
  | cons first rest =>
    have polled := (site.same_hold ((first :: rest).map Interest.socket)).silent.trans
      ((tame.poll (first :: rest) _).silent sound)
    simp only [pollPass]
    cases result : host.poll (first :: rest) (site.onReactor fun reactor =>
      { reactor with held := (first :: rest).map Interest.socket }) with
    | mk found after =>
      rw [result] at polled
      have free := polled.trans (after.same_hold []).silent
      cases found with
      | interrupted => exact passed_of_silent _ (free.trans (Site.same_note _ _ rfl).silent)
      | failed errno => exact passed_of_silent _ (free.trans (Site.same_note _ _ rfl).silent)
      | ready reports =>
        have noted := polled.trans
          (after.same_note (.polled (first :: rest).length reports.length) rfl).silent
        cases reports with
        | nil =>
          dsimp only
          split
          · exact passed_of_turning noted (broadcast_turning host .timeout _)
          · exact passed_of_silent .onward (noted.trans (Site.same_hold _ []).silent)
        | cons report others =>
          exact passed_of_turning noted (.close (ready_turning host _ _) (Site.same_hold _ []))

end Loop

end SocketLoop
