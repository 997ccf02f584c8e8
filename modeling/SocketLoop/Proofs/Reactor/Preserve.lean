import SocketLoop.Proofs.Reactor.Uses

/-! What a run keeps. A property of sites that every call, poll and sleep of a host keeps, and the
steps that the loop takes itself, holds wherever a run ends. What the steps of dispatches keep, the
steps of passes and those of runs is told apart: broadcasts mute nothing, and only a run as a whole
comes and goes. -/
namespace SocketLoop

variable {ω : Type}

structure Host.Minds (host : Host ω) (holds : Site ω → Prop) : Prop where
  call : ∀ armed notification site, holds site → holds (host.call armed notification site).2
  poll : ∀ asked site, holds site → holds (host.poll asked site).2
  rest : ∀ site, holds site → holds (host.rest site)
  note : ∀ event site, holds site → holds (site.note event)
  begins : ∀ socket armed notification site, holds site →
    armed.number ∉ site.reactor.registry.cleared → holds (site.begin socket armed notification)
  finish : ∀ site, holds site → holds (site.onReactor Reactor.finish)
  arm : ∀ armed site, holds site → holds (site.onReactor fun reactor => { reactor with armed })
  hold : ∀ held site, holds site → holds (site.onReactor fun reactor => { reactor with held })

structure Host.Guards (host : Host ω) (holds : Site ω → Prop) : Prop
    extends host.Minds holds where
  mute : ∀ socket readiness site, holds site → holds (site.onReactor fun reactor =>
    { reactor with registry := Loop.muteReported reactor.registry socket readiness })

structure Host.Preserves (host : Host ω) (holds : Site ω → Prop) : Prop
    extends host.Guards holds where
  enter : ∀ reactor site, holds site → site.reactor.enter? = some reactor →
    holds { site with reactor }
  clearStop : ∀ site, holds site → holds (site.onReactor Reactor.clearStop)
  leave : ∀ site, holds site → holds (site.onReactor Reactor.leave)

namespace Loop

section

variable {host : Host ω} {holds : Site ω → Prop} (keeps : host.Minds holds)

include keeps

theorem callOne_preserves (socket : Handle) (notification : Notification) (armed : Armed)
    (site : Site ω) (before : holds site) :
    holds (callOne host socket notification armed site).2 := by
  by_cases dead : armed.number ∈ site.reactor.registry.cleared
  · rwa [callOne_of_dead host socket notification armed site dead]
  · rw [callOne_of_live host socket notification armed site dead]
    exact keeps.finish _ (keeps.call _ _ _ (keeps.begins _ _ _ _ before dead))

theorem deliver_preserves (socket : Handle) (notification : Notification) (list : List Armed)
    (site : Site ω) (before : holds site) :
    holds (deliver host socket notification list site).2 := by
  induction list generalizing site with
  | nil => exact keeps.arm _ _ before
  | cons armed rest ih =>
    have called := callOne_preserves keeps socket notification armed _
      (keeps.arm (armed :: rest) site before)
    rw [deliver]
    split
    · rename_i after result
      rw [result] at called
      exact ih after called
    · rename_i after result
      rw [result] at called
      exact keeps.arm _ _ called

theorem dispatch_preserves (socket : Handle) (notification : Notification) (site : Site ω)
    (before : holds site) : holds (dispatch host socket notification site).2 :=
  deliver_preserves keeps socket notification _ site before

omit keeps in
theorem andThen_preserves {first : Ending × Site ω} {next : Site ω → Ending × Site ω}
    (before : holds first.2) (keeps : ∀ site, holds site → holds (next site).2) :
    holds (andThen first next).2 := by
  obtain ⟨ending, site⟩ := first
  cases ending with
  | returned => exact keeps site before
  | panicked => exact before

theorem dispatchAll_preserves (socket : Handle) (notifications : List Notification)
    (site : Site ω) (before : holds site) :
    holds (dispatchAll host socket notifications site).2 := by
  induction notifications generalizing site with
  | nil => exact before
  | cons notification rest ih =>
    exact andThen_preserves (dispatch_preserves keeps socket notification site before) ih

theorem sendEach_preserves (kind : Kind) (kept sockets : List Handle) (site : Site ω)
    (before : holds site) : holds (sendEach host kind kept sockets site).2 := by
  induction sockets generalizing site with
  | nil => exact before
  | cons socket rest ih =>
    refine andThen_preserves ?_ ih
    exact dispatch_preserves keeps socket _ _ (keeps.hold _ site before)

theorem broadcast_preserves (kind : Kind) (site : Site ω) (before : holds site) :
    holds (broadcast host kind site).2 :=
  keeps.hold _ _ (sendEach_preserves keeps kind _ _ site before)

omit keeps in
theorem passEnd_site (result : Ending × Site ω) : (passEnd result).2 = result.2 := by
  obtain ⟨ending, site⟩ := result
  cases ending <;> rfl

theorem idlePass_preserves (site : Site ω) (before : holds site) :
    holds (idlePass host site).2 := by
  have slept : holds (if site.reactor.stopRequested then site else host.rest site) := by
    split
    · exact before
    · exact keeps.rest site before
  unfold idlePass
  generalize (if site.reactor.stopRequested then site else host.rest site) = rested at slept ⊢
  have noted := keeps.note .idled rested slept
  dsimp only
  split
  · rw [passEnd_site]
    exact broadcast_preserves keeps .idle _ noted
  · exact noted

end

section

variable {host : Host ω} {holds : Site ω → Prop} (keeps : host.Guards holds)

include keeps

theorem readyPass_preserves (reports : List (Handle × Readiness)) (site : Site ω)
    (before : holds site) : holds (readyPass host reports site).2 := by
  induction reports generalizing site with
  | nil => exact before
  | cons report rest ih =>
    refine andThen_preserves ?_ ih
    exact dispatchAll_preserves keeps.toMinds _ _ _ (keeps.mute report.1 report.2 site before)

theorem pollPass_preserves (asked : List Interest) (site : Site ω) (before : holds site) :
    holds (pollPass host asked site).2 := by
  have polled := keeps.poll asked _ (keeps.hold (asked.map Interest.socket) site before)
  rw [pollPass]
  split
  · rename_i after result
    rw [result] at polled
    exact keeps.note _ _ (keeps.hold _ _ polled)
  · rename_i errno after result
    rw [result] at polled
    exact keeps.note _ _ (keeps.hold _ _ polled)
  · rename_i after result
    rw [result] at polled
    have noted := keeps.note (.polled asked.length 0) after polled
    simp only
    split
    · rw [passEnd_site]
      exact broadcast_preserves keeps.toMinds .timeout _ noted
    · rw [passEnd_site]
      exact keeps.hold _ _ noted
  · rename_i first rest after result
    rw [result] at polled
    rw [passEnd_site]
    exact keeps.hold _ _ (readyPass_preserves keeps _ _ (keeps.note _ after polled))

theorem pass_preserves (site : Site ω) (before : holds site) : holds (pass host site).2 := by
  rw [pass]
  split
  · exact idlePass_preserves keeps.toMinds site before
  · exact pollPass_preserves keeps _ site before

theorem passes_preserves (fuel : Nat) (site : Site ω) (before : holds site) :
    holds (passes host fuel site).2 := by
  induction fuel generalizing site with
  | zero => exact before
  | succ fuel ih =>
    have passed := pass_preserves keeps site before
    rw [passes]
    split
    · exact before
    · split <;> rename_i after result <;> rw [result] at passed
      · exact ih after passed
      · exact passed
      · exact passed

end

variable {host : Host ω} {holds : Site ω → Prop} (keeps : host.Preserves holds)

include keeps

theorem close_preserves (result : RunEnd) (site : Site ω) (before : holds site) :
    holds (close host result site).2 := by
  have sent := broadcast_preserves keeps.toMinds .shutdown site before
  rw [close]
  split <;> rename_i after ended <;> rw [ended] at sent
  · exact keeps.leave _ (keeps.clearStop _ sent)
  · exact sent

theorem run_preserves (fuel : Nat) (site : Site ω) (before : holds site) :
    holds (run host fuel site).2 := by
  rw [run]
  split
  · exact before
  · rename_i reactor entered
    have passed := passes_preserves keeps.toGuards fuel _ (keeps.enter reactor site before entered)
    split <;> rename_i result <;> rw [result] at passed
    · exact passed
    · exact passed
    · exact close_preserves keeps _ _ passed

end Loop

end SocketLoop
