import SocketLoop.Proofs.Option.Builders

/-! Linger times. The system counts them in whole seconds, and zero seconds mean that closing resets
the connection. What a span has beyond its whole seconds is dropped on the way, so it is not the span
of zero alone that asks for a reset. -/
namespace SocketLoop

namespace Duration

/-- The seconds that a span comes to as a linger time. -/
def lingering (span : Duration) : Nat := clampInt32 span.wholeSeconds

theorem lingering_eq (span : Duration) :
    span.lingering = min (span.total / 1000000000) maxInt32 := by
  have below := span.nanos_lt
  rw [lingering, wholeSeconds, clampInt32_of_word, clampInt32, total]
  omega

theorem lingering_mono (span other : Duration) (shorter : span.total ≤ other.total) :
    span.lingering ≤ other.lingering := by
  rw [lingering_eq, lingering_eq]
  have whole : span.total / 1000000000 ≤ other.total / 1000000000 := Nat.div_le_div_right shorter
  omega

theorem lingering_eq_zero_iff (span : Duration) :
    span.lingering = 0 ↔ span.total < 1000000000 := by
  rw [lingering_eq, maxInt32]
  omega

end Duration

namespace OptionPlan

variable (plan : OptionPlan) (span : Duration) (family : Family)

/-- A plan with another linger time. -/
def lingering : OptionPlan :=
  { plan with tcp := { plan.tcp with linger := some span } }

theorem outcome_lingering :
    ((plan.lingering span).outcome family).linger = some span.lingering := by
  simp only [outcome, lingering, Option.map_some, Duration.lingering, clampInt32_wholeSeconds]

theorem lingerSettings_fault? :
    plan.lingerSettings.findSome? (Setting.fault? family) = none := by
  rw [lingerSettings]
  cases plan.tcp.linger <;> rfl

/-- A linger time is never refused. -/
theorem lingering_fails (fault : Fault) :
    (plan.lingering span).Fails family fault ↔ plan.Fails family fault := by
  rw [← first_fault_iff, ← first_fault_iff, settings_eq, settings_eq]
  simp only [List.findSome?_append, lingerSettings_fault?]
  rfl

section Builders

open Scenario

/-- Linger times are set as whole seconds, up to the largest word, and a longer one never as fewer.
So zero seconds mean a span of zero for exactly those spans that are zero or reach a second. -/
theorem linger_in_whole_seconds (plan : OptionPlan) (span : Duration) :
    (∀ family fault, (plan.lingering span).Fails family fault ↔ plan.Fails family fault) ∧
    (∀ family options, (plan.lingering span).apply family = .ok options →
      options.linger = some span.lingering) ∧
    (∀ (kernel : Kernel) address backlog descriptor bound after,
      kernel.buildListener (plan.lingering span) address backlog =
          .ok (descriptor, bound, after) →
        (after.optionsOf descriptor).linger = some span.lingering) ∧
    (∀ (stage : Stage) depth address onFailure index after owner attempt,
      stage.start (Stage.userCode depth) (plan.lingering span) address onFailure =
          (.attempt index, after) →
        after.owner? index = some owner → owner.role = .attempt attempt →
        attempt.state = .connecting →
          ∃ descriptor : Nat, owner.socket.descriptor = descriptor ∧
            ((Stage.scene after).kernel.optionsOf descriptor).linger = some span.lingering) ∧
    span.lingering = min (span.total / 1000000000) maxInt32 ∧
    (∀ other : Duration, span.total ≤ other.total → span.lingering ≤ other.lingering) ∧
    ((span.lingering = 0 ↔ span.total = 0) ↔ span.total = 0 ∨ 1000000000 ≤ span.total) := by
  refine ⟨?_, ?_, ?_, ?_, span.lingering_eq, span.lingering_mono, ?_⟩
  · intro family fault
    exact plan.lingering_fails span family fault
  · intro family options applied
    obtain ⟨-, rfl⟩ := ((plan.lingering span).apply_ok_iff family options).mp applied
    exact plan.outcome_lingering span family
  · intro kernel address backlog descriptor bound after built
    rw [kernel.options_of_built _ address bound backlog descriptor after built]
    exact plan.outcome_lingering span address.family
  · intro stage depth address onFailure index after owner attempt started found role connecting
    obtain ⟨descriptor, same, options⟩ := stage.options_of_started after depth _ address onFailure
      index owner attempt started found role connecting
    refine ⟨descriptor, same, ?_⟩
    rw [options]
    exact plan.outcome_lingering span address.family
  · rw [span.lingering_eq_zero_iff]
    omega

/-- A second and a half are one second, on a socket of the internet, on a listener and on a socket
that connects to one. -/
theorem linger_in_whole_seconds_and_a_half :
    let span : Duration := { seconds := 1, nanos := 500000000 }
    let address : Address := freeAddress .unix
    let listening : Listening := { address, room := 1 }
    let scene : Scene :=
      { kernel := { files := [.listener listening] }, items := [("", .listener ⟨0, 0⟩)] }
    let stage : Stage := { outside := { beyond := scene } }
    (∃ options, (connector.lingering span).apply .v6 = .ok options ∧ options.linger = some 1) ∧
    (∃ descriptor bound after,
      Kernel.buildListener {} (listener.lingering span) (freeAddress .v4) 128 =
        .ok (descriptor, bound, after) ∧ (after.optionsOf descriptor).linger = some 1) ∧
    ∃ index after owner attempt,
      stage.start (Stage.userCode 0) (connector.lingering span) address false =
        (.attempt index, after) ∧
      after.owner? index = some owner ∧ owner.role = .attempt attempt ∧
      attempt.state = .connecting ∧ (∃ descriptor : Nat, owner.socket.descriptor = descriptor ∧
        ((Stage.scene after).kernel.optionsOf descriptor).linger = some 1) ∧
      span.total ≤ (Duration.ofSeconds 2).total ∧ 1 ≤ (Duration.ofSeconds 2).lingering := by
  intro span address listening scene stage
  have second : span.lingering = 1 := by decide
  obtain ⟨-, -, built, -⟩ := listener.linger_in_whole_seconds span
  obtain ⟨-, applied, -, started, -, longer, -⟩ := connector.linger_in_whole_seconds span
  rw [second] at applied built started longer
  have granted : ∃ options, (connector.lingering span).apply .v6 = .ok options := ⟨_, rfl⟩
  obtain ⟨options, granted⟩ := granted
  have begun : ∃ index after owner attempt,
      stage.start (Stage.userCode 0) (connector.lingering span) address false =
        (.attempt index, after) ∧ after.owner? index = some owner ∧
      owner.role = .attempt attempt ∧ attempt.state = .connecting :=
    ⟨_, _, _, _, rfl, rfl, rfl, rfl⟩
  obtain ⟨index, after, owner, attempt, start, found, role, connecting⟩ := begun
  have listens : ∃ descriptor bound after,
      Kernel.buildListener {} (listener.lingering span) (freeAddress .v4) 128 =
        .ok (descriptor, bound, after) := ⟨_, _, _, rfl⟩
  obtain ⟨descriptor, bound, made, listen⟩ := listens
  have lingers := built {} (freeAddress .v4) 128 descriptor bound made listen
  refine ⟨⟨options, granted, applied .v6 options granted⟩,
    ⟨descriptor, bound, made, listen, lingers⟩, ?_⟩
  exact ⟨index, after, owner, attempt, start, found, role, connecting,
    started stage 0 address false index after owner attempt start found role connecting,
    by decide, longer (.ofSeconds 2) (by decide)⟩

/-- Half a second is no span of zero, and still a listener that lingers for it resets. -/
theorem half_a_second_resets :
    let span : Duration := { seconds := 0, nanos := 500000000 }
    span.total ≠ 0 ∧ ∃ options,
      tryListener .v4 (listener.lingering span) 128 = .made options ∧ options.linger = some 0 :=
  ⟨by decide, _, rfl, rfl⟩

end Builders

end OptionPlan

end SocketLoop
