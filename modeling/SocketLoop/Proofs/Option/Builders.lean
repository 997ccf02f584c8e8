import SocketLoop.Scenario.Building
import SocketLoop.Scenario.Play
import SocketLoop.Proofs.Kernel.Files
import SocketLoop.Proofs.Option.Applied
import SocketLoop.Proofs.Owner.Standing

/-! Listeners and connectors built with plans. The options are set on a fresh socket before anything
else is done with it. So a plan that is refused leaves everything as it was, and one that is not shows
in full on the socket that comes of it. -/
namespace SocketLoop

namespace OptionPlan

theorem fits_or_fails (plan : OptionPlan) (family : Family) :
    plan.Fits family ∨ ∃ fault, plan.Fails family fault := by
  cases applied : plan.apply family with
  | ok options => exact .inl ((plan.apply_ok_iff family options).mp applied).1
  | error fault => exact .inr ⟨fault, (plan.apply_error_iff family fault).mp applied⟩

end OptionPlan

namespace Kernel

variable (kernel : Kernel) (plan : OptionPlan) (family : Family)

theorem Wanes.isFull {before after : Kernel} (wanes : before.Wanes after) :
    after.isFull = before.isFull := by
  rw [Kernel.isFull, wanes.limit, Kernel.isFull]

theorem setUp_of_room (room : kernel.isFull = false) :
    kernel.setUp family plan = plan.apply family := by
  rw [setUp, room]
  rfl

/-- A listener that was built has all that its plan asks for. -/
theorem options_of_built (address bound : Address)
    (backlog : Int) (descriptor : Nat) (after : Kernel)
    (built : kernel.buildListener plan address backlog = .ok (descriptor, bound, after)) :
    after.optionsOf descriptor = plan.outcome address.family := by
  rw [buildListener, setUp] at built
  split at built
  · cases built
  · rename_i options applied
    split at applied
    · cases applied
    · obtain ⟨-, rfl⟩ := (plan.apply_ok_iff address.family options).mp applied
      exact kernel.listen_options descriptor _ address bound backlog after built

end Kernel

namespace World

variable {η ν : Type} (user : UserCode η ν) (world : World η ν)

theorem enlist_beyond (index : Nat) (kind : Kind) :
    (world.enlist index kind).outside.beyond = world.outside.beyond := by
  rw [enlist]
  split
  · simp only [record, newObserver, register]
    split
    · rfl
    · rfl
  · rfl

theorem launch_beyond (socket : Handle) (onFailure : Bool) :
    (launch socket onFailure world).2.outside.beyond = world.outside.beyond := by
  simp only [launch]
  rw [enlist_beyond, enlist_beyond]
  rfl

theorem failAttempt_of_told (index : Nat) (failure : Failure)
    (told : ∀ world, (user.onFailure index failure world).1 = .returned ∧
      (user.onFailure index failure world).2.outside.owners = world.outside.owners) :
    (failAttempt user index failure world).1 = .returned ∧
      (failAttempt user index failure world).2.outside.owners =
        (world.changeAttempt index fun attempt => { attempt with
          state := .failed, errno := failure.errno?, onFailure := false }).outside.owners := by
  simp only [failAttempt]
  split
  · exact told _
  · exact ⟨rfl, rfl⟩

theorem launchFailed_fails (socket : Handle) (onFailure : Bool) (failure : Failure)
    (told : ∀ index world, (user.onFailure index failure world).1 = .returned ∧
      (user.onFailure index failure world).2.outside.owners = world.outside.owners) :
    ∃ index after, launchFailed user socket onFailure failure world = (.returned, index, after) ∧
      after.owner? index =
        some { socket, role := .attempt { state := .failed, errno := failure.errno? } } := by
  let index := world.outside.owners.length
  let begun := (world.addOwner { socket, role := .attempt { onFailure } }).2
  have added : begun.owner? index = some { socket, role := .attempt { onFailure } } :=
    (world.owner?_addOwner _ index _).mpr (.inr ⟨rfl, rfl⟩)
  obtain ⟨returned, owners⟩ := failAttempt_of_told user begun index failure (told index)
  refine ⟨index, (failAttempt user index failure begun).2, ?_, ?_⟩
  · rw [← returned]
    rfl
  · rw [owner?, owners]
    exact owner?_changeAttempt_self begun index _ _ _ added rfl

end World

namespace Scenario.Stage

/-- Nothing was opened, bound, connected or registered: at most, descriptors that nobody kept were
closed. -/
def Untouched (stage after : Stage) : Prop :=
  ∃ kernel, stage.scene.kernel.Wanes kernel ∧
    after = stage.onScene fun scene => { scene with kernel }

/-- A connector comes to grief over its options, or the system is asked to connect a socket that has
all of them set. Where it refuses there is no socket any more and the attempt has failed, and else
the attempt is begun on that very socket. -/
def StartsAs (stage : Stage) (user : UserCode Handler Scene) (plan : OptionPlan)
    (address : Address) (onFailure : Bool) : Prop :=
  let options := plan.outcome address.family
  let swept := stage.sweep.sweep
  (∃ fault after, plan.Fails address.family fault ∧ stage.Untouched after ∧
    stage.start user plan address onFailure = (.refused fault, after)) ∨
  plan.Fits address.family ∧ stage.Untouched swept ∧
    (∀ fault, swept.scene.kernel.connect options address = .error fault → ∃ index after,
      stage.start user plan address onFailure = (.attempt index, after) ∧
      after.owner? index = some {
        socket := World.noSocket
        role := .attempt {
          state := .failed, errno := (Failure.ofFault fault.hideAddress).errno? } }) ∧
    ∀ (descriptor : Nat) kernel,
      swept.scene.kernel.connect options address = .ok (descriptor, kernel) →
        ∃ index after socket observers,
          stage.start user plan address onFailure = (.attempt index, after) ∧
          after.owner? index =
            some { socket, observers, role := .attempt { state := .connecting, onFailure } } ∧
          socket.descriptor = descriptor ∧ (scene after).kernel = kernel ∧
          kernel.optionsOf descriptor = options

variable (stage : Stage)

theorem sweep_untouched : stage.Untouched stage.sweep :=
  ⟨_, stage.scene.kernel.sweep_wanes _, rfl⟩

theorem sweep_sweep_untouched : stage.Untouched stage.sweep.sweep :=
  ⟨_, (stage.scene.kernel.sweep_wanes _).trans (Kernel.sweep_wanes _ _), rfl⟩

theorem setUp_eq (family : Family) (plan : OptionPlan) :
    stage.setUp family plan = (stage.sweep.scene.kernel.setUp family plan, stage.sweep) := rfl

theorem request_error {α : Type} (ask : Kernel → Except Fault (α × Kernel)) (fault : Fault)
    (refused : ask stage.sweep.scene.kernel = .error fault) :
    stage.request ask = (.error fault, stage.sweep) := by
  rw [request, system, refused]
  rfl

theorem request_ok {α : Type} (ask : Kernel → Except Fault (α × Kernel)) (value : α)
    (kernel : Kernel) (granted : ask stage.sweep.scene.kernel = .ok (value, kernel)) :
    stage.request ask = (.ok value, stage.sweep.onScene fun scene => { scene with kernel }) := by
  rw [request, system, granted]

theorem userCode_setUp (depth : Nat) : (userCode depth).setUp = setUp := by
  cases depth <;> rfl

theorem userCode_connect (depth : Nat) : (userCode depth).connect = connectTo := by
  cases depth <;> rfl

theorem userCode_onFailure (depth : Nat) : (userCode depth).onFailure = callOnFailure := by
  cases depth <;> rfl

theorem connectTo_error (options : SocketOptions) (address : Address) (fault : Fault)
    (refused : stage.sweep.scene.kernel.connect options address = .error fault) :
    stage.connectTo options address = (.error fault.hideAddress, stage.sweep) := by
  rw [connectTo, stage.request_error _ fault refused]

theorem connectTo_ok (options : SocketOptions) (address : Address) (descriptor : Nat)
    (kernel : Kernel)
    (granted : stage.sweep.scene.kernel.connect options address = .ok (descriptor, kernel)) :
    ∃ socket after, stage.connectTo options address = (.ok socket, after) ∧
      socket.descriptor = descriptor ∧ (scene after).kernel = kernel := by
  rw [connectTo, stage.request_ok _ descriptor kernel granted]
  exact ⟨_, _, rfl, rfl, rfl⟩

theorem starts_as (depth : Nat) (plan : OptionPlan) (address : Address) (onFailure : Bool)
    (room : stage.scene.kernel.isFull = false) :
    stage.StartsAs (userCode depth) plan address onFailure := by
  let kernel := stage.sweep.scene.kernel
  have wanes : stage.scene.kernel.Wanes kernel := stage.scene.kernel.sweep_wanes _
  have free : kernel.isFull = false := wanes.isFull.trans room
  rw [StartsAs, World.start, userCode_setUp, setUp_eq, kernel.setUp_of_room plan _ free]
  rcases plan.fits_or_fails address.family with fits | ⟨fault, fails⟩
  · let options := plan.outcome address.family
    rw [(plan.apply_ok_iff _ options).mpr ⟨fits, rfl⟩, userCode_connect]
    refine .inr ⟨fits, stage.sweep_sweep_untouched, ?_, ?_⟩
    · intro fault refused
      have told (index : Nat) (world : Stage) :
          ((userCode depth).onFailure index (.ofFault fault.hideAddress) world).1 = .returned ∧
          ((userCode depth).onFailure index (.ofFault fault.hideAddress) world).2.outside.owners =
            world.outside.owners := by
        rw [userCode_onFailure]
        exact ⟨rfl, rfl⟩
      obtain ⟨index, after, launched, there⟩ := World.launchFailed_fails (userCode depth)
        stage.sweep.sweep World.noSocket onFailure (.ofFault fault.hideAddress) told
      dsimp only
      rw [stage.sweep.connectTo_error options address fault refused]
      dsimp only
      rw [launched]
      exact ⟨index, after, rfl, there⟩
    · intro descriptor kernel granted
      obtain ⟨socket, joined, connecting, same, kept⟩ :=
        stage.sweep.connectTo_ok options address descriptor kernel granted
      obtain ⟨observers, there, -⟩ := World.launch_waits joined socket onFailure
      have beyond := World.launch_beyond joined socket onFailure
      dsimp only
      rw [connecting]
      refine ⟨_, _, socket, observers, rfl, there, same, ?_, ?_⟩
      · rw [scene, beyond]
        exact kept
      · exact Kernel.connect_options _ descriptor options address kernel granted
  · refine .inl ⟨fault, stage.sweep, fails, stage.sweep_untouched, ?_⟩
    rw [(plan.apply_error_iff _ fault).mpr fails]

theorem room_of_started (after : Stage) (depth : Nat) (plan : OptionPlan) (address : Address)
    (onFailure : Bool) (index : Nat)
    (started : stage.start (userCode depth) plan address onFailure = (.attempt index, after)) :
    stage.scene.kernel.isFull = false := by
  have wanes : stage.scene.kernel.Wanes stage.sweep.scene.kernel := Kernel.sweep_wanes _ _
  cases full : stage.scene.kernel.isFull with
  | false => rfl
  | true =>
    rw [World.start, userCode_setUp, setUp_eq, Kernel.setUp, wanes.isFull, full] at started
    cases started

/-- An attempt that was begun has all that its plan asks for on its socket. -/
theorem options_of_started (after : Stage) (depth : Nat) (plan : OptionPlan)
    (address : Address) (onFailure : Bool) (index : Nat) (owner : Owner Handler)
    (attempt : Attempt)
    (started : stage.start (userCode depth) plan address onFailure = (.attempt index, after))
    (found : after.owner? index = some owner) (role : owner.role = .attempt attempt)
    (connecting : attempt.state = .connecting) :
    ∃ descriptor : Nat, owner.socket.descriptor = descriptor ∧
      (scene after).kernel.optionsOf descriptor = plan.outcome address.family := by
  have room := stage.room_of_started after depth plan address onFailure index started
  rcases stage.starts_as depth plan address onFailure room with
    ⟨_, _, -, -, refused⟩ | ⟨-, -, fails, begins⟩
  · cases started.symm.trans refused
  · cases connects : stage.sweep.sweep.scene.kernel.connect (plan.outcome address.family) address with
    | error fault =>
      obtain ⟨_, _, begun, there⟩ := fails fault connects
      cases started.symm.trans begun
      cases found.symm.trans there
      cases role
      cases connecting
    | ok made =>
      obtain ⟨_, _, socket, _, begun, there, same, kept, options⟩ := begins made.1 made.2 connects
      cases started.symm.trans begun
      cases found.symm.trans there
      exact ⟨made.1, same, (congrArg (fun kernel => kernel.optionsOf made.1) kept).trans options⟩

end Scenario.Stage

end SocketLoop
