import Mathlib.Data.List.ReduceOption
import SocketLoop.Proofs.Owner.Interests

/-! Acceptors and what is done apart from them. An acceptor is registered once as long as it is not
stopped. Connections wait at its listener in order, each until it is taken; what others do takes
none, and counts none. -/
namespace SocketLoop

variable {η ν : Type}

def Deed.deals (index : Nat) : Deed → Bool
  | .accepted owner _ | .built owner _ => owner == index
  | _ => false

/-- An acceptor with the registration that it has made. A connection that waits is none if its
peer has no address that can be read. -/
structure Gate (ν : Type) where
  index : Nat
  socket : Handle
  registration : Registration
  waiting : ν → List (Option Handle)
  /-- Whether anybody may stop the acceptor. -/
  stoppable : Prop

/-- User code stays within a relation, but for what it accepts for one owner. -/
structure UserCode.Besides (user : UserCode η ν) (index : Nat)
    (within : World η ν → World η ν → Prop) : Prop where
  observer : ∀ observer notification world,
    within world (user.observer observer notification world).2
  handler : ∀ owner handler notification world,
    within world (user.handler owner handler notification world).2.2
  dropped : ∀ handler socket world, within world (user.dropped handler socket world)
  factory : ∀ owner socket world, within world (user.factory owner socket world).2
  onFailure : ∀ owner failure world, within world (user.onFailure owner failure world).2
  takeError : ∀ socket world, within world (user.takeError socket world).2
  accept : ∀ owner socket world, owner ≠ index → within world (user.accept owner socket world).2
  poll : ∀ asked world, within world (user.poll asked world).2
  rest : ∀ world, within world (user.rest world)

theorem UserCode.Besides.imp {user : UserCode η ν} {index : Nat}
    {first second : World η ν → World η ν → Prop} (stays : user.Besides index first)
    (wider : ∀ before after, first before after → second before after) :
    user.Besides index second where
  observer _ _ _ := wider _ _ (stays.observer _ _ _)
  handler _ _ _ _ := wider _ _ (stays.handler _ _ _ _)
  dropped _ _ _ := wider _ _ (stays.dropped _ _ _)
  factory _ _ _ := wider _ _ (stays.factory _ _ _)
  onFailure _ _ _ := wider _ _ (stays.onFailure _ _ _)
  takeError _ _ := wider _ _ (stays.takeError _ _)
  accept _ _ _ apart := wider _ _ (stays.accept _ _ _ apart)
  poll _ _ := wider _ _ (stays.poll _ _)
  rest _ := wider _ _ (stays.rest _)

namespace World

/-- What was done about connections of an acceptor, oldest first. -/
def dealings (world : World η ν) (index : Nat) : List Deed :=
  (world.outside.deeds.filter (Deed.deals index)).reverse

end World

namespace Gate

variable (gate : Gate ν)

/-- What the acceptor is registered for. -/
def target : Int × Kind := (gate.socket.descriptor, gate.registration.kind)

def registrations (acceptor : Acceptor) : List Registration :=
  if acceptor.stopped then [] else [gate.registration]

/-- The acceptor as an owner. -/
def staff (acceptor : Acceptor) : Owner η where
  socket := gate.socket
  observers := (gate.registrations acceptor).map Registration.place
  role := .acceptor acceptor

/-- The acceptor is registered with its reactor as long as it is not stopped. -/
structure Manned (world : World η ν) : Prop where
  ledger : world.Ledger
  alive : world.reactor.alive = true
  staffed : ∃ acceptor, world.owner? gate.index = some (gate.staff acceptor) ∧
    world.holdings gate.index gate.socket.descriptor = gate.registrations acceptor

/-- Some connections were taken, in the order in which they waited. Each that could be read was
counted and handed to the factory, before the next one was taken. -/
structure Dealt (taken : List (Option Handle)) (before after : World η ν) : Prop where
  waiting : ∃ arrived, gate.waiting before.outside.beyond ++ arrived =
    taken ++ gate.waiting after.outside.beyond
  dealings : after.dealings gate.index = before.dealings gate.index ++
    taken.reduceOption.flatMap fun socket =>
      [.accepted gate.index socket, .built gate.index socket]
  makers : ∀ observer, after.maker? observer = some gate.index →
    before.maker? observer = some gate.index
  counted : ∀ acceptor, before.acceptor? gate.index = some acceptor → ∃ stopped,
    after.acceptor? gate.index =
      some ⟨stopped, acceptor.accepted + taken.reduceOption.length⟩ ∧
    (acceptor.stopped = true → stopped = true ∧ taken = []) ∧
    (¬gate.stoppable → stopped = acceptor.stopped)

/-- Nothing is taken, and the acceptor goes on or is stopped. -/
def Quiet (before after : World η ν) : Prop :=
  gate.Manned before → gate.Manned after ∧ gate.Dealt [] before after

variable {gate}

theorem Dealt.refl (world : World η ν) : gate.Dealt [] world world where
  waiting := ⟨[], List.append_nil _⟩
  dealings := (List.append_nil _).symm
  makers _ := id
  counted acceptor found := ⟨acceptor.stopped, found, fun stopped => ⟨stopped, rfl⟩, fun _ => rfl⟩

theorem Dealt.trans {first second : List (Option Handle)} {before between after : World η ν}
    (one : gate.Dealt first before between) (more : gate.Dealt second between after) :
    gate.Dealt (first ++ second) before after where
  waiting := by
    obtain ⟨early, one⟩ := one.waiting
    obtain ⟨late, more⟩ := more.waiting
    exact ⟨early ++ late, by rw [← List.append_assoc, one, List.append_assoc, more,
      List.append_assoc]⟩
  dealings := by
    rw [more.dealings, one.dealings, List.append_assoc, ← List.flatMap_append,
      ← List.reduceOption_append]
  makers observer made := one.makers observer (more.makers observer made)
  counted := by
    intro acceptor found
    obtain ⟨halted, there, idles, free⟩ := one.counted acceptor found
    obtain ⟨stopped, last, idles', free'⟩ := more.counted _ there
    refine ⟨stopped, ?_, ?_, ?_⟩
    · rw [last, List.reduceOption_append, List.length_append, Nat.add_assoc]
    · intro idle
      obtain ⟨still, nobody⟩ := idles idle
      obtain ⟨ends, nobody'⟩ := idles' still
      exact ⟨ends, by rw [nobody, nobody']; rfl⟩
    · exact fun never => (free' never).trans (free never)

namespace Quiet

theorem refl (world : World η ν) : gate.Quiet world world := fun manned => ⟨manned, .refl world⟩

theorem trans {before between after : World η ν} (first : gate.Quiet before between)
    (second : gate.Quiet between after) : gate.Quiet before after := by
  intro manned
  obtain ⟨between, one⟩ := first manned
  obtain ⟨after, more⟩ := second between
  exact ⟨after, one.trans more⟩

end Quiet

theorem Manned.known {world : World η ν} (manned : gate.Manned world) :
    gate.index < world.outside.owners.length := by
  obtain ⟨acceptor, found, -⟩ := manned.staffed
  exact world.owner?_lt gate.index _ found

/-- What leaves the acceptor, its registration and its connections alone is quiet. -/
theorem quiet_of_alone {before after : World η ν} (ledger : after.Ledger)
    (alive : after.reactor.alive = before.reactor.alive)
    (makers : ∀ observer, after.maker? observer = some gate.index →
      before.maker? observer = some gate.index)
    (owner : after.owner? gate.index = before.owner? gate.index)
    (holds : World.Holds gate.index before after)
    (dealings : after.dealings gate.index = before.dealings gate.index)
    (waiting : gate.waiting before.outside.beyond <+: gate.waiting after.outside.beyond) :
    gate.Quiet before after := by
  intro manned
  refine ⟨⟨ledger, alive.trans manned.alive, ?_⟩, ?_, ?_, makers, ?_⟩
  · rw [owner, holds]
    exact manned.staffed
  · obtain ⟨arrived, more⟩ := waiting
    exact ⟨arrived, more⟩
  · rw [dealings]
    exact (List.append_nil _).symm
  · intro acceptor found
    refine ⟨acceptor.stopped, ?_, fun stopped => ⟨stopped, rfl⟩, fun _ => rfl⟩
    rw [World.acceptor?, owner]
    exact found

namespace Quiet

section

variable (world : World η ν) (owner : Nat) (other : owner ≠ gate.index)

theorem move {before after : World η ν} (move : World.Move before after)
    (same : after.owner? gate.index = before.owner? gate.index)
    (dealings : after.dealings gate.index = before.dealings gate.index)
    (waiting : gate.waiting before.outside.beyond <+: gate.waiting after.outside.beyond) :
    gate.Quiet before after := by
  intro manned
  have known := manned.known
  exact quiet_of_alone (move.ledger manned.alive manned.ledger) (move.beside manned.ledger).alive
    (move.makers manned.ledger gate.index known same)
    same (move.holds manned.ledger gate.index known same) dealings waiting manned

theorem done (deed : Deed) (unconcerned : deed.deals gate.index = false) :
    gate.Quiet world (world.done deed) := by
  intro manned
  have ledger : (world.done deed).Ledger :=
    manned.ledger.of_same manned.ledger.sound rfl rfl rfl rfl fun _ => rfl
  refine quiet_of_alone ledger rfl (fun _ => id) rfl (World.holds_of_same rfl rfl) ?_
    (List.prefix_refl _) manned
  change (List.filter _ (deed :: world.outside.deeds)).reverse = _
  rw [List.filter_cons_of_neg (by simp [unconcerned])]
  rfl

theorem addOwner (value : Owner η) (bare : value.observers = []) :
    gate.Quiet world (world.addOwner value).2 := by
  intro manned
  have found : (world.addOwner value).2.owner? gate.index = world.owner? gate.index :=
    List.getElem?_append_left manned.known
  exact quiet_of_alone (manned.ledger.addOwner value bare) rfl (fun _ => id) found
    (World.holds_of_same rfl rfl) rfl (List.prefix_refl _) manned

include other

theorem edit {after : World η ν} (edit : World.Edit owner world after) :
    gate.Quiet world after := by
  intro manned
  have near := edit.near manned.ledger
  refine quiet_of_alone (edit.ledger manned.ledger) near.alive
    (edit.makers manned.ledger gate.index (Ne.symm other))
    (near.others gate.index (Ne.symm other))
    (edit.holds manned.ledger gate.index (Ne.symm other)) ?_ ?_ manned
  · rw [World.dealings, near.deeds, World.dealings]
  · exact (edit.beyond manned.ledger) ▸ List.prefix_refl _

theorem withdraw (which : Kind → Bool) : gate.Quiet world (world.withdraw owner which) := by
  cases found : world.owner? owner with
  | none =>
    have nothing : world.withdraw owner which = world := by
      simp [World.withdraw, World.strike, World.unregister, found]
    rw [nothing]
    exact .refl world
  | some value => exact .edit world owner other (.withdraw found which)

theorem enable (kind : Kind) : gate.Quiet world (world.enable owner kind) := by
  intro manned
  rw [World.enable]
  cases found : world.owner? owner with
  | none => exact Quiet.refl world manned
  | some value =>
    dsimp only
    split
    · exact Quiet.refl world manned
    · exact Quiet.edit world owner other (.enlist manned.alive found kind) manned

theorem setHandler (handler : Option η) : gate.Quiet world (world.setHandler owner handler) := by
  intro manned
  have ledger : (world.setHandler owner handler).Ledger :=
    manned.ledger.of_same manned.ledger.sound rfl rfl rfl (World.length_setHandler world owner _)
      (World.notes?_setHandler world owner _)
  exact quiet_of_alone ledger rfl (fun _ => id)
    (World.owner?_changeOwner_ne world owner _ gate.index (Ne.symm other))
    (World.holds_of_same rfl rfl) rfl (List.prefix_refl _) manned

theorem changeAttempt (change : Attempt → Attempt) :
    gate.Quiet world (world.changeAttempt owner change) :=
  .move (.attempt owner change)
    (World.owner?_changeOwner_ne world owner _ gate.index (Ne.symm other)) rfl (List.prefix_refl _)

theorem changeAcceptor (change : Acceptor → Acceptor) :
    gate.Quiet world (world.changeAcceptor owner change) :=
  .move (.acceptor owner change)
    (World.owner?_changeOwner_ne world owner _ gate.index (Ne.symm other)) rfl (List.prefix_refl _)

end

theorem foldl {α : Type} (step : World η ν → α → World η ν)
    (quiet : ∀ world item, gate.Quiet world (step world item)) (items : List α)
    (world : World η ν) : gate.Quiet world (items.foldl step world) := by
  induction items generalizing world with
  | nil => exact .refl world
  | cons item rest ih => exact (quiet world item).trans (ih _)

section

variable {user : UserCode η ν} (stays : user.Besides gate.index gate.Quiet) (world : World η ν)

include stays

theorem dropHandler (owner : Nat) (other : owner ≠ gate.index) :
    gate.Quiet world (world.dropHandler user owner) := by
  unfold World.dropHandler
  split
  · exact .refl world
  · split
    · exact .refl world
    · have gone : gate.Quiet world ((world.setHandler owner none).done (.dropped owner)) :=
        (Quiet.setHandler world owner other none).trans (Quiet.done _ _ rfl)
      exact gone.trans (stays.dropped _ _ _)

theorem closeService (owner : Nat) (other : owner ≠ gate.index) :
    gate.Quiet world (world.closeService user owner) :=
  (Quiet.withdraw world owner other _).trans (Quiet.dropHandler stays _ owner other)

theorem settle (owner : Nat) (other : owner ≠ gate.index) (requests : Requests) (failed : Bool) :
    gate.Quiet world (world.settle user owner requests failed) := by
  have adjusted : gate.Quiet world (world.adjust owner requests) :=
    (Quiet.foldl _ (fun world _ => Quiet.withdraw world owner other _) _ world).trans
      (Quiet.foldl _ (fun world kind => Quiet.enable world owner other kind) _ _)
  have closed : ∀ ended : Bool, gate.Quiet (world.adjust owner requests)
      (if ended then World.closeService user (world.adjust owner requests) owner
        else world.adjust owner requests) := by
    intro ended
    cases ended with
    | false => exact .refl _
    | true => exact Quiet.closeService stays _ owner other
  exact adjusted.trans (closed _)

theorem serve (owner : Nat) (other : owner ≠ gate.index) (notification : Notification) :
    gate.Quiet world (World.serve user owner notification world).2 := by
  unfold World.serve
  split
  · exact .refl world
  · rename_i handler _
    have handled := (Quiet.done world (.handled owner) rfl).trans
      (stays.handler owner handler notification _)
    split <;> rename_i result <;> rw [result] at handled
    · exact handled.trans (Quiet.setHandler _ owner other _)
    · exact (handled.trans (Quiet.setHandler _ owner other _)).trans
        (Quiet.settle stays _ owner other _ _)

/-- A service that is attached is another owner. -/
theorem attach (socket : Handle) (handler : η) :
    gate.Quiet world (World.attach user socket handler world) := by
  intro manned
  have other : world.outside.owners.length ≠ gate.index := Ne.symm (Nat.ne_of_lt manned.known)
  have added : gate.Quiet world (world.seated socket handler) := Quiet.addOwner world _ rfl
  simp only [World.attach]
  split
  · exact added.trans (Quiet.dropHandler stays _ _ other) manned
  · exact added.trans (Quiet.foldl _ (fun world kind => Quiet.enable world _ other kind) _ _) manned

section

variable (owner : Nat) (other : owner ≠ gate.index)

include other

theorem failAttempt (failure : Failure) :
    gate.Quiet world (World.failAttempt user owner failure world).2 := by
  have failed := Quiet.changeAttempt world owner other fun attempt =>
    { attempt with state := .failed, errno := failure.errno?, onFailure := false }
  simp only [World.failAttempt]
  split
  · exact (failed.trans (Quiet.done _ _ rfl)).trans (stays.onFailure owner failure _)
  · exact failed

/-- What is built for another owner is no dealing of the acceptor. -/
theorem built (socket : Handle) :
    gate.Quiet world (user.factory owner socket (world.done (.built owner socket))).2 :=
  (Quiet.done world (.built owner socket) (beq_false_of_ne other)).trans
    (stays.factory owner socket _)

theorem complete (socket : Handle) (factory : Bool) :
    gate.Quiet world (World.complete user owner socket factory world).2 := by
  have connected := fun world : World η ν => Quiet.changeAttempt world owner other fun attempt =>
    { attempt with state := .connected, errno := none }
  cases factory with
  | false => exact connected world
  | true =>
    have built := Quiet.built stays world owner other socket
    simp only [World.complete, if_true]
    split <;> rename_i result <;> rw [result] at built
    · exact built
    · exact built.trans (Quiet.failAttempt stays _ owner other _)
    · exact (built.trans (Quiet.attach stays _ socket _)).trans (connected _)

theorem resolve (notification : Notification) :
    gate.Quiet world (World.resolve user owner notification world).2 := by
  unfold World.resolve
  split
  · rename_i value attempt _ _
    split
    · have taken := ((stays.takeError value.socket world).trans
        (Quiet.withdraw _ owner other fun _ => true)).trans
          (Quiet.changeAttempt _ owner other fun attempt => { attempt with factory := false })
      dsimp only
      split
      · exact taken.trans (Quiet.failAttempt stays _ owner other _)
      · exact taken.trans (Quiet.complete stays _ owner other value.socket _)
    · exact .refl world
  · exact .refl world

theorem takeConnection : gate.Quiet world (World.takeConnection user owner world).2 := by
  unfold World.takeConnection
  split
  · rename_i value acceptor _ _
    split
    · exact .refl world
    · have accepted := stays.accept owner value.socket world other
      split <;> rename_i result <;> rw [result] at accepted
      · exact accepted
      · rename_i socket _
        have counted := (accepted.trans
          (Quiet.done _ (.accepted owner socket) (beq_false_of_ne other))).trans
            (Quiet.changeAcceptor _ owner other fun acceptor =>
              { acceptor with accepted := acceptor.accepted + 1 })
        have built := counted.trans (Quiet.built stays _ owner other socket)
        dsimp only
        split <;> rename_i made <;> rw [made] at built
        · exact built
        · exact built
        · exact built.trans (Quiet.attach stays _ socket _)
  · exact .refl world

end

/-- Notifications of others are nothing to an acceptor. -/
theorem notify (observer : Nat) (notification : Notification)
    (other : world.maker? observer ≠ some gate.index) :
    gate.Quiet world (World.notify user observer notification world).2 := by
  unfold World.notify
  split
  · exact stays.observer observer notification world
  · rename_i owner made
    have apart : owner ≠ gate.index := fun same => other (same ▸ made)
    unfold World.notifyOwner
    split
    · exact .refl world
    · exact Quiet.serve stays world owner apart notification
    · exact Quiet.resolve stays world owner apart notification
    · exact Quiet.takeConnection stays world owner apart

end

end Quiet

end Gate

end SocketLoop
