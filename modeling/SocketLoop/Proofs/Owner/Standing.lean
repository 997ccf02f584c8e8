import SocketLoop.Proofs.Owner.Isolation
import SocketLoop.Proofs.Owner.Spares

/-! Where attempts stand. An attempt waits, registered with its reactor, until a notification or an
abort takes its record and its factory from it. Nothing else moves it, and once it has ended nothing
does. -/
namespace SocketLoop

variable {η ν : Type}

namespace Attempt

/-- Neither notified nor given up so far. -/
def Waits (attempt : Attempt) : Prop := attempt.state = .connecting ∧ attempt.factory = true

def Ended (attempt : Attempt) : Prop := attempt.state = .connected ∨ attempt.state = .failed

theorem Ended.not_connecting {attempt : Attempt} (ended : attempt.Ended) :
    attempt.state ≠ .connecting := by
  intro connecting
  rcases ended with other | other <;> exact absurd (connecting.symm.trans other) (by decide)

end Attempt

namespace World

open Relation

/-- What was done for an owner, newest first. -/
def deedsOf (world : World η ν) (index : Nat) : List Deed :=
  world.outside.deeds.filter fun deed => deed.owner == index

/-- An attempt that waits is registered as long as its reactor is there. -/
def Waiting (world : World η ν) (index : Nat) (attempt : Attempt) : Prop :=
  attempt.Waits ∧ ∃ socket observers,
    world.owner? index = some { socket, observers, role := .attempt attempt } ∧
      (world.reactor.alive = true → observers ≠ [])

/-- An attempt that no longer waits has nothing on record. -/
def Spent (world : World η ν) (index : Nat) (attempt : Attempt) : Prop :=
  attempt.state ≠ .idle ∧ ¬attempt.Waits ∧ ∃ socket,
    world.owner? index = some { socket, role := .attempt attempt }

/-- The record and the factory are taken from an attempt. -/
def taken (world : World η ν) (index : Nat) : World η ν :=
  (world.withdrawAll index).changeAttempt index fun attempt => { attempt with factory := false }

def Stands (index : Nat) (world : World η ν) : Prop :=
  ∃ attempt, world.Waiting index attempt ∨ world.Spent index attempt

/-- An attempt that waits has done so all along, and one that has ended stays as it was. -/
structure Lasts (index : Nat) (before after : World η ν) : Prop where
  waited : ∀ owner attempt, after.owner? index = some owner → owner.role = .attempt attempt →
    attempt.Waits →
    before.owner? index = some owner ∧ after.deedsOf index = before.deedsOf index
  ended : ∀ owner attempt, before.owner? index = some owner → owner.role = .attempt attempt →
    attempt.Ended →
    after.owner? index = some owner ∧ after.deedsOf index = before.deedsOf index

/-- Whatever goes on around an attempt keeps to this. -/
def Upholds (index : Nat) (before after : World η ν) : Prop :=
  before.Ledger → after.Ledger ∧ (before.Stands index → after.Stands index ∧ Lasts index before after)

theorem attempt?_of_owner {world : World η ν} {index : Nat} {owner : Owner η} {attempt : Attempt}
    (found : world.owner? index = some owner) (role : owner.role = .attempt attempt) :
    world.attempt? index = some attempt := by
  rw [World.attempt?, found, Option.bind_some, Owner.attempt?, role]

section

variable {index : Nat} {world before between after : World η ν} {attempt : Attempt}

theorem Waiting.found (waiting : world.Waiting index attempt) :
    world.attempt? index = some attempt := by
  obtain ⟨-, socket, observers, found, -⟩ := waiting
  exact attempt?_of_owner found rfl

theorem Spent.found (spent : world.Spent index attempt) :
    world.attempt? index = some attempt := by
  obtain ⟨-, -, socket, found⟩ := spent
  exact attempt?_of_owner found rfl

theorem Stands.waiting (stands : world.Stands index) (found : world.attempt? index = some attempt)
    (waits : attempt.Waits) : world.Waiting index attempt := by
  obtain ⟨other, waiting | spent⟩ := stands
  · rwa [Option.some.inj (found.symm.trans waiting.found)]
  · obtain rfl := Option.some.inj (found.symm.trans spent.found)
    exact absurd waits spent.2.1

theorem Stands.spent (stands : world.Stands index) (found : world.attempt? index = some attempt)
    (past : ¬attempt.Waits) : world.Spent index attempt := by
  obtain ⟨other, waiting | spent⟩ := stands
  · obtain rfl := Option.some.inj (found.symm.trans waiting.found)
    exact absurd waiting.1 past
  · rwa [Option.some.inj (found.symm.trans spent.found)]

theorem Stands.found (stands : world.Stands index) : ∃ attempt,
    world.attempt? index = some attempt := by
  obtain ⟨attempt, waiting | spent⟩ := stands
  · exact ⟨attempt, waiting.found⟩
  · exact ⟨attempt, spent.found⟩

theorem Stands.known (stands : world.Stands index) : index < world.outside.owners.length := by
  obtain ⟨attempt, ⟨-, socket, observers, found, -⟩ | ⟨-, -, socket, found⟩⟩ := stands
  · exact world.owner?_lt index _ found
  · exact world.owner?_lt index _ found

theorem Stands.owner (stands : world.Stands index) (found : world.attempt? index = some attempt) :
    attempt.state ≠ .idle ∧ ∃ socket observers,
      world.owner? index = some { socket, observers, role := .attempt attempt } := by
  by_cases waits : attempt.Waits
  · obtain ⟨-, socket, observers, there, -⟩ := stands.waiting found waits
    exact ⟨by simp [waits.1], socket, observers, there⟩
  · obtain ⟨begun, -, socket, there⟩ := stands.spent found waits
    exact ⟨begun, socket, [], there⟩

theorem Lasts.refl (index : Nat) (world : World η ν) : Lasts index world world :=
  ⟨fun _ _ found _ _ => ⟨found, rfl⟩, fun _ _ found _ _ => ⟨found, rfl⟩⟩

theorem Lasts.trans (first : Lasts index before between) (second : Lasts index between after) :
    Lasts index before after where
  waited owner attempt found role waits := by
    obtain ⟨there, same⟩ := second.waited owner attempt found role waits
    obtain ⟨here, same'⟩ := first.waited owner attempt there role waits
    exact ⟨here, same.trans same'⟩
  ended owner attempt found role ended := by
    obtain ⟨there, same⟩ := first.ended owner attempt found role ended
    obtain ⟨last, same'⟩ := second.ended owner attempt there role ended
    exact ⟨last, same'.trans same⟩

theorem Upholds.refl (index : Nat) (world : World η ν) : Upholds index world world := fun ledger =>
  ⟨ledger, fun stands => ⟨stands, .refl index world⟩⟩

theorem Upholds.trans (first : Upholds index before between)
    (second : Upholds index between after) : Upholds index before after := by
  intro ledger
  obtain ⟨middle, first⟩ := first ledger
  obtain ⟨last, second⟩ := second middle
  refine ⟨last, fun stands => ?_⟩
  obtain ⟨there, lasts⟩ := first stands
  obtain ⟨still, lasts'⟩ := second there
  exact ⟨still, lasts.trans lasts'⟩

/-- The attempt is left alone as far as its owner and what is done for it go. -/
theorem Stands.same (stands : before.Stands index)
    (owner : ∀ owner, before.owner? index = some owner → after.owner? index = some owner)
    (alive : after.reactor.alive = true → before.reactor.alive = true)
    (deeds : after.deedsOf index = before.deedsOf index) :
    after.Stands index ∧ Lasts index before after := by
  have still : after.Stands index := by
    obtain ⟨attempt, ⟨waits, socket, observers, found, placed⟩ | ⟨begun, past, socket, found⟩⟩ :=
      stands
    · exact ⟨attempt, .inl ⟨waits, socket, observers, owner _ found, placed ∘ alive⟩⟩
    · exact ⟨attempt, .inr ⟨begun, past, socket, owner _ found⟩⟩
  refine ⟨still, ?_, fun value _ found _ _ => ⟨owner value found, deeds⟩⟩
  intro value _ found _ _
  obtain ⟨other, here⟩ := stands.found
  obtain ⟨-, socket, observers, there⟩ := stands.owner here
  obtain rfl := Option.some.inj (found.symm.trans (owner _ there))
  exact ⟨there, deeds⟩

theorem Apart.deedsOf {of : Option Nat → Bool} (apart : Apart of before after)
    (one : of (some index) = true) : after.deedsOf index = before.deedsOf index := by
  obtain ⟨more, all, others⟩ := apart.deeds
  rw [World.deedsOf, all, List.filter_append, World.deedsOf, List.append_left_eq_self,
    List.filter_eq_nil_iff]
  intro deed done
  rw [beq_iff_eq]
  rintro rfl
  exact Bool.false_ne_true ((others deed done).symm.trans one)

/-- What leaves the attempt alone. -/
theorem Keeps.upholds {of : Option Nat → Bool} (keeps : Keeps of before after)
    (one : of (some index) = true) : Upholds index before after := by
  intro ledger
  obtain ⟨last, apart⟩ := keeps ledger
  refine ⟨last, fun stands => stands.same ?_ ?_ (apart.deedsOf one)⟩
  · exact fun owner => apart.owners index owner one
  · rw [apart.alive]
    exact id

theorem upholds_aside (aside : Aside before after) : Upholds index before after := by
  refine fun ledger => ⟨aside.ledger ledger, fun stands => stands.same ?_ ?_ ?_⟩
  · intro owner found
    rw [World.owner?, aside.outside]
    exact found
  · rw [aside.alive]
    exact id
  · rw [World.deedsOf, World.deedsOf, aside.outside]

theorem upholds_lost (world : World η ν) : Upholds index world world.lost := fun ledger =>
  ⟨ledger.lost, fun stands => stands.same (fun _ => id) nofun rfl⟩

theorem elsewhere_other {known actor : Nat} (other : index ≠ actor) (old : index < known) :
    elsewhere actor known (some index) = true := by
  simp [elsewhere, other, old]

/-- Whatever another owner does. -/
theorem Acts.upholds {user : UserCode η ν} (upholds : user.Within (Upholds index)) {actor : Nat}
    (acts : Acts user actor before after) (other : index ≠ actor) : Upholds index before after := by
  induction acts with
  | refl => exact .refl index before
  | tail earlier act ih =>
    refine ih.trans ?_
    rcases act.apart with apart | called
    · refine fun ledger => ⟨act.ledger.2, fun stands => ?_⟩
      have one := elsewhere_other other stands.known
      exact ((Keeps.upholds (fun _ => ⟨act.ledger.2, apart⟩) one) ledger).2 stands
    · exact upholds.called called

/-- An attempt that no longer waits, in a world whose records are right. -/
def Past (index : Nat) (world : World η ν) : Prop :=
  world.Ledger ∧ ∃ attempt, world.Spent index attempt

theorem Past.upheld (past : before.Past index) (upholds : Upholds index before after) :
    after.Past index := by
  obtain ⟨ledger, attempt, spent⟩ := past
  obtain ⟨last, keeps⟩ := upholds ledger
  obtain ⟨⟨other, waiting | later⟩, lasts⟩ := keeps ⟨attempt, .inr spent⟩
  · -- it would have waited before
    obtain ⟨waits, socket, observers, there, -⟩ := waiting
    obtain ⟨here, -⟩ := lasts.waited _ other there rfl waits
    obtain rfl := Option.some.inj ((attempt?_of_owner here rfl).symm.trans spent.found)
    exact absurd waits spent.2.1
  · exact ⟨last, other, later⟩

theorem Past.change (past : world.Past index) (change : Attempt → Attempt)
    (keeps : ∀ attempt : Attempt, attempt.state ≠ .idle → ¬attempt.Waits →
      (change attempt).state ≠ .idle ∧ ¬(change attempt).Waits) :
    (world.changeAttempt index change).Past index := by
  obtain ⟨ledger, attempt, begun, past, socket, found⟩ := past
  obtain ⟨begun', past'⟩ := keeps attempt begun past
  have kept : Keeps (fun _ => false) world (world.changeAttempt index change) :=
    .changeAttempt world index rfl change
  exact ⟨(kept ledger).1, change attempt, begun', past', socket,
    owner?_changeOwner_self world index _ _ found⟩

theorem Past.done (past : world.Past index) (deed : Deed) : (world.done deed).Past index := by
  have kept : Keeps (fun _ => false) world (world.done deed) := .done world deed rfl
  exact ⟨(kept past.1).1, past.2⟩

theorem Past.lasts (past : after.Past index) (found : before.attempt? index = some attempt)
    (going : ¬attempt.Ended) : after.Stands index ∧ Lasts index before after := by
  obtain ⟨-, other, spent⟩ := past
  refine ⟨⟨other, .inr spent⟩, ?_, ?_⟩
  · intro owner last there role waits
    obtain rfl := Option.some.inj ((attempt?_of_owner there role).symm.trans spent.found)
    exact absurd waits spent.2.1
  · intro owner first there role ended
    obtain rfl := Option.some.inj ((attempt?_of_owner there role).symm.trans found)
    exact absurd ended going

theorem Stands.taken (stands : world.Stands index) (ledger : world.Ledger)
    (found : world.attempt? index = some attempt) : (world.taken index).Ledger ∧
      (world.taken index).deedsOf index = world.deedsOf index ∧
      (world.taken index).Spent index { attempt with factory := false } := by
  obtain ⟨begun, socket, observers, there⟩ := stands.owner found
  have bare : (world.withdrawAll index).owner? index =
      some { socket, role := .attempt attempt } := by
    simpa [World.withdrawAll] using world.owner?_withdraw ledger.sound index (fun _ => true) _ there
  have kept : Keeps (fun _ => false) (world.withdrawAll index) (world.taken index) :=
    .changeAttempt _ index rfl _
  have deeds := ((Edits.near (world.withdraw_edits index fun _ => true)) ledger).2.deeds
  exact ⟨(kept (ledger.withdraw index _ _ there)).1, congrArg (List.filter _) deeds, begun,
    by simp [Attempt.Waits], socket, owner?_changeOwner_self _ index _ _ bare⟩

theorem attempt?_withdrawAll (ledger : world.Ledger) (found : world.attempt? index = some attempt) :
    (world.withdrawAll index).attempt? index = some attempt := by
  obtain ⟨owner, there, role⟩ := Option.bind_eq_some_iff.mp found
  exact Option.bind_eq_some_iff.mpr ⟨_, world.owner?_withdraw ledger.sound index _ owner there, role⟩

theorem withdrawAll_of_bare (owner : Owner η) (found : world.owner? index = some owner)
    (bare : owner.observers = []) : world.withdrawAll index = world := by
  have same : world.outside.owners.modify index (fun owner =>
      { owner with observers := owner.observers.filter fun row => !true }) =
        world.outside.owners := by
    refine List.ext_getElem? fun other => ?_
    rw [List.getElem?_modify]
    split
    · rename_i own
      obtain ⟨socket, observers, role⟩ := owner
      obtain rfl := own
      rw [World.owner?] at found
      simp [found, show observers = [] from bare]
    · simp
  simp only [World.withdrawAll, World.withdraw, World.strike, found, bare, List.filter_nil]
  rw [World.changeOwner, same]
  simp [World.unregister, found]

theorem resolve_of_over (user : UserCode η ν) (notification : Notification)
    (found : world.attempt? index = some attempt) (past : attempt.state ≠ .connecting) :
    resolve user index notification world = (.returned, world) := by
  obtain ⟨owner, there, -⟩ := Option.bind_eq_some_iff.mp found
  simp only [World.resolve, there, found, if_neg past]

theorem abort_of_unreferenced (user : UserCode η ν) (free : world.isReferenced index = false) :
    abort user index world = (.returned, world) := by
  rw [World.abort, if_neg (by simp [free])]

theorem Spent.abort_of_over (user : UserCode η ν) (spent : world.Spent index attempt)
    (past : attempt.state ≠ .connecting) : abort user index world = (.returned, world) := by
  have found := spent.found
  obtain ⟨-, -, socket, there⟩ := spent
  rw [World.abort, withdrawAll_of_bare _ there rfl]
  simp [found, past]

end

section

variable {user : UserCode η ν} {index : Nat} (stays : user.Within (Upholds index))
  {world before after : World η ν} {attempt : Attempt}

include stays

theorem orderly_of_upholds : user.Within Orderly :=
  stays.imp fun _ _ keeps ledger => (keeps ledger).1

theorem Behaves.upholds {actor : Nat} (behaves : Behaves user actor before after)
    (other : before.Stands index → index ≠ actor) : Upholds index before after := by
  intro ledger
  obtain ⟨last, acts⟩ := behaves ledger
  exact ⟨last, fun stands => ((acts.upholds stays (other stands)) ledger).2 stands⟩

theorem attach_upholds (world : World η ν) (socket : Handle) (handler : η) :
    Upholds index world (attach user socket handler world) := by
  have attached := attach_behaves (orderly_of_upholds stays) world.outside.owners.length world
    socket handler
  exact attached.upholds stays fun stands => Nat.ne_of_lt stands.known

theorem Past.failAttempt (past : world.Past index) (failure : Failure) :
    (failAttempt user index failure world).2.Past index := by
  have failed := past.change (fun attempt => { attempt with
    state := .failed, errno := failure.errno?, onFailure := false }) (by simp [Attempt.Waits])
  simp only [World.failAttempt]
  split
  · exact (failed.done _).upheld (stays.onFailure index failure _)
  · exact failed

theorem Past.complete (past : world.Past index) (socket : Handle) (factory : Bool) :
    (complete user index socket factory world).2.Past index := by
  have connected : ∀ world : World η ν, world.Past index →
      (world.changeAttempt index fun attempt =>
        { attempt with state := .connected, errno := none }).Past index :=
    fun world past => past.change _ (by simp [Attempt.Waits])
  cases factory with
  | false => exact connected world past
  | true =>
    have built := (past.done (.built index socket)).upheld (stays.factory index socket _)
    simp only [World.complete, if_true]
    split <;> rename_i result <;> rw [result] at built
    · exact built
    · exact built.failAttempt stays _
    · exact connected _ (built.upheld (attach_upholds stays _ socket _))

/-- The first notification of an attempt takes it up, and it does not wait any more. -/
theorem Stands.resolved (ledger : world.Ledger) (stands : world.Stands index)
    (found : world.attempt? index = some attempt) (connecting : attempt.state = .connecting)
    (notification : Notification) : (resolve user index notification world).2.Past index := by
  obtain ⟨owner, there, -⟩ := Option.bind_eq_some_iff.mp found
  obtain ⟨read, keeps⟩ := stays.takeError owner.socket world ledger
  have still := (keeps stands).1
  obtain ⟨last, found'⟩ := still.found
  obtain ⟨ledger', -, spent⟩ := still.taken read found'
  have taken : Past index _ := ⟨ledger', _, spent⟩
  simp only [World.resolve, there, found, connecting, if_true]
  split
  · exact taken.failAttempt stays _
  · exact taken.complete stays owner.socket _

theorem resolve_upholds (world : World η ν) (notification : Notification) :
    Upholds index world (resolve user index notification world).2 := by
  intro ledger
  have last := (resolve_behaves (orderly_of_upholds stays) index world notification ledger).1
  refine ⟨last, fun stands => ?_⟩
  obtain ⟨attempt, found⟩ := stands.found
  by_cases connecting : attempt.state = .connecting
  · have past := stands.resolved stays ledger found connecting notification
    exact past.lasts found fun ended => ended.not_connecting connecting
  · rw [resolve_of_over user notification found connecting]
    exact ⟨stands, .refl index world⟩

theorem Stands.aborted (ledger : world.Ledger) (stands : world.Stands index)
    (found : world.attempt? index = some attempt) (connecting : attempt.state = .connecting)
    (referenced : world.isReferenced index = true) : (abort user index world).2.Past index := by
  obtain ⟨ledger', -, spent⟩ := stands.taken ledger found
  have taken : Past index _ := ⟨ledger', _, spent⟩
  have still := attempt?_withdrawAll ledger found
  simp only [World.abort, referenced, if_true, still, Option.any_some, connecting, decide_true]
  exact taken.failAttempt stays _

theorem abort_upholds (world : World η ν) : Upholds index world (abort user index world).2 := by
  intro ledger
  have last := (abort_behaves (orderly_of_upholds stays) index world ledger).1
  refine ⟨last, fun stands => ?_⟩
  obtain ⟨attempt, found⟩ := stands.found
  cases referenced : world.isReferenced index with
  | false =>
    rw [abort_of_unreferenced user referenced]
    exact ⟨stands, .refl index world⟩
  | true =>
    by_cases connecting : attempt.state = .connecting
    · have past := stands.aborted stays ledger found connecting referenced
      exact past.lasts found fun ended => ended.not_connecting connecting
    · have spent := stands.spent found fun waits => connecting waits.1
      rw [spent.abort_of_over user connecting]
      exact ⟨stands, .refl index world⟩

end

/-- What goes on around an attempt: whatever leaves it alone, user code, steps of the loop, a
notification for it, an abort of it, and the end of the reactor. -/
inductive Around (user : UserCode η ν) (index : Nat) (world : World η ν) : World η ν → Prop where
  | apart {of : Option Nat → Bool} {after : World η ν} (one : of (some index) = true)
      (keeps : Keeps of world after) : Around user index world after
  | called {after : World η ν} (called : user.Called world after) : Around user index world after
  | poll (asked : List Interest) : Around user index world (user.poll asked world).2
  | rest : Around user index world (user.rest world)
  | aside {after : World η ν} (aside : Aside world after) : Around user index world after
  | resolve (notification : Notification) :
      Around user index world (resolve user index notification world).2
  | abort : Around user index world (abort user index world).2
  | lost : Around user index world world.lost

def Ensues (user : UserCode η ν) (index : Nat) : World η ν → World η ν → Prop :=
  ReflTransGen (Around user index)

section

variable {user : UserCode η ν} {index : Nat} (stays : user.Within (Upholds index))
  {world before after : World η ν}

include stays

theorem Around.upholds (around : Around user index before after) : Upholds index before after := by
  cases around with
  | apart one keeps => exact keeps.upholds one
  | called called => exact stays.called called
  | poll asked => exact stays.poll asked before
  | rest => exact stays.rest before
  | aside aside => exact upholds_aside aside
  | resolve notification => exact resolve_upholds stays before notification
  | abort => exact abort_upholds stays before
  | lost => exact upholds_lost before

theorem Ensues.upholds (ensues : Ensues user index before after) : Upholds index before after := by
  induction ensues with
  | refl => exact .refl index before
  | tail _ around ih => exact ih.trans (around.upholds stays)

theorem Acts.ensues {actor : Nat} (acts : Acts user actor before after) (other : index ≠ actor)
    (ledger : before.Ledger) (stands : before.Stands index) : Ensues user index before after := by
  induction acts with
  | refl => exact .refl
  | tail earlier act ih =>
    have known := ((ih.upholds stays ledger).2 stands).1.known
    refine ih.tail ?_
    rcases act.apart with apart | called
    · exact .apart (elsewhere_other other known) fun _ => ⟨act.ledger.2, apart⟩
    · exact .called called

omit stays in
theorem Stands.role (stands : world.Stands index) (owner : Owner η)
    (found : world.owner? index = some owner) : ∃ attempt, owner.role = .attempt attempt := by
  obtain ⟨attempt, trying⟩ := stands.found
  obtain ⟨-, socket, observers, there⟩ := stands.owner trying
  obtain rfl := Option.some.inj (found.symm.trans there)
  exact ⟨attempt, rfl⟩

omit stays in
/-- What an observer of the attempt hears of resolves it. -/
theorem Stands.notify_eq (stands : world.Stands index) (user : UserCode η ν) (observer : Nat)
    (notification : Notification) (made : world.maker? observer = some index) :
    notify user observer notification world = resolve user index notification world := by
  obtain ⟨attempt, found⟩ := stands.found
  obtain ⟨-, socket, observers, there⟩ := stands.owner found
  rw [notify, made]
  simp only [notifyOwner, there, Option.map_some]

theorem notify_ensues (ledger : world.Ledger) (stands : world.Stands index) (observer : Nat)
    (notification : Notification) :
    Ensues user index world (notify user observer notification world).2 := by
  cases made : world.maker? observer with
  | none =>
    rw [notify, made]
    exact .single (.called (.observer observer notification))
  | some actor =>
    by_cases own : index = actor
    · rw [stands.notify_eq user observer notification (own ▸ made)]
      exact .single (.resolve notification)
    · have behaves := notifyOwner_behaves (orderly_of_upholds stays) actor world notification
      rw [notify, made]
      exact (behaves ledger).2.ensues stays own ledger stands

theorem dropReactor_ensues (ledger : world.Ledger) (stands : world.Stands index) :
    Ensues user index world (dropReactor user world) := by
  have dropped : ∀ (services : List Nat) (world : World η ν), world.Ledger → world.Stands index →
      Ensues user index world
        (services.foldl (fun world index => dropHandler user world index) world) := by
    intro services
    induction services with
    | nil => exact fun _ _ _ => .refl
    | cons actor rest ih =>
      intro world ledger stands
      have first : Ensues user index world (dropHandler user world actor) := by
        by_cases own : index = actor
        · obtain rfl := own
          rw [dropHandler_of_absent user world index]
          · exact .refl
          · rintro ⟨owner, handler, found, role⟩
            obtain ⟨attempt, role'⟩ := stands.role owner found
            cases role.symm.trans role'
        · have behaves := dropHandler_behaves (orderly_of_upholds stays) actor world
          exact (behaves ledger).2.ensues stays own ledger stands
      obtain ⟨last, keeps⟩ := first.upholds stays ledger
      exact first.trans (ih _ last (keeps stands).1)
  have lost : Ensues user index world world.lost := .single .lost
  obtain ⟨last, keeps⟩ := lost.upholds stays ledger
  exact lost.trans (dropped _ _ last (keeps stands).1)

/-- Whatever may happen at all goes on around the attempt. -/
theorem Happens.ensues (happens : Happens user before after) (ledger : before.Ledger)
    (stands : before.Stands index) : Ensues user index before after := by
  have orderly := orderly_of_upholds stays
  have known := stands.known
  have new : (index : Nat) ≠ before.outside.owners.length := Nat.ne_of_lt known
  have alone : ∀ {after : World η ν}, Keeps (· == some index) before after →
      Ensues user index before after := fun keeps => .single (.apart (by simp) keeps)
  have fresh : (some before.outside.owners.length == some index) = false := by
    simpa using new.symm
  cases happens with
  | beyond change => exact alone (.of_owners _ rfl rfl rfl rfl rfl)
  | stop => exact alone (.of_owners _ rfl rfl rfl rfl rfl)
  | newObserver => exact alone (.newObserver _ before)
  | addHandler alive socket kind observer made =>
    exact alone (.addHandler before rfl socket kind observer made alive)
  | removeHandler socket kind observer made =>
    exact alone (.removeHandler before rfl socket kind observer made)
  | called called => exact .single (.called called)
  | attach socket handler =>
    have behaves := attach_behaves orderly before.outside.owners.length before socket handler
    exact (behaves ledger).2.ensues stays new ledger stands
  | launch socket onFailure => exact alone (launch_keeps _ before fresh socket onFailure)
  | launchFailed socket onFailure failure =>
    have added : Behaves user before.outside.owners.length before _ :=
      .own (.addOwner _ before { socket, role := .attempt { onFailure } } rfl)
    have behaves := added.trans
      (failAttempt_behaves orderly before.outside.owners.length _ failure)
    exact (behaves ledger).2.ensues stays new ledger stands
  | startAcceptor socket => exact alone (startAcceptor_keeps _ before fresh socket)
  | stopAcceptor actor acceptor =>
    refine alone (stopAcceptor_keeps _ before actor ?_)
    rw [beq_eq_false_iff_ne]
    rintro same
    obtain rfl := Option.some.inj same
    obtain ⟨attempt, found⟩ := stands.found
    obtain ⟨-, socket, observers, there⟩ := stands.owner found
    rw [acceptor?, there, Option.bind_some, Owner.acceptor?] at acceptor
    cases acceptor
  | abort actor =>
    by_cases own : index = actor
    · obtain rfl := own
      exact .single .abort
    · exact (abort_behaves orderly actor before ledger).2.ensues stays own ledger stands
  | notify observer notification => exact notify_ensues stays ledger stands observer notification
  | poll asked => exact .single (.poll asked)
  | rest => exact .single .rest
  | aside aside => exact .single (.aside aside)
  | drop => exact dropReactor_ensues stays ledger stands

theorem ensues_preserves (ledger : before.Ledger) (stands : before.Stands index) :
    (host user).Preserves (Ensues user index before) :=
  preserves_of_aside
    (fun observer notification _ ensues =>
      have there := ensues.upholds stays ledger
      ensues.trans (notify_ensues stays there.1 (there.2 stands).1 observer notification))
    (fun asked _ ensues => ensues.tail (.poll asked)) (fun _ ensues => ensues.tail .rest)
    fun _ _ aside ensues => ensues.tail (.aside aside)

end

theorem enlist_records (world : World η ν) (index : Nat) (kind : Kind) (owner : Owner η)
    (found : world.owner? index = some owner) : ∃ more,
      (world.enlist index kind).owner? index =
        some { owner with observers := owner.observers ++ more } ∧
      more.map Prod.fst = (if world.reactor.alive then [kind] else []) ∧
      (world.enlist index kind).reactor.alive = world.reactor.alive ∧
      (world.enlist index kind).outside.deeds = world.outside.deeds := by
  cases alive : world.reactor.alive with
  | false =>
    rw [enlist, if_neg (by simp [alive])]
    exact ⟨[], by simpa using found, rfl, alive, rfl⟩
  | true =>
    refine ⟨_, world.enlist_owner index owner found alive kind, rfl, ?_, ?_⟩
    all_goals rw [enlist_of_alive world index kind owner alive found]
    · exact alive
    · rfl

/-- An attempt that was launched waits for either kind, and nothing was done for it yet. -/
theorem launch_waits (world : World η ν) (socket : Handle) (onFailure : Bool) :
    ∃ observers, (launch socket onFailure world).2.owner? world.outside.owners.length =
        some { socket, observers, role := .attempt { state := .connecting, onFailure } } ∧
      observers.map Prod.fst = (if world.reactor.alive then [.writable, .error] else []) ∧
      (launch socket onFailure world).2.reactor.alive = world.reactor.alive ∧
      (launch socket onFailure world).2.deedsOf world.outside.owners.length =
        world.deedsOf world.outside.owners.length := by
  have added := (world.owner?_addOwner { socket, role := .attempt { onFailure } } _ _).mpr
    (.inr ⟨rfl, rfl⟩)
  have begun := owner?_changeAttempt_self _ world.outside.owners.length
    (fun attempt => { attempt with state := .connecting }) _ _ added rfl
  obtain ⟨first, found, kinds, alive, deeds⟩ := enlist_records _ _ .writable _ begun
  obtain ⟨second, found', kinds', alive', deeds'⟩ := enlist_records _ _ .error _ found
  refine ⟨_, found', ?_, alive'.trans alive, congrArg (List.filter _) (deeds'.trans deeds)⟩
  rw [alive] at kinds'
  rw [List.map_append, kinds', List.map_append, kinds]
  cases living : world.reactor.alive <;> simp [changeAttempt, changeOwner, addOwner, living]

theorem launch_waiting (world : World η ν) (socket : Handle) (onFailure : Bool) :
    (launch socket onFailure world).2.Waiting world.outside.owners.length
      { state := .connecting, onFailure } := by
  obtain ⟨observers, found, kinds, alive, -⟩ := world.launch_waits socket onFailure
  refine ⟨⟨rfl, rfl⟩, socket, observers, found, ?_⟩
  rintro living rfl
  simp [alive.symm.trans living] at kinds

/-- Wherever things have come to since the launch, an attempt that waits is as it was launched. -/
theorem Ensues.launched {user : UserCode η ν} {start world : World η ν} {socket : Handle}
    {onFailure : Bool} (stays : user.Within (Upholds start.outside.owners.length))
    (ensues : Ensues user start.outside.owners.length (launch socket onFailure start).2 world)
    (ledger : start.Ledger) :
    let index := start.outside.owners.length
    world.Ledger ∧ world.Stands index ∧
    ∀ attempt, world.attempt? index = some attempt → attempt.Waits →
      attempt = { state := .connecting, onFailure } ∧
      world.deedsOf index = start.deedsOf index ∧
      ∃ observers, world.owner? index = some { socket, observers, role := .attempt attempt } ∧
        observers.map Prod.fst = if start.reactor.alive then [.writable, .error] else [] := by
  intro index
  obtain ⟨observers, there, kinds, -, older⟩ := start.launch_waits socket onFailure
  have begun := (launch_keeps (fun _ => false) start rfl socket onFailure ledger).1
  obtain ⟨ledger', keeps⟩ := ensues.upholds stays begun
  obtain ⟨stands, lasts⟩ := keeps ⟨_, .inl (start.launch_waiting socket onFailure)⟩
  refine ⟨ledger', stands, ?_⟩
  intro attempt found waits
  obtain ⟨-, home, noted, here⟩ := stands.owner found
  obtain ⟨first, same⟩ := lasts.waited _ attempt here rfl waits
  obtain ⟨⟩ := Option.some.inj (first.symm.trans there)
  exact ⟨rfl, same.trans older, observers, here, kinds⟩

end World

end SocketLoop
