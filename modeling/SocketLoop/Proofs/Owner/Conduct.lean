import SocketLoop.Proofs.Owner.Fates
import SocketLoop.Proofs.Owner.Frame

/-! How owners conduct themselves as long as the reactor is there. What they do is made of moves and
of what user code does, so as long as user code does no harm to services, neither do they. -/
namespace SocketLoop

namespace KindSet

theorem has_foldl_insert (kinds : List Kind) (set : KindSet) (kind : Kind) :
    (kinds.foldl insert set).has kind = true ↔ set.has kind = true ∨ kind ∈ kinds := by
  induction kinds generalizing set with
  | nil => simp
  | cons first rest ih =>
    rw [List.foldl_cons, ih, insert, has_put, List.mem_cons]
    by_cases same : kind = first <;> simp [same]

theorem has_ofList (kinds : List Kind) (kind : Kind) :
    (ofList kinds).has kind = true ↔ kind ∈ kinds := by
  rw [ofList, has_foldl_insert, has_empty]
  simp

theorem isEmpty_iff (set : KindSet) : set.isEmpty = true ↔ ∀ kind, set.has kind = false := by
  rw [isEmpty, beq_iff_eq]
  constructor
  · rintro rfl kind
    exact has_empty kind
  · intro none
    cases set with
    | mk readable writable shutdown timeout error idle =>
      have := none .readable
      have := none .writable
      have := none .shutdown
      have := none .timeout
      have := none .error
      have := none .idle
      simp_all [has, empty]

end KindSet

variable {η ν : Type}

namespace Owner

theorem has_kinds (owner : Owner η) (kind : Kind) :
    owner.kinds.has kind = true ↔ kind ∈ owner.observers.map Prod.fst :=
  KindSet.has_ofList _ kind

theorem kinds_isEmpty (owner : Owner η) :
    owner.kinds.isEmpty = true ↔ owner.observers = [] := by
  rw [KindSet.isEmpty_iff]
  constructor
  · intro none
    refine List.eq_nil_iff_forall_not_mem.mpr ?_
    intro record noted
    have has := (owner.has_kinds record.1).mpr (List.mem_map_of_mem noted)
    rw [none record.1] at has
    cases has
  · intro bare kind
    rw [Bool.eq_false_iff, Ne, owner.has_kinds, bare]
    simp

end Owner

namespace World

open Relation

/-- An owner's record and its registrations are made to be for some kinds. -/
def Tuned (index : Nat) (owner : Owner η) (before after : World η ν) (kinds : Kind → Prop) : Prop :=
  ∃ observers, Edits index before after ∧ after.owner? index = some { owner with observers } ∧
    ∀ kind, kind ∈ observers.map Prod.fst ↔ kinds kind

section

variable (world : World η ν) (ledger : world.Ledger) (index : Nat) (owner : Owner η)
  (found : world.owner? index = some owner)

include ledger found

theorem disable_tunes (kind : Kind) : Tuned index owner world (world.disable index kind)
    fun other => other ∈ owner.observers.map Prod.fst ∧ other ≠ kind := by
  have left := world.owner?_withdraw ledger.sound index (· == kind) owner found
  refine ⟨_, .single (.withdraw found _), left, ?_⟩
  intro other
  simp only [List.mem_map, List.mem_filter]
  constructor
  · rintro ⟨record, ⟨noted, stays⟩, rfl⟩
    exact ⟨⟨record, noted, rfl⟩, by simpa using stays⟩
  · rintro ⟨⟨record, noted, rfl⟩, apart⟩
    exact ⟨record, ⟨noted, by simpa using apart⟩, rfl⟩

theorem disables_tune (kinds : List Kind) :
    Tuned index owner world (kinds.foldl (fun world kind => world.disable index kind) world)
      fun kind => kind ∈ owner.observers.map Prod.fst ∧ kind ∉ kinds := by
  induction kinds generalizing world owner with
  | nil => exact ⟨owner.observers, .refl, found, by simp⟩
  | cons first rest ih =>
    obtain ⟨observers, edits, found', noted⟩ := disable_tunes world ledger index owner found first
    obtain ⟨more, edits', kept, others⟩ := ih _ (edits.near ledger).1 _ found'
    refine ⟨more, edits.trans edits', kept, ?_⟩
    intro kind
    simp only [others, noted, List.mem_cons, not_or, and_assoc]

variable (alive : world.reactor.alive = true)

include alive

omit ledger in
theorem enable_tunes (kind : Kind) : Tuned index owner world (world.enable index kind)
    fun other => other ∈ owner.observers.map Prod.fst ∨ other = kind := by
  rw [enable, found]
  dsimp only
  split
  · rename_i there
    refine ⟨owner.observers, .refl, found, ?_⟩
    intro other
    have known := (owner.has_kinds kind).mp there
    exact ⟨.inl, fun either => either.elim id fun same => same ▸ known⟩
  · refine ⟨owner.observers ++ [(kind, world.outside.makers.length)],
      .single (.enlist alive found kind), ?_, by simp⟩
    rw [enlist_of_alive world index kind owner alive found]
    exact owner?_changeOwner_self (world.newObserver (some index)).2 index _ owner found

theorem enables_tune (kinds : List Kind) :
    Tuned index owner world (kinds.foldl (fun world kind => world.enable index kind) world)
      fun kind => kind ∈ owner.observers.map Prod.fst ∨ kind ∈ kinds := by
  induction kinds generalizing world owner with
  | nil => exact ⟨owner.observers, .refl, found, by simp⟩
  | cons first rest ih =>
    obtain ⟨observers, edits, found', noted⟩ := enable_tunes world index owner found alive first
    obtain ⟨ledger', near⟩ := edits.near ledger
    obtain ⟨more, edits', kept, others⟩ := ih _ ledger' _ found' (near.alive.trans alive)
    refine ⟨more, edits.trans edits', kept, ?_⟩
    intro kind
    simp only [others, noted, List.mem_cons, or_assoc]

end

structure Going (world : World η ν) : Prop where
  sound : world.Sound
  alive : world.reactor.alive = true

theorem Move.goes {before after : World η ν} (move : Move before after) (going : before.Going) :
    after.Going ∧ Beside (fun _ => False) before after := by
  have beside := move.beside going.sound.toLedger
  exact ⟨⟨move.sound going.alive going.sound, beside.alive.trans going.alive⟩, beside⟩

theorem Moves.goes {before after : World η ν} (moves : Moves before after)
    (going : before.Going) : after.Going ∧ Beside (fun _ => False) before after := by
  induction moves with
  | refl => exact ⟨going, .refl _ before⟩
  | tail _ move ih =>
    obtain ⟨between, beside⟩ := ih
    obtain ⟨after, beside'⟩ := move.goes between
    exact ⟨after, beside.trans beside'⟩

/-- What comes of a sound world with its reactor is made of moves. -/
def Harmless (before after : World η ν) : Prop := before.Going → before.Moves after

namespace Harmless

variable {before between after : World η ν}

theorem refl (world : World η ν) : Harmless world world := fun _ => .refl

theorem trans (first : Harmless before between) (second : Harmless between after) :
    Harmless before after :=
  fun going => (first going).trans (second ((first going).goes going).1)

theorem move (move : Move before after) : Harmless before after := fun _ => .single move

end Harmless

def Other (world : World η ν) (index : Nat) : Prop :=
  ∃ owner, world.owner? index = some owner ∧ owner.serves = false

theorem Beside.other {before after : World η ν} (beside : Beside (fun _ => False) before after)
    {index : Nat} (other : before.Other index) : after.Other index := by
  obtain ⟨owner, found, other⟩ := other
  have known := before.owner?_lt index owner found
  have still : index < after.outside.owners.length := Nat.lt_of_lt_of_le known beside.length
  refine ⟨_, List.getElem?_eq_getElem still, ?_⟩
  cases serves : after.outside.owners[index].serves with
  | false => rfl
  | true =>
    have same := (beside.services index _ id known serves).mp (List.getElem?_eq_getElem still)
    rw [Option.some.inj (found.symm.trans same), serves] at other
    cases other

theorem other_of_attempt? (world : World η ν) (index : Nat) (attempt : Attempt)
    (found : world.attempt? index = some attempt) : world.Other index := by
  obtain ⟨owner, there, role⟩ := Option.bind_eq_some_iff.mp found
  refine ⟨owner, there, ?_⟩
  cases owner with
  | mk socket observers own => cases own <;> simp_all [Owner.attempt?, Owner.serves]

theorem other_of_acceptor? (world : World η ν) (index : Nat) (acceptor : Acceptor)
    (found : world.acceptor? index = some acceptor) : world.Other index := by
  obtain ⟨owner, there, role⟩ := Option.bind_eq_some_iff.mp found
  refine ⟨owner, there, ?_⟩
  cases owner with
  | mk socket observers own => cases own <;> simp_all [Owner.acceptor?, Owner.serves]

theorem enlist_harmless (world : World η ν) (index : Nat) (kind : Kind)
    (other : world.Other index) : Harmless world (world.enlist index kind) := by
  obtain ⟨owner, found, other⟩ := other
  exact fun going => .single (.edit index owner found other (.enlist going.alive found kind))

theorem withdrawAll_harmless (world : World η ν) (index : Nat) (other : world.Other index) :
    Harmless world (world.withdrawAll index) := by
  obtain ⟨owner, found, other⟩ := other
  exact .move (.edit index owner found other (.withdraw found _))

theorem Harmless.andOther {before between after : World η ν} {index : Nat}
    (first : Harmless before between) (other : before.Other index)
    (next : between.Other index → Harmless between after) : Harmless before after := by
  intro going
  have moves := first going
  obtain ⟨between, beside⟩ := moves.goes going
  exact moves.trans (next (beside.other other) between)

theorem dropHandler_of_serving (user : UserCode η ν) (world : World η ν) (index : Nat)
    (owner : Owner η) (handler : η) (found : world.owner? index = some owner)
    (role : owner.role = .service (some handler)) :
    world.dropHandler user index = user.dropped handler owner.socket (world.discard index) := by
  simp only [dropHandler, found, Owner.handler?, role]
  rfl

def seated (world : World η ν) (socket : Handle) (handler : η) : World η ν :=
  (world.addOwner { socket, role := .service (some handler) }).2

theorem owner?_seated (world : World η ν) (socket : Handle) (handler : η) :
    (world.seated socket handler).owner? world.outside.owners.length =
      some { socket, role := .service (some handler) } :=
  (world.owner?_addOwner _ _ _).mpr (.inr ⟨rfl, rfl⟩)

theorem attach_of_bare (user : UserCode η ν) (world : World η ν) (socket : Handle) (handler : η)
    (bare : (user.interests handler).isEmpty = true) : attach user socket handler world =
      user.dropped handler socket
        ((world.seated socket handler).discard world.outside.owners.length) := by
  have dropped := dropHandler_of_serving user _ _ _ handler (world.owner?_seated socket handler) rfl
  simp only [attach, bare, if_true]
  exact dropped

theorem attach_tunes (user : UserCode η ν) (world : World η ν) (socket : Handle) (handler : η)
    (interested : (user.interests handler).isEmpty = false) (going : world.Going) :
    Tuned world.outside.owners.length { socket, role := .service (some handler) }
      (world.seated socket handler) (attach user socket handler world)
      fun kind => (user.interests handler).has kind = true := by
  have ledger : (world.seated socket handler).Ledger := going.sound.toLedger.addOwner _ rfl
  obtain ⟨observers, edits, kept, noted⟩ := enables_tune _ ledger _ _
    (world.owner?_seated socket handler) going.alive (user.interests handler).toList
  simp only [attach, interested]
  exact ⟨observers, edits, kept, fun kind => by simp [noted]⟩

section

variable {user : UserCode η ν} (stays : user.Within Harmless) (world : World η ν)

include stays

theorem attach_harmless (socket : Handle) (handler : η) :
    Harmless world (attach user socket handler world) := by
  intro going
  cases none : (user.interests handler).isEmpty with
  | true =>
    rw [attach_of_bare user world socket handler none]
    have bare : Move world ((world.seated socket handler).discard _) := .bare socket handler
    exact Harmless.trans (.move bare) (stays.dropped handler socket _) going
  | false =>
    obtain ⟨observers, edits, kept, noted⟩ :=
      attach_tunes user world socket handler none going
    refine .single (.attach socket handler edits ⟨_, kept, ?_⟩)
    rintro rfl
    rw [Bool.eq_false_iff, Ne, KindSet.isEmpty_iff] at none
    exact none fun kind => Bool.eq_false_iff.mpr fun has => by simpa using (noted kind).mpr has

theorem failAttempt_harmless (index : Nat) (failure : Failure) :
    Harmless world (failAttempt user index failure world).2 := by
  have failed : Harmless world (world.changeAttempt index fun attempt =>
      { attempt with state := .failed, errno := failure.errno?, onFailure := false }) :=
    .move (.attempt index _)
  simp only [failAttempt]
  split
  · exact (failed.trans (.move (.done _ fun _ => rfl))).trans (stays.onFailure index failure _)
  · exact failed

theorem complete_harmless (index : Nat) (socket : Handle) (factory : Bool) :
    Harmless world (complete user index socket factory world).2 := by
  have connected : ∀ world : World η ν, Harmless world (world.changeAttempt index fun attempt =>
      { attempt with state := .connected, errno := none }) := fun _ => .move (.attempt index _)
  cases factory with
  | false => exact connected world
  | true =>
    have built : Harmless world
        (user.factory index socket (world.done (.built index socket))).2 :=
      Harmless.trans (.move (.done _ fun _ => rfl)) (stays.factory index socket _)
    simp only [complete, if_true]
    split <;> rename_i result <;> rw [result] at built
    · exact built
    · exact built.trans (failAttempt_harmless stays _ index _)
    · exact (built.trans (attach_harmless stays _ socket _)).trans (connected _)

theorem resolve_harmless (index : Nat) (notification : Notification) :
    Harmless world (resolve user index notification world).2 := by
  unfold resolve
  split
  · rename_i owner attempt _ attempts
    split
    · have read := stays.takeError owner.socket world
      refine read.andOther (other_of_attempt? world index attempt attempts) fun other => ?_
      have taken := (withdrawAll_harmless _ index other).trans
        (.move (.attempt index fun attempt => { attempt with factory := false }))
      dsimp only
      split
      · exact taken.trans (failAttempt_harmless stays _ index _)
      · exact taken.trans (complete_harmless stays _ index owner.socket _)
    · exact .refl world
  · exact .refl world

theorem takeConnection_harmless (index : Nat) :
    Harmless world (takeConnection user index world).2 := by
  unfold takeConnection
  split
  · rename_i owner acceptor _ _
    split
    · exact .refl world
    · have accepted := stays.accept index owner.socket world
      split <;> rename_i result <;> rw [result] at accepted
      · exact accepted
      · rename_i socket _
        have counted := (accepted.trans (.move (.done (.accepted index socket) fun _ => rfl))).trans
          (.move (.acceptor index fun acceptor =>
            { acceptor with accepted := acceptor.accepted + 1 }))
        have built := (counted.trans (.move (.done (.built index socket) fun _ => rfl))).trans
          (stays.factory index socket _)
        dsimp only
        split <;> rename_i made <;> rw [made] at built
        · exact built
        · exact built
        · exact built.trans (attach_harmless stays _ socket _)
  · exact .refl world

/-- What users may call does no more harm than they do. -/
theorem abort_harmless (index : Nat) (attempt : Attempt)
    (found : world.attempt? index = some attempt) :
    Harmless world (abort user index world).2 := by
  unfold abort
  split
  · have withdrawn := withdrawAll_harmless world index
      (other_of_attempt? world index attempt found)
    dsimp only
    split
    · exact (withdrawn.trans (.move (.attempt index _))).trans
        (failAttempt_harmless stays _ index _)
    · exact withdrawn
  · exact .refl world

theorem launchFailed_harmless (socket : Handle) (onFailure : Bool) (failure : Failure) :
    Harmless world (launchFailed user socket onFailure failure world).2.2 :=
  Harmless.trans (.move (.owner _ rfl rfl)) (failAttempt_harmless stays _ _ failure)

end

theorem seat_harmless (world : World η ν) (owner : Owner η) (bare : owner.observers = [])
    (other : owner.serves = false) {after : World η ν}
    (next : (world.addOwner owner).2.Other world.outside.owners.length →
      Harmless (world.addOwner owner).2 after) : Harmless world after := by
  refine Harmless.trans (.move (.owner owner bare other)) (next ⟨owner, ?_, other⟩)
  exact (world.owner?_addOwner owner _ owner).mpr (.inr ⟨rfl, rfl⟩)

theorem launch_harmless (socket : Handle) (onFailure : Bool) (world : World η ν) :
    Harmless world (launch socket onFailure world).2 := by
  refine seat_harmless world { socket, role := .attempt { onFailure } } rfl rfl fun other => ?_
  refine Harmless.andOther (.move (.attempt world.outside.owners.length fun attempt =>
    { attempt with state := .connecting })) other fun other => ?_
  exact (enlist_harmless _ _ .writable other).andOther other (enlist_harmless _ _ .error)

theorem startAcceptor_harmless (socket : Handle) (world : World η ν) :
    Harmless world (startAcceptor socket world).2 :=
  seat_harmless world _ rfl rfl fun other => enlist_harmless _ _ .readable other

theorem stopAcceptor_harmless (index : Nat) (world : World η ν) (acceptor : Acceptor)
    (found : world.acceptor? index = some acceptor) :
    Harmless world (stopAcceptor index world) := by
  unfold stopAcceptor
  split
  · exact .refl world
  · have other := other_of_acceptor? world index acceptor found
    exact Harmless.andOther (.move (.acceptor index _)) other (withdrawAll_harmless _ index)

theorem start_harmless {user : UserCode η ν} (stays : user.Within Harmless) (world : World η ν)
    (setUp : ∀ family plan world, Harmless world (user.setUp family plan world).2)
    (connect : ∀ options address world, Harmless world (user.connect options address world).2)
    (plan : OptionPlan) (address : Address) (onFailure : Bool) :
    Harmless world (start user plan address onFailure world).2 := by
  have opened := setUp address.family plan world
  unfold start
  split <;> rename_i result <;> rw [result] at opened
  · exact opened
  · rename_i options inside
    have begun := opened.trans (connect options address inside)
    split <;> rename_i went <;> rw [went] at begun
    · exact begun.trans (launch_harmless _ onFailure _)
    · rename_i fault after
      have failed := begun.trans
        (launchFailed_harmless stays after noSocket onFailure (.ofFault fault))
      split <;> rename_i told <;> rw [told] at failed
      · exact failed
      · exact failed

end World

end SocketLoop
