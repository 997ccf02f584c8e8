import SocketLoop.Proofs.Owner.Bouts
import SocketLoop.Proofs.Reactor.Preserve

/-! The attempts of a world as contests. Whatever a loop with owners does, with user code that deals
with an attempt by aborting it only, is made of moves of the parties to that attempt. -/
namespace SocketLoop

variable {η ν : Type}

namespace Contest

def Alone (contest : Contest) (stance : Stance) : Prop :=
  contest.stance = Function.update (fun _ => .away) .resolver stance

theorem Alone.resolver {contest : Contest} {stance : Stance} (alone : contest.Alone stance) :
    contest.stance .resolver = stance := by
  rw [alone, Function.update_self]

theorem Alone.abort {contest : Contest} {stance : Stance} (alone : contest.Alone stance)
    (number : Nat) : contest.stance (.abort number) = .away := by
  rw [alone, Function.update_of_ne (by simp)]

theorem Alone.go {contest : Contest} {stance : Stance} (alone : contest.Alone stance)
    (target : Stance) : (contest.go .resolver target).Alone target := by
  rw [Alone, Contest.go, alone, Function.update_idem]

theorem alone_away_iff (contest : Contest) : contest.Alone .away ↔ contest.Quiet := by
  rw [Alone, Function.update_eq_self_iff.mpr rfl]
  exact funext_iff

end Contest

/-- The moves of an abort. A thread is in one abort at a time: when it calls back, all that is to be
done about the attempt has been done. -/
inductive Aborts : Option Move → Prop
  | own (move : Move) (own : move.party = .abort 0) : Aborts (some move)

/-- The moves of a launch, by how the connect begins. -/
inductive Launches (failure? : Option Failure) : Option Move → Prop
  | launch : Launches failure? (some (.launch failure?))
  | write : Launches failure? (some (.write .starter))
  | tell : Launches failure? (some (.tell .starter))

/-- The moves by which a notification resolves an attempt. The pending error of its socket and the
factory decide on the end. -/
inductive Resolves (user : UserCode η ν) (index : Nat) (notification : Notification)
    (world : World η ν) : Option Move → Prop
  | check : Resolves user index notification world (some (.check .resolver))
  | read {owner : Owner η} (found : world.owner? index = some owner) :
      Resolves user index notification world
        (some (.read (World.connectFailure? notification (user.takeError owner.socket world).1)))
  | built {socket : Handle} {inside : World η ν} {handler : η}
      (answer : (user.factory index socket inside).1 = .built handler) :
      Resolves user index notification world (some (.build none))
  | lacked {socket : Handle} {inside : World η ν} {failure : Failure}
      (answer : (user.factory index socket inside).1 = .failed failure) :
      Resolves user index notification world (some (.build (some failure)))
  | unwound {socket : Handle} {inside : World η ν}
      (answer : (user.factory index socket inside).1 = .panicked) :
      Resolves user index notification world (some .unwind)
  | write : Resolves user index notification world (some (.write .resolver))
  | tell : Resolves user index notification world (some (.tell .resolver))

/-- What may go on while the loop runs: notifications resolve the attempt, and other owners come. -/
inductive Runs (user : UserCode η ν) (index : Nat) : Option Move → Prop
  | arrival : Runs user index none
  | resolves {notification : Notification} {world : World η ν} {label : Option Move}
      (resolves : Resolves user index notification world label) : Runs user index label

/-- What may be done anyway, together with what belongs to a call. -/
def Joint (allows own : Option Move → Prop) (label : Option Move) : Prop :=
  allows label ∨ own label

/-- A bout leads to a world in which nobody deals with the attempt any more. -/
def Bout.Leads (may : Option Move → Prop) (index : Nat) (bout : Bout η ν) (world : World η ν) :
    Prop :=
  ∃ contest, Bout.Reaches may index bout ⟨contest, world⟩ ∧ contest.Quiet

namespace World

open Bout

/-- A world comes from another one by what may be done, at any time that no abort is under way. -/
def Follows (may : Option Move → Prop) (index : Nat) (before after : World η ν) : Prop :=
  ∀ contest : Contest, before.attempt? index = some contest.attempt →
    (∀ number, contest.stance (.abort number) = .away) →
    ∃ next : Contest, Reaches may index ⟨contest, before⟩ ⟨next, after⟩ ∧
      next.stance = contest.stance

/-- A world comes from another one by what may be done, and nobody deals with the attempt before or
after that. -/
def Tracks (may : Option Move → Prop) (index : Nat) (before after : World η ν) : Prop :=
  ∀ contest : Contest, before.attempt? index = some contest.attempt → contest.Quiet →
    Leads may index ⟨contest, before⟩ after

variable {may wider : Option Move → Prop} {index : Nat} {before between after : World η ν}

theorem Ignores.follows (ignores : Ignores index before after) : Follows may index before after :=
  fun contest _ _ => ⟨contest, .single (.ignores ignores), rfl⟩

theorem Follows.mono (allows : may ≤ wider) (follows : Follows may index before after) :
    Follows wider index before after := by
  intro contest found idle
  obtain ⟨next, reached, same⟩ := follows contest found idle
  exact ⟨next, reached.mono allows, same⟩

theorem Follows.trans (first : Follows may index before between)
    (second : Follows may index between after) : Follows may index before after := by
  intro contest found idle
  obtain ⟨next, reached, same⟩ := first contest found idle
  obtain ⟨last, went, still⟩ := second next (reached.attempt found) (by rwa [same])
  exact ⟨last, reached.trans went, still.trans same⟩

theorem Follows.tracks (follows : Follows may index before after) :
    Tracks may index before after := by
  intro contest found quiet
  obtain ⟨next, reached, same⟩ := follows contest found fun _ => quiet _
  refine ⟨next, reached, ?_⟩
  rwa [Contest.Quiet, same]

theorem Tracks.leads {bout : Bout η ν} (tracks : Tracks may index before after)
    (found : bout.world.attempt? index = some bout.contest.attempt)
    (leads : bout.Leads may index before) : bout.Leads may index after := by
  obtain ⟨contest, reached, quiet⟩ := leads
  obtain ⟨next, went, calm⟩ := tracks contest (reached.attempt found) quiet
  exact ⟨next, reached.trans went, calm⟩

theorem follows_covers (may : Option Move → Prop) (index : Nat) :
    Covers (fun owner => owner ≠ index) (may none) (@Follows η ν may index) where
  refl world := ((ignores_covers index).refl world).follows
  trans := Follows.trans
  addHandler world socket kind observer :=
    ((ignores_covers index).addHandler world socket kind observer).follows
  removeHandler world socket kind observer :=
    ((ignores_covers index).removeHandler world socket kind observer).follows
  newObserver world maker := ((ignores_covers index).newObserver world maker).follows
  observers world owner change := ((ignores_covers index).observers world owner change).follows
  addOwner more _ owner contest _ _ := ⟨contest, .single (.arrival owner more), rfl⟩
  setHandler world owner handler := ((ignores_covers index).setHandler world owner handler).follows
  changeAcceptor world owner change :=
    ((ignores_covers index).changeAcceptor world owner change).follows
  changeAttempt world owner change apart :=
    ((ignores_covers index).changeAttempt world owner change apart).follows
  done world deed apart := ((ignores_covers index).done world deed apart).follows

end World

namespace World

open Bout

variable {may : Option Move → Prop} {index : Nat} {user : UserCode η ν}
  (minds : user.Within (Follows may index)) (world : World η ν)

include minds

theorem failAttempt_reaches (failure : Failure) (contest : Contest)
    (found : world.attempt? index = some contest.attempt) (party : Party)
    (stands : contest.stance party = .ending (some failure))
    (idle : ∀ number, .abort number ≠ party → contest.stance (.abort number) = .away)
    (writes : may (some (.write party))) (tells : may (some (.tell party))) :
    ∃ next : Contest,
      Reaches may index ⟨contest, world⟩ ⟨next, (failAttempt user index failure world).2⟩ ∧
      next.stance = Function.update contest.stance party .away := by
  let wrote := Contest.go { contest with
    attempt := contest.attempt.finish (some failure)
    history := .ended (some failure) :: contest.history } party (.telling failure)
  let told := Contest.go { wrote with
    attempt := { wrote.attempt with onFailure := false }
    told := if contest.attempt.onFailure then failure.errno? :: contest.told
      else contest.told } party .away
  have stance : told.stance = Function.update contest.stance party .away :=
    Function.update_idem ..
  have telling : wrote.stance party = .telling failure := Function.update_self ..
  have written : contest.step? (.write party) = some wrote := by
    simp only [Contest.step?, stands]
    rfl
  have heard : wrote.step? (.tell party) = some told := by
    simp only [Contest.step?, telling]
    rfl
  have ended := Reaches.move index world _ writes written (.write stands)
  simp only [failAttempt, found, Option.any_some]
  cases waits : contest.attempt.onFailure with
  | false =>
    have missed := ended.tail (.move _ tells heard (.miss telling waits))
    rw [changeAttempt_changeAttempt] at missed
    exact ⟨told, missed, stance⟩
  | true =>
    have hears := ended.tail (.move _ tells heard (.hear telling waits))
    rw [changeAttempt_changeAttempt] at hears
    -- the callback is called when all moves of the party are made, so it may abort in turn
    have calm : ∀ number, told.stance (.abort number) = .away := by
      intro number
      rw [stance]
      by_cases own : .abort number = party
      · rw [own, Function.update_self]
      · rw [Function.update_of_ne own, idle number own]
    obtain ⟨next, reached, same⟩ := minds.onFailure index failure _ told
      (Reaches.attempt hears found) calm
    exact ⟨next, hears.trans reached, same.trans stance⟩

theorem abort_follows (own : Aborts ≤ may) :
    Follows may index world (abort user index world).2 := by
  unfold abort
  split
  · refine ((ignores_covers index).withdrawAll world index).follows.trans ?_
    generalize world.withdrawAll index = world
    intro contest found idle
    simp only [found, Option.any_some, decide_eq_true_eq]
    split
    · rename_i connecting
      let checked := Contest.go { contest with aborted := true } (.abort 0) .checked
      let dropped := Contest.go { checked with
        attempt := { contest.attempt with factory := false } } (.abort 0)
          (.ending (some (.system Errno.canceled)))
      have other : (Party.abort 0 != .resolver) = true := rfl
      have check : contest.step? (.check (.abort 0)) = some checked := by
        simp [Contest.step?, idle, connecting, checked, other]
      have drop : checked.step? (.drop 0) = some dropped := by
        simp [Contest.step?, checked, dropped, Contest.go]
      have taken := (Reaches.move index world _ (own _ (.own _ rfl)) check (.check _)).tail
        (.move _ (own _ (.own _ rfl)) drop (.drop 0))
      have stance : dropped.stance = Function.update contest.stance (.abort 0)
          (.ending (some (.system Errno.canceled))) := Function.update_idem ..
      have ending : dropped.stance (.abort 0) = .ending (some (.system Errno.canceled)) := by
        rw [stance, Function.update_self]
      have others : ∀ number, .abort number ≠ Party.abort 0 →
          dropped.stance (.abort number) = .away := by
        intro number other
        rw [stance, Function.update_of_ne other, idle number]
      obtain ⟨next, reached, same⟩ := failAttempt_reaches minds _ (.system Errno.canceled) dropped
        (Reaches.attempt taken found) (.abort 0) ending others (own _ (.own _ rfl))
        (own _ (.own _ rfl))
      refine ⟨next, taken.trans reached, ?_⟩
      rw [same, stance, Function.update_idem, ← idle 0, Function.update_eq_self]
    · exact ⟨contest, .refl, rfl⟩
  · exact ((ignores_covers index).refl world).follows

omit minds in
theorem connect_reaches (contest : Contest) (alone : contest.Alone (.ending none))
    (writes : may (some (.write .resolver))) :
    ∃ next : Contest, Reaches may index ⟨contest, world⟩ ⟨next, world.changeAttempt index
      fun attempt => { attempt with state := .connected, errno := none }⟩ ∧ next.Alone .away := by
  have written : contest.step? (.write .resolver) = some (Contest.go { contest with
      attempt := contest.attempt.finish none
      history := .ended none :: contest.history } .resolver .away) := by
    simp only [Contest.step?, alone.resolver]
    rfl
  exact ⟨_, .single (.move _ writes written (.write alone.resolver)), alone.go .away⟩

section

variable {notification : Notification} {begun : World η ν}
  (own : Resolves user index notification begun ≤ may)

include own

theorem failAttempt_alone (failure : Failure) (contest : Contest)
    (found : world.attempt? index = some contest.attempt)
    (alone : contest.Alone (.ending (some failure))) :
    ∃ next : Contest,
      Reaches may index ⟨contest, world⟩ ⟨next, (failAttempt user index failure world).2⟩ ∧
      next.Alone .away := by
  obtain ⟨next, reached, same⟩ := failAttempt_reaches minds world failure contest found .resolver
    alone.resolver (fun number _ => alone.abort number) (own _ .write) (own _ .tell)
  refine ⟨next, reached, ?_⟩
  rw [Contest.Alone, same, alone, Function.update_idem]

theorem complete_reaches (socket : Handle) (home : world.home? index = some socket)
    (factory : Bool) (contest : Contest) (found : world.attempt? index = some contest.attempt)
    (alone : contest.Alone (if factory then .building else .ending none)) :
    ∃ next : Contest,
      Reaches may index ⟨contest, world⟩ ⟨next, (complete user index socket factory world).2⟩ ∧
      next.Alone .away := by
  cases factory with
  | false => exact connect_reaches world contest alone (own _ .write)
  | true =>
    have noted := (ignores_covers index).done world (.built index socket) (by simp)
    have built := noted.follows.trans (minds.factory index socket _)
    obtain ⟨next, reached, same⟩ := built contest found alone.abort
    have here := Reaches.attempt reached found
    have alone : next.Alone .building := same.trans alone
    simp only [complete, if_true]
    split <;> rename_i answer <;> rw [answer] at reached here
    · have unwinds : next.step? .unwind = some (next.go .resolver .away) := by
        simp [Contest.step?, alone.resolver]
      have allowed := own _ (.unwound (congrArg Prod.fst answer))
      exact ⟨_, reached.tail (.move _ allowed unwinds .unwind), alone.go .away⟩
    · rename_i failure after
      let failing := next.conclude (some failure)
      have lacks : next.step? (.build (some failure)) = some failing := by
        simp [Contest.step?, alone.resolver, failing]
      have lacking := reached.tail (.move _ (own _ (.lacked (congrArg Prod.fst answer))) lacks
        (.lack failure))
      obtain ⟨last, went, ended⟩ := failAttempt_alone minds after own failure failing here
        (alone.go _)
      exact ⟨last, lacking.trans went, ended⟩
    · rename_i handler after
      let served := Contest.conclude { next with attached := next.attached + 1 } none
      have serves : next.step? (.build none) = some served := by
        simp [Contest.step?, alone.resolver, served]
      have added := reached.tail (.move _ (own _ (.built (congrArg Prod.fst answer))) serves
        (.build (reached.home home) handler))
      have alone : served.Alone (.ending none) := alone.go _
      obtain ⟨last, went, still⟩ := (follows_covers may index).attach_of_added minds after socket
        handler served (Reaches.attempt added found) alone.abort
      obtain ⟨final, wrote, ended⟩ := connect_reaches (attach user socket handler after) last
        (still.trans alone) (own _ .write)
      exact ⟨final, (added.trans went).trans wrote, ended⟩

theorem refused_reaches (failure : Failure) (contest : Contest)
    (found : world.attempt? index = some contest.attempt) (alone : contest.Alone .checked)
    (read : may (some (.read (some failure)))) :
    ∃ next : Contest, Reaches may index ⟨contest, world⟩ ⟨next, (failAttempt user index failure
      (world.changeAttempt index fun attempt => { attempt with factory := false })).2⟩ ∧
        next.Alone .away := by
  let taken := Contest.conclude { contest with
    attempt := { contest.attempt with factory := false } } (some failure)
  have reads : contest.step? (.read (some failure)) = some taken := by
    simp [Contest.step?, alone.resolver, taken]
  have took := Reaches.move index world _ read reads (.read _)
  obtain ⟨last, went, ended⟩ := failAttempt_alone minds _ own failure taken
    (Reaches.attempt took found) (alone.go _)
  exact ⟨last, took.trans went, ended⟩

theorem connected_reaches (socket : Handle) (home : world.home? index = some socket)
    (contest : Contest) (found : world.attempt? index = some contest.attempt)
    (alone : contest.Alone .checked) (read : may (some (.read none))) :
    ∃ next : Contest, Reaches may index ⟨contest, world⟩ ⟨next,
      (complete user index socket contest.attempt.factory
        (world.changeAttempt index fun attempt => { attempt with factory := false })).2⟩ ∧
        next.Alone .away := by
  let taken := { contest with attempt := { contest.attempt with factory := false } }
  let ready := if contest.attempt.factory then taken.go .resolver .building
    else taken.conclude none
  have reads : contest.step? (.read none) = some ready := by
    cases factory : contest.attempt.factory <;>
      simp [Contest.step?, alone.resolver, ready, taken, factory]
  have took := Reaches.move index world _ read reads (.read _)
  have alone : ready.Alone (if contest.attempt.factory then .building else .ending none) := by
    cases factory : contest.attempt.factory <;> simp only [ready, factory] <;> exact alone.go _
  obtain ⟨last, went, ended⟩ := complete_reaches minds _ own socket (Reaches.home took home)
    contest.attempt.factory ready (Reaches.attempt took found) alone
  exact ⟨last, took.trans went, ended⟩

end

theorem resolve_tracks (notification : Notification)
    (own : Resolves user index notification world ≤ may) :
    Tracks may index world (resolve user index notification world).2 := by
  intro contest found quiet
  obtain ⟨owner, there, role⟩ := Option.bind_eq_some_iff.mp found
  simp only [resolve, there, found]
  split
  · rename_i connecting
    have alone := ((contest.alone_away_iff).mpr quiet).go .checked
    have checked : contest.step? (.check .resolver) = some (contest.go .resolver .checked) := by
      simp [Contest.step?, quiet .resolver, connecting, Contest.go]
    have withdrawn := (minds.takeError owner.socket world).trans
      ((ignores_covers index).withdrawAll _ index).follows
    obtain ⟨next, reached, same⟩ := withdrawn (contest.go .resolver .checked) found alone.abort
    have here := Reaches.attempt reached found
    have begun := (Reaches.move index world _ (own _ .check) checked (.check _)).trans reached
    have read := own _ (.read there)
    simp only [← Contest.alone_away_iff, Leads, here, Option.any_some]
    cases result : connectFailure? notification (user.takeError owner.socket world).1 with
    | some failure =>
      obtain ⟨last, went, ended⟩ := refused_reaches minds _ own failure next here (same.trans alone)
        (result ▸ read)
      exact ⟨last, begun.trans went, ended⟩
    | none =>
      have home : world.home? index = some owner.socket := by rw [home?, there, Option.map_some]
      obtain ⟨last, went, ended⟩ := connected_reaches minds _ own owner.socket
        (Reaches.home reached home) next here (same.trans alone) (result ▸ read)
      exact ⟨last, begun.trans went, ended⟩
  · exact ⟨contest, .refl, quiet⟩

theorem dropReactor_follows : Follows may index world (dropReactor user world) := by
  have dropped := fun world owners => (follows_covers may index).foldl world (dropHandler user)
    (fun world owner => (follows_covers may index).dropHandler minds world owner) owners
  have gone : ∀ change, Ignores index world (world.onReactor change) :=
    fun _ => ⟨spares_of_outside index rfl, rfl, rfl⟩
  exact (gone _).follows.trans (dropped _ _)

section

variable (own : Runs user index ≤ may)

include own

theorem notify_tracks (observer : Nat) (notification : Notification) :
    Tracks may index world (notify user observer notification world).2 := by
  have covers : Covers (fun owner => owner ≠ index) (may none) (@Follows η ν may index) :=
    follows_covers may index
  by_cases mine : world.maker? observer = some index
  · simp only [notify, mine, notifyOwner]
    split
    · exact (covers.refl world).tracks
    · exact (covers.serve minds world index notification).tracks
    · exact resolve_tracks minds world notification fun label resolves =>
        own label (.resolves resolves)
    · exact (covers.takeConnection minds world index (own _ .arrival)).tracks
  · refine (covers.notify minds world (own _ .arrival) observer notification ?_).tracks
    rintro owner made - rfl
    exact mine made

theorem run_leads (fuel : Nat) (bout : Bout η ν)
    (found : bout.world.attempt? index = some bout.contest.attempt)
    (quiet : bout.contest.Quiet) : bout.Leads may index (run user fuel bout.world).2 := by
  have still : ∀ before after : World η ν, after.outside = before.outside →
      bout.Leads may index before → bout.Leads may index after := by
    intro before after same
    have ignores : Ignores index before after :=
      ⟨spares_of_outside index same, by simp only [home?, owner?, same], by rw [same]⟩
    exact ignores.follows.tracks.leads found
  have keeps : (host user).Preserves fun world => bout.Leads may index world := {
    call := fun armed notification world =>
      (notify_tracks minds world own armed.observer notification).leads found
    poll := fun asked world => (minds.poll asked world).tracks.leads found
    rest := fun world => (minds.rest world).tracks.leads found
    note := fun _ _ => still _ _ rfl
    begins := fun _ _ _ world leads _ => still world _ rfl leads
    finish := fun _ => still _ _ rfl
    arm := fun _ _ => still _ _ rfl
    hold := fun _ _ => still _ _ rfl
    mute := fun _ _ _ => still _ _ rfl
    enter := fun _ world leads _ => still world _ rfl leads
    clearStop := fun _ => still _ _ rfl
    leave := fun _ => still _ _ rfl }
  exact Loop.run_preserves keeps fuel bout.world ⟨bout.contest, .refl, quiet⟩

end

omit minds

theorem launch_leads (socket : Handle) (given : Bool) :
    (opening given socket world).Leads (Launches none) world.outside.owners.length
      (launch socket given world).2 := by
  have launched : (Contest.start given).step? (.launch none) = some (Contest.go {
      Contest.start given with
      attempt := { (Contest.start given).attempt with state := .connecting }
      history := [(.connecting, none), (.idle, none)] } .starter .away) := by
    simp [Contest.step?, Contest.start]
  have enlisted := fun (world : World η ν) index =>
    (ignores_covers index).trans ((ignores_covers index).enlist world index .writable)
      ((ignores_covers index).enlist _ index .error)
  refine ⟨_, (Relation.ReflTransGen.single (.move _ .launch launched .launch)).tail
    (.ignores (enlisted _ _)), ?_⟩
  intro party
  by_cases starter : party = .starter <;> simp [Contest.stance_go, Contest.start, starter]

theorem launchFailed_leads (socket : Handle) (given : Bool) (failure : Failure)
    (minds : user.Within (Follows may world.outside.owners.length))
    (own : Launches (some failure) ≤ may) :
    (opening given socket world).Leads may world.outside.owners.length
      (launchFailed user socket given failure world).2.2 := by
  let refused := Contest.go { Contest.start given with
    verdict := some (.ended (some failure)) } .starter (.ending (some failure))
  have refuses : (Contest.start given).step? (.launch (some failure)) = some refused := by
    simp [Contest.step?, Contest.start, refused]
  have begun := Reaches.move world.outside.owners.length (opening given socket world).world _
    (own _ .launch) refuses (.refuse failure)
  obtain ⟨next, reached, same⟩ := failAttempt_reaches minds (opening given socket world).world
    failure refused (world.attempt?_addOwner _) .starter (by simp [refused, Contest.stance_go])
    (fun number _ => by simp [refused, Contest.stance_go, Contest.start])
    (own _ .write) (own _ .tell)
  refine ⟨next, begun.trans reached, ?_⟩
  intro party
  by_cases starter : party = .starter <;>
    simp [same, refused, Contest.go, Contest.start, starter]

end World

namespace Bout

/-- All that owners do leads a bout on, by what user code may do and by moves of their own. -/
structure Carries (allows : Option Move → Prop) (user : UserCode η ν) (index : Nat)
    (bout : Bout η ν) : Prop where
  abort : bout.Leads (Joint allows Aborts) index (bout.world.abort user index).2
  resolve : ∀ notification,
    bout.Leads (Joint allows (Resolves user index notification bout.world)) index
      (bout.world.resolve user index notification).2
  run : ∀ fuel, bout.Leads (Joint allows (Runs user index)) index (bout.world.run user fuel).2
  dropReactor : bout.Leads allows index (bout.world.dropReactor user)

theorem carries {allows : Option Move → Prop} {user : UserCode η ν} {index : Nat}
    (minds : user.Within (World.Follows allows index)) (bout : Bout η ν)
    (found : bout.world.attempt? index = some bout.contest.attempt)
    (quiet : bout.contest.Quiet) : bout.Carries allows user index := by
  have wide : ∀ own, user.Within (World.Follows (Joint allows own) index) :=
    fun own => minds.imp fun _ _ => World.Follows.mono fun _ => .inl
  refine ⟨?_, ?_, ?_, (World.dropReactor_follows minds bout.world).tracks _ found quiet⟩
  · exact (World.abort_follows (wide _) bout.world fun _ => .inr).tracks _ found quiet
  · intro notification
    exact World.resolve_tracks (wide _) bout.world notification (fun _ => .inr) _ found quiet
  · intro fuel
    exact World.run_leads (wide _) (fun _ => .inr) fuel bout found quiet

/-- A contest tells how the attempt on a socket stands in its world and what was told of it. Where
no other owner comes, it tells how many services were attached. -/
structure Mirrors (may : Option Move → Prop) (socket : Handle) (before : World η ν)
    (bout : Bout η ν) : Prop where
  home : bout.world.home? before.outside.owners.length = some socket
  attempt : bout.world.attempt? before.outside.owners.length = some bout.contest.attempt
  told : bout.world.toldOf before.outside.owners.length =
    bout.contest.told ++ before.toldOf before.outside.owners.length
  attached : ¬may none → bout.world.outside.owners.length =
    before.outside.owners.length + 1 + bout.contest.attached

/-- The contest over a new attempt tells what becomes of it, wherever it has led in its world. A
failure is told once at most and a service is attached once at most. The end is final and excludes
the other one unless there is a clash, and it does not once a clash is over. There is no clash
without an abort that found the attempt connecting. What a loop with owners does, from the launch
of the attempt on, is made of the moves of such a contest and of what user code does. -/
theorem exclusive_iff_no_clash (given : Bool) (socket : Handle) (before : World η ν)
    (may : Option Move → Prop) (bout : Bout η ν)
    (reached : Reaches may before.outside.owners.length (opening given socket before) bout) :
    bout.Mirrors may socket before ∧
    (bout.contest.told.length ≤ 1 ∧ bout.contest.attached ≤ 1) ∧
    (¬bout.contest.Clash → bout.contest.Exclusive given) ∧
    (bout.contest.Quiet → (bout.contest.Exclusive given ↔ ¬bout.contest.Clash)) ∧
    ((∀ number, ¬may (some (.check (.abort number)))) → ¬bout.contest.Clash) ∧
    (∀ later, Reaches may before.outside.owners.length bout later → ¬later.contest.Clash →
      bout.contest.attempt.state = .connected ∨ bout.contest.attempt.state = .failed →
      later.contest.attempt.state = bout.contest.attempt.state ∧
        later.contest.attempt.errno = bout.contest.attempt.errno) ∧
    (opening given socket before).Leads (Launches none) before.outside.owners.length
      (before.launch socket given).2 ∧
    ∀ (allows : Option Move → Prop) (user : UserCode η ν),
      user.Within (World.Follows allows before.outside.owners.length) →
      (∀ failure, (opening given socket before).Leads (Joint allows (Launches (some failure)))
        before.outside.owners.length (World.launchFailed user socket given failure before).2.2) ∧
      (bout.contest.Quiet → bout.Carries allows user before.outside.owners.length) := by
  have opens := before.attempt?_addOwner { socket, role := .attempt { onFailure := given } }
  have begins : ∃ begun ends, (opening given socket before).contest.Sound given begun ends :=
    ⟨false, [], Contest.start_sound given⟩
  have found := reached.attempt opens
  obtain ⟨begun, ends, sound⟩ := reached.sound begins
  have stays : (opening given socket before).world.home? before.outside.owners.length =
      some socket := by simp [opening, World.home?, World.owner?, World.addOwner]
  refine ⟨⟨reached.home stays, found, reached.told rfl, ?_⟩, ⟨sound.once, sound.attached⟩,
    sound.exclusive, ?_, ?_, ?_, before.launch_leads socket given, ?_⟩
  · intro closed
    exact reached.owners closed _ (by simp [opening, World.addOwner, Contest.start])
  · intro quiet
    refine ⟨?_, sound.exclusive⟩
    intro exclusive clash
    exact sound.torn quiet clash exclusive.course
  · intro never clash
    have unaborted := reached.unaborted never rfl
    rw [clash.1] at unaborted
    cases unaborted
  · intro later went peace ended
    obtain ⟨begun', ends', sound'⟩ := went.sound ⟨begun, ends, sound⟩
    have written := went.history.subset (List.mem_of_mem_head? sound.current)
    exact Prod.mk.inj (sound'.ended_stays peace _ written ended)
  · intro allows user minds
    refine ⟨?_, fun quiet => carries minds bout found quiet⟩
    intro failure
    exact before.launchFailed_leads socket given failure
      (minds.imp fun _ _ => World.Follows.mono fun _ => .inl) fun _ => .inr

end Bout

/-- A factory that aborts the attempt it is called for, and looks at it then. -/
def UserCode.aborting : UserCode Unit (List (Option Attempt)) :=
  { UserCode.idle with
    factory := fun index _ world =>
      let (_, world) := world.abort UserCode.idle index
      (.built (), world.onBeyond fun seen => world.attempt? index :: seen) }

theorem UserCode.aborting_minds (index : Nat) :
    UserCode.aborting.Within (World.Follows Aborts index) := by
  have idle : UserCode.idle.Within
      (@World.Follows Unit (List (Option Attempt)) Aborts index) :=
    UserCode.idle_within (World.follows_covers Aborts index).refl
  refine { idle with factory := ?_ }
  intro owner socket world
  have looked : ∀ world : World Unit (List (Option Attempt)), World.Ignores index world
      (world.onBeyond fun seen => world.attempt? owner :: seen) :=
    fun world => ⟨⟨fun _ => id, rfl⟩, rfl, rfl⟩
  have aborted : World.Follows Aborts index world (world.abort UserCode.idle owner).2 := by
    by_cases same : owner = index
    · subst same
      exact World.abort_follows idle world le_rfl
    · exact (World.follows_covers Aborts index).abort idle world owner same
  exact aborted.trans (looked _).follows

/-- The factory of an attempt aborts it, while the snapshot with its observer is dispatched. The bout
ends in a clash, as the world shows: a failure was told, and the attempt is connected. -/
theorem Bout.exclusive_iff_no_clash_aborting :
    let unused : World Unit (List (Option Attempt)) := { outside := { beyond := [] } }
    let launched := (unused.launch ⟨3, 0⟩ true).2
    let armed : World Unit (List (Option Attempt)) := launched.onReactor fun reactor =>
      { reactor with armed := reactor.registry.snapshot 3 .writable }
    let notification : Notification := .ofSocket .writable ⟨3, 0⟩
    let ended := (armed.resolve UserCode.aborting 0 notification).2
    UserCode.aborting.Within (World.Follows Aborts 0) ∧
      ∃ contest, Bout.Reaches
        (Joint (Launches none) (Joint Aborts (Resolves UserCode.aborting 0 notification armed))) 0
          (Bout.opening true ⟨3, 0⟩ unused) ⟨contest, ended⟩ ∧
        contest.Quiet ∧ contest.told = [some Errno.canceled] ∧ contest.attached = 1 ∧
        contest.attempt.state = .connected ∧ contest.Clash ∧ ¬contest.Exclusive true := by
  intro unused launched armed notification ended
  have minds := UserCode.aborting_minds 0
  have connected : ended.attempt? 0 = some ⟨.connected, none, false, false⟩ := by decide
  have canceled : ended.toldOf 0 = [some Errno.canceled] := by decide
  have served : ended.outside.owners.length = 2 := by decide
  obtain ⟨-, -, -, -, -, -, ⟨first, reached, quiet⟩, -⟩ := exclusive_iff_no_clash true ⟨3, 0⟩ unused
    (fun _ => False) _ .refl
  have ignores : World.Ignores 0 launched armed := ⟨World.spares_of_outside 0 rfl, rfl, rfl⟩
  have reached : Reaches (Launches none) 0 (opening true ⟨3, 0⟩ unused) ⟨first, armed⟩ :=
    reached.tail (.ignores ignores)
  obtain ⟨-, -, -, -, -, -, -, carries⟩ := exclusive_iff_no_clash true ⟨3, 0⟩ unused
    (Launches none) _ reached
  obtain ⟨last, went, calm⟩ := ((carries Aborts _ minds).2 quiet).resolve notification
  have both : Reaches
      (Joint (Launches none) (Joint Aborts (Resolves UserCode.aborting 0 notification armed))) 0
        (opening true ⟨3, 0⟩ unused) ⟨last, ended⟩ :=
    (Reaches.mono (fun _ => .inl) reached).trans (went.mono fun _ => .inr)
  -- from here on only what the world shows counts
  clear_value ended
  obtain ⟨⟨-, shown, heard, attached⟩, -, -, torn, -⟩ :=
    exclusive_iff_no_clash true ⟨3, 0⟩ unused _ _ both
  have state : last.attempt.state = .connected :=
    congrArg Attempt.state (Option.some.inj (shown.symm.trans connected))
  have told : last.told = [some Errno.canceled] :=
    (List.append_nil last.told).symm.trans (heard.symm.trans canceled)
  have count : last.attached = 1 := by
    have owners : 2 = 1 + last.attached :=
      served.symm.trans (attached (by rintro (own | own | own) <;> cases own))
    omega
  have split : ¬last.Exclusive true := by
    intro exclusive
    have failed := (exclusive.told (by simp [told])).2
    simp [state] at failed
  refine ⟨minds, last, both, calm, told, count, state, ?_, split⟩
  by_contra peace
  exact split ((torn calm).mpr peace)

/-- The attempt has failed and its failure is told, and then it is connected and a service is
attached for it. -/
theorem World.aborted_in_factory :
    let unused : World Unit (List (Option Attempt)) := { outside := { beyond := [] } }
    let launched := (unused.launch ⟨3, 0⟩ true).2
    let ended : World Unit (List (Option Attempt)) :=
      (Loop.dispatch (World.host UserCode.aborting) ⟨3, 0⟩ (.ofSocket .writable ⟨3, 0⟩) launched).2
    UserCode.aborting.Within (World.Follows Aborts 0) ∧
      ended.outside.beyond = [some ⟨.failed, some Errno.canceled, false, false⟩] ∧
      ended.toldOf 0 = [some Errno.canceled] ∧
      ended.attempt? 0 = some ⟨.connected, none, false, false⟩ ∧
      (ended.owner? 1).bind Owner.handler? = some () ∧
      ended.reactor.registry.observes 3 .readable = true := by
  exact ⟨UserCode.aborting_minds 0, by decide⟩

end SocketLoop
