import SocketLoop.Proofs.Owner.Frame
import SocketLoop.Proofs.Reactor.Turns

/-! Registrations made during a pass. Each turn takes a snapshot of its own, so what is registered
in one turn is called in the same pass where a later turn is for its socket and its kind. -/
namespace SocketLoop

namespace World

variable {η ν : Type}

theorem reaches_covers : Covers (fun _ => True) True (@Site.Reaches (Owners η ν)) where
  refl := Site.Reaches.refl
  trans := Site.Reaches.trans
  addHandler _ socket kind observer := ⟨rfl, [.add socket kind observer], rfl⟩
  removeHandler _ socket kind observer := ⟨rfl, [.remove socket kind observer], rfl⟩
  newObserver world _ := .refl world
  observers world _ _ := .refl world
  addOwner _ world _ := .refl world
  setHandler world _ _ := .refl world
  changeAcceptor world _ _ := .refl world
  changeAttempt world _ _ _ := .refl world
  done world _ _ := .refl world

/-- Owners keep a host tame: attaching, enabling, connecting and accepting register and remove
observers only. -/
theorem host_tame (user : UserCode η ν) (stays : user.Within Site.Reaches) : (host user).Tame where
  keeps armed notification world := reaches_covers.notify stays world trivial armed.observer
    notification fun _ _ _ => trivial
  poll := stays.poll
  rest := stays.rest

end World

variable {ω : Type}

/-- A turn calls nothing that was registered after it began, nor do the turns before it. -/
theorem Turning.called_later {host : Host ω} {site : Site ω} {before after : List (Turn ω)}
    {turn : Turn ω} {result : Ending × Site ω} (keeps : host.Keeps)
    (turning : Turning host site (before ++ turn :: after) result)
    (sound : site.reactor.registry.Sound) (registration : Registration)
    (made : turn.start.reactor.registry.next ≤ registration.number) :
    (∃ other ∈ before ++ turn :: after, registration ∈ other.called host) ↔
      ∃ later ∈ after, registration ∈ later.called host := by
  obtain ⟨-, inside, ordered⟩ := turning.later keeps sound
  have early : ∀ other : Turn ω, site.reactor.registry.Later other.start.reactor.registry →
      other.start.reactor.registry.next ≤ turn.start.reactor.registry.next →
      registration ∉ other.called host := by
    intro other reached least called
    have old := other.called_before (reached.sound sound) registration called
    exact absurd (Nat.le_trans least made) (Nat.not_le.mpr old)
  constructor
  · rintro ⟨other, member, called⟩
    have reached := (inside other member).1
    rcases List.mem_append.mp member with first | rest
    · have passed := (List.pairwise_append.mp ordered).2.2 other first turn List.mem_cons_self
      have went := other.result_later keeps (reached.sound sound)
      exact absurd called (early other reached (Nat.le_trans went.next passed.next))
    · rcases List.mem_cons.mp rest with rfl | last
      · exact absurd called (early other reached (Nat.le_refl _))
      · exact ⟨other, last, called⟩
  · rintro ⟨later, member, called⟩
    exact ⟨later, by simp [member], called⟩

/-- What is registered in a turn and is there in the end is called by the later turns for its
socket and its kind. -/
theorem Turning.called_iff {host : Host ω} {site : Site ω} {before after : List (Turn ω)}
    {turn : Turn ω} {result : Ending × Site ω} (keeps : host.Keeps)
    (turning : Turning host site (before ++ turn :: after) result)
    (sound : site.reactor.registry.Sound) (fine : result.1 = .returned) (descriptor : Int)
    (registration : Registration)
    (made : registration.number < (turn.result host).2.reactor.registry.next)
    (there : (descriptor, registration) ∈ result.2.reactor.registry.rows) (later : Turn ω)
    (member : later ∈ after) :
    registration ∈ later.called host ↔
      later.socket.descriptor = descriptor ∧ later.notification.kind = registration.kind := by
  have inTurns : later ∈ before ++ turn :: after := by simp [member]
  obtain ⟨whole, inside, ordered⟩ := turning.later keeps sound
  obtain ⟨reached, rest⟩ := inside later inTurns
  have last := whole.sound sound
  have start := reached.sound sound
  have went := later.result_later keeps start
  have live := last.live _ there
  constructor
  · intro called
    obtain ⟨old, kind⟩ := (Registry.mem_snapshot _ start _ _ _).mp
      (later.called_sublist.subset called)
    refine ⟨?_, kind.symm⟩
    rcases (went.trans rest).stays _ old with kept | gone
    · exact congrArg Prod.fst (List.inj_on_of_nodup_map last.numbers kept there rfl)
    · exact absurd gone live
  · rintro ⟨rfl, kind⟩
    have passed : (turn.result host).2.reactor.registry.Later later.start.reactor.registry :=
      (List.pairwise_cons.mp (List.pairwise_append.mp ordered).2.1).1 later member
    have old : (later.socket.descriptor, registration) ∈ later.start.reactor.registry.rows := by
      rcases (went.trans rest).fresh _ there with old | new
      · exact old
      · exact absurd (Nat.le_trans passed.next new) (Nat.not_le.mpr made)
    refine later.called_of_live keeps start (turning.returned fine later inTurns) registration ?_ ?_
    · exact (Registry.mem_snapshot _ start _ _ _).mpr ⟨old, kind.symm⟩
    · exact fun gone => live (rest.cleared gone)

/-- A pass makes the calls of its turns. What is registered in a turn or later is called in the
same pass by later turns only; what is still there in the end is called just where a later turn is
for its socket and its kind. -/
theorem called_in_pass_iff (host : Host ω) (tame : host.Tame) (site : Site ω)
    (sound : site.reactor.registry.Sound) :
    (Loop.pass host site).2.calls =
      site.calls ++ (Loop.passTurns host site).flatMap (fun turn => turn.calls host) ∧
    (Loop.pass host site).2.reactor.registry.Sound ∧
    ∀ before turn after, Loop.passTurns host site = before ++ turn :: after →
      ∀ registration, turn.start.reactor.registry.next ≤ registration.number →
      ((∃ other ∈ Loop.passTurns host site, registration ∈ other.called host) ↔
        ∃ later ∈ after, registration ∈ later.called host) ∧
      ∀ descriptor, registration.number < (turn.result host).2.reactor.registry.next →
        (descriptor, registration) ∈ (Loop.pass host site).2.reactor.registry.rows →
        (Loop.pass host site).1 ≠ .panicked →
        ((∃ other ∈ Loop.passTurns host site, registration ∈ other.called host) ↔
          ∃ later ∈ after, later.socket.descriptor = descriptor ∧
            later.notification.kind = registration.kind) := by
  obtain ⟨start, ending, silent, turning, fine⟩ := (Loop.pass_turning tame site sound).turning
  have begun := silent.later.sound sound
  refine ⟨?_, (turning.later tame.keeps begun).1.sound begun, ?_⟩
  · rw [turning.calls tame.keeps, silent.calls]
  · intro before turn after split registration made
    rw [split] at turning ⊢
    have later := turning.called_later tame.keeps begun registration made
    refine ⟨later, ?_⟩
    intro descriptor within there calm
    rw [later]
    constructor
    · rintro ⟨other, member, called⟩
      exact ⟨other, member, (turning.called_iff tame.keeps begun (fine calm) descriptor registration
        within there other member).mp called⟩
    · rintro ⟨other, member, for_it⟩
      exact ⟨other, member, (turning.called_iff tame.keeps begun (fine calm) descriptor registration
        within there other member).mpr for_it⟩

/-- A readable observer that registers another writable observer for its socket, which can be read
and written. -/
def UserCode.widening : UserCode Unit Unit :=
  { UserCode.idle with
    observer := fun observer _ world =>
      if observer = 0 then
        (.returned, world.onReactor fun reactor => reactor.addHandler ⟨3, 0⟩ .writable 2)
      else (.returned, world)
    poll := fun _ world => (.ready [(⟨3, 0⟩, { input := true, output := true })], world) }

theorem UserCode.widening_within : UserCode.widening.Within Site.Reaches := by
  refine { UserCode.idle_within Site.Reaches.refl with observer := ?_, poll := ?_ }
  · intro observer notification world
    simp only [UserCode.widening]
    split
    · exact World.reaches_covers.addHandler world ⟨3, 0⟩ .writable 2
    · exact .refl world
  · exact fun _ world => .refl world

/-- Two observers wait on a socket before the pass, one to read and one to write. -/
def World.watched : World Unit Unit where
  reactor := (({} : Reactor).addHandler ⟨3, 0⟩ .readable 0).addHandler ⟨3, 0⟩ .writable 1
  outside := { beyond := () }

theorem World.watched_sound : World.watched.reactor.registry.Sound :=
  Registry.add_sound _ (Registry.add_sound _ Registry.sound_empty ⟨3, 0⟩ .readable 0) ⟨3, 0⟩
    .writable 1

/-- The new observer is called in the pass in which it was registered. -/
theorem World.called_in_the_same_pass :
    World.watched.reactor.registry.contains 3 .writable 2 = false ∧
      (Loop.pass (World.host UserCode.widening) World.watched).2.calls =
        [.called ⟨3, 0⟩ ⟨0, .readable, 0⟩ (.ofSocket .readable ⟨3, 0⟩),
          .called ⟨3, 0⟩ ⟨1, .writable, 1⟩ (.ofSocket .writable ⟨3, 0⟩),
          .called ⟨3, 0⟩ ⟨2, .writable, 2⟩ (.ofSocket .writable ⟨3, 0⟩)] := by
  decide

theorem called_in_pass_iff_widening :
    ∃ turn after, Loop.passTurns (World.host UserCode.widening) World.watched = turn :: after ∧
      turn.start.reactor.registry.next = 2 ∧
      ∃ other ∈ turn :: after, ⟨2, .writable, 2⟩ ∈ other.called (World.host UserCode.widening) := by
  refine ⟨_, _, rfl, rfl, ?_⟩
  exact (((called_in_pass_iff _ (World.host_tame _ UserCode.widening_within) World.watched
    World.watched_sound).2.2 [] _ _ rfl ⟨2, .writable, 2⟩ (by decide)).2 3 (by decide) (by decide)
      (by decide)).mpr ⟨_, List.mem_cons_self, rfl, rfl⟩

end SocketLoop
