import SocketLoop.Proofs.Reactor.Groups
import SocketLoop.Proofs.Registry.Twins

/-! Hosts whose calls keep to one socket. An observer at home on a socket goes by the registrations
there and by what the observers at home there remember, and changes nothing else but the request to
stop. So the dispatches of a socket do the same wherever it looks the same, and leave all other sockets
as they were. -/
namespace SocketLoop

variable {ω μ : Type}

namespace Reactor

/-- A use for one socket, which registers nobody there who is at home elsewhere. -/
def Use.KeepsTo (home : Nat → Int) (descriptor : Int) : Use → Prop
  | .add socket _ observer => socket.descriptor = descriptor ∧ home observer = descriptor
  | .remove socket _ _ => socket.descriptor = descriptor
  | .stop => True

theorem useAll_stop (reactor : Reactor) (uses : List Use) :
    (reactor.useAll uses).stopRequested = (reactor.stopRequested || decide (.stop ∈ uses)) := by
  induction uses generalizing reactor with
  | nil => simp
  | cons first rest ih =>
    rw [useAll_cons, ih]
    cases first <;> simp [use, addHandler, removeHandler, stop]

end Reactor

/-- Nobody is registered on a socket who is at home elsewhere. -/
def Registry.Homed (home : Nat → Int) (registry : Registry) : Prop :=
  ∀ row ∈ registry.rows, home row.2.observer = row.1

/-- Everybody has a home if no observer is registered on two sockets. -/
theorem Registry.homed_iff (registry : Registry) : (∃ home, registry.Homed home) ↔
    ∀ row ∈ registry.rows, ∀ other ∈ registry.rows, row.2.observer = other.2.observer →
      row.1 = other.1 := by
  constructor
  · intro someone row there other found same
    obtain ⟨home, homed⟩ := someone
    rw [← homed row there, ← homed other found, same]
  · intro single
    classical
    refine ⟨fun observer => if known : ∃ row ∈ registry.rows, row.2.observer = observer
      then known.choose.1 else 0, ?_⟩
    intro row there
    have known : ∃ other ∈ registry.rows, other.2.observer = row.2.observer := ⟨row, there, rfl⟩
    refine (dif_pos known).trans ?_
    exact single _ known.choose_spec.1 row there known.choose_spec.2

namespace Reactor

section

variable {home : Nat → Int} {descriptor : Int} {reactor : Reactor}
  (sound : reactor.registry.Sound)

include sound

theorem use_elsewhere (use : Use) (keeps : use.KeepsTo home descriptor) (other : Int)
    (apart : other ≠ descriptor) :
    Registry.entry? (reactor.use use).registry other = reactor.registry.entry? other := by
  cases use with
  | add socket kind observer =>
    cases there : reactor.registry.contains socket.descriptor kind observer with
    | true =>
      have same := Registry.add_of_contains reactor.registry socket kind observer there
      exact congrArg (fun added => Registry.entry? added.2 other) same
    | false =>
      have added := reactor.registry.entry?_add socket kind observer there other
      exact added.trans (if_neg fun own => apart (own.symm.trans keeps.1))
  | remove socket kind observer =>
    have removed := reactor.registry.entry?_remove sound socket kind observer other
    exact removed.trans (if_neg fun own => apart (own.symm.trans keeps))
  | stop => rfl

theorem use_homed (use : Use) (keeps : use.KeepsTo home descriptor)
    (homed : reactor.registry.Homed home) : (reactor.use use).registry.Homed home := by
  cases use with
  | add socket kind observer =>
    intro row there
    obtain old | ⟨-, rfl⟩ :=
      (Registry.mem_add_rows reactor.registry sound socket kind observer row).mp there
    · exact homed row old
    · exact keeps.2.trans keeps.1.symm
  | remove socket kind observer =>
    intro row there
    exact homed row
      ((Registry.mem_remove_rows reactor.registry sound socket kind observer row).mp there).1
  | stop => exact homed

theorem useAll_keeps (uses : List Use) (keeps : ∀ use ∈ uses, use.KeepsTo home descriptor)
    (homed : reactor.registry.Homed home) :
    (reactor.useAll uses).registry.Homed home ∧ ∀ other, other ≠ descriptor →
      Registry.entry? (reactor.useAll uses).registry other = reactor.registry.entry? other := by
  induction uses generalizing reactor with
  | nil => exact ⟨homed, fun _ _ => rfl⟩
  | cons use rest ih =>
    rw [List.forall_mem_cons] at keeps
    obtain ⟨homed, others⟩ := ih ((reactor.use_later sound use).sound sound) keeps.2
      (use_homed sound use keeps.1 homed)
    refine ⟨homed, ?_⟩
    intro other apart
    exact (others other apart).trans (use_elsewhere sound use keeps.1 other apart)

end

/-- What is done in the same way to two registries with twins on the socket leaves twins. -/
theorem useAll_evenly {home : Nat → Int} {descriptor : Int} {one other : Reactor}
    (sound : one.registry.Sound) (sound' : other.registry.Sound) {entry : Option TwinEntry}
    (twinned : Registry.Twinned descriptor entry one.registry other.registry) (uses : List Use)
    (keeps : ∀ use ∈ uses, use.KeepsTo home descriptor) :
    Registry.Evenly descriptor entry one.registry other.registry (one.useAll uses).registry
      (other.useAll uses).registry := by
  induction uses generalizing one other entry with
  | nil => exact ⟨entry, twinned, fun _ => id⟩
  | cons use rest ih =>
    rw [List.forall_mem_cons] at keeps
    have step : Registry.Evenly descriptor entry one.registry other.registry
        (one.use use).registry (other.use use).registry := by
      cases use with
      | add socket kind observer =>
        exact Registry.evenly_add twinned socket keeps.1.1 kind observer
      | remove socket kind observer =>
        exact Registry.evenly_remove twinned sound sound' socket keeps.1 kind observer
      | stop => exact ⟨entry, twinned, fun _ => id⟩
    obtain ⟨between, twinned, even⟩ := step
    obtain ⟨after, twinned, even'⟩ := ih ((one.use_later sound use).sound sound)
      ((other.use_later sound' use).sound sound') twinned keeps.2
    exact ⟨after, twinned, fun twin before => even' twin (even twin before)⟩

end Reactor

namespace Site

def callOn? (descriptor : Int) : Event → Option (Handle × Kind × Nat × Notification)
  | .called socket armed notification =>
    if socket.descriptor = descriptor then
      some (socket, armed.kind, armed.observer, notification)
    else none
  | _ => none

/-- The calls for a socket, oldest first, with the kind and the observer of each. -/
def callsOn (site : Site ω) (descriptor : Int) : List (Handle × Kind × Nat × Notification) :=
  site.journal.reverse.filterMap (callOn? descriptor)

/-- The loop takes an own step: it changes neither the registry nor the request to stop. -/
structure Still (before after : Site ω) : Prop where
  registry : after.reactor.registry = before.reactor.registry
  stop : after.reactor.stopRequested = before.reactor.stopRequested
  journal : after.journal = before.journal
  outside : after.outside = before.outside

structure Settled (home : Nat → Int) (site : Site ω) : Prop where
  sound : site.reactor.registry.Sound
  homed : site.reactor.registry.Homed home

variable (home : Nat → Int) (memory : ω → Nat → μ)

/-- Two sites look the same from a socket: from its registrations, and from what the observers at
home there remember. -/
structure Alike (descriptor : Int) (one other : Site ω) : Prop where
  view : one.reactor.registry.view descriptor = other.reactor.registry.view descriptor
  memory : ∀ observer, home observer = descriptor →
    memory one.outside observer = memory other.outside observer

/-- A socket, its observers and the calls for it are left as they are. -/
structure Spared (descriptor : Int) (before after : Site ω) : Prop where
  entry : after.reactor.registry.entry? descriptor = before.reactor.registry.entry? descriptor
  memory : ∀ observer, home observer = descriptor →
    memory after.outside observer = memory before.outside observer
  calls : after.callsOn descriptor = before.callsOn descriptor

/-- What is done for a socket leaves all others as they are. -/
structure Confined (descriptor : Int) (before after : Site ω) : Prop where
  settled : after.Settled home
  others : ∀ other, other ≠ descriptor → Spared home memory other before after

/-- The same is done for a socket at two sites that look the same from there. -/
structure Joined (descriptor : Int) (one other first second : Site ω) : Prop where
  alike : Alike home memory descriptor first second
  calls : ∃ calls, first.callsOn descriptor = one.callsOn descriptor ++ calls ∧
    second.callsOn descriptor = other.callsOn descriptor ++ calls
  stop : ∃ asked, first.reactor.stopRequested = (one.reactor.stopRequested || asked) ∧
    second.reactor.stopRequested = (other.reactor.stopRequested || asked)

variable {home} {memory} {descriptor : Int}

namespace Spared

theorem refl (descriptor : Int) (site : Site ω) : Spared home memory descriptor site site :=
  ⟨rfl, fun _ _ => rfl, rfl⟩

theorem trans {before between after : Site ω} (first : Spared home memory descriptor before between)
    (second : Spared home memory descriptor between after) :
    Spared home memory descriptor before after where
  entry := second.entry.trans first.entry
  memory observer own := (second.memory observer own).trans (first.memory observer own)
  calls := second.calls.trans first.calls

theorem alike {before after : Site ω} (spared : Spared home memory descriptor before after) :
    Alike home memory descriptor after before where
  view := by rw [Registry.view, Registry.view, spared.entry]
  memory := spared.memory

end Spared

namespace Alike

theorem refl (descriptor : Int) (site : Site ω) : Alike home memory descriptor site site :=
  ⟨rfl, fun _ _ => rfl⟩

theorem symm {one other : Site ω} (alike : Alike home memory descriptor one other) :
    Alike home memory descriptor other one :=
  ⟨alike.view.symm, fun observer own => (alike.memory observer own).symm⟩

theorem trans {one between other : Site ω} (first : Alike home memory descriptor one between)
    (second : Alike home memory descriptor between other) :
    Alike home memory descriptor one other :=
  ⟨first.view.trans second.view,
    fun observer own => (first.memory observer own).trans (second.memory observer own)⟩

end Alike

namespace Confined

theorem refl {site : Site ω} (settled : site.Settled home) :
    Confined home memory descriptor site site :=
  ⟨settled, fun _ _ => .refl _ site⟩

theorem trans {before between after : Site ω}
    (first : Confined home memory descriptor before between)
    (second : Confined home memory descriptor between after) :
    Confined home memory descriptor before after :=
  ⟨second.settled, fun other apart => (first.others other apart).trans (second.others other apart)⟩

end Confined

namespace Joined

theorem refl {one other : Site ω} (alike : Alike home memory descriptor one other) :
    Joined home memory descriptor one other one other :=
  ⟨alike, ⟨[], by simp⟩, ⟨false, by simp⟩⟩

theorem trans {one other first second last end_ : Site ω}
    (before : Joined home memory descriptor one other first second)
    (after : Joined home memory descriptor first second last end_) :
    Joined home memory descriptor one other last end_ where
  alike := after.alike
  calls := by
    obtain ⟨early, first, second⟩ := before.calls
    obtain ⟨late, last, end_⟩ := after.calls
    exact ⟨early ++ late, by rw [last, first, List.append_assoc],
      by rw [end_, second, List.append_assoc]⟩
  stop := by
    obtain ⟨early, first, second⟩ := before.stop
    obtain ⟨late, last, end_⟩ := after.stop
    exact ⟨early || late, by rw [last, first, Bool.or_assoc], by rw [end_, second, Bool.or_assoc]⟩

end Joined

namespace Still

variable {before after : Site ω} (still : before.Still after)

include still

theorem settled (settled : before.Settled home) : after.Settled home :=
  ⟨still.registry ▸ settled.sound, still.registry ▸ settled.homed⟩

theorem calls (descriptor : Int) : after.callsOn descriptor = before.callsOn descriptor := by
  rw [callsOn, callsOn, still.journal]

theorem spared : Spared home memory descriptor before after where
  entry := by rw [still.registry]
  memory observer _ := by rw [still.outside]
  calls := still.calls descriptor

theorem confined (settled : before.Settled home) :
    Confined home memory descriptor before after :=
  ⟨still.settled settled, fun _ _ => still.spared⟩

theorem joined {one other : Site ω} (still' : one.Still other)
    (alike : Alike home memory descriptor before one) :
    Joined home memory descriptor before one after other where
  alike := (still.spared.alike.trans alike).trans still'.spared.alike.symm
  calls := ⟨[], by rw [still.calls, List.append_nil],
    by rw [still'.calls, List.append_nil]⟩
  stop := ⟨false, by rw [still.stop, Bool.or_false], by rw [still'.stop, Bool.or_false]⟩

end Still

theorem callsOn_begin (site : Site ω) (socket : Handle) (armed : Armed)
    (notification : Notification) (descriptor : Int) :
    (site.begin socket armed notification).callsOn descriptor = site.callsOn descriptor ++
      if socket.descriptor = descriptor then
        [(socket, armed.kind, armed.observer, notification)]
      else [] := by
  change List.filterMap _ (List.reverse (_ :: _)) = _
  rw [List.reverse_cons, List.filterMap_append]
  congr 1
  by_cases own : socket.descriptor = descriptor <;> simp [callOn?, own]

end Site

/-- A call returns. It has used the reactor in some ways, and let observers at home on a socket
remember something. -/
structure Host.Serves (host : Host ω) (home : Nat → Int) (memory : ω → Nat → μ) (descriptor : Int)
    (armed : Armed) (notification : Notification) (site : Site ω) (uses : List Reactor.Use) :
    Prop where
  returned : (host.call armed notification site).1 = .returned
  journal : (host.call armed notification site).2.journal = site.journal
  reactor : (host.call armed notification site).2.reactor = site.reactor.useAll uses
  others : ∀ observer, home observer ≠ descriptor →
    memory (host.call armed notification site).2.outside observer = memory site.outside observer

/-- Observers that are called for the socket where they are at home go by what is registered there
and by what the observers at home there remember, and change that only. Each may ask for a stop. -/
def Host.Local (host : Host ω) (home : Nat → Int) (memory : ω → Nat → μ) : Prop :=
  ∀ socket notification (first second : Armed) (one other : Site ω),
    notification.socket = some socket → first.kind = second.kind →
    first.observer = second.observer → home first.observer = socket.descriptor →
    Site.Alike home memory socket.descriptor one other →
    ∃ uses : List Reactor.Use, (∀ use ∈ uses, use.KeepsTo home socket.descriptor) ∧
      host.Serves home memory socket.descriptor first notification one uses ∧
      host.Serves home memory socket.descriptor second notification other uses ∧
      ∀ observer, home observer = socket.descriptor →
        memory (host.call first notification one).2.outside observer =
          memory (host.call second notification other).2.outside observer

namespace Loop

open Site

variable {host : Host ω} {home : Nat → Int} {memory : ω → Nat → μ}

section

variable (stays : host.Local home memory) (socket : Handle) (notification : Notification)
  (about : notification.socket = some socket)

include stays about

theorem callOne_confined (armed : Armed) (own : home armed.observer = socket.descriptor)
    (site : Site ω) (settled : site.Settled home) :
    (callOne host socket notification armed site).1 = .returned ∧
      Confined home memory socket.descriptor site
        (callOne host socket notification armed site).2 := by
  by_cases dead : armed.number ∈ site.reactor.registry.cleared
  · rw [callOne_of_dead host socket notification armed site dead]
    exact ⟨rfl, .refl settled⟩
  · obtain ⟨uses, keeps, serves, -, -⟩ := stays socket notification armed armed
      (site.begin socket armed notification) _ about rfl rfl own (.refl _ _)
    have sound : (site.begin socket armed notification).reactor.registry.Sound := settled.sound
    obtain ⟨homed, others⟩ := Reactor.useAll_keeps sound uses keeps settled.homed
    have later := Reactor.useAll_later _ sound uses
    rw [callOne_of_live host socket notification armed site dead]
    have registry := congrArg Reactor.registry serves.reactor
    refine ⟨serves.returned, ⟨registry ▸ later.sound sound, registry ▸ homed⟩, ?_⟩
    intro other apart
    refine ⟨?_, ?_, ?_⟩
    · exact (congrArg (fun registry => registry.entry? other) registry).trans (others other apart)
    · intro observer there
      exact serves.others observer (there ▸ apart)
    · have silent := site.callsOn_begin socket armed notification other
      rw [if_neg (Ne.symm apart), List.append_nil] at silent
      exact (congrArg (fun journal : List Event =>
        journal.reverse.filterMap (callOn? other)) serves.journal).trans silent

omit stays about in
theorem deliver_cons_of_returned (armed : Armed) (rest : List Armed) (site : Site ω)
    (returned : (callOne host socket notification armed
      (site.onReactor fun reactor => { reactor with armed := armed :: rest })).1 = .returned) :
    deliver host socket notification (armed :: rest) site =
      deliver host socket notification rest (callOne host socket notification armed
        (site.onReactor fun reactor => { reactor with armed := armed :: rest })).2 := by
  rw [deliver]
  generalize callOne host socket notification armed _ = result at returned ⊢
  obtain ⟨ending, after⟩ := result
  cases ending with
  | returned => rfl
  | panicked => cases returned

theorem deliver_confined (list : List Armed)
    (own : ∀ armed ∈ list, home armed.observer = socket.descriptor) (site : Site ω)
    (settled : site.Settled home) :
    (deliver host socket notification list site).1 = .returned ∧
      Confined home memory socket.descriptor site
        (deliver host socket notification list site).2 := by
  induction list generalizing site with
  | nil =>
    have disarms : site.Still (site.onReactor fun reactor => { reactor with armed := [] }) :=
      ⟨rfl, rfl, rfl, rfl⟩
    exact ⟨rfl, disarms.confined settled⟩
  | cons armed rest ih =>
    rw [List.forall_mem_cons] at own
    have arms : site.Still (site.onReactor fun reactor =>
      { reactor with armed := armed :: rest }) := ⟨rfl, rfl, rfl, rfl⟩
    obtain ⟨returned, called⟩ := callOne_confined stays socket notification about armed own.1 _
      (arms.settled settled)
    obtain ⟨ends, more⟩ := ih own.2 _ called.settled
    rw [deliver_cons_of_returned socket notification armed rest site returned]
    exact ⟨ends, ((arms.confined settled).trans called).trans more⟩

theorem dispatch_confined (site : Site ω) (settled : site.Settled home) :
    (dispatch host socket notification site).1 = .returned ∧
      Confined home memory socket.descriptor site (dispatch host socket notification site).2 := by
  refine deliver_confined stays socket notification about _ ?_ site settled
  intro armed there
  exact settled.homed _ ((Registry.mem_snapshot _ settled.sound _ _ _).mp there).1

/-- A registration and its twin are called together or not at all. -/
theorem callOne_joined (one other : Site ω) (settled : one.Settled home)
    (settled' : other.Settled home) (entry : Option TwinEntry)
    (twinned : Registry.Twinned socket.descriptor entry one.reactor.registry
      other.reactor.registry)
    (same : ∀ observer, home observer = socket.descriptor →
      memory one.outside observer = memory other.outside observer)
    (twin : Twin) (own : home twin.observer = socket.descriptor)
    (even : twin.Even entry one.reactor.registry other.reactor.registry) :
    Joined home memory socket.descriptor one other
      (callOne host socket notification twin.left one).2
      (callOne host socket notification twin.right other).2 ∧
    Registry.Evenly socket.descriptor entry one.reactor.registry other.reactor.registry
      (callOne host socket notification twin.left one).2.reactor.registry
      (callOne host socket notification twin.right other).2.reactor.registry := by
  cases even with
  | inr gone =>
    rw [callOne_of_dead host socket notification twin.left one gone.1,
      callOne_of_dead host socket notification twin.right other gone.2]
    exact ⟨.refl ⟨twinned.view, same⟩, entry, twinned, fun _ => id⟩
  | inl there =>
    obtain ⟨row, row'⟩ := Registry.mem_rows_of_twin twinned settled.sound settled'.sound twin there
    have sound : (one.begin socket twin.left notification).reactor.registry.Sound := settled.sound
    have sound' : (other.begin socket twin.right notification).reactor.registry.Sound :=
      settled'.sound
    obtain ⟨uses, keeps, serves, serves', remembers⟩ := stays socket notification twin.left twin.right
      (one.begin socket twin.left notification) (other.begin socket twin.right notification)
      about rfl rfl own ⟨twinned.view, same⟩
    have evenly := Reactor.useAll_evenly sound sound' twinned uses keeps
    have stop := Reactor.useAll_stop (one.begin socket twin.left notification).reactor uses
    have stop' := Reactor.useAll_stop (other.begin socket twin.right notification).reactor uses
    have begun := one.callsOn_begin socket twin.left notification socket.descriptor
    have begun' := other.callsOn_begin socket twin.right notification socket.descriptor
    rw [callOne_of_live host socket notification twin.left one (settled.sound.live _ row),
      callOne_of_live host socket notification twin.right other (settled'.sound.live _ row')]
    rw [← serves.reactor, ← serves'.reactor] at evenly
    rw [← serves.reactor] at stop
    rw [← serves'.reactor] at stop'
    rw [if_pos rfl, callsOn, ← serves.journal] at begun
    rw [if_pos rfl, callsOn, ← serves'.journal] at begun'
    obtain ⟨after, twinned, even⟩ := evenly
    exact ⟨⟨⟨twinned.view, remembers⟩, ⟨_, begun, begun'⟩, ⟨_, stop, stop'⟩⟩, after, twinned, even⟩

/-- What is left of a snapshot does the same at both sites: of each registration in it, both sites
still have it, or neither has. -/
theorem deliver_joined (pending : List Twin)
    (own : ∀ twin ∈ pending, home twin.observer = socket.descriptor) (one other : Site ω)
    (settled : one.Settled home) (settled' : other.Settled home) (entry : Option TwinEntry)
    (twinned : Registry.Twinned socket.descriptor entry one.reactor.registry
      other.reactor.registry)
    (same : ∀ observer, home observer = socket.descriptor →
      memory one.outside observer = memory other.outside observer)
    (even : ∀ twin ∈ pending, twin.Even entry one.reactor.registry other.reactor.registry) :
    Joined home memory socket.descriptor one other
      (deliver host socket notification (pending.map Twin.left) one).2
      (deliver host socket notification (pending.map Twin.right) other).2 := by
  induction pending generalizing entry one other with
  | nil =>
    have disarms : ∀ site : Site ω, site.Still (site.onReactor fun reactor =>
      { reactor with armed := [] }) := fun _ => ⟨rfl, rfl, rfl, rfl⟩
    exact (disarms one).joined (disarms other) ⟨twinned.view, same⟩
  | cons twin rest ih =>
    rw [List.forall_mem_cons] at own even
    have arms : one.Still (one.onReactor fun reactor =>
      { reactor with armed := twin.left :: rest.map Twin.left }) := ⟨rfl, rfl, rfl, rfl⟩
    have arms' : other.Still (other.onReactor fun reactor =>
      { reactor with armed := twin.right :: rest.map Twin.right }) := ⟨rfl, rfl, rfl, rfl⟩
    obtain ⟨returned, called⟩ := callOne_confined stays socket notification about twin.left own.1 _
      (arms.settled settled)
    obtain ⟨returned', called'⟩ := callOne_confined stays socket notification about twin.right own.1 _
      (arms'.settled settled')
    obtain ⟨joined, between, twinned', evenly⟩ := callOne_joined stays socket notification about _ _
      (arms.settled settled) (arms'.settled settled') entry twinned same twin own.1 even.1
    have more := ih own.2 _ _ called.settled called'.settled between twinned' joined.alike.memory
      fun other there => evenly other (even.2 other there)
    rw [List.map_cons, List.map_cons,
      deliver_cons_of_returned socket notification twin.left _ one returned,
      deliver_cons_of_returned socket notification twin.right _ other returned']
    exact ((arms.joined arms' ⟨twinned.view, same⟩).trans joined).trans more

theorem dispatch_joined (one other : Site ω) (settled : one.Settled home)
    (settled' : other.Settled home) (alike : Alike home memory socket.descriptor one other) :
    Joined home memory socket.descriptor one other (dispatch host socket notification one).2
      (dispatch host socket notification other).2 := by
  obtain ⟨entry, twinned⟩ := Registry.twinned_of_view alike.view
  obtain ⟨left, right⟩ := twinned.snapshot notification.kind
  rw [dispatch, dispatch, left, right]
  refine deliver_joined stays socket notification about _ ?_ one other settled settled' entry
    twinned alike.memory fun twin there => .inl (List.mem_filter.mp there).1
  intro twin there
  obtain ⟨row, -⟩ := Registry.mem_rows_of_twin twinned settled.sound settled'.sound twin
    (List.mem_filter.mp there).1
  exact settled.homed _ row

end

theorem andThen_of_returned {first : Ending × Site ω} (next : Site ω → Ending × Site ω)
    (returned : first.1 = .returned) : andThen first next = next first.2 := by
  obtain ⟨ending, site⟩ := first
  cases ending with
  | returned => rfl
  | panicked => cases returned

variable (stays : host.Local home memory) (socket : Handle)

include stays

theorem dispatchAll_confined (notifications : List Notification)
    (about : ∀ notification ∈ notifications, notification.socket = some socket) (site : Site ω)
    (settled : site.Settled home) :
    (dispatchAll host socket notifications site).1 = .returned ∧
      Confined home memory socket.descriptor site
        (dispatchAll host socket notifications site).2 := by
  induction notifications generalizing site with
  | nil => exact ⟨rfl, .refl settled⟩
  | cons notification rest ih =>
    rw [List.forall_mem_cons] at about
    obtain ⟨returned, first⟩ := dispatch_confined stays socket notification about.1 site settled
    obtain ⟨ends, more⟩ := ih about.2 _ first.settled
    rw [dispatchAll, andThen_of_returned _ returned]
    exact ⟨ends, first.trans more⟩

theorem dispatchAll_joined (notifications : List Notification)
    (about : ∀ notification ∈ notifications, notification.socket = some socket)
    (one other : Site ω) (settled : one.Settled home) (settled' : other.Settled home)
    (alike : Alike home memory socket.descriptor one other) :
    Joined home memory socket.descriptor one other (dispatchAll host socket notifications one).2
      (dispatchAll host socket notifications other).2 := by
  induction notifications generalizing one other with
  | nil => exact .refl alike
  | cons notification rest ih =>
    rw [List.forall_mem_cons] at about
    obtain ⟨returned, first⟩ := dispatch_confined stays socket notification about.1 one settled
    obtain ⟨returned', first'⟩ := dispatch_confined stays socket notification about.1 other settled'
    have joined := dispatch_joined stays socket notification about.1 one other settled settled' alike
    rw [dispatchAll, dispatchAll, andThen_of_returned _ returned, andThen_of_returned _ returned']
    exact joined.trans (ih about.2 _ _ first.settled first'.settled joined.alike)

omit stays in
theorem notificationsOf_socket (readiness : Readiness) (unheard : Bool) :
    ∀ notification ∈ notificationsOf socket readiness unheard,
      notification.socket = some socket := by
  intro notification told
  obtain ⟨-, rfl⟩ | ⟨-, rfl⟩ | ⟨-, rfl⟩ | ⟨-, -, rfl⟩ :=
    (mem_notificationsOf socket readiness unheard notification).mp told <;> rfl

omit stays in
/-- Taking note of a report concerns its socket alone. -/
theorem mute_confined (readiness : Readiness) (site : Site ω) (settled : site.Settled home) :
    Confined home memory socket.descriptor site (site.onReactor fun reactor =>
      { reactor with registry := muteReported reactor.registry socket readiness }) := by
  refine ⟨⟨Registry.change_sound _ (.report socket readiness) settled.sound, ?_⟩, ?_⟩
  · intro row there
    exact settled.homed row (Registry.muteReported_rows _ socket readiness ▸ there)
  · intro other apart
    refine ⟨?_, fun _ _ => rfl, rfl⟩
    change Registry.entry? (muteReported site.reactor.registry socket readiness) other = _
    rw [muteReported]
    split
    · exact (site.reactor.registry.entry?_mute _ _ other).trans (if_neg (Ne.symm apart))
    · rfl

theorem dispatchReady_confined (readiness : Readiness) (site : Site ω)
    (settled : site.Settled home) :
    (dispatchReady host socket readiness site).1 = .returned ∧
      Confined home memory socket.descriptor site
        (dispatchReady host socket readiness site).2 := by
  have mutes : Confined home memory socket.descriptor site (site.onReactor fun reactor =>
      { reactor with registry := muteReported reactor.registry socket readiness }) :=
    mute_confined socket readiness site settled
  obtain ⟨returned, told⟩ := dispatchAll_confined stays socket _
    (notificationsOf_socket socket readiness _) _ mutes.settled
  exact ⟨returned, mutes.trans told⟩

theorem dispatchReady_joined (readiness : Readiness) (one other : Site ω)
    (settled : one.Settled home) (settled' : other.Settled home)
    (alike : Alike home memory socket.descriptor one other) :
    Joined home memory socket.descriptor one other (dispatchReady host socket readiness one).2
      (dispatchReady host socket readiness other).2 := by
  obtain ⟨entry, twinned⟩ := Registry.twinned_of_view alike.view
  have muted : ∃ entry, Registry.Twinned socket.descriptor entry
      (muteReported one.reactor.registry socket readiness)
      (muteReported other.reactor.registry socket readiness) := by
    rw [muteReported, muteReported]
    split
    · obtain ⟨after, twinned, -⟩ := Registry.evenly_mute twinned readiness.invalid
      exact ⟨after, twinned⟩
    · exact ⟨entry, twinned⟩
  obtain ⟨entry, twinned⟩ := muted
  have unheard : unheardHangUp (muteReported one.reactor.registry socket readiness) socket
      readiness = unheardHangUp (muteReported other.reactor.registry socket readiness) socket
        readiness := by
    rw [unheardHangUp, unheardHangUp, twinned.observes]
  have mutes : Confined home memory socket.descriptor one _ :=
    mute_confined socket readiness one settled
  have mutes' : Confined home memory socket.descriptor other _ :=
    mute_confined socket readiness other settled'
  have told := dispatchAll_joined stays socket _ (notificationsOf_socket socket readiness
    (unheardHangUp (muteReported one.reactor.registry socket readiness) socket readiness)) _ _
    mutes.settled mutes'.settled ⟨twinned.view, alike.memory⟩
  rw [dispatchReady, dispatchReady, ← unheard]
  exact ⟨told.alike, told.calls, told.stop⟩

end Loop

end SocketLoop
