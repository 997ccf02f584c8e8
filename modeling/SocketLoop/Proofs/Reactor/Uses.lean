import SocketLoop.Proofs.Registry.Later
import SocketLoop.Reactor.Loop

/-! What observers can do to the loop that calls them: they register and remove observers and ask
for a stop, and leave the journal of the loop alone. -/
namespace SocketLoop

namespace Reactor

variable (reactor : Reactor)

@[simp] theorem useAll_nil : reactor.useAll [] = reactor := rfl

@[simp] theorem useAll_cons (use : Use) (uses : List Use) :
    reactor.useAll (use :: uses) = (reactor.use use).useAll uses := rfl

theorem useAll_append (first second : List Use) :
    reactor.useAll (first ++ second) = (reactor.useAll first).useAll second :=
  List.foldl_append

@[simp] theorem use_armed (use : Use) : (reactor.use use).armed = reactor.armed := by
  cases use <;> rfl

@[simp] theorem useAll_armed (uses : List Use) : (reactor.useAll uses).armed = reactor.armed := by
  induction uses generalizing reactor with
  | nil => rfl
  | cons use rest ih => rw [useAll_cons, ih, use_armed]

@[simp] theorem use_settings (use : Use) : (reactor.use use).settings = reactor.settings := by
  cases use <;> rfl

@[simp] theorem useAll_settings (uses : List Use) :
    (reactor.useAll uses).settings = reactor.settings := by
  induction uses generalizing reactor with
  | nil => rfl
  | cons use rest ih => rw [useAll_cons, ih, use_settings]

@[simp] theorem use_active (use : Use) : (reactor.use use).active = reactor.active := by
  cases use <;> rfl

@[simp] theorem useAll_active (uses : List Use) :
    (reactor.useAll uses).active = reactor.active := by
  induction uses generalizing reactor with
  | nil => rfl
  | cons use rest ih => rw [useAll_cons, ih, use_active]

theorem use_later (sound : reactor.registry.Sound) (use : Use) :
    reactor.registry.Later (reactor.use use).registry := by
  cases use with
  | add socket kind observer => exact Registry.later_add _ sound _ _ _
  | remove socket kind observer => exact Registry.later_remove _ sound _ _ _
  | stop => exact .refl _

theorem useAll_later (sound : reactor.registry.Sound) (uses : List Use) :
    reactor.registry.Later (reactor.useAll uses).registry := by
  induction uses generalizing reactor with
  | nil => exact .refl _
  | cons use rest ih =>
    have first := reactor.use_later sound use
    exact first.trans (ih _ (first.sound sound))

theorem removeHandler_of_absent (socket : Handle) (kind : Kind) (observer : Nat)
    (absent : (reactor.registry.remove socket kind observer).1 = none) :
    reactor.removeHandler socket kind observer = reactor := by
  unfold removeHandler
  cases found : reactor.registry.find? socket.descriptor kind observer with
  | none => rw [Registry.remove_of_absent _ _ _ _ found]
  | some registration => simp [Registry.remove, found] at absent

end Reactor

variable {ω : Type}

/-- A site is reached from another one by uses of its reactor, with nothing put in the journal. -/
def Site.Reaches (before after : Site ω) : Prop :=
  after.journal = before.journal ∧ ∃ uses, after.reactor = before.reactor.useAll uses

def Host.Keeps (host : Host ω) : Prop :=
  ∀ armed notification (site : Site ω), site.Reaches (host.call armed notification site).2

/-- A host that leaves it alone in its polls and sleeps, too. -/
structure Host.Tame (host : Host ω) : Prop where
  keeps : host.Keeps
  poll : ∀ asked (site : Site ω), site.Reaches (host.poll asked site).2
  rest : ∀ site : Site ω, site.Reaches (host.rest site)

namespace Site

theorem Reaches.refl (site : Site ω) : site.Reaches site := ⟨rfl, [], rfl⟩

theorem Reaches.trans {before between after : Site ω} (first : before.Reaches between)
    (second : between.Reaches after) : before.Reaches after := by
  obtain ⟨same, uses, made⟩ := first
  obtain ⟨same', uses', made'⟩ := second
  refine ⟨same'.trans same, uses ++ uses', ?_⟩
  rw [made', made, Reactor.useAll_append]

end Site

def Site.begin (site : Site ω) (socket : Handle) (armed : Armed) (notification : Notification) :
    Site ω :=
  Site.note { site with reactor := { site.reactor with inFlight := some armed.number } }
    (.called socket armed notification)

theorem Reactor.publish?_of_dead (reactor : Reactor) (armed : Armed)
    (dead : armed.number ∈ reactor.registry.cleared) : reactor.publish? armed = none := by
  simp [publish?, Registry.isLive, dead]

theorem Reactor.publish?_of_live (reactor : Reactor) (armed : Armed)
    (live : armed.number ∉ reactor.registry.cleared) :
    reactor.publish? armed = some { reactor with inFlight := some armed.number } := by
  simp [publish?, Registry.isLive, live]

namespace Loop

variable (host : Host ω) (socket : Handle) (notification : Notification) (armed : Armed)
  (site : Site ω)

theorem callOne_of_dead (dead : armed.number ∈ site.reactor.registry.cleared) :
    callOne host socket notification armed site = (.returned, site) := by
  simp only [callOne, Reactor.publish?_of_dead _ _ dead]

theorem callOne_of_live (live : armed.number ∉ site.reactor.registry.cleared) :
    callOne host socket notification armed site =
      ((host.call armed notification (site.begin socket armed notification)).1,
        (host.call armed notification (site.begin socket armed notification)).2.onReactor
          Reactor.finish) := by
  simp only [callOne, Reactor.publish?_of_live _ _ live]
  rfl

end Loop

end SocketLoop
