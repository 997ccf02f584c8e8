import SocketLoop.Proofs.Registry.Sockets
import SocketLoop.Proofs.Registry.History

/-! Two registries that agree about a socket. The socket has the same registrations in both, in one
order and under whatever numbers. What is done to both in the same way leaves them in agreement, and
takes a registration out of the one just when it takes its twin out of the other. -/
namespace SocketLoop

/-- A registration that stands in two registries, under a number in each. -/
structure Twin where
  kind : Kind
  observer : Nat
  first : Nat
  second : Nat

namespace Twin

def left (twin : Twin) : Registration := ⟨twin.first, twin.kind, twin.observer⟩

def right (twin : Twin) : Registration := ⟨twin.second, twin.kind, twin.observer⟩

def isFor (kind : Kind) (observer : Nat) (twin : Twin) : Bool :=
  twin.kind == kind && twin.observer == observer

end Twin

/-- The entry of a socket in two registries. -/
structure TwinEntry where
  socket : Handle
  twins : List Twin
  muted : Bool

namespace TwinEntry

def left (entry : TwinEntry) : SocketEntry :=
  ⟨entry.socket, entry.twins.map Twin.left, entry.muted⟩

def right (entry : TwinEntry) : SocketEntry :=
  ⟨entry.socket, entry.twins.map Twin.right, entry.muted⟩

def observes (entry : TwinEntry) (kind : Kind) : Bool :=
  entry.twins.any fun twin => twin.kind == kind

def without? (entry : TwinEntry) (kind : Kind) (observer : Nat) : Option TwinEntry :=
  let twins := entry.twins.eraseP (Twin.isFor kind observer)
  if twins.isEmpty then none else some { entry with twins }

@[simp] theorem left_observes (entry : TwinEntry) (kind : Kind) :
    entry.left.observes kind = entry.observes kind :=
  List.any_map

@[simp] theorem right_observes (entry : TwinEntry) (kind : Kind) :
    entry.right.observes kind = entry.observes kind :=
  List.any_map

theorem left_without? (entry : TwinEntry) (kind : Kind) (observer : Nat) :
    entry.left.without? kind observer = (entry.without? kind observer).map left := by
  have same : SocketEntry.isFor kind observer ∘ Twin.left = Twin.isFor kind observer := rfl
  simp only [SocketEntry.without?, left, without?, List.eraseP_map, same, List.isEmpty_map]
  split <;> rfl

theorem right_without? (entry : TwinEntry) (kind : Kind) (observer : Nat) :
    entry.right.without? kind observer = (entry.without? kind observer).map right := by
  have same : SocketEntry.isFor kind observer ∘ Twin.right = Twin.isFor kind observer := rfl
  simp only [SocketEntry.without?, right, without?, List.eraseP_map, same, List.isEmpty_map]
  split <;> rfl

end TwinEntry

namespace Registry

/-- What a registry tells of a socket, but for the numbers of its registrations. -/
def view (registry : Registry) (descriptor : Int) : Option (Handle × List (Kind × Nat) × Bool) :=
  (registry.entry? descriptor).map fun entry =>
    (entry.socket, entry.registrations.map Registration.place, entry.muted)

/-- The entry of a socket stands in two registries. -/
structure Twinned (descriptor : Int) (entry : Option TwinEntry) (one other : Registry) :
    Prop where
  left : one.entry? descriptor = entry.map TwinEntry.left
  right : other.entry? descriptor = entry.map TwinEntry.right

end Registry

def TwinEntry.all (entry : Option TwinEntry) : List Twin := (entry.map TwinEntry.twins).getD []

/-- A registration is there in two registries, or in neither of them any more. -/
def Twin.Even (entry : Option TwinEntry) (one other : Registry) (twin : Twin) : Prop :=
  twin ∈ TwinEntry.all entry ∨ twin.first ∈ one.cleared ∧ twin.second ∈ other.cleared

namespace Registry

variable {descriptor : Int} {one other : Registry}

private theorem twins_of_places (first second : List Registration)
    (same : first.map Registration.place = second.map Registration.place) :
    ∃ twins : List Twin, first = twins.map Twin.left ∧ second = twins.map Twin.right := by
  induction first generalizing second with
  | nil =>
    rw [List.map_nil, eq_comm, List.map_eq_nil_iff] at same
    exact ⟨[], rfl, same⟩
  | cons registration rest ih =>
    cases second with
    | nil => cases same
    | cons twin others =>
      obtain ⟨place, same⟩ := List.cons.inj same
      obtain ⟨twins, rfl, rfl⟩ := ih others same
      obtain ⟨kind, observer⟩ := Prod.mk.inj place
      refine ⟨⟨registration.kind, registration.observer, registration.number, twin.number⟩ :: twins,
        rfl, ?_⟩
      rw [List.map_cons, Twin.right, kind, observer]

/-- Registries that tell the same of a socket have twins there. -/
theorem twinned_of_view (same : one.view descriptor = other.view descriptor) :
    ∃ entry, Twinned descriptor entry one other := by
  rw [view, view] at same
  cases left : one.entry? descriptor with
  | none =>
    rw [left, Option.map_none, eq_comm, Option.map_eq_none_iff] at same
    exact ⟨none, left, same⟩
  | some entry =>
    cases right : other.entry? descriptor with
    | none =>
      rw [left, right] at same
      cases same
    | some second =>
      rw [left, right, Option.map_some, Option.map_some, Option.some_inj] at same
      obtain ⟨socket, same⟩ := Prod.mk.inj same
      obtain ⟨places, muted⟩ := Prod.mk.inj same
      obtain ⟨twins, first, last⟩ := twins_of_places _ _ places
      refine ⟨some ⟨entry.socket, twins, entry.muted⟩, ?_, ?_⟩
      · rw [left, Option.map_some, TwinEntry.left, ← first]
      · rw [right, Option.map_some, TwinEntry.right, ← last, socket, muted]

namespace Twinned

variable {entry : Option TwinEntry} (twinned : Twinned descriptor entry one other)

include twinned

theorem view : one.view descriptor = other.view descriptor := by
  have places : Registration.place ∘ Twin.left = Registration.place ∘ Twin.right := rfl
  rw [Registry.view, Registry.view, twinned.left, twinned.right]
  cases entry with
  | none => rfl
  | some entry => simp [TwinEntry.left, TwinEntry.right, places]

theorem observes (kind : Kind) : one.observes descriptor kind = other.observes descriptor kind := by
  rw [Registry.observes, Registry.observes, twinned.left, twinned.right]
  cases entry with
  | none => rfl
  | some entry => simp

theorem onSocket : one.onSocket descriptor = (TwinEntry.all entry).map Twin.left ∧
    other.onSocket descriptor = (TwinEntry.all entry).map Twin.right := by
  rw [Registry.onSocket, Registry.onSocket, twinned.left, twinned.right]
  cases entry <;> exact ⟨rfl, rfl⟩

theorem snapshot (kind : Kind) :
    one.snapshot descriptor kind =
        ((TwinEntry.all entry).filter fun twin => twin.kind == kind).map Twin.left ∧
      other.snapshot descriptor kind =
        ((TwinEntry.all entry).filter fun twin => twin.kind == kind).map Twin.right := by
  rw [snapshot_eq, snapshot_eq, twinned.onSocket.1, twinned.onSocket.2, List.filter_map,
    List.filter_map]
  exact ⟨rfl, rfl⟩

theorem contains (kind : Kind) (observer : Nat) :
    one.contains descriptor kind observer = other.contains descriptor kind observer := by
  have left : SocketEntry.isFor kind observer ∘ Twin.left = Twin.isFor kind observer := rfl
  have right : SocketEntry.isFor kind observer ∘ Twin.right = Twin.isFor kind observer := rfl
  rw [Registry.contains, Registry.contains, find?_eq, find?_eq, twinned.onSocket.1,
    twinned.onSocket.2, List.find?_map, List.find?_map, left, right, Option.isSome_map,
    Option.isSome_map]

end Twinned

/-- After what happened to both, the socket has twins again, and those that it had went in both or
in neither. -/
def Evenly (descriptor : Int) (entry : Option TwinEntry) (one other first second : Registry) :
    Prop :=
  ∃ after, Twinned descriptor after first second ∧
    ∀ twin : Twin, twin.Even entry one other → twin.Even after first second

section

variable {entry : Option TwinEntry} (twinned : Twinned descriptor entry one other)

include twinned

theorem evenly_add (socket : Handle) (own : socket.descriptor = descriptor) (kind : Kind)
    (observer : Nat) : Evenly descriptor entry one other (one.add socket kind observer).2
      (other.add socket kind observer).2 := by
  subst own
  have same := twinned.contains kind observer
  cases there : one.contains socket.descriptor kind observer with
  | true =>
    rw [add_of_contains one socket kind observer there,
      add_of_contains other socket kind observer (same.symm.trans there)]
    exact ⟨entry, twinned, fun _ => id⟩
  | false =>
    have left := one.entry?_add socket kind observer there socket.descriptor
    have right := other.entry?_add socket kind observer (same.symm.trans there) socket.descriptor
    rw [if_pos rfl, twinned.left] at left
    rw [if_pos rfl, twinned.right] at right
    cases entry with
    | none =>
      refine ⟨some ⟨socket, [⟨kind, observer, one.next, other.next⟩], false⟩, ⟨left, right⟩, ?_⟩
      intro twin even
      rw [Twin.Even, add_cleared, add_cleared]
      exact .inr (even.resolve_left List.not_mem_nil)
    | some entry =>
      refine ⟨some { entry with
        twins := entry.twins ++ [⟨kind, observer, one.next, other.next⟩]
        muted := false }, ⟨?_, ?_⟩, ?_⟩
      · rw [left]
        simp [SocketEntry.joined, TwinEntry.left, Twin.left]
      · rw [right]
        simp [SocketEntry.joined, TwinEntry.right, Twin.right]
      · intro twin even
        rw [Twin.Even, add_cleared, add_cleared]
        exact even.imp_left (List.mem_append_left _)

theorem mem_rows_of_twin (sound : one.Sound) (sound' : other.Sound) (twin : Twin)
    (there : twin ∈ TwinEntry.all entry) :
    (descriptor, twin.left) ∈ one.rows ∧ (descriptor, twin.right) ∈ other.rows := by
  rw [← mem_onSocket one sound, ← mem_onSocket other sound', twinned.onSocket.1, twinned.onSocket.2]
  exact ⟨List.mem_map_of_mem there, List.mem_map_of_mem there⟩

theorem evenly_remove (sound : one.Sound) (sound' : other.Sound) (socket : Handle)
    (own : socket.descriptor = descriptor) (kind : Kind) (observer : Nat) :
    Evenly descriptor entry one other (one.remove socket kind observer).2
      (other.remove socket kind observer).2 := by
  subst own
  have left := one.entry?_remove sound socket kind observer socket.descriptor
  have right := other.entry?_remove sound' socket kind observer socket.descriptor
  rw [if_pos rfl, twinned.left] at left
  rw [if_pos rfl, twinned.right] at right
  refine ⟨entry.bind fun entry => entry.without? kind observer, ⟨?_, ?_⟩, ?_⟩
  · rw [left]
    cases entry with
    | none => rfl
    | some entry => exact entry.left_without? kind observer
  · rw [right]
    cases entry with
    | none => rfl
    | some entry => exact entry.right_without? kind observer
  · intro twin even
    rw [Twin.Even, remove_cleared, remove_cleared]
    cases even with
    | inr gone => exact .inr ⟨List.mem_append_right _ gone.1, List.mem_append_right _ gone.2⟩
    | inl there =>
      obtain ⟨row, row'⟩ := mem_rows_of_twin twinned sound sound' twin there
      cases struck : twin.isFor kind observer with
      | true =>
        -- it is the registration that goes, in both
        simp only [Twin.isFor, Bool.and_eq_true, beq_iff_eq] at struck
        have found := (find?_iff one sound _ _ _ _).mpr ⟨row, struck⟩
        have found' := (find?_iff other sound' _ _ _ _).mpr ⟨row', struck⟩
        refine .inr ⟨List.mem_append_left _ ?_, List.mem_append_left _ ?_⟩
        · simp [remove, found, Twin.left]
        · simp [remove, found', Twin.right]
      | false =>
        cases entry with
        | none => cases there
        | some entry =>
          have stays : twin ∈ entry.twins.eraseP (Twin.isFor kind observer) :=
            (List.mem_eraseP_of_neg (by simp [struck])).mpr there
          left
          rw [Option.bind_some, TwinEntry.without?]
          rw [if_neg (by simpa using List.ne_nil_of_mem stays)]
          exact stays

theorem evenly_mute (evenIfRead : Bool) : Evenly descriptor entry one other
    (one.mute descriptor evenIfRead) (other.mute descriptor evenIfRead) := by
  have left := one.entry?_mute descriptor evenIfRead descriptor
  have right := other.entry?_mute descriptor evenIfRead descriptor
  rw [if_pos rfl, twinned.left] at left
  rw [if_pos rfl, twinned.right] at right
  refine ⟨entry.map fun entry => { entry with
    muted := entry.muted || evenIfRead || !entry.observes .readable }, ⟨?_, ?_⟩, ?_⟩
  · rw [left]
    cases entry with
    | none => rfl
    | some entry => simp [SocketEntry.quieted, TwinEntry.left, ← TwinEntry.left_observes]
  · rw [right]
    cases entry with
    | none => rfl
    | some entry => simp [SocketEntry.quieted, TwinEntry.right, ← TwinEntry.right_observes]
  · intro twin even
    cases entry with
    | none => exact even
    | some entry => exact even

end

end Registry

end SocketLoop
