import SocketLoop.Proofs.Owner.Frame

/-! What the steps of other owners leave alone: the attempt of an owner, and what was told of it. -/
namespace SocketLoop

def Deed.told? (index : Nat) : Deed → Option (Option Errno)
  | .told owner errno => if owner = index then some errno else none
  | _ => none

namespace World

variable {η ν : Type}

def toldOf (world : World η ν) (index : Nat) : List (Option Errno) :=
  world.outside.deeds.filterMap (Deed.told? index)

/-- A world comes from another one without a change to the attempt of an owner or to what was told
of it. -/
structure Spares (index : Nat) (before after : World η ν) : Prop where
  attempt : ∀ attempt, before.attempt? index = some attempt → after.attempt? index = some attempt
  told : after.toldOf index = before.toldOf index

namespace Spares

variable {index : Nat} {before between after : World η ν}

theorem refl (index : Nat) (world : World η ν) : Spares index world world := ⟨fun _ => id, rfl⟩

theorem trans (first : Spares index before between) (second : Spares index between after) :
    Spares index before after :=
  ⟨fun attempt there => second.attempt attempt (first.attempt attempt there),
    second.told.trans first.told⟩

end Spares

variable (world : World η ν) (index : Nat)

theorem spares_of_outside {before after : World η ν} (same : after.outside = before.outside) :
    Spares index before after := by
  constructor
  · intro attempt there
    simpa only [attempt?, owner?, same] using there
  · simp only [toldOf, same]

theorem spares_done (deed : Deed) (other : deed.told? index = none) :
    Spares index world (world.done deed) := by
  refine ⟨fun _ => id, ?_⟩
  simp [toldOf, done, other]

theorem attempt?_changeOwner (owner : Nat) (change : Owner η → Owner η)
    (still : ∀ value, (change value).attempt? = value.attempt?) :
    (world.changeOwner owner change).attempt? index = world.attempt? index := by
  simp only [attempt?, owner?, changeOwner, List.getElem?_modify]
  cases world.outside.owners[index]? with
  | none => rfl
  | some value =>
    by_cases same : owner = index <;> simp [same, still]

theorem spares_changeOwner (owner : Nat) (change : Owner η → Owner η)
    (still : ∀ value, (change value).attempt? = value.attempt?) :
    Spares index world (world.changeOwner owner change) :=
  ⟨fun _ there => (attempt?_changeOwner world index owner change still).trans there, rfl⟩

theorem spares_addOwner (owner : Owner η) : Spares index world (world.addOwner owner).2 := by
  refine ⟨?_, rfl⟩
  intro attempt there
  obtain ⟨value, found, role⟩ := Option.bind_eq_some_iff.mp there
  refine Option.bind_eq_some_iff.mpr ⟨value, ?_, role⟩
  have known := (List.getElem?_eq_some_iff.mp found).1
  exact (List.getElem?_append_left known).trans found

theorem attempt?_changeAttempt (change : Attempt → Attempt) :
    (world.changeAttempt index change).attempt? index = (world.attempt? index).map change := by
  simp only [attempt?, owner?, changeAttempt, changeOwner, List.getElem?_modify_eq]
  cases world.outside.owners[index]? with
  | none => rfl
  | some value => cases role : value.role <;> simp [Owner.attempt?, role]

theorem changeAttempt_changeAttempt (first second : Attempt → Attempt) :
    (world.changeAttempt index first).changeAttempt index second =
      world.changeAttempt index (second ∘ first) := by
  simp only [changeAttempt, changeOwner, List.modify_modify_eq]
  congr 3
  funext owner
  cases role : owner.role <;> simp [Function.comp, role]

theorem spares_changeAttempt (owner : Nat) (change : Attempt → Attempt) (other : owner ≠ index) :
    Spares index world (world.changeAttempt owner change) := by
  refine ⟨?_, rfl⟩
  intro attempt there
  simpa [attempt?, owner?, changeAttempt, changeOwner, List.getElem?_modify, other] using there

theorem attempt?_addOwner (owner : Owner η) :
    (world.addOwner owner).2.attempt? (world.addOwner owner).1 = owner.attempt? := by
  simp [attempt?, owner?, addOwner]

theorem spares_covers (index : Nat) :
    Covers (fun owner => owner ≠ index) True (@Spares η ν index) where
  refl := Spares.refl index
  trans := Spares.trans
  addHandler _ _ _ _ := spares_of_outside index rfl
  removeHandler _ _ _ _ := spares_of_outside index rfl
  newObserver _ _ := ⟨fun _ => id, rfl⟩
  observers world owner _ := spares_changeOwner world index owner _ fun _ => rfl
  addOwner _ world := spares_addOwner world index
  setHandler world owner handler := by
    refine spares_changeOwner world index owner _ ?_
    intro value
    cases role : value.role <;> simp [Owner.attempt?, role]
  changeAcceptor world owner change := by
    refine spares_changeOwner world index owner _ ?_
    intro value
    cases role : value.role <;> simp [Owner.attempt?, role]
  changeAttempt world owner change apart := spares_changeAttempt world index owner change apart
  done world deed apart := by
    refine spares_done world index deed ?_
    cases deed with
    | told owner errno => simp [Deed.told?, apart owner errno rfl]
    | _ => rfl

end World

end SocketLoop
