import SocketLoop.Proofs.Owner.Crew

/-! What two threads make of the record of an owner. At every point its registrations are what is
on record, what is about to be removed and what its removal missed, except for what is still to
come. -/
namespace SocketLoop

variable {η ν : Type}

namespace World

/-- The observers of an owner that are on record, about to be removed or missed by their removal are
registered, those apart that are still to come, and no others are. -/
structure Tally (single : Prop) (world : World η ν) (index : Nat) (socket : Handle)
    (listed entering : List (Kind × Nat)) : Prop where
  sound : world.reactor.registry.Sound
  known : ∀ place ∈ world.reactor.registry.targets, place.2.2 < world.outside.makers.length
  distinct : (listed.map Prod.snd).Nodup
  kinds : single → (listed.map Prod.fst).Nodup
  once : entering.Nodup
  within : ∀ row ∈ entering, row ∈ listed
  made : ∀ row ∈ listed, world.maker? row.2 = some index
  registered : ∀ place, world.maker? place.2.2 = some index →
    (place ∈ world.reactor.registry.targets ↔
      place.1 = socket.descriptor ∧ place.2 ∈ listed ∧ place.2 ∉ entering)

namespace Tally

variable {single : Prop} {world after : World η ν} {index : Nat} {socket : Handle}
  {listed entering : List (Kind × Nat)}

theorem perm (tally : Tally single world index socket listed entering)
    {listed' entering' : List (Kind × Nat)}
    (same : listed.Perm listed') (same' : entering.Perm entering') :
    Tally single world index socket listed' entering' where
  sound := tally.sound
  known := tally.known
  distinct := (same.map Prod.snd).nodup_iff.mp tally.distinct
  kinds apart := (same.map Prod.fst).nodup_iff.mp (tally.kinds apart)
  once := same'.nodup_iff.mp tally.once
  within row member := same.subset (tally.within row (same'.symm.subset member))
  made row member := tally.made row (same.symm.subset member)
  registered place made := by
    rw [tally.registered place made, same.mem_iff, same'.mem_iff]

theorem of_same (tally : Tally single world index socket listed entering)
    (registry : after.reactor.registry = world.reactor.registry)
    (makers : after.outside.makers = world.outside.makers) :
    Tally single after index socket listed entering := by
  have made : ∀ observer, after.maker? observer = world.maker? observer := by
    intro observer
    rw [maker?, maker?, makers]
  refine ⟨?_, ?_, tally.distinct, tally.kinds, tally.once, tally.within, ?_, ?_⟩
  · rw [registry]
    exact tally.sound
  · rw [registry, makers]
    exact tally.known
  · intro row member
    rw [made]
    exact tally.made row member
  · intro place
    rw [made, registry]
    exact tally.registered place

theorem elsewhere (tally : Tally single world index socket listed entering)
    (elsewhere : world.Elsewhere index after) :
    Tally single after index socket listed entering := by
  obtain ⟨more, makers, foreign⟩ := elsewhere.makers
  have made : ∀ observer, after.maker? observer = some index ↔
      world.maker? observer = some index := by
    intro observer
    rw [maker?_iff, maker?_iff, makers, List.getElem?_append]
    split
    · exact Iff.rfl
    · rename_i new
      rw [List.getElem?_eq_none (Nat.le_of_not_lt new)]
      refine iff_of_false ?_ (by simp)
      exact fun found => foreign (List.mem_of_getElem? found)
  refine ⟨elsewhere.sound tally.sound, elsewhere.known tally.known, tally.distinct, tally.kinds,
    tally.once, tally.within, fun row member => (made _).mpr (tally.made row member), ?_⟩
  intro place maker
  have before := (made _).mp maker
  rw [elsewhere.registered place before, tally.registered place before]

theorem note (tally : Tally single world index socket listed entering) (kind : Kind)
    (free : single → kind ∉ listed.map Prod.fst)
    (registry : after.reactor.registry = world.reactor.registry)
    (makers : after.outside.makers = world.outside.makers ++ [some index]) :
    Tally single after index socket ((kind, world.outside.makers.length) :: listed)
      ((kind, world.outside.makers.length) :: entering) := by
  have made := world.maker?_append after (some index) makers
  have old : ∀ row ∈ listed, row.2 < world.outside.makers.length :=
    fun row member => world.maker?_lt row.2 index (tally.made row member)
  have fresh : (kind, world.outside.makers.length) ∉ listed :=
    fun member => absurd (old _ member) (Nat.lt_irrefl _)
  constructor
  case sound =>
    rw [registry]
    exact tally.sound
  case known =>
    intro place there
    rw [registry] at there
    simpa [makers] using Nat.lt_succ_of_lt (tally.known place there)
  case distinct =>
    refine List.nodup_cons.mpr ⟨?_, tally.distinct⟩
    intro member
    obtain ⟨row, inside, same⟩ := List.mem_map.mp member
    exact absurd (old row inside) (Nat.not_lt_of_le (Nat.le_of_eq same.symm))
  case kinds => exact fun apart => List.nodup_cons.mpr ⟨free apart, tally.kinds apart⟩
  case once => exact List.nodup_cons.mpr ⟨fun member => fresh (tally.within _ member), tally.once⟩
  case within =>
    intro row member
    exact List.mem_cons.mpr ((List.mem_cons.mp member).imp_right (tally.within row))
  case made =>
    intro row member
    rcases List.mem_cons.mp member with rfl | inside
    · exact (made _ _).mpr (.inr ⟨rfl, rfl⟩)
    · exact (made _ _).mpr (.inl (tally.made row inside))
  case registered =>
    intro place maker
    rw [registry]
    rcases (made _ _).mp maker with before | ⟨new, -⟩
    · have apart : place.2 ≠ (kind, world.outside.makers.length) := by
        intro same
        exact absurd (world.maker?_lt _ _ before) (by simp [same])
      rw [tally.registered place before]
      simp [apart]
    · -- nothing is registered under a number that was not given out yet
      refine iff_of_false ?_ ?_
      · intro there
        exact absurd (tally.known place there) (by simp [new])
      · rintro ⟨-, inside, outside⟩
        rcases List.mem_cons.mp inside with same | member
        · exact outside (same ▸ List.mem_cons_self)
        · exact absurd (old _ member) (by simp [new])

theorem register (row : Kind × Nat)
    (tally : Tally single world index socket listed (row :: entering)) :
    Tally single (world.onReactor fun reactor => reactor.addHandler socket row.1 row.2) index
      socket listed entering := by
  have places := world.reactor.registry.mem_add_targets tally.sound socket row.1 row.2
  have inside := tally.within row List.mem_cons_self
  obtain ⟨apart, once⟩ := List.nodup_cons.mp tally.once
  constructor
  case sound => exact Registry.add_sound _ tally.sound socket row.1 row.2
  case known =>
    intro place there
    rcases (places place).mp there with old | rfl
    · exact tally.known place old
    · exact world.maker?_lt _ index (tally.made row inside)
  case distinct => exact tally.distinct
  case kinds => exact tally.kinds
  case once => exact once
  case within => exact fun other member => tally.within other (List.mem_cons_of_mem row member)
  case made => exact tally.made
  case registered =>
    intro place maker
    refine (places place).trans ?_
    rw [tally.registered place maker, List.mem_cons, not_or]
    by_cases same : place.2 = row
    · have own : place = (socket.descriptor, row.1, row.2) ↔ place.1 = socket.descriptor := by
        rw [Prod.ext_iff]
        exact and_iff_left same
      simp [own, same, inside, apart]
    · have other : place ≠ (socket.descriptor, row.1, row.2) := fun equal => same (by rw [equal])
      simp [other, same]

theorem remove (row : Kind × Nat) (tally : Tally single world index socket (row :: listed) entering)
    (there : (socket.descriptor, row) ∈ world.reactor.registry.targets) :
    Tally single (world.onReactor fun reactor => reactor.removeHandler socket row.1 row.2) index
      socket listed entering := by
  have places := world.reactor.registry.mem_remove_targets tally.sound socket row.1 row.2
  have own := tally.made row List.mem_cons_self
  have entered := ((tally.registered (socket.descriptor, row) own).mp there).2.2
  obtain ⟨apart, distinct⟩ := List.nodup_cons.mp tally.distinct
  constructor
  case sound => exact Registry.remove_sound _ tally.sound socket row.1 row.2
  case known => exact fun place there => tally.known place ((places place).mp there).1
  case distinct => exact distinct
  case kinds => exact fun apart => (List.nodup_cons.mp (tally.kinds apart)).2
  case once => exact tally.once
  case within =>
    intro other member
    refine (List.mem_cons.mp (tally.within other member)).resolve_left ?_
    rintro rfl
    exact entered member
  case made => exact fun other member => tally.made other (List.mem_cons_of_mem row member)
  case registered =>
    intro place maker
    refine (places place).trans ?_
    rw [tally.registered place maker, List.mem_cons]
    by_cases same : place.2 = row
    · refine iff_of_false ?_ ?_
      · rintro ⟨⟨home, -⟩, other⟩
        exact other (Prod.ext home same)
      · rintro ⟨-, member, -⟩
        exact apart (List.mem_map_of_mem (same ▸ member))
    · have other : place ≠ (socket.descriptor, row.1, row.2) := fun equal => same (by rw [equal])
      simp [other, same]

end Tally

/-- Where observers of an owner are registered. -/
def places (world : World η ν) (index : Nat) : List (Int × Kind × Nat) :=
  world.reactor.registry.targets.filter fun place => world.maker? place.2.2 == some index

/-- What is on record, about to be removed or missed by its removal. -/
def listed (world : World η ν) (index : Nat) (tasks : List Task) (missed : List (Kind × Nat)) :
    List (Kind × Nat) :=
  ((world.notes? index).map Prod.snd).getD [] ++ (tasks.filterMap Task.leaving? ++ missed)

/-- What the tasks of both threads and the record of their owner come to. -/
def Kept (single : Prop) (world : World η ν) (index : Nat) (socket : Handle) (tasks : List Task)
    (missed : List (Kind × Nat)) : Prop :=
  ∃ record, world.notes? index = some (socket, record) ∧
    Tally single world index socket (record ++ (tasks.filterMap Task.leaving? ++ missed))
      (tasks.filterMap Task.entering?)

namespace Kept

variable {single : Prop} {world after : World η ν} {index : Nat} {socket : Handle}
  {tasks others : List Task} {missed : List (Kind × Nat)}

theorem perm (kept : world.Kept single index socket tasks missed) {tasks' : List Task}
    (same : tasks.Perm tasks') : world.Kept single index socket tasks' missed := by
  obtain ⟨record, noted, tally⟩ := kept
  have leaving := (same.filterMap Task.leaving?).append_right missed
  exact ⟨record, noted, tally.perm (leaving.append_left record) (same.filterMap Task.entering?)⟩

/-- Nothing but the tasks changes, and those change in nothing that matters to the record. -/
theorem of_same (kept : world.Kept single index socket tasks missed) {tasks' : List Task}
    (notes : after.notes? index = world.notes? index)
    (registry : after.reactor.registry = world.reactor.registry)
    (makers : after.outside.makers = world.outside.makers)
    (leaving : tasks'.filterMap Task.leaving? = tasks.filterMap Task.leaving?)
    (entering : tasks'.filterMap Task.entering? = tasks.filterMap Task.entering?) :
    after.Kept single index socket tasks' missed := by
  obtain ⟨record, noted, tally⟩ := kept
  refine ⟨record, notes.trans noted, ?_⟩
  rw [leaving, entering]
  exact tally.of_same registry makers

theorem perform_note (kind : Kind)
    (kept : world.Kept single index socket (.note kind :: others) missed)
    (free : single → kind ∉ (world.listed index others missed).map Prod.fst) :
    ((Task.note kind).perform index world).2.Kept single index socket
      (((Task.note kind).perform index world).1 ++ others) missed := by
  cases alive : world.reactor.alive with
  | false =>
    simp only [Task.perform, alive, Bool.false_eq_true, if_false]
    exact kept.of_same rfl rfl rfl rfl rfl
  | true =>
    obtain ⟨record, noted, tally⟩ := kept
    obtain ⟨owner, found, rfl, rfl⟩ := (world.notes?_iff index socket record).mp noted
    simp only [Task.perform, alive, if_true]
    refine ⟨owner.observers ++ [(kind, world.outside.makers.length)], ?_, ?_⟩
    · have notes := (world.newObserver (some index)).2.notes?_observers_iff index
        (· ++ [(kind, world.outside.makers.length)]) owner found
      exact (notes index _).mpr (.inr ⟨rfl, rfl⟩)
    · have here := world.notes?_of_owner index owner found
      have more : Tally single (world.record index kind).2 index owner.socket _ _ :=
        tally.note kind (by simpa [listed, here, Task.leaving?] using free) rfl rfl
      refine more.perm ?_ (.refl _)
      simpa [List.filterMap_cons, Task.leaving?] using List.perm_middle.symm

theorem perform_register (kind : Kind) (observer : Nat)
    (kept : world.Kept single index socket (.register kind observer :: others) missed) :
    (world.register index kind observer).Kept single index socket others missed := by
  obtain ⟨record, noted, tally⟩ := kept
  obtain ⟨owner, found, rfl, rfl⟩ := (world.notes?_iff index socket record).mp noted
  refine ⟨owner.observers, ?_, ?_⟩
  · rw [World.register, found]
    exact noted
  · rw [World.register, found]
    exact tally.register (kind, observer)

theorem perform_strike (which : Kind → Bool)
    (kept : world.Kept single index socket (.strike which :: others) missed) :
    ((Task.strike which).perform index world).2.Kept single index socket
      (((Task.strike which).perform index world).1 ++ others) missed := by
  obtain ⟨record, noted, tally⟩ := kept
  obtain ⟨owner, found, rfl, rfl⟩ := (world.notes?_iff index socket record).mp noted
  simp only [Task.perform, strike, found]
  refine ⟨owner.observers.filter fun row => !which row.1, ?_, ?_⟩
  · have notes := world.notes?_observers_iff index (·.filter fun row => !which row.1) owner found
    exact (notes index _).mpr (.inr ⟨rfl, rfl⟩)
  · have leaving : ((owner.observers.filter fun row => which row.1).map fun row =>
        Task.remove row.1 row.2).filterMap Task.leaving? =
          owner.observers.filter fun row => which row.1 := by
      simp [List.filterMap_map, Function.comp_def, Task.leaving?]
    have entering : ((owner.observers.filter fun row => which row.1).map fun row =>
        Task.remove row.1 row.2).filterMap Task.entering? = [] := by
      simp [List.filterMap_map, Function.comp_def, Task.entering?]
    rw [List.filterMap_append, List.filterMap_append, leaving, entering, List.nil_append]
    have tally : Tally single world index owner.socket _ (others.filterMap Task.entering?) := tally
    refine Tally.of_same (tally.perm ?_ (.refl _)) rfl rfl
    -- what is struck from the record is as much listed as it was before
    have parts := List.filter_append_perm (fun row : Kind × Nat => which row.1) owner.observers
    have moved := (parts.symm.trans List.perm_append_comm).append_right
      (others.filterMap Task.leaving? ++ missed)
    simpa [List.filterMap_cons, Task.leaving?] using moved

theorem perform_remove (kind : Kind) (observer : Nat)
    (kept : world.Kept single index socket (.remove kind observer :: others) missed) :
    (world.unregister index [(kind, observer)]).Kept single index socket others
      ((Task.remove kind observer).missing index world ++ missed) := by
  obtain ⟨record, noted, tally⟩ := kept
  obtain ⟨owner, found, rfl, rfl⟩ := (world.notes?_iff index socket record).mp noted
  have first : (owner.observers ++ ((Task.remove kind observer :: others).filterMap Task.leaving? ++
      missed)).Perm ((kind, observer) :: (owner.observers ++
        (others.filterMap Task.leaving? ++ missed))) := by
    simp [Task.leaving?]
  have registered := Registry.contains_iff _ tally.sound owner.socket.descriptor kind observer
  have effect : world.unregister index [(kind, observer)] = world.onReactor fun reactor =>
      reactor.removeHandler owner.socket kind observer := by
    rw [World.unregister, found]
    rfl
  have tally : Tally single world index owner.socket _ (others.filterMap Task.entering?) :=
    tally.perm first (.refl _)
  refine ⟨owner.observers, by rw [effect]; exact noted, ?_⟩
  rw [effect]
  simp only [Task.missing, found, Option.any_some]
  cases there : world.reactor.registry.contains owner.socket.descriptor kind observer with
  | true => exact tally.remove (kind, observer) (registered.mp there)
  | false =>
    have absent : world.reactor.registry.find? owner.socket.descriptor kind observer = none := by
      simpa [Registry.contains] using there
    have same := Registry.remove_of_absent _ owner.socket kind observer absent
    refine Tally.of_same (tally.perm ?_ (.refl _)) ?_ rfl
    · have moved : (owner.observers ++ others.filterMap Task.leaving? ++
          (kind, observer) :: missed).Perm _ := List.perm_middle
      simpa using moved.symm
    · simp [Site.onReactor, Reactor.removeHandler, same]

/-- Whatever the next task of a thread is, the registrations still come to what they should. -/
theorem perform (task : Task) (kept : world.Kept single index socket (task :: others) missed)
    (free : single → ∀ kind, task = .note kind →
      kind ∉ (world.listed index others missed).map Prod.fst) :
    (task.perform index world).2.Kept single index socket ((task.perform index world).1 ++ others)
      (task.missing index world ++ missed) := by
  cases task with
  | enable kind =>
    simp only [Task.perform]
    cases world.owner? index with
    | none => exact kept.of_same rfl rfl rfl rfl rfl
    | some owner =>
      dsimp only
      refine kept.of_same rfl rfl rfl ?_ ?_ <;> split <;> rfl
  | note kind => exact perform_note kind kept fun apart => free apart kind rfl
  | register kind observer => exact perform_register kind observer kept
  | strike which => exact perform_strike which kept
  | remove kind observer => exact perform_remove kind observer kept
  | conclude failure? =>
    exact kept.of_same (notes?_changeOwner world index _ (attempt_spared _).socket
      (attempt_spared _).observers index) rfl rfl rfl rfl
  | review closing =>
    simp only [Task.perform]
    split
    all_goals refine kept.of_same rfl rfl rfl ?_ ?_ <;> split <;> rfl
  | drop =>
    simp only [Task.perform]
    split
    · exact kept.of_same (notes?_setHandler world index none index) rfl rfl rfl rfl
    · exact kept.of_same rfl rfl rfl rfl rfl

theorem elsewhere (kept : world.Kept single index socket tasks missed)
    (elsewhere : world.Elsewhere index after) :
    after.Kept single index socket tasks missed := by
  obtain ⟨record, noted, tally⟩ := kept
  refine ⟨record, ?_, tally.elsewhere elsewhere⟩
  rw [notes?, elsewhere.owner]
  exact noted

end Kept

end World

namespace Crew

def Kept (single : Prop) (crew : Crew η ν) (index : Nat) (socket : Handle) : Prop :=
  crew.world.Kept single index socket (crew.starter ++ crew.loop) crew.missed

def listed (crew : Crew η ν) (index : Nat) : List (Kind × Nat) :=
  crew.world.listed index (crew.starter ++ crew.loop) crew.missed

theorem listed_of_notes (crew : Crew η ν) (index : Nat) (socket : Handle)
    (record : List (Kind × Nat)) (noted : crew.world.notes? index = some (socket, record)) :
    crew.listed index =
      record ++ ((crew.starter ++ crew.loop).filterMap Task.leaving? ++ crew.missed) := by
  rw [listed, World.listed, noted]
  rfl

/-- A thread that is about to note an observer for a kind finds none listed for that kind. -/
def Orderly (crew : Crew η ν) (index : Nat) : Prop :=
  ∀ kind rest, crew.starter = .note kind :: rest ∨ crew.loop = .note kind :: rest →
    kind ∉ (crew.listed index).map Prod.fst

variable {single : Prop} {crew next : Crew η ν} {index : Nat} {socket : Handle}

/-- What is registered for an owner is what is listed and not still to come. -/
theorem Kept.mem_places (kept : crew.Kept single index socket)
    (place : Int × Kind × Nat) : place ∈ crew.world.places index ↔
      place.1 = socket.descriptor ∧ place.2 ∈ crew.listed index ∧
        place.2 ∉ (crew.starter ++ crew.loop).filterMap Task.entering? := by
  obtain ⟨record, noted, tally⟩ := kept
  rw [World.places, List.mem_filter, beq_iff_eq, listed_of_notes crew index socket record noted]
  constructor
  · rintro ⟨there, made⟩
    exact (tally.registered place made).mp there
  · rintro ⟨home, inside, outside⟩
    have made := tally.made place.2 inside
    exact ⟨(tally.registered place made).mpr ⟨home, inside, outside⟩, made⟩

/-- Where neither thread is about to register or to remove anything, nothing is registered exactly
if the record is bare and no removal was missed. -/
theorem Kept.places_eq_nil (kept : crew.Kept single index socket)
    (entering : (crew.starter ++ crew.loop).filterMap Task.entering? = [])
    (leaving : (crew.starter ++ crew.loop).filterMap Task.leaving? = []) :
    crew.world.places index = [] ↔ crew.Bare index ∧ crew.missed = [] := by
  have all : crew.world.places index = [] ↔ crew.listed index = [] := by
    simp only [List.eq_nil_iff_forall_not_mem, kept.mem_places, entering]
    constructor
    · intro none row member
      exact none (socket.descriptor, row) ⟨rfl, member, by simp⟩
    · rintro none place ⟨-, member, -⟩
      exact none place.2 member
  obtain ⟨record, noted, -⟩ := kept
  have bare : crew.Bare index ↔ record = [] := by
    constructor
    · exact fun bare => bare _ noted
    · intro bare notes there
      obtain rfl := Option.some.inj (noted.symm.trans there)
      exact bare
  rw [all, listed_of_notes crew index socket record noted, leaving, bare, List.nil_append,
    List.append_eq_nil_iff]

theorem Step.kept (step : Step index crew next) (kept : crew.Kept single index socket)
    (orderly : single → crew.Orderly index) : next.Kept single index socket := by
  have quiet : ∀ tasks : List Task, tasks.filterMap Task.leaving? = [] →
      tasks.filterMap Task.entering? = [] →
      crew.world.Kept single index socket (crew.starter ++ (tasks ++ crew.loop)) crew.missed := by
    intro tasks leaving entering
    refine kept.of_same rfl rfl rfl ?_ ?_ <;> simp [leaving, entering]
  cases step with
  | @starter task rest turn =>
    have kept : crew.world.Kept single index socket (task :: (rest ++ crew.loop)) crew.missed := by
      rw [← List.cons_append, ← turn]
      exact kept
    show World.Kept single _ index socket ((task.perform index crew.world).1 ++ rest ++ crew.loop) _
    rw [List.append_assoc]
    refine kept.perform task ?_
    rintro apart kind rfl
    have free := orderly apart kind rest (.inl turn)
    rw [listed, turn] at free
    exact free
  | @loop task rest turn =>
    have kept : crew.world.Kept single index socket (task :: (crew.starter ++ rest))
        crew.missed := by
      refine World.Kept.perm ?_ List.perm_middle
      rw [← turn]
      exact kept
    have moved : ((task.perform index crew.world).1 ++ crew.starter).Perm
        (crew.starter ++ (task.perform index crew.world).1) := List.perm_append_comm
    have done := kept.perform task ?_
    · refine done.perm ?_
      simpa [loopDoes] using moved.append_right rest
    · rintro apart kind rfl
      have free := orderly apart kind rest (.inr turn)
      rw [listed, turn, World.listed, List.filterMap_append] at free
      rw [World.listed, List.filterMap_append]
      exact free
  | resolve free called found connecting failure? => exact quiet [_, _] rfl rfl
  | serve free listens serving handler requests failed =>
    have silent := quiet (settling requests failed) ?_ ?_
    · rw [free, List.append_nil] at silent
      exact silent.of_same (World.notes?_setHandler crew.world index (some handler) index) rfl rfl
        rfl rfl
    · simp [settling, List.filterMap_map, Function.comp_def, Task.leaving?]
    · simp [settling, List.filterMap_map, Function.comp_def, Task.entering?]
  | elsewhere elsewhere => exact World.Kept.elsewhere kept elsewhere

theorem Steps.kept (steps : Steps index crew next) (kept : crew.Kept False index socket) :
    next.Kept False index socket := by
  induction steps with
  | refl => exact kept
  | tail _ step ih => exact step.kept ih False.elim

end Crew

namespace World

/-- What an owner finds that is new: no observer is of its making. -/
structure Tidy (world : World η ν) : Prop where
  sound : world.reactor.registry.Sound
  known : ∀ place ∈ world.reactor.registry.targets, place.2.2 < world.outside.makers.length
  unmade : ∀ observer, world.maker? observer ≠ some world.outside.owners.length

theorem Ledger.tidy {world : World η ν} (ledger : world.Ledger) : world.Tidy where
  sound := ledger.sound
  known := ledger.known
  unmade observer made := absurd (ledger.owned observer _ made) (Nat.lt_irrefl _)

theorem Tidy.kept {single : Prop} {world after : World η ν} (tidy : world.Tidy) (socket : Handle)
    (noted : after.notes? world.outside.owners.length = some (socket, []))
    (registry : after.reactor.registry = world.reactor.registry)
    (makers : after.outside.makers = world.outside.makers) {tasks : List Task}
    (leaving : tasks.filterMap Task.leaving? = [])
    (entering : tasks.filterMap Task.entering? = []) :
    after.Kept single world.outside.owners.length socket tasks [] := by
  have tally : Tally single world world.outside.owners.length socket [] [] :=
    ⟨tidy.sound, tidy.known, .nil, fun _ => .nil, .nil, by simp, by simp,
      fun place made => absurd made (tidy.unmade _)⟩
  refine ⟨[], noted, ?_⟩
  rw [leaving, entering]
  exact tally.of_same registry makers

end World

end SocketLoop
