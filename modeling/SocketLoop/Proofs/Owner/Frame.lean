import SocketLoop.Owner.Run

/-! Relations between worlds that the steps of owners stay within. Where single steps on records, on
the registry and on roles stay within a relation, and where user code does, so does all that owners
do with them. -/
namespace SocketLoop

variable {η ν : Type}

namespace World

/-- A relation that single steps of owners stay within. The attempts of some owners only may
change, and it may be that no owner may be added. -/
structure Covers (free : Nat → Prop) (grows : Prop) (within : World η ν → World η ν → Prop) :
    Prop where
  refl : ∀ world, within world world
  trans : ∀ {before between after}, within before between → within between after →
    within before after
  addHandler : ∀ world socket kind observer,
    within world (world.onReactor fun reactor => reactor.addHandler socket kind observer)
  removeHandler : ∀ world socket kind observer,
    within world (world.onReactor fun reactor => reactor.removeHandler socket kind observer)
  newObserver : ∀ world maker, within world (world.newObserver maker).2
  observers : ∀ world owner (change : List (Kind × Nat) → List (Kind × Nat)),
    within world (world.changeOwner owner fun value =>
      { value with observers := change value.observers })
  addOwner : grows → ∀ world owner, within world (world.addOwner owner).2
  setHandler : ∀ world owner handler, within world (world.setHandler owner handler)
  changeAcceptor : ∀ world owner change, within world (world.changeAcceptor owner change)
  changeAttempt : ∀ world owner change, free owner →
    within world (world.changeAttempt owner change)
  done : ∀ world deed, (∀ owner errno, deed = .told owner errno → free owner) →
    within world (world.done deed)

namespace Covers

variable {free : Nat → Prop} {grows : Prop} {within : World η ν → World η ν → Prop}
  (covers : Covers free grows within) (world : World η ν) (owner : Nat)

include covers

theorem foldl {α : Type} (step : World η ν → α → World η ν)
    (stays : ∀ world item, within world (step world item)) (items : List α) :
    within world (items.foldl step world) := by
  induction items generalizing world with
  | nil => exact covers.refl world
  | cons item rest ih => exact covers.trans (stays world item) (ih _)

theorem register (kind : Kind) (observer : Nat) :
    within world (world.register owner kind observer) := by
  unfold World.register
  split
  · exact covers.refl world
  · exact covers.addHandler world _ kind observer

theorem enlist (kind : Kind) : within world (world.enlist owner kind) := by
  unfold World.enlist
  split
  · have recorded : within world (world.record owner kind).2 :=
      covers.trans (covers.newObserver world (some owner)) (covers.observers _ owner
        fun observers => observers ++ [(kind, (world.newObserver (some owner)).1)])
    exact covers.trans recorded (covers.register _ owner kind _)
  · exact covers.refl world

theorem unregister (struck : List (Kind × Nat)) :
    within world (world.unregister owner struck) := by
  unfold World.unregister
  split
  · exact covers.refl world
  · exact covers.foldl world _ (fun world row => covers.removeHandler world _ row.1 row.2) struck

theorem withdraw (which : Kind → Bool) : within world (world.withdraw owner which) := by
  have struck : within world (world.strike owner which).2 := by
    unfold strike
    split
    · exact covers.refl world
    · exact covers.observers world owner fun observers => observers.filter fun row => !which row.1
  exact covers.trans struck (covers.unregister _ owner _)

theorem withdrawAll : within world (world.withdrawAll owner) :=
  covers.withdraw world owner _

theorem enable (kind : Kind) : within world (world.enable owner kind) := by
  unfold World.enable
  split
  · exact covers.refl world
  · split
    · exact covers.refl world
    · exact covers.enlist world owner kind

end Covers

end World

structure UserCode.Within (user : UserCode η ν) (within : World η ν → World η ν → Prop) :
    Prop where
  observer : ∀ observer notification world,
    within world (user.observer observer notification world).2
  handler : ∀ owner handler notification world,
    within world (user.handler owner handler notification world).2.2
  dropped : ∀ handler socket world, within world (user.dropped handler socket world)
  factory : ∀ owner socket world, within world (user.factory owner socket world).2
  onFailure : ∀ owner failure world, within world (user.onFailure owner failure world).2
  takeError : ∀ socket world, within world (user.takeError socket world).2
  accept : ∀ owner socket world, within world (user.accept owner socket world).2
  poll : ∀ asked world, within world (user.poll asked world).2
  rest : ∀ world, within world (user.rest world)

theorem UserCode.Within.imp {user : UserCode η ν} {first second : World η ν → World η ν → Prop}
    (stays : user.Within first) (wider : ∀ before after, first before after → second before after) :
    user.Within second where
  observer _ _ _ := wider _ _ (stays.observer _ _ _)
  handler _ _ _ _ := wider _ _ (stays.handler _ _ _ _)
  dropped _ _ _ := wider _ _ (stays.dropped _ _ _)
  factory _ _ _ := wider _ _ (stays.factory _ _ _)
  onFailure _ _ _ := wider _ _ (stays.onFailure _ _ _)
  takeError _ _ := wider _ _ (stays.takeError _ _)
  accept _ _ _ := wider _ _ (stays.accept _ _ _)
  poll _ _ := wider _ _ (stays.poll _ _)
  rest _ := wider _ _ (stays.rest _)

def UserCode.idle : UserCode Unit ν where
  observer _ _ world := (.returned, world)
  handler _ _ _ world := (.returned {} false, (), world)
  interests _ := KindSet.ofList [.readable]
  dropped _ _ world := world
  factory _ _ world := (.built (), world)
  onFailure _ _ world := (.returned, world)
  takeError _ world := (.ok none, world)
  accept _ _ world := (.nothing, world)
  setUp _ _ world := (.ok {}, world)
  connect _ _ world := (.ok ⟨3, 0⟩, world)
  poll _ world := (.interrupted, world)
  rest world := world

theorem UserCode.idle_within {within : World Unit ν → World Unit ν → Prop}
    (refl : ∀ world, within world world) : UserCode.idle.Within within where
  observer _ _ world := refl world
  handler _ _ _ world := refl world
  dropped _ _ world := refl world
  factory _ _ world := refl world
  onFailure _ _ world := refl world
  takeError _ world := refl world
  accept _ _ world := refl world
  poll _ world := refl world
  rest world := refl world

namespace World.Covers

variable {free : Nat → Prop} {grows : Prop} {within : World η ν → World η ν → Prop}
  (covers : Covers free grows within) {user : UserCode η ν} (stays : user.Within within)
  (world : World η ν) (owner : Nat)

include covers stays

theorem dropHandler : within world (dropHandler user world owner) := by
  unfold World.dropHandler
  split
  · exact covers.refl world
  · split
    · exact covers.refl world
    · have dropped := covers.trans (covers.setHandler world owner none)
        (covers.done _ (.dropped owner) (by simp))
      exact covers.trans dropped (stays.dropped _ _ _)

theorem closeService : within world (closeService user world owner) :=
  covers.trans (covers.withdrawAll world owner) (covers.dropHandler stays _ owner)

theorem settle (requests : Requests) (failed : Bool) :
    within world (settle user world owner requests failed) := by
  have settled := covers.trans
    (covers.foldl world (fun world kind => disable world owner kind)
      (fun world kind => covers.withdraw world owner _) requests.disable.toList)
    (covers.foldl _ (fun world kind => World.enable world owner kind)
      (fun world kind => covers.enable world owner kind) requests.enable.toList)
  refine covers.trans settled ?_
  simp only [World.settle]
  generalize List.foldl _ _ requests.enable.toList = settled
  have closed : ∀ ended : Bool,
      within settled (if ended then World.closeService user settled owner else settled) := by
    intro ended
    cases ended with
    | false => exact covers.refl settled
    | true => exact covers.closeService stays settled owner
  exact closed _

theorem serve (notification : Notification) :
    within world (serve user owner notification world).2 := by
  unfold World.serve
  split
  · exact covers.refl world
  · rename_i handler _
    have handled := covers.trans (covers.done world (.handled owner) (by simp))
      (stays.handler owner handler notification _)
    split <;> rename_i result <;> rw [result] at handled
    · exact covers.trans handled (covers.setHandler _ owner _)
    · exact covers.trans (covers.trans handled (covers.setHandler _ owner _))
        (covers.settle stays _ owner _ _)

/-- What comes of a service once it is added. -/
theorem attach_of_added (socket : Handle) (handler : η) :
    within (world.addOwner { socket, role := .service (some handler) }).2
      (attach user socket handler world) := by
  simp only [World.attach]
  split
  · exact covers.dropHandler stays _ _
  · exact covers.foldl _ _ (fun world kind => covers.enable world _ kind) _

section

variable (more : grows)

include more

theorem attach (socket : Handle) (handler : η) :
    within world (attach user socket handler world) :=
  covers.trans (covers.addOwner more world _) (covers.attach_of_added stays world socket handler)

theorem takeConnection : within world (takeConnection user owner world).2 := by
  unfold World.takeConnection
  split
  · rename_i value acceptor _ _
    split
    · exact covers.refl world
    · have accepted := stays.accept owner value.socket world
      split <;> rename_i result <;> rw [result] at accepted
      · exact accepted
      · rename_i socket _
        have counted := covers.trans (covers.trans accepted
            (covers.done _ (.accepted owner socket) (by simp)))
          (covers.changeAcceptor _ owner fun acceptor =>
            { acceptor with accepted := acceptor.accepted + 1 })
        have built := covers.trans (covers.trans counted
          (covers.done _ (.built owner socket) (by simp))) (stays.factory owner socket _)
        dsimp only
        split <;> rename_i made <;> rw [made] at built
        · exact built
        · exact built
        · exact covers.trans built (covers.attach stays _ more socket _)
  · exact covers.refl world

end

variable (may : free owner)

include may

theorem failAttempt (failure : Failure) :
    within world (failAttempt user owner failure world).2 := by
  have failed := covers.changeAttempt world owner (fun attempt => { attempt with
    state := .failed, errno := failure.errno?, onFailure := false }) may
  simp only [World.failAttempt]
  split
  · have told := covers.trans failed (covers.done _ (.told owner failure.errno?) (by simpa))
    exact covers.trans told (stays.onFailure owner failure _)
  · exact failed

theorem abort : within world (abort user owner world).2 := by
  unfold World.abort
  split
  · have withdrawn := covers.withdrawAll world owner
    dsimp only
    split
    · have taken := covers.trans withdrawn (covers.changeAttempt _ owner
        (fun attempt => { attempt with factory := false }) may)
      exact covers.trans taken (covers.failAttempt stays _ owner may _)
    · exact withdrawn
  · exact covers.refl world

variable (more : grows)

include more

theorem complete (socket : Handle) (factory : Bool) :
    within world (complete user owner socket factory world).2 := by
  have connected := fun world : World η ν => covers.changeAttempt world owner
    (fun attempt => { attempt with state := .connected, errno := none }) may
  cases factory with
  | false => exact connected world
  | true =>
    have built := covers.trans (covers.done world (.built owner socket) (by simp))
      (stays.factory owner socket _)
    simp only [World.complete, if_true]
    split <;> rename_i result <;> rw [result] at built
    · exact built
    · exact covers.trans built (covers.failAttempt stays _ owner may _)
    · exact covers.trans (covers.trans built (covers.attach stays _ more socket _)) (connected _)

theorem resolve (notification : Notification) :
    within world (resolve user owner notification world).2 := by
  unfold World.resolve
  split
  · rename_i value attempt _ _
    split
    · have read := covers.trans (stays.takeError value.socket world) (covers.withdrawAll _ owner)
      have taken := covers.trans read (covers.changeAttempt _ owner
        (fun attempt => { attempt with factory := false }) may)
      dsimp only
      split
      · exact covers.trans taken (covers.failAttempt stays _ owner may _)
      · exact covers.trans taken (covers.complete stays _ owner may more value.socket _)
    · exact covers.refl world
  · exact covers.refl world

omit may

/-- A notification stays within the relation, unless it is for an attempt that may not change. -/
theorem notify (observer : Nat) (notification : Notification)
    (may : ∀ owner, world.maker? observer = some owner →
      (∃ attempt, world.attempt? owner = some attempt) → free owner) :
    within world (notify user observer notification world).2 := by
  unfold World.notify
  split
  · exact stays.observer observer notification world
  · rename_i owner made
    unfold notifyOwner
    split
    · exact covers.refl world
    · exact covers.serve stays world owner notification
    · rename_i attempt role
      refine covers.resolve stays world owner (may owner made ⟨attempt, ?_⟩) more notification
      obtain ⟨value, found, role⟩ := Option.map_eq_some_iff.mp role
      simp [attempt?, found, Owner.attempt?, role]
    · exact covers.takeConnection stays world owner more

end World.Covers

end SocketLoop
