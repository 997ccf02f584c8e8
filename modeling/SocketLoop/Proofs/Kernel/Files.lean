import SocketLoop.Kernel.Name

/-! Open files, one change at a time. A socket that listens or connects has the options it was given,
and closing what nobody keeps opens, binds and connects nothing. -/
namespace SocketLoop.Kernel

variable (kernel : Kernel) (descriptor other : Nat)

theorem lt_of_open (opened : kernel.file descriptor ≠ .closed) :
    descriptor < kernel.files.length := by
  refine Nat.lt_of_not_le fun beyond => opened ?_
  rw [file, List.getElem?_eq_none beyond, Option.getD_none]

theorem file_put_self (file : File) (inside : descriptor < kernel.files.length) :
    (kernel.put descriptor file).file descriptor = file := by
  simp [Kernel.file, put, inside]

theorem file_put_ne (file : File) (apart : other ≠ descriptor) :
    (kernel.put descriptor file).file other = kernel.file other := by
  simp [Kernel.file, put, Ne.symm apart]

theorem file_put_closed : (kernel.put descriptor .closed).file other =
    if other = descriptor then .closed else kernel.file other := by
  by_cases same : other = descriptor
  · subst same
    rw [if_pos rfl]
    by_cases inside : other < kernel.files.length
    · exact kernel.file_put_self other .closed inside
    · simp [file, put, inside]
  · rw [if_neg same, kernel.file_put_ne descriptor other .closed same]

theorem file_changeStream_self (change : StreamEnd → StreamEnd) (stream : StreamEnd)
    (found : kernel.file descriptor = .stream stream) :
    (kernel.changeStream descriptor change).file descriptor = .stream (change stream) := by
  rw [changeStream, found]
  exact kernel.file_put_self descriptor _ (kernel.lt_of_open descriptor (by simp [found]))

theorem file_changeStream_ne (change : StreamEnd → StreamEnd) (apart : other ≠ descriptor) :
    (kernel.changeStream descriptor change).file other = kernel.file other := by
  rw [changeStream]
  split
  · exact kernel.file_put_ne descriptor other _ apart
  · rfl

theorem insert_free (file : File) : kernel.file (kernel.insert file).1 = .closed := by
  simp only [insert, Kernel.file]
  by_cases inside : kernel.files.findIdx (fun other => other = .closed) < kernel.files.length
  · have free := List.findIdx_getElem (w := inside)
    rw [List.getElem?_eq_getElem inside, Option.getD_some]
    simpa using free
  · rw [List.getElem?_eq_none (Nat.le_of_not_lt inside), Option.getD_none]

theorem file_insert_self (file : File) :
    (kernel.insert file).2.file (kernel.insert file).1 = file := by
  simp only [insert]
  split
  · rename_i inside
    exact kernel.file_put_self _ file inside
  · rename_i full
    have last : kernel.files.findIdx (fun other => other = .closed) = kernel.files.length :=
      Nat.le_antisymm List.findIdx_le_length (Nat.le_of_not_lt full)
    simp [Kernel.file, last]

theorem file_insert_ne (file : File) (apart : other ≠ (kernel.insert file).1) :
    (kernel.insert file).2.file other = kernel.file other := by
  simp only [insert] at apart ⊢
  split
  · exact kernel.file_put_ne _ other file apart
  · rename_i full
    have last : kernel.files.findIdx (fun other => other = .closed) = kernel.files.length :=
      Nat.le_antisymm List.findIdx_le_length (Nat.le_of_not_lt full)
    rw [last] at apart
    simp only [Kernel.file, List.getElem?_append, List.getElem?_singleton]
    split
    · rfl
    · rw [if_neg (by omega), List.getElem?_eq_none (by omega)]

private theorem ok_of_map_ok {ε α β : Type} {change : α → β} {result : Except ε α} {value : β}
    (mapped : result.map change = .ok value) : ∃ found, result = .ok found ∧ change found = value := by
  cases result with
  | error fault => cases mapped
  | ok found => exact ⟨found, rfl, Except.ok.inj mapped⟩

theorem file_of_listenerOf? (address : Address) (listening : Listening)
    (found : kernel.listenerOf? address = some (descriptor, listening)) :
    kernel.file descriptor = .listener listening := by
  obtain ⟨⟨file, place⟩, member, told⟩ := List.exists_of_findSome?_eq_some found
  have stands := List.mem_zipIdx_iff_getElem?.mp member
  cases file with
  | listener other =>
    simp only [Option.ite_none_right_eq_some, Option.some.injEq, Prod.mk.injEq] at told
    obtain ⟨-, rfl, rfl⟩ := told
    simp [Kernel.file, stands]
  | _ => cases told

/-- A socket that joins the queue of a listener keeps the options that it had. -/
theorem join_options (options : SocketOptions) (listening : Listening)
    (listens : kernel.file descriptor = .listener listening) :
    (kernel.join options descriptor listening).2.optionsOf
      (kernel.join options descriptor listening).1 = options := by
  let near := (kernel.insert (.stream {})).1
  let first := (kernel.insert (.stream {})).2
  let far := (first.insert (.stream { peer := some near })).1
  let second := (first.insert (.stream { peer := some near })).2
  have free : kernel.file near = .closed := kernel.insert_free _
  have begun : first.file near = .stream {} := kernel.file_insert_self _
  have apart : near ≠ far := by
    intro same
    have closed := first.insert_free (.stream { peer := some near })
    rw [← show far = (first.insert (.stream { peer := some near })).1 from rfl, ← same, begun]
      at closed
    cases closed
  have elsewhere : near ≠ descriptor := by
    intro same
    rw [same, listens] at free
    cases free
  have kept : second.file near = .stream {} :=
    (first.file_insert_ne near _ apart).trans begun
  have paired := second.file_changeStream_self near
    (fun stream => { stream with peer := some far }) {} kept
  have given := file_changeStream_self _ near (fun stream => { stream with options }) _ paired
  have spared := (file_changeStream_ne _ far near
    (fun stream => { stream with waiting := true }) apart).trans given
  have last := (file_put_ne _ descriptor near
    (.listener { listening with queue := listening.queue ++ [far] }) elsewhere).trans spared
  simp only [join, pair, optionsOf]
  rw [last]

/-- A socket that was connected has the options that it was given before. -/
theorem connect_options (options : SocketOptions) (address : Address) (after : Kernel)
    (connected : kernel.connect options address = .ok (descriptor, after)) :
    after.optionsOf descriptor = options := by
  cases address with
  | unix asked =>
    simp only [connect] at connected
    split at connected
    · cases connected
    · split at connected
      · cases connected
      · cases connected
      · rename_i place listening looked
        split at connected
        · obtain ⟨name, -, found⟩ := ok_of_map_ok looked
          have joined := kernel.join_options place options listening
            (kernel.file_of_listenerOf? place _ listening found)
          rwa [Except.ok.inj connected] at joined
        · cases connected
  | v4 host | v6 host => cases connected

theorem listen_options (options : SocketOptions) (address bound : Address) (backlog : Int)
    (after : Kernel) (listens : kernel.listen options address backlog =
      .ok (descriptor, bound, after)) : after.optionsOf descriptor = options := by
  simp only [listen] at listens
  split at listens
  · cases listens
  · obtain ⟨⟩ := listens
    rw [optionsOf, file_insert_self]

/-- A file was left alone, or it was closed, or the other end of its connection was. -/
def Fades (before after : File) : Prop :=
  after = before ∨ after = .closed ∨
    ∃ near lonely, before = .stream near ∧ after = .stream lonely ∧ lonely.peer = none

/-- Nothing was opened, bound or connected: names and ports are used as before, and files at most
fade. -/
structure Wanes (before after : Kernel) : Prop where
  places : after.places = before.places
  nextPort : after.nextPort = before.nextPort
  limit : after.limit = before.limit
  files : ∀ descriptor, Fades (before.file descriptor) (after.file descriptor)

theorem Fades.trans {before between after : File} (first : Fades before between)
    (second : Fades between after) : Fades before after := by
  rcases first with rfl | rfl | ⟨near, lonely, rfl, rfl, parted⟩
  · exact second
  · rcases second with rfl | rfl | ⟨_, _, closed, -⟩
    · exact .inr (.inl rfl)
    · exact .inr (.inl rfl)
    · cases closed
  · rcases second with rfl | rfl | ⟨other, last, -, rfl, alone⟩
    · exact .inr (.inr ⟨near, lonely, rfl, rfl, parted⟩)
    · exact .inr (.inl rfl)
    · exact .inr (.inr ⟨near, last, rfl, rfl, alone⟩)

namespace Wanes

theorem refl (kernel : Kernel) : Wanes kernel kernel := ⟨rfl, rfl, rfl, fun _ => .inl rfl⟩

theorem trans {before between after : Kernel} (first : Wanes before between)
    (second : Wanes between after) : Wanes before after where
  places := second.places.trans first.places
  nextPort := second.nextPort.trans first.nextPort
  limit := second.limit.trans first.limit
  files descriptor := (first.files descriptor).trans (second.files descriptor)

theorem foldl {α : Type} (step : Kernel → α → Kernel)
    (wanes : ∀ kernel item, Wanes kernel (step kernel item)) (items : List α) (kernel : Kernel) :
    Wanes kernel (items.foldl step kernel) := by
  induction items generalizing kernel with
  | nil => exact .refl kernel
  | cons item rest ih => exact (wanes kernel item).trans (ih _)

end Wanes

theorem put_closed_wanes : Wanes kernel (kernel.put descriptor .closed) := by
  refine ⟨rfl, rfl, rfl, fun other => ?_⟩
  rw [file_put_closed]
  split
  · exact .inr (.inl rfl)
  · exact .inl rfl

theorem changeStream_wanes (change : StreamEnd → StreamEnd)
    (parts : ∀ stream, (change stream).peer = none) :
    Wanes kernel (kernel.changeStream descriptor change) := by
  cases found : kernel.file descriptor with
  | stream stream =>
    refine ⟨?_, ?_, ?_, fun other => ?_⟩
    · simp [changeStream, found, put]
    · simp [changeStream, found, put]
    · simp [changeStream, found, put]
    · by_cases same : other = descriptor
      · subst same
        rw [kernel.file_changeStream_self other change stream found, found]
        exact .inr (.inr ⟨stream, change stream, rfl, rfl, parts stream⟩)
      · exact .inl (kernel.file_changeStream_ne descriptor other change same)
  | _ =>
    rw [changeStream, found]
    exact .refl kernel

theorem closeStream_wanes (stream : StreamEnd) :
    Wanes kernel (kernel.closeStream descriptor stream) := by
  rw [closeStream]
  have closed := kernel.put_closed_wanes descriptor
  cases stream.peer with
  | none => exact closed
  | some peer => exact closed.trans (changeStream_wanes _ peer _ fun _ => rfl)

theorem close_wanes : Wanes kernel (kernel.close descriptor) := by
  rw [close]
  split
  · exact kernel.closeStream_wanes descriptor _
  · refine (kernel.put_closed_wanes descriptor).trans (.foldl _ (fun kernel waiting => ?_) _ _)
    split
    · exact kernel.closeStream_wanes waiting _
    · exact .refl kernel
  · exact kernel.put_closed_wanes descriptor

/-- Closing what nobody keeps opens nothing. -/
theorem sweep_wanes (kept : List Int) : Wanes kernel (kernel.sweep kept) := by
  refine .foldl _ (fun kernel descriptor => ?_) _ _
  split
  · exact .refl kernel
  · exact kernel.close_wanes descriptor

end SocketLoop.Kernel
