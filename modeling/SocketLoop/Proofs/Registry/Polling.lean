import Mathlib.Data.List.Induction
import SocketLoop.Proofs.Registry.History

/-! Which sockets a poll is asked about, read off the history of a registry. A report that nobody
could deal with puts a socket out of polling; a registration that was not there before brings it
back, and nothing else does. -/
namespace SocketLoop

/-- The kinds that make a socket worth polling. -/
def Kind.polled : List Kind := [.readable, .writable, .error, .timeout]

namespace Registry

/-- A report finds a socket invalid, or hung up with nobody there to read that. -/
def Silences (registry : Registry) (descriptor : Int) : Change → Prop
  | .report socket readiness => socket.descriptor = descriptor ∧
      (readiness.invalid = true ∨
        readiness.hangUp = true ∧ registry.observes descriptor .readable = false)
  | _ => False

/-- A registration is made on a socket that was not there. -/
def Renews (registry : Registry) (descriptor : Int) : Change → Prop
  | .add socket kind observer => socket.descriptor = descriptor ∧
      registry.contains descriptor kind observer = false
  | _ => False

def Renewed (registry : Registry) (descriptor : Int) (changes : List Change) : Prop :=
  ∃ earlier change later, changes = earlier ++ change :: later ∧
    (registry.changeAll earlier).Renews descriptor change

/-- Since the last registration on a socket a report has silenced it. -/
def Shunned (history : List Change) (descriptor : Int) : Prop :=
  ∃ before report after, history = before ++ report :: after ∧
    (replay before).Silences descriptor report ∧
    ¬((replay before).change report).Renewed descriptor after

theorem renewed_concat (registry : Registry) (descriptor : Int) (changes : List Change)
    (change : Change) : registry.Renewed descriptor (changes ++ [change]) ↔
      registry.Renewed descriptor changes ∨
        (registry.changeAll changes).Renews descriptor change := by
  constructor
  · rintro ⟨earlier, renewal, later, split, renews⟩
    rcases List.eq_nil_or_concat later with rfl | ⟨rest, last, rfl⟩
    · obtain ⟨rfl, rfl⟩ : changes = earlier ∧ change = renewal := by simpa using split
      exact .inr renews
    · rw [List.concat_eq_append, ← List.cons_append, ← List.append_assoc] at split
      obtain ⟨rfl, -⟩ := List.append_inj' split rfl
      exact .inl ⟨earlier, renewal, rest, rfl, renews⟩
  · rintro (⟨earlier, renewal, later, rfl, renews⟩ | renews)
    · exact ⟨earlier, renewal, later ++ [change], by simp, renews⟩
    · exact ⟨changes, change, [], rfl, renews⟩

theorem not_renews_of_silences (registry : Registry) (descriptor : Int) (change : Change)
    (silences : registry.Silences descriptor change) : ¬registry.Renews descriptor change := by
  cases change with
  | report socket readiness => exact id
  | add socket kind observer => exact silences.elim
  | remove socket kind observer => exact id

theorem shunned_concat (history : List Change) (change : Change) (descriptor : Int) :
    Shunned (history ++ [change]) descriptor ↔
      Shunned history descriptor ∧ ¬(replay history).Renews descriptor change ∨
        (replay history).Silences descriptor change := by
  constructor
  · rintro ⟨before, report, after, split, silences, still⟩
    rcases List.eq_nil_or_concat after with rfl | ⟨rest, last, rfl⟩
    · obtain ⟨rfl, rfl⟩ : history = before ∧ change = report := by simpa using split
      exact .inr silences
    · rw [List.concat_eq_append] at split still
      rw [← List.cons_append, ← List.append_assoc] at split
      obtain ⟨rfl, one⟩ := List.append_inj' split rfl
      obtain rfl : change = last := by simpa using one
      rw [renewed_concat, not_or] at still
      refine .inl ⟨⟨before, report, rest, rfl, silences, still.1⟩, ?_⟩
      rw [replay_append, changeAll_cons]
      exact still.2
  · rintro (⟨⟨before, report, after, rfl, silences, still⟩, same⟩ | silences)
    · refine ⟨before, report, after ++ [change], by simp, silences, ?_⟩
      rw [renewed_concat, not_or]
      rw [replay_append, changeAll_cons] at same
      exact ⟨still, same⟩
    · refine ⟨history, change, [], rfl, silences, ?_⟩
      rintro ⟨earlier, renewal, later, split, -⟩
      simp at split

theorem mem_add_entries (registry : Registry) (sound : registry.Sound) (socket : Handle)
    (kind : Kind) (observer : Nat)
    (absent : registry.contains socket.descriptor kind observer = false) (entry : SocketEntry)
    (known : entry ∈ (registry.add socket kind observer).2.entries) :
    entry.socket.descriptor = socket.descriptor ∧ entry.muted = false ∨
      entry.socket.descriptor ≠ socket.descriptor ∧ entry ∈ registry.entries := by
  have distinct := (add_sound registry sound socket kind observer).descriptors
  obtain ⟨next, added, shape⟩ := add_cases registry sound.descriptors socket kind observer absent
  rw [added] at known distinct
  by_cases same : entry.socket.descriptor = socket.descriptor
  · refine .inl ⟨same, ?_⟩
    rcases shape with ⟨-, rfl⟩ | ⟨old, before, after, split, own, rfl⟩
    · rw [List.inj_on_of_nodup_map distinct known (List.mem_append_right _ List.mem_cons_self) same]
    · rw [List.inj_on_of_nodup_map distinct known (List.mem_append_right _ List.mem_cons_self)
        (same.trans own.symm)]
  · refine .inr ⟨same, ?_⟩
    rcases shape with ⟨-, rfl⟩ | ⟨old, before, after, split, own, rfl⟩
    · rcases List.mem_append.mp known with there | new
      · exact there
      · exact absurd (congrArg (fun entry => entry.socket.descriptor) (List.mem_singleton.mp new))
          same
    · rw [split]
      rcases List.mem_append.mp known with there | rest
      · exact List.mem_append_left _ there
      · rcases List.mem_cons.mp rest with rfl | there
        · exact absurd own same
        · exact List.mem_append_right _ (List.mem_cons_of_mem _ there)

theorem mem_remove_entries (registry : Registry) (sound : registry.Sound) (socket : Handle)
    (kind : Kind) (observer : Nat) (entry : SocketEntry)
    (known : entry ∈ (registry.remove socket kind observer).2.entries) :
    ∃ old ∈ registry.entries, old.socket = entry.socket ∧ old.muted = entry.muted := by
  cases found : registry.find? socket.descriptor kind observer with
  | none =>
    rw [remove_of_absent registry socket kind observer found] at known
    exact ⟨entry, known, rfl, rfl⟩
  | some registration =>
    obtain ⟨next, removed, old, before, after, left, right, split, same, listed, rfl⟩ :=
      remove_cases registry sound.descriptors socket kind observer registration found
    rw [removed] at known
    rw [split]
    rcases List.mem_append.mp (List.mem_filter.mp known).1 with there | rest
    · exact ⟨entry, List.mem_append_left _ there, rfl, rfl⟩
    · rcases List.mem_cons.mp rest with rfl | there
      · exact ⟨old, List.mem_append_right _ List.mem_cons_self, rfl, rfl⟩
      · exact ⟨entry, List.mem_append_right _ (List.mem_cons_of_mem _ there), rfl, rfl⟩

theorem observes_of_known (registry : Registry) (sound : registry.Sound) (entry : SocketEntry)
    (known : entry ∈ registry.entries) (kind : Kind) :
    registry.observes entry.socket.descriptor kind = entry.observes kind := by
  rw [observes, (known_iff registry sound.descriptors _ _).mpr ⟨known, rfl⟩, Option.any_some]

/-- What one change does to the muting of a socket that is known after it. -/
theorem change_muted (registry : Registry) (sound : registry.Sound) (change : Change)
    (entry : SocketEntry) (known : entry ∈ (registry.change change).entries) :
    registry.Renews entry.socket.descriptor change ∧ entry.muted = false ∨
      ¬registry.Renews entry.socket.descriptor change ∧ ∃ old ∈ registry.entries,
        old.socket = entry.socket ∧ (entry.muted = true ↔
          old.muted = true ∨ registry.Silences entry.socket.descriptor change) := by
  cases change with
  | add socket kind observer =>
    cases there : registry.contains socket.descriptor kind observer with
    | true =>
      rw [change, add_of_contains registry socket kind observer there] at known
      refine .inr ⟨?_, entry, known, rfl, by simp [Silences]⟩
      rintro ⟨same, absent⟩
      rw [← same, there] at absent
      cases absent
    | false =>
      rcases mem_add_entries registry sound socket kind observer there entry known with
        ⟨same, muted⟩ | ⟨other, old⟩
      · exact .inl ⟨⟨same.symm, same ▸ there⟩, muted⟩
      · exact .inr ⟨fun renews => other renews.1.symm, entry, old, rfl, by simp [Silences]⟩
  | remove socket kind observer =>
    obtain ⟨old, before, same, muted⟩ :=
      mem_remove_entries registry sound socket kind observer entry known
    exact .inr ⟨id, old, before, same, by simp [Silences, muted]⟩
  | report socket readiness =>
    refine .inr ⟨id, ?_⟩
    rcases muteReported_cases registry socket readiness with ⟨calm, same⟩ | ⟨alarm, same⟩
    · rw [change, same] at known
      rw [Bool.or_eq_false_iff] at calm
      exact ⟨entry, known, rfl, by simp [Silences, calm]⟩
    · rw [change, same] at known
      obtain ⟨old, before, rfl⟩ := mem_mute_entries registry _ _ entry known
      refine ⟨old, before, rfl, ?_⟩
      have heard := observes_of_known registry sound old before .readable
      simp only [Silences, heard, eq_comm (a := socket.descriptor)]
      by_cases own : old.socket.descriptor = socket.descriptor
      · cases invalid : readiness.invalid
        · simp only [invalid, Bool.false_or] at alarm
          simp [own, alarm]
        · simp [own]
      · simp [own]

/-- A socket is muted exactly if it was silenced since the last registration on it. -/
theorem muted_iff_shunned (history : List Change) :
    ∀ entry ∈ (replay history).entries,
      (entry.muted = true ↔ Shunned history entry.socket.descriptor) := by
  induction history using List.reverseRecOn with
  | nil => simp [replay]
  | append_singleton history change ih =>
    intro entry known
    rw [replay_append] at known
    rw [shunned_concat]
    rcases change_muted (replay history) (replay_sound history) change entry known with
      ⟨renews, muted⟩ | ⟨stays, old, before, same, muted⟩
    · have loud : ¬(replay history).Silences entry.socket.descriptor change :=
        fun silences => not_renews_of_silences _ _ change silences renews
      simp [muted, renews, loud]
    · rw [muted, ih old before, same]
      simp [stays]

/-- A silenced socket stays muted as long as nothing is newly registered on it. -/
theorem muted_of_silenced (registry : Registry) (sound : registry.Sound) (descriptor : Int)
    (report : Change) (silences : registry.Silences descriptor report) (changes : List Change)
    (still : ¬(registry.change report).Renewed descriptor changes) :
    ∀ entry ∈ ((registry.change report).changeAll changes).entries,
      entry.socket.descriptor = descriptor → entry.muted = true := by
  induction changes using List.reverseRecOn with
  | nil =>
    rintro entry known rfl
    rcases change_muted registry sound report entry known with ⟨renews, -⟩ | ⟨-, old, -, -, muted⟩
    · exact absurd renews (not_renews_of_silences _ _ report silences)
    · exact muted.mpr (.inr silences)
  | append_singleton changes change ih =>
    rw [renewed_concat, not_or] at still
    rintro entry known rfl
    rw [changeAll_append] at known
    have between := changeAll_keeps change_sound changes _ (change_sound registry report sound)
    rcases change_muted _ between change entry known with ⟨renews, -⟩ | ⟨-, old, before, same, muted⟩
    · exact absurd renews still.2
    · exact muted.mpr (.inl (ih still.1 old before (congrArg Handle.descriptor same)))

theorem interest?_iff (entry : SocketEntry) (interest : Interest) :
    entry.interest? = some interest ↔ entry.muted = false ∧
      (∃ kind ∈ Kind.polled, entry.observes kind = true) ∧
      interest = ⟨entry.socket, entry.observes .readable, entry.observes .writable⟩ := by
  simp only [SocketEntry.interest?, Option.ite_none_right_eq_some, Option.some.injEq, Kind.polled]
  rw [eq_comm (a := interest)]
  simp [and_assoc, or_assoc]

theorem mem_pollSet (registry : Registry) (interest : Interest) :
    interest ∈ registry.pollSet ↔ ∃ entry ∈ registry.entries, entry.muted = false ∧
      (∃ kind ∈ Kind.polled, entry.observes kind = true) ∧
      interest = ⟨entry.socket, entry.observes .readable, entry.observes .writable⟩ := by
  simp only [pollSet, List.mem_filterMap, interest?_iff]

/-- A poll is asked about each socket once. -/
theorem pollSet_distinct (registry : Registry) (sound : registry.Sound) :
    (registry.pollSet.map fun interest => interest.socket.descriptor).Nodup := by
  refine sound.descriptors.sublist ?_
  rw [pollSet, descriptors]
  induction registry.entries with
  | nil => exact .slnil
  | cons entry rest ih =>
    cases wanted : entry.interest? with
    | none =>
      rw [List.filterMap_cons_none wanted]
      exact ih.cons _
    | some interest =>
      obtain ⟨-, -, rfl⟩ := (interest?_iff entry interest).mp wanted
      rw [List.filterMap_cons_some wanted]
      exact ih.cons_cons _

theorem polls_iff (registry : Registry) (sound : registry.Sound) (descriptor : Int) :
    (∃ interest ∈ registry.pollSet, interest.socket.descriptor = descriptor) ↔
      (∃ kind ∈ Kind.polled, registry.observes descriptor kind = true) ∧
        ∀ entry ∈ registry.entries, entry.socket.descriptor = descriptor → entry.muted = false := by
  constructor
  · rintro ⟨interest, asked, rfl⟩
    obtain ⟨entry, known, heard, ⟨kind, polled, observed⟩, rfl⟩ :=
      (mem_pollSet registry interest).mp asked
    refine ⟨⟨kind, polled, ?_⟩, ?_⟩
    · exact (observes_of_known registry sound entry known kind).trans observed
    · intro other there same
      rwa [List.inj_on_of_nodup_map sound.descriptors there known same]
  · rintro ⟨⟨kind, polled, observed⟩, heard⟩
    obtain ⟨entry, found, observed⟩ := (Option.any_eq_true _ _).mp observed
    obtain ⟨known, same⟩ := (known_iff registry sound.descriptors _ _).mp found
    exact ⟨_, (mem_pollSet registry _).mpr ⟨entry, known, heard entry known same,
      ⟨kind, polled, observed⟩, rfl⟩, same⟩

theorem asks_of_mem (registry : Registry) (sound : registry.Sound) (interest : Interest)
    (asked : interest ∈ registry.pollSet) :
    interest.input = registry.observes interest.socket.descriptor .readable ∧
      interest.output = registry.observes interest.socket.descriptor .writable := by
  obtain ⟨entry, known, -, -, rfl⟩ := (mem_pollSet registry interest).mp asked
  exact ⟨(observes_of_known registry sound entry known _).symm,
    (observes_of_known registry sound entry known _).symm⟩

/-- A known socket is put out of polling by its history alone. -/
theorem polls_replay_iff (history : List Change) (descriptor : Int) :
    (∃ interest ∈ (replay history).pollSet, interest.socket.descriptor = descriptor) ↔
      (∃ kind ∈ Kind.polled, (replay history).observes descriptor kind = true) ∧
        ¬Shunned history descriptor := by
  rw [polls_iff _ (replay_sound history)]
  refine and_congr_right ?_
  rintro ⟨kind, -, observed⟩
  obtain ⟨entry, found, -⟩ := (Option.any_eq_true _ _).mp observed
  obtain ⟨known, rfl⟩ := (known_iff _ (replay_sound history).descriptors _ _).mp found
  have muted := muted_iff_shunned history entry known
  constructor
  · intro heard shunned
    simp [heard entry known rfl, shunned] at muted
  · intro heard other there same
    rw [List.inj_on_of_nodup_map (replay_sound history).descriptors there known same]
    simpa [heard] using muted

end Registry

end SocketLoop
