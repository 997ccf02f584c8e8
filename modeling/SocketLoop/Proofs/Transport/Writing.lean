import Mathlib.Data.List.TakeDrop
import SocketLoop.Rehearsal
import SocketLoop.Kernel.Stream

/-! Writing a whole buffer. The writes are recorded, each with what it was offered and what came of
it: together they send the buffer from its beginning on, without a gap and without a byte twice, until
all of it was accepted or a write decided that it cannot be. -/
namespace SocketLoop

namespace Transport

variable {σ : Type}

/-- One write: the bytes that it was offered, and the answer. -/
structure Write where
  offered : Bytes
  answer : Except Failure Nat

namespace Write

def count (write : Write) : Nat :=
  match write.answer with
  | .ok count => count
  | .error _ => 0

def taken (write : Write) : Bytes := write.offered.take write.count

def interrupted (write : Write) : Bool :=
  match write.answer with
  | .ok _ => false
  | .error failure => failure.kind = .interrupted

/-- The failure that a write makes of the whole: a count of zero, or any failure but an
interruption. -/
def verdict? (write : Write) : Option Failure :=
  match write.answer with
  | .ok 0 => some (.bare .writeZero)
  | .ok _ => none
  | .error failure => if failure.kind = .interrupted then none else some failure

end Write

/-- Writes never accept more than they were offered. -/
def Honest (transport : Transport σ) : Prop :=
  ∀ offered state count, (transport.write offered state).1 = .ok count → count ≤ offered.length

/-- A transport whose writes are recorded, oldest first. -/
def recorded (transport : Transport σ) : Transport (σ × List Write) where
  read limit state :=
    let (answer, after) := transport.read limit state.1
    (answer, after, state.2)
  write data state :=
    let (answer, after) := transport.write data state.1
    (answer, after, state.2 ++ [⟨data, answer⟩])
  shutdown direction state :=
    let (answer, after) := transport.shutdown direction state.1
    (answer, after, state.2)
  takeError state :=
    let (answer, after) := transport.takeError state.1
    (answer, after, state.2)
  setNonblocking on state :=
    let (answer, after) := transport.setNonblocking on state.1
    (answer, after, state.2)

/-- The writes that writing a whole buffer makes. -/
def written (transport : Transport σ) (fuel : Nat) (buffer : Bytes) (state : σ) : List Write :=
  (transport.recorded.writeAll fuel buffer (state, [])).2.2

def accepted : List Write → Nat
  | [] => 0
  | write :: rest => write.count + accepted rest

/-- The writes of a buffer, one after the other, and what comes of them. Without a result there was no
fuel for one more write. -/
inductive Sends : Bytes → List Write → Option (Except Failure Unit) → Prop where
  | done : Sends [] [] (some (.ok ()))
  | cut {buffer : Bytes} (left : buffer ≠ []) : Sends buffer [] none
  | decided {write : Write} {failure : Failure} (left : write.offered ≠ [])
      (verdict : write.verdict? = some failure) :
      Sends write.offered [write] (some (.error failure))
  | further {write : Write} {writes : List Write} {result : Option (Except Failure Unit)}
      (left : write.offered ≠ []) (goes : write.verdict? = none)
      (fits : write.count ≤ write.offered.length)
      (rest : Sends (write.offered.drop write.count) writes result) :
      Sends write.offered (write :: writes) result

variable (transport : Transport σ)

theorem writeAll_nil (fuel : Nat) (state : σ) :
    transport.writeAll fuel [] state = (some (.ok ()), state) := by
  cases fuel <;> rfl

theorem writeAll_zero (buffer : Bytes) (left : buffer ≠ []) (state : σ) :
    transport.writeAll 0 buffer state = (none, state) := by
  cases buffer with
  | nil => exact absurd rfl left
  | cons byte rest => rfl

theorem writeAll_succ (fuel : Nat) (buffer : Bytes) (left : buffer ≠ []) (state : σ) :
    let write : Write := ⟨buffer, (transport.write buffer state).1⟩
    let after := (transport.write buffer state).2
    transport.writeAll (fuel + 1) buffer state =
      write.verdict?.elim (transport.writeAll fuel (buffer.drop write.count) after)
        fun failure => (some (.error failure), after) := by
  cases buffer with
  | nil => exact absurd rfl left
  | cons byte rest =>
    rw [writeAll]
    rcases transport.write (byte :: rest) state with ⟨⟨failure⟩ | ⟨- | count⟩, after⟩
    · by_cases again : failure.kind = .interrupted
      · simp [Write.verdict?, Write.count, again]
      · simp [Write.verdict?, again]
    · rfl
    · rfl

theorem Honest.fits {transport : Transport σ} (honest : transport.Honest) (buffer : Bytes)
    (state : σ) :
    (Write.mk buffer (transport.write buffer state).1).count ≤ buffer.length := by
  rw [Write.count]
  split
  · rename_i count answer
    exact honest buffer state count answer
  · exact Nat.zero_le _

/-- Recording changes nothing, and what is recorded sends the buffer. -/
theorem recorded_writeAll (honest : transport.Honest) (fuel : Nat) (buffer : Bytes) (state : σ)
    (before : List Write) :
    ∃ writes, transport.recorded.writeAll fuel buffer (state, before) =
        ((transport.writeAll fuel buffer state).1,
          (transport.writeAll fuel buffer state).2, before ++ writes) ∧
      Sends buffer writes (transport.writeAll fuel buffer state).1 ∧
      (∀ write ∈ writes, ∃ state, write.answer = (transport.write write.offered state).1) ∧
      ((transport.writeAll fuel buffer state).1 = none → writes.length = fuel) := by
  -- The recording grows at its end, so what was recorded before is left open.
  induction fuel generalizing buffer state before with
  | zero =>
    by_cases left : buffer = []
    · subst left
      rw [writeAll_nil, writeAll_nil]
      exact ⟨[], by rw [List.append_nil], .done, by simp, fun _ => rfl⟩
    · rw [writeAll_zero _ _ left, writeAll_zero _ _ left]
      exact ⟨[], by rw [List.append_nil], .cut left, by simp, fun _ => rfl⟩
  | succ fuel ih =>
    by_cases left : buffer = []
    · subst left
      rw [writeAll_nil, writeAll_nil]
      exact ⟨[], by rw [List.append_nil], .done, by simp, fun missing => by cases missing⟩
    · rw [writeAll_succ _ _ _ left, writeAll_succ _ _ _ left]
      let write : Write := ⟨buffer, (transport.write buffer state).1⟩
      let after := (transport.write buffer state).2
      have same : transport.recorded.write buffer (state, before) =
        (write.answer, after, before ++ [write]) := rfl
      rw [same]
      dsimp only
      cases verdict : write.verdict? with
      | some failure =>
        refine ⟨[write], rfl, .decided left verdict, ?_, ?_⟩
        · intro other member
          exact ⟨state, by rw [List.mem_singleton.mp member]⟩
        · intro missing
          cases missing
      | none =>
        have fits : write.count ≤ write.offered.length := honest.fits buffer state
        obtain ⟨writes, recorded, sends, answered, exhausted⟩ :=
          ih (buffer.drop write.count) after (before ++ [write])
        refine ⟨write :: writes, ?_, .further left verdict fits sends, ?_, ?_⟩
        · exact recorded.trans (by rw [List.append_assoc]; rfl)
        · intro other member
          rcases List.mem_cons.mp member with rfl | member
          · exact ⟨state, rfl⟩
          · exact answered other member
        · intro missing
          exact congrArg Nat.succ (exhausted missing)

namespace Write

variable {write : Write} {failure : Failure}

theorem count_of_verdict (verdict : write.verdict? = some failure) : write.count = 0 := by
  rw [verdict?] at verdict
  rw [count]
  split at verdict
  · rename_i answer
    rw [answer]
  · cases verdict
  · rename_i answer
    rw [answer]

theorem advances_of_open (goes : write.verdict? = none) :
    0 < write.count ∨ write.interrupted = true := by
  rw [verdict?] at goes
  rw [count, interrupted]
  split at goes
  · cases goes
  · rename_i count nonzero answer
    rw [answer]
    exact .inl (Nat.pos_of_ne_zero nonzero)
  · rename_i failure answer
    rw [answer]
    split at goes
    · rename_i again
      exact .inr (decide_eq_true again)
    · cases goes

end Write

namespace Sends

variable {buffer : Bytes} {writes : List Write} {result : Option (Except Failure Unit)}

/-- Each write is offered what was not accepted before it, and none comes after a verdict. -/
theorem offers (sends : Sends buffer writes result) (earlier later : List Write) (write : Write)
    (whole : writes = earlier ++ write :: later) :
    write.offered = buffer.drop (accepted earlier) ∧ write.offered ≠ [] ∧
      ∀ other ∈ earlier, other.verdict? = none := by
  induction sends generalizing earlier with
  | done | cut _ => cases earlier <;> cases whole
  | decided left verdict =>
    cases earlier with
    | nil =>
      obtain ⟨rfl, -⟩ := List.cons.inj whole
      exact ⟨rfl, left, by simp⟩
    | cons first rest =>
      cases rest <;> cases (List.cons.inj whole).2
  | further left goes fits rest ih =>
    cases earlier with
    | nil =>
      obtain ⟨rfl, -⟩ := List.cons.inj whole
      exact ⟨rfl, left, by simp⟩
    | cons first others =>
      obtain ⟨rfl, same⟩ := List.cons.inj whole
      obtain ⟨offered, more, undecided⟩ := ih others same
      refine ⟨?_, more, ?_⟩
      · rw [offered, List.drop_drop]
        rfl
      · intro other member
        rcases List.mem_cons.mp member with rfl | member
        · exact goes
        · exact undecided other member

/-- What was accepted is the buffer from its beginning on. -/
theorem sent (sends : Sends buffer writes result) :
    writes.flatMap Write.taken = buffer.take (accepted writes) := by
  induction sends with
  | done | cut _ => rfl
  | @decided write failure left verdict =>
    rw [List.flatMap_singleton, accepted, accepted, Nat.add_zero]
    rfl
  | @further write writes result left goes fits rest ih =>
    rw [List.flatMap_cons, ih]
    exact (List.take_add ..).symm

/-- All was accepted if the buffer was written, and something is left if it was not. -/
theorem reaches (sends : Sends buffer writes result) :
    result = some (.ok ()) ∧ accepted writes = buffer.length ∨
      result ≠ some (.ok ()) ∧ accepted writes < buffer.length := by
  induction sends with
  | done => exact .inl ⟨rfl, rfl⟩
  | cut left => exact .inr ⟨by simp, List.length_pos_iff.mpr left⟩
  | @decided write failure left verdict =>
    refine .inr ⟨by simp, ?_⟩
    rw [accepted, accepted, write.count_of_verdict verdict]
    exact List.length_pos_iff.mpr left
  | @further write writes result left goes fits rest ih =>
    rw [List.length_drop] at ih
    rw [accepted]
    rcases ih with ⟨done, all⟩ | ⟨undone, some⟩
    · exact .inl ⟨done, by omega⟩
    · exact .inr ⟨undone, by omega⟩

theorem whole_iff (sends : Sends buffer writes result) :
    result = some (.ok ()) ↔ writes.flatMap Write.taken = buffer := by
  rw [sends.sent, List.take_eq_self_iff]
  rcases sends.reaches with ⟨done, all⟩ | ⟨undone, some⟩
  · exact ⟨fun _ => by omega, fun _ => done⟩
  · exact ⟨fun done => absurd done undone, fun all => by omega⟩

theorem failed_iff (sends : Sends buffer writes result) (failure : Failure) :
    result = some (.error failure) ↔
      ∃ earlier write, writes = earlier ++ [write] ∧ write.verdict? = some failure := by
  induction sends with
  | done | cut _ => simp
  | @decided write other left verdict =>
    constructor
    · rintro ⟨⟩
      exact ⟨[], write, rfl, verdict⟩
    · rintro ⟨earlier, last, whole, same⟩
      cases earlier with
      | nil =>
        obtain ⟨rfl, -⟩ := List.cons.inj whole
        rw [Option.some.inj (verdict.symm.trans same)]
      | cons first rest => cases rest <;> cases (List.cons.inj whole).2
  | @further write writes result left goes fits rest ih =>
    rw [ih]
    constructor
    · rintro ⟨earlier, last, rfl, same⟩
      exact ⟨write :: earlier, last, rfl, same⟩
    · rintro ⟨earlier, last, whole, same⟩
      cases earlier with
      | nil =>
        obtain ⟨rfl, -⟩ := List.cons.inj whole
        cases goes.symm.trans same
      | cons first others => exact ⟨others, last, (List.cons.inj whole).2, same⟩

theorem length_of_cut (sends : Sends buffer writes result) (missing : result = none) :
    writes.length ≤ writes.countP Write.interrupted + accepted writes := by
  induction sends with
  | done => cases missing
  | cut left => exact Nat.le_refl 0
  | decided left verdict => cases missing
  | @further write writes result left goes fits rest ih =>
    have others := ih missing
    rw [List.length_cons, List.countP_cons, accepted]
    rcases write.advances_of_open goes with more | again
    · omega
    · rw [if_pos again]
      omega

end Sends

/-- What the writes of a buffer have to do with it and with the result. -/
structure Transcript (buffer : Bytes) (writes : List Write)
    (result : Option (Except Failure Unit)) : Prop where
  /-- Each write is offered exactly what was not accepted yet, and nothing was decided before it. -/
  offered : ∀ earlier write later, writes = earlier ++ write :: later →
    write.offered = buffer.drop (accepted earlier) ∧ write.offered ≠ [] ∧
      ∀ other ∈ earlier, other.verdict? = none
  sent : writes.flatMap Write.taken <+: buffer
  whole : result = some (.ok ()) ↔ writes.flatMap Write.taken = buffer
  failed : ∀ failure, result = some (.error failure) ↔
    ∃ earlier write, writes = earlier ++ [write] ∧ write.verdict? = some failure
  unneeded : buffer = [] → writes = []

theorem Sends.transcript {buffer : Bytes} {writes : List Write}
    {result : Option (Except Failure Unit)} (sends : Sends buffer writes result) :
    Transcript buffer writes result where
  offered earlier write later whole := sends.offers earlier later write whole
  sent := by
    rw [sends.sent]
    exact List.take_prefix _ buffer
  whole := sends.whole_iff
  failed := sends.failed_iff
  unneeded empty := by
    cases sends with
    | done | cut _ => rfl
    | decided left _ | further left _ _ _ => exact absurd empty left

theorem written_sends (honest : transport.Honest) (fuel : Nat) (buffer : Bytes) (state : σ) :
    (transport.recorded.writeAll fuel buffer (state, [])).1 =
        (transport.writeAll fuel buffer state).1 ∧
      (transport.recorded.writeAll fuel buffer (state, [])).2.1 =
        (transport.writeAll fuel buffer state).2 ∧
      Sends buffer (transport.written fuel buffer state) (transport.writeAll fuel buffer state).1 ∧
      (∀ write ∈ transport.written fuel buffer state,
        ∃ state, write.answer = (transport.write write.offered state).1) ∧
      ((transport.writeAll fuel buffer state).1 = none →
        (transport.written fuel buffer state).length = fuel) := by
  obtain ⟨writes, same, sends, answered, exhausted⟩ :=
    transport.recorded_writeAll honest fuel buffer state []
  rw [written, same]
  exact ⟨rfl, rfl, sends, answered, exhausted⟩

/-- More fuel changes nothing once there is a result. -/
theorem writeAll_more (fuel more : Nat) (buffer : Bytes) (state after : σ)
    (result : Except Failure Unit) (enough : fuel ≤ more)
    (ended : transport.writeAll fuel buffer state = (some result, after)) :
    transport.writeAll more buffer state = (some result, after) := by
  induction fuel generalizing more buffer state with
  | zero =>
    by_cases left : buffer = []
    · subst left
      rwa [writeAll_nil] at ended ⊢
    · rw [writeAll_zero _ _ left] at ended
      cases ended
  | succ fuel ih =>
    by_cases left : buffer = []
    · subst left
      rwa [writeAll_nil] at ended ⊢
    · cases more with
      | zero => exact absurd enough (Nat.not_succ_le_zero fuel)
      | succ more =>
        rw [writeAll_succ _ _ _ left] at ended ⊢
        cases verdict : (Write.mk buffer (transport.write buffer state).1).verdict? with
        | some failure =>
          rw [verdict] at ended
          exact ended
        | none =>
          rw [verdict] at ended
          exact ih more _ _ (Nat.le_of_succ_le_succ enough) ended

/-- As many writes as there are interruptions, and one for each byte, are enough. -/
theorem writeAll_ends (honest : transport.Honest) (buffer : Bytes) (state : σ) (bound : Nat)
    (few : ∀ fuel, (transport.written fuel buffer state).countP Write.interrupted ≤ bound) :
    ∃ result after, ∀ fuel, bound + buffer.length ≤ fuel →
      transport.writeAll fuel buffer state = (some result, after) := by
  obtain ⟨-, -, sends, -, exhausted⟩ :=
    transport.written_sends honest (bound + buffer.length) buffer state
  cases ended : (transport.writeAll (bound + buffer.length) buffer state).1 with
  | none =>
    have length := exhausted ended
    have long := sends.length_of_cut ended
    have interrupted := few (bound + buffer.length)
    -- Writes that decided nothing used up all the fuel: more of them than can have been interrupted or
    -- have accepted a byte.
    rcases sends.reaches with ⟨done, -⟩ | ⟨-, some⟩
    · cases ended.symm.trans done
    · omega
  | some result =>
    refine ⟨result, (transport.writeAll (bound + buffer.length) buffer state).2, ?_⟩
    intro fuel enough
    exact transport.writeAll_more _ fuel buffer state _ result enough (Prod.ext ended rfl)

theorem kind_interrupted_iff (errno : Errno) :
    errno.kind = .interrupted ↔ errno = Errno.interrupted := by
  constructor
  · intro same
    rw [Errno.kind] at same
    cases found : Errno.kinds.lookup errno with
    | none =>
      rw [found] at same
      cases same
    | some kind =>
      rw [found, Option.getD_some] at same
      subst same
      obtain ⟨before, after, whole, -⟩ := List.lookup_eq_some_iff.mp found
      have member : (errno, ErrorKind.interrupted) ∈ Errno.kinds := by
        rw [whole]
        exact List.mem_append_right before List.mem_cons_self
      have only : ∀ row ∈ Errno.kinds, row.2 = .interrupted → row.1 = Errno.interrupted := by
        decide
      exact only _ member rfl
  · intro same
    subst same
    rfl

end Transport

namespace Rehearsal

theorem transport_honest : transport.Honest := by
  intro offered stage count answered
  simp only [transport, Stage.answer] at answered
  split at answered
  · cases answered
  · cases answered
    exact Nat.min_le_right _ _

/-- One more write than the script has answers is enough. -/
theorem writeAll_ends (fuel : Nat) (data : Bytes) (stage : Stage)
    (enough : stage.script.length < fuel) :
    ∃ result after, transport.writeAll fuel data stage = (some result, after) := by
  induction fuel generalizing data stage with
  | zero => exact absurd enough (Nat.not_lt_zero _)
  | succ fuel ih =>
    by_cases left : data = []
    · subst left
      exact ⟨_, _, transport.writeAll_nil _ stage⟩
    · rw [Transport.writeAll_succ _ _ _ left]
      cases verdict : (Transport.Write.mk data (transport.write data stage).1).verdict? with
      | some failure => exact ⟨_, _, rfl⟩
      | none =>
        cases script : stage.script with
        | nil =>
          have spent : (transport.write data stage).1 =
              .error (.ofFault (.write Errno.tryAgain)) := by
            simp only [transport, Stage.answer, script]
            rfl
          rw [spent] at verdict
          cases verdict
        | cons cue rest =>
          have next : (transport.write data stage).2.script = rest := by
            simp only [transport, Stage.answer, script]
            split <;> rfl
          apply ih
          rw [next]
          rw [script] at enough
          exact Nat.lt_of_succ_lt_succ enough

end Rehearsal

namespace Kernel

/-- A write through a descriptor is never interrupted, and accepts no more than it was offered. -/
theorem write_cases (kernel : Kernel) (descriptor : Nat) (data : Bytes) :
    (∃ count, (kernel.write descriptor data).1 = .ok count ∧ count ≤ data.length) ∨
      ∃ errno, (kernel.write descriptor data).1 = .error errno ∧ errno ≠ Errno.interrupted := by
  rw [write]
  split
  · split
    · exact .inr ⟨_, rfl, by decide⟩
    · split
      · exact .inl ⟨_, rfl, Nat.le_refl _⟩
      · dsimp only
        split
        · exact .inr ⟨_, rfl, by decide⟩
        · exact .inl ⟨_, rfl, List.length_take_le' _ _⟩
      · exact .inr ⟨_, rfl, by decide⟩
  · exact .inr ⟨_, rfl, by decide⟩
  · exact .inr ⟨_, rfl, by decide⟩
  · refine .inr ⟨_, rfl, ?_⟩
    rw [refusal?.eq_def]
    split
    · decide
    · split <;> decide
    · decide

theorem transport_write (kernel : Kernel) (descriptor : Nat) (data : Bytes) :
    ((transport descriptor).write data kernel).1 =
      withFault .write (kernel.write descriptor data).1 := rfl

theorem transport_honest (descriptor : Nat) : (transport descriptor).Honest := by
  intro offered kernel count answered
  rw [transport_write] at answered
  rcases kernel.write_cases descriptor offered with ⟨other, same, fits⟩ | ⟨errno, same, -⟩
  · rw [same] at answered
    cases answered
    exact fits
  · rw [same] at answered
    cases answered

/-- One write for each byte is enough. -/
theorem writeAll_ends (descriptor : Nat) (kernel : Kernel) (data : Bytes) :
    ∃ result after, ∀ fuel, data.length ≤ fuel →
      (transport descriptor).writeAll fuel data kernel = (some result, after) := by
  have honest := transport_honest descriptor
  have few (fuel : Nat) :
      ((transport descriptor).written fuel data kernel).countP Transport.Write.interrupted ≤ 0 := by
    obtain ⟨-, -, -, answered, -⟩ := (transport descriptor).written_sends honest fuel data kernel
    rw [Nat.le_zero, List.countP_eq_zero]
    intro write member
    obtain ⟨before, answer⟩ := answered write member
    rw [transport_write] at answer
    rw [Transport.Write.interrupted, answer]
    rcases before.write_cases descriptor write.offered with ⟨count, same, -⟩ | ⟨errno, same, other⟩
    · rw [same]
      exact Bool.false_ne_true
    · rw [same]
      intro again
      exact other ((Transport.kind_interrupted_iff errno).mp (of_decide_eq_true again))
  obtain ⟨result, after, ends⟩ := (transport descriptor).writeAll_ends honest data kernel 0 few
  rw [Nat.zero_add] at ends
  exact ⟨result, after, ends⟩

end Kernel

namespace Transport

/-- Writing a whole buffer sends it once and in order, up to the write that decides that it cannot be
sent. It ends if the interruptions do, and those are the failures of their class, whether from an
error number or not. -/
theorem writeAll_sends_once {σ : Type} (transport : Transport σ) (honest : transport.Honest)
    (buffer : Bytes) (state : σ) :
    (∀ fuel, Transcript buffer (transport.written fuel buffer state)
        (transport.writeAll fuel buffer state).1 ∧
      (transport.recorded.writeAll fuel buffer (state, [])).1 =
        (transport.writeAll fuel buffer state).1 ∧
      (transport.recorded.writeAll fuel buffer (state, [])).2.1 =
        (transport.writeAll fuel buffer state).2) ∧
    (∀ bound, (∀ fuel, (transport.written fuel buffer state).countP Write.interrupted ≤ bound) →
      ∃ result after, ∀ fuel, bound + buffer.length ≤ fuel →
        transport.writeAll fuel buffer state = (some result, after)) ∧
    ∀ errno, ((Failure.system errno).kind = .interrupted ↔ errno = Errno.interrupted) ∧
      ((Failure.ofFault (.write errno)).kind = .interrupted ↔ errno = Errno.interrupted) := by
  refine ⟨fun fuel => ?_, transport.writeAll_ends honest buffer state, fun errno => ?_⟩
  · obtain ⟨same, still, sends, -⟩ := transport.written_sends honest fuel buffer state
    exact ⟨sends.transcript, same, still⟩
  · exact ⟨kind_interrupted_iff errno, kind_interrupted_iff errno⟩

end Transport

namespace Rehearsal

/-- Two bytes are accepted, two interruptions passed over, and then nothing is accepted. -/
theorem writeAll_sends_once_up_to_zero :
    let script : List Cue := [{ accepted := 2 }, { failure := some (.system Errno.interrupted) },
      { failure := some (.bare .interrupted) }, { accepted := 0 }]
    let stage : Stage := { script }
    let writes := transport.written 5 [1, 2, 3] stage
    transport.Honest ∧
      (∀ fuel, (transport.written fuel [1, 2, 3] stage).countP Transport.Write.interrupted ≤ 2) ∧
      writes.map Transport.Write.offered = [[1, 2, 3], [3], [3], [3]] ∧
      writes.flatMap Transport.Write.taken <+: [1, 2, 3] ∧
      ∃ result after, ∀ fuel, 5 ≤ fuel →
        transport.writeAll fuel [1, 2, 3] stage = (some result, after) := by
  intro script stage writes
  have few (fuel : Nat) :
      (transport.written fuel [1, 2, 3] stage).countP Transport.Write.interrupted ≤ 2 := by
    rcases Nat.lt_or_ge fuel 4 with short | long
    · revert fuel
      decide
    · rw [Transport.written, transport.recorded.writeAll_more 4 fuel _ _ _ _ long rfl]
      decide
  obtain ⟨sends, ends, -⟩ := transport.writeAll_sends_once transport_honest [1, 2, 3] stage
  exact ⟨transport_honest, few, rfl, (sends 5).1.sent, ends 2 few⟩

end Rehearsal

end SocketLoop
