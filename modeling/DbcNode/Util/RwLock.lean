import DbcNode.Lib.Locks
import DbcNode.Lib.Runs

namespace DbcNode

/-- Where a `read_lock_guard` or a `write_lock_guard` is. One that waits is
asleep, until it is notified or wakes up by itself; then it has to run
again. -/
inductive GuardPhase
  | idle
  | readAsleep
  | readAwake
  | reading
  | writeAsleep
  | writeAwake
  | writing
  deriving DecidableEq

namespace GuardPhase

def isReading : GuardPhase → Bool
  | reading => true
  | _ => false

def isWriting : GuardPhase → Bool
  | writing => true
  | _ => false

/-- The guards that `m_write_count` counts. -/
def wantsWrite : GuardPhase → Bool
  | writeAsleep => true
  | writeAwake => true
  | writing => true
  | _ => false

def isAsleep : GuardPhase → Bool
  | readAsleep => true
  | writeAsleep => true
  | _ => false

def isAwake : GuardPhase → Bool
  | readAwake => true
  | writeAwake => true
  | _ => false

/-- How many steps a guard has to go: to be notified, to go in and to go. -/
def steps (phase : GuardPhase) : Nat :=
  3 * phase.isAsleep.toNat + 2 * phase.isAwake.toNat + (phase.isReading.toNat + phase.isWriting.toNat)

theorem isReading_iff {phase : GuardPhase} : phase.isReading = true ↔ phase = .reading := by
  cases phase <;> simp [isReading]

theorem isWriting_iff {phase : GuardPhase} : phase.isWriting = true ↔ phase = .writing := by
  cases phase <;> simp [isWriting]

end GuardPhase

structure RwLock (τ : Type) where
  readCount : UInt32
  writeCount : UInt32
  isWritingStatus : Bool
  phase : τ → GuardPhase

/-- The sections of the lock under its mutex. A notification of one writer
picks one of those asleep. -/
inductive RwLockEvent (τ : Type)
  | readLock (t : τ)
  | readAgain (t : τ)
  | readUnlock (t : τ) (chosen : Option τ)
  | writeLock (t : τ)
  | writeAgain (t : τ)
  | writeUnlock (t : τ) (chosen : Option τ)
  /-- A wait that ends without a notification. -/
  | wakeUp (t : τ)

namespace RwLock
variable {τ : Type} [DecidableEq τ]

def free : RwLock τ := ⟨0, 0, false, fun _ => .idle⟩

def setPhase (t : τ) (phase : GuardPhase) (s : RwLock τ) : RwLock τ :=
  { s with phase := Function.update s.phase t phase }

/-- The predicate of a reader is looked at: it goes in, or to sleep. -/
def tryRead (t : τ) (s : RwLock τ) : RwLock τ :=
  if s.writeCount = 0 then { s with readCount := s.readCount + 1 }.setPhase t .reading else s.setPhase t .readAsleep

def tryWrite (t : τ) (s : RwLock τ) : RwLock τ :=
  if s.readCount = 0 ∧ s.isWritingStatus = false then { s with isWritingStatus := true }.setPhase t .writing
  else s.setPhase t .writeAsleep

/-- `notify_one` of the writers. -/
def notifyOne [Fintype τ] (chosen : Option τ) (s : RwLock τ) : Option (RwLock τ) :=
  match chosen with
  | none => if ∀ t, s.phase t ≠ .writeAsleep then some s else none
  | some t => if s.phase t = .writeAsleep then some (s.setPhase t .writeAwake) else none

/-- `notify_all` of the readers. -/
def notifyAll (s : RwLock τ) : RwLock τ :=
  { s with phase := fun t => if s.phase t = .readAsleep then .readAwake else s.phase t }

theorem one_le_of_ne_zero {n : UInt32} (some : n ≠ 0) : 1 ≤ n := by
  have positive : n.toNat ≠ 0 := fun zero => some (UInt32.toNat_inj.mp zero)
  exact UInt32.le_iff_toNat_le.mpr (Nat.one_le_iff_ne_zero.mpr positive)

variable [Fintype τ]

def readUnlock (t : τ) (chosen : Option τ) (s : RwLock τ) : Option (RwLock τ) :=
  let left := { s with readCount := s.readCount - 1 }.setPhase t .idle
  if left.readCount = 0 ∧ left.writeCount > 0 then left.notifyOne chosen else some left

def writeUnlock (t : τ) (chosen : Option τ) (s : RwLock τ) : Option (RwLock τ) :=
  let left := { s with writeCount := s.writeCount - 1 }.setPhase t .idle
  let told := if left.writeCount = 0 then some left.notifyAll else left.notifyOne chosen
  told.map fun told => { told with isWritingStatus := false }

/-- One section of a guard. -/
def step (s : RwLock τ) : RwLockEvent τ → Option (RwLock τ)
  | .readLock t => if s.phase t = .idle then some (s.tryRead t) else none
  | .readAgain t => if s.phase t = .readAwake then some (s.tryRead t) else none
  | .readUnlock t chosen => if s.phase t = .reading then s.readUnlock t chosen else none
  | .writeLock t => if s.phase t = .idle then some ({ s with writeCount := s.writeCount + 1 }.tryWrite t) else none
  | .writeAgain t => if s.phase t = .writeAwake then some (s.tryWrite t) else none
  | .writeUnlock t chosen => if s.phase t = .writing then s.writeUnlock t chosen else none
  | .wakeUp t =>
    if s.phase t = .readAsleep then some (s.setPhase t .readAwake)
    else if s.phase t = .writeAsleep then some (s.setPhase t .writeAwake)
    else none

/-- The counters count, who writes is alone, and a reader sleeps only for a
writer. -/
structure Counted (s : RwLock τ) : Prop where
  reads : s.readCount.toNat = tally GuardPhase.isReading s.phase
  writes : s.writeCount.toNat = tally GuardPhase.wantsWrite s.phase
  status : tally GuardPhase.isWriting s.phase = s.isWritingStatus.toNat
  alone : s.isWritingStatus = true → s.readCount = 0
  readers : ∀ t, s.phase t = .readAsleep → s.writeCount ≠ 0

/-- A writer sleeps only while there is somebody who lets him in later, or
another one is awake. -/
structure Sound (s : RwLock τ) : Prop extends Counted s where
  writers : ∀ t, s.phase t = .writeAsleep →
    s.readCount ≠ 0 ∨ s.isWritingStatus = true ∨ ∃ u, s.phase u = .writeAwake

variable {s u : RwLock τ} {t : τ} {old new : GuardPhase} {chosen : Option τ} {event : RwLockEvent τ}
  {trace : List (RwLockEvent τ)}

omit [Fintype τ] in
theorem setPhase_phase (s : RwLock τ) (t : τ) (phase : GuardPhase) (u : τ) :
    (s.setPhase t phase).phase u = if u = t then phase else s.phase u := Function.update_apply ..

/-- What a guard counts for moves with it from phase to phase. -/
theorem tally_setPhase (kind : GuardPhase → Bool) (was : s.phase t = old) (new : GuardPhase) :
    tally kind (s.setPhase t new).phase + (kind old).toNat = tally kind s.phase + (kind new).toNat := by
  rw [← was]
  exact tally_update kind s.phase t new

theorem tally_setPhase_same (kind : GuardPhase → Bool) (was : s.phase t = old) (new : GuardPhase)
    (same : kind old = kind new) :
    tally kind (s.setPhase t new).phase = tally kind s.phase := by
  have moved := tally_setPhase kind was new
  rw [same] at moved
  exact Nat.add_right_cancel moved

omit [DecidableEq τ] in
theorem Sound.free : Sound (free : RwLock τ) := by
  have none : ∀ kind : GuardPhase → Bool, kind .idle = false → tally kind (fun _ : τ => GuardPhase.idle) = 0 :=
    fun kind off => tally_eq_zero_iff.mpr fun _ => off
  refine ⟨⟨(none _ rfl).symm, (none _ rfl).symm, none _ rfl, fun on => Bool.noConfusion on, fun t asleep => ?_⟩,
    fun t asleep => ?_⟩
  · cases asleep
  · cases asleep

omit [DecidableEq τ] in
/-- A guard that wants to write is counted. -/
theorem Counted.wanted (counted : Counted s) (wants : (s.phase t).wantsWrite = true) : s.writeCount ≠ 0 := by
  intro zero
  have some := tally_pos_iff.mpr ⟨t, wants⟩
  rw [← counted.writes, zero] at some
  exact Nat.lt_irrefl 0 some

omit [DecidableEq τ] in
theorem Counted.read (counted : Counted s) (reading : s.phase t = .reading) : s.readCount ≠ 0 := by
  intro zero
  have some := tally_pos_iff.mpr ⟨t, GuardPhase.isReading_iff.mpr reading⟩
  rw [← counted.reads, zero] at some
  exact Nat.lt_irrefl 0 some

omit [DecidableEq τ] in
theorem Counted.writing_iff (counted : Counted s) : s.isWritingStatus = true ↔ ∃ t, s.phase t = .writing := by
  have status := counted.status
  constructor
  · intro on
    rw [on] at status
    have one : 0 < tally GuardPhase.isWriting s.phase := by
      rw [status]
      exact Nat.one_pos
    obtain ⟨t, writing⟩ := tally_pos_iff.mp one
    exact ⟨t, GuardPhase.isWriting_iff.mp writing⟩
  · rintro ⟨t, writing⟩
    have one := tally_pos_iff.mpr ⟨t, GuardPhase.isWriting_iff.mpr writing⟩
    rw [status] at one
    exact Bool.toNat_eq_one.mp (by have := Bool.toNat_le s.isWritingStatus; omega)

theorem Sound.tryRead (few : Fintype.card τ < 2 ^ 32) (sound : Sound s) (was : s.phase t = old)
    (outside : old = .idle ∨ old = .readAwake) : Sound (s.tryRead t) := by
  have counts : old.isReading = false ∧ old.wantsWrite = false ∧ old.isWriting = false := by
    rcases outside with rfl | rfl
    · exact ⟨rfl, rfl, rfl⟩
    · exact ⟨rfl, rfl, rfl⟩
  have notAwake : old ≠ .writeAwake := by
    rcases outside with rfl | rfl
    · simp
    · simp
  rw [RwLock.tryRead]
  split
  · rename_i nobody
    have more := tally_setPhase GuardPhase.isReading was .reading
    have bound := tally_le_card GuardPhase.isReading (s.setPhase t .reading).phase
    rw [counts.1] at more
    have reads : (s.readCount + 1).toNat = tally GuardPhase.isReading (s.setPhase t .reading).phase := by
      rw [UInt32.toNat_add, sound.reads]
      simp only [GuardPhase.isReading, Bool.toNat_true, Bool.toNat_false, UInt32.reduceToNat] at more ⊢
      omega
    refine ⟨⟨reads, ?_, ?_, fun on => ?_, fun u asleep => ?_⟩, fun u asleep => ?_⟩
    · exact sound.writes.trans (tally_setPhase_same _ was _ counts.2.1).symm
    · exact (tally_setPhase_same _ was _ counts.2.2).trans sound.status
    · obtain ⟨u, writing⟩ := sound.writing_iff.mp on
      exact (sound.wanted (by rw [writing]; rfl) nobody).elim
    · rw [setPhase_phase] at asleep
      split at asleep
      · cases asleep
      · exact sound.readers u asleep
    · rw [setPhase_phase] at asleep
      split at asleep
      · cases asleep
      · exact (sound.wanted (by rw [asleep]; rfl) nobody).elim
  · rename_i somebody
    refine ⟨⟨?_, ?_, ?_, sound.alone, fun u _ => somebody⟩, fun u asleep => ?_⟩
    · exact sound.reads.trans (tally_setPhase_same _ was _ counts.1).symm
    · exact sound.writes.trans (tally_setPhase_same _ was _ counts.2.1).symm
    · exact (tally_setPhase_same _ was _ counts.2.2).trans sound.status
    · rw [setPhase_phase] at asleep
      split at asleep
      · cases asleep
      · rcases sound.writers u asleep with reading | writing | ⟨v, awake⟩
        · exact Or.inl reading
        · exact Or.inr (Or.inl writing)
        · refine Or.inr (Or.inr ⟨v, ?_⟩)
          have other : v ≠ t := by
            rintro rfl
            exact notAwake (was.symm.trans awake)
          rw [setPhase_phase, if_neg other, awake]

/-- A writer goes in or to sleep, with itself counted. -/
theorem Sound.tryWrite (sound : Sound s) (was : s.phase t = old) (outside : old = .idle ∨ old = .writeAwake)
    {count : UInt32} (counted : count.toNat = tally GuardPhase.wantsWrite (s.setPhase t .writing).phase) :
    Sound ({ s with writeCount := count }.tryWrite t) := by
  have counts : old.isReading = false ∧ old.isWriting = false := by
    rcases outside with rfl | rfl
    · exact ⟨rfl, rfl⟩
    · exact ⟨rfl, rfl⟩
  have some : count ≠ 0 := by
    rintro rfl
    have here : ((s.setPhase t .writing).phase t).wantsWrite = true := by
      rw [setPhase_phase, if_pos rfl]
      rfl
    have positive := tally_pos_iff.mpr ⟨t, here⟩
    rw [← counted] at positive
    exact Nat.lt_irrefl 0 positive
  have both : tally GuardPhase.wantsWrite (s.setPhase t .writing).phase =
      tally GuardPhase.wantsWrite (s.setPhase t .writeAsleep).phase := by
    refine tally_congr fun u => ?_
    rw [setPhase_phase, setPhase_phase]
    split
    · rfl
    · rfl
  rw [RwLock.tryWrite]
  split
  · rename_i free
    obtain ⟨noRead, off⟩ := free
    refine ⟨⟨?_, counted, ?_, fun _ => noRead, fun u _ => some⟩, fun u _ => Or.inr (Or.inl rfl)⟩
    · exact sound.reads.trans (tally_setPhase_same _ was _ counts.1).symm
    · have more := tally_setPhase GuardPhase.isWriting was .writing
      rw [counts.2, sound.status, off] at more
      exact more
  · rename_i taken
    refine ⟨⟨?_, counted.trans both, ?_, sound.alone, fun u _ => some⟩, fun u _ => ?_⟩
    · exact sound.reads.trans (tally_setPhase_same _ was _ counts.1).symm
    · exact (tally_setPhase_same _ was _ counts.2).trans sound.status
    · by_cases noRead : s.readCount = 0
      · refine Or.inr (Or.inl ?_)
        by_contra off
        exact taken ⟨noRead, Bool.not_eq_true _ ▸ off⟩
      · exact Or.inl noRead

/-- Once one of the writers asleep is notified, somebody is awake. -/
theorem Counted.notifyOne (counted : Counted s) (told : s.notifyOne chosen = some u) : Sound u := by
  cases chosen with
  | none =>
    rw [RwLock.notifyOne] at told
    split at told
    · rename_i nobody
      cases told
      exact ⟨counted, fun t asleep => (nobody t asleep).elim⟩
    · cases told
  | some t =>
    rw [RwLock.notifyOne] at told
    split at told
    · rename_i asleep
      cases told
      refine ⟨⟨?_, ?_, ?_, counted.alone, fun u reader => ?_⟩, fun u _ => Or.inr (Or.inr ⟨t, ?_⟩)⟩
      · exact counted.reads.trans (tally_setPhase_same GuardPhase.isReading asleep .writeAwake rfl).symm
      · exact counted.writes.trans (tally_setPhase_same GuardPhase.wantsWrite asleep .writeAwake rfl).symm
      · exact (tally_setPhase_same GuardPhase.isWriting asleep .writeAwake rfl).trans counted.status
      · rw [setPhase_phase] at reader
        split at reader
        · cases reader
        · exact counted.readers u reader
      · rw [setPhase_phase, if_pos rfl]
    · cases told

theorem Sound.readUnlock (sound : Sound s) (reading : s.phase t = .reading) (ran : s.readUnlock t chosen = some u) :
    Sound u := by
  have some := sound.read reading
  have fewer := tally_setPhase GuardPhase.isReading reading .idle
  have left : Counted ({ s with readCount := s.readCount - 1 }.setPhase t .idle) := by
    refine ⟨?_, ?_, ?_, fun on => (some (sound.alone on)).elim, fun u asleep => ?_⟩
    · have one := one_le_of_ne_zero some
      change (s.readCount - 1).toNat = tally GuardPhase.isReading (s.setPhase t .idle).phase
      rw [UInt32.toNat_sub_of_le _ _ one, sound.reads]
      simp only [GuardPhase.isReading, Bool.toNat_true, Bool.toNat_false, UInt32.reduceToNat] at fewer ⊢
      omega
    · exact sound.writes.trans (tally_setPhase_same GuardPhase.wantsWrite reading .idle rfl).symm
    · exact (tally_setPhase_same GuardPhase.isWriting reading .idle rfl).trans sound.status
    · rw [setPhase_phase] at asleep
      split at asleep
      · cases asleep
      · exact sound.readers u asleep
  rw [RwLock.readUnlock] at ran
  split at ran
  · exact left.notifyOne ran
  · rename_i nobody
    cases ran
    refine ⟨left, fun u asleep => ?_⟩
    refine Or.inl fun last => nobody ⟨last, ?_⟩
    exact UInt32.pos_iff_ne_zero.mpr (left.wanted (by rw [asleep]; rfl))

/-- A notification does not look at the status. -/
theorem notifyOne_status (s : RwLock τ) (chosen : Option τ) (status : Bool) :
    (s.notifyOne chosen).map (fun told => { told with isWritingStatus := status }) =
      { s with isWritingStatus := status }.notifyOne chosen := by
  cases chosen with
  | none =>
    rw [RwLock.notifyOne, RwLock.notifyOne]
    split
    · rfl
    · rfl
  | some t =>
    rw [RwLock.notifyOne, RwLock.notifyOne]
    split
    · rfl
    · rfl

omit [DecidableEq τ] in
theorem tally_notifyAll (kind : GuardPhase → Bool) (same : kind .readAwake = kind .readAsleep) (s : RwLock τ) :
    tally kind s.notifyAll.phase = tally kind s.phase := by
  refine tally_congr fun t => ?_
  rw [RwLock.notifyAll]
  dsimp only
  split
  · rename_i asleep
    rw [asleep, same]
  · rfl

omit [Fintype τ] [DecidableEq τ] in
theorem notifyAll_awake (s : RwLock τ) (t : τ) : s.notifyAll.phase t ≠ .readAsleep := by
  rw [RwLock.notifyAll]
  dsimp only
  split
  · simp
  · assumption

theorem Sound.writeUnlock (sound : Sound s) (writing : s.phase t = .writing)
    (ran : s.writeUnlock t chosen = some u) :
    Sound u := by
  have some : s.writeCount ≠ 0 := sound.wanted (by rw [writing]; rfl)
  have fewer := tally_setPhase GuardPhase.wantsWrite writing .idle
  have none := tally_setPhase GuardPhase.isWriting writing .idle
  have status := sound.status
  rw [sound.writing_iff.mpr ⟨t, writing⟩] at status
  have reads : s.readCount.toNat = tally GuardPhase.isReading (s.setPhase t .idle).phase :=
    sound.reads.trans (tally_setPhase_same GuardPhase.isReading writing .idle rfl).symm
  have writes : (s.writeCount - 1).toNat = tally GuardPhase.wantsWrite (s.setPhase t .idle).phase := by
    rw [UInt32.toNat_sub_of_le _ _ (one_le_of_ne_zero some), sound.writes]
    simp only [GuardPhase.wantsWrite, Bool.toNat_true, Bool.toNat_false, UInt32.reduceToNat] at fewer ⊢
    omega
  have nobody : tally GuardPhase.isWriting (s.setPhase t .idle).phase = 0 := by
    simp only [GuardPhase.isWriting, Bool.toNat_true, Bool.toNat_false] at none status
    omega
  rw [RwLock.writeUnlock] at ran
  split at ran
  · rename_i last
    cases ran
    have counted : Counted { ({ s with writeCount := s.writeCount - 1 }.setPhase t .idle).notifyAll with
        isWritingStatus := false } :=
      ⟨reads.trans (tally_notifyAll GuardPhase.isReading rfl _).symm,
        writes.trans (tally_notifyAll GuardPhase.wantsWrite rfl _).symm,
        (tally_notifyAll GuardPhase.isWriting rfl _).trans nobody, fun on => Bool.noConfusion on,
        fun u asleep => (notifyAll_awake _ u asleep).elim⟩
    exact ⟨counted, fun u asleep => (counted.wanted (by rw [asleep]; rfl) last).elim⟩
  · rename_i more
    rw [notifyOne_status] at ran
    have counted : Counted { ({ s with writeCount := s.writeCount - 1 }.setPhase t .idle) with
        isWritingStatus := false } := ⟨reads, writes, nobody, fun on => Bool.noConfusion on, fun u _ => more⟩
    exact counted.notifyOne ran

/-- Whoever sleeps may wake up at any time. -/
theorem Sound.wakeUp (sound : Sound s) (ran : s.step (.wakeUp t) = some u) : Sound u := by
  rw [RwLock.step] at ran
  split at ran
  · rename_i asleep
    cases ran
    refine ⟨⟨?_, ?_, ?_, sound.alone, fun u sleeps => ?_⟩, fun u sleeps => ?_⟩
    · exact sound.reads.trans (tally_setPhase_same GuardPhase.isReading asleep .readAwake rfl).symm
    · exact sound.writes.trans (tally_setPhase_same GuardPhase.wantsWrite asleep .readAwake rfl).symm
    · exact (tally_setPhase_same GuardPhase.isWriting asleep .readAwake rfl).trans sound.status
    · rw [setPhase_phase] at sleeps
      split at sleeps
      · cases sleeps
      · exact sound.readers u sleeps
    · rw [setPhase_phase] at sleeps
      split at sleeps
      · cases sleeps
      · rcases sound.writers u sleeps with reading | writing | ⟨v, awake⟩
        · exact Or.inl reading
        · exact Or.inr (Or.inl writing)
        · refine Or.inr (Or.inr ⟨v, ?_⟩)
          have other : v ≠ t := by
            rintro rfl
            rw [asleep] at awake
            cases awake
          rw [setPhase_phase, if_neg other, awake]
  split at ran
  · rename_i asleep
    cases ran
    refine ⟨⟨?_, ?_, ?_, sound.alone, fun u sleeps => ?_⟩, fun u _ => Or.inr (Or.inr ⟨t, ?_⟩)⟩
    · exact sound.reads.trans (tally_setPhase_same GuardPhase.isReading asleep .writeAwake rfl).symm
    · exact sound.writes.trans (tally_setPhase_same GuardPhase.wantsWrite asleep .writeAwake rfl).symm
    · exact (tally_setPhase_same GuardPhase.isWriting asleep .writeAwake rfl).trans sound.status
    · rw [setPhase_phase] at sleeps
      split at sleeps
      · cases sleeps
      · exact sound.readers u sleeps
    · rw [setPhase_phase, if_pos rfl]
  · cases ran

theorem Sound.step (few : Fintype.card τ < 2 ^ 32) (sound : Sound s) (ran : s.step event = some u) : Sound u := by
  cases event with
  | readLock t =>
    rw [RwLock.step] at ran
    split at ran
    · rename_i was
      cases ran
      exact sound.tryRead few was (Or.inl rfl)
    · cases ran
  | readAgain t =>
    rw [RwLock.step] at ran
    split at ran
    · rename_i was
      cases ran
      exact sound.tryRead few was (Or.inr rfl)
    · cases ran
  | readUnlock t chosen =>
    rw [RwLock.step] at ran
    split at ran
    · rename_i reading
      exact sound.readUnlock reading ran
    · cases ran
  | writeLock t =>
    rw [RwLock.step] at ran
    split at ran
    · rename_i was
      cases ran
      have more := tally_setPhase GuardPhase.wantsWrite was .writing
      have bound := tally_le_card GuardPhase.wantsWrite (s.setPhase t .writing).phase
      refine sound.tryWrite was (Or.inl rfl) ?_
      rw [UInt32.toNat_add, sound.writes]
      simp only [GuardPhase.wantsWrite, Bool.toNat_true, Bool.toNat_false, UInt32.reduceToNat] at more ⊢
      omega
    · cases ran
  | writeAgain t =>
    rw [RwLock.step] at ran
    split at ran
    · rename_i was
      cases ran
      exact sound.tryWrite was (Or.inr rfl)
        (sound.writes.trans (tally_setPhase_same GuardPhase.wantsWrite was .writing rfl).symm)
    · cases ran
  | writeUnlock t chosen =>
    rw [RwLock.step] at ran
    split at ran
    · rename_i writing
      exact sound.writeUnlock writing ran
    · cases ran
  | wakeUp t => exact sound.wakeUp ran

theorem Sound.run (few : Fintype.card τ < 2 ^ 32) (run : Reaches RwLock.step (RwLock.free : RwLock τ) trace s) :
    Sound s :=
  Run.invariant Sound.free (fun sound _ ran => sound.step few ran) run

/-- In whatever order guards come, wait, wake up and go: the counters are
exact, and who writes is alone. -/
theorem exclusive_of_run (few : Fintype.card τ < 2 ^ 32)
    (run : Reaches RwLock.step (RwLock.free : RwLock τ) trace s) :
    s.readCount.toNat = tally GuardPhase.isReading s.phase ∧
      s.writeCount.toNat = tally GuardPhase.wantsWrite s.phase ∧
      ∀ a, s.phase a = .writing → ∀ b, s.phase b = .reading ∨ s.phase b = .writing → a = b := by
  have sound := Sound.run few run
  refine ⟨sound.reads, sound.writes, fun a writing b inside => ?_⟩
  have on := sound.writing_iff.mpr ⟨a, writing⟩
  rcases inside with reading | other
  · exact (sound.read reading (sound.alone on)).elim
  · have single : tally GuardPhase.isWriting s.phase ≤ 1 := by
      rw [sound.status]
      exact Bool.toNat_le s.isWritingStatus
    exact eq_of_tally_le_one single (GuardPhase.isWriting_iff.mpr writing) (GuardPhase.isWriting_iff.mpr other)

/-- Guards go, and those awake run; none comes, and none wakes up by
itself. -/
def Leaves (_ : RwLock τ) : RwLockEvent τ → Prop
  | .readAgain _ => True
  | .readUnlock _ _ => True
  | .writeAgain _ => True
  | .writeUnlock _ _ => True
  | _ => False

/-- How many steps all guards have to go. -/
def stepsLeft (s : RwLock τ) : Nat :=
  3 * tally GuardPhase.isAsleep s.phase + 2 * tally GuardPhase.isAwake s.phase +
    (tally GuardPhase.isReading s.phase + tally GuardPhase.isWriting s.phase)

theorem stepsLeft_setPhase (was : s.phase t = old) (new : GuardPhase) :
    (s.setPhase t new).stepsLeft + old.steps = s.stepsLeft + new.steps := by
  have asleep := tally_setPhase GuardPhase.isAsleep was new
  have awake := tally_setPhase GuardPhase.isAwake was new
  have reading := tally_setPhase GuardPhase.isReading was new
  have writing := tally_setPhase GuardPhase.isWriting was new
  rw [stepsLeft, stepsLeft, GuardPhase.steps, GuardPhase.steps]
  omega

/-- Where a guard wakes up, goes in or goes. -/
theorem stepsLeft_lt (was : s.phase t = old) (forward : new.steps < old.steps) :
    (s.setPhase t new).stepsLeft < s.stepsLeft := by
  have moved := stepsLeft_setPhase was new
  omega

theorem notifyOne_exists (s : RwLock τ) : ∃ chosen u, s.notifyOne chosen = some u ∧ u.stepsLeft ≤ s.stepsLeft := by
  by_cases sleeper : ∃ t, s.phase t = .writeAsleep
  · obtain ⟨t, asleep⟩ := sleeper
    exact ⟨some t, _, if_pos asleep, (stepsLeft_lt asleep (by decide)).le⟩
  · exact ⟨none, s, if_pos fun t asleep => sleeper ⟨t, asleep⟩, le_rfl⟩

omit [DecidableEq τ] in
theorem stepsLeft_notifyAll (s : RwLock τ) : s.notifyAll.stepsLeft ≤ s.stepsLeft := by
  have reading := tally_notifyAll GuardPhase.isReading rfl s
  have writing := tally_notifyAll GuardPhase.isWriting rfl s
  have fewer : tally GuardPhase.isAsleep s.notifyAll.phase ≤ tally GuardPhase.isAsleep s.phase := by
    refine tally_mono fun t asleep => ?_
    rw [RwLock.notifyAll] at asleep
    dsimp only at asleep
    split at asleep
    · cases asleep
    · exact asleep
  have waiting := tally_notifyAll (fun phase => phase.isAsleep || phase.isAwake) rfl s
  have split : ∀ phase : τ → GuardPhase, tally (fun phase => phase.isAsleep || phase.isAwake) phase =
      tally GuardPhase.isAsleep phase + tally GuardPhase.isAwake phase := by
    intro phase
    refine tally_or (fun kind asleep => ?_) phase
    cases kind <;> first | rfl | cases asleep
  rw [split, split] at waiting
  rw [stepsLeft, stepsLeft]
  omega

omit [DecidableEq τ] in
theorem stepsLeft_status (s : RwLock τ) (status : Bool) :
    RwLock.stepsLeft { s with isWritingStatus := status } = s.stepsLeft := rfl

theorem leave_reading (reading : s.phase t = .reading) :
    ∃ event u, Leaves s event ∧ s.step event = some u ∧ u.stepsLeft < s.stepsLeft := by
  generalize shape : { s with readCount := s.readCount - 1 }.setPhase t .idle = left
  have gone : left.stepsLeft < s.stepsLeft := by
    rw [← shape]
    exact stepsLeft_lt reading (by decide)
  by_cases last : left.readCount = 0 ∧ left.writeCount > 0
  · obtain ⟨chosen, u, notified, lighter⟩ := notifyOne_exists left
    refine ⟨.readUnlock t chosen, u, trivial, ?_, lighter.trans_lt gone⟩
    rw [RwLock.step, if_pos reading, RwLock.readUnlock, shape, if_pos last, notified]
  · refine ⟨.readUnlock t none, left, trivial, ?_, gone⟩
    rw [RwLock.step, if_pos reading, RwLock.readUnlock, shape, if_neg last]

theorem leave_writing (writing : s.phase t = .writing) :
    ∃ event u, Leaves s event ∧ s.step event = some u ∧ u.stepsLeft < s.stepsLeft := by
  generalize shape : { s with writeCount := s.writeCount - 1 }.setPhase t .idle = left
  have gone : left.stepsLeft < s.stepsLeft := by
    rw [← shape]
    exact stepsLeft_lt writing (by decide)
  by_cases last : left.writeCount = 0
  · refine ⟨.writeUnlock t none, { left.notifyAll with isWritingStatus := false }, trivial, ?_, ?_⟩
    · rw [RwLock.step, if_pos writing, RwLock.writeUnlock, shape, if_pos last]
      rfl
    · rw [stepsLeft_status]
      exact (stepsLeft_notifyAll left).trans_lt gone
  · obtain ⟨chosen, u, notified, lighter⟩ := notifyOne_exists left
    refine ⟨.writeUnlock t chosen, { u with isWritingStatus := false }, trivial, ?_, ?_⟩
    · rw [RwLock.step, if_pos writing, RwLock.writeUnlock, shape, if_neg last, notified]
      rfl
    · rw [stepsLeft_status]
      exact lighter.trans_lt gone

/-- While not every guard is idle, one of them can do what it has to do
next. -/
theorem Sound.progress (sound : Sound s) (busy : s.phase t ≠ .idle) :
    ∃ event u, Leaves s event ∧ s.step event = some u ∧ u.stepsLeft < s.stepsLeft := by
  by_cases reader : ∃ r, s.phase r = .reading
  · obtain ⟨r, reading⟩ := reader
    exact leave_reading reading
  by_cases writer : ∃ w, s.phase w = .writing
  · obtain ⟨w, writing⟩ := writer
    exact leave_writing writing
  have noRead : s.readCount = 0 := by
    have none : tally GuardPhase.isReading s.phase = 0 :=
      tally_eq_zero_iff.mpr fun r => Bool.not_eq_true _ ▸ fun on => reader ⟨r, GuardPhase.isReading_iff.mp on⟩
    exact UInt32.toNat_inj.mp (sound.reads.trans none)
  have off : s.isWritingStatus = false := Bool.not_eq_true _ ▸ fun on => writer (sound.writing_iff.mp on)
  have enter : ∀ v, s.phase v = .writeAwake → ∃ event u, Leaves s event ∧ s.step event = some u ∧
      u.stepsLeft < s.stepsLeft := by
    intro v awake
    exact ⟨.writeAgain v, _, trivial, (if_pos awake).trans (congrArg some (if_pos ⟨noRead, off⟩)),
      stepsLeft_lt awake (by decide)⟩
  have wake : ∀ v, s.phase v = .writeAsleep → ∃ event u, Leaves s event ∧ s.step event = some u ∧
      u.stepsLeft < s.stepsLeft := by
    intro v asleep
    rcases sound.writers v asleep with reading | writing | ⟨w, awake⟩
    · exact (reading noRead).elim
    · rw [off] at writing
      cases writing
    · exact enter w awake
  by_cases wanted : s.writeCount = 0
  · cases here : s.phase t with
    | idle => exact (busy here).elim
    | readAsleep => exact (sound.readers t here wanted).elim
    | readAwake =>
      exact ⟨.readAgain t, _, trivial, (if_pos here).trans (congrArg some (if_pos wanted)),
        stepsLeft_lt here (by decide)⟩
    | reading => exact (reader ⟨t, here⟩).elim
    | writeAsleep => exact wake t here
    | writeAwake => exact enter t here
    | writing => exact (writer ⟨t, here⟩).elim
  · have some : 0 < tally GuardPhase.wantsWrite s.phase := by
      rw [← sound.writes]
      exact Nat.pos_of_ne_zero fun zero => wanted (UInt32.toNat_inj.mp zero)
    obtain ⟨v, wants⟩ := tally_pos_iff.mp some
    cases here : s.phase v with
    | writeAsleep => exact wake v here
    | writeAwake => exact enter v here
    | writing => exact (writer ⟨v, here⟩).elim
    | _ =>
      rw [here] at wants
      cases wants

/-- No wakeup is lost: from every state that can be reached, with all the
guards that have come so far, the lock can always be brought to rest by
guards that go and guards that have been notified. -/
theorem rest_of_run (few : Fintype.card τ < 2 ^ 32) (run : Reaches RwLock.step (RwLock.free : RwLock τ) trace s) :
    ∃ rest u, Run RwLock.step Leaves s rest u ∧ ∀ t, u.phase t = .idle := by
  have far : ∀ n rest u, Run RwLock.step Leaves s rest u → Sound u → u.stepsLeft = n →
      ∃ rest u, Run RwLock.step Leaves s rest u ∧ ∀ t, u.phase t = .idle := by
    intro n
    induction n using Nat.strong_induction_on with
    | _ n ih =>
      intro rest u before sound left
      by_cases busy : ∃ t, u.phase t ≠ .idle
      · obtain ⟨t, busy⟩ := busy
        obtain ⟨event, v, leaves, ran, fewer⟩ := sound.progress busy
        exact ih _ (left ▸ fewer) (event :: rest) v (.next before leaves ran) (sound.step few ran) rfl
      · exact ⟨rest, u, before, fun t => by_contra fun other => busy ⟨t, other⟩⟩
  exact far _ [] s .start (Sound.run few run) rfl

/-- A writer inside, a reader and a writer asleep. -/
theorem lock_runs : ∃ trace s, Reaches RwLock.step (RwLock.free : RwLock (Fin 3)) trace s ∧ s.phase 0 = .writing ∧
    s.phase 1 = .readAsleep ∧ s.phase 2 = .writeAsleep ∧ s.writeCount = 2 := by
  have facts : (runAll RwLock.step (RwLock.free : RwLock (Fin 3)) [.writeLock 0, .readLock 1, .writeLock 2]).any
      (fun s => s.phase 0 = .writing ∧ s.phase 1 = .readAsleep ∧ s.phase 2 = .writeAsleep ∧ s.writeCount = 2) =
        true := by
    decide +kernel
  obtain ⟨s, ran, phases⟩ := (Option.any_eq_true _ _).mp facts
  exact ⟨_, s, Reaches.of_runAll _ .start ran, of_decide_eq_true phases⟩

theorem exclusive_of_run_three : ∃ s : RwLock (Fin 3), s.phase 1 = .readAsleep ∧
    ∀ a, s.phase a = .writing → ∀ b, s.phase b = .reading ∨ s.phase b = .writing → a = b := by
  obtain ⟨trace, s, run, _, asleep, _⟩ := lock_runs
  exact ⟨s, asleep, (exclusive_of_run (by decide) run).2.2⟩

theorem rest_of_run_three : ∃ s : RwLock (Fin 3), s.phase 1 = .readAsleep ∧ s.phase 2 = .writeAsleep ∧
    ∃ rest u, Run RwLock.step Leaves s rest u ∧ ∀ t, u.phase t = .idle := by
  obtain ⟨trace, s, run, _, reader, writer, _⟩ := lock_runs
  exact ⟨s, reader, writer, rest_of_run (by decide) run⟩

end RwLock

end DbcNode
