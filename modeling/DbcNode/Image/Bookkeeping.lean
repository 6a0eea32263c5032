import DbcNode.Image.Jobs
import DbcNode.Lib.Runs

namespace DbcNode

/-- The two halves of the image manager. -/
inductive Side
  | download
  | upload
  deriving DecidableEq

/-- What was started: on which side, for which file, in which process, and
whether with a callback. -/
structure Started where
  side : Side
  name : Bytes
  process : Nat
  callback : Bool
  deriving DecidableEq

/-- What happens to the image manager. The check thread looks at one table
at a time. -/
inductive ImageEvent
  | download (name localDir : Bytes) (fromServer : ImageServer) (listed : Option Int) (process : Nat)
  (callback : Bool)
  | upload (name : Bytes) (toServer : ImageServer) (size : Int) (process : Nat) (callback : Bool)
  | stop (side : Side) (name : Bytes)
  | exit (process : Nat)
  | check (side : Side)

/-- The image manager and its past. A callback is known by the process of
the start that it came with. -/
structure Watched where
  manager : ImageManager Nat
  started : List Started
  ended : List Nat
  stopped : List Nat
  called : List Nat
  broken : Bool

namespace Watched

def initial : Watched := ⟨⟨.empty, .empty⟩, [], [], [], [], false⟩

def running (s : Watched) (process : Nat) : Bool := process ∉ s.ended

def jobAt (s : Watched) : Side → Bytes → Option Nat
  | .download, name => s.manager.downloads.processAt name
  | .upload, name => s.manager.uploads.processAt name

def callbackAt (s : Watched) : Side → Bytes → Option Nat
  | .download, name => s.manager.downloads.callbacks.find name
  | .upload, name => s.manager.uploads.callbacks.find name

/-- A process is used for one start only. -/
def fresh (s : Watched) (process : Nat) : Bool := s.started.all (fun start => start.process ≠ process)

/-- A process that is ended by a request. -/
def kill (process : Option Nat) (s : Watched) : Watched :=
  match process with
  | none => s
  | some p => { s with ended := p :: s.ended, stopped := p :: s.stopped }

/-- The callbacks that a round found are called in their order. -/
def call (found : List (Option Nat)) (s : Watched) : Watched :=
  { s with called := found.filterMap id ++ s.called, broken := s.broken || found.any (·.isNone) }

def step (s : Watched) : ImageEvent → Option Watched
  | .download name localDir fromServer listed process callback =>
    if s.fresh process = false then none
    else match s.manager.download name localDir fromServer listed process
      (if callback then some process else none) with
      | .error _ => some s
      | .ok manager => some { s with manager, started := ⟨.download, name, process, callback⟩ :: s.started }
  | .upload name toServer size process callback =>
    if s.fresh process = false then none
    else match s.manager.upload name toServer size process (if callback then some process else none) with
      | .error _ => some s
      | .ok manager => some { s with manager, started := ⟨.upload, name, process, callback⟩ :: s.started }
  | .stop .download name =>
    some ({ s with manager := s.manager.terminateDownload name }.kill
      (ImageManager.terminated s.running name s.manager.downloads))
  | .stop .upload name =>
    some ({ s with manager := s.manager.terminateUpload name }.kill
      (ImageManager.terminated s.running name s.manager.uploads))
  | .exit process => some { s with ended := process :: s.ended }
  | .check .download =>
    some ({ s with manager := { s.manager with downloads := (s.manager.downloads.check s.running).2 } }.call
      (s.manager.downloads.check s.running).1)
  | .check .upload =>
    some ({ s with manager := { s.manager with uploads := (s.manager.uploads.check s.running).2 } }.call
      (s.manager.uploads.check s.running).1)

/-- A start: one more process, under its name in the table of its side. -/
structure Starts (s t : Watched) (start : Started) : Prop where
  fresh : s.fresh start.process = true
  job : ∀ side name, t.jobAt side name =
    if side = start.side ∧ name = start.name then some start.process else s.jobAt side name
  callback : ∀ side name, t.callbackAt side name =
    if (side = start.side ∧ name = start.name) ∧ start.callback then some start.process else s.callbackAt side name
  rest : t.started = start :: s.started ∧ t.ended = s.ended ∧ t.stopped = s.stopped ∧ t.called = s.called ∧
    t.broken = s.broken

/-- A stop: the name is gone from the table of its side. -/
structure Stops (s t : Watched) (side : Side) (name : Bytes) : Prop where
  job : ∀ other file, t.jobAt other file = if other = side ∧ file = name then none else s.jobAt other file
  callback : ∀ other file, t.callbackAt other file =
    if other = side ∧ file = name then none else s.callbackAt other file
  killed : ∀ p, p ∈ t.ended ↔ p ∈ s.ended ∨ s.jobAt side name = some p
  stopped : ∀ p, p ∈ t.stopped ↔ p ∈ s.stopped ∨ s.jobAt side name = some p ∧ p ∉ s.ended
  rest : t.started = s.started ∧ t.called = s.called ∧ t.broken = s.broken

/-- A round on one side: the names of the jobs that have ended are gone, and
their callbacks were looked up. -/
structure Checks (s t : Watched) (side : Side) : Prop where
  job : ∀ other name, t.jobAt other name =
    if other = side ∧ ∃ p, s.jobAt side name = some p ∧ p ∈ s.ended then none else s.jobAt other name
  callback : ∀ other name, t.callbackAt other name =
    if other = side ∧ ∃ p, s.jobAt side name = some p ∧ p ∈ s.ended then none else s.callbackAt other name
  looked : ∃ names : List Bytes, names.Nodup ∧ (∀ name, name ∈ names ↔ ∃ p, s.jobAt side name = some p ∧
    p ∈ s.ended) ∧
    t.called = names.filterMap (s.callbackAt side) ++ s.called ∧
    t.broken = (s.broken || names.any (fun name => (s.callbackAt side name).isNone))
  rest : t.started = s.started ∧ t.ended = s.ended ∧ t.stopped = s.stopped

variable {s t : Watched}

theorem start_callbackAt {δ : Type} {table : JobTable δ Nat} {name other : Bytes} {job : ImageJob δ} {process : Nat}
    {callback : Bool} : (table.start name job (if callback then some process else none)).callbacks.find other =
      if other = name ∧ callback then some process else table.callbacks.find other := by
  rw [JobTable.find_start_callbacks]
  cases callback <;> simp

theorem download_starts {name localDir : Bytes} {fromServer : ImageServer} {listed : Option Int} {process : Nat}
    {callback : Bool} (ran : s.step (.download name localDir fromServer listed process callback) = some t) :
    t = s ∨ Starts s t ⟨.download, name, process, callback⟩ := by
  rw [step] at ran
  by_cases used : s.fresh process = false
  · rw [if_pos used] at ran
    cases ran
  · rw [if_neg used] at ran
    unfold ImageManager.download at ran
    have fresh := (Bool.not_eq_false _).mp used
    by_cases invalid : fromServer.ip = [] ∨ fromServer.port = [] ∨ fromServer.modulename = []
    · rw [if_pos invalid] at ran
      cases ran
      exact Or.inl rfl
    · rw [if_neg invalid] at ran
      cases listed with
      | none =>
        cases ran
        exact Or.inl rfl
      | some size =>
        cases ran
        refine Or.inr ⟨fresh, fun side other => ?_, fun side other => ?_, rfl, rfl, rfl, rfl, rfl⟩
        · cases side <;> simp [jobAt, JobTable.processAt_start]
        · cases side <;> simp [callbackAt, start_callbackAt]

theorem upload_starts {name : Bytes} {toServer : ImageServer} {size : Int} {process : Nat}
    {callback : Bool} (ran : s.step (.upload name toServer size process callback) = some t) :
    t = s ∨ Starts s t ⟨.upload, name, process, callback⟩ := by
  rw [step] at ran
  by_cases used : s.fresh process = false
  · rw [if_pos used] at ran
    cases ran
  · rw [if_neg used] at ran
    unfold ImageManager.upload at ran
    have fresh := (Bool.not_eq_false _).mp used
    by_cases invalid : toServer.ip = [] ∨ toServer.port = [] ∨ toServer.modulename = []
    · rw [if_pos invalid] at ran
      cases ran
      exact Or.inl rfl
    · rw [if_neg invalid] at ran
      cases ran
      refine Or.inr ⟨fresh, fun side other => ?_, fun side other => ?_, rfl, rfl, rfl, rfl, rfl⟩
      · cases side <;> simp [jobAt, JobTable.processAt_start]
      · cases side <;> simp [callbackAt, start_callbackAt]

theorem kill_manager (process : Option Nat) : (s.kill process).manager = s.manager := by cases process <;> rfl

theorem mem_kill_ended {process : Option Nat} {p : Nat} :
    p ∈ (s.kill process).ended ↔ p ∈ s.ended ∨ process = some p := by
  cases process with
  | none => simp [kill]
  | some q => simp [kill, eq_comm, or_comm]

theorem mem_kill_stopped {process : Option Nat} {p : Nat} :
    p ∈ (s.kill process).stopped ↔ p ∈ s.stopped ∨ process = some p := by
  cases process with
  | none => simp [kill]
  | some q => simp [kill, eq_comm, or_comm]

theorem kill_rest (process : Option Nat) : (s.kill process).started = s.started ∧
    (s.kill process).called = s.called ∧ (s.kill process).broken = s.broken := by
  cases process <;> exact ⟨rfl, rfl, rfl⟩

theorem terminated_eq {δ : Type} {name : Bytes} {table : JobTable δ Nat} {p : Nat} :
    ImageManager.terminated s.running name table = some p ↔ table.processAt name = some p ∧ p ∉ s.ended := by
  rw [ImageManager.terminated, Option.filter_eq_some_iff, running, decide_eq_true_iff]

/-- What a stop does to the processes, by the one that the table has. -/
theorem stop_processes {δ : Type} {name : Bytes} {table : JobTable δ Nat} (s : Watched)
    (m : ImageManager Nat) (p : Nat) :
    (p ∈ (kill (ImageManager.terminated s.running name table) { s with manager := m }).ended ↔
        p ∈ s.ended ∨ table.processAt name = some p) ∧
      (p ∈ (kill (ImageManager.terminated s.running name table) { s with manager := m }).stopped ↔
        p ∈ s.stopped ∨ table.processAt name = some p ∧ p ∉ s.ended) := by
  rw [mem_kill_ended, mem_kill_stopped, terminated_eq]
  exact ⟨by tauto, Iff.rfl⟩

theorem stop_stops {side : Side} {name : Bytes} (ran : s.step (.stop side name) = some t) :
    Stops s t side name := by
  cases side with
  | download =>
    cases ran
    refine ⟨fun other file => ?_, fun other file => ?_, fun p => (stop_processes s _ p).1,
      fun p => (stop_processes s _ p).2, kill_rest _⟩
    · cases other <;> simp [jobAt, kill_manager, ImageManager.terminateDownload, JobTable.processAt_erase]
    · cases other <;> simp [callbackAt, kill_manager, ImageManager.terminateDownload, JobTable.find_erase_callbacks]
  | upload =>
    cases ran
    refine ⟨fun other file => ?_, fun other file => ?_, fun p => (stop_processes s _ p).1,
      fun p => (stop_processes s _ p).2, kill_rest _⟩
    · cases other <;> simp [jobAt, kill_manager, ImageManager.terminateUpload, JobTable.processAt_erase]
    · cases other <;> simp [callbackAt, kill_manager, ImageManager.terminateUpload, JobTable.find_erase_callbacks]

theorem mem_ended_names {δ : Type} {name : Bytes} {table : JobTable δ Nat} :
    name ∈ JobTable.endedNames s.running table.jobs.entries ↔ ∃ p, table.processAt name = some p ∧ p ∈ s.ended := by
  rw [JobTable.mem_endedNames]
  simp [running]

/-- What a round does to one table. -/
theorem check_table {δ : Type} (table : JobTable δ Nat) (s : Watched) :
    (∀ name, (table.check s.running).2.processAt name =
        if ∃ p, table.processAt name = some p ∧ p ∈ s.ended then none else table.processAt name) ∧
      (∀ name, (table.check s.running).2.callbacks.find name =
        if ∃ p, table.processAt name = some p ∧ p ∈ s.ended then none else table.callbacks.find name) ∧
      ∃ names : List Bytes, names.Nodup ∧ (∀ name, name ∈ names ↔ ∃ p, table.processAt name = some p ∧
        p ∈ s.ended) ∧
        (table.check s.running).1.filterMap id = names.filterMap table.callbacks.find ∧
        (table.check s.running).1.any (·.isNone) = names.any (fun name => (table.callbacks.find name).isNone) := by
  refine ⟨fun name => ?_, fun name => ?_, JobTable.endedNames s.running table.jobs.entries,
    JobTable.endedNames_nodup _ _, fun name => mem_ended_names, ?_, ?_⟩
  · simp only [JobTable.check_processAt, mem_ended_names]
  · simp only [JobTable.check_callbacks, mem_ended_names]
  · rw [JobTable.check_found, List.filterMap_map]
    rfl
  · rw [JobTable.check_found, List.any_map]
    rfl

theorem check_checks {side : Side} (ran : s.step (.check side) = some t) : Checks s t side := by
  cases side with
  | download =>
    obtain ⟨jobs, callbacks, names, distinct, listed, called, broken⟩ := check_table s.manager.downloads s
    cases ran
    refine ⟨fun other name => ?_, fun other name => ?_,
      ⟨names, distinct, listed, congrArg (· ++ s.called) called, congrArg (s.broken || ·) broken⟩, rfl, rfl, rfl⟩
    · cases other <;> simp [jobAt, call, jobs]
    · cases other <;> simp [callbackAt, jobAt, call, callbacks]
  | upload =>
    obtain ⟨jobs, callbacks, names, distinct, listed, called, broken⟩ := check_table s.manager.uploads s
    cases ran
    refine ⟨fun other name => ?_, fun other name => ?_,
      ⟨names, distinct, listed, congrArg (· ++ s.called) called, congrArg (s.broken || ·) broken⟩, rfl, rfl, rfl⟩
    · cases other <;> simp [jobAt, call, jobs]
    · cases other <;> simp [callbackAt, jobAt, call, callbacks]

/-- What the claims about the check thread come to in one state. -/
structure Kept (s : Watched) : Prop where
  registered : s.broken = false
  keys : ∀ side name, s.callbackAt side name ≠ none → s.jobAt side name ≠ none
  removed : ∀ start ∈ s.started, start.process ∉ s.ended → s.jobAt start.side start.name = some start.process
  once : s.called.Nodup
  earned : ∀ p ∈ s.called, p ∈ s.ended ∧ p ∉ s.stopped ∧ ∃ start ∈ s.started, start.process = p ∧
    start.callback = true
  owed : ∀ start ∈ s.started, start.callback = true → start.process ∈ s.ended → start.process ∉ s.stopped →
    start.process ∈ s.called ∨
      s.jobAt start.side start.name = some start.process ∧ s.callbackAt start.side start.name = some start.process

/-- A start finds its name free, or there is only a job without a callback
that has ended. A stop does not come between the end of a job with a
callback and the next round. A round finds a callback for each job that has
ended. -/
def Orderly (s : Watched) : ImageEvent → Prop
  | .download name _ _ _ _ _ => ∀ p, s.jobAt .download name = some p → p ∈ s.ended ∧
      s.callbackAt .download name = none
  | .upload name _ _ _ _ => ∀ p, s.jobAt .upload name = some p → p ∈ s.ended ∧ s.callbackAt .upload name = none
  | .stop side name => ∀ p, s.jobAt side name = some p → p ∈ s.ended → s.callbackAt side name = none
  | .exit _ => True
  | .check side => ∀ name p, s.jobAt side name = some p → p ∈ s.ended → s.callbackAt side name ≠ none

/-- How the tables and the past fit together. -/
structure Matched (s : Watched) : Prop extends Kept s where
  distinct : (s.started.map (·.process)).Nodup
  job : ∀ side name p, s.jobAt side name = some p →
    p ∉ s.called ∧ p ∉ s.stopped ∧ ∃ start ∈ s.started, start.side = side ∧ start.name = name ∧ start.process = p ∧
      (start.callback = true → s.callbackAt side name = some p)
  callback : ∀ side name p, s.callbackAt side name = some p → s.jobAt side name = some p ∧
    ⟨side, name, p, true⟩ ∈ s.started
  past : ∀ p ∈ s.stopped, p ∈ s.ended ∧ ∃ start ∈ s.started, start.process = p

theorem Matched.initial : Matched initial := by
  refine ⟨⟨rfl, fun side name some => ?_, List.forall_mem_nil _, List.nodup_nil, List.forall_mem_nil _,
    List.forall_mem_nil _⟩, List.nodup_nil, fun side name p found => ?_, fun side name p found => ?_,
      List.forall_mem_nil _⟩
  · cases side <;> exact absurd rfl some
  · cases side <;> cases found
  · cases side <;> cases found

/-- A process was started once. -/
theorem Matched.same (fits : Matched s) {a b : Started} (first : a ∈ s.started) (second : b ∈ s.started)
    (process : a.process = b.process) : a = b := List.inj_on_of_nodup_map fits.distinct first second process

/-- A start takes its name on its side, and the callback if it has one. The
name may be taken by a job without a callback that has ended. -/
def FreeFor (s : Watched) (start : Started) : Prop :=
  ∀ p, s.jobAt start.side start.name = some p → p ∈ s.ended ∧ s.callbackAt start.side start.name = none

/-- The callbacks that were there before are those of other names. -/
theorem Matched.elsewhere (fits : Matched s) {start : Started} (free : FreeFor s start) {side : Side} {name : Bytes}
    {p : Nat} (listed : s.callbackAt side name = some p) : ¬ (side = start.side ∧ name = start.name) := by
  rintro ⟨rfl, rfl⟩
  have none := (free p (fits.callback _ _ _ listed).1).2
  rw [none] at listed
  cases listed

theorem Matched.starts_removed (fits : Matched s) {start : Started} (starts : Starts s t start)
    (free : FreeFor s start) {old : Started} (member : old ∈ t.started) (running : old.process ∉ t.ended) :
    t.jobAt old.side old.name = some old.process := by
  obtain ⟨_, job, _, started, ended, _⟩ := starts
  rw [started] at member
  rw [ended] at running
  rw [job]
  rcases List.mem_cons.mp member with rfl | before
  · rw [if_pos ⟨rfl, rfl⟩]
  · have there := fits.removed old before running
    rw [if_neg, there]
    rintro ⟨side, name⟩
    rw [side, name] at there
    exact running (free _ there).1

theorem Matched.starts_owed (fits : Matched s) {start : Started} (starts : Starts s t start)
    (free : FreeFor s start) {old : Started} (member : old ∈ t.started) (has : old.callback = true)
    (past : old.process ∈ t.ended) (unstopped : old.process ∉ t.stopped) : old.process ∈ t.called ∨
      t.jobAt old.side old.name = some old.process ∧ t.callbackAt old.side old.name = some old.process := by
  obtain ⟨_, job, callback, started, ended, stopped, called, _⟩ := starts
  rw [started] at member
  rw [ended] at past
  rw [stopped] at unstopped
  rw [called, job, callback]
  rcases List.mem_cons.mp member with rfl | before
  · rw [if_pos ⟨rfl, rfl⟩, if_pos ⟨⟨rfl, rfl⟩, has⟩]
    exact Or.inr ⟨rfl, rfl⟩
  · rcases fits.owed old before has past unstopped with done | ⟨there, waits⟩
    · exact Or.inl done
    · have other := fits.elsewhere free waits
      rw [if_neg other, if_neg (fun both => other both.1)]
      exact Or.inr ⟨there, waits⟩

/-- A process that starts has not been started before, so it was neither
called nor stopped. -/
theorem Starts.new {start : Started} (starts : Starts s t start) :
    ∀ old ∈ s.started, old.process ≠ start.process := by
  simpa [Watched.fresh] using starts.fresh

theorem Matched.starts_job (fits : Matched s) {start : Started} (starts : Starts s t start) {side : Side}
    {name : Bytes} {p : Nat} (found : t.jobAt side name = some p) :
    p ∉ t.called ∧ p ∉ t.stopped ∧ ∃ old ∈ t.started, old.side = side ∧ old.name = name ∧ old.process = p ∧
      (old.callback = true → t.callbackAt side name = some p) := by
  have new := starts.new
  obtain ⟨_, job, callback, started, ended, stopped, called, _⟩ := starts
  rw [job] at found
  rw [called, stopped, started]
  by_cases key : side = start.side ∧ name = start.name
  · rw [if_pos key] at found
    obtain rfl := Option.some.inj found
    refine ⟨fun listed => ?_, fun listed => ?_, start, List.mem_cons_self, key.1.symm, key.2.symm, rfl,
      fun has => ?_⟩
    · obtain ⟨_, _, old, before, same, _⟩ := fits.earned _ listed
      exact new old before same
    · obtain ⟨_, old, before, same⟩ := fits.past _ listed
      exact new old before same
    · rw [callback, if_pos ⟨key, has⟩]
  · rw [if_neg key] at found
    obtain ⟨uncalled, unstopped, old, before, there, named, same, own⟩ := fits.job side name p found
    refine ⟨uncalled, unstopped, old, List.mem_cons_of_mem _ before, there, named, same, fun has => ?_⟩
    rw [callback, if_neg (fun both => key both.1)]
    exact own has

theorem Matched.starts_callback (fits : Matched s) {start : Started} (starts : Starts s t start)
    (free : FreeFor s start) {side : Side} {name : Bytes} {p : Nat} (found : t.callbackAt side name = some p) :
    t.jobAt side name = some p ∧ ⟨side, name, p, true⟩ ∈ t.started := by
  obtain ⟨_, job, callback, started, _⟩ := starts
  rw [callback] at found
  rw [started]
  by_cases key : (side = start.side ∧ name = start.name) ∧ start.callback
  · rw [if_pos key] at found
    obtain rfl := Option.some.inj found
    obtain ⟨⟨rfl, rfl⟩, has⟩ := key
    refine ⟨by rw [job, if_pos ⟨rfl, rfl⟩], ?_⟩
    rw [← has]
    exact List.mem_cons_self
  · rw [if_neg key] at found
    obtain ⟨there, before⟩ := fits.callback side name p found
    refine ⟨?_, List.mem_cons_of_mem _ before⟩
    rw [job, if_neg (fits.elsewhere free found), there]

theorem Matched.starts (fits : Matched s) {start : Started} (starts : Starts s t start) (free : FreeFor s start) :
    Matched t := by
  have new := starts.new
  obtain ⟨_, job, callback, started, ended, stopped, called, broken⟩ := id starts
  refine ⟨⟨?_, ?_, fun old => fits.starts_removed starts free, ?_, ?_, fun old => fits.starts_owed starts free⟩, ?_,
    fun side name p => fits.starts_job starts, fun side name p => fits.starts_callback starts free, ?_⟩
  · rw [broken, fits.registered]
  · intro side name some
    rw [job]
    split
    · nofun
    · rename_i other
      rw [callback, if_neg (fun both => other both.1)] at some
      exact fits.keys side name some
  · rw [called]
    exact fits.once
  · intro p member
    rw [called] at member
    obtain ⟨past, unstopped, old, before, rest⟩ := fits.earned p member
    rw [ended, stopped, started]
    exact ⟨past, unstopped, old, List.mem_cons_of_mem _ before, rest⟩
  · rw [started]
    refine List.nodup_cons.mpr ⟨fun member => ?_, fits.distinct⟩
    obtain ⟨old, before, same⟩ := List.mem_map.mp member
    exact new old before same
  · intro p listed
    rw [stopped] at listed
    obtain ⟨past, old, before, same⟩ := fits.past p listed
    rw [ended, started]
    exact ⟨past, old, List.mem_cons_of_mem _ before, same⟩

/-- Some names are gone from the tables with their jobs and callbacks; the
others keep theirs. -/
structure Drops (s t : Watched) (gone : Side → Bytes → Prop) : Prop where
  lost : ∀ side name, gone side name → t.jobAt side name = none ∧ t.callbackAt side name = none
  kept : ∀ side name, ¬ gone side name →
    t.jobAt side name = s.jobAt side name ∧ t.callbackAt side name = s.callbackAt side name
  started : t.started = s.started

theorem Stops.drops {side : Side} {name : Bytes} (stops : Stops s t side name) :
    Drops s t fun other file => other = side ∧ file = name where
  lost other file gone := by rw [stops.job, stops.callback, if_pos gone, if_pos gone]; exact ⟨rfl, rfl⟩
  kept other file kept := by rw [stops.job, stops.callback, if_neg kept, if_neg kept]; exact ⟨rfl, rfl⟩
  started := stops.rest.1

theorem Checks.drops {side : Side} (checks : Checks s t side) :
    Drops s t fun other name => other = side ∧ ∃ p, s.jobAt side name = some p ∧ p ∈ s.ended where
  lost other name gone := by rw [checks.job, checks.callback, if_pos gone, if_pos gone]; exact ⟨rfl, rfl⟩
  kept other name kept := by rw [checks.job, checks.callback, if_neg kept, if_neg kept]; exact ⟨rfl, rfl⟩
  started := checks.rest.1

theorem Drops.jobAt {gone : Side → Bytes → Prop} (drops : Drops s t gone) {side : Side} {name : Bytes} {p : Nat}
    (found : t.jobAt side name = some p) : ¬ gone side name ∧ s.jobAt side name = some p := by
  have kept : ¬ gone side name := fun lost => by
    rw [(drops.lost side name lost).1] at found
    cases found
  rw [(drops.kept side name kept).1] at found
  exact ⟨kept, found⟩

theorem Drops.callbackAt {gone : Side → Bytes → Prop} (drops : Drops s t gone) {side : Side} {name : Bytes}
    (some : t.callbackAt side name ≠ none) :
    ¬ gone side name ∧ s.callbackAt side name = t.callbackAt side name := by
  have kept : ¬ gone side name := fun lost => some (drops.lost side name lost).2
  exact ⟨kept, (drops.kept side name kept).2.symm⟩

/-- What is left of the tables still fits together. -/
theorem Matched.drops_keys (fits : Matched s) {gone : Side → Bytes → Prop} (drops : Drops s t gone) (side : Side)
    (name : Bytes) (some : t.callbackAt side name ≠ none) : t.jobAt side name ≠ none := by
  obtain ⟨kept, same⟩ := drops.callbackAt some
  rw [← same] at some
  rw [(drops.kept side name kept).1]
  exact fits.keys side name some

theorem Matched.drops_callback (fits : Matched s) {gone : Side → Bytes → Prop} (drops : Drops s t gone)
    (side : Side) (name : Bytes) (p : Nat) (found : t.callbackAt side name = some p) :
    t.jobAt side name = some p ∧ ⟨side, name, p, true⟩ ∈ t.started := by
  obtain ⟨kept, same⟩ := drops.callbackAt (found ▸ Option.some_ne_none p)
  rw [(drops.kept side name kept).1, drops.started]
  exact fits.callback side name p (same.trans found)

theorem Matched.drops_job (fits : Matched s) {gone : Side → Bytes → Prop} (drops : Drops s t gone) {side : Side}
    {name : Bytes} {p : Nat} (found : t.jobAt side name = some p) :
    ∃ start ∈ t.started, start.side = side ∧ start.name = name ∧ start.process = p ∧
      (start.callback = true → t.callbackAt side name = some p) := by
  obtain ⟨kept, before⟩ := drops.jobAt found
  rw [drops.started, (drops.kept side name kept).2]
  exact (fits.job side name p before).2.2

/-- A process has its job under one name. -/
theorem Matched.place (fits : Matched s) {side other : Side} {name file : Bytes} {p : Nat}
    (first : s.jobAt side name = some p) (second : s.jobAt other file = some p) : side = other ∧ name = file := by
  obtain ⟨_, _, start, member, rfl, rfl, same, _⟩ := fits.job side name p first
  obtain ⟨_, _, start', member', rfl, rfl, same', _⟩ := fits.job other file p second
  obtain rfl := fits.same member member' (same.trans same'.symm)
  exact ⟨rfl, rfl⟩

theorem Matched.stops_removed (fits : Matched s) {side : Side} {name : Bytes} (stops : Stops s t side name)
    {start : Started} (member : start ∈ t.started) (running : start.process ∉ t.ended) :
    t.jobAt start.side start.name = some start.process := by
  rw [stops.drops.started] at member
  rw [stops.killed, not_or] at running
  have there := fits.removed start member running.1
  rw [stops.job, if_neg, there]
  rintro ⟨rfl, rfl⟩
  exact running.2 there

/-- A stop that comes in time does not take the callback of a job that has
ended. -/
theorem Matched.stops_owed (fits : Matched s) {side : Side} {name : Bytes} (stops : Stops s t side name)
    (timely : ∀ p, s.jobAt side name = some p → p ∈ s.ended → s.callbackAt side name = none) {start : Started}
    (member : start ∈ t.started) (has : start.callback = true) (past : start.process ∈ t.ended)
    (unstopped : start.process ∉ t.stopped) : start.process ∈ t.called ∨
      t.jobAt start.side start.name = some start.process ∧
        t.callbackAt start.side start.name = some start.process := by
  obtain ⟨job, callback, ended, stopped, started, called, _⟩ := stops
  rw [started] at member
  rw [ended] at past
  rw [stopped, not_or, not_and, not_not] at unstopped
  rw [called, job, callback]
  have before : start.process ∈ s.ended := past.elim id unstopped.2
  rcases fits.owed start member has before unstopped.1 with done | ⟨there, waits⟩
  · exact Or.inl done
  · have other : ¬ (start.side = side ∧ start.name = name) := by
      rintro ⟨rfl, rfl⟩
      rw [timely _ there before] at waits
      cases waits
    rw [if_neg other, if_neg other]
    exact Or.inr ⟨there, waits⟩

/-- A job that stays is not that of the process that was stopped. -/
theorem Matched.stops_unstopped (fits : Matched s) {side other : Side} {name file : Bytes} {p : Nat}
    (stops : Stops s t side name) (found : t.jobAt other file = some p) : p ∉ t.called ∧ p ∉ t.stopped := by
  obtain ⟨kept, before⟩ := stops.drops.jobAt found
  obtain ⟨uncalled, unstopped, _⟩ := fits.job other file p before
  rw [stops.rest.2.1, stops.stopped]
  refine ⟨uncalled, ?_⟩
  rintro (earlier | ⟨first, _⟩)
  · exact unstopped earlier
  · exact kept (fits.place before first)

theorem Matched.stops_past (fits : Matched s) {side : Side} {name : Bytes} (stops : Stops s t side name) {p : Nat}
    (listed : p ∈ t.stopped) : p ∈ t.ended ∧ ∃ start ∈ t.started, start.process = p := by
  rw [stops.stopped] at listed
  rw [stops.killed, stops.rest.1]
  rcases listed with before | ⟨there, _⟩
  · exact ⟨Or.inl (fits.past p before).1, (fits.past p before).2⟩
  · obtain ⟨_, _, start, before, _, _, same, _⟩ := fits.job side name p there
    exact ⟨Or.inr there, start, before, same⟩

theorem Matched.stops (fits : Matched s) {side : Side} {name : Bytes} (stops : Stops s t side name)
    (timely : ∀ p, s.jobAt side name = some p → p ∈ s.ended → s.callbackAt side name = none) : Matched t := by
  obtain ⟨started, called, broken⟩ := stops.rest
  refine ⟨⟨?_, fits.drops_keys stops.drops, fun start => fits.stops_removed stops, ?_, ?_,
    fun start => fits.stops_owed stops timely⟩, ?_, fun other file p found => ?_,
      fits.drops_callback stops.drops, fun p => fits.stops_past stops⟩
  · rw [broken, fits.registered]
  · rw [called]
    exact fits.once
  · intro p member
    rw [called] at member
    obtain ⟨past, unstopped, earned⟩ := fits.earned p member
    rw [stops.killed, stops.stopped, started]
    exact ⟨Or.inl past, fun wrong => wrong.elim unstopped (fun alive => alive.2 past), earned⟩
  · rw [started]
    exact fits.distinct
  · obtain ⟨uncalled, unstopped⟩ := fits.stops_unstopped stops found
    exact ⟨uncalled, unstopped, fits.drops_job stops.drops found⟩

theorem Matched.exits (fits : Matched s) (process : Nat) : Matched { s with ended := process :: s.ended } := by
  refine ⟨⟨fits.registered, fits.keys, fun start member running => ?_, fits.once, fun p member => ?_,
    fun start member has past unstopped => ?_⟩, fits.distinct, fits.job, fits.callback, fun p listed => ?_⟩
  · exact fits.removed start member (fun before => running (List.mem_cons_of_mem process before))
  · obtain ⟨past, rest⟩ := fits.earned p member
    exact ⟨List.mem_cons_of_mem process past, rest⟩
  · by_cases before : start.process ∈ s.ended
    · exact fits.owed start member has before unstopped
    · have there := fits.removed start member before
      obtain ⟨_, _, start', member', _, _, same, own⟩ := fits.job _ _ _ there
      obtain rfl := fits.same member' member same
      exact Or.inr ⟨there, own has⟩
  · exact ⟨List.mem_cons_of_mem process (fits.past p listed).1, (fits.past p listed).2⟩

/-- A round calls the callbacks of the jobs that have ended on its side. -/
theorem Matched.mem_checks_called (fits : Matched s) {side : Side} (checks : Checks s t side) {p : Nat} :
    p ∈ t.called ↔
      (∃ name, s.jobAt side name = some p ∧ p ∈ s.ended ∧ s.callbackAt side name = some p) ∨ p ∈ s.called := by
  obtain ⟨names, _, listed, called, _⟩ := checks.looked
  rw [called, List.mem_append, List.mem_filterMap]
  refine or_congr_left ⟨?_, ?_⟩
  · rintro ⟨name, member, waits⟩
    obtain ⟨q, there, past⟩ := (listed name).mp member
    obtain rfl := Option.some.inj (there.symm.trans (fits.callback _ _ _ waits).1)
    exact ⟨name, there, past, waits⟩
  · rintro ⟨name, there, past, waits⟩
    exact ⟨name, (listed name).mpr ⟨p, there, past⟩, waits⟩

/-- A round leaves the job of a process alone that has not ended, or that is
on the other side. -/
theorem Checks.stays {side other : Side} {name : Bytes} {p : Nat} (checks : Checks s t side)
    (there : s.jobAt other name = some p) (apart : other ≠ side ∨ p ∉ s.ended) :
    t.jobAt other name = some p ∧ t.callbackAt other name = s.callbackAt other name := by
  rw [← there]
  refine checks.drops.kept other name ?_
  rintro ⟨rfl, q, again, past⟩
  obtain rfl := Option.some.inj (there.symm.trans again)
  exact apart.elim (absurd rfl) (absurd past)

theorem Matched.checks_registered (fits : Matched s) {side : Side} (checks : Checks s t side)
    (found : ∀ name p, s.jobAt side name = some p → p ∈ s.ended → s.callbackAt side name ≠ none) :
    t.broken = false := by
  obtain ⟨names, _, listed, _, broken⟩ := checks.looked
  rw [broken, fits.registered, Bool.false_or, List.any_eq_false]
  intro name member
  obtain ⟨p, there, past⟩ := (listed name).mp member
  have some := found name p there past
  rwa [Option.isNone_iff_eq_none]

/-- What a round calls has not been called before, and is not called under
two names. -/
theorem Matched.checks_once (fits : Matched s) {side : Side} (checks : Checks s t side) : t.called.Nodup := by
  obtain ⟨names, distinct, _, called, _⟩ := checks.looked
  rw [called]
  refine List.nodup_append.mpr ⟨?_, fits.once, ?_⟩
  · refine distinct.filterMap (fun a b p first second => ?_)
    exact (fits.place (fits.callback side a p first).1 (fits.callback side b p second).1).2
  · intro p new q old same
    subst same
    obtain ⟨name, _, waits⟩ := List.mem_filterMap.mp new
    exact (fits.job side name p (fits.callback side name p waits).1).1 old

theorem Matched.checks_earned (fits : Matched s) {side : Side} (checks : Checks s t side) {p : Nat}
    (member : p ∈ t.called) :
    p ∈ t.ended ∧ p ∉ t.stopped ∧ ∃ start ∈ t.started, start.process = p ∧ start.callback = true := by
  obtain ⟨started, ended, stopped⟩ := checks.rest
  rw [ended, stopped, started]
  rcases (fits.mem_checks_called checks).mp member with ⟨name, there, past, waits⟩ | before
  · exact ⟨past, (fits.job side name p there).2.1, _, (fits.callback side name p waits).2, rfl, rfl⟩
  · exact fits.earned p before

theorem Matched.checks_owed (fits : Matched s) {side : Side} (checks : Checks s t side) {start : Started}
    (member : start ∈ t.started) (has : start.callback = true) (past : start.process ∈ t.ended)
    (unstopped : start.process ∉ t.stopped) : start.process ∈ t.called ∨
      t.jobAt start.side start.name = some start.process ∧
        t.callbackAt start.side start.name = some start.process := by
  obtain ⟨started, ended, stopped⟩ := checks.rest
  rw [started] at member
  rw [ended] at past
  rw [stopped] at unstopped
  rcases fits.owed start member has past unstopped with done | ⟨there, waits⟩
  · exact Or.inl ((fits.mem_checks_called checks).mpr (Or.inr done))
  · by_cases here : start.side = side
    · subst here
      exact Or.inl ((fits.mem_checks_called checks).mpr (Or.inl ⟨start.name, there, past, waits⟩))
    · obtain ⟨job, callback⟩ := checks.stays there (Or.inl here)
      rw [callback]
      exact Or.inr ⟨job, waits⟩

/-- The process of a job that stays was not called in the round. -/
theorem Matched.checks_uncalled (fits : Matched s) {side other : Side} {name : Bytes} {p : Nat}
    (checks : Checks s t side) (found : t.jobAt other name = some p) : p ∉ t.called := by
  obtain ⟨kept, before⟩ := checks.drops.jobAt found
  intro wrong
  rcases (fits.mem_checks_called checks).mp wrong with ⟨file, again, past, _⟩ | earlier
  · obtain ⟨rfl, rfl⟩ := fits.place before again
    exact kept ⟨rfl, p, before, past⟩
  · exact (fits.job other name p before).1 earlier

theorem Matched.checks (fits : Matched s) {side : Side} (checks : Checks s t side)
    (found : ∀ name p, s.jobAt side name = some p → p ∈ s.ended → s.callbackAt side name ≠ none) : Matched t := by
  obtain ⟨started, ended, stopped⟩ := checks.rest
  refine ⟨⟨fits.checks_registered checks found, fits.drops_keys checks.drops, fun start member running => ?_,
    fits.checks_once checks, fun p => fits.checks_earned checks, fun start => fits.checks_owed checks⟩, ?_,
      fun other name p there => ?_, fits.drops_callback checks.drops, ?_⟩
  · rw [started] at member
    rw [ended] at running
    exact (checks.stays (fits.removed start member running) (Or.inr running)).1
  · rw [started]
    exact fits.distinct
  · rw [stopped]
    exact ⟨fits.checks_uncalled checks there, (fits.job other name p (checks.drops.jobAt there).2).2.1,
      fits.drops_job checks.drops there⟩
  · rw [stopped, ended, started]
    exact fits.past

/-- After a round on a side nothing of that side is owed. -/
theorem Matched.settled (fits : Matched t) {side : Side} (checks : Checks s t side) {start : Started}
    (member : start ∈ t.started) (here : start.side = side) (has : start.callback = true)
    (past : start.process ∈ t.ended) (unstopped : start.process ∉ t.stopped) : start.process ∈ t.called := by
  rcases fits.owed start member has past unstopped with done | ⟨there, _⟩
  · exact done
  · rw [checks.job] at there
    split at there
    · cases there
    · rename_i kept
      subst here
      rw [checks.rest.2.1] at past
      exact absurd ⟨rfl, _, there, past⟩ kept

theorem Matched.step (fits : Matched s) {event : ImageEvent} (orderly : Orderly s event)
    (ran : s.step event = some t) :
    Matched t := by
  cases event with
  | download name localDir fromServer listed process callback =>
    rcases download_starts ran with rfl | starts
    · exact fits
    · exact fits.starts starts orderly
  | upload name toServer size process callback =>
    rcases upload_starts ran with rfl | starts
    · exact fits
    · exact fits.starts starts orderly
  | stop side name => exact fits.stops (stop_stops ran) orderly
  | exit process =>
    cases ran
    exact fits.exits process
  | check side => exact fits.checks (check_checks ran) orderly

/-- In a run of orderly events the books of downloads and uploads are kept,
and a round of the check thread has called every callback that its side
owed, once each. -/
theorem books_kept {trace : List ImageEvent} (run : Run Watched.step Orderly initial trace s) :
    Kept s ∧ ∀ side rest, trace = .check side :: rest → ∀ start ∈ s.started, start.side = side →
      start.callback = true →
      start.process ∈ s.ended → start.process ∉ s.stopped → s.called.count start.process = 1 := by
  have fits : Matched s := run.invariant Matched.initial (fun fits orderly ran => fits.step orderly ran)
  refine ⟨fits.toKept, ?_⟩
  rintro side rest rfl start member here has past unstopped
  cases run with
  | next before orderly ran =>
    have called := fits.settled (check_checks ran) member here has past unstopped
    exact List.count_eq_one_of_mem fits.once called

/-- The upload of a file, in process 1. -/
def uploadImage (callback : Bool) : ImageEvent :=
  .upload (str "/data/a.qcow2") ⟨str "10.0.0.2", str "873", str "images"⟩ 1024 1 callback

theorem upload_called_once :
    ∃ s, Run Watched.step Orderly initial [.check .upload, .exit 1, uploadImage true] s ∧ Kept s := by
  obtain ⟨s, begun⟩ : ∃ s, initial.step (uploadImage true) = some s := ⟨_, rfl⟩
  have free : Orderly initial (uploadImage true) := fun p there => by cases there
  have started : Run Watched.step Orderly initial [uploadImage true] s := .next .start free begun
  have ended : Run Watched.step Orderly initial [.exit 1, uploadImage true] { s with ended := 1 :: s.ended } :=
    .next started trivial rfl
  have found : Orderly { s with ended := 1 :: s.ended } (.check .upload) := by
    intro name p there _ none
    obtain ⟨_, _, start, member, _, _, _, own⟩ := (Matched.initial.step free begun).job .upload name p there
    have all : s.started = [⟨.upload, str "/data/a.qcow2", 1, true⟩] := by
      cases begun
      rfl
    rw [all, List.mem_singleton] at member
    have waits : s.callbackAt .upload name = some p := own (by rw [member])
    exact Option.some_ne_none p (waits.symm.trans none)
  obtain ⟨t, looked⟩ : ∃ t, step { s with ended := 1 :: s.ended } (.check .upload) = some t := ⟨_, rfl⟩
  exact ⟨t, .next ended found looked, (books_kept (.next ended found looked)).1⟩

/-- An upload without a callback, as the requests for images start it, ends:
the round follows an iterator at the end of its map. -/
theorem no_callback_followed :
    ∃ trace s, Reaches Watched.step initial trace s ∧ s.broken = true ∧ ¬ Kept s := by
  have ran : (runAll Watched.step initial [uploadImage false, .exit 1, .check .upload]).any (·.broken) = true := by
    decide
  obtain ⟨s, reached, broken⟩ := (Option.any_eq_true _ _).mp ran
  exact ⟨_, s, Reaches.of_runAll _ .start reached, broken,
    fun kept => Bool.false_ne_true (kept.registered.symm.trans broken)⟩

end Watched

end DbcNode
