import DbcNode.Image.Snapshots

namespace DbcNode.SnapshotTable
variable {s t : SnapshotTable} {name file : Bytes}

/-- What the steps keep while they are apart: besides the agreement itself,
each event has its entry, each job the callback of the entry with its file,
and each file on disk an entry. -/
structure Tidy (s : SnapshotTable) : Prop where
  stored : s.db = s.snapshots
  distinct : s.names.Nodup
  keys : ∀ name, s.statusOf name ≠ none ↔ name ∈ s.names
  waiting : (s.pending.map (·.name)).Nodup
  listed : ∀ event ∈ s.pending, ∃ snapshot ∈ s.snapshots, snapshot.name = event.name ∧ snapshot.file = event.file
  creating : ∀ snapshot ∈ s.snapshots, s.statusOf snapshot.name = some .creating →
    ∃ event ∈ s.pending, event.name = snapshot.name ∧ event.file = snapshot.file
  uploading : ∀ snapshot ∈ s.snapshots, s.statusOf snapshot.name = some .uploading →
    s.isUploading snapshot.file = true
  begun : ∀ event, s.working = some (.uploaded event) → s.isUploading event.file = true
  jobs : ∀ file, s.isUploading file = true → ∃ snapshot ∈ s.snapshots,
    snapshot.file = file ∧ s.manager.uploads.callbacks.find file = some snapshot.name
  files : ∀ file ∈ s.files, ∃ snapshot ∈ s.snapshots, snapshot.file = file
  recorded : ∀ snapshot ∈ s.snapshots, (snapshot.name, snapshot.file) ∈ s.made
  fresh : (s.made.map (·.2)).Nodup
  gone : ∀ name ∈ s.terminated, name ∉ s.names

theorem Tidy.initial : Tidy .initial where
  stored := rfl
  distinct := List.nodup_nil
  keys name := ⟨fun wrong => (wrong rfl).elim, fun wrong => (List.not_mem_nil wrong).elim⟩
  waiting := List.nodup_nil
  listed := List.forall_mem_nil _
  creating := List.forall_mem_nil _
  uploading := List.forall_mem_nil _
  begun event wrong := by cases wrong
  jobs file wrong := by cases wrong
  files := List.forall_mem_nil _
  recorded := List.forall_mem_nil _
  fresh := List.nodup_nil
  gone := List.forall_mem_nil _

/-- The name that a file was made for is the only one. -/
theorem Tidy.made_name (tidy : Tidy s) {other : Bytes} (made : (name, file) ∈ s.made)
    (again : (other, file) ∈ s.made) :
    other = name := congrArg Prod.fst (List.inj_on_of_nodup_map tidy.fresh again made rfl)

theorem mem_names : name ∈ s.names ↔ ∃ snapshot ∈ s.snapshots, snapshot.name = name := List.mem_map

theorem Tidy.eq_of_file (tidy : Tidy s) {a b : Snapshot} (first : a ∈ s.snapshots) (second : b ∈ s.snapshots)
    (same : a.file = b.file) : a = b := by
  have made := tidy.recorded b second
  rw [← same] at made
  exact List.inj_on_of_nodup_map tidy.distinct first second (tidy.made_name made (tidy.recorded a first))

/-- A terminated name has nothing left. -/
theorem Tidy.agrees (tidy : Tidy s) : s.Agrees where
  distinct := tidy.distinct
  keys name := by rw [tidy.stored]; exact tidy.keys name
  backed snapshot member status := by
    rcases status with creating | uploading
    · exact .inl (tidy.creating snapshot member creating)
    · exact .inr (tidy.uploading snapshot member uploading)
  gone name terminated := by
    have absent := tidy.gone name terminated
    refine ⟨absent, ?_, fun file made => ⟨?_, ?_⟩⟩
    · by_contra status
      exact absent ((tidy.keys name).mp status)
    · by_contra active
      obtain ⟨snapshot, member, rfl, -⟩ := tidy.jobs file ((Bool.not_eq_false _).mp active)
      exact absent (mem_names.mpr ⟨snapshot, member, tidy.made_name made (tidy.recorded snapshot member)⟩)
    · intro onDisk
      obtain ⟨snapshot, member, rfl⟩ := tidy.files file onDisk
      exact absent (mem_names.mpr ⟨snapshot, member, tidy.made_name made (tidy.recorded snapshot member)⟩)

theorem createAndUploadSnapshot_snapshots (snapshot : Snapshot) (server : ImageServer) :
    (s.createAndUploadSnapshot snapshot server).snapshots = s.snapshots ++ [snapshot] := by
  unfold snapshots createAndUploadSnapshot update
  cases s.info <;> rfl

theorem createAndUploadSnapshot_statusOf (snapshot : Snapshot) (server : ImageServer) :
    (s.createAndUploadSnapshot snapshot server).statusOf name =
      if name = snapshot.name then some .creating else s.statusOf name := by
  have status (info : SnapshotInfo) :
    ((info.addSnapshot snapshot).setSnapshotStatus snapshot.name .creating).status.find name =
      if name = snapshot.name then some .creating else info.status.find name := by
    unfold SnapshotInfo.setSnapshotStatus
    dsimp only
    rw [OrdMap.find_insert]
    by_cases same : name = snapshot.name
    · rw [if_pos same, if_pos same]
    · rw [if_neg same, if_neg same]
      unfold SnapshotInfo.addSnapshot
      dsimp only
      split
      · rfl
      · rw [OrdMap.find_insert, if_neg same]
  unfold statusOf createAndUploadSnapshot update
  cases s.info with
  | none => exact (status ⟨[], .empty⟩).trans (by rfl)
  | some info => exact status info

theorem createAndUploadSnapshot_pending (snapshot : Snapshot) (server : ImageServer) :
    (s.createAndUploadSnapshot snapshot server).pending = s.pending ++ [⟨snapshot.name, snapshot.file, server⟩] :=
  (List.append_assoc _ _ _).symm

theorem Tidy.create (tidy : Tidy s) {snapshot : Snapshot} {server : ImageServer}
    (apart : s.Apart (.create snapshot server)) (ran : s.step (.create snapshot server) = some t) : Tidy t := by
  cases ran
  obtain ⟨newName, newFile⟩ := apart
  have snapshots := createAndUploadSnapshot_snapshots (s := s) snapshot server
  have status (name : Bytes) := @createAndUploadSnapshot_statusOf s name snapshot server
  have pending := createAndUploadSnapshot_pending (s := s) snapshot server
  have names : (s.createAndUploadSnapshot snapshot server).names = s.names ++ [snapshot.name] := by
    unfold SnapshotTable.names
    rw [snapshots, List.map_append]
    rfl
  have old (other : Snapshot) (member : other ∈ s.snapshots) : other.name ≠ snapshot.name :=
    fun same => newName (mem_names.mpr ⟨other, member, same⟩)
  have inside (other : Snapshot) : other ∈ (s.createAndUploadSnapshot snapshot server).snapshots ↔
      other ∈ s.snapshots ∨ other = snapshot := by rw [snapshots]; simp
  have queued (event : CreateSnapshotEvent) : event ∈ (s.createAndUploadSnapshot snapshot server).pending ↔
      event ∈ s.pending ∨ event = ⟨snapshot.name, snapshot.file, server⟩ := by rw [pending]; simp
  refine ⟨rfl, ?_, fun name => ?_, ?_, fun event member => ?_, fun other member creating => ?_,
    fun other member uploading => ?_,
    tidy.begun, fun file active => ?_, fun file onDisk => ?_, fun other member => ?_, ?_, fun name member => ?_⟩
  · change (s.createAndUploadSnapshot snapshot server).names.Nodup
    rw [names]
    exact List.nodup_append.mpr ⟨tidy.distinct,
      List.nodup_singleton _, by simpa using fun a member => ne_of_mem_of_not_mem member newName⟩
  · change (s.createAndUploadSnapshot snapshot server).statusOf name ≠ none ↔
      name ∈ (s.createAndUploadSnapshot snapshot server).names
    rw [status, names, List.mem_append, List.mem_singleton, ← tidy.keys]
    by_cases same : name = snapshot.name <;> simp [same]
  · change ((s.createAndUploadSnapshot snapshot server).pending.map (·.name)).Nodup
    rw [pending, List.map_append]
    refine List.nodup_append.mpr ⟨tidy.waiting, List.nodup_singleton _, ?_⟩
    intro name member other single same
    obtain ⟨event, waits, rfl⟩ := List.mem_map.mp member
    obtain ⟨entry, listed, name, -⟩ := tidy.listed event waits
    refine old entry listed (name.trans (same.trans ?_))
    simpa using single
  · rcases (queued event).mp member with before | rfl
    · obtain ⟨entry, listed, same⟩ := tidy.listed event before
      exact ⟨entry, (inside entry).mpr (.inl listed), same⟩
    · exact ⟨snapshot, (inside snapshot).mpr (.inr rfl), rfl, rfl⟩
  · rcases (inside other).mp member with before | rfl
    · have kept := (status other.name).symm.trans creating
      rw [if_neg (old other before)] at kept
      obtain ⟨event, waits, same⟩ := tidy.creating other before kept
      exact ⟨event, (queued event).mpr (.inl waits), same⟩
    · exact ⟨_, (queued _).mpr (.inr rfl), rfl, rfl⟩
  · rcases (inside other).mp member with before | rfl
    · have kept := (status other.name).symm.trans uploading
      rw [if_neg (old other before)] at kept
      exact tidy.uploading other before kept
    · have wrong := (status other.name).symm.trans uploading
      rw [if_pos rfl] at wrong
      cases wrong
  · obtain ⟨entry, listed, same⟩ := tidy.jobs file active
    exact ⟨entry, (inside entry).mpr (.inl listed), same⟩
  · obtain ⟨entry, listed, same⟩ := tidy.files file onDisk
    exact ⟨entry, (inside entry).mpr (.inl listed), same⟩
  · rcases (inside other).mp member with before | rfl
    · exact List.mem_cons_of_mem _ (tidy.recorded other before)
    · exact List.mem_cons_self
  · exact List.nodup_cons.mpr ⟨newFile, tidy.fresh⟩
  · change name ∉ (s.createAndUploadSnapshot snapshot server).names
    obtain ⟨before, differs⟩ := List.mem_filter.mp member
    rw [names, List.mem_append, List.mem_singleton, not_or]
    exact ⟨tidy.gone name before, by simpa using differs⟩

/-- What a terminate of a listed snapshot changes. -/
structure Terminates (s t : SnapshotTable) (snapshot : Snapshot) : Prop where
  sub : t.snapshots.Sublist s.snapshots
  left : ∀ other, other ∈ t.snapshots ↔ other ∈ s.snapshots ∧ other.name ≠ snapshot.name
  stored : t.db = t.snapshots
  status : ∀ name, t.statusOf name = if name = snapshot.name then none else s.statusOf name
  jobs : ∀ file, t.isUploading file = if file = snapshot.file then false else s.isUploading file
  callbacks : ∀ file, t.manager.uploads.callbacks.find file =
    if file = snapshot.file then none else s.manager.uploads.callbacks.find file
  files : ∀ file, file ∈ t.files ↔ file ∈ s.files ∧ file ≠ snapshot.file
  past : t.made = s.made ∧ t.terminated = s.terminated

theorem terminateUploadSnapshot_queue : (s.terminateUploadSnapshot name).queue = s.queue := by
  unfold terminateUploadSnapshot
  split
  · rfl
  · split <;> rfl

theorem terminateUploadSnapshot_working : (s.terminateUploadSnapshot name).working = s.working := by
  unfold terminateUploadSnapshot
  split
  · rfl
  · split <;> rfl

theorem terminateUploadSnapshot_unlisted (unlisted : name ∉ s.names) : s.terminateUploadSnapshot name = s := by
  unfold terminateUploadSnapshot
  cases held : s.info with
  | none => rfl
  | some info =>
    have none : info.getSnapshot name = none := by
      refine List.find?_eq_none.mpr (fun snapshot member same => unlisted ?_)
      exact mem_names.mpr ⟨snapshot, by rw [snapshots, held]; exact member, by simpa using same⟩
    dsimp only
    rw [none]

/-- Where the names are distinct, the one entry of the name goes. -/
theorem mem_delSnapshot {info : SnapshotInfo} (distinct : (info.snapshots.map (·.name)).Nodup) (other : Snapshot) :
    other ∈ (Host.delSnapshot name info).snapshots ↔ other ∈ info.snapshots ∧ other.name ≠ name := by
  obtain ⟨entries, status⟩ := info
  change other ∈ entries.eraseP _ ↔ other ∈ entries ∧ _
  change (entries.map (·.name)).Nodup at distinct
  induction entries with
  | nil => simp
  | cons head rest ih =>
    obtain ⟨fresh, distinct⟩ := List.nodup_cons.mp distinct
    by_cases same : head.name = name
    · rw [List.eraseP_cons_of_pos (by simpa using same)]
      constructor
      · intro member
        refine ⟨List.mem_cons_of_mem _ member, fun again => fresh ?_⟩
        exact List.mem_map.mpr ⟨other, member, again.trans same.symm⟩
      · rintro ⟨member, differs⟩
        rcases List.mem_cons.mp member with rfl | later
        · exact (differs same).elim
        · exact later
    · rw [List.eraseP_cons_of_neg (by simpa using same), List.mem_cons, List.mem_cons, ih distinct]
      constructor
      · rintro (rfl | ⟨later, differs⟩)
        · exact ⟨.inl rfl, same⟩
        · exact ⟨.inr later, differs⟩
      · rintro ⟨rfl | later, differs⟩
        · exact .inl rfl
        · exact .inr ⟨later, differs⟩

theorem terminateUploadSnapshot_listed (distinct : s.names.Nodup) {snapshot : Snapshot}
    (listed : snapshot ∈ s.snapshots) :
    Terminates s (s.terminateUploadSnapshot snapshot.name) snapshot := by
  unfold SnapshotTable.names at distinct
  unfold terminateUploadSnapshot
  cases held : s.info with
  | none => rw [snapshots, held] at listed; cases listed
  | some info =>
    have entries : s.snapshots = info.snapshots := by rw [snapshots, held]; rfl
    rw [entries] at distinct listed
    have found : info.getSnapshot snapshot.name = some snapshot := by
      obtain ⟨other, got⟩ := Option.isSome_iff_exists.mp
        (List.find?_isSome.mpr ⟨snapshot, listed, decide_eq_true rfl⟩ : (info.getSnapshot snapshot.name).isSome)
      have same : other.name = snapshot.name := by simpa using List.find?_some got
      rw [← List.inj_on_of_nodup_map distinct (List.mem_of_find?_eq_some got) listed same]
      rwa [same]
    dsimp only
    rw [found]
    refine ⟨?_, fun other => ?_, rfl, fun name => ?_, fun file => ?_, fun file => ?_, fun file => ?_, rfl, rfl⟩
    · rw [entries]
      exact List.eraseP_sublist
    · rw [entries]
      exact mem_delSnapshot distinct other
    · have before : s.statusOf name = info.status.find name := by rw [statusOf, held]; rfl
      rw [before]
      exact OrdMap.find_erase info.status snapshot.name name
    · change ((s.manager.uploads.erase snapshot.file).jobs.find file).isSome = _
      rw [JobTable.find_erase_jobs]
      split <;> rfl
    · exact JobTable.find_erase_callbacks
    · change file ∈ s.files.filter _ ↔ _
      rw [List.mem_filter]
      simp

theorem Terminates.names {snapshot : Snapshot} (ends : Terminates s t snapshot) :
    name ∈ t.names ↔ name ∈ s.names ∧ name ≠ snapshot.name := by
  rw [mem_names, mem_names]
  constructor
  · rintro ⟨other, member, rfl⟩
    obtain ⟨before, differs⟩ := (ends.left other).mp member
    exact ⟨⟨other, before, rfl⟩, differs⟩
  · rintro ⟨⟨other, member, rfl⟩, differs⟩
    exact ⟨other, (ends.left other).mpr ⟨member, differs⟩, rfl⟩

/-- A listed snapshot goes whose event, if there was one, goes with it. -/
theorem Tidy.terminates (tidy : Tidy s) {snapshot : Snapshot} (listed : snapshot ∈ s.snapshots)
    (ends : Terminates s t snapshot) (fewer : t.pending.Sublist s.pending)
    (idle : snapshot.name ∉ t.pending.map (·.name)) (others : ∀ event ∈ s.pending, event.name ≠ snapshot.name →
      event ∈ t.pending)
    (working : ∀ event, t.working = some (.uploaded event) → s.working = some (.uploaded event)) : Tidy t := by
  have other_file {other : Snapshot} (member : other ∈ t.snapshots) : other.file ≠ snapshot.file := by
    obtain ⟨before, differs⟩ := (ends.left other).mp member
    exact fun same => differs (congrArg Snapshot.name (tidy.eq_of_file before listed same))
  have stays {file : Bytes} (differs : file ≠ snapshot.file) {other : Snapshot} (member : other ∈ s.snapshots)
      (same : other.file = file) : other ∈ t.snapshots := by
    refine (ends.left other).mpr ⟨member, fun name => differs (same.symm.trans (congrArg Snapshot.file ?_))⟩
    exact List.inj_on_of_nodup_map tidy.distinct member listed name
  obtain ⟨made, terminated⟩ := ends.past
  refine ⟨ends.stored, tidy.distinct.sublist (ends.sub.map _), fun name => ?_, tidy.waiting.sublist (fewer.map _),
    fun event member => ?_, fun other member creating => ?_, fun other member uploading => ?_, fun event held => ?_,
    fun file active => ?_, fun file onDisk => ?_, fun other member =>
      ?_, by rw [made]; exact tidy.fresh, fun name member => ?_⟩
  · rw [ends.status, ends.names, ← tidy.keys]
    by_cases same : name = snapshot.name <;> simp [same]
  · obtain ⟨entry, inside, name, file⟩ := tidy.listed event (fewer.subset member)
    refine ⟨entry, (ends.left entry).mpr ⟨inside, fun same => idle ?_⟩, name, file⟩
    exact List.mem_map.mpr ⟨event, member, name.symm.trans same⟩
  · obtain ⟨before, differs⟩ := (ends.left other).mp member
    rw [ends.status, if_neg differs] at creating
    obtain ⟨event, waits, name, file⟩ := tidy.creating other before creating
    exact ⟨event, others event waits (fun same => differs (name.symm.trans same)), name, file⟩
  · obtain ⟨before, differs⟩ := (ends.left other).mp member
    rw [ends.status, if_neg differs] at uploading
    rw [ends.jobs, if_neg (other_file member)]
    exact tidy.uploading other before uploading
  · have waits : event ∈ t.pending := by rw [SnapshotTable.pending, held]; exact List.mem_cons_self
    obtain ⟨entry, inside, name, file⟩ := tidy.listed event (fewer.subset waits)
    rw [ends.jobs, if_neg ?_]
    · exact tidy.begun event (working event held)
    · intro same
      refine idle (List.mem_map.mpr ⟨event, waits, name.symm.trans ?_⟩)
      exact congrArg Snapshot.name (tidy.eq_of_file inside listed (file.trans same))
  · rw [ends.jobs] at active
    by_cases same : file = snapshot.file
    · rw [if_pos same] at active
      cases active
    · rw [if_neg same] at active
      obtain ⟨entry, inside, at_, callback⟩ := tidy.jobs file active
      exact ⟨entry, stays same inside at_, at_, by rw [ends.callbacks, if_neg same]; exact callback⟩
  · obtain ⟨before, differs⟩ := (ends.files file).mp onDisk
    obtain ⟨entry, inside, at_⟩ := tidy.files file before
    exact ⟨entry, stays differs inside at_, at_⟩
  · rw [made]
    exact tidy.recorded other ((ends.left other).mp member).1
  · rw [terminated] at member
    exact fun inside => tidy.gone name member (ends.names.mp inside).1

/-- The past is not read by the other parts. -/
theorem Tidy.terminated (tidy : Tidy s) (absent : name ∉ s.names) :
    Tidy { s with terminated := name :: s.terminated } :=
  { tidy with
    gone := fun other member => by
      rcases List.mem_cons.mp member with rfl | before
      · exact absent
      · exact tidy.gone other before }

theorem Tidy.terminate (tidy : Tidy s) (apart : s.Apart (.terminate name))
    (ran : s.step (.terminate name) = some t) :
    Tidy t := by
  cases ran
  by_cases listed : name ∈ s.names
  · obtain ⟨snapshot, member, rfl⟩ := mem_names.mp listed
    have ends := terminateUploadSnapshot_listed tidy.distinct member
    have pending : (s.terminateUploadSnapshot snapshot.name).pending = s.pending := by
      rw [SnapshotTable.pending, terminateUploadSnapshot_queue, terminateUploadSnapshot_working]
      rfl
    have after : Tidy (s.terminateUploadSnapshot snapshot.name) := by
      refine tidy.terminates member ends ?_ ?_ ?_ ?_
      · rw [pending]
      · rw [pending]
        exact apart
      · intro event waits _
        rwa [pending]
      · intro event held
        rwa [terminateUploadSnapshot_working] at held
    have absent : snapshot.name ∉ (s.terminateUploadSnapshot snapshot.name).names :=
      fun inside => (ends.names.mp inside).2 rfl
    have logged := after.terminated absent
    rw [ends.past.2] at logged
    exact logged
  · rw [terminateUploadSnapshot_unlisted listed]
    exact tidy.terminated listed

theorem Tidy.convert (tidy : Tidy s) {written : Bool} (ran : s.step (.convert written) = some t) : Tidy t := by
  unfold step at ran
  dsimp only at ran
  split at ran
  · rename_i event rest idle queued
    cases ran
    have same : s.pending = event :: rest := by rw [pending, idle, queued]; rfl
    have same' : s.pending = pending { s with
        queue := rest, working := some (.converted event), files :=
          if written then event.file :: s.files else s.files } := same
    refine { tidy with
      waiting := same' ▸ tidy.waiting, listed := same' ▸ tidy.listed, creating := same' ▸ tidy.creating,
      begun := ?_, files := ?_ }
    · rintro other wrong
      cases wrong
    · intro file onDisk
      dsimp only at onDisk
      split at onDisk
      · rcases List.mem_cons.mp onDisk with rfl | before
        · obtain ⟨entry, inside, -, at_⟩ := tidy.listed event (by rw [same]; exact List.mem_cons_self)
          exact ⟨entry, inside, at_⟩
        · exact tidy.files file before
      · exact tidy.files file onDisk
  · cases ran

/-- The upload of a file that is there begins. -/
theorem Tidy.start (tidy : Tidy s) {event : CreateSnapshotEvent} (held : s.working = some (.converted event))
    {job : ImageJob UploadImageFile} :
    Tidy { s with manager := { s.manager with uploads := s.manager.uploads.start event.file job (some event.name) },
                  working := some (.uploaded event) } := by
  have waits : event ∈ s.pending := by rw [pending, held]; exact List.mem_cons_self
  have same : s.pending = pending { s with
      manager := { s.manager with uploads := s.manager.uploads.start event.file job (some event.name) },
      working := some (.uploaded event) } := by rw [pending, held]; rfl
  have active (file : Bytes) : (s.manager.uploads.start event.file job (some event.name)).isActive file =
      if file = event.file then true else s.isUploading file := by
    rw [JobTable.isActive, JobTable.find_start_jobs]
    split <;> rfl
  refine { tidy with waiting := same ▸ tidy.waiting, listed := same ▸ tidy.listed, creating := same ▸ tidy.creating,
                     uploading := ?_, begun := ?_, jobs := ?_ }
  · intro snapshot member uploading
    change JobTable.isActive _ _ = true
    rw [active]
    split
    · rfl
    · exact tidy.uploading snapshot member uploading
  · rintro other begun
    cases begun
    change JobTable.isActive _ _ = true
    rw [active, if_pos rfl]
  · intro file found
    change JobTable.isActive _ _ = true at found
    rw [active] at found
    dsimp only
    rw [JobTable.find_start_callbacks]
    by_cases this : file = event.file
    · obtain ⟨entry, inside, name, at_⟩ := tidy.listed event waits
      rw [if_pos ⟨this, rfl⟩]
      exact ⟨entry, inside, at_.trans this.symm, congrArg some name.symm⟩
    · rw [if_neg this] at found
      rw [if_neg (fun both => this both.1)]
      exact tidy.jobs file found

/-- The server of the event is not valid, and its snapshot is given up. -/
theorem Tidy.giveUp (tidy : Tidy s) {event : CreateSnapshotEvent} (held : s.working = some (.converted event)) :
    Tidy { s.terminateUploadSnapshot event.name with working := none } := by
  have all : s.pending = event :: s.queue := by rw [pending, held]; rfl
  have left : pending { s.terminateUploadSnapshot event.name with working := none } = s.queue := by
    change [] ++ (s.terminateUploadSnapshot event.name).queue = s.queue
    rw [terminateUploadSnapshot_queue, List.nil_append]
  obtain ⟨snapshot, member, name, -⟩ := tidy.listed event (by rw [all]; exact List.mem_cons_self)
  have ends := terminateUploadSnapshot_listed tidy.distinct member
  rw [name] at ends
  have waiting := tidy.waiting
  rw [all] at waiting
  refine tidy.terminates member ⟨ends.sub, ends.left, ends.stored, ends.status, ends.jobs, ends.callbacks,
    ends.files, ends.past⟩
    ?_ ?_ ?_ (fun other wrong => by cases wrong)
  · rw [left, all]
    exact List.sublist_cons_self event s.queue
  · rw [left, name]
    exact (List.nodup_cons.mp waiting).1
  · intro other waits differs
    rw [left]
    rw [all] at waits
    rcases List.mem_cons.mp waits with rfl | later
    · exact (differs name.symm).elim
    · exact later

theorem Tidy.upload (tidy : Tidy s) {size : Int} {process : Nat} (ran : s.step (.upload size process) = some t) :
    Tidy t := by
  unfold step at ran
  dsimp only at ran
  split at ran
  · rename_i event held
    unfold startUpload at ran
    split at ran
    · cases ran
      exact tidy.giveUp held
    · rename_i manager accepted
      split at ran
      · cases ran
        unfold ImageManager.upload at accepted
        split at accepted
        · cases accepted
        · cases accepted
          exact tidy.start held
      · cases ran
  · cases ran

/-- A status changes of an entry that is there. -/
structure Marks (s t : SnapshotTable) (name : Bytes) (status : SnapshotStatus) : Prop where
  snapshots : t.snapshots = s.snapshots
  status : ∀ other, t.statusOf other = if other = name then some status else s.statusOf other
  same : ∃ info, t = { s with info }

theorem setStatus_marks {status : SnapshotStatus} (ran : s.setStatus name status = some t) :
    Marks s t name status := by
  obtain ⟨info, held, rfl⟩ := Option.map_eq_some_iff.mp ran
  refine ⟨?_, fun other => ?_, _, rfl⟩
  · unfold SnapshotTable.snapshots
    rw [held]
    rfl
  · have before : s.statusOf other = info.status.find other := by rw [statusOf, held]; rfl
    rw [before]
    exact OrdMap.find_insert info.status name other status

/-- The status of a listed snapshot becomes another one than creating, and
uploading only where its upload has begun. -/
theorem Tidy.marks (tidy : Tidy s) {status : SnapshotStatus} (marks : Marks s t name status)
    (listed : name ∈ s.names) (done : status ≠ .creating)
    (active : status = .uploading → ∀ entry ∈ s.snapshots, entry.name = name → s.isUploading entry.file = true) :
    Tidy t := by
  obtain ⟨entries, statusOf, info, rfl⟩ := marks
  have names : SnapshotTable.names { s with info } = s.names := congrArg (List.map Snapshot.name) entries
  refine ⟨tidy.stored.trans entries.symm, names ▸ tidy.distinct, fun other => ?_, tidy.waiting, ?_, ?_, ?_,
    tidy.begun, ?_, ?_, ?_, tidy.fresh, names ▸ tidy.gone⟩
  · rw [statusOf, names, ← tidy.keys]
    by_cases same : other = name
    · have there := (tidy.keys other).mpr (same ▸ listed)
      simp [same, same ▸ there]
    · rw [if_neg same]
  · rw [entries]
    exact tidy.listed
  · rw [entries]
    intro other member creating
    rw [statusOf] at creating
    by_cases same : other.name = name
    · rw [if_pos same] at creating
      exact (done (Option.some.inj creating)).elim
    · rw [if_neg same] at creating
      exact tidy.creating other member creating
  · rw [entries]
    intro other member uploading
    rw [statusOf] at uploading
    by_cases same : other.name = name
    · rw [if_pos same] at uploading
      exact active (Option.some.inj uploading) other member same
    · rw [if_neg same] at uploading
      exact tidy.uploading other member uploading
  · rw [entries]
    exact tidy.jobs
  · rw [entries]
    exact tidy.files
  · rw [entries]
    exact tidy.recorded

/-- The event thread is done with a snapshot whose status is no longer
creating. -/
theorem Tidy.done (tidy : Tidy s) {event : CreateSnapshotEvent} (held : s.working = some (.uploaded event))
    (status : s.statusOf event.name ≠ some .creating) : Tidy { s with working := none } := by
  have all : s.pending = event :: s.queue := by rw [pending, held]; rfl
  have waiting := tidy.waiting
  have listed := tidy.listed
  rw [all] at waiting listed
  refine { tidy with waiting := (List.nodup_cons.mp waiting).2, listed := ?_, creating := ?_, begun := ?_ }
  · exact fun other later => listed other (List.mem_cons_of_mem _ later)
  · intro snapshot member creating
    obtain ⟨other, waits, name, file⟩ := tidy.creating snapshot member creating
    rw [all] at waits
    rcases List.mem_cons.mp waits with rfl | later
    · rw [name] at status
      exact (status creating).elim
    · exact ⟨other, later, name, file⟩
  · intro other wrong
    cases wrong

theorem Tidy.mark (tidy : Tidy s) (ran : s.step .uploading = some t) : Tidy t := by
  unfold step at ran
  dsimp only at ran
  split at ran
  · rename_i event held
    obtain ⟨u, set, rfl⟩ := Option.map_eq_some_iff.mp ran
    have marks := setStatus_marks set
    have waits : event ∈ s.pending := by rw [pending, held]; exact List.mem_cons_self
    obtain ⟨entry, inside, name, file⟩ := tidy.listed event waits
    have marked : Tidy u := by
      refine tidy.marks marks (mem_names.mpr ⟨entry, inside, name⟩) (by decide) (fun _ other member same => ?_)
      rw [List.inj_on_of_nodup_map tidy.distinct member inside (same.trans name.symm), file]
      exact tidy.begun event held
    have status : u.statusOf event.name = some .uploading := by rw [marks.status, if_pos rfl]
    obtain ⟨info, rfl⟩ := marks.same
    exact marked.done held (by rw [status]; decide)
  · cases ran

/-- A job leaves the table whose snapshot is not marked as uploading and not
about to be. -/
theorem Tidy.erase (tidy : Tidy s) (status : ∀ snapshot ∈ s.snapshots, snapshot.file = file →
      s.statusOf snapshot.name ≠ some .uploading) (apart : s.Apart (.finish file)) :
    Tidy { s with manager := { s.manager with uploads := s.manager.uploads.erase file } } := by
  have jobs (other : Bytes) : (s.manager.uploads.erase file).isActive other =
      if other = file then false else s.isUploading other := by
    rw [JobTable.isActive, JobTable.find_erase_jobs]
    split <;> rfl
  refine { tidy with uploading := ?_, begun := ?_, jobs := ?_ }
  · intro snapshot member uploading
    change JobTable.isActive _ _ = true
    rw [jobs, if_neg (fun same => status snapshot member same uploading)]
    exact tidy.uploading snapshot member uploading
  · intro event held
    change JobTable.isActive _ _ = true
    rw [jobs, if_neg (apart event held)]
    exact tidy.begun event held
  · intro other found
    change JobTable.isActive _ _ = true at found
    rw [jobs] at found
    dsimp only
    rw [JobTable.find_erase_callbacks]
    by_cases same : other = file
    · rw [if_pos same] at found
      cases found
    · rw [if_neg same] at found ⊢
      exact tidy.jobs other found

theorem Tidy.finish (tidy : Tidy s) (apart : s.Apart (.finish file)) (ran : s.step (.finish file) = some t) :
    Tidy t := by
  change s.finish file = some t at ran
  unfold SnapshotTable.finish at ran
  split at ran
  · rename_i process name at_ callback
    split at ran
    · cases ran
    · obtain ⟨u, set, rfl⟩ := Option.map_eq_some_iff.mp ran
      have marks := setStatus_marks set
      have active : s.isUploading file = true := by
        obtain ⟨job, found, -⟩ := Option.map_eq_some_iff.mp at_
        rw [isUploading, JobTable.isActive, found]
        rfl
      obtain ⟨entry, inside, here, named⟩ := tidy.jobs file active
      have name_eq : entry.name = name := Option.some.inj (named.symm.trans callback)
      have marked : Tidy u :=
        tidy.marks marks (mem_names.mpr ⟨entry, inside, name_eq⟩) (by decide) (fun wrong => by cases wrong)
      have entries := marks.snapshots
      have status := marks.status
      obtain ⟨info, rfl⟩ := marks.same
      refine marked.erase (fun snapshot member same => ?_) apart
      rw [entries] at member
      rw [status, if_pos ?_]
      · decide
      · rw [tidy.eq_of_file member inside (same.trans here.symm), name_eq]
  · cases ran

theorem Tidy.step (tidy : Tidy s) {event : SnapshotEvent} (apart : s.Apart event) (ran : s.step event = some t) :
    Tidy t := by
  cases event with
  | create snapshot server => exact tidy.create apart ran
  | terminate name => exact tidy.terminate apart ran
  | convert written => exact tidy.convert ran
  | upload size process => exact tidy.upload ran
  | uploading => exact tidy.mark ran
  | exit process =>
    cases ran
    exact { tidy with }
  | finish file => exact tidy.finish apart ran

/-- While the steps are apart the list, the statuses, the jobs, the files
and the queue agree, in every state that the requests, the event thread, the
uploads and the check thread can reach. -/
theorem agrees_of_apart {trace : List SnapshotEvent} (run : Run step Apart initial trace s) : s.Agrees :=
  (run.invariant Tidy.initial (fun tidy apart ran => tidy.step apart ran)).agrees

section Example

def firstSnapshot : Snapshot := ⟨str "snap", str "/tmp/dbc_snapshots/snap_1_vda.qcow2", 1, []⟩

def snapshotServer : ImageServer := { ip := str "10.0.0.1", port := str "873", modulename := str "images" }

/-- The snapshot is created, its event is processed, its upload ends and it
is terminated. -/
theorem agrees_in_order : ∃ s : SnapshotTable, s.Agrees ∧ s.names = [] ∧ s.terminated = [str "snap"] := by
  have ran : (runAll (guarded step (fun s event => decide (s.Apart event))) initial
      [.create firstSnapshot snapshotServer, .convert true, .upload 8 1, .uploading, .exit 1,
        .finish firstSnapshot.file,
        .terminate firstSnapshot.name]).any (fun s => s.names = [] ∧ s.terminated = [str "snap"]) = true := by
    decide +kernel
  obtain ⟨s, reached, left⟩ := (Option.any_eq_true _ _).mp ran
  obtain ⟨names, terminated⟩ := of_decide_eq_true left
  refine ⟨s, agrees_of_apart (Run.of_guarded (fun _ _ test => of_decide_eq_true test) _ .start reached),
    names, terminated⟩

/-- The snapshot is terminated before the event thread gets to its event:
the file is made and uploaded all the same, and the name has a status
again. -/
theorem terminated_returns : ¬ ∀ trace s, Reaches step initial trace s → s.Agrees := by
  intro agrees
  have ran : (runAll step initial [.create firstSnapshot snapshotServer, .terminate firstSnapshot.name,
    .convert true,
      .upload 8 1, .uploading]).any
        (fun s => str "snap" ∈ s.terminated ∧ s.statusOf (str "snap") = some .uploading) = true := by decide +kernel
  obtain ⟨s, reached, left⟩ := (Option.any_eq_true _ _).mp ran
  obtain ⟨terminated, status⟩ := of_decide_eq_true left
  have gone := (agrees _ s (Reaches.of_runAll _ .start reached)).gone _ terminated
  have none := gone.status
  rw [status] at none
  cases none

end Example

end DbcNode.SnapshotTable
