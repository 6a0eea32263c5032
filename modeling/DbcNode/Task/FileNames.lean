import DbcNode.Task.Deleted

namespace DbcNode

/-- `ImageServer`, without its id. -/
structure ImageServer where
  ip : Bytes
  port : Bytes
  modulename : Bytes
  deriving DecidableEq

/-- `ImageServer::from_string`, over the fields that a new one has. -/
def ImageServer.fromString (text : Bytes) : ImageServer :=
  match (text.splitOn 44).filter (· ≠ []) with
  | _ :: ip :: port :: modulename :: _ => ⟨ip, port, modulename⟩
  | [_, ip, port] => ⟨ip, port, str "images"⟩
  | [_, ip] => ⟨ip, str "873", str "images"⟩
  | _ => ⟨[], str "873", str "images"⟩

/-- `bfs::path::is_absolute`: two slashes before a name are the root of a
network name. -/
def isAbsolute (path : Bytes) : Bool :=
  if path = [47, 47] then false
  else match path with
    | 47 :: 47 :: first :: second :: rest => if first = 47 then true else 47 ∈ second :: rest
    | 47 :: _ => true
    | _ => false

/-- A file below `/data`, after the dots of its path. -/
def inData (path : Bytes) : Bool :=
  match resolvePath path with
  | first :: _ :: _ => first = str "data"
  | _ => false

namespace Host

/-- A name that is not absolute is one in `/data/`. -/
def uploadPath (name : Bytes) : Bytes := if isAbsolute name then name else str "/data/" ++ name

/-- `ImageManager::upload`, by the file that `rsync` is started with. -/
def upload (server : ImageServer) (path : Bytes) : Call Bytes := fun h =>
  if server.ip = [] ∨ server.port = [] ∨ server.modulename = [] then fail (str "image server is invalid") h
  else (.ok path, h)

def uploadImage (w : World) (imageServer : Bytes) (doc : Json) : Call Bytes := fun h =>
  let name := doc.parseString (str "image_filename")
  if imageServer = [] then fail (str "no image_server") h
  else if doc.isObject = false then fail (str "additional parse failed") h
  else if name = [] then fail (str "image_filename is empty") h
  else if h.fileExists (uploadPath name) = false then fail (str "image:" ++ name ++ str " not exist") h
  else if w.isUploading (uploadPath name) then fail (str "image:" ++ name ++ str " in uploading") h
  else upload (.fromString imageServer) (uploadPath name) h

end Host

/-- The requests that name files. -/
inductive FileRequest
  | create (wallet : Bytes) (additional : Option Json) (rentEnd : Int) (role : UserRole)
  | deleteImage (additional : Json)
  | uploadImage (imageServer : Bytes) (additional : Json)

/-- The mode that a task is created to boot in. -/
def Json.biosMode (doc : Json) : Bytes :=
  toLower (if doc.parseString (str "bios_mode") = [] then str "legacy" else doc.parseString (str "bios_mode"))

namespace FileRequest

/-- The paths that the names in a request stand for. A task that boots by
`pxe` has no data file. -/
def paths : FileRequest → List Bytes
  | .create _ none _ _ => []
  | .create _ (some doc) _ _ => (str "/data/" ++ doc.parseString (str "image_name")) ::
      (if doc.biosMode = str "pxe" ∨ doc.parseString (str "data_file_name") = [] then []
        else [str "/data/" ++ doc.parseString (str "data_file_name")])
  | .deleteImage doc => [str "/data/" ++ doc.parseString (str "image_filename")]
  | .uploadImage _ doc => [Host.uploadPath (doc.parseString (str "image_filename"))]

def run (hw : Hardware) (w : World) : FileRequest → Host.Call Bytes
  | .create wallet additional rentEnd role => Host.createTask hw w wallet additional rentEnd role
  | .deleteImage doc => Host.deleteImage w doc
  | .uploadImage imageServer doc => Host.uploadImage w imageServer doc

/-- The file of a snapshot that the node has made. -/
def isSnapshotFile (path : Bytes) (h : Host) : Bool :=
  h.taskSnapshots.values.any (fun info => info.snapshots.any (fun snapshot => resolvePath snapshot.file =
    resolvePath path))

/-- Where a request may reach. -/
def Allowed (h : Host) : FileRequest → Bytes → Prop
  | .uploadImage _ _, path => inData path ∨ isSnapshotFile path h
  | _, path => inData path

/-- What a request attaches to a new task, removes or sends. The image of a
task is what its system disk is made on. -/
def Touches (hw : Hardware) (w : World) (h : Host) : FileRequest → Bytes → Prop
  | .create wallet additional rentEnd role, path => ∃ taskId k,
      Host.createTask hw w wallet additional rentEnd role h = (.ok taskId, k) ∧
      ((∃ info, k.taskInfos.find taskId = some info ∧ info.biosMode ≠ str "pxe" ∧
        path = str "/data/" ++ info.imageName) ∨
        ∃ name disk, (k.listDisks taskId).find name = some disk ∧ (h.listDisks taskId).find name ≠ some disk ∧
          path = disk.sourceFile)
  | .deleteImage doc, path => h.fileExists path ∧ (Host.deleteImage w doc h).2.fileExists path = false
  | .uploadImage imageServer doc, path => (Host.uploadImage w imageServer doc h).1 = .ok path

/-- Every file that a request reaches is where it may be, and a request with
another name is refused with the node as it was. -/
def Confined (hw : Hardware) (w : World) (h : Host) (request : FileRequest) : Prop :=
  (∀ path, request.Touches hw w h path → request.Allowed h path) ∧
  ∀ path ∈ request.paths, ¬ request.Allowed h path → ∃ error, request.run hw w h = (.error (.thrown error), h)

/-- The checks that a request does not pass, whatever its names resolve
to. -/
def ChecksFail (hw : Hardware) (w : World) (h : Host) : FileRequest → Prop
  | .create _ additional _ role => ∃ error, h.parseCreateParams hw w role additional = .error (.thrown error)
  | .deleteImage doc => doc.isObject = false ∨ doc.parseString (str "image_filename") = [] ∨
      h.fileExists (str "/data/" ++ doc.parseString (str "image_filename")) = false ∨
      w.isDownloading (doc.parseString (str "image_filename")) ∨
      w.isUploading (str "/data/" ++ doc.parseString (str "image_filename"))
  | .uploadImage imageServer doc => imageServer = [] ∨ doc.isObject = false ∨
      doc.parseString (str "image_filename") = [] ∨
      h.fileExists (Host.uploadPath (doc.parseString (str "image_filename"))) = false ∨
      w.isUploading (Host.uploadPath (doc.parseString (str "image_filename"))) ∨
      (ImageServer.fromString imageServer).ip = [] ∨ (ImageServer.fromString imageServer).port = [] ∨
      (ImageServer.fromString imageServer).modulename = []

end FileRequest

/-- The names that the node makes up for disks are plain. -/
def PlainName (name : Bytes) : Prop := 47 ∉ name ∧ name ≠ [] ∧ name ≠ [46] ∧ name ≠ [46, 46]

section Paths

/-- A path goes on after a slash as if from a new start. -/
theorem pathParts_slash (front rest : Bytes) :
    pathParts (front ++ 47 :: rest) = pathParts front ++ pathParts rest := by
  unfold pathParts
  have split : (front ++ 47 :: rest).splitOn 47 = front.splitOn 47 ++ rest.splitOn 47 := by
    unfold List.splitOn
    induction front with
    | nil => simp [List.splitOnP_cons_eq_if_modifyHead]
    | cons b front ih =>
      obtain ⟨first, later, parts⟩ := List.exists_cons_of_ne_nil (List.splitOnP_ne_nil (· == 47) front)
      rw [List.cons_append, List.splitOnP_cons_eq_if_modifyHead, List.splitOnP_cons_eq_if_modifyHead, ih, parts]
      split <;> rfl
  rw [split, List.filter_append]

theorem resolvePath_data (name : Bytes) :
    resolvePath (str "/data/" ++ name) = (pathParts name).foldl enterName [str "data"] := by
  have front : str "/data/" ++ name = str "/data" ++ 47 :: name := rfl
  have data : pathParts (str "/data") = [str "data"] := by decide
  rw [resolvePath, front, pathParts_slash, data]
  rfl

theorem inData_of_plain {name : Bytes} (plain : PlainName name) : inData (str "/data/" ++ name) := by
  obtain ⟨noSlash, some, noDot, noDots⟩ := plain
  have single : pathParts name = [name] := by
    unfold pathParts List.splitOn
    have none : ∀ b ∈ name, (b == 47) = false := by
      intro b member
      exact beq_eq_false_iff_ne.mpr (fun same => noSlash (same ▸ member))
    rw [List.splitOnP_eq_singleton none]
    simp [some]
  rw [inData, resolvePath_data, single]
  simp [enterName, noDot, noDots]

theorem inData_congr {path other : Bytes} (same : resolvePath path = resolvePath other) :
    inData path = inData other := by
  rw [inData, same]
  rfl

end Paths

namespace Host
variable {hw : Hardware} {w : World} {h : Host}

/-- The names that are accepted are those of the request. -/
theorem parseCreateParams_names {role : UserRole} {additional : Option Json} {params : CreateTaskParams}
    (parsed : h.parseCreateParams hw w role additional = .ok params) : ∃ doc, additional = some doc ∧
      params.imageName = doc.parseString (str "image_name") ∧ params.biosMode = doc.biosMode ∧
      params.dataFileName = if doc.biosMode = str "pxe" then [] else doc.parseString (str "data_file_name") := by
  unfold parseCreateParams at parsed
  obtain ⟨doc, given, parsed⟩ := Checked.bind_ok parsed
  iterate 22 obtain ⟨_, _, parsed⟩ := Checked.bind_ok parsed
  cases Except.ok.inj parsed
  cases additional with
  | none => cases given
  | some other =>
    cases Except.ok.inj given
    exact ⟨doc, rfl, rfl, rfl, rfl⟩

/-- A request to create a task is refused by its checks alone. -/
theorem createTask_thrown {wallet : Bytes} {additional : Option Json} {rentEnd : Int} {role : UserRole} :
    (∃ error, createTask hw w wallet additional rentEnd role h = (.error (.thrown error), h)) ↔
      ∃ error, h.parseCreateParams hw w role additional = .error (.thrown error) := by
  constructor
  · rintro ⟨error, refused⟩
    unfold createTask at refused
    split at refused
    · rename_i stopped parsed
      cases refused
      exact ⟨error, parsed⟩
    · split at refused
      · rename_i stopped looked
        cases refused
        exact (rootBackfile_unthrown _ _ _ looked).elim
      · cases refused
  · rintro ⟨error, parsed⟩
    refine ⟨error, ?_⟩
    unfold createTask
    rw [parsed]

theorem createTask_done {wallet : Bytes} {additional : Option Json} {rentEnd : Int} {role : UserRole}
    {taskId : Bytes} {k : Host} (ran : createTask hw w wallet additional rentEnd role h = (.ok taskId, k)) :
    ∃ params root,
      h.parseCreateParams hw w role additional = .ok params ∧ taskId = params.taskId ∧
      k = h.addTask w wallet rentEnd params root := by
  unfold createTask at ran
  split at ran
  · cases ran
  · rename_i params parsed
    split at ran
    · cases ran
    · rename_i root _
      cases ran
      exact ⟨params, root, parsed, rfl, rfl⟩

theorem addDiskInfo_new {taskId name : Bytes} {disk other : DiskInfo}
    (found : ((h.addDiskInfo taskId disk).listDisks taskId).find name = some other) :
    other = disk ∨ (h.listDisks taskId).find name = some other := by
  unfold addDiskInfo at found
  rw [listDisks, OrdMap.find_insert_self, Option.getD_some] at found
  split at found
  · exact Or.inr found
  · rw [OrdMap.find_insert] at found
    split at found
    · exact Or.inl (Option.some.inj found).symm
    · exact Or.inr found

/-- A new task gets a system disk and a data disk, unless it boots by
`pxe`. -/
theorem addTask_disks {wallet : Bytes} {rentEnd : Int} {params : CreateTaskParams} {root name : Bytes}
    {disk : DiskInfo} (found : ((h.addTask w wallet rentEnd params root).listDisks params.taskId).find name =
      some disk) :
    (h.listDisks params.taskId).find name = some disk ∨ params.biosMode ≠ str "pxe" ∧
      (disk.sourceFile = str "/data/" ++ w.newSystemDisk ∨
        disk.sourceFile =
          str "/data/" ++ (if params.dataFileName = [] then w.newDataDisk else params.dataFileName)) := by
  have disks : (h.addTask w wallet rentEnd params root).listDisks params.taskId =
      ((h.addInfo (CreateTaskParams.info params w.time root)).addDisks w params).listDisks params.taskId := by
    unfold addTask listDisks
    rw [(pushTaskEvent_only _ _).disks (by simp), (addRentTask_only params.taskId _ wallet rentEnd).disks (by simp),
      (addGpus_only params.taskId _ _).disks (by simp)]
  rw [disks, addDisks] at found
  split at found
  · exact Or.inl found
  · rename_i boots
    rcases addDiskInfo_new found with rfl | earlier
    · exact Or.inr ⟨boots, Or.inr rfl⟩
    · rcases addDiskInfo_new earlier with rfl | before
      · exact Or.inr ⟨boots, Or.inl rfl⟩
      · exact Or.inl before

end Host

namespace FileRequest
variable {hw : Hardware} {w : World} {h : Host}

/-- What the creation of a task attaches is what it names, or what the node
made up. -/
theorem create_touches {wallet : Bytes} {additional : Option Json} {rentEnd : Int} {role : UserRole} {path : Bytes}
    (touches : (create wallet additional rentEnd role).Touches hw w h path) :
    path ∈ (create wallet additional rentEnd role).paths ∨ path = str "/data/" ++ w.newSystemDisk ∨
      path = str "/data/" ++ w.newDataDisk := by
  obtain ⟨taskId, k, ran, attached⟩ := touches
  obtain ⟨params, root, parsed, rfl, rfl⟩ := Host.createTask_done ran
  obtain ⟨doc, rfl, image, mode, data⟩ := Host.parseCreateParams_names parsed
  rcases attached with ⟨info, known, _, rfl⟩ | ⟨name, disk, found, fresh, rfl⟩
  · rw [Host.addTask_known] at known
    cases Option.some.inj known
    refine Or.inl (List.mem_cons.mpr (Or.inl ?_))
    rw [← image]
    rfl
  · rcases Host.addTask_disks found with before | ⟨boots, system | own⟩
    · exact (fresh before).elim
    · exact Or.inr (Or.inl system)
    · rw [mode] at boots
      rw [if_neg boots] at data
      rw [own]
      split
      · exact Or.inr (Or.inr rfl)
      · rename_i named
        rw [data] at named ⊢
        refine Or.inl (List.mem_cons_of_mem _ ?_)
        rw [if_neg (by simp [boots, named])]
        exact List.mem_singleton.mpr rfl

theorem deleteImage_cases (hw : Hardware) (w : World) (doc : Json) (h : Host) :
    (∃ error, Host.deleteImage w doc h = (.error (.thrown error), h)) ∧ (deleteImage doc).ChecksFail hw w h ∨
    Host.deleteImage w doc h =
      (.ok (str "ok"), h.removeFile (str "/data/" ++ doc.parseString (str "image_filename"))) ∧
      ¬ (deleteImage doc).ChecksFail hw w h := by
  unfold Host.deleteImage ChecksFail
  dsimp only
  split
  · rename_i wrong
    exact Or.inl ⟨⟨_, rfl⟩, Or.inl wrong⟩
  · split
    · rename_i empty
      exact Or.inl ⟨⟨_, rfl⟩, Or.inr (Or.inl empty)⟩
    · split
      · rename_i missing
        exact Or.inl ⟨⟨_, rfl⟩, Or.inr (Or.inr (Or.inl missing))⟩
      · split
        · rename_i busy
          exact Or.inl ⟨⟨_, rfl⟩, Or.inr (Or.inr (Or.inr busy))⟩
        · rename_i object named present idle
          exact Or.inr ⟨rfl, by simp_all⟩

theorem uploadImage_cases (hw : Hardware) (w : World) (imageServer : Bytes) (doc : Json) (h : Host) :
    (∃ error, Host.uploadImage w imageServer doc h = (.error (.thrown error), h)) ∧
      (uploadImage imageServer doc).ChecksFail hw w h ∨
    Host.uploadImage w imageServer doc h = (.ok (Host.uploadPath (doc.parseString (str "image_filename"))), h) ∧
      ¬ (uploadImage imageServer doc).ChecksFail hw w h := by
  unfold Host.uploadImage Host.upload ChecksFail
  dsimp only
  split
  · rename_i none
    exact Or.inl ⟨⟨_, rfl⟩, Or.inl none⟩
  · split
    · rename_i wrong
      exact Or.inl ⟨⟨_, rfl⟩, Or.inr (Or.inl wrong)⟩
    · split
      · rename_i empty
        exact Or.inl ⟨⟨_, rfl⟩, Or.inr (Or.inr (Or.inl empty))⟩
      · split
        · rename_i missing
          exact Or.inl ⟨⟨_, rfl⟩, Or.inr (Or.inr (Or.inr (Or.inl missing)))⟩
        · split
          · rename_i busy
            exact Or.inl ⟨⟨_, rfl⟩, Or.inr (Or.inr (Or.inr (Or.inr (Or.inl busy))))⟩
          · split
            · rename_i invalid
              exact Or.inl ⟨⟨_, rfl⟩, Or.inr (Or.inr (Or.inr (Or.inr (Or.inr invalid))))⟩
            · rename_i given object named present idle valid
              exact Or.inr ⟨rfl, by simp_all⟩

/-- A request is refused where one of its checks fails, and nowhere else. -/
theorem refused_iff (request : FileRequest) :
    (∃ error, request.run hw w h = (.error (.thrown error), h)) ↔ request.ChecksFail hw w h := by
  cases request with
  | create wallet additional rentEnd role => exact Host.createTask_thrown
  | deleteImage doc =>
    rcases deleteImage_cases hw w doc h with ⟨refused, fails⟩ | ⟨done, passes⟩
    · exact ⟨fun _ => fails, fun _ => refused⟩
    · refine ⟨fun ⟨error, refused⟩ => ?_, fun fails => (passes fails).elim⟩
      rw [run, done] at refused
      cases refused
  | uploadImage imageServer doc =>
    rcases uploadImage_cases hw w imageServer doc h with ⟨refused, fails⟩ | ⟨done, passes⟩
    · exact ⟨fun _ => fails, fun _ => refused⟩
    · refine ⟨fun ⟨error, refused⟩ => ?_, fun fails => (passes fails).elim⟩
      rw [run, done] at refused
      cases refused

/-- A request that reaches a file was not refused. -/
theorem Touches.passes {request : FileRequest} {path : Bytes} (touches : request.Touches hw w h path) :
    ¬ request.ChecksFail hw w h := by
  intro fails
  obtain ⟨error, refused⟩ := (refused_iff request).mpr fails
  cases request with
  | create wallet additional rentEnd role =>
    obtain ⟨taskId, k, ran, _⟩ := touches
    cases refused.symm.trans ran
  | deleteImage doc =>
    obtain ⟨present, removed⟩ := touches
    have kept : (Host.deleteImage w doc h).2 = h := congrArg Prod.snd refused
    rw [kept, present] at removed
    cases removed
  | uploadImage imageServer doc =>
    have sent : (Host.uploadImage w imageServer doc h).1 = .ok path := touches
    rw [show (Host.uploadImage w imageServer doc h).1 = _ from congrArg Prod.fst refused] at sent
    cases sent

/-- A request reaches the files that it names, and those that the node made
up. -/
theorem Touches.allowed {request : FileRequest} {path : Bytes} (touches : request.Touches hw w h path)
    (system : PlainName w.newSystemDisk) (data : PlainName w.newDataDisk)
    (named : ∀ path ∈ request.paths, request.Allowed h path) : request.Allowed h path := by
  have passes := touches.passes
  cases request with
  | create wallet additional rentEnd role =>
    rcases create_touches touches with own | rfl | rfl
    · exact named path own
    · exact inData_of_plain system
    · exact inData_of_plain data
  | deleteImage doc =>
    obtain ⟨present, removed⟩ := touches
    rcases deleteImage_cases hw w doc h with ⟨_, fails⟩ | ⟨done, _⟩
    · exact (passes fails).elim
    · have same : resolvePath path = resolvePath (str "/data/" ++ doc.parseString (str "image_filename")) := by
        by_contra different
        rw [done] at removed
        unfold Host.fileExists Host.removeFile at removed
        rw [OrdMap.find_erase, if_neg different] at removed
        rw [Host.fileExists, removed] at present
        cases present
      have inside := named _ (List.mem_singleton.mpr rfl)
      exact (inData_congr same).trans inside
  | uploadImage imageServer doc =>
    rcases uploadImage_cases hw w imageServer doc h with ⟨_, fails⟩ | ⟨done, _⟩
    · exact (passes fails).elim
    · have sent : (Host.uploadImage w imageServer doc h).1 = .ok path := touches
      rw [done] at sent
      cases Except.ok.inj sent
      exact named _ (List.mem_singleton.mpr rfl)

end FileRequest

/-- A node with an image in `/data` and a file elsewhere. -/
def Host.withFiles : Host :=
  { Host.empty with
    files := (OrdMap.empty.insert (resolvePath (str "/data/a.qcow2")) ⟨[]⟩).insert
      (resolvePath (str "/etc/passwd")) ⟨[]⟩ }

/-- A request of texts. -/
def Json.texts (members : List (String × String)) : Json :=
  .object (members.map (fun entry => (str entry.1, .string (str entry.2))))

/-- The parameters of a task with a data file. -/
def taskWithData (dataFileName : String) : Json :=
  .texts [("image_name", "a.qcow2"), ("ssh_port", "20001"), ("vnc_port", "5901"), ("cpu_cores", "2"),
    ("mem_size", "1"), ("gpu_count", "0"), ("disk_size", "1"), ("data_file_name", dataFileName)]

end DbcNode
