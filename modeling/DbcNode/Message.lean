import DbcNode.Lib.Bytes
import DbcNode.Thrift.Wire

namespace DbcNode

/-- Every `*_body` class whose one member is the text of a request or a
reply. -/
def dataBody : Fields := .required 1 .string .nil

/-- `empty`, the body of the heartbeat messages and of a request for
peers. -/
def emptyBody : Fields := .nil

def networkAddress : Fields := .required 1 .string (.required 2 .i16 .nil)

def verReqBody : Fields :=
  .required 1 .string (.required 2 .i32 (.required 3 .i32 (.required 4 .i64
    (.required 5 (.struct networkAddress) (.required 6 (.struct networkAddress) (.required 7 .i64 .nil))))))

def verRespBody : Fields := .required 1 .string (.required 2 .i32 (.required 3 .i32 .nil))

def peerNodeInfo : Fields :=
  .required 1 .string (.required 2 .i32 (.required 3 .i32 (.required 4 .i32
    (.required 5 (.struct networkAddress) (.optional 6 (.list .string) .nil)))))

/-- The body of `get_peer_nodes_resp` and of `peer_nodes_broadcast_req`. -/
def peerNodesBody : Fields := .required 1 (.list (.struct peerNodeInfo)) .nil

def nodeServiceInfo : Fields :=
  .required 1 (.list .string) (.optional 2 .string (.optional 3 .i64 (.optional 4 (.map .string) .nil)))

def serviceBroadcastReqBody : Fields := .required 1 (.map (.struct nodeServiceInfo)) .nil

/-- A message class: the name it is registered under and the members of its
body. -/
structure MsgType where
  name : Bytes
  body : Fields

def dataMsgNames : List String := [
  "node_list_images_req", "node_list_images_rsp", "node_download_image_req", "node_download_image_rsp",
  "node_download_image_progress_req", "node_download_image_progress_rsp", "node_stop_download_image_req",
  "node_stop_download_image_rsp", "node_upload_image_req", "node_upload_image_rsp",
  "node_upload_image_progress_req", "node_upload_image_progress_rsp", "node_stop_upload_image_req",
  "node_stop_upload_image_rsp", "node_delete_image_req", "node_delete_image_rsp", "node_create_task_req",
  "node_create_task_rsp", "node_start_task_req", "node_start_task_rsp", "node_shutdown_task_req",
  "node_shutdown_task_rsp", "node_poweroff_task_req", "node_poweroff_task_rsp", "node_stop_task_req",
  "node_stop_task_rsp", "node_restart_task_req", "node_restart_task_rsp", "node_reset_task_req",
  "node_reset_task_rsp", "node_delete_task_req", "node_delete_task_rsp", "node_list_task_req",
  "node_list_task_rsp", "node_task_logs_req", "node_task_logs_rsp", "node_modify_task_req",
  "node_modify_task_rsp", "node_passwd_task_req", "node_passwd_task_rsp", "node_query_node_info_req",
  "node_query_node_info_rsp", "node_session_id_req", "node_session_id_rsp", "node_free_memory_req",
  "node_free_memory_rsp", "node_list_snapshot_req", "node_list_snapshot_rsp", "node_create_snapshot_req",
  "node_create_snapshot_rsp", "node_delete_snapshot_req", "node_delete_snapshot_rsp", "node_list_disk_req",
  "node_list_disk_rsp", "node_resize_disk_req", "node_resize_disk_rsp", "node_add_disk_req",
  "node_add_disk_rsp", "node_delete_disk_req", "node_delete_disk_rsp", "node_list_monitor_server_req",
  "node_list_monitor_server_rsp", "node_set_monitor_server_req", "node_set_monitor_server_rsp",
  "node_list_lan_req", "node_list_lan_rsp", "node_create_lan_req", "node_create_lan_rsp",
  "node_delete_lan_req", "node_delete_lan_rsp"]

/-- The classes bound by `init_decode_invoker` and `init_encode_invoker`. -/
def registry : List MsgType :=
  [⟨str "ver_req", verReqBody⟩, ⟨str "ver_resp", verRespBody⟩, ⟨str "shake_hand_req", emptyBody⟩,
    ⟨str "shake_hand_resp", emptyBody⟩, ⟨str "get_peer_nodes_req", emptyBody⟩,
    ⟨str "get_peer_nodes_resp", peerNodesBody⟩, ⟨str "peer_nodes_broadcast_req", peerNodesBody⟩,
    ⟨str "service_broadcast_req", serviceBroadcastReqBody⟩] ++
  dataMsgNames.map (fun name => ⟨str name, dataBody⟩)

def findInvoker (name : Bytes) : Option MsgType := registry.find? (fun t => t.name = name)

/-- `base_header`, with the `__isset` bits of the optional members as
`Option`. -/
@[ext] structure BaseHeader where
  magic : BitVec 32
  msgName : Bytes
  nonce : Option Bytes
  sessionId : Option Bytes
  path : Option (List Bytes)
  extenInfo : Option (OrdMap Bytes Bytes)

namespace BaseHeader

def fields : Fields :=
  .required 1 .i32 (.required 2 .string (.optional 3 .string (.optional 4 .string
    (.optional 5 (.list .string) (.optional 255 (.map .string) .nil)))))

def toVal (h : BaseHeader) : fields.Val :=
  (h.magic, h.msgName, h.nonce, h.sessionId, h.path, h.extenInfo, ())

def ofVal (x : fields.Val) : BaseHeader :=
  match x with
  | (magic, msgName, nonce, sessionId, path, extenInfo, ()) => ⟨magic, msgName, nonce, sessionId, path, extenInfo⟩

def write (p : Protocol) (h : BaseHeader) : Call Unit := (Ty.struct fields).write p h.toVal

def read (p : Protocol) : Call BaseHeader := do
  return ofVal (← (Ty.struct fields).read p (Ty.struct fields).init)

/-- `exten_info[key]`, where the map is set. -/
def exten (h : BaseHeader) (key : String) : Option Bytes := h.extenInfo.bind (fun m => m.find (str key))

@[simp] theorem ofVal_toVal (h : BaseHeader) : ofVal h.toVal = h := rfl

end BaseHeader

/-- A class that the coder finds under its own name. -/
def MsgType.Registered (t : MsgType) : Prop := findInvoker t.name = some t

/-- What a `message` carries: an object of a registered class, or the
undecoded body of a message on its way to another node. -/
inductive Content
  | typed (type : MsgType) (registered : type.Registered) (header : BaseHeader) (body : type.body.Val)
  | forward (header : BaseHeader) (body : Bytes)

def Content.header : Content → BaseHeader
  | .typed _ _ header _ => header
  | .forward header _ => header

structure Message where
  name : Bytes
  content : Content

def binaryForwardMsg : Bytes := str "binary_forward_message"

/-- An object of a registered class. Its header names the class, as every
caller that fills one in makes it. -/
structure Typed where
  type : MsgType
  header : BaseHeader
  body : type.body.Val
  registered : type.Registered
  named : header.msgName = type.name

def Typed.message (m : Typed) : Message := ⟨m.type.name, .typed m.type m.registered m.header m.body⟩

theorem findInvoker_registered {name : Bytes} {t : MsgType} (found : findInvoker name = some t) :
    t.name = name ∧ t.Registered := by
  have same := List.find?_some found
  have equal : t.name = name := by simpa using same
  refine ⟨equal, ?_⟩
  rw [MsgType.Registered, equal]
  exact found

section Distinct

attribute [local simp] Ty.Distinct Fields.Distinct Fields.ids

theorem BaseHeader.fields_distinct : (Ty.struct BaseHeader.fields).Distinct := by
  simp [BaseHeader.fields]

theorem networkAddress_distinct : (Ty.struct networkAddress).Distinct := by
  simp [networkAddress]

theorem verReqBody_distinct : (Ty.struct verReqBody).Distinct := by
  have address := networkAddress_distinct
  simp only [Ty.Distinct] at address
  simp [verReqBody, address]

theorem verRespBody_distinct : (Ty.struct verRespBody).Distinct := by
  simp [verRespBody]

theorem peerNodesBody_distinct : (Ty.struct peerNodesBody).Distinct := by
  have address := networkAddress_distinct
  simp only [Ty.Distinct] at address
  simp [peerNodesBody, peerNodeInfo, address]

theorem serviceBroadcastReqBody_distinct : (Ty.struct serviceBroadcastReqBody).Distinct := by
  simp [serviceBroadcastReqBody, nodeServiceInfo]

theorem dataBody_distinct : (Ty.struct dataBody).Distinct := by
  simp [dataBody]

theorem emptyBody_distinct : (Ty.struct emptyBody).Distinct := by
  simp [emptyBody]

end Distinct

theorem body_distinct {t : MsgType} (registered : t.Registered) : (Ty.struct t.body).Distinct := by
  have member := List.mem_of_find?_eq_some registered
  rcases List.mem_append.mp member with own | data
  · simp only [List.mem_cons, List.not_mem_nil, or_false] at own
    rcases own with rfl | rfl | rfl | rfl | rfl | rfl | rfl | rfl
    · exact verReqBody_distinct
    · exact verRespBody_distinct
    · exact emptyBody_distinct
    · exact emptyBody_distinct
    · exact emptyBody_distinct
    · exact peerNodesBody_distinct
    · exact peerNodesBody_distinct
    · exact serviceBroadcastReqBody_distinct
  · obtain ⟨name, _, rfl⟩ := List.mem_map.mp data
    exact dataBody_distinct

end DbcNode
