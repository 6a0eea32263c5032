import DbcNode.Channel.Handler
import DbcNode.Coder.Packet

namespace DbcNode

/-- `matrix_capacity`: the formats that a node can write and read. -/
structure MatrixCapacity where
  thriftBinary : Bool
  thriftCompact : Bool
  snappyRaw : Bool
  deriving DecidableEq

namespace MatrixCapacity

def thriftBinaryCName : Bytes := str "thrift_binary"

def thriftCompactCName : Bytes := str "thrift_compact"

def snappyRawCName : Bytes := str "snappy_raw"

def init : MatrixCapacity := ⟨true, false, false⟩

def add (c : Bytes) (m : MatrixCapacity) : MatrixCapacity :=
  let m := if holdsText c thriftBinaryCName then { m with thriftBinary := true } else m
  let m := if holdsText c thriftCompactCName then { m with thriftCompact := true } else m
  if holdsText c snappyRawCName then { m with snappyRaw := true } else m

def separate (c : Bytes) : Bytes := if c ≠ [] then c ++ str ";" else c

def toString (m : MatrixCapacity) : Bytes :=
  let c : Bytes := if m.thriftBinary then thriftBinaryCName else []
  let c := if m.thriftCompact then separate c ++ thriftCompactCName else c
  if m.snappyRaw then separate c ++ snappyRawCName else c

def getThriftProto (a b : MatrixCapacity) : Proto :=
  if a.thriftCompact = true ∧ b.thriftCompact = true then .compact else .binary

def getCompressEnabled (a b : MatrixCapacity) : Bool :=
  if a.snappyRaw = true ∧ b.snappyRaw = true then true else false

/-- The text of a capacity says what it is, and nothing else. -/
theorem add_toString (m other : MatrixCapacity) : m.add other.toString =
    ⟨m.thriftBinary || other.thriftBinary, m.thriftCompact || other.thriftCompact,
      m.snappyRaw || other.snappyRaw⟩ := by
  obtain ⟨b, c, s⟩ := other
  have names : holdsText (toString ⟨b, c, s⟩) thriftBinaryCName = b ∧
      holdsText (toString ⟨b, c, s⟩) thriftCompactCName = c ∧
      holdsText (toString ⟨b, c, s⟩) snappyRawCName = s := by
    revert b c s
    decide +kernel
  obtain ⟨binary, compact, snappy⟩ := names
  rw [add, binary, compact, snappy]
  cases b <;> cases c <;> cases s <;> simp

end MatrixCapacity

/-- A message that the coder can write: the node has made it, or passes it
on. -/
structure Writable where
  message : Message
  sendable : message.Sendable

def Typed.writable (m : Typed) : Writable := ⟨m.message, m.sendable⟩

/-- A message as it was sent. -/
structure SentPacket where
  ctx : Ctx
  msg : Writable
  frame : Bytes

/-- One end of a channel: the capacity of its node, what it knows of the
other one, whether it has been told, and the protocols of its coder. -/
structure CapacityEnd where
  own : MatrixCapacity
  protoCapacity : MatrixCapacity
  told : Bool
  protos : Protos

/-- Both ends, `true` for the server; what is on the wire from each of them,
and what each has sent so far. -/
structure CapacityLink where
  ends : Bool → CapacityEnd
  wire : Bool → List SentPacket
  sent : Bool → List SentPacket

inductive CapacityEvent
  | writes (side : Bool) (msg : Writable)
  /-- `taken` tells whether the service gets as far as
  `set_proto_capacity`. -/
  | reads (side : Bool) (taken : Bool)

/-- What a login says about the capacity of its sender. A login is not
passed on. -/
def Writable.capacity (m : Writable) : Option Bytes :=
  match m.message.content with
  | .typed type _ header _ =>
    if type.name = verReqName ∨ type.name = verRespName then header.exten "capacity" else none
  | .forward _ _ => none

namespace CapacityEnd

/-- `set_encode_context` -/
def setEncodeContext (e : CapacityEnd) : Ctx where
  enableCompress := MatrixCapacity.getCompressEnabled e.protoCapacity e.own
  thriftProto := (MatrixCapacity.getThriftProto e.protoCapacity e.own).code
  localNodeId := []

/-- `on_write`: a message that cannot be encoded is not sent. -/
def onWrite (snappy : Snappy) (m : Writable) (e : CapacityEnd) : CapacityEnd × List SentPacket :=
  match Coder.encode snappy e.setEncodeContext m.message ⟨e.protos, ByteBuf.fresh⟩ with
  | (.ok .success, d) => ({ e with protos := d.protos }, [⟨e.setEncodeContext, m, d.buf.data⟩])
  | (_, d) => ({ e with protos := d.protos }, [])

/-- `set_proto_capacity` in `on_ver_req` and `on_ver_resp`. -/
def onLogin (m : Writable) (e : CapacityEnd) : CapacityEnd :=
  match m.capacity with
  | some c => { e with protoCapacity := e.protoCapacity.add c, told := true }
  | none => e

end CapacityEnd

namespace CapacityLink

def start (own : Bool → MatrixCapacity) : CapacityLink :=
  ⟨fun side => ⟨own side, .init, false, Protos.fresh⟩, fun _ => [], fun _ => []⟩

def step (snappy : Snappy) (s : CapacityLink) : CapacityEvent → Option CapacityLink
  | .writes side msg =>
    let (e, out) := (s.ends side).onWrite snappy msg
    some ⟨Function.update s.ends side e, Function.update s.wire side (s.wire side ++ out),
      Function.update s.sent side (s.sent side ++ out)⟩
  | .reads side taken =>
    match s.wire (! side) with
    | [] => none
    | packet :: rest =>
      let heard := if taken = true then (s.ends side).onLogin packet.msg else s.ends side
      some { s with ends := Function.update s.ends side heard, wire := Function.update s.wire (! side) rest }

/-- A login says what its sender can. -/
def Honest (s : CapacityLink) : CapacityEvent → Prop
  | .writes side msg => ∀ c ∈ msg.capacity, c = (s.ends side).own.toString
  | .reads _ _ => True

/-- Before anything is known of the other end. -/
def plain : Ctx := ⟨false, Proto.binary.code, []⟩

/-- What both ends can. -/
def agreed (own : Bool → MatrixCapacity) : Ctx where
  enableCompress := MatrixCapacity.getCompressEnabled (own false) (own true)
  thriftProto := (MatrixCapacity.getThriftProto (own false) (own true)).code
  localNodeId := []

/-- What an end knows of the other one, and what it has sent so far. -/
structure Sound (snappy : Snappy) (own : Bool → MatrixCapacity) (s : CapacityLink) (side : Bool) : Prop where
  node : (s.ends side).own = own side
  known : (s.ends side).protoCapacity =
    if (s.ends side).told = true then MatrixCapacity.init.add (own (! side)).toString else .init
  wire : ∀ packet ∈ s.wire side, ∀ c ∈ packet.msg.capacity, c = (own side).toString
  formats : ∃ before after,
    (s.sent side).map (·.ctx) = List.replicate before plain ++ List.replicate after (agreed own) ∧
      ((s.ends side).told = false → after = 0)
  frames : ∀ packet ∈ s.sent side, ∃ p, getProtocol packet.ctx.thriftProto = some p ∧
    packet.frame = Packet.frame snappy packet.ctx.enableCompress p (packet.msg.message.content.enc p.wire)

variable {snappy : Snappy} {own : Bool → MatrixCapacity} {s t : CapacityLink} {side : Bool}
  {event : CapacityEvent} {trace : List CapacityEvent}

theorem Sound.start (snappy : Snappy) (own : Bool → MatrixCapacity) (side : Bool) :
    Sound snappy own (start own) side :=
  ⟨rfl, rfl, List.forall_mem_nil _, ⟨0, 0, rfl, fun _ => rfl⟩, List.forall_mem_nil _⟩

theorem agreed_comm (own : Bool → MatrixCapacity) (side : Bool) :
    agreed own = ⟨MatrixCapacity.getCompressEnabled (own (! side)) (own side),
      (MatrixCapacity.getThriftProto (own (! side)) (own side)).code, []⟩ := by
  cases side with
  | false =>
    simp only [agreed, Bool.not_false, MatrixCapacity.getCompressEnabled, MatrixCapacity.getThriftProto, and_comm]
  | true => rfl

/-- An end that has been told uses what both can, and one that has not uses
what everybody can. -/
theorem Sound.context (sound : Sound snappy own s side) :
    (s.ends side).setEncodeContext = if (s.ends side).told = true then agreed own else plain := by
  rw [CapacityEnd.setEncodeContext, sound.known, sound.node]
  split
  · rw [agreed_comm own side, MatrixCapacity.add_toString]
    simp [MatrixCapacity.getCompressEnabled, MatrixCapacity.getThriftProto, MatrixCapacity.init]
  · simp [MatrixCapacity.getCompressEnabled, MatrixCapacity.getThriftProto, MatrixCapacity.init, plain]

theorem onWrite_cases (snappy : Snappy) (m : Writable) (e : CapacityEnd) : ∃ protos out,
    e.onWrite snappy m = ({ e with protos }, out) ∧
      (out = [] ∨ ∃ frame p, out = [⟨e.setEncodeContext, m, frame⟩] ∧
        getProtocol e.setEncodeContext.thriftProto = some p ∧
        frame = Packet.frame snappy e.setEncodeContext.enableCompress p (m.message.content.enc p.wire)) := by
  rw [CapacityEnd.onWrite]
  split
  · rename_i d sent
    obtain ⟨p, negotiated, data⟩ := encode_success m.sendable ByteBuf.fresh_appendable rfl sent
    exact ⟨d.protos, _, rfl, Or.inr ⟨_, p, rfl, negotiated, data⟩⟩
  · exact ⟨_, _, rfl, Or.inl rfl⟩

theorem Sound.congr (sound : Sound snappy own s side) (ends : t.ends side = s.ends side)
    (wire : t.wire side ⊆ s.wire side) (sent : t.sent side = s.sent side) : Sound snappy own t side := by
  refine ⟨?_, ?_, fun packet member => sound.wire packet (wire member), ?_, ?_⟩
  · rw [ends]
    exact sound.node
  · rw [ends]
    exact sound.known
  · rw [ends, sent]
    exact sound.formats
  · rw [sent]
    exact sound.frames

/-- The formats change at most once. -/
theorem formats_snoc {told : Bool} {formats : List Ctx} {better : Ctx} {before after : Nat}
    (shape : formats = List.replicate before plain ++ List.replicate after better)
    (none : told = false → after = 0) :
    ∃ before after, formats ++ [if told = true then better else plain] =
      List.replicate before plain ++ List.replicate after better ∧ (told = false → after = 0) := by
  cases told with
  | true =>
    refine ⟨before, after + 1, ?_, fun wrong => Bool.noConfusion wrong⟩
    rw [shape, if_pos rfl, List.append_assoc, List.replicate_succ']
  | false =>
    refine ⟨before + 1, 0, ?_, fun _ => rfl⟩
    rw [shape, none rfl, if_neg Bool.false_ne_true, List.replicate_succ', List.replicate_zero, List.append_nil,
      List.append_nil]

theorem Sound.written (sound : Sound snappy own s side) {msg : Writable}
    (honest : ∀ c ∈ msg.capacity, c = (s.ends side).own.toString)
    (ran : s.step snappy (.writes side msg) = some t) : Sound snappy own t side := by
  obtain ⟨protos, out, wrote, shape⟩ := onWrite_cases snappy msg (s.ends side)
  rw [CapacityLink.step, wrote] at ran
  cases ran
  rcases shape with rfl | ⟨frame, p, rfl, negotiated, data⟩
  · refine ⟨?_, ?_, ?_, ?_, ?_⟩
    · simp only [Function.update_self]
      exact sound.node
    · simp only [Function.update_self]
      exact sound.known
    · simp only [Function.update_self, List.append_nil]
      exact sound.wire
    · simp only [Function.update_self, List.append_nil]
      exact sound.formats
    · simp only [Function.update_self, List.append_nil]
      exact sound.frames
  · refine ⟨?_, ?_, ?_, ?_, ?_⟩
    · simp only [Function.update_self]
      exact sound.node
    · simp only [Function.update_self]
      exact sound.known
    · intro packet member c said
      simp only [Function.update_self] at member
      rcases List.mem_append.mp member with old | new
      · exact sound.wire packet old c said
      · rw [List.mem_singleton.mp new] at said
        rw [honest c said, sound.node]
    · obtain ⟨before, after, formats, none⟩ := sound.formats
      simp only [Function.update_self, List.map_append, List.map_cons, List.map_nil]
      rw [sound.context]
      exact formats_snoc formats none
    · intro packet member
      simp only [Function.update_self] at member
      rcases List.mem_append.mp member with old | new
      · exact sound.frames packet old
      · rw [List.mem_singleton.mp new]
        exact ⟨p, negotiated, data⟩

/-- A login that is taken over says what the other end can, whether it is
the first one or not. -/
theorem Sound.login (sound : Sound snappy own s side) {msg : Writable}
    (honest : ∀ c ∈ msg.capacity, c = (own (! side)).toString)
    (ends : t.ends side = (s.ends side).onLogin msg) (wire : t.wire side = s.wire side)
    (sent : t.sent side = s.sent side) :
    Sound snappy own t side := by
  cases said : msg.capacity with
  | none =>
    refine sound.congr ?_ (wire ▸ List.Subset.refl _) sent
    rw [ends, CapacityEnd.onLogin, said]
  | some c =>
    have text := honest c (by rw [said]; rfl)
    have learnt : t.ends side =
        { s.ends side with protoCapacity := (s.ends side).protoCapacity.add c, told := true } := by
      rw [ends, CapacityEnd.onLogin, said]
    refine ⟨?_, ?_, ?_, ?_, ?_⟩
    · rw [learnt]
      exact sound.node
    · have known := sound.known
      rw [learnt]
      dsimp only
      rw [if_pos rfl, text, known]
      split
      · rw [MatrixCapacity.add_toString, MatrixCapacity.add_toString]
        simp
      · rfl
    · rw [wire]
      exact sound.wire
    · obtain ⟨before, after, formats, _⟩ := sound.formats
      rw [learnt, sent]
      exact ⟨before, after, formats, fun wrong => Bool.noConfusion wrong⟩
    · rw [sent]
      exact sound.frames

theorem Sound.step (sound : ∀ side, Sound snappy own s side) (honest : s.Honest event)
    (ran : s.step snappy event = some t) (side : Bool) : Sound snappy own t side := by
  cases event with
  | writes writer msg =>
    by_cases same : side = writer
    · subst same
      exact (sound side).written honest ran
    · cases ran
      refine (sound side).congr ?_ ?_ ?_
      · exact Function.update_of_ne same _ _
      · dsimp only
        rw [Function.update_of_ne same]
        exact List.Subset.refl _
      · exact Function.update_of_ne same _ _
  | reads reader taken =>
    rw [CapacityLink.step] at ran
    split at ran
    · cases ran
    rename_i packet rest queued
    cases ran
    have apart : reader ≠ ! reader := (Bool.not_ne_self reader).symm
    by_cases same : side = reader
    · subst same
      have kept : Function.update s.wire (! side) rest side = s.wire side := Function.update_of_ne apart _ _
      cases taken with
      | true =>
        have said : ∀ c ∈ packet.msg.capacity, c = (own (! side)).toString :=
          (sound (! side)).wire packet (by rw [queued]; exact List.mem_cons_self)
        exact (sound side).login said (Function.update_self ..) kept rfl
      | false => exact (sound side).congr (Function.update_self ..) (kept ▸ List.Subset.refl _) rfl
    · obtain rfl : side = ! reader := Bool.eq_not_of_ne same
      refine (sound (! reader)).congr (Function.update_of_ne apart.symm _ _) ?_ rfl
      dsimp only
      rw [Function.update_self, queued]
      exact List.subset_cons_self _ _

/-- In whatever order both ends write messages of their own, pass others on
and read, and whichever logins are taken over: each end first sends packets
that everybody can read, and from some point on packets in the best formats
that both can, and from its login on only those; so what it writes into a
packet is never in a format that one of the nodes has not. The body of a
message that is passed on is not written anew: it stays as it came in. -/
theorem formats_of_run (run : Run (CapacityLink.step snappy) Honest (CapacityLink.start own) trace s)
    (side : Bool) :
    (∃ before after,
      (s.sent side).map (·.ctx) = List.replicate before plain ++ List.replicate after (agreed own)) ∧
      ((s.ends side).told = true → (s.ends side).setEncodeContext = agreed own) ∧
      ∀ packet ∈ s.sent side, ∃ p,
        packet.frame = Packet.frame snappy packet.ctx.enableCompress p (packet.msg.message.content.enc p.wire) ∧
        (p = .compact → ∀ node, (own node).thriftCompact = true) ∧
        (packet.ctx.enableCompress = true → ∀ node, (own node).snappyRaw = true) := by
  have all := run.invariant (P := fun s => ∀ side, Sound snappy own s side) (Sound.start snappy own)
    (fun sound honest ran => Sound.step sound honest ran)
  have sound := all side
  obtain ⟨before, after, formats, _⟩ := sound.formats
  refine ⟨⟨before, after, formats⟩, fun told => ?_, fun packet member => ?_⟩
  · rw [sound.context, if_pos told]
  · obtain ⟨p, negotiated, data⟩ := sound.frames packet member
    have format : packet.ctx = plain ∨ packet.ctx = agreed own := by
      have listed : packet.ctx ∈ (s.sent side).map (·.ctx) := List.mem_map_of_mem member
      rw [formats] at listed
      exact (List.mem_append.mp listed).imp List.eq_of_mem_replicate List.eq_of_mem_replicate
    refine ⟨p, data, ?_⟩
    rcases format with ctx | ctx
    · rw [ctx] at negotiated ⊢
      cases negotiated
      exact ⟨fun wrong => (by cases wrong), fun wrong => Bool.noConfusion wrong⟩
    · rw [ctx] at negotiated ⊢
      refine ⟨fun compact => ?_, fun compressed => ?_⟩
      · rw [compact] at negotiated
        by_cases both : (own false).thriftCompact = true ∧ (own true).thriftCompact = true
        · exact Bool.forall_bool.mpr both
        · simp only [agreed, MatrixCapacity.getThriftProto, if_neg both, Proto.code] at negotiated
          cases negotiated
      · by_cases both : (own false).snappyRaw = true ∧ (own true).snappyRaw = true
        · exact Bool.forall_bool.mpr both
        · simp only [agreed, MatrixCapacity.getCompressEnabled, if_neg both] at compressed
          cases compressed

/-- The header of the `ver_resp` of a node with all formats. -/
def fullHeader : BaseHeader := ⟨0, verRespName, none, none, none,
  some (OrdMap.empty.insert (str "capacity") (MatrixCapacity.toString ⟨true, true, true⟩))⟩

theorem fullHeader_named : fullHeader.msgName = verRespName := rfl

theorem fullHeader_registered : MsgType.Registered ⟨fullHeader.msgName, verRespBody⟩ := rfl

def fullVerResp : Typed where
  type := ⟨verRespName, verRespBody⟩
  header := fullHeader
  body := (str "a", 0, 0, ())
  registered := fullHeader_registered
  named := fullHeader_named

/-- A test for `Honest`. -/
def isHonest (s : CapacityLink) : CapacityEvent → Bool
  | .writes side msg => msg.capacity.all (fun c => c = (s.ends side).own.toString)
  | .reads _ _ => true

theorem honest_of_isHonest (s : CapacityLink) (event : CapacityEvent) (fine : s.isHonest event = true) :
    s.Honest event := by
  cases event with
  | writes side msg =>
    intro c said
    rw [isHonest, Option.mem_def.mp said] at fine
    exact of_decide_eq_true fine
  | reads side taken => trivial

/-- Nodes with all formats: the client hears of the server, and writes. -/
theorem formats_of_run_full : ∃ trace s,
    Run (CapacityLink.step ⟨id, some⟩) Honest (CapacityLink.start fun _ => ⟨true, true, true⟩) trace s ∧
      (s.sent false).length = 1 ∧ (s.ends false).setEncodeContext = agreed (fun _ => ⟨true, true, true⟩) := by
  have facts : (runAll (guarded (CapacityLink.step ⟨id, some⟩) isHonest)
      (CapacityLink.start fun _ => ⟨true, true, true⟩)
      [.writes true fullVerResp.writable, .reads false true, .writes false fullVerResp.writable]).any
        (fun s => (s.sent false).length = 1 ∧ (s.ends false).told = true) = true := by decide +kernel
  obtain ⟨s, ran, shown⟩ := (Option.any_eq_true _ _).mp facts
  obtain ⟨one, told⟩ := of_decide_eq_true shown
  have run := Run.of_guarded honest_of_isHonest _ .start ran
  exact ⟨_, s, run, one, (formats_of_run run false).2.1 told⟩

end CapacityLink

end DbcNode
