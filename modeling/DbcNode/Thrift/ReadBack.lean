import DbcNode.Thrift.Wire

namespace DbcNode

/-- The read pointer is this much further and the rest of the object is as
it was, the last field id and the string buffer apart. -/
structure Consumed (st st' : ProtState) (n : Nat) : Prop where
  buf : st'.buf = st.buf.advance n
  stack : st'.lastField = st.lastField
  bool : st'.boolValue = st.boolValue
  field : st'.booleanField = st.booleanField

theorem Consumed.refl (st : ProtState) : Consumed st st 0 := ⟨(ByteBuf.advance_zero _).symm, rfl, rfl, rfl⟩

theorem Consumed.trans {a b c : ProtState} {m n : Nat} (left : Consumed a b m) (right : Consumed b c n) :
    Consumed a c (m + n) where
  buf := by rw [right.buf, left.buf, ByteBuf.advance_advance]
  stack := right.stack.trans left.stack
  bool := right.bool.trans left.bool
  field := right.field.trans left.field

namespace Wire
variable {w : Wire} {α β : Type} {c c' c'' : BitVec 16} {bytes more : Bytes}

/-- Where these bytes are next in the buffer, the call reads them all and
returns this value. -/
def Parses (w : Wire) (m : Call α) (c c' : BitVec 16) (bytes : Bytes) (x : α) : Prop :=
  ∀ st rest, w.cursor st = c → st.buf.data = bytes ++ rest →
    ∃ st', m st = (.ok x, st') ∧ Consumed st st' bytes.length ∧ w.cursor st' = c'

theorem Parses.pure (x : α) : w.Parses (Pure.pure x) c c [] x := by
  intro st rest placed _
  exact ⟨st, rfl, Consumed.refl st, placed⟩

theorem Parses.bind {m : Call α} {f : α → Call β} {x : α} {y : β} (first : w.Parses m c c' bytes x)
    (second : w.Parses (f x) c' c'' more y) : w.Parses (m >>= f) c c'' (bytes ++ more) y := by
  intro st rest placed holds
  obtain ⟨st', ran, consumed, there⟩ := first st (more ++ rest) placed (by rw [holds, List.append_assoc])
  have left : st'.buf.data = more ++ rest := by
    rw [consumed.buf, ByteBuf.advance_data, holds, List.append_assoc, List.drop_left]
  obtain ⟨st'', ran', consumed', there'⟩ := second st' rest there left
  refine ⟨st'', (Prog.bind_ok ran).trans ran', ?_, there'⟩
  rw [List.length_append]
  exact consumed.trans consumed'

theorem Parses.map {m : Call α} {x : α} (f : α → β) (first : w.Parses m c c' bytes x) :
    w.Parses (m >>= fun y => Pure.pure (f y)) c c' bytes (f x) := by
  have both := first.bind (f := fun y => Pure.pure (f y)) (Parses.pure (f x))
  rwa [List.append_nil] at both

theorem Parses.take : w.Parses (DbcNode.take bytes.length) c c bytes bytes := by
  intro st rest placed holds
  have enough : bytes.length ≤ st.buf.data.length := by
    rw [holds, List.length_append]
    omega
  refine ⟨{ st with buf := st.buf.advance bytes.length }, ?_, ⟨rfl, rfl, rfl, rfl⟩, placed⟩
  rw [DbcNode.take, onBuf, ByteBuf.readFromByteBuf_run enough, holds, List.take_left]

theorem Parses.takeByte (b : UInt8) : w.Parses DbcNode.takeByte c c [b] b :=
  Parses.map (fun bytes : Bytes => bytes.headD 0) (Parses.take : w.Parses (DbcNode.take [b].length) c c [b] [b])

/-- A counted loop reads the items one after the other; `acc` is what it has
built from the items so far. -/
theorem Parses.iterate {step : β → Call β} {enc : α → Bytes} (acc : List α → β) (xs : List α)
    (one : ∀ before x after, xs = before ++ x :: after →
      w.Parses (step (acc before)) c c (enc x) (acc (before ++ [x]))) :
    w.Parses (Prog.iterate xs.length step (acc [])) c c (xs.flatMap enc) (acc xs) := by
  have onward : ∀ after before, xs = before ++ after →
      w.Parses (Prog.iterate after.length step (acc before)) c c (after.flatMap enc) (acc xs) := by
    intro after
    induction after with
    | nil =>
      intro before whole
      rw [whole, List.append_nil]
      exact Parses.pure _
    | cons x after ih =>
      intro before whole
      exact (one before x after whole).bind (ih (before ++ [x]) (by simp [whole]))
  exact onward xs [] rfl

end Wire

/-- The reading half of a protocol reads the primitives of the format
back. -/
structure Protocol.Reads (p : Protocol) (w : Wire) : Prop where
  i16 : ∀ c x, w.Parses p.readI16 c c (w.i16 x) x
  i32 : ∀ c x, w.Parses p.readI32 c c (w.i32 x) x
  i64 : ∀ c x, w.Parses p.readI64 c c (w.i64 x) x
  string : ∀ c x, x.length ≤ maxStringLimit → w.Parses p.readString c c (w.string x) x
  listBegin : ∀ c (elem : Ty) size, size ≤ maxContainerLimit →
    w.Parses p.readListBegin c c (w.listBegin elem.ttype size) (elem.ttype, size)
  mapBegin : ∀ c (value : Ty) size, size ≤ maxContainerLimit → w.readsMap size = true →
    w.Parses p.readMapBegin c c (w.mapBegin tString value.ttype size) (tString, value.ttype, size)
  fieldBegin : ∀ c (t : Ty) id,
    w.Parses p.readFieldBegin c (w.next id) (w.fieldBegin c t.ttype id) (t.ttype, id)
  fieldBegin_ne_nil : ∀ c (t : Ty) id, w.fieldBegin c t.ttype id ≠ []
  fieldStop : ∀ c, w.Parses p.readFieldBegin c c [tStop] (tStop, 0)
  struct : ∀ {α : Type} c c' (m : Call α) bytes x, w.Parses m 0 c' bytes x →
    w.Parses (do p.readStructBegin; let y ← m; p.readStructEnd; return y) c c bytes x

theorem Ty.ttype_ne_tStop (t : Ty) : t.ttype ≠ tStop := by
  cases t <;> simp only [Ty.ttype] <;> decide

theorem Ty.ttype_ne_tBool (t : Ty) : t.ttype ≠ tBool := by
  cases t <;> simp only [Ty.ttype] <;> decide

/-- A class all of whose members have been read. -/
def Fields.full : (fs : Fields) → fs.Val → fs.Draft
  | .nil, _ => ()
  | .required _ _ rest, (x, xs) => ((x, true), rest.full xs)
  | .optional _ _ rest, (x, xs) => (x, rest.full xs)

theorem Fields.close_full : (fs : Fields) → (x : fs.Val) → fs.close (fs.full x) = return x
  | .nil, _ => rfl
  | .required _ _ rest, (x, xs) => by
    simp only [Fields.full, Fields.close, rest.close_full xs, pure_bind, if_true]
  | .optional _ _ rest, (x, xs) => by
    simp only [Fields.full, Fields.close, rest.close_full xs, pure_bind]

/-- One round of the reading loop of a class. -/
def Fields.round (p : Protocol) (fs : Fields) (draft : fs.Draft) : Call (fs.Draft ⊕ fs.Draft) := do
  let (ftype, fid) ← p.readFieldBegin
  if ftype = tStop then return .inr draft
  return .inl (← fs.readField p ftype fid draft)

theorem Ty.read_struct (p : Protocol) (fs : Fields) (x : (Ty.struct fs).Val) :
    (Ty.struct fs).read p x = (do
      p.readStructBegin
      let draft ← (do Prog.loop (← remaining) (fs.round p) (fs.open x))
      p.readStructEnd
      return draft) >>= fs.close := by
  rw [Ty.read]
  simp only [bind_assoc, pure_bind]
  rfl

theorem Fields.present_le {p : Protocol} {w : Wire} (reads : p.Reads w) :
    (fs : Fields) → (c : BitVec 16) → (x : fs.Val) → fs.present x ≤ (fs.enc w c x).length
  | .nil, _, _ => Nat.le_refl 0
  | .required id type rest, c, (x, xs) => by
    have header := List.length_pos_of_ne_nil (reads.fieldBegin_ne_nil c type id)
    have later := rest.present_le reads (w.next id) xs
    simp only [Fields.present, Fields.enc, List.length_append]
    omega
  | .optional id type rest, c, (some x, xs) => by
    have header := List.length_pos_of_ne_nil (reads.fieldBegin_ne_nil c type id)
    have later := rest.present_le reads (w.next id) xs
    simp only [Fields.present, Fields.enc, List.length_append]
    omega
  | .optional _ _ rest, c, (none, xs) => rest.present_le reads c xs

/-- The draft of some members as part of the draft of a whole class: a field
of these members is read there as it is read on its own. -/
def Routes (p : Protocol) (fs all : Fields) (place : fs.Draft → all.Draft) : Prop :=
  ∀ ftype fid draft, fid ∈ fs.ids →
    all.readField p ftype fid (place draft) = (do return place (← fs.readField p ftype fid draft))

theorem Routes.whole (p : Protocol) (fs : Fields) : Routes p fs fs id := by
  intro ftype fid draft _
  exact (bind_pure _).symm

theorem Routes.required {p : Protocol} {id : BitVec 16} {t : Ty} {rest all : Fields}
    {place : (Fields.required id t rest).Draft → all.Draft} (routes : Routes p (.required id t rest) all place)
    (distinct : id ∉ rest.ids) (head : t.Val × Bool) : Routes p rest all (fun d => place (head, d)) := by
  intro ftype fid draft member
  have other : fid ≠ id := fun same => distinct (same ▸ member)
  rw [routes ftype fid _ (List.mem_cons_of_mem _ member)]
  simp only [Fields.readField, if_neg other, bind_assoc, pure_bind]

theorem Routes.optional {p : Protocol} {id : BitVec 16} {t : Ty} {rest all : Fields}
    {place : (Fields.optional id t rest).Draft → all.Draft} (routes : Routes p (.optional id t rest) all place)
    (distinct : id ∉ rest.ids) (head : Option t.Val) : Routes p rest all (fun d => place (head, d)) := by
  intro ftype fid draft member
  have other : fid ≠ id := fun same => distinct (same ▸ member)
  rw [routes ftype fid _ (List.mem_cons_of_mem _ member)]
  simp only [Fields.readField, if_neg other, bind_assoc, pure_bind]

namespace Protocol.Reads
variable {p : Protocol} {w : Wire}

/-- A round that reads one member, and the rounds after it. -/
theorem member (reads : p.Reads w) {t : Ty} {x : t.Val} {id c c' : BitVec 16} {all : Fields}
    {before after final : all.Draft} {n : Nat} {more : Bytes}
    (value : w.Parses (all.readField p t.ttype id before) (w.next id) (w.next id) (t.enc w x) after)
    (later : w.Parses (Prog.loop n (all.round p) after) (w.next id) c' more final) :
    w.Parses (Prog.loop (n + 1) (all.round p) before) c c' (w.fieldBegin c t.ttype id ++ (t.enc w x ++ more))
      final := by
  rw [Prog.loop, Fields.round]
  simp only [bind_assoc]
  refine (reads.fieldBegin c t id).bind ?_
  simp only [if_neg t.ttype_ne_tStop, bind_assoc, pure_bind]
  exact value.bind later

theorem last (reads : p.Reads w) {c : BitVec 16} {all : Fields} {draft : all.Draft} {n : Nat} :
    w.Parses (Prog.loop (n + 1) (all.round p) draft) c c [tStop] draft := by
  rw [Prog.loop, Fields.round]
  simp only [bind_assoc]
  have stop := reads.fieldStop c
  rw [← List.append_nil [tStop]]
  refine stop.bind ?_
  simp only [if_true, pure_bind]
  exact Wire.Parses.pure draft

mutual

theorem ty (reads : p.Reads w) : ∀ (t : Ty) (c : BitVec 16) (x : t.Val), t.Distinct → t.Within w x →
    w.Parses (t.read p t.init) c c (t.enc w x) x
  | .i16, c, x, _, _ => reads.i16 c x
  | .i32, c, x, _, _ => reads.i32 c x
  | .i64, c, x, _, _ => reads.i64 c x
  | .string, c, x, _, within => reads.string c x within
  | .list elem, c, xs, distinct, within => by
    simp only [Ty.read, Ty.enc]
    refine (reads.listBegin c elem _ within.1).bind ?_
    refine Wire.Parses.iterate (fun before : List elem.Val => before) xs ?_
    intro before x after whole
    have inside : x ∈ xs := by
      rw [whole]
      exact List.mem_append_right _ List.mem_cons_self
    exact (ty reads elem c x distinct (within.2 x inside)).map (fun y => before ++ [y])
  | .map value, c, m, distinct, within => by
    simp only [Ty.read, Ty.enc]
    refine (reads.mapBegin c value _ within.1.1 within.1.2).bind ?_
    have whole : m.entries.foldl (fun n entry => n.insert entry.1 entry.2) OrdMap.empty = m :=
      OrdMap.ext (OrdMap.foldl_insert_entries m.sorted)
    refine (congrArg _ whole).mp (Wire.Parses.iterate
      (fun before => before.foldl (fun n entry => n.insert entry.1 entry.2) OrdMap.empty) m.entries ?_)
    intro before entry after split
    have inside : entry ∈ m.entries := by
      rw [split]
      exact List.mem_append_right _ List.mem_cons_self
    have sorted := m.sorted
    rw [split] at sorted
    obtain ⟨first, _, above⟩ := List.pairwise_append.mp sorted
    have fresh : OrdMap.find (before.foldl (fun n entry => n.insert entry.1 entry.2) OrdMap.empty) entry.1 =
        (none : Option value.Val) := by
      rw [OrdMap.find, OrdMap.foldl_insert_entries first]
      exact OrdMap.findIn_of_above (fun other member => above other member entry List.mem_cons_self)
    refine (reads.string c entry.1 (within.2 entry inside).1).bind ?_
    rw [fresh, List.foldl_append, List.foldl_cons, List.foldl_nil]
    exact (ty reads value c entry.2 distinct (within.2 entry inside).2).map (OrdMap.insert _ entry.1)
  | .struct fs, c, x, distinct, within => by
    obtain ⟨c', parsed⟩ := fields reads fs fs id (Routes.whole p fs) 0 x distinct.1 distinct.2 within
    have looped : w.Parses (do Prog.loop (← remaining) (fs.round p) (fs.open fs.init)) 0 c'
        (fs.enc w 0 x ++ [tStop]) (fs.full x) := by
      intro st rest placed holds
      have enough : fs.present x < st.buf.data.length + 1 := by
        have short := fs.present_le reads 0 x
        rw [holds, List.length_append, List.length_append]
        omega
      exact parsed _ enough st rest placed holds
    have closed : w.Parses (fs.close (fs.full x)) c c [] x := by
      rw [fs.close_full x]
      exact Wire.Parses.pure x
    have bracketed := (reads.struct c c' _ _ _ looped).bind closed
    rw [List.append_nil] at bracketed
    rw [Ty.read_struct]
    exact bracketed

theorem fields (reads : p.Reads w) : ∀ (fs all : Fields) (place : fs.Draft → all.Draft), Routes p fs all place →
    ∀ (c : BitVec 16) (x : fs.Val), fs.ids.Nodup → fs.Distinct → fs.Within w x →
      ∃ c', ∀ n, fs.present x < n →
        w.Parses (Prog.loop n (all.round p) (place (fs.open fs.init))) c c' (fs.enc w c x ++ [tStop])
          (place (fs.full x))
  | .nil, all, place, routes, c, _, _, _, _ => by
    refine ⟨c, fun n enough => ?_⟩
    obtain ⟨n, rfl⟩ := Nat.exists_eq_succ_of_ne_zero (Nat.ne_of_gt enough)
    exact reads.last
  | .required id t rest, all, place, routes, c, (x, xs), nodup, distinct, within => by
    obtain ⟨other, nodups⟩ := List.nodup_cons.mp nodup
    obtain ⟨c', later⟩ := fields reads rest all _ (routes.required other (x, true)) (w.next id) xs nodups
      distinct.2 within.2
    refine ⟨c', fun n enough => ?_⟩
    obtain ⟨n, rfl⟩ := Nat.exists_eq_succ_of_ne_zero (Nat.ne_of_gt (Nat.zero_lt_of_lt enough))
    simp only [Fields.enc, List.append_assoc]
    refine reads.member (x := x) ?_ (later n (Nat.lt_of_succ_lt_succ enough))
    rw [Fields.open, routes _ _ _ List.mem_cons_self]
    simp only [Fields.readField, if_true, bind_assoc, pure_bind]
    exact (ty reads t _ x distinct.1 within.1).map (fun y => place ((y, true), rest.open rest.init))
  | .optional id t rest, all, place, routes, c, (none, xs), nodup, distinct, within => by
    obtain ⟨other, nodups⟩ := List.nodup_cons.mp nodup
    exact fields reads rest all _ (routes.optional other none) c xs nodups distinct.2 within.2
  | .optional id t rest, all, place, routes, c, (some x, xs), nodup, distinct, within => by
    obtain ⟨other, nodups⟩ := List.nodup_cons.mp nodup
    obtain ⟨c', later⟩ := fields reads rest all _ (routes.optional other (some x)) (w.next id) xs nodups
      distinct.2 within.2
    refine ⟨c', fun n enough => ?_⟩
    obtain ⟨n, rfl⟩ := Nat.exists_eq_succ_of_ne_zero (Nat.ne_of_gt (Nat.zero_lt_of_lt enough))
    simp only [Fields.enc, List.append_assoc]
    refine reads.member (x := x) ?_ (later n (Nat.lt_of_succ_lt_succ enough))
    rw [Fields.open, routes _ _ _ List.mem_cons_self]
    simp only [Fields.readField, if_true, bind_assoc, pure_bind]
    exact (ty reads t _ x distinct.1 (within.1 x rfl)).map (fun y => place (some y, rest.open rest.init))

end

end Protocol.Reads

end DbcNode
