import DbcNode.Thrift.Agree
import DbcNode.Thrift.ReadBack

namespace DbcNode

/-- What is read inside a class, where both objects start with the cursor at
zero and end with it at the same place. -/
def Inside {α : Type} (w : Wire) (len : Nat) (m : Call α) (P : α → Prop) : Prop :=
  ∀ leftStack rightStack, Prog.Couples (Agree w ⟨0, 0, leftStack, rightStack⟩ len False) m
    (fun a s t => (∃ c, Agree w ⟨c, c, leftStack, rightStack⟩ len False s t) ∧ P a) Broke

/-- The reading half of a protocol does the same for every history of its
object, and ends by returning or by throwing. -/
structure Protocol.Tame (p : Protocol) (w : Wire) : Prop where
  byte : Runs w 0 p.readByte (fun _ => True)
  i16 : Runs w 0 p.readI16 (fun _ => True)
  i32 : Runs w 0 p.readI32 (fun _ => True)
  i64 : Runs w 0 p.readI64 (fun _ => True)
  double : Runs w 0 p.readDouble (fun _ => True)
  string : Runs w 0 p.readString (fun x => x.length ≤ maxStringLimit)
  listBegin : Runs w 1 p.readListBegin (fun r => r.2 ≤ maxContainerLimit)
  setBegin : Runs w 1 p.readSetBegin (fun r => r.2 ≤ maxContainerLimit)
  mapBegin : Runs w 1 p.readMapBegin (fun r => r.2.2 ≤ maxContainerLimit ∧ w.readsMap r.2.2 = true)
  smallerMap : ∀ n m, w.readsMap n = true → (m = 0 → n = 0) → w.readsMap m = true
  bool : ∀ marks len pend, Prog.Couples (Agree w marks len pend) p.readBool
    (fun _ => Agree w marks len False) Broke
  fieldBegin : ∀ c leftStack rightStack len, Prog.Couples (Agree w ⟨c, c, leftStack, rightStack⟩ len False)
    p.readFieldBegin (fun r s t => 1 ≤ len ∧
      ∃ c', Agree w ⟨c', c', leftStack, rightStack⟩ (len - 1) (r.1 = tBool) s t) Broke
  struct : ∀ {α : Type} (m : Call α) (P : α → Prop) len, Inside w len m P → ∀ marks,
    Prog.Couples (Agree w marks len False) (do p.readStructBegin; let y ← m; p.readStructEnd; return y)
      (fun a s t => Agree w marks len False s t ∧ P a) Broke

namespace Protocol.Tame
variable {p : Protocol} {w : Wire}

/-- One round of the loop over the fields of a class. -/
theorem round (tame : p.Tame w) {β : Type} {R : β → Prop} {each : TType → BitVec 16 → β → Call β} {len l : Nat}
    {leftStack rightStack : List (BitVec 16)} (within : l ≤ len)
    (field : ∀ ftype fid b, R b → ∀ marks len', len' < len → Prog.Couples (Agree w marks len' (ftype = tBool))
      (each ftype fid b) (fun b' s t => Agree w marks len' False s t ∧ R b') Broke)
    {b : β} (start : R b) (c : BitVec 16) :
    Prog.Couples (Agree w ⟨c, c, leftStack, rightStack⟩ l False) (do
      let (ftype, fid) ← p.readFieldBegin
      if ftype = tStop then return .inr b
      return .inl (← each ftype fid b))
      (fun (r : β ⊕ β) s t => 1 ≤ l ∧ (∃ c', Agree w ⟨c', c', leftStack, rightStack⟩ (l - 1) False s t) ∧
        R (r.elim id id)) Broke := by
  refine (tame.fieldBegin c leftStack rightStack l).bind (fun r => ?_)
  refine Prog.Couples.assume (fun some => Prog.Couples.some (fun c' => ?_))
  by_cases stop : r.1 = tStop
  · simp only [if_pos stop]
    refine Prog.Couples.pure _ (fun s t agree => ⟨some, ⟨c', agree.pends ?_⟩, start⟩)
    rw [stop]
    decide
  · simp only [if_neg stop]
    refine (field r.1 r.2 b start _ (l - 1) (by omega)).bind (fun b' => ?_)
    exact Prog.Couples.pure _ (fun s t held => ⟨some, ⟨c', held.1⟩, held.2⟩)

/-- The loop over the fields of a class, from what one field does. -/
theorem loop (tame : p.Tame w) {β : Type} {R : β → Prop} {f : TType → BitVec 16 → β → Call β} {n : Nat} {b : β}
    (start : R b)
    (field : ∀ ftype fid b, R b → ∀ marks len', len' < n → Prog.Couples (Agree w marks len' (ftype = tBool))
      (f ftype fid b) (fun b' s t => Agree w marks len' False s t ∧ R b') Broke) :
    Inside w n (do
      Prog.loop (← remaining) (fun b => do
        let (ftype, fid) ← p.readFieldBegin
        if ftype = tStop then return .inr b
        return .inl (← f ftype fid b)) b) R := by
  intro leftStack rightStack
  have rounds : ∀ rounds, Prog.Couples (fun s t => rounds = s.buf.data.length + 1 ∧
      Agree w ⟨0, 0, leftStack, rightStack⟩ n False s t) (Prog.loop rounds (fun b => do
        let (ftype, fid) ← p.readFieldBegin
        if ftype = tStop then return .inr b
        return .inl (← f ftype fid b)) b)
      (fun a s t => (∃ c, Agree w ⟨c, c, leftStack, rightStack⟩ n False s t) ∧ R a) Broke := by
    intro rounds
    refine (Prog.Couples.loop (I := fun k b s t => R b ∧ ∃ l, (l < k ∧ l ≤ n) ∧
      ∃ c, Agree w ⟨c, c, leftStack, rightStack⟩ l False s t) ?_ ?_ b).mono ?_ (fun _ _ _ held => held)
    · intro k b
      refine Prog.Couples.assume (fun holds => Prog.Couples.some (fun l => Prog.Couples.assume (fun bound =>
        Prog.Couples.some (fun c => (tame.round bound.2 field holds c).mono (fun _ _ agree => agree) ?_))))
      rintro (b' | b') s t ⟨some, ⟨c', agree⟩, kept⟩
      · exact ⟨kept, l - 1, by omega, c', agree⟩
      · exact ⟨⟨c', agree.longer (by omega)⟩, kept⟩
    · rintro b s t ⟨_, l, bound, _⟩
      omega
    · rintro s t ⟨count, agree⟩
      exact ⟨start, s.buf.data.length, ⟨by omega, agree.short⟩, 0, agree.tight⟩
  refine Prog.Couples.bind (Q := fun rounds s t => rounds = s.buf.data.length + 1 ∧
    Agree w ⟨0, 0, leftStack, rightStack⟩ n False s t) (Prog.Couples.fetch ?_) rounds
  intro s t agree
  exact ⟨by rw [agree.buf], rfl, agree⟩

/-- A value that is read and dropped. -/
theorem dropped {α : Type} {m : Call α} {P : α → Prop} (runs : Runs w 0 m P) (marks : Marks) (len : Nat) :
    Prog.Couples (Agree w marks len False) (do let _ ← m) (fun _ => Agree w marks len False) Broke := by
  have both := runs.bind (f := fun _ => Pure.pure ()) (Q := fun _ => True) (fun _ _ => Runs.pure trivial)
  exact (both marks len).mono (fun _ _ agree => agree) (fun _ _ _ held => held.2.1)

/-- A container whose elements are dropped. Its header takes a byte, so the
elements are shorter than the container. -/
theorem container {α : Type} {m : Call α} {P : α → Prop} {f : α → Unit → Call Unit} {n : α → Nat} {len : Nat}
    (header : Runs w 1 m P) (marks : Marks)
    (element : ∀ a, 1 ≤ len → Prog.Couples (Agree w marks (len - 1) False) (f a ())
      (fun _ => Agree w marks (len - 1) False) Broke) :
    Prog.Couples (Agree w marks len False) (m >>= fun a => Prog.iterate (n a) (f a) ())
      (fun _ => Agree w marks len False) Broke := by
  refine (header marks len).bind (fun a => Prog.Couples.assume (fun some => ?_))
  have looped := Prog.Couples.iterate (n := n a) (I := fun _ _ => Agree w marks (len - 1) False)
    (fun _ _ => element a some) ()
  exact looped.mono (fun _ _ held => held.1) (fun _ _ _ agree => agree.longer (by omega))

theorem skipWithin (tame : p.Tame w) (depth : Nat) : ∀ type marks len, len < depth →
    Prog.Couples (Agree w marks len (type = tBool)) (skipWithin p depth type)
      (fun _ => Agree w marks len False) Broke := by
  induction depth with
  | zero => intro _ _ len enough; omega
  | succ depth ih =>
    intro type marks len enough
    have shorter : ∀ elem, 1 ≤ len → Prog.Couples (Agree w marks (len - 1) False) (DbcNode.skipWithin p depth elem)
        (fun _ => Agree w marks (len - 1) False) Broke := by
      intro elem some
      exact (ih elem marks (len - 1) (by omega)).mono (fun _ _ agree => agree.pends False.elim)
        (fun _ _ _ agree => agree)
    rw [DbcNode.skipWithin]
    by_cases isBool : type = tBool
    · rw [if_pos isBool]
      exact (tame.bool marks len _).bind (fun _ => Prog.Couples.pure _ (fun _ _ agree => agree))
    rw [if_neg isBool]
    refine Prog.Couples.mono (P := Agree w marks len False) (Q := fun _ => Agree w marks len False) ?_
      (fun _ _ agree => agree.pends isBool) (fun _ _ _ agree => agree)
    by_cases isByte : type = tByte
    · rw [if_pos isByte]
      exact dropped tame.byte marks len
    rw [if_neg isByte]
    by_cases isI16 : type = tI16
    · rw [if_pos isI16]
      exact dropped tame.i16 marks len
    rw [if_neg isI16]
    by_cases isI32 : type = tI32
    · rw [if_pos isI32]
      exact dropped tame.i32 marks len
    rw [if_neg isI32]
    by_cases isI64 : type = tI64
    · rw [if_pos isI64]
      exact dropped tame.i64 marks len
    rw [if_neg isI64]
    by_cases isDouble : type = tDouble
    · rw [if_pos isDouble]
      exact dropped tame.double marks len
    rw [if_neg isDouble]
    by_cases isString : type = tString
    · rw [if_pos isString]
      exact dropped tame.string marks len
    rw [if_neg isString]
    by_cases isStruct : type = tStruct
    · rw [if_pos isStruct]
      have fields := tame.loop (R := fun _ : Unit => True) (n := len) (b := ())
        (f := fun ftype _ _ => DbcNode.skipWithin p depth ftype) trivial
        (fun ftype _ _ _ marks len' less => (ih ftype marks len' (by omega)).mono (fun _ _ agree => agree)
          (fun _ _ _ agree => ⟨agree, trivial⟩))
      have whole := (tame.struct _ _ len fields marks).mono (B := fun _ => Agree w marks len False)
        (fun _ _ agree => agree) (fun _ _ _ held => held.1)
      simpa only [bind_assoc, bind_pure_unit] using whole
    rw [if_neg isStruct]
    by_cases isMap : type = tMap
    · rw [if_pos isMap]
      exact container (n := fun r => r.2.2) (f := fun r _ => do
        DbcNode.skipWithin p depth r.1
        DbcNode.skipWithin p depth r.2.1) tame.mapBegin marks
        (fun r some => (shorter r.1 some).bind (fun _ => shorter r.2.1 some))
    rw [if_neg isMap]
    by_cases isSet : type = tSet
    · rw [if_pos isSet]
      exact container (n := fun r => r.2) (f := fun r _ => DbcNode.skipWithin p depth r.1) tame.setBegin marks
        (fun r some => shorter r.1 some)
    rw [if_neg isSet]
    by_cases isList : type = tList
    · rw [if_pos isList]
      exact container (n := fun r => r.2) (f := fun r _ => DbcNode.skipWithin p depth r.1) tame.listBegin marks
        (fun r some => shorter r.1 some)
    rw [if_neg isList]
    split
    · exact Prog.Couples.pure _ (fun _ _ agree => agree)
    · exact Prog.Couples.stop _ (fun _ _ agree => agree.broke _)

theorem skip (tame : p.Tame w) (type : TType) (marks : Marks) (len : Nat) :
    Prog.Couples (Agree w marks len (type = tBool)) (skip p type) (fun _ => Agree w marks len False) Broke := by
  refine Prog.Couples.bind (Q := fun n s t => n = s.buf.data.length + 1 ∧
    Agree w marks len (type = tBool) s t) (Prog.Couples.fetch ?_) (fun n => ?_)
  · intro s t agree
    exact ⟨by rw [agree.buf], rfl, agree⟩
  · rintro s t ⟨count, agree⟩
    have run := tame.skipWithin n type marks s.buf.data.length (by omega)
    exact run.mono (fun _ _ agree => agree) (fun _ _ _ after => after.longer agree.short) s t agree.tight

end Protocol.Tame

mutual

/-- An object that a class can be read into: whatever the read leaves alone
is within the limits. -/
def Ty.Fair (w : Wire) : (t : Ty) → t.Val → Prop
  | .struct fields, x => fields.Fair w x
  | _, _ => True

def Fields.Fair (w : Wire) : (fs : Fields) → fs.Val → Prop
  | .nil, _ => True
  | .required _ type rest, (x, xs) => type.Fair w x ∧ rest.Fair w xs
  | .optional _ type rest, (x, xs) => (∀ y, x = some y → type.Within w y) ∧ rest.Fair w xs

end

mutual

theorem Ty.init_fair (w : Wire) : (t : Ty) → t.Fair w t.init
  | .i16 | .i32 | .i64 | .string | .list _ | .map _ => trivial
  | .struct fields => fields.init_fair w

theorem Fields.init_fair (w : Wire) : (fs : Fields) → fs.Fair w fs.init
  | .nil => trivial
  | .required _ type rest => ⟨type.init_fair w, rest.init_fair w⟩
  | .optional _ _ rest => ⟨fun _ unset => (Option.some_ne_none _ unset.symm).elim, rest.init_fair w⟩

end

mutual

theorem Ty.Within.fair {w : Wire} : {t : Ty} → {x : t.Val} → t.Within w x → t.Fair w x
  | .i16, _, _ | .i32, _, _ | .i64, _, _ | .string, _, _ | .list _, _, _ | .map _, _, _ => trivial
  | .struct _, _, within => Fields.Within.fair within

theorem Fields.Within.fair {w : Wire} : {fs : Fields} → {x : fs.Val} → fs.Within w x → fs.Fair w x
  | .nil, _, _ => trivial
  | .required _ _ _, (_, _), ⟨head, rest⟩ => ⟨Ty.Within.fair head, Fields.Within.fair rest⟩
  | .optional _ _ _, (_, _), ⟨head, rest⟩ => ⟨head, Fields.Within.fair rest⟩

end

/-- A class while it is read: a required member that is marked as read is
within the limits. -/
def Fields.Sound (w : Wire) : (fs : Fields) → fs.Draft → Prop
  | .nil, _ => True
  | .required _ type rest, ((x, isset), xs) =>
    type.Fair w x ∧ (isset = true → type.Within w x) ∧ rest.Sound w xs
  | .optional _ type rest, (x, xs) => (∀ y, x = some y → type.Within w y) ∧ rest.Sound w xs

theorem Fields.Fair.open {w : Wire} : {fs : Fields} → {x : fs.Val} → fs.Fair w x → fs.Sound w (fs.open x)
  | .nil, _, _ => trivial
  | .required _ _ _, (_, _), ⟨head, rest⟩ =>
      ⟨head, fun unread => (Bool.false_ne_true unread).elim, Fields.Fair.open rest⟩
  | .optional _ _ _, (_, _), ⟨head, rest⟩ => ⟨head, Fields.Fair.open rest⟩

theorem Fields.Sound.close {w : Wire} : {fs : Fields} → {draft : fs.Draft} → fs.Sound w draft →
    Runs w 0 (fs.close draft) (fs.Within w)
  | .nil, _, _ => Runs.pure trivial
  | .required _ _ _, ((_, _), _), ⟨_, head, rest⟩ =>
    Runs.ite (fun isset => (Fields.Sound.close rest).map (fun _ later => ⟨head isset, later⟩))
      (fun _ => Runs.throwing _)
  | .optional _ _ _, (_, _), ⟨head, rest⟩ =>
    (Fields.Sound.close rest).map (fun _ later => ⟨head, later⟩)

/-- A map with `left` of its `size` entries still to come: it has no more
than were read, and is not empty once one was. -/
structure Filled (w : Wire) (value : Ty) (size left : Nat) (m : OrdMap Bytes value.Val) : Prop where
  count : m.entries.length + left ≤ size
  some : m.entries = [] → left = size
  good : ∀ entry ∈ m.entries, entry.1.length ≤ maxStringLimit ∧ value.Within w entry.2

theorem Filled.start (w : Wire) (value : Ty) (size : Nat) : Filled w value size size OrdMap.empty :=
  ⟨Nat.le_of_eq (Nat.zero_add _), fun _ => rfl, fun _ member => (List.not_mem_nil member).elim⟩

theorem Filled.fair {w : Wire} {value : Ty} {size left : Nat} {m : OrdMap Bytes value.Val}
    (filled : Filled w value size left m) (key : Bytes) : value.Fair w ((m.find key).getD value.init) := by
  cases found : m.find key with
  | none => exact value.init_fair w
  | some x =>
    obtain ⟨other, member⟩ := OrdMap.findIn_mem found
    exact (filled.good _ member).2.fair

theorem Filled.insert {w : Wire} {value : Ty} {size left : Nat} {m : OrdMap Bytes value.Val} {key : Bytes}
    {x : value.Val} (filled : Filled w value size (left + 1) m) (short : key.length ≤ maxStringLimit)
    (within : value.Within w x) : Filled w value size left (m.insert key x) where
  count := by
    have room := filled.count
    have longer := OrdMap.insertIn_length_le key x m.entries
    rw [OrdMap.insert_entries]
    omega
  some empty := (OrdMap.insertIn_ne_nil key x m.entries empty).elim
  good entry member := by
    rcases OrdMap.mem_insertIn member with ⟨isValue, isKey | ⟨old, present⟩⟩ | present
    · rw [isValue, isKey]
      exact ⟨short, within⟩
    · rw [isValue]
      exact ⟨(filled.good _ present).1, within⟩
    · exact filled.good entry present

theorem Filled.within {p : Protocol} {w : Wire} {value : Ty} {size : Nat} {m : OrdMap Bytes value.Val}
    (filled : Filled w value size 0 m) (tame : p.Tame w) (small : size ≤ maxContainerLimit)
    (reads : w.readsMap size = true) : (Ty.map value).Within w m := by
  refine ⟨⟨filled.count.trans small, tame.smallerMap size _ reads (fun empty => ?_)⟩, filled.good⟩
  exact (filled.some (List.eq_nil_of_length_eq_zero empty)).symm

namespace Protocol.Tame
variable {p : Protocol} {w : Wire}

/-- A field nobody asked for leaves the draft as it is. -/
theorem skipped (tame : p.Tame w) {β : Type} {R : β → Prop} {b : β} (holds : R b) (ftype : TType) (marks : Marks)
    (len : Nat) : Prog.Couples (Agree w marks len (ftype = tBool)) (do DbcNode.skip p ftype; return b)
      (fun b' s t => Agree w marks len False s t ∧ R b') Broke :=
  (tame.skip ftype marks len).bind (fun _ => Prog.Couples.pure b (fun _ _ agree => ⟨agree, holds⟩))

/-- A member that is read; its type is not that of a boolean, so none
waits. -/
theorem member {β : Type} {R : β → Prop} {t : Ty} {x : t.Val} {f : t.Val → β}
    (runs : Runs w 0 (t.read p x) (t.Within w)) (keeps : ∀ y, t.Within w y → R (f y)) {ftype : TType}
    (same : ftype = t.ttype) (marks : Marks) (len : Nat) :
    Prog.Couples (Agree w marks len (ftype = tBool)) (do return f (← t.read p x))
      (fun b s t => Agree w marks len False s t ∧ R b) Broke := by
  have read := runs.map keeps
  refine (read marks len).mono (fun s t' agree => agree.pends ?_) (fun _ _ _ held => ⟨held.2.1, held.2.2⟩)
  rw [same]
  exact t.ttype_ne_tBool

mutual

theorem ty (tame : p.Tame w) : (t : Ty) → (x : t.Val) → t.Fair w x → Runs w 0 (t.read p x) (t.Within w)
  | .i16, _, _ => tame.i16
  | .i32, _, _ => tame.i32
  | .i64, _, _ => tame.i64
  | .string, _, _ => tame.string
  | .list elem, _, _ => by
    rw [Ty.read]
    refine (tame.listBegin.mono (Nat.zero_le 1) (fun _ small => small)).seq (fun r small => ?_)
    refine (Runs.iterate (R := fun i (xs : List elem.Val) => xs.length + i = r.2 ∧ ∀ x ∈ xs, elem.Within w x)
      r.2 ⟨Nat.zero_add _, by simp⟩ ?_).mono (Nat.le_refl 0) ?_
    · rintro i xs ⟨count, good⟩
      refine (ty tame elem elem.init (elem.init_fair w)).map (fun x within => ⟨?_, ?_⟩)
      · rw [List.length_append, List.length_singleton]
        omega
      · intro y member
        rcases List.mem_append.mp member with old | new
        · exact good y old
        · rw [List.mem_singleton.mp new]
          exact within
    · rintro xs ⟨count, good⟩
      exact ⟨by omega, good⟩
  | .map value, _, _ => by
    rw [Ty.read]
    refine (tame.mapBegin.mono (Nat.zero_le 1) (fun _ small => small)).seq (fun r small => ?_)
    refine (Runs.iterate (R := fun i (m : OrdMap Bytes value.Val) => Filled w value r.2.2 i m)
      r.2.2 (Filled.start w value r.2.2) ?_).mono (Nat.le_refl 0) (fun m filled =>
        filled.within tame small.1 small.2)
    intro i m filled
    refine tame.string.seq (fun key short => ?_)
    exact (ty tame value _ (filled.fair key)).map (fun x within => filled.insert short within)
  | .struct fs, x, fair => by
    rw [Ty.read_struct]
    refine Runs.bind (j := 0) (k := 0) (P := fs.Sound w) ?_ (fun draft sound => sound.close)
    intro marks len
    have looped := tame.loop (R := fs.Sound w) (n := len) (b := fs.open x) (Fields.Fair.open fair)
      (fun ftype fid draft sound marks len' _ => readField tame fs draft sound ftype fid marks len')
    exact (tame.struct _ _ len looped marks).mono (fun _ _ agree => agree)
      (fun _ _ _ held => ⟨Nat.zero_le _, held.1, held.2⟩)

theorem readField (tame : p.Tame w) : (fs : Fields) → (draft : fs.Draft) → fs.Sound w draft →
    ∀ ftype fid marks len, Prog.Couples (Agree w marks len (ftype = tBool)) (fs.readField p ftype fid draft)
      (fun d s t => Agree w marks len False s t ∧ fs.Sound w d) Broke
  | .nil, _, _, ftype, _, marks, len =>
    (tame.skip ftype marks len).mono (fun _ _ agree => agree) (fun _ _ _ agree => ⟨agree, trivial⟩)
  | .required id t rest, ((x, isset), xs), sound, ftype, fid, marks, len => by
    rw [Fields.readField]
    split
    · split
      · rename_i same
        exact member (R := (Fields.required id t rest).Sound w) (ty tame t x sound.1)
          (fun y within => ⟨within.fair, fun _ => within, sound.2.2⟩) same marks len
      · exact tame.skipped sound ftype marks len
    · refine (readField tame rest xs sound.2.2 ftype fid marks len).bind (fun d => ?_)
      exact Prog.Couples.pure _ (fun _ _ held => ⟨held.1, sound.1, sound.2.1, held.2⟩)
  | .optional id t rest, (x, xs), sound, ftype, fid, marks, len => by
    rw [Fields.readField]
    split
    · split
      · rename_i same
        have fair : t.Fair w (x.getD t.init) := by
          cases x with
          | none => exact t.init_fair w
          | some y => exact (sound.1 y rfl).fair
        exact member (R := (Fields.optional id t rest).Sound w) (ty tame t _ fair)
          (f := fun y => (some y, xs)) (fun y within => ⟨fun z same => Option.some.inj same ▸ within, sound.2⟩)
          same marks len
      · exact tame.skipped sound ftype marks len
    · refine (readField tame rest xs sound.2 ftype fid marks len).bind (fun d => ?_)
      exact Prog.Couples.pure _ (fun _ _ held => ⟨held.1, sound.1, held.2⟩)

end

end Protocol.Tame

end DbcNode
