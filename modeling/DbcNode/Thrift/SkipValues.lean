import DbcNode.Thrift.ReadBack
import DbcNode.Thrift.Values

namespace DbcNode

namespace Format
variable {w : Format} {α β : Type} {c c' c'' : BitVec 16} {bytes more : Bytes} {good also : Prop}

/-- Where these bytes are next and no boolean waits, the call reads them all
and returns this value when they are good, and it throws when they are
not. -/
def Settles (w : Format) (m : Call α) (c c' : BitVec 16) (bytes : Bytes) (x : α) (good : Prop) : Prop :=
  ∀ st rest, st.boolValue = none → w.cursor st = c → st.buf.data = bytes ++ rest →
    (good → ∃ st', m st = (.ok x, st') ∧ Consumed st st' bytes.length ∧ w.cursor st' = c') ∧
      (¬ good → ∃ e st', m st = (.error (.thrown e), st'))

theorem Settles.of_parses {m : Call α} {x : α} (parses : w.Parses m c c' bytes x) : w.Settles m c c' bytes x True :=
  fun st rest _ placed holds => ⟨fun _ => parses st rest placed holds, fun never => absurd trivial never⟩

theorem Settles.throwing (e : Exn) (x : α) : w.Settles (Prog.throwing e) c c' bytes x False :=
  fun st _ _ _ _ => ⟨False.elim, fun _ => ⟨e, st, rfl⟩⟩

theorem Settles.pure (x : α) : w.Settles (Pure.pure x) c c [] x True := Settles.of_parses (Wire.Parses.pure x)

/-- What comes second only counts when the first part is good. -/
theorem Settles.bind {m : Call α} {f : α → Call β} {x : α} {y : β} (first : w.Settles m c c' bytes x good)
    (second : good → w.Settles (f x) c' c'' more y also) :
    w.Settles (m >>= f) c c'' (bytes ++ more) y (good ∧ also) := by
  intro st rest calm placed holds
  obtain ⟨reads, throws⟩ := first st (more ++ rest) calm placed (by rw [holds, List.append_assoc])
  by_cases holdsFirst : good
  · obtain ⟨st', ran, consumed, there⟩ := reads holdsFirst
    have left : st'.buf.data = more ++ rest := by
      rw [consumed.buf, ByteBuf.advance_data, holds, List.append_assoc, List.drop_left]
    obtain ⟨reads', throws'⟩ := second holdsFirst st' rest (consumed.bool.trans calm) there left
    constructor
    · rintro ⟨_, holdsSecond⟩
      obtain ⟨st'', ran', consumed', there'⟩ := reads' holdsSecond
      refine ⟨st'', (Prog.bind_ok ran).trans ran', ?_, there'⟩
      rw [List.length_append]
      exact consumed.trans consumed'
    · intro bad
      obtain ⟨e, st'', ran'⟩ := throws' (fun holdsSecond => bad ⟨holdsFirst, holdsSecond⟩)
      exact ⟨e, st'', (Prog.bind_ok ran).trans ran'⟩
  · obtain ⟨e, st', ran⟩ := throws holdsFirst
    exact ⟨fun both => absurd both.1 holdsFirst, fun _ => ⟨e, st', Prog.bind_error ran⟩⟩

theorem Settles.congr {m : Call α} {x : α} (settles : w.Settles m c c' bytes x good) (same : good ↔ also) :
    w.Settles m c c' bytes x also := by
  rwa [← propext same]

theorem Settles.map {m : Call α} {x : α} (f : α → β) (settles : w.Settles m c c' bytes x good) :
    w.Settles (m >>= fun y => Pure.pure (f y)) c c' bytes (f x) good := by
  have both := settles.bind (f := fun y => Pure.pure (f y)) (fun _ => Settles.pure (f x))
  rw [List.append_nil] at both
  exact both.congr (by rw [and_true])

/-- A call that reads these bytes, and throws behind them when the condition
fails. -/
theorem Settles.cases {m : Call α} {x : α} (reads : good → w.Parses m c c' bytes x)
    (throws : ¬ good → w.Settles m c c' bytes x False) : w.Settles m c c' bytes x good := by
  by_cases holds : good
  · exact (Settles.of_parses (reads holds)).congr (iff_of_true trivial holds)
  · exact (throws holds).congr (iff_of_false not_false holds)

end Format

/-- The reading half of a protocol reads every primitive of the format that
is within the limits, and refuses the others. -/
structure Protocol.Skips (p : Protocol) (w : Format) : Prop where
  bool : ∀ c b, w.Settles p.readBool c c [w.bool b] b True
  byte : ∀ c x, w.Settles p.readByte c c [x] x True
  i16 : ∀ c x, w.Settles p.readI16 c c (w.i16 x) x True
  i32 : ∀ c x, w.Settles p.readI32 c c (w.i32 x) x True
  i64 : ∀ c x, w.Settles p.readI64 c c (w.i64 x) x True
  double : ∀ c (x : BitVec 64), w.Settles p.readDouble c c (toBE 8 x.toNat) x True
  string : ∀ c x, x.length < 2 ^ 31 → w.Settles p.readString c c (w.string x) x (x.length ≤ maxStringLimit)
  listBegin : ∀ c (elem : Kind) size, size < 2 ^ 31 →
    w.Settles p.readListBegin c c (w.listBegin elem.ttype size) (elem.ttype, size) (size ≤ maxContainerLimit)
  setBegin : ∀ c (elem : Kind) size, size < 2 ^ 31 →
    w.Settles p.readSetBegin c c (w.listBegin elem.ttype size) (elem.ttype, size) (size ≤ maxContainerLimit)
  mapBegin : ∀ c (key value : Kind) size, size < 2 ^ 31 →
    w.Settles p.readMapBegin c c (w.mapBegin key.ttype value.ttype size) (key.ttype, value.ttype, size)
      (size ≤ maxContainerLimit ∧ w.readsMap size = true)
  fieldBegin : ∀ c (k : Kind) id, k ≠ .bool →
    w.Settles p.readFieldBegin c (w.next id) (w.fieldBegin c k.ttype id) (k.ttype, id) True
  boolField : ∀ c id b, w.Settles (do let header ← p.readFieldBegin; let x ← p.readBool; return (header, x))
    c (w.next id) (w.boolField c id b) ((tBool, id), b) True
  fieldStop : ∀ c, w.Settles p.readFieldBegin c c [tStop] (tStop, 0) True
  struct : ∀ c c' (m : Call Unit) bytes good, w.Settles m 0 c' bytes () good →
    w.Settles (do p.readStructBegin; m; p.readStructEnd) c c bytes () good

/-- One round of the loop over the fields of a class that is skipped. -/
def skipRound (p : Protocol) (depth : Nat) (_ : Unit) : Call (Unit ⊕ Unit) := do
  let (ftype, _) ← p.readFieldBegin
  if ftype = tStop then return .inr ()
  skipWithin p depth ftype
  return .inl ()

section Kinds
variable (p : Protocol) (depth : Nat)

theorem skipWithin_struct : skipWithin p (depth + 1) Kind.struct.ttype = (do
    p.readStructBegin
    Prog.loop (← remaining) (skipRound p depth) ()
    p.readStructEnd) := rfl

theorem skipWithin_map : skipWithin p (depth + 1) Kind.map.ttype = (do
    let header ← p.readMapBegin
    Prog.iterate header.2.2 (fun _ => do
      skipWithin p depth header.1
      skipWithin p depth header.2.1) ()) := rfl

theorem skipWithin_set : skipWithin p (depth + 1) Kind.set.ttype = (do
    let header ← p.readSetBegin
    Prog.iterate header.2 (fun _ => skipWithin p depth header.1) ()) := rfl

theorem skipWithin_list : skipWithin p (depth + 1) Kind.list.ttype = (do
    let header ← p.readListBegin
    Prog.iterate header.2 (fun _ => skipWithin p depth header.1) ()) := rfl

end Kinds

end DbcNode

namespace DbcNode.Protocol.Skips
variable {p : Protocol} {w : Format}

/-- A field that is skipped, header and value. -/
theorem round (skips : p.Skips w) {k : Kind} (x : Value k) {depth : Nat} (some : 0 < depth) (c id : BitVec 16)
    (value : w.Settles (skipWithin p depth k.ttype) (w.next id) (w.next id) (x.enc w) () (x.Within w)) :
    w.Settles (skipRound p depth ()) c (w.next id) (x.field w c id (x.enc w)) (.inl ()) (x.Within w) := by
  by_cases isBool : k = .bool
  · subst isBool
    obtain ⟨b⟩ := x
    obtain ⟨depth, rfl⟩ := Nat.exists_eq_succ_of_ne_zero some.ne'
    intro st rest calm placed holds
    refine ⟨fun _ => ?_, fun never => absurd trivial never⟩
    obtain ⟨st', ran, consumed, there⟩ := (skips.boolField c id b st rest calm placed holds).1 trivial
    refine ⟨st', ?_, consumed, there⟩
    rcases Prog.bind_cases ran with ⟨header, st1, header_ran, ran⟩ | ⟨e, _, failed⟩
    · rcases Prog.bind_cases ran with ⟨read, st2, read_ran, ran⟩ | ⟨e, _, failed⟩
      · cases ran
        rw [skipRound, Prog.bind_ok header_ran]
        simp only
        rw [if_neg (show tBool ≠ tStop by decide)]
        have skipped : skipWithin p (depth + 1) tBool st1 = (.ok (), st') := Prog.bind_ok read_ran
        rw [Prog.bind_ok skipped]
        rfl
      · cases failed
    · cases failed
  · rw [Value.field_other isBool, skipRound]
    refine ((skips.fieldBegin c k id isBool).bind (fun _ => ?_)).congr (by rw [true_and])
    simp only
    rw [if_neg k.ttype_ne_tStop]
    exact value.map (fun _ => Sum.inl ())

theorem last (skips : p.Skips w) (depth rounds : Nat) (c : BitVec 16) :
    w.Settles (Prog.loop (rounds + 1) (skipRound p depth) ()) c c [tStop] () True := by
  rw [Prog.loop, skipRound, bind_assoc, ← List.append_nil [tStop]]
  refine ((skips.fieldStop c).bind (fun _ => ?_)).congr (by rw [true_and])
  simp only [if_true, pure_bind]
  exact Format.Settles.pure ()

mutual

/-- A value is skipped byte by byte where it is within the limits, and is
refused elsewhere. -/
theorem value (skips : p.Skips w) (filled : w.Filled) : ∀ {k : Kind} (x : Value k) (depth : Nat) (c : BitVec 16),
    (x.enc w).length ≤ depth → (x.enc w).length < 2 ^ 31 →
      w.Settles (skipWithin p (depth + 1) k.ttype) c c (x.enc w) () (x.Within w)
  | _, .bool b, _, c, _, _ => (skips.bool c b).map (fun _ => ())
  | _, .byte x, _, c, _, _ => (skips.byte c x).map (fun _ => ())
  | _, .i16 x, _, c, _, _ => (skips.i16 c x).map (fun _ => ())
  | _, .i32 x, _, c, _, _ => (skips.i32 c x).map (fun _ => ())
  | _, .i64 x, _, c, _, _ => (skips.i64 c x).map (fun _ => ())
  | _, .double bits, _, c, _, _ => (skips.double c bits).map (fun _ => ())
  | _, .string x, _, c, _, small => by
    have longer := filled.string x
    rw [Value.enc] at small
    exact (skips.string c x (by omega)).map (fun _ => ())
  | _, .struct xs, depth, c, enough, small => by
    rw [Value.enc, List.length_append, List.length_singleton] at enough small
    obtain ⟨c', skipped⟩ := members skips filled xs depth 0 (by omega) (by omega)
    rw [skipWithin_struct, ← bind_assoc remaining]
    refine skips.struct c c' _ _ _ ?_
    intro st rest calm placed holds
    have rounds : xs.length < st.buf.data.length + 1 := by
      have count := filled.members xs 0
      rw [holds, Value.enc, List.length_append, List.length_append]
      omega
    exact skipped _ rounds st rest calm placed holds
  | _, .map key value entries, depth, c, enough, small => by
    rw [skipWithin_map, Value.enc, Value.Within]
    have header := List.length_pos_of_ne_nil (filled.mapBegin key.ttype value.ttype entries.length)
    have count := filled.entries entries
    rw [Value.enc, List.length_append] at enough small
    refine (skips.mapBegin c key value entries.length (by omega)).bind (fun _ => ?_)
    exact pairs skips filled entries depth c (by omega) (by omega)
  | _, .set elem xs, depth, c, enough, small => by
    rw [skipWithin_set, Value.enc, Value.Within]
    have header := List.length_pos_of_ne_nil (filled.listBegin elem.ttype xs.length)
    have count := filled.items xs
    rw [Value.enc, List.length_append] at enough small
    refine (skips.setBegin c elem xs.length (by omega)).bind (fun _ => ?_)
    exact items skips filled xs depth c (by omega) (by omega)
  | _, .list elem xs, depth, c, enough, small => by
    rw [skipWithin_list, Value.enc, Value.Within]
    have header := List.length_pos_of_ne_nil (filled.listBegin elem.ttype xs.length)
    have count := filled.items xs
    rw [Value.enc, List.length_append] at enough small
    refine (skips.listBegin c elem xs.length (by omega)).bind (fun _ => ?_)
    exact items skips filled xs depth c (by omega) (by omega)

theorem items (skips : p.Skips w) (filled : w.Filled) : ∀ {k : Kind} (xs : Items k) (depth : Nat) (c : BitVec 16),
    (xs.enc w).length < depth → (xs.enc w).length < 2 ^ 31 →
      w.Settles (Prog.iterate xs.length (fun _ => skipWithin p depth k.ttype) ()) c c (xs.enc w) () (xs.Within w)
  | _, .nil _, _, _, _, _ => Format.Settles.pure ()
  | _, .cons x rest, depth, c, enough, small => by
    rw [Items.enc, List.length_append] at enough small
    obtain ⟨depth, rfl⟩ := Nat.exists_eq_succ_of_ne_zero (Nat.ne_of_gt (Nat.zero_lt_of_lt enough))
    refine (value skips filled x depth c (by omega) (by omega)).bind (fun _ => ?_)
    exact items skips filled rest _ c (by omega) (by omega)

theorem pairs (skips : p.Skips w) (filled : w.Filled) :
    ∀ {k l : Kind} (xs : Entries k l) (depth : Nat) (c : BitVec 16),
    (xs.enc w).length < depth → (xs.enc w).length < 2 ^ 31 →
      w.Settles (Prog.iterate xs.length (fun _ => do skipWithin p depth k.ttype; skipWithin p depth l.ttype) ()) c c
        (xs.enc w) () (xs.Within w)
  | _, _, .nil _ _, _, _, _, _ => Format.Settles.pure ()
  | _, _, .cons x y rest, depth, c, enough, small => by
    rw [Entries.enc, List.length_append, List.length_append] at enough small
    obtain ⟨depth, rfl⟩ := Nat.exists_eq_succ_of_ne_zero (Nat.ne_of_gt (Nat.zero_lt_of_lt enough))
    rw [Entries.length, Prog.iterate, bind_assoc]
    refine (value skips filled x depth c (by omega) (by omega)).bind (fun _ => ?_)
    refine (value skips filled y depth c (by omega) (by omega)).bind (fun _ => ?_)
    exact pairs skips filled rest _ c (by omega) (by omega)

theorem members (skips : p.Skips w) (filled : w.Filled) : ∀ (xs : Members) (depth : Nat) (c : BitVec 16),
    (xs.enc w c).length < depth → (xs.enc w c).length < 2 ^ 31 → ∃ c', ∀ rounds, xs.length < rounds →
      w.Settles (Prog.loop rounds (skipRound p depth) ()) c c' (xs.enc w c ++ [tStop]) () (xs.Within w)
  | .nil, depth, c, _, _ => by
    refine ⟨c, fun rounds enough => ?_⟩
    obtain ⟨rounds, rfl⟩ := Nat.exists_eq_succ_of_ne_zero (Nat.ne_of_gt enough)
    exact skips.last depth rounds c
  | .cons id k x rest, depth, c, enough, small => by
    have shorter := filled.field_length x c id
    rw [Members.enc, List.length_append] at enough small
    obtain ⟨depth, rfl⟩ := Nat.exists_eq_succ_of_ne_zero (Nat.ne_of_gt (Nat.zero_lt_of_lt enough))
    have first :=
      skips.round x (Nat.succ_pos depth) c id (value skips filled x depth (w.next id) (by omega) (by omega))
    obtain ⟨c', later⟩ := members skips filled rest (depth + 1) (w.next id) (by omega) (by omega)
    refine ⟨c', fun rounds more => ?_⟩
    obtain ⟨rounds, rfl⟩ := Nat.exists_eq_succ_of_ne_zero (Nat.ne_of_gt (Nat.zero_lt_of_lt more))
    rw [Prog.loop, Members.enc, List.append_assoc, Members.Within]
    exact first.bind (fun _ => later rounds (Nat.lt_of_succ_lt_succ more))

end

end DbcNode.Protocol.Skips
