import DbcNode.Lib.Digits
import DbcNode.Task.Nat
import Mathlib.Data.List.DropRight

namespace DbcNode.Util

/-- `std::string::npos`, the index of what the searches of `util` do not
find. -/
def npos : Nat := 2 ^ 64 - 1

def findFirstOf (str delim : Bytes) (pos : Nat) : Option Nat :=
  ((str.drop pos).findIdx? (· ∈ delim)).map (pos + ·)

def find (str sep : Bytes) (pos : Nat) : Option Nat :=
  if pos ≤ str.length then ((str.drop pos).tails.findIdx? (sep.isPrefixOf ·)).map (pos + ·) else none

/-- A part of a string; from behind its end it throws. -/
def substr (str : Bytes) (pos n : Nat) : Option Bytes :=
  if pos ≤ str.length then some ((str.drop pos).take n) else none

/-- The loop of the `split` that fills a vector, which has no result where
it throws or does not end. -/
def splitIntoLoop (str delim : Bytes) : Nat → Nat → List Bytes → Option (List Bytes)
  | 0, _, _ => none
  | rounds + 1, pos, vec =>
    match findFirstOf str delim pos with
    | some index => do
      let piece ← substr str pos (index - pos)
      splitIntoLoop str delim rounds (index + 1) (vec ++ [piece])
    | none => do
      let left ← substr str pos npos
      some (if left.length > 0 then vec ++ [left] else vec)

def splitInto (str delim : Bytes) (vec : List Bytes) : Option (List Bytes) :=
  splitIntoLoop str delim (str.length + 1) 0 vec

/-- The loop of the `split` that returns a vector. -/
def splitLoop (src sep : Bytes) : Nat → Nat → List Bytes → Option (List Bytes)
  | 0, _, _ => none
  | rounds + 1, start, vec =>
    match find src sep start with
    | some stop =>
      if stop > start then do
        let piece ← substr src start (stop - start)
        splitLoop src sep rounds (stop + sep.length) (vec ++ [piece])
      else splitLoop src sep rounds (stop + sep.length) vec
    | none =>
      if start < src.length then do
        let piece ← substr src start (src.length - start)
        some (vec ++ [piece])
      else some vec

def split (src sep : Bytes) : Option (List Bytes) := splitLoop src sep (src.length + 1) 0 []

/-- A character that is read, by its index and the length that the string
has then. -/
structure CharRead where
  index : Nat
  length : Nat
  deriving DecidableEq, Repr

/-- What `str[index]` gives, where `stray` is in the memory outside of the
string. -/
def charAt (stray : UInt8) (str : Bytes) (index : Nat) : UInt8 := str.getD index stray

def findFirstNotOf (str : Bytes) (b : UInt8) : Nat := (str.findIdx? (· ≠ b)).getD npos

def findLastNotOf (str : Bytes) (b : UInt8) : Nat :=
  ((str.reverse.findIdx? (· ≠ b)).map (str.length - 1 - ·)).getD npos

def erase (str : Bytes) (pos n : Nat) : Bytes := str.take pos ++ str.drop (pos + n)

/-- `util::trim`, with the characters that it reads. -/
def trim (stray : UInt8) (str : Bytes) : Bytes × List CharRead :=
  if str = [] then (str, [])
  else
    let left := if charAt stray str 0 = 32 then erase str 0 (findFirstNotOf str 32) else str
    let last := (left.length + 2 ^ 64 - 1) % 2 ^ 64
    let right :=
      if charAt stray left last = 32 then erase left ((findLastNotOf left 32 + 1) % 2 ^ 64) npos else left
    (right, [⟨0, str.length⟩, ⟨last, left.length⟩])

section Find
variable {text : Bytes} {delimiter : UInt8}

theorem findIdx_some {p : UInt8 → Bool} {i : Nat} (found : text.findIdx? p = some i) :
    ∃ b, p b = true ∧ text = text.take i ++ b :: text.drop (i + 1) ∧ (∀ c ∈ text.take i, p c = false) ∧
      i < text.length := by
  obtain ⟨inside, here, before⟩ := List.findIdx?_eq_some_iff_getElem.mp found
  refine ⟨text[i], here, ?_, ?_, inside⟩
  · rw [List.getElem_cons_drop, List.take_append_drop]
  · intro c member
    obtain ⟨j, small, rfl⟩ := List.mem_take_iff_getElem.mp member
    simpa using before j (by omega)

/-- A first occurrence ends a piece without the delimiter. -/
theorem findFirstOf_some {pos index : Nat} (found : findFirstOf text [delimiter] pos = some index) :
    ∃ piece, delimiter ∉ piece ∧ text.drop pos = piece ++ delimiter :: text.drop (index + 1) ∧
      index = pos + piece.length ∧ index < text.length := by
  obtain ⟨i, inside, rfl⟩ := Option.map_eq_some_iff.mp found
  obtain ⟨b, here, whole, before, small⟩ := findIdx_some inside
  have same : b = delimiter := by simpa using here
  subst same
  rw [List.length_drop] at small
  refine ⟨(text.drop pos).take i, ?_, ?_, ?_, by omega⟩
  · intro member
    have apart := before b member
    simp at apart
  · rw [List.drop_drop] at whole
    rw [Nat.add_assoc]
    exact whole
  · rw [List.length_take, List.length_drop]
    omega

theorem findFirstOf_none {pos : Nat} (missing : findFirstOf text [delimiter] pos = none) :
    delimiter ∉ text.drop pos := by
  intro member
  have apart := List.findIdx?_eq_none_iff.mp (Option.map_eq_none_iff.mp missing) delimiter member
  simp at apart

/-- A substring of one character is found where the character is. -/
theorem find_single {pos : Nat} (inside : pos ≤ text.length) :
    find text [delimiter] pos = findFirstOf text [delimiter] pos := by
  have tails : ∀ rest : Bytes, rest.tails.findIdx? (List.isPrefixOf [delimiter] ·) =
    rest.findIdx? (· ∈ [delimiter]) := by
    intro rest
    induction rest with
    | nil => rfl
    | cons b rest ih =>
      have same : ([delimiter].isPrefixOf (b :: rest)) = decide (b ∈ [delimiter]) := by
        simp [List.isPrefixOf, beq_eq_decide, @eq_comm _ delimiter b]
      rw [List.tails_cons, List.findIdx?_cons, List.findIdx?_cons, ih, same]
  rw [find, if_pos inside, tails, findFirstOf]

end Find

section Split
variable {text : Bytes} {delimiter : UInt8}

theorem substr_some {pos n : Nat} (inside : pos ≤ text.length) :
    substr text pos n = some ((text.drop pos).take n) :=
  if_pos inside

theorem substr_piece {pos index : Nat} {piece : Bytes} (inside : pos ≤ text.length)
    (whole : text.drop pos = piece ++ delimiter :: text.drop (index + 1)) (place : index = pos + piece.length) :
    substr text pos (index - pos) = some piece := by
  have length : index - pos = piece.length := by omega
  rw [substr_some inside, length, whole, List.take_left']
  rfl

theorem filter_free {piece : Bytes} (apart : delimiter ∉ piece) : piece.filter (· ≠ delimiter) = piece := by
  refine List.filter_eq_self.mpr fun b member => decide_eq_true ?_
  rintro rfl
  exact apart member

/-- The pieces that the vector form adds from a position on: all between the
delimiters, and what is left unless that is nothing. -/
theorem splitIntoLoop_pieces (sized : text.length < 2 ^ 64) {rounds pos : Nat} (inside : pos ≤ text.length)
    (enough : text.length - pos < rounds) (vec : List Bytes) :
    ∃ pieces, splitIntoLoop text [delimiter] rounds pos vec = some (vec ++ pieces) ∧
      pieces.filter (· ≠ []) = splitText delimiter (text.drop pos) ∧ (∀ piece ∈ pieces, delimiter ∉ piece) ∧
      pieces.flatten = (text.drop pos).filter (· ≠ delimiter) := by
  induction rounds generalizing pos vec with
  | zero => omega
  | succ rounds ih =>
    rw [splitIntoLoop]
    cases found : findFirstOf text [delimiter] pos with
    | none =>
      have apart := findFirstOf_none found
      have all : substr text pos npos = some (text.drop pos) := by
        rw [substr_some inside, List.take_of_length_le]
        rw [List.length_drop, npos]
        omega
      simp only [all, Option.bind_eq_bind, Option.bind_some]
      by_cases empty : text.drop pos = []
      · refine ⟨[], ?_, ?_, List.forall_mem_nil _, ?_⟩
        · rw [empty, if_neg (by simp), List.append_nil]
        · rw [empty]
          rfl
        · rw [empty]
          rfl
      · refine ⟨[text.drop pos], ?_, ?_, List.forall_mem_singleton.mpr apart, ?_⟩
        · rw [if_pos (List.length_pos_iff.mpr empty)]
        · rw [splitText_of_not_mem empty apart, List.filter_cons_of_pos (by simpa using empty), List.filter_nil]
        · rw [filter_free apart, List.flatten_singleton]
    | some index =>
      obtain ⟨piece, apart, whole, place, small⟩ := findFirstOf_some found
      obtain ⟨pieces, ran, filtered, free, joined⟩ := @ih (index + 1) (by omega) (by omega) (vec ++ [piece])
      simp only [substr_piece inside whole place, Option.bind_eq_bind, Option.bind_some, ran]
      refine ⟨piece :: pieces, ?_, ?_, ?_, ?_⟩
      · rw [List.append_assoc, List.singleton_append]
      · rw [whole, splitText_append apart, ← filtered, ← List.filter_append, List.singleton_append]
      · exact List.forall_mem_cons.mpr ⟨apart, free⟩
      · rw [whole, List.flatten_cons, joined, List.filter_append, filter_free apart,
          List.filter_cons_of_neg (by simp)]

/-- The returning form has the pieces that are not empty, in their order. -/
theorem splitLoop_pieces {rounds start : Nat} (inside : start ≤ text.length) (enough : text.length - start < rounds)
    (vec : List Bytes) :
    splitLoop text [delimiter] rounds start vec = some (vec ++ splitText delimiter (text.drop start)) := by
  induction rounds generalizing start vec with
  | zero => omega
  | succ rounds ih =>
    rw [splitLoop, find_single inside]
    cases found : findFirstOf text [delimiter] start with
    | none =>
      have apart := findFirstOf_none found
      have all : substr text start (text.length - start) = some (text.drop start) := by
        rw [substr_some inside, List.take_of_length_le]
        rw [List.length_drop]
      simp only [all, Option.bind_eq_bind, Option.bind_some]
      split
      · rename_i filled
        have some : text.drop start ≠ [] := by
          rw [Ne, List.drop_eq_nil_iff]
          omega
        rw [splitText_of_not_mem some apart]
      · rename_i ended
        rw [List.drop_of_length_le (by omega)]
        exact congrArg some (List.append_nil vec).symm
    | some index =>
      obtain ⟨piece, apart, whole, place, small⟩ := findFirstOf_some found
      simp only [substr_piece inside whole place, Option.bind_eq_bind, Option.bind_some, List.length_singleton]
      rw [whole, splitText_append apart]
      split
      · rename_i filled
        have some : piece ≠ [] := by
          rintro rfl
          simp only [List.length_nil] at place
          omega
        rw [ih (by omega) (by omega), List.filter_cons_of_pos (by simpa using some), List.filter_nil,
          List.append_assoc]
      · rename_i adjacent
        have empty : piece = [] := List.eq_nil_of_length_eq_zero (by omega)
        rw [ih (by omega) (by omega), empty]
        rfl

end Split

section Trim
variable {text : Bytes}

theorem drop_findFirstNotOf (sized : text.length < 2 ^ 64) (b : UInt8) :
    text.drop (findFirstNotOf text b) = text.dropWhile (· = b) := by
  rw [List.dropWhile_eq_drop_findIdx_not, findFirstNotOf]
  cases found : text.findIdx? (· ≠ b) with
  | none =>
    have blank := List.findIdx?_eq_none_iff_findIdx_eq.mp found
    have all : text.findIdx (fun c => ! decide (c = b)) = text.length := by
      simpa only [ne_eq, decide_not] using blank
    rw [all, List.drop_length, Option.getD_none, List.drop_of_length_le (by rw [npos]; omega)]
  | some i =>
    have place := (List.findIdx?_eq_some_iff_findIdx_eq.mp found).2
    have same : text.findIdx (fun c => ! decide (c = b)) = i := by
      simpa only [ne_eq, decide_not] using place
    rw [same, Option.getD_some]

/-- Erasing behind the last other character; there is none, and `npos` wraps
around to the begin, where all of the string goes. -/
theorem erase_findLastNotOf (sized : text.length < 2 ^ 64) (b : UInt8) :
    erase text ((findLastNotOf text b + 1) % 2 ^ 64) npos = text.rdropWhile (· = b) := by
  have gone : ∀ k, text.drop (k + npos) = [] := fun k => List.drop_of_length_le (by rw [npos]; omega)
  rw [erase, gone, List.append_nil, List.rdropWhile, List.dropWhile_eq_drop_findIdx_not, findLastNotOf]
  cases found : text.reverse.findIdx? (· ≠ b) with
  | none =>
    have blank := List.findIdx?_eq_none_iff_findIdx_eq.mp found
    have all : text.reverse.findIdx (fun c => ! decide (c = b)) = text.reverse.length := by
      simpa only [ne_eq, decide_not] using blank
    rw [all, List.drop_length, Option.map_none, Option.getD_none, npos, Nat.sub_add_cancel (by decide),
      Nat.mod_self, List.take_zero, List.reverse_nil]
  | some j =>
    obtain ⟨small, place⟩ := List.findIdx?_eq_some_iff_findIdx_eq.mp found
    have same : text.reverse.findIdx (fun c => ! decide (c = b)) = j := by
      simpa only [ne_eq, decide_not] using place
    rw [List.length_reverse] at small
    have kept : (text.length - 1 - j + 1) % 2 ^ 64 = text.length - j := by
      rw [Nat.mod_eq_of_lt (by omega)]
      omega
    rw [same, Option.map_some, Option.getD_some, kept, List.drop_reverse, List.reverse_reverse]

theorem trim_left (sized : text.length < 2 ^ 64) (some : text ≠ []) (stray : UInt8) :
    (if charAt stray text 0 = 32 then erase text 0 (findFirstNotOf text 32) else text) =
      text.dropWhile (· = 32) := by
  split
  · rw [erase, List.take_zero, List.nil_append, Nat.zero_add, drop_findFirstNotOf sized]
  · rename_i other
    obtain ⟨b, rest, rfl⟩ := List.exists_cons_of_ne_nil some
    exact (List.dropWhile_cons_of_neg (by simpa [charAt] using other)).symm

theorem trim_right (sized : text.length < 2 ^ 64) (stray : UInt8) :
    (if charAt stray text ((text.length + 2 ^ 64 - 1) % 2 ^ 64) = 32
      then erase text ((findLastNotOf text 32 + 1) % 2 ^ 64) npos else text) = text.rdropWhile (· = 32) := by
  split
  · exact erase_findLastNotOf sized 32
  · rename_i other
    rcases List.eq_nil_or_concat' text with rfl | ⟨front, last, rfl⟩
    · rfl
    · refine (List.rdropWhile_concat_neg _ _ _ ?_).symm
      have place : ((front ++ [last]).length + 2 ^ 64 - 1) % 2 ^ 64 = front.length := by
        rw [List.length_append, List.length_singleton] at sized ⊢
        omega
      rw [place] at other
      simpa [charAt] using other

/-- Whatever is in the memory outside, the string ends up trimmed; the last
read is at the end of what is left after the first step. -/
theorem trim_eq (sized : text.length < 2 ^ 64) (some : text ≠ []) (stray : UInt8) :
    trim stray text = (trimText text, [⟨0, text.length⟩,
      ⟨((text.dropWhile (· = 32)).length + 2 ^ 64 - 1) % 2 ^ 64, (text.dropWhile (· = 32)).length⟩]) := by
  have shorter : (text.dropWhile (· = 32)).length ≤ text.length := (List.dropWhile_suffix _).length_le
  rw [trim, if_neg some]
  simp only [trim_left sized some, trim_right (shorter.trans_lt sized)]
  rfl

/-- What is left of a text without its blanks at both ends. -/
def Trimmed (text left : Bytes) : Prop :=
  (∃ before after, text = List.replicate before 32 ++ left ++ List.replicate after 32) ∧
    left.head? ≠ some 32 ∧ left.getLast? ≠ some 32

theorem head?_dropWhile_blank (text : Bytes) : (text.dropWhile (· = 32)).head? ≠ some 32 := by
  have other := List.head?_dropWhile_not (fun b : UInt8 => decide (b = 32)) text
  intro blank
  rw [blank] at other
  exact absurd other (by decide)

theorem trimText_trimmed (text : Bytes) : Trimmed text (trimText text) := by
  have blanks : ∀ part : Bytes, part.takeWhile (· = 32) = List.replicate (part.takeWhile (· = 32)).length 32 := by
    intro part
    refine List.eq_replicate_of_mem fun b member => ?_
    simpa using List.mem_takeWhile_imp member
  have left := List.takeWhile_append_dropWhile (p := (fun b : UInt8 => decide (b = 32))) (l := text)
  have right := List.takeWhile_append_dropWhile (p := (fun b : UInt8 => decide (b = 32)))
    (l := (text.dropWhile (· = 32)).reverse)
  obtain ⟨after, back⟩ : ∃ after, text.dropWhile (· = 32) = trimText text ++ List.replicate after 32 := by
    refine ⟨((text.dropWhile (· = 32)).reverse.takeWhile (· = 32)).length, ?_⟩
    have turned := congrArg List.reverse right
    rw [List.reverse_append, List.reverse_reverse, blanks, List.reverse_replicate] at turned
    exact turned.symm
  refine ⟨⟨(text.takeWhile (· = 32)).length, after, ?_⟩, ?_, ?_⟩
  · rw [List.append_assoc, ← back, ← blanks]
    exact left.symm
  · intro blank
    refine head?_dropWhile_blank text ?_
    rw [back, List.head?_append, blank, Option.some_or]
  · rw [trimText, List.getLast?_reverse]
    exact head?_dropWhile_blank _

/-- The reads of a string stay inside it, and it ends up without its
blanks. -/
structure TrimsRight (stray : UInt8) (text : Bytes) : Prop where
  inside : ∀ read ∈ (trim stray text).2, read.index < read.length
  trimmed : Trimmed text (trim stray text).1

theorem trimsRight_iff (sized : text.length < 2 ^ 64) (stray : UInt8) :
    TrimsRight stray text ↔ ¬ (text ≠ [] ∧ ∀ b ∈ text, b = 32) := by
  by_cases empty : text = []
  · subst empty
    refine ⟨fun _ filled => filled.1 rfl, fun _ => ⟨List.forall_mem_nil _, ?_⟩⟩
    exact trimText_trimmed []
  · have positive := List.length_pos_iff.mpr empty
    have shorter : (text.dropWhile (· = 32)).length ≤ text.length := (List.dropWhile_suffix _).length_le
    have blank : text.dropWhile (· = 32) = [] ↔ ∀ b ∈ text, b = 32 := by simp
    constructor
    · rintro ⟨inside, _⟩ ⟨_, all⟩
      rw [trim_eq sized empty, blank.mpr all] at inside
      have wrapped := inside _ (List.mem_cons_of_mem _ (List.mem_singleton_self _))
      simp only [List.length_nil] at wrapped
      omega
    · intro other
      refine ⟨?_, ?_⟩
      · have some : 0 < (text.dropWhile (· = 32)).length :=
          List.length_pos_iff.mpr fun gone => other ⟨empty, blank.mp gone⟩
        rw [trim_eq sized empty]
        refine List.forall_mem_cons.mpr ⟨positive, List.forall_mem_singleton.mpr ?_⟩
        simp only
        omega
      · rw [trim_eq sized empty]
        exact trimText_trimmed text

end Trim

/-- Both forms of `split` end without throwing, the returning one has the
pieces of the other that are not empty, and the pieces are the string
between its delimiters. -/
def SplitsRight (text : Bytes) (delimiter : UInt8) : Prop :=
  ∃ pieces, splitInto text [delimiter] [] = some pieces ∧ split text [delimiter] = some (pieces.filter (· ≠ [])) ∧
    (∀ piece ∈ pieces, delimiter ∉ piece) ∧ pieces.flatten = text.filter (· ≠ delimiter)

theorem splitsRight {text : Bytes} (sized : text.length < 2 ^ 64) (delimiter : UInt8) :
    SplitsRight text delimiter := by
  obtain ⟨pieces, ran, filtered, free, joined⟩ :=
    @splitIntoLoop_pieces text delimiter sized _ _ (Nat.zero_le _) (Nat.lt_succ_self _) []
  refine ⟨pieces, ran, ?_, free, joined⟩
  have returned := @splitLoop_pieces text delimiter _ _ (Nat.zero_le _) (Nat.lt_succ_self _) []
  rw [filtered]
  exact returned

/-- Both forms of `split` are right for every string at every delimiter.
With that `trim` is right just where the string is empty or holds something
else than blanks: of a string of blanks nothing is left where it looks for
the last one. -/
theorem strings_right {text : Bytes} (sized : text.length < 2 ^ 64) (stray : UInt8) :
    (∀ delimiter, SplitsRight text delimiter) ∧
      ((TrimsRight stray text ∧ ∀ delimiter, SplitsRight text delimiter) ↔ ¬ (text ≠ [] ∧ ∀ b ∈ text, b = 32)) := by
  refine ⟨splitsRight sized, ?_, ?_⟩
  · intro both
    exact (trimsRight_iff sized stray).mp both.1
  · intro other
    exact ⟨(trimsRight_iff sized stray).mpr other, splitsRight sized⟩

/-- A text with blanks around and between its words. -/
theorem strings_right_words : TrimsRight 0 (str " a b ") ∧ ∀ delimiter, SplitsRight (str " a b ") delimiter :=
  (@strings_right (str " a b ") (by decide) 0).2.mpr (by decide)

/-- One blank: it is erased, and what is in front of the empty string is
read. -/
theorem trim_of_blank : ¬ TrimsRight 0 (str " ") := by
  rintro ⟨inside, _⟩
  exact absurd (inside ⟨2 ^ 64 - 1, 0⟩ (by decide)) (by decide)

end DbcNode.Util
