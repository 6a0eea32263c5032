import Mathlib.Data.List.Destutter
import DbcNode.Channel.Handler

namespace DbcNode

/-- What `std::unique` and the cut after it leave of a path. -/
def uniquePath (path : List Bytes) : List Bytes := path.destutter (· ≠ ·)

/-- What `validate_resp_path` returns, and the path as it leaves it. -/
def validatedRespPath (msgName : Bytes) (path : List Bytes) : Bool × List Bytes :=
  if msgName ∉ pathRespNames then (true, path)
  else if 20 < path.length then (false, path)
  else (decide (path.length = (uniquePath path).length), uniquePath path)

/-- What `validate_req_path` returns, and the path as it leaves it. `peerId`
is the remote node of the channel, and nothing where the channel is gone. -/
def validatedReqPath (nodeId : Bytes) (peerId : Option Bytes) (msgName : Bytes) (path : List Bytes) :
    Bool × List Bytes :=
  if msgName ∉ pathReqNames then (true, path)
  else if path.length = 0 ∨ 100 < path.length then (false, path)
  else match peerId with
    | none => (false, path)
    | some peerId =>
      if path.getLast? ≠ some peerId then (false, path)
      else if nodeId ∈ path then (false, path)
      else (decide (path.length = (uniquePath path).length), uniquePath path)

/-- A request is accepted only with a path without cycles, which stays as it
is. -/
def ReqPathSound (nodeId : Bytes) (peerId : Option Bytes) (path : List Bytes) : Prop :=
  ∀ msgName ∈ pathReqNames, (validatedReqPath nodeId peerId msgName path).1 = true →
    path ≠ [] ∧ path.getLast? = peerId ∧ nodeId ∉ path ∧ path.Nodup ∧
      (validatedReqPath nodeId peerId msgName path).2 = path

def RespPathSound (path : List Bytes) : Prop :=
  ∀ msgName ∈ pathRespNames, (validatedRespPath msgName path).1 = true →
    path.length ≤ 20 ∧ path.Nodup ∧ (validatedRespPath msgName path).2 = path

/-- Two equal ids stand next to each other, if any two are equal. -/
def RepeatsMeet (path : List Bytes) : Prop := path.Nodup ∨ ¬ path.IsChain (· ≠ ·)

variable {nodeId peerId msgName : Bytes} {path : List Bytes}

/-- Nothing is cut off exactly where no two neighbours are equal. -/
theorem uniquePath_length : path.length = (uniquePath path).length ↔ path.IsChain (· ≠ ·) := by
  rw [← List.destutter_eq_self_iff]
  constructor
  · intro same
    exact (List.destutter_sublist (· ≠ ·) path).eq_of_length same.symm
  · intro same
    rw [uniquePath, same]

theorem uniquePath_eq (chain : path.IsChain (· ≠ ·)) : uniquePath path = path :=
  List.destutter_of_isChain _ _ chain

/-- The handler drops what `validate_resp_path` refuses. -/
theorem validatedRespPath_fst (msgName : Bytes) (path : List Bytes) :
    (validatedRespPath msgName path).1 = validateRespPath msgName path := by
  unfold validatedRespPath validateRespPath
  split
  · rfl
  · split
    · rename_i long
      have short : ¬ path.length ≤ 20 := by omega
      simp [short]
    · rename_i long
      have short : path.length ≤ 20 := by omega
      simp only [short, true_and]
      refine decide_eq_decide.mpr ?_
      rw [uniquePath_length, noRepeats, decide_eq_true_iff, List.destutter_eq_self_iff]

/-- The handler drops what `validate_req_path` refuses. -/
theorem validatedReqPath_fst (nodeId peerId msgName : Bytes) (path : List Bytes) :
    (validatedReqPath nodeId (some peerId) msgName path).1 = validateReqPath nodeId peerId msgName path := by
  unfold validatedReqPath validateReqPath
  split
  · rfl
  · have unique : (path.length = (uniquePath path).length) ↔ noRepeats path = true := by
      rw [uniquePath_length, noRepeats, decide_eq_true_iff, List.destutter_eq_self_iff]
    split
    · rename_i range
      have out : ¬ (path.length ≠ 0 ∧ path.length ≤ 100) := by omega
      simp only [out, false_and, decide_false]
    · rename_i range
      have inside : path.length ≠ 0 ∧ path.length ≤ 100 := by omega
      by_cases last : path.getLast? = some peerId
      · by_cases own : nodeId ∈ path
        · simp [inside, last, own]
        · simp only [inside, last, own, unique, ne_eq, not_true_eq_false, if_false, not_false_eq_true, true_and]
      · simp [inside, last]

/-- A path passes all checks of a request but the one for duplicates. -/
def ReqPathFits (nodeId : Bytes) (peerId : Option Bytes) (path : List Bytes) : Prop :=
  path.length ≠ 0 ∧ path.length ≤ 100 ∧ peerId.isSome ∧ path.getLast? = peerId ∧ nodeId ∉ path

theorem validatedReqPath_fits {peerId : Option Bytes} (fits : ReqPathFits nodeId peerId path)
    (checked : msgName ∈ pathReqNames) :
    validatedReqPath nodeId peerId msgName path = (decide (path.length = (uniquePath path).length),
      uniquePath path) := by
  obtain ⟨some, short, linked, last, apart⟩ := fits
  obtain ⟨peer, rfl⟩ := Option.isSome_iff_exists.mp linked
  have range : ¬ (path.length = 0 ∨ 100 < path.length) := by omega
  simp only [validatedReqPath, checked, range, last, apart, not_true_eq_false, if_false, ne_eq]

theorem fits_of_accepted {peerId : Option Bytes} (checked : msgName ∈ pathReqNames)
    (accepted : (validatedReqPath nodeId peerId msgName path).1 = true) : ReqPathFits nodeId peerId path := by
  unfold validatedReqPath at accepted
  rw [if_neg (not_not.mpr checked)] at accepted
  split at accepted
  · cases accepted
  · rename_i range
    split at accepted
    · cases accepted
    · rename_i peer
      split at accepted
      · cases accepted
      · rename_i last
        split at accepted
        · cases accepted
        · rename_i apart
          exact ⟨by omega, by omega, rfl, not_not.mp last, apart⟩

theorem reqPathSound_iff {peerId : Option Bytes} :
    ReqPathSound nodeId peerId path ↔ (ReqPathFits nodeId peerId path → RepeatsMeet path) := by
  constructor
  · intro sound fits
    by_cases chain : path.IsChain (· ≠ ·)
    · have checked : str "node_list_task_req" ∈ pathReqNames := List.mem_cons_self
      have ran := validatedReqPath_fits fits checked
      obtain ⟨_, _, _, nodup, _⟩ := sound _ checked (by
        rw [ran]
        exact decide_eq_true (uniquePath_length.mpr chain))
      exact Or.inl nodup
    · exact Or.inr chain
  · intro meets msgName checked accepted
    have fits := fits_of_accepted checked accepted
    have ran := validatedReqPath_fits fits checked
    rw [ran] at accepted ⊢
    have chain := uniquePath_length.mp (of_decide_eq_true accepted)
    refine ⟨fun empty => fits.1 (by rw [empty]; rfl), fits.2.2.2.1, fits.2.2.2.2, ?_, uniquePath_eq chain⟩
    rcases meets fits with nodup | apart
    · exact nodup
    · exact absurd chain apart

theorem respPathSound_iff : RespPathSound path ↔ (path.length ≤ 20 → RepeatsMeet path) := by
  constructor
  · intro sound short
    by_cases chain : path.IsChain (· ≠ ·)
    · have checked : str "node_list_task_rsp" ∈ pathRespNames := List.mem_cons_self
      refine Or.inl (sound _ checked ?_).2.1
      have range : ¬ 20 < path.length := by omega
      simp only [validatedRespPath, checked, range, not_true_eq_false, if_false]
      exact decide_eq_true (uniquePath_length.mpr chain)
    · exact Or.inr chain
  · intro meets msgName checked accepted
    unfold validatedRespPath at accepted ⊢
    rw [if_neg (not_not.mpr checked)] at accepted ⊢
    split at accepted
    · cases accepted
    · rename_i long
      have short : path.length ≤ 20 := by omega
      have chain := uniquePath_length.mp (of_decide_eq_true accepted)
      rw [if_neg long]
      refine ⟨short, ?_, uniquePath_eq chain⟩
      rcases meets short with nodup | apart
      · exact nodup
      · exact absurd chain apart

/-- A cycle is seen exactly where a repeated id follows itself, or another
check refuses the path: the list is not sorted before neighbours are
compared. -/
theorem cycles_refused_iff (nodeId : Bytes) (peerId : Option Bytes) (path : List Bytes) :
    (ReqPathSound nodeId peerId path ↔ (ReqPathFits nodeId peerId path → RepeatsMeet path)) ∧
      (RespPathSound path ↔ (path.length ≤ 20 → RepeatsMeet path)) :=
  ⟨reqPathSound_iff, respPathSound_iff⟩

/-- Back at the first node after another one. -/
def roundTrip : List Bytes := [str "a", str "b", str "a"]

theorem round_trip_accepted :
    ¬ ReqPathSound (str "own") (some (str "a")) roundTrip ∧ ¬ RespPathSound roundTrip := by
  have cyclic : ¬ roundTrip.Nodup := by decide
  refine ⟨fun sound => cyclic ?_, fun sound => cyclic ?_⟩
  · exact (sound (str "node_list_task_req") (by decide) (by decide)).2.2.2.1
  · exact (sound (str "node_list_task_rsp") (by decide) (by decide)).2.1

end DbcNode
