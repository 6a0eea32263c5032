import DbcNode.Request.Checks

namespace DbcNode

namespace Gate
variable {B : Bloom} {env : RequestEnv}

/-- What a multisig stands for: enough different members have signed, each
over a nonce that no earlier check has accepted. -/
def Approved (env : RequestEnv) (g : Gate B) (multisigWallets : List Bytes) (multisigThreshold : Int)
    (multisigSigns : List MultisigSignItem) : Prop :=
  ∃ members : List Bytes, members.Nodup ∧ multisigThreshold ≤ members.length ∧ ∀ wallet ∈ members,
    wallet ∈ multisigWallets ∧ ∃ item ∈ multisigSigns, item.wallet = wallet ∧
      env.verifySign item.sign item.nonce wallet = true ∧ item.nonce ∉ g.accepted

/-- The different wallets that signatures are given for. -/
def signers (multisigSigns : List MultisigSignItem) : List Bytes := (multisigSigns.map (·.wallet)).dedup

/-- One of the guards of the check is met: something is empty or too few, or
a signature is of no member, empty, wrong, or over a nonce that the filter
knows by the time it is its turn. -/
def Refuses (env : RequestEnv) (g : Gate B) (multisigWallets : List Bytes) (multisigThreshold : Int)
    (multisigSigns : List MultisigSignItem) : Prop :=
  (multisigWallets = [] ∨ multisigSigns = [] ∨ multisigThreshold ≤ 0) ∨
    (multisigThreshold > multisigWallets.length ∨ multisigThreshold > multisigSigns.length) ∨
    ∃ before item after, multisigSigns = before ++ item :: after ∧
      ¬ Fine env multisigWallets (g.recordAll before) item

/-- The nonces of earlier checks that occur here are still among the last
ones that the filter was made for, when it is their turn. -/
def Remembers (g : Gate B) (multisigSigns : List MultisigSignItem) : Prop :=
  ∀ before item after, multisigSigns = before ++ item :: after → item.nonce ∈ g.accepted →
    item.nonce ∈ g.recorded.take (filterElements - before.length)

theorem checkMultisigNonce_iff (g : Gate B) (multisigWallets : List Bytes) (multisigThreshold : Int)
    (multisigSigns : List MultisigSignItem) :
    (g.checkMultisigNonce env multisigWallets multisigThreshold multisigSigns).1 = none ↔
      ¬ Refuses env g multisigWallets multisigThreshold multisigSigns := by
  obtain ⟨loop, _⟩ := checkSigns_iff env multisigWallets multisigSigns g
  rw [checkMultisigNonce]
  split
  · rename_i empty
    exact ⟨fun none => (by cases none), fun passes => (passes (Or.inl empty)).elim⟩
  rename_i filled
  split
  · rename_i few
    exact ⟨fun none => (by cases none), fun passes => (passes (Or.inr (Or.inl few))).elim⟩
  rename_i enough
  have same : (∀ before item after, multisigSigns = before ++ item :: after →
      Fine env multisigWallets (g.recordAll before) item) ↔
        ¬ Refuses env g multisigWallets multisigThreshold multisigSigns := by
    rw [Refuses]
    constructor
    · rintro all (empty | few | ⟨before, item, after, split, wrong⟩)
      · exact filled empty
      · exact enough few
      · exact wrong (all before item after split)
    · intro passes before item after split
      by_contra wrong
      exact passes (Or.inr (Or.inr ⟨before, item, after, split, wrong⟩))
  rw [← same, ← loop]
  rcases checkSigns env multisigWallets multisigSigns g with ⟨_ | error, after⟩
  · exact Iff.rfl
  · exact Iff.rfl

theorem recordAll_kept {signs : List MultisigSignItem} {g : Gate B} (kept : g.Kept)
    (nonces : ∀ item ∈ signs, item.nonce ≠ []) : (g.recordAll signs).Kept := by
  induction signs generalizing g with
  | nil => exact kept
  | cons item rest ih =>
    have first := (Follows.record (nonces item List.mem_cons_self) g).kept kept
    exact ih first (fun other member => nonces other (List.mem_cons_of_mem _ member))

/-- A signature that passes is over a nonce that no earlier check has
accepted. -/
theorem Fine.fresh (lasting : B.Lasting) {multisigWallets : List Bytes}
    {multisigSigns before after : List MultisigSignItem} {item : MultisigSignItem} {g : Gate B} (kept : g.Kept)
    (remembered : g.Remembers multisigSigns) (split : multisigSigns = before ++ item :: after)
    (nonces : ∀ item ∈ before, item.nonce ≠ []) (fine : Fine env multisigWallets (g.recordAll before) item) :
    item.nonce ∉ g.accepted := by
  intro used
  have recent := remembered before item after split used
  have within : item.nonce ∈ (g.recordAll before).recorded.take filterElements := by
    rw [recordAll_recorded, List.take_append, List.length_reverse, List.length_map]
    exact List.mem_append_right _ recent
  have found := (recordAll_kept kept nonces).seen lasting fine.nonce within
  have unseen := fine.unseen
  rw [found] at unseen
  cases unseen

/-- A check that passes has the signatures of all its signers. -/
theorem approved_of_passes (lasting : B.Lasting) {multisigWallets : List Bytes} {multisigThreshold : Int}
    {multisigSigns : List MultisigSignItem} {g : Gate B} (kept : g.Kept) (remembered : g.Remembers multisigSigns)
    (passes : ¬ Refuses env g multisigWallets multisigThreshold multisigSigns)
    (enough : multisigThreshold ≤ (signers multisigSigns).length) :
    Approved env g multisigWallets multisigThreshold multisigSigns := by
  have all : ∀ before item after, multisigSigns = before ++ item :: after →
      Fine env multisigWallets (g.recordAll before) item := by
    intro before item after split
    by_contra wrong
    exact passes (Or.inr (Or.inr ⟨before, item, after, split, wrong⟩))
  have nonces : ∀ item ∈ multisigSigns, item.nonce ≠ [] := by
    intro item member
    obtain ⟨before, after, split⟩ := List.append_of_mem member
    exact (all before item after split).nonce
  refine ⟨signers multisigSigns, List.nodup_dedup _, enough, ?_⟩
  intro wallet member
  obtain ⟨item, inside, rfl⟩ := List.mem_map.mp (List.mem_dedup.mp member)
  obtain ⟨before, after, split⟩ := List.append_of_mem inside
  have fine := all before item after split
  refine ⟨fine.listed, item, inside, rfl, fine.verified, ?_⟩
  refine fine.fresh lasting kept remembered split ?_
  intro other earlier
  refine nonces other ?_
  rw [split]
  exact List.mem_append_left _ earlier

/-- Members that have signed are among the signers. -/
theorem Approved.enough {multisigWallets : List Bytes} {multisigThreshold : Int}
    {multisigSigns : List MultisigSignItem} {g : Gate B}
    (approved : Approved env g multisigWallets multisigThreshold multisigSigns) :
    multisigThreshold ≤ (signers multisigSigns).length := by
  obtain ⟨members, distinct, enough, signed⟩ := approved
  have inside : members ⊆ signers multisigSigns := by
    intro wallet member
    obtain ⟨_, item, given, rfl, _⟩ := signed wallet member
    exact List.mem_dedup.mpr (List.mem_map.mpr ⟨item, given, rfl⟩)
  have fewer := (distinct.subperm inside).length_le
  omega

/-- A request that is authorised, not by a session id and not by the
signature of one wallet, has passed the check of its multisig. -/
theorem checkAuthority_multisig {chain : ChainView} {params : AuthorityParams} {sessionId : Bytes} {g : Gate B}
    (success : (g.checkAuthority env chain params sessionId).1.1.success = true)
    (role : (g.checkAuthority env chain params sessionId).1.1.userRole ≠ .sessionIdRenter)
    (single : (g.checkNonce env params.wallet params.nonce params.sign).1 ≠ none) :
    ((g.checkNonce env params.wallet params.nonce params.sign).2.checkMultisigNonce env params.multisigWallets
      params.multisigThreshold params.multisigSigns).1 = none := by
  have noWallet : (g.parseWallet env params).1.1 = [] := if_neg single
  have multisig : (g.parseWallet env params).1.2 ≠ [] →
      ((g.checkNonce env params.wallet params.nonce params.sign).2.checkMultisigNonce env params.multisigWallets
        params.multisigThreshold params.multisigSigns).1 = none := by
    intro some
    by_contra refused
    exact some (if_neg refused)
  refine multisig ?_
  intro none
  cases status : chain.machineStatus with
  | unknown =>
    rw [checkAuthority, status] at success
    cases success
  | verify =>
    rw [checkAuthority, status] at success
    simp only [checkVerifier, noWallet, none, and_self, if_true] at success
    cases success
  | online =>
    rw [checkAuthority, status] at success
    cases success
  | rented =>
    rw [checkAuthority, status] at success role
    simp only [checkRenter] at success role
    split at success
    · simp only [checkWalletRenter, noWallet, none, and_self, if_true] at success
      cases success
    · rename_i session
      rw [if_neg session] at role
      split at success
      · rename_i rented
        rw [if_pos rented] at role
        exact role rfl
      · cases success

/-- In every history, as long as the filter still knows the nonces of
earlier checks, a multisig check does what it stands for exactly when a
guard refuses it or its signatures are of enough different wallets; and a
request that is authorised by its multisig has passed the check. -/
theorem multisig_threshold_iff (lasting : B.Lasting) {trace : List (GateEvent env)} {g : Gate B}
    (run : Reaches (step env) fresh trace g) :
    (∀ multisigWallets multisigThreshold multisigSigns, g.Remembers multisigSigns →
      (((g.checkMultisigNonce env multisigWallets multisigThreshold multisigSigns).1 = none →
          Approved env g multisigWallets multisigThreshold multisigSigns) ↔
        (Refuses env g multisigWallets multisigThreshold multisigSigns ∨
          multisigThreshold ≤ (signers multisigSigns).length))) ∧
    (∀ chain params sessionId, (g.checkAuthority env chain params sessionId).1.1.success = true →
      (g.checkAuthority env chain params sessionId).1.1.userRole ≠ .sessionIdRenter →
      (g.checkNonce env params.wallet params.nonce params.sign).1 ≠ none →
      (g.checkNonce env params.wallet params.nonce params.sign).2.Remembers params.multisigSigns →
      params.multisigThreshold ≤ (signers params.multisigSigns).length →
      Approved env (g.checkNonce env params.wallet params.nonce params.sign).2 params.multisigWallets
        params.multisigThreshold params.multisigSigns) := by
  refine ⟨?_, ?_⟩
  · intro multisigWallets multisigThreshold multisigSigns remembered
    rw [checkMultisigNonce_iff]
    constructor
    · intro approved
      by_cases refused : Refuses env g multisigWallets multisigThreshold multisigSigns
      · exact Or.inl refused
      · exact Or.inr (approved refused).enough
    · rintro (refused | enough) passes
      · exact (passes refused).elim
      · exact approved_of_passes lasting (run_kept run) remembered passes enough
  · intro chain params sessionId success role single remembered enough
    have passed := checkAuthority_multisig success role single
    rw [checkMultisigNonce_iff] at passed
    have kept := (checkNonce_passes env params.wallet params.nonce params.sign g).follows.kept (run_kept run)
    exact approved_of_passes lasting kept remembered passed enough

end Gate

/-- A node whose signatures repeat the message and the wallet, for runs on
given inputs. Wallet 2 signs its body 1, and has put session id 9 into its
body 2. -/
def RequestEnv.lone : RequestEnv where
  Kind := Unit
  nodeId := [1]
  privKey := [1]
  checkId nonce := nonce ≠ []
  verifySign sign message wallet := sign = message ++ wallet
  createMultisigAccount accounts _ := some accounts
  opens _ _ body :=
    if body = [1] then some ⟨[[1]], ⟨[2], [7], [7, 2], [], 0, [], [], []⟩⟩
    else if body = [2] then some ⟨[[1]], ⟨[], [], [], [], 0, [], [9], [9, 2]⟩⟩
    else none

theorem Bloom.blank_lasting : Bloom.blank.Lasting := fun _ _ _ => rfl

namespace Gate

/-- Two members sign for a threshold of two. -/
theorem multisig_threshold_two :
    ((fresh : Gate Bloom.blank).checkMultisigNonce RequestEnv.lone [[2], [3], [4]] 2
        [⟨[2], [7], [7, 2]⟩, ⟨[3], [8], [8, 3]⟩]).1 = none ∧
      Approved RequestEnv.lone
      (fresh : Gate Bloom.blank) [[2], [3], [4]] 2 [⟨[2], [7], [7, 2]⟩, ⟨[3], [8], [8, 3]⟩] := by
  have passes : ((fresh : Gate Bloom.blank).checkMultisigNonce RequestEnv.lone [[2], [3], [4]] 2
      [⟨[2], [7], [7, 2]⟩, ⟨[3], [8], [8, 3]⟩]).1 = none := by decide +kernel
  have remembered : (fresh : Gate Bloom.blank).Remembers [⟨[2], [7], [7, 2]⟩, ⟨[3], [8], [8, 3]⟩] := by
    intro before item after _ used
    cases used
  refine ⟨passes, ((multisig_threshold_iff Bloom.blank_lasting .start).1 _ _ _ remembered).mpr (Or.inr ?_) passes⟩
  decide

/-- One member signs twice, over two nonces. -/
theorem one_member_is_enough :
    ((fresh : Gate Bloom.blank).checkMultisigNonce RequestEnv.lone [[2], [3], [4]] 2
        [⟨[2], [7], [7, 2]⟩, ⟨[2], [8], [8, 2]⟩]).1 = none ∧
      ¬ Approved RequestEnv.lone
      (fresh : Gate Bloom.blank) [[2], [3], [4]] 2 [⟨[2], [7], [7, 2]⟩, ⟨[2], [8], [8, 2]⟩] := by
  refine ⟨by decide +kernel, ?_⟩
  intro approved
  exact absurd approved.enough (by decide)

end Gate

end DbcNode
