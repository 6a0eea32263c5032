import DbcNode.Request.Threshold

namespace DbcNode

namespace Gate
variable {B : Bloom} {env : RequestEnv}

/-- A session id that is right decides a request on a rented machine. -/
def BySession (env : RequestEnv) (chain : ChainView) (params : AuthorityParams) (g : Gate B) : Prop :=
  chain.machineStatus = .rented ∧ g.checkSessionId env params.sessionId params.sessionIdSign ≠ []

/-- It authorises the request while the machine is still rented by its
wallet. -/
def OpenSession (env : RequestEnv) (chain : ChainView) (params : AuthorityParams) (g : Gate B) : Prop :=
  BySession env chain params g ∧ 0 < chain.rentEnd (g.checkSessionId env params.sessionId params.sessionIdSign)

/-- The nonces that a request is signed over. -/
def noncesOf (params : AuthorityParams) : List Bytes := params.nonce :: params.multisigSigns.map (·.nonce)

/-- A nonce recorded since the gate was in its earlier state, with its
number. -/
def Since (earlier g : Gate B) (nonce : Bytes) : Prop :=
  nonce ∈ g.recorded.take (g.recorded.length - earlier.recorded.length)

theorem Since.of_new {earlier g : Gate B} {nonce : Bytes} (follows : Follows earlier g)
    (member : nonce ∈ g.recorded) (fresh : nonce ∉ earlier.recorded) : Since earlier g nonce := by
  obtain ⟨new, whole⟩ := follows.recorded
  rw [Since, ← whole, List.length_append, Nat.add_sub_cancel, List.take_left]
  rw [← whole] at member
  rcases List.mem_append.mp member with inside | old
  · exact inside
  · exact (fresh old).elim

theorem Since.later {earlier g next : Gate B} {nonce : Bytes} (first : Follows earlier g) (follows : Follows g next)
    (since : Since earlier g nonce) : Since earlier next nonce := by
  obtain ⟨old, same⟩ := first.recorded
  obtain ⟨new, whole⟩ := follows.recorded
  rw [Since, ← same, List.length_append, Nat.add_sub_cancel, List.take_left] at since
  rw [Since, ← whole, ← same, ← List.append_assoc, List.length_append, Nat.add_sub_cancel, List.take_left]
  exact List.mem_append_right _ since

theorem checkNonce_not_known {wallet nonce sign : Bytes} {g : Gate B}
    (refused : (g.checkNonce env wallet nonce sign).1 ≠ none) (hasWallet : wallet ≠ []) (hasNonce : nonce ≠ [])
    (hasSign : sign ≠ []) (verified : env.verifySign sign nonce wallet = true) : nonce ∈ g.nonceFilter.keys := by
  rcases seen_cases hasNonce g with ⟨_, known⟩ | ran
  · exact known
  · refine (refused ?_).elim
    rw [checkNonce, if_neg hasWallet, if_neg hasNonce, if_neg hasSign, if_neg (by rw [verified]; simp), ran]
    rfl

/-- After a check of a signature that is right, its nonce is recorded. -/
theorem checkNonce_recorded {wallet nonce sign : Bytes} {g : Gate B} (kept : g.Kept) (hasWallet : wallet ≠ [])
    (hasNonce : nonce ≠ []) (hasSign : sign ≠ []) (verified : env.verifySign sign nonce wallet = true) :
    nonce ∈ (g.checkNonce env wallet nonce sign).2.recorded := by
  rcases checkNonce_cases env wallet nonce sign g with ⟨error, ran⟩ | ⟨_, ran⟩
  · have known := checkNonce_not_known (g := g) (by rw [ran]; simp) hasWallet hasNonce hasSign verified
    rw [ran]
    exact kept.logs.known nonce known
  · rw [ran]
    exact List.mem_cons_self

/-- After a check of a multisig that only the filter could refuse, the nonce
of its first signature is recorded. -/
theorem checkMultisigNonce_recorded {multisigWallets : List Bytes} {multisigThreshold : Int}
    {item : MultisigSignItem} {rest : List MultisigSignItem} {g : Gate B} (kept : g.Kept)
    (sizes : ¬ (multisigWallets = [] ∨ item :: rest = [] ∨ multisigThreshold ≤ 0))
    (enough : ¬ (multisigThreshold > multisigWallets.length ∨ multisigThreshold > (item :: rest).length))
    (listed : item.wallet ∈ multisigWallets) (hasNonce : item.nonce ≠ []) (hasSign : item.sign ≠ [])
    (verified : env.verifySign item.sign item.nonce item.wallet = true) :
    item.nonce ∈ (g.checkMultisigNonce env multisigWallets multisigThreshold (item :: rest)).2.recorded := by
  have loop : item.nonce ∈ (checkSigns env multisigWallets (item :: rest) g).2.recorded := by
    rcases checkSigns_cons env multisigWallets item rest g with ⟨wrong, error, ran⟩ | ⟨_, ran⟩
    · rw [ran]
      rcases seen_cases hasNonce g with ⟨_, known⟩ | unseen
      · exact kept.logs.known _ known
      · exact (wrong ⟨listed, hasNonce, hasSign, verified, by rw [unseen]⟩).elim
    · rw [ran]
      exact (checkSigns_passes env multisigWallets rest (g.record item.nonce)).follows.recorded.subset
        List.mem_cons_self
  rw [checkMultisigNonce, if_neg sizes, if_neg enough]
  rcases ran : checkSigns env multisigWallets (item :: rest) g with ⟨_ | error, after⟩
  · rw [ran] at loop
    exact loop
  · rw [ran] at loop
    exact loop

/-- Every signature of a request that could be accepted first has its nonce
in the list. -/
structure Spent (env : RequestEnv) (params : AuthorityParams) (known : List Bytes) : Prop where
  single : params.wallet ≠ [] → params.nonce ≠ [] → params.sign ≠ [] →
    env.verifySign params.sign params.nonce params.wallet = true → params.nonce ∈ known
  multisig : ∀ item rest, params.multisigSigns = item :: rest →
    ¬ (params.multisigWallets = [] ∨ item :: rest = [] ∨ params.multisigThreshold ≤ 0) →
    ¬ (params.multisigThreshold > params.multisigWallets.length ∨
      params.multisigThreshold > (item :: rest).length) →
    item.wallet ∈ params.multisigWallets → item.nonce ≠ [] → item.sign ≠ [] →
    env.verifySign item.sign item.nonce item.wallet = true → item.nonce ∈ known

theorem Spent.mono {params : AuthorityParams} {known more : List Bytes} (spent : Spent env params known)
    (found : ∀ nonce ∈ noncesOf params, nonce ∈ known → nonce ∈ more) : Spent env params more := by
  refine ⟨?_, ?_⟩
  · intro hasWallet hasNonce hasSign verified
    exact found _ List.mem_cons_self (spent.single hasWallet hasNonce hasSign verified)
  · intro item rest signs sizes enough listed hasNonce hasSign verified
    refine found _ (List.mem_cons_of_mem _ ?_)
      (spent.multisig item rest signs sizes enough listed hasNonce hasSign verified)
    rw [signs]
    exact List.mem_cons_self

/-- After its signatures were checked, the nonces of a request are spent. -/
theorem parseWallet_spent {params : AuthorityParams} {g : Gate B} (kept : g.Kept) :
    Spent env params (g.parseWallet env params).2.recorded := by
  have checked := (checkNonce_passes env params.wallet params.nonce params.sign g).follows.kept kept
  refine ⟨?_, ?_⟩
  · intro hasWallet hasNonce hasSign verified
    have recorded := checkNonce_recorded kept hasWallet hasNonce hasSign verified
    exact (checkMultisigNonce_passes env _ _ _ _).follows.recorded.subset recorded
  · intro item rest signs sizes enough listed hasNonce hasSign verified
    have recorded := checkMultisigNonce_recorded checked sizes enough listed hasNonce hasSign verified
    rw [← signs] at recorded
    exact recorded

/-- Both checks of a request refuse it when what they could record is known
already. -/
theorem parseWallet_refuses (lasting : B.Lasting) {params : AuthorityParams} {g : Gate B} (kept : g.Kept)
    (spent : Spent env params (g.recorded.take filterElements)) :
    (g.parseWallet env params).1 = ([], []) := by
  have first : ∃ error, g.checkNonce env params.wallet params.nonce params.sign = (some error, g) := by
    rcases checkNonce_cases env params.wallet params.nonce params.sign g with refused | ⟨⟨w, n, s, v, unseen⟩, _⟩
    · exact refused
    · rw [kept.seen lasting n (spent.single w n s v)] at unseen
      cases unseen
  obtain ⟨error, ran⟩ := first
  have second :
    (g.checkMultisigNonce env params.multisigWallets params.multisigThreshold params.multisigSigns).1 ≠ none := by
    rw [ne_eq, checkMultisigNonce_iff, not_not]
    by_cases sizes : params.multisigWallets = [] ∨ params.multisigSigns = [] ∨ params.multisigThreshold ≤ 0
    · exact Or.inl sizes
    by_cases few : params.multisigThreshold > params.multisigWallets.length ∨
        params.multisigThreshold > params.multisigSigns.length
    · exact Or.inr (Or.inl few)
    cases signs : params.multisigSigns with
    | nil => exact (sizes (Or.inr (Or.inl signs))).elim
    | cons item rest =>
      refine Or.inr (Or.inr ⟨[], item, rest, rfl, ?_⟩)
      intro fine
      rw [signs] at sizes few
      have recent := spent.multisig item rest signs sizes few fine.listed fine.nonce fine.sign fine.verified
      have unseen := fine.unseen
      rw [show g.recordAll [] = g from rfl, kept.seen lasting fine.nonce recent] at unseen
      cases unseen
  simp only [parseWallet, ran, reduceCtorEq, if_false, if_neg second]

theorem checkReqHeaderNonce_sessions (env : RequestEnv) (nonce sessionId sessionIdSign : Bytes) (g : Gate B) :
    (g.checkReqHeaderNonce env nonce).2.checkSessionId env sessionId sessionIdSign =
      g.checkSessionId env sessionId sessionIdSign := by
  rcases checkReqHeaderNonce_cases env nonce g with ran | ⟨_, ran⟩
  · rw [ran]
  · rw [ran]
    rfl

/-- A request is authorised. -/
def authorises (env : RequestEnv) (chain : ChainView) (sessionId : Bytes) (kind : env.Kind) (header : RequestHeader)
    (body : Bytes) (g : Gate B) : Bool :=
  (g.onRequest env chain sessionId kind header body).1.any (·.1.success)

/-- The header of a request is let through. -/
def HeaderPasses (env : RequestEnv) (header : RequestHeader) (g : Gate B) : Prop :=
  (g.checkReqHeaderNonce env header.nonce).1 = true ∧ checkReqHeader env header = true

/-- What a request needs besides a credential. -/
structure Opened (env : RequestEnv) (kind : env.Kind) (pubKey : Option Bytes) (body : Bytes)
    (data : RequestData) : Prop where
  keys : ¬ (pubKey.getD [] = [] ∨ env.privKey = [])
  opens : env.opens kind (pubKey.getD []) body = some data
  here : env.nodeId ∈ data.peerNodesList

theorem authorises_iff {chain : ChainView} {sessionId : Bytes} {kind : env.Kind} {header : RequestHeader}
    {body : Bytes} {g : Gate B} :
    g.authorises env chain sessionId kind header body = true ↔ HeaderPasses env header g ∧
      ∃ data, Opened env kind header.pubKey body data ∧
        ((g.checkReqHeaderNonce env header.nonce).2.checkAuthority env chain data.params sessionId).1.1.success =
          true := by
  rw [authorises, onRequest, HeaderPasses]
  rcases checked : g.checkReqHeaderNonce env header.nonce with ⟨_ | _, after⟩
  · simp
  dsimp only
  rw [if_neg (by simp)]
  by_cases sound : checkReqHeader env header = false
  · rw [if_pos sound, sound]
    simp
  rw [if_neg sound]
  rw [Bool.not_eq_false] at sound
  by_cases keys : header.pubKey.getD [] = [] ∨ env.privKey = []
  · rw [if_pos keys]
    refine ⟨fun wrong => (by cases wrong), ?_⟩
    rintro ⟨_, data, opened, _⟩
    exact (opened.keys keys).elim
  rw [if_neg keys]
  cases opens : env.opens kind (header.pubKey.getD []) body with
  | none =>
    refine ⟨fun wrong => (by cases wrong), ?_⟩
    rintro ⟨_, data, opened, _⟩
    rw [opened.opens] at opens
    cases opens
  | some data =>
    dsimp only
    by_cases other : env.nodeId ∉ data.peerNodesList
    · rw [if_pos other]
      refine ⟨fun wrong => (by cases wrong), ?_⟩
      rintro ⟨_, same, opened, _⟩
      rw [opened.opens] at opens
      cases opens
      exact (other opened.here).elim
    · rw [if_neg other, Option.any_some]
      constructor
      · intro success
        exact ⟨⟨rfl, sound⟩, data, ⟨keys, opens, not_not.mp other⟩, success⟩
      · rintro ⟨_, same, opened, success⟩
        rw [opened.opens] at opens
        cases opens
        exact success

theorem checkReqHeaderNonce_length (env : RequestEnv) (nonce : Bytes) (g : Gate B) :
    (g.checkReqHeaderNonce env nonce).2.recorded.length ≤ g.recorded.length + 1 := by
  rcases checkReqHeaderNonce_cases env nonce g with ran | ⟨_, ran⟩
  · rw [ran]
    exact Nat.le_succ _
  · rw [ran]
    exact Nat.le_refl _

theorem onRequest_opened {chain : ChainView} {sessionId : Bytes} {kind : env.Kind} {header : RequestHeader}
    {body : Bytes} {data : RequestData} {g : Gate B} (opened : Opened env kind header.pubKey body data)
    (passes : HeaderPasses env header g) : (g.onRequest env chain sessionId kind header body).2 =
      ((g.checkReqHeaderNonce env header.nonce).2.checkAuthority env chain data.params sessionId).2 := by
  obtain ⟨good, sound⟩ := passes
  simp only [onRequest, good, sound, reduceCtorEq, if_false, if_neg opened.keys, opened.opens,
    not_not.mpr opened.here]

/-- A request that is authorised without a session id has one of its wallets
checked. -/
theorem checkAuthority_parses {chain : ChainView} {params : AuthorityParams} {sessionId : Bytes} {g : Gate B}
    (success : (g.checkAuthority env chain params sessionId).1.1.success = true)
    (signed : ¬ BySession env chain params g) : (g.parseWallet env params).1 ≠ ([], []) ∧
      Follows (g.parseWallet env params).2 (g.checkAuthority env chain params sessionId).2 := by
  rcases parsed : g.parseWallet env params with ⟨⟨wallet, multisigWallet⟩, after⟩
  cases status : chain.machineStatus with
  | unknown =>
    rw [checkAuthority, status] at success
    cases success
  | online =>
    rw [checkAuthority, status] at success
    cases success
  | verify =>
    simp only [checkAuthority, status, checkVerifier, parsed] at success ⊢
    by_cases none : wallet = [] ∧ multisigWallet = []
    · rw [if_pos none] at success
      cases success
    rw [if_neg none]
    refine ⟨fun both => none (by cases both; exact ⟨rfl, rfl⟩), ?_⟩
    split
    · exact .refl after
    split
    · exact .refl after
    · exact .refl after
  | rented =>
    have other : g.checkSessionId env params.sessionId params.sessionIdSign = [] := by
      by_contra found
      exact signed ⟨status, found⟩
    simp only [checkAuthority, status, checkRenter, other, if_true, checkWalletRenter, parsed] at success ⊢
    by_cases none : wallet = [] ∧ multisigWallet = []
    · rw [if_pos none] at success
      cases success
    rw [if_neg none]
    refine ⟨fun both => none (by cases both; exact ⟨rfl, rfl⟩), ?_⟩
    split
    · exact .createSessionId _ _ _ _
    split
    · exact .createSessionId _ _ _ _
    · exact .refl after

/-- Where the wallets of a request are refused, only an open session
authorises it. -/
theorem checkAuthority_refused_iff {chain : ChainView} {params : AuthorityParams} {sessionId : Bytes} {g : Gate B}
    (refused : (g.parseWallet env params).1 = ([], [])) :
    (g.checkAuthority env chain params sessionId).1.1.success = true ↔ OpenSession env chain params g := by
  constructor
  · intro success
    by_contra closed
    by_cases session : BySession env chain params g
    · simp only [checkAuthority, session.1, checkRenter, if_neg session.2] at success
      split at success
      · rename_i rented
        exact closed ⟨session, rented⟩
      · cases success
    · exact (checkAuthority_parses success session).1 refused
  · rintro ⟨session, rented⟩
    simp only [checkAuthority, session.1, checkRenter, if_neg session.2, gt_iff_lt, if_pos rented]

/-- What a delivery that is authorised by its signatures could accept is
recorded when it is over. -/
theorem spent_authorised {g : Gate B} (kept : g.Kept) {kind : env.Kind} {header : RequestHeader} {body : Bytes}
    {data : RequestData} {chain : ChainView} {made : Bytes} (opened : Opened env kind header.pubKey body data)
    (passed : HeaderPasses env header g)
    (success : ((g.checkReqHeaderNonce env header.nonce).2.checkAuthority env chain data.params made).1.1.success =
      true) (signed : ¬ BySession env chain data.params g) :
    Spent env data.params (g.onRequest env chain made kind header body).2.recorded := by
  have checked := checkReqHeaderNonce_follows env header.nonce g
  have unsigned : ¬ BySession env chain data.params (g.checkReqHeaderNonce env header.nonce).2 := by
    rw [BySession, checkReqHeaderNonce_sessions]
    exact signed
  rw [onRequest_opened opened passed]
  refine (parseWallet_spent (checked.kept kept)).mono ?_
  intro nonce _ recorded
  exact (checkAuthority_parses success unsigned).2.recorded.subset recorded

/-- What was new and is recorded stays in the filter for as many nonces as it
is made for. -/
theorem Spent.still {before first g last : Gate B} {params : AuthorityParams}
    (spent : Spent env params first.recorded) (new : ∀ nonce ∈ noncesOf params, nonce ∉ before.recorded)
    (firstFollows : Follows before first) (ranFollows : Follows first g) (secondFollows : Follows g last)
    (window : last.recorded.length ≤ before.recorded.length + filterElements) :
    Spent env params (last.recorded.take filterElements) := by
  refine spent.mono ?_
  intro nonce member recorded
  have since := ((Since.of_new firstFollows recorded (new nonce member)).later firstFollows ranFollows).later
    (firstFollows.trans ranFollows) secondFollows
  exact List.take_subset_take_left _ (by omega) since

/-- In every history, after a request was authorised by its signatures, over
nonces that were new, and before as many nonces are recorded as the filter
is made for: its body is authorised again, under whatever header, exactly
where that header passes and a session id in the body opens a session that
is still paid for. -/
theorem replay_authorised_iff (lasting : B.Lasting) {earlier later : List (GateEvent env)} {before first g : Gate B}
    (origin : Reaches (step env) fresh earlier before) {kind : env.Kind} {body : Bytes} {data : RequestData}
    {chain chain' : ChainView} {made made' : Bytes} {header header' : RequestHeader}
    (opened : Opened env kind header.pubKey body data)
    (authorised : before.authorises env chain made kind header body = true)
    (signed : ¬ BySession env chain data.params before)
    (new : ∀ nonce ∈ noncesOf data.params, nonce ∉ before.recorded)
    (delivered : first = (before.onRequest env chain made kind header body).2)
    (run : Reaches (step env) first later g) (sameKey : header'.pubKey = header.pubKey)
    (window : g.recorded.length < before.recorded.length + filterElements) :
    g.authorises env chain' made' kind header' body = true ↔
      HeaderPasses env header' g ∧ OpenSession env chain' data.params g := by
  have kept := run_kept origin
  obtain ⟨passed, same, again, success⟩ := authorises_iff.mp authorised
  have equal : same = data := by
    have both := again.opens
    rw [opened.opens] at both
    cases both
    rfl
  rw [equal] at success
  have firstFollows : Follows before first := by
    rw [delivered]
    exact onRequest_follows env chain made kind header body before
  have ranFollows := run_follows run
  have keptLater := ranFollows.kept (firstFollows.kept kept)
  have secondFollows := checkReqHeaderNonce_follows env header'.nonce g
  have still : Spent env data.params
      ((g.checkReqHeaderNonce env header'.nonce).2.recorded.take filterElements) := by
    refine (spent_authorised kept opened passed success signed).still new ?_ ?_ secondFollows ?_
    · exact delivered ▸ firstFollows
    · exact delivered ▸ ranFollows
    · have one := checkReqHeaderNonce_length env header'.nonce g
      omega
  have refused := parseWallet_refuses lasting (secondFollows.kept keptLater) still
  have openSame : OpenSession env chain' data.params (g.checkReqHeaderNonce env header'.nonce).2 ↔
      OpenSession env chain' data.params g := by
    rw [OpenSession, BySession, checkReqHeaderNonce_sessions]
    exact Iff.rfl
  rw [authorises_iff, ← openSame]
  constructor
  · rintro ⟨passes, other, opensAgain, authority⟩
    have both := opensAgain.opens
    rw [sameKey, opened.opens] at both
    cases both
    exact ⟨passes, (checkAuthority_refused_iff refused).mp authority⟩
  · rintro ⟨passes, session⟩
    refine ⟨passes, data, ?_, (checkAuthority_refused_iff refused).mpr session⟩
    rw [sameKey]
    exact opened

/-- A machine that wallet 2 has rented. -/
def rented : ChainView := ⟨.rented, fun _ => false, fun wallet => if wallet = [2] then 100 else 0⟩

/-- A header of the sender with key 5. -/
def headerOf (nonce : UInt8) : RequestHeader := ⟨[nonce], [nonce], some [5]⟩

/-- The request that wallet 2 has signed, delivered twice. -/
theorem replay_authorised_signed :
    (fresh : Gate Bloom.blank).authorises RequestEnv.lone rented [9] () (headerOf 11) [1] = true ∧
      ¬ ((fresh : Gate Bloom.blank).onRequest RequestEnv.lone rented [9] () (headerOf 11) [1]).2.authorises
        RequestEnv.lone rented [10] () (headerOf 12) [1] = true := by
  have authorised : (fresh : Gate Bloom.blank).authorises RequestEnv.lone rented [9] () (headerOf 11)
    [1] = true := by
    decide +kernel
  have opened : Opened RequestEnv.lone () (headerOf 11).pubKey [1] ⟨[[1]], ⟨[2], [7], [7, 2], [], 0, [], [], []⟩⟩ :=
    ⟨by decide, rfl, by decide⟩
  have sameKey : (headerOf 12).pubKey = (headerOf 11).pubKey := rfl
  refine ⟨authorised, ?_⟩
  intro again
  obtain ⟨_, session, _⟩ :=
    (replay_authorised_iff Bloom.blank_lasting .start opened authorised (fun session => session.2 rfl)
    (by decide) rfl .start sameKey (by decide +kernel)).mp again
  exact session.2 rfl

/-- With the session id of wallet 2, the same request is executed twice. -/
theorem session_request_replayed :
    ∃ before : Gate Bloom.blank,
      Reaches (step RequestEnv.lone) fresh [.request rented [9] () (headerOf 11) [1]] before ∧
      before.authorises RequestEnv.lone rented [10] () (headerOf 12) [2] = true ∧
      (before.onRequest RequestEnv.lone rented [10] () (headerOf 12) [2]).2.authorises RequestEnv.lone
        rented [10] () (headerOf 13) [2] = true ∧
      (before.onRequest RequestEnv.lone rented [10] () (headerOf 12) [2]).2.recorded.length <
        before.recorded.length + filterElements := by
  refine ⟨((fresh : Gate Bloom.blank).onRequest RequestEnv.lone rented [9] () (headerOf 11) [1]).2,
    .next .start trivial rfl, ?_, ?_, ?_⟩
  · decide +kernel
  · decide +kernel
  · decide +kernel

end Gate

end DbcNode
