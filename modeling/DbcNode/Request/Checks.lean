import DbcNode.Lib.Runs
import DbcNode.Request.Authority
import DbcNode.NonceFilter

namespace DbcNode

namespace Gate
variable {B : Bloom} {env : RequestEnv}

/-- A nonce goes into the filter. -/
def record (nonce : Bytes) (g : Gate B) : Gate B :=
  { g with nonceFilter := g.nonceFilter.insert nonce, recorded := nonce :: g.recorded }

theorem seen_cases {nonce : Bytes} (some : nonce ≠ []) (g : Gate B) :
    (g.seen nonce = (true, g) ∧ nonce ∈ g.nonceFilter.keys) ∨ g.seen nonce = (false, g.record nonce) := by
  rcases NonceFilter.contains_cases nonce g.nonceFilter with ⟨empty, _⟩ | ⟨member, ran⟩ | ⟨_, ran⟩
  · exact (some empty).elim
  · refine Or.inl ⟨?_, member⟩
    simp only [seen, ran, true_or, if_true]
  · refine Or.inr ?_
    simp only [seen, ran, Bool.false_eq_true, some, or_self, if_false]
    rfl

/-- The filter is that of the recorded nonces, and what was accepted was
recorded. -/
structure Kept (g : Gate B) : Prop where
  logs : g.nonceFilter.Logs g.recorded
  accepted : ∀ nonce ∈ g.accepted, nonce ∈ g.recorded

/-- The gate after some checks: more is recorded, and it is kept in
order. -/
structure Follows (g next : Gate B) : Prop where
  recorded : g.recorded <:+ next.recorded
  kept : g.Kept → next.Kept

/-- The gate after some checks, one nonce that was not seen after the
other. -/
inductive Passes : Gate B → Gate B → Prop
  | refl (g : Gate B) : Passes g g
  | record {g : Gate B} {nonce : Bytes} (some : nonce ≠ []) (unseen : (g.seen nonce).1 = false) :
      Passes g (g.record nonce)
  | accept {g : Gate B} {nonces : List Bytes} (known : ∀ nonce ∈ nonces, nonce ∈ g.recorded) :
      Passes g (g.accept nonces)
  | createSessionId (wallet : Bytes) (signers : List Bytes) (sessionId : Bytes) (g : Gate B) :
      Passes g (g.createSessionId wallet signers sessionId)
  | trans {a b c : Gate B} (first : Passes a b) (second : Passes b c) : Passes a c

/-- A nonce that was not seen is recorded and accepted. -/
theorem Passes.take {g : Gate B} {nonce : Bytes} (some : nonce ≠ []) (unseen : (g.seen nonce).1 = false) :
    Passes g ((g.record nonce).accept [nonce]) := by
  refine (Passes.record some unseen).trans (.accept ?_)
  intro other member
  rw [List.mem_singleton.mp member]
  exact List.mem_cons_self

namespace Follows

theorem refl (g : Gate B) : Follows g g := ⟨List.suffix_refl _, fun kept => kept⟩

theorem trans {a b c : Gate B} (first : Follows a b) (second : Follows b c) : Follows a c :=
  ⟨first.recorded.trans second.recorded, fun kept => second.kept (first.kept kept)⟩

theorem record {nonce : Bytes} (some : nonce ≠ []) (g : Gate B) : Follows g (g.record nonce) := by
  refine ⟨List.suffix_cons _ _, ?_⟩
  intro kept
  exact ⟨kept.logs.insert some, fun other member => List.mem_cons_of_mem _ (kept.accepted other member)⟩

theorem accept {nonces : List Bytes} {g : Gate B} (known : ∀ nonce ∈ nonces, nonce ∈ g.recorded) :
    Follows g (g.accept nonces) := by
  refine ⟨List.suffix_refl _, ?_⟩
  intro kept
  refine ⟨kept.logs, ?_⟩
  intro nonce member
  rcases List.mem_append.mp member with new | old
  · exact known nonce new
  · exact kept.accepted nonce old

theorem createSessionId (wallet : Bytes) (signers : List Bytes) (sessionId : Bytes) (g : Gate B) :
    Follows g (g.createSessionId wallet signers sessionId) := by
  rw [Gate.createSessionId]
  split
  · exact refl g
  · exact ⟨List.suffix_refl _, fun kept => ⟨kept.logs, kept.accepted⟩⟩

end Follows

theorem Passes.follows {g next : Gate B} (passes : Passes g next) : Follows g next := by
  induction passes with
  | refl g => exact .refl g
  | record some _ => exact .record some _
  | accept known => exact .accept known
  | createSessionId wallet signers sessionId g => exact .createSessionId wallet signers sessionId g
  | trans _ _ first second => exact first.trans second

/-- A nonce among the last ones recorded is refused. -/
theorem Kept.seen {g : Gate B} (kept : g.Kept) (lasting : B.Lasting) {nonce : Bytes} (some : nonce ≠ [])
    (recent : nonce ∈ g.recorded.take filterElements) : g.seen nonce = (true, g) := by
  have found := kept.logs.contains lasting some recent
  simp only [Gate.seen, found, true_or, if_true]

/-- The check of a header changes nothing, or records its nonce. -/
theorem checkReqHeaderNonce_cases (env : RequestEnv) (nonce : Bytes) (g : Gate B) :
    (g.checkReqHeaderNonce env nonce = (false, g)) ∨
      ((nonce ≠ [] ∧ (g.seen nonce).1 = false) ∧
        g.checkReqHeaderNonce env nonce = (true, (g.record nonce).accept [nonce])) := by
  rw [checkReqHeaderNonce]
  split
  · exact Or.inl rfl
  rename_i some
  split
  · exact Or.inl rfl
  rcases seen_cases some g with ⟨ran, _⟩ | ran
  · rw [ran]
    exact Or.inl rfl
  · rw [ran]
    exact Or.inr ⟨⟨some, rfl⟩, rfl⟩

/-- The check of a signature refuses it, or finds it right and records its
nonce. -/
theorem checkNonce_cases (env : RequestEnv) (wallet nonce sign : Bytes) (g : Gate B) :
    (∃ error, g.checkNonce env wallet nonce sign = (some error, g)) ∨
      ((wallet ≠ [] ∧ nonce ≠ [] ∧ sign ≠ [] ∧ env.verifySign sign nonce wallet = true ∧ (g.seen nonce).1 = false) ∧
        g.checkNonce env wallet nonce sign = (none, (g.record nonce).accept [nonce])) := by
  rw [checkNonce]
  split
  · exact Or.inl ⟨_, rfl⟩
  rename_i hasWallet
  split
  · exact Or.inl ⟨_, rfl⟩
  rename_i hasNonce
  split
  · exact Or.inl ⟨_, rfl⟩
  rename_i hasSign
  split
  · exact Or.inl ⟨_, rfl⟩
  rename_i verified
  rw [Bool.not_eq_false] at verified
  rcases seen_cases hasNonce g with ⟨ran, _⟩ | ran
  · rw [ran]
    exact Or.inl ⟨_, rfl⟩
  · rw [ran]
    exact Or.inr ⟨⟨hasWallet, hasNonce, hasSign, verified, rfl⟩, rfl⟩

theorem checkReqHeaderNonce_passes (env : RequestEnv) (nonce : Bytes) (g : Gate B) :
    Passes g (g.checkReqHeaderNonce env nonce).2 := by
  rcases checkReqHeaderNonce_cases env nonce g with ran | ⟨⟨some, unseen⟩, ran⟩
  · rw [ran]
    exact .refl g
  · rw [ran]
    exact .take some unseen

theorem checkReqHeaderNonce_follows (env : RequestEnv) (nonce : Bytes) (g : Gate B) :
    Follows g (g.checkReqHeaderNonce env nonce).2 := (checkReqHeaderNonce_passes env nonce g).follows

theorem checkNonce_passes (env : RequestEnv) (wallet nonce sign : Bytes) (g : Gate B) :
    Passes g (g.checkNonce env wallet nonce sign).2 := by
  rcases checkNonce_cases env wallet nonce sign g with ⟨_, ran⟩ | ⟨⟨_, some, _, _, unseen⟩, ran⟩
  · rw [ran]
    exact .refl g
  · rw [ran]
    exact .take some unseen

/-- The gate after the nonces of these signatures were recorded. -/
def recordAll (signs : List MultisigSignItem) (g : Gate B) : Gate B :=
    signs.foldl (fun g item => g.record item.nonce) g

theorem recordAll_recorded (signs : List MultisigSignItem) (g : Gate B) :
    (g.recordAll signs).recorded = (signs.map (·.nonce)).reverse ++ g.recorded := by
  induction signs generalizing g with
  | nil => rfl
  | cons item rest ih =>
    have later := ih (g.record item.nonce)
    rw [recordAll, List.foldl_cons, ← recordAll, later, List.map_cons, List.reverse_cons, List.append_assoc]
    rfl

/-- A signature that the loop lets pass, after the ones before it. -/
structure Fine (env : RequestEnv) (multisigWallets : List Bytes) (g : Gate B) (item : MultisigSignItem) : Prop where
  listed : item.wallet ∈ multisigWallets
  nonce : item.nonce ≠ []
  sign : item.sign ≠ []
  verified : env.verifySign item.sign item.nonce item.wallet = true
  unseen : (g.seen item.nonce).1 = false

/-- One signature of the loop. -/
theorem checkSigns_cons (env : RequestEnv) (multisigWallets : List Bytes) (item : MultisigSignItem)
    (rest : List MultisigSignItem) (g : Gate B) :
    (¬ Fine env multisigWallets g item ∧
      ∃ error, checkSigns env multisigWallets (item :: rest) g = (some error, g)) ∨
    (Fine env multisigWallets g item ∧ checkSigns env multisigWallets (item :: rest) g =
      checkSigns env multisigWallets rest (g.record item.nonce)) := by
  rw [checkSigns]
  split
  · rename_i other
    exact Or.inl ⟨fun fine => other fine.listed, _, rfl⟩
  rename_i listed
  split
  · rename_i empty
    exact Or.inl ⟨fun fine => fine.nonce empty, _, rfl⟩
  rename_i nonce
  split
  · rename_i empty
    exact Or.inl ⟨fun fine => fine.sign empty, _, rfl⟩
  rename_i sign
  split
  · rename_i wrong
    refine Or.inl ⟨fun fine => ?_, _, rfl⟩
    rw [fine.verified] at wrong
    cases wrong
  rename_i verified
  rw [Bool.not_eq_false] at verified
  rcases seen_cases nonce g with ⟨ran, _⟩ | ran
  · rw [ran]
    refine Or.inl ⟨fun fine => ?_, _, rfl⟩
    have unseen := fine.unseen
    rw [ran] at unseen
    cases unseen
  · rw [ran]
    exact Or.inr ⟨⟨not_not.mp listed, nonce, sign, verified, by rw [ran]⟩, rfl⟩

theorem checkSigns_passes (env : RequestEnv) (multisigWallets : List Bytes) (signs : List MultisigSignItem)
    (g : Gate B) :
    Passes g (checkSigns env multisigWallets signs g).2 := by
  induction signs generalizing g with
  | nil => exact .refl g
  | cons item rest ih =>
    rcases checkSigns_cons env multisigWallets item rest g with ⟨_, error, ran⟩ | ⟨fine, ran⟩
    · rw [ran]
      exact .refl g
    · rw [ran]
      exact (Passes.record fine.nonce fine.unseen).trans (ih (g.record item.nonce))

/-- The loop ends well when every signature passes, and all the nonces are
recorded then. -/
theorem checkSigns_iff (env : RequestEnv) (multisigWallets : List Bytes) (signs : List MultisigSignItem)
    (g : Gate B) :
    ((checkSigns env multisigWallets signs g).1 = none ↔ ∀ before item after, signs = before ++ item :: after →
      Fine env multisigWallets (g.recordAll before) item) ∧
    ((checkSigns env multisigWallets signs g).1 = none → (checkSigns env multisigWallets signs g).2 =
      g.recordAll signs) := by
  induction signs generalizing g with
  | nil =>
    refine ⟨⟨fun _ before item after split => ?_, fun _ => rfl⟩, fun _ => rfl⟩
    cases before <;> cases split
  | cons item rest ih =>
    rcases checkSigns_cons env multisigWallets item rest g with ⟨wrong, error, ran⟩ | ⟨fine, ran⟩
    · rw [ran]
      refine ⟨⟨fun none => (by cases none), fun all => ?_⟩, fun none => (by cases none)⟩
      exact (wrong (all [] item rest rfl)).elim
    · obtain ⟨later, after⟩ := ih (g.record item.nonce)
      rw [ran]
      refine ⟨?_, after⟩
      rw [later]
      constructor
      · intro all before other behind split
        cases before with
        | nil =>
          cases split
          exact fine
        | cons head before =>
          cases split
          exact all before other behind rfl
      · intro all before other behind split
        refine all (item :: before) other behind ?_
        rw [split]
        rfl

theorem checkMultisigNonce_passes (env : RequestEnv) (multisigWallets : List Bytes) (multisigThreshold : Int)
    (multisigSigns : List MultisigSignItem) (g : Gate B) :
    Passes g (g.checkMultisigNonce env multisigWallets multisigThreshold multisigSigns).2 := by
  have loop := checkSigns_passes env multisigWallets multisigSigns g
  obtain ⟨_, all⟩ := checkSigns_iff env multisigWallets multisigSigns g
  rw [checkMultisigNonce]
  split
  · exact .refl g
  split
  · exact .refl g
  rcases ran : checkSigns env multisigWallets multisigSigns g with ⟨error, after⟩
  rw [ran] at loop all
  cases error with
  | some error => exact loop
  | none =>
    refine loop.trans (.accept ?_)
    intro nonce member
    rw [all rfl, recordAll_recorded]
    exact List.mem_append_left _ (List.mem_reverse.mpr member)

theorem parseWallet_passes (env : RequestEnv) (params : AuthorityParams) (g : Gate B) :
    Passes g (g.parseWallet env params).2 :=
  (checkNonce_passes env params.wallet params.nonce params.sign g).trans (checkMultisigNonce_passes env _ _ _ _)

theorem checkRenter_passes (env : RequestEnv) (chain : ChainView) (params : AuthorityParams) (sessionId : Bytes)
    (g : Gate B) : Passes g (g.checkRenter env chain params sessionId).2 := by
  have parsed := parseWallet_passes env params g
  rw [checkRenter]
  split
  · rw [checkWalletRenter]
    dsimp only
    split
    · exact parsed
    split
    · exact parsed.trans (.createSessionId _ _ _ _)
    split
    · exact parsed.trans (.createSessionId _ _ _ _)
    · exact parsed
  split
  · exact .refl g
  · exact .refl g

theorem checkAuthority_passes (env : RequestEnv) (chain : ChainView) (params : AuthorityParams) (sessionId : Bytes)
    (g : Gate B) : Passes g (g.checkAuthority env chain params sessionId).2 := by
  rw [checkAuthority]
  split
  · exact .refl g
  · have parsed := parseWallet_passes env params g
    rw [checkVerifier]
    dsimp only
    split
    · exact parsed
    split
    · exact parsed
    split
    · exact parsed
    · exact parsed
  · exact .refl g
  · exact checkRenter_passes env chain params sessionId g

theorem onRequest_passes (env : RequestEnv) (chain : ChainView) (sessionId : Bytes) (kind : env.Kind)
    (header : RequestHeader) (body : Bytes) (g : Gate B) :
    Passes g (g.onRequest env chain sessionId kind header body).2 := by
  have checked := checkReqHeaderNonce_passes env header.nonce g
  rw [onRequest]
  dsimp only
  split
  · exact checked
  split
  · exact checked
  split
  · exact checked
  split
  · exact checked
  split
  · exact checked
  · exact checked.trans (checkAuthority_passes env chain _ sessionId _)

theorem onRequest_follows (env : RequestEnv) (chain : ChainView) (sessionId : Bytes) (kind : env.Kind)
    (header : RequestHeader) (body : Bytes) (g : Gate B) :
    Follows g (g.onRequest env chain sessionId kind header body).2 :=
  (onRequest_passes env chain sessionId kind header body g).follows

theorem step_follows {g next : Gate B} {event : GateEvent env} (ran : g.step env event = some next) :
    Follows g next := by
  cases event with
  | headerNonce nonce =>
    cases ran
    exact checkReqHeaderNonce_follows env nonce g
  | nonce wallet nonce sign =>
    cases ran
    exact (checkNonce_passes env wallet nonce sign g).follows
  | multisig multisigWallets multisigThreshold multisigSigns =>
    cases ran
    exact (checkMultisigNonce_passes env multisigWallets multisigThreshold multisigSigns g).follows
  | request chain sessionId kind header body =>
    cases ran
    exact onRequest_follows env chain sessionId kind header body g

theorem run_follows {initial g : Gate B} {trace : List (GateEvent env)} (run : Reaches (step env) initial trace g) :
    Follows initial g :=
  run.invariant (P := Follows initial) (.refl initial) (fun before _ ran => before.trans (step_follows ran))

theorem run_kept {g : Gate B} {trace : List (GateEvent env)} (run : Reaches (step env) fresh trace g) : g.Kept := by
  have first : (fresh : Gate B).Kept := by
    refine ⟨NonceFilter.Logs.fresh, ?_⟩
    intro nonce member
    cases member
  exact (run_follows run).kept first

end Gate

end DbcNode
