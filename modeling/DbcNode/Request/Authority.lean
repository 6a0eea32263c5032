import DbcNode.Lib.OrdMap
import DbcNode.Message
import DbcNode.NonceFilter

namespace DbcNode

structure MultisigSignItem where
  wallet : Bytes
  nonce : Bytes
  sign : Bytes
  deriving DecidableEq

structure AuthorityParams where
  wallet : Bytes
  nonce : Bytes
  sign : Bytes
  multisigWallets : List Bytes
  multisigThreshold : Int
  multisigSigns : List MultisigSignItem
  sessionId : Bytes
  sessionIdSign : Bytes
  deriving DecidableEq

inductive MachineStatus
  | unknown
  | verify
  | online
  | rented
  deriving DecidableEq, Repr

inductive UserRole
  | unknown
  | verifier
  | walletRenter
  | sessionIdRenter
  deriving DecidableEq, Repr

structure AuthoriseResult where
  success : Bool
  errmsg : String
  machineStatus : MachineStatus
  userRole : UserRole
  rentWallet : Bytes
  rentEnd : Int
  deriving DecidableEq

/-- What a request makes the task manager do before it is decided. -/
inductive CheckTaskOrder
  | deleteOther (wallet : Bytes)
  | deleteAll
  deriving DecidableEq

structure WalletSessionId where
  rentWallet : Bytes
  sessionId : Bytes
  multisigSigners : List Bytes
  deriving DecidableEq

/-- What the chain answers while a request is checked. -/
structure ChainView where
  machineStatus : MachineStatus
  inVerifyTime : Bytes → Bool
  rentEnd : Bytes → Int

/-- A class that the handler of a request reads a body as. -/
structure RequestData where
  peerNodesList : List Bytes
  params : AuthorityParams
  deriving DecidableEq

/-- The signatures, the keys and the bodies: `opens` decrypts a body with a
public key and reads it as the class of the handler. -/
structure RequestEnv where
  Kind : Type
  nodeId : Bytes
  privKey : Bytes
  checkId : Bytes → Bool
  verifySign : Bytes → Bytes → Bytes → Bool
  createMultisigAccount : Bytes → Int → Option Bytes
  opens : Kind → Bytes → Bytes → Option RequestData

/-- The state of `node_request_service` and of the session ids. `recorded`
are the nonces that went into the filter, the last one first, and `accepted`
those of the checks that succeeded. -/
structure Gate (B : Bloom) where
  nonceFilter : NonceFilter B
  walletSessionId : OrdMap Bytes WalletSessionId
  sessionIdWallet : OrdMap Bytes WalletSessionId
  recorded : List Bytes
  accepted : List Bytes

namespace Gate
variable {B : Bloom} (env : RequestEnv)

def fresh : Gate B := ⟨NonceFilter.fresh, OrdMap.empty, OrdMap.empty, [], []⟩

/-- `m_nonce_filter.contains`. -/
def seen (nonce : Bytes) (g : Gate B) : Bool × Gate B :=
  let (known, nonceFilter) := g.nonceFilter.contains nonce
  (known, { g with
    nonceFilter
    recorded := if known ∨ nonce = [] then g.recorded else nonce :: g.recorded })

def accept (nonces : List Bytes) (g : Gate B) : Gate B := { g with accepted := nonces ++ g.accepted }

def checkReqHeaderNonce (nonce : Bytes) (g : Gate B) : Bool × Gate B :=
  if nonce = [] then (false, g)
  else if env.checkId nonce = false then (false, g)
  else
    let (known, g) := g.seen nonce
    if known then (false, g) else (true, g.accept [nonce])

/-- The error text of a check, or nothing where it succeeds. -/
def checkNonce (wallet nonce sign : Bytes) (g : Gate B) : Option Bytes × Gate B :=
  if wallet = [] then (some (str "wallet is empty"), g)
  else if nonce = [] then (some (str "nonce is empty"), g)
  else if sign = [] then (some (str "sign is empty"), g)
  else if env.verifySign sign nonce wallet = false then (some (str "verify sign failed"), g)
  else
    let (known, g) := g.seen nonce
    if known then (some (str "nonce is already exist"), g) else (none, g.accept [nonce])

/-- The loop over the signatures of a multisig. -/
def checkSigns (multisigWallets : List Bytes) : List MultisigSignItem → Gate B → Option Bytes × Gate B
  | [], g => (none, g)
  | item :: rest, g =>
    if item.wallet ∉ multisigWallets then
      (some (str "multisig sign_wallet " ++ item.wallet ++ str " not found in wallets"), g)
    else if item.nonce = [] then (some (str "multisig nonce is empty"), g)
    else if item.sign = [] then (some (str "multisig sign is empty"), g)
    else if env.verifySign item.sign item.nonce item.wallet = false then
      (some (str "verify multisig sign failed"), g)
    else
      let (known, g) := g.seen item.nonce
      if known then (some (str "multisig nonce is already exist"), g) else checkSigns multisigWallets rest g

/-- `check_nonce` of a multisig. -/
def checkMultisigNonce (multisigWallets : List Bytes) (multisigThreshold : Int)
    (multisigSigns : List MultisigSignItem) (g : Gate B) : Option Bytes × Gate B :=
  if multisigWallets = [] ∨ multisigSigns = [] ∨ multisigThreshold ≤ 0 then
    (some (str "multisig wallet is emtpty"), g)
  else if multisigThreshold > multisigWallets.length ∨ multisigThreshold > multisigSigns.length then
    (some (str "threshold is invalid"), g)
  else match checkSigns env multisigWallets multisigSigns g with
    | (none, g) => (none, g.accept (multisigSigns.map (·.nonce)))
    | (some error, g) => (some error, g)

/-- Both checks are made. The wallet of one that fails is empty, and so is
that of a multisig whose account cannot be made. -/
def parseWallet (params : AuthorityParams) (g : Gate B) : (Bytes × Bytes) × Gate B :=
  let (ret1, g) := checkNonce env params.wallet params.nonce params.sign g
  let (ret2, g) := checkMultisigNonce env params.multisigWallets params.multisigThreshold params.multisigSigns g
  let wallet := if ret1 = none then params.wallet else []
  let multisigWallet := if ret2 = none then
      (env.createMultisigAccount ((params.multisigWallets.intersperse (str ",")).flatten)
        params.multisigThreshold).getD []
    else []
  ((wallet, multisigWallet), g)

/-- A wallet keeps the session id that it has. -/
def createSessionId (wallet : Bytes) (multisigSigners : List Bytes) (sessionId : Bytes) (g : Gate B) : Gate B :=
  match g.walletSessionId.find wallet with
  | some _ => g
  | none =>
    let session : WalletSessionId := ⟨wallet, sessionId, multisigSigners⟩
    { g with
      walletSessionId := g.walletSessionId.insert wallet session
      sessionIdWallet := g.sessionIdWallet.insert sessionId session }

/-- The wallet of a session id that it, or one of its signers, has
signed. -/
def checkSessionId (sessionId sessionIdSign : Bytes) (g : Gate B) : Bytes :=
  if sessionId = [] ∨ sessionIdSign = [] then []
  else match g.sessionIdWallet.find sessionId with
    | none => []
    | some session =>
      if env.verifySign sessionIdSign sessionId session.rentWallet then session.rentWallet
      else if session.multisigSigners.any (env.verifySign sessionIdSign sessionId) then session.rentWallet
      else []

/-- A machine that is being verified. The result comes with what the task
manager is told. -/
def checkVerifier (chain : ChainView) (params : AuthorityParams) (g : Gate B) :
    (AuthoriseResult × List CheckTaskOrder) × Gate B :=
  let ((wallet, multisigWallet), g) := g.parseWallet env params
  if wallet = [] ∧ multisigWallet = [] then ((⟨false, "nonce check failed", .verify, .unknown, [], 0⟩, []), g)
  else if multisigWallet ≠ [] ∧ chain.inVerifyTime multisigWallet then
    ((⟨true, "", .verify, .verifier, multisigWallet, 0⟩, [.deleteOther multisigWallet]), g)
  else if wallet ≠ [] ∧ chain.inVerifyTime wallet then
    ((⟨true, if multisigWallet ≠ [] then "not in verify time" else "", .verify, .verifier, wallet, 0⟩,
      [.deleteOther wallet]), g)
  else ((⟨false, "not in verify time", .verify, .unknown, [], 0⟩, []), g)

/-- A request of a renter without a session. -/
def checkWalletRenter (chain : ChainView) (params : AuthorityParams) (sessionId : Bytes) (g : Gate B) :
    AuthoriseResult × Gate B :=
  let ((wallet, multisigWallet), g) := g.parseWallet env params
  if wallet = [] ∧ multisigWallet = [] then
    (⟨false, if params.sessionId ≠ [] ∧
      params.sessionIdSign ≠ [] then "session_id is invalid" else "nonce check failed",
      .rented, .unknown, [], 0⟩, g)
  else if multisigWallet ≠ [] ∧ chain.rentEnd multisigWallet > 0 then
    (⟨true, "", .rented, .walletRenter, multisigWallet, chain.rentEnd multisigWallet⟩,
      g.createSessionId multisigWallet params.multisigWallets sessionId)
  else if wallet ≠ [] ∧ chain.rentEnd wallet > 0 then
    (⟨true, if multisigWallet ≠ [] then "wallet not rented" else "", .rented, .walletRenter, wallet,
      chain.rentEnd wallet⟩, g.createSessionId wallet [] sessionId)
  else (⟨false, "wallet not rented", .rented, .unknown, [], 0⟩, g)

/-- A session id that is right stands for a signature of its wallet. -/
def checkRenter (chain : ChainView) (params : AuthorityParams) (sessionId : Bytes) (g : Gate B) :
    AuthoriseResult × Gate B :=
  let rentWallet := g.checkSessionId env params.sessionId params.sessionIdSign
  if rentWallet = [] then g.checkWalletRenter env chain params sessionId
  else if chain.rentEnd rentWallet > 0 then
    (⟨true, "", .rented, .sessionIdRenter, rentWallet, chain.rentEnd rentWallet⟩, g)
  else (⟨false, "machine has already expired", .rented, .unknown, [], 0⟩, g)

/-- `sessionId` is the one that would be made. -/
def checkAuthority (chain : ChainView) (params : AuthorityParams) (sessionId : Bytes) (g : Gate B) :
    (AuthoriseResult × List CheckTaskOrder) × Gate B :=
  match chain.machineStatus with
  | .unknown => ((⟨false, "query machine_status failed", .unknown, .unknown, [], 0⟩, []), g)
  | .verify => g.checkVerifier env chain params
  | .online => ((⟨false, "machine is not be rented", .online, .unknown, [], 0⟩, [.deleteAll]), g)
  | .rented =>
    let (result, g) := g.checkRenter env chain params sessionId
    ((result, [.deleteAll]), g)

end Gate

/-- What a request handler looks at in a header. -/
structure RequestHeader where
  nonce : Bytes
  sessionId : Bytes
  pubKey : Option Bytes
  deriving DecidableEq

namespace Gate
variable {B : Bloom} (env : RequestEnv)

def checkReqHeader (header : RequestHeader) : Bool :=
  header.sessionId ≠ [] ∧ env.checkId header.sessionId ∧ header.pubKey.isSome

/-- The handler of a request on a compute node, up to the point where it is
executed. There is no result where the request is refused or passed on
before that. -/
def onRequest (chain : ChainView) (sessionId : Bytes) (kind : env.Kind) (header : RequestHeader) (body : Bytes)
    (g : Gate B) : Option (AuthoriseResult × List CheckTaskOrder) × Gate B :=
  let (good, g) := g.checkReqHeaderNonce env header.nonce
  if good = false then (none, g)
  else if checkReqHeader env header = false then (none, g)
  else if header.pubKey.getD [] = [] ∨ env.privKey = [] then (none, g)
  else match env.opens kind (header.pubKey.getD []) body with
    | none => (none, g)
    | some data =>
      if env.nodeId ∉ data.peerNodesList then (none, g)
      else
        let (result, g) := g.checkAuthority env chain data.params sessionId
        (some result, g)

end Gate

/-- What happens to the gate: the checks that handlers make, alone or as a
request. -/
inductive GateEvent (env : RequestEnv)
  | headerNonce (nonce : Bytes)
  | nonce (wallet nonce sign : Bytes)
  | multisig (multisigWallets : List Bytes) (multisigThreshold : Int) (multisigSigns : List MultisigSignItem)
  | request (chain : ChainView) (sessionId : Bytes) (kind : env.Kind) (header : RequestHeader) (body : Bytes)

def Gate.step {B : Bloom} (env : RequestEnv) (g : Gate B) : GateEvent env → Option (Gate B)
  | .headerNonce nonce => some (g.checkReqHeaderNonce env nonce).2
  | .nonce wallet nonce sign => some (g.checkNonce env wallet nonce sign).2
  | .multisig multisigWallets multisigThreshold multisigSigns =>
    some (g.checkMultisigNonce env multisigWallets multisigThreshold multisigSigns).2
  | .request chain sessionId kind header body => some (g.onRequest env chain sessionId kind header body).2

end DbcNode
