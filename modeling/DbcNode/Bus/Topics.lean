import DbcNode.Lib.Runs
import DbcNode.Message

namespace DbcNode

/-- The types of callables that the bus is used with:
`std::function<void()>` and
`std::function<void(std::shared_ptr<network::message>&)>`. -/
inductive FunctionType
  | nullary
  | message
  deriving DecidableEq, Repr

/-- `typeid(function_type).name()`. -/
def FunctionType.typeName : FunctionType → Bytes
  | .nullary => str "St8functionIFvvEE"
  | .message => str "St8functionIFvRSt10shared_ptrIN7network7messageEEEE"

/-- A callback of a module, held as `boost::any`. -/
structure Callback where
  owner : Nat
  functionType : FunctionType
  deriving DecidableEq, Repr

def msgType (topic : Bytes) (functionType : FunctionType) : Bytes := topic ++ functionType.typeName

/-- `topic_manager` by its registry, and the topics that each module has an
invoker for. -/
structure TopicBus where
  registry : List (Bytes × Callback)
  msgInvokers : Nat → List Bytes

inductive BusEvent
  /-- A module's own call of `subscribe`, as for the ticks of the clock. -/
  | subscribe (owner : Nat) (topic : Bytes) (functionType : FunctionType)
  | unsubscribe (owner : Nat) (topic : Bytes) (functionType : FunctionType)
  /-- `handle` tells whether a handle is given. -/
  | regMsgHandle (owner : Nat) (msgname : Bytes) (handle : Bool)
  | unregMsgHandle (owner : Nat) (msgname : Bytes)
  /-- Also what is left of `exit` for the bus. -/
  | removeAllMsgHandle (owner : Nat)
  deriving DecidableEq, Repr

namespace TopicBus

def empty : TopicBus := ⟨[], fun _ => []⟩

/-- Entries under one key stay in the order of their insertion. -/
def subscribe (owner : Nat) (topic : Bytes) (functionType : FunctionType) (bus : TopicBus) : TopicBus :=
  { bus with registry := bus.registry ++ [(msgType topic functionType, ⟨owner, functionType⟩)] }

/-- The owners of the callbacks that a publication calls. The cast of one
that has another type throws. -/
def publish (topic : Bytes) (functionType : FunctionType) (bus : TopicBus) : Option (List Nat) :=
  (bus.registry.filter (·.1 = msgType topic functionType)).mapM fun entry =>
    if entry.2.functionType = functionType then some entry.2.owner else none

def unsubscribe (topic : Bytes) (functionType : FunctionType) (bus : TopicBus) : TopicBus :=
  { bus with registry := bus.registry.filter (·.1 ≠ msgType topic functionType) }

def setInvokers (owner : Nat) (topics : List Bytes) (bus : TopicBus) : TopicBus :=
  { bus with msgInvokers := Function.update bus.msgInvokers owner topics }

def regMsgHandle (owner : Nat) (msgname : Bytes) (handle : Bool) (bus : TopicBus) : TopicBus :=
  if handle then
    (bus.setInvokers owner ((bus.msgInvokers owner).filter (· ≠ msgname) ++ [msgname])).subscribe owner
      msgname .message
  else bus

/-- `unsubscribe<void>` names the type of a callable without arguments. -/
def unregMsgHandle (owner : Nat) (msgname : Bytes) (bus : TopicBus) : TopicBus :=
  (bus.setInvokers owner ((bus.msgInvokers owner).filter (· ≠ msgname))).unsubscribe msgname .nullary

def removeAllMsgHandle (owner : Nat) (bus : TopicBus) : TopicBus :=
  ((bus.msgInvokers owner).foldl (fun bus msgname => bus.unsubscribe msgname .nullary) bus).setInvokers owner []

def step (bus : TopicBus) : BusEvent → TopicBus
  | .subscribe owner topic functionType => bus.subscribe owner topic functionType
  | .unsubscribe _ topic functionType => bus.unsubscribe topic functionType
  | .regMsgHandle owner msgname handle => bus.regMsgHandle owner msgname handle
  | .unregMsgHandle owner msgname => bus.unregMsgHandle owner msgname
  | .removeAllMsgHandle owner => bus.removeAllMsgHandle owner

end TopicBus

/-- What the calls mean: a subscription holds from the call that makes it to
the call of its owner that ends it. -/
structure Subscription where
  owner : Nat
  topic : Bytes
  functionType : FunctionType
  deriving DecidableEq, Repr

/-- The bus, and the subscriptions that the calls so far have made and not
ended. -/
structure BusHistory where
  bus : TopicBus
  current : List Subscription

/-- The subscriptions that a call of its owner ends. -/
def TopicBus.ends (bus : TopicBus) (subscription : Subscription) : BusEvent → Bool
  | .unsubscribe owner topic functionType => subscription = ⟨owner, topic, functionType⟩
  | .unregMsgHandle owner msgname => subscription = ⟨owner, msgname, .message⟩
  | .removeAllMsgHandle owner =>
    subscription.owner = owner ∧ subscription.functionType = .message ∧ subscription.topic ∈ bus.msgInvokers owner
  | _ => false

def BusEvent.begins : BusEvent → List Subscription
  | .subscribe owner topic functionType => [⟨owner, topic, functionType⟩]
  | .regMsgHandle owner msgname true => [⟨owner, msgname, .message⟩]
  | _ => []

def Subscription.entry (subscription : Subscription) : Bytes × Callback :=
  (msgType subscription.topic subscription.functionType, ⟨subscription.owner, subscription.functionType⟩)

namespace BusHistory

def start : BusHistory := ⟨.empty, []⟩

def step (s : BusHistory) (event : BusEvent) : Option BusHistory :=
  some ⟨s.bus.step event, s.current.filter (!s.bus.ends · event) ++ event.begins⟩

/-- The owners of the current subscriptions to a topic. -/
def subscribers (s : BusHistory) (topic : Bytes) (functionType : FunctionType) : List Nat :=
  (s.current.filter fun sub => sub.topic = topic ∧ sub.functionType = functionType).map (·.owner)

/-- A publication calls the callbacks of the current subscriptions, and no
other. -/
def Exact (s : BusHistory) : Prop :=
  ∀ topic functionType, s.bus.publish topic functionType = some (s.subscribers topic functionType)

/-- The owner has no message handler for this topic, and there is no
callback without arguments for it. -/
def Idle (s : BusHistory) (owner : Nat) (topic : Bytes) : Prop :=
  owner ∉ s.subscribers topic .message ∧ s.subscribers topic .nullary = []

/-- A call ends nothing where it names the wrong type, and everything under
a key where it names the right one. -/
def Harmless (s : BusHistory) : BusEvent → Prop
  | .unsubscribe owner topic functionType => ∀ other ∈ s.subscribers topic functionType, other = owner
  | .unregMsgHandle owner msgname => s.Idle owner msgname
  | .removeAllMsgHandle owner => ∀ msgname ∈ s.bus.msgInvokers owner, s.Idle owner msgname
  | _ => True

end BusHistory

end DbcNode
