import ScriptBridge.Session.Holding
import ScriptBridge.Value.Shown

/-!
# Running the steps of a session

Every step is a run of the bridge from the caller's thread, followed by letting all work run.
-/

namespace ScriptBridge

open Catalogue (Stock)

namespace Session

/-- A step under way: it changes the session, and may never end. -/
abbrev Progress := StateT Session Option

/-- Performs a run of the bridge. -/
def perform {α : Type} (run : Run Stock α) : Progress α := fun session =>
  (Bridge.perform? run session.bridge).map fun (a, bridge) => (a, { session with bridge })

/-- Asks something of the bridge. -/
def ask (request : BridgeCall) : Progress request.Reply := do
  perform (Bridge.answerer (← get).host request)

/-- A channel by name. -/
def channel? (name : String) : Progress (Option NamedChannel) := do
  return (← get).channels.get? name

/-- The binding of a channel, while it has one. -/
def boundOf (session : Session) (id : ChannelId) : Option Bound :=
  (session.bridge.channels.get? id).bind (·.bound)

/-! ## Channels and workers -/

/-- The name under which a worker is kept. -/
def workerKey : Option WorkerChoice → String
  | none => ""
  | some ⟨.queue, label⟩ => "queue:" ++ label
  | some ⟨.thread, label⟩ => "thread:" ++ label

/-- The worker of a choice, made when it is first chosen. -/
def workerFor (choice : Option WorkerChoice) : Progress WorkerId := do
  let key := workerKey choice
  match (← get).workers.get? key with
  | some id => return id
  | none =>
    let ⟨kind, label⟩ := choice.getD ⟨.queue, sharedLabel⟩
    let id ← perform (Bridge.addWorker kind label)
    modify fun session => { session with workers := session.workers.insert key id }
    return id

/-- A channel of some options. -/
def channelFor (options : ChannelOptions) : Progress Channel := do
  let worker ← workerFor options.worker
  return { worker, urlPrefix := options.urlPrefix, traces := options.traces }

/-- The worker of a channel. -/
def workerOf (session : Session) (id : ChannelId) : Option (Worker Task) :=
  (session.bridge.channels.get? id).bind fun channel => session.bridge.workers.get? channel.worker

/-- Keeps the handle that a binding gave, with the channel's name. -/
def noteBinding (name : String) (channel : ChannelId) (handle : Handle) : Progress Unit :=
  modify fun session =>
    { session with
      channels := session.channels.insert name { id := channel, handle := some handle } }

/-- Binds an object to a channel. -/
def bind (name : String) (object : ObjectRef) (place : String) : Progress StepReply := do
  match ← channel? name with
  | none => return .absent
  | some channel =>
    match ← ask (.bind channel.id object place) with
    | .error e => return .failure e
    | .ok handle =>
      noteBinding name channel.id handle
      return .handle handle

/-- Makes a channel and binds an object to it; the channel gets its name only if that succeeds. -/
def load (name : String) (object : ObjectRef) (place : String) (options : ChannelOptions) :
    Progress StepReply := do
  let channel ← channelFor options
  match ← perform (Bridge.load (← get).host channel object place) with
  | .error e => return .failure e
  | .ok handle =>
    noteBinding name handle.channel handle
    return .handle handle

/-! ## Messages -/

/-- The name that an address stands for: for a channel, its last identifier. -/
def nameAt : Address → Progress String
  | .name name => return name
  | .channel name => do
    return (((← channel? name).bind (·.handle)).map (·.identifier)).getD ""

/-- A message of a name and the text of a body. -/
def message (name : String) (body : Option String) : Message := ⟨name, body.bind Json.parse?⟩

/-- Posts a message; says whether it was delivered, which a gate does not tell. -/
def post (address : Address) (body : Option String) : Progress StepReply := do
  let name ← nameAt address
  let session ← get
  if session.setup.gated then
    perform (Gate.post (Bridge.answerer session.host) name body)
    return .nothing
  else
    return .flag (← perform (Bridge.post session.host (message name body)))

/-- Posts a message and waits for its reply. -/
def postSync (address : Address) (body : Option String) : Progress StepReply := do
  let name ← nameAt address
  let session ← get
  if session.setup.gated then
    return .text (← perform (Gate.postSync (Bridge.answerer session.host) name body))
  else
    let reply ← perform (Bridge.postSync? session.host (message name body))
    return .text (reply.getD "undefined")

/-! ## Looking at channels -/

/-- What a channel looks like from outside. -/
def report (session : Session) (channel : NamedChannel) : ChannelReport :=
  let identifier := (channel.handle.map (·.identifier)).getD ""
  { bound := session.boundOf channel.id
    worker := ((session.workerOf channel.id).map (·.label)).getD ""
    handlers :=
      if session.setup.showsHandlers then
        session.bridge.context.map fun context =>
          (context.handlers.size, context.handlers.contains identifier)
      else none }

/-- A channel, its last handle and its worker, in diagnoses. -/
def descriptions (session : Session) (channel : NamedChannel) : StepReply :=
  let worker := session.workerOf channel.id
  let label := (worker.map (·.label)).getD ""
  let (identifier, place) := match session.boundOf channel.id with
    | none => ("None", "")
    | some bound => ("Some(" ++ shown bound.identifier ++ ")", bound.place)
  .descriptions
    ("Channel \x7b identifier: " ++ identifier ++ ", namespace: " ++ shown place ++
      ", affinity: " ++ shown label ++ " \x7d")
    (channel.handle.map fun handle =>
      "ChannelHandle \x7b identifier: " ++ shown handle.identifier ++ ", namespace: " ++
        shown handle.place ++ " \x7d")
    ((worker.map fun worker => Worker.choiceShownAs worker.kind worker.label).getD "")

/-- The type of a channel's principal. -/
def principalType? (session : Session) (name : String) : Option String := do
  let channel ← session.channels.get? name
  let bound ← session.boundOf channel.id
  return (← bound.principal?).object.typeName

/-! ## Instances -/

/-- The reply for the end of a native call that is not made by a worker. -/
def replyOf {α : Type} (toReply : α → StepReply) (ending : Finish (Except BridgeError α)) :
    StepReply :=
  match ending.result with
  | .ok a => toReply a
  | .error e => .failure e

/-- Calls an instance directly. -/
def callInstance (binding : Binding) (call : InstanceCall) : Progress StepReply := do
  let host := (← get).host
  let answer := Bridge.answerer host
  match call with
  | .values => return .values (← perform (binding.values host answer))
  | .get member =>
    return replyOf .value (.returned (← perform (binding.get host answer member)))
  | .set member value =>
    return replyOf (fun _ => .nothing) (← perform (binding.set host answer member value))
  | .invoke member args =>
    return replyOf .value (← perform (binding.invoke host answer member args))

/-- Calls an instance of a channel directly. -/
def onInstance (name : String) (id : Int) (call : InstanceCall) : Progress StepReply := do
  let session ← get
  let binding? := do
    let channel ← session.channels.get? name
    let bound ← session.boundOf channel.id
    bound.instances.get? id
  match binding? with
  | none => return .absent
  | some binding => callInstance binding call

/-! ## Callbacks -/

/-- Completes a callback that a bag keeps. -/
def complete (bag : ObjectRef) (index : Nat) (outcome : Except String Value) :
    Progress StepReply := do
  match ((← get).bag? bag).bind fun bag => bag.kept[index]? with
  | none => return .absent
  | some function =>
    match ← ask (.complete function outcome) with
    | .ok () => return .nothing
    | .error e => return .failure e

/-- The callbacks that bags keep, shown and compared. -/
def keptBy (session : Session) (bags : List ObjectRef) : StepReply :=
  let functions := bags.flatMap fun bag => ((session.bag? bag).map (·.kept)).getD []
  .kept (functions.map Callback.shown)
    (functions.map fun f => functions.map fun g => decide (f = g))

/-! ## Steps -/

/-- Does something with the id of a channel. -/
def withChannel (name : String) (act : NamedChannel → Progress StepReply) : Progress StepReply := do
  match ← channel? name with
  | none => return .absent
  | some channel => act channel

/-- Changes a bag. -/
def changeBag (bag : ObjectRef) (f : Catalogue.Bag → Catalogue.Bag) : Progress StepReply := do
  modify fun session => session.changeStock fun stock => stock.changeBag bag f
  return .nothing

/-- Changes the context. -/
def changeContext (f : Context → Context) : Progress StepReply := do
  perform (Run.changeContext f)
  return .nothing

/-- Runs a script file. -/
def runFile (path : String) : Progress StepReply := do
  let session ← get
  let octets := (session.bridge.native.tree.read path).toOption
  match ← perform (Bridge.runFile session.host octets) with
  | .ok () => return .done
  | .error e => return .fileFailure e

/-- Does what a step says. -/
def act (showIdentity : Nat → String) : Step → Progress StepReply
  | .object name object => do
    modify (·.nameObject name object)
    return .text object.typeName
  | .store bag key value =>
    changeBag bag fun bag => { bag with table := bag.table.insert key value }
  | .attach bag channel =>
    withChannel channel fun channel =>
      changeBag bag fun bag => { bag with attached := some channel.id }
  | .channel name options => do
    let channel ← channelFor options
    let id ← perform (Bridge.addChannel channel)
    modify fun session => { session with channels := session.channels.insert name { id } }
    return .text ((((← get).workerOf id).map (·.label)).getD "")
  | .bind channel object place => bind channel object place
  | .load name object place options => load name object place options
  | .unbind channel =>
    withChannel channel fun channel => do
      ask (.unbind channel.id)
      return .nothing
  | .post address body => post address body
  | .postSync address body => postSync address body
  | .dispatch channel name body =>
    withChannel channel fun channel => do
      ask (.dispatch channel.id (message name body))
      return .nothing
  | .dispatchSync channel name body =>
    withChannel channel fun channel => do
      return .text (← ask (.dispatchSync channel.id (message name body)))
  | .serialize channel value =>
    withChannel channel fun channel => do return .text (← ask (.serialize channel.id value))
  | .state channel => withChannel channel fun channel => do return .report ((← get).report channel)
  | .debug channel => withChannel channel fun channel => do return (← get).descriptions channel
  | .sameSurface channel other => do
    let session ← get
    match session.principalType? channel, session.principalType? other with
    | some a, some b => return .flag (a = b)
    | _, _ => return .nothing
  | .onInstance channel id call => onInstance channel id call
  | .complete bag index outcome => complete bag index outcome
  | .inspect bag => do
    match (← get).bag? bag with
    | none => return .absent
    | some bag => return .bag bag
  | .showValue value => return .text (value.shown showIdentity)
  | .kept bags => do return (← get).keptBy bags
  | .onRead bag intervention => changeBag bag fun bag => { bag with onRead := some intervention }
  | .onInit intervention => do
    modify fun session =>
      session.changeStock fun stock => { stock with onInit := some intervention }
    return .nothing
  | .shelfHolds object path => do
    return .flag ((Stock.shelfStore object).holds (← get).bridge.native path)
  | .runFile path => runFile path
  | .reject on =>
    changeContext fun context => { context with injection := if on then .reject else .accept }
  | .release => do
    perform Bridge.release
    return .nothing

/-- The live instances of each channel. -/
def ids (session : Session) : List (String × Option (List Int)) :=
  session.channels.entries.map fun (name, channel) =>
    (name, (session.boundOf channel.id).map fun bound => bound.instances.keys)

/-- Forgets what earlier steps left behind. -/
def clear (session : Session) : Session :=
  let bridge := session.bridge
  { session with
    bridge := { bridge with
      log := []
      native := { bridge.native with journal := [] }
      context := bridge.context.map fun context =>
        { context with injected := [], evaluated := [] } } }

/-- Does what a step says, lets all work run, lets go of the channels that nothing holds and
collects what was left behind. -/
def run? (showIdentity : Nat → String) (step : Step) (session : Session) :
    Option (StepAnswer × Session) := do
  let (reply, session) ← act showIdentity step session.clear
  let ((), session) ← perform (Bridge.settled session.host) session
  let session := session.release
  let bridge := session.bridge
  return ({
    reply
    ids := session.ids
    injected := (bridge.context.map (·.injected)).getD []
    evaluated := (bridge.context.map (·.evaluated)).getD []
    log := bridge.log
    journal := bridge.native.journal }, session)

end Session

end ScriptBridge
