import ScriptBridge.Proofs.Runs.Members

/-!
# Handing calls to a worker, later and at once

How a channel takes a message leaves one thing open: what it means that a call is handed to the
worker. `Handing` is that meaning, and the functions that take messages are written here once more
with the meaning as a parameter. With the queue of the worker for it they are the functions of the
bridge, by definition.

## The reference

With `Handing.atOnce` for it, a call that is handed in runs on the spot, on the thread of the
worker, and there is no queue. That is the reference interpreter: what a message asks of native code
has been done when the message has been taken.

## The schedule

Which calls a worker has already run is not up to the one who posts. `Handing.lagging` lets the
worker run some calls between the moment in which the target of a message is looked up and the
moment in which the call is handed in; between two messages it may run some, too. Nothing else that
a post does can be interleaved with a call: as long as calls wait, a post runs no native code.
-/

namespace ScriptBridge

variable {σ α : Type}

/-! ## Meanings of handing in -/

/-- What it means to hand a call to a worker. -/
structure Handing (σ : Type) where
  /-- Hands in a call that nobody waits for. -/
  submit : WorkerId → Task → Run σ Unit
  /-- Hands in work and waits for it. -/
  sync : {α : Type} → WorkerId → Run σ α → Run σ (Except BridgeError α)

namespace Run

/-- Work on the thread of a worker. -/
def entering (w : WorkerId) (work : Run σ α) : Run σ α := do
  within ((← read).enter w) work

/-- A worker runs some of the calls that wait for it. -/
def advances (host : Host σ) (answer : Answerer σ) (w : WorkerId) : Nat → Run σ Unit
  | 0 => return
  | n + 1 => do
    advance host answer w
    advances host answer w n

end Run

namespace Handing

variable (host : Host σ) (answer : Answerer σ)

/-- Calls are put into the queue of the worker. -/
def queued : Handing σ where
  submit := Run.submit
  sync := Run.sync host answer

/-- Calls are put into the queue of the worker, which runs some of the earlier ones before. -/
def lagging (n : Nat) : Handing σ where
  submit w task := do
    Run.advances host answer w n
    Run.submit w task
  sync w work := do
    Run.advances host answer w n
    Run.sync host answer w work

/-- Calls run when they are handed in. -/
def atOnce : Handing σ where
  submit w task := Run.entering w (task.run host answer)
  sync w work := do return .ok (← Run.entering w work)

theorem lagging_zero : lagging host answer 0 = queued host answer := rfl

/-! ## Taking messages -/

variable (hand : Handing σ) (patience : Nat)

/-- Hands a message that is no request to the principal, if it takes such. -/
def forward (id : ChannelId) (message : Message) : Run σ Bool := do
  let bridge ← get
  match bridge.channels.get? id with
  | none => return false
  | some channel =>
    match channel.bound.bind (·.principal?) with
    | none => return false
    | some principal =>
      if (host.hooks bridge.native principal.object).takesRaw then
        hand.submit channel.worker (.receive principal.object message)
        return true
      else return false

/-- Makes an instance at an id of the script's choice. -/
def create (id : ChannelId) (worker : WorkerId) (request : Request) :
    Run σ (Except BridgeError Unit) := do
  if request.target ≤ 0 then return .error (Malformation.createAt request.target).error
  else
    match ← Run.bound? id with
    | none => return .error (.unknownInstance 0)
    | some bound =>
      match bound.principal? with
      | none => return .error (.unknownInstance 0)
      | some principal =>
        let place := bound.placeOf request.target
        let args := Value.argumentsOf request.operand
        let made ← hand.sync worker (host.make answer principal.object.typeName args)
        match made.bind Finish.result with
        | .error e => return .error e
        | .ok object =>
          match ← Run.bound? id with
          | none => return .error (.unknownInstance 0)
          | some bound =>
            let (bound, previous) := bound.put request.target ⟨place, object⟩
            Run.setBound id (some bound)
            if previous.isSome then
              Run.say .warn "instance id reused; previous instance replaced"
            Run.say .info "instance bound"
            return .ok ()

/-- Reaches a member of an instance. -/
def reach (id : ChannelId) (worker : WorkerId) (binding : Binding) (name : String)
    (operand : Option Json) (waits : Bool) : Run σ (Except BridgeError (Option Value)) := do
  match (host.surfaceOf binding.object).member? name with
  | some (.property _) =>
    hand.submit worker (.set binding name (Value.ofOperand operand))
    return .ok none
  | some (.method _ _) =>
    let args := ChannelId.attach id (Value.argumentsOf operand)
    if waits then
      let outcome ← hand.sync worker (binding.invoke host answer name args)
      return (outcome.bind Finish.result).map some
    else
      hand.submit worker (.invoke binding name args)
      return .ok none
  | _ => return .error (.unknownMember name)

/-- Does what a request asks. -/
def serve (id : ChannelId) (worker : WorkerId) (message : Message) (request : Request)
    (waits : Bool) : Run σ (Except BridgeError (Option Value)) := do
  let opcode := Opcode.ofString request.opcode
  if opcode = .create then
    return (← create host answer hand id worker request).map fun _ => none
  else
    match (← Run.bound? id).bind fun bound => bound.instances.get? request.target with
    | none =>
      if ← forward host hand id message then return .ok none
      else return .error (.unknownInstance request.target)
    | some binding =>
      match opcode with
      | .member name => reach host answer hand id worker binding name request.operand waits
      | _ =>
        ChannelId.dispose id request.target
        return .ok none

/-- Serves a message as a request, or forwards it as it is. -/
def understand (id : ChannelId) (worker : WorkerId) (message : Message) (waits : Bool) :
    Run σ (Except BridgeError (Option Value)) := do
  match message.request? with
  | .ok request => serve host answer hand id worker message request waits
  | .error malformation =>
    let e := malformation.error
    if message.body.isNone then return .error e
    else if ← forward host hand id message then
      Run.say .trace (e.message ++ "; forwarded as raw message")
      return .ok none
    else return .error e

/-- Takes a message on the worker of the channel, if there is such a channel. -/
def handle (id : ChannelId) (message : Message) (waits : Bool) :
    Run σ (Except BridgeError (Option Value)) := do
  match (← get).channels.get? id with
  | none => return .ok none
  | some channel =>
    if channel.traces then Run.say .debug "message received"
    understand host answer hand id channel.worker message waits

/-- Takes a message that nobody waits for. -/
def dispatch (id : ChannelId) (message : Message) : Run σ Unit := do
  match ← handle host answer hand id message false with
  | .ok _ => return
  | .error e => ChannelId.report e

/-- Takes a message that waits for what it asks. -/
def ask (id : ChannelId) (message : Message) : Run σ (Except BridgeError (Option Value)) := do
  match ← handle host answer hand id message true with
  | .ok value => return .ok value
  | .error e =>
    ChannelId.report e
    return if e.surfaces then .error e else .ok none

/-- Takes a message and answers it with an expression. -/
def dispatchSync (id : ChannelId) (message : Message) : Run σ String := do
  match ← ask host answer hand id message with
  | .ok (some value) => return (← ChannelId.expression host answer patience id value).text
  | .ok none => return "undefined"
  | .error e => return ChannelId.throwing e.message

/-- **By way of the queue, messages are taken as the bridge takes them.** -/
theorem dispatch_queued (id : ChannelId) (message : Message) :
    dispatch host answer (queued host answer) id message =
      ChannelId.dispatch host answer id message := rfl

theorem dispatchSync_queued (id : ChannelId) (message : Message) :
    dispatchSync host answer (queued host answer) patience id message =
      ChannelId.dispatchSync host answer patience id message := rfl

end Handing

/-! ## Posting messages -/

/-- A message that is posted to a channel, and how much the worker does around it. -/
structure Post where
  message : Message
  /-- Whether it is posted by the synchronous path. -/
  waits : Bool
  /-- How many calls the worker gets to run before the message is looked at. -/
  before : Nat := 0
  /-- How many more it gets to run before what the message asks is handed in. -/
  meanwhile : Nat := 0

namespace Post

variable (host : Host σ) (answer : Answerer σ) (patience : Nat) (id : ChannelId)

/-- Takes the message of a post; gives the reply if the post waits for one. -/
def take (hand : Handing σ) (post : Post) : Run σ (Option String) := do
  if post.waits then
    return some (← hand.dispatchSync host answer patience id post.message)
  else
    hand.dispatch host answer id post.message
    return none

/-- Messages are posted one after the other, while the worker runs what waits at its own pace. -/
def takeAll (w : WorkerId) : List Post → Run σ (List (Option String))
  | [] => return []
  | post :: posts => do
    Run.advances host answer w post.before
    let reply ← post.take host answer patience id (.lagging host answer post.meanwhile)
    let replies ← takeAll w posts
    return reply :: replies

/-- Messages are posted one after the other, and what each asks of native code is done at once. -/
def takeAllAtOnce : List Post → Run σ (List (Option String))
  | [] => return []
  | post :: posts => do
    let reply ← post.take host answer patience id (.atOnce host answer)
    let replies ← takeAllAtOnce posts
    return reply :: replies

end Post

end ScriptBridge
