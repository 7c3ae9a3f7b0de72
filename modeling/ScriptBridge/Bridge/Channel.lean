import ScriptBridge.Bridge.Engine

/-!
# What channels do

Binding and unbinding, messages, and values on their way to scripts. Native code runs
here in two ways. Methods, setters, initializers and raw handlers run on the channel's worker.
Getters run where the stub that shows them is made, with the tables in the state they are in; they
may change them by calling the bridge, so the tables are looked up again after each.

Everything takes the meaning of calls of the bridge as a parameter, because native code may make
such calls while a channel is at work. Making stubs may go on for ever, each getter giving objects
that need stubs of their own; `patience` bounds how many are made.
-/

namespace ScriptBridge

namespace ChannelId

variable {σ : Type} (host : Host σ) (answer : Answerer σ) (patience : Nat)

/-! ## Values on their way to scripts -/

/-- Makes the source that installs an object, while the channel is bound. -/
def stub? (id : ChannelId) (engine : EngineLiterals) (target : StubTarget) (binding : Binding)
    (values : List (String × Value)) : Run σ (Option Source) := do
  let bridge ← get
  match bridge.channels.get? id with
  | none => return none
  | some channel =>
    match channel.bound with
    | none => return none
    | some bound =>
      let object := binding.object
      let (source, bound') := Bound.stubFor engine channel.urlPrefix (host.surfaceOf object)
        (host.hooks bridge.native object) target binding.place values bound
      Run.setBound id (some bound')
      Run.sayAll (referenceLines (bound.allocatedSince bound'))
      return some source

/-- Makes the sources of all pending objects, oldest first, and of those that become pending in the
course of it. -/
def drain (id : ChannelId) (engine : EngineLiterals) : Nat → Run σ (List Source)
  | 0 => Run.stuck
  | patience + 1 => do
    match ← Run.bound? id with
    | none => return []
    | some bound =>
      match bound.pending with
      | [] => return []
      | next :: rest =>
        Run.setBound id (some { bound with pending := rest })
        let values ← next.binding.values host answer
        match ← stub? host id engine (.reference next.owner next.id) next.binding values with
        | none => return []
        | some source =>
          let sources ← drain id engine patience
          return source :: sources

/-- An expression of the script language: what it installs first, and the literal that it yields. -/
structure Expression where
  sources : List Source
  literal : String

/-- The text of an expression. -/
def Expression.text (expression : Expression) : String :=
  if expression.sources.isEmpty then expression.literal
  else
    "(function() \x7b\n" ++
      String.join (expression.sources.map fun source => source.text ++ "\n") ++
      "return " ++ expression.literal ++ ";\n\x7d)()"

/-- The literal of a value. Objects are referred to while the channel is bound. -/
def literal (id : ChannelId) (engine : EngineLiterals) (value : Value) : Run σ String := do
  match ← Run.bound? id with
  | none => return value.literalFor engine
  | some bound =>
    let (text, bound') := Bound.literal engine value bound
    Run.setBound id (some bound')
    Run.sayAll (referenceLines (bound.allocatedSince bound'))
    return text

/-- A script expression for a value, which installs the objects that cross for the first time. -/
def expression (id : ChannelId) (value : Value) : Run σ Expression := do
  let engine ← Run.engineLiterals
  let literal ← literal id engine value
  let sources ← drain host answer id engine patience
  return { sources, literal }

/-! ## Binding and unbinding -/

/-- Ends the binding of a channel; an unbound channel stays as it is. -/
def unbind (id : ChannelId) : Run σ Unit := do
  match ← Run.bound? id with
  | none => return
  | some bound =>
    Run.setBound id none
    Run.changeContext fun context =>
      { context with handlers := context.handlers.erase bound.identifier }
    Run.say .info "plugin unbound"

/-- The identifier an object declares, or a drawn one. -/
def identifierFor (object : ObjectRef) : Run σ String := do
  let bridge ← get
  match (host.hooks bridge.native object).identifier with
  | some identifier => return identifier
  | none =>
    let drawn := bridge.drawn + 1
    set { bridge with drawn }
    return host.draw drawn

/-- Injects text into the context, unless the context refuses it. -/
def inject (source : Source) : Run σ (Option BridgeError) := do
  match (← get).context with
  | none => return none
  | some context =>
    match context.refusal? source with
    | some e => return some e
    | none =>
      match context.engine with
      | .recording =>
        Run.changeContext fun context => { context with injected := context.injected ++ [source] }
        return none
      | .running =>
        match ← Run.script answer source.text with
        | .ok () => return none
        | .error text => return some (.evaluation (source.file ++ ": " ++ text))

/-- Injects the sources of references; a refusal is only logged. -/
def injectAll : List Source → Run σ Unit
  | [] => return
  | source :: sources => do
    match ← inject answer source with
    | none => pure ()
    | some e => Run.say .warn ("reference stub failed: " ++ e.message)
    injectAll sources

/-- A refused injection is a failure of evaluation, whatever the context calls it. -/
def refused : BridgeError → BridgeError
  | .evaluation text => .evaluation text
  | e => .evaluation e.message

/-- Goes on with a binding once the stub of the principal is made: registers the channel, injects
the stub and then those of the references. -/
def install (id : ChannelId) (engine : EngineLiterals) (identifier place : String)
    (source : Source) : Run σ (Except BridgeError Handle) := do
  Run.changeContext fun context =>
    { context with handlers := context.handlers.insert identifier id }
  match ← inject answer source with
  | some e =>
    Run.say .error ("stub injection failed: " ++ e.message)
    unbind id
    return .error (refused e)
  | none =>
    let sources ← drain host answer id engine patience
    injectAll answer sources
    Run.say .info "plugin bound"
    return .ok { channel := id, identifier, place }

/-- Binds an object as the principal of a channel. The faults are looked for in the order place,
context, binding; the getters run before the last of them. -/
def bind (id : ChannelId) (object : ObjectRef) (place : String) :
    Run σ (Except BridgeError Handle) := do
  if place = "" then return .error .emptyPlace
  else if (← get).context.isNone then return .error .contextReleased
  else
    let principal : Binding := ⟨place, object⟩
    let values ← principal.values host answer
    match ← Run.bound? id with
    | some bound => return .error (.alreadyBound bound.identifier)
    | none =>
      let identifier ← identifierFor host object
      let engine ← Run.engineLiterals
      Run.setBound id (some (Bound.start identifier place object))
      match ← stub? host id engine (.plugin place) principal values with
      | none => return .error .contextReleased
      | some source => install host answer patience id engine identifier place source

/-! ## Messages -/

/-- Hands a message that is no request to the principal, if it takes such. -/
def forward (id : ChannelId) (message : Message) : Run σ Bool := do
  let bridge ← get
  match bridge.channels.get? id with
  | none => return false
  | some channel =>
    match channel.bound.bind (·.principal?) with
    | none => return false
    | some principal =>
      if (host.hooks bridge.native principal.object).takesRaw then
        Run.submit channel.worker (.receive principal.object message)
        return true
      else return false

/-- The key under which a marked argument holds the number of a function. -/
def callbackKey : String := "$callback"

/-- The callback that an argument marks: an object with one key, under which stands a whole number
that is not negative. -/
def callback? (id : ChannelId) : Value → Option Callback
  | .object [(key, value)] =>
    if key = callbackKey then
      match value.word? with
      | some n => if 0 ≤ n then some ⟨n.toNatClampNeg, id⟩ else none
      | none => none
    else none
  | _ => none

/-- Turns marked arguments into callbacks. Only whole arguments are looked at. -/
def attach (id : ChannelId) (args : List Value) : List Value :=
  args.map fun arg =>
    match callback? id arg with
    | some function => .callback function
    | none => arg

/-- Makes an instance at an id of the script's choice. The initializer runs on the worker; whether
the channel is still bound is looked up after it. -/
def create (id : ChannelId) (worker : WorkerId) (request : Request) :
    Run σ (Except BridgeError Unit) := do
  if request.target ≤ 0 then return .error (Malformation.createAt request.target).error
  else
    match ← Run.bound? id with
    | none => return .error (.unknownInstance 0)
    | some bound =>
      match bound.principal? with
      | none => return .error (.unknownInstance 0)
      | some principal =>
        let place := bound.placeOf request.target
        let args := Value.argumentsOf request.operand
        let made ← Run.sync host answer worker (host.make answer principal.object.typeName args)
        match made.bind Finish.result with
        | .error e => return .error e
        | .ok object =>
          match ← Run.bound? id with
          | none => return .error (.unknownInstance 0)
          | some bound =>
            let (bound, previous) := bound.put request.target ⟨place, object⟩
            Run.setBound id (some bound)
            if previous.isSome then
              Run.say .warn "instance id reused; previous instance replaced"
            Run.say .info "instance bound"
            return .ok ()

/-- Gives up an instance. Giving up the principal ends the binding. -/
def dispose (id : ChannelId) (target : Int) : Run σ Unit := do
  if target = 0 then unbind id
  else
    match ← Run.bound? id with
    | none => return
    | some bound =>
      match bound.instances.get? target with
      | none => return
      | some binding =>
        Run.setBound id (some (bound.remove target binding))
        Run.say .info "instance unbound"

/-- Reaches a member of an instance: a property is written, a method run. For a message that does
not wait, both are handed to the worker. -/
def reach (id : ChannelId) (worker : WorkerId) (binding : Binding) (name : String)
    (operand : Option Json) (waits : Bool) : Run σ (Except BridgeError (Option Value)) := do
  match (host.surfaceOf binding.object).member? name with
  | some (.property _) =>
    Run.submit worker (.set binding name (Value.ofOperand operand))
    return .ok none
  | some (.method _ _) =>
    let args := attach id (Value.argumentsOf operand)
    if waits then
      let outcome ← Run.sync host answer worker (binding.invoke host answer name args)
      return (outcome.bind Finish.result).map some
    else
      Run.submit worker (.invoke binding name args)
      return .ok none
  | _ => return .error (.unknownMember name)

/-- Does what a request asks. -/
def serve (id : ChannelId) (worker : WorkerId) (message : Message) (request : Request)
    (waits : Bool) : Run σ (Except BridgeError (Option Value)) := do
  let opcode := Opcode.ofString request.opcode
  if opcode = .create then
    return (← create host answer id worker request).map fun _ => none
  else
    match (← Run.bound? id).bind fun bound => bound.instances.get? request.target with
    | none =>
      if ← forward host id message then return .ok none
      else return .error (.unknownInstance request.target)
    | some binding =>
      match opcode with
      | .member name => reach host answer id worker binding name request.operand waits
      | _ =>
        dispose id request.target
        return .ok none

/-- Takes a message: serves it as a request, or forwards it as it is. -/
def handle (id : ChannelId) (message : Message) (waits : Bool) :
    Run σ (Except BridgeError (Option Value)) := do
  match (← get).channels.get? id with
  | none => return .ok none
  | some channel =>
    if channel.traces then Run.say .debug "message received"
    match message.request? with
    | .ok request => serve host answer id channel.worker message request waits
    | .error malformation =>
      let e := malformation.error
      if message.body.isNone then return .error e
      else if ← forward host id message then
        Run.say .trace (e.message ++ "; forwarded as raw message")
        return .ok none
      else return .error e

/-- Logs the failure of a message. -/
def report : BridgeError → Run σ Unit
  | .malformedMessage reason => Run.say .trace ("message dropped: " ++ reason)
  | e =>
    if e.isAnomaly then Run.say .warn ("message dropped: " ++ e.message)
    else Run.say .error ("native call failed: " ++ e.message)

/-- Takes a message that nobody waits for. -/
def dispatch (id : ChannelId) (message : Message) : Run σ Unit := do
  match ← handle host answer id message false with
  | .ok _ => return
  | .error e => report e

/-- Takes a message that waits for what it asks. A failure is logged, and the caller learns of it
only if it surfaces. -/
def ask (id : ChannelId) (message : Message) : Run σ (Except BridgeError (Option Value)) := do
  match ← handle host answer id message true with
  | .ok value => return .ok value
  | .error e =>
    report e
    return if e.surfaces then .error e else .ok none

/-- An expression that throws an error in the calling script. -/
def throwing (text : String) : String :=
  "(function() \x7b throw new Error(" ++ quote text ++ "); \x7d)()"

/-- Takes a message and answers it with an expression. -/
def dispatchSync (id : ChannelId) (message : Message) : Run σ String := do
  match ← ask host answer id message with
  | .ok (some value) => return (← expression host answer patience id value).text
  | .ok none => return "undefined"
  | .error e => return throwing e.message

end ChannelId

end ScriptBridge
