import ScriptBridge.Bridge.References

/-!
# Running native code

A run changes the state of the bridge, knows in which *frame* it happens, that is, on which thread
and inside which workers, and gives a result. It may also never return: a worker that waits for one
that waits for it, or code that calls the bridge for ever, is a run without a result.

`Native.run` gives native programs their meaning, with the meaning of calls of the bridge as a
parameter. `Run.submit` and `Run.sync` are the two ways to hand work to a worker.
-/

namespace ScriptBridge

/-! ## Frames and runs -/

/-- Where code runs. -/
inductive Thread where
  /-- The thread that uses the bridge. -/
  | caller
  | worker (id : WorkerId)
  /-- A thread of the background. -/
  | background
  deriving DecidableEq, Repr

/-- The surroundings of a run. -/
structure Frame where
  thread : Thread := .caller
  /-- The workers that are at work around the run, the innermost first. -/
  busy : List WorkerId := []
  deriving DecidableEq, Repr

/-- The frame of work on a worker. -/
def Frame.enter (frame : Frame) (id : WorkerId) : Frame := ⟨.worker id, id :: frame.busy⟩

/-- A run over the state of the bridge. -/
abbrev Run (σ : Type) := ReaderT Frame (StateT (Bridge σ) Option)

namespace Run

variable {σ α : Type}

/-- Never returns. -/
def stuck : Run σ α := fun _ _ => none

/-- Runs in another frame. -/
def within (frame : Frame) (run : Run σ α) : Run σ α := fun _ => run frame

/-- Adds a line to the log. -/
def say (level : Level) (text : String) : Run σ Unit :=
  modify fun bridge => { bridge with log := bridge.log ++ [.ofBridge level text] }

/-- Adds lines to the log. -/
def sayAll (lines : List Line) : Run σ Unit :=
  modify fun bridge => { bridge with log := bridge.log ++ lines }

/-- The binding of a channel, while it has one. -/
def bound? (id : ChannelId) : Run σ (Option Bound) := do
  return ((← get).channels.get? id).bind (·.bound)

/-- Replaces the binding of a channel. -/
def setBound (id : ChannelId) (bound : Option Bound) : Run σ Unit :=
  modify fun bridge =>
    match bridge.channels.get? id with
    | none => bridge
    | some channel => { bridge with channels := bridge.channels.insert id { channel with bound } }

/-- Changes the context, while there is one. -/
def changeContext (f : Context → Context) : Run σ Unit :=
  modify fun bridge => { bridge with context := bridge.context.map f }

/-- The engine's literals; without a context there are none. -/
def engineLiterals : Run σ EngineLiterals := do
  return match (← get).context with
    | none => .plain
    | some context => context.engine.literals

/-- The name of the thread of the run. -/
def threadName : Run σ String := do
  match (← read).thread with
  | .caller => return "main"
  | .background => return ""
  | .worker id => return (((← get).workers.get? id).map (·.label)).getD ""

end Run

/-! ## Native programs -/

/-- The meaning of calls of the bridge. -/
abbrev Answerer (σ : Type) := (request : BridgeCall) → Run σ request.Reply

/-- Runs a native program. -/
def Native.run {σ α : Type} (answer : Answerer σ) : Native σ α → Run σ α
  | .done a => pure a
  | .read next => do (next (← get).native).run answer
  | .write state next => do
    modify fun bridge => { bridge with native := state }
    next.run answer
  | .thread next => do (next (← Run.threadName)).run answer
  | .log line next => do
    Run.sayAll [line]
    next.run answer
  | .defer work next => do
    modify fun bridge => { bridge with background := bridge.background ++ [work] }
    next.run answer
  | .call request next => do (next (← answer request)).run answer

/-! ## Reaching members -/

namespace Binding

variable {σ : Type} (host : Host σ) (answer : Answerer σ)

/-- Reads a property. Only names on the surface are reached. -/
def get (binding : Binding) (name : String) : Run σ (Except BridgeError Value) :=
  match (host.surfaceOf binding.object).member? name with
  | some (.property _) => do
    let value ← (host.get binding.object name).run answer
    return .ok value
  | _ => return .error (.unknownMember name)

/-- Writes a property. -/
def set (binding : Binding) (name : String) (value : Value) :
    Run σ (Finish (Except BridgeError Unit)) :=
  match (host.surfaceOf binding.object).member? name with
  | some (.property true) => (host.set binding.object name value).run answer
  | some (.property false) => return .returned (.error (.readOnlyProperty name))
  | _ => return .returned (.error (.unknownMember name))

/-- Runs a method on arguments fitted to its arity. -/
def invoke (binding : Binding) (name : String) (args : List Value) :
    Run σ (Finish (Except BridgeError Value)) :=
  match (host.surfaceOf binding.object).member? name with
  | some (.method arity _) =>
    match fitArguments name arity args with
    | .error e => return .returned (.error e)
    | .ok args => (host.invoke binding.object name args).run answer
  | _ => return .returned (.error (.unknownMember name))

/-- Reads properties, in order. -/
def readAll (binding : Binding) : List String → Run σ (List (String × Value))
  | [] => return []
  | name :: names => do
    let value ← (host.get binding.object name).run answer
    let values ← readAll binding names
    return (name, value) :: values

/-- The values of all properties, in name order. -/
def values (binding : Binding) : Run σ (List (String × Value)) :=
  binding.readAll host answer (host.surfaceOf binding.object).propertyNames

end Binding

/-- Makes an instance of a type. -/
def Host.make {σ : Type} (host : Host σ) (answer : Answerer σ) (typeName : String)
    (args : List Value) : Run σ (Finish (Except BridgeError ObjectRef)) :=
  match (host.surface typeName).initializer? with
  | none => return .returned (.error (.unknownMember (typeName ++ " initializer")))
  | some arity =>
    match fitArguments typeName (some arity) args with
    | .error e => return .returned (.error e)
    | .ok args => (host.construct typeName args).run answer

/-- Gives an object a message that is no request, if it takes such now. It need not take what it
took when the message was handed in. -/
def Host.tell {σ : Type} (host : Host σ) (answer : Answerer σ) (object : ObjectRef)
    (message : Message) : Run σ (Finish Unit) := do
  let bridge ← getThe (Bridge σ)
  if (host.hooks bridge.native object).takesRaw then (host.receive object message).run answer
  else return .returned ()

/-! ## Workers at work -/

namespace Task

variable {σ : Type}

/-- Runs a native call that nobody waits for. Failures and panics are only logged. -/
def run (host : Host σ) (answer : Answerer σ) : Task → Run σ Unit
  | .set binding property value => do
    match ← binding.set host answer property value with
    | .returned (.ok ()) => return
    | .returned (.error e) => Run.say .warn ("property update dropped: " ++ e.message)
    | .panicked text => Run.say .error (Finish.unattended text)
  | .invoke binding method args => do
    match ← binding.invoke host answer method args with
    | .returned (.ok _) => return
    | .returned (.error e) => Run.say .error ("native call failed: " ++ e.message)
    | .panicked text => Run.say .error (Finish.unattended text)
  | .receive object message => do
    match ← host.tell answer object message with
    | .returned () => return
    | .panicked text => Run.say .error (Finish.unattended text)

/-- Runs native calls in order. -/
def runAll (host : Host σ) (answer : Answerer σ) : List Task → Run σ Unit
  | [] => return
  | task :: tasks => do
    task.run host answer
    runAll host answer tasks

end Task

namespace Run

variable {σ α : Type} (host : Host σ) (answer : Answerer σ)

/-- Hands a native call to a worker. -/
def submit (id : WorkerId) (task : Task) : Run σ Unit :=
  modify fun bridge =>
    match bridge.workers.get? id with
    | none => bridge
    | some worker => { bridge with workers := bridge.workers.insert id (worker.enqueue task) }

/-- Takes all native calls that wait for a worker. -/
def takeWaiting (id : WorkerId) : Run σ (List Task) := do
  let bridge ← get
  match bridge.workers.get? id with
  | none => return []
  | some worker =>
    let (tasks, worker) := worker.takeAll
    set { bridge with workers := bridge.workers.insert id worker }
    return tasks

/-- Runs work on a worker, behind all that waits there, and waits for it. The worker itself may not
wait for its own work. -/
def sync (id : WorkerId) (work : Run σ α) : Run σ (Except BridgeError α) := do
  let frame ← read
  let label := (((← get).workers.get? id).map (·.label)).getD ""
  if frame.thread = .worker id then return .error (Worker.reentered label)
  else if id ∈ frame.busy then stuck
  else within (frame.enter id) do
    Task.runAll host answer (← takeWaiting id)
    let result ← work
    return .ok result

/-- Waits until everything that was submitted to a worker has run. -/
def flush (id : WorkerId) : Run σ Unit := do
  if (← read).thread = .worker id then return
  else discard <| sync host answer id (pure ())

end Run

end ScriptBridge
