import ScriptBridge.Message
import ScriptBridge.Settings.Level
import ScriptBridge.Surface.Basic
import ScriptBridge.Worker

/-!
# Native code

Native code is described by the programs that run when a member of an object is reached. A program
of type `Native σ α` reads and writes the native state `σ`, may ask where it runs, log, leave work
for the background, and call the bridge; it ends with an `α`. Programs are trees: a step is followed
by what comes after it, as a function of the answer. What the steps do is said elsewhere, by the
bridge that runs them.

A program without calls of the bridge is *quiet*. Quiet programs are the ordinary ones; the others
re-enter the bridge while it is at work.

A `Host` is all the native code there is: the surfaces of types, the hooks of objects and the
program of each member.
-/

namespace ScriptBridge

/-! ## Calls of the bridge -/

/-- What a successful binding gives. -/
structure Handle where
  channel : ChannelId
  identifier : String
  place : String
  deriving DecidableEq, Repr, Inhabited

/-- What a context does with text that is injected. -/
inductive Injection where
  | accept
  /-- Refuses, naming the file. -/
  | reject
  /-- Refuses with a failure of its own. -/
  | fail (e : BridgeError)
  deriving DecidableEq, Repr, Inhabited

/-- What can be asked of the bridge. -/
inductive BridgeCall where
  | bind (channel : ChannelId) (object : ObjectRef) (place : String)
  | unbind (channel : ChannelId)
  | dispatch (channel : ChannelId) (message : Message)
  | dispatchSync (channel : ChannelId) (message : Message)
  | serialize (channel : ChannelId) (value : Value)
  | complete (function : Callback) (outcome : Except String Value)
  | steer (injection : Injection)

/-- What a call of the bridge answers. -/
@[reducible] def BridgeCall.Reply : BridgeCall → Type
  | .bind _ _ _ => Except BridgeError Handle
  | .unbind _ => Unit
  | .dispatch _ _ => Unit
  | .dispatchSync _ _ => String
  | .serialize _ _ => String
  | .complete _ _ => Except BridgeError Unit
  | .steer _ => Unit

/-! ## Log lines -/

/-- What a log line is about. -/
inductive Topic where
  /-- The bridge at work. -/
  | bridge
  /-- What scripts write. -/
  | script
  deriving DecidableEq, Repr

/-- A line of the log. -/
structure Line where
  level : Level
  topic : Topic
  text : String
  deriving DecidableEq, Repr

/-! ## Programs -/

/-- Work for the background: an outcome to be found, and the callback that is completed with it. -/
structure Deferred (σ : Type) where
  function : Callback
  /-- Finds the outcome in the native state. -/
  outcome : σ → Except String Value

/-- A native program. -/
inductive Native (σ : Type) (α : Type) where
  | done (a : α)
  | read (next : σ → Native σ α)
  | write (state : σ) (next : Native σ α)
  /-- Asks for the name of the thread it runs on. -/
  | thread (next : String → Native σ α)
  | log (line : Line) (next : Native σ α)
  | defer (work : Deferred σ) (next : Native σ α)
  | call (request : BridgeCall) (next : request.Reply → Native σ α)

namespace Native

variable {σ α β : Type}

/-- Goes on with another program. -/
def bind : Native σ α → (α → Native σ β) → Native σ β
  | .done a, f => f a
  | .read next, f => .read fun state => (next state).bind f
  | .write state next, f => .write state (next.bind f)
  | .thread next, f => .thread fun name => (next name).bind f
  | .log line next, f => .log line (next.bind f)
  | .defer work next, f => .defer work (next.bind f)
  | .call request next, f => .call request fun reply => (next reply).bind f

instance : Monad (Native σ) where
  pure := .done
  bind := bind

/-- The native state. -/
def state : Native σ σ := .read .done

/-- Changes the native state. -/
def update (f : σ → σ) : Native σ Unit := .read fun state => .write (f state) (.done ())

/-- The name of the thread the program runs on. -/
def threadName : Native σ String := .thread .done

/-- Asks something of the bridge. -/
def ask (request : BridgeCall) : Native σ request.Reply := .call request .done

/-- Never calls the bridge. -/
inductive Quiet : Native σ α → Prop where
  | done (a : α) : Quiet (.done a)
  | read {next : σ → Native σ α} (h : ∀ state, Quiet (next state)) : Quiet (.read next)
  | write {state : σ} {next : Native σ α} (h : Quiet next) : Quiet (.write state next)
  | thread {next : String → Native σ α} (h : ∀ name, Quiet (next name)) : Quiet (.thread next)
  | log {line : Line} {next : Native σ α} (h : Quiet next) : Quiet (.log line next)
  | defer {work : Deferred σ} {next : Native σ α} (h : Quiet next) : Quiet (.defer work next)

end Native

/-! ## Hosts -/

/-- What an object says about itself to the bridge. -/
structure Hooks where
  /-- The identifier of its channel, if it declares one. -/
  identifier : Option String := none
  /-- What it is called in the names of its sources. -/
  description : String
  /-- Amends a fragment of its stub, given the fragment's key. -/
  amend : String → String → String := fun _ fragment => fragment
  /-- Whether it takes messages that are no requests. -/
  takesRaw : Bool := false

/-- All native code: what can be reached, and what runs when it is. -/
structure Host (σ : Type) where
  /-- The surface of a type, by the type's name. -/
  surface : String → Surface
  hooks : σ → ObjectRef → Hooks
  /-- Reads a property. Getters give values only: they have no failures, and unlike the other
  accessors they do not panic. They run on whichever thread makes a stub, where nothing contains a
  panic, so an operation in which one panics has no result. -/
  get : ObjectRef → String → Native σ Value
  /-- Writes a property. -/
  set : ObjectRef → String → Value → Native σ (Finish (Except BridgeError Unit))
  /-- Runs a method on fitted arguments. -/
  invoke : ObjectRef → String → List Value → Native σ (Finish (Except BridgeError Value))
  /-- Makes an instance of a type from fitted arguments. -/
  construct : String → List Value → Native σ (Finish (Except BridgeError ObjectRef))
  /-- Takes a message that is no request. -/
  receive : ObjectRef → Message → Native σ (Finish Unit)
  /-- The identifier that the bridge gives the channel bound as the n-th without one of its own. -/
  draw : Nat → String := fun n => toString n

/-- The surface of an object. -/
def Host.surfaceOf {σ : Type} (host : Host σ) (object : ObjectRef) : Surface :=
  host.surface object.typeName

end ScriptBridge
