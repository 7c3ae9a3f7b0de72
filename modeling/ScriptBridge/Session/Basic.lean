import ScriptBridge.Catalogue.Programs
import ScriptBridge.Bridge.ScriptFile

/-!
# Sessions

A session uses a bridge step by step: it makes objects of the catalogue and channels, gives them
names, and lets each step's work run to its end before the next. A step has a reply, and what it
left behind in the meantime (log lines, injected and evaluated text, the journal) is collected.
-/

namespace ScriptBridge

open Catalogue (Stock)

/-- What a session is set up with. -/
structure SessionSetup where
  /-- What the types of the catalogue are called. -/
  typeNames : Catalogue.TypeNames
  /-- What the n-th drawn identifier is. -/
  draw : Nat → String
  /-- Whether scripts reach the bridge through the gate of an engine. -/
  gated : Bool := false
  /-- What the context does with injected text. -/
  injection : Injection := .accept
  tree : Tree := .empty []

/-- Whether the handlers of the context can be looked at: those of an engine, and of a context that
fails whatever is injected, cannot. -/
def SessionSetup.showsHandlers (setup : SessionSetup) : Bool :=
  ¬ setup.gated ∧ setup.injection = .accept

/-- A channel with a name. -/
structure NamedChannel where
  id : ChannelId
  /-- What its last successful binding gave. -/
  handle : Option Handle := none

/-- A session. -/
structure Session where
  setup : SessionSetup
  bridge : Bridge Stock
  objects : Table String ObjectRef := .empty
  channels : Table String NamedChannel := .empty
  /-- The workers by kind and label. -/
  workers : Table String WorkerId := .empty

namespace Session

/-- A session at its start. -/
def start (setup : SessionSetup) : Session where
  setup := setup
  bridge := {
    native := { tree := setup.tree }
    context := some {
      engine := if setup.gated then .running else .recording
      realm := if setup.gated then some .initial else none
      injection := setup.injection } }

/-- The native code of a session. -/
def host (session : Session) : Host Stock :=
  Catalogue.host session.setup.typeNames session.setup.draw

/-- The first name of an object, in the order of names. -/
def nameOf? (session : Session) (object : ObjectRef) : Option String :=
  (session.objects.entries.find? fun (_, ref) => ref.identity = object.identity).map (·.1)

/-- Makes an object. -/
def make (session : Session) (order : Catalogue.Order) : ObjectRef × Session :=
  let (ref, stock) := order.make session.setup.typeNames session.bridge.native
  (ref, { session with bridge := { session.bridge with native := stock } })

/-- Gives an object a name. -/
def nameObject (session : Session) (name : String) (object : ObjectRef) : Session :=
  { session with objects := session.objects.insert name object }

/-- The content of a bag. -/
def bag? (session : Session) (object : ObjectRef) : Option Catalogue.Bag :=
  session.bridge.native.bag? object

/-- Changes the native state. -/
def changeStock (session : Session) (f : Stock → Stock) : Session :=
  { session with bridge := { session.bridge with native := f session.bridge.native } }

end Session

/-! ## Steps -/

/-- Which worker a channel is made with. -/
structure WorkerChoice where
  kind : WorkerKind
  label : String
  deriving DecidableEq, Repr

/-- What a channel is made with. -/
structure ChannelOptions where
  /-- The worker; without one, the shared queue. -/
  worker : Option WorkerChoice := none
  urlPrefix : String := defaultUrlPrefix
  traces : Bool := false

/-- Where a message goes. -/
inductive Address where
  | channel (name : String)
  | name (name : String)

/-- A direct call on an instance. -/
inductive InstanceCall where
  | get (member : String)
  | set (member : String) (value : Value)
  | invoke (member : String) (args : List Value)
  | values

/-- What a step does. Objects are given by reference and channels by name. -/
inductive Step where
  | object (name : String) (object : ObjectRef)
  | store (bag : ObjectRef) (key : String) (value : Value)
  | attach (bag : ObjectRef) (channel : String)
  | channel (name : String) (options : ChannelOptions)
  | bind (channel : String) (object : ObjectRef) (place : String)
  | load (name : String) (object : ObjectRef) (place : String) (options : ChannelOptions)
  | unbind (channel : String)
  | post (address : Address) (body : Option String)
  | postSync (address : Address) (body : Option String)
  | dispatch (channel name : String) (body : Option String)
  | dispatchSync (channel name : String) (body : Option String)
  | serialize (channel : String) (value : Value)
  | state (channel : String)
  | debug (channel : String)
  | sameSurface (channel other : String)
  | onInstance (channel : String) (id : Int) (call : InstanceCall)
  | complete (bag : ObjectRef) (index : Nat) (outcome : Except String Value)
  | inspect (bag : ObjectRef)
  | showValue (value : Value)
  | kept (bags : List ObjectRef)
  | onRead (bag : ObjectRef) (intervention : Catalogue.Intervention)
  | onInit (intervention : Catalogue.Intervention)
  | shelfHolds (object : ObjectRef) (path : String)
  | runFile (path : String)
  | reject (on : Bool)
  | release

/-- What a channel looks like from outside. -/
structure ChannelReport where
  bound : Option Bound
  worker : String
  /-- How many handlers there are, and whether the channel's last identifier has one. -/
  handlers : Option (Nat × Bool)

/-- What a step replies. -/
inductive StepReply where
  | nothing
  | done
  | absent
  | flag (b : Bool)
  | text (s : String)
  | value (v : Value)
  | values (entries : List (String × Value))
  | handle (handle : Handle)
  | failure (e : BridgeError)
  | fileFailure (e : FileFailure)
  | report (report : ChannelReport)
  | descriptions (channel : String) (handle : Option String) (worker : String)
  | bag (bag : Catalogue.Bag)
  | kept (shown : List String) (equal : List (List Bool))

/-- A step's reply and what the step left behind. -/
structure StepAnswer where
  reply : StepReply
  /-- The live instances of each channel, ascending; nothing for an unbound one. -/
  ids : List (String × Option (List Int))
  injected : List Source
  evaluated : List String
  log : List Line
  journal : List String

end ScriptBridge
