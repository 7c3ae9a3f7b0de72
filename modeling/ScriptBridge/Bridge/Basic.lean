import ScriptBridge.Native
import ScriptBridge.Script.Realm
import ScriptBridge.Settings.Basic
import ScriptBridge.Stub
import ScriptBridge.Value.Literal

/-!
# The state of the bridge

A *context* is the script side: the handlers registered there by name, and what became of the text
it has been given. Without an engine of its own it only keeps the text; an engine runs it.

A *channel* binds one native object, its *principal*, to a place of the script side, and while it is
bound it keeps two tables: the *instances* that scripts can reach, by id, and the *references*,
which lead from the identity of an object back to its id. The principal has id 0, scripts choose
positive ids for the instances they make, and the channel gives negative ids to objects that cross
as values. An object that was given an id and whose stub the script side does not have yet is
*pending*.

An unbound channel has no tables at all, so nothing can be left over in them.
-/

namespace ScriptBridge

/-! ## The script side -/

/-- Text that is injected into a context. -/
structure Source where
  text : String
  file : String
  place : String
  deriving DecidableEq, Repr

/-- The engine of a context. -/
inductive Engine where
  /-- Keeps text and runs none of it; has no literals of its own. -/
  | recording
  /-- Runs text; has typed arrays of octets. -/
  | running
  deriving DecidableEq, Repr

/-- The literals of an engine. -/
def Engine.literals : Engine → EngineLiterals
  | .recording => .plain
  | .running => .typedArrays

/-- The script side. -/
structure Context where
  engine : Engine := .recording
  injection : Injection := .accept
  /-- The channel that handles each name. -/
  handlers : Table String ChannelId := .empty
  /-- The text that was kept. -/
  injected : List Source := []
  evaluated : List String := []
  /-- The objects of an engine that runs text. While a text runs they are its own, and no other text
  can run. -/
  realm : Option Script.Realm := none

namespace Context

/-- What becomes of text that is injected. -/
def refusal? (context : Context) (source : Source) : Option BridgeError :=
  match context.injection with
  | .accept => none
  | .reject => some (.evaluation (source.file ++ ": injection rejected"))
  | .fail e => some e

end Context

/-! ## Channels -/

/-- An object at its place. -/
structure Binding where
  place : String
  object : ObjectRef
  deriving DecidableEq, Repr, Inhabited

/-- An object that was given an id and has no stub yet. -/
structure Pending where
  id : Int
  owner : String
  binding : Binding
  deriving DecidableEq, Repr, Inhabited

/-- What a channel keeps while it is bound. -/
structure Bound where
  identifier : String
  place : String
  instances : Table Int Binding
  /-- The id of each object, by identity. -/
  references : Table Nat Int
  /-- The id for the next object that crosses. -/
  nextReference : Int
  pending : List Pending

namespace Bound

/-- A binding of a principal alone. -/
def start (identifier place : String) (principal : ObjectRef) : Bound where
  identifier := identifier
  place := place
  instances := Table.empty.insert 0 ⟨place, principal⟩
  references := Table.empty.insert principal.identity 0
  nextReference := -1
  pending := []

/-- The binding of the principal. -/
def principal? (bound : Bound) : Option Binding := bound.instances.get? 0

/-- The place of an instance other than the principal. -/
def placeOf (bound : Bound) (id : Int) : String := bound.place ++ "[" ++ toString id ++ "]"

/-- The binding of an object that has an id. -/
def bindingOf? (bound : Bound) (object : ObjectRef) : Option Binding :=
  (bound.references.get? object.identity).bind bound.instances.get?

/-- Gives an object the next id. -/
def allocate (bound : Bound) (object : ObjectRef) : Bound :=
  let id := bound.nextReference
  let binding : Binding := ⟨bound.placeOf id, object⟩
  { bound with
    instances := bound.instances.insert id binding
    references := bound.references.insert object.identity id
    nextReference := id - 1
    pending := bound.pending ++ [⟨id, bound.place, binding⟩] }

/-- Puts an instance at an id of the script's choice; also says which instance it replaces. A
replaced object has no id any more. -/
def put (bound : Bound) (id : Int) (binding : Binding) : Bound × Option Binding :=
  let previous := bound.instances.get? id
  let references := bound.references.insert binding.object.identity id
  let references := match previous with
    | none => references
    | some previous => references.erase previous.object.identity
  ({ bound with instances := bound.instances.insert id binding, references }, previous)

/-- Takes an instance out of the tables. -/
def remove (bound : Bound) (id : Int) (binding : Binding) : Bound :=
  { bound with
    instances := bound.instances.erase id
    references := bound.references.erase binding.object.identity }

end Bound

/-- Names a worker. -/
abbrev WorkerId := Nat

/-- A channel. -/
structure Channel where
  /-- The worker that its native calls run on. -/
  worker : WorkerId
  urlPrefix : String := defaultUrlPrefix
  /-- Whether it logs each message it receives. -/
  traces : Bool := false
  bound : Option Bound := none
  /-- Whether anything holds the channel. Callbacks that came through it do not. -/
  held : Bool := true

/-! ## The bridge -/

/-- A native call that waits for its worker. -/
inductive Task where
  | set (binding : Binding) (property : String) (value : Value)
  | invoke (binding : Binding) (method : String) (args : List Value)
  | receive (object : ObjectRef) (message : Message)

/-- Everything that changes while the bridge is at work. -/
structure Bridge (σ : Type) where
  /-- The state of native code. -/
  native : σ
  /-- The script side, until it is released. -/
  context : Option Context
  channels : Table Nat Channel := .empty
  workers : Table Nat (Worker Task) := .empty
  /-- Work left for the background, oldest first. -/
  background : List (Deferred σ) := []
  /-- How many identifiers have been drawn. -/
  drawn : Nat := 0
  log : List Line := []

end ScriptBridge
