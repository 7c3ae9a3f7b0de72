import ScriptBridge.Bridge.Basic

/-!
# References to native objects

While a channel is bound, a native object is referred to by its place. An object that has none gets
the next negative id the first time it is referred to, and its stub becomes pending. A stub contains
the literals of the object's properties, and so may itself give ids to further objects.

Everything here is a change of one channel's tables; no native code runs.
-/

namespace ScriptBridge

namespace Bound

/-- Refers to an object, giving it an id if it has none. -/
def resolve : Resolver Bound := fun object bound =>
  match bound.bindingOf? object with
  | some binding => (binding.place, bound)
  | none => (bound.placeOf bound.nextReference, bound.allocate object)

/-- The literal of a value, its objects referred to. -/
def literal (engine : EngineLiterals) (value : Value) : StateM Bound String :=
  value.literalWith engine resolve

/-- The literals of named values, in order. -/
def literals (engine : EngineLiterals) :
    List (String × Value) → StateM Bound (List (String × String))
  | [] => pure []
  | (name, value) :: rest => do
    let text ← literal engine value
    let more ← literals engine rest
    pure ((name, text) :: more)

/-- The source that installs the script side of an object. -/
def stubFor (engine : EngineLiterals) (urlPrefix : String) (surface : Surface) (hooks : Hooks)
    (target : StubTarget) (place : String) (values : List (String × Value)) :
    StateM Bound Source := do
  let literals ← literals engine values
  let bound ← get
  let stub : Stub := {
    channel := bound.identifier
    target
    members := surface.members
    values := Table.ofList literals
    urlPrefix
    description := hooks.description }
  pure { text := stub.text hooks.amend, file := stub.sourceUrl, place }

/-- How many ids a change of the tables gave away. -/
def allocatedSince (old new : Bound) : Nat := (old.nextReference - new.nextReference).toNat

end Bound

/-- A log line of the bridge. -/
def Line.ofBridge (level : Level) (text : String) : Line := ⟨level, .bridge, text⟩

/-- The lines for ids given away. -/
def referenceLines (count : Nat) : List Line :=
  List.replicate count (.ofBridge .debug "native reference bound")

end ScriptBridge
