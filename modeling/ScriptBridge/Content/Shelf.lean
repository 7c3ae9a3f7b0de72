import ScriptBridge.Content.Basic

/-!
# Stores in memory

A shelf holds items under exact paths. An item may be broken, and then every operation on it fails,
though it is there.
-/

namespace ScriptBridge

/-- An item on a shelf. -/
structure ShelfItem where
  octets : List UInt8 := []
  created : Instant := .epoch
  modified : Instant := .epoch
  size : Nat := 0
  kind : ItemKind := .file
  /-- Why every operation on it fails, if it is broken. -/
  broken : Option String := none
  deriving DecidableEq, Repr

/-- Items under exact paths. -/
structure Shelf where
  items : Table String ShelfItem := .empty

namespace Shelf

/-- An item that can be worked with. -/
def find (shelf : Shelf) (path : String) : Except ContentError ShelfItem :=
  match shelf.items.get? path with
  | none => .error (.notFound path)
  | some item =>
    match item.broken with
    | some text => .error (.io path text)
    | none => .ok item

/-- What is known about an item. -/
def stat (shelf : Shelf) (path : String) : Except ContentError Metadata := do
  let item ← shelf.find path
  return { path, created := item.created, modified := item.modified, size := item.size,
           kind := item.kind }

/-- The octets of an item. -/
def read (shelf : Shelf) (path : String) : Except ContentError (List UInt8) := do
  return (← shelf.find path).octets

/-- What follows a start in a list, if the list has that start. -/
def after? : List Char → List Char → Option (List Char)
  | [], rest => some rest
  | _ :: _, [] => none
  | c :: start, d :: rest => if c = d then after? start rest else none

/-- The rests of the paths below an item, ascending. -/
def list (shelf : Shelf) (path : String) : Except ContentError (List String) := do
  discard <| shelf.find path
  return shelf.items.keys.filterMap fun key =>
    (after? (path ++ "/").toList key.toList).map String.ofList

/-- Writes an item; one that was there keeps its dates and kind. -/
def write (shelf : Shelf) (path : String) (octets : List UInt8) : Except ContentError Shelf :=
  match shelf.find path with
  | .error (.io path text) => .error (.io path text)
  | .error (.notFound _) =>
    .ok ⟨shelf.items.insert path { octets, size := octets.length }⟩
  | .ok item => .ok ⟨shelf.items.insert path { item with octets, size := octets.length }⟩

end Shelf

end ScriptBridge
