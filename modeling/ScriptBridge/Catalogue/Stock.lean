import ScriptBridge.Catalogue.Kind
import ScriptBridge.Content.Rooted
import ScriptBridge.Content.Shelf
import ScriptBridge.Amendment

/-!
# The catalogue of plugins: objects

The objects that exist and what they hold, as the native state on which the programs of the
catalogue work.
-/

namespace ScriptBridge.Catalogue

/-- Something done once, in the course of a native call. -/
inductive Intervention where
  /-- Makes the context reject what is injected from now on. -/
  | reject
  /-- Ends the binding of a channel. -/
  | unbind (channel : ChannelId)
  deriving DecidableEq, Repr

/-- The content of a bag: the object that records what happens to it. -/
structure Bag where
  identifier : Option String := none
  description : String := "Bag"
  takesRaw : Bool := false
  rules : List Amendment := []
  table : Table String Value := .empty
  kept : List Callback := []
  calls : List (List Value) := []
  raw : List Message := []
  attached : Option ChannelId := none
  /-- What is done at the next reading of its peer. -/
  onRead : Option Intervention := none

/-- An object with what it holds. -/
inductive Object where
  | greeter (greeting : String)
  | counter (count : Int64)
  | registry (favorite child : ObjectRef)
  | bag (bag : Bag)
  | shelf (shelf : Shelf)
  | files (store : RootedStore)
  /-- An object that holds nothing. -/
  | simple

/-- The native state: all objects and what they share. -/
structure Stock where
  objects : Table Nat Object := .empty
  /-- What journals have written. -/
  journal : List String := []
  /-- What is done at the next making of a journal. -/
  onInit : Option Intervention := none
  tree : Tree := .empty []

namespace Stock

/-- An object, by identity. -/
def object? (stock : Stock) (ref : ObjectRef) : Option Object := stock.objects.get? ref.identity

/-- Replaces what an object holds. -/
def setObject (stock : Stock) (ref : ObjectRef) (object : Object) : Stock :=
  { stock with objects := stock.objects.insert ref.identity object }

/-- The next free identity. -/
def nextIdentity (stock : Stock) : Nat :=
  match stock.objects.entries.getLast? with
  | none => 1
  | some (last, _) => last + 1

/-- Adds an object. -/
def add (stock : Stock) (typeName : String) (object : Object) : ObjectRef × Stock :=
  let ref : ObjectRef := ⟨stock.nextIdentity, typeName⟩
  (ref, stock.setObject ref object)

/-- A bag, by identity. -/
def bag? (stock : Stock) (ref : ObjectRef) : Option Bag :=
  match stock.object? ref with
  | some (.bag bag) => some bag
  | _ => none

/-- Changes a bag. -/
def changeBag (stock : Stock) (ref : ObjectRef) (f : Bag → Bag) : Stock :=
  match stock.bag? ref with
  | some bag => stock.setObject ref (.bag (f bag))
  | none => stock

/-- A shelf, by identity. -/
def shelf? (stock : Stock) (ref : ObjectRef) : Option Shelf :=
  match stock.object? ref with
  | some (.shelf shelf) => some shelf
  | _ => none

/-- A shelf as a content store of the stock. -/
def shelfStore (ref : ObjectRef) : ContentStore Stock where
  holds stock path := ((stock.shelf? ref).getD {}).items.contains path
  stat stock path := ((stock.shelf? ref).getD {}).stat path
  read stock path := ((stock.shelf? ref).getD {}).read path
  list stock path := ((stock.shelf? ref).getD {}).list path
  write stock path octets :=
    (((stock.shelf? ref).getD {}).write path octets).map fun shelf =>
      stock.setObject ref (.shelf shelf)

/-- The files as a content store of the stock. -/
def fileStore (store : RootedStore) : ContentStore Stock :=
  store.within (·.tree) fun stock tree => { stock with tree }

/-- Writes a line to the journal. -/
def write (stock : Stock) (line : String) : Stock :=
  { stock with journal := stock.journal ++ [line] }

end Stock

/-! ## Making objects -/

/-- An order for an object. -/
inductive Order where
  | simple (kind : Kind)
  | counter (start : Int64)
  | bag (bag : Bag)
  | shelf (shelf : Shelf)
  | files (root : Option String)

/-- Makes an object. A registry comes with two greeters. -/
def Order.make (names : TypeNames) (order : Order) (stock : Stock) : ObjectRef × Stock :=
  match order with
  | .counter start => stock.add (names .counter) (.counter start)
  | .bag content => stock.add (names .bag) (.bag content)
  | .shelf content => stock.add (names .shelf) (.shelf content)
  | .files root => stock.add (names .files) (.files { root })
  | .simple .greeter => stock.add (names .greeter) (.greeter "hello")
  | .simple .registry =>
    let (favorite, stock) := stock.add (names .greeter) (.greeter "hello")
    let (child, stock) := stock.add (names .greeter) (.greeter "hello")
    stock.add (names .registry) (.registry favorite child)
  | .simple kind => stock.add (names kind) .simple

end ScriptBridge.Catalogue
