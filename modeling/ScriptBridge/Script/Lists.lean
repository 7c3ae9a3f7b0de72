import ScriptBridge.Script.Objects

/-!
# Functions of lists

What lists can do. The functions work on anything that has a length and members by position, such as
the arguments of a call; a position that is missing is passed over.
-/

namespace ScriptBridge.Script.Machine

variable (machine : Machine)

open Act

/-- How many items a list may be copied with. -/
def copyLimit : Nat := 1000000

/-- The position that a value gives, in a list of a length; those that are negative count from the
end. -/
def positionIn (length : Nat) (f : Float) : Nat :=
  if f == Numeral.infinity then length
  else
    let n := Numeral.wholePart f
    if n < 0 then (n + length).toNat else min n.toNat length

/-- The position of an argument, or another one if it is missing. -/
def positionOf (length : Nat) (d : Datum) (otherwise : Nat) : Act Nat := do
  match d with
  | .undefined => return otherwise
  | d => return positionIn length (← machine.toNumber d)

/-- Some items of an object by position, those that are missing left out. -/
def presentItems (id : ObjectId) : List Nat → Act (List (Nat × Datum))
  | [] => return []
  | i :: rest => do
    let realm ← get
    match realm.find? id (keyAt i) with
    | none => presentItems id rest
    | some member =>
      let item ← machine.yieldOf (.object id) (some member)
      return (i, item) :: (← presentItems id rest)

/-- The positions from one on and before another one. -/
def positions (start stop : Nat) : List Nat := (List.range (stop - start)).map (start + ·)

/-- Copies a part of a list. -/
def sliceOf (receiver first last : Datum) : Act Datum := do
  let id ← toObject receiver
  let length ← machine.lengthOf (.object id)
  let start ← machine.positionOf length first 0
  let stop ← machine.positionOf length last length
  let size := stop - start
  if copyLimit < size then fail .rangeError "invalid array length"
  else
    let items ← machine.presentItems id (positions start stop)
    let copy := items.foldl (fun copy (i, d) => Entity.putItem copy (i - start) d) #[]
    addList (Entity.setLength copy size).toList

/-- Calls a function with each item of a list, and gives what it yields. -/
def visit (receiver : Datum) (args : List Datum) : Act (List (Nat × Datum × Datum) × Nat) := do
  let id ← toObject receiver
  let length ← machine.lengthOf (.object id)
  let function := argument args 0
  if ¬ (← isFunction function) then misuse "not a function"
  else
    let mut visited := []
    for i in List.range (min length copyLimit) do
      match (← get).find? id (keyAt i) with
      | none => pure ()
      | some member =>
        let item ← machine.yieldOf (.object id) (some member)
        let result ← machine.call function (argument args 1) [item, .ofNat i, .object id]
        visited := (i, item, result) :: visited
    return (visited.reverse, length)

/-- The list of what a function yields for each item. -/
def mapOf (receiver : Datum) (args : List Datum) : Act Datum := do
  let (visited, length) ← machine.visit receiver args
  let results := visited.foldl (fun results (i, _, d) => Entity.putItem results i d) #[]
  addList (Entity.setLength results (min length copyLimit)).toList

/-- Puts values at the end of a list. -/
def pushTo (receiver : Datum) (args : List Datum) : Act Datum := do
  let target : Datum := .object (← toObject receiver)
  let mut length ← machine.lengthOf target
  for d in args do
    machine.write true target (keyAt length) d
    length := length + 1
  machine.write true target (.whole "length") (.ofNat length)
  return .ofNat length

/-- Takes the last item from a list. -/
def popFrom (receiver : Datum) : Act Datum := do
  let target : Datum := .object (← toObject receiver)
  let length ← machine.lengthOf target
  if length = 0 then
    machine.write true target (.whole "length") (.ofNat 0)
    return .undefined
  else
    let item ← machine.read target (keyAt (length - 1))
    discard (delete true target (keyAt (length - 1)))
    machine.write true target (.whole "length") (.ofNat (length - 1))
    return item

/-- The texts of items, put together; each item shows itself, if that is wanted. Those that are
nothing have none. -/
def joinOf (receiver between : Datum) (showsItself : Bool) : Act Datum := do
  let source : Datum := .object (← toObject receiver)
  let length ← machine.lengthOf source
  let between ← match between with
    | .undefined => pure (Text.whole ",")
    | d => machine.toText d
  if copyLimit < length then fail .rangeError "invalid string length"
  else
    let texts ← (List.range length).mapM fun i => do
      let item ← machine.read source (keyAt i)
      if item.isNothing then return Text.whole ""
      else if showsItself then
        machine.toText (← machine.callMember item (.whole "toLocaleString") [])
      else machine.toText item
    return .text (Text.join between texts)

/-- The text of a list, as the list joins itself. -/
def showList (receiver : Datum) : Act Datum := do
  let source : Datum := .object (← toObject receiver)
  let function ← machine.read source (.whole "join")
  if ← isFunction function then machine.call function source [] else showObject source

/-- A list of values; lists among them give their items. -/
def concatOf (receiver : Datum) (args : List Datum) : Act Datum := do
  let parts := Datum.object (← toObject receiver) :: args
  let items ← parts.mapM fun part => do
    if ← isList part then machine.itemsOf part else return [part]
  addList items.flatten

/-- The first position of a value that passes a test. -/
def findItem? (receiver first : Datum) (test : Datum → Bool) : Act (Option Nat) := do
  let source : Datum := .object (← toObject receiver)
  let length ← machine.lengthOf source
  let start ← machine.positionOf length first 0
  let items ← machine.itemsAt source (positions start (min length copyLimit))
  return (items.findIdx? test).map (start + ·)

/-- A position as a value; none is a negative number. -/
def positionDatum (position : Option Nat) : Datum :=
  match position with
  | some i => .ofNat i
  | none => .number (-1)

/-- What the functions of lists do. -/
def callOfLists (b : Builtin) (receiver : Datum) (args : List Datum) : Act (Option Datum) := do
  let first := argument args 0
  let second := argument args 1
  match b with
  | .map => machine.mapOf receiver args
  | .forEach => do
    discard (machine.visit receiver args)
    return some .undefined
  | .filter => do
    let (visited, _) ← machine.visit receiver args
    addList ((visited.filter fun (_, _, d) => d.isTruthy).map fun (_, item, _) => item)
  | .slice => machine.sliceOf receiver first second
  | .push => machine.pushTo receiver args
  | .pop => machine.popFrom receiver
  | .join => machine.joinOf receiver first false
  | .joinLocally => machine.joinOf receiver .undefined true
  | .showList => machine.showList receiver
  | .concat => machine.concatOf receiver args
  | .indexOf => do return some (positionDatum (← machine.findItem? receiver second first.same))
  | .includes => do
    let test (d : Datum) : Bool := first.same d || first.alike d
    return some (.bool (← machine.findItem? receiver second test).isSome)
  | .isList => do return some (.bool (← isList first))
  | .countOctets => do
    match (← entity (← toObject receiver)).kind with
    | .octets octets => return some (.ofNat octets.size)
    | _ => misuse "not a TypedArray"
  | _ => return none

end ScriptBridge.Script.Machine
