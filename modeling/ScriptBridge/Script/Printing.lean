import ScriptBridge.Script.Members

/-!
# Values as data

The text of a value as data: lists by their items, other objects by the members that listings show.
Functions and undefined values are left out, and stand as null among items. An object may have a
member that gives what is written in its place. An object inside itself has no text.
-/

namespace ScriptBridge.Script.Machine

variable (machine : Machine)

open Act

/-- How deep data may be. -/
def dataDepth : Nat := 500

/-- What is written in the place of a value. -/
def standIn (key : Text) (d : Datum) : Act Datum := do
  match d with
  | .object _ =>
    let function ← machine.read d (.whole "toJSON")
    if ← isFunction function then machine.call function d [.text key] else return d
  | d => return d

/-- The value that an object is made of, if it is made of one. -/
def unboxed (id : ObjectId) : Act Datum := do
  match (← entity id).kind with
  | .boxed (.number _) => return .number (← machine.toNumber (.object id))
  | .boxed (.text _) => return .text (← machine.toText (.object id))
  | .boxed d => return d
  | _ => return .object id

/-- The text of a number in data. -/
def printNumber (f : Float) : String := if f.isFinite then Numeral.print f else "null"

/-- The text of a value under a key, inside some objects, if it has one. -/
def printAt : Nat → List ObjectId → Text → Datum → Act (Option String)
  | 0, _, _, _ => fail .internalError "stack overflow"
  | depth + 1, around, key, d => do
    let d ← machine.standIn key d
    if ← isFunction d then return none
    else
      match ← (match d with
        | .object id => machine.unboxed id
        | d => return d) with
      | .undefined => return none
      | .null => return some "null"
      | .bool b => return some (if b then "true" else "false")
      | .number f => return some (printNumber f)
      | .text t => return some t.quoted
      | .object object =>
        if around.contains object then misuse "circular reference"
        else if ← isList d then
          let n ← machine.lengthOf d
          let items ← (List.range n).mapM fun i => do
            let item ← machine.read d (keyAt i)
            return (← printAt depth (object :: around) (keyAt i) item).getD "null"
          return some ("[" ++ ",".intercalate items ++ "]")
        else
          let keys := (← entity object).shownKeys
          let fields ← keys.mapM fun key => do
            let value ← machine.read d key
            return (← printAt depth (object :: around) key value).map fun text =>
              key.quoted ++ ":" ++ text
          return some ("\x7b" ++ ",".intercalate (fields.filterMap id) ++ "\x7d")

/-- The text of a value as data, if it has one. -/
def print (d : Datum) : Act Datum := do
  match ← machine.printAt dataDepth [] (.whole "") d with
  | none => return .undefined
  | some text => return .string text

end ScriptBridge.Script.Machine
