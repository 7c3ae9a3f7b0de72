import ScriptBridge.Script.Printing
import ScriptBridge.Script.Texts

/-!
# The functions of a realm

What the functions do that a realm has from the start: those of objects, lists and texts, those of
functions themselves, those that make something, and those that post messages. `Builtin.perform`
and `Builtin.produce` are the meaning of all.

A message has a name and the text of a body, which may be missing; anything else is refused.
-/

namespace ScriptBridge.Script

/-! ## Functions that make something -/

/-- Whether a function can make something, following so many bound ones. -/
def Realm.makes (realm : Realm) : Nat → ObjectId → Bool
  | 0, _ => false
  | steps + 1, id =>
    match (realm.entity id).function? with
    | some (.closure code _ _) => ¬ code.isArrow
    | some (.bound (.object target) _ _) => realm.makes steps target
    | some (.builtin b) =>
      match b with
      | .makeObject | .makeFunction | .makeList | .makeText | .makeNumber | .makeBool
      | .makeOctets | .makeError _ => true
      | _ => false
    | _ => false

namespace Machine

variable (machine : Machine)

open Act

/-! ## Of functions -/

/-- The text of a function: its code, or that it has none to show. -/
def showFunction (receiver : Datum) : Act Datum := do
  match receiver with
  | .object id =>
    match (← entity id).function? with
    | none => misuse "not a function"
    | some (.closure code _ _) => return .string code.source
    | some _ =>
      let name ← match ← machine.read receiver (.whole "name") with
        | .undefined => pure (Text.whole "")
        | d => machine.toText d
      return .text (Text.whole "function " ++ name ++ Text.whole "() \x7b\n    [native code]\n\x7d")
  | _ => misuse "not a function"

/-- Calls a function with a receiver and the items of a list. -/
def applyTo (function receiver items : Datum) : Act Datum := do
  if ¬ (← isFunction function) then misuse "not a function"
  else
    match items with
    | .undefined | .null => machine.call function receiver []
    | .object _ => do machine.call function receiver (← machine.itemsOf items)
    | _ => misuse "not a object"

/-- How many arguments a bound function still wants. -/
def remainingLength (function : Datum) (given : Nat) : Act Nat := do
  match function with
  | .object id =>
    if ((← entity id).own? (.whole "length")).isNone then return 0
    else
      match ← machine.read function (.whole "length") with
      | .number f => return (Numeral.wholePart f - given).toNat
      | _ => return 0
  | _ => return 0

/-- A function that calls another one with a receiver and first arguments. -/
def bindTo (function receiver : Datum) (args : List Datum) : Act Datum := do
  if ¬ (← isFunction function) then misuse "not a function"
  else
    let length ← machine.remainingLength function args.length
    let name ← match ← machine.read function (.whole "name") with
      | .text t => pure t
      | _ => pure (Text.whole "")
    return .object (← add {
      kind := .function (.bound function receiver args)
      parent := some Realm.functionParent
      members := #[(.whole "length", .note (.ofNat length)),
        (.whole "name", .note (.text (Text.whole "bound " ++ name)))] })

/-! ## That make something -/

/-- A list of a length, or of some items. -/
def makeList (args : List Datum) : Act Datum := do
  match args with
  | [.number f] =>
    let n := Numeral.unsigned32 f
    if Float.ofInt n == f ∧ n.toNat ≤ copyLimit then
      addList (List.replicate n.toNat .undefined)
    else fail .rangeError "invalid array length"
  | args => addList args

/-- Octets of a list, or as many as a number says. -/
def makeOctets (d : Datum) : Act Datum := do
  let octets ← match d with
    | .object id => do
      match (← entity id).kind with
      | .octets octets => pure octets
      | _ =>
        let items ← machine.itemsOf d
        let octets ← items.mapM fun item => do return Numeral.octet (← machine.toNumber item)
        pure octets.toArray
    | d => do
      let n := Numeral.wholePart (← machine.toNumber d)
      if n < 0 ∨ copyLimit < n.toNat then fail .rangeError "invalid array length"
      else pure (Array.replicate n.toNat 0)
  return .object (← add { kind := .octets octets, parent := some Realm.octetsParent })

/-- An error with a text. -/
def makeErrorOf (kind : ErrorKind) (d : Datum) : Act Datum := do
  let text : Array (Text × Member) ← match d with
    | .undefined => pure #[]
    | d => do pure #[(.whole "message", .hidden (.text (← machine.toText d)))]
  return .object (← add {
    kind := .error
    parent := some (Realm.errorParent kind)
    members := text.push (.whole "stack", .hidden (.string "")) })

/-- A function of parameters and statements, all of them given as texts. -/
def makeFunctionOf (args : List Datum) : Act Datum := do
  let texts ← args.mapM machine.toText
  let whole := texts.map fun text => text.whole?.getD "\\"
  machine.compile whole.dropLast (whole.getLast?.getD "")

/-- The text that arguments give. -/
def textOfArguments (args : List Datum) : Act Datum := do
  match args with
  | [] => return .string ""
  | d :: _ => return .text (← machine.toText d)

/-- The number that arguments give. -/
def numberOfArguments (args : List Datum) : Act Datum := do
  match args with
  | [] => return .ofNat 0
  | d :: _ => return .number (← machine.toNumber d)

/-- The object that an argument gives: a new one for nothing. -/
def objectOfArgument (d : Datum) : Act Datum := do
  if d.isNothing then return .object (← addRecord []) else return .object (← toObject d)

/-- What the functions that make something do. -/
def callOfMakers (b : Builtin) (args : List Datum) : Act (Option Datum) := do
  match b with
  | .makeObject => objectOfArgument (argument args 0)
  | .makeFunction => machine.makeFunctionOf args
  | .makeList => makeList args
  | .makeText => machine.textOfArguments args
  | .makeNumber => machine.numberOfArguments args
  | .makeBool => return some (.bool (argument args 0).isTruthy)
  | .makeOctets => misuse "must be called with new"
  | .makeError kind => machine.makeErrorOf kind (argument args 0)
  | _ => return none

/-! ## Messages -/

/-- The name of a message. -/
def messageName (d : Datum) : Act String := do
  match d with
  | .text (.whole name) => return name
  | _ => misuse "the name of a message is a string"

/-- The text of the body of a message. -/
def messageBody (d : Datum) : Act (Option String) := do
  match d with
  | .undefined | .null => return none
  | .text (.whole body) => return some body
  | _ => misuse "the body of a message is a string"

/-- What the functions that post messages do. -/
def callOfMessages (b : Builtin) (args : List Datum) : Act (Option Datum) := do
  match b, args with
  | .post, name :: body :: _ => do
    let name ← messageName name
    let body ← messageBody body
    Act.post name body
    return some .undefined
  | .ask, name :: body :: _ => do
    let name ← messageName name
    let body ← messageBody body
    return some (.string (← Act.ask name body))
  | .post, _ | .ask, _ => misuse "a message has a name and a body"
  | _, _ => return none

/-! ## Paths -/

/-- Follows the parts of a path at some positions; nothing if a part is missing and none is made. -/
def followParts (parts : Datum) (makes : Bool) : Datum → List Nat → Act (Option Datum)
  | place, [] => return some place
  | place, i :: rest => do
    let part ← machine.toText (← machine.read parts (keyAt i))
    let next ← machine.read place part
    if ¬ next.isNothing then followParts parts makes next rest
    else if ¬ makes then return none
    else
      let fresh : Datum := .object (← addRecord [])
      machine.write true place part fresh
      followParts parts makes fresh rest

/-- Follows a path down from the global object up to its last part: gives the object there and the
last part. Parts that are missing are made, or else the path leads nowhere. -/
def follow (path makes : Datum) : Act Datum := do
  let parts ← machine.callMember path (.whole "split") [.string "."]
  let length ← machine.lengthOf parts
  match ← machine.followParts parts makes.isTruthy (.object Realm.globalObject)
      (List.range (length - 1)) with
  | none => return .undefined
  | some place =>
    let last ← machine.read parts (keyAt (length - 1))
    return .object (← addRecord [(.whole "scope", place), (.whole "key", last)])

/-- What the functions of functions and of everything do. -/
def callOfFunctions (b : Builtin) (receiver : Datum) (args : List Datum) :
    Act (Option Datum) := do
  let first := argument args 0
  match b with
  | .idle => return some .undefined
  | .showFunction => machine.showFunction receiver
  | .call => machine.callFunction receiver first (args.drop 1)
  | .apply => machine.applyTo receiver first (argument args 1)
  | .bind => machine.bindTo receiver first (args.drop 1)
  | .refuse => misuse "invalid property access"
  | .stringify => machine.print first
  | .evaluate => do
    match first with
    | .text (.whole text) => machine.evaluate text
    | .text (.broken _) => fail .syntaxError "invalid text"
    | d => return some d
  | .follow => machine.follow first (argument args 1)
  | _ => return none

end Machine

namespace Builtin

variable (machine : Machine)

open Act Machine

/-- Calls a function with a receiver and arguments. -/
def perform (b : Builtin) (receiver : Datum) (args : List Datum) : Act Datum := do
  if let some d ← machine.callOfFunctions b receiver args then return d
  if let some d ← machine.callOfObjects b receiver args then return d
  if let some d ← machine.callOfLists b receiver args then return d
  if let some d ← machine.callOfTexts b receiver args then return d
  if let some d ← machine.callOfMakers b args then return d
  if let some d ← callOfMessages b args then return d
  misuse "not available"

/-- Makes something by a function. -/
def produce (b : Builtin) (args : List Datum) : Act Datum := do
  match b with
  | .makeText => do return .object (← toObject (← machine.textOfArguments args))
  | .makeNumber => do return .object (← toObject (← machine.numberOfArguments args))
  | .makeBool => do return .object (← toObject (.bool (argument args 0).isTruthy))
  | .makeOctets => machine.makeOctets (argument args 0)
  | b => perform machine b .undefined args

end Builtin

end ScriptBridge.Script
