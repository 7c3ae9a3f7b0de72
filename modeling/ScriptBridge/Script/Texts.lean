import ScriptBridge.Script.Lists

/-!
# Functions of texts, numbers and errors

What texts can do, which is also open to whatever has a text, and how numbers, truth values and
errors show themselves.
-/

namespace ScriptBridge.Script.Machine

variable (machine : Machine)

open Act

/-- The text of a receiver. -/
def receiverText (receiver : Datum) : Act Text := do
  if receiver.isNothing then misuse "null or undefined are forbidden" else machine.toText receiver

/-- The value that a receiver is or is made of, if it passes a test. -/
def valueOfReceiver (receiver : Datum) (test : Datum → Bool) (text : String) : Act Datum := do
  let d ← match receiver with
    | .object id => do
      match (← entity id).kind with
      | .boxed d => pure d
      | _ => pure receiver
    | d => pure d
  if test d then return d else misuse text

/-- Whether a value is a text. -/
def isText : Datum → Bool
  | .text _ => true
  | _ => false

/-- Whether a value is a number. -/
def isNumber : Datum → Bool
  | .number _ => true
  | _ => false

/-- Whether a value is a truth value. -/
def isBool : Datum → Bool
  | .bool _ => true
  | _ => false

/-- The unit at a position that an argument gives. -/
def unitAt? (text : Text) (d : Datum) : Act (Option Nat) := do
  let n := Numeral.wholePart (← machine.toNumber d)
  if n < 0 then return none else return text.units[n.toNat]?

/-- The first position of a part, from a position on. -/
def positionOfPart? (text part : Text) (start : Nat) : Option Nat :=
  Text.positionFrom? part.units start (text.units.drop start)

/-- The last position of a part, up to a position that may be given. -/
def lastPositionOf (text part : Text) (d : Datum) : Act (Option Nat) := do
  let f ← machine.toNumber d
  let units := text.units
  let stop := if f.isNaN then units.length else positionIn units.length (if f < 0 then 0 else f)
  return Text.lastPositionFrom? part.units 0 (units.take (stop + part.units.length))

/-- The pieces of a text between the places of a part. -/
def pieces (text : Text) (part limit : Datum) : Act Datum := do
  let limit ← match limit with
    | .undefined => pure 0xFFFFFFFF
    | d => do pure (Numeral.unsigned32 (← machine.toNumber d)).toNat
  match part with
  | .undefined => addList ([Datum.text text].take limit)
  | part =>
    let part ← machine.toText part
    addList (((text.splitAt part).map Datum.text).take limit)

/-- Texts put together. -/
def concatTexts (text : Text) (args : List Datum) : Act Datum := do
  let texts ← args.mapM machine.toText
  return .text (texts.foldl (· ++ ·) text)

/-- The text of an error. -/
def showError (receiver : Datum) : Act Datum := do
  match receiver with
  | .object _ =>
    let name ← machine.read receiver (.whole "name")
    let name ← match name with
      | .undefined => pure (Text.whole "Error")
      | d => machine.toText d
    let message ← machine.read receiver (.whole "message")
    let message ← match message with
      | .undefined => pure (Text.whole "")
      | d => machine.toText d
    if name.isEmpty then return .text message
    else if message.isEmpty then return .text name
    else return .text (name ++ Text.whole ": " ++ message)
  | _ => misuse "not an object"

/-- What the functions of texts do, given the text of the receiver. -/
def callOfText (b : Builtin) (text : Text) (args : List Datum) : Act (Option Datum) := do
  let first := argument args 0
  let second := argument args 1
  match b with
  | .charAt => do
    match ← machine.unitAt? text first with
    | some n => return some (.text (Text.ofUnits [n]))
    | none => return some (.string "")
  | .charCodeAt => do
    match ← machine.unitAt? text first with
    | some n => return some (.ofNat n)
    | none => return some (.number Numeral.notANumber)
  | .indexOfText => do
    let part ← machine.toText first
    let start := positionIn text.units.length (max 0 (← machine.toNumber second))
    return some (positionDatum (positionOfPart? text part start))
  | .includesText => do
    let part ← machine.toText first
    let start := positionIn text.units.length (max 0 (← machine.toNumber second))
    return some (.bool (positionOfPart? text part start).isSome)
  | .lastIndexOfText => do
    let part ← machine.toText first
    return some (positionDatum (← machine.lastPositionOf text part second))
  | .sliceText => do
    let length := text.units.length
    let start ← machine.positionOf length first 0
    let stop ← machine.positionOf length second length
    return some (.text (text.slice start stop))
  | .splitText => machine.pieces text first second
  | .concatText => machine.concatTexts text args
  | _ => return none

/-- What the functions of texts, numbers, truth values and errors do. -/
def callOfTexts (b : Builtin) (receiver : Datum) (args : List Datum) : Act (Option Datum) := do
  match b with
  | .showText => valueOfReceiver receiver isText "not a string"
  | .numberItself => valueOfReceiver receiver isNumber "not a number"
  | .boolItself => valueOfReceiver receiver isBool "not a boolean"
  | .showNumber => do
    let d ← valueOfReceiver receiver isNumber "not a number"
    let base ← match argument args 0 with
      | .undefined => pure 10.0
      | d => machine.toNumber d
    if base == 10 then return some (.text d.plainText)
    else fail .rangeError "radix must be between 2 and 36"
  | .showBool => do
    let d ← valueOfReceiver receiver isBool "not a boolean"
    return some (.text d.plainText)
  | .showError => machine.showError receiver
  | .isNotANumber => do return some (.bool (← machine.toNumber (argument args 0)).isNaN)
  | .charAt | .charCodeAt | .indexOfText | .includesText | .lastIndexOfText | .sliceText
  | .splitText | .concatText => do
    machine.callOfText b (← machine.receiverText receiver) args
  | _ => return none

end ScriptBridge.Script.Machine
