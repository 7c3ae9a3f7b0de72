import ScriptBridge.Calendar.Instant
import ScriptBridge.Json.Basic

/-!
# Script values

The values that cross between scripts and native code. Besides plain data there are native objects,
which have an identity, and callbacks, which are script functions handed to native code through a
channel. Objects keep their fields in key order, each key once.
-/

namespace ScriptBridge

/-- A native object: which one it is, and the name of its type. -/
structure ObjectRef where
  /-- Distinguishes the object from every other one. -/
  identity : Nat
  /-- The name of the object's type. -/
  typeName : String
  deriving Repr, Inhabited, DecidableEq

/-- Names a channel. -/
abbrev ChannelId := Nat

/-- A script function handed to native code. -/
structure Callback where
  /-- The number under which the script side keeps the function. -/
  id : Nat
  /-- The channel through which it came. -/
  channel : ChannelId
  deriving Repr, Inhabited, DecidableEq

/-- A value that can cross between scripts and native code. -/
inductive Value where
  | undefined
  | null
  | bool (b : Bool)
  | int (n : Int64)
  | float (f : Float)
  | string (s : String)
  | date (t : Instant)
  | bytes (octets : List UInt8)
  | array (items : List Value)
  | object (fields : List (String × Value))
  | native (object : ObjectRef)
  | callback (function : Callback)
  /-- Something of which only a description crosses. -/
  | described (text : String)
  deriving Inhabited

namespace Value

/-! ## Making values -/

/-- An object of fields in any order, the last field of a key counting. -/
def ofFields (fields : List (String × Value)) : Value := .object (Entries.ofList fields)

/-- An unsigned word: an integer if it fits a signed word, else the nearest double. -/
def ofUnsigned (n : Nat) : Value :=
  if fitsWord n then .int (Int64.ofInt n) else .float n.toUInt64.toFloat

/-- A list of values. -/
def ofList {α : Type} (toValue : α → Value) (items : List α) : Value :=
  .array (items.map toValue)

/-- A value that may be missing. -/
def ofOption {α : Type} (toValue : α → Value) : Option α → Value
  | none => .null
  | some a => toValue a

/-- Texts as a value. -/
def ofStrings (items : List String) : Value := ofList .string items

mutual

/-- The value that data stands for. Integers beyond the signed words become doubles. -/
def ofJson : Json → Value
  | .null => .null
  | .bool b => .bool b
  | .int n => if fitsWord n then .int (Int64.ofInt n) else .float n.toNat.toUInt64.toFloat
  | .float f => .float f
  | .string s => .string s
  | .array items => .array (ofJsons items)
  | .object fields => .object (ofJsonFields fields)

/-- The values that items stand for. -/
def ofJsons : List Json → List Value
  | [] => []
  | item :: items => ofJson item :: ofJsons items

/-- The values that fields stand for. -/
def ofJsonFields : List (String × Json) → List (String × Value)
  | [] => []
  | (key, value) :: fields => (key, ofJson value) :: ofJsonFields fields

end

/-- The value of an operand that may be missing. -/
def ofOperand (operand : Option Json) : Value := (operand.map ofJson).getD .undefined

/-- The arguments of an operand: the items of an array, and none for anything else. -/
def argumentsOf : Option Json → List Value
  | some (.array items) => ofJsons items
  | _ => []

/-- Arguments filled up with `undefined`. -/
def padTo (count : Nat) (args : List Value) : List Value :=
  args ++ List.replicate (count - args.length) .undefined

/-! ## Looking at values -/

/-- The text of a string. -/
def string? : Value → Option String
  | .string s => some s
  | _ => none

/-- A truth value. -/
def bool? : Value → Option Bool
  | .bool b => some b
  | _ => none

/-- The word of an integer, or of a whole double: the nearest word where it does not fit. -/
def word? : Value → Option Int64
  | .int n => some n
  | .float f => (Binary64.ofFloat f).whole?.map nearestWord
  | _ => none

/-- The double of a number. -/
def float? : Value → Option Float
  | .int n => some n.toFloat
  | .float f => some f
  | _ => none

/-- The items of an array. -/
def array? : Value → Option (List Value)
  | .array items => some items
  | _ => none

/-- The fields of an object. -/
def object? : Value → Option (List (String × Value))
  | .object fields => some fields
  | _ => none

/-- A native object. -/
def native? : Value → Option ObjectRef
  | .native ref => some ref
  | _ => none

/-- A callback. -/
def callback? : Value → Option Callback
  | .callback function => some function
  | _ => none

/-- Takes a callback out of its place, leaving `undefined`; other values stay. -/
def takeCallback : Value → Option Callback × Value
  | .callback function => (some function, .undefined)
  | value => (none, value)

/-- Whether the value is null or undefined. -/
def isNullish : Value → Bool
  | .null | .undefined => true
  | _ => false

/-- The word for the kind of value, as scripts know it. -/
def kind : Value → String
  | .undefined => "undefined"
  | .null => "null"
  | .bool _ => "boolean"
  | .int _ | .float _ => "number"
  | .string _ => "string"
  | .date _ => "date"
  | .bytes _ => "bytes"
  | .array _ => "array"
  | .object _ => "object"
  | .native _ => "native"
  | .callback _ => "function"
  | .described _ => "opaque"

mutual

/-- The identities of the native objects in a value. -/
def identities : Value → List Nat
  | .native ref => [ref.identity]
  | .array items => itemIdentities items
  | .object fields => fieldIdentities fields
  | _ => []

/-- The identities in items. -/
def itemIdentities : List Value → List Nat
  | [] => []
  | item :: items => identities item ++ itemIdentities items

/-- The identities in fields. -/
def fieldIdentities : List (String × Value) → List Nat
  | [] => []
  | (_, value) :: fields => identities value ++ fieldIdentities fields

end

mutual

/-- Equality of values: doubles compare as numbers, native objects by identity. -/
def equal : Value → Value → Bool
  | .undefined, .undefined => true
  | .null, .null => true
  | .bool a, .bool b => a == b
  | .int a, .int b => a == b
  | .float a, .float b => a == b
  | .string a, .string b => a == b
  | .date a, .date b => a == b
  | .bytes a, .bytes b => a == b
  | .array a, .array b => equals a b
  | .object a, .object b => equalFields a b
  | .native a, .native b => a.identity == b.identity
  | .callback a, .callback b => a == b
  | .described a, .described b => a == b
  | _, _ => false

/-- Item by item. -/
def equals : List Value → List Value → Bool
  | [], [] => true
  | a :: as, b :: bs => equal a b && equals as bs
  | _, _ => false

/-- Field by field. -/
def equalFields : List (String × Value) → List (String × Value) → Bool
  | [], [] => true
  | (k, a) :: as, (l, b) :: bs => k == l && equal a b && equalFields as bs
  | _, _ => false

end

instance : BEq Value := ⟨equal⟩

end Value

end ScriptBridge
